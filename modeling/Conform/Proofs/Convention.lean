import Conform.Convention
import Conform.Proofs.Text.Case

/-! # Names of schemas and of documents

Every name that the convention takes for the schema of a file is that of a
schema, and every schema is a document with a suffix. Which name is found among
several depends on those names only that equal the wanted one up to case.
-/

namespace Conform

namespace FilePath

variable {name : String} {stem tail : List Char}

/-- What stands behind the last dot of a name is read from its end. -/
theorem reverse_takeWhile_eq (hname : name.toList = stem ++ '.' :: tail) (hdot : '.' ∉ tail) :
    (name.toList.reverse.takeWhile (· != '.')).reverse = tail := by
  have hreverse : name.toList.reverse = tail.reverse ++ '.' :: stem.reverse := by
    simp [hname]
  have hkept : ∀ c ∈ tail.reverse, (c != '.') = true := by
    intro c hc
    have hne : c ≠ '.' := fun heq => hdot (heq ▸ List.mem_reverse.mp hc)
    simpa using hne
  rw [hreverse, List.takeWhile_append_of_pos hkept]
  simp

/-- A dot that neither starts nor ends a name splits it if no dot follows. -/
theorem splitSuffix_eq (hname : name.toList = stem ++ '.' :: tail) (hstem : stem ≠ [])
    (htail : tail ≠ []) (hdot : '.' ∉ tail) :
    splitSuffix name = (String.ofList stem, String.ofList ('.' :: tail)) := by
  have hbehind := reverse_takeWhile_eq hname hdot
  have hlength : name.toList.length = stem.length + (tail.length + 1) := by
    rw [hname, List.length_append, List.length_cons]
  have hfront : name.toList.take (name.toList.length - tail.length - 1) = stem := by
    have hcount : name.toList.length - tail.length - 1 = stem.length := by omega
    rw [hcount, hname, List.take_left]
  simp only [splitSuffix, hbehind, hfront]
  rw [if_pos]
  have hless : tail.length < name.toList.length := by omega
  simp [hless, htail, hstem]

/-- Without anything before the last dot there is no suffix. -/
theorem splitSuffix_leading (hname : name.toList = '.' :: tail) (hdot : '.' ∉ tail) :
    splitSuffix name = (name, "") := by
  have hbehind := reverse_takeWhile_eq (hname.trans (List.nil_append _).symm) hdot
  simp only [splitSuffix, hbehind]
  rw [if_neg]
  simp [hname]

/-- A dot in a name splits it at its last one. -/
theorem exists_last_dot (h : '.' ∈ name.toList) :
    ∃ stem tail, name.toList = stem ++ '.' :: tail ∧ '.' ∉ tail := by
  obtain ⟨behind, front, hsplit, hbehind⟩ :=
    List.eq_append_cons_of_mem (List.mem_reverse.mpr h)
  refine ⟨front.reverse, behind.reverse, ?_, by simpa using hbehind⟩
  rw [← List.reverse_reverse name.toList, hsplit]
  simp

/-- A suffix comes from a dot that neither starts nor ends the name. -/
theorem exists_of_splitSuffix (h : (splitSuffix name).2 ≠ "") :
    ∃ stem tail, name.toList = stem ++ '.' :: tail ∧ '.' ∉ tail ∧ stem ≠ [] ∧
      (splitSuffix name).2 = String.ofList ('.' :: tail) := by
  by_cases hdot : '.' ∈ name.toList
  · obtain ⟨stem, tail, hname, htail⟩ := exists_last_dot hdot
    have hstem : stem ≠ [] := by
      rintro rfl
      exact h (by rw [splitSuffix_leading hname htail])
    have hends : tail ≠ [] := by
      rintro rfl
      exact h (by simp [splitSuffix, reverse_takeWhile_eq hname htail])
    exact ⟨stem, tail, hname, htail, hstem, by rw [splitSuffix_eq hname hstem hends htail]⟩
  · -- Without a dot all of the name stands behind the last one.
    have hwhole : name.toList.reverse.takeWhile (· != '.') = name.toList.reverse := by
      rw [← List.append_nil name.toList.reverse, List.takeWhile_append_of_pos]
      · rfl
      · intro c hc
        rw [bne_iff_ne]
        rintro rfl
        exact hdot (List.mem_reverse.mp hc)
    exact absurd (by simp [splitSuffix, hwhole]) h

end FilePath

namespace Convention

/-! ## Names in lower case -/

variable {name other : String}

theorem isSchemaName_congr (h : Text.lower name = Text.lower other) :
    isSchemaName name = isSchemaName other := by
  rw [isSchemaName, isSchemaName, h]

theorem isSchemaName_iff :
    isSchemaName name = true ↔
      ∃ image, Text.lowerFrom [] name.toList = image ++ schemaEnding := by
  rw [isSchemaName, List.isSuffixOf_iff_suffix, Text.toList_lower]
  exact exists_congr fun image => eq_comm

theorem isDocumentName_iff :
    isDocumentName name = true ↔
      ∃ image, Text.lowerFrom [] name.toList = image ++ ".json".toList := by
  rw [isDocumentName, List.isSuffixOf_iff_suffix, Text.toList_lower]
  exact exists_congr fun image => eq_comm

theorem isDocumentName_of_isSchemaName (h : isSchemaName name = true) :
    isDocumentName name = true := by
  obtain ⟨image, himage⟩ := isSchemaName_iff.mp h
  refine isDocumentName_iff.mpr ⟨image ++ "schema".toList, ?_⟩
  rw [himage, List.append_assoc]
  rfl

/-- A name with an ASCII end whose lower-case form is that of a schema. -/
theorem isSchemaName_append {tail : String} (stem : String)
    (hsigma : Text.capitalSigma ∉ tail.toList)
    (htail : schemaEnding <:+
      tail.toList.flatMap (Text.caseImage Text.CaseTable.lowerExpansions Text.lowerPoint)) :
    isSchemaName (stem ++ tail) = true := by
  obtain ⟨image, himage⟩ := Text.lowerFrom_append [] stem.toList tail.toList
  obtain ⟨more, hmore⟩ := htail
  refine isSchemaName_iff.mpr ⟨image ++ more, ?_⟩
  rw [String.toList_append, himage, Text.lowerFrom_eq_flatMap hsigma, ← hmore, List.append_assoc]

/-- The names that the schema of a file may have are names of schemas. -/
theorem isSchemaName_of_mem_candidates {file : FilePath} {wanted : String}
    (hwanted : wanted ∈ candidates file) : isSchemaName wanted = true := by
  rw [candidates, List.mem_cons, List.mem_cons, List.mem_singleton] at hwanted
  rcases hwanted with rfl | rfl | rfl
  · exact isSchemaName_append file.stem (by decide) (by decide)
  · exact isSchemaName_append file.stem (by decide) (by decide)
  · decide

/-! ## Suffixes of documents -/

theorem lowerFrom_dot (before tail : List Char) :
    Text.lowerFrom before ('.' :: tail) = '.' :: Text.lowerFrom ('.' :: before) tail := by
  rw [Text.lowerFrom_cons (by decide)]
  rfl

/-- The last dot of a list splits it in one way. -/
theorem eq_of_append_dot {first second front behind : List Char}
    (h : first ++ '.' :: second = front ++ '.' :: behind) (hsecond : '.' ∉ second)
    (hbehind : '.' ∉ behind) : second = behind := by
  rcases List.append_eq_append_iff.mp h with ⟨more, -, hmore⟩ | ⟨more, -, hmore⟩
  · cases more with
    | nil => exact (List.cons.inj hmore).2
    | cons c rest =>
        obtain ⟨-, hrest⟩ := List.cons.inj hmore
        exact absurd (hrest ▸ List.mem_append_right rest List.mem_cons_self) hsecond
  · cases more with
    | nil => exact (List.cons.inj hmore).2.symm
    | cons c rest =>
        obtain ⟨-, hrest⟩ := List.cons.inj hmore
        exact absurd (hrest ▸ List.mem_append_right rest List.mem_cons_self) hbehind

/-- There is no sigma in the ending of a document, so what stands before it does not matter. -/
theorem lowerFrom_eq_json {before other tail : List Char}
    (h : Text.lowerFrom before tail = "json".toList) :
    Text.lowerFrom other tail = "json".toList := by
  have hsigma : Text.capitalSigma ∉ tail := by
    intro hmem
    have hform := Text.sigma_mem_lowerFrom hmem before
    rw [h] at hform
    exact absurd hform (by decide)
  rw [Text.lowerFrom_eq_flatMap hsigma, ← Text.lowerFrom_eq_flatMap hsigma before, h]

/-- The part of the name of a document from its last dot on is `.json` up to case. -/
theorem exists_suffix_of_isDocumentName (h : isDocumentName name = true) :
    ∃ stem tail, name.toList = stem ++ '.' :: tail ∧ '.' ∉ tail ∧ tail ≠ [] ∧
      Text.lower (String.ofList ('.' :: tail)) = ".json" := by
  obtain ⟨image, himage⟩ := isDocumentName_iff.mp h
  have hlowerDot : '.' ∈ Text.lowerFrom [] name.toList := by
    rw [himage]
    exact List.mem_append_right image (by decide)
  obtain ⟨stem, tail, hname, htail⟩ :=
    FilePath.exists_last_dot (Text.dot_mem_of_mem_lowerFrom hlowerDot)
  -- Lower case neither makes nor takes away dots, so the last dots match, and so does the rest.
  have hlower : Text.lowerFrom ('.' :: (stem.reverse ++ [])) tail = "json".toList := by
    obtain ⟨before, hbefore⟩ := Text.lowerFrom_append [] stem ('.' :: tail)
    rw [hname, hbefore, lowerFrom_dot] at himage
    refine eq_of_append_dot himage (fun hmem => htail ?_) (by decide)
    exact Text.dot_mem_of_mem_lowerFrom hmem
  refine ⟨stem, tail, hname, htail, ?_, ?_⟩
  · intro hnil
    rw [hnil] at hlower
    simp [Text.lowerFrom] at hlower
  · rw [Text.lower, String.toList_ofList, lowerFrom_dot, lowerFrom_eq_json hlower]
    rfl

theorem lower_suffix_of_isDocumentName {file : FilePath}
    (h : isDocumentName file.name = true) (hsuffix : file.suffix ≠ "") :
    Text.lower file.suffix = ".json" := by
  obtain ⟨stem, tail, hname, hdot, htail, hlower⟩ := exists_suffix_of_isDocumentName h
  unfold FilePath.suffix at hsuffix ⊢
  cases stem with
  | nil =>
      rw [FilePath.splitSuffix_leading hname hdot] at hsuffix
      exact absurd rfl hsuffix
  | cons c rest =>
      rw [FilePath.splitSuffix_eq hname (List.cons_ne_nil c rest) htail hdot]
      exact hlower

/-- A name with the suffix of documents is that of a document, whatever stands before. -/
theorem isDocumentName_append {stem tail : List Char} (hname : name.toList = stem ++ '.' :: tail)
    (hlower : Text.lower (String.ofList ('.' :: tail)) = ".json") : isDocumentName name = true := by
  obtain ⟨image, himage⟩ := Text.lowerFrom_append [] stem ('.' :: tail)
  have htail : Text.lowerFrom ['.'] tail = "json".toList := by
    have hlist := congrArg String.toList hlower
    rw [Text.toList_lower, String.toList_ofList, lowerFrom_dot] at hlist
    exact (List.cons.inj hlist).2
  refine isDocumentName_iff.mpr ⟨image, ?_⟩
  rw [hname, himage, lowerFrom_dot, lowerFrom_eq_json htail]
  rfl

/-- The name of a document has its suffix, or is no more than that. -/
theorem isDocumentName_iff_lower {file : FilePath} :
    isDocumentName file.name = true ↔
      Text.lower file.suffix = ".json" ∨ Text.lower file.name = ".json" := by
  constructor
  · intro h
    by_cases hsuffix : file.suffix = ""
    · obtain ⟨stem, tail, hname, hdot, htail, hlower⟩ := exists_suffix_of_isDocumentName h
      cases stem with
      | nil =>
          right
          rwa [← String.ofList_toList (s := file.name), hname]
      | cons c rest =>
          rw [FilePath.suffix, FilePath.splitSuffix_eq hname (List.cons_ne_nil c rest) htail hdot]
            at hsuffix
          exact absurd (congrArg String.toList hsuffix) (by simp)
    · exact Or.inl (lower_suffix_of_isDocumentName h hsuffix)
  · rintro (hlower | hlower)
    · have hsuffix : file.suffix ≠ "" := by
        intro hempty
        rw [hempty] at hlower
        exact absurd hlower (by decide)
      obtain ⟨stem, tail, hname, -, -, heq⟩ := FilePath.exists_of_splitSuffix hsuffix
      exact isDocumentName_append hname (heq ▸ hlower)
    · rw [isDocumentName, hlower]
      decide

/-- A name that is no more than the suffix of documents has no suffix. -/
theorem suffix_eq_empty {file : FilePath} (h : Text.lower file.name = ".json") :
    file.suffix = "" := by
  by_contra hsuffix
  obtain ⟨stem, tail, hname, -, hstem, -⟩ := FilePath.exists_of_splitSuffix hsuffix
  obtain ⟨c, rest, rfl⟩ := List.exists_cons_of_ne_nil hstem
  obtain ⟨first, more, hfirst⟩ := Text.exists_lowerFrom_cons [] c (rest ++ '.' :: tail)
  obtain ⟨image, himage⟩ := Text.lowerFrom_append [c] rest ('.' :: tail)
  -- The dot would come after the first letter, but the only dot of the ending is its first letter.
  have hlist := congrArg String.toList h
  rw [Text.toList_lower, hname, List.cons_append, hfirst, himage, lowerFrom_dot] at hlist
  have hdot : '.' ∈ "json".toList := by
    rw [show "json".toList = _ from (List.cons.inj hlist).2.symm]
    simp
  exact absurd hdot (by decide)

theorem lower_suffix_of_isSchemaName {file : FilePath} (h : isSchemaName file.name = true) :
    Text.lower file.suffix = ".json" := by
  rcases isDocumentName_iff_lower.mp (isDocumentName_of_isSchemaName h) with hsuffix | hwhole
  · exact hsuffix
  · -- The whole name would be `.json` up to case, which is too short for a schema.
    have hschema : isSchemaName file.name = isSchemaName ".json" :=
      isSchemaName_congr (hwhole.trans (by decide))
    rw [hschema] at h
    exact absurd h (by decide)

/-! ## The first name that is found -/

theorem mem_sortNames {names : List String} : name ∈ sortNames names ↔ name ∈ names :=
  (List.mergeSort_perm names _).mem_iff

theorem sortNames_pairwise (names : List String) :
    (sortNames names).Pairwise fun first second => first ≤ second := by
  have htrans : ∀ a b c : String, (!decide (b < a)) = true → (!decide (c < b)) = true →
      (!decide (c < a)) = true := by
    intro a b c hab hbc
    simp only [Bool.not_eq_true', decide_eq_false_iff_not, String.not_lt] at hab hbc ⊢
    exact String.le_trans hab hbc
  have htotal : ∀ a b : String, (!decide (b < a) || !decide (a < b)) = true := by
    intro a b
    simp only [Bool.or_eq_true, Bool.not_eq_true', decide_eq_false_iff_not, String.not_lt]
    exact String.le_total a b
  refine (List.pairwise_mergeSort htrans htotal names).imp ?_
  intro a b hle
  simp only [Bool.not_eq_true', decide_eq_false_iff_not, String.not_lt] at hle
  exact hle

theorem find?_eq_none_iff {names : List String} {wanted : String} :
    find? names wanted = none ↔ ∀ name ∈ names, Text.lower name ≠ Text.lower wanted := by
  simp [find?, List.find?_eq_none, mem_sortNames]

/-- The name that is found is the least one that equals the wanted one up to case. -/
theorem find?_eq_some_iff {names : List String} {wanted : String} :
    find? names wanted = some name ↔
      name ∈ names ∧ Text.lower name = Text.lower wanted ∧
        ∀ other ∈ names, Text.lower other = Text.lower wanted → name ≤ other := by
  have hleast : ∀ {found}, find? names wanted = some found →
      found ∈ names ∧ Text.lower found = Text.lower wanted ∧
        ∀ other ∈ names, Text.lower other = Text.lower wanted → found ≤ other := by
    intro found hfound
    refine ⟨mem_sortNames.mp (List.mem_of_find?_eq_some hfound), ?_, ?_⟩
    · simpa using List.find?_some hfound
    · intro other hother hlower
      obtain ⟨-, before, after, hsplit, hbefore⟩ := List.find?_eq_some_iff_append.mp hfound
      have hsorted := sortNames_pairwise names
      have hmem := mem_sortNames.mpr hother
      rw [hsplit] at hsorted hmem
      -- Before the found name nothing equals the wanted one, and behind it nothing is less.
      rcases List.mem_append.mp hmem with hmem | hmem
      · simpa [hlower] using hbefore other hmem
      · rcases List.mem_cons.mp hmem with rfl | hmem
        · exact String.le_refl other
        · exact (List.pairwise_cons.mp (List.pairwise_append.mp hsorted).2.1).1 other hmem
  constructor
  · exact hleast
  · rintro ⟨hmem, hlower, hle⟩
    cases hfound : find? names wanted with
    | none => exact absurd hlower (find?_eq_none_iff.mp hfound name hmem)
    | some found =>
        obtain ⟨hfoundMem, hfoundLower, hfoundLe⟩ := hleast hfound
        exact congrArg some (String.le_antisymm (hfoundLe name hmem hlower)
          (hle found hfoundMem hfoundLower))

end Convention

end Conform
