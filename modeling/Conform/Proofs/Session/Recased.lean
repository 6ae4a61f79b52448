import Conform.Proofs.Session.Finding

/-! # Directories in another case

The names in a directory may be written with their ASCII letters in another case.
As long as no two of them equal each other up to case, that has no part in which
schema is found: what is found for a file is found again, under its new name.
-/

namespace Conform

/-! ## Candidates -/

namespace FilePath

theorem takeWhile_map_toLower (cs : List Char) :
    (cs.map Char.toLower).takeWhile (· != '.') = (cs.takeWhile (· != '.')).map Char.toLower := by
  have hdot : (· != '.') ∘ Char.toLower = (· != '.') := by
    funext c
    exact Bool.eq_iff_iff.mpr (by simp [Text.toLower_eq_dot_iff])
  rw [List.takeWhile_map, hdot]

/-- Which case the ASCII letters of a name are in has no part in where its suffix starts. -/
theorem splitSuffix_toLower (name : String) :
    splitSuffix name.toLower = ((splitSuffix name).1.toLower, (splitSuffix name).2.toLower) := by
  have hempty : "".toLower = "" := Text.toLower_ofList []
  unfold splitSuffix
  simp only [Text.toList_toLower, ← List.map_reverse, takeWhile_map_toLower, List.length_map,
    ← List.map_take, List.isEmpty_map]
  split
  next =>
    rw [Text.toLower_ofList, Text.toLower_ofList, List.map_cons,
      (Text.toLower_eq_dot_iff _).mpr rfl]
  next => rw [hempty]

end FilePath

namespace Convention

/-- Candidates for files whose names differ in the case of ASCII letters equal each other up to
case, one by one. -/
theorem candidates_toLower {file other : FilePath} (h : file.name.toLower = other.name.toLower) :
    List.Forall₂ (fun wanted candidate => Text.lower wanted = Text.lower candidate)
      (candidates file) (candidates other) := by
  have hstem : file.stem.toLower = other.stem.toLower := by
    have hsplit := congrArg FilePath.splitSuffix h
    rw [FilePath.splitSuffix_toLower, FilePath.splitSuffix_toLower] at hsplit
    exact congrArg Prod.fst hsplit
  have happend : ∀ tail : String,
      Text.lower (file.stem ++ tail) = Text.lower (other.stem ++ tail) := by
    intro tail
    refine Text.lower_congr ?_
    rw [Text.toLower_append, Text.toLower_append, hstem]
  exact .cons (happend _) (.cons (happend _) (.cons rfl .nil))

end Convention

/-! ## Contents -/

namespace Contents

variable {contents other : Contents} {recase : String → String} {wanted candidate : String}

/-- No two names equal each other up to case. -/
def IsDistinct (contents : Contents) : Prop :=
  ∀ first ∈ contents.names, ∀ second ∈ contents.names,
    Text.lower first = Text.lower second → first = second

/-- A directory has what another one has under names whose ASCII letters are in another case. -/
structure Recased (recase : String → String) (contents other : Contents) : Prop where
  toLower_eq : ∀ name ∈ contents.names, (recase name).toLower = name.toLower
  mem_iff : ∀ name, name ∈ other.names ↔ name ∈ contents.names.map recase
  isFile_eq : ∀ name ∈ contents.names, other.isFile (recase name) = contents.isFile name

theorem Recased.lower_eq (h : contents.Recased recase other) {name : String}
    (hname : name ∈ contents.names) : Text.lower (recase name) = Text.lower name :=
  Text.lower_congr (h.toLower_eq name hname)

theorem Recased.find?_eq (h : contents.Recased recase other) (hdistinct : contents.IsDistinct)
    (hwanted : Text.lower wanted = Text.lower candidate) :
    Convention.find? other.names candidate =
      (Convention.find? contents.names wanted).map recase := by
  cases hfind : Convention.find? contents.names wanted with
  | none =>
      refine Convention.find?_eq_none_iff.mpr fun name hname hlower => ?_
      obtain ⟨former, hformer, rfl⟩ := List.mem_map.mp ((h.mem_iff name).mp hname)
      rw [h.lower_eq hformer, ← hwanted] at hlower
      exact Convention.find?_eq_none_iff.mp hfind former hformer hlower
  | some name =>
      obtain ⟨hname, hlower, -⟩ := Convention.find?_eq_some_iff.mp hfind
      have hmem := (h.mem_iff _).mpr (List.mem_map_of_mem hname)
      refine Convention.find?_eq_some_iff.mpr ⟨hmem, ?_, ?_⟩
      · rw [h.lower_eq hname, hlower, hwanted]
      · -- Only one name equals the wanted one up to case, so there is no lesser one.
        intro another hanother hlowerAnother
        obtain ⟨former, hformer, rfl⟩ := List.mem_map.mp ((h.mem_iff another).mp hanother)
        rw [h.lower_eq hformer, ← hwanted, ← hlower] at hlowerAnother
        obtain rfl := hdistinct former hformer name hname hlowerAnother
        exact String.le_refl _

theorem Recased.found_eq (h : contents.Recased recase other) (hdistinct : contents.IsDistinct)
    (hwanted : Text.lower wanted = Text.lower candidate) :
    other.found candidate = (contents.found wanted).map recase := by
  rw [found, found, h.find?_eq hdistinct hwanted]
  cases hfind : Convention.find? contents.names wanted with
  | none => rfl
  | some name =>
      have hkind := h.isFile_eq name (Convention.find?_eq_some_iff.mp hfind).1
      rw [Option.map_some, Option.filter_some, Option.filter_some, hkind]
      cases contents.isFile name <;> rfl

/-- What is chosen is chosen again, under its new name. -/
theorem Recased.chosen_eq (h : contents.Recased recase other) (hdistinct : contents.IsDistinct)
    {wanted candidates : List String}
    (hwanted : List.Forall₂ (fun first second => Text.lower first = Text.lower second) wanted
      candidates) :
    other.chosen candidates = (contents.chosen wanted).map recase := by
  induction hwanted with
  | nil => rfl
  | @cons first second rest others hfirst _ ih =>
      rw [chosen, chosen] at ih ⊢
      rw [List.findSome?_cons, List.findSome?_cons, h.found_eq hdistinct hfirst, ih]
      cases hfound : contents.found first with
      | none => rw [Option.map_none]
      | some name => rw [Option.map_some]

theorem mem_of_chosen {candidates : List String} {name : String}
    (h : contents.chosen candidates = some name) : name ∈ contents.names := by
  obtain ⟨_, _, _, _, hleast, _⟩ := chosen_eq_some_iff.mp h
  exact hleast.among_name.isFile.mem

end Contents

/-! ## The schema of a file -/

namespace Session

variable {w w' : Workspace} {directory : FilePath} {contents other : Contents} {name : String}

/-- In every directory in which no two names equal each other up to case, for everything in it: if
the directory has the same under names whose ASCII letters are in another case, then what is found
is what was found before, under its new name, and nothing is found if nothing was. -/
theorem resolve_recased {recase : String → String} (hdistinct : contents.IsDistinct)
    (hrecased : contents.Recased recase other) (hshows : w.Shows directory contents)
    (hothers : w'.Shows directory other) (hname : name ∈ contents.names) (s t : Session) :
    ∃ found : Option String, (∀ schema ∈ found, schema ∈ contents.names) ∧
      (s.resolve w (directory.child name)).value = .ok (found.map directory.child) ∧
      (t.resolve w' (directory.child (recase name))).value =
        .ok ((found.map recase).map directory.child) := by
  have hschema : Convention.isSchemaName (recase name) = Convention.isSchemaName name :=
    Convention.isSchemaName_congr (hrecased.lower_eq hname)
  cases hisSchema : Convention.isSchemaName name with
  | true =>
      -- The schema of a schema is not looked for.
      rw [hisSchema] at hschema
      refine ⟨none, nofun, ?_, ?_⟩
      · rw [resolve, FilePath.name_child, if_pos hisSchema]
        rfl
      · rw [resolve, FilePath.name_child, if_pos hschema]
        rfl
  | false =>
      rw [hisSchema] at hschema
      have hlower : (directory.child name).name.toLower =
          (directory.child (recase name)).name.toLower := by
        rw [FilePath.name_child, FilePath.name_child, hrecased.toLower_eq name hname]
      have hchosen := hrecased.chosen_eq hdistinct (Convention.candidates_toLower hlower)
      refine ⟨_, fun schema => Contents.mem_of_chosen, resolve_child_eq hisSchema hshows s, ?_⟩
      rw [resolve_child_eq hschema hothers t, hchosen]

open Vigil Vigil.Sample

/-- A directory in which the schema of a file differs from the candidates in case. -/
def mixed : List (String × Tree) :=
  [("aΣ.json", .file []), ("aΣSCHEMA.json", .file []), ("schema.json", .directory [])]

/-- The directory with names in another case. -/
def remixed : List (String × Tree) :=
  [("Schema.JSON", .directory []), ("AΣ.json", .file []), ("aΣschema.Json", .file [])]

/-- The new names. -/
def remix (name : String) : String :=
  if name = "aΣ.json" then "AΣ.json"
  else if name = "aΣSCHEMA.json" then "aΣschema.Json"
  else "Schema.JSON"

/-- A sigma at the end of a word takes the same form whichever case the letter before it is in. -/
theorem resolve_recased_remixed :
    let w := sample.workspace (.directory [("w", .directory mixed)])
    let w' := sample.workspace (.directory [("w", .directory remixed)])
    (Contents.ofEntries mixed).IsDistinct ∧
      (Contents.ofEntries mixed).Recased remix (.ofEntries remixed) ∧
      w.Shows sample.top (.ofEntries mixed) ∧ w'.Shows sample.top (.ofEntries remixed) ∧
      "aΣ.json" ∈ (Contents.ofEntries mixed).names ∧
      (Session.empty.resolve w (sample.top.child "aΣ.json")).value =
        .ok (some (sample.top.child "aΣSCHEMA.json")) ∧
      (Session.empty.resolve w' (sample.top.child "AΣ.json")).value =
        .ok (some (sample.top.child "aΣschema.Json")) := by
  have hdistinct : (Contents.ofEntries mixed).IsDistinct := by
    unfold Contents.IsDistinct
    decide
  have hrecased : (Contents.ofEntries mixed).Recased remix (.ofEntries remixed) := by
    refine ⟨fun name hname => ?_, fun name => ?_, by decide⟩
    · have hlist : ∀ name ∈ (Contents.ofEntries mixed).names,
          (remix name).toList.map Char.toLower = name.toList.map Char.toLower := by decide
      rw [← String.toList_inj, Text.toList_toLower, Text.toList_toLower, hlist name hname]
    · have hperm : (remixed.map (·.1)).Perm ((mixed.map (·.1)).map remix) := by decide
      exact hperm.mem_iff
  have hshows : (sample.workspace (.directory [("w", .directory mixed)])).Shows sample.top
      (.ofEntries mixed) := Contents.shows_ofEntries rfl (by decide)
  have hothers : (sample.workspace (.directory [("w", .directory remixed)])).Shows sample.top
      (.ofEntries remixed) := Contents.shows_ofEntries rfl (by decide)
  have hname : "aΣ.json" ∈ (Contents.ofEntries mixed).names := by decide
  have hchosen : (Contents.ofEntries mixed).chosen
      (Convention.candidates (sample.top.child "aΣ.json")) = some "aΣSCHEMA.json" := by
    have hcandidates : Convention.candidates (sample.top.child "aΣ.json") =
        [] ++ "aΣSchema.json" :: ["aΣ.schema.json", "schema.json"] := by decide
    exact Contents.chosen_of_least hcandidates (by decide) (by decide) (by decide) (by decide)
      (by decide)
  have hnot : Convention.isSchemaName "aΣ.json" = false := by decide
  have hfirst := resolve_child_eq hnot hshows Session.empty
  obtain ⟨found, -, hvalue, hother⟩ :=
    resolve_recased hdistinct hrecased hshows hothers hname Session.empty Session.empty
  rw [hchosen, hvalue] at hfirst
  obtain ⟨schema, rfl, hschema⟩ := Option.map_eq_some_iff.mp (Except.ok.inj hfirst)
  obtain rfl : schema = "aΣSCHEMA.json" := by
    have hnames := congrArg FilePath.name hschema
    rwa [FilePath.name_child, FilePath.name_child] at hnames
  exact ⟨hdistinct, hrecased, hshows, hothers, hname, hvalue, hother⟩

end Session

end Conform
