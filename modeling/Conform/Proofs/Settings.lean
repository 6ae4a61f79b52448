import Conform.Proofs.Assembly
import Conform.Proofs.Files.Spelling
import Conform.Proofs.Suffixes

/-! # Reading back a list of providers

White space may stand around the items of a list, and around the first equals sign of
an item that is an entry. None of it is read, and neither are blank items. So a list
gives back the entries that it was written for, unless one of them has white space or
a separator where it would be lost.
-/

namespace Conform

namespace Text

/-- A string holds nothing but white space. -/
def IsSpace (s : String) : Prop := ∀ c ∈ s.toList, isBlank c.toNat = true

/-- No white space stands around a string. -/
structure IsTrimmed (s : String) : Prop where
  head : ∀ c ∈ s.toList.head?, isBlank c.toNat = false
  last : ∀ c ∈ s.toList.getLast?, isBlank c.toNat = false

instance (s : String) : Decidable (IsSpace s) :=
  decidable_of_iff ((s.toList.all fun c => isBlank c.toNat) = true) List.all_eq_true

instance (s : String) : Decidable (IsTrimmed s) :=
  decidable_of_iff
    ((s.toList.head?.all fun c => !isBlank c.toNat) = true ∧
      (s.toList.getLast?.all fun c => !isBlank c.toNat) = true)
    ⟨fun h => ⟨by simpa [Option.all_eq_true] using h.1, by simpa [Option.all_eq_true] using h.2⟩,
      fun h => ⟨by simpa [Option.all_eq_true] using h.head,
        by simpa [Option.all_eq_true] using h.last⟩⟩

variable {s : String}

theorem IsSpace.notMem {c : Char} (h : IsSpace s) (hc : isBlank c.toNat = false) :
    c ∉ s.toList := by
  intro hmem
  rw [h c hmem] at hc
  cases hc

theorem dropWhile_isBlank_eq_self {cs : List Char}
    (h : ∀ c ∈ cs.head?, isBlank c.toNat = false) :
    cs.dropWhile (fun c => isBlank c.toNat) = cs := by
  cases cs with
  | nil => rfl
  | cons c rest => exact List.dropWhile_cons_of_neg (by simp [h c rfl])

/-- White space around a string is stripped, and nothing of a string without any. -/
theorem strip_surrounded {left right : String} (hleft : IsSpace left) (hright : IsSpace right)
    (hs : IsTrimmed s) : strip (left ++ s ++ right) = s := by
  have hreversed : ∀ c ∈ right.toList.reverse, isBlank c.toNat = true := fun c hc =>
    hright c (List.mem_reverse.mp hc)
  rw [strip, String.toList_append, String.toList_append, List.append_assoc,
    List.dropWhile_append_of_pos hleft]
  by_cases hnil : s.toList = []
  · obtain rfl := String.toList_eq_nil_iff.mp hnil
    have hnone : right.toList.dropWhile (fun c => isBlank c.toNat) = [] :=
      List.dropWhile_eq_nil_iff.mpr hright
    simp [hnone]
  · have hhead : ∀ c ∈ (s.toList ++ right.toList).head?, isBlank c.toNat = false := by
      rw [List.head?_append_of_ne_nil _ hnil]
      exact hs.head
    rw [dropWhile_isBlank_eq_self hhead, List.reverse_append,
      List.dropWhile_append_of_pos hreversed,
      dropWhile_isBlank_eq_self (by simpa using hs.last), List.reverse_reverse,
      String.ofList_toList]

theorem strip_eq_empty_iff : strip s = "" ↔ IsSpace s := by
  constructor
  · intro h c hc
    by_contra hnot
    have hmem := mem_strip hc (Bool.eq_false_iff.mpr hnot)
    rw [h] at hmem
    simp at hmem
  · intro h
    by_contra hne
    obtain ⟨c, hc, hblank⟩ := exists_of_strip_ne_empty hne
    exact h.notMem hblank hc

/-- A text is cut at the first of its separators. -/
theorem cut?_append_cons {α : Type} [DecidableEq α] {separator : α} {head : List α}
    (h : separator ∉ head) (tail : List α) :
    cut? separator (head ++ separator :: tail) = some (head, tail) := by
  induction head with
  | nil => simp [cut?]
  | cons c rest ih =>
      obtain ⟨hne, hrest⟩ := List.ne_and_not_mem_of_not_mem_cons h
      rw [List.cons_append, cut?, if_neg (Ne.symm hne), ih hrest]
      rfl

theorem cut?_eq_none_iff {α : Type} [DecidableEq α] {separator : α} {cs : List α} :
    cut? separator cs = none ↔ separator ∉ cs := by
  induction cs with
  | nil => simp [cut?]
  | cons c rest ih =>
      by_cases h : c = separator
      · simp [cut?, h]
      · simp [cut?, h, ih, Ne.symm h]

end Text

namespace Settings

/-! ## Entries -/

/-- Nothing of an entry is lost when it is written with a comma behind it. -/
structure IsPlainEntry (entry : String × String) : Prop where
  suffix_trimmed : Text.IsTrimmed entry.1
  path_trimmed : Text.IsTrimmed entry.2
  suffix_full : ¬Text.IsSpace entry.1
  path_full : ¬Text.IsSpace entry.2
  suffix_comma : ',' ∉ entry.1.toList
  path_comma : ',' ∉ entry.2.toList
  suffix_equals : '=' ∉ entry.1.toList

/-- An item writes an entry: white space may stand around its two sides. -/
def Writes (item : String) (entry : String × String) : Prop :=
  ∃ first second third last, Text.IsSpace first ∧ Text.IsSpace second ∧ Text.IsSpace third ∧
    Text.IsSpace last ∧
    item = first ++ (entry.1 ++ second ++ "=" ++ third ++ entry.2) ++ last

/-- Items write entries: each of them writes the next entry, or is blank. -/
inductive WritesAll : List String → List (String × String) → Prop
  | nil : WritesAll [] []
  | blank {item items entries} (hitem : Text.IsSpace item) (hitems : WritesAll items entries) :
      WritesAll (item :: items) entries
  | entry {item entry items entries} (hitem : Writes item entry)
      (hitems : WritesAll items entries) : WritesAll (item :: items) (entry :: entries)

/-- A text is no entry: it has no equals sign, or one of the sides of its first one is blank. -/
def IsMalformed (spec : String) : Prop :=
  '=' ∉ spec.toList ∨ ∃ suffix path, spec = suffix ++ "=" ++ path ∧ '=' ∉ suffix.toList ∧
    (Text.IsSpace suffix ∨ Text.IsSpace path)

variable {item spec suffix path : String} {entry : String × String}

theorem cut?_entry (h : '=' ∉ suffix.toList) (path : String) :
    Text.cut? '=' (suffix ++ "=" ++ path).toList = some (suffix.toList, path.toList) := by
  rw [String.append_assoc, String.toList_append, String.toList_append]
  exact Text.cut?_append_cons h path.toList

theorem parseSpec_entry (h : '=' ∉ suffix.toList) (path : String) :
    parseSpec (suffix ++ "=" ++ path) =
      if Text.strip suffix = "" ∨ Text.strip path = "" then .error ⟨suffix ++ "=" ++ path⟩
      else .ok (Text.strip suffix, Text.strip path) := by
  rw [parseSpec, cut?_entry h]
  simp

/-- A text is cut in one way, so whether it is no entry shows at its first equals sign. -/
theorem isMalformed_entry_iff (h : '=' ∉ suffix.toList) :
    IsMalformed (suffix ++ "=" ++ path) ↔ Text.IsSpace suffix ∨ Text.IsSpace path := by
  constructor
  · rintro (hnot | ⟨head, tail, hspec, hhead, hblank⟩)
    · simp at hnot
    · have hcut := cut?_entry h path
      rw [hspec, cut?_entry hhead tail] at hcut
      obtain ⟨hsuffix, hpath⟩ := Prod.mk.inj (Option.some.inj hcut)
      rwa [String.toList_injective hsuffix, String.toList_injective hpath] at hblank
  · exact fun hblank => Or.inr ⟨suffix, path, rfl, h, hblank⟩

theorem exists_parseSpec_eq_error_iff :
    (∃ fault, parseSpec spec = .error fault) ↔ IsMalformed spec := by
  by_cases hsign : '=' ∈ spec.toList
  · obtain ⟨head, tail, hspec, hhead⟩ := List.eq_append_cons_of_mem hsign
    obtain rfl : spec = String.ofList head ++ "=" ++ String.ofList tail :=
      String.toList_injective (by simp [hspec])
    have hsuffix : '=' ∉ (String.ofList head).toList := by simpa using hhead
    rw [isMalformed_entry_iff hsuffix, parseSpec_entry hsuffix]
    simp only [Text.strip_eq_empty_iff]
    split <;> simp_all
  · have hcut : Text.cut? '=' spec.toList = none := Text.cut?_eq_none_iff.mpr hsign
    simp [parseSpec, hcut, IsMalformed, hsign]

/-- Reading entries fails exactly if one of them is none. -/
theorem exists_parseSpecsInto_eq_error_iff {known : List (String × String)} {specs : List String} :
    (∃ fault, parseSpecsInto known specs = .error fault) ↔ ∃ spec ∈ specs, IsMalformed spec := by
  induction specs generalizing known with
  | nil => simp [parseSpecsInto]
  | cons spec rest ih =>
      rw [List.exists_mem_cons_iff, ← exists_parseSpec_eq_error_iff, parseSpecsInto]
      cases hspec : parseSpec spec with
      | error fault => simp
      | ok entry => simp [ih]

/-- Entries that are read one after the other are put one after the other. -/
theorem parseSpecsInto_eq {known entries : List (String × String)} {specs : List String}
    (h : List.Forall₂ (fun spec entry => parseSpec spec = .ok entry) specs entries) :
    parseSpecsInto known specs = .ok (Entries.putAll known entries) := by
  induction h generalizing known with
  | nil => rfl
  | cons hspec _ ih =>
      rw [parseSpecsInto, hspec]
      exact ih

/-! ## Lists -/

theorem IsPlainEntry.isTrimmed (h : IsPlainEntry entry) {second third : String} :
    Text.IsTrimmed (entry.1 ++ second ++ "=" ++ third ++ entry.2) := by
  have hsuffix : entry.1.toList ≠ [] := fun hnil => h.suffix_full (by simp [Text.IsSpace, hnil])
  have hpath : entry.2.toList ≠ [] := fun hnil => h.path_full (by simp [Text.IsSpace, hnil])
  constructor
  · simpa [List.append_assoc, List.head?_append_of_ne_nil _ hsuffix] using h.suffix_trimmed.head
  · rw [String.toList_append, List.getLast?_append_of_ne_nil _ hpath]
    exact h.path_trimmed.last

/-- An entry is read back from an item that writes it. -/
theorem Writes.parseSpec_strip (hitem : Writes item entry) (h : IsPlainEntry entry) :
    parseSpec (Text.strip item) = .ok entry := by
  obtain ⟨first, second, third, last, hfirst, hsecond, hthird, hlast, rfl⟩ := hitem
  have hnone : Text.IsSpace "" := by simp [Text.IsSpace]
  have hsuffix : Text.strip (entry.1 ++ second) = entry.1 := by
    simpa using Text.strip_surrounded hnone hsecond h.suffix_trimmed
  have hpath : Text.strip (third ++ entry.2) = entry.2 := by
    simpa using Text.strip_surrounded hthird hnone h.path_trimmed
  have hequals : '=' ∉ (entry.1 ++ second).toList := by
    simpa [h.suffix_equals] using hsecond.notMem (by decide)
  have hfull : ¬(entry.1 = "" ∨ entry.2 = "") := by
    rintro (hnil | hnil)
    · exact h.suffix_full (by simp [Text.IsSpace, hnil])
    · exact h.path_full (by simp [Text.IsSpace, hnil])
  rw [Text.strip_surrounded hfirst hlast h.isTrimmed, String.append_assoc, parseSpec_entry hequals,
    hsuffix, hpath, if_neg hfull]

theorem Writes.comma_notMem (hitem : Writes item entry) (h : IsPlainEntry entry) :
    ',' ∉ item.toList := by
  obtain ⟨first, second, third, last, hfirst, hsecond, hthird, hlast, rfl⟩ := hitem
  have hspace : ∀ {s : String}, Text.IsSpace s → ',' ∉ s.toList := fun hs => hs.notMem (by decide)
  simp [h.suffix_comma, h.path_comma, hspace hfirst, hspace hsecond, hspace hthird, hspace hlast]

theorem splitList_intercalate {items : List String} (h : ∀ item ∈ items, ',' ∉ item.toList) :
    splitList (",".intercalate items) =
      (items.map Text.strip).filter fun item => !item.isEmpty := by
  rw [splitList, String.toList_intercalate]
  cases items with
  | nil => rfl
  | cons item rest =>
      have hrest : ∀ other ∈ rest.map String.toList, ',' ∉ other := by
        intro other hother
        obtain ⟨item, hitem, rfl⟩ := List.mem_map.mp hother
        exact h item (List.mem_cons_of_mem _ hitem)
      have hcomma : ",".toList = [','] := rfl
      rw [List.map_cons, hcomma, intercalate_cons_eq,
        Text.splitOn_append_flatMap (h item List.mem_cons_self) hrest, ← List.map_cons,
        List.map_map]
      simp [Function.comp_def]

variable {items : List String} {entries : List (String × String)}

theorem WritesAll.comma_notMem (h : WritesAll items entries)
    (hplain : ∀ entry ∈ entries, IsPlainEntry entry) : ∀ item ∈ items, ',' ∉ item.toList := by
  induction h with
  | nil => simp
  | blank hitem _ ih =>
      exact List.forall_mem_cons.mpr ⟨hitem.notMem (by decide), ih hplain⟩
  | entry hitem _ ih =>
      obtain ⟨hentry, hentries⟩ := List.forall_mem_cons.mp hplain
      exact List.forall_mem_cons.mpr ⟨hitem.comma_notMem hentry, ih hentries⟩

/-- Once blank items are left out, each item is read as the entry that it writes. -/
theorem WritesAll.parseSpec_strip (h : WritesAll items entries)
    (hplain : ∀ entry ∈ entries, IsPlainEntry entry) :
    List.Forall₂ (fun spec entry => parseSpec spec = .ok entry)
      ((items.map Text.strip).filter fun item => !item.isEmpty) entries := by
  induction h with
  | nil => exact .nil
  | blank hitem _ ih => simpa [Text.strip_eq_empty_iff.mpr hitem] using ih hplain
  | @entry item entry _ _ hitem _ ih =>
      obtain ⟨hentry, hentries⟩ := List.forall_mem_cons.mp hplain
      have hread := hitem.parseSpec_strip hentry
      have hfull : Text.strip item ≠ "" := by
        intro hnone
        rw [hnone] at hread
        cases hread
      rw [List.map_cons, List.filter_cons_of_pos (by simpa using hfull)]
      exact .cons hread (ih hentries)

theorem WritesAll.parseSpecs_eq (h : WritesAll items entries)
    (hplain : ∀ entry ∈ entries, IsPlainEntry entry) (hdistinct : Entries.Distinct entries) :
    parseSpecs (splitList (",".intercalate items)) = .ok entries := by
  rw [splitList_intercalate (h.comma_notMem hplain), parseSpecs,
    parseSpecsInto_eq (h.parseSpec_strip hplain)]
  exact congrArg Except.ok (Entries.putAll_eq_append hdistinct)

/-- The settings have the providers that their variable lists. -/
theorem ofEnvironment_of_lookup {environment : List (String × String)} {value : String}
    (hvalue : environment.lookup providersVariable = some value)
    (hentries : parseSpecs (splitList value) = .ok entries) :
    ∃ settings, ofEnvironment environment = .ok settings ∧ settings.providers = entries := by
  unfold ofEnvironment
  dsimp only
  rw [← providersVariable, hvalue, Option.getD_some, hentries]
  exact ⟨_, rfl, rfl⟩

/-- Entries that are written to the variable of the providers, with white space and blank items as
one likes, are the providers of the settings, in their order. And a list of entries is refused
exactly if one of them has no equals sign, or has nothing on one side of its first one. -/
theorem ofEnvironment_written :
    (∀ (environment entries : List (String × String)) (items : List String),
      (∀ entry ∈ entries, IsPlainEntry entry) → Entries.Distinct entries →
      WritesAll items entries →
      environment.lookup providersVariable = some (",".intercalate items) →
      ∃ settings, ofEnvironment environment = .ok settings ∧ settings.providers = entries) ∧
    ∀ specs, (∃ fault, parseSpecs specs = .error fault) ↔ ∃ spec ∈ specs, IsMalformed spec := by
  refine ⟨?_, fun specs => exists_parseSpecsInto_eq_error_iff⟩
  intro environment entries items hplain hdistinct hwritten hvalue
  exact ofEnvironment_of_lookup hvalue (hwritten.parseSpecs_eq hplain hdistinct)

/-- A path with an equals sign and a suffix with a space are read back, without the white space
around them and without the blank items. -/
theorem ofEnvironment_written_loosely :
    let entries := [(".conf", "a=b.json"), ("x y", "/s.json")]
    let items := ["", "\u3000.conf\t= a=b.json ", " \n", "x y=/s.json"]
    let environment := [("HOME", "/"), (providersVariable, ",".intercalate items)]
    (∀ entry ∈ entries, IsPlainEntry entry) ∧ Entries.Distinct entries ∧
      WritesAll items entries ∧
      ∃ settings, ofEnvironment environment = .ok settings ∧ settings.providers = entries := by
  intro entries items environment
  have hplain : ∀ entry ∈ entries, IsPlainEntry entry := List.forall_mem_cons.mpr
    ⟨⟨by decide, by decide, by decide, by decide, by decide, by decide, by decide⟩,
      List.forall_mem_singleton.mpr
        ⟨by decide, by decide, by decide, by decide, by decide, by decide, by decide⟩⟩
  have hfirst : Writes "\u3000.conf\t= a=b.json " (".conf", "a=b.json") :=
    ⟨"\u3000", "\t", " ", " ", by decide, by decide, by decide, by decide, rfl⟩
  have hsecond : Writes "x y=/s.json" ("x y", "/s.json") :=
    ⟨"", "", "", "", by decide, by decide, by decide, by decide, rfl⟩
  have hwritten : WritesAll items entries :=
    .blank (by decide) (.entry hfirst (.blank (by decide) (.entry hsecond .nil)))
  have hdistinct : Entries.Distinct entries := by decide
  exact ⟨hplain, hdistinct, hwritten,
    ofEnvironment_written.1 environment entries items hplain hdistinct hwritten rfl⟩

end Settings

end Conform
