import Conform.Assembly
import Conform.Proofs.Entries
import Mathlib.Data.List.Forall2

/-! # Providers by either way

Entries of providers give the same paths whether they stand in the settings or are
asked for explicitly, provided that they are the only ones. A session then gets
the same providers, and these answer for each file with one of the suffixes.
-/

namespace Conform

/-! ## Results for each element of a list -/

section Results

variable {ε α β : Type} {f : α → Except ε β} {l : List α}

theorem map_eq_ok_iff {g : α → β} {outcome : Except ε α} {b : β} :
    outcome.map g = .ok b ↔ ∃ a, outcome = .ok a ∧ g a = b := by
  cases outcome with
  | error e => simp [Except.map]
  | ok a => simp [Except.map]

theorem exists_map_eq_ok_iff {g : α → β} {outcome : Except ε α} :
    (∃ b, outcome.map g = .ok b) ↔ ∃ a, outcome = .ok a := by
  cases outcome <;> simp [Except.map]

theorem bind_eq_ok_iff {next : α → Except ε β} {outcome : Except ε α} {b : β} :
    outcome >>= next = .ok b ↔ ∃ a, outcome = .ok a ∧ next a = .ok b := by
  cases outcome with
  | error e => simp [bind, Except.bind]
  | ok a => simp [bind, Except.bind]

/-- There are results for a list exactly if each element has the result at its place. -/
theorem exists_eq_error_iff {outcome : Except ε α} :
    (∃ e, outcome = .error e) ↔ ¬∃ a, outcome = .ok a := by
  cases outcome <;> simp

theorem mapM_eq_ok_iff {results : List β} :
    l.mapM f = .ok results ↔ List.Forall₂ (fun a b => f a = .ok b) l results := by
  induction l generalizing results with
  | nil =>
      rw [List.mapM_nil, List.forall₂_nil_left_iff]
      constructor
      · intro h
        cases h
        rfl
      · rintro rfl
        rfl
  | cons a rest ih =>
      rw [List.mapM_cons, List.forall₂_cons_left_iff]
      constructor
      · intro h
        obtain ⟨b, ha, h⟩ := bind_eq_ok_iff.mp h
        obtain ⟨bs, hrest, h⟩ := bind_eq_ok_iff.mp h
        cases h
        exact ⟨b, bs, ha, ih.mp hrest, rfl⟩
      · rintro ⟨b, bs, ha, hrest, rfl⟩
        rw [ha, ih.mpr hrest]
        rfl

theorem exists_mapM_eq_ok_iff :
    (∃ results, l.mapM f = .ok results) ↔ ∀ a ∈ l, ∃ b, f a = .ok b := by
  simp only [mapM_eq_ok_iff]
  induction l with
  | nil => simp
  | cons a rest ih =>
      rw [List.forall_mem_cons, ← ih]
      constructor
      · rintro ⟨results, h⟩
        obtain ⟨b, bs, ha, hrest, rfl⟩ := List.forall₂_cons_left_iff.mp h
        exact ⟨⟨b, ha⟩, bs, hrest⟩
      · rintro ⟨⟨b, ha⟩, bs, hrest⟩
        exact ⟨b :: bs, .cons ha hrest⟩

theorem mem_iff_of_mapM {results : List β} (h : l.mapM f = .ok results) {b : β} :
    b ∈ results ↔ ∃ a ∈ l, f a = .ok b := by
  have heach := mapM_eq_ok_iff.mp h
  clear h
  induction heach with
  | nil => simp
  | cons ha _ ih => simp [ih, ha, eq_comm]

/-- A list has no results because of the first of its elements that has none. -/
theorem mapM_eq_error_iff {e : ε} :
    l.mapM f = .error e ↔ ∃ before a after, l = before ++ a :: after ∧
      (∀ other ∈ before, ∃ b, f other = .ok b) ∧ f a = .error e := by
  induction l with
  | nil =>
      rw [List.mapM_nil]
      constructor
      · intro h
        cases h
      · rintro ⟨before, a, after, h, -⟩
        simp at h
  | cons head rest ih =>
      rw [List.mapM_cons]
      cases hhead : f head with
      | error first =>
          constructor
          · intro h
            cases h
            exact ⟨[], head, rest, rfl, by simp, hhead⟩
          · rintro ⟨before, a, after, hsplit, hbefore, ha⟩
            cases before with
            | nil =>
                cases hsplit
                cases hhead.symm.trans ha
                rfl
            | cons other before =>
                cases hsplit
                obtain ⟨b, hb⟩ := hbefore head List.mem_cons_self
                cases hhead.symm.trans hb
      | ok first =>
          have hrest : (Except.ok first >>= fun b => rest.mapM f >>= fun bs => pure (b :: bs)) =
              Except.error e ↔ rest.mapM f = .error e := by
            cases rest.mapM f <;> simp [bind, Except.bind, pure, Except.pure]
          rw [hrest, ih]
          constructor
          · rintro ⟨before, a, after, rfl, hbefore, ha⟩
            exact ⟨head :: before, a, after, rfl,
              List.forall_mem_cons.mpr ⟨⟨first, hhead⟩, hbefore⟩, ha⟩
          · rintro ⟨before, a, after, hsplit, hbefore, ha⟩
            cases before with
            | nil =>
                cases hsplit
                cases hhead.symm.trans ha
            | cons other before =>
                cases hsplit
                exact ⟨before, a, after, rfl, (List.forall_mem_cons.mp hbefore).2, ha⟩

theorem filterAuxM_eq_ok_iff {p : α → Except ε Bool} {kept results : List α} :
    l.filterAuxM p kept = .ok results ↔ (∀ a ∈ l, ∃ answer, p a = .ok answer) ∧
      results.reverse = kept.reverse ++ l.filter fun a => (p a).toOption = some true := by
  induction l generalizing kept with
  | nil => simp [List.filterAuxM, pure, Except.pure, eq_comm]
  | cons a rest ih =>
      rw [List.filterAuxM, bind_eq_ok_iff, List.forall_mem_cons]
      cases ha : p a with
      | error e => simp
      | ok answer =>
          simp only [Except.ok.injEq, exists_eq_left', exists_eq', true_and, ih]
          cases answer <;> simp [ha, Except.toOption]

/-- A list is filtered if there is an answer for each of its elements. -/
theorem filterM_eq_ok_iff {p : α → Except ε Bool} {results : List α} :
    l.filterM p = .ok results ↔ (∀ a ∈ l, ∃ answer, p a = .ok answer) ∧
      results = l.filter fun a => (p a).toOption = some true := by
  rw [List.filterM, bind_eq_ok_iff]
  simp only [filterAuxM_eq_ok_iff, pure, Except.pure, Except.ok.injEq]
  constructor
  · rintro ⟨kept, ⟨hall, hkept⟩, rfl⟩
    exact ⟨hall, hkept⟩
  · rintro ⟨hall, rfl⟩
    exact ⟨_, ⟨hall, List.reverse_reverse _⟩, List.reverse_reverse _⟩

end Results

/-! ## Entries in the settings -/

namespace Settings

/-- The variable of the environment with entries of providers. -/
def providersVariable : String := "SCHEMAWATCH_SCHEMA_PROVIDERS"

/-- What putting one entry keeps is kept by reading a list of entries. -/
theorem of_parseSpecsInto {motive : List (String × String) → Prop}
    {known paths : List (String × String)} {specs : List String}
    (hput : ∀ known spec suffix path, parseSpec spec = .ok (suffix, path) → motive known →
      motive (Entries.put suffix path known))
    (hknown : motive known) (h : parseSpecsInto known specs = .ok paths) : motive paths := by
  induction specs generalizing known with
  | nil =>
      cases h
      exact hknown
  | cons spec rest ih =>
      rw [parseSpecsInto] at h
      split at h
      next => cases h
      next suffix path hspec => exact ih (hput known spec suffix path hspec hknown) h

theorem distinct_of_parseSpecs {paths : List (String × String)} {specs : List String}
    (h : parseSpecs specs = .ok paths) : Entries.Distinct paths := by
  refine of_parseSpecsInto (motive := Entries.Distinct) ?_ Entries.distinct_nil h
  intro known spec suffix path _ hknown
  exact hknown.put suffix path

/-- Setting the entries of providers where there were none changes nothing else in the settings. -/
theorem exists_ofEnvironment {environment : List (String × String)}
    (h : environment.lookup providersVariable = none) :
    ∃ settings, ofEnvironment environment = .ok settings ∧ settings.providers = [] ∧
      ∀ value, ofEnvironment ((providersVariable, value) :: environment) =
        (parseSpecs (splitList value)).map fun providers => { settings with providers } := by
  have hnone : parseSpecs (splitList "") = .ok [] := rfl
  refine ⟨⟨Text.upper ((environment.lookup "SCHEMAWATCH_LOG_LEVEL").getD "WARNING"), [],
    splitList ((environment.lookup "SCHEMAWATCH_SYNTAX_CHECKED").getD "")⟩, ?_, rfl, fun value => ?_⟩
  · unfold ofEnvironment
    dsimp only
    rw [← providersVariable, h, Option.getD_none, hnone]
  · unfold ofEnvironment
    dsimp only
    rw [← providersVariable, List.lookup_cons_self, Option.getD_some]
    -- The other variables have other names.
    have hlevel : ("SCHEMAWATCH_LOG_LEVEL" == providersVariable) = false := by decide
    have hchecked : ("SCHEMAWATCH_SYNTAX_CHECKED" == providersVariable) = false := by decide
    rw [List.lookup_cons, hlevel, List.lookup_cons, hchecked]
    cases parseSpecs (splitList value) <;> rfl

end Settings

namespace Provider

theorem ofSchemas_eq (schemas : List (String × String)) :
    ofSchemas schemas =
      ⟨Entries.putAll [] (schemas.map fun entry => (normalizeSuffix entry.1, entry.2))⟩ := by
  rw [ofSchemas, Entries.putAll, List.foldl_map]

/-- The last of the entries whose key spells a suffix. -/
def lastSpelling (suffix : String) (entries : List (String × String)) :
    Option (String × String) :=
  entries.reverse.find? fun entry => normalizeSuffix entry.1 = suffix

section LastSpelling

variable {suffix : String} {entries : List (String × String)} {entry : String × String}

theorem of_lastSpelling (h : lastSpelling suffix entries = some entry) :
    entry ∈ entries ∧ normalizeSuffix entry.1 = suffix :=
  ⟨List.mem_reverse.mp (List.mem_of_find?_eq_some h), by simpa using List.find?_some h⟩

theorem lastSpelling_eq_none_iff :
    lastSpelling suffix entries = none ↔
      ∀ entry ∈ entries, normalizeSuffix entry.1 ≠ suffix := by
  simp [lastSpelling]

theorem exists_lastSpelling_iff :
    (∃ entry, lastSpelling suffix entries = some entry) ↔
      ∃ entry ∈ entries, normalizeSuffix entry.1 = suffix := by
  rw [← Option.ne_none_iff_exists', ne_eq, lastSpelling_eq_none_iff]
  simp only [not_forall, not_not, exists_prop]

theorem mem_suffixes_iff :
    suffix ∈ (entries.map (·.1)).map normalizeSuffix ↔
      ∃ entry ∈ entries, normalizeSuffix entry.1 = suffix := by
  simp only [List.map_map, List.mem_map, Function.comp_apply]

theorem lastSpelling_append (suffix : String) (entries others : List (String × String)) :
    lastSpelling suffix (entries ++ others) =
      (lastSpelling suffix others).or (lastSpelling suffix entries) := by
  rw [lastSpelling, List.reverse_append, List.find?_append]
  rfl

/-- Changing the values of entries does not change which one counts. -/
theorem lastSpelling_map (suffix : String) (value : String × String → String)
    (entries : List (String × String)) :
    lastSpelling suffix (entries.map fun entry => (entry.1, value entry)) =
      (lastSpelling suffix entries).map fun entry => (entry.1, value entry) := by
  simp only [lastSpelling, ← List.map_reverse, List.find?_map, Function.comp_def]

end LastSpelling

/-- A provider answers with the schema whose suffix was spelled last. -/
theorem lookup_ofSchemas (schemas : List (String × String)) (suffix : String) :
    (ofSchemas schemas).schemas.lookup suffix = (lastSpelling suffix schemas).map (·.2) := by
  rw [ofSchemas_eq, Entries.lookup_putAll, ← List.map_reverse, lastSpelling, List.lookup_nil,
    Option.or_none]
  induction schemas.reverse with
  | nil => rfl
  | cons entry rest ih =>
      rw [List.map_cons, List.lookup_cons, List.find?_cons, ih]
      by_cases h : normalizeSuffix entry.1 = suffix
      · simp [h]
      · simp [h, beq_eq_false_iff_ne.mpr (Ne.symm h)]

end Provider

namespace Setup

variable {w : Workspace} {settings : Settings} {paths : List (String × String)}

/-- Paths that are asked for explicitly are the only ones where the settings have none. -/
theorem schemaPaths_of_nil (h : settings.providers = []) (hpaths : Entries.Distinct paths) :
    schemaPaths settings paths = paths := by
  have hall : schemaPaths settings paths = Entries.putAll settings.providers paths := rfl
  rw [hall, h]
  exact Entries.putAll_eq_append hpaths

/-- It makes no difference whether paths are asked for explicitly or stand in the settings, unless
both give some. -/
theorem create_eq (h : settings.providers = []) (hpaths : Entries.Distinct paths) (w : Workspace)
    (display : Display) (syntaxChecked : List String) :
    create w display { settings with providers := paths } [] syntaxChecked =
      create w display settings paths syntaxChecked := by
  have hsettings : schemaPaths { settings with providers := paths } [] = paths := rfl
  rw [create, create, hsettings, schemaPaths_of_nil h hpaths]

theorem providersOf_schemaPaths {display : Display} {syntaxChecked : List String}
    {explicit : List (String × String)} {setup : Setup}
    (h : create w display settings explicit syntaxChecked = .ok setup) :
    providersOf w (schemaPaths settings explicit) = .ok setup.providers := by
  obtain ⟨providers, hproviders, rfl⟩ := map_eq_ok_iff.mp h
  exact hproviders

theorem find?_readSchema {schemas : List (String × String)} (wanted : String → Bool)
    (h : List.Forall₂ (fun entry schema => readSchema w entry = .ok schema) paths schemas) :
    (schemas.find? fun schema => wanted schema.1).map (·.2) =
      (paths.find? fun entry => wanted entry.1).bind fun entry =>
        (w.text (FilePath.ofString entry.2)).toOption := by
  induction h with
  | nil => rfl
  | @cons entry schema _ _ hentry _ ih =>
      obtain ⟨text, htext, rfl⟩ := map_eq_ok_iff.mp hentry
      rw [List.find?_cons, List.find?_cons]
      cases wanted entry.1 with
      | false => exact ih
      | true => exact congrArg Except.toOption htext.symm

/-- The providers that paths give answer for a file with the text of the schema whose suffix was
spelled last. -/
theorem first?_eq {providers : List Provider} (h : providersOf w paths = .ok providers)
    (file : FilePath) :
    Provider.first? providers file =
      (Provider.lastSpelling (Text.lower file.suffix) paths).bind fun entry =>
        (w.text (FilePath.ofString entry.2)).toOption := by
  cases paths with
  | nil =>
      cases h
      rfl
  | cons entry rest =>
      obtain ⟨schemas, hread, rfl⟩ := map_eq_ok_iff.mp h
      have hreversed := List.rel_reverse (mapM_eq_ok_iff.mp hread)
      rw [Provider.first?, List.findSome?_singleton, Provider.schemaFor?, Provider.lookup_ofSchemas]
      exact find?_readSchema (fun suffix => normalizeSuffix suffix = Text.lower file.suffix)
        hreversed

/-- There are providers for paths exactly if all of them can be read. -/
theorem exists_providersOf_iff :
    (∃ providers, providersOf w paths = .ok providers) ↔
      ∀ entry ∈ paths, ∃ text, w.text (FilePath.ofString entry.2) = .ok text := by
  have hread : ∀ entry, (∃ schema, readSchema w entry = .ok schema) ↔
      ∃ text, w.text (FilePath.ofString entry.2) = .ok text := by
    intro entry
    simp only [readSchema, map_eq_ok_iff]
    exact ⟨fun ⟨_, text, htext, _⟩ => ⟨text, htext⟩, fun ⟨text, htext⟩ => ⟨_, text, htext, rfl⟩⟩
  cases paths with
  | nil => simp [providersOf]
  | cons first rest =>
      simp only [← hread, ← exists_mapM_eq_ok_iff, providersOf, map_eq_ok_iff]
      exact ⟨fun ⟨_, schemas, h, _⟩ => ⟨schemas, h⟩, fun ⟨schemas, h⟩ => ⟨_, schemas, h, rfl⟩⟩

/-- A setup cannot be created exactly if one of its schemas cannot be read. -/
theorem exists_create_eq_error_iff {display : Display} {syntaxChecked : List String}
    {explicit : List (String × String)} :
    (∃ fault, create w display settings explicit syntaxChecked = .error fault) ↔
      ∃ entry ∈ schemaPaths settings explicit,
        ∃ fault, w.text (FilePath.ofString entry.2) = .error fault := by
  simp only [exists_eq_error_iff, create, exists_map_eq_ok_iff, exists_providersOf_iff, not_forall,
    exists_prop]

/-- The providers that paths give answer for the files with one of the suffixes. -/
theorem exists_first?_iff {providers : List Provider} {file : FilePath}
    (h : providersOf w paths = .ok providers) :
    (∃ text, Provider.first? providers file = some text) ↔
      Text.lower file.suffix ∈ (paths.map (·.1)).map normalizeSuffix := by
  rw [Provider.mem_suffixes_iff, ← Provider.exists_lastSpelling_iff, first?_eq h]
  constructor
  · rintro ⟨text, htext⟩
    obtain ⟨entry, hentry, -⟩ := Option.bind_eq_some_iff.mp htext
    exact ⟨entry, hentry⟩
  · rintro ⟨entry, hentry⟩
    obtain ⟨text, htext⟩ :=
      exists_providersOf_iff.mp ⟨providers, h⟩ entry (Provider.of_lastSpelling hentry).1
    exact ⟨text, by rw [hentry, Option.bind_some, htext]; rfl⟩

end Setup

end Conform
