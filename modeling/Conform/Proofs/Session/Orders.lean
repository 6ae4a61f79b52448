import Conform.Proofs.Listing
import Conform.Proofs.Session.Changes
import Conform.Proofs.Session.Evaluation

/-! # Visits in any order

A visit of files whose passes are all complete leaves what is due: of each visited file
what its text comes to with its schema, and of all others nothing. So the order
in which the files are visited makes no difference, though a schema that is visited
behind the files under it has them checked once more.
-/

namespace Conform

namespace Session

variable {w : Workspace} {setup : Setup} {s t : Session} {file : FilePath}

/-! ## Changes keep stores keyed -/

theorem clear_isKeyed (display : Display) (file : FilePath) (hs : s.store.IsKeyed) :
    (s.clear display file).session.store.IsKeyed := by
  unfold clear
  split
  · exact hs
  · split
    · exact hs
    · exact hs.clear file

theorem addAll_isKeyed (display : Display) (ds : List Diagnostic) (hs : s.store.IsKeyed) :
    (s.addAll display ds).session.store.IsKeyed := by
  induction ds generalizing s with
  | nil => exact hs
  | cons d rest ih =>
      refine Act.andThen_session (motive := fun t => t.store.IsKeyed) ?_ fun _ t ht => ih ht
      rw [add_session]
      exact hs.add d

theorem check_isKeyed (w : Workspace) (setup : Setup) (file : FilePath) (target : Target)
    (hs : s.store.IsKeyed) : (s.check w setup file target).session.store.IsKeyed := by
  unfold check
  split
  · exact hs
  · exact hs
  · unfold conclude
    split
    · exact hs
    · exact hs
    · exact Act.andThen_session (motive := fun t => t.store.IsKeyed)
        (clear_isKeyed setup.display file hs) fun _ t ht => addAll_isKeyed setup.display _ ht

theorem checkEach_isKeyed (w : Workspace) (setup : Setup) (target : Target)
    (files : List FilePath) (hs : s.store.IsKeyed) :
    (s.checkEach w setup target files).store.IsKeyed := by
  unfold checkEach
  induction files generalizing s with
  | nil => exact hs
  | cons file rest ih => exact ih (check_isKeyed w setup file target hs)

theorem perform_changed_isKeyed (w : Workspace) (setup : Setup) (file : FilePath)
    (hs : s.store.IsKeyed) : (s.perform w setup (.changed file)).session.store.IsKeyed := by
  have hplaced : (s.placing w setup (w.absolute file)).store.IsKeyed := hs
  rw [perform_changed_session]
  exact checkEach_isKeyed w setup _ _ hplaced

theorem visit_isKeyed (w : Workspace) (setup : Setup) (files : List FilePath)
    (hs : s.store.IsKeyed) : (s.visit w setup files).session.store.IsKeyed := by
  rw [visit_session]
  apply changeEach_of (motive := fun t => t.store.IsKeyed) files ?_ hs
  intro t file ht
  exact perform_changed_isKeyed w setup file ht

/-! ## The empty schema -/

/-- Nothing is said of a well-formed text under the empty schema. -/
theorem eq_nil_of_verdict_nothing {text : String} {found : Json} {ds : List Diagnostic}
    (hvalidate : setup.validate = Schema.validate) (htext : w.text file = .ok text)
    (hfound : Json.parse text = .ok found) (h : verdict w setup file .nothing = some ds) :
    ds = [] := by
  have hempty : Json.parse Target.emptyText = .ok (.obj []) := by cbv
  have htexts : readTexts w file .nothing = .ok (text, Target.emptyText) := by
    rw [readTexts, htext]
    rfl
  simp only [verdict, htexts, Evaluation.ofText, hfound, Evaluation.ofValue, hempty,
    hvalidate] at h
  cases hend : Schema.validate (.obj []) found with
  | ok failures =>
      rw [hend, Evaluation.eq_nil_of_validate_empty hend] at h
      exact (Option.some.inj h).symm
  | error refusal =>
      rw [hend] at h
      cases refusal with
      | unusable reason => exact (Option.some.inj h).symm
      | fault fault => cases h

/-! ## What is due -/

/-- What is due to be said of a file: what its text comes to with the schema of the first provider
that answers for it, or else, for a document, with the schema that is found or the empty one. Of
schemas that no provider answers for nothing is due. -/
def due (w : Workspace) (setup : Setup) (file : FilePath) : Option (List Diagnostic) :=
  match Provider.first? setup.providers file with
  | some text => verdict w setup file (.ofText text)
  | none =>
    if Convention.isSchemaName file.name then some []
    else if Convention.isDocumentName file.name then
      match resolved w file with
      | .error _ => none
      | .ok found => verdict w setup file (targetOf found)
    else some []

/-- A file is a document that no provider answers for, and a schema is found for it. -/
structure Belongs (w : Workspace) (setup : Setup) (schema file : FilePath) : Prop where
  first?_eq_none : Provider.first? setup.providers file = none
  isDocumentName : Convention.isDocumentName file.name = true
  resolved_eq : resolved w file = .ok (some schema)

theorem Belongs.due_eq {schema : FilePath} (h : Belongs w setup schema file) :
    due w setup file = verdict w setup file (.ofFile schema) := by
  have hname : Convention.isSchemaName file.name ≠ true := by
    intro hname
    have hfound := h.resolved_eq
    rw [resolved_eq_none w hname] at hfound
    cases hfound
  rw [due, h.first?_eq_none]
  dsimp only
  rw [if_neg hname, if_pos h.isDocumentName, h.resolved_eq]
  rfl

/-- How the change of a file that is there is dealt with, if it does not break down, and what is due
then. -/
theorem course_cases (hthere : leadsToFile w file = .ok true)
    (hwhole : ∀ reason, course w setup file ≠ .broken reason) :
    (∃ text, course w setup file = .provided text ∧
        due w setup file = verdict w setup file (.ofText text) ∧
        ∀ schema, ¬Belongs w setup schema file) ∨
      (course w setup file = .idle ∧ due w setup file = some [] ∧
        ∀ schema, ¬Belongs w setup schema file) ∨
      (course w setup file = .alone ∧
        ((Convention.isSchemaName file.name = true ∧ due w setup file = some []) ∨
          (Convention.isSchemaName file.name = false ∧
            due w setup file = verdict w setup file .nothing)) ∧
        ∀ schema, ¬Belongs w setup schema file) ∨
      ∃ schema, course w setup file = .under schema ∧ Belongs w setup schema file := by
  cases hfirst : Provider.first? setup.providers file with
  | some text =>
      refine Or.inl ⟨text, by rw [course, hthere, hfirst], by rw [due, hfirst], fun schema h => ?_⟩
      rw [h.first?_eq_none] at hfirst
      cases hfirst
  | none =>
      cases hname : Convention.isDocumentName file.name with
      | false =>
          refine Or.inr (Or.inl ⟨?_, ?_, fun schema h => ?_⟩)
          · simp [course, hthere, hfirst, hname]
          · simp [due, hfirst, hname]
          · rw [h.isDocumentName] at hname
            cases hname
      | true =>
          have hcourse := course_eq hthere hfirst hname
          cases hfound : resolved w file with
          | error reason =>
              rw [hfound] at hcourse
              exact absurd hcourse (hwhole reason)
          | ok found =>
              rw [hfound] at hcourse
              cases found with
              | none =>
                  refine Or.inr (Or.inr (Or.inl ⟨hcourse, ?_, fun schema h => ?_⟩))
                  · cases hschema : Convention.isSchemaName file.name with
                    | true => exact Or.inl ⟨rfl, by simp [due, hfirst, hschema]⟩
                    | false =>
                        exact Or.inr ⟨rfl, by simp [due, hfirst, hschema, hname, hfound, targetOf]⟩
                  · rw [h.resolved_eq] at hfound
                    cases hfound
              | some schema =>
                  exact Or.inr (Or.inr (Or.inr ⟨schema, hcourse, hfirst, hname, hfound⟩))

/-! ## Visits -/

/-- A session accounts for files: of each of them it says what is due and of no other file
anything, and the files under schemas are those of them that belong there. -/
structure Accounts (w : Workspace) (setup : Setup) (visited : FilePath → Prop) (s : Session) :
    Prop where
  isNamed : s.index.IsNamed
  isKeyed : s.store.IsKeyed
  said : ∀ {p}, visited p → due w setup p = some (s.store.diagnosticsFor p)
  silent : ∀ {p}, ¬visited p → s.store.diagnosticsFor p = []
  holds_iff : ∀ {schema p}, s.index.Holds schema p ↔ visited p ∧ Belongs w setup schema p

/-- What visits ask of a file: it is there, and if it has the name of a schema, it is well
formed. -/
structure Visitable (w : Workspace) (file : FilePath) : Prop where
  leadsToFile_eq : leadsToFile w file = .ok true
  parses : Convention.isSchemaName file.name = true →
    ∃ text found, w.text file = .ok text ∧ Json.parse text = .ok found

namespace Accounts

variable {visited : FilePath → Prop}

theorem empty : Accounts w setup (fun _ => False) .empty where
  isNamed := .empty
  isKeyed := Store.empty_isKeyed
  said h := h.elim
  silent _ := rfl
  holds_iff {schema p} := by
    constructor
    · rintro ⟨files, hentry, -⟩
      cases hentry
    · exact fun h => h.1.elim

theorem congr {others : FilePath → Prop} (h : Accounts w setup visited s)
    (hiff : ∀ p, visited p ↔ others p) : Accounts w setup others s := by
  obtain rfl : visited = others := funext fun p => propext (hiff p)
  exact h

/-- A file that was not visited has nothing said of it, and one that was has what is due. -/
theorem said_or (h : Accounts w setup visited s) (p : FilePath) :
    (visited p ∧ due w setup p = some (s.store.diagnosticsFor p)) ∨
      (¬visited p ∧ s.store.diagnosticsFor p = []) := by
  by_cases hp : visited p
  · exact Or.inl ⟨hp, h.said hp⟩
  · exact Or.inr ⟨hp, h.silent hp⟩

/-- Only the visited file was checked. -/
theorem says_of_checked {placed : Session} {target : Target} (h : Accounts w setup visited s)
    (hstore : placed.store = s.store) (hchecked : CheckedEach w setup target [file] placed t)
    (hdue : due w setup file = verdict w setup file target) (p : FilePath) :
    (visited p ∨ p = file → due w setup p = some (t.store.diagnosticsFor p)) ∧
      (¬(visited p ∨ p = file) → t.store.diagnosticsFor p = []) := by
  by_cases hp : p = file
  · subst hp
    exact ⟨fun _ => hdue.trans (hchecked.verdict_eq p List.mem_cons_self),
      fun hnot => absurd (Or.inr rfl) hnot⟩
  · rw [hchecked.others_eq p (by simpa using hp), hstore]
    exact ⟨fun hvisited => h.said (hvisited.resolve_right hp),
      fun hnot => h.silent fun hvisited => hnot (Or.inl hvisited)⟩

/-- The visited file was not checked, but nothing is due to be said of it, and others may have been
checked once more. -/
theorem says_of_unchecked {placed : Session} {target : Target} {files : List FilePath}
    (h : Accounts w setup visited s) (hstore : placed.store = s.store)
    (hchecked : CheckedEach w setup target files placed t)
    (hfiles : ∀ p ∈ files, visited p ∧ due w setup p = verdict w setup p target)
    (hdue : due w setup file = some []) (p : FilePath) :
    (visited p ∨ p = file → due w setup p = some (t.store.diagnosticsFor p)) ∧
      (¬(visited p ∨ p = file) → t.store.diagnosticsFor p = []) := by
  by_cases hmem : p ∈ files
  · obtain ⟨hvisited, hdue⟩ := hfiles p hmem
    exact ⟨fun _ => hdue.trans (hchecked.verdict_eq p hmem),
      fun hnot => absurd (Or.inl hvisited) hnot⟩
  · rw [hchecked.others_eq p hmem, hstore]
    rcases h.said_or p with ⟨hvisited, hsaid⟩ | ⟨hunvisited, hsilent⟩
    · exact ⟨fun _ => hsaid, fun hnot => absurd (Or.inl hvisited) hnot⟩
    · refine ⟨fun hnow => ?_, fun _ => hsilent⟩
      rw [hnow.resolve_left hunvisited] at hsilent ⊢
      rw [hsilent, hdue]

/-- After the change of a visited file the file stands where it belongs, and the others where they
stood. -/
theorem placing_holds_iff (h : Accounts w setup visited s) (hthere : leadsToFile w file = .ok true)
    (hwhole : ∀ reason, course w setup file ≠ .broken reason)
    (hplaced : (s.placing w setup file).index.WellFormed) {schema p : FilePath} :
    (s.placing w setup file).index.Holds schema p ↔
      (visited p ∨ p = file) ∧ Belongs w setup schema p := by
  have hwellFormed := h.isNamed.wellFormed
  have hbefore : s.index.Holds schema p ↔ visited p ∧ Belongs w setup schema p := h.holds_iff
  rw [← Index.schemaFor?_eq_some_iff hwellFormed] at hbefore
  rw [← Index.schemaFor?_eq_some_iff hplaced, placing, Course.schemaFor?_place hwellFormed]
  split
  next hp =>
    subst hp
    have hfile : (visited p ∨ p = p) ∧ Belongs w setup schema p ↔ Belongs w setup schema p := by
      simp
    rw [hfile]
    rcases course_cases hthere hwhole with ⟨text, hcourse, -, hnot⟩ | ⟨hcourse, -, hnot⟩ |
      ⟨hcourse, -, hnot⟩ | ⟨found, hcourse, hbelongs⟩
    · rw [hcourse]
      exact hbefore.trans (iff_of_false (fun h => hnot schema h.2) (hnot schema))
    · rw [hcourse]
      exact hbefore.trans (iff_of_false (fun h => hnot schema h.2) (hnot schema))
    · rw [hcourse, Course.schemaAfter]
      exact iff_of_false (Option.some_ne_none schema).symm (hnot schema)
    · rw [hcourse, Course.schemaAfter, Option.some.injEq]
      constructor
      · rintro rfl
        exact hbelongs
      · intro hschema
        exact Option.some.inj (Except.ok.inj (hbelongs.resolved_eq.symm.trans hschema.resolved_eq))
  next hp => simp only [hbefore, hp, or_false]

/-- Files under a file that has its place were visited before, and they are due to be checked against
it. -/
theorem due_of_mem_dependentsOf (h : Accounts w setup visited s)
    (hthere : leadsToFile w file = .ok true)
    (hwhole : ∀ reason, course w setup file ≠ .broken reason)
    (hplaced : (s.placing w setup file).index.IsNamed) {p : FilePath}
    (hp : p ∈ (s.placing w setup file).index.dependentsOf file) :
    visited p ∧ due w setup p = verdict w setup p (.ofFile file) := by
  have hholds := (Index.mem_dependentsOf_iff hplaced.wellFormed).mp hp
  obtain ⟨hvisited, hbelongs⟩ := (h.placing_holds_iff hthere hwhole hplaced.wellFormed).mp hholds
  exact ⟨hvisited.resolve_right (hplaced.goesWith hholds).ne, hbelongs.due_eq⟩

/-- The session after the change of a file accounts for that file as well. -/
theorem perform_changed (h : Accounts w setup visited s)
    (hvalidate : setup.validate = Schema.validate) (hfile : Visitable w (w.absolute file))
    (hends : (s.perform w setup (.changed file)).Ends (.ok ()) t) :
    Accounts w setup (fun p => visited p ∨ p = w.absolute file) t := by
  have hnamed : t.index.IsNamed := hends.session_eq ▸ perform_isNamed h.isNamed (.changed file)
  have hkeyed : t.store.IsKeyed :=
    hends.session_eq ▸ perform_changed_isKeyed w setup file h.isKeyed
  have hplaced := placing_isNamed w setup h.isNamed file
  obtain ⟨hwhole, hchecked⟩ := perform_changed_ends hends
  generalize w.absolute file = file at *
  have hthere := hfile.leadsToFile_eq
  have hstore : (s.placing w setup file).store = s.store := rfl
  have hsaid : ∀ p, (visited p ∨ p = file → due w setup p = some (t.store.diagnosticsFor p)) ∧
      (¬(visited p ∨ p = file) → t.store.diagnosticsFor p = []) := by
    rcases course_cases hthere hwhole with ⟨text, hcourse, hdue, -⟩ | ⟨hcourse, hdue, -⟩ |
      ⟨hcourse, ⟨hname, hdue⟩ | ⟨hname, hdue⟩, -⟩ | ⟨schema, hcourse, hbelongs⟩
    · rw [hcourse] at hchecked
      exact h.says_of_checked hstore hchecked hdue
    · rw [hcourse] at hchecked
      exact h.says_of_unchecked hstore hchecked nofun hdue
    · by_cases hnobody : (s.placing w setup file).index.dependentsOf file = []
      · -- The schema is checked itself, but that finds nothing because it is well formed.
        obtain ⟨text, found, htext, hfound⟩ := hfile.parses hname
        rw [hcourse, Course.checks_alone_of_nil hnobody] at hchecked
        have hverdict := hchecked.verdict_eq file List.mem_cons_self
        rw [eq_nil_of_verdict_nothing hvalidate htext hfound hverdict] at hverdict
        exact h.says_of_checked hstore hchecked (hdue.trans hverdict.symm)
      · obtain ⟨d, hd⟩ := List.exists_mem_of_ne_nil _ hnobody
        rw [hcourse, Course.checks_alone_of_mem hd] at hchecked
        exact h.says_of_unchecked hstore hchecked (fun p hp =>
          h.due_of_mem_dependentsOf hthere hwhole hplaced (FilePath.mem_sort.mp hp)) hdue
    · rw [hcourse, Course.checks_alone_of_nil (hplaced.dependentsOf_eq_nil hname)] at hchecked
      exact h.says_of_checked hstore hchecked hdue
    · rw [hcourse] at hchecked
      exact h.says_of_checked hstore hchecked hbelongs.due_eq
  refine ⟨hnamed, hkeyed, fun {p} => (hsaid p).1, fun {p} => (hsaid p).2, fun {schema p} => ?_⟩
  rw [hchecked.index_eq]
  exact h.placing_holds_iff hthere hwhole hplaced.wellFormed

/-- A visit leaves a session that accounts for the visited files as well. -/
theorem visit {files : List FilePath} (h : Accounts w setup visited s)
    (hvalidate : setup.validate = Schema.validate)
    (hfiles : ∀ file ∈ files, Visitable w (w.absolute file))
    (hends : (s.visit w setup files).Ends () t) :
    Accounts w setup (fun p => visited p ∨ p ∈ files.map w.absolute) t := by
  rw [visit_ends_iff] at hends
  induction files generalizing s visited with
  | nil =>
      obtain ⟨-, rfl⟩ := Act.done_ends_iff.mp hends
      exact h.congr (by simp)
  | cons file rest ih =>
      obtain ⟨_, middle, hfirst, hrest⟩ := Act.andThen_ends_iff.mp hends
      have hmiddle := h.perform_changed hvalidate (hfiles file List.mem_cons_self) hfirst
      refine (ih hmiddle (fun p hp => hfiles p (List.mem_cons_of_mem _ hp)) hrest).congr fun p => ?_
      rw [List.map_cons, List.mem_cons, or_assoc]

end Accounts

/-- A visit of files that are there, whose schemas are well formed and whose passes are all complete
accounts for these files in whatever order it takes them. So two such visits leave the same index,
the same list of all diagnostics and the same number of errors. The paths are such as texts write,
which is what tells files apart in that list. -/
theorem visit_accounts (w : Workspace) (setup : Setup) {first second : List FilePath}
    {s t : Session} (hvalidate : setup.validate = Schema.validate)
    (hsame : ∀ file, file ∈ first ↔ file ∈ second)
    (hfiles : ∀ file ∈ first, Visitable w (w.absolute file))
    (hpaths : ∀ file ∈ first, (w.absolute file).WellFormed)
    (hs : (Session.empty.visit w setup first).Ends () s)
    (ht : (Session.empty.visit w setup second).Ends () t) :
    Accounts w setup (· ∈ first.map w.absolute) s ∧ s.index.Agrees t.index ∧
      s.store.all = t.store.all ∧ s.store.errorCount = t.store.errorCount := by
  have hfirst : Accounts w setup (· ∈ first.map w.absolute) s :=
    (Accounts.empty.visit hvalidate hfiles hs).congr (by simp)
  have hsecond : Accounts w setup (· ∈ first.map w.absolute) t := by
    refine (Accounts.empty.visit hvalidate (fun file hfile => hfiles file ((hsame file).mpr hfile))
      ht).congr fun p => ?_
    simp [hsame]
  have hsaid : ∀ p, s.store.diagnosticsFor p = t.store.diagnosticsFor p := by
    intro p
    by_cases hp : p ∈ first.map w.absolute
    · exact Option.some.inj ((hfirst.said hp).symm.trans (hsecond.said hp))
    · rw [hfirst.silent hp, hsecond.silent hp]
  have hall : s.store.all = t.store.all := by
    refine Store.all_eq hfirst.isKeyed hsecond.isKeyed (fun p hp => ?_) hsaid
    by_contra hpath
    refine hp (hfirst.silent fun hmem => hpath ?_)
    obtain ⟨file, hfile, rfl⟩ := List.mem_map.mp hmem
    exact hpaths file hfile
  refine ⟨hfirst, Index.agrees_of_schemaFor?_eq hfirst.isNamed.wellFormed
    hsecond.isNamed.wellFormed fun p => ?_, hall, ?_⟩
  · ext schema
    rw [Index.schemaFor?_eq_some_iff hfirst.isNamed.wellFormed,
      Index.schemaFor?_eq_some_iff hsecond.isNamed.wellFormed, hfirst.holds_iff, hsecond.holds_iff]
  · rw [Store.errorCount, Store.errorCount, hall]

open Vigil Vigil.Sample

namespace Apart

/-- A directory with a file and its schema, which everything meets, beside one with another file. -/
def tree : Tree :=
  .directory [("w", .directory [
    ("p", .directory [("a.json", .file []), ("aSchema.json", .file [123, 125])]),
    ("q", .directory [("b.json", .file [])])])]

/-- The file with a schema. -/
def matched : FilePath := (sample.top.child "p").child "a.json"

/-- The schema. -/
def itsSchema : FilePath := (sample.top.child "p").child "aSchema.json"

/-- The file without a schema. -/
def lone : FilePath := (sample.top.child "q").child "b.json"

/-- The session after a visit that takes the lone file last. -/
def loneLast : Session := ⟨⟨[(itsSchema, [matched])]⟩, ⟨[said matched, said lone]⟩⟩

/-- The session after a visit that takes the lone file first. -/
def loneFirst : Session := ⟨⟨[(itsSchema, [matched])]⟩, ⟨[said lone, said matched]⟩⟩

theorem pairs_matched : sample.Pairs matched where
  covers := ⟨⟨["p", "a.json"], by simp, by decide, rfl⟩, by decide⟩
  isDocumentName := by decide
  isSchemaName := by decide
  first?_eq_none := rfl

theorem covers_lone : sample.Covers lone :=
  ⟨⟨["q", "b.json"], by simp, by decide, rfl⟩, by decide⟩

theorem schemaOf_matched :
    schemaOf (sample.workspace tree) matched = .ok (some itsSchema) :=
  schemaOf_beside rfl (by decide)

theorem visit_loneLast :
    (Session.empty.visit (sample.workspace tree) sample.setup [matched, itsSchema, lone]).Ends ()
      loneLast := by
  have hfirst : (Session.empty.perform (sample.workspace tree) sample.setup
      (.changed matched)).Ends (.ok ()) ⟨⟨[(itsSchema, [matched])]⟩, ⟨[said matched]⟩⟩ := by
    refine perform_ends_of_check empty_sane pairs_matched (by decide) rfl schemaOf_matched ?_
    exact ends_of_eval (by decide +kernel)
  refine visit_ends_iff.mpr (Act.andThen_ends_iff.mpr ⟨(), _, hfirst, ?_⟩)
  refine Act.andThen_ends_iff.mpr ⟨(), ⟨⟨[(itsSchema, [matched])]⟩, ⟨[said matched]⟩⟩,
    ends_of_eval (by decide +kernel), ?_⟩
  exact Act.andThen_ends_iff.mpr ⟨(), loneLast, ends_of_eval (by decide +kernel),
    Act.done_ends_iff.mpr ⟨rfl, rfl⟩⟩

theorem visit_loneFirst :
    (Session.empty.visit (sample.workspace tree) sample.setup [lone, matched, itsSchema]).Ends ()
      loneFirst := by
  have hfirst : (Session.empty.perform (sample.workspace tree) sample.setup
      (.changed lone)).Ends (.ok ()) ⟨⟨[]⟩, ⟨[said lone]⟩⟩ := ends_of_eval (by decide +kernel)
  have hsane := (Vigil.perform_changed empty_sane covers_lone hfirst).1.sane
  have hsecond : ((⟨⟨[]⟩, ⟨[said lone]⟩⟩ : Session).perform (sample.workspace tree) sample.setup
      (.changed matched)).Ends (.ok ()) loneFirst := by
    refine perform_ends_of_check hsane pairs_matched (by decide) rfl schemaOf_matched ?_
    exact ends_of_eval (by decide +kernel)
  refine visit_ends_iff.mpr (Act.andThen_ends_iff.mpr ⟨(), _, hfirst, ?_⟩)
  refine Act.andThen_ends_iff.mpr ⟨(), loneFirst, hsecond, ?_⟩
  exact Act.andThen_ends_iff.mpr ⟨(), loneFirst, ends_of_eval (by decide +kernel),
    Act.done_ends_iff.mpr ⟨rfl, rfl⟩⟩

theorem visitable {file : FilePath} (hfile : file ∈ [matched, itsSchema, lone]) :
    Visitable (sample.workspace tree) ((sample.workspace tree).absolute file) ∧
      ((sample.workspace tree).absolute file).WellFormed := by
  simp only [List.mem_cons, List.not_mem_nil, or_false] at hfile
  rcases hfile with rfl | rfl | rfl
  · exact ⟨⟨by decide, fun hname => absurd hname (by decide)⟩, by decide, by decide, by decide⟩
  · exact ⟨⟨by decide, fun _ => ⟨"\x7b\x7d", .obj [], by decide +kernel, by cbv⟩⟩, by decide,
      by decide, by decide⟩
  · exact ⟨⟨by decide, fun hname => absurd hname (by decide)⟩, by decide, by decide, by decide⟩

end Apart

open Apart

/-- Whether the lone file is visited last or first makes no difference. -/
theorem visit_accounts_apart :
    sample.setup.validate = Schema.validate ∧
      (∀ file, file ∈ [matched, itsSchema, lone] ↔ file ∈ [lone, matched, itsSchema]) ∧
      (∀ file ∈ [matched, itsSchema, lone],
        Visitable (sample.workspace tree) ((sample.workspace tree).absolute file)) ∧
      (∀ file ∈ [matched, itsSchema, lone], ((sample.workspace tree).absolute file).WellFormed) ∧
      (Session.empty.visit (sample.workspace tree) sample.setup [matched, itsSchema, lone]).Ends ()
        loneLast ∧
      (Session.empty.visit (sample.workspace tree) sample.setup [lone, matched, itsSchema]).Ends ()
        loneFirst ∧
      Accounts (sample.workspace tree) sample.setup
        (· ∈ [matched, itsSchema, lone].map (sample.workspace tree).absolute) loneLast ∧
      loneLast.index.Agrees loneFirst.index ∧ loneLast.store.all = loneFirst.store.all ∧
      loneLast.store.errorCount = loneFirst.store.errorCount := by
  have hsame : ∀ file, file ∈ [matched, itsSchema, lone] ↔ file ∈ [lone, matched, itsSchema] := by
    intro file
    simp only [List.mem_cons, List.not_mem_nil, or_false]
    tauto
  exact ⟨rfl, hsame, fun file hfile => (visitable hfile).1, fun file hfile => (visitable hfile).2,
    visit_loneLast, visit_loneFirst,
    visit_accounts (sample.workspace tree) sample.setup rfl hsame
      (fun file hfile => (visitable hfile).1) (fun file hfile => (visitable hfile).2)
      visit_loneLast visit_loneFirst⟩

end Session

end Conform
