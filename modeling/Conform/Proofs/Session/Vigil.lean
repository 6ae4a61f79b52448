import Conform.Proofs.Convention
import Conform.Proofs.Files.Collecting
import Conform.Proofs.Session.Ends
import Conform.Proofs.Suffixes

/-! # Watching a directory

A vigil is what stays the same while a directory is watched. It covers the files
below the directory whose suffix matters. The schema that is found for such a
file lies beside it, has the name of a schema and is covered as well, and which
one is found depends on little: files with names of schemas that come or go, or
directories with such names, and nothing else.
-/

namespace Conform

/-! ## The choice of a schema -/

namespace Convention

variable {w w' : Workspace} {directory : FilePath} {names names' wanted : List String}

theorem choose_absent {first : String} {rest : List String}
    (hname : find? names first = none) :
    choose w directory names (first :: rest) = choose w directory names rest := by
  rw [choose, hname]

theorem choose_present {first name : String} {rest : List String}
    (hname : find? names first = some name) :
    choose w directory names (first :: rest) =
      (w.isFile (directory.child name)).bind fun isThere =>
        if isThere then .ok (some (directory.child name)) else choose w directory names rest := by
  rw [choose, hname]
  dsimp only
  cases w.isFile (directory.child name) with
  | error fault => rfl
  | ok isThere => cases isThere <;> rfl

/-- A schema that is chosen is a file in the directory whose name is a wanted one up to case. -/
theorem exists_of_choose {schema : FilePath}
    (h : choose w directory names wanted = .ok (some schema)) :
    ∃ name ∈ names, schema = directory.child name ∧ w.isFile schema = .ok true ∧
      ∃ candidate ∈ wanted, Text.lower name = Text.lower candidate := by
  induction wanted with
  | nil => cases h
  | cons first rest ih =>
      have hrest : choose w directory names rest = .ok (some schema) →
          ∃ name ∈ names, schema = directory.child name ∧ w.isFile schema = .ok true ∧
            ∃ candidate ∈ first :: rest, Text.lower name = Text.lower candidate := by
        intro hchoose
        obtain ⟨name, hmem, hschema, hfile, candidate, hcandidate, hlower⟩ := ih hchoose
        exact ⟨name, hmem, hschema, hfile, candidate, List.mem_cons_of_mem first hcandidate, hlower⟩
      cases hname : find? names first with
      | none =>
          rw [choose_absent hname] at h
          exact hrest h
      | some name =>
          obtain ⟨hmem, hlower, -⟩ := find?_eq_some_iff.mp hname
          rw [choose_present hname] at h
          cases hfile : w.isFile (directory.child name) with
          | error fault =>
              rw [hfile] at h
              cases h
          | ok isThere =>
              rw [hfile] at h
              cases isThere with
              | false => exact hrest h
              | true =>
                  cases h
                  exact ⟨name, hmem, rfl, hfile, first, List.mem_cons_self, hlower⟩

/-- Between two states of a directory no file with the name of a schema is new, nor is anything
else with such a name, and what has such a name and is no file is still there. -/
structure Steady (w w' : Workspace) (directory : FilePath) (names names' : List String) :
    Prop where
  mem_of_mem : ∀ {name}, isSchemaName name = true → name ∈ names' → name ∈ names
  isFile_of_isFile : ∀ {name}, isSchemaName name = true →
    w'.isFile (directory.child name) = .ok true → w.isFile (directory.child name) = .ok true
  mem_of_not_isFile : ∀ {name}, isSchemaName name = true → name ∈ names →
    w.isFile (directory.child name) ≠ .ok true → name ∈ names'
  known : ∀ {name found}, isSchemaName name = true →
    w.isFile (directory.child name) = .ok found → ∃ found, w'.isFile (directory.child name) = .ok found
  mem_of_isFile : ∀ {name}, isSchemaName name = true →
    w'.isFile (directory.child name) = .ok true → name ∈ names'

/-- The choice stays the same as long as the chosen file does not go. -/
theorem choose_steady (hsteady : Steady w w' directory names names')
    {found : Option FilePath} (hwanted : ∀ name ∈ wanted, isSchemaName name = true)
    (h : choose w directory names wanted = .ok found)
    (hstays : ∀ schema, found = some schema → w'.isFile schema = .ok true) :
    choose w' directory names' wanted = .ok found := by
  induction wanted with
  | nil => exact h
  | cons first rest ih =>
      have hrest := ih fun name hname => hwanted name (List.mem_cons_of_mem first hname)
      have hschema : ∀ {name}, Text.lower name = Text.lower first → isSchemaName name = true := by
        intro name hlower
        rw [isSchemaName_congr hlower]
        exact hwanted first List.mem_cons_self
      cases hname : find? names first with
      | none =>
          have hnone : find? names' first = none := by
            refine find?_eq_none_iff.mpr fun name hmem hlower => ?_
            exact find?_eq_none_iff.mp hname name
              (hsteady.mem_of_mem (hschema hlower) hmem) hlower
          rw [choose_absent hname] at h
          rw [choose_absent hnone]
          exact hrest h
      | some name =>
          obtain ⟨hmem, hlower, hleast⟩ := find?_eq_some_iff.mp hname
          -- Nothing with a name of a schema is new, so the least name is still the least one.
          have hsame : name ∈ names' → find? names' first = some name := fun hthere =>
            find?_eq_some_iff.mpr ⟨hthere, hlower, fun other hother hotherLower =>
              hleast other (hsteady.mem_of_mem (hschema hotherLower) hother) hotherLower⟩
          rw [choose_present hname] at h
          cases hfile : w.isFile (directory.child name) with
          | error fault =>
              rw [hfile] at h
              cases h
          | ok isThere =>
              rw [hfile] at h
              cases isThere with
              | true =>
                  cases h
                  have hthere := hstays _ rfl
                  rw [choose_present (hsame (hsteady.mem_of_isFile (hschema hlower) hthere)),
                    hthere]
                  rfl
              | false =>
                  have hmem' := hsteady.mem_of_not_isFile (hschema hlower) hmem (by simp [hfile])
                  obtain ⟨isThere, hfile'⟩ := hsteady.known (hschema hlower) hfile
                  rw [choose_present (hsame hmem'), hfile']
                  cases isThere with
                  | true =>
                      have hwas := hsteady.isFile_of_isFile (hschema hlower) hfile'
                      rw [hfile] at hwas
                      cases hwas
                  | false => exact hrest h

end Convention

/-! ## Vigils -/

/-- What stays the same while a directory is watched. -/
structure Vigil where
  /-- The working directory. -/
  current : FilePath
  /-- The directory that is watched. -/
  root : FilePath
  /-- The suffixes of the files that matter. -/
  suffixes : List String
  /-- What the session works with. -/
  setup : Setup
  /-- The working directory is an absolute path. -/
  current_absolute : current.start ≠ .here
  /-- Files without a suffix do not matter. -/
  suffix_ne_empty : "" ∉ suffixes

namespace Vigil

/-- The vigil of a command over a directory. -/
def ofCommand {w : Workspace} {environment : Environment} {display : Display}
    {providers syntaxChecked suffixes : List String} {setup : Setup} (directory : FilePath)
    (hcurrent : w.current.start ≠ .here)
    (hassembled : Command.assemble w environment display providers syntaxChecked =
      .ok (setup, suffixes)) : Vigil where
  current := w.current
  root := directory
  suffixes
  setup
  current_absolute := hcurrent
  suffix_ne_empty := Command.suffix_ne_empty hassembled

variable (v : Vigil)

/-- The files of a tree as they are seen from the working directory. -/
def workspace (tree : Tree) : Workspace := tree.workspace v.current

/-- The absolute path of the directory that is watched. -/
def top : FilePath := v.current.join v.root

/-- A path leads to something below the directory whose suffix matters. -/
def Covers (p : FilePath) : Prop := v.top.IsBelow p ∧ Collect.isWanted v.suffixes p = true

/-- The files of a tree that are visited at the start. -/
def files (tree : Tree) : Except AccessFault (List FilePath) :=
  Collect.files (v.workspace tree) v.suffixes [v.root]

/-- A path is that of a file that has its schema beside it, if it has one. -/
structure Pairs (p : FilePath) : Prop where
  covers : v.Covers p
  isDocumentName : Convention.isDocumentName p.name = true
  isSchemaName : Convention.isSchemaName p.name = false
  first?_eq_none : Provider.first? v.setup.providers p = none

/-- A path is that of something beside a file that has the name of a schema. -/
def IsBeside (p schema : FilePath) : Prop :=
  ∃ name, Convention.isSchemaName name = true ∧ schema = p.parent.child name

variable {v} {p schema : FilePath}

theorem top_absolute : v.top.start ≠ .here := FilePath.start_join_ne v.current_absolute v.root

theorem Covers.absolute (h : v.Covers p) : p.start ≠ .here := by
  rw [h.1.start_eq]
  exact v.top_absolute

theorem Covers.suffix_ne_empty (h : v.Covers p) : p.suffix ≠ "" := by
  intro hsuffix
  have hwanted := h.2
  rw [Collect.isWanted, hsuffix, List.contains_iff_mem] at hwanted
  exact v.suffix_ne_empty hwanted

theorem IsBeside.isSchemaName (h : IsBeside p schema) :
    Convention.isSchemaName schema.name = true := by
  obtain ⟨name, hname, rfl⟩ := h
  rw [FilePath.name_child]
  exact hname

theorem Pairs.suffix_eq (hp : v.Pairs p) (h : IsBeside p schema) :
    Text.lower schema.suffix = Text.lower p.suffix := by
  rw [Convention.lower_suffix_of_isSchemaName h.isSchemaName,
    Convention.lower_suffix_of_isDocumentName hp.isDocumentName hp.covers.suffix_ne_empty]

/-- What lies beside a covered file and has the name of a schema is covered. -/
theorem Pairs.covers_beside (hp : v.Pairs p) (h : IsBeside p schema) : v.Covers schema := by
  have hwanted := hp.covers.2
  rw [Collect.isWanted, ← hp.suffix_eq h] at hwanted
  refine ⟨?_, hwanted⟩
  obtain ⟨name, hname, rfl⟩ := h
  refine hp.covers.1.sibling fun hdots => ?_
  subst hdots
  exact absurd hname (by decide)

/-- Providers go by suffix, so a schema beside a file without one has none either. -/
theorem Pairs.first?_beside (hp : v.Pairs p) (h : IsBeside p schema) :
    Provider.first? v.setup.providers schema = none := by
  have hnone := hp.first?_eq_none
  unfold Provider.first? Provider.schemaFor? at hnone ⊢
  rw [hp.suffix_eq h]
  exact hnone

theorem IsBeside.ne_of_pairs (h : IsBeside p schema) {other : FilePath} (hother : v.Pairs other) :
    other ≠ schema := by
  rintro rfl
  have hname := hother.isSchemaName
  rw [h.isSchemaName] at hname
  cases hname

theorem exists_of_schemaOf {w : Workspace}
    (h : Session.schemaOf w p = .ok (some schema)) :
    IsBeside p schema ∧ w.isFile schema = .ok true := by
  obtain ⟨name, -, hschema, hfile, candidate, hcandidate, hlower⟩ :=
    Convention.exists_of_choose h
  refine ⟨⟨name, ?_, hschema⟩, hfile⟩
  rw [Convention.isSchemaName_congr hlower]
  exact Convention.isSchemaName_of_mem_candidates hcandidate

/-- The files that are visited at the start are the covered ones, unless the directory is a file. -/
theorem mem_files_iff {tree : Tree} {files : List FilePath}
    (htop : (v.workspace tree).isFile v.top ≠ .ok true) (h : v.files tree = .ok files) :
    p ∈ files ↔ p ∈ (v.workspace tree).below v.top ∧ Collect.isWanted v.suffixes p = true := by
  have habsolute : (v.workspace tree).absolute v.root = v.top := rfl
  cases hdirectory : (v.workspace tree).isDirectory v.top with
  | error fault =>
      rw [Vigil.files, Collect.files_singleton] at h
      simp only [Collect.ofPath, habsolute, hdirectory] at h
      cases h
  | ok isDirectory =>
      cases isDirectory with
      | true => exact Collect.mem_files_directory_iff hdirectory h
      | false =>
          have hbelow : (v.workspace tree).below v.top = [] :=
            Tree.below_eq_nil (ne_of_eq_of_ne hdirectory (by simp))
          rw [Vigil.files, Collect.files_singleton] at h
          simp only [Collect.ofPath, habsolute, hdirectory] at h
          cases hfile : (v.workspace tree).isFile v.top with
          | error fault =>
              rw [hfile] at h
              cases h
          | ok isFile =>
              rw [hfile] at h htop
              cases isFile with
              | true => exact absurd rfl htop
              | false =>
                  cases h
                  simp [hbelow]

end Vigil

end Conform
