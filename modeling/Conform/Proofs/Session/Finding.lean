import Conform.Proofs.Session.Course
import Conform.Proofs.Session.Incremental
import Conform.Proofs.Text.Recasing

/-! # Which schema is found

The schema of a file is found among the names in its directory. A candidate is
looked for among all of them before it is asked whether the least match is a file,
so a directory hides every file whose name is greater and equals its own up to
case. Of the files that are not hidden, the least match of the first candidate
that one of them matches is the schema.
-/

namespace Conform

/-- What there is in a directory. -/
structure Contents where
  /-- The names. -/
  names : List String
  /-- Whether a name is that of a file. -/
  isFile : String → Bool

/-- A workspace shows a directory with its contents. -/
structure Workspace.Shows (w : Workspace) (directory : FilePath) (contents : Contents) : Prop where
  list_eq : w.list directory = .ok contents.names
  isFile_eq : ∀ name ∈ contents.names, w.isFile (directory.child name) = .ok (contents.isFile name)

namespace Contents

variable {contents : Contents} {name wanted : String} {candidates : List String}

/-- The names of files. -/
structure IsFile (contents : Contents) (name : String) : Prop where
  mem : name ∈ contents.names
  isFile : contents.isFile name = true

/-- The names of files that no directory hides, that is, none with a name that is less and equals
the name of the file up to case. -/
structure IsVisible (contents : Contents) (name : String) : Prop where
  isFile : contents.IsFile name
  le_of_directory : ∀ other ∈ contents.names, contents.isFile other = false →
    Text.lower other = Text.lower name → name ≤ other

/-- A name is the least one, among some, that equals a wanted one up to case. -/
structure IsLeast (among : String → Prop) (wanted name : String) : Prop where
  among_name : among name
  lower_eq : Text.lower name = Text.lower wanted
  le_of_lower_eq : ∀ other, among other → Text.lower other = Text.lower wanted → name ≤ other

/-- A name is, among some, the least match of the first candidate that any of them matches. -/
def IsPreferred (among : String → Prop) (candidates : List String) (name : String) : Prop :=
  ∃ before wanted after, candidates = before ++ wanted :: after ∧ IsLeast among wanted name ∧
    ∀ earlier ∈ before, ∀ other, among other → Text.lower other ≠ Text.lower earlier

/-- The file that is found for a wanted name. -/
def found (contents : Contents) (wanted : String) : Option String :=
  (Convention.find? contents.names wanted).filter contents.isFile

/-- The file that is found for the first of some wanted names for which there is one. -/
def chosen (contents : Contents) (candidates : List String) : Option String :=
  candidates.findSome? contents.found

/-- The choice of a schema goes by the contents of the directory. -/
theorem choose_eq {w : Workspace} {directory : FilePath} (h : w.Shows directory contents)
    (candidates : List String) :
    Convention.choose w directory contents.names candidates =
      .ok ((contents.chosen candidates).map directory.child) := by
  induction candidates with
  | nil => rfl
  | cons wanted rest ih =>
      rw [chosen, List.findSome?_cons, found]
      cases hname : Convention.find? contents.names wanted with
      | none => exact (Convention.choose_absent hname).trans ih
      | some name =>
          have hmem := (Convention.find?_eq_some_iff.mp hname).1
          rw [Convention.choose_present hname, h.isFile_eq name hmem, Option.filter_some]
          cases contents.isFile name with
          | false => exact ih
          | true => rfl

/-! ## The file that is found -/

/-- What is found for a wanted name is the least file with that name that no directory hides. -/
theorem found_eq_some_iff :
    contents.found wanted = some name ↔ IsLeast contents.IsVisible wanted name := by
  rw [found, Option.filter_eq_some_iff, Convention.find?_eq_some_iff]
  constructor
  · rintro ⟨⟨hmem, hlower, hleast⟩, hfile⟩
    refine ⟨⟨⟨hmem, hfile⟩, fun other hother _ heq => ?_⟩, hlower, fun other hother heq => ?_⟩
    · exact hleast other hother (heq.trans hlower)
    · exact hleast other hother.isFile.mem heq
  · rintro ⟨hvisible, hlower, hleast⟩
    refine ⟨⟨hvisible.isFile.mem, hlower, fun other hother heq => ?_⟩, hvisible.isFile.isFile⟩
    by_cases hhidden : ∃ directory ∈ contents.names, contents.isFile directory = false ∧
        Text.lower directory = Text.lower other ∧ directory ≤ other
    · obtain ⟨directory, hdirectory, hisFile, hsame, hle⟩ := hhidden
      have hbefore := hvisible.le_of_directory directory hdirectory hisFile
        (hsame.trans (heq.trans hlower.symm))
      exact String.le_trans hbefore hle
    · -- What no directory hides is a file, since a directory would hide itself.
      refine hleast other ⟨⟨hother, ?_⟩, fun directory hdirectory hisFile hsame => ?_⟩ heq
      · by_contra hdirectory
        rw [Bool.not_eq_true] at hdirectory
        exact hhidden ⟨other, hother, hdirectory, rfl, String.le_refl other⟩
      · rcases String.le_total other directory with hle | hle
        · exact hle
        · exact absurd ⟨directory, hdirectory, hisFile, hsame, hle⟩ hhidden

theorem found_eq_none_iff :
    contents.found wanted = none ↔
      ∀ name, contents.IsVisible name → Text.lower name ≠ Text.lower wanted := by
  constructor
  · intro hnone name hvisible hlower
    cases hname : Convention.find? contents.names wanted with
    | none => exact Convention.find?_eq_none_iff.mp hname name hvisible.isFile.mem hlower
    | some least =>
        obtain ⟨hmem, heq, hleast⟩ := Convention.find?_eq_some_iff.mp hname
        rw [found, hname, Option.filter_some] at hnone
        cases hfile : contents.isFile least with
        | true =>
            rw [hfile] at hnone
            cases hnone
        | false =>
            -- The least match is a directory, which is the file itself if it does not hide it.
            have hle := hvisible.le_of_directory least hmem hfile (heq.trans hlower.symm)
            have hsame := String.le_antisymm hle (hleast name hvisible.isFile.mem hlower)
            rw [← hsame, hvisible.isFile.isFile] at hfile
            cases hfile
  · intro hnobody
    rw [Option.eq_none_iff_forall_ne_some]
    intro name hname
    obtain ⟨hvisible, hlower, -⟩ := found_eq_some_iff.mp hname
    exact hnobody name hvisible hlower

theorem chosen_eq_some_iff :
    contents.chosen candidates = some name ↔ IsPreferred contents.IsVisible candidates name := by
  simp only [chosen, List.findSome?_eq_some_iff, found_eq_some_iff, found_eq_none_iff, IsPreferred]

theorem chosen_eq_none_iff :
    contents.chosen candidates = none ↔
      ∀ name, contents.IsVisible name → ∀ wanted ∈ candidates,
        Text.lower name ≠ Text.lower wanted := by
  simp only [chosen, List.findSome?_eq_none_iff, found_eq_none_iff]
  exact ⟨fun h name hname wanted hwanted => h wanted hwanted name hname,
    fun h wanted hwanted name hname => h name hname wanted hwanted⟩

/-- A file is chosen if nothing in its directory matches an earlier candidate, and nothing with a
lesser name its own one. -/
theorem chosen_of_least {before after : List String}
    (hcandidates : candidates = before ++ wanted :: after)
    (hearlier : ∀ earlier ∈ before, ∀ other ∈ contents.names,
      Text.lower other ≠ Text.lower earlier)
    (hname : name ∈ contents.names) (hfile : contents.isFile name = true)
    (hlower : Text.lower name = Text.lower wanted)
    (hleast : ∀ other ∈ contents.names, Text.lower other = Text.lower wanted → name ≤ other) :
    contents.chosen candidates = some name := by
  have hfound : contents.found wanted = some name := by
    rw [found, Convention.find?_eq_some_iff.mpr ⟨hname, hlower, hleast⟩, Option.filter_some,
      if_pos hfile]
  refine List.findSome?_eq_some_iff.mpr
    ⟨before, wanted, after, hcandidates, hfound, fun earlier hmem => ?_⟩
  rw [found, Convention.find?_eq_none_iff.mpr (hearlier earlier hmem), Option.filter_none]

/-! ## Contents of trees -/

/-- The contents of a directory with named trees in it. -/
def ofEntries (entries : List (String × Tree)) : Contents where
  names := entries.map (·.1)
  isFile name := (entries.lookup name).any Tree.isFile

/-- A name can be asked for in a directory: it is no pair of dots, holds no null character and is
not too long. -/
def IsPlain (directory : FilePath) (name : String) : Bool :=
  name != ".." && !(directory.child name).text.toList.contains '\x00' &&
    decide ((directory.child name).text.utf8ByteSize ≤ Tree.pathLimit) &&
    decide (name.utf8ByteSize ≤ Tree.nameLimit)

/-- What stands in a directory of a tree is shown where the names can be asked for. -/
theorem shows_ofEntries {root : Tree} {current directory : FilePath}
    {entries : List (String × Tree)}
    (hfind : root.find current directory = .ok (.directory entries))
    (hplain : ∀ entry ∈ entries, IsPlain directory entry.1 = true) :
    (root.workspace current).Shows directory (ofEntries entries) where
  list_eq := Tree.workspace_list_iff.mpr ⟨entries, hfind, rfl⟩
  isFile_eq name hname := by
    obtain ⟨entry, hentry, rfl⟩ := List.mem_map.mp hname
    have hentryPlain := hplain entry hentry
    simp only [IsPlain, Bool.and_eq_true, bne_iff_ne, Bool.not_eq_true', decide_eq_true_eq,
      List.contains_eq_mem, decide_eq_false_iff_not] at hentryPlain
    obtain ⟨⟨⟨hdots, hnull⟩, hpath⟩, hlength⟩ := hentryPlain
    rw [Tree.isFile_child_eq hdots hfind, if_neg hnull, if_neg (by omega)]
    rfl

end Contents

/-! ## The schema of a file -/

namespace Session

variable {w : Workspace} {file : FilePath} {contents : Contents}

/-- Finding the schema of a file comes to the choice among the contents of its directory. -/
theorem resolve_eq_chosen (hfile : Convention.isSchemaName file.name = false)
    (hshows : w.Shows file.parent contents) (s : Session) :
    (s.resolve w file).value =
        .ok ((contents.chosen (Convention.candidates file)).map file.parent.child) ∧
      (s.resolve w file).session =
        (contents.chosen (Convention.candidates file)).elim s fun name =>
          { s with index := s.index.associate (file.parent.child name) file } := by
  have hnames : s.namesIn w file.parent = s.done contents.names := by
    rw [namesIn, hshows.list_eq]
  rw [resolve, if_neg (by simp [hfile]), hnames, Act.done_andThen, Contents.choose_eq hshows]
  cases contents.chosen (Convention.candidates file) with
  | none => exact ⟨rfl, rfl⟩
  | some name => exact ⟨rfl, rfl⟩

theorem resolve_child_eq {directory : FilePath} {name : String}
    (hname : Convention.isSchemaName name = false)
    (hshows : w.Shows directory contents) (s : Session) :
    (s.resolve w (directory.child name)).value = .ok
      ((contents.chosen (Convention.candidates (directory.child name))).map directory.child) := by
  have hfile : Convention.isSchemaName (directory.child name).name = false := by
    rw [FilePath.name_child, hname]
  have hparent : (directory.child name).parent = directory := FilePath.parent_child directory name
  rw [(resolve_eq_chosen hfile (hparent ▸ hshows) s).1, hparent]

/-- For every file that has not the name of a schema, whatever there is in its directory: its schema
is the least file that is a match of the first candidate that any file there matches, but for the
files that a directory hides, and the file is put under it. There is none, and nothing is changed,
exactly if no file that is not hidden matches any candidate. -/
theorem resolve_finds (hfile : Convention.isSchemaName file.name = false)
    (hshows : w.Shows file.parent contents) (s : Session) :
    ∃ found : Option String,
      (s.resolve w file).value = .ok (found.map file.parent.child) ∧
      (s.resolve w file).session = (found.elim s fun name =>
        { s with index := s.index.associate (file.parent.child name) file }) ∧
      (∀ name, found = some name ↔
        Contents.IsPreferred contents.IsVisible (Convention.candidates file) name) ∧
      (found = none ↔ ∀ name, contents.IsVisible name →
        ∀ wanted ∈ Convention.candidates file, Text.lower name ≠ Text.lower wanted) := by
  obtain ⟨hvalue, hsession⟩ := resolve_eq_chosen hfile hshows s
  exact ⟨_, hvalue, hsession, fun _ => Contents.chosen_eq_some_iff, Contents.chosen_eq_none_iff⟩

end Session

open Vigil Vigil.Sample

/-! ## Directories with names of schemas -/

namespace Session

/-- The first candidate for a file in several cases, once as a directory, and the second one. -/
def variants : List (String × Tree) :=
  [("a.json", .file []), ("aSchema.json", .directory []), ("ASchema.json", .file []),
    ("ASCHEMA.json", .file []), ("a.Schema.json", .file [])]

/-- The least match of the first candidate is found if it is a file. -/
theorem resolve_finds_variants :
    let w := (Tree.directory [("w", .directory variants)]).workspace ⟨.root, ["w"]⟩
    Convention.isSchemaName data.name = false ∧ w.Shows data.parent (.ofEntries variants) ∧
      (Session.empty.resolve w data).value = .ok (some (data.parent.child "ASCHEMA.json")) ∧
      (Session.empty.resolve w data).session =
        ⟨⟨[(data.parent.child "ASCHEMA.json", [data])]⟩, .empty⟩ := by
  have hfile : Convention.isSchemaName data.name = false := by decide
  have hshows : ((Tree.directory [("w", .directory variants)]).workspace ⟨.root, ["w"]⟩).Shows
      data.parent (.ofEntries variants) := Contents.shows_ofEntries rfl (by decide)
  have hcandidates : Convention.candidates data =
      [] ++ "aSchema.json" :: ["a.schema.json", "schema.json"] := candidates_data
  have hchosen : (Contents.ofEntries variants).chosen (Convention.candidates data) =
      some "ASCHEMA.json" :=
    Contents.chosen_of_least hcandidates (by decide) (by decide) (by decide) (by decide) (by decide)
  obtain ⟨found, hvalue, hsession, hfound, -⟩ := resolve_finds hfile hshows Session.empty
  obtain rfl := (hfound "ASCHEMA.json").mpr (Contents.chosen_eq_some_iff.mp hchosen)
  exact ⟨hfile, hshows, hvalue, hsession⟩

/-- It takes that no directory hides it. A file that is the least match of the first candidate, and
the only one, is passed over for a directory whose name is less and equals its own up to case. -/
theorem resolve_passes_over :
    let contents := Contents.ofEntries [("ASCHEMA.json", .directory [("b.json", .file [])]),
      ("a.json", .file []), ("aSchema.json", .file [])]
    Convention.isSchemaName data.name = false ∧
      (sample.workspace shadowed).Shows data.parent contents ∧
      Contents.IsPreferred contents.IsFile (Convention.candidates data) "aSchema.json" ∧
      (Session.empty.resolve (sample.workspace shadowed) data).value = .ok none ∧
      (Session.empty.resolve (sample.workspace shadowed) data).session = .empty := by
  intro contents
  have hfile : Convention.isSchemaName data.name = false := by decide
  have hlist : (sample.workspace shadowed).list data.parent = .ok contents.names := rfl
  have hends := resolve_ends_of_schemaOf (s := .empty) hfile hlist shadowed_schemaOf
  refine ⟨hfile, Contents.shows_ofEntries rfl (by decide), ?_, hends.value_eq, hends.session_eq⟩
  have hleast : ∀ other ∈ contents.names, contents.isFile other = true →
      Text.lower other = Text.lower "aSchema.json" → "aSchema.json" ≤ other := by decide
  refine ⟨[], "aSchema.json", ["a.schema.json", "schema.json"], candidates_data, ⟨?_, rfl, ?_⟩,
    by simp⟩
  · exact ⟨by decide, by decide⟩
  · exact fun other hother => hleast other hother.mem hother.isFile

end Session

end Conform
