import Conform.Proofs.Command.Providers
import Conform.Proofs.Convention
import Conform.Proofs.Session.Changes

/-! # Files that are found and files that are acted on

The files of a directory are found by their suffix. The change of a file is acted
on if a provider answers for it, which goes by the suffix as well, or if its name
ends like that of a document. The two agree on every name but one: a file whose
whole name is `.json`, in any case, has the ending but no suffix.
-/

namespace Conform

/-- The change of a file is not passed over: in some session it changes what is held, or says
something, or breaks down. -/
def Setup.ActsOn (w : Workspace) (setup : Setup) (file : FilePath) : Prop :=
  ∃ s : Session, s.perform w setup (.changed file) ≠ s.done ()

namespace Course

variable {file : FilePath}

/-- Where no file has a place, a change that comes to something checks its file. -/
theorem mem_checks_empty {course : Course} (hidle : course ≠ .idle)
    (hwhole : ∀ reason, course ≠ .broken reason) : file ∈ (course.checks file .empty).files := by
  cases course with
  | broken reason => exact absurd rfl (hwhole reason)
  | idle => exact absurd rfl hidle
  | provided text => exact List.mem_singleton_self file
  | under schema => exact List.mem_singleton_self file
  | alone =>
      rw [checks_alone_of_nil rfl]
      exact List.mem_singleton_self file

theorem checks_place_empty (file : FilePath) (course : Course) :
    course.checks file (course.place file .empty) = course.checks file .empty := by
  cases course <;> rfl

end Course

namespace Session

variable {w : Workspace} {setup : Setup} {file : FilePath}

/-! ## Files that are acted on -/

theorem perform_changed_of_idle (h : course w setup (w.absolute file) = .idle) (s : Session) :
    s.perform w setup (.changed file) = s.done () := by
  have hstart : s.start w setup (.changed file) = s.done [] := by
    rw [start, startChanged]
    unfold course at h
    generalize w.absolute file = f at h ⊢
    cases hthere : leadsToFile w f with
    | error fault =>
        rw [hthere] at h
        cases h
    | ok isThere =>
        cases isThere with
        | false => rfl
        | true =>
            rw [hthere] at h
            dsimp only at h ⊢
            rw [startPresent]
            cases hfirst : Provider.first? setup.providers f with
            | some text =>
                rw [hfirst] at h
                cases h
            | none =>
                rw [hfirst] at h
                dsimp only at h ⊢
                split
                next hname =>
                  rw [if_pos hname] at h
                  split at h <;> cases h
                next => rfl
  rw [perform, hstart, Act.done_andThen]
  rfl

/-- A pass says the same of a file whatever was said before, so no change that comes to something
leaves every session as it was. -/
theorem actsOn_of_ne_idle (h : course w setup (w.absolute file) ≠ .idle) :
    setup.ActsOn w file := by
  by_contra hnothing
  have hstays : ∀ s : Session, s.perform w setup (.changed file) = s.done () := by
    intro s
    by_contra hne
    exact hnothing ⟨s, hne⟩
  generalize hfile : w.absolute file = f at h
  have hsaid : ∀ store : Store, verdict w setup f ((course w setup f).checks f .empty).target =
      some (store.diagnosticsFor f) := by
    intro store
    have hends : ((⟨.empty, store⟩ : Session).perform w setup (.changed file)).Ends (.ok ())
        ⟨.empty, store⟩ := by
      rw [hstays]
      exact Act.done_ends_iff.mpr ⟨rfl, rfl⟩
    have hchanged := perform_changed_ends hends
    rw [hfile] at hchanged
    have hchecked := hchanged.checkedEach
    rw [placing, Course.checks_place_empty] at hchecked
    exact hchecked.verdict_eq f (Course.mem_checks_empty h hchanged.not_broken)
  let d : Diagnostic := ⟨f, "", 1, .error⟩
  have hnone : Store.empty.diagnosticsFor f = [] := rfl
  have hone : (Store.empty.add d).diagnosticsFor f = [d] := by
    simp [Store.add, Store.addTo, Store.empty, Store.diagnosticsFor, d]
  have hsome := (hsaid .empty).symm.trans (hsaid (Store.empty.add d))
  rw [hnone, hone] at hsome
  cases hsome

/-- The change of a file that is there is acted on exactly if a provider answers for the file or its
name is that of a document. -/
theorem actsOn_iff (hthere : leadsToFile w (w.absolute file) = .ok true) :
    setup.ActsOn w file ↔
      (∃ text, Provider.first? setup.providers (w.absolute file) = some text) ∨
        Convention.isDocumentName (w.absolute file).name = true := by
  have hidle : course w setup (w.absolute file) = .idle ↔
      Provider.first? setup.providers (w.absolute file) = none ∧
        ¬Convention.isDocumentName (w.absolute file).name = true := by
    rw [course, hthere]
    dsimp only
    cases Provider.first? setup.providers (w.absolute file) with
    | some text => simp
    | none =>
        dsimp only
        split
        next hname => split <;> simp [hname]
        next hname => simp [hname]
  constructor
  · rintro ⟨s, hne⟩
    by_contra hnot
    rw [not_or] at hnot
    refine hne (perform_changed_of_idle (hidle.mpr ⟨?_, hnot.2⟩) s)
    exact Option.eq_none_iff_forall_ne_some.mpr fun text htext => hnot.1 ⟨text, htext⟩
  · intro h
    refine actsOn_of_ne_idle fun hcourse => ?_
    obtain ⟨hnone, hname⟩ := hidle.mp hcourse
    rcases h with ⟨text, htext⟩ | hdocument
    · rw [hnone] at htext
      cases htext
    · exact hname hdocument

end Session

/-! ## Files that are found -/

namespace Command

open Collect

variable {w : Workspace} {environment : Environment} {specs syntaxChecked suffixes : List String}
  {display : Display} {setup : Setup}

/-- Without providers in the settings a command has those of its options and no others. -/
theorem exists_of_assemble_of_nil
    (hsettings : ∀ settings, Settings.ofEnvironment environment = .ok settings →
      settings.providers = [])
    (h : assemble w environment display specs syntaxChecked = .ok (setup, suffixes)) :
    ∃ paths, suffixes = providedSuffixes paths ∧
      Setup.providersOf w paths = .ok setup.providers := by
  obtain ⟨paths, settings, hspecs, hread, hcreate, rfl⟩ := exists_of_assemble h
  have hproviders := Setup.providersOf_schemaPaths hcreate
  rw [Setup.schemaPaths_of_nil (hsettings settings hread)
    (Settings.distinct_of_parseSpecs hspecs)] at hproviders
  exact ⟨paths, rfl, hproviders⟩

/-- The suffixes that are looked for are those of the files that are acted on, but for a name that
is no more than the suffix of documents. -/
theorem isWanted_iff {paths : List (String × String)} {providers : List Provider}
    (hproviders : Setup.providersOf w paths = .ok providers) (hempty : "" ∉ providedSuffixes paths)
    {file : FilePath} :
    isWanted (providedSuffixes paths) file = true ↔
      ((∃ text, Provider.first? providers file = some text) ∨
        Convention.isDocumentName file.name = true) ∧ Text.lower file.name ≠ ".json" := by
  constructor
  · intro hwanted
    refine ⟨?_, fun hwhole => ?_⟩
    · rcases isWanted_providedSuffixes_iff.mp hwanted with hdocument | hprovided
      · rw [isDocument_iff, documentSuffixes, List.mem_singleton] at hdocument
        exact Or.inr (Convention.isDocumentName_iff_lower.mpr (Or.inl hdocument))
      · exact Or.inl ((Setup.exists_first?_iff hproviders).mpr hprovided)
    · rw [isWanted, Convention.suffix_eq_empty hwhole] at hwanted
      exact hempty (List.contains_iff_mem.mp hwanted)
  · rintro ⟨hprovided | hdocument, hwhole⟩
    · exact isWanted_providedSuffixes_iff.mpr
        (Or.inr ((Setup.exists_first?_iff hproviders).mp hprovided))
    · have hsuffix := (Convention.isDocumentName_iff_lower.mp hdocument).resolve_right hwhole
      exact isWanted_providedSuffixes_iff.mpr
        (Or.inl (isDocument_iff.mpr (List.mem_singleton.mpr hsuffix)))

/-- A command has no providers but those of its options and looks for the files of a directory. A
file below the directory is acted on exactly if a provider answers for it or its name is that of a
document, and it is found exactly if it is acted on and its whole name is not the suffix of
documents. -/
theorem assemble_discovers {root : Tree} {current directory : FilePath}
    (hcurrent : current.start ≠ .here)
    (hsettings : ∀ settings, Settings.ofEnvironment environment = .ok settings →
      settings.providers = [])
    (hassemble : assemble (root.workspace current) environment display specs syntaxChecked =
      .ok (setup, suffixes))
    (hdirectory : (root.workspace current).isDirectory
      ((root.workspace current).absolute directory) = .ok true) :
    ∃ found, Collect.files (root.workspace current) suffixes [directory] = .ok found ∧
      ∀ file, ((root.workspace current).absolute directory).IsBelow file →
        (root.workspace current).isFile file = .ok true →
          (setup.ActsOn (root.workspace current) file ↔
            (∃ text, Provider.first? setup.providers file = some text) ∨
              Convention.isDocumentName file.name = true) ∧
          (file ∈ found ↔
            setup.ActsOn (root.workspace current) file ∧ Text.lower file.name ≠ ".json") := by
  have hempty := suffix_ne_empty hassemble
  obtain ⟨paths, rfl, hproviders⟩ := exists_of_assemble_of_nil hsettings hassemble
  have hfiles := files_directory hdirectory (providedSuffixes paths)
  refine ⟨_, hfiles, fun file hbelow hfile => ?_⟩
  have htop : ((root.workspace current).absolute directory).start ≠ .here :=
    FilePath.start_join_ne hcurrent directory
  have habsolute : (root.workspace current).absolute file = file :=
    FilePath.join_eq_right (hbelow.start_eq ▸ htop)
  have hthere : Session.leadsToFile (root.workspace current)
      ((root.workspace current).absolute file) = .ok true := by
    rw [habsolute]
    exact Tree.leadsToFile_iff.mpr hfile
  have hacts : setup.ActsOn (root.workspace current) file ↔ _ := Session.actsOn_iff hthere
  rw [habsolute] at hacts
  refine ⟨hacts, ?_⟩
  rw [mem_files_directory_iff hdirectory hfiles, isWanted_iff hproviders hempty, hacts]
  exact and_iff_right (Tree.mem_below_of_isFile htop hbelow hfile)

namespace Sample

/-- A directory with a schema, and beside the schema a directory with a document, a file for the
schema and a file whose whole name is the suffix of documents. All of them are cut off. -/
def hidden : Tree :=
  .directory [("w", .directory [("s.json", .file [0x7b, 0x7d]), ("d", .directory
    [("a.json", .file [0x5b]), ("b.conf", .file [0x5b]), (".JSON", .file [0x5b])])])]

/-- The directory where a command is given. -/
def place : FilePath := ⟨.root, ["w"]⟩

/-- A file of the inner directory. -/
def innerFile (name : String) : FilePath := ⟨.root, ["w", "d", name]⟩

theorem innerFile_isBelow {name : String} (hname : name ≠ "..") :
    ((hidden.workspace place).absolute inner).IsBelow (innerFile name) :=
  ⟨[name], List.cons_ne_nil _ _, by simpa using hname.symm, rfl⟩

end Sample

open Sample

/-- The document and the file with a provider are found, and the third one is not. -/
theorem assemble_discovers_hidden :
    place.start ≠ .here ∧
      (∀ settings, Settings.ofEnvironment [] = .ok settings → settings.providers = []) ∧
      (hidden.workspace place).isDirectory ((hidden.workspace place).absolute inner) = .ok true ∧
      ∃ setup suffixes found,
        assemble (hidden.workspace place) [] .silent [entry] [] = .ok (setup, suffixes) ∧
        Collect.files (hidden.workspace place) suffixes [inner] = .ok found ∧
        innerFile "a.json" ∈ found ∧ innerFile "b.conf" ∈ found ∧ innerFile ".JSON" ∉ found := by
  have hsettings : ∀ settings, Settings.ofEnvironment [] = .ok settings →
      settings.providers = [] := by
    intro settings h
    cases h
    rfl
  obtain ⟨⟨setup, suffixes⟩, hassemble⟩ : ∃ assembled,
      assemble (hidden.workspace place) [] .silent [entry] [] = .ok assembled := ⟨_, rfl⟩
  have hproviders : Setup.providersOf (hidden.workspace place) given = .ok setup.providers :=
    (of_assemble rfl rfl hassemble).2
  have hdirectory : (hidden.workspace place).isDirectory
      ((hidden.workspace place).absolute inner) = .ok true := rfl
  obtain ⟨found, hfound, hfiles⟩ :=
    assemble_discovers (by decide) hsettings hassemble hdirectory
  have hdocument := hfiles (innerFile "a.json") (innerFile_isBelow (by decide)) rfl
  have hprovided := hfiles (innerFile "b.conf") (innerFile_isBelow (by decide)) rfl
  have hbare := hfiles (innerFile ".JSON") (innerFile_isBelow (by decide)) rfl
  refine ⟨by decide, hsettings, hdirectory, setup, suffixes, found, hassemble, hfound, ?_, ?_, ?_⟩
  · exact hdocument.2.mpr ⟨hdocument.1.mpr (Or.inr (by decide)), by decide⟩
  · refine hprovided.2.mpr ⟨hprovided.1.mpr (Or.inl ?_), by decide⟩
    exact (Setup.exists_first?_iff hproviders).mpr (by decide +kernel)
  · rw [hbare.2]
    exact fun h => h.2 (by decide)

/-- A change of the third file is acted on, but it is not found. -/
theorem assemble_passes_over :
    ∃ setup suffixes,
      assemble (hidden.workspace place) [] .silent [] [] = .ok (setup, suffixes) ∧
      (hidden.workspace place).isDirectory ((hidden.workspace place).absolute inner) = .ok true ∧
      ((hidden.workspace place).absolute inner).IsBelow (innerFile ".JSON") ∧
      (hidden.workspace place).isFile (innerFile ".JSON") = .ok true ∧
      Convention.isDocumentName (innerFile ".JSON").name = true ∧
      setup.ActsOn (hidden.workspace place) (innerFile ".JSON") ∧
      Collect.files (hidden.workspace place) suffixes [inner] = .ok [innerFile "a.json"] := by
  obtain ⟨setup, hcreate⟩ : ∃ setup,
      assemble (hidden.workspace place) [] .silent [] [] = .ok (setup, documentSuffixes) := ⟨_, rfl⟩
  refine ⟨setup, _, hcreate, rfl, innerFile_isBelow (by decide), rfl, by decide, ?_, ?_⟩
  · exact (Session.actsOn_iff rfl).mpr (Or.inr (by decide))
  · have hfound : ofPath (hidden.workspace place) documentSuffixes inner =
        .ok [innerFile "a.json"] := rfl
    rw [files_singleton, hfound]
    exact congrArg Except.ok (List.mergeSort_singleton _)

end Command

end Conform
