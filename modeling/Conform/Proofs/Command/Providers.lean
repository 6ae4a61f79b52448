import Conform.Command.Reply
import Conform.Proofs.Assembly
import Conform.Proofs.Files.Collecting
import Conform.Proofs.Session.Orders
import Conform.Proofs.Session.Provided
import Conform.Proofs.Suffixes

/-! # Checks with providers in the settings

Providers may be options of a check or stand in the settings. They are the same
providers, but only the suffixes of options are looked for when files are
collected. So a check with its providers in the settings says what the check
with options says of documents, and nothing of other files.
-/

namespace Conform

namespace Collect

/-- Whether a file is looked at whatever providers there are. -/
def isDocument (file : FilePath) : Bool := isWanted documentSuffixes file

/-- The suffixes that are wanted when providers are options. -/
def providedSuffixes (paths : List (String × String)) : List String :=
  documentSuffixes ++ paths.map fun entry => normalizeSuffix entry.1

variable {paths : List (String × String)} {file : FilePath}

theorem isDocument_iff : isDocument file = true ↔ Text.lower file.suffix ∈ documentSuffixes :=
  List.contains_iff_mem

theorem isWanted_providedSuffixes_iff :
    isWanted (providedSuffixes paths) file = true ↔
      isDocument file = true ∨ Text.lower file.suffix ∈ (paths.map (·.1)).map normalizeSuffix := by
  simp only [isDocument_iff, isWanted, providedSuffixes, List.contains_iff_mem, List.mem_append,
    List.map_map, Function.comp_def]

/-- The documents of a directory are the documents among its files with any wanted suffix. -/
theorem files_documents {w : Workspace} {directory : FilePath} {files : List FilePath}
    (hdirectory : w.isDirectory (w.absolute directory) = .ok true)
    (h : Collect.files w (providedSuffixes paths) [directory] = .ok files) :
    Collect.files w documentSuffixes [directory] = .ok (files.filter isDocument) := by
  rw [files_directory hdirectory] at h ⊢
  cases h
  rw [List.filter_filter]
  refine congrArg Except.ok (List.filter_congr fun file _ => ?_)
  rw [Bool.eq_iff_iff, Bool.and_eq_true]
  exact ⟨fun hfile => ⟨hfile, isWanted_providedSuffixes_iff.mpr (Or.inl hfile)⟩, And.left⟩

end Collect

namespace Command

open Collect

variable {w : Workspace} {environment : Environment} {specs syntaxChecked : List String}
  {value : String} {paths : List (String × String)} {directory : FilePath} {display : Display}

/-! ## What both ways put together -/

section Assembled

variable (hspecs : Settings.parseSpecs specs = .ok paths)
  (habsent : environment.lookup Settings.providersVariable = none)

include hspecs habsent

/-- The setup is the same for both ways of giving providers, but the suffixes are not. -/
theorem assemble_settings (hvalue : Settings.parseSpecs (Settings.splitList value) = .ok paths) :
    assemble w ((Settings.providersVariable, value) :: environment) display [] syntaxChecked =
      (assemble w environment display specs syntaxChecked).map fun assembled =>
        (assembled.1, documentSuffixes) := by
  obtain ⟨settings, hsettings, hnone, hset⟩ := Settings.exists_ofEnvironment habsent
  have hpaths := Settings.distinct_of_parseSpecs hspecs
  have hoptions : Settings.parseSpecs [] = .ok [] := rfl
  have hwith : Settings.ofEnvironment ((Settings.providersVariable, value) :: environment) =
      .ok { settings with providers := paths } := by
    rw [hset, hvalue]
    rfl
  unfold assemble
  rw [hspecs, hsettings, hoptions, hwith]
  dsimp only
  rw [Setup.create_eq hnone hpaths]
  cases Setup.create w display settings paths syntaxChecked <;> rfl

theorem of_assemble {setup : Setup} {suffixes : List String}
    (h : assemble w environment display specs syntaxChecked = .ok (setup, suffixes)) :
    suffixes = providedSuffixes paths ∧ Setup.providersOf w paths = .ok setup.providers := by
  obtain ⟨settings, hsettings, hnone, -⟩ := Settings.exists_ofEnvironment habsent
  obtain ⟨explicit, settings', hexplicit, hsettings', hcreate, rfl⟩ := exists_of_assemble h
  cases hspecs.symm.trans hexplicit
  cases hsettings.symm.trans hsettings'
  have hproviders := Setup.providersOf_schemaPaths hcreate
  rw [Setup.schemaPaths_of_nil hnone (Settings.distinct_of_parseSpecs hspecs)] at hproviders
  exact ⟨rfl, hproviders⟩

end Assembled

/-! ## What both ways say -/

/-- A provider answers for every file that is wanted and no document, so a visit of the documents
among the files says the same of these and nothing of the other files. -/
theorem visit_documents {setup : Setup} {files : List FilePath}
    (hproviders : Setup.providersOf w paths = .ok setup.providers)
    (hempty : "" ∉ providedSuffixes paths)
    (hfiles : ∀ file ∈ files, isWanted (providedSuffixes paths) file = true) :
    Session.Mirrors isDocument (Session.empty.visit w setup files).session
      (Session.empty.visit w setup (files.filter isDocument)).session := by
  apply (Session.empty_mirrors isDocument).visit
  · intro file hfile
    rw [isDocument, isDocument, isWanted, isWanted, suffix_absolute hempty (hfiles file hfile)]
  · intro file hfile hnot
    have hsuffix := (isWanted_providedSuffixes_iff.mp (hfiles file hfile)).resolve_left
      (Bool.eq_false_iff.mp hnot)
    rw [← suffix_absolute hempty (hfiles file hfile)] at hsuffix
    exact (Setup.exists_first?_iff hproviders).mpr hsuffix

theorem exists_shownDiagnostics_iff {ds : List Diagnostic} :
    (∃ notes, shownDiagnostics w ds = .ok notes) ↔
      ∀ d ∈ ds, ∃ cells, Table.row (some w.current) d = .ok cells := by
  rw [← exists_mapM_eq_ok_iff]
  unfold shownDiagnostics Table.ofDiagnostics
  cases ds with
  | nil => exact ⟨fun _ => ⟨[], rfl⟩, fun _ => ⟨[], rfl⟩⟩
  | cons d rest =>
      rw [List.isEmpty_cons, if_neg Bool.false_ne_true]
      cases (d :: rest).mapM (Table.row (some w.current)) with
      | error fault =>
          constructor
          · rintro ⟨notes, h⟩
            cases h
          · rintro ⟨rows, h⟩
            cases h
      | ok rows => exact ⟨fun _ => ⟨rows, rfl⟩, fun _ => ⟨_, rfl⟩⟩

theorem report_exitCode_le_one (w : Workspace) (files : List FilePath) (visited : Act Unit) :
    (report w files visited).exitCode ≤ 1 := by
  unfold report
  dsimp only
  split
  next => exact Nat.le_refl 1
  next =>
    dsimp only [Reply.ended]
    split <;> omega

/-- A report ends without failure exactly if there is no error and everything can be shown. -/
theorem report_exitCode_eq_zero_iff {files : List FilePath} {visited : Act Unit} :
    (report w files visited).exitCode = 0 ↔
      ∀ d ∈ visited.session.store.all,
        d.severity ≠ .error ∧ ∃ cells, Table.row (some w.current) d = .ok cells := by
  have hshown := @exists_shownDiagnostics_iff w visited.session.store.all
  have herrors : visited.session.store.errorCount = 0 ↔
      ∀ d ∈ visited.session.store.all, d.severity ≠ .error := by
    rw [Store.errorCount, List.length_eq_zero_iff, List.filter_eq_nil_iff]
    simp
  rw [forall₂_and, ← hshown, ← herrors]
  unfold report
  dsimp only
  cases shownDiagnostics w visited.session.store.all with
  | error fault => simp [Reply.escaping]
  | ok shown => simp [Reply.ended]

/-- Where less is said, a report does not end worse. -/
theorem report_exitCode_le {files others : List FilePath} {visited other : Act Unit}
    (h : ∀ d ∈ other.session.store.all, d ∈ visited.session.store.all) :
    (report w others other).exitCode ≤ (report w files visited).exitCode := by
  by_cases hzero : (report w files visited).exitCode = 0
  · have hothers : (report w others other).exitCode = 0 :=
      report_exitCode_eq_zero_iff.mpr fun d hd => report_exitCode_eq_zero_iff.mp hzero d (h d hd)
    rw [hothers]
    exact Nat.zero_le _
  · exact (report_exitCode_le_one w others other).trans (Nat.pos_of_ne_zero hzero)

/-- One check visits files of a directory, and another one visits the documents among them. They say
the same of documents, and of other files the second one says nothing. -/
structure Narrows (w : Workspace) (paths : List (String × String)) (directory : FilePath)
    (setup : Setup) (files : List FilePath) (whole part : Except Reply Reply) : Prop where
  files_eq : Collect.files w (providedSuffixes paths) [directory] = .ok files
  documents_eq : Collect.files w documentSuffixes [directory] = .ok (files.filter isDocument)
  whole_eq : whole = .ok (report w files (Session.empty.visit w setup files))
  part_eq : part = .ok (report w (files.filter isDocument)
    (Session.empty.visit w setup (files.filter isDocument)))
  said_eq : ∀ p, (Session.empty.visit w setup
      (files.filter isDocument)).session.store.diagnosticsFor p =
    if isDocument p then (Session.empty.visit w setup files).session.store.diagnosticsFor p else []
  exitCode_le : (report w (files.filter isDocument)
      (Session.empty.visit w setup (files.filter isDocument))).exitCode ≤
    (report w files (Session.empty.visit w setup files)).exitCode

theorem runCheck_eq {setup : Setup} {suffixes : List String} {files : List FilePath}
    (hmissing : missing w [directory] = .ok [])
    (hassemble : assemble w environment .silent specs syntaxChecked = .ok (setup, suffixes))
    (hfiles : Collect.files w suffixes [directory] = .ok files) :
    runCheck w environment [directory] specs syntaxChecked =
      .ok (report w files (Session.empty.visit w setup files)) := by
  unfold runCheck assembled
  rw [hmissing, hassemble]
  change (Reply.asking (Collect.files w suffixes [directory]) >>= fun files =>
    pure (report w files (Session.empty.visit w setup files))) = _
  rw [hfiles]
  rfl

/-- A check that ends because a path leads nowhere, or nobody can tell, does so whatever its
providers are. -/
theorem runCheck_eq_error_of_missing (h : missing w [directory] ≠ .ok []) :
    ∃ early, ∀ environment specs syntaxChecked,
      runCheck w environment [directory] specs syntaxChecked = .error early := by
  cases hmissing : missing w [directory] with
  | error fault =>
      refine ⟨.escaping (.brokenDown (.access fault)) [], fun environment specs syntaxChecked => ?_⟩
      unfold runCheck
      rw [hmissing]
      rfl
  | ok nowhere =>
      cases nowhere with
      | nil => exact absurd hmissing h
      | cons path rest =>
          refine ⟨.mistaken ("No such file or directory: " ++
            ", ".intercalate ((path :: rest).map FilePath.text)),
            fun environment specs syntaxChecked => ?_⟩
          unfold runCheck
          rw [hmissing]
          rfl

theorem runCheck_eq_error {asked : List FilePath} {fault : SetupFault}
    (hmissing : missing w asked = .ok [])
    (hassemble : assemble w environment .silent specs syntaxChecked = .error fault) :
    runCheck w environment asked specs syntaxChecked =
      .error (.mistaken fault.message) := by
  unfold runCheck assembled
  rw [hmissing, hassemble]
  rfl

theorem exists_narrows {setup : Setup} {given : Environment}
    (hdirectory : w.isDirectory (w.absolute directory) = .ok true)
    (hmissing : missing w [directory] = .ok [])
    (hproviders : Setup.providersOf w paths = .ok setup.providers)
    (hwhole : assemble w environment .silent specs syntaxChecked =
      .ok (setup, providedSuffixes paths))
    (hpart : assemble w given .silent [] syntaxChecked = .ok (setup, documentSuffixes)) :
    ∃ files, Narrows w paths directory setup files
      (runCheck w environment [directory] specs syntaxChecked)
      (runCheck w given [directory] [] syntaxChecked) := by
  have hfiles := files_directory hdirectory (providedSuffixes paths)
  have hdocuments := files_documents hdirectory hfiles
  have hmirrors := visit_documents hproviders (suffix_ne_empty hwhole) fun file hfile =>
    ((mem_files_directory_iff hdirectory hfiles).mp hfile).2
  refine ⟨_, hfiles, hdocuments, runCheck_eq hmissing hwhole hfiles,
    runCheck_eq hmissing hpart hdocuments, hmirrors.said_eq, report_exitCode_le fun d hd => ?_⟩
  have hkeyed := fun visited =>
    Session.visit_isKeyed (s := .empty) w setup visited Store.empty_isKeyed
  -- What the second visit says is of a document, of which the first visit says the same.
  rw [(hkeyed _).mem_all_iff] at hd ⊢
  rw [hmirrors.said_eq] at hd
  split at hd
  next => exact hd
  next => cases hd

theorem Narrows.part_eq_whole {setup : Setup} {files : List FilePath}
    {whole part : Except Reply Reply} (h : Narrows w paths directory setup files whole part)
    (hall : ∀ file ∈ files, isDocument file = true) : part = whole := by
  rw [h.part_eq, h.whole_eq, List.filter_eq_self.mpr hall]

/-- A directory is checked with the same providers, which are options of the first check and stand
in the settings of the second one. Both checks work with the same setup, and where the first one
ends early so does the second. Otherwise the first one visits all files with the suffix of a
provider, but the second one only the documents among them. So they lead to the same where no
other file has such a suffix. -/
theorem runCheck_settings (hspecs : Settings.parseSpecs specs = .ok paths)
    (hvalue : Settings.parseSpecs (Settings.splitList value) = .ok paths)
    (habsent : environment.lookup Settings.providersVariable = none)
    (hdirectory : w.isDirectory (w.absolute directory) = .ok true) :
    let given := (Settings.providersVariable, value) :: environment
    let whole := runCheck w environment [directory] specs syntaxChecked
    let part := runCheck w given [directory] [] syntaxChecked
    ((∃ early, whole = .error early ∧ part = .error early) ∨
      ∃ setup files,
        assemble w environment .silent specs syntaxChecked = .ok (setup, providedSuffixes paths) ∧
        assemble w given .silent [] syntaxChecked = .ok (setup, documentSuffixes) ∧
        Narrows w paths directory setup files whole part) ∧
    ((∀ file ∈ w.below (w.absolute directory),
        isWanted (providedSuffixes paths) file = true → isDocument file = true) →
      part = whole) := by
  intro given whole part
  have hsettings : assemble w given .silent [] syntaxChecked =
      (assemble w environment .silent specs syntaxChecked).map fun assembled =>
        (assembled.1, documentSuffixes) :=
    assemble_settings hspecs habsent hvalue
  by_cases hmissing : missing w [directory] = .ok []
  · cases hassemble : assemble w environment .silent specs syntaxChecked with
    | error fault =>
        rw [hassemble] at hsettings
        have hwhole := runCheck_eq_error hmissing hassemble
        have hpart := runCheck_eq_error hmissing hsettings
        exact ⟨Or.inl ⟨_, hwhole, hpart⟩, fun _ => hpart.trans hwhole.symm⟩
    | ok assembled =>
        obtain ⟨setup, suffixes⟩ := assembled
        obtain ⟨rfl, hproviders⟩ := of_assemble hspecs habsent hassemble
        rw [hassemble] at hsettings
        obtain ⟨files, hnarrows⟩ :=
          exists_narrows hdirectory hmissing hproviders hassemble hsettings
        refine ⟨Or.inr ⟨setup, files, rfl, hsettings, hnarrows⟩, fun hall => ?_⟩
        refine hnarrows.part_eq_whole fun file hfile => ?_
        obtain ⟨hbelow, hwanted⟩ :=
          (mem_files_directory_iff hdirectory hnarrows.files_eq).mp hfile
        exact hall file hbelow hwanted
  · obtain ⟨early, hearly⟩ := runCheck_eq_error_of_missing hmissing
    have hsame : part = whole := (hearly _ _ _).trans (hearly _ _ _).symm
    exact ⟨Or.inl ⟨early, hearly _ _ _, hearly _ _ _⟩, fun _ => hsame⟩

namespace Sample

/-- A root without files. -/
def barren : Workspace := (Tree.directory []).workspace ⟨.root, []⟩

/-- A directory with a schema, and beside the schema a directory with a file that is no document and
is cut off after its first bracket. -/
def files : Workspace :=
  (Tree.directory [("w", .directory
    [("s.json", .file [0x7b, 0x7d]), ("d", .directory [("a.conf", .file [0x5b])])])]).workspace
    ⟨.root, ["w"]⟩

/-- The directory with the file. -/
def inner : FilePath := ⟨.here, ["d"]⟩

/-- The entry of a provider for the file. -/
def entry : String := ".conf=s.json"

/-- The path that the entry gives. -/
def given : List (String × String) := [(".conf", "s.json")]

end Sample

open Sample

/-- The file is visited if the provider is an option and left out if it stands in the settings. -/
theorem runCheck_settings_conf :
    Settings.parseSpecs [entry] = .ok given ∧
      Settings.parseSpecs (Settings.splitList entry) = .ok given ∧
      ([] : Environment).lookup Settings.providersVariable = none ∧
      files.isDirectory (files.absolute inner) = .ok true ∧
      ∃ setup found, Narrows files given inner setup found
        (runCheck files [] [inner] [entry] [])
        (runCheck files [(Settings.providersVariable, entry)] [inner] [] []) := by
  refine ⟨rfl, rfl, rfl, rfl, ?_⟩
  have hboth := @runCheck_settings files [] [entry] [] entry given inner rfl rfl rfl rfl
  rcases hboth.1 with ⟨early, hearly, -⟩ | ⟨setup, found, -, -, hnarrows⟩
  · -- Neither is a path missing nor is there a mistake, so the check does not end early.
    have hok : (runCheck files [] [inner] [entry] []).isOk = true := by decide +kernel
    rw [hearly] at hok
    cases hok
  · exact ⟨setup, found, hnarrows⟩

/-- What is wrong with the file is told only if the provider is an option. So the two checks end with
different codes. -/
theorem run_check_settings_differs :
    Settings.parseSpecs [entry] = .ok given ∧
      Settings.parseSpecs (Settings.splitList entry) = .ok given ∧
      (run files [] [] (.check [inner] [entry] [])).exitCode = 1 ∧
      (run files [(Settings.providersVariable, entry)] [] (.check [inner] [] [])).exitCode = 0 :=
  ⟨rfl, rfl, by decide +kernel, by decide +kernel⟩

end Command

end Conform
