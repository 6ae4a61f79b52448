import Conform.Proofs.Command.Providers
import Conform.Proofs.Console.Styles
import Conform.Proofs.Settings

/-! # Mistakes of the user

A path may lead nowhere, an entry of a provider may be malformed and a schema may be
unreadable. A command that checks files tells of the first such mistake and ends
with two. It breaks down instead where the settings are read for the first time,
where a path is too long to be looked for, and where what it tells of cannot be
shown.
-/

namespace Conform

namespace Settings

/-- The entries of providers that an environment lists. -/
def listed (environment : Environment) : List String :=
  splitList ((environment.lookup providersVariable).getD "")

theorem exists_ofEnvironment_eq_error_iff {environment : Environment} :
    (∃ fault, ofEnvironment environment = .error fault) ↔
      ∃ spec ∈ listed environment, IsMalformed spec := by
  rw [← @exists_parseSpecsInto_eq_error_iff [], ← parseSpecs, listed, providersVariable]
  unfold ofEnvironment
  dsimp only
  cases parseSpecs _ <;> simp

end Settings

namespace Command

/-! ## Mistakes -/

/-- The providers of a command cannot be put together: an entry is malformed, or the schema of one
of them cannot be read. -/
inductive IsUnready (w : Workspace) (environment : Environment) (specs : List String) : Prop
  | option {spec : String} (hmem : spec ∈ specs) (h : Settings.IsMalformed spec)
  | setting {spec : String} (hmem : spec ∈ Settings.listed environment)
      (h : Settings.IsMalformed spec)
  | schema {explicit : List (String × String)} {settings : Settings} {entry : String × String}
      {fault : AccessFault} (hspecs : Settings.parseSpecs specs = .ok explicit)
      (hsettings : Settings.ofEnvironment environment = .ok settings)
      (hmem : entry ∈ Setup.schemaPaths settings explicit)
      (h : w.text (FilePath.ofString entry.2) = .error fault)

/-- The user asks for files to be checked and makes a mistake: a path leads nowhere, or not to a
directory, or the providers cannot be put together. -/
def IsMistaken (w : Workspace) (environment : Environment) : Command → Prop
  | check paths specs _ =>
    (∃ path ∈ paths, w.present path ≠ .ok true) ∨ IsUnready w environment specs
  | watch directory specs _ =>
    w.isDirectory directory ≠ .ok true ∨ IsUnready w environment specs
  | schema _ => False
  | serve _ => False

/-- There is an answer to what a command asks of its paths. -/
def IsAnswered (w : Workspace) : Command → Prop
  | check paths _ _ => ∀ path ∈ paths, ∃ there, w.present path = .ok there
  | watch directory _ _ => ∃ there, w.isDirectory directory = .ok there
  | schema _ => True
  | serve _ => True

/-- What a command tells of the mistakes of the user. -/
inductive Tells (w : Workspace) (environment : Environment) : Command → String → Prop
  | nowhere {paths : List FilePath} {specs syntaxChecked : List String}
      (hall : ∀ path ∈ paths, ∃ there, w.present path = .ok there)
      (h : ∃ path ∈ paths, w.present path = .ok false) :
      Tells w environment (.check paths specs syntaxChecked)
        ("No such file or directory: " ++ ", ".intercalate
          ((paths.filter fun path => (w.present path).toOption = some false).map FilePath.text))
  | noDirectory {directory : FilePath} {specs syntaxChecked : List String}
      (h : w.isDirectory directory = .ok false) :
      Tells w environment (.watch directory specs syntaxChecked)
        ("Not a directory: " ++ directory.text)
  | check {paths : List FilePath} {specs syntaxChecked : List String} {fault : SetupFault}
      (hthere : ∀ path ∈ paths, w.present path = .ok true)
      (h : assemble w environment .silent specs syntaxChecked = .error fault) :
      Tells w environment (.check paths specs syntaxChecked) fault.message
  | watch {directory : FilePath} {specs syntaxChecked : List String} {fault : SetupFault}
      (hthere : w.isDirectory directory = .ok true)
      (h : assemble w environment (.console (some (w.absolute directory))) specs syntaxChecked =
        .error fault) :
      Tells w environment (.watch directory specs syntaxChecked) fault.message

variable {w : Workspace} {environment : Environment} {command : Command}
  {specs syntaxChecked : List String} {display : Display}

/-! ## What there is to tell -/

/-- Providers are put together unless one of them is malformed or cannot be read. -/
theorem exists_assemble_eq_error_iff :
    (∃ fault, assemble w environment display specs syntaxChecked = .error fault) ↔
      IsUnready w environment specs := by
  have hoption := @Settings.exists_parseSpecsInto_eq_error_iff [] specs
  have hsetting := @Settings.exists_ofEnvironment_eq_error_iff environment
  unfold assemble
  cases hspecs : Settings.parseSpecs specs with
  | error fault =>
      obtain ⟨spec, hmem, hspec⟩ := hoption.mp ⟨fault, hspecs⟩
      exact iff_of_true ⟨_, rfl⟩ (.option hmem hspec)
  | ok explicit =>
      cases hsettings : Settings.ofEnvironment environment with
      | error fault =>
          obtain ⟨spec, hmem, hspec⟩ := hsetting.mp ⟨fault, hsettings⟩
          exact iff_of_true ⟨_, rfl⟩ (.setting hmem hspec)
      | ok settings =>
          have hschema : IsUnready w environment specs ↔
              ∃ fault, Setup.create w display settings explicit syntaxChecked = .error fault := by
            rw [Setup.exists_create_eq_error_iff]
            constructor
            · rintro (⟨hmem, hspec⟩ | ⟨hmem, hspec⟩ | ⟨hspecs', hsettings', hmem, htext⟩)
              · obtain ⟨fault, hfault⟩ := hoption.mpr ⟨_, hmem, hspec⟩
                cases hfault.symm.trans hspecs
              · obtain ⟨fault, hfault⟩ := hsetting.mpr ⟨_, hmem, hspec⟩
                cases hfault.symm.trans hsettings
              · cases hspecs.symm.trans hspecs'
                cases hsettings.symm.trans hsettings'
                exact ⟨_, hmem, _, htext⟩
            · rintro ⟨entry, hmem, fault, htext⟩
              exact .schema hspecs hsettings hmem htext
          rw [hschema]
          dsimp only
          cases Setup.create w display settings explicit syntaxChecked <;> simp

theorem missing_eq_ok_iff {paths nowhere : List FilePath} :
    missing w paths = .ok nowhere ↔ (∀ path ∈ paths, ∃ there, w.present path = .ok there) ∧
      nowhere = paths.filter fun path => (w.present path).toOption = some false := by
  have hanswer : ∀ path, (∃ answer, (w.present path).map not = .ok answer) ↔
      ∃ there, w.present path = .ok there := by
    intro path
    cases w.present path <;> simp [Except.map]
  have hkept : ∀ path, ((w.present path).map not).toOption = some true ↔
      (w.present path).toOption = some false := by
    intro path
    cases w.present path <;> simp [Except.map, Except.toOption]
  simp only [missing, filterM_eq_ok_iff, hanswer, hkept]

/-- No path leads nowhere exactly if all of them lead somewhere. -/
theorem missing_eq_nil_iff {paths : List FilePath} :
    missing w paths = .ok [] ↔ ∀ path ∈ paths, w.present path = .ok true := by
  rw [missing_eq_ok_iff, eq_comm, List.filter_eq_nil_iff]
  constructor
  · rintro ⟨hanswered, hnone⟩ path hmem
    obtain ⟨there, hthere⟩ := hanswered path hmem
    have hnot := hnone path hmem
    cases there
    · simp [hthere, Except.toOption] at hnot
    · exact hthere
  · intro h
    refine ⟨fun path hmem => ⟨true, h path hmem⟩, fun path hmem => ?_⟩
    simp [h path hmem, Except.toOption]

/-- A path that leads nowhere is told with all others that do. -/
theorem tells_nowhere {paths nowhere : List FilePath} (hmissing : missing w paths = .ok nowhere)
    (hsome : nowhere ≠ []) :
    (check paths specs syntaxChecked).Tells w environment
      ("No such file or directory: " ++ ", ".intercalate (nowhere.map FilePath.text)) := by
  obtain ⟨hanswered, rfl⟩ := missing_eq_ok_iff.mp hmissing
  obtain ⟨path, hpath⟩ := List.exists_mem_of_ne_nil _ hsome
  rw [List.mem_filter, decide_eq_true_eq] at hpath
  obtain ⟨there, hthere⟩ := hanswered path hpath.1
  rw [hthere] at hpath
  cases Option.some.inj hpath.2
  exact .nowhere hanswered ⟨path, hpath.1, hthere⟩

variable {batches : List (Workspace × List Watch.Event)}

/-- A check with a mistake tells of it, unless nobody knows whether a path leads somewhere. -/
theorem run_check_mistaken {paths : List FilePath}
    (h : (check paths specs syntaxChecked).IsMistaken w environment) :
    (¬(check paths specs syntaxChecked).IsAnswered w ∧ ∃ fault,
      (check paths specs syntaxChecked).run w environment batches =
        .escaping (.brokenDown (.access fault)) []) ∨
    ∃ message, (check paths specs syntaxChecked).Tells w environment message ∧
      (check paths specs syntaxChecked).run w environment batches = .mistaken message := by
  rw [run]
  cases hmissing : missing w paths with
  | error fault =>
      left
      refine ⟨fun hanswered => ?_, fault, by rw [runCheck, hmissing]; rfl⟩
      cases hmissing.symm.trans (missing_eq_ok_iff.mpr ⟨hanswered, rfl⟩)
  | ok nowhere =>
      right
      cases nowhere with
      | nil =>
          have hthere := missing_eq_nil_iff.mp hmissing
          have hunready : IsUnready w environment specs :=
            h.resolve_left fun ⟨path, hmem, hpath⟩ => hpath (hthere path hmem)
          obtain ⟨fault, hassemble⟩ := exists_assemble_eq_error_iff.mpr hunready
          refine ⟨fault.message, .check hthere hassemble, ?_⟩
          rw [runCheck_eq_error hmissing hassemble, Reply.last]
      | cons path rest =>
          refine ⟨_, tells_nowhere hmissing (List.cons_ne_nil path rest), ?_⟩
          rw [runCheck, hmissing]
          rfl

theorem beginWatch_eq_error {directory : FilePath} {fault : SetupFault}
    (hdirectory : w.isDirectory directory = .ok true)
    (hassemble : assemble w environment (.console (some (w.absolute directory))) specs
      syntaxChecked = .error fault) :
    beginWatch w environment directory specs syntaxChecked = .error (.mistaken fault.message) := by
  unfold beginWatch assembled
  simp only [hdirectory, hassemble]
  rfl

/-- A watch with a mistake tells of it, unless nobody knows whether its path leads to a
directory. -/
theorem run_watch_mistaken {directory : FilePath}
    (h : (watch directory specs syntaxChecked).IsMistaken w environment) :
    (¬(watch directory specs syntaxChecked).IsAnswered w ∧ ∃ fault,
      (watch directory specs syntaxChecked).run w environment batches =
        .escaping (.brokenDown (.access fault)) []) ∨
    ∃ message, (watch directory specs syntaxChecked).Tells w environment message ∧
      (watch directory specs syntaxChecked).run w environment batches = .mistaken message := by
  rw [run]
  cases hdirectory : w.isDirectory directory with
  | error fault =>
      left
      refine ⟨?_, fault, by rw [runWatch, beginWatch, hdirectory]; rfl⟩
      rintro ⟨there, hthere⟩
      cases hdirectory.symm.trans hthere
  | ok isDirectory =>
      right
      cases isDirectory with
      | false =>
          refine ⟨_, .noDirectory hdirectory, ?_⟩
          rw [runWatch, beginWatch, hdirectory]
          rfl
      | true =>
          have hunready : IsUnready w environment specs :=
            h.resolve_left fun hnot => hnot hdirectory
          obtain ⟨fault, hassemble⟩ := exists_assemble_eq_error_iff.mpr hunready
          refine ⟨fault.message, .watch hdirectory hassemble, ?_⟩
          rw [runWatch, beginWatch_eq_error hdirectory hassemble]
          rfl

theorem run_mistaken (h : command.IsMistaken w environment) :
    (¬command.IsAnswered w ∧ ∃ fault,
      command.run w environment batches = .escaping (.brokenDown (.access fault)) []) ∨
    ∃ message, command.Tells w environment message ∧
      command.run w environment batches = .mistaken message := by
  cases command with
  | check paths specs syntaxChecked => exact run_check_mistaken h
  | watch directory specs syntaxChecked => exact run_watch_mistaken h
  | schema file => exact h.elim
  | serve specs => exact h.elim

theorem Tells.isAnswered {message : String} (h : command.Tells w environment message) :
    command.IsAnswered w := by
  cases h with
  | nowhere hall _ => exact hall
  | noDirectory hdirectory => exact ⟨false, hdirectory⟩
  | check hthere _ => exact fun path hmem => ⟨true, hthere path hmem⟩
  | watch hthere _ => exact ⟨true, hthere⟩

/-! ## What the user sees -/

/-- What is shown of a message that tells of a mistake. -/
def shownInRed (message : String) : Except Markup.Fault String :=
  Layout.printed ("[red]" ++ message ++ "[/red]")

theorem mistaken_eq (message : String) :
    Reply.mistaken message = match shownInRed message with
      | .ok text => .ended 2 [.printed text]
      | .error fault => .escaping (.brokenDown (.markup fault)) [] := by
  rw [Reply.mistaken, Reply.telling, Reply.printing, ← shownInRed]
  cases shownInRed message <;> rfl

/-- A message without closing tags can be shown. -/
theorem exists_shownInRed {message : String} (h : ¬Markup.HasClosing message.toList) :
    ∃ text, shownInRed message = .ok text := by
  have hred : Markup.IsStyleName "red".toList :=
    Markup.isStyleName_of_all (by decide) (by decide)
  have hmarkup : ("[red]" ++ message ++ "[/red]").toList = Markup.enclosed "red".toList ++
      (message.toList ++ Markup.enclosed ('/' :: "red".toList)) := by
    simp [Markup.enclosed]
  obtain ⟨shown, hshown⟩ := Markup.exists_render_styled hred hmarkup h
  exact ⟨_, by rw [shownInRed, Layout.printed, hshown, Except.map]⟩

/-- Arguments ask for a command, and perhaps for all there is to log. -/
def Asks (arguments : List String) (verbose : Bool) (command : Command) : Prop :=
  ∃ call, Arguments.call false arguments = .ok call ∧ call.verbose = verbose ∧
    call.read () = .ok command

theorem reply_eq {arguments : List String} {verbose : Bool} (h : Asks arguments verbose command) :
    Reply.ofArguments w environment batches arguments =
      .last ((consult environment verbose).map fun _ => command.run w environment batches) := by
  obtain ⟨call, hcall, rfl, hread⟩ := h
  rw [Reply.ofArguments, ofArguments, hcall, Except.mapError]
  change Reply.last ((consult environment call.verbose >>= fun _ =>
    (call.read ()).mapError misused).map _) = _
  rw [hread]
  cases consult environment call.verbose <;> rfl

/-- The settings are read before the command and one of their providers is malformed. -/
def IsBarred (environment : Environment) (verbose : Bool) : Prop :=
  verbose = false ∧ ∃ spec ∈ Settings.listed environment, Settings.IsMalformed spec

theorem consult_cases (environment : Environment) (verbose : Bool) :
    (IsBarred environment verbose ∧
      ∃ fault, consult environment verbose = .error (.escaping (.settings fault) [])) ∨
    ¬IsBarred environment verbose ∧ consult environment verbose = .ok () := by
  cases verbose with
  | true => exact Or.inr ⟨by simp [IsBarred], rfl⟩
  | false =>
      have hbarred : IsBarred environment false ↔
          ∃ fault, Settings.ofEnvironment environment = .error fault := by
        rw [Settings.exists_ofEnvironment_eq_error_iff, IsBarred]
        exact and_iff_right rfl
      rw [hbarred, consult, if_neg Bool.false_ne_true]
      cases Settings.ofEnvironment environment with
      | error fault => exact Or.inl ⟨⟨fault, rfl⟩, fault, rfl⟩
      | ok settings => exact Or.inr ⟨by simp, rfl⟩

namespace Sample

/-- A path that leads nowhere and looks like a closing tag. -/
def slashed : FilePath := ⟨.here, ["[", "]"]⟩

/-- A path that leads nowhere. -/
def nowhere : FilePath := ⟨.here, ["a.json"]⟩

/-- An environment with an entry that has no equals sign. -/
def unsigned : Environment := [(Settings.providersVariable, "conf")]

end Sample

open Sample

end Command

end Conform
