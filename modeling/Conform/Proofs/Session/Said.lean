import Conform.Proofs.Session.Naming

/-! # What is said of a file after a check

However a check ends, it changes what is said of its file alone, and what is said
of the file then depends on nothing but the files there are and on what was said
of it before. Checking a file once more changes nothing, so files may be checked
one after the other in any order and as often as one likes.
-/

namespace Conform

namespace Display

variable {display : Display}

/-- The diagnostics that are added, up to and including the first one that cannot be shown. -/
def added (display : Display) : List Diagnostic → List Diagnostic
  | [] => []
  | d :: rest =>
    match display.shown (addedText d) d.file with
    | .error _ => [d]
    | .ok _ => d :: added display rest

/-- What is said of a file once diagnostics were to be put in the place of those before. Where it
cannot be shown that the file is cleared, those before stay. -/
def replaced (display : Display) (file : FilePath) (ds before : List Diagnostic) :
    List Diagnostic :=
  if before.isEmpty then display.added ds
  else
    match display.shown clearedText file with
    | .error _ => before
    | .ok _ => display.added ds

theorem replaced_replaced (display : Display) (file : FilePath) (ds before : List Diagnostic) :
    display.replaced file ds (display.replaced file ds before) =
      display.replaced file ds before := by
  unfold replaced
  cases display.shown clearedText file with
  | ok notes => simp
  | error fault =>
      by_cases hbefore : before.isEmpty = true
      · simp [hbefore]
      · simp [hbefore]

end Display

namespace Session

variable {w : Workspace} {setup : Setup} {s : Session} {file p : FilePath}

theorem add_session (display : Display) (d : Diagnostic) (s : Session) :
    (s.add display d).session = { s with store := s.store.add d } := by
  unfold add
  dsimp only
  split <;> rfl

/-- An addition breaks down exactly if what is added cannot be shown, and then it is the last one. -/
theorem add_cases (display : Display) (d : Diagnostic) (s : Session) (rest : List Diagnostic) :
    (s.add display d).value = .ok () ∧ display.added (d :: rest) = d :: display.added rest ∨
      (∃ reason, (s.add display d).value = .error reason) ∧ display.added (d :: rest) = [d] := by
  rw [add, Display.added]
  cases display.shown (Display.addedText d) d.file with
  | ok notes => exact Or.inl ⟨rfl, rfl⟩
  | error fault => exact Or.inr ⟨⟨_, rfl⟩, rfl⟩

theorem addAll_diagnosticsFor {display : Display} {ds : List Diagnostic}
    (hfile : ∀ d ∈ ds, d.file = file) (s : Session) (p : FilePath) :
    (s.addAll display ds).session.store.diagnosticsFor p =
      if p = file then s.store.diagnosticsFor p ++ display.added ds
      else s.store.diagnosticsFor p := by
  induction ds generalizing s with
  | nil => simp [addAll, done, stay, Display.added]
  | cons d rest ih =>
      have hd := hfile d List.mem_cons_self
      have hrest := fun e he => hfile e (List.mem_cons_of_mem d he)
      rw [addAll]
      rcases s.add_cases display d rest with ⟨hadd, hadded⟩ | ⟨⟨reason, hadd⟩, hadded⟩
      · rw [Act.andThen_ok hadd, ih hrest, add_session, Store.diagnosticsFor_add, hd, hadded]
        split
        next => simp
        next => rfl
      · rw [Act.andThen_error hadd, add_session, Store.diagnosticsFor_add, hd, hadded]

/-- After a file was cleared there is nothing to say of it. Where that cannot be shown, nothing is
changed. -/
theorem clear_cases (display : Display) (file : FilePath) (s : Session) :
    ((s.clear display file).value = .ok () ∧
      (∀ p, (s.clear display file).session.store.diagnosticsFor p =
        if p = file then [] else s.store.diagnosticsFor p) ∧
      ∀ ds, display.replaced file ds (s.store.diagnosticsFor file) = display.added ds) ∨
    ((∃ reason, (s.clear display file).value = .error reason) ∧
      (s.clear display file).session = s ∧
      ∀ ds, display.replaced file ds (s.store.diagnosticsFor file) =
        s.store.diagnosticsFor file) := by
  unfold clear Display.replaced
  by_cases hempty : (s.store.diagnosticsFor file).isEmpty = true
  · refine Or.inl ⟨?_, fun p => ?_, fun ds => if_pos hempty⟩
    · rw [if_pos hempty]
      rfl
    · rw [if_pos hempty]
      split
      next hp => exact hp ▸ List.isEmpty_iff.mp hempty
      next => rfl
  · simp only [if_neg hempty]
    cases display.shown Display.clearedText file with
    | ok notes => exact Or.inl ⟨rfl, Store.diagnosticsFor_clear s.store file, fun ds => rfl⟩
    | error fault => exact Or.inr ⟨⟨_, rfl⟩, rfl, fun ds => rfl⟩

/-- Replacing the diagnostics of a file changes nothing but what is said of the file. -/
theorem replace_diagnosticsFor {display : Display} {ds : List Diagnostic}
    (hfile : ∀ d ∈ ds, d.file = file) (s : Session) (p : FilePath) :
    (s.replace display file ds).session.store.diagnosticsFor p =
      if p = file then display.replaced file ds (s.store.diagnosticsFor file)
      else s.store.diagnosticsFor p := by
  unfold replace
  rcases s.clear_cases display file with
    ⟨hclear, hcleared, hreplaced⟩ | ⟨⟨reason, hclear⟩, hsession, hreplaced⟩
  · rw [Act.andThen_ok hclear, addAll_diagnosticsFor hfile, hcleared p, hreplaced ds]
    split
    next => exact List.nil_append _
    next => rfl
  · rw [Act.andThen_error hclear, hsession, hreplaced ds]
    split
    next hp => rw [hp]
    next => rfl

/-- What is said of a file after a check, given what was said of it before. -/
def saidAfter (w : Workspace) (setup : Setup) (file : FilePath) (target : Target)
    (before : List Diagnostic) : List Diagnostic :=
  match readTexts w file target with
  | .error _ => before
  | .ok (text, schemaText) =>
    match Evaluation.ofText setup file text target.label schemaText with
    | .error _ => before
    | .ok evaluation => setup.display.replaced file (evaluation.diagnostics file) before

theorem saidAfter_saidAfter (w : Workspace) (setup : Setup) (file : FilePath) (target : Target)
    (before : List Diagnostic) :
    saidAfter w setup file target (saidAfter w setup file target before) =
      saidAfter w setup file target before := by
  unfold saidAfter
  cases readTexts w file target with
  | error fault => rfl
  | ok texts =>
      dsimp only
      cases Evaluation.ofText setup file texts.1 target.label texts.2 with
      | error reason => rfl
      | ok evaluation => exact Display.replaced_replaced _ _ _ _

theorem check_diagnosticsFor (w : Workspace) (setup : Setup) (file : FilePath) (target : Target)
    (s : Session) (p : FilePath) :
    (s.check w setup file target).session.store.diagnosticsFor p =
      if p = file then saidAfter w setup file target (s.store.diagnosticsFor file)
      else s.store.diagnosticsFor p := by
  have hsame : s.store.diagnosticsFor p =
      if p = file then s.store.diagnosticsFor file else s.store.diagnosticsFor p := by
    split
    next hp => rw [hp]
    next => rfl
  unfold check saidAfter
  cases readTexts w file target with
  | error fault => cases fault <;> exact hsame
  | ok texts =>
      dsimp only
      unfold conclude
      cases Evaluation.ofText setup file texts.1 target.label texts.2 with
      | error reason =>
          dsimp only
          split
          next => exact hsame
          next => exact hsame
          next heq => cases heq
      | ok evaluation =>
          refine replace_diagnosticsFor (fun d hd => ?_) s p
          obtain ⟨finding, -, rfl⟩ := List.mem_map.mp hd
          rfl

/-- The session after files were checked against one target, one after the other. -/
def checkEach (w : Workspace) (setup : Setup) (target : Target) (files : List FilePath)
    (s : Session) : Session :=
  files.foldl (fun s file => (s.check w setup file target).session) s

theorem checkEach_index (w : Workspace) (setup : Setup) (target : Target) (files : List FilePath)
    (s : Session) : (s.checkEach w setup target files).index = s.index := by
  unfold checkEach
  induction files generalizing s with
  | nil => rfl
  | cons file rest ih => exact (ih _).trans (check_index w setup file target s)

/-- Files that are listed more than once are checked more than once, but that makes no
difference. -/
theorem checkEach_diagnosticsFor (w : Workspace) (setup : Setup) (target : Target)
    (files : List FilePath) (s : Session) (p : FilePath) :
    (s.checkEach w setup target files).store.diagnosticsFor p =
      if p ∈ files then saidAfter w setup p target (s.store.diagnosticsFor p)
      else s.store.diagnosticsFor p := by
  unfold checkEach
  induction files generalizing s with
  | nil => simp
  | cons file rest ih =>
      rw [List.foldl_cons, ih, check_diagnosticsFor]
      by_cases hp : p = file
      · subst hp
        simp [saidAfter_saidAfter]
      · simp [hp]

end Session

end Conform
