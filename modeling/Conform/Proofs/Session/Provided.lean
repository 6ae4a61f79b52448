import Conform.Proofs.Session.Changes

/-! # Visits without the files that have providers

A file that a provider answers for has no part in what other files stand under or
in what is said of them. So such files may be left out of a visit: nothing is said
of them then, and of all others the same is said.
-/

namespace Conform

namespace Session

variable {w : Workspace} {setup : Setup} {isSeen : FilePath → Bool} {s t : Session}
  {file : FilePath}

/-- When a file has its place, all others stand where they stood. -/
theorem eq_or_holds_of_placing (hs : s.index.IsNamed) {schema p : FilePath}
    (h : (s.placing w setup (w.absolute file)).index.Holds schema p) :
    p = w.absolute file ∨ s.index.Holds schema p := by
  have hplaced := (placing_isNamed w setup hs file).wellFormed
  rw [← Index.schemaFor?_eq_some_iff hplaced, placing, Course.schemaFor?_place hs.wellFormed] at h
  split at h
  next hp => exact Or.inl hp
  next => exact Or.inr ((Index.schemaFor?_eq_some_iff hs.wellFormed).mp h)

/-- A file that a provider answers for gets no place, and at most the file itself is checked. -/
theorem course_of_first? {text : String} (h : Provider.first? setup.providers file = some text)
    (index : Index) : (course w setup file).place file index = index ∧
      ∀ p ∈ ((course w setup file).checks file index).files, p = file := by
  unfold course
  cases leadsToFile w file with
  | error fault => exact ⟨rfl, fun p hp => by cases hp⟩
  | ok isThere =>
      cases isThere with
      | false => exact ⟨rfl, fun p hp => by cases hp⟩
      | true =>
          rw [h]
          exact ⟨rfl, fun p hp => List.mem_singleton.mp hp⟩

/-- One session holds what another one holds, but says nothing of files that are not seen. These
stand under nothing. -/
structure Mirrors (isSeen : FilePath → Bool) (s t : Session) : Prop where
  isNamed : s.index.IsNamed
  index_eq : t.index = s.index
  seen_of_holds : ∀ {schema p}, s.index.Holds schema p → isSeen p = true
  said_eq : ∀ p, t.store.diagnosticsFor p = if isSeen p then s.store.diagnosticsFor p else []

theorem empty_mirrors (isSeen : FilePath → Bool) : Mirrors isSeen .empty .empty where
  isNamed := .empty
  index_eq := rfl
  seen_of_holds := by
    rintro schema p ⟨files, hentry, -⟩
    simp [Session.empty, Index.empty] at hentry
  said_eq p := by
    split
    next => rfl
    next => rfl

/-- The change of a file that is seen is dealt with alike. -/
theorem Mirrors.change (h : Mirrors isSeen s t) (setup : Setup)
    (hfile : isSeen (w.absolute file) = true) :
    Mirrors isSeen (s.perform w setup (.changed file)).session
      (t.perform w setup (.changed file)).session := by
  have hplaced := placing_isNamed w setup h.isNamed file
  have hindex : (t.placing w setup (w.absolute file)).index =
      (s.placing w setup (w.absolute file)).index := by
    rw [placing, placing, h.index_eq]
  have hholds : ∀ {schema p},
      (s.placing w setup (w.absolute file)).index.Holds schema p → isSeen p = true := by
    intro schema p hp
    rcases eq_or_holds_of_placing h.isNamed hp with rfl | hp
    · exact hfile
    · exact h.seen_of_holds hp
  refine ⟨perform_isNamed h.isNamed _, ?_, fun {schema p} hp => ?_, fun p => ?_⟩
  · rw [perform_changed_index, perform_changed_index, hindex]
  · rw [perform_changed_index] at hp
    exact hholds hp
  · rw [perform_changed_session, perform_changed_session]
    dsimp only
    rw [hindex, checkEach_diagnosticsFor, checkEach_diagnosticsFor]
    split
    next hp =>
      -- Only files that are seen are checked, and the same was said of these before.
      have hseen : isSeen p = true := by
        rcases Course.eq_or_mem_of_mem_checks _ hp with rfl | hp
        · exact hfile
        · exact hholds ((Index.mem_dependentsOf_iff hplaced.wellFormed).mp hp)
      have hsaid := h.said_eq p
      rw [if_pos hseen] at hsaid
      rw [if_pos hseen]
      exact congrArg (saidAfter w setup p _) hsaid
    next => exact h.said_eq p

/-- The change of a file that is not seen may be left out if a provider answers for the file. -/
theorem Mirrors.skip (h : Mirrors isSeen s t) (hfile : isSeen (w.absolute file) = false)
    {text : String} (hprovider : Provider.first? setup.providers (w.absolute file) = some text) :
    Mirrors isSeen (s.perform w setup (.changed file)).session t := by
  have hplaced : s.placing w setup (w.absolute file) = s := by
    rw [placing, (course_of_first? hprovider s.index).1]
  have hindex : (s.perform w setup (.changed file)).session.index = s.index := by
    rw [perform_changed_index, hplaced]
  refine ⟨hindex ▸ h.isNamed, hindex ▸ h.index_eq, fun {schema p} hp => ?_, fun p => ?_⟩
  · rw [hindex] at hp
    exact h.seen_of_holds hp
  · rw [h.said_eq p]
    split
    next hp =>
      rw [perform_changed_session]
      dsimp only
      rw [checkEach_diagnosticsFor, hplaced, if_neg]
      intro hmem
      have hown := (course_of_first? hprovider s.index).2 p hmem
      rw [hown, hfile] at hp
      cases hp
    next => rfl

/-- Files that are not seen may be left out of a visit if a provider answers for each of them. -/
theorem Mirrors.visit (h : Mirrors isSeen s t) {files : List FilePath}
    (hseen : ∀ f ∈ files, isSeen (w.absolute f) = isSeen f)
    (hprovider : ∀ f ∈ files, isSeen f = false →
      ∃ text, Provider.first? setup.providers (w.absolute f) = some text) :
    Mirrors isSeen (s.visit w setup files).session
      (t.visit w setup (files.filter isSeen)).session := by
  rw [visit_session, visit_session]
  unfold changeEach
  induction files generalizing s t with
  | nil => exact h
  | cons file rest ih =>
      have hfile := hseen file List.mem_cons_self
      have hrest := fun f hf => hseen f (List.mem_cons_of_mem file hf)
      have hothers := fun f hf => hprovider f (List.mem_cons_of_mem file hf)
      rw [List.foldl_cons]
      cases hsees : isSeen file with
      | true =>
          rw [List.filter_cons_of_pos hsees, List.foldl_cons]
          exact ih (h.change setup (hfile.trans hsees)) hrest hothers
      | false =>
          obtain ⟨text, htext⟩ := hprovider file List.mem_cons_self hsees
          rw [List.filter_cons_of_neg (by simp [hsees])]
          exact ih (h.skip (hfile.trans hsees) htext) hrest hothers

end Session

end Conform
