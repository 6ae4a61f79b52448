import Conform.Text.Case
import Mathlib.Data.List.Infix

/-! # Lower case at the end of a string

What a string is in lower case ends with what its end is in lower case, as far
as that end is free of the capital sigma, the one letter whose form depends on
what stands around it. Dots come from dots only, so that the last dot of a
string is the last dot of its lower-case form.
-/

namespace Conform.Text

theorem toList_lower (s : String) : (lower s).toList = lowerFrom [] s.toList :=
  String.toList_ofList

theorem lowerFrom_cons {c : Char} (hsigma : c ≠ capitalSigma) (before rest : List Char) :
    lowerFrom before (c :: rest) =
      caseImage CaseTable.lowerExpansions lowerPoint c ++ lowerFrom (c :: before) rest := by
  rw [lowerFrom, if_neg hsigma]

theorem lowerFrom_capitalSigma (before rest : List Char) :
    ∃ sigma, (sigma = 'ς' ∨ sigma = 'σ') ∧
      lowerFrom before (capitalSigma :: rest) =
        sigma :: lowerFrom (capitalSigma :: before) rest := by
  rw [lowerFrom, if_pos rfl]
  split
  next => exact ⟨'ς', Or.inl rfl, rfl⟩
  next => exact ⟨'σ', Or.inr rfl, rfl⟩

/-- What stands before an end takes no part in the lower-case form of that end,
except as the surroundings of its letters. -/
theorem lowerFrom_append (before cs tail : List Char) :
    ∃ image, lowerFrom before (cs ++ tail) = image ++ lowerFrom (cs.reverse ++ before) tail := by
  induction cs generalizing before with
  | nil => exact ⟨[], rfl⟩
  | cons c rest ih =>
      obtain ⟨image, himage⟩ := ih (c :: before)
      -- A capital sigma is the only letter that looks at its surroundings, for one of two forms.
      by_cases hsigma : c = capitalSigma
      · subst hsigma
        obtain ⟨sigma, -, hlower⟩ := lowerFrom_capitalSigma before (rest ++ tail)
        refine ⟨sigma :: image, ?_⟩
        rw [List.cons_append, hlower, himage]
        simp
      · refine ⟨caseImage CaseTable.lowerExpansions lowerPoint c ++ image, ?_⟩
        rw [List.cons_append, lowerFrom_cons hsigma, himage]
        simp

/-- Without a capital sigma the surroundings do not matter. -/
theorem lowerFrom_eq_flatMap {cs : List Char} (hsigma : capitalSigma ∉ cs) (before : List Char) :
    lowerFrom before cs = cs.flatMap (caseImage CaseTable.lowerExpansions lowerPoint) := by
  induction cs generalizing before with
  | nil => rfl
  | cons c rest ih =>
      rw [List.mem_cons, not_or] at hsigma
      rw [lowerFrom_cons (Ne.symm hsigma.1), ih hsigma.2, List.flatMap_cons]

theorem sigma_mem_lowerFrom {cs : List Char} (hsigma : capitalSigma ∈ cs) (before : List Char) :
    'ς' ∈ lowerFrom before cs ∨ 'σ' ∈ lowerFrom before cs := by
  obtain ⟨first, rest, rfl⟩ := List.append_of_mem hsigma
  obtain ⟨image, himage⟩ := lowerFrom_append before first (capitalSigma :: rest)
  obtain ⟨sigma, hform, hlower⟩ := lowerFrom_capitalSigma (first.reverse ++ before) rest
  rw [himage, hlower]
  rcases hform with rfl | rfl <;> simp

theorem lowerExpansions_ne_nil :
    (CaseTable.lowerExpansions.all fun entry => !entry.2.isEmpty) = true := by decide

theorem caseImage_ne_nil (c : Char) :
    caseImage CaseTable.lowerExpansions lowerPoint c ≠ [] := by
  unfold caseImage
  split
  next => simp
  next =>
    split
    next image hfound =>
      obtain ⟨first, rest, hentries, -⟩ := List.lookup_eq_some_iff.mp hfound
      have himage := List.all_eq_true.mp lowerExpansions_ne_nil (c.toNat, image)
        (by simp [hentries])
      simpa using himage
    next => simp

/-- Each letter has a form in lower case. -/
theorem exists_lowerFrom_cons (before : List Char) (c : Char) (rest : List Char) :
    ∃ first more,
      lowerFrom before (c :: rest) = first :: (more ++ lowerFrom (c :: before) rest) := by
  by_cases hsigma : c = capitalSigma
  · subst hsigma
    obtain ⟨sigma, -, hform⟩ := lowerFrom_capitalSigma before rest
    exact ⟨sigma, [], hform⟩
  · obtain ⟨first, more, himage⟩ := List.exists_cons_of_ne_nil (caseImage_ne_nil c)
    exact ⟨first, more, by rw [lowerFrom_cons hsigma, himage, List.cons_append]⟩

/-! ## Dots -/

theorem lowerRuns_image_gt :
    (CaseTable.lowerRuns.all fun run => decide (46 < run.2.2.2)) = true := by decide

theorem lowerExpansions_image_ne :
    (CaseTable.lowerExpansions.all fun entry =>
      entry.2.all fun n => decide (Char.ofNat n ≠ '.')) = true := by decide

theorem ofNat_eq_dot {n : Nat} (h : Char.ofNat n = '.') : n = 46 := by
  by_cases hvalid : n.isValidChar
  · have hnat : (Char.ofNat n).toNat = n := by
      rw [Char.ofNat, dif_pos hvalid]
      rfl
    rw [h] at hnat
    exact hnat.symm
  · rw [Char.ofNat, dif_neg hvalid] at h
    exact absurd h (by decide)

theorem runImage_ne_dot {n : Nat} (hn : n ≠ 46) : runImage CaseTable.lowerRuns n ≠ 46 := by
  unfold runImage
  dsimp only
  split
  next run hfound =>
    have hrun := List.all_eq_true.mp lowerRuns_image_gt _ (List.mem_of_find?_eq_some hfound)
    simp only [decide_eq_true_eq] at hrun
    omega
  next => exact hn

theorem caseImage_ne_dot {c : Char}
    (h : '.' ∈ caseImage CaseTable.lowerExpansions lowerPoint c) : c = '.' := by
  have hpoint : Char.ofNat (lowerPoint c.toNat) = '.' → c = '.' := by
    intro hdot
    have hfinal := ofNat_eq_dot hdot
    by_contra hne
    have hnat : c.toNat ≠ 46 := fun heq => hne (Char.ext (UInt32.toNat_inj.mp heq))
    unfold lowerPoint at hfinal
    split at hfinal
    next =>
      split at hfinal
      next hupper =>
        simp only [Bool.and_eq_true, decide_eq_true_eq] at hupper
        omega
      next => exact hnat hfinal
    next => exact runImage_ne_dot hnat hfinal
  unfold caseImage at h
  split at h
  next => exact hpoint (List.mem_singleton.mp h).symm
  next =>
    split at h
    next image hfound =>
      obtain ⟨n, hmem, hdot⟩ := List.mem_map.mp h
      obtain ⟨first, rest, hentries, -⟩ := List.lookup_eq_some_iff.mp hfound
      have hentry := List.all_eq_true.mp lowerExpansions_image_ne (c.toNat, image)
        (by simp [hentries])
      simpa [hdot] using List.all_eq_true.mp hentry n hmem
    next => exact hpoint (List.mem_singleton.mp h).symm

theorem dot_mem_of_mem_lowerFrom {before cs : List Char} (h : '.' ∈ lowerFrom before cs) :
    '.' ∈ cs := by
  induction cs generalizing before with
  | nil => simp [lowerFrom] at h
  | cons c rest ih =>
      by_cases hsigma : c = capitalSigma
      · subst hsigma
        obtain ⟨sigma, hform, hlower⟩ := lowerFrom_capitalSigma before rest
        rw [hlower, List.mem_cons] at h
        rcases h with h | h
        · rcases hform with rfl | rfl <;> exact absurd h (by decide)
        · exact List.mem_cons_of_mem _ (ih h)
      · rw [lowerFrom_cons hsigma, List.mem_append] at h
        rcases h with h | h
        · exact List.mem_cons.mpr (Or.inl (caseImage_ne_dot h).symm)
        · exact List.mem_cons_of_mem _ (ih h)

end Conform.Text
