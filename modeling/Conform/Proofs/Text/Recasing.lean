import Conform.Proofs.Text.Case

/-! # ASCII letters in another case

Which case the ASCII letters of a string are written in makes no difference to the
string in lower case. Each of them has case and none of them is skipped, so a
sigma that stands beside one takes the same form whichever case that one is in.
-/

namespace Conform.Text

/-! ## Letters -/

/-- What holds of every character beside itself, and of every ASCII capital beside its small
letter, holds of every character beside its ASCII lower case. -/
theorem toLower_cases {motive : Char → Char → Prop} (hsame : ∀ c, motive c c)
    (hletter : ∀ n : Fin 26, motive (Char.ofNat (0x41 + n)) (Char.ofNat (0x61 + n))) (c : Char) :
    motive c c.toLower := by
  by_cases hupper : c.val ≥ 'A'.val ∧ c.val ≤ 'Z'.val
  · rw [ge_iff_le, UInt32.le_iff_toNat_le, UInt32.le_iff_toNat_le] at hupper
    obtain ⟨hfirst, hlast⟩ : 0x41 ≤ c.toNat ∧ c.toNat ≤ 0x5A := hupper
    have hc : Char.ofNat (0x41 + (c.toNat - 0x41)) = c := by
      rw [Nat.add_sub_cancel' hfirst, Char.ofNat_toNat]
    have hlower : ∀ n : Fin 26, (Char.ofNat (0x41 + n)).toLower = Char.ofNat (0x61 + n) := by
      decide
    have hmotive := hletter ⟨c.toNat - 0x41, by omega⟩
    rw [← hlower, hc] at hmotive
    exact hmotive
  · have hc : c.toLower = c := dif_neg hupper
    rw [hc]
    exact hsame c

theorem isCased_toLower (c : Char) : isCased c.toLower.toNat = isCased c.toNat :=
  toLower_cases (motive := fun c l => isCased l.toNat = isCased c.toNat) (fun _ => rfl)
    (by decide) c

theorem isCaseIgnorable_toLower (c : Char) :
    isCaseIgnorable c.toLower.toNat = isCaseIgnorable c.toNat :=
  toLower_cases (motive := fun c l => isCaseIgnorable l.toNat = isCaseIgnorable c.toNat)
    (fun _ => rfl) (by decide) c

theorem caseImage_toLower (c : Char) :
    caseImage CaseTable.lowerExpansions lowerPoint c.toLower =
      caseImage CaseTable.lowerExpansions lowerPoint c :=
  toLower_cases (motive := fun c l => caseImage CaseTable.lowerExpansions lowerPoint l =
    caseImage CaseTable.lowerExpansions lowerPoint c) (fun _ => rfl) (by decide) c

theorem toLower_eq_capitalSigma_iff (c : Char) : c.toLower = capitalSigma ↔ c = capitalSigma :=
  toLower_cases (motive := fun c l => l = capitalSigma ↔ c = capitalSigma) (fun _ => Iff.rfl)
    (by decide) c

theorem toLower_eq_dot_iff (c : Char) : c.toLower = '.' ↔ c = '.' :=
  toLower_cases (motive := fun c l => l = '.' ↔ c = '.') (fun _ => Iff.rfl) (by decide) c

/-! ## Strings -/

theorem toList_toLower (s : String) : s.toLower.toList = s.toList.map Char.toLower :=
  String.toList_map

theorem toLower_ofList (cs : List Char) :
    (String.ofList cs).toLower = String.ofList (cs.map Char.toLower) := by
  rw [← String.toList_inj, toList_toLower, String.toList_ofList, String.toList_ofList]

theorem toLower_append (s t : String) : (s ++ t).toLower = s.toLower ++ t.toLower := by
  rw [← String.toList_inj, String.toList_append, toList_toLower, toList_toLower, toList_toLower,
    String.toList_append, List.map_append]

theorem meetsCased_map_toLower (cs : List Char) :
    meetsCased (cs.map Char.toLower) = meetsCased cs := by
  induction cs with
  | nil => rfl
  | cons c rest ih =>
      rw [List.map_cons, meetsCased, meetsCased, isCaseIgnorable_toLower, isCased_toLower, ih]

/-- Neither the ASCII letters of a list nor those before it need be in the case they are in. -/
theorem lowerFrom_map_toLower (before cs : List Char) :
    lowerFrom (before.map Char.toLower) (cs.map Char.toLower) = lowerFrom before cs := by
  induction cs generalizing before with
  | nil => rfl
  | cons c rest ih =>
      have hrest := ih (c :: before)
      rw [List.map_cons] at hrest ⊢
      by_cases hsigma : c = capitalSigma
      · subst hsigma
        have hsame : capitalSigma.toLower = capitalSigma :=
          (toLower_eq_capitalSigma_iff _).mpr rfl
        rw [hsame] at hrest ⊢
        rw [lowerFrom, lowerFrom, if_pos rfl, if_pos rfl, meetsCased_map_toLower,
          meetsCased_map_toLower, hrest]
      · have hother : c.toLower ≠ capitalSigma := mt (toLower_eq_capitalSigma_iff c).mp hsigma
        rw [lowerFrom_cons hother, lowerFrom_cons hsigma, caseImage_toLower, hrest]

theorem lower_toLower (s : String) : lower s.toLower = lower s := by
  rw [lower, lower, toList_toLower]
  exact congrArg String.ofList (lowerFrom_map_toLower [] s.toList)

/-- Strings that differ in the case of ASCII letters only are the same in lower case. -/
theorem lower_congr {s t : String} (h : s.toLower = t.toLower) : lower s = lower t := by
  rw [← lower_toLower s, h, lower_toLower]

end Conform.Text
