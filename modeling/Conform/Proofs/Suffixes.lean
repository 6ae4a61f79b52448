import Conform.Command.Reply
import Conform.Proofs.Assembly
import Conform.Proofs.Text.Case
import Mathlib.Data.List.TakeWhile

/-! # The suffixes of a command

No entry of a list of providers is accepted without a suffix, and a suffix that is
not blank stays so when it is normalized. So a command never looks at files
because they have no suffix.
-/

namespace Conform

namespace Text

theorem mem_dropWhile {p : Char → Bool} {c : Char} {cs : List Char} (hmem : c ∈ cs)
    (hc : p c = false) : c ∈ cs.dropWhile p := by
  rw [← List.takeWhile_append_dropWhile (p := p) (l := cs), List.mem_append] at hmem
  refine hmem.resolve_left fun htaken => ?_
  have hp := List.mem_takeWhile_imp htaken
  rw [hc] at hp
  cases hp

/-- A character that is no white space is not stripped. -/
theorem mem_strip {s : String} {c : Char} (hmem : c ∈ s.toList) (hc : isBlank c.toNat = false) :
    c ∈ (strip s).toList := by
  rw [strip, String.toList_ofList, List.mem_reverse]
  exact mem_dropWhile (List.mem_reverse.mpr (mem_dropWhile hmem hc)) hc

theorem exists_of_strip_ne_empty {s : String} (h : strip s ≠ "") :
    ∃ c ∈ s.toList, isBlank c.toNat = false := by
  by_contra hblank
  refine h ?_
  have hnone : s.toList.dropWhile (fun c => isBlank c.toNat) = [] := by
    refine List.dropWhile_eq_nil_iff.mpr fun c hc => ?_
    by_contra hnot
    exact hblank ⟨c, hc, Bool.eq_false_iff.mpr hnot⟩
  simp [strip, hnone]

/-- What was stripped is blank only if it is empty. -/
theorem strip_strip_ne_empty {s : String} (h : strip s ≠ "") : strip (strip s) ≠ "" := by
  obtain ⟨c, hmem, hc⟩ := exists_of_strip_ne_empty h
  intro hempty
  have hleft := mem_strip (mem_strip hmem hc) hc
  rw [hempty] at hleft
  simp at hleft

theorem lower_ne_empty {s : String} (h : s ≠ "") : lower s ≠ "" := by
  intro hlower
  have hnil : lowerFrom [] s.toList = [] := by
    rw [← toList_lower, hlower]
    rfl
  cases hs : s.toList with
  | nil => exact h (String.toList_eq_nil_iff.mp hs)
  | cons c rest =>
      obtain ⟨first, more, hcons⟩ := exists_lowerFrom_cons [] c rest
      rw [hs, hcons] at hnil
      cases hnil

end Text

theorem normalizeSuffix_ne_empty {suffix : String} (h : Text.strip suffix ≠ "") :
    normalizeSuffix suffix ≠ "" := by
  unfold normalizeSuffix
  dsimp only
  split
  next => exact Text.lower_ne_empty h
  next =>
    intro hempty
    have hlist := congrArg String.toList hempty
    simp at hlist

namespace Settings

theorem strip_of_parseSpec {spec suffix path : String} (h : parseSpec spec = .ok (suffix, path)) :
    Text.strip suffix ≠ "" := by
  unfold parseSpec at h
  split at h
  next => cases h
  next head tail _ =>
    dsimp only at h
    split at h
    next => cases h
    next hfull =>
      cases h
      simp only [Bool.or_eq_true, String.isEmpty_iff, not_or] at hfull
      exact Text.strip_strip_ne_empty hfull.1

theorem strip_of_mem_parseSpecsInto {known explicit : List (String × String)} {specs : List String}
    (hknown : ∀ entry ∈ known, Text.strip entry.1 ≠ "")
    (h : parseSpecsInto known specs = .ok explicit) :
    ∀ entry ∈ explicit, Text.strip entry.1 ≠ "" := by
  refine of_parseSpecsInto (motive := fun known => ∀ entry ∈ known, Text.strip entry.1 ≠ "")
    (fun known spec suffix path hspec hknown entry hentry => ?_) hknown h
  rcases Entries.mem_put hentry with rfl | hentry
  · exact strip_of_parseSpec hspec
  · exact hknown entry hentry

end Settings

namespace Command

variable {w : Workspace} {environment : Environment} {display : Display}
  {providers syntaxChecked suffixes : List String} {setup : Setup}

/-- What a command works with is made from its own providers and from the settings, but the suffixes
are those of its own providers. -/
theorem exists_of_assemble
    (h : assemble w environment display providers syntaxChecked = .ok (setup, suffixes)) :
    ∃ explicit settings, Settings.parseSpecs providers = .ok explicit ∧
      Settings.ofEnvironment environment = .ok settings ∧
      Setup.create w display settings explicit syntaxChecked = .ok setup ∧
      suffixes = Collect.documentSuffixes ++ explicit.map fun entry => normalizeSuffix entry.1 := by
  unfold assemble at h
  split at h
  next => cases h
  next explicit hspecs =>
    split at h
    next => cases h
    next settings hsettings =>
      split at h
      next => cases h
      next hcreate =>
        cases h
        exact ⟨explicit, settings, hspecs, hsettings, hcreate, rfl⟩

/-- A command looks at no files without a suffix. -/
theorem suffix_ne_empty
    (h : assemble w environment display providers syntaxChecked = .ok (setup, suffixes)) :
    "" ∉ suffixes := by
  obtain ⟨explicit, settings, hspecs, -, -, rfl⟩ := exists_of_assemble h
  rw [List.mem_append, not_or]
  refine ⟨by decide, fun hmem => ?_⟩
  obtain ⟨entry, hentry, hempty⟩ := List.mem_map.mp hmem
  exact normalizeSuffix_ne_empty
    (Settings.strip_of_mem_parseSpecsInto (by simp) hspecs entry hentry) hempty

end Command

end Conform
