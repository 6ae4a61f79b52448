import Conform.Proofs.Diagnostic
import Conform.Proofs.Entries
import Conform.Proofs.Files.Spelling
import Mathlib.Data.List.Pairwise

/-! # The list of all diagnostics

Sorting is stable: what is not put in order keeps the order it had. So the list of all
diagnostics follows from what is said of each file, whichever file got its first diagnostic
first.
-/

namespace Conform

/-! ## Stable sorting -/

section Sorting

variable {α : Type} {le : α → α → Bool}

/-- Neither of two elements has to come before the other one. -/
def tied (le : α → α → Bool) (a b : α) : Bool := le a b && le b a

theorem tied_iff {a b : α} : tied le a b = true ↔ le a b = true ∧ le b a = true := by
  rw [tied, Bool.and_eq_true]

theorem tied_self (total : ∀ a b, (le a b || le b a) = true) (a : α) : tied le a a = true := by
  have h := total a a
  rw [Bool.or_self] at h
  exact tied_iff.mpr ⟨h, h⟩

/-- Elements that are tied keep their order. -/
theorem filter_mergeSort (trans : ∀ a b c, le a b = true → le b c = true → le a c = true)
    (total : ∀ a b, (le a b || le b a) = true) (l : List α) (a : α) :
    (l.mergeSort le).filter (tied le a) = l.filter (tied le a) := by
  have hsorted : (l.filter (tied le a)).Pairwise (le · · = true) := by
    refine List.pairwise_of_forall_mem_list fun b hb c hc => ?_
    have hb := (tied_iff.mp (List.mem_filter.mp hb).2).2
    have hc := (tied_iff.mp (List.mem_filter.mp hc).2).1
    exact trans b a c hb hc
  have hsublist := (List.sublist_mergeSort trans total hsorted List.filter_sublist).filter (tied le a)
  rw [List.filter_filter] at hsublist
  simp only [Bool.and_self] at hsublist
  refine (hsublist.eq_of_length ?_).symm
  exact ((List.mergeSort_perm l le).filter (tied le a)).length_eq.symm

/-- Sorted lists are equal if they agree on the elements that are tied with each other. -/
theorem eq_of_sorted (total : ∀ a b, (le a b || le b a) = true) {first second : List α}
    (hfirst : first.Pairwise (le · · = true)) (hsecond : second.Pairwise (le · · = true))
    (hagree : ∀ a, first.filter (tied le a) = second.filter (tied le a)) : first = second := by
  have hmem : ∀ {l l' : List α}, (∀ a, l.filter (tied le a) = l'.filter (tied le a)) →
      ∀ a ∈ l, a ∈ l' := by
    intro l l' hagree a ha
    have hboth : a ∈ l.filter (tied le a) := List.mem_filter.mpr ⟨ha, tied_self total a⟩
    rw [hagree a] at hboth
    exact (List.mem_filter.mp hboth).1
  have hle : ∀ {b : α} {l : List α}, (b :: l).Pairwise (le · · = true) → ∀ a ∈ b :: l,
      le b a = true := by
    intro b l hsorted a ha
    rcases List.mem_cons.mp ha with rfl | ha
    · exact (tied_iff.mp (tied_self total a)).1
    · exact List.rel_of_pairwise_cons hsorted ha
  induction first generalizing second with
  | nil =>
      cases second with
      | nil => rfl
      | cons b rest => cases hmem (fun a => (hagree a).symm) b List.mem_cons_self
  | cons a rest ih =>
      cases second with
      | nil => cases hmem hagree a List.mem_cons_self
      | cons b others =>
          -- Each of the two heads is in both lists, so they are tied, and of those the first are equal.
          have hab : tied le a b = true := tied_iff.mpr
            ⟨hle hfirst b (hmem (fun a => (hagree a).symm) b List.mem_cons_self),
              hle hsecond a (hmem hagree a List.mem_cons_self)⟩
          have hheads := hagree a
          rw [List.filter_cons_of_pos (tied_self total a), List.filter_cons_of_pos hab] at hheads
          obtain ⟨rfl, -⟩ := List.cons.inj hheads
          refine congrArg (a :: ·) (ih hfirst.of_cons hsecond.of_cons fun c => ?_)
          have hboth := hagree c
          rw [List.filter_cons, List.filter_cons] at hboth
          split at hboth
          · exact (List.cons.inj hboth).2
          · exact hboth

/-- Lists that agree on the elements that are tied with each other are equal once sorted. -/
theorem mergeSort_eq_mergeSort
    (trans : ∀ a b c, le a b = true → le b c = true → le a c = true)
    (total : ∀ a b, (le a b || le b a) = true) {first second : List α}
    (hagree : ∀ a, first.filter (tied le a) = second.filter (tied le a)) :
    first.mergeSort le = second.mergeSort le := by
  refine eq_of_sorted total (List.pairwise_mergeSort trans total first)
    (List.pairwise_mergeSort trans total second) fun a => ?_
  rw [filter_mergeSort trans total, filter_mergeSort trans total, hagree a]

/-- Sorting what is left out makes no difference to what is kept. -/
theorem filter_mergeSort_eq (trans : ∀ a b c, le a b = true → le b c = true → le a c = true)
    (total : ∀ a b, (le a b || le b a) = true) (wanted : α → Bool) (l : List α) :
    (l.mergeSort le).filter wanted = (l.filter wanted).mergeSort le := by
  refine eq_of_sorted total ((List.pairwise_mergeSort trans total l).filter wanted)
    (List.pairwise_mergeSort trans total _) fun a => ?_
  rw [List.filter_comm, filter_mergeSort trans total, filter_mergeSort trans total,
    List.filter_comm]

end Sorting

theorem nodup_eraseDups {α : Type} [DecidableEq α] (l : List α) : l.eraseDups.Nodup := by
  induction hlength : l.length using Nat.strongRecOn generalizing l with
  | _ n ih =>
      cases l with
      | nil => exact List.nodup_nil
      | cons a rest =>
          have hshorter : (rest.filter fun b => !b == a).length < n := by
            have hle := List.length_filter_le (fun b => !b == a) rest
            rw [List.length_cons] at hlength
            omega
          rw [List.eraseDups_cons, List.nodup_cons]
          refine ⟨?_, ih _ hshorter _ rfl⟩
          rw [List.mem_eraseDups]
          simp

theorem filter_eraseDups {α : Type} [DecidableEq α] (wanted : α → Bool) (l : List α) :
    l.eraseDups.filter wanted = (l.filter wanted).eraseDups := by
  -- What follows an element is searched for it before it is gone through, so it is only shorter.
  induction hlength : l.length using Nat.strongRecOn generalizing l with
  | _ n ih =>
      cases l with
      | nil => rfl
      | cons a rest =>
          have hshorter : (rest.filter fun b => !b == a).length < n := by
            have hle := List.length_filter_le (fun b => !b == a) rest
            rw [List.length_cons] at hlength
            omega
          rw [List.eraseDups_cons]
          by_cases ha : wanted a = true
          · rw [List.filter_cons_of_pos ha, List.filter_cons_of_pos ha, List.eraseDups_cons,
              ih _ hshorter _ rfl, List.filter_comm]
          · have hsame : (rest.filter wanted).filter (fun b => !b == a) = rest.filter wanted := by
              refine List.filter_eq_self.mpr fun b hb => ?_
              have hne : b ≠ a := by
                rintro rfl
                exact ha (List.mem_filter.mp hb).2
              simp [hne]
            rw [List.filter_cons_of_neg ha, List.filter_cons_of_neg ha, ih _ hshorter _ rfl,
              List.filter_comm, hsame]

namespace Store

/-! ## Keyed stores -/

/-- What clearing and adding keep: no file has two entries, and the diagnostics of an entry are
those of its file. -/
structure IsKeyed (store : Store) : Prop where
  distinct : Entries.Distinct store.entries
  file_eq : ∀ entry ∈ store.entries, ∀ d ∈ entry.2, d.file = entry.1

theorem empty_isKeyed : empty.IsKeyed where
  distinct := Entries.distinct_nil
  file_eq := by simp [empty]

variable {store first second : Store}

theorem IsKeyed.clear (h : store.IsKeyed) (file : FilePath) : (store.clear file).IsKeyed where
  distinct := h.distinct.sublist (List.filter_sublist.map Prod.fst)
  file_eq entry hentry := h.file_eq entry (List.mem_of_mem_filter hentry)

theorem IsKeyed.file_eq_of_mem (h : store.IsKeyed) {d : Diagnostic} {file : FilePath}
    (hd : d ∈ store.diagnosticsFor file) : d.file = file := by
  unfold diagnosticsFor at hd
  cases hfound : store.entries.lookup file with
  | none =>
      rw [hfound] at hd
      cases hd
  | some ds =>
      rw [hfound] at hd
      exact h.file_eq (file, ds) (h.distinct.mem_iff_lookup.mpr hfound) d hd

theorem IsKeyed.add (h : store.IsKeyed) (d : Diagnostic) : (store.add d).IsKeyed where
  distinct := by
    rw [Store.add, addTo_eq_put]
    exact h.distinct.put d.file _
  file_eq entry hentry e he := by
    rw [Store.add, addTo_eq_put] at hentry
    rcases Entries.mem_put hentry with rfl | hentry
    · rcases List.mem_append.mp he with he | he
      · exact h.file_eq_of_mem he
      · rw [List.mem_singleton.mp he]
    · exact h.file_eq entry hentry e he

/-- Among all diagnostics, those of one file stand in the order in which they were added. -/
theorem IsKeyed.filter_file (h : store.IsKeyed) (file : FilePath) :
    (store.entries.flatMap (·.2)).filter (·.file = file) = store.diagnosticsFor file := by
  obtain ⟨entries⟩ := store
  obtain ⟨hdistinct, hfile⟩ := h
  unfold diagnosticsFor
  dsimp only at hdistinct hfile ⊢
  induction entries with
  | nil => rfl
  | cons entry rest ih =>
      obtain ⟨key, ds⟩ := entry
      obtain ⟨hkey, hrest⟩ := Entries.distinct_cons.mp hdistinct
      have hown : ∀ d ∈ ds, d.file = key := hfile (key, ds) List.mem_cons_self
      have ih := ih hrest fun entry hentry => hfile entry (List.mem_cons_of_mem _ hentry)
      rw [List.flatMap_cons, List.filter_append, ih]
      by_cases hsame : file = key
      · subst hsame
        rw [List.lookup_cons_self, Entries.lookup_eq_none_iff.mpr hkey,
          List.filter_eq_self.mpr (by simpa using hown)]
        simp
      · rw [List.lookup_cons, beq_eq_false_iff_ne.mpr hsame, List.filter_eq_nil_iff.mpr]
        · rfl
        · intro d hd
          simp [hown d hd, Ne.symm hsame]

theorem IsKeyed.mem_all_iff (h : store.IsKeyed) {d : Diagnostic} :
    d ∈ store.all ↔ d ∈ store.diagnosticsFor d.file := by
  rw [all, (List.mergeSort_perm _ _).mem_iff, ← h.filter_file, List.mem_filter]
  simp

/-! ## The sorted list -/

theorem listedBefore_iff {d e : Diagnostic} :
    listedBefore d e = true ↔
      d.file.text ≤ e.file.text ∧ (d.file.text = e.file.text → d.line ≤ e.line) := by
  unfold listedBefore
  split
  next htext => simp [htext]
  next htext =>
    rw [decide_eq_true_iff]
    constructor
    · exact fun hlt => ⟨String.not_lt.mp (String.lt_asymm hlt), fun heq => absurd heq htext⟩
    · exact fun hle => String.not_le.mp fun hge => htext (String.le_antisymm hle.1 hge)

theorem listedBefore_trans (c d e : Diagnostic) (hcd : listedBefore c d = true)
    (hde : listedBefore d e = true) : listedBefore c e = true := by
  rw [listedBefore_iff] at *
  refine ⟨String.le_trans hcd.1 hde.1, fun heq => ?_⟩
  -- What lies between two equal texts equals both.
  have hd : c.file.text = d.file.text := String.le_antisymm hcd.1 (heq ▸ hde.1)
  exact Nat.le_trans (hcd.2 hd) (hde.2 (hd.symm.trans heq))

theorem listedBefore_total (d e : Diagnostic) :
    (listedBefore d e || listedBefore e d) = true := by
  rw [Bool.or_eq_true, listedBefore_iff, listedBefore_iff]
  by_cases htext : d.file.text = e.file.text
  · rcases Nat.le_total d.line e.line with hle | hle
    · exact Or.inl ⟨htext ▸ String.le_refl _, fun _ => hle⟩
    · exact Or.inr ⟨htext ▸ String.le_refl _, fun _ => hle⟩
  · rcases String.le_total d.file.text e.file.text with hle | hle
    · exact Or.inl ⟨hle, fun heq => absurd heq htext⟩
    · exact Or.inr ⟨hle, fun heq => absurd heq.symm htext⟩

theorem text_eq_of_tied {d e : Diagnostic} (h : tied listedBefore d e = true) :
    d.file.text = e.file.text := by
  rw [tied_iff, listedBefore_iff, listedBefore_iff] at h
  exact String.le_antisymm h.1.1 h.2.1

/-- The diagnostics with one written form of their file are those of one file. -/
theorem IsKeyed.filter_tied (h : store.IsKeyed)
    (hpaths : ∀ p, store.diagnosticsFor p ≠ [] → p.WellFormed) {a : Diagnostic} {file : FilePath}
    (hfile : file.WellFormed) (htext : file.text = a.file.text) :
    (store.entries.flatMap (·.2)).filter (tied listedBefore a) =
      (store.diagnosticsFor file).filter (tied listedBefore a) := by
  rw [← h.filter_file, List.filter_filter]
  refine List.filter_congr fun d hd => ?_
  cases htied : tied listedBefore a d with
  | false => rfl
  | true =>
      have hown : d ∈ store.diagnosticsFor d.file := by
        rw [← h.filter_file]
        exact List.mem_filter.mpr ⟨hd, by simp⟩
      have hsame : d.file = file := FilePath.text_injective
        (hpaths d.file (List.ne_nil_of_mem hown)) hfile
        ((text_eq_of_tied htied).symm.trans htext.symm)
      simp [hsame]

/-- The list of all diagnostics depends on nothing but what is said of each file. -/
theorem all_eq (hfirst : first.IsKeyed) (hsecond : second.IsKeyed)
    (hpaths : ∀ p, first.diagnosticsFor p ≠ [] → p.WellFormed)
    (hsame : ∀ p, first.diagnosticsFor p = second.diagnosticsFor p) : first.all = second.all := by
  have hpaths' : ∀ p, second.diagnosticsFor p ≠ [] → p.WellFormed := fun p => hsame p ▸ hpaths p
  refine mergeSort_eq_mergeSort listedBefore_trans listedBefore_total fun a => ?_
  by_cases hfile : ∃ file : FilePath, file.WellFormed ∧ file.text = a.file.text
  · obtain ⟨file, hfile, htext⟩ := hfile
    rw [hfirst.filter_tied hpaths hfile htext, hsecond.filter_tied hpaths' hfile htext, hsame]
  · have hnobody : ∀ {store : Store}, store.IsKeyed →
        (∀ p, store.diagnosticsFor p ≠ [] → p.WellFormed) →
        (store.entries.flatMap (·.2)).filter (tied listedBefore a) = [] := by
      intro store hkeyed hpaths
      refine List.filter_eq_nil_iff.mpr fun d hd htied => hfile ⟨d.file, ?_, ?_⟩
      · refine hpaths d.file (List.ne_nil_of_mem (a := d) ?_)
        rw [← hkeyed.filter_file]
        exact List.mem_filter.mpr ⟨hd, by simp⟩
      · exact (text_eq_of_tied htied).symm
    rw [hnobody hfirst hpaths, hnobody hsecond hpaths']

end Store

end Conform
