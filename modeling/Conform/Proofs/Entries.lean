import Conform.Entries
import Mathlib.Data.List.Nodup
import Mathlib.Logic.Basic

/-! # Entries with distinct keys

Putting an entry keeps the keys distinct, and where they are distinct an entry
is in the list exactly if looking its key up gives its value.
-/

namespace Conform.Entries

variable {κ α : Type}

/-- No key stands twice. -/
def Distinct (entries : List (κ × α)) : Prop := (entries.map (·.1)).Nodup

theorem distinct_nil : Distinct ([] : List (κ × α)) := List.nodup_nil

theorem distinct_cons {entry : κ × α} {rest : List (κ × α)} :
    Distinct (entry :: rest) ↔ entry.1 ∉ rest.map (·.1) ∧ Distinct rest :=
  List.nodup_cons

/-- An entry has another key than one that no entry has. -/
theorem fst_ne_of_mem {key : κ} {entry : κ × α} {entries : List (κ × α)} (hentry : entry ∈ entries)
    (h : key ∉ entries.map (·.1)) : entry.1 ≠ key := by
  rintro rfl
  exact h (List.mem_map_of_mem (f := (·.1)) hentry)

section Lookup

variable [BEq κ] [LawfulBEq κ]

theorem lookup_eq_none_iff {key : κ} {entries : List (κ × α)} :
    entries.lookup key = none ↔ key ∉ entries.map (·.1) := by
  rw [List.lookup_eq_none_iff]
  grind

theorem mem_of_lookup {key : κ} {value : α} {entries : List (κ × α)}
    (h : entries.lookup key = some value) : (key, value) ∈ entries := by
  obtain ⟨before, after, rfl, _⟩ := List.lookup_eq_some_iff.mp h
  simp

theorem Distinct.mem_iff_lookup {entries : List (κ × α)} (hdistinct : Distinct entries) {key : κ}
    {value : α} : (key, value) ∈ entries ↔ entries.lookup key = some value := by
  induction entries with
  | nil => simp
  | cons entry rest ih =>
      obtain ⟨hnot, hrest⟩ := distinct_cons.mp hdistinct
      obtain ⟨k, v⟩ := entry
      by_cases h : key = k
      · subst h
        have hmem : (key, value) ∉ rest := fun hmem =>
          hnot (List.mem_map_of_mem (f := (·.1)) hmem)
        simp [hmem, eq_comm]
      · simp [List.lookup_cons, beq_eq_false_iff_ne.mpr h, h, ih hrest]

end Lookup

variable [DecidableEq κ]

instance (entries : List (κ × α)) : Decidable (Distinct entries) :=
  inferInstanceAs (Decidable (entries.map (·.1)).Nodup)

theorem keys_put (key : κ) (value : α) (entries : List (κ × α)) :
    (put key value entries).map (·.1) =
      if key ∈ entries.map (·.1) then entries.map (·.1) else entries.map (·.1) ++ [key] := by
  induction entries with
  | nil => simp [put]
  | cons entry rest ih =>
      obtain ⟨k, v⟩ := entry
      by_cases h : k = key
      · simp [put, h]
      · have hne : key ≠ k := Ne.symm h
        simp only [put, if_neg h, List.map_cons, ih, List.mem_cons, hne, false_or]
        split <;> rfl

theorem mem_put {key : κ} {value : α} {entry : κ × α} {entries : List (κ × α)}
    (h : entry ∈ put key value entries) : entry = (key, value) ∨ entry ∈ entries := by
  induction entries with
  | nil => exact Or.inl (List.mem_singleton.mp h)
  | cons head rest ih =>
      obtain ⟨k, v⟩ := head
      by_cases hkey : k = key
      · subst hkey
        rw [put, if_pos rfl] at h
        exact (List.mem_cons.mp h).imp_right (List.mem_cons_of_mem _)
      · rw [put, if_neg hkey] at h
        rcases List.mem_cons.mp h with rfl | h
        · exact Or.inr List.mem_cons_self
        · exact (ih h).imp_right (List.mem_cons_of_mem _)

theorem Distinct.put {entries : List (κ × α)} (hdistinct : Distinct entries) (key : κ)
    (value : α) : Distinct (put key value entries) := by
  unfold Distinct
  rw [keys_put]
  split
  next => exact hdistinct
  next hnot => exact List.nodup_append.mpr ⟨hdistinct, by simp, by grind⟩

/-- Putting what is there already changes nothing. -/
theorem put_eq_self {key : κ} {value : α} {entries : List (κ × α)}
    (h : entries.lookup key = some value) : put key value entries = entries := by
  induction entries with
  | nil => cases h
  | cons entry rest ih =>
      obtain ⟨k, v⟩ := entry
      by_cases hkey : k = key
      · subst hkey
        rw [List.lookup_cons_self, Option.some.injEq] at h
        rw [put, if_pos rfl, h]
      · rw [List.lookup_cons, beq_eq_false_iff_ne.mpr (Ne.symm hkey)] at h
        rw [put, if_neg hkey, ih h]

theorem put_put (key : κ) (first second : α) (entries : List (κ × α)) :
    put key second (put key first entries) = put key second entries := by
  induction entries with
  | nil => simp [put]
  | cons entry rest ih =>
      obtain ⟨k, v⟩ := entry
      by_cases hkey : k = key
      · simp [put, hkey]
      · simp [put, hkey, ih]

/-- Erasing undoes putting where the key was not there. -/
theorem erase_put {key : κ} (value : α) {entries : List (κ × α)}
    (h : entries.lookup key = none) : erase key (put key value entries) = entries := by
  induction entries with
  | nil => simp [put, erase]
  | cons entry rest ih =>
      obtain ⟨k, v⟩ := entry
      by_cases hkey : k = key
      · subst hkey
        rw [List.lookup_cons_self] at h
        cases h
      · rw [List.lookup_cons, beq_eq_false_iff_ne.mpr (Ne.symm hkey)] at h
        rw [put, if_neg hkey, erase, List.filter_cons_of_pos (by simpa using hkey)]
        exact congrArg _ (ih h)

/-- An entry whose key is new comes last. -/
theorem put_of_not_mem {key : κ} (value : α) {entries : List (κ × α)}
    (h : key ∉ entries.map (·.1)) : put key value entries = entries ++ [(key, value)] := by
  induction entries with
  | nil => rfl
  | cons entry rest ih =>
      obtain ⟨k, v⟩ := entry
      obtain ⟨hkey, hrest⟩ := List.ne_and_not_mem_of_not_mem_cons h
      rw [put, if_neg (Ne.symm hkey), ih hrest, List.cons_append]

/-- Puts entries one after the other. -/
def putAll (known entries : List (κ × α)) : List (κ × α) :=
  entries.foldl (fun known (key, value) => put key value known) known

theorem putAll_cons (key : κ) (value : α) (known rest : List (κ × α)) :
    putAll known ((key, value) :: rest) = putAll (put key value known) rest := rfl

theorem Distinct.putAll {known : List (κ × α)} (hdistinct : Distinct known)
    (entries : List (κ × α)) : Distinct (putAll known entries) := by
  unfold Entries.putAll
  induction entries generalizing known with
  | nil => exact hdistinct
  | cons entry rest ih => exact ih (hdistinct.put entry.1 entry.2)

theorem mem_putAll {entry : κ × α} {known entries : List (κ × α)}
    (h : entry ∈ putAll known entries) : entry ∈ known ++ entries := by
  unfold putAll at h
  induction entries generalizing known with
  | nil => exact List.mem_append_left _ h
  | cons first rest ih =>
      rcases List.mem_append.mp (ih h) with hmem | hmem
      · rcases mem_put hmem with rfl | hmem
        · simp
        · exact List.mem_append_left _ hmem
      · exact List.mem_append_right _ (List.mem_cons_of_mem _ hmem)

/-- Entries whose keys are distinct and new are there as they were put. -/
theorem putAll_eq_append {known entries : List (κ × α)} (h : Distinct (known ++ entries)) :
    putAll known entries = known ++ entries := by
  induction entries generalizing known with
  | nil => exact (List.append_nil known).symm
  | cons entry rest ih =>
      obtain ⟨key, value⟩ := entry
      rw [List.append_cons] at h ⊢
      -- The entries before the rest are distinct, so the key of the last of them is new.
      have hnew : key ∉ known.map (·.1) := by
        have hbefore := h.sublist ((List.sublist_append_left _ rest).map Prod.fst)
        rw [List.map_append] at hbefore
        exact fun hmem => List.disjoint_of_nodup_append hbefore hmem List.mem_cons_self
      rw [putAll_cons, put_of_not_mem value hnew, ih h]

/-- What `lookup_put` states for one equality test holds for every other one. -/
theorem lookup_put_of_lawful [equality : BEq κ] [LawfulBEq κ] (key other : κ) (value : α)
    (entries : List (κ × α)) : (put key value entries).lookup other =
      if other = key then some value else entries.lookup other := by
  obtain rfl := lawful_beq_subsingleton equality instBEqOfDecidableEq
  exact lookup_put key other value entries

/-- Of the entries that are put with one key the last one counts. -/
theorem lookup_putAll [BEq κ] [LawfulBEq κ] (known entries : List (κ × α)) (key : κ) :
    (putAll known entries).lookup key =
      (entries.reverse.lookup key).or (known.lookup key) := by
  unfold putAll
  induction entries generalizing known with
  | nil => simp
  | cons entry rest ih =>
      obtain ⟨k, v⟩ := entry
      rw [List.foldl_cons, ih, List.reverse_cons, List.lookup_append, lookup_put_of_lawful,
        Option.or_assoc]
      congr 1
      by_cases h : key = k
      · simp [h]
      · simp [List.lookup_cons, beq_eq_false_iff_ne.mpr h, h]

/-- Where keys are distinct, putting an entry whose key is there changes one value. -/
theorem put_of_mem {key : κ} (value : α) {entries : List (κ × α)} (hdistinct : Distinct entries)
    (h : key ∈ entries.map (·.1)) :
    put key value entries = entries.map fun entry =>
      (entry.1, if entry.1 = key then value else entry.2) := by
  induction entries with
  | nil => cases h
  | cons entry rest ih =>
      obtain ⟨k, v⟩ := entry
      obtain ⟨hnew, hrest⟩ := distinct_cons.mp hdistinct
      by_cases hkey : k = key
      · subst hkey
        have hsame : rest.map (fun entry => (entry.1, if entry.1 = k then value else entry.2)) =
            rest.map id := by
          refine List.map_congr_left fun entry hentry => ?_
          rw [if_neg (fst_ne_of_mem hentry hnew)]
          rfl
        rw [put, if_pos rfl, List.map_cons, if_pos rfl, hsame, List.map_id]
      · rw [put, if_neg hkey, List.map_cons, if_neg hkey,
          ih hrest ((List.mem_cons.mp h).resolve_left (Ne.symm hkey))]

/-- Entries that are known keep their places, with their later values, and new ones follow. -/
theorem putAll_eq [BEq κ] [LawfulBEq κ] {known entries : List (κ × α)}
    (hknown : Distinct known) (hentries : Distinct entries) :
    putAll known entries =
      known.map (fun entry => (entry.1, (entries.lookup entry.1).getD entry.2)) ++
        entries.filter fun entry => entry.1 ∉ known.map (·.1) := by
  induction entries generalizing known with
  | nil => simp [putAll]
  | cons entry rest ih =>
      obtain ⟨key, value⟩ := entry
      obtain ⟨hnew, hrest⟩ := distinct_cons.mp hentries
      have hlast : rest.lookup key = none := lookup_eq_none_iff.mpr hnew
      rw [putAll_cons, ih (hknown.put key value) hrest]
      by_cases hmem : key ∈ known.map (·.1)
      · have hkeys : (put key value known).map (·.1) = known.map (·.1) := by
          rw [keys_put, if_pos hmem]
        rw [hkeys, put_of_mem value hknown hmem, List.map_map,
          List.filter_cons_of_neg (by simpa using hmem)]
        congr 1
        refine List.map_congr_left fun entry _ => ?_
        by_cases hkey : entry.1 = key
        · simp [hkey, hlast]
        · simp [List.lookup_cons, beq_eq_false_iff_ne.mpr hkey, hkey]
      · rw [put_of_not_mem value hmem, List.filter_cons_of_pos (by simpa using hmem),
          List.map_append, List.append_assoc, List.map_singleton, List.singleton_append]
        dsimp only
        rw [hlast, Option.getD_none]
        congr 1
        · refine List.map_congr_left fun entry hentry => ?_
          have hne : entry.1 ≠ key := fst_ne_of_mem hentry hmem
          rw [List.lookup_cons, beq_eq_false_iff_ne.mpr hne]
        · refine congrArg _ (List.filter_congr fun entry hentry => ?_)
          have hne : entry.1 ≠ key := fst_ne_of_mem hentry hnew
          simp [hne]

end Conform.Entries
