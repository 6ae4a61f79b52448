import Conform.Diagnostic

/-! # Diagnostics of a file

Clearing and adding have one equation each on the diagnostics of a file, so that
what is said of one file never changes what is said of another one.
-/

namespace Conform.Store

theorem diagnosticsFor_clear (store : Store) (file other : FilePath) :
    (store.clear file).diagnosticsFor other =
      if other = file then [] else store.diagnosticsFor other := by
  rw [diagnosticsFor, clear, Entries.lookup_erase]
  split
  next => rfl
  next => rfl

/-- Adding a diagnostic puts it behind those of its file. -/
theorem addTo_eq_put (d : Diagnostic) (entries : List (FilePath × List Diagnostic)) :
    addTo d entries =
      Entries.put d.file ((entries.lookup d.file).getD [] ++ [d]) entries := by
  induction entries with
  | nil => rfl
  | cons entry rest ih =>
      obtain ⟨other, found⟩ := entry
      by_cases hother : other = d.file
      · simp [addTo, Entries.put, hother]
      · have hne : d.file ≠ other := Ne.symm hother
        simp only [addTo, Entries.put, if_neg hother, List.lookup_cons,
          beq_eq_false_iff_ne.mpr hne, ih]

theorem lookup_addTo (d : Diagnostic) (entries : List (FilePath × List Diagnostic))
    (file : FilePath) :
    (addTo d entries).lookup file =
      if file = d.file then some ((entries.lookup file).getD [] ++ [d])
      else entries.lookup file := by
  rw [addTo_eq_put, Entries.lookup_put]
  split
  next hfile => rw [hfile]
  next => rfl

theorem diagnosticsFor_add (store : Store) (d : Diagnostic) (file : FilePath) :
    (store.add d).diagnosticsFor file =
      if file = d.file then store.diagnosticsFor file ++ [d] else store.diagnosticsFor file := by
  rw [diagnosticsFor, add, lookup_addTo]
  split
  next => rfl
  next => rfl

end Conform.Store
