import Conform.Proofs.Files.Lookup
import Conform.Proofs.Listing

/-! # Collecting the files of a directory

The files that one path gives are visited in an order in which nothing is left
open but the order of files with one written form. So leaving files out before
the others are put in order is leaving them out afterwards.
-/

namespace Conform

namespace FilePath

theorem name_join {q : FilePath} (p : FilePath) (h : q.names ≠ []) : (p.join q).name = q.name := by
  unfold join
  split
  next => simp [name, List.getLast?_append_of_ne_nil _ h]
  next => rfl

theorem names_ne_nil_of_suffix {q : FilePath} (h : q.suffix ≠ "") : q.names ≠ [] := by
  intro hnil
  apply h
  rw [suffix, name, hnil]
  rfl

/-- Where a path starts makes no difference to its suffix if it has one. -/
theorem suffix_join {q : FilePath} (p : FilePath) (h : q.suffix ≠ "") :
    (p.join q).suffix = q.suffix := by
  rw [suffix, name_join p (names_ne_nil_of_suffix h), suffix]

end FilePath

namespace Collect

variable {w : Workspace} {suffixes : List String} {file directory : FilePath}

/-- A file that is wanted has a suffix, which it keeps wherever it is seen from. -/
theorem suffix_absolute (hempty : "" ∉ suffixes) (h : isWanted suffixes file = true) :
    (w.absolute file).suffix = file.suffix := by
  apply FilePath.suffix_join
  intro hnone
  apply hempty
  rw [isWanted, hnone] at h
  exact List.contains_iff_mem.mp h

/-! ## The order of a visit -/

theorem visitedBefore_iff {p q : FilePath} :
    visitedBefore p q = true ↔
      (Convention.isSchemaName p.name = true → Convention.isSchemaName q.name = true) ∧
        (Convention.isSchemaName p.name = Convention.isSchemaName q.name → p.text ≤ q.text) := by
  unfold visitedBefore
  dsimp only
  split
  next hsame =>
    rw [Bool.not_eq_true', decide_eq_false_iff_not, String.not_lt, hsame]
    exact ⟨fun hle => ⟨id, fun _ => hle⟩, fun h => h.2 rfl⟩
  next hsame =>
    have hq : Convention.isSchemaName q.name = !Convention.isSchemaName p.name :=
      Bool.eq_not_of_ne (Ne.symm hsame)
    rw [hq]
    cases Convention.isSchemaName p.name <;> simp

theorem visitedBefore_trans (p q r : FilePath) (hpq : visitedBefore p q = true)
    (hqr : visitedBefore q r = true) : visitedBefore p r = true := by
  rw [visitedBefore_iff] at *
  refine ⟨fun hp => hqr.1 (hpq.1 hp), fun hsame => ?_⟩
  -- What lies between two files of one sort is of that sort.
  have hsort : Convention.isSchemaName p.name = Convention.isSchemaName q.name :=
    Bool.eq_iff_iff.mpr ⟨hpq.1, fun hq => hsame.trans (hqr.1 hq)⟩
  exact String.le_trans (hpq.2 hsort) (hqr.2 (hsort.symm.trans hsame))

theorem visitedBefore_total (p q : FilePath) :
    (visitedBefore p q || visitedBefore q p) = true := by
  rw [Bool.or_eq_true, visitedBefore_iff, visitedBefore_iff]
  by_cases hsame : Convention.isSchemaName p.name = Convention.isSchemaName q.name
  · rw [hsame]
    simpa using String.le_total p.text q.text
  · have hother := Bool.eq_not_of_ne hsame
    rw [hother]
    cases Convention.isSchemaName q.name <;> simp

/-! ## The files of one path -/

theorem files_singleton (w : Workspace) (suffixes : List String) (path : FilePath) :
    files w suffixes [path] =
      (ofPath w suffixes path).map fun found => found.eraseDups.mergeSort visitedBefore := by
  rw [files, List.mapM_cons, List.mapM_nil]
  cases ofPath w suffixes path with
  | error fault => rfl
  | ok found =>
      have hflat := congrArg List.eraseDups (List.flatten_singleton (l := found))
      exact congrArg (fun l => Except.ok (l.mergeSort visitedBefore)) hflat

/-- The files of a directory are the wanted ones among all that stand below it. -/
theorem files_directory (h : w.isDirectory (w.absolute directory) = .ok true)
    (suffixes : List String) :
    files w suffixes [directory] =
      .ok (((w.below (w.absolute directory)).eraseDups.mergeSort visitedBefore).filter
        (isWanted suffixes)) := by
  have hfound : ofPath w suffixes directory =
      .ok ((w.below (w.absolute directory)).filter (isWanted suffixes)) := by
    unfold ofPath
    dsimp only
    rw [h]
    rfl
  rw [files_singleton, hfound, filter_mergeSort_eq visitedBefore_trans visitedBefore_total,
    filter_eraseDups]
  rfl

theorem mem_files_directory_iff (hdirectory : w.isDirectory (w.absolute directory) = .ok true)
    {found : List FilePath} (h : files w suffixes [directory] = .ok found) :
    file ∈ found ↔
      file ∈ w.below (w.absolute directory) ∧ isWanted suffixes file = true := by
  rw [files_directory hdirectory] at h
  cases h
  rw [List.mem_filter, (List.mergeSort_perm _ _).mem_iff, List.mem_eraseDups]

end Collect

end Conform
