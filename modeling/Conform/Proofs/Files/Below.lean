import Conform.Proofs.Entries
import Conform.Proofs.Files.Lookup
import Conform.Proofs.Files.Spelling

/-! # The files below a directory

In a tree whose entries are called as files can be called, and in each directory by
different names, a file that is listed below a directory is found at its path. So
what is listed there are the files there, as long as no path gets too long.
-/

namespace Conform

namespace FilePath

theorem mem_intercalate_iff {c : Char} (hc : c ≠ '/') {names : List String} :
    c ∈ ("/".intercalate names).toList ↔ ∃ name ∈ names, c ∈ name.toList := by
  have hslash : "/".toList = ['/'] := rfl
  rw [String.toList_intercalate, hslash]
  cases names with
  | nil => simp [List.intercalate]
  | cons name rest =>
      rw [List.map_cons, intercalate_cons_eq]
      simp [hc]

/-- A character of a longer path is one of the path or of the names that follow. -/
theorem mem_text_descend {p : FilePath} {names : List String} (hstart : p.start ≠ .here) {c : Char}
    (hc : c ≠ '/') (h : c ∈ (p.descend names).text.toList) :
    c ∈ p.text.toList ∨ ∃ name ∈ names, c ∈ name.toList := by
  have htext : ∀ q : FilePath, q.start = p.start →
      (c ∈ q.text.toList ↔ c ∈ p.start.text.toList ∨ ∃ name ∈ q.names, c ∈ name.toList) := by
    intro q hq
    rw [FilePath.text, if_neg (by simp [hq, hstart]), String.toList_append, List.mem_append,
      mem_intercalate_iff hc, hq]
  rw [htext (p.descend names) rfl, descend] at h
  rw [htext p rfl]
  rcases h with hfirst | ⟨name, hname, hmem⟩
  · exact Or.inl (Or.inl hfirst)
  · rcases List.mem_append.mp hname with hname | hname
    · exact Or.inl (Or.inr ⟨name, hname, hmem⟩)
    · exact Or.inr ⟨name, hname, hmem⟩

/-- Going on from one path to another keeps names what they have to be. -/
theorem WellFormed.join {p q : FilePath} (hp : p.WellFormed) (hq : q.WellFormed) :
    (p.join q).WellFormed := by
  unfold FilePath.join
  split
  next =>
    constructor
    · simp [hp.empty_not_mem, hq.empty_not_mem]
    · simp [hp.dot_not_mem, hq.dot_not_mem]
    · intro name hname
      exact (List.mem_append.mp hname).elim (hp.slash_not_mem name) (hq.slash_not_mem name)
  next => exact hq

end FilePath

namespace Tree

/-- Whether an entry of a directory may have a name. -/
def isEntryName (name : String) : Bool :=
  name != "" && name != "." && name != ".." && !name.toList.contains '/' &&
    !name.toList.contains '\x00' && name.utf8ByteSize ≤ nameLimit

mutual

/-- Whether the entries of each directory of a tree have names that entries may have, each of them
one of its own. -/
def isWellFormed : Tree → Bool
  | file _ => true
  | directory entries => decide (Entries.Distinct entries) && areWellFormed entries

/-- Whether entries have names that entries may have, and so have all entries in them. -/
def areWellFormed : List (String × Tree) → Bool
  | [] => true
  | (name, tree) :: rest => isEntryName name && isWellFormed tree && areWellFormed rest

end

mutual

/-- The names that lead to the files and directories of a tree. -/
def places : Tree → List (List String)
  | file _ => [[]]
  | directory entries => [] :: entryPlaces entries

/-- The names that lead to the entries of a directory and to what is in them. -/
def entryPlaces : List (String × Tree) → List (List String)
  | [] => []
  | (name, tree) :: rest => (places tree).map (name :: ·) ++ entryPlaces rest

end

/-- Nothing that stands at a path, or below it, has a path that is too long. -/
def Fits (root : Tree) (current top : FilePath) : Prop :=
  ∀ tree, root.find current top = .ok tree → ∀ names ∈ tree.places,
    (top.descend names).text.utf8ByteSize ≤ pathLimit

instance (root : Tree) (current top : FilePath) : Decidable (Fits root current top) :=
  match h : root.find current top with
  | .error _ => isTrue fun tree htree => by cases h.symm.trans htree
  | .ok tree =>
    decidable_of_iff
      (∀ names ∈ tree.places, (top.descend names).text.utf8ByteSize ≤ pathLimit)
      ⟨fun hall other hother => by cases h.symm.trans hother; exact hall, fun hfits => hfits tree h⟩

/-! ## Names of files -/

theorem isEntryName_iff {name : String} :
    isEntryName name = true ↔
      name ≠ "" ∧ name ≠ "." ∧ name ≠ ".." ∧ '/' ∉ name.toList ∧ '\x00' ∉ name.toList ∧
        name.utf8ByteSize ≤ nameLimit := by
  simp [isEntryName, and_assoc]

theorem areWellFormed_iff {entries : List (String × Tree)} :
    areWellFormed entries = true ↔
      ∀ entry ∈ entries, isEntryName entry.1 = true ∧ entry.2.isWellFormed = true := by
  induction entries with
  | nil => simp [areWellFormed]
  | cons entry rest ih =>
      obtain ⟨name, tree⟩ := entry
      simp [areWellFormed, ih, and_assoc]

theorem isWellFormed_directory_iff {entries : List (String × Tree)} :
    (directory entries).isWellFormed = true ↔ Entries.Distinct entries ∧
      ∀ entry ∈ entries, isEntryName entry.1 = true ∧ entry.2.isWellFormed = true := by
  rw [isWellFormed, Bool.and_eq_true, decide_eq_true_iff, areWellFormed_iff]

theorem mem_entryFiles_iff {entries : List (String × Tree)} {names : List String} :
    names ∈ entryFiles entries ↔
      ∃ name next rest, (name, next) ∈ entries ∧ rest ∈ files next ∧ names = name :: rest := by
  induction entries with
  | nil => simp [entryFiles]
  | cons entry others ih =>
      obtain ⟨other, tree⟩ := entry
      rw [entryFiles, List.mem_append, ih, List.mem_map]
      constructor
      · rintro (⟨rest, hrest, rfl⟩ | ⟨name, next, rest, hentry, hrest, rfl⟩)
        · exact ⟨other, tree, rest, List.mem_cons_self, hrest, rfl⟩
        · exact ⟨name, next, rest, List.mem_cons_of_mem _ hentry, hrest, rfl⟩
      · rintro ⟨name, next, rest, hentry, hrest, rfl⟩
        rcases List.mem_cons.mp hentry with heq | hentry
        · cases heq
          exact Or.inl ⟨rest, hrest, rfl⟩
        · exact Or.inr ⟨name, next, rest, hentry, hrest, rfl⟩

mutual

theorem mem_places_of_mem_files {tree : Tree} {names : List String} (h : names ∈ files tree) :
    names ∈ places tree := by
  cases tree with
  | file bytes => exact h
  | directory entries =>
      rw [files] at h
      exact List.mem_cons_of_mem _ (mem_entryPlaces_of_mem_entryFiles h)

theorem mem_entryPlaces_of_mem_entryFiles {entries : List (String × Tree)} {names : List String}
    (h : names ∈ entryFiles entries) : names ∈ entryPlaces entries := by
  cases entries with
  | nil => exact h
  | cons entry others =>
      obtain ⟨name, tree⟩ := entry
      rw [entryFiles, List.mem_append] at h
      rw [entryPlaces, List.mem_append]
      rcases h with h | h
      · obtain ⟨rest, hrest, rfl⟩ := List.mem_map.mp h
        exact Or.inl (List.mem_map_of_mem (mem_places_of_mem_files hrest))
      · exact Or.inr (mem_entryPlaces_of_mem_entryFiles h)

end

/-- The names of a file lead to it, and each of them is one that an entry may have. -/
theorem exists_walk_of_mem_files {tree : Tree} {names : List String} (hnames : names ∈ files tree)
    (hwell : tree.isWellFormed = true) (outer : List Tree) :
    (∃ bytes, walk outer tree names = .ok (file bytes)) ∧
      ∀ name ∈ names, isEntryName name = true := by
  induction names generalizing tree outer with
  | nil =>
      cases tree with
      | file bytes => exact ⟨⟨bytes, rfl⟩, by simp⟩
      | directory entries => exact absurd rfl (ne_nil_of_mem_entryFiles (by rwa [files] at hnames))
  | cons name rest ih =>
      cases tree with
      | file bytes => simp [files] at hnames
      | directory entries =>
          rw [files, mem_entryFiles_iff] at hnames
          obtain ⟨_, next, _, hentry, hrest, heq⟩ := hnames
          cases heq
          obtain ⟨hdistinct, hentries⟩ := isWellFormed_directory_iff.mp hwell
          obtain ⟨hname, hnext⟩ := hentries _ hentry
          obtain ⟨hwalk, hothers⟩ := ih hrest hnext (directory entries :: outer)
          have hproper := isEntryName_iff.mp hname
          refine ⟨?_, List.forall_mem_cons.mpr ⟨hname, hothers⟩⟩
          rw [walk_child hproper.2.2.1, if_neg (Nat.not_lt.mpr hproper.2.2.2.2.2),
            hdistinct.mem_iff_lookup.mp hentry]
          exact hwalk

/-! ## Paths of files -/

variable {root : Tree} {current top file : FilePath}

theorem isWellFormed_of_find (hroot : root.isWellFormed = true) {tree : Tree}
    (hfind : root.find current top = .ok tree) : tree.isWellFormed = true := by
  refine of_walk (motive := fun tree => tree.isWellFormed = true) ?_ (by simp) hroot
    (find_eq_ok_iff.mp hfind).2.2
  intro entries name next hwell hnext
  obtain ⟨hdistinct, hentries⟩ := isWellFormed_directory_iff.mp hwell
  exact (hentries _ (hdistinct.mem_iff_lookup.mpr hnext)).2

/-- What is listed below a directory are the files below it. -/
theorem mem_below_iff (hroot : root.isWellFormed = true) (htop : top.start ≠ .here)
    (hfits : root.Fits current top) :
    file ∈ (root.workspace current).below top ↔
      top.IsBelow file ∧ (root.workspace current).isFile file = .ok true := by
  refine ⟨fun hmem => ?_, fun h => mem_below_of_isFile htop h.1 h.2⟩
  simp only [workspace] at hmem
  split at hmem
  next entries hfind =>
    obtain ⟨names, hnames, rfl⟩ := List.mem_map.mp hmem
    obtain ⟨hnull, -, hwalk⟩ := find_eq_ok_iff.mp hfind
    obtain ⟨passed, hpassed⟩ := walk_append [] root (current.join top).names
    have hfiles : names ∈ files (directory entries) := by rwa [files]
    obtain ⟨⟨bytes, hrest⟩, hproper⟩ :=
      exists_walk_of_mem_files hfiles (isWellFormed_of_find hroot hfind) passed
    refine ⟨⟨names, ne_nil_of_mem_entryFiles hnames, fun hdots => ?_, rfl⟩, ?_⟩
    · exact (isEntryName_iff.mp (hproper _ hdots)).2.2.1 rfl
    · refine workspace_isFile_iff.mpr ⟨bytes, find_eq_ok_iff.mpr ⟨fun hmem => ?_, ?_, ?_⟩⟩
      · rcases FilePath.mem_text_descend htop (by decide) hmem with hmem | ⟨name, hname, hmem⟩
        · exact hnull hmem
        · exact (isEntryName_iff.mp (hproper name hname)).2.2.2.2.1 hmem
      · exact hfits _ hfind names (mem_places_of_mem_files hfiles)
      · have hjoin := FilePath.join_descend current top names
        rw [FilePath.descend, FilePath.descend] at hjoin
        rw [hjoin, hpassed, hwalk]
        exact hrest
  next => cases hmem

/-- The paths that are listed below a path which texts write are such paths as well. -/
theorem wellFormed_of_mem_below (hroot : root.isWellFormed = true) (htop : top.WellFormed)
    (hmem : file ∈ (root.workspace current).below top) : file.WellFormed := by
  simp only [workspace] at hmem
  split at hmem
  next entries hfind =>
    obtain ⟨names, hnames, rfl⟩ := List.mem_map.mp hmem
    have hfiles : names ∈ files (directory entries) := by rwa [files]
    have hproper := (exists_walk_of_mem_files hfiles (isWellFormed_of_find hroot hfind) []).2
    have hname : ∀ name ∈ names, name ≠ "" ∧ name ≠ "." ∧ '/' ∉ name.toList := by
      intro name hname
      obtain ⟨hempty, hdot, -, hslash, -⟩ := isEntryName_iff.mp (hproper name hname)
      exact ⟨hempty, hdot, hslash⟩
    constructor
    · rw [List.mem_append, not_or]
      exact ⟨htop.empty_not_mem, fun h => (hname _ h).1 rfl⟩
    · rw [List.mem_append, not_or]
      exact ⟨htop.dot_not_mem, fun h => (hname _ h).2.1 rfl⟩
    · intro name h
      exact (List.mem_append.mp h).elim (htop.slash_not_mem name) fun h => (hname name h).2.2
  next => cases hmem

end Tree

end Conform
