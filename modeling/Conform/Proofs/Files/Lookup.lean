import Conform.Files.Collect
import Conform.Files.Tree
import Conform.Session.Job
import Mathlib.Data.List.Basic

/-! # Looking paths up in a tree

A path that goes on from a directory leads where its names lead from there. So a
file in a directory is among the names of that directory, and a file below a
directory is among those that are collected there.
-/

namespace Conform

/-- The directory that holds what a path names lists it. -/
def Workspace.Lists (w : Workspace) (p : FilePath) : Prop :=
  ∃ names, w.list p.parent = .ok names ∧ p.name ∈ names

namespace FilePath

/-- The path with some more names. -/
def descend (p : FilePath) (names : List String) : FilePath := { p with names := p.names ++ names }

/-- A path leads to something below a directory without ever leaving it. -/
def IsBelow (top p : FilePath) : Prop :=
  ∃ names, names ≠ [] ∧ ".." ∉ names ∧ p = top.descend names

theorem child_eq_descend (p : FilePath) (name : String) : p.child name = p.descend [name] := rfl

theorem name_child (p : FilePath) (name : String) : (p.child name).name = name := by
  simp [FilePath.child, FilePath.name]

theorem parent_child (p : FilePath) (name : String) : (p.child name).parent = p := by
  simp [FilePath.child, FilePath.parent]

/-- A path with a name is a child of its parent. -/
theorem child_parent {p : FilePath} (hname : p.names ≠ []) : p.parent.child p.name = p := by
  have hlast : p.name = p.names.getLast hname := by
    rw [FilePath.name, List.getLast?_eq_some_getLast hname, Option.getD_some]
  rw [hlast]
  simp [FilePath.child, FilePath.parent, List.dropLast_append_getLast hname]

theorem IsBelow.start_eq {top p : FilePath} (h : IsBelow top p) : p.start = top.start := by
  obtain ⟨names, -, -, rfl⟩ := h
  rfl

/-- What lies beside something below a directory is below it as well. -/
theorem IsBelow.sibling {top p : FilePath} (h : IsBelow top p) {name : String}
    (hname : name ≠ "..") : IsBelow top (p.parent.child name) := by
  obtain ⟨names, hne, hdots, rfl⟩ := h
  refine ⟨names.dropLast ++ [name], by simp, ?_, ?_⟩
  · simp only [List.mem_append, List.mem_singleton, not_or]
    exact ⟨fun hmem => hdots (List.dropLast_subset names hmem), Ne.symm hname⟩
  · simp [FilePath.parent, FilePath.child, descend, List.dropLast_append_of_ne_nil hne]

theorem IsBelow.child_parent {top p : FilePath} (h : IsBelow top p) :
    p.parent.child p.name = p := by
  obtain ⟨names, hne, -, rfl⟩ := h
  exact FilePath.child_parent (by simp [descend, hne])

theorem IsBelow.name_ne_dots {top p : FilePath} (h : IsBelow top p) : p.name ≠ ".." := by
  obtain ⟨names, hne, hdots, rfl⟩ := h
  intro hname
  have hlast : (top.descend names).name = names.getLast hne := by
    simp [FilePath.name, descend, List.getLast?_append, List.getLast?_eq_some_getLast hne]
  rw [hname] at hlast
  exact hdots (hlast ▸ List.getLast_mem hne)

theorem text_descend {p : FilePath} (hstart : p.start ≠ .here) (names : List String) :
    ∃ more, (p.descend names).text = p.text ++ more := by
  have htext : ∀ q : FilePath, q.start = p.start →
      q.text = q.start.text ++ "/".intercalate q.names := by
    intro q hq
    rw [FilePath.text, if_neg (by simp [hq, hstart])]
  rw [htext p rfl, htext (p.descend names) rfl]
  by_cases hnames : names = []
  · exact ⟨"", by simp [descend, hnames]⟩
  · by_cases hempty : p.names = []
    · exact ⟨"/".intercalate names, by simp [descend, hempty]⟩
    · refine ⟨"/" ++ "/".intercalate names, ?_⟩
      rw [descend, String.intercalate_append_of_ne_nil hempty hnames]
      simp [String.append_assoc]

theorem join_eq_right {p q : FilePath} (h : q.start ≠ .here) : p.join q = q := if_neg h

theorem start_join_ne {p : FilePath} (h : p.start ≠ .here) (q : FilePath) :
    (p.join q).start ≠ .here := by
  unfold join
  split
  · exact h
  next hq => exact hq

theorem join_descend (current p : FilePath) (names : List String) :
    current.join (p.descend names) = (current.join p).descend names := by
  unfold FilePath.join descend
  split <;> simp [List.append_assoc]

theorem mem_sort {p : FilePath} {paths : List FilePath} : p ∈ sort paths ↔ p ∈ paths :=
  (List.mergeSort_perm _ _).mem_iff

end FilePath

namespace Tree

variable {root : Tree} {current : FilePath}

/-! ## Walks -/

theorem walk_child {outer : List Tree} {entries : List (String × Tree)} {name : String}
    (hname : name ≠ "..") (rest : List String) :
    walk outer (directory entries) (name :: rest) =
      if nameLimit < name.utf8ByteSize then .error .nameTooLong
      else (entries.lookup name).elim (.error .missing) fun next =>
        walk (directory entries :: outer) next rest := by
  simp only [walk, if_neg hname, child?]
  cases entries.lookup name <;> rfl

theorem exists_of_walk_child {outer : List Tree} {entries : List (String × Tree)} {name : String}
    (hname : name ≠ "..") {rest : List String} {found : Tree}
    (hwalk : walk outer (directory entries) (name :: rest) = .ok found) :
    ∃ next, entries.lookup name = some next ∧
      walk (directory entries :: outer) next rest = .ok found := by
  rw [walk_child hname] at hwalk
  split at hwalk
  next => cases hwalk
  next =>
    cases hnext : entries.lookup name with
    | none =>
        rw [hnext] at hwalk
        cases hwalk
    | some next =>
        rw [hnext] at hwalk
        exact ⟨next, rfl, hwalk⟩

/-- Names lead on from where the names before them have led. -/
theorem walk_append (outer : List Tree) (here : Tree) (names : List String) :
    ∃ passed, ∀ more, walk outer here (names ++ more) =
      (walk outer here names).bind fun middle => walk passed middle more := by
  induction names generalizing outer here with
  | nil => exact ⟨outer, fun more => rfl⟩
  | cons name rest ih =>
      cases here with
      | file bytes => exact ⟨[], fun more => rfl⟩
      | directory entries =>
          -- Two dots lead back to a directory that was passed, hence the list of those that were.
          by_cases hdots : name = ".."
          · cases outer with
            | nil =>
                obtain ⟨passed, hpassed⟩ := ih [] (directory entries)
                exact ⟨passed, fun more => by simpa [walk, hdots] using hpassed more⟩
            | cons parent outer =>
                obtain ⟨passed, hpassed⟩ := ih outer parent
                exact ⟨passed, fun more => by simpa [walk, hdots] using hpassed more⟩
          · by_cases hlong : nameLimit < name.utf8ByteSize
            · exact ⟨[], fun more => by simp [walk, hdots, hlong, Except.bind]⟩
            · cases hchild : child? name (directory entries) with
              | none => exact ⟨[], fun more => by simp [walk, hdots, hlong, hchild, Except.bind]⟩
              | some next =>
                  obtain ⟨passed, hpassed⟩ := ih (directory entries :: outer) next
                  refine ⟨passed, fun more => ?_⟩
                  simpa [walk, hdots, hlong, hchild] using hpassed more

theorem entryFiles_of_lookup {entries : List (String × Tree)} {name : String} {next : Tree}
    {rest : List String} (hnext : entries.lookup name = some next) (hrest : rest ∈ files next) :
    name :: rest ∈ entryFiles entries := by
  induction entries with
  | nil => simp at hnext
  | cons entry others ih =>
      obtain ⟨other, tree⟩ := entry
      rw [entryFiles, List.mem_append]
      by_cases hsame : name = other
      · subst hsame
        rw [List.lookup_cons_self] at hnext
        cases hnext
        exact Or.inl (List.mem_map_of_mem hrest)
      · rw [List.lookup_cons, beq_eq_false_iff_ne.mpr hsame] at hnext
        exact Or.inr (ih hnext)

/-- Names that never lead back and lead to a file are those of a file of the tree. -/
theorem mem_files_of_walk {outer : List Tree} {here : Tree} {names : List String}
    {bytes : List UInt8} (hdots : ".." ∉ names) (hwalk : walk outer here names = .ok (file bytes)) :
    names ∈ files here := by
  induction names generalizing outer here with
  | nil =>
      cases Except.ok.inj hwalk
      simp [files]
  | cons name rest ih =>
      rw [List.mem_cons, not_or] at hdots
      cases here with
      | file bytes => cases hwalk
      | directory entries =>
          obtain ⟨next, hnext, hrest⟩ := exists_of_walk_child (Ne.symm hdots.1) hwalk
          rw [files]
          exact entryFiles_of_lookup hnext (ih hdots.2 hrest)

/-- What entries share with the directory that holds them is kept on a walk. -/
theorem of_walk {motive : Tree → Prop}
    (hentry : ∀ entries name next, motive (directory entries) → entries.lookup name = some next →
      motive next)
    {outer : List Tree} {here found : Tree} {names : List String}
    (houter : ∀ tree ∈ outer, motive tree) (hhere : motive here)
    (hwalk : walk outer here names = .ok found) : motive found := by
  induction names generalizing outer here with
  | nil => exact Except.ok.inj hwalk ▸ hhere
  | cons name rest ih =>
      cases here with
      | file bytes => cases hwalk
      | directory entries =>
          by_cases hdots : name = ".."
          · subst hdots
            cases outer with
            | nil => exact ih houter hhere (by simpa [walk] using hwalk)
            | cons parent outer =>
                exact ih (fun tree htree => houter tree (List.mem_cons_of_mem parent htree))
                  (houter parent List.mem_cons_self) (by simpa [walk] using hwalk)
          · obtain ⟨next, hnext, hrest⟩ := exists_of_walk_child hdots hwalk
            -- Two dots may lead back here, so the directory counts as one that was passed.
            refine ih (fun tree htree => ?_) (hentry entries name next hhere hnext) hrest
            rcases List.mem_cons.mp htree with rfl | htree
            · exact hhere
            · exact houter tree htree

/-! ## Trees whose entries have names of their own -/

mutual

/-- Whether no entry of a tree is called by two dots, which lead back. -/
def isProper : Tree → Bool
  | file _ => true
  | directory entries => areProper entries

/-- Whether no entry, and no entry of an entry, is called by two dots. -/
def areProper : List (String × Tree) → Bool
  | [] => true
  | (name, tree) :: rest => name != ".." && isProper tree && areProper rest

end

theorem isProper_of_lookup {entries : List (String × Tree)} (hproper : areProper entries = true)
    {name : String} {next : Tree} (hnext : entries.lookup name = some next) :
    next.isProper = true := by
  induction entries with
  | nil => simp at hnext
  | cons entry others ih =>
      obtain ⟨other, tree⟩ := entry
      simp only [areProper, Bool.and_eq_true] at hproper
      by_cases hsame : name = other
      · subst hsame
        rw [List.lookup_cons_self] at hnext
        exact Option.some.inj hnext ▸ hproper.1.2
      · rw [List.lookup_cons, beq_eq_false_iff_ne.mpr hsame] at hnext
        exact ih hproper.2 hnext

theorem isProper_of_walk {outer : List Tree} {here found : Tree} {names : List String}
    (houter : ∀ tree ∈ outer, tree.isProper = true) (hhere : here.isProper = true)
    (hwalk : walk outer here names = .ok found) : found.isProper = true := by
  refine of_walk (motive := fun tree => tree.isProper = true) ?_ houter hhere hwalk
  intro entries name next hentries hnext
  rw [isProper] at hentries
  exact isProper_of_lookup hentries hnext

mutual

theorem dots_notMem_files {tree : Tree} (hproper : tree.isProper = true) {names : List String}
    (hnames : names ∈ files tree) : ".." ∉ names := by
  cases tree with
  | file bytes =>
      rw [files, List.mem_singleton] at hnames
      simp [hnames]
  | directory entries =>
      rw [files] at hnames
      rw [isProper] at hproper
      exact dots_notMem_entryFiles hproper hnames

theorem dots_notMem_entryFiles {entries : List (String × Tree)}
    (hproper : areProper entries = true) {names : List String}
    (hnames : names ∈ entryFiles entries) : ".." ∉ names := by
  cases entries with
  | nil => simp [entryFiles] at hnames
  | cons entry others =>
      obtain ⟨name, tree⟩ := entry
      simp only [areProper, Bool.and_eq_true, bne_iff_ne] at hproper
      rw [entryFiles, List.mem_append] at hnames
      rcases hnames with hnames | hnames
      · obtain ⟨rest, hrest, rfl⟩ := List.mem_map.mp hnames
        rw [List.mem_cons, not_or]
        exact ⟨Ne.symm hproper.1.1, dots_notMem_files hproper.1.2 hrest⟩
      · exact dots_notMem_entryFiles hproper.2 hnames

end

theorem ne_nil_of_mem_entryFiles {entries : List (String × Tree)} {names : List String}
    (hnames : names ∈ entryFiles entries) : names ≠ [] := by
  induction entries with
  | nil => simp [entryFiles] at hnames
  | cons entry others ih =>
      obtain ⟨name, tree⟩ := entry
      rw [entryFiles, List.mem_append] at hnames
      rcases hnames with hnames | hnames
      · obtain ⟨rest, -, rfl⟩ := List.mem_map.mp hnames
        exact List.cons_ne_nil name rest
      · exact ih hnames

/-! ## Paths -/

theorem find_eq_ok_iff {p : FilePath} {tree : Tree} :
    root.find current p = .ok tree ↔
      '\x00' ∉ p.text.toList ∧ p.text.utf8ByteSize ≤ pathLimit ∧
        walk [] root (current.join p).names = .ok tree := by
  unfold find
  by_cases hnull : '\x00' ∈ p.text.toList
  · simp [hnull]
  · by_cases hlong : pathLimit < p.text.utf8ByteSize
    · simp [hnull, hlong, Nat.not_le.mpr hlong]
    · rw [if_neg (by simpa using hnull), if_neg hlong]
      cases hwalk : walk [] root (current.join p).names with
      | error obstacle => simp
      | ok found => simp [hnull, Nat.not_lt.mp hlong]

/-- Where a path leads from a directory, the directory is found first. -/
theorem exists_of_find_descend {p : FilePath} (hstart : p.start ≠ .here) {names : List String}
    {tree : Tree} (hfind : root.find current (p.descend names) = .ok tree) :
    ∃ passed middle, root.find current p = .ok middle ∧ walk passed middle names = .ok tree := by
  obtain ⟨hnull, hshort, hwalk⟩ := find_eq_ok_iff.mp hfind
  obtain ⟨more, hmore⟩ := FilePath.text_descend hstart names
  rw [hmore] at hnull hshort
  obtain ⟨passed, hpassed⟩ := walk_append [] root (current.join p).names
  rw [FilePath.join_descend, FilePath.descend, hpassed] at hwalk
  cases hmiddle : walk [] root (current.join p).names with
  | error obstacle =>
      rw [hmiddle] at hwalk
      cases hwalk
  | ok middle =>
      rw [hmiddle] at hwalk
      refine ⟨passed, middle, find_eq_ok_iff.mpr ⟨?_, ?_, hmiddle⟩, hwalk⟩
      · exact fun hmem => hnull (by simp [hmem])
      · rw [String.utf8ByteSize_append] at hshort
        omega

theorem holds_eq_true_iff {kind : Tree → Bool} {found : Except AccessFault Tree} :
    holds kind found = .ok true ↔ ∃ tree, found = .ok tree ∧ kind tree = true := by
  unfold holds
  split <;> simp

theorem workspace_isFile_iff {p : FilePath} :
    (root.workspace current).isFile p = .ok true ↔
      ∃ bytes, root.find current p = .ok (file bytes) := by
  rw [workspace, holds_eq_true_iff]
  constructor
  · rintro ⟨tree, hfind, hkind⟩
    cases tree with
    | file bytes => exact ⟨bytes, hfind⟩
    | directory entries => simp [isFile] at hkind
  · rintro ⟨bytes, hfind⟩
    exact ⟨file bytes, hfind, rfl⟩

theorem workspace_list_iff {p : FilePath} {names : List String} :
    (root.workspace current).list p = .ok names ↔
      ∃ entries, root.find current p = .ok (directory entries) ∧ names = entries.map (·.1) := by
  simp only [workspace]
  cases root.find current p with
  | error fault => simp [bind, Except.bind]
  | ok tree => cases tree <;> simp [bind, Except.bind, namesAt, eq_comm]

/-- A path leads to a file if and only if a file stands there. -/
theorem leadsToFile_iff {p : FilePath} :
    Session.leadsToFile (root.workspace current) p = .ok true ↔
      (root.workspace current).isFile p = .ok true := by
  simp only [Session.leadsToFile, workspace, holds]
  split <;> simp [bind, Except.bind, pure, Except.pure]

/-- A file in a directory is among the names there. -/
theorem mem_list_of_isFile {directory : FilePath} (hstart : directory.start ≠ .here)
    {name : String} (hname : name ≠ "..")
    (hfile : (root.workspace current).isFile (directory.child name) = .ok true) :
    ∃ names, (root.workspace current).list directory = .ok names ∧ name ∈ names := by
  obtain ⟨bytes, hfind⟩ := workspace_isFile_iff.mp hfile
  obtain ⟨passed, middle, hmiddle, hwalk⟩ := exists_of_find_descend hstart hfind
  cases middle with
  | file other => cases hwalk
  | directory entries =>
      obtain ⟨next, hnext, -⟩ := exists_of_walk_child hname hwalk
      obtain ⟨before, after, hentries, -⟩ := List.lookup_eq_some_iff.mp hnext
      exact ⟨_, workspace_list_iff.mpr ⟨entries, hmiddle, rfl⟩, by simp [hentries]⟩

/-- Whether a name in a directory is that of a file. -/
theorem isFile_child_eq {d : FilePath} {entries : List (String × Tree)} {name : String}
    (hname : name ≠ "..") (hfind : root.find current d = .ok (directory entries)) :
    (root.workspace current).isFile (d.child name) =
      if '\x00' ∈ (d.child name).text.toList then .ok false
      else if pathLimit < (d.child name).text.utf8ByteSize ∨ nameLimit < name.utf8ByteSize then
        .error (.refused .nameTooLong (d.child name))
      else .ok ((entries.lookup name).any isFile) := by
  have hwalk : walk [] root (current.join (d.child name)).names =
      if nameLimit < name.utf8ByteSize then .error .nameTooLong
      else (entries.lookup name).elim (.error .missing) .ok := by
    obtain ⟨passed, hpassed⟩ := walk_append [] root (current.join d).names
    rw [FilePath.child_eq_descend, FilePath.join_descend, FilePath.descend, hpassed,
      (find_eq_ok_iff.mp hfind).2.2]
    exact walk_child hname []
  simp only [workspace, find, hwalk]
  by_cases hnull : '\x00' ∈ (d.child name).text.toList
  · simp [hnull, holds]
  · by_cases hlong : pathLimit < (d.child name).text.utf8ByteSize
    · simp [hnull, hlong, holds]
    · by_cases hnameLong : nameLimit < name.utf8ByteSize
      · simp [hnull, hlong, hnameLong, holds]
      · cases hnext : entries.lookup name <;> simp [hnull, hlong, hnameLong, holds]

/-- Whether it is known if a name in a directory is that of a file does not depend on what stands
in the directory. -/
theorem isFile_child_known {other : Tree} {directory : FilePath} {name : String} {found : Bool}
    {names others : List String} (hname : name ≠ "..")
    (hlist : (root.workspace current).list directory = .ok names)
    (hother : (other.workspace current).list directory = .ok others)
    (hfile : (root.workspace current).isFile (directory.child name) = .ok found) :
    ∃ found, (other.workspace current).isFile (directory.child name) = .ok found := by
  obtain ⟨entries, hfind, -⟩ := workspace_list_iff.mp hlist
  obtain ⟨otherEntries, hotherFind, -⟩ := workspace_list_iff.mp hother
  rw [isFile_child_eq hname hfind] at hfile
  rw [isFile_child_eq hname hotherFind]
  split at hfile
  next hnull => exact ⟨false, if_pos hnull⟩
  next hnull =>
    split at hfile
    next => cases hfile
    next hshort => exact ⟨_, by rw [if_neg hnull, if_neg hshort]⟩

/-! ## Files below a directory -/

theorem mem_below_of_isFile {top p : FilePath} (hstart : top.start ≠ .here)
    (hbelow : top.IsBelow p) (hfile : (root.workspace current).isFile p = .ok true) :
    p ∈ (root.workspace current).below top := by
  obtain ⟨names, hne, hdots, rfl⟩ := hbelow
  obtain ⟨bytes, hfind⟩ := workspace_isFile_iff.mp hfile
  obtain ⟨passed, middle, hmiddle, hwalk⟩ := exists_of_find_descend hstart hfind
  have hnames := mem_files_of_walk hdots hwalk
  cases middle with
  | file other =>
      rw [files, List.mem_singleton] at hnames
      exact absurd hnames hne
  | directory entries =>
      rw [files] at hnames
      simp only [workspace, hmiddle]
      exact List.mem_map.mpr ⟨names, hnames, rfl⟩

/-- In a directory of files nothing is listed but these files. -/
theorem exists_of_lists {top p : FilePath} (hstart : top.start ≠ .here) (hbelow : top.IsBelow p)
    {entries : List (String × Tree)} (hfind : root.find current top = .ok (directory entries))
    (hfiles : ∀ entry ∈ entries, entry.2.isFile = true)
    (hlists : (root.workspace current).Lists p) :
    ∃ name ∈ entries.map (·.1), p = top.child name := by
  obtain ⟨names, hne, hdots, rfl⟩ := hbelow
  obtain ⟨found, hlist, hname⟩ := hlists
  obtain ⟨inner, hinner, rfl⟩ := workspace_list_iff.mp hlist
  have hparent : (top.descend names).parent = top.descend names.dropLast := by
    simp [FilePath.parent, FilePath.descend, List.dropLast_append_of_ne_nil hne]
  rw [hparent] at hinner
  obtain ⟨passed, middle, hmiddle, hwalk⟩ := exists_of_find_descend hstart hinner
  cases hfind.symm.trans hmiddle
  cases hrest : names.dropLast with
  | nil =>
      rw [hrest] at hwalk
      cases hwalk
      have hsingle : names = [names.getLast hne] := by
        have hsplit := List.dropLast_append_getLast hne
        rw [hrest, List.nil_append] at hsplit
        exact hsplit.symm
      rw [hsingle, ← FilePath.child_eq_descend, FilePath.name_child] at hname
      refine ⟨names.getLast hne, hname, ?_⟩
      rw [FilePath.child_eq_descend, ← hsingle]
  | cons name rest =>
      rw [hrest] at hwalk
      have hnot : name ≠ ".." := by
        rintro rfl
        exact hdots (List.dropLast_subset names (hrest ▸ List.mem_cons_self))
      obtain ⟨next, hnext, hlast⟩ := exists_of_walk_child hnot hwalk
      obtain ⟨before, after, hentries, -⟩ := List.lookup_eq_some_iff.mp hnext
      -- A longer path would lead through an entry, but all entries are files.
      have hfile := hfiles (name, next) (by simp [hentries])
      cases next with
      | directory others => cases hfile
      | file bytes => cases rest <;> cases hlast

theorem below_eq_nil {top : FilePath}
    (h : (root.workspace current).isDirectory top ≠ .ok true) :
    (root.workspace current).below top = [] := by
  simp only [workspace] at h ⊢
  split
  next entries hfind =>
    rw [hfind] at h
    exact absurd rfl h
  next => rfl

theorem isBelow_of_mem_below {top p : FilePath} (hproper : root.isProper = true)
    (hmem : p ∈ (root.workspace current).below top) : top.IsBelow p := by
  simp only [workspace] at hmem
  split at hmem
  next entries hfind =>
    obtain ⟨names, hnames, rfl⟩ := List.mem_map.mp hmem
    have hentries := isProper_of_walk (by simp) hproper (find_eq_ok_iff.mp hfind).2.2
    rw [isProper] at hentries
    exact ⟨names, ne_nil_of_mem_entryFiles hnames, dots_notMem_entryFiles hentries hnames, rfl⟩
  next => cases hmem

end Tree

end Conform
