import Conform.Proofs.Assembly
import Conform.Proofs.Files.Below
import Conform.Proofs.Files.Collecting
import Mathlib.Data.List.Sort

/-! # The files that paths give

Paths give files: each its own file, or the files with a wanted suffix below its
directory. Files are visited once, and the order of the visit leaves nothing open. So
the visit depends on which paths there are, and neither on their order nor on what
they have in common.
-/

namespace Conform.Collect

/-! ## The order of a visit -/

/-- A file is visited before another one: it is no schema and the other one is, or both are of one
sort and its written form comes first. -/
def Precedes (p q : FilePath) : Prop :=
  (Convention.isSchemaName p.name = false ∧ Convention.isSchemaName q.name = true) ∨
    (Convention.isSchemaName p.name = Convention.isSchemaName q.name ∧ p.text < q.text)

theorem Precedes.asymm {p q : FilePath} (h : Precedes p q) : ¬Precedes q p := by
  rintro (⟨hq, hp⟩ | ⟨hsame, htext⟩)
  · rcases h with ⟨hp', -⟩ | ⟨hsame, -⟩
    · rw [hp'] at hp
      cases hp
    · rw [hp, hq] at hsame
      cases hsame
  · rcases h with ⟨hp, hq⟩ | ⟨-, htext'⟩
    · rw [hp, hq] at hsame
      cases hsame
    · exact String.lt_asymm htext htext'

instance : Std.Irrefl Precedes := ⟨fun _ h => h.asymm h⟩

instance : Std.Antisymm Precedes := ⟨fun _ _ hpq hqp => absurd hqp hpq.asymm⟩

/-- Of two different files that texts name one is visited before the other. -/
theorem precedes_of_visitedBefore {p q : FilePath} (hp : p.WellFormed) (hq : q.WellFormed)
    (hne : p ≠ q) (h : visitedBefore p q = true) : Precedes p q := by
  rw [visitedBefore_iff] at h
  by_cases hsame : Convention.isSchemaName p.name = Convention.isSchemaName q.name
  · refine Or.inr ⟨hsame, String.not_le.mp fun hge => hne ?_⟩
    exact FilePath.text_injective hp hq (String.le_antisymm (h.2 hsame) hge)
  · cases hschema : Convention.isSchemaName p.name with
    | false =>
        rw [hschema] at hsame
        exact Or.inl ⟨hschema, Bool.eq_true_of_not_eq_false (Ne.symm hsame)⟩
    | true => exact absurd (hschema.trans (h.1 hschema).symm) hsame

/-! ## The files of a visit -/

/-- A path gives a file: it leads to the file, or to a directory above a file that is wanted. -/
def Gives (w : Workspace) (suffixes : List String) (path file : FilePath) : Prop :=
  w.isFile file = .ok true ∧
    (file = w.absolute path ∨
      (w.isDirectory (w.absolute path) = .ok true ∧ (w.absolute path).IsBelow file ∧
        Text.lower file.suffix ∈ suffixes))

/-- What is visited because of some paths. -/
structure IsVisit (w : Workspace) (suffixes : List String) (paths found : List FilePath) :
    Prop where
  nodup : found.Nodup
  mem_iff : ∀ file, file ∈ found ↔ ∃ path ∈ paths, Gives w suffixes path file
  sorted : found.Pairwise Precedes

/-- Nothing is left open in a visit once it is known which paths there are. -/
theorem IsVisit.eq_of_same {w : Workspace} {suffixes : List String}
    {paths others found found' : List FilePath} (h : IsVisit w suffixes paths found)
    (h' : IsVisit w suffixes others found') (hsame : ∀ path, path ∈ others ↔ path ∈ paths) :
    found' = found := by
  refine h'.sorted.eq_of_mem_iff h.sorted fun file => ?_
  simp only [h.mem_iff, h'.mem_iff, hsame]

/-! ## Visits in a tree -/

variable {root : Tree} {current : FilePath} {suffixes : List String} {path file : FilePath}

/-- A path is refused because it, or a name on its way, is too long. -/
def TooLong (root : Tree) (current path : FilePath) : Prop :=
  root.find current (current.join path) =
    .error (.refused .nameTooLong (current.join path))

instance (root : Tree) (current path : FilePath) : Decidable (TooLong root current path) :=
  match h : root.find current (current.join path) with
  | .ok _ => isFalse fun hlong => by rw [TooLong, h] at hlong; cases hlong
  | .error fault =>
    decidable_of_iff (fault = .refused .nameTooLong (current.join path)) (by
      rw [TooLong, h, Except.error.injEq])

theorem path_eq_of_find {obstacle : Obstacle} {p q : FilePath}
    (h : root.find current p = .error (.refused obstacle q)) : q = p := by
  unfold Tree.find at h
  split at h
  next => cases h
  next =>
    split at h
    next => exact ((AccessFault.refused.injEq ..).mp (Except.error.inj h)).2.symm
    next =>
      split at h
      next => exact ((AccessFault.refused.injEq ..).mp (Except.error.inj h)).2.symm
      next => cases h

/-- A name in the working directory is refused if it is too long. -/
theorem tooLong_of_name {entries : List (String × Tree)} {name : String}
    (hcurrent : current.start ≠ .here) (hnull : '\x00' ∉ current.text.toList)
    (hwalk : Tree.walk [] root current.names = .ok (.directory entries)) (hdots : name ≠ "..")
    (hname : '\x00' ∉ name.toList) (hlong : Tree.nameLimit < name.utf8ByteSize) :
    TooLong root current ⟨.here, [name]⟩ := by
  have hjoin : current.join ⟨.here, [name]⟩ = current.descend [name] := rfl
  have htext : '\x00' ∉ (current.descend [name]).text.toList := by
    intro hmem
    rcases FilePath.mem_text_descend hcurrent (by decide) hmem with hmem | ⟨other, hother, hmem⟩
    · exact hnull hmem
    · exact hname (List.mem_singleton.mp hother ▸ hmem)
  have hrefused : Tree.walk [] root (current.join (current.descend [name])).names =
      .error .nameTooLong := by
    obtain ⟨passed, hpassed⟩ := Tree.walk_append [] root current.names
    have hstart : (current.descend [name]).start ≠ .here := hcurrent
    rw [FilePath.join_eq_right hstart, FilePath.descend, hpassed, hwalk]
    exact (Tree.walk_child hdots []).trans (if_pos hlong)
  rw [TooLong, hjoin, Tree.find, if_neg (by simpa using htext), hrefused]
  exact ite_self _

/-- What a path gives in a tree goes by what stands there. -/
theorem ofPath_eq (root : Tree) (current : FilePath) (suffixes : List String) (path : FilePath) :
    ofPath (root.workspace current) suffixes path =
      match root.find current (current.join path) with
      | .ok (.file _) => .ok [current.join path]
      | .ok (.directory _) =>
        .ok (((root.workspace current).below (current.join path)).filter (isWanted suffixes))
      | .error (.refused .nameTooLong p) => .error (.refused .nameTooLong p)
      | .error _ => .ok [] := by
  have habsolute : (root.workspace current).absolute path = current.join path := rfl
  unfold ofPath
  simp only [habsolute]
  generalize hbelow : (root.workspace current).below (current.join path) = below
  simp only [Tree.workspace]
  split
  next bytes h => rw [h]; rfl
  next entries h => rw [h]; rfl
  next p h => rw [h]; rfl
  next fault hshort h =>
    rw [h]
    cases fault with
    | refused obstacle p => cases obstacle <;> first | rfl | exact absurd rfl (hshort p)
    | nullCharacter => rfl
    | malformed found => rfl

theorem ofPath_eq_error_iff {fault : AccessFault} :
    ofPath (root.workspace current) suffixes path = .error fault ↔
      TooLong root current path ∧ fault = .refused .nameTooLong (current.join path) := by
  rw [ofPath_eq, TooLong]
  split
  next h => simp [h]
  next h => simp [h]
  next p h =>
    cases path_eq_of_find h
    simp [h, eq_comm]
  next fault hshort h =>
    have hother : fault ≠ .refused .nameTooLong (current.join path) := hshort _
    simp [h, hother]

theorem exists_ofPath_eq_ok_iff :
    (∃ found, ofPath (root.workspace current) suffixes path = .ok found) ↔
      ¬TooLong root current path := by
  cases h : ofPath (root.workspace current) suffixes path with
  | error fault => simp [(ofPath_eq_error_iff.mp h).1]
  | ok found =>
      have hshort : ¬TooLong root current path := fun hlong => by
        rw [ofPath_eq_error_iff.mpr ⟨hlong, rfl⟩] at h
        cases h
      simp [hshort]

/-- Nothing stands at a path that is refused. -/
theorem not_gives_of_tooLong (h : TooLong root current path) :
    ¬Gives (root.workspace current) suffixes path file := by
  rintro ⟨hfile, rfl | ⟨hdirectory, -⟩⟩
  · obtain ⟨bytes, hbytes⟩ := Tree.workspace_isFile_iff.mp hfile
    cases hbytes.symm.trans h
  · obtain ⟨tree, htree, -⟩ := Tree.holds_eq_true_iff.mp hdirectory
    cases htree.symm.trans h

section Collected

variable (hroot : root.isWellFormed = true) (hcurrent : current.start ≠ .here)
include hroot hcurrent

/-- The files that one path gives are collected for it. -/
theorem mem_ofPath_iff (hfits : root.Fits current (current.join path)) {found : List FilePath}
    (h : ofPath (root.workspace current) suffixes path = .ok found) :
    file ∈ found ↔ Gives (root.workspace current) suffixes path file := by
  have habsolute : (root.workspace current).absolute path = current.join path := rfl
  have htop := FilePath.start_join_ne hcurrent path
  rw [ofPath_eq] at h
  rw [Gives, habsolute]
  split at h
  next bytes hfind =>
    cases h
    have hfile : (root.workspace current).isFile (current.join path) = .ok true :=
      Tree.workspace_isFile_iff.mpr ⟨bytes, hfind⟩
    have hnot : (root.workspace current).isDirectory (current.join path) = .ok false := by
      simp only [Tree.workspace, hfind]
      rfl
    rw [List.mem_singleton]
    constructor
    · rintro rfl
      exact ⟨hfile, Or.inl rfl⟩
    · rintro ⟨-, heq | ⟨hdirectory, -⟩⟩
      · exact heq
      · cases hnot.symm.trans hdirectory
  next entries hfind =>
    cases h
    have hdirectory : (root.workspace current).isDirectory (current.join path) = .ok true := by
      simp only [Tree.workspace, hfind]
      rfl
    rw [List.mem_filter, Tree.mem_below_iff hroot htop hfits, isWanted, List.contains_iff_mem]
    constructor
    · rintro ⟨⟨hbelow, hfile⟩, hwanted⟩
      exact ⟨hfile, Or.inr ⟨hdirectory, hbelow, hwanted⟩⟩
    · rintro ⟨hfile, rfl | ⟨-, hbelow, hwanted⟩⟩
      · obtain ⟨bytes, hbytes⟩ := Tree.workspace_isFile_iff.mp hfile
        cases hfind.symm.trans hbytes
      · exact ⟨⟨hbelow, hfile⟩, hwanted⟩
  next => cases h
  next fault hshort hfind =>
    cases h
    constructor
    · intro hmem
      cases hmem
    · rintro ⟨hfile, rfl | ⟨hdirectory, -⟩⟩
      · obtain ⟨bytes, hbytes⟩ := Tree.workspace_isFile_iff.mp hfile
        cases hfind.symm.trans hbytes
      · obtain ⟨tree, htree, -⟩ := Tree.holds_eq_true_iff.mp hdirectory
        cases hfind.symm.trans htree

omit hcurrent in
theorem wellFormed_of_mem_ofPath (hspelled : current.WellFormed) (hpath : path.WellFormed)
    {found : List FilePath} (h : ofPath (root.workspace current) suffixes path = .ok found)
    (hmem : file ∈ found) : file.WellFormed := by
  have htop := hspelled.join hpath
  rw [ofPath_eq] at h
  split at h
  next =>
    cases h
    rwa [List.mem_singleton.mp hmem]
  next =>
    cases h
    exact Tree.wellFormed_of_mem_below hroot htop (List.mem_of_mem_filter hmem)
  next => cases h
  next =>
    cases h
    cases hmem

/-- Paths of which none is refused give a visit. -/
theorem exists_isVisit (suffixes : List String) (hspelled : current.WellFormed)
    {paths : List FilePath} (hpaths : ∀ path ∈ paths, path.WellFormed)
    (hshort : ∀ path ∈ paths, ¬TooLong root current path)
    (hfits : ∀ path ∈ paths, root.Fits current (current.join path)) :
    ∃ found, files (root.workspace current) suffixes paths = .ok found ∧
      IsVisit (root.workspace current) suffixes paths found := by
  obtain ⟨lists, hlists⟩ : ∃ lists, paths.mapM (ofPath (root.workspace current) suffixes) =
      .ok lists :=
    exists_mapM_eq_ok_iff.mpr fun path hpath => exists_ofPath_eq_ok_iff.mpr (hshort path hpath)
  have hmem : ∀ file, file ∈ lists.flatten.eraseDups.mergeSort visitedBefore ↔
      ∃ path ∈ paths, ∃ found, ofPath (root.workspace current) suffixes path = .ok found ∧
        file ∈ found := by
    intro file
    rw [(List.mergeSort_perm _ _).mem_iff, List.mem_eraseDups, List.mem_flatten]
    simp only [mem_iff_of_mapM hlists]
    constructor
    · rintro ⟨found, ⟨path, hpath, hgives⟩, hfile⟩
      exact ⟨path, hpath, found, hgives, hfile⟩
    · rintro ⟨path, hpath, found, hgives, hfile⟩
      exact ⟨found, ⟨path, hpath, hgives⟩, hfile⟩
  have hnodup : (lists.flatten.eraseDups.mergeSort visitedBefore).Nodup :=
    (List.mergeSort_perm _ _).nodup_iff.mpr (nodup_eraseDups _)
  have hwell : ∀ file ∈ lists.flatten.eraseDups.mergeSort visitedBefore, file.WellFormed := by
    intro file hfile
    obtain ⟨path, hpath, found, hgives, hfile⟩ := (hmem file).mp hfile
    exact wellFormed_of_mem_ofPath hroot hspelled (hpaths path hpath) hgives hfile
  refine ⟨lists.flatten.eraseDups.mergeSort visitedBefore, ?_, hnodup, fun file => ?_, ?_⟩
  · rw [files, hlists]
    rfl
  · rw [hmem]
    constructor
    · rintro ⟨path, hpath, found, hgives, hfile⟩
      exact ⟨path, hpath, (mem_ofPath_iff hroot hcurrent (hfits path hpath) hgives).mp hfile⟩
    · rintro ⟨path, hpath, hfile⟩
      obtain ⟨found, hgives⟩ := exists_ofPath_eq_ok_iff.mpr (hshort path hpath)
      exact ⟨path, hpath, found, hgives,
        (mem_ofPath_iff hroot hcurrent (hfits path hpath) hgives).mpr hfile⟩
  · have hsorted := List.pairwise_mergeSort visitedBefore_trans visitedBefore_total
      lists.flatten.eraseDups
    refine (hsorted.and hnodup).imp_of_mem fun hp hq h => ?_
    exact precedes_of_visitedBefore (hwell _ hp) (hwell _ hq) h.2 h.1

end Collected

/-- The files that paths give in a tree. If no path is refused, these are the files that each of
them gives, once each, those that are no schemas first and those of one sort in the order of their
written forms; so the same paths in another order, or repeated, give the same visit. Otherwise the
first path that is refused is told. -/
theorem files_isVisit (hroot : root.isWellFormed = true) (hcurrent : current.start ≠ .here)
    (hspelled : current.WellFormed) (suffixes : List String) {paths : List FilePath}
    (hpaths : ∀ path ∈ paths, path.WellFormed)
    (hfits : ∀ path ∈ paths, root.Fits current (current.join path)) :
    ((∀ path ∈ paths, ¬TooLong root current path) →
      ∃ found, files (root.workspace current) suffixes paths = .ok found ∧
        IsVisit (root.workspace current) suffixes paths found ∧
        ∀ others : List FilePath, (∀ path, path ∈ others ↔ path ∈ paths) →
          files (root.workspace current) suffixes others = .ok found) ∧
    ∀ fault, files (root.workspace current) suffixes paths = .error fault ↔
      ∃ before path after, paths = before ++ path :: after ∧
        (∀ other ∈ before, ¬TooLong root current other) ∧ TooLong root current path ∧
        fault = .refused .nameTooLong (current.join path) := by
  refine ⟨fun hshort => ?_, fun fault => ?_⟩
  · obtain ⟨found, hfound, hvisit⟩ :=
      exists_isVisit hroot hcurrent suffixes hspelled hpaths hshort hfits
    refine ⟨found, hfound, hvisit, fun others hsame => ?_⟩
    obtain ⟨found', hfound', hvisit'⟩ :=
      exists_isVisit hroot hcurrent suffixes hspelled
        (fun path hpath => hpaths path ((hsame path).mp hpath))
        (fun path hpath => hshort path ((hsame path).mp hpath))
        (fun path hpath => hfits path ((hsame path).mp hpath))
    rw [hfound', hvisit.eq_of_same hvisit' hsame]
  · have hlists : files (root.workspace current) suffixes paths = .error fault ↔
        paths.mapM (ofPath (root.workspace current) suffixes) = .error fault := by
      rw [files]
      cases paths.mapM (ofPath (root.workspace current) suffixes) <;> simp [Except.map]
    rw [hlists, mapM_eq_error_iff]
    simp only [exists_ofPath_eq_ok_iff, ofPath_eq_error_iff]

namespace Sample

/-- A directory with a note, and in it one with a note, a schema, and a document in a directory of
its own. -/
def shelf : Tree :=
  .directory [("w", .directory [("x.txt", .file []), ("d", .directory
    [("x.txt", .file []), ("aSchema.json", .file []), ("s", .directory [("c.JSON", .file [])])])])]

/-- The directory where the paths start. -/
def base : FilePath := ⟨.root, ["w"]⟩

/-- A path with a name that no file can have. -/
def endless : FilePath := ⟨.here, [String.ofList (List.replicate 256 'a')]⟩

end Sample

open Sample

/-- Directories may lie in each other, paths may lead nowhere or come twice, and their order makes
no difference. -/
theorem files_isVisit_overlapping :
    let paths := ["d/s", "x.txt", "d/", "nowhere", "./d/x.txt", "x.txt"].map FilePath.ofString
    let others := ["nowhere", "d", "x.txt", "d/x.txt", "d/s"].map FilePath.ofString
    shelf.isWellFormed = true ∧ base.start ≠ .here ∧ base.WellFormed ∧
      (∀ path ∈ paths, path.WellFormed) ∧
      (∀ path ∈ paths, shelf.Fits base (base.join path)) ∧
      (∀ path ∈ paths, ¬TooLong shelf base path) ∧ (∀ path, path ∈ others ↔ path ∈ paths) ∧
      ∃ found, files (shelf.workspace base) [".json"] paths = .ok found ∧
        IsVisit (shelf.workspace base) [".json"] paths found ∧
        files (shelf.workspace base) [".json"] others = .ok found ∧
        base.descend ["d", "s", "c.JSON"] ∈ found ∧ base.descend ["d", "x.txt"] ∈ found := by
  intro paths others
  have hpaths : ∀ path ∈ paths, path.WellFormed := by
    intro path hpath
    obtain ⟨argument, -, rfl⟩ := List.mem_map.mp hpath
    exact FilePath.ofString_wellFormed argument
  have hbase : base.WellFormed := FilePath.ofString_wellFormed "/w"
  have hroot : shelf.isWellFormed = true := by decide +kernel
  have hfits : ∀ path ∈ paths, shelf.Fits base (base.join path) := by decide +kernel
  have hshort : ∀ path ∈ paths, ¬TooLong shelf base path := by decide +kernel
  have hsame : ∀ path, path ∈ others ↔ path ∈ paths := by
    intro path
    exact ⟨fun h => (by decide +kernel : ∀ path ∈ others, path ∈ paths) path h,
      fun h => (by decide +kernel : ∀ path ∈ paths, path ∈ others) path h⟩
  obtain ⟨found, hfound, hvisit, hothers⟩ :=
    (files_isVisit hroot (by decide) hbase [".json"] hpaths hfits).1 hshort
  refine ⟨hroot, by decide, hbase, hpaths, hfits, hshort, hsame, found, hfound, hvisit,
    hothers others hsame, ?_, ?_⟩
  · refine (hvisit.mem_iff _).mpr ⟨FilePath.ofString "d", by decide +kernel, rfl, Or.inr ⟨rfl, ?_⟩⟩
    exact ⟨⟨["s", "c.JSON"], by decide, by decide, rfl⟩, by decide +kernel⟩
  · exact (hvisit.mem_iff _).mpr
      ⟨FilePath.ofString "./d/x.txt", by decide +kernel, rfl, Or.inl (by decide +kernel)⟩

/-- No file is given by a path that leads nowhere, but there is no visit if its name is too long. -/
theorem files_refuses_long :
    endless.WellFormed ∧ IsVisit (shelf.workspace base) [".json"] [endless] [] ∧
      files (shelf.workspace base) [".json"] [endless] =
        .error (.refused .nameTooLong (base.join endless)) := by
  have hname : ∀ c ≠ 'a', c ∉ (String.ofList (List.replicate 256 'a')).toList := by
    intro c hc
    rw [String.toList_ofList]
    exact fun hmem => hc (List.eq_of_mem_replicate hmem)
  have hlong : TooLong shelf base endless :=
    tooLong_of_name (by decide) (by decide) rfl (by decide +kernel) (hname _ (by decide))
      (by decide +kernel)
  have hslash : ∀ name ∈ endless.names, '/' ∉ name.toList :=
    List.forall_mem_singleton.mpr (hname _ (by decide))
  refine ⟨⟨by decide +kernel, by decide +kernel, hslash⟩,
    ⟨List.nodup_nil, fun file => ?_, List.Pairwise.nil⟩, ?_⟩
  · constructor
    · intro hmem
      cases hmem
    · rintro ⟨path, hpath, hgives⟩
      rw [List.mem_singleton.mp hpath] at hgives
      exact absurd hgives (not_gives_of_tooLong hlong)
  · rw [files_singleton, ofPath_eq_error_iff.mpr ⟨hlong, rfl⟩]
    rfl

end Conform.Collect
