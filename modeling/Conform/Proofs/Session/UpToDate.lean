import Conform.Proofs.Session.Advance

/-! # Sessions that are up to date

A directory is checked once, and then batch after batch tells of what has changed
in it. A session is up to date with the files there are if what it holds about
each of them is settled. The first visit leads to such a session. A batch is
dealt with one file at a time among files that have all changed already, and
still it leads from a session that is up to date to one that is.

Files with names of schemas may not come into being, nor may directories with
such names come or go: the files beside them are not told that another schema
is found for them now.
-/

namespace Conform

open Standing

namespace Vigil

/-- What a batch has to tell of the files there were before and those there are after it. -/
structure Tells (v : Vigil) (before after : Tree) (batch : Watch.Batch) : Prop where
  covers_changed : ∀ p ∈ batch.changed, v.Covers p
  covers_deleted : ∀ p ∈ batch.deleted, v.Covers p
  /-- Files that came are told of. -/
  created : ∀ {p}, v.Covers p → (v.workspace after).isFile p = .ok true →
    (v.workspace before).isFile p ≠ .ok true → p ∈ batch.changed
  /-- Files with another text than before are told of. -/
  modified : ∀ {p}, v.Covers p → (v.workspace after).isFile p = .ok true →
    (v.workspace after).text p ≠ (v.workspace before).text p → p ∈ batch.changed
  /-- Files that went are told of. -/
  vanished : ∀ {p}, v.Covers p → (v.workspace before).isFile p = .ok true →
    (v.workspace after).isFile p ≠ .ok true → p ∈ batch.deleted
  /-- Files that went and came again are told of twice. -/
  recreated : ∀ p ∈ batch.deleted, (v.workspace after).isFile p = .ok true → p ∈ batch.changed
  /-- No file with the name of a schema came. -/
  schema_file : ∀ {p}, v.Covers p → Convention.isSchemaName p.name = true →
    (v.workspace after).isFile p = .ok true → (v.workspace before).isFile p = .ok true

/-- A batch that tells of all files, during which no directory with the name of a schema came or
went. -/
structure Reports (v : Vigil) (before after : Tree) (batch : Watch.Batch) : Prop extends
    Tells v before after batch where
  /-- Nothing with the name of a schema came, whether a file or not. -/
  schema_entry : ∀ {p}, v.Covers p → Convention.isSchemaName p.name = true →
    (v.workspace after).Lists p → (v.workspace before).Lists p
  /-- What has the name of a schema and is no file has not gone. -/
  schema_directory : ∀ {p}, v.Covers p → Convention.isSchemaName p.name = true →
    (v.workspace before).Lists p → (v.workspace before).isFile p ≠ .ok true →
    (v.workspace after).Lists p

/-- The trees with the sessions that a watched directory comes to: the files there are at the start
are visited, and then batches are dealt with, each among the files there are after it. Every pass
is completed. -/
inductive Reached (v : Vigil) : Tree → Session → Prop
  | start {tree : Tree} {files : List FilePath} {s : Session}
      (hproper : tree.isProper = true) (hroot : (v.workspace tree).isFile v.top ≠ .ok true)
      (hfiles : v.files tree = .ok files)
      (hvisit : (Session.empty.visit (v.workspace tree) v.setup files).Ends () s) :
      Reached v tree s
  | batch {before after : Tree} {batch : Watch.Batch} {s t : Session}
      (hbefore : Reached v before s) (hreports : v.Reports before after batch)
      (hhandle : (s.handle (v.workspace after) v.setup batch).Ends (.ok ()) t) :
      Reached v after t

variable {v : Vigil} {before after tree : Tree} {batch : Watch.Batch} {s t : Session}
  {p schema : FilePath}

/-- A session is up to date with the files there are. -/
structure UpToDate (v : Vigil) (w : Workspace) (s : Session) : Prop where
  sane : v.Sane s
  present : ∀ {p schema}, s.index.schemaFor? p = some schema →
    Session.leadsToFile w p = .ok true
  settled : ∀ {p}, v.Covers p → Convention.isSchemaName p.name = false →
    Session.leadsToFile w p = .ok true → Settled w v.setup p (s.standing p)

theorem isFile_of_leadsToFile (h : Session.leadsToFile (v.workspace tree) p = .ok true) :
    (v.workspace tree).isFile p = .ok true :=
  Tree.leadsToFile_iff.mp h

theorem leadsToFile_of_isFile (h : (v.workspace tree).isFile p = .ok true) :
    Session.leadsToFile (v.workspace tree) p = .ok true :=
  Tree.leadsToFile_iff.mpr h

/-- What a batch has to tell can be read off the files below the directory. -/
theorem Tells.of_below (hchanged : ∀ p ∈ batch.changed, v.Covers p)
    (hdeleted : ∀ p ∈ batch.deleted, v.Covers p)
    (hafter : ∀ p ∈ (v.workspace after).below v.top, p ∈ batch.changed ∨
      (v.workspace before).isFile p = .ok true ∧
        (v.workspace after).text p = (v.workspace before).text p)
    (hbefore : ∀ p ∈ (v.workspace before).below v.top,
      p ∈ batch.deleted ∨ (v.workspace after).isFile p = .ok true)
    (hrecreated : ∀ p ∈ batch.deleted,
      (v.workspace after).isFile p = .ok true → p ∈ batch.changed)
    (hschema : ∀ p ∈ (v.workspace after).below v.top, Convention.isSchemaName p.name = true →
      (v.workspace before).isFile p = .ok true) :
    v.Tells before after batch := by
  have hbelow : ∀ {tree p}, v.Covers p → (v.workspace tree).isFile p = .ok true →
      p ∈ (v.workspace tree).below v.top := fun hp hfile =>
    Tree.mem_below_of_isFile v.top_absolute hp.1 hfile
  refine ⟨hchanged, hdeleted, ?_, ?_, ?_, hrecreated, ?_⟩
  · intro p hp hfile hnew
    exact (hafter p (hbelow hp hfile)).resolve_right fun hold => hnew hold.1
  · intro p hp hfile hother
    exact (hafter p (hbelow hp hfile)).resolve_right fun hold => hother hold.2
  · intro p hp hfile hgone
    exact (hbefore p (hbelow hp hfile)).resolve_right hgone
  · intro p hp hname hfile
    exact hschema p (hbelow hp hfile) hname

/-! ## The first visit -/

theorem upToDate_of_visit {files : List FilePath} (hproper : tree.isProper = true)
    (hroot : (v.workspace tree).isFile v.top ≠ .ok true) (hfiles : v.files tree = .ok files)
    (hvisit : (Session.empty.visit (v.workspace tree) v.setup files).Ends () s) :
    v.UpToDate (v.workspace tree) s := by
  have hcovers : ∀ f ∈ files, v.Covers f := by
    intro f hf
    obtain ⟨hbelow, hwanted⟩ := (mem_files_iff hroot hfiles).mp hf
    exact ⟨Tree.isBelow_of_mem_below hproper hbelow, hwanted⟩
  obtain ⟨hadvances, hsettled, -⟩ :=
    performAll_changed empty_sane hcovers (Session.visit_ends_iff.mp hvisit)
  refine ⟨hadvances.sane, fun {p schema} hschema => ?_, fun {p} hp hname hfile => ?_⟩
  · by_contra hfile
    have hempty := hadvances.schemaFor?_of_some hfile hschema
    cases hempty
  · refine hsettled p ((mem_files_iff hroot hfiles).mpr ⟨?_, hp.2⟩) hname hfile
    exact Tree.mem_below_of_isFile v.top_absolute hp.1 (isFile_of_leadsToFile hfile)

/-! ## Batches -/

theorem namesBeside_eq {w : Workspace} {directory : FilePath} {names : List String}
    (h : w.list directory = .ok names) : Session.namesBeside w directory = names := by
  rw [Session.namesBeside, h]

theorem Covers.exists_names (hp : v.Covers p)
    (hfile : (v.workspace tree).isFile p = .ok true) :
    ∃ names, (v.workspace tree).list p.parent = .ok names := by
  have hparent : p.parent.start ≠ .here := hp.absolute
  rw [← hp.1.child_parent] at hfile
  obtain ⟨names, hlist, -⟩ := Tree.mem_list_of_isFile hparent hp.1.name_ne_dots hfile
  exact ⟨names, hlist⟩

/-- A batch leaves a directory steady as far as schemas of one file are concerned. -/
theorem Reports.steady (hreports : v.Reports before after batch) (hp : v.Pairs p)
    {names names' : List String}
    (hlist : (v.workspace before).list p.parent = .ok names)
    (hlist' : (v.workspace after).list p.parent = .ok names') :
    Convention.Steady (v.workspace before) (v.workspace after) p.parent names names' := by
  have hcovers : ∀ {name}, Convention.isSchemaName name = true →
      v.Covers (p.parent.child name) := fun {name} hname =>
    hp.covers_beside ⟨name, hname, rfl⟩
  have hdots : ∀ {name}, Convention.isSchemaName name = true → name ≠ ".." := by
    rintro name hname rfl
    exact absurd hname (by decide)
  have hnamed : ∀ {name}, Convention.isSchemaName name = true →
      Convention.isSchemaName (p.parent.child name).name = true := fun {name} hname => by
    rw [FilePath.name_child]
    exact hname
  have hlists : ∀ {w : Workspace} {found : List String} {name : String},
      w.list p.parent = .ok found → (w.Lists (p.parent.child name) ↔ name ∈ found) := by
    intro w found name hfound
    rw [Workspace.Lists, FilePath.parent_child, FilePath.name_child, hfound]
    simp
  have hmem : ∀ {name}, Convention.isSchemaName name = true →
      (v.workspace after).isFile (p.parent.child name) = .ok true → name ∈ names' := by
    intro name hname hfile
    have hparent : p.parent.start ≠ .here := hp.covers.absolute
    obtain ⟨found, hfound, hmem⟩ := Tree.mem_list_of_isFile hparent (hdots hname) hfile
    cases hlist'.symm.trans hfound
    exact hmem
  constructor
  · intro name hname hthere
    exact (hlists hlist).mp (hreports.schema_entry (hcovers hname) (hnamed hname)
      ((hlists hlist').mpr hthere))
  · intro name hname hfile
    exact hreports.schema_file (hcovers hname) (hnamed hname) hfile
  · intro name hname hthere hfile
    exact (hlists hlist').mp (hreports.schema_directory (hcovers hname) (hnamed hname)
      ((hlists hlist).mpr hthere) hfile)
  · intro name found hname hfile
    exact Tree.isFile_child_known (hdots hname) hlist hlist' hfile
  · exact hmem

/-- A batch leaves a file the schema it has, as long as that is not gone. -/
theorem Reports.schemaOf_eq (hreports : v.Reports before after batch) (hp : v.Pairs p)
    (hbefore : (v.workspace before).isFile p = .ok true)
    (hafter : (v.workspace after).isFile p = .ok true) {found : Option FilePath}
    (h : Session.schemaOf (v.workspace before) p = .ok found)
    (hstays : ∀ schema, found = some schema → (v.workspace after).isFile schema = .ok true) :
    Session.schemaOf (v.workspace after) p = .ok found := by
  obtain ⟨names, hlist⟩ := hp.covers.exists_names hbefore
  obtain ⟨names', hlist'⟩ := hp.covers.exists_names hafter
  rw [Session.schemaOf, namesBeside_eq hlist] at h
  rw [Session.schemaOf, namesBeside_eq hlist']
  exact Convention.choose_steady (hreports.steady hp hlist hlist')
    (fun name hname => Convention.isSchemaName_of_mem_candidates hname) h hstays

/-- A batch that does not tell that the schema of a file went leaves the file that schema. -/
theorem Reports.schemaOf_stays (hreports : v.Reports before after batch) (hp : v.Pairs p)
    (hbefore : (v.workspace before).isFile p = .ok true)
    (hafter : (v.workspace after).isFile p = .ok true)
    (hfound : Session.schemaOf (v.workspace before) p = .ok (some schema))
    (hdeleted : schema ∉ batch.deleted) :
    (v.workspace after).isFile schema = .ok true ∧
      Session.schemaOf (v.workspace after) p = .ok (some schema) := by
  obtain ⟨hbeside, hwas⟩ := exists_of_schemaOf hfound
  have hstays : (v.workspace after).isFile schema = .ok true := by
    by_contra hvanished
    exact hdeleted (hreports.vanished (hp.covers_beside hbeside) hwas hvanished)
  refine ⟨hstays, hreports.schemaOf_eq hp hbefore hafter hfound fun other hother => ?_⟩
  cases hother
  exact hstays

/-- What a batch does not tell of is settled once the batch was dealt with. -/
theorem Reports.settled_of_unchanged (hreports : v.Reports before after batch)
    (hs : v.UpToDate (v.workspace before) s)
    (hhandle : (s.handle (v.workspace after) v.setup batch).Ends (.ok ()) t)
    (hcovers : v.Covers p) (hname : Convention.isSchemaName p.name = false)
    (hfile : (v.workspace after).isFile p = .ok true) (hchanged : p ∉ batch.changed) :
    Settled (v.workspace after) v.setup p (t.standing p) := by
  have hgone : p ∉ FilePath.sort batch.deleted := fun hdeleted =>
    hchanged (hreports.recreated p (FilePath.mem_sort.mp hdeleted) hfile)
  have hbefore : (v.workspace before).isFile p = .ok true := by
    by_contra hnew
    exact hchanged (hreports.created hcovers hfile hnew)
  have htext : (v.workspace after).text p = (v.workspace before).text p := by
    by_contra hother
    exact hchanged (hreports.modified hcovers hfile hother)
  have hthere := leadsToFile_of_isFile hfile
  have hold := hs.settled hcovers hname (leadsToFile_of_isFile hbefore)
  obtain ⟨middle, hremove, hchange⟩ := performAll_append_ends hhandle
  obtain ⟨hfirst, -, hremoved⟩ := performAll_removed hs.sane
    (fun d hd => hreports.covers_deleted d (FilePath.mem_sort.mp hd)) hremove
  obtain ⟨hlast, -, hchecked⟩ := performAll_changed hfirst.sane
    (fun c hc => hreports.covers_changed c (FilePath.mem_sort.mp hc)) hchange
  have hmovesFirst := hfirst.moves hname hthere hgone
  have hmovesLast := hlast.moves hname hthere id
  have hmoves := hmovesFirst.trans hmovesLast
  by_cases hp : v.Pairs p
  · obtain ⟨hfound, -⟩ := hold.paired hp.first?_eq_none hp.isDocumentName
    cases hschema : s.index.schemaFor? p with
    | none =>
        refine (hold.congr htext fun _ _ => ⟨?_, fun schema hsome => ?_⟩).moves hmoves
        · refine hreports.schemaOf_eq hp hbefore hfile hfound fun schema hsome => ?_
          rw [Session.standing, hschema] at hsome
          cases hsome
        · rw [Session.standing, hschema] at hsome
          cases hsome
    | some schema =>
        -- A schema that went hands the file over to the next one, and one that came back as well.
        by_cases hdeleted : schema ∈ batch.deleted
        · exact (hremoved schema (FilePath.mem_sort.mpr hdeleted) hschema hthere hgone).moves
            hmovesLast
        · have hstanding : (s.standing p).schema? = some schema := hschema
          rw [hstanding] at hfound
          obtain ⟨hstays, hstill⟩ := hreports.schemaOf_stays hp hbefore hfile hfound hdeleted
          by_cases hmodified : schema ∈ batch.changed
          -- The removals leave the file under its schema, so the change of the schema reaches it.
          · rcases hmovesFirst.schema?_eq with hmiddle | hmiddle
            · exact hmiddle.moves hmovesLast
            · rcases hchecked schema (FilePath.mem_sort.mpr hmodified) (hmiddle.trans hschema)
                (leadsToFile_of_isFile hstays) hthere with hsettled | hverdict
              · exact hsettled
              · rcases hmoves.schema?_eq with hsettled | heq
                · exact hsettled
                · refine hp.settled ?_ ?_
                  · rw [heq, hstanding]
                    exact hstill
                  · rw [heq, hstanding]
                    exact hverdict
          · refine (hold.congr htext fun _ _ => ⟨?_, fun other hother => ?_⟩).moves hmoves
            · rw [hstanding]
              exact hstill
            · cases hstanding.symm.trans hother
              by_contra hdiffers
              have hbeside := (exists_of_schemaOf hfound).1
              exact hmodified (hreports.modified (hp.covers_beside hbeside) hstays hdiffers)
  · refine (hold.congr htext fun hnone hdocument => ?_).moves hmoves
    exact absurd ⟨hcovers, hdocument, hname, hnone⟩ hp

/-- Dealing with a batch leads from sessions that are up to date to such sessions. -/
theorem UpToDate.handle (hs : v.UpToDate (v.workspace before) s)
    (hreports : v.Reports before after batch)
    (hhandle : (s.handle (v.workspace after) v.setup batch).Ends (.ok ()) t) :
    v.UpToDate (v.workspace after) t := by
  obtain ⟨middle, hremove, hchange⟩ := performAll_append_ends hhandle
  obtain ⟨hfirst, hgone, -⟩ := performAll_removed hs.sane
    (fun d hd => hreports.covers_deleted d (FilePath.mem_sort.mp hd)) hremove
  obtain ⟨hlast, hsettled, -⟩ := performAll_changed hfirst.sane
    (fun c hc => hreports.covers_changed c (FilePath.mem_sort.mp hc)) hchange
  refine ⟨hlast.sane, fun {p schema} hschema => ?_, fun {p} hcovers hname hthere => ?_⟩
  · by_contra hfile
    -- A file that is gone and stands under a schema did so before, so its removal was told of.
    have hmiddle := hlast.schemaFor?_of_some hfile hschema
    have hbefore := hfirst.schemaFor?_of_some hfile hmiddle
    have hdeleted : p ∈ batch.deleted :=
      hreports.vanished (hs.sane.pairs hbefore).covers
        (isFile_of_leadsToFile (hs.present hbefore)) fun hthere =>
          hfile (leadsToFile_of_isFile hthere)
    have hnone := hgone p (FilePath.mem_sort.mpr hdeleted) hfile
    rw [hmiddle] at hnone
    cases hnone
  · by_cases hchanged : p ∈ batch.changed
    · exact hsettled p (FilePath.mem_sort.mpr hchanged) hname hthere
    · exact hreports.settled_of_unchanged hs hhandle hcovers hname
        (isFile_of_leadsToFile hthere) hchanged

/-- In every session that is reached all that is held is settled. -/
theorem Reached.upToDate (h : v.Reached tree s) : v.UpToDate (v.workspace tree) s := by
  induction h with
  | start hproper hroot hfiles hvisit => exact upToDate_of_visit hproper hroot hfiles hvisit
  | batch _ hreports hhandle ih => exact ih.handle hreports hhandle

end Vigil

end Conform
