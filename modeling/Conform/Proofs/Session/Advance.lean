import Conform.Proofs.Session.Standing

/-! # How a job advances a session

A job that ends settles the file it is about. It leaves all other files settled
that were, and what was not settled it leaves alone or checks again with the
schema the file stands under. The change of a schema checks all files that stand
under it, and its removal settles them.
-/

namespace Conform

open Standing

namespace Vigil

variable {v : Vigil} {w : Workspace} {s t : Session} {f p schema : FilePath}

/-! ## What a job does to the files it is not about -/

/-- A session leads to another one. Files that are not there come under no schema, and what is
held about the others but some that were removed is settled or as good as it was. -/
structure Advances (v : Vigil) (w : Workspace) (removed : FilePath → Prop) (s t : Session) :
    Prop where
  sane : v.Sane t
  absent : ∀ {p}, Session.leadsToFile w p ≠ .ok true →
    t.index.schemaFor? p = s.index.schemaFor? p ∨ t.index.schemaFor? p = none
  moves : ∀ {p}, Convention.isSchemaName p.name = false → Session.leadsToFile w p = .ok true →
    ¬removed p → Moves w v.setup p (s.standing p) (t.standing p)

/-- Nothing was removed. -/
def nothing (_ : FilePath) : Prop := False

theorem Advances.refl {removed : FilePath → Prop} (hs : v.Sane s) :
    Advances v w removed s s where
  sane := hs
  absent _ := Or.inl rfl
  moves _ _ _ := .kept _

theorem Advances.mono {removed others : FilePath → Prop} (h : Advances v w removed s t)
    (hle : ∀ {p}, removed p → others p) : Advances v w others s t where
  sane := h.sane
  absent := h.absent
  moves hname hp hstays := h.moves hname hp fun hremoved => hstays (hle hremoved)

theorem Advances.trans {removed : FilePath → Prop} {u : Session} (h : Advances v w removed s t)
    (hnext : Advances v w removed t u) : Advances v w removed s u where
  sane := hnext.sane
  absent {p} hp := by
    rcases hnext.absent hp with heq | hnone
    · rw [heq]
      exact h.absent hp
    · exact Or.inr hnone
  moves hname hp hstays := (h.moves hname hp hstays).trans (hnext.moves hname hp hstays)

theorem Advances.of_same (ht : v.Sane t) (hsame : ∀ p, t.standing p = s.standing p) :
    Advances v w nothing s t where
  sane := ht
  absent {p} _ := Or.inl (congrArg Standing.schema? (hsame p))
  moves {p} _ _ _ := by
    rw [hsame p]
    exact .kept _

/-- A file that is not there stands under no schema but the one it stood under. -/
theorem Advances.schemaFor?_of_some {removed : FilePath → Prop} (h : Advances v w removed s t)
    (hp : Session.leadsToFile w p ≠ .ok true) (hschema : t.index.schemaFor? p = some schema) :
    s.index.schemaFor? p = some schema := by
  rcases h.absent hp with heq | hnone
  · exact heq.symm.trans hschema
  · rw [hschema] at hnone
    cases hnone

/-- A session in which only what is held about one file has changed, which is settled. -/
theorem Advances.of_others (ht : v.Sane t) (hfile : Session.leadsToFile w f = .ok true)
    (hothers : ∀ p, p ≠ f → t.standing p = s.standing p)
    (hown : Convention.isSchemaName f.name = false → Settled w v.setup f (t.standing f)) :
    Advances v w nothing s t where
  sane := ht
  absent {p} hp := by
    refine Or.inl (congrArg Standing.schema? (hothers p ?_))
    rintro rfl
    exact hp hfile
  moves {p} hname _ _ := by
    by_cases hp : p = f
    · subst hp
      exact .settled (hown hname)
    · rw [hothers p hp]
      exact .kept _

/-! ## The start of a change -/

/-- No file stands under one that goes by the convention itself. -/
theorem Sane.sort_dependentsOf (hs : v.Sane s) (hf : v.Pairs f) :
    FilePath.sort (s.index.dependentsOf f) = [] := by
  have hnobody : s.index.dependentsOf f = [] := by
    refine List.eq_nil_iff_forall_not_mem.mpr fun d hd => ?_
    have hschema := (Index.mem_dependentsOf_iff_schemaFor? hs.wellFormed).mp hd
    exact (hs.isBeside hschema).ne_of_pairs hf rfl
  rw [hnobody, FilePath.sort, List.mergeSort_nil]

/-- A file that goes by the convention is put under the schema that is found and checked. -/
theorem startByConvention_ends {jobs : List Job} (hs : v.Sane s) (hf : v.Pairs f)
    (h : (s.startByConvention w v.setup f).Ends (.ok jobs) t) :
    jobs = [] ∧ ∃ found, Session.schemaOf w f = .ok found ∧
      Session.Checked w v.setup f (Session.targetOf found)
        { s with index := Session.placed s.index f found } t := by
  obtain ⟨found, middle, hresolve, hrest⟩ := Act.andThen_ends_iff.mp h
  obtain ⟨hfound, rfl⟩ := Session.resolve_file_ends hf.isSchemaName hresolve
  cases found with
  | some schema =>
      obtain ⟨_, last, hcheck, hdone⟩ := Act.andThen_ends_iff.mp hrest
      obtain ⟨rfl, rfl⟩ := Act.done_ends_iff.mp hdone
      exact ⟨rfl, some schema, hfound, Session.check_ends hcheck⟩
  | none =>
      -- Without a schema the file is treated as if it were one, but nothing stands under it.
      dsimp only [Option.elim_none] at hrest
      rw [(hs.dissociate f).sort_dependentsOf hf] at hrest
      obtain ⟨_, last, hcheck, hdone⟩ := Act.andThen_ends_iff.mp hrest
      obtain ⟨rfl, rfl⟩ := Act.done_ends_iff.mp hdone
      exact ⟨rfl, none, hfound, Session.check_ends hcheck⟩

/-- The change of a file that is no schema, or has a provider, settles it. -/
theorem startPresent_settles {jobs : List Job} (hs : v.Sane s) (hf : v.Covers f)
    (hdata : Provider.first? v.setup.providers f = none →
      Convention.isSchemaName f.name = false)
    (h : (s.startPresent w v.setup f).Ends (.ok jobs) t) :
    jobs = [] ∧ v.Sane t ∧ Settled w v.setup f (t.standing f) ∧
      ∀ p, p ≠ f → t.standing p = s.standing p := by
  unfold Session.startPresent at h
  split at h
  next text htext =>
    obtain ⟨_, middle, hcheck, hdone⟩ := Act.andThen_ends_iff.mp h
    obtain ⟨rfl, rfl⟩ := Act.done_ends_iff.mp hdone
    have hchecked := Session.check_ends hcheck
    have habsurd : Provider.first? v.setup.providers f ≠ none := by simp [htext]
    refine ⟨rfl, hs.checked hchecked fun hnone => absurd hnone habsurd, ?_,
      fun p hp => hchecked.standing_eq hp⟩
    refine ⟨fun hsome => ?_, fun hnone => absurd hnone habsurd⟩
    rw [htext] at hsome
    cases hsome
    exact hchecked.verdict_eq
  next hnone =>
    split at h
    next hdocument =>
      have hpairs : v.Pairs f := ⟨hf, hdocument, hdata hnone, hnone⟩
      obtain ⟨rfl, found, hfound, hchecked⟩ := startByConvention_ends hs hpairs h
      have hplaced : v.Sane { s with index := Session.placed s.index f found } :=
        hs.placed fun schema hschema => ⟨hpairs, (exists_of_schemaOf (hschema ▸ hfound)).1⟩
      have hschema : t.index.schemaFor? f = found := by
        rw [hchecked.index_eq, schemaFor?_placed hs.wellFormed, if_pos rfl]
      refine ⟨rfl, hplaced.checked hchecked fun _ => hdocument, ?_, fun p hp => ?_⟩
      · refine hpairs.settled ?_ ?_
        · rw [Session.standing, hschema]
          exact hfound
        · rw [Session.standing, hschema]
          exact hchecked.verdict_eq
      · rw [hchecked.standing_eq hp]
        simp [Session.standing, schemaFor?_placed hs.wellFormed, hp]
    next hdocument =>
      obtain ⟨rfl, rfl⟩ := Act.done_ends_iff.mp h
      refine ⟨rfl, hs, ⟨fun hsome => ?_, fun _ hname => absurd hname hdocument⟩, fun p _ => rfl⟩
      rw [hnone] at hsome
      cases hsome

/-- The change of a schema starts checks of the files under it, or else of its form. -/
theorem startPresent_schema {jobs : List Job} (hs : v.Sane s)
    (hname : Convention.isSchemaName f.name = true)
    (hnone : Provider.first? v.setup.providers f = none)
    (h : (s.startPresent w v.setup f).Ends (.ok jobs) t) :
    ∃ middle, v.Sane middle ∧ (∀ p, middle.standing p = s.standing p) ∧
      ((jobs = [] ∧ middle.index.dependentsOf f = [] ∧
          Session.Checked w v.setup f .nothing middle t) ∨
        (t = middle ∧
          jobs = (FilePath.sort (middle.index.dependentsOf f)).map fun d =>
            .check d (.ofFile f))) := by
  have hdocument := Convention.isDocumentName_of_isSchemaName hname
  rw [Session.startPresent, hnone] at h
  dsimp only at h
  rw [if_pos hdocument] at h
  obtain ⟨found, start, hresolve, hrest⟩ := Act.andThen_ends_iff.mp h
  obtain ⟨rfl, rfl⟩ := Session.resolve_schema_ends hname hresolve
  -- A schema stands under no schema, so taking it out of the index changes nothing.
  refine ⟨_, hs.dissociate f, fun p => ?_, ?_⟩
  · rw [Session.standing, Session.standing, Index.schemaFor?_dissociate hs.wellFormed]
    split
    next hp => rw [hp, hs.schemaFor?_eq_none hname]
    next => rfl
  · dsimp only at hrest
    split at hrest
    next hsort =>
      obtain ⟨_, last, hcheck, hdone⟩ := Act.andThen_ends_iff.mp hrest
      obtain ⟨rfl, rfl⟩ := Act.done_ends_iff.mp hdone
      have hperm := List.mergeSort_perm ((start.index.dissociate f).dependentsOf f)
        fun p q => !q.before p
      rw [FilePath.sort] at hsort
      rw [hsort] at hperm
      exact Or.inl ⟨rfl, hperm.symm.eq_nil, Session.check_ends hcheck⟩
    next dependents hsort =>
      obtain ⟨rfl, rfl⟩ := Act.done_ends_iff.mp hrest
      exact Or.inr ⟨rfl, rfl⟩

/-! ## Jobs done to their end -/

/-- The files under a schema are checked, and what is held about all others stays the same. -/
theorem startAll_dependents_ends {jobs : List Job} (hs : v.Sane s)
    (h : (s.startAll w v.setup ((FilePath.sort (s.index.dependentsOf f)).map fun d =>
      .check d (.ofFile f))).Ends jobs t) :
    jobs = [] ∧ Advances v w nothing s t ∧
      ∀ {p}, s.index.schemaFor? p = some f →
        t.index.schemaFor? p = some f ∧
          Session.verdict w v.setup p (.ofFile f) = some (t.store.diagnosticsFor p) := by
  obtain ⟨rfl, hindex, hverdict, hothers⟩ := Session.startAll_checks_ends h
  have hmem : ∀ {p}, p ∈ FilePath.sort (s.index.dependentsOf f) ↔
      s.index.schemaFor? p = some f := by
    intro p
    rw [FilePath.mem_sort, Index.mem_dependentsOf_iff_schemaFor? hs.wellFormed]
  refine ⟨rfl, ⟨⟨hindex ▸ hs.wellFormed, fun hfound => hs.pairs (hindex ▸ hfound),
    fun hfound => hs.isBeside (hindex ▸ hfound), fun {p} hnone hname => ?_⟩,
    fun _ => Or.inl (by rw [hindex]), fun {p} _ _ _ => ?_⟩, fun {p} hschema => ?_⟩
  · rw [hothers p fun hp => ?_]
    · exact hs.silent hnone hname
    · have hdocument := (hs.pairs (hmem.mp hp)).isDocumentName
      rw [hname] at hdocument
      cases hdocument
  · by_cases hp : p ∈ FilePath.sort (s.index.dependentsOf f)
    · have hschema := hmem.mp hp
      rw [Session.standing, Session.standing, hindex, hschema]
      exact .rechecked (hs.pairs hschema).first?_eq_none (hverdict p hp)
    · rw [Session.standing, Session.standing, hindex, hothers p hp]
      exact .kept _
  · exact ⟨hindex ▸ hschema, hverdict p (hmem.mpr hschema)⟩

theorem absolute_eq (hf : v.Covers f) : w.absolute f = f := FilePath.join_eq_right hf.absolute

theorem startChanged_ends {jobs : List Job} (hf : v.Covers f)
    (h : (s.startChanged w v.setup f).Ends (.ok jobs) t) :
    (Session.leadsToFile w f = .ok false ∧ jobs = [] ∧ t = s) ∨
      (Session.leadsToFile w f = .ok true ∧ (s.startPresent w v.setup f).Ends (.ok jobs) t) := by
  unfold Session.startChanged at h
  rw [absolute_eq hf] at h
  dsimp only at h
  split at h
  next => exact absurd h Act.not_broken_ends
  next hfile =>
    obtain ⟨rfl, rfl⟩ := Act.done_ends_iff.mp h
    exact Or.inl ⟨hfile, rfl, rfl⟩
  next hfile => exact Or.inr ⟨hfile, h⟩

/-- The start of the change of a file that is no schema, or has a provider, is all there is to it. -/
theorem startChanged_settles {jobs : List Job} (hs : v.Sane s) (hf : v.Covers f)
    (hdata : Provider.first? v.setup.providers f = none →
      Convention.isSchemaName f.name = false)
    (h : (s.startChanged w v.setup f).Ends (.ok jobs) t) :
    jobs = [] ∧ Advances v w nothing s t ∧
      (Session.leadsToFile w f = .ok true → Settled w v.setup f (t.standing f)) := by
  rcases startChanged_ends hf h with ⟨hfile, rfl, rfl⟩ | ⟨hfile, h⟩
  · refine ⟨rfl, .refl hs, fun hthere => ?_⟩
    rw [hfile] at hthere
    cases hthere
  · obtain ⟨rfl, ht, hsettled, hothers⟩ := startPresent_settles hs hf hdata h
    exact ⟨rfl, .of_others ht hfile hothers fun _ => hsettled, fun _ => hsettled⟩

theorem startAll_changed_ends {ds : List FilePath} {jobs : List Job} (hs : v.Sane s)
    (hds : ∀ d ∈ ds, v.Pairs d)
    (h : (s.startAll w v.setup (ds.map .changed)).Ends jobs t) :
    jobs = [] ∧ Advances v w nothing s t ∧
      ∀ d ∈ ds, Session.leadsToFile w d = .ok true → Settled w v.setup d (t.standing d) := by
  induction ds generalizing s jobs with
  | nil =>
      obtain ⟨rfl, rfl⟩ := Session.startAll_nil_ends h
      exact ⟨rfl, .refl hs, by simp⟩
  | cons d rest ih =>
      have hd := hds d List.mem_cons_self
      obtain ⟨own, middle, others, hstart, hrest, rfl⟩ := Session.startAll_cons_ends h
      obtain ⟨rfl, hfirst, hsettled⟩ :=
        startChanged_settles hs hd.covers (fun _ => hd.isSchemaName) hstart
      obtain ⟨rfl, hlast, hothers⟩ :=
        ih hfirst.sane (fun e he => hds e (List.mem_cons_of_mem d he)) hrest
      refine ⟨rfl, hfirst.trans hlast, fun e he hfile => ?_⟩
      rcases List.mem_cons.mp he with rfl | he
      · exact (hsettled hfile).moves (hlast.moves hd.isSchemaName hfile id)
      · exact hothers e he hfile

/-- The change of a file that goes by the convention ends where its check ends. -/
theorem perform_ends_of_check {names : List String} {found : Option FilePath} (hs : v.Sane s)
    (hf : v.Pairs f) (hfile : Session.leadsToFile w f = .ok true)
    (hlist : w.list f.parent = .ok names) (hfound : Session.schemaOf w f = .ok found)
    (hcheck : (Session.check w v.setup f (Session.targetOf found)
      { s with index := Session.placed s.index f found }).Ends (.ok ()) t) :
    (s.perform w v.setup (.changed f)).Ends (.ok ()) t := by
  refine Session.perform_ends_iff.mpr ⟨[], t, ?_, ?_⟩
  · rw [Session.start, Session.startChanged, absolute_eq hf.covers, hfile]
    dsimp only
    rw [Session.startPresent, hf.first?_eq_none]
    dsimp only
    rw [if_pos hf.isDocumentName]
    refine Act.andThen_ends_iff.mpr ⟨found, _,
      Session.resolve_ends_of_schemaOf hf.isSchemaName hlist hfound, ?_⟩
    cases found with
    | some schema =>
        exact Act.andThen_ends_iff.mpr ⟨(), t, hcheck, Act.done_ends_iff.mpr ⟨rfl, rfl⟩⟩
    | none =>
        dsimp only [Option.elim_none]
        rw [(hs.dissociate f).sort_dependentsOf hf]
        exact Act.andThen_ends_iff.mpr ⟨(), t, hcheck, Act.done_ends_iff.mpr ⟨rfl, rfl⟩⟩
  · exact Session.settle_nil_ends_iff.mpr rfl

/-- The change of a file that is no schema, or has a provider, settles it. -/
theorem perform_changed_data (hs : v.Sane s) (hf : v.Covers f)
    (hdata : Provider.first? v.setup.providers f = none →
      Convention.isSchemaName f.name = false)
    (h : (s.perform w v.setup (.changed f)).Ends (.ok ()) t) :
    Advances v w nothing s t ∧
      (Session.leadsToFile w f = .ok true → Settled w v.setup f (t.standing f)) := by
  obtain ⟨jobs, middle, hstart, hsettle⟩ := Session.perform_ends_iff.mp h
  obtain ⟨rfl, hadvances, hsettled⟩ := startChanged_settles hs hf hdata hstart
  obtain rfl := Session.settle_nil_ends_iff.mp hsettle
  exact ⟨hadvances, hsettled⟩

/-- The change of a schema checks the files under it. -/
theorem perform_changed_schema (hs : v.Sane s) (hf : v.Covers f)
    (hname : Convention.isSchemaName f.name = true)
    (hnone : Provider.first? v.setup.providers f = none)
    (h : (s.perform w v.setup (.changed f)).Ends (.ok ()) t) :
    Advances v w nothing s t ∧
      ∀ {p}, s.index.schemaFor? p = some f → Session.leadsToFile w f = .ok true →
        t.index.schemaFor? p = some f ∧
          Session.verdict w v.setup p (.ofFile f) = some (t.store.diagnosticsFor p) := by
  obtain ⟨jobs, middle, hstart, hsettle⟩ := Session.perform_ends_iff.mp h
  rcases startChanged_ends hf hstart with ⟨hfile, rfl, rfl⟩ | ⟨hfile, hpresent⟩
  · obtain rfl := Session.settle_nil_ends_iff.mp hsettle
    refine ⟨.refl hs, fun _ hthere => ?_⟩
    rw [hfile] at hthere
    cases hthere
  · obtain ⟨start, hstartSane, hsame, hstarted⟩ := startPresent_schema hs hname hnone hpresent
    have hunder : ∀ {p}, s.index.schemaFor? p = some f → start.index.schemaFor? p = some f :=
      fun {p} hschema => (congrArg Standing.schema? (hsame p)).trans hschema
    rcases hstarted with ⟨rfl, hnobody, hchecked⟩ | ⟨rfl, rfl⟩
    · obtain rfl := Session.settle_nil_ends_iff.mp hsettle
      refine ⟨.of_others (hstartSane.checked hchecked fun _ => ?_) hfile
        (fun p hp => (hchecked.standing_eq hp).trans (hsame p)) fun hdata => ?_,
        fun {p} hschema _ => ?_⟩
      · exact Convention.isDocumentName_of_isSchemaName hname
      · rw [hname] at hdata
        cases hdata
      · have hmem := (Index.mem_dependentsOf_iff_schemaFor? hstartSane.wellFormed).mpr
          (hunder hschema)
        rw [hnobody] at hmem
        cases hmem
    · obtain ⟨more, last, hall, hrest⟩ := Act.bind_ends_iff.mp hsettle
      obtain ⟨rfl, hadvances, hchecked⟩ := startAll_dependents_ends hstartSane hall
      obtain rfl := Session.settle_nil_ends_iff.mp hrest
      exact ⟨(Advances.of_same hstartSane hsame).trans hadvances, fun hschema _ =>
        hchecked (hunder hschema)⟩

/-- The change of a file settles it, and if it is a schema the files under it are checked. -/
theorem perform_changed (hs : v.Sane s) (hf : v.Covers f)
    (h : (s.perform w v.setup (.changed f)).Ends (.ok ()) t) :
    Advances v w nothing s t ∧
      (Convention.isSchemaName f.name = false → Session.leadsToFile w f = .ok true →
        Settled w v.setup f (t.standing f)) ∧
      ∀ {p}, s.index.schemaFor? p = some f → Session.leadsToFile w f = .ok true →
        t.index.schemaFor? p = some f ∧
          Session.verdict w v.setup p (.ofFile f) = some (t.store.diagnosticsFor p) := by
  by_cases hdata : Provider.first? v.setup.providers f = none →
      Convention.isSchemaName f.name = false
  · obtain ⟨hadvances, hsettled⟩ := perform_changed_data hs hf hdata h
    refine ⟨hadvances, fun _ => hsettled, fun {p} hschema _ => ?_⟩
    -- Nothing stands under such a file: a schema has no provider where its files have none.
    have hbeside := hs.isBeside hschema
    have hname := hdata ((hs.pairs hschema).first?_beside hbeside)
    rw [hbeside.isSchemaName] at hname
    cases hname
  · rw [Classical.not_imp, Bool.not_eq_false] at hdata
    obtain ⟨hnone, hname⟩ := hdata
    obtain ⟨hadvances, hchecked⟩ := perform_changed_schema hs hf hname hnone h
    refine ⟨hadvances, fun hdata => ?_, hchecked⟩
    rw [hname] at hdata
    cases hdata

/-- The removal of a file settles the files that stood under it. -/
theorem perform_removed (hs : v.Sane s) (hf : v.Covers f)
    (h : (s.perform w v.setup (.removed f)).Ends (.ok ()) t) :
    Advances v w (· = f) s t ∧
      (Session.leadsToFile w f ≠ .ok true → t.index.schemaFor? f = none) ∧
      ∀ {p}, s.index.schemaFor? p = some f → Session.leadsToFile w p = .ok true →
        Settled w v.setup p (t.standing p) := by
  obtain ⟨jobs, middle, hstart, hsettle⟩ := Session.perform_ends_iff.mp h
  simp only [Session.start, Session.startRemoved, absolute_eq hf] at hstart
  obtain ⟨rfl, rfl⟩ := Act.done_ends_iff.mp hstart
  obtain ⟨more, last, hall, hrest⟩ := Act.bind_ends_iff.mp hsettle
  have hmem : ∀ {p}, p ∈ FilePath.sort (s.index.remove f).1 ↔ s.index.schemaFor? p = some f := by
    intro p
    rw [FilePath.mem_sort]
    exact Index.mem_dependentsOf_iff_schemaFor? hs.wellFormed
  obtain ⟨rfl, hadvances, hsettled⟩ :=
    startAll_changed_ends (hs.remove f) (fun d hd => hs.pairs (hmem.mp hd)) hall
  obtain rfl := Session.settle_nil_ends_iff.mp hrest
  have hremoved := Index.schemaFor?_remove hs.wellFormed f
  refine ⟨⟨hadvances.sane, fun {p} hp => ?_, fun {p} hname hp hstays => ?_⟩, fun hp => ?_,
    fun {p} hschema hp => hsettled p (hmem.mpr hschema) hp⟩
  · rcases hadvances.absent hp with heq | hnone
    · rw [heq, hremoved p]
      split
      next => exact Or.inr rfl
      next => exact Or.inl rfl
    · exact Or.inr hnone
  -- A file that stood under the removed one is looked at again, all others stay under theirs.
  · by_cases hschema : s.index.schemaFor? p = some f
    · exact .settled (hsettled p (hmem.mpr hschema) hp)
    · have hkept : (Session.standing { s with index := (s.index.remove f).2 } p) =
          s.standing p := by
        rw [Session.standing, Session.standing, hremoved p, if_neg (not_or.mpr ⟨hstays, hschema⟩)]
      exact hkept ▸ hadvances.moves hname hp id
  · rcases hadvances.absent hp with heq | hnone
    · rw [heq, hremoved f, if_pos (Or.inl rfl)]
    · exact hnone

/-! ## Batches -/

theorem performAll_append_ends {first second : List Job}
    (h : (s.performAll w v.setup (first ++ second)).Ends (.ok ()) t) :
    ∃ middle, (s.performAll w v.setup first).Ends (.ok ()) middle ∧
      (middle.performAll w v.setup second).Ends (.ok ()) t := by
  induction first generalizing s with
  | nil => exact ⟨s, Act.done_ends_iff.mpr ⟨rfl, rfl⟩, h⟩
  | cons job rest ih =>
      obtain ⟨_, next, hperform, hrest⟩ := Act.andThen_ends_iff.mp h
      obtain ⟨middle, hfirst, hsecond⟩ := ih hrest
      exact ⟨middle, Act.andThen_ends_iff.mpr ⟨(), next, hperform, hfirst⟩, hsecond⟩

/-- Of several files that are removed, those that are gone stand under no schema any more, and the
files that stood under one of them are settled. -/
theorem performAll_removed {ds : List FilePath} (hs : v.Sane s) (hds : ∀ d ∈ ds, v.Covers d)
    (h : (s.performAll w v.setup (ds.map .removed)).Ends (.ok ()) t) :
    Advances v w (· ∈ ds) s t ∧
      (∀ d ∈ ds, Session.leadsToFile w d ≠ .ok true → t.index.schemaFor? d = none) ∧
      ∀ {p}, ∀ d ∈ ds, s.index.schemaFor? p = some d → Session.leadsToFile w p = .ok true →
        p ∉ ds → Settled w v.setup p (t.standing p) := by
  induction ds generalizing s with
  | nil =>
      obtain ⟨-, rfl⟩ := Act.done_ends_iff.mp h
      exact ⟨.refl hs, by simp, by simp⟩
  | cons d rest ih =>
      obtain ⟨_, middle, hperform, hrest⟩ := Act.andThen_ends_iff.mp h
      obtain ⟨hfirst, hgone, hsettled⟩ := perform_removed hs (hds d List.mem_cons_self) hperform
      obtain ⟨hlast, hothersGone, hothersSettled⟩ :=
        ih hfirst.sane (fun e he => hds e (List.mem_cons_of_mem d he)) hrest
      refine ⟨(hfirst.mono fun hp => hp ▸ List.mem_cons_self).trans
        (hlast.mono (List.mem_cons_of_mem d)), fun e he hfile => ?_,
        fun {p} e he hschema hp hstays => ?_⟩
      · rcases List.mem_cons.mp he with rfl | he
        · rcases hlast.absent hfile with heq | hnone
          · rw [heq, hgone hfile]
          · exact hnone
        · exact hothersGone e he hfile
      · rw [List.mem_cons, not_or] at hstays
        have hname := (hs.pairs hschema).isSchemaName
        have hmoves := hlast.moves hname hp hstays.2
        rcases List.mem_cons.mp he with rfl | he
        · exact (hsettled hschema hp).moves hmoves
        -- Whatever came first has settled the file or has left it under the schema that comes now.
        · rcases (hfirst.moves hname hp hstays.1).schema?_eq with hmiddle | heq
          · exact hmiddle.moves hmoves
          · exact hothersSettled e he (heq.trans hschema) hp hstays.2

/-- Files that have changed are settled, and the files under a schema that has changed are settled
or were checked with it at least. -/
theorem performAll_changed {cs : List FilePath} (hs : v.Sane s) (hcs : ∀ c ∈ cs, v.Covers c)
    (h : (s.performAll w v.setup (cs.map .changed)).Ends (.ok ()) t) :
    Advances v w nothing s t ∧
      (∀ c ∈ cs, Convention.isSchemaName c.name = false → Session.leadsToFile w c = .ok true →
        Settled w v.setup c (t.standing c)) ∧
      ∀ {p}, ∀ c ∈ cs, s.index.schemaFor? p = some c → Session.leadsToFile w c = .ok true →
        Session.leadsToFile w p = .ok true →
        Settled w v.setup p (t.standing p) ∨
          Session.verdict w v.setup p (.ofFile c) = some (t.store.diagnosticsFor p) := by
  induction cs generalizing s with
  | nil =>
      obtain ⟨-, rfl⟩ := Act.done_ends_iff.mp h
      exact ⟨.refl hs, by simp, by simp⟩
  | cons c rest ih =>
      obtain ⟨_, middle, hperform, hrest⟩ := Act.andThen_ends_iff.mp h
      obtain ⟨hfirst, hsettled, hchecked⟩ := perform_changed hs (hcs c List.mem_cons_self) hperform
      obtain ⟨hlast, hothersSettled, hothersChecked⟩ :=
        ih hfirst.sane (fun e he => hcs e (List.mem_cons_of_mem c he)) hrest
      refine ⟨hfirst.trans hlast, fun e he hname hfile => ?_, fun {p} e he hschema hfile hp => ?_⟩
      · rcases List.mem_cons.mp he with rfl | he
        · exact (hsettled hname hfile).moves (hlast.moves hname hfile id)
        · exact hothersSettled e he hname hfile
      · have hname := (hs.pairs hschema).isSchemaName
        have hmoves := hlast.moves hname hp id
        rcases List.mem_cons.mp he with rfl | he
        · obtain ⟨hstill, hverdict⟩ := hchecked hschema hfile
          exact hmoves.verdict hstill hverdict
        · rcases (hfirst.moves hname hp id).schema?_eq with hmiddle | heq
          · exact Or.inl (hmiddle.moves hmoves)
          · exact hothersChecked e he (heq.trans hschema) hfile hp

end Vigil

end Conform
