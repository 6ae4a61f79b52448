import Conform.Proofs.Json.Source

/-! # The reader takes texts apart

What the reader of documents accepts is a source with white space around it,
and the value it finds there is the value that the source writes.
-/

namespace Conform

open Json (Blank skipSpace)

theorem Json.blank_nil : Blank [] := by simp [Blank]

theorem Json.exists_blank_of_skipSpace {line next : Nat} {cs rest : List Char}
    (h : skipSpace line cs = (next, rest)) : ∃ blank, Blank blank ∧ cs = blank ++ rest := by
  induction cs generalizing line with
  | nil =>
      cases h
      exact ⟨[], blank_nil, rfl⟩
  | cons c cs ih =>
      unfold skipSpace at h
      split at h
      next hspace =>
        obtain ⟨blank, hblank, rfl⟩ := ih h
        refine ⟨c :: blank, ?_, rfl⟩
        intro d hd
        rcases List.mem_cons.mp hd with rfl | hd
        · exact hspace
        · exact hblank d hd
      next =>
        cases h
        exact ⟨[], blank_nil, rfl⟩

namespace Document

theorem itemValues_append (first second : List Document) :
    itemValues (first ++ second) = itemValues first ++ itemValues second := by
  induction first with
  | nil => rfl
  | cons item rest ih => simp [itemValues, ih]

theorem memberValues_append (first second : List (Text × Document)) :
    memberValues (first ++ second) = memberValues first ++ memberValues second := by
  induction first with
  | nil => rfl
  | cons member rest ih => simp [memberValues, ih]

/-- A value was read from the start of a text up to a position. -/
def ValueRead (cs : List Char) (document : Document) (position : Position) : Prop :=
  ∃ source : Source, source.WellFormed ∧ cs = source.chars ++ position.2 ∧
    document.value = source.value

/-- Items were read from the first one up to the closing bracket. -/
def ItemsRead (cs : List Char) (values : List Json) (position : Position) : Prop :=
  ∃ first trail rest, Source.ItemsWellFormed (([], first, trail) :: rest) ∧
    cs = Source.itemChars [] (([], first, trail) :: rest) ++ ']' :: position.2 ∧
    values = Source.itemValues (([], first, trail) :: rest)

/-- Members were read from the first one up to the closing brace. -/
def MembersRead (cs : List Char) (values : List (Text × Json)) (position : Position) : Prop :=
  ∃ label first trail rest, Source.Label.lead label = [] ∧
    Source.MembersWellFormed ((label, first, trail) :: rest) ∧
    cs = Source.memberChars [] ((label, first, trail) :: rest) ++ '\x7d' :: position.2 ∧
    values = Source.memberValues ((label, first, trail) :: rest)

theorem readScalar_read {line : Nat} {cs : List Char} {document : Document} {position : Position}
    (h : readScalar line cs = .ok (document, position)) : ValueRead cs document position := by
  obtain ⟨taken, content, rfl, rfl, hline, _, _⟩ := Json.exists_unbroken_of_readScalar h
  obtain ⟨next, rest⟩ := position
  subst hline
  exact ⟨.scalar taken content, ⟨_, _, h⟩, rfl, rfl⟩

/-- With this fuel, values are taken from texts as they stand. -/
def ReadsValues (fuel : Nat) : Prop :=
  ∀ {depth line cs document position},
    readValue fuel depth line cs = .ok (document, position) → ValueRead cs document position

/-- With this fuel, items are taken from texts as they stand. -/
def ReadsItems (fuel : Nat) : Prop :=
  ∀ {depth line cs found items position},
    readItems fuel depth line cs found = .ok (items, position) →
      ∃ values, itemValues items = itemValues found.reverse ++ values ∧ ItemsRead cs values position

/-- With this fuel, members are taken from texts as they stand. -/
def ReadsMembers (fuel : Nat) : Prop :=
  ∀ {depth line cs found members position},
    readMembers fuel depth line cs found = .ok (members, position) →
      ∃ values, memberValues members = memberValues found.reverse ++ values ∧
        MembersRead cs values position

theorem readsValues_succ {fuel : Nat} (hitems : ReadsItems fuel) (hmembers : ReadsMembers fuel) :
    ReadsValues (fuel + 1) := by
  intro depth line cs document position h
  unfold readValue at h
  split at h
  next rest =>
    split at h
    next => cases h
    next text after hstring =>
      cases h
      obtain ⟨raw, rfl, hraw⟩ := Json.exists_spells_of_stringBody hstring
      exact ⟨.string raw text, hraw, by simp [Source.chars], rfl⟩
  next rest =>
    split at h
    next => cases h
    next depth =>
      split at h
      next next after hspace =>
        cases h
        obtain ⟨blank, hblank, rfl⟩ := Json.exists_blank_of_skipSpace hspace
        exact ⟨.array blank [], ⟨hblank, trivial⟩, by simp [Source.chars, Source.itemChars], rfl⟩
      next next after _ hspace =>
        obtain ⟨blank, hblank, rfl⟩ := Json.exists_blank_of_skipSpace hspace
        split at h
        next => cases h
        next items position hread =>
          cases h
          obtain ⟨values, hvalues, first, trail, others, hwf, hchars, rfl⟩ := hitems hread
          refine ⟨.array blank _, ⟨hblank, hwf⟩, ?_, ?_⟩
          · rw [hchars]
            simp [Source.chars]
          · rw [value, Source.value, hvalues]
            rfl
  next rest =>
    split at h
    next => cases h
    next depth =>
      split at h
      next next after hspace =>
        cases h
        obtain ⟨blank, hblank, rfl⟩ := Json.exists_blank_of_skipSpace hspace
        exact ⟨.object blank [], ⟨hblank, trivial⟩, by simp [Source.chars, Source.memberChars], rfl⟩
      next next after _ hspace =>
        obtain ⟨blank, hblank, rfl⟩ := Json.exists_blank_of_skipSpace hspace
        split at h
        next => cases h
        next members position hread =>
          cases h
          obtain ⟨values, hvalues, label, first, trail, others, _, hwf, hchars, rfl⟩ :=
            hmembers hread
          refine ⟨.object blank _, ⟨hblank, hwf⟩, ?_, ?_⟩
          · rw [hchars]
            simp [Source.chars]
          · rw [value, Source.value, hvalues]
            rfl
  next => exact readScalar_read h

theorem readsItems_succ {fuel : Nat} (hvalue : ReadsValues fuel) (hitems : ReadsItems fuel) :
    ReadsItems (fuel + 1) := by
  intro depth line cs found items position h
  unfold readItems at h
  split at h
  next => cases h
  next item line after hread =>
    obtain ⟨source, hsource, rfl, hvalues⟩ := hvalue hread
    split at h
    next next rest hspace =>
      cases h
      obtain ⟨trail, htrail, hafter⟩ := Json.exists_blank_of_skipSpace hspace
      refine ⟨[source.value], ?_, source, trail, [], ⟨Json.blank_nil, hsource, htrail, trivial⟩,
        ?_, rfl⟩
      · rw [List.reverse_cons, itemValues_append]
        simp [itemValues, hvalues]
      · rw [hafter]
        simp [Source.itemChars]
    next next rest hspace =>
      obtain ⟨trail, htrail, hafter⟩ := Json.exists_blank_of_skipSpace hspace
      dsimp only at hafter h
      obtain ⟨lead, hlead, hrest⟩ := Json.exists_blank_of_skipSpace (Prod.eta (skipSpace next rest)).symm
      obtain ⟨values, hitemValues, first, trail', others, hwf, hchars, rfl⟩ := hitems h
      obtain ⟨_, hfirst, htrail', hothers⟩ := hwf
      refine ⟨source.value :: _, ?_, source, trail, (lead, first, trail') :: others,
        ⟨Json.blank_nil, hsource, htrail, hlead, hfirst, htrail', hothers⟩, ?_, rfl⟩
      · rw [hitemValues, List.reverse_cons, itemValues_append]
        simp [itemValues, hvalues, Source.itemValues]
      · rw [hafter, hrest, hchars]
        simp [Source.itemChars]
    next => cases h

theorem readsMembers_succ {fuel : Nat} (hvalue : ReadsValues fuel) (hmembers : ReadsMembers fuel) :
    ReadsMembers (fuel + 1) := by
  intro depth line cs found members position h
  unfold readMembers at h
  split at h
  next rest =>
    split at h
    next => cases h
    next key afterKey hkey =>
      obtain ⟨raw, rfl, hraw⟩ := Json.exists_spells_of_stringBody hkey
      split at h
      next line' rest hcolon =>
        obtain ⟨beforeColon, hbefore, rfl⟩ := Json.exists_blank_of_skipSpace hcolon
        obtain ⟨afterColon, hafterColon, hrest⟩ :=
          Json.exists_blank_of_skipSpace (Prod.eta (skipSpace line' rest)).symm
        dsimp only at h
        let label : Source.Label := ⟨[], raw, key, beforeColon, afterColon⟩
        have hlabel : label.WellFormed := ⟨Json.blank_nil, hraw, hbefore, hafterColon⟩
        split at h
        next => cases h
        next document line'' after hread =>
          obtain ⟨source, hsource, hcs, hvalues⟩ := hvalue hread
          dsimp only at hcs
          split at h
          next next rest' hspace =>
            cases h
            obtain ⟨trail, htrail, hafter⟩ := Json.exists_blank_of_skipSpace hspace
            refine ⟨[(key, source.value)], ?_, label, source, trail, [], rfl,
              ⟨hlabel, hsource, htrail, trivial⟩, ?_, rfl⟩
            · rw [List.reverse_cons, memberValues_append]
              simp [memberValues, hvalues]
            · rw [hrest, hcs, hafter]
              simp [Source.memberChars, Source.Label.chars, Source.Label.body, label]
          next next rest' hspace =>
            obtain ⟨trail, htrail, hafter⟩ := Json.exists_blank_of_skipSpace hspace
            obtain ⟨lead, hlead, hrest'⟩ :=
              Json.exists_blank_of_skipSpace (Prod.eta (skipSpace next rest')).symm
            obtain ⟨values, hmemberValues, nextLabel, first, trail', others, hnolead, hwf, hchars,
              rfl⟩ := hmembers h
            obtain ⟨hnextLabel, hfirst, htrail', hothers⟩ := hwf
            -- White space behind a comma belongs to the label that follows.
            have hled : ({ nextLabel with lead } : Source.Label).WellFormed :=
              ⟨hlead, hnextLabel.raw, hnextLabel.beforeColon, hnextLabel.afterColon⟩
            refine ⟨(key, source.value) :: _, ?_, label, source, trail,
              ({ nextLabel with lead }, first, trail') :: others, rfl,
              ⟨hlabel, hsource, htrail, hled, hfirst, htrail', hothers⟩, ?_, rfl⟩
            · rw [hmemberValues, List.reverse_cons, memberValues_append]
              simp [memberValues, hvalues, Source.memberValues]
            · rw [hrest, hcs, hafter, hrest', hchars]
              simp [Source.memberChars, Source.Label.chars, Source.Label.body, label, hnolead]
          next => cases h
      next => cases h
  next => cases h

/-- The readers take texts as they stand. Each of them asks the others with
less fuel. -/
theorem reads_of_fuel (fuel : Nat) : ReadsValues fuel ∧ ReadsItems fuel ∧ ReadsMembers fuel := by
  induction fuel with
  | zero =>
      refine ⟨?_, ?_, ?_⟩
      · intro _ _ _ _ _ h
        simp [readValue] at h
      · intro _ _ _ _ _ _ h
        simp [readItems] at h
      · intro _ _ _ _ _ _ h
        simp [readMembers] at h
  | succ fuel ih =>
      obtain ⟨hvalue, hitems, hmembers⟩ := ih
      exact ⟨readsValues_succ hitems hmembers, readsItems_succ hvalue hitems,
        readsMembers_succ hvalue hmembers⟩

/-- A text that is read is a source, whose value is the one read. -/
theorem exists_source_of_read {cs : List Char} {document : Document}
    (h : readChars cs = .ok document) :
    ∃ lead source, Source.Writes source lead cs ∧ source.value = document.value := by
  unfold readChars at h
  split at h
  next => cases h
  next =>
    dsimp only at h
    obtain ⟨lead, hlead, hcs⟩ := Json.exists_blank_of_skipSpace (Prod.eta (skipSpace 1 cs)).symm
    split at h
    next => cases h
    next found line rest hread =>
      obtain ⟨source, hsource, hstart, hvalue⟩ := (reads_of_fuel _).1 hread
      split at h
      next hspace =>
        cases h
        obtain ⟨trail, htrail, hrest⟩ := Json.exists_blank_of_skipSpace hspace
        rw [List.append_nil] at hrest
        refine ⟨lead, source, ⟨hsource, hlead, trail, htrail, ?_⟩, hvalue.symm⟩
        rw [hstart, hrest, ← List.append_assoc] at hcs
        exact hcs
      next => cases h

end Document

/-- A text with a value is a source of that value. -/
theorem Json.exists_source_of_parse {text : String} {value : Json}
    (h : Json.parse text = .ok value) :
    ∃ lead source, Source.Writes source lead text.toList ∧ source.value = value := by
  unfold Json.parse Document.read at h
  cases hread : Document.readChars text.toList with
  | error fault =>
      rw [hread] at h
      cases h
  | ok document =>
      rw [hread] at h
      cases h
      exact Document.exists_source_of_read hread

end Conform
