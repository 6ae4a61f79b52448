import Conform.Proofs.Json.Cutting

/-! # The lines of a text that breaks off

Scanning the start of a well-formed text finds what is left of its source when
that is cut at the same place. Where no object repeats a key, these are the
values of the whole text whose first characters are there, on the same lines.
-/

namespace Conform

open Json (Blank)

namespace Outline

namespace Scan

open Source (lines)

/-! ## Characters that add nothing -/

/-- However many of some characters are read, nothing new is found. -/
def Quiet (s : Scan) (cs : List Char) : Prop := ∀ n, (s.run (cs.take n)).finish = s.finish

theorem Quiet.finish_run {s : Scan} {cs : List Char} (h : Quiet s cs) :
    (s.run cs).finish = s.finish := by
  have hall := h cs.length
  rwa [List.take_length] at hall

/-- Only what follows characters that add nothing tells how much of it was read. -/
theorem Quiet.finish_run_take {s : Scan} {cs : List Char} (h : Quiet s cs) (ds : List Char)
    (n : Nat) : (s.run ((cs ++ ds).take n)).finish =
      ((s.run cs).run (ds.take (n - cs.length))).finish := by
  by_cases hn : n ≤ cs.length
  · rw [List.take_append_of_le_length hn, h n, Nat.sub_eq_zero_of_le hn, List.take_zero, run_nil,
      h.finish_run]
  · rw [List.take_append, List.take_of_length_le (by omega), run_append]

theorem Quiet.append {s : Scan} {cs ds : List Char} (hcs : Quiet s cs) (hds : Quiet (s.run cs) ds) :
    Quiet s (cs ++ ds) := by
  intro n
  rw [hcs.finish_run_take, hds, hcs.finish_run]

theorem quiet_nil (s : Scan) : Quiet s [] := by
  intro n
  rw [List.take_nil, run_nil]

theorem quiet_singleton {s : Scan} {c : Char} (h : (s.step c).finish = s.finish) :
    Quiet s [c] := by
  intro n
  cases n with
  | zero => rfl
  | succ n => simpa using h

/-- The outline does not depend on whether an open value expects a key. -/
theorem finish_onTop {f : Frame → Frame}
    (hf : ∀ frame, ∃ key expectsKey, f frame = { frame with key, expectsKey }) (s : Scan) :
    (s.onTop f).finish = s.finish := by
  unfold onTop
  split
  next => rfl
  next frame outer hframes =>
    obtain ⟨key, expectsKey, heq⟩ := hf frame
    simp only [finish, hframes, heq]
    rfl

theorem mode_onTop (f : Frame → Frame) (s : Scan) : (s.onTop f).mode = s.mode := by
  unfold onTop
  split <;> rfl

/-- White space, a comma or a colon. -/
def IsSeparator (c : Char) : Prop := Json.isSpace c = true ∨ c = ',' ∨ c = ':'

theorem step_separator {s : Scan} (hidle : Idle s.mode) {c : Char} (hc : IsSeparator c) :
    (s.step c).finish = s.finish ∧ Idle (s.step c).mode := by
  rcases hc with hspace | rfl | rfl
  · rw [step_of_idle hidle (endsScalar_of_isSpace hspace), stepBetween_space hspace]
    exact ⟨rfl, Or.inl rfl⟩
  · have hcomma : s.step ',' = onTop Frame.afterComma { s with mode := .between } :=
      step_of_idle hidle (by decide)
    rw [hcomma, finish_onTop Frame.exists_afterComma_eq, mode_onTop]
    exact ⟨rfl, Or.inl rfl⟩
  · have hcolon : s.step ':' =
        onTop (fun frame => { frame with expectsKey := false }) { s with mode := .between } :=
      step_of_idle hidle (by decide)
    rw [hcolon, finish_onTop (fun frame => ⟨_, _, rfl⟩), mode_onTop]
    exact ⟨rfl, Or.inl rfl⟩

theorem quiet_separators {s : Scan} (hidle : Idle s.mode) {cs : List Char}
    (hcs : ∀ c ∈ cs, IsSeparator c) : Quiet s cs := by
  induction cs generalizing s with
  | nil => exact quiet_nil s
  | cons c cs ih =>
      obtain ⟨hfinish, hidle'⟩ := step_separator hidle (hcs c List.mem_cons_self)
      exact (quiet_singleton hfinish).append
        (ih hidle' fun d hd => hcs d (List.mem_cons_of_mem _ hd))

theorem quiet_blank {s : Scan} (hidle : Idle s.mode) {blank : List Char} (hblank : Blank blank) :
    Quiet s blank :=
  quiet_separators hidle fun c hc => Or.inl (hblank c hc)

theorem finish_run_take_blank {s : Scan} (hmode : s.mode = .between) {blank : List Char}
    (hblank : Blank blank) (cs : List Char) (n : Nat) :
    (s.run ((blank ++ cs).take n)).finish =
      (({ s with line := s.line + lines blank } : Scan).run (cs.take (n - blank.length))).finish := by
  rw [(quiet_blank (Or.inl hmode) hblank).finish_run_take, run_blank_between hblank hmode]

/-- However many of some characters are read, nothing but the mode changes. -/
def Absorbs (s : Scan) (cs : List Char) : Prop := ∀ n, ∃ mode, s.run (cs.take n) = { s with mode }

theorem Absorbs.quiet {s : Scan} {cs : List Char} (h : Absorbs s cs) : Quiet s cs := by
  intro n
  obtain ⟨mode, hrun⟩ := h n
  rw [hrun]
  rfl

theorem Absorbs.cons {s : Scan} {c : Char} {cs : List Char} {mode : Mode}
    (hstep : s.step c = { s with mode }) (h : Absorbs { s with mode } cs) : Absorbs s (c :: cs) := by
  intro n
  cases n with
  | zero => exact ⟨s.mode, rfl⟩
  | succ n =>
      obtain ⟨mode', hrun⟩ := h n
      exact ⟨mode', by rw [List.take_succ_cons, run_cons, hstep, hrun]⟩

theorem absorbs_nil (s : Scan) : Absorbs s [] := by
  intro n
  exact ⟨s.mode, by rw [List.take_nil, run_nil]⟩

theorem step_backslash {s : Scan} {found : List Char} (hmode : s.mode = .string found false) :
    s.step '\\' = { s with mode := .string ('\\' :: found) true } := by
  unfold step
  rw [hmode]
  rfl

theorem step_escaped {s : Scan} {found : List Char} (hmode : s.mode = .string found true)
    (c : Char) : s.step c = { s with mode := .string (c :: found) false } := by
  unfold step
  rw [hmode]
  rfl

/-- A string that breaks off before its closing quote is nothing yet. -/
theorem absorbs_spelled {strict : Bool} {known : Text} {raw : List Char} {text : Text}
    (hspells : Json.Spells strict known raw text) {s : Scan} {found : List Char}
    (hmode : s.mode = .string found false) : Absorbs s raw := by
  induction hspells generalizing s found with
  | done => exact absorbs_nil s
  | @unicode _ a b c d _ raw _ hhex _ ih =>
      obtain ⟨haq, hbq, hcq, hdq⟩ := Json.hexFour?_ne (e := '"') hhex (by decide)
      obtain ⟨has, hbs, hcs, hds⟩ := Json.hexFour?_ne (e := '\\') hhex (by decide)
      exact .cons (step_backslash hmode) <| .cons (step_escaped rfl 'u') <|
        .cons (step_string rfl haq has) <| .cons (step_string rfl hbq hbs) <|
        .cons (step_string rfl hcq hcs) <| .cons (step_string rfl hdq hds) <| ih rfl
  | @escape _ e _ raw _ _ _ ih =>
      exact .cons (step_backslash hmode) <| .cons (step_escaped rfl e) <| ih rfl
  | plain hquote hslash _ _ ih => exact .cons (step_string hmode hquote hslash) (ih rfl)

theorem absorbs_unclosed {strict : Bool} {raw : List Char} {text : Text}
    (hspells : Json.Spells strict [] raw text) {s : Scan} (hmode : s.mode = .between) :
    Absorbs s ('"' :: raw) := by
  have hopen : s.step '"' = { s with mode := .string [] false } := by
    rw [step_of_between hmode]
    rfl
  exact .cons hopen (absorbs_spelled hspells rfl)

theorem quiet_label {s : Scan} {label : Source.Label} {frame : Frame} {outer : List Frame}
    (hlabel : label.WellFormed) (hmode : s.mode = .between) (hframes : s.frames = frame :: outer)
    (harray : frame.isArray = false) (hkey : frame.expectsKey = true) : Quiet s label.chars := by
  have hchars : label.chars = label.lead ++ ((('"' :: label.raw) ++ ['"']) ++
      (label.beforeColon ++ ([':'] ++ label.afterColon))) := by
    simp [Source.Label.chars, Source.Label.body]
  rw [hchars]
  refine (quiet_blank (Or.inl hmode) hlabel.lead).append ?_
  rw [run_blank_between hlabel.lead hmode]
  have hquoted : ({ s with line := s.line + lines label.lead } : Scan).run
      (('"' :: label.raw) ++ ['"']) = _ :=
    (run_quoted hlabel.raw (by exact hmode)).trans (stringEnd_key (by exact hframes) harray hkey)
  refine Quiet.append ?_ ?_
  · have hopen := (absorbs_unclosed hlabel.raw
      (s := { s with line := s.line + lines label.lead }) (by exact hmode)).quiet
    refine hopen.append (quiet_singleton ?_)
    have hlast := run_append { s with line := s.line + lines label.lead } ('"' :: label.raw) ['"']
    rw [run_cons, run_nil] at hlast
    rw [← hlast, hquoted, hopen.finish_run]
    simp [finish, hframes, Frame.value]
  · rw [hquoted]
    refine quiet_separators (Or.inl rfl) fun c hc => ?_
    rcases List.mem_append.mp hc with hc | hc
    · exact Or.inl (hlabel.beforeColon c hc)
    rcases List.mem_append.mp hc with hc | hc
    · exact Or.inr (Or.inr (List.mem_singleton.mp hc))
    · exact Or.inl (hlabel.afterColon c hc)

/-! ## Values that break off -/

theorem finish_eq_of_frames {s : Scan} {frame : Frame} {outer : List Frame}
    (hframes : s.frames = frame :: outer) :
    s.finish = some (enclose frame.segment frame.value outer) := by
  rw [finish, hframes]

theorem finish_attach (segment : Text) (value : Outline) (s : Scan) :
    (attach segment value s).finish = some (enclose segment value s.frames) := by
  unfold attach
  split
  next hframes =>
    rw [finish, hframes]
    rfl
  next frame outer hframes =>
    rw [finish_eq_of_frames rfl, hframes, Frame.give_segment]
    rfl

/-- Behind a whole value and white space, the value is given to the open value
around it. -/
theorem Receives.finish_run_take {s : Scan} {segment : Text} {frame : Frame} {outer : List Frame}
    {source : Source} (h : Receives s (s.run source.chars) segment (frame :: outer) source)
    {trail : List Char} (htrail : Blank trail) (rest : List Char) {n : Nat}
    (hwhole : source.chars.length ≤ n) :
    ∃ mode, Idle mode ∧ (s.run ((source.chars ++ (trail ++ rest)).take n)).finish =
      (({ s with
          mode, line := s.line + lines source.chars + lines trail,
          frames := frame.give segment (source.outline s.line) :: outer } : Scan).run
        (rest.take (n - source.chars.length - trail.length))).finish := by
  obtain ⟨mode, hidle, hrun⟩ := h.run_blank htrail
  have hquiet : Quiet (s.run source.chars) trail := by
    obtain ⟨mode', hidle', hvalue⟩ := h
    rw [hvalue]
    exact quiet_blank hidle' htrail
  exact ⟨mode, hidle, by
    rw [List.take_append, List.take_of_length_le hwhole, run_append, hquiet.finish_run_take, hrun]⟩

theorem quiet_comma {s : Scan} {comma : List Char}
    (hcomma : comma = [] ∨ comma = [','] ∧ Idle s.mode) : Quiet s comma := by
  rcases hcomma with rfl | ⟨rfl, hidle⟩
  · exact quiet_nil s
  · exact quiet_separators hidle fun c hc => Or.inr (Or.inl (List.mem_singleton.mp hc))

/-- What stands before an item adds nothing. -/
theorem before_item {s : Scan} {frame : Frame} {outer : List Frame} {comma lead : List Char}
    (hframes : s.frames = frame :: outer) (harray : frame.isArray = true)
    (hcomma : comma = [] ∧ s.mode = .between ∨ comma = [','] ∧ Idle s.mode) (hlead : Blank lead) :
    Quiet s (comma ++ lead) ∧
      s.run (comma ++ lead) = { s with mode := .between, line := s.line + lines lead } := by
  have hrun := run_comma_item hframes harray hcomma
  constructor
  · refine (quiet_comma (hcomma.imp And.left id)).append ?_
    rw [hrun]
    exact quiet_blank (Or.inl rfl) hlead
  · rw [run_append, hrun, run_blank_between hlead rfl]

/-- The label of a member adds nothing, but the value behind it gets its key. -/
theorem before_member {s : Scan} {frame : Frame} {outer : List Frame} {comma : List Char}
    {label : Source.Label} (hframes : s.frames = frame :: outer) (harray : frame.isArray = false)
    (hcomma : comma = [] ∧ s.mode = .between ∧ frame.expectsKey = true ∨
      comma = [','] ∧ Idle s.mode) (hlabel : label.WellFormed) :
    Quiet s (comma ++ label.chars) ∧ s.run (comma ++ label.chars) = { s with
      mode := .between, line := s.line + lines label.chars,
      frames := { frame with key := some label.key, expectsKey := false } :: outer } := by
  obtain ⟨key, hrun⟩ := run_comma_member hframes harray hcomma
  constructor
  · refine (quiet_comma (hcomma.imp And.left id)).append ?_
    rw [hrun]
    exact quiet_label hlabel rfl rfl harray rfl
  · rw [run_append, hrun, run_label hlabel rfl rfl (by exact harray) rfl]

theorem take_unclosed {c d : Char} {cs : List Char} {n : Nat} (h : ¬(c :: cs ++ [d]).length ≤ n) :
    (c :: cs ++ [d]).take n = (c :: cs).take n := by
  rw [List.length_append, List.length_singleton] at h
  exact List.take_append_of_le_length (by omega)

mutual

/-- When a value breaks off, the outline is that of what is left of it. -/
theorem finish_run_take (source : Source) (hform : source.Spelled) {s : Scan} {segment : Text}
    {frames : List Frame} (hmode : s.mode = .between) (hslot : s.slot? = some (segment, frames))
    (hkey : ¬s.ExpectsKey) (n : Nat) :
    (s.run (source.chars.take n)).finish =
      ((source.cut n).map fun kept => enclose segment (kept.outline s.line) frames).or
        s.finish := by
  -- Only a value that is not there as a whole needs a look at its parts.
  by_cases hwhole : source.chars.length ≤ n
  · obtain ⟨mode, _, hrun⟩ := run_chars source hform hmode hslot hkey
    rw [List.take_of_length_le hwhole, source.cut_of_length_le hform hwhole, hrun, finish_attach]
    rfl
  cases n with
  | zero => simp
  | succ k =>
  match source, hform with
  | .scalar cs content, hscalar =>
      obtain ⟨hne, hunbroken⟩ := hscalar.unbroken
      have htaken : cs.take (k + 1) ≠ [] := by simpa using hne
      rw [Source.chars, run_scalar htaken (fun c hc => hunbroken c (List.mem_of_mem_take hc)) hmode
        hslot, finish_attach]
      rfl
  | .string raw text, hspells =>
      rw [Source.chars] at hwhole ⊢
      have hshort : k + 1 < raw.length + 2 := by simpa using hwhole
      rw [take_unclosed hwhole, (absorbs_unclosed hspells hmode).quiet, Source.cut, if_pos hshort]
      rfl
  | .array blank items, ⟨hblank, hitems⟩ =>
      -- Opening puts the array on top; what is read of its items then goes into it.
      have hopen := step_open (c := '[') hmode hslot (Or.inl ⟨rfl, rfl⟩)
      have hitemsRun := finish_run_take_items items hitems
        (s := ⟨s.line + lines blank, s.mode, s.root,
          ⟨true, segment, s.line, [], 0, none, true⟩ :: frames⟩)
        rfl rfl (Or.inl ⟨rfl, hmode⟩) (k - blank.length)
      rw [Source.chars, List.cons_append] at hwhole ⊢
      rw [take_unclosed hwhole, List.take_succ_cons, run_cons, hopen,
        finish_run_take_blank (by exact hmode) hblank, hitemsRun, Source.cut,
        if_neg (Nat.succ_ne_zero k), Nat.add_sub_add_right]
      rfl
  | .object blank members, ⟨hblank, hmembers⟩ =>
      have hopen := step_open (c := '\x7b') hmode hslot (Or.inr ⟨rfl, rfl⟩)
      have hmembersRun := finish_run_take_members members hmembers
        (s := ⟨s.line + lines blank, s.mode, s.root,
          ⟨false, segment, s.line, [], 0, none, true⟩ :: frames⟩)
        rfl rfl (Or.inl ⟨rfl, hmode, rfl⟩) (k - blank.length)
      rw [Source.chars, List.cons_append] at hwhole ⊢
      rw [take_unclosed hwhole, List.take_succ_cons, run_cons, hopen,
        finish_run_take_blank (by exact hmode) hblank, hmembersRun, Source.cut,
        if_neg (Nat.succ_ne_zero k), Nat.add_sub_add_right]
      rfl
  termination_by sizeOf source

theorem finish_run_take_items (items : List (List Char × Source × List Char))
    (hform : Source.ItemsSpelled items) {s : Scan} {frame : Frame} {outer : List Frame}
    {comma : List Char} (hframes : s.frames = frame :: outer) (harray : frame.isArray = true)
    (hcomma : comma = [] ∧ s.mode = .between ∨ comma = [','] ∧ Idle s.mode) (n : Nat) :
    (s.run ((Source.itemChars comma items).take n)).finish =
      some (enclose frame.segment (.node frame.line
        (Source.itemOutlines s.line frame.next frame.children (Source.cutItems n comma items)))
        outer) := by
  match items, hform with
  | [], _ =>
      rw [Source.itemChars, List.take_nil, run_nil, finish_eq_of_frames hframes]
      rfl
  | (lead, item, trail) :: rest, ⟨hlead, hitem, htrail, hrest⟩ =>
      have hchars : Source.itemChars comma ((lead, item, trail) :: rest) =
          (comma ++ lead) ++ (item.chars ++ (trail ++ Source.itemChars [','] rest)) := by
        simp [Source.itemChars]
      obtain ⟨hquiet, hrun⟩ := before_item hframes harray hcomma hlead
      have hslot : ({ s with mode := .between, line := s.line + lines lead } : Scan).slot? =
          some (Text.ofString (toString frame.next),
            { frame with next := frame.next + 1 } :: outer) := by
        simp [slot?, hframes, harray]
      have hkey : ¬({ s with mode := .between, line := s.line + lines lead } : Scan).ExpectsKey := by
        simp [ExpectsKey, hframes, harray]
      rw [hchars, hquiet.finish_run_take, hrun, Source.cutItems]
      -- A whole item is in the array, and the items behind it decide. Behind one that breaks
      -- off there is nothing, and the array has what is left of it.
      by_cases hwhole : item.chars.length ≤ n - (comma ++ lead).length
      · obtain ⟨mode, hidle, hvalue⟩ := (run_chars item hitem rfl hslot hkey).finish_run_take htrail
          (Source.itemChars [','] rest) hwhole
        have hbehind : n - (comma ++ lead).length - item.chars.length - trail.length =
            n - (comma ++ lead ++ item.chars ++ trail).length := by
          simp only [List.length_append]
          omega
        have hrestRun := finish_run_take_items rest hrest (s := { s with
            mode,
            line := s.line + lines lead + lines item.chars + lines trail,
            frames := { frame with
              children := (Text.ofString (toString frame.next),
                item.outline (s.line + lines lead)) :: frame.children,
              next := frame.next + 1 } :: outer })
          rfl harray (Or.inr ⟨rfl, hidle⟩) (n - (comma ++ lead ++ item.chars ++ trail).length)
        rw [hvalue, item.cut_of_length_le hitem hwhole, hbehind,
          Frame.give_array (by exact harray), hrestRun]
        rfl
      · have hbehind : n - (comma ++ lead ++ item.chars ++ trail).length = 0 := by
          simp only [List.length_append] at hwhole ⊢
          omega
        rw [List.take_append_of_le_length (by omega), finish_run_take item hitem rfl hslot hkey,
          hbehind, Source.cutItems_zero]
        cases item.cut (n - (comma ++ lead).length) with
        | none => exact finish_eq_of_frames hframes
        | some kept =>
            simp [Source.itemOutlines, enclose, Frame.value, Frame.give_array, harray]
  termination_by sizeOf items

theorem finish_run_take_members (members : List (Source.Label × Source × List Char))
    (hform : Source.MembersSpelled members) {s : Scan} {frame : Frame} {outer : List Frame}
    {comma : List Char} (hframes : s.frames = frame :: outer) (harray : frame.isArray = false)
    (hcomma : comma = [] ∧ s.mode = .between ∧ frame.expectsKey = true ∨
      comma = [','] ∧ Idle s.mode) (n : Nat) :
    (s.run ((Source.memberChars comma members).take n)).finish =
      some (enclose frame.segment (.node frame.line
        (Source.memberOutlines s.line frame.children (Source.cutMembers n comma members)))
        outer) := by
  match members, hform with
  | [], _ =>
      rw [Source.memberChars, List.take_nil, run_nil, finish_eq_of_frames hframes]
      rfl
  | (label, item, trail) :: rest, ⟨hlabel, hitem, htrail, hrest⟩ =>
      have hchars : Source.memberChars comma ((label, item, trail) :: rest) =
          (comma ++ label.chars) ++ (item.chars ++ (trail ++ Source.memberChars [','] rest)) := by
        simp [Source.memberChars]
      obtain ⟨hquiet, hrun⟩ := before_member hframes harray hcomma hlabel
      have hslot : ({ s with
            mode := .between, line := s.line + lines label.chars,
            frames := { frame with key := some label.key, expectsKey := false } :: outer } :
          Scan).slot? = some (label.key,
            { frame with key := some label.key, expectsKey := false } :: outer) := by
        simp [slot?, harray]
      have hkey : ¬({ s with
            mode := .between, line := s.line + lines label.chars,
            frames := { frame with key := some label.key, expectsKey := false } :: outer } :
          Scan).ExpectsKey := by
        simp [ExpectsKey]
      rw [hchars, hquiet.finish_run_take, hrun, Source.cutMembers]
      by_cases hwhole : item.chars.length ≤ n - (comma ++ label.chars).length
      · obtain ⟨mode, hidle, hvalue⟩ := (run_chars item hitem rfl hslot hkey).finish_run_take htrail
          (Source.memberChars [','] rest) hwhole
        have hbehind : n - (comma ++ label.chars).length - item.chars.length - trail.length =
            n - (comma ++ label.chars ++ item.chars ++ trail).length := by
          simp only [List.length_append]
          omega
        have hrestRun := finish_run_take_members rest hrest (s := { s with
            mode,
            line := s.line + lines label.chars + lines item.chars + lines trail,
            frames := { frame with
              children := Entries.put label.key (item.outline (s.line + lines label.chars))
                frame.children,
              key := some label.key, expectsKey := false } :: outer })
          rfl harray (Or.inr ⟨rfl, hidle⟩)
          (n - (comma ++ label.chars ++ item.chars ++ trail).length)
        rw [hvalue, item.cut_of_length_le hitem hwhole, hbehind,
          Frame.give_object (by exact harray), hrestRun]
        rfl
      · have hbehind : n - (comma ++ label.chars ++ item.chars ++ trail).length = 0 := by
          simp only [List.length_append] at hwhole ⊢
          omega
        rw [List.take_append_of_le_length (by omega), finish_run_take item hitem rfl hslot hkey,
          hbehind, Source.cutMembers_zero]
        cases item.cut (n - (comma ++ label.chars).length) with
        | none => rfl
        | some kept =>
            simp [Source.memberOutlines, enclose, Frame.value, Frame.give_object, harray]
  termination_by sizeOf members

end

end Scan

end Outline

namespace Source

/-- A text is a value that follows the grammar, with white space around it. -/
structure Renders (source : Source) (lead : List Char) (text : List Char) : Prop where
  spelled : source.Spelled
  lead_blank : Blank lead
  text_eq : ∃ trail, Blank trail ∧ text = lead ++ source.chars ++ trail

/-- Every text that can be read is such a text. -/
theorem exists_renders_of_parse {text : String} {value : Json}
    (hparse : Json.parse text = .ok value) :
    ∃ lead source, Renders source lead text.toList ∧ source.value = value := by
  obtain ⟨lead, source, hwrites, hvalue⟩ := Json.exists_source_of_parse hparse
  exact ⟨lead, source, ⟨hwrites.wellFormed.spelled, hwrites.lead_blank, hwrites.text_eq⟩, hvalue⟩

/-- A value that starts behind some characters is there in the first characters
of a text: its first character is among them and, if it is a string, so is its
closing quote. -/
def Shown (n : Nat) (before : List Char) (node : Source) : Prop :=
  before.length < n ∧ ∀ raw text, node = string raw text → (before ++ node.chars).length ≤ n

/-- The places in what is left of a source are those of the values that are there. -/
theorem exists_at?_cut_iff {source : Source} (hform : source.Spelled) (honce : source.KeysOnce)
    (lead : List Char) (n : Nat) (path : List Step) (before : List Char) :
    (∃ kept, (source.cut (n - lead.length)).bind (·.at? path) = some (before, kept)) ↔
      ∃ node, source.at? path = some (before, node) ∧ Shown n (lead ++ before) node := by
  have hshown (node : Source) :
      (node.cut (n - lead.length - before.length)).isSome ↔ Shown n (lead ++ before) node := by
    rw [cut_isSome_iff, Shown]
    simp only [List.length_append]
    constructor
    · rintro ⟨hfirst, hquote⟩
      refine ⟨by omega, fun raw text hstring => ?_⟩
      have := hquote raw text hstring
      omega
    · rintro ⟨hfirst, hquote⟩
      refine ⟨by omega, fun raw text hstring => ?_⟩
      have := hquote raw text hstring
      omega
  rw [source.at?_cut hform honce]
  constructor
  · rintro ⟨kept, hplace⟩
    obtain ⟨⟨_, node⟩, hnode, hcut⟩ := Option.bind_eq_some_iff.mp hplace
    obtain ⟨_, hkept, heq⟩ := Option.map_eq_some_iff.mp hcut
    cases heq
    exact ⟨node, hnode, (hshown node).mp (by rw [hkept]; rfl)⟩
  · rintro ⟨node, hnode, hthere⟩
    obtain ⟨kept, hkept⟩ := Option.isSome_iff_exists.mp ((hshown node).mpr hthere)
    exact ⟨kept, by rw [hnode, Option.bind_some, cutPlace, hkept, Option.map_some]⟩

end Source

namespace Outline

/-- Scanning the start of a text finds what is left of its value. -/
theorem scanChars_take {source : Source} {lead text : List Char}
    (hrenders : source.Renders lead text) (n : Nat) :
    scanChars (text.take n) =
      (source.cut (n - lead.length)).map (·.outline (1 + Source.lines lead)) := by
  obtain ⟨trail, htrail, rfl⟩ := hrenders.text_eq
  let opened : Scan := ⟨1 + Source.lines lead, .between, none, []⟩
  have hslot : opened.slot? = some ([], []) := rfl
  have hkey : ¬opened.ExpectsKey := by simp [opened, Scan.ExpectsKey]
  have hopened : scanChars ((lead ++ source.chars ++ trail).take n) =
      (opened.run ((source.chars ++ trail).take (n - lead.length))).finish := by
    rw [List.append_assoc]
    exact Scan.finish_run_take_blank rfl hrenders.lead_blank (source.chars ++ trail) n
  rw [hopened]
  by_cases hwhole : source.chars.length ≤ n - lead.length
  · obtain ⟨mode, hidle, hvalue⟩ := Scan.run_chars source hrenders.spelled rfl hslot hkey
    have hquiet : Scan.Quiet (opened.run source.chars) trail :=
      Scan.quiet_blank (by rw [hvalue]; exact hidle) htrail
    rw [List.take_append, List.take_of_length_le hwhole, Scan.run_append, hquiet, hvalue,
      source.cut_of_length_le hrenders.spelled hwhole]
    rfl
  · rw [List.take_append_of_le_length (by omega),
      Scan.finish_run_take source hrenders.spelled rfl hslot hkey]
    exact Option.or_none

theorem positions_of_start_eq {source : Source} {lead : List Char} {text cut : String}
    (hrenders : source.Renders lead text.toList) (hstart : cut.toList <+: text.toList) :
    positions cut = (((source.cut (cut.length - lead.length)).map
      (·.outline (1 + Source.lines lead))).map entries).getD [] := by
  have hcut : cut.toList = text.toList.take cut.length := by
    rw [← String.length_toList]
    exact List.prefix_iff_eq_take.mp hstart
  rw [positions, scan, hcut, scanChars_take hrenders]

theorem positions_of_start_distinct {source : Source} {lead : List Char} {text cut : String}
    (hrenders : source.Renders lead text.toList) (hstart : cut.toList <+: text.toList) :
    Entries.Distinct (positions cut) := by
  rw [positions_of_start_eq hrenders hstart]
  cases source.cut (cut.length - lead.length) with
  | none => exact List.nodup_nil
  | some kept => exact entries_distinct (kept.outline_distinct _)

/-- The pointers in the start of a text are those of the values that are there. -/
theorem mem_positions_iff_of_start {source : Source} {lead : List Char} {text cut : String}
    (hrenders : source.Renders lead text.toList) (honce : source.KeysOnce)
    (hstart : cut.toList <+: text.toList) (pointer : Text) (line : Nat) :
    (pointer, line) ∈ positions cut ↔ ∃ path before node, pointer = Pointer.ofPath path ∧
      source.at? path = some (before, node) ∧ line = 1 + Source.lines (lead ++ before) ∧
      node.Shown cut.length (lead ++ before) := by
  have hkept : (pointer, line) ∈ positions cut ↔ ∃ path before, pointer = Pointer.ofPath path ∧
      line = 1 + Source.lines (lead ++ before) ∧ ∃ kept,
        (source.cut (cut.length - lead.length)).bind (·.at? path) = some (before, kept) := by
    rw [positions_of_start_eq hrenders hstart]
    cases source.cut (cut.length - lead.length) with
    | none => simp
    | some kept =>
        rw [Option.map_some, Option.map_some, Option.getD_some, mem_entries_outline_iff]
        simp only [Option.bind_some]
        constructor
        · rintro ⟨path, before, node, hpointer, hplace, hline⟩
          exact ⟨path, before, hpointer, hline, node, hplace⟩
        · rintro ⟨path, before, hpointer, hline, node, hplace⟩
          exact ⟨path, before, node, hpointer, hplace, hline⟩
  rw [hkept]
  simp only [Source.exists_at?_cut_iff hrenders.spelled honce]
  constructor
  · rintro ⟨path, before, hpointer, hline, node, hplace, hshown⟩
    exact ⟨path, before, node, hpointer, hplace, hline, hshown⟩
  · rintro ⟨path, before, node, hpointer, hplace, hline, hshown⟩
    exact ⟨path, before, hpointer, hline, node, hplace, hshown⟩

/-- The pointers in a whole text are those of all its values. -/
theorem mem_positions_iff_of_renders {source : Source} {lead : List Char} {text : String}
    (hrenders : source.Renders lead text.toList) (pointer : Text) (line : Nat) :
    (pointer, line) ∈ positions text ↔ ∃ path before node, pointer = Pointer.ofPath path ∧
      source.at? path = some (before, node) ∧ line = 1 + Source.lines (lead ++ before) := by
  obtain ⟨trail, _, htext⟩ := hrenders.text_eq
  have hwhole : source.chars.length ≤ text.length - lead.length := by
    rw [← String.length_toList, htext]
    simp
  rw [positions_of_start_eq hrenders (List.prefix_refl _),
    source.cut_of_length_le hrenders.spelled hwhole]
  exact mem_entries_outline_iff source lead pointer line

/-- Of a text that breaks off, the map has the entries of the whole text for the
values whose first character is there and, for strings, whose closing quote is
there. `source` and `lead` say where the values of the text stand; every pointer
in the map of the text belongs to one of them. -/
theorem positions_of_start {source : Source} {lead : List Char} {text cut : String}
    (hrenders : source.Renders lead text.toList) (honce : source.KeysOnce)
    (hstart : cut.toList <+: text.toList) :
    Entries.Distinct (positions text) ∧ Entries.Distinct (positions cut) ∧
      (∀ pointer line, (pointer, line) ∈ positions text ↔ ∃ path before node,
        pointer = Pointer.ofPath path ∧ source.at? path = some (before, node) ∧
          line = 1 + (lead ++ before).count '\n') ∧
      (∀ entry ∈ positions cut, entry ∈ positions text) ∧
      ∀ path before node, source.at? path = some (before, node) →
        (∃ after, text.toList = lead ++ before ++ node.chars ++ after) ∧
          ∀ line, (Pointer.ofPath path, line) ∈ positions cut ↔
            (Pointer.ofPath path, line) ∈ positions text ∧
              node.Shown cut.length (lead ++ before) := by
  have hwhole := mem_positions_iff_of_renders hrenders
  have hcut := mem_positions_iff_of_start hrenders honce hstart
  refine ⟨positions_of_start_distinct hrenders (List.prefix_refl _),
    positions_of_start_distinct hrenders hstart, hwhole, ?_, ?_⟩
  · rintro ⟨pointer, line⟩ hmem
    obtain ⟨path, before, node, hpointer, hplace, hline, _⟩ := (hcut pointer line).mp hmem
    exact (hwhole pointer line).mpr ⟨path, before, node, hpointer, hplace, hline⟩
  · intro path before node hplace
    constructor
    · obtain ⟨trail, _, htext⟩ := hrenders.text_eq
      obtain ⟨after, hchars⟩ := source.exists_chars_eq_of_at? hplace
      exact ⟨after ++ trail, by simp [htext, hchars]⟩
    · intro line
      -- The pointer of a value tells the path to it, and so where it starts.
      have hsame : ∀ path' before' node', Pointer.ofPath path = Pointer.ofPath path' →
          source.at? path' = some (before', node') → before = before' ∧ node = node' := by
        intro path' before' node' hpointer hplace'
        obtain rfl := source.eq_of_segments_eq (by rw [hplace]; rfl) (by rw [hplace']; rfl)
          (Pointer.ofSegments_injective hpointer)
        exact Prod.mk.inj (Option.some.inj (hplace.symm.trans hplace'))
      rw [hcut, hwhole]
      constructor
      · rintro ⟨path', before', node', hpointer, hplace', hline, hshown⟩
        obtain ⟨rfl, rfl⟩ := hsame path' before' node' hpointer hplace'
        exact ⟨⟨path', before, node, hpointer, hplace', hline⟩, hshown⟩
      · rintro ⟨⟨path', before', node', hpointer, hplace', hline⟩, hshown⟩
        obtain ⟨rfl, rfl⟩ := hsame path' before' node' hpointer hplace'
        exact ⟨path', before, node, hpointer, hplace', hline, hshown⟩

/-- This text breaks off before the closing quote of its second value. -/
theorem positions_of_start_unclosed :
    ∃ source : Source, source.Renders [] "\x7b\"a\": \"x\",\n \"b\": \"y\"\x7d".toList ∧
      source.KeysOnce ∧
      "\x7b\"a\": \"x\",\n \"b\": \"y".toList <+:
        "\x7b\"a\": \"x\",\n \"b\": \"y\"\x7d".toList ∧
      ∀ entry ∈ positions "\x7b\"a\": \"x\",\n \"b\": \"y",
        entry ∈ positions "\x7b\"a\": \"x\",\n \"b\": \"y\"\x7d" := by
  let source : Source := .object []
    [(⟨[], ['a'], Text.ofString "a", [], [' ']⟩, .string ['x'] (Text.ofString "x"), []),
      (⟨['\n', ' '], ['b'], Text.ofString "b", [], [' ']⟩, .string ['y'] (Text.ofString "y"), [])]
  have hspells (c : Char) (hquote : c ≠ '"') (hslash : c ≠ '\\')
      (hcontrol : ¬(true && c.toNat < 0x20) = true) :
      Json.Spells true [] [c] [CodePoint.ofChar c] :=
    .plain hquote hslash hcontrol (.done _)
  have hrenders : source.Renders [] "\x7b\"a\": \"x\",\n \"b\": \"y\"\x7d".toList := by
    refine ⟨⟨?_, ⟨?_, hspells 'a' ?_ ?_ ?_, ?_, ?_⟩, hspells 'x' ?_ ?_ ?_, ?_,
      ⟨?_, hspells 'b' ?_ ?_ ?_, ?_, ?_⟩, hspells 'y' ?_ ?_ ?_, ?_, trivial⟩, ?_, [], ?_, ?_⟩ <;>
      decide
  have honce : source.KeysOnce := ⟨by decide, trivial, trivial, trivial⟩
  have hstart : "\x7b\"a\": \"x\",\n \"b\": \"y".toList <+:
      "\x7b\"a\": \"x\",\n \"b\": \"y\"\x7d".toList := by
    decide
  exact ⟨source, hrenders, honce, hstart, (positions_of_start hrenders honce hstart).2.2.2.1⟩

example : positions "\x7b\"a\": \"x\",\n \"b\": \"y" = [([], 1), (Text.ofString "/a", 1)] := by
  cbv

end Outline

end Conform
