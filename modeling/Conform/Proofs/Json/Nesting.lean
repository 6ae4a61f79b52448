import Conform.Proofs.Json.Positions

/-! # The lines of any text

Scanning has an answer for every text, also for one that no reader accepts:
brackets that do not match, keys that are used again without a comma, strings
where no string belongs. Whatever the text is, open values stand in each other
on lines that do not decrease, and so do the values of the outline.
-/

namespace Conform

namespace Pointer

/-- The part of a pointer before its last slash. -/
def parent (pointer : Text) : Text := ((pointer.reverse.dropWhile (· != slash)).drop 1).reverse

/-- The pointer before the last slash is that of the segments before the last one. -/
theorem parent_ofSegments_append (segments : List Text) (segment : Text) :
    parent (ofSegments (segments ++ [segment])) = ofSegments segments := by
  have hsplit : ofSegments (segments ++ [segment]) =
      ofSegments segments ++ slash :: escape segment := by
    simp [ofSegments]
  have hescape : ∀ c ∈ (escape segment).reverse, (c != slash) = true := by
    intro c hc
    rw [bne_iff_ne]
    rintro rfl
    exact slash_not_mem_escape segment (List.mem_reverse.mp hc)
  rw [parent, hsplit, List.reverse_append, List.reverse_cons, List.append_assoc,
    List.dropWhile_append_of_pos hescape, List.singleton_append,
    List.dropWhile_cons_of_neg (by simp), List.drop_one, List.tail_cons, List.reverse_reverse]

end Pointer

namespace Outline

/-! ## Lines inside an outline -/

/-- The value starts between two lines, and each value inside it between the
line of the value around it and the later one. -/
inductive Within (high : Nat) : (low : Nat) → Outline → Prop
  | node {low line : Nat} {children : List (Text × Outline)} (hlow : low ≤ line)
      (hhigh : line ≤ high) (hchildren : ∀ child ∈ children, Within high line child.2) :
      Within high low (.node line children)

theorem Within.mono {low low' high high' : Nat} {outline : Outline} (h : outline.Within high low)
    (hlow : low' ≤ low) (hhigh : high ≤ high') : outline.Within high' low' := by
  induction h generalizing low' with
  | node hline hend _ ih =>
      exact .node (Nat.le_trans hlow hline) (Nat.le_trans hend hhigh)
        fun child hchild => ih child hchild (Nat.le_refl _)

theorem Within.child {low line high : Nat} {children : List (Text × Outline)}
    (h : Within high low (.node line children)) {segment : Text} {child : Outline}
    (hchild : children.lookup segment = some child) : child.Within high line := by
  obtain ⟨_, _, hchildren⟩ := h
  exact hchildren _ (Entries.mem_of_lookup hchild)

theorem Within.lineOf?_range {low high : Nat} {outline : Outline} (h : outline.Within high low)
    {segments : List Text} {line : Nat} (hline : outline.lineOf? segments = some line) :
    low ≤ line ∧ line ≤ high := by
  induction segments generalizing low outline with
  | nil =>
      obtain ⟨hlow, hhigh, _⟩ := h
      cases hline
      exact ⟨hlow, hhigh⟩
  | cons segment rest ih =>
      obtain ⟨start, children⟩ := outline
      rw [lineOf?] at hline
      split at hline
      next child hchild =>
        obtain ⟨hlow, hhigh⟩ := ih (h.child hchild) hline
        obtain ⟨hstart, _, _⟩ := h
        exact ⟨Nat.le_trans hstart hlow, hhigh⟩
      next => cases hline

/-- The value around another one is there too, and starts on the same line or
before it. -/
theorem Within.exists_parent {low high : Nat} {outline : Outline} (h : outline.Within high low)
    {segments : List Text} {segment : Text} {line : Nat}
    (hline : outline.lineOf? (segments ++ [segment]) = some line) :
    ∃ above, outline.lineOf? segments = some above ∧ above ≤ line := by
  induction segments generalizing low outline with
  | nil =>
      obtain ⟨start, children⟩ := outline
      rw [List.nil_append, lineOf?] at hline
      split at hline
      next child hchild => exact ⟨start, rfl, ((h.child hchild).lineOf?_range hline).1⟩
      next => cases hline
  | cons first rest ih =>
      obtain ⟨start, children⟩ := outline
      rw [List.cons_append, lineOf?] at hline
      split at hline
      next child hchild =>
        obtain ⟨above, habove, hle⟩ := ih (h.child hchild) hline
        refine ⟨above, ?_, hle⟩
        rw [lineOf?, hchild]
        exact habove
      next => cases hline

/-! ## Open values -/

/-- What is known of an open value when scanning has come to a line. -/
structure Frame.Sound (high : Nat) (frame : Frame) : Prop where
  line_le : frame.line ≤ high
  keys : Entries.Distinct frame.children
  children : ∀ child ∈ frame.children, child.2.Distinct ∧ child.2.Within high frame.line
  indices : frame.isArray = true → ∀ n : Nat, frame.next ≤ n →
    (Step.index n).segment ∉ frame.children.map (·.1)

/-- A value on a line can be given to the innermost open value under a segment:
it does not start before that value, and in an array nothing stands or will be
put under the segment. -/
def Fits (segment : Text) (line : Nat) : List Frame → Prop
  | [] => 1 ≤ line
  | frame :: _ =>
    frame.line ≤ line ∧ (frame.isArray = true → segment ∉ frame.children.map (·.1) ∧
      ∀ n : Nat, frame.next ≤ n → (Step.index n).segment ≠ segment)

/-- Open values stand in each other. -/
def Stacked (high : Nat) : List Frame → Prop
  | [] => True
  | frame :: outer =>
    frame.Sound high ∧ Fits frame.segment frame.line outer ∧ Stacked high outer

theorem Frame.Sound.mono {high high' : Nat} {frame : Frame} (h : frame.Sound high)
    (hhigh : high ≤ high') : frame.Sound high' where
  line_le := Nat.le_trans h.line_le hhigh
  keys := h.keys
  children child hchild :=
    ⟨(h.children child hchild).1, (h.children child hchild).2.mono (Nat.le_refl _) hhigh⟩
  indices := h.indices

theorem Stacked.mono {high high' : Nat} {frames : List Frame} (h : Stacked high frames)
    (hhigh : high ≤ high') : Stacked high' frames := by
  induction frames with
  | nil => trivial
  | cons frame outer ih =>
      obtain ⟨hframe, hfits, houter⟩ := h
      exact ⟨hframe.mono hhigh, hfits, ih houter⟩

/-- An open value stays sound when it is given a value that fits. -/
theorem Frame.Sound.give {high line : Nat} {frame : Frame} (h : frame.Sound high)
    {segment : Text} {outer : List Frame} (hfits : Fits segment line (frame :: outer))
    {value : Outline} (hdistinct : value.Distinct) (hwithin : value.Within high line) :
    (frame.give segment value).Sound high := by
  obtain ⟨hline, hsegment⟩ := hfits
  have hvalue : value.Distinct ∧ value.Within high frame.line :=
    ⟨hdistinct, hwithin.mono hline (Nat.le_refl _)⟩
  cases harray : frame.isArray with
  | true =>
      obtain ⟨hnew, hlater⟩ := hsegment harray
      rw [Frame.give_array harray]
      refine ⟨h.line_le, Entries.distinct_cons.mpr ⟨hnew, h.keys⟩, ?_, ?_⟩
      · intro child hchild
        rcases List.mem_cons.mp hchild with rfl | hchild
        · exact hvalue
        · exact h.children child hchild
      · intro _ n hn hmem
        rcases List.mem_cons.mp hmem with heq | hmem
        · exact hlater n hn heq
        · exact h.indices harray n hn hmem
  | false =>
      rw [Frame.give_object harray]
      refine ⟨h.line_le, h.keys.put _ _, ?_, ?_⟩
      · intro child hchild
        rcases Entries.mem_put hchild with rfl | hchild
        · exact hvalue
        · exact h.children child hchild
      · intro hisArray
        rw [harray] at hisArray
        cases hisArray

theorem Frame.Sound.value {high : Nat} {frame : Frame} (h : frame.Sound high) :
    frame.value.Distinct ∧ frame.value.Within high frame.line :=
  ⟨.node h.keys fun child hchild => (h.children child hchild).1,
    .node (Nat.le_refl _) h.line_le fun child hchild => (h.children child hchild).2⟩

namespace Scan

/-- The outline that closing all open values gives is sound. -/
theorem enclose_within {high line : Nat} {frames : List Frame} (h : Stacked high frames)
    {segment : Text} (hfits : Fits segment line frames) {value : Outline}
    (hdistinct : value.Distinct) (hwithin : value.Within high line) :
    (enclose segment value frames).Distinct ∧ (enclose segment value frames).Within high 1 := by
  induction frames generalizing line segment value with
  | nil => exact ⟨hdistinct, hwithin.mono hfits (Nat.le_refl _)⟩
  | cons frame outer ih =>
      obtain ⟨hframe, hfitsOuter, houter⟩ := h
      obtain ⟨hkeys, hlines⟩ := (hframe.give hfits hdistinct hwithin).value
      rw [Frame.give_line] at hlines
      exact ih houter hfitsOuter hkeys hlines

/-- What is known of a scanner at any point of any text. -/
structure Sound (s : Scan) : Prop where
  one_le : 1 ≤ s.line
  frames : Stacked s.line s.frames
  root : ∀ outline, s.root = some outline → outline.Distinct ∧ outline.Within s.line 1

theorem start_sound : start.Sound := ⟨Nat.le_refl 1, trivial, nofun⟩

theorem Sound.congr {s t : Scan} (h : s.Sound) (hline : s.line ≤ t.line)
    (hroot : t.root = s.root) (hframes : t.frames = s.frames) : t.Sound where
  one_le := Nat.le_trans h.one_le hline
  frames := hframes ▸ h.frames.mono hline
  root outline houtline := by
    obtain ⟨hdistinct, hwithin⟩ := h.root outline (hroot ▸ houtline)
    exact ⟨hdistinct, hwithin.mono (Nat.le_refl 1) hline⟩

theorem Sound.finish {s : Scan} (h : s.Sound) {outline : Outline} (hfinish : s.finish = some outline) :
    outline.Distinct ∧ outline.Within s.line 1 := by
  unfold Scan.finish at hfinish
  split at hfinish
  next => exact h.root outline hfinish
  next frame outer hframes =>
    obtain ⟨hframe, hfits, houter⟩ : Stacked s.line (frame :: outer) := hframes ▸ h.frames
    obtain ⟨hdistinct, hwithin⟩ := hframe.value
    cases hfinish
    exact enclose_within houter hfits hdistinct hwithin

/-! ## One character -/

/-- Where a value would stand now, it fits. -/
theorem Sound.slot? {s : Scan} (h : s.Sound) {segment : Text} {frames : List Frame}
    (hslot : s.slot? = some (segment, frames)) :
    Stacked s.line frames ∧ Fits segment s.line frames := by
  unfold Scan.slot? at hslot
  split at hslot
  next =>
    split at hslot
    next => cases hslot
    next =>
      cases hslot
      exact ⟨trivial, h.one_le⟩
  next frame outer hframes =>
    obtain ⟨hframe, hfits, houter⟩ : Stacked s.line (frame :: outer) := hframes ▸ h.frames
    split at hslot
    next harray =>
      cases hslot
      -- The next index is new, and the ones after it are greater.
      refine ⟨⟨⟨hframe.line_le, hframe.keys, hframe.children, ?_⟩, hfits, houter⟩,
        hframe.line_le, fun _ => ⟨hframe.indices harray _ (Nat.le_refl _), ?_⟩⟩
      · intro _ n hn
        exact hframe.indices harray n (Nat.le_of_succ_le hn)
      · intro n hn heq
        have := Step.segment_index_injective heq
        dsimp only at hn
        omega
    next harray =>
      obtain ⟨key, _, heq⟩ := Option.map_eq_some_iff.mp hslot
      cases heq
      exact ⟨⟨hframe, hfits, houter⟩, hframe.line_le, fun hisArray => absurd hisArray harray⟩

theorem Sound.attach {s : Scan} (h : s.Sound) {segment : Text} {line : Nat}
    (hfits : Fits segment line s.frames) {value : Outline} (hdistinct : value.Distinct)
    (hwithin : value.Within s.line line) : (attach segment value s).Sound := by
  unfold Scan.attach
  split
  next hframes =>
    rw [hframes] at hfits
    refine ⟨h.one_le, h.frames, fun outline houtline => ?_⟩
    cases houtline
    exact ⟨hdistinct, hwithin.mono hfits (Nat.le_refl _)⟩
  next frame outer hframes =>
    obtain ⟨hframe, hfitsOuter, houter⟩ : Stacked s.line (frame :: outer) := hframes ▸ h.frames
    rw [hframes] at hfits
    refine ⟨h.one_le, ⟨hframe.give hfits hdistinct hwithin, ?_, houter⟩, h.root⟩
    rwa [Frame.give_segment, Frame.give_line]

theorem Sound.leaf {s : Scan} (h : s.Sound) (mode : Mode) : (leaf mode s).Sound := by
  unfold Scan.leaf
  split
  next => exact h.congr (Nat.le_refl _) rfl rfl
  next segment frames hslot =>
    obtain ⟨hstacked, hfits⟩ := h.slot? hslot
    have hopened : Sound { s with frames, mode } := ⟨h.one_le, hstacked, h.root⟩
    exact hopened.attach hfits (.node Entries.distinct_nil (by simp))
      (.node (Nat.le_refl _) (Nat.le_refl _) (by simp))

theorem Sound.openFrame {s : Scan} (h : s.Sound) (isArray : Bool) : (openFrame isArray s).Sound := by
  unfold Scan.openFrame
  split
  next => exact h.congr (Nat.le_refl _) rfl rfl
  next segment frames hslot =>
    obtain ⟨hstacked, hfits⟩ := h.slot? hslot
    exact ⟨h.one_le, ⟨⟨Nat.le_refl _, Entries.distinct_nil, by simp, by simp⟩, hfits, hstacked⟩, h.root⟩

theorem Sound.closeFrame {s : Scan} (h : s.Sound) : s.closeFrame.Sound := by
  unfold Scan.closeFrame
  split
  next => exact h
  next frame outer hframes =>
    obtain ⟨hframe, hfits, houter⟩ : Stacked s.line (frame :: outer) := hframes ▸ h.frames
    obtain ⟨hdistinct, hwithin⟩ := hframe.value
    have hclosed : Sound { s with frames := outer } := ⟨h.one_le, houter, h.root⟩
    exact hclosed.attach hfits hdistinct hwithin

/-- Nothing but the key of an open value changes, and whether one is expected. -/
theorem Sound.onTop {s : Scan} (h : s.Sound) {f : Frame → Frame}
    (hf : ∀ frame, ∃ key expectsKey, f frame = { frame with key, expectsKey }) :
    (s.onTop f).Sound := by
  unfold Scan.onTop
  split
  next => exact h
  next frame outer hframes =>
    obtain ⟨hframe, hfits, houter⟩ : Stacked s.line (frame :: outer) := hframes ▸ h.frames
    obtain ⟨key, expectsKey, heq⟩ := hf frame
    rw [heq]
    exact ⟨h.one_le, ⟨⟨hframe.line_le, hframe.keys, hframe.children, hframe.indices⟩, hfits, houter⟩,
      h.root⟩

theorem Sound.stringEnd {s : Scan} (h : s.Sound) (raw : List Char) : (s.stringEnd raw).Sound := by
  have hidle : Sound { s with mode := .between } := h.congr (Nat.le_refl _) rfl rfl
  unfold Scan.stringEnd
  dsimp only
  split
  · exact (hidle.onTop fun frame => ⟨_, _, rfl⟩).congr (Nat.le_add_right _ _) rfl rfl
  · exact (hidle.leaf _).congr (Nat.le_add_right _ _) rfl rfl

theorem Sound.stepBetween {s : Scan} (h : s.Sound) (c : Char) : (s.stepBetween c).Sound := by
  have hidle : Sound { s with mode := .between } := h.congr (Nat.le_refl _) rfl rfl
  unfold Scan.stepBetween
  dsimp only
  split
  · split
    · exact hidle.congr (Nat.le_succ _) rfl rfl
    · exact hidle
  split
  · exact hidle.openFrame true
  split
  · exact hidle.openFrame false
  split
  · exact hidle.closeFrame
  split
  · exact hidle.onTop fun frame => ⟨_, _, rfl⟩
  split
  · exact hidle.onTop Frame.exists_afterComma_eq
  split
  · exact hidle.congr (Nat.le_refl _) rfl rfl
  split
  · exact hidle.congr (Nat.le_refl _) rfl rfl
  · exact hidle.leaf _

/-- Whatever the next character is, the scanner stays sound. -/
theorem Sound.step {s : Scan} (h : s.Sound) (c : Char) : (s.step c).Sound := by
  unfold Scan.step
  split
  next => exact h
  next => exact h.stepBetween c
  next =>
    split
    · exact h.stepBetween c
    · exact h
  next found escaped _ =>
    split
    · exact h.congr (Nat.le_refl _) rfl rfl
    split
    · exact h.congr (Nat.le_refl _) rfl rfl
    split
    · exact h.stringEnd _
    · exact h.congr (Nat.le_refl _) rfl rfl

theorem Sound.run {s : Scan} (h : s.Sound) (cs : List Char) : (s.run cs).Sound := by
  induction cs generalizing s with
  | nil => exact h
  | cons c cs ih => exact ih (h.step c)

/-! ## Counting lines -/

open Source (lines)

/-- The line that reading has come to. The line ends of a string are counted
when the string is complete. -/
def reached (s : Scan) : Nat :=
  match s.mode with
  | .string found _ => s.line + lines found
  | _ => s.line

theorem line_le_reached (s : Scan) : s.line ≤ s.reached := by
  unfold reached
  split
  · exact Nat.le_add_right _ _
  · exact Nat.le_refl _

theorem reached_of_idle {s : Scan} (h : Idle s.mode) : s.reached = s.line := by
  unfold reached
  rcases h with h | h <;> rw [h]

theorem reached_attach (segment : Text) (value : Outline) (s : Scan) :
    (attach segment value s).reached = s.reached := by
  unfold attach
  split <;> rfl

theorem line_attach (segment : Text) (value : Outline) (s : Scan) :
    (attach segment value s).line = s.line := by
  unfold attach
  split <;> rfl

theorem line_leaf (mode : Mode) (s : Scan) : (leaf mode s).line = s.line := by
  unfold leaf
  split
  · rfl
  · exact line_attach _ _ _

theorem reached_leaf {mode : Mode} (h : Idle mode) (s : Scan) : (leaf mode s).reached = s.line := by
  unfold leaf
  split
  · rfl
  · rw [reached_attach]
    exact reached_of_idle h

theorem reached_openFrame {s : Scan} (h : Idle s.mode) (isArray : Bool) :
    (openFrame isArray s).reached = s.line := by
  unfold openFrame
  split
  · rfl
  · exact reached_of_idle h

theorem reached_closeFrame (s : Scan) : s.closeFrame.reached = s.reached := by
  unfold closeFrame
  split
  · rfl
  · exact reached_attach _ _ _

theorem reached_onTop (f : Frame → Frame) (s : Scan) : (s.onTop f).reached = s.reached := by
  unfold onTop
  split <;> rfl

theorem reached_add (s : Scan) (n : Nat) :
    ({ s with line := s.line + n } : Scan).reached = s.reached + n := by
  unfold reached
  dsimp only
  split
  · exact Nat.add_right_comm _ _ _
  · rfl

theorem reached_stringEnd (raw : List Char) (s : Scan) :
    (s.stringEnd raw).reached = s.line + lines raw := by
  have hidle : ({ s with mode := .between } : Scan).reached = s.line := rfl
  unfold stringEnd
  dsimp only
  split
  · rw [reached_add, reached_onTop, hidle, lines]
  · rw [reached_add, reached_leaf (Or.inl rfl), lines]

theorem reached_stepBetween (s : Scan) (c : Char) :
    (s.stepBetween c).reached ≤ s.line + lines [c] := by
  have hidle : Idle ({ s with mode := .between } : Scan).mode := Or.inl rfl
  have hline : ({ s with mode := .between } : Scan).reached ≤ s.line + lines [c] :=
    Nat.le_add_right _ _
  unfold stepBetween
  dsimp only
  split
  · split
    next hnewline => simp [reached, beq_iff_eq.mp hnewline]
    next => exact hline
  split
  · rw [reached_openFrame hidle]
    exact hline
  split
  · rw [reached_openFrame hidle]
    exact hline
  split
  · rw [reached_closeFrame]
    exact hline
  split
  · rw [reached_onTop]
    exact hline
  split
  · rw [reached_onTop]
    exact hline
  split
  · exact hline
  split
  · exact hline
  · rw [reached_leaf (Or.inr rfl)]
    exact hline

theorem reached_step (s : Scan) (c : Char) : (s.step c).reached ≤ s.reached + lines [c] := by
  have hline := line_le_reached s
  have hbetween := reached_stepBetween s c
  unfold step
  split
  next => omega
  next => omega
  next =>
    split
    · omega
    · omega
  next found escaped hmode =>
    have hreached : s.reached = s.line + lines found := by
      simp only [reached, hmode]
    have hcons : ∀ escaped : Bool, ({ s with mode := .string (c :: found) escaped } : Scan).reached =
        s.line + lines (c :: found) := fun _ => rfl
    have hcount : lines (c :: found) = lines [c] + lines found := Source.lines_append [c] found
    split
    · rw [hcons]
      omega
    split
    · rw [hcons]
      omega
    split
    · rw [reached_stringEnd, lines, List.count_reverse, ← lines]
      omega
    · rw [hcons]
      omega

theorem reached_run (s : Scan) (cs : List Char) : (s.run cs).reached ≤ s.reached + lines cs := by
  induction cs generalizing s with
  | nil => exact Nat.le_refl _
  | cons c cs ih =>
      have hstep := reached_step s c
      have hrest := ih (s.step c)
      have hcount : lines (c :: cs) = lines [c] + lines cs := Source.lines_append [c] cs
      rw [run_cons]
      omega

end Scan

/-! ## The outline of a text -/

theorem scanChars_within {cs : List Char} {outline : Outline} (h : scanChars cs = some outline) :
    outline.Distinct ∧ outline.Within (1 + Source.lines cs) 1 := by
  have hsound : (Scan.start.run cs).Sound := Scan.start_sound.run cs
  obtain ⟨hdistinct, hwithin⟩ := hsound.finish h
  have hline := Scan.line_le_reached (Scan.start.run cs)
  have hreached : (Scan.start.run cs).reached ≤ 1 + Source.lines cs := Scan.reached_run Scan.start cs
  exact ⟨hdistinct, hwithin.mono (Nat.le_refl 1) (Nat.le_trans hline hreached)⟩

/-- What scanning finds in any text at all: pointers that differ, among them the
root if there are any, and with each other pointer the one before its last
slash. Each line is one of the text, and none is before that of the value
around. -/
theorem positions_nested (text : String) :
    Entries.Distinct (positions text) ∧
      (positions text ≠ [] → [] ∈ (positions text).map (·.1)) ∧
      ∀ pointer line, (pointer, line) ∈ positions text →
        1 ≤ line ∧ line ≤ 1 + text.toList.count '\n' ∧
        (pointer ≠ [] → ∃ above, (Pointer.parent pointer, above) ∈ positions text ∧
          above ≤ line) := by
  cases hscan : scan text with
  | none =>
      have hnone : positions text = [] := by rw [positions, hscan]; rfl
      rw [hnone]
      exact ⟨Entries.distinct_nil, fun h => absurd rfl h, by simp⟩
  | some outline =>
      have hsome : positions text = outline.entries := by rw [positions, hscan]; rfl
      obtain ⟨hdistinct, hwithin⟩ := scanChars_within hscan
      rw [hsome]
      refine ⟨entries_distinct hdistinct, fun _ => ?_, fun pointer line hmem => ?_⟩
      · obtain ⟨start, children⟩ := outline
        simp [entries, entriesAt]
      · obtain ⟨segments, rfl, hline⟩ := (mem_entries_iff hdistinct).mp hmem
        obtain ⟨hlow, hhigh⟩ := hwithin.lineOf?_range hline
        refine ⟨hlow, hhigh, fun hne => ?_⟩
        rcases List.eq_nil_or_concat' segments with rfl | ⟨before, segment, rfl⟩
        · exact absurd rfl hne
        · obtain ⟨above, habove, hle⟩ := hwithin.exists_parent hline
          refine ⟨above, (mem_entries_iff hdistinct).mpr ⟨before, ?_, habove⟩, hle⟩
          exact Pointer.parent_ofSegments_append before segment

/-- Here brackets do not match, a key is used twice without a comma, and the text
ends inside a string. -/
example : positions "\x7b\"a\": [1\x7d\n\x7b\"b\":2, \"c\": \"" =
    [([], 1), (Text.ofString "/a", 2), (Text.ofString "/a/b", 2)] := by
  cbv

end Outline

end Conform
