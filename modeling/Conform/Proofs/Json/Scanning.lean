import Conform.Proofs.Json.Source

/-! # The scanner passes over sources

The scanner sees characters only. What it makes of the characters of a source
is the outline of the source: at every point the open frames hold exactly what
lies before that point in the containers around it.
-/

namespace Conform

open Json (Blank)

/-- The number of line ends in some characters. -/
def Source.lines (cs : List Char) : Nat := cs.count '\n'

namespace Source

@[simp] theorem lines_nil : lines [] = 0 := rfl

@[simp] theorem lines_append (cs ds : List Char) : lines (cs ++ ds) = lines cs + lines ds :=
  List.count_append

@[simp] theorem lines_cons (c : Char) (cs : List Char) :
    lines (c :: cs) = lines cs + if c = '\n' then 1 else 0 := by
  simp [lines, List.count_cons]

mutual

/-- The outline of a source whose first character stands on a line. -/
def outline (line : Nat) : Source → Outline
  | scalar _ _ => .node line []
  | string _ _ => .node line []
  | array blank items => .node line (itemOutlines (line + lines blank) 0 [] items)
  | object blank members => .node line (memberOutlines (line + lines blank) [] members)

/-- The outlines of items, the first of which has an index, before those that
are known. -/
def itemOutlines (line next : Nat) (known : List (Text × Outline)) :
    List (List Char × Source × List Char) → List (Text × Outline)
  | [] => known
  | (lead, item, trail) :: rest =>
    itemOutlines (line + lines lead + lines (chars item) + lines trail) (next + 1)
      ((Text.ofString (toString next), outline (line + lines lead) item) :: known) rest

/-- The outlines of members, put one after the other to those that are known. -/
def memberOutlines (line : Nat) (known : List (Text × Outline)) :
    List (Label × Source × List Char) → List (Text × Outline)
  | [] => known
  | (label, item, trail) :: rest =>
    memberOutlines (line + lines label.chars + lines (chars item) + lines trail)
      (Entries.put label.key (outline (line + lines label.chars) item) known) rest

end

end Source

namespace Outline

/-- An open value behind a comma. -/
def Frame.afterComma (frame : Frame) : Frame :=
  if frame.isArray then frame else { frame with expectsKey := true, key := none }

theorem Frame.exists_afterComma_eq (frame : Frame) :
    ∃ key expectsKey, frame.afterComma = { frame with key, expectsKey } := by
  unfold Frame.afterComma
  split
  · exact ⟨_, _, rfl⟩
  · exact ⟨_, _, rfl⟩

theorem Frame.give_array {frame : Frame} (h : frame.isArray = true) (segment : Text)
    (value : Outline) :
    frame.give segment value = { frame with children := (segment, value) :: frame.children } :=
  if_pos h

theorem Frame.give_object {frame : Frame} (h : frame.isArray = false) (segment : Text)
    (value : Outline) : frame.give segment value =
      { frame with children := Entries.put segment value frame.children } :=
  if_neg (Bool.eq_false_iff.mp h)

/-- Giving a value changes neither the line of an open value nor its segment. -/
@[simp] theorem Frame.give_line (segment : Text) (value : Outline) (frame : Frame) :
    (frame.give segment value).line = frame.line := by
  unfold Frame.give
  split <;> rfl

@[simp] theorem Frame.give_segment (segment : Text) (value : Outline) (frame : Frame) :
    (frame.give segment value).segment = frame.segment := by
  unfold Frame.give
  split <;> rfl

namespace Scan

open Source (lines)

/-- Reads characters one after the other. -/
def run (s : Scan) (cs : List Char) : Scan := cs.foldl step s

@[simp] theorem run_nil (s : Scan) : s.run [] = s := rfl

@[simp] theorem run_cons (s : Scan) (c : Char) (cs : List Char) :
    s.run (c :: cs) = (s.step c).run cs := rfl

theorem run_append (s : Scan) (cs ds : List Char) : s.run (cs ++ ds) = (s.run cs).run ds :=
  List.foldl_append

/-- The next character starts something new if it is not part of a word. -/
def Idle (mode : Mode) : Prop := mode = .between ∨ mode = .scalar

theorem step_of_idle {s : Scan} (hidle : Idle s.mode) {c : Char} (hends : endsScalar c = true) :
    s.step c = s.stepBetween c := by
  unfold step
  rcases hidle with hmode | hmode <;> rw [hmode]
  dsimp only
  rw [if_pos hends]

theorem step_of_between {s : Scan} (hmode : s.mode = .between) (c : Char) :
    s.step c = s.stepBetween c := by
  unfold step
  rw [hmode]

/-! ## White space -/

theorem endsScalar_of_isSpace {c : Char} (h : Json.isSpace c = true) : endsScalar c = true := by
  simp only [Json.isSpace, Bool.or_eq_true, beq_iff_eq] at h
  rcases h with ((rfl | rfl) | rfl) | rfl <;> decide

theorem stepBetween_space {s : Scan} {c : Char} (h : Json.isSpace c = true) :
    s.stepBetween c = { s with mode := .between, line := s.line + lines [c] } := by
  unfold stepBetween
  rw [if_pos h]
  by_cases hline : c = '\n'
  · subst hline
    rfl
  · have hbeq : (c == '\n') = false := beq_eq_false_iff_ne.mpr hline
    simp [hbeq, hline]

theorem run_blank {s : Scan} {blank : List Char} (hblank : Blank blank) (hidle : Idle s.mode) :
    ∃ mode, Idle mode ∧ (s.mode = .between → mode = .between) ∧
      s.run blank = { s with mode, line := s.line + lines blank } := by
  induction blank generalizing s with
  | nil => exact ⟨s.mode, hidle, id, rfl⟩
  | cons c blank ih =>
      have hspace := hblank c List.mem_cons_self
      rw [run_cons, step_of_idle hidle (endsScalar_of_isSpace hspace), stepBetween_space hspace]
      obtain ⟨mode, hmode, hbetween, hrun⟩ := ih (fun d hd => hblank d (List.mem_cons_of_mem _ hd))
        (s := { s with mode := .between, line := s.line + lines [c] }) (Or.inl rfl)
      refine ⟨mode, hmode, fun _ => hbetween rfl, ?_⟩
      rw [hrun]
      simp only [Source.lines_cons, Source.lines_nil, Nat.zero_add]
      congr 1
      omega

theorem run_blank_between {s : Scan} {blank : List Char} (hblank : Blank blank)
    (hmode : s.mode = .between) : s.run blank = { s with line := s.line + lines blank } := by
  obtain ⟨mode, _, hbetween, hrun⟩ := run_blank hblank (Or.inl hmode)
  rw [hrun, hbetween hmode, ← hmode]

/-! ## Strings -/

theorem step_string {s : Scan} {found : List Char} {c : Char} (hmode : s.mode = .string found false)
    (hquote : c ≠ '"') (hslash : c ≠ '\\') :
    s.step c = { s with mode := .string (c :: found) false } := by
  unfold step
  rw [hmode]
  simp [hquote, hslash]

theorem run_escape {s : Scan} {found : List Char} (hmode : s.mode = .string found false)
    (e : Char) : s.run ['\\', e] = { s with mode := .string (e :: '\\' :: found) false } := by
  simp [step, hmode]

/-- Characters that spell a text do not end the string they stand in. -/
theorem run_spelled {strict : Bool} {known : Text} {raw : List Char} {text : Text}
    (hspells : Json.Spells strict known raw text) {s : Scan} {found : List Char}
    (hmode : s.mode = .string found false) :
    s.run raw = { s with mode := .string (raw.reverse ++ found) false } := by
  induction hspells generalizing s found with
  | done => simp [← hmode]
  | @unicode _ a b c d _ raw _ hhex _ ih =>
      obtain ⟨haq, hbq, hcq, hdq⟩ := Json.hexFour?_ne (e := '"') hhex (by decide)
      obtain ⟨has, hbs, hcs, hds⟩ := Json.hexFour?_ne (e := '\\') hhex (by decide)
      rw [show '\\' :: 'u' :: a :: b :: c :: d :: raw = ['\\', 'u'] ++ a :: b :: c :: d :: raw
        from rfl, run_append, run_escape hmode, run_cons, step_string rfl haq has, run_cons,
        step_string rfl hbq hbs, run_cons, step_string rfl hcq hcs, run_cons,
        step_string rfl hdq hds, ih rfl]
      simp
  | @escape _ e _ raw _ _ _ ih =>
      rw [show '\\' :: e :: raw = ['\\', e] ++ raw from rfl, run_append, run_escape hmode, ih rfl]
      simp
  | plain hquote hslash _ _ ih =>
      rw [run_cons, step_string hmode hquote hslash, ih rfl]
      simp

/-- A string between its quotes is complete at the second one. -/
theorem run_quoted {strict : Bool} {raw : List Char} {text : Text}
    (hspells : Json.Spells strict [] raw text) {s : Scan} (hmode : s.mode = .between) :
    s.run ('"' :: raw ++ ['"']) = s.stringEnd raw := by
  have hopen : s.step '"' = { s with mode := .string [] false } := by
    rw [step_of_between hmode]
    rfl
  have hclose : ({ s with mode := .string raw.reverse false } : Scan).step '"' =
      s.stringEnd raw := by
    simp [step, stringEnd]
  rw [List.cons_append, run_cons, hopen, run_append, run_spelled hspells rfl, List.append_nil,
    run_cons, hclose, run_nil]

theorem keyOf_eq {strict : Bool} {raw : List Char} {text : Text}
    (hspells : Json.Spells strict [] raw text) : keyOf raw = text := by
  unfold keyOf
  rw [hspells.relaxed.stringBody_eq []]

/-! ## Brackets and separators -/

/-- A string that starts now would be a key. -/
def ExpectsKey (s : Scan) : Prop :=
  ∃ frame ∈ s.frames.head?, frame.isArray = false ∧ frame.expectsKey = true

theorem stringEnd_value {s : Scan} {raw : List Char} {segment : Text} {frames : List Frame}
    (hkey : ¬s.ExpectsKey) (hslot : s.slot? = some (segment, frames)) :
    s.stringEnd raw = attach segment (.node s.line [])
      { s with mode := .between, line := s.line + lines raw, frames } := by
  have hleaf : leaf .between { s with mode := .between } =
      attach segment (.node s.line []) { s with mode := .between, frames } := by
    have hslot' : ({ s with mode := .between } : Scan).slot? = some (segment, frames) := hslot
    rw [leaf, hslot']
  have hend : s.stringEnd raw =
      { leaf .between { s with mode := .between } with
        line := (leaf .between { s with mode := .between }).line + lines raw } := by
    unfold stringEnd
    cases hframes : s.frames with
    | nil => rfl
    | cons frame outer =>
        have hno : (!frame.isArray && frame.expectsKey) = false := by
          simpa [ExpectsKey, hframes] using hkey
        simp only [hno, Bool.false_eq_true, if_false]
        rfl
  rw [hend, hleaf]
  cases frames <;> rfl

theorem stringEnd_key {s : Scan} {raw : List Char} {frame : Frame} {outer : List Frame}
    (hframes : s.frames = frame :: outer) (harray : frame.isArray = false)
    (hkey : frame.expectsKey = true) :
    s.stringEnd raw = { s with
      mode := .between, line := s.line + lines raw,
      frames := { frame with key := some (keyOf raw) } :: outer } := by
  simp [stringEnd, onTop, hframes, harray, hkey, lines]

theorem step_open {s : Scan} {c : Char} {isArray : Bool} {segment : Text} {frames : List Frame}
    (hmode : s.mode = .between) (hslot : s.slot? = some (segment, frames))
    (hc : c = '[' ∧ isArray = true ∨ c = '\x7b' ∧ isArray = false) :
    s.step c = { s with frames := ⟨isArray, segment, s.line, [], 0, none, true⟩ :: frames } := by
  have hopen : s.step c = openFrame isArray { s with mode := .between } := by
    rw [step_of_between hmode]
    rcases hc with ⟨rfl, rfl⟩ | ⟨rfl, rfl⟩ <;> rfl
  have hslot' : ({ s with mode := .between } : Scan).slot? = some (segment, frames) := hslot
  rw [hopen]
  simp [openFrame, hslot', hmode]

theorem step_close {s : Scan} {c : Char} {frame : Frame} {outer : List Frame} (hidle : Idle s.mode)
    (hframes : s.frames = frame :: outer) (hc : c = ']' ∨ c = '\x7d') :
    s.step c = attach frame.segment frame.value { s with mode := .between, frames := outer } := by
  have hclose : s.step c = closeFrame { s with mode := .between } := by
    rcases hc with rfl | rfl <;> rw [step_of_idle hidle (by decide)] <;> rfl
  rw [hclose]
  simp [closeFrame, hframes]

theorem step_colon {s : Scan} {frame : Frame} {outer : List Frame} (hmode : s.mode = .between)
    (hframes : s.frames = frame :: outer) :
    s.step ':' = { s with frames := { frame with expectsKey := false } :: outer } := by
  have hcolon : s.step ':' =
      onTop (fun frame => { frame with expectsKey := false }) { s with mode := .between } := by
    rw [step_of_between hmode]
    rfl
  rw [hcolon]
  simp [onTop, hframes, hmode]

theorem step_comma {s : Scan} {frame : Frame} {outer : List Frame} (hidle : Idle s.mode)
    (hframes : s.frames = frame :: outer) :
    s.step ',' = { s with mode := .between, frames := frame.afterComma :: outer } := by
  have hcomma : s.step ',' = onTop Frame.afterComma { s with mode := .between } := by
    rw [step_of_idle hidle (by decide)]
    rfl
  rw [hcomma]
  simp [onTop, hframes]

/-! ## Words and numbers -/

theorem run_unbroken {s : Scan} {cs : List Char} (hunbroken : Json.Unbroken cs)
    (hmode : s.mode = .scalar) : s.run cs = s := by
  induction cs with
  | nil => rfl
  | cons c cs ih =>
      have hstep : s.step c = s := by
        unfold step
        rw [hmode]
        simp [hunbroken c List.mem_cons_self]
      rw [run_cons, hstep, ih fun d hd => hunbroken d (List.mem_cons_of_mem _ hd)]

theorem stepBetween_unended {s : Scan} {c : Char} (hends : endsScalar c = false) :
    s.stepBetween c = leaf .scalar { s with mode := .between } := by
  have hspace : Json.isSpace c = false := by
    rw [Bool.eq_false_iff]
    intro hspace
    rw [endsScalar_of_isSpace hspace] at hends
    cases hends
  have hne : ∀ d : Char, endsScalar d = true → (c == d) = false := by
    intro d hd
    rw [beq_eq_false_iff_ne]
    rintro rfl
    rw [hd] at hends
    cases hends
  unfold stepBetween
  simp only [hspace, hne '[' (by decide), hne '\x7b' (by decide), hne ']' (by decide),
    hne '\x7d' (by decide), hne ':' (by decide), hne ',' (by decide), hne '"' (by decide), hends,
    Bool.or_self, Bool.false_eq_true, if_false]

theorem run_scalar {s : Scan} {cs : List Char} {segment : Text} {frames : List Frame}
    (hne : cs ≠ []) (hunbroken : Json.Unbroken cs) (hmode : s.mode = .between)
    (hslot : s.slot? = some (segment, frames)) :
    s.run cs = attach segment (.node s.line []) { s with mode := .scalar, frames } := by
  obtain ⟨c, cs, rfl⟩ := List.exists_cons_of_ne_nil hne
  have hslot' : ({ s with mode := .between } : Scan).slot? = some (segment, frames) := hslot
  rw [run_cons, step_of_between hmode, stepBetween_unended (hunbroken c List.mem_cons_self), leaf,
    hslot']
  refine run_unbroken (fun d hd => hunbroken d (List.mem_cons_of_mem _ hd)) ?_
  unfold attach
  cases frames <;> rfl

/-! ## Labels -/

/-- Behind a label, the value of a member is to come. -/
theorem run_label {s : Scan} {label : Source.Label} {frame : Frame} {outer : List Frame}
    (hlabel : label.WellFormed) (hmode : s.mode = .between) (hframes : s.frames = frame :: outer)
    (harray : frame.isArray = false) (hkey : frame.expectsKey = true) :
    s.run label.chars = { s with
      line := s.line + lines label.chars,
      frames := { frame with key := some label.key, expectsKey := false } :: outer } := by
  have hchars : label.chars = label.lead ++ (('"' :: label.raw ++ ['"']) ++
      (label.beforeColon ++ ([':'] ++ label.afterColon))) := by
    simp [Source.Label.chars, Source.Label.body]
  rw [hchars, run_append, run_blank_between hlabel.lead hmode, run_append,
    run_quoted hlabel.raw (by exact hmode), stringEnd_key (by exact hframes) harray hkey, keyOf_eq hlabel.raw,
    run_append, run_blank_between hlabel.beforeColon rfl, run_append, run_cons, step_colon rfl rfl,
    run_nil, run_blank_between hlabel.afterColon rfl]
  simp [hmode, Nat.add_assoc]

/-! ## Values -/

theorem run_comma_item {s : Scan} {frame : Frame} {outer : List Frame} {comma : List Char}
    (hframes : s.frames = frame :: outer) (harray : frame.isArray = true)
    (hcomma : comma = [] ∧ s.mode = .between ∨ comma = [','] ∧ Idle s.mode) :
    s.run comma = { s with mode := .between } := by
  rcases hcomma with ⟨rfl, hmode⟩ | ⟨rfl, hidle⟩
  · rw [run_nil, ← hmode]
  · rw [run_cons, run_nil, step_comma hidle hframes, Frame.afterComma, if_pos harray, ← hframes]

theorem run_comma_member {s : Scan} {frame : Frame} {outer : List Frame} {comma : List Char}
    (hframes : s.frames = frame :: outer) (harray : frame.isArray = false)
    (hcomma : comma = [] ∧ s.mode = .between ∧ frame.expectsKey = true ∨
      comma = [','] ∧ Idle s.mode) :
    ∃ key, s.run comma = { s with
      mode := .between, frames := { frame with key, expectsKey := true } :: outer } := by
  rcases hcomma with ⟨rfl, hmode, hkey⟩ | ⟨rfl, hidle⟩
  · refine ⟨frame.key, ?_⟩
    rw [run_nil, ← hmode, ← hkey, ← hframes]
  · refine ⟨none, ?_⟩
    rw [run_cons, run_nil, step_comma hidle hframes, Frame.afterComma, if_neg (by simp [harray])]

/-- The state after a value that starts in some state: it is given to the open
value around it. -/
def Receives (s t : Scan) (segment : Text) (frames : List Frame) (source : Source) : Prop :=
  ∃ mode, Idle mode ∧ t = attach segment (source.outline s.line)
    { s with mode, line := s.line + lines source.chars, frames }

theorem Receives.run_blank {s t : Scan} {segment : Text} {frame : Frame} {outer : List Frame}
    {source : Source} {trail : List Char} (h : Receives s t segment (frame :: outer) source)
    (htrail : Blank trail) :
    ∃ mode, Idle mode ∧ t.run trail = { s with
      mode, line := s.line + lines source.chars + lines trail,
      frames := frame.give segment (source.outline s.line) :: outer } := by
  obtain ⟨mode, hmode, rfl⟩ := h
  obtain ⟨mode', hmode', _, hrun⟩ := Scan.run_blank htrail (s := attach segment
    (source.outline s.line)
    { s with mode, line := s.line + lines source.chars, frames := frame :: outer }) hmode
  exact ⟨mode', hmode', hrun⟩

mutual

/-- A value is passed over as a whole. -/
theorem run_chars (source : Source) (hform : source.Spelled) {s : Scan} {segment : Text}
    {frames : List Frame} (hmode : s.mode = .between) (hslot : s.slot? = some (segment, frames))
    (hkey : ¬s.ExpectsKey) : Receives s (s.run source.chars) segment frames source := by
  match source, hform with
  | .scalar cs content, hscalar =>
      obtain ⟨hne, hunbroken⟩ := hscalar.unbroken
      refine ⟨.scalar, Or.inr rfl, ?_⟩
      rw [Source.chars, run_scalar hne hunbroken hmode hslot]
      simp [Source.outline, lines, hunbroken.count_newline]
  | .string raw text, hspells =>
      refine ⟨.between, Or.inl rfl, ?_⟩
      rw [Source.chars, run_quoted hspells hmode, stringEnd_value hkey hslot]
      simp [Source.outline]
  | .array blank items, ⟨hblank, hitems⟩ =>
      -- The array is on top while its items are scanned; closing gives it to the frame below.
      have hopen := step_open (c := '[') hmode hslot (Or.inl ⟨rfl, rfl⟩)
      obtain ⟨mode, hidle, hrun⟩ := run_itemChars items hitems
        (s := { s with
          line := s.line + lines blank, frames := ⟨true, segment, s.line, [], 0, none, true⟩ :: frames })
        rfl rfl (Or.inl ⟨rfl, hmode⟩)
      refine ⟨.between, Or.inl rfl, ?_⟩
      rw [Source.chars, List.append_assoc, List.cons_append, run_cons, hopen, run_append,
        run_blank_between hblank (by exact hmode), run_append, hrun, run_cons,
        step_close hidle rfl (Or.inl rfl), run_nil]
      simp [Source.outline, Frame.value, Nat.add_assoc]
  | .object blank members, ⟨hblank, hmembers⟩ =>
      have hopen := step_open (c := '\x7b') hmode hslot (Or.inr ⟨rfl, rfl⟩)
      obtain ⟨mode, key, expectsKey, hidle, hrun⟩ := run_memberChars members hmembers
        (s := { s with
          line := s.line + lines blank, frames := ⟨false, segment, s.line, [], 0, none, true⟩ :: frames })
        rfl rfl (Or.inl ⟨rfl, hmode, rfl⟩)
      refine ⟨.between, Or.inl rfl, ?_⟩
      rw [Source.chars, List.append_assoc, List.cons_append, run_cons, hopen, run_append,
        run_blank_between hblank (by exact hmode), run_append, hrun, run_cons,
        step_close hidle rfl (Or.inr rfl), run_nil]
      simp [Source.outline, Frame.value, Nat.add_assoc]
  termination_by sizeOf source

/-- Items are given to the open array one after the other. -/
theorem run_itemChars (items : List (List Char × Source × List Char))
    (hform : Source.ItemsSpelled items) {s : Scan} {frame : Frame} {outer : List Frame}
    {comma : List Char} (hframes : s.frames = frame :: outer) (harray : frame.isArray = true)
    (hcomma : comma = [] ∧ s.mode = .between ∨ comma = [','] ∧ Idle s.mode) :
    ∃ mode, Idle mode ∧ s.run (Source.itemChars comma items) = { s with
      mode, line := s.line + lines (Source.itemChars comma items),
      frames := { frame with
        children := Source.itemOutlines s.line frame.next frame.children items,
        next := frame.next + items.length } :: outer } := by
  match items, hform with
  | [], _ =>
      refine ⟨s.mode, ?_, ?_⟩
      · exact hcomma.elim (fun h => Or.inl h.2) (fun h => h.2)
      · simp [Source.itemChars, Source.itemOutlines, ← hframes]
  | (lead, item, trail) :: rest, ⟨hlead, hitem, htrail, hrest⟩ =>
      have hslot : ({ s with mode := .between, line := s.line + lines lead } : Scan).slot? =
          some (Text.ofString (toString frame.next),
            { frame with next := frame.next + 1 } :: outer) := by
        simp [slot?, hframes, harray]
      obtain ⟨mode, hmode, hvalue⟩ :=
        (run_chars item hitem rfl hslot (by simp [ExpectsKey, hframes, harray])).run_blank htrail
      obtain ⟨mode', hmode', hrun⟩ := run_itemChars rest hrest (s := { s with
          mode,
          line := s.line + lines lead + lines item.chars + lines trail,
          frames := { frame with
            children := (Text.ofString (toString frame.next),
              item.outline (s.line + lines lead)) :: frame.children,
            next := frame.next + 1 } :: outer })
        rfl harray (Or.inr ⟨rfl, hmode⟩)
      refine ⟨mode', hmode', ?_⟩
      rw [Source.itemChars]
      simp only [List.append_assoc]
      rw [run_append, run_comma_item hframes harray hcomma, run_append, run_blank_between hlead rfl,
        run_append, run_append, hvalue, Frame.give_array (by exact harray), hrun]
      have hline : lines comma = 0 := by
        rcases hcomma with ⟨rfl, _⟩ | ⟨rfl, _⟩ <;> rfl
      simp [Source.itemOutlines, hline, Nat.add_assoc, Nat.add_comm 1]
  termination_by sizeOf items

/-- Members are given to the open object one after the other. -/
theorem run_memberChars (members : List (Source.Label × Source × List Char))
    (hform : Source.MembersSpelled members) {s : Scan} {frame : Frame} {outer : List Frame}
    {comma : List Char} (hframes : s.frames = frame :: outer) (harray : frame.isArray = false)
    (hcomma : comma = [] ∧ s.mode = .between ∧ frame.expectsKey = true ∨
      comma = [','] ∧ Idle s.mode) :
    ∃ mode key expectsKey, Idle mode ∧
      s.run (Source.memberChars comma members) = { s with
        mode, line := s.line + lines (Source.memberChars comma members),
        frames := { frame with
          children := Source.memberOutlines s.line frame.children members,
          key, expectsKey } :: outer } := by
  match members, hform with
  | [], _ =>
      refine ⟨s.mode, frame.key, frame.expectsKey, ?_, ?_⟩
      · exact hcomma.elim (fun h => Or.inl h.2.1) (fun h => h.2)
      · simp [Source.memberChars, Source.memberOutlines, ← hframes]
  | (label, item, trail) :: rest, ⟨hlabel, hitem, htrail, hrest⟩ =>
      -- Behind the comma a string is a label again, whatever the last member was.
      obtain ⟨key, hcommaRun⟩ := run_comma_member hframes harray hcomma
      have hslot : ({ s with
            mode := .between, line := s.line + lines label.chars,
            frames := { frame with key := some label.key, expectsKey := false } :: outer } :
          Scan).slot? = some (label.key,
            { frame with key := some label.key, expectsKey := false } :: outer) := by
        simp [slot?, harray]
      obtain ⟨mode, hmode, hvalue⟩ :=
        (run_chars item hitem rfl hslot (by simp [ExpectsKey])).run_blank htrail
      obtain ⟨mode', key', expectsKey', hmode', hrun⟩ := run_memberChars rest hrest (s := { s with
          mode,
          line := s.line + lines label.chars + lines item.chars + lines trail,
          frames := { frame with
            children := Entries.put label.key (item.outline (s.line + lines label.chars))
              frame.children,
            key := some label.key, expectsKey := false } :: outer })
        rfl harray (Or.inr ⟨rfl, hmode⟩)
      refine ⟨mode', key', expectsKey', hmode', ?_⟩
      rw [Source.memberChars]
      simp only [List.append_assoc]
      rw [run_append, hcommaRun, run_append, run_label hlabel rfl rfl (by exact harray) rfl,
        run_append, run_append, hvalue, Frame.give_object (by exact harray), hrun]
      have hline : lines comma = 0 := by
        rcases hcomma with ⟨rfl, _⟩ | ⟨rfl, _⟩ <;> rfl
      simp [Source.memberOutlines, hline, Nat.add_assoc]
  termination_by sizeOf members

end

end Scan

/-- The outline of a text that a source is written as is that of the source. -/
theorem scanChars_of_writes {source : Source} {lead text : List Char}
    (hwrites : source.Writes lead text) :
    scanChars text = some (source.outline (1 + Source.lines lead)) := by
  obtain ⟨trail, htrail, rfl⟩ := hwrites.text_eq
  let opened : Scan := ⟨1 + Source.lines lead, .between, none, []⟩
  have hlead : Scan.start.run lead = opened := Scan.run_blank_between hwrites.lead_blank rfl
  obtain ⟨mode, hmode, hvalue⟩ := Scan.run_chars source hwrites.wellFormed.spelled rfl
    (show opened.slot? = some ([], []) from rfl) (by simp [opened, Scan.ExpectsKey])
  obtain ⟨_, _, _, hrun⟩ := Scan.run_blank htrail (s := opened.run source.chars)
    (by rw [hvalue]; exact hmode)
  have hscan : (lead ++ source.chars ++ trail).foldl Scan.step Scan.start =
      ((Scan.start.run lead).run source.chars).run trail := by
    simp only [Scan.run, List.foldl_append]
  rw [scanChars, hscan, hlead, hrun, hvalue]
  rfl

end Outline

end Conform
