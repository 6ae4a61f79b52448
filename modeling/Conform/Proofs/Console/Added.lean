import Conform.Proofs.Console.Styles
import Conform.Session.Sink

/-! # Diagnostics that are shown as they are added

The path and the message of a diagnostic are escaped one by one and shown with the
line between them. A bracket that is open at the end of the path may be closed by
the message, and then what stands between the two is a tag. Nothing is shown if it
is a closing tag that takes effect.
-/

namespace Conform

namespace Markup

variable {cs other : List Char} {c : Char}

/-! ## Tags that bridge two texts -/

/-- A tag with backslashes in front of it starts in one text and ends in another one. -/
structure Bridges (k : Nat) (c : Char) (cs other : List Char) : Prop where
  opens : ∃ before after, cs = before ++ (slashes k ++ '[' :: c :: after) ∧
    before.getLast? ≠ some '\\' ∧ startsTag c = true ∧ ∀ d ∈ after, isBracket d = false
  closes : Closes other

theorem crosses_iff : Crosses cs other ↔ ∃ k c, Bridges k c cs other := by
  constructor
  · rintro ⟨⟨before, after, rfl, ⟨c, hc, hstarts⟩, hafter⟩, hcloses⟩
    obtain ⟨before, k, rfl, hbefore⟩ := exists_eq_append_slashes before
    cases after with
    | nil => cases hc
    | cons d after =>
        cases hc
        exact ⟨k, _, ⟨before, after, List.append_assoc .., hbefore, hstarts,
          (List.forall_mem_cons.mp hafter).2⟩, hcloses⟩
  · rintro ⟨k, c, ⟨before, after, rfl, -, hstarts, hafter⟩, hcloses⟩
    exact ⟨⟨before ++ slashes k, c :: after, (List.append_assoc ..).symm, ⟨c, rfl, hstarts⟩,
      List.forall_mem_cons.mpr ⟨isBracket_of_startsTag hstarts, hafter⟩⟩, hcloses⟩

theorem bridges_append_backslash_iff {k : Nat} :
    Bridges k c (cs ++ ['\\']) other ↔ Bridges k c cs other := by
  constructor
  · rintro ⟨⟨before, after, heq, hbefore, hstarts, hafter⟩, hcloses⟩
    refine ⟨?_, hcloses⟩
    rcases List.eq_nil_or_concat after with rfl | ⟨after, last, rfl⟩
    · have hlast := congrArg List.getLast? heq
      simp only [List.getLast?_append, List.getLast?_cons_cons, List.getLast?_singleton,
        Option.some_or, Option.some.injEq] at hlast
      exact absurd hlast.symm (ne_of_startsTag hstarts (not_startsTag_of_mem (by decide)))
    · have hsplit : cs ++ ['\\'] = before ++ (slashes k ++ '[' :: c :: after) ++ [last] := by
        rw [heq]
        simp
      exact ⟨before, after, List.append_inj_left' hsplit rfl, hbefore, hstarts,
        fun d hd => hafter d (by simp [hd])⟩
  · rintro ⟨⟨before, after, rfl, hbefore, hstarts, hafter⟩, hcloses⟩
    refine ⟨⟨before, after ++ ['\\'], by simp, hbefore, hstarts, ?_⟩, hcloses⟩
    intro d hd
    rcases List.mem_append.mp hd with hd | hd
    · exact hafter d hd
    · rw [List.mem_singleton.mp hd]
      rfl

theorem bridges_append_slashes_iff {k : Nat} (m n : Nat) :
    Bridges k c (cs ++ slashes m) (other ++ slashes n) ↔ Bridges k c cs other := by
  have hother : ∀ cs, Bridges k c cs (other ++ slashes n) ↔ Bridges k c cs other := fun cs =>
    ⟨fun h => ⟨h.opens, (closes_append_slashes_iff n).mp h.closes⟩,
      fun h => ⟨h.opens, (closes_append_slashes_iff n).mpr h.closes⟩⟩
  rw [hother]
  induction m with
  | zero => rw [slashes, List.replicate_zero, List.append_nil]
  | succ m ih =>
      rw [slashes, List.replicate_succ', ← List.append_assoc, bridges_append_backslash_iff]
      exact ih

theorem exists_guardEnd_eq (cs : List Char) : ∃ n, guardEnd cs = cs ++ slashes n := by
  obtain ⟨before, k, rfl, hbefore⟩ := exists_eq_append_slashes cs
  rw [guardEnd_slashes hbefore]
  split
  next hk => exact ⟨1, by rw [hk, List.append_assoc]; rfl⟩
  next => exact ⟨0, (List.append_nil _).symm⟩

/-- Guarding the ends of two texts opens and closes no brackets. -/
theorem bridges_guardEnd_iff {k : Nat} :
    Bridges k c (guardEnd cs) (guardEnd other) ↔ Bridges k c cs other := by
  obtain ⟨m, hm⟩ := exists_guardEnd_eq cs
  obtain ⟨n, hn⟩ := exists_guardEnd_eq other
  rw [hm, hn, bridges_append_slashes_iff]

end Markup

/-! ## What is shown of a diagnostic -/

namespace Display

open Markup

/-- What stands between the path and the message of a diagnostic. -/
def between (line : Nat) : List Char := ':' :: ((toString line).toList ++ [' '])

theorem mem_between {line : Nat} {c : Char} (h : c ∈ between line) :
    c = ':' ∨ c = ' ' ∨ c.isDigit = true := by
  rcases List.mem_cons.mp h with hc | hc
  · exact Or.inl hc
  · rcases List.mem_append.mp hc with hc | hc
    · exact Or.inr (Or.inr (isDigit_of_mem_toString hc))
    · exact Or.inr (Or.inl (List.mem_singleton.mp hc))

theorem ne_of_mem_between {line : Nat} {c d : Char} (h : c ∈ between line)
    (hd : d ∈ ['[', ']', '\\', '\t']) : c ≠ d := by
  have hall : (['[', ']', '\\', '\t'].all fun d => d != ':' && d != ' ' && !d.isDigit) = true := by
    decide
  have hother := List.all_eq_true.mp hall d hd
  simp only [Bool.and_eq_true, bne_iff_ne, Bool.not_eq_true'] at hother
  obtain ⟨⟨hcolon, hspace⟩, hdigit⟩ := hother
  rintro rfl
  rcases mem_between h with hc | hc | hc
  · exact hcolon hc
  · exact hspace hc
  · rw [hc] at hdigit
    cases hdigit

theorem isBracket_of_mem_between {line : Nat} {c : Char} (h : c ∈ between line) :
    isBracket c = false :=
  isBracket_eq_false_iff.mpr ⟨ne_of_mem_between h (by decide), ne_of_mem_between h (by decide)⟩

variable {path message : List Char} {line : Nat}

theorem closes_between_append_iff : Closes (between line ++ message) ↔ Closes message := by
  have hfree : ∀ c ∈ between line, isBracket c = false := fun _ => isBracket_of_mem_between
  rw [closes_append_iff]
  exact ⟨fun h => (h.resolve_left (not_closes_of_unbracketed hfree)).2, fun h => Or.inr ⟨hfree, h⟩⟩

theorem crosses_between_iff :
    Crosses path (between line ++ message) ↔ ∃ k c, Bridges k c path message := by
  rw [← crosses_iff]
  exact ⟨fun h => ⟨h.opens, closes_between_append_iff.mp h.closes⟩,
    fun h => ⟨h.opens, closes_between_append_iff.mpr h.closes⟩⟩

theorem stands_between (line : Nat) (message : List Char) : Stands (between line ++ message) :=
  stands_other 0 (by decide) (by decide) (tagAt?_eq_none_iff.mpr fun h => absurd h.1 (by decide))

/-- A separator needs no escaping. -/
theorem escapedFrom_between (line : Nat) (message : List Char) :
    escapedFrom 0 (between line ++ message) = between line ++ escapedFrom 0 message := by
  have hfree := fun c => @ne_of_mem_between line c
  generalize between line = separator at hfree
  induction separator with
  | nil => rfl
  | cons c separator ih =>
      have htag : tagAt? (c :: (separator ++ message)) = none :=
        tagAt?_eq_none_iff.mpr fun h => hfree c (d := '[') List.mem_cons_self (by decide) h.1
      rw [List.cons_append, escapedFrom_other (hfree c List.mem_cons_self (by decide)) htag,
        ih fun c d hc => hfree c (List.mem_cons_of_mem _ hc)]
      rfl

/-- A path and a message, escaped one by one, are escaped together if no tag bridges them. -/
theorem escapedFrom_placed (h : ∀ k c, ¬Bridges k c path message) :
    escapedFrom 0 path ++ (between line ++ escapedFrom 0 message) =
      escapedFrom 0 (path ++ (between line ++ message)) := by
  have hcross : ¬Crosses path (between line ++ message) := by
    rw [crosses_between_iff]
    rintro ⟨k, c, hbridges⟩
    exact h k c hbridges
  rw [escapedFrom_append hcross (stands_between line message), escapedFrom_between]

/-- A tag that bridges a path and a message is the only one that is not escaped. -/
theorem exists_piecesFrom_of_bridges {k : Nat} {c : Char} (h : Bridges k c path message)
    (line : Nat) :
    ∃ (ps : List Piece) (body : List Char) (qs : List Piece),
      piecesFrom 0 0 (escapedFrom 0 path ++ (between line ++ escapedFrom 0 message)) =
        ps.map Piece.disarmed ++ .tag k (c :: body) :: qs.map Piece.disarmed := by
  obtain ⟨⟨before, after, rfl, hbefore, hstarts, hafter⟩, hcloses⟩ := h
  obtain ⟨first, last, rfl, hfirst⟩ := closes_iff.mp hcloses
  have hopening : ∀ d ∈ c :: after, isBracket d = false :=
    List.forall_mem_cons.mpr ⟨isBracket_of_startsTag hstarts, hafter⟩
  have hbody : IsBody (c :: (after ++ (between line ++ first))) := by
    refine ⟨⟨c, rfl, hstarts⟩, fun d hd => ?_⟩
    rw [← List.cons_append, List.mem_append, List.mem_append] at hd
    rcases hd with hd | hd | hd
    · exact hopening d hd
    · exact isBracket_of_mem_between hd
    · exact hfirst d hd
  have hsplit : escapedFrom 0 before ++ (slashes k ++ '[' :: c :: after) ++
      (between line ++ (first ++ ']' :: escapedFrom 0 last)) =
        escapedFrom 0 before ++ (slashes k ++
          (enclosed (c :: (after ++ (between line ++ first))) ++ escapedFrom 0 last)) := by
    simp [enclosed]
  rw [escapedFrom_opening before k hopening, escapedFrom_closing hfirst, hsplit,
    piecesFrom_append_enclosed k (getLast?_escapedFrom_ne hbefore) (fun _ => rfl) hbody,
    piecesFrom_escapedFrom, piecesFrom_escapedFrom]
  exact ⟨_, _, _, rfl⟩

/-- A path and a message that were escaped can be shown unless they are bridged by a closing tag
that takes effect. -/
theorem exists_renderPieces_iff :
    (∃ shown, renderPieces []
        (piecesFrom 0 0 (escapedFrom 0 path ++ (between line ++ escapedFrom 0 message))) =
          .ok shown) ↔
      ¬∃ k, Bridges (2 * k) '/' path message := by
  constructor
  · rintro ⟨shown, hshown⟩ ⟨k, hbridges⟩
    obtain ⟨ps, body, qs, hpieces⟩ := exists_piecesFrom_of_bridges hbridges line
    have heven : ¬2 * k % 2 = 1 := by omega
    rw [hpieces, renderPieces_disarmed, renderPieces, if_neg heven, turn_closing_nil] at hshown
    cases hshown
  · intro hclosing
    by_cases hbridged : ∃ k c, Bridges k c path message
    · obtain ⟨k, c, hbridges⟩ := hbridged
      obtain ⟨ps, body, qs, hpieces⟩ := exists_piecesFrom_of_bridges hbridges line
      have hrest := fun openStyles => renderPieces_disarmed openStyles qs []
      simp only [List.append_nil] at hrest
      rw [hpieces, renderPieces_disarmed, renderPieces]
      by_cases hk : k % 2 = 1
      · rw [if_pos hk, hrest]
        exact ⟨_, rfl⟩
      · have hc : (c :: body).head? ≠ some '/' := by
          intro heq
          cases heq
          exact hclosing ⟨k / 2, by rwa [Nat.mul_div_cancel' (by omega)]⟩
        obtain ⟨name, hturn⟩ := exists_turn_of_opening hc []
        rw [if_neg hk, hturn]
        dsimp only
        rw [hrest]
        exact ⟨_, rfl⟩
    · have hnone : ∀ k c, ¬Bridges k c path message := fun k c h => hbridged ⟨k, c, h⟩
      rw [escapedFrom_placed hnone, piecesFrom_escapedFrom,
        ← List.append_nil (List.map _ _), renderPieces_disarmed]
      exact ⟨_, rfl⟩

/-- A path and a message that were escaped are shown as they are, if they are plain and not bridged
by a tag. -/
theorem renderPieces_placed (hbridges : ∀ k c, ¬Bridges k c path message)
    (hplain : IsPlain (path ++ (between line ++ message))) :
    renderPieces []
        (piecesFrom 0 0 (escapedFrom 0 path ++ (between line ++ escapedFrom 0 message))) =
      .ok (path ++ (between line ++ message)) := by
  rw [escapedFrom_placed hbridges, piecesFrom_escapedFrom, ← List.append_nil (List.map _ _),
    renderPieces_disarmed, hplain.flatMap_shown, renderPieces, Except.map, List.append_nil]

/-! ## The whole line -/

theorem isStyleName (severity : Severity) : IsStyleName severity.style.toList := by
  cases severity <;> exact isStyleName_of_all (by decide) (by decide)

/-- The severity is shown in front of the rest of the line, and its style is closed there. -/
theorem renderPieces_severity (severity : Severity) (rest : List Char) :
    renderPieces [] (piecesFrom 0 0 (enclosed severity.style.toList ++ (severity.text.toList ++
        (enclosed ('/' :: severity.style.toList) ++ ([' '] ++ rest))))) =
      (renderPieces [] (piecesFrom 0 0 rest)).map (severity.text.toList ++ [' '] ++ ·) := by
  have hstyle := isStyleName severity
  have hclosed := hstyle.turn_closing (List.mem_singleton.mpr rfl)
  rw [List.erase_cons_head] at hclosed
  rw [renderPieces_enclosed hstyle.toIsBody (hstyle.turn_opening []),
    renderPieces_append (all_isOrdinary_severity severity),
    renderPieces_enclosed hstyle.closing hclosed, renderPieces_append (by decide)]
  cases renderPieces [] (piecesFrom 0 0 rest) <;> simp [Except.map]

variable {d : Diagnostic} {file : FilePath} {root : Option FilePath}

/-- What is shown of a diagnostic before it is put between pieces. -/
theorem toList_addedText (d : Diagnostic) (file : FilePath) (root : Option FilePath) :
    (addedText d file root).toList = enclosed d.severity.style.toList ++ (d.severity.text.toList ++
      (enclosed ('/' :: d.severity.style.toList) ++ ([' '] ++
        (escapedFrom 0 (guardEnd (file.shown root).toList) ++
          (between d.line ++ escapedFrom 0 (guardEnd d.message.toList)))))) := by
  simp [addedText, toList_escape, enclosed, between]

theorem render_addedText (d : Diagnostic) (file : FilePath) (root : Option FilePath) :
    render (addedText d file root) =
      (renderPieces [] (piecesFrom 0 0 (escapedFrom 0 (guardEnd (file.shown root).toList) ++
          (between d.line ++ escapedFrom 0 (guardEnd d.message.toList))))).map fun shown =>
        String.ofList
          ((d.severity.text.toList ++ [' '] ++ shown).filter fun c => !isControl c) := by
  have hbracket : (addedText d file root).toList.contains '[' = true := by
    rw [toList_addedText, enclosed]
    simp
  rw [render, if_pos hbracket, pieces, toList_addedText, renderPieces_severity]
  cases renderPieces [] (piecesFrom 0 0 _) <;> rfl

/-- A diagnostic can be shown unless its path and its message are bridged by a closing tag that
takes effect. -/
theorem exists_printed_addedText_iff :
    (∃ text, Layout.printed (addedText d file root) = .ok text) ↔
      ¬∃ k, Bridges (2 * k) '/' (file.shown root).toList d.message.toList := by
  have hguarded := @bridges_guardEnd_iff (file.shown root).toList d.message.toList '/'
  simp only [← hguarded]
  rw [← @exists_renderPieces_iff _ _ d.line, Layout.printed, render_addedText]
  cases renderPieces [] (piecesFrom 0 0 _) <;> simp [Except.map]

/-- The text does not end with a single backslash. -/
def IsGuarded (cs : List Char) : Prop :=
  ∀ before, cs = before ++ ['\\'] → before.getLast? = some '\\'

theorem isGuarded_of_not_mem {cs : List Char} (h : '\\' ∉ cs) : IsGuarded cs := by
  rintro before rfl
  exact absurd (by simp) h

theorem guardEnd_eq_self {cs : List Char} (h : IsGuarded cs) : guardEnd cs = cs := by
  obtain ⟨before, k, rfl, hbefore⟩ := exists_eq_append_slashes cs
  have hk : k ≠ 1 := by
    rintro rfl
    exact hbefore (h before rfl)
  rw [guardEnd_slashes hbefore, if_neg hk]

/-- A diagnostic is shown as it is if its path and its message are plain, do not end with a single
backslash, and are not bridged by a tag. -/
theorem printed_addedText
    (hbridges : ∀ k c, ¬Bridges k c (file.shown root).toList d.message.toList)
    (hpath : IsGuarded (file.shown root).toList) (hmessage : IsGuarded d.message.toList)
    (hplain : IsPlain ((file.shown root).toList ++ (between d.line ++ d.message.toList))) :
    Layout.printed (addedText d file root) = .ok (d.severity.text ++ " " ++ file.shown root ++
      ":" ++ toString d.line ++ " " ++ d.message ++ "\n") := by
  have hspace : IsUnmarked [' '] := isUnmarked_of_all (by decide)
  have hseverity := hspace.append (all_isOrdinary_severity d.severity)
  have hline : String.ofList (d.severity.text.toList ++ [' '] ++
      ((file.shown root).toList ++ (between d.line ++ d.message.toList))) =
        d.severity.text ++ " " ++ file.shown root ++ ":" ++ toString d.line ++ " " ++
          d.message := by
    rw [← String.toList_inj, String.toList_ofList]
    simp [between]
  have hrender : render (addedText d file root) = .ok (d.severity.text ++ " " ++ file.shown root ++
      ":" ++ toString d.line ++ " " ++ d.message) := by
    rw [render_addedText, guardEnd_eq_self hpath, guardEnd_eq_self hmessage,
      renderPieces_placed hbridges hplain, Except.map, List.filter_append,
      hseverity.filter_visible, hplain.filter_visible, hline]
  refine Layout.printed_eq hrender fun htab => ?_
  rw [← hline, String.toList_ofList] at htab
  rcases List.mem_append.mp htab with htab | htab
  · exact hseverity.tab_not_mem htab
  · exact hplain.tab_not_mem htab

end Display

end Conform
