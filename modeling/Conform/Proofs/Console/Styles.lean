import Conform.Proofs.Console.Plain

/-! # Tags that take effect

A tag opens a style or closes one that is open. Only a closing tag can fail, so a
text without closing tags can be shown, alone and between the tags of a style.
-/

namespace Conform.Markup

variable {rest body name : List Char} {c : Char} {openStyles : List String}

theorem takeWhile_eq_self (h : '=' ∉ name) : name.takeWhile (· != '=') = name := by
  rw [← List.append_nil name, List.takeWhile_append_of_pos, List.takeWhile_nil]
  intro c hc
  simpa using fun heq : c = '=' => h (heq ▸ hc)

/-- A tag without a slash at its start opens a style. -/
theorem exists_turn_of_opening (h : body.head? ≠ some '/') (openStyles : List String) :
    ∃ name, turn openStyles body = .ok (name :: openStyles) := by
  unfold turn
  split
  next name heq =>
    cases body with
    | nil => cases heq
    | cons c body =>
        rw [List.takeWhile_cons] at heq
        split at heq
        · exact absurd (congrArg some (List.cons.inj heq).1) h
        · cases heq
  next => exact ⟨_, rfl⟩

theorem turn_slash (openStyles : List String) (body : List Char) :
    turn openStyles ('/' :: body) =
      let name := body.takeWhile (· != '=')
      if name.all fun c => Text.isBlank c.toNat then
        match openStyles with
        | [] => .error ⟨String.ofList ('/' :: body)⟩
        | _ :: outer => .ok outer
      else if openStyles.contains (Style.nameOf name) then
        .ok (openStyles.erase (Style.nameOf name))
      else .error ⟨String.ofList ('/' :: body)⟩ := by
  unfold turn
  rw [List.takeWhile_cons_of_pos (by decide)]
  rfl

/-- A name of a style that a tag may open and close. -/
structure IsStyleName (name : List Char) : Prop extends IsBody name where
  equals : '=' ∉ name
  slash : name.head? ≠ some '/'

theorem isBlank_of_startsTag (h : startsTag c = true) : Text.isBlank c.toNat = false := by
  have hrange : 33 ≤ c.toNat ∧ c.toNat ≤ 122 := by
    simp only [startsTag, Bool.or_eq_true, Bool.and_eq_true, decide_eq_true_eq, beq_iff_eq,
      Char.le_def, UInt32.le_iff_toNat_le] at h
    rcases h with ((⟨hlow, hhigh⟩ | rfl) | rfl) | rfl
    · exact ⟨Nat.le_trans (by decide) hlow, hhigh⟩
    all_goals decide
  simp only [Text.isBlank, Bool.or_eq_false_iff, Bool.and_eq_false_iff, decide_eq_false_iff_not,
    beq_eq_false_iff_ne]
  omega

/-- Small letters are the name of a style. -/
theorem isStyleName_of_all (hne : name ≠ [])
    (h : (name.all fun c => 'a' ≤ c && c ≤ 'z') = true) : IsStyleName name := by
  have hstarts : ∀ c ∈ name, startsTag c = true ∧ c ≠ '/' := by
    intro c hc
    have hletter := List.all_eq_true.mp h c hc
    refine ⟨by rw [startsTag, hletter]; rfl, ?_⟩
    rintro rfl
    cases hletter
  have hfirst := List.head?_eq_some_head hne
  obtain ⟨hhead, hslash⟩ := hstarts _ (List.head_mem hne)
  refine { starts := ⟨_, hfirst, hhead⟩, unbracketed := ?_, equals := ?_, slash := ?_ }
  · exact fun c hc => isBracket_of_startsTag (hstarts c hc).1
  · exact fun hmem => ne_of_startsTag (hstarts _ hmem).1 (not_startsTag_of_mem (by decide)) rfl
  · rw [hfirst]
    exact fun heq => hslash (Option.some.inj heq)

namespace IsStyleName

variable (h : IsStyleName name)

include h

theorem closing : IsBody ('/' :: name) :=
  ⟨⟨'/', rfl, by decide⟩, List.forall_mem_cons.mpr ⟨by decide, h.unbracketed⟩⟩

theorem turn_opening (openStyles : List String) :
    turn openStyles name = .ok (Style.nameOf name :: openStyles) := by
  unfold turn
  rw [takeWhile_eq_self h.equals]
  split
  next => exact absurd rfl h.slash
  next => rfl

theorem turn_closing (hopen : Style.nameOf name ∈ openStyles) :
    turn openStyles ('/' :: name) = .ok (openStyles.erase (Style.nameOf name)) := by
  obtain ⟨c, hc, hstarts⟩ := h.starts
  have hblank : ¬(name.all fun c => Text.isBlank c.toNat) = true := fun hall => by
    simpa [isBlank_of_startsTag hstarts] using
      List.all_eq_true.mp hall c (List.mem_of_mem_head? hc)
  rw [turn_slash, takeWhile_eq_self h.equals]
  dsimp only
  rw [if_neg hblank, if_pos (List.contains_iff_mem.mpr hopen)]

end IsStyleName

/-- Where no style is open, none can be closed. -/
theorem turn_closing_nil (body : List Char) :
    turn [] ('/' :: body) = .error ⟨String.ofList ('/' :: body)⟩ := by
  rw [turn_slash]
  exact ite_self _

theorem renderPieces_consText (hslash : c ≠ '\\') (hcolon : c ≠ ':') (openStyles : List String)
    (ps : List Piece) :
    renderPieces openStyles (consText c ps) = (renderPieces openStyles ps).map (c :: ·) := by
  obtain ⟨text, rest, hcons, hps⟩ := exists_consText_eq c ps
  rw [hcons, renderPieces, plain_cons hslash, Emoji.replace_cons hcolon]
  rcases hps with ⟨rfl, rfl⟩ | rfl
  · rfl
  · rw [renderPieces]
    cases renderPieces openStyles rest <;> rfl

/-- Ordinary characters in front of a text are shown in front of it. -/
theorem renderPieces_append {shown : List Char}
    (hshown : shown.all isOrdinary = true) (openStyles : List String) (rest : List Char) :
    renderPieces openStyles (piecesFrom 0 0 (shown ++ rest)) =
      (renderPieces openStyles (piecesFrom 0 0 rest)).map (shown ++ ·) := by
  induction shown with
  | nil =>
      rw [List.nil_append]
      cases renderPieces openStyles (piecesFrom 0 0 rest) <;> rfl
  | cons c shown ih =>
      rw [List.all_cons, Bool.and_eq_true] at hshown
      obtain ⟨⟨⟨hopen, hslash, hcolon, -⟩, -⟩, hshown⟩ := hshown.imp isOrdinary_iff.mp id
      have htag : tagAt? (c :: (shown ++ rest)) = none :=
        tagAt?_eq_none_iff.mpr fun h => hopen h.1
      rw [List.cons_append, piecesFrom_other hslash htag, consBackslashes,
        renderPieces_consText hslash hcolon, ih hshown]
      cases renderPieces openStyles (piecesFrom 0 0 rest) <;> rfl

/-- Nothing is shown of a tag that takes effect. -/
theorem renderPieces_enclosed {inner : List String} (hbody : IsBody body)
    (hturn : turn openStyles body = .ok inner) (rest : List Char) :
    renderPieces openStyles (piecesFrom 0 0 (enclosed body ++ rest)) =
      renderPieces inner (piecesFrom 0 0 rest) := by
  rw [piecesFrom_enclosed hbody, renderPieces, if_neg (by decide), hturn]
  dsimp only
  cases renderPieces inner (piecesFrom 0 0 rest) <;> rfl

/-! ## Texts without closing tags -/

/-- A closing tag stands in a text. -/
def HasClosing (cs : List Char) : Prop :=
  ∃ body, IsBody ('/' :: body) ∧ enclosed ('/' :: body) <:+: cs

theorem not_hasClosing_append {before cs : List Char} (h : ¬HasClosing cs)
    (hbefore : '[' ∉ before) : ¬HasClosing (before ++ cs) := by
  rintro ⟨body, hbody, hpart⟩
  exact h ⟨body, hbody, enclosed_isInfix_of_append hbefore hpart⟩

theorem IsUnmarked.not_hasClosing {cs : List Char} (h : IsUnmarked cs) : ¬HasClosing cs :=
  fun ⟨_, hbody, hpart⟩ => h.tagless _ hbody hpart

/-- Pieces without closing tags are shown, and the styles that were open stay open. -/
theorem exists_renderPieces_append {ps : List Piece}
    (h : ∀ n body, .tag n body ∈ ps → body.head? ≠ some '/') (openStyles : List String) :
    ∃ inner shown, (∀ style ∈ openStyles, style ∈ inner) ∧
      ∀ rest, renderPieces openStyles (ps ++ rest) =
        (renderPieces inner rest).map (shown ++ ·) := by
  induction ps generalizing openStyles with
  | nil =>
      refine ⟨openStyles, [], fun _ hstyle => hstyle, fun rest => ?_⟩
      rw [List.nil_append]
      cases renderPieces openStyles rest <;> rfl
  | cons piece ps ih =>
      have hps : ∀ n body, .tag n body ∈ ps → body.head? ≠ some '/' := fun n body hmem =>
        h n body (List.mem_cons_of_mem _ hmem)
      cases piece with
      | text cs =>
          obtain ⟨inner, shown, hkept, hshown⟩ := ih hps openStyles
          refine ⟨inner, Emoji.replace (plain cs) ++ shown, hkept, fun rest => ?_⟩
          rw [List.cons_append, renderPieces, hshown]
          cases renderPieces inner rest <;> simp [Except.map]
      | tag n body =>
          by_cases hn : n % 2 = 1
          · obtain ⟨inner, shown, hkept, hshown⟩ := ih hps openStyles
            refine ⟨inner, slashes (n / 2) ++ Emoji.replace (enclosed body) ++ shown, hkept,
              fun rest => ?_⟩
            rw [List.cons_append, renderPieces, if_pos hn, hshown]
            cases renderPieces inner rest <;> simp [Except.map, slashes, enclosed]
          · obtain ⟨name, hturn⟩ :=
              exists_turn_of_opening (h n body List.mem_cons_self) openStyles
            obtain ⟨inner, shown, hkept, hshown⟩ := ih hps (name :: openStyles)
            refine ⟨inner, slashes (n / 2) ++ shown,
              fun style hstyle => hkept style (List.mem_cons_of_mem _ hstyle), fun rest => ?_⟩
            rw [List.cons_append, renderPieces, if_neg hn, hturn]
            dsimp only
            rw [hshown]
            cases renderPieces inner rest <;> simp [Except.map, slashes]

theorem head?_ne_slash_of_mem {cs : List Char} (h : ¬HasClosing cs) {n : Nat}
    (hmem : .tag n body ∈ piecesFrom 0 0 cs) : body.head? ≠ some '/' := by
  obtain ⟨hpart, hbody⟩ := enclosed_isInfix_of_mem hmem
  intro hslash
  cases body with
  | nil => cases hslash
  | cons c body =>
      cases hslash
      exact h ⟨body, hbody, hpart⟩

/-- A text without closing tags can be shown. -/
theorem exists_render {s : String} (h : ¬HasClosing s.toList) : ∃ shown, render s = .ok shown := by
  unfold render
  split
  next =>
    obtain ⟨inner, shown, -, hshown⟩ :=
      exists_renderPieces_append (fun n body => head?_ne_slash_of_mem (n := n) h) []
    rw [pieces, ← List.append_nil (piecesFrom 0 0 _), hshown]
    exact ⟨_, rfl⟩
  next => exact ⟨_, rfl⟩

/-- A message without closing tags can be shown between the tags of a style. -/
theorem exists_render_styled (hname : IsStyleName name) {message markup : String}
    (hmarkup : markup.toList = enclosed name ++ (message.toList ++ enclosed ('/' :: name)))
    (h : ¬HasClosing message.toList) : ∃ shown, render markup = .ok shown := by
  obtain ⟨before, k, hsplit, hbefore⟩ := exists_eq_append_slashes message.toList
  have hclosing : ¬HasClosing before := fun ⟨body, hbody, hpart⟩ =>
    h ⟨body, hbody, hpart.trans (hsplit ▸ (List.prefix_append _ _).isInfix)⟩
  have hbracket : markup.toList.contains '[' = true := by
    rw [hmarkup, enclosed]
    simp
  obtain ⟨inner, shown, hkept, hshown⟩ := exists_renderPieces_append
    (fun n body => head?_ne_slash_of_mem (n := n) hclosing) [Style.nameOf name]
  have hturn := hname.turn_closing (hkept _ (List.mem_singleton.mpr rfl))
  have hpieces : renderPieces [] (pieces markup) =
      (renderPieces inner [.tag k ('/' :: name)]).map (shown ++ ·) := by
    rw [pieces, hmarkup, renderPieces_enclosed hname.toIsBody (hname.turn_opening []), hsplit,
      List.append_assoc, ← List.append_nil (enclosed ('/' :: name)),
      piecesFrom_append_enclosed k hbefore (fun _ => rfl) hname.closing, hshown, piecesFrom_nil,
      consBackslashes]
  rw [render, if_pos hbracket, hpieces, renderPieces]
  -- Backslashes at the end of the message may keep the style from being closed.
  split
  next => exact ⟨_, rfl⟩
  next =>
    rw [hturn]
    exact ⟨_, rfl⟩

end Conform.Markup
