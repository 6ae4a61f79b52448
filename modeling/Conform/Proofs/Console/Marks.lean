import Conform.Proofs.Assembly
import Conform.Proofs.Console.Styles

/-! # Marks are lost

Tags and backslashes in front of brackets are not shown, and nothing is shown in
their place. So a text without colons is shown as it is only if it has no marks.
-/

namespace Conform

namespace Markup

variable {cs rest body : List Char} {openStyles : List String}

theorem plain_sublist (cs : List Char) : (plain cs).Sublist cs := by
  fun_induction plain cs with
  | case1 rest ih => exact (ih.cons_cons '[').cons '\\'
  | case2 c rest _ ih => exact ih.cons_cons c
  | case3 => exact .slnil

/-- Where nothing is left out, no backslash stands in front of a bracket. -/
theorem ne_of_plain_eq_self (h : plain cs = cs) (before after : List Char) :
    cs ≠ before ++ '\\' :: '[' :: after := by
  fun_induction plain cs generalizing before with
  | case1 rest ih =>
      have hlength := congrArg List.length h
      have hle := (plain_sublist rest).length_le
      simp only [List.length_cons] at hlength
      omega
  | case2 c rest hnot ih =>
      intro heq
      cases before with
      | nil =>
          cases heq
          exact hnot after rfl rfl
      | cons d before => exact ih (List.cons.inj h).2 before (List.cons.inj heq).2
  | case3 => simp

theorem plain_of_not_mem (h : '[' ∉ cs) : plain cs = cs := by
  fun_induction plain cs with
  | case1 rest ih => exact absurd (by simp) h
  | case2 c rest _ ih => rw [ih fun hmem => h (List.mem_cons_of_mem c hmem)]
  | case3 => rfl

/-- A tag that stands in a text is read. -/
theorem exists_mem_of_isInfix (hbody : IsBody body) (h : enclosed body <:+: cs) (n : Nat) :
    ∃ k, .tag k body ∈ piecesFrom 0 n cs := by
  induction cs using reading_induction generalizing n with
  | nil => simp [enclosed] at h
  | backslash rest ih =>
      rw [piecesFrom_backslash]
      have hfree : '[' ∉ ['\\'] := by decide
      exact ih (enclosed_isInfix_of_append hfree h) (n + 1)
  | tag inner rest hinner ih =>
      rw [piecesFrom_enclosed hinner]
      rcases List.infix_cons_iff.mp h with ⟨after, heq⟩ | h
      · have hread : some (body, after) = some (inner, rest) := by
          rw [← tagAt?_enclosed hbody after, heq, ← tagAt?_enclosed hinner rest]
          rfl
        cases hread
        exact ⟨n, List.mem_cons_self⟩
      · have hfree : '[' ∉ inner ++ [']'] := by
          intro hmem
          rcases List.mem_append.mp hmem with hmem | hmem
          · exact absurd (hinner.unbracketed _ hmem) (by decide)
          · exact absurd (List.mem_singleton.mp hmem) (by decide)
        obtain ⟨k, hmem⟩ := ih (enclosed_isInfix_of_append hfree h) 0
        exact ⟨k, List.mem_cons_of_mem _ hmem⟩
  | other c rest hc htag ih =>
      simp only [piecesFrom_other hc htag, tag_mem_consBackslashes_iff, tag_mem_consText_iff]
      rcases List.infix_cons_iff.mp h with ⟨after, heq⟩ | h
      · rw [← heq, tagAt?_enclosed hbody] at htag
        cases htag
      · exact ih h 0

/-- A piece of which something is not shown. -/
def Piece.IsMark : Piece → Prop
  | .text cs => plain cs ≠ cs
  | .tag _ _ => True

/-- What is shown of a first piece without colons is part of the piece, and less than it if the
piece is a mark. -/
theorem exists_of_renderPieces_cons {piece : Piece} {ps : List Piece} {shown : List Char}
    (hcolon : ':' ∉ piece.written) (h : renderPieces openStyles (piece :: ps) = .ok shown) :
    ∃ first inner others, shown = first ++ others ∧ renderPieces inner ps = .ok others ∧
      first.Sublist piece.written ∧ (piece.IsMark → first.length < piece.written.length) := by
  have hkeep : ∀ {cs : List Char}, cs.Sublist piece.written → Emoji.replace cs = cs := by
    intro cs hcs
    exact Emoji.replace_eq_self (Emoji.isFree_of_not_mem fun hmem => hcolon (hcs.subset hmem))
  cases piece with
  | text cs =>
      obtain ⟨others, hothers, rfl⟩ := map_eq_ok_iff.mp h
      have hplain := plain_sublist cs
      refine ⟨plain cs, openStyles, others, by rw [hkeep hplain], hothers, hplain, fun hmark => ?_⟩
      exact Nat.lt_of_le_of_ne hplain.length_le fun heq => hmark (hplain.eq_of_length heq)
  | tag n body =>
      have hhalf : (slashes (n / 2)).Sublist (slashes n) :=
        List.replicate_sublist_replicate '\\' |>.mpr (Nat.div_le_self n 2)
      rw [renderPieces] at h
      split at h
      next hodd =>
        obtain ⟨others, hothers, rfl⟩ := map_eq_ok_iff.mp h
        have hless : n / 2 < n := by omega
        refine ⟨slashes (n / 2) ++ enclosed body, openStyles, others, ?_, hothers,
          hhalf.append (.refl _), fun _ => ?_⟩
        · rw [← hkeep (List.sublist_append_right (slashes n) (enclosed body))]
          rfl
        · simpa [Piece.written, slashes] using hless
      next =>
        split at h
        next => cases h
        next inner hturn =>
          obtain ⟨others, hothers, rfl⟩ := map_eq_ok_iff.mp h
          refine ⟨slashes (n / 2), inner, others, rfl, hothers,
            hhalf.trans (List.sublist_append_left _ _), fun _ => ?_⟩
          simp only [Piece.written, slashes, enclosed, List.length_append, List.length_replicate,
            List.length_cons, List.length_nil]
          omega

/-- What is shown of pieces without colons is part of the text, and less than it if there are
marks. -/
theorem renderPieces_sublist {ps : List Piece} {shown : List Char}
    (hcolon : ∀ piece ∈ ps, ':' ∉ piece.written) (h : renderPieces openStyles ps = .ok shown) :
    shown.Sublist (ps.flatMap Piece.written) ∧
      ((∃ piece ∈ ps, piece.IsMark) → shown.length < (ps.flatMap Piece.written).length) := by
  induction ps generalizing openStyles shown with
  | nil =>
      cases h
      exact ⟨.slnil, by simp⟩
  | cons piece ps ih =>
      obtain ⟨hpiece, hps⟩ := List.forall_mem_cons.mp hcolon
      obtain ⟨first, inner, others, rfl, hothers, hfirst, hmark⟩ :=
        exists_of_renderPieces_cons hpiece h
      obtain ⟨hsub, hless⟩ := ih hps hothers
      rw [List.flatMap_cons]
      refine ⟨hfirst.append hsub, ?_⟩
      rintro ⟨other, hmem, hother⟩
      rw [List.length_append, List.length_append]
      rcases List.mem_cons.mp hmem with rfl | hmem
      · exact Nat.add_lt_add_of_lt_of_le (hmark hother) hsub.length_le
      · exact Nat.add_lt_add_of_le_of_lt hfirst.length_le (hless ⟨other, hmem, hother⟩)

/-- A text without tags is read as one piece, if it is not empty. -/
theorem piecesFrom_of_tagless (n : Nat) (h : ∀ k body, .tag k body ∉ piecesFrom 0 n cs) :
    piecesFrom 0 n cs = [] ∨ piecesFrom 0 n cs = [.text (slashes n ++ cs)] := by
  have hwritten := flatMap_written n cs
  have hone : piecesFrom 0 n cs = [] ∨ ∃ text, piecesFrom 0 n cs = [.text text] := by
    clear hwritten
    induction cs using reading_induction generalizing n with
    | nil =>
        rw [piecesFrom_nil]
        cases n with
        | zero => exact Or.inl rfl
        | succ n => exact Or.inr ⟨_, consBackslashes_succ_nil n⟩
    | backslash rest ih =>
        rw [piecesFrom_backslash] at h ⊢
        exact ih (n + 1) h
    | tag body rest hbody ih =>
        rw [piecesFrom_enclosed hbody] at h
        exact absurd List.mem_cons_self (h n body)
    | other c rest hc htag ih =>
        simp only [piecesFrom_other hc htag, tag_mem_consBackslashes_iff,
          tag_mem_consText_iff] at h
        rw [piecesFrom_other hc htag]
        rcases ih 0 h with hrest | hrest
        · exact Or.inr ⟨_, by rw [hrest, consText, consBackslashes_text]; simp⟩
        · obtain ⟨text, hrest⟩ := hrest
          exact Or.inr ⟨_, by rw [hrest, consText, consBackslashes_text]⟩
  rcases hone with hnil | ⟨text, htext⟩
  · exact Or.inl hnil
  · rw [htext, List.flatMap_cons, List.flatMap_nil, List.append_nil] at hwritten
    exact Or.inr (by rw [htext, ← hwritten]; rfl)

/-- What is shown of a text without colons is part of it, and all of it only if there are no
marks. -/
theorem exists_of_render {s shown : String} (hcolon : ':' ∉ s.toList)
    (h : render s = .ok shown) :
    ∃ cs : List Char, shown.toList = cs.filter (fun c => !isControl c) ∧ cs.Sublist s.toList ∧
      (cs.length = s.toList.length → ∀ piece ∈ piecesFrom 0 0 s.toList, ¬piece.IsMark) := by
  unfold render at h
  split at h
  next =>
    obtain ⟨cs, hcs, rfl⟩ := map_eq_ok_iff.mp h
    obtain ⟨hsub, hless⟩ := renderPieces_sublist
      (fun piece hmem hin => hcolon ((written_isInfix_of_mem hmem).subset hin)) hcs
    rw [flatMap_written, slashes, List.replicate_zero, List.nil_append] at hsub hless
    refine ⟨cs, String.toList_ofList, hsub, fun hlength piece hmem hmark => ?_⟩
    exact absurd hlength (Nat.ne_of_lt (hless ⟨piece, hmem, hmark⟩))
  next hbracket =>
    have hfree : '[' ∉ s.toList := by simpa using hbracket
    cases h
    have hreplaced : Emoji.replace s.toList = s.toList :=
      Emoji.replace_eq_self (Emoji.isFree_of_not_mem hcolon)
    refine ⟨s.toList, by rw [String.toList_ofList, hreplaced], .refl _, fun _ piece hmem => ?_⟩
    have hpart := written_isInfix_of_mem hmem
    cases piece with
    | text cs => exact fun hmark => hmark (plain_of_not_mem fun hin => hfree (hpart.subset hin))
    | tag n body => exact fun _ => hfree (hpart.subset (by simp [Piece.written, enclosed]))

/-- A text without colons has no marks if all of it is shown. -/
theorem isUnmarked_of_render {s : String} (hcolon : ':' ∉ s.toList) (htab : '\t' ∉ s.toList)
    (h : render s = .ok s) : IsUnmarked s.toList := by
  obtain ⟨cs, hfilter, hsub, hmarks⟩ := exists_of_render hcolon h
  have hcs : cs = s.toList := by
    refine hsub.eq_of_length_le ?_
    rw [hfilter]
    exact List.length_filter_le _ _
  subst hcs
  have hnomark := hmarks rfl
  have htags : ∀ k body, .tag k body ∉ piecesFrom 0 0 s.toList := fun k body hmem =>
    hnomark _ hmem trivial
  have hplain : plain s.toList = s.toList := by
    rcases piecesFrom_of_tagless 0 htags with hnil | htext
    · have hwritten := flatMap_written 0 s.toList
      rw [hnil] at hwritten
      rw [← List.nil_append s.toList, ← List.replicate_zero, ← slashes, ← hwritten]
      rfl
    · by_contra hne
      have hmark : Piece.IsMark (.text (slashes 0 ++ s.toList)) := hne
      exact hnomark _ (by rw [htext]; exact List.mem_singleton_self _) hmark
  refine { paired := ?_, emojiFree := Emoji.isFree_of_not_mem hcolon, visible := ?_, tagless := ?_ }
  · exact fun before after heq => absurd heq (ne_of_plain_eq_self hplain before after)
  · intro c hc
    refine ⟨?_, fun heq => htab (heq ▸ hc)⟩
    rw [hfilter, List.mem_filter] at hc
    simpa using hc.2
  · intro body hbody hpart
    obtain ⟨k, hmem⟩ := exists_mem_of_isInfix hbody hpart 0
    exact htags k body hmem

end Markup

namespace Layout

theorem tab_not_mem_expandFrom (column : Nat) (line : List Char) :
    '\t' ∉ expandFrom column line := by
  induction line generalizing column with
  | nil => simp [expandFrom]
  | cons c rest ih =>
      rw [expandFrom]
      split
      next =>
        intro hmem
        rcases List.mem_append.mp hmem with hmem | hmem
        · exact absurd (List.eq_of_mem_replicate hmem) (by decide)
        · exact ih _ hmem
      next hc =>
        intro hmem
        rcases List.mem_cons.mp hmem with rfl | hmem
        · exact hc rfl
        · exact ih _ hmem

/-- A text without colons is printed as it is exactly if it has no marks. -/
theorem printed_eq_self_iff {s : String} (hcolon : ':' ∉ s.toList) :
    printed s = .ok (s ++ "\n") ↔ Markup.IsUnmarked s.toList := by
  constructor
  · intro h
    obtain ⟨shown, hshown, hended⟩ := map_eq_ok_iff.mp h
    have htab : '\t' ∉ s.toList := by
      intro hmem
      have hin : '\t' ∈ (ended (expandedLines shown)).toList := by
        rw [hended, String.toList_append]
        exact List.mem_append_left _ hmem
      rw [ended, String.toList_ofList, expandedLines, List.flatMap_map] at hin
      obtain ⟨line, -, hline⟩ := List.mem_flatMap.mp hin
      rcases List.mem_append.mp hline with hline | hline
      · exact tab_not_mem_expandFrom 0 line hline
      · exact absurd (List.mem_singleton.mp hline) (by decide)
    obtain ⟨cs, hfilter, hsub, -⟩ := Markup.exists_of_render hcolon hshown
    have hshowntab : '\t' ∉ shown.toList := by
      rw [hfilter]
      exact fun hmem => htab (hsub.subset (List.mem_of_mem_filter hmem))
    have hsame : shown = s := by
      have hprinted := (printed_eq hshown hshowntab).symm.trans h
      rw [Except.ok.injEq, ← String.toList_inj, String.toList_append,
        String.toList_append] at hprinted
      exact String.toList_inj.mp (List.append_cancel_right hprinted)
    rw [hsame] at hshown
    exact Markup.isUnmarked_of_render hcolon htab hshown
  · exact fun h => printed_eq_self h

end Layout

end Conform
