import Conform.Console.Table
import Conform.Proofs.Assembly
import Conform.Proofs.Console.Styles

/-! # What stands in a table

A row of a table is a block of lines. The lines of a cell stand in the lines of the
block, one beside the other, so a text without marks can be read in its row.
-/

namespace Conform.Table

open Markup

variable {s : String} {cells : List Cell} {root : Option FilePath} {d : Diagnostic}

/-- The lines of a text stand in the lines of a block, in their order. -/
def Shows (block : List (List Char)) (s : String) : Prop :=
  ∀ (i : Nat) (line : List Char), (Layout.lines s)[i]? = some line →
    ∃ row, block[i]? = some row ∧ line <:+: row

theorem isInfix_framed (border : Char) {line : List Char} {widths : List Nat}
    {columns : List (List Char)} (hwidths : columns.length ≤ widths.length)
    (h : line ∈ columns) : line <:+: framed border widths columns := by
  refine List.IsInfix.trans ?_ (List.suffix_cons border _).isInfix
  induction columns generalizing widths with
  | nil => cases h
  | cons column columns ih =>
      cases widths with
      | nil => cases hwidths
      | cons width widths =>
          rw [List.zipWith_cons_cons, List.flatten_cons]
          rcases List.mem_cons.mp h with rfl | h
          · have hpad : line <:+: ' ' :: pad width line ++ [' ', border] :=
              ⟨[' '], List.replicate (width - Layout.width line) ' ' ++ [' ', border],
                by simp [pad]⟩
            exact hpad.trans (List.prefix_append _ _).isInfix
          · exact (ih (Nat.le_of_succ_le_succ hwidths) h).trans (List.suffix_append _ _).isInfix

/-- The lines of a cell stand in the lines of its row. -/
theorem shows_of_mem (border : Char) {widths : List Nat} (hwidths : cells.length ≤ widths.length)
    (h : Layout.lines s ∈ cells) : Shows (rowLines border widths cells) s := by
  intro i line hline
  obtain ⟨hi, -⟩ := List.getElem?_eq_some_iff.mp hline
  have hheight : (Layout.lines s).length ≤ (cells.map List.length).foldl max 0 := by
    rw [List.foldl_max]
    exact (List.le_max?_getD_of_mem (List.mem_map_of_mem h)).trans (Nat.le_max_right _ _)
  refine ⟨framed border widths (cells.map fun cell => cell.getD i []), ?_, ?_⟩
  · rw [rowLines, List.getElem?_map, List.getElem?_range (hi.trans_le hheight)]
    rfl
  · refine isInfix_framed border (by rwa [List.length_map]) (List.mem_map.mpr ⟨_, h, ?_⟩)
    rw [List.getD_eq_getElem?_getD, hline, Option.getD_some]

theorem length_widths (columns : Nat) {rows : List (List Cell)}
    (h : ∀ row ∈ rows, row.length = columns) : (widths columns rows).length = columns := by
  have hfold : ∀ known : List Nat, known.length = columns →
      (rows.foldl (fun known row => known.zipWith max (row.map Cell.width)) known).length =
        columns := by
    intro known hknown
    induction rows generalizing known with
    | nil => exact hknown
    | cons row rows ih =>
        obtain ⟨hrow, hrows⟩ := List.forall_mem_cons.mp h
        refine ih hrows _ ?_
        rw [List.length_zipWith, List.length_map, hknown, hrow, Nat.min_self]
  exact hfold _ List.length_replicate

theorem cell_eq (h : IsUnmarked s.toList) : cell s = .ok (Layout.lines s) := by
  rw [cell, h.render_eq, Except.map, Layout.expandedLines_eq h.tab_not_mem]

theorem exists_cell (h : ¬HasClosing s.toList) : ∃ found, cell s = .ok found := by
  obtain ⟨shown, hshown⟩ := exists_render h
  exact ⟨_, by rw [cell, hshown, Except.map]⟩

/-! ## Tables of diagnostics -/

/-- The texts in the row of a diagnostic. -/
def texts (root : Option FilePath) (d : Diagnostic) : List String :=
  [d.file.shown root, toString d.line, d.severity.text, d.message]

/-- The line and the severity of a diagnostic have no marks. -/
theorem isUnmarked_texts (hpath : IsUnmarked (d.file.shown root).toList)
    (hmessage : IsUnmarked d.message.toList) : ∀ s ∈ texts root d, IsUnmarked s.toList := by
  simp only [texts, List.forall_mem_cons]
  exact ⟨hpath, isUnmarked_toString d.line,
    isUnmarked_of_all (all_isOrdinary_severity d.severity), hmessage, List.forall_mem_nil _⟩

/-- A table of diagnostics whose paths and messages have no marks shows these as they are, row by
row. -/
theorem ofDiagnostics_shows {ds : List Diagnostic}
    (h : ∀ d ∈ ds, IsUnmarked (d.file.shown root).toList ∧ IsUnmarked d.message.toList) :
    ∃ top blocks bottom, ofDiagnostics root ds =
        .ok (Layout.ended (top ++ blocks.flatten ++ bottom)) ∧
      List.Forall₂ (fun d block => ∀ s ∈ texts root d, Shows block s) ds blocks := by
  have hrows : ds.mapM (row root) = .ok (ds.map fun d => (texts root d).map Layout.lines) := by
    refine mapM_eq_ok_iff.mpr (List.forall₂_map_right_iff.mpr (List.forall₂_same.mpr ?_))
    intro d hd
    refine mapM_eq_ok_iff.mpr (List.forall₂_map_right_iff.mpr (List.forall₂_same.mpr ?_))
    exact fun s hs => cell_eq (isUnmarked_texts (h d hd).1 (h d hd).2 s hs)
  have hwidths : ∀ row ∈ headings :: ds.map fun d => (texts root d).map Layout.lines,
      row.length = 4 := by
    refine List.forall_mem_cons.mpr ⟨rfl, fun row hrow => ?_⟩
    obtain ⟨d, -, rfl⟩ := List.mem_map.mp hrow
    rfl
  have hlength := length_widths 4 hwidths
  generalize hw : widths 4 (headings :: ds.map fun d => (texts root d).map Layout.lines) = widths
    at hlength
  refine ⟨[rule '┏' '━' '┳' '┓' widths] ++ rowLines '┃' widths headings ++
      [rule '┡' '━' '╇' '┩' widths],
    ds.map fun d => rowLines '│' widths ((texts root d).map Layout.lines),
    [rule '└' '─' '┴' '┘' widths], ?_, ?_⟩
  · have hcolumns : headings.length = 4 := rfl
    rw [ofDiagnostics, hrows, Except.map, lines, hcolumns, hw, List.flatMap_map,
      ← List.flatMap_def]
  · refine List.forall₂_map_right_iff.mpr (List.forall₂_same.mpr fun d _ s hs => ?_)
    exact shows_of_mem '│' (by rw [hlength]; rfl) (List.mem_map_of_mem hs)

end Conform.Table
