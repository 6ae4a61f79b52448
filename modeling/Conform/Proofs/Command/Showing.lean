import Conform.Proofs.Command.Providers
import Conform.Proofs.Console.Added
import Conform.Proofs.Console.Cells
import Conform.Proofs.Console.Marks

/-! # Paths and messages on a console

Paths and messages are shown in the table of a check, by the command that tells
which schema a file has, and when a diagnostic is added. The first two take them for
markup. The last one escapes them one by one, which is not enough where a tag
bridges them.
-/

namespace Conform

open Markup

variable {d : Diagnostic} {root : Option FilePath}

namespace Diagnostic

/-- The path and the message of a diagnostic are shown as they are. -/
structure IsUnmarked (root : Option FilePath) (d : Diagnostic) : Prop where
  path : Markup.IsUnmarked (d.file.shown root).toList
  message : Markup.IsUnmarked d.message.toList

/-- The path and the message of a diagnostic are shown as they are once they are escaped one by
one. -/
structure IsEscapable (root : Option FilePath) (d : Diagnostic) : Prop where
  plain : IsPlain ((d.file.shown root).toList ++ (Display.between d.line ++ d.message.toList))
  path : Display.IsGuarded (d.file.shown root).toList
  message : Display.IsGuarded d.message.toList
  apart : ∀ k c, ¬Bridges k c (d.file.shown root).toList d.message.toList

end Diagnostic

/-! ## Diagnostics that are added -/

namespace Session

/-- Adding a diagnostic breaks down exactly if its path and its message are bridged by a closing tag
that takes effect. -/
theorem add_console_eq_ok_iff (s : Session) :
    (s.add (.console root) d).value = .ok () ↔
      ¬∃ k, Bridges (2 * k) '/' (d.file.shown root).toList d.message.toList := by
  rw [← Display.exists_printed_addedText_iff (d := d)]
  unfold add
  dsimp only [Display.shown]
  cases Layout.printed (Display.addedText d d.file root) with
  | error fault => simp [Except.map, broken, stay]
  | ok text => simp [Except.map, done, stay, Act.after]

theorem add_console (h : d.IsEscapable root) (s : Session) :
    s.add (.console root) d = (Session.done { s with store := s.store.add d } ()).after
      [.printed (d.severity.text ++ " " ++ d.file.shown root ++ ":" ++ toString d.line ++ " " ++
        d.message ++ "\n")] := by
  unfold add
  dsimp only [Display.shown]
  rw [Display.printed_addedText h.apart h.path h.message h.plain]
  rfl

end Session

/-! ## The table of a check and the schema of a file -/

namespace Command

variable {w : Workspace} {ds : List Diagnostic}

theorem exists_shownDiagnostics
    (h : ∀ d ∈ ds, ¬HasClosing (d.file.shown (some w.current)).toList ∧
      ¬HasClosing d.message.toList) :
    ∃ notes, shownDiagnostics w ds = .ok notes := by
  refine exists_shownDiagnostics_iff.mpr fun d hd => exists_mapM_eq_ok_iff.mpr ?_
  obtain ⟨hpath, hmessage⟩ := h d hd
  simp only [List.forall_mem_cons]
  exact ⟨Table.exists_cell hpath, Table.exists_cell (isUnmarked_toString d.line).not_hasClosing,
    Table.exists_cell (isUnmarked_of_all (all_isOrdinary_severity d.severity)).not_hasClosing,
    Table.exists_cell hmessage, List.forall_mem_nil _⟩

theorem shownDiagnostics_shows (hsome : ds ≠ [])
    (h : ∀ d ∈ ds, d.IsUnmarked (some w.current)) :
    ∃ top blocks bottom, shownDiagnostics w ds =
        .ok [.printed (Layout.ended (top ++ blocks.flatten ++ bottom)),
          .printed ("(" ++ toString ds.length ++ " diagnostics)\n")] ∧
      List.Forall₂ (fun d block => ∀ s ∈ Table.texts (some w.current) d, Table.Shows block s)
        ds blocks := by
  obtain ⟨top, blocks, bottom, htable, hblocks⟩ :=
    Table.ofDiagnostics_shows fun d hd => ⟨(h d hd).path, (h d hd).message⟩
  refine ⟨top, blocks, bottom, ?_, hblocks⟩
  rw [shownDiagnostics, if_neg (by simpa using hsome), htable]
  rfl

variable {file : FilePath} {found : Option FilePath}

/-- What is told of the schema of a file. -/
def schemaText (file : FilePath) : Option FilePath → String
  | none => "No schema for " ++ file.text
  | some found => found.text

theorem runSchema_eq
    (h : (Session.empty.resolve w (w.absolute file)).value = .ok found) :
    runSchema w file =
      .telling 0 (schemaText file found) (Session.empty.resolve w (w.absolute file)).notes := by
  unfold runSchema
  dsimp only
  rw [h]
  cases found <;> rfl

theorem runSchema_broken {reason : Breakdown}
    (h : (Session.empty.resolve w (w.absolute file)).value = .error reason) :
    (runSchema w file).escaped = some (.brokenDown reason) := by
  unfold runSchema
  dsimp only
  rw [h]
  rfl

theorem runSchema_escaped
    (hfound : (Session.empty.resolve w (w.absolute file)).value = .ok found)
    (h : ¬HasClosing (found.getD file).text.toList) : (runSchema w file).escaped = none := by
  have htext : ¬HasClosing (schemaText file found).toList := by
    cases found with
    | none =>
        rw [schemaText, String.toList_append]
        exact not_hasClosing_append h (by decide)
    | some found => exact h
  obtain ⟨shown, hshown⟩ := exists_render htext
  rw [runSchema_eq hfound, Reply.telling, Reply.printing, Layout.printed, hshown]
  rfl

theorem isUnmarked_schemaText_iff :
    Markup.IsUnmarked (schemaText file found).toList ↔
      Markup.IsUnmarked (found.getD file).text.toList := by
  cases found with
  | none =>
      rw [schemaText, String.toList_append]
      exact ⟨Markup.IsUnmarked.of_append, fun h => h.append (by decide)⟩
  | some found => exact Iff.rfl

/-- The schema of a file is told as it is if the text is printed as it is. -/
theorem runSchema_eq_iff
    (hfound : (Session.empty.resolve w (w.absolute file)).value = .ok found) :
    runSchema w file = .ended 0 ((Session.empty.resolve w (w.absolute file)).notes ++
        [.printed (schemaText file found ++ "\n")]) ↔
      Layout.printed (schemaText file found) = .ok (schemaText file found ++ "\n") := by
  rw [runSchema_eq hfound, Reply.telling, Reply.printing]
  cases Layout.printed (schemaText file found) with
  | error fault => simp [Except.map, Reply.last, Reply.escaping, Reply.ended]
  | ok text => simp [Except.map, Reply.last, Reply.ended]

theorem runSchema_shows
    (hfound : (Session.empty.resolve w (w.absolute file)).value = .ok found)
    (h : Markup.IsUnmarked (found.getD file).text.toList) :
    runSchema w file = .ended 0 ((Session.empty.resolve w (w.absolute file)).notes ++
      [.printed (schemaText file found ++ "\n")]) :=
  (runSchema_eq_iff hfound).mpr (Layout.printed_eq_self (isUnmarked_schemaText_iff.mpr h))

theorem runSchema_shows_iff
    (hfound : (Session.empty.resolve w (w.absolute file)).value = .ok found)
    (hcolon : ':' ∉ (found.getD file).text.toList) :
    runSchema w file = .ended 0 ((Session.empty.resolve w (w.absolute file)).notes ++
        [.printed (schemaText file found ++ "\n")]) ↔
      Markup.IsUnmarked (found.getD file).text.toList := by
  have htext : ':' ∉ (schemaText file found).toList := by
    cases found with
    | none =>
        have hbefore : ':' ∉ "No schema for ".toList := by decide
        rw [schemaText, String.toList_append, List.mem_append, not_or]
        exact ⟨hbefore, hcolon⟩
    | some found => exact hcolon
  rw [runSchema_eq_iff hfound, Layout.printed_eq_self_iff htext, isUnmarked_schemaText_iff]

namespace Sample

/-- A file with a plain path. -/
def spaced : FilePath := FilePath.ofString "a schema.json"

/-- A diagnostic with a plain message. -/
def expecting : Diagnostic := ⟨spaced, "Expecting value", 1, .error⟩

/-- A diagnostic whose message holds what looks like a tag. -/
def quoting : Diagnostic := ⟨spaced, "'[red]' is not one of ['a']", 3, .error⟩

/-- A diagnostic whose path opens a tag that its message closes. -/
def bridged : Diagnostic := ⟨FilePath.ofString "[/b.json", "]", 1, .error⟩

/-- A diagnostic whose message is a closing tag. -/
def closing : Diagnostic := ⟨spaced, "[/]", 1, .error⟩

end Sample

open Sample

end Command

end Conform
