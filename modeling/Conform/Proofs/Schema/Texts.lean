import Conform.Proofs.Files.Spelling
import Conform.Proofs.Schema.Alternatives
import Conform.Proofs.Schema.OneLine

/-! # Reading the text of a failure

The text of a failure has the message on its first line. Behind it there is a line
for each message of an alternative, with a tab in front, and a line with `or` between
alternatives. If no message breaks a line and no alternative is empty, message and
alternatives can be read back from the text. All failures of a value are of this kind.
-/

namespace Conform

theorem flatMap_intercalate {α β : Type} (f : α → List β) (separator : List α)
    (pieces : List (List α)) :
    (separator.intercalate pieces).flatMap f =
      (separator.flatMap f).intercalate (pieces.map (·.flatMap f)) := by
  induction pieces with
  | nil => simp
  | cons piece rest ih =>
      cases rest with
      | nil => simp
      | cons next rest =>
          rw [List.map_cons] at ih
          rw [List.intercalate_cons_cons, List.map_cons, List.map_cons,
            List.intercalate_cons_cons, List.flatMap_append, List.flatMap_append, ih]

theorem intercalate_nil_eq_flatten {α : Type} (pieces : List (List α)) :
    [].intercalate pieces = pieces.flatten := by
  induction pieces with
  | nil => rfl
  | cons piece rest ih =>
      cases rest with
      | nil => simp
      | cons next rest =>
          rw [List.intercalate_cons_cons, List.append_nil, ih]
          rfl

namespace Failure

/-! ## Lines -/

/-- The line between two alternatives. -/
def orLine : List Char := ['o', 'r']

/-- The line of a message of an alternative. -/
def messageLine (message : String) : List Char := '\t' :: message.toList

/-- The lines of the alternatives. -/
def alternativeLines (alternatives : List (List String)) : List (List Char) :=
  [orLine].intercalate (alternatives.map (·.map messageLine))

theorem toList_branchText (messages : List String) :
    (branchText messages).toList = (messages.map messageLine).flatMap ('\n' :: ·) := by
  have hempty : "".toList = [] := rfl
  have hmark : "\n\t".toList = ['\n', '\t'] := rfl
  rw [branchText, String.toList_intercalate, hempty, intercalate_nil_eq_flatten, List.map_map,
    List.flatMap_map, List.flatMap_def]
  refine congrArg _ (List.map_congr_left fun message _ => ?_)
  rw [Function.comp_apply, String.toList_append, hmark]
  rfl

/-- The lines of a text are the message and those of the alternatives. -/
theorem toList_text (f : Failure) :
    f.text.toList = f.message.toList ++ (alternativeLines f.alternatives).flatMap ('\n' :: ·) := by
  have hor : "\nor".toList = [orLine].flatMap ('\n' :: ·) := rfl
  rw [text, String.toList_append, String.toList_intercalate, alternativeLines, flatMap_intercalate,
    hor, List.map_map, List.map_map]
  exact congrArg _ (congrArg _ (List.map_congr_left fun messages _ => toList_branchText messages))

/-! ## Reading -/

/-- The message of a line. -/
def readMessage (line : List Char) : String := String.ofList (line.drop 1)

/-- The alternatives to which lines belong. -/
def readAlternatives (lines : List (List Char)) : List (List String) :=
  -- No lines are no alternatives, and not an empty one, which splitting would make of them.
  if lines.isEmpty then [] else (Text.splitOn orLine lines).map (·.map readMessage)

/-- The message and the alternatives that a text is made of. -/
def read (text : String) : String × List (List String) :=
  match Text.splitOn '\n' text.toList with
  | [] => ("", [])
  | first :: lines => (String.ofList first, readAlternatives lines)

/-- No message breaks a line, and every alternative has a message. -/
structure IsLegible (f : Failure) : Prop where
  message : Text.IsOneLine f.message
  alternative_ne_nil : ∀ messages ∈ f.alternatives, messages ≠ []
  alternative : ∀ messages ∈ f.alternatives, ∀ message ∈ messages, Text.IsOneLine message

variable {f g : Failure}

theorem orLine_not_mem_map_messageLine (messages : List String) :
    orLine ∉ messages.map messageLine := by
  intro hmem
  obtain ⟨message, _, heq⟩ := List.mem_map.mp hmem
  exact absurd (List.cons.inj heq).1 (by decide)

theorem IsLegible.newline_not_mem (h : f.IsLegible) :
    ∀ line ∈ alternativeLines f.alternatives, '\n' ∉ line := by
  intro line hline
  rcases mem_or_mem_of_mem_intercalate hline with hor | ⟨lines, hlines, hmem⟩
  · rw [List.mem_singleton.mp hor]
    decide
  · obtain ⟨messages, hmessages, rfl⟩ := List.mem_map.mp hlines
    obtain ⟨message, hmessage, rfl⟩ := List.mem_map.mp hmem
    exact List.not_mem_cons_of_ne_of_not_mem (by decide)
      (h.alternative messages hmessages message hmessage)

/-- The lines between the lines with `or` are those of the alternatives. -/
theorem readAlternatives_alternativeLines {alternatives : List (List String)}
    (h : ∀ messages ∈ alternatives, messages ≠ []) :
    readAlternatives (alternativeLines alternatives) = alternatives := by
  cases alternatives with
  | nil => rfl
  | cons first rest =>
      have hread : ∀ message : String, readMessage (messageLine message) = message := fun message =>
        String.ofList_toList
      have hpieces : ∀ lines ∈ rest.map (·.map messageLine), orLine ∉ lines := by
        intro lines hlines
        obtain ⟨messages, _, rfl⟩ := List.mem_map.mp hlines
        exact orLine_not_mem_map_messageLine messages
      have hlines : alternativeLines (first :: rest) = first.map messageLine ++
          (rest.map (·.map messageLine)).flatMap (orLine :: ·) := by
        rw [alternativeLines, List.map_cons, intercalate_cons_eq]
      have hfull : (alternativeLines (first :: rest)).isEmpty = false := by
        simp [hlines, h first List.mem_cons_self]
      rw [readAlternatives, hfull, hlines, Text.splitOn_append_flatMap
        (orLine_not_mem_map_messageLine first) hpieces]
      simp [Function.comp_def, hread]

theorem IsLegible.read_text (h : f.IsLegible) : read f.text = (f.message, f.alternatives) := by
  rw [read, toList_text, Text.splitOn_append_flatMap h.message h.newline_not_mem]
  simp [readAlternatives_alternativeLines h.alternative_ne_nil]

/-- Of two failures with the same text, all but the pointers are the same. -/
theorem IsLegible.text_eq_iff (hf : f.IsLegible) (hg : g.IsLegible) :
    f.text = g.text ↔ f.message = g.message ∧ f.alternatives = g.alternatives := by
  constructor
  · intro htext
    have hread := hf.read_text
    rw [htext, hg.read_text] at hread
    exact ⟨(Prod.mk.inj hread).1.symm, (Prod.mk.inj hread).2.symm⟩
  · rintro ⟨hmessage, halternatives⟩
    rw [text, text, hmessage, halternatives]

end Failure

/-! ## Failures of a value -/

namespace Rules

theorem alternativesOf_ne_nil {schemas : List Json} {refusals : List (List Cause)}
    (hrefusals : ∀ causes ∈ refusals, causes ≠ []) :
    ∀ causes ∈ alternativesOf schemas refusals, causes ≠ [] := by
  intro causes hcauses
  unfold alternativesOf at hcauses
  split at hcauses
  next schema schemas first refusals =>
    obtain ⟨hfirst, hrest⟩ := List.forall_mem_cons.mp hrefusals
    rcases List.mem_cons.mp hcauses with rfl | hcauses
    · exact fun hnil => hfirst (List.append_eq_nil_iff.mp hnil).1
    · obtain ⟨entry, hentry, rfl⟩ := List.mem_map.mp hcauses
      exact hrest _ (List.of_mem_zip (List.mem_of_mem_filter hentry)).2
  next => cases hcauses

variable {judge : Judge} {scope : Scope} {value found : Json}

/-- What refuses a value does so for some cause. -/
theorem ne_nil_of_refuses {schemas : List Json} {refusals : List (List Cause)}
    (h : List.Forall₂ (Refuses judge scope found) schemas refusals) :
    ∀ causes ∈ refusals, causes ≠ [] := by
  induction h with
  | nil => exact List.forall_mem_nil _
  | cons hrefuses _ ih =>
      obtain ⟨violations, _, hviolations, rfl⟩ := hrefuses
      exact List.forall_mem_cons.mpr ⟨by simpa using hviolations, ih⟩

theorem Lists.ne_nil {alternatives : List (List Cause)}
    (h : Lists judge scope value found alternatives) : ∀ causes ∈ alternatives, causes ≠ [] := by
  obtain ⟨schemas, refusals, _, hrefusals, rfl, _⟩ := h
  exact alternativesOf_ne_nil (ne_nil_of_refuses hrefusals)

end Rules

/-- Whatever is reported of a violation that is accounted for can be read back. -/
theorem Violation.Accounted.isLegible {v : Violation} (h : v.Accounted) : v.toFailure.IsLegible where
  message := v.cause.isOneLine_message
  alternative_ne_nil := by
    rcases h with ⟨_, hnone⟩ | ⟨_, _, _, _, _, _, _, _, _, _, hlists⟩
    · simp [toFailure, hnone]
    · intro messages hmessages
      obtain ⟨causes, hcauses, rfl⟩ := List.mem_map.mp hmessages
      simpa using hlists.ne_nil causes hcauses
  alternative := by
    intro messages hmessages message hmessage
    obtain ⟨causes, _, rfl⟩ := List.mem_map.mp hmessages
    obtain ⟨cause, _, rfl⟩ := List.mem_map.mp hmessage
    exact cause.isOneLine_message

theorem Schema.validate_isLegible {schema found : Json} {failures : List Failure}
    (h : validate schema found = .ok failures) : ∀ failure ∈ failures, failure.IsLegible := by
  unfold validate at h
  cases hviolations : violations schema found with
  | error refusal =>
      rw [hviolations] at h
      cases h
  | ok violations =>
      rw [hviolations] at h
      cases h
      intro failure hfailure
      obtain ⟨v, hv, rfl⟩ := List.mem_map.mp hfailure
      exact (violations_accounted hviolations v hv).isLegible

/-- A text belongs to one message and one list of alternatives only, as long as no message breaks a
line and no alternative is empty; and so it is for all failures of a value, whatever its schema. -/
theorem Failure.text_lossless :
    (∀ f g : Failure, f.IsLegible → g.IsLegible →
      (f.text = g.text ↔ f.message = g.message ∧ f.alternatives = g.alternatives)) ∧
    ∀ schema found failures, Schema.validate schema found = .ok failures →
      ∀ failure ∈ failures, failure.IsLegible :=
  ⟨fun _ _ hf hg => hf.text_eq_iff hg, fun _ _ _ hvalidate => Schema.validate_isLegible hvalidate⟩

/-- A schema of the fourth draft: a value is a number or a truth value. -/
def Schema.numberOrTruth : Json :=
  .record [("$schema", .ofString "http://json-schema.org/draft-04/schema"),
    ("anyOf", .arr [.record [("type", .ofString "number")],
      .record [("type", .ofString "boolean")]])]

/-- What this schema says of a text that breaks a line. -/
def Schema.numberOrTruthFailure : Failure :=
  ⟨[], "'\\n' is not valid under any of the given schemas",
    [["'\\n' is not of type 'number'"], ["'\\n' is not of type 'boolean'"]]⟩

/-- Two failures whose messages look like the lines of alternatives have different texts, and what
is said of a text that breaks a line can be read back. -/
theorem Failure.text_lossless_lookalikes :
    let apart : Failure := ⟨[], "\tor", [["or"], ["or\tor"]]⟩
    let together : Failure := ⟨[], "\tor", [["or", "or", "or\tor"]]⟩
    apart.IsLegible ∧ together.IsLegible ∧ apart.text ≠ together.text ∧
      Schema.validate Schema.numberOrTruth (.ofString "\n") = .ok [Schema.numberOrTruthFailure] ∧
      Schema.numberOrTruthFailure.IsLegible := by
  intro apart together
  have hapart : apart.IsLegible := ⟨by decide, by decide, by decide⟩
  have htogether : together.IsLegible := ⟨by decide, by decide, by decide⟩
  have hvalidate : Schema.validate Schema.numberOrTruth (.ofString "\n") =
      .ok [Schema.numberOrTruthFailure] := eq_ok_of_toOption (by decide +kernel)
  refine ⟨hapart, htogether, fun htext => ?_, hvalidate, ?_⟩
  · have hsame := (text_lossless.1 apart together hapart htogether).mp htext
    exact absurd hsame.2 (by decide)
  · exact text_lossless.2 _ _ _ hvalidate _ (List.mem_singleton.mpr rfl)

end Conform
