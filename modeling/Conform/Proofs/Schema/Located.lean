import Conform.Proofs.Json.Positions
import Conform.Proofs.Schema.Placed
import Conform.Schema.Validator
import Conform.Session.Pass
import Mathlib.Data.List.Forall2

/-! # The lines of failures

As long as no schema of the third draft is looked at, every failure of a value
that was read from a text has a place in that text, and what is reported of it
stands on the line on which the place starts.
-/

namespace Conform

open Report

/-! ## Sparing the third draft -/

/-- A schema selects the third draft, or selects none inside one that does. -/
def Scope.isDraft3 (scope : Scope) (schema : Json) : Bool :=
  match draftOf scope.draft schema with
  | .ok draft => draft = .draft3
  | .error _ => false

namespace Judge

/-- The judge that asks another one about the schemas inside a schema. -/
def above (inner : Judge) : Judge where
  report := inner.reportInside
  reportAt := inner.reportAs
  accepts := inner.meets
  evaluatedItems := Rules.evaluatedItems inner
  evaluatedKeys := Rules.evaluatedKeys inner

/-- The judge that gives up when it is asked about a schema of the third draft. -/
def sparing (judge : Judge) : Judge where
  report scope brief found schema :=
    if scope.isDraft3 schema then .failed .notAnObject
    else judge.report scope brief found schema
  reportAt scope brief found schema :=
    if scope.isDraft3 schema then .failed .notAnObject
    else judge.reportAt scope brief found schema
  accepts scope found schema :=
    if scope.isDraft3 schema then .error .notAnObject else judge.accepts scope found schema
  evaluatedItems := judge.evaluatedItems
  evaluatedKeys := judge.evaluatedKeys

/-- The judge that follows schemas down to a depth as `ofDepth` does, but gives up
at the first schema of the third draft. -/
def sparingOfDepth : Nat → Judge
  | 0 => tooDeep
  | depth + 1 => (sparingOfDepth depth).above.sparing

end Judge

/-- The failures of a value under a usable schema, found without looking at a
schema of the third draft. -/
def Schema.validateSparing (schema found : Json) : Except Refusal (List Failure) :=
  match Scope.draftOf Draft.latest schema with
  | .error fault => .error (.fault fault)
  | .ok draft =>
    if draft = .draft3 then .error (.fault .notAnObject)
    else
      let report : Report := .ofExcept do
        let scope ← Scope.root draft false schema
        return (Judge.sparingOfDepth Judge.depthLimit).apply draft scope false found schema
      match report.all with
      | .error fault => .error (.fault fault)
      | .ok violations => .ok (violations.map Violation.toFailure)

theorem Scope.entering_draft {scope inner : Scope} {resource : Resource}
    (h : scope.entering resource = .ok inner) : inner.draft = scope.draft := by
  unfold entering at h
  cases hid : resource.id? with
  | error fault =>
      rw [hid] at h
      cases h
  | ok id =>
      rw [hid] at h
      cases id with
      | none =>
          cases h
          rfl
      | some id =>
          cases hbase : Registry.joined scope.base id with
          | error fault =>
              simp only [bind, Except.bind, hbase] at h
              cases h
          | ok base =>
              simp only [bind, Except.bind, hbase] at h
              cases h
              rfl

theorem Scope.root_draft {draft : Draft} {checksFormats : Bool} {schema : Json} {scope : Scope}
    (h : root draft checksFormats schema = .ok scope) : scope.draft = draft := by
  unfold root at h
  cases hid : (Resource.mk draft schema).id? with
  | error fault =>
      simp only [bind, Except.bind, hid] at h
      cases h
  | ok id =>
      simp only [bind, Except.bind, hid] at h
      cases h
      rfl

theorem Scope.ne_draft3_of_draftOf {scope : Scope} {schema : Json} {draft : Draft}
    (hspared : ¬scope.isDraft3 schema = true) (hdraft : draftOf scope.draft schema = .ok draft) :
    draft ≠ .draft3 := by
  simpa [isDraft3, hdraft] using hspared

namespace Judge

variable {judge : Judge} (hjudge : judge.Sound Violation.Placed) {scope : Scope} {schema : Json}
  (hspared : ¬scope.isDraft3 schema = true) (brief : Bool) (found : Json)

include hjudge hspared

theorem Sound.reportAs_placed :
    (judge.reportAs scope brief found schema).Every Violation.Placed found :=
  ofExcept_bind_every fun _ hdraft =>
    hjudge.apply_placed _ (by exact Scope.ne_draft3_of_draftOf hspared hdraft) brief found schema

theorem Sound.reportInside_placed :
    (judge.reportInside scope brief found schema).Every Violation.Placed found := by
  unfold reportInside
  split
  next b => exact hjudge.apply_placed _ (Scope.ne_draft3_of_draftOf hspared rfl) brief found _
  next =>
    refine ofExcept_bind_every fun inner hinner => ?_
    -- Entering a resource changes the base but not the draft.
    have hinner : ¬inner.isDraft3 schema = true := by
      unfold Scope.isDraft3
      rw [Scope.entering_draft hinner]
      exact hspared
    exact hjudge.reportAs_placed hinner brief found

omit hjudge hspared

/-- Sparing schemas of the third draft keeps all reports placed, at any depth. -/
theorem sparingOfDepth_sound (depth : Nat) : (sparingOfDepth depth).Sound Violation.Placed := by
  induction depth with
  | zero => exact tooDeep_sound
  | succ depth ih =>
      constructor
      · intro scope brief found schema
        simp only [sparingOfDepth, sparing]
        split
        next => exact failed_every _
        next hspared => exact ih.reportInside_placed hspared brief found
      · intro scope brief found schema
        simp only [sparingOfDepth, sparing]
        split
        next => exact failed_every _
        next hspared => exact ih.reportAs_placed hspared brief found

end Judge

/-- Failures that are found without the third draft stand at places of the value. -/
theorem Schema.validateSparing_placed {schema found : Json} {failures : List Failure}
    (h : validateSparing schema found = .ok failures) :
    ∀ failure ∈ failures, ∃ path, found.HasPlace path ∧ failure.pointer = Pointer.ofPath path := by
  unfold validateSparing at h
  split at h
  next => cases h
  next draft _ =>
    split at h
    next => cases h
    next hdraft =>
      dsimp only at h
      split at h
      next => cases h
      next violations hall =>
        cases h
        have hplaced : (Report.ofExcept do
            let scope ← Scope.root draft false schema
            return (Judge.sparingOfDepth Judge.depthLimit).apply draft scope false found
              schema).Every Violation.Placed found := by
          refine ofExcept_bind_every fun scope hscope => ?_
          refine (Judge.sparingOfDepth_sound Judge.depthLimit).apply_placed draft ?_ false found schema
          rw [Scope.root_draft hscope]
          exact hdraft
        intro failure hfailure
        obtain ⟨v, hv, rfl⟩ := List.mem_map.mp hfailure
        exact ⟨v.path, hplaced v (Report.mem_violations_of_all hall hv), rfl⟩

/-! ## Lines -/

/-- What is reported of a failure says what the failure says, on the line on which
the value at its pointer starts: the value stands in the text behind a lead of the
text and the characters that a source of the text has before it. -/
def Finding.Locates (text : String) (lead : List Char) (source : Source) (failure : Failure)
    (finding : Finding) : Prop :=
  finding.message = failure.text ∧
    ∃ path before node after, failure.pointer = Pointer.ofPath path ∧
      source.at? path = some (before, node) ∧
      text.toList = lead ++ before ++ node.chars ++ after ∧
      finding.line = 1 + (lead ++ before).count '\n'

theorem Evaluation.ofFailures_of_lineAt? (file : FilePath) {text : String}
    {failures : List Failure}
    (hlines : ∀ failure ∈ failures, ∃ line,
      lineAt? (Outline.scan text) failure.pointer = some line) :
    (ofFailures file text failures).entries = [] ∧
      (ofFailures file text failures).findings =
        failures.map (finding (Outline.scan text)) := by
  cases failures with
  | nil => exact ⟨rfl, rfl⟩
  | cons first rest =>
      refine ⟨?_, rfl⟩
      refine List.filterMap_eq_nil_iff.mpr fun failure hfailure => ?_
      obtain ⟨line, hline⟩ := hlines failure hfailure
      simp [unlocated?, hline]

/-- Every failure of a value that was read from a text is at a pointer in that text,
if validation that spares the third draft finds the same failures. What is reported
of the failures then stands on the lines on which their values start, and nothing is
logged. -/
theorem Schema.validate_located {text : String} {found schema : Json} {failures : List Failure}
    (hparse : Json.parse text = .ok found) (hvalidate : validate schema found = .ok failures)
    (hspared : validateSparing schema found = validate schema found) :
    (∀ failure ∈ failures, failure.pointer ∈ (Outline.positions text).map (·.1)) ∧
      ∃ lead source, Source.Writes source lead text.toList ∧ source.value = found ∧
        ∀ file, ∃ evaluation : Evaluation,
          (∀ (setup : Setup) (label schemaText : String), setup.validate = validate →
            Json.parse schemaText = .ok schema →
            Evaluation.ofText setup file text label schemaText = .ok evaluation) ∧
          evaluation.entries = [] ∧
          List.Forall₂ (Finding.Locates text lead source) failures evaluation.findings := by
  have hplaced := validateSparing_placed (hspared.trans hvalidate)
  obtain ⟨lead, source, hwrites, rfl⟩ := Json.exists_source_of_parse hparse
  have hplaces : ∀ failure ∈ failures, ∃ path before node,
      failure.pointer = Pointer.ofPath path ∧ source.at? path = some (before, node) := by
    intro failure hfailure
    obtain ⟨path, ⟨inner, hleads⟩, hpointer⟩ := hplaced failure hfailure
    obtain ⟨before, node, hplace, _⟩ :=
      (source.leads_iff_at? hwrites.wellFormed path inner).mp hleads
    exact ⟨path, before, node, hpointer, hplace⟩
  refine ⟨?_, lead, source, hwrites, rfl, fun file => ?_⟩
  · intro failure hfailure
    obtain ⟨path, before, node, hpointer, hplace⟩ := hplaces failure hfailure
    exact List.mem_map.mpr ⟨_, (Outline.mem_positions_iff hwrites _ _).mpr
      ⟨path, before, node, hpointer, hplace, rfl⟩, rfl⟩
  · have hlines : ∀ failure ∈ failures, ∃ line,
        Evaluation.lineAt? (Outline.scan text) failure.pointer = some line := by
      intro failure hfailure
      obtain ⟨path, before, node, hpointer, hplace⟩ := hplaces failure hfailure
      rw [hpointer]
      exact ⟨_, Outline.lineAt?_ofPath_of_writes hwrites hplace⟩
    obtain ⟨hentries, hfindings⟩ := Evaluation.ofFailures_of_lineAt? file hlines
    refine ⟨Evaluation.ofFailures file text failures, ?_, hentries, ?_⟩
    · intro setup label schemaText hsetup hschema
      simp only [Evaluation.ofText, hparse, Evaluation.ofValue, hschema, hsetup, hvalidate]
    · rw [hfindings, List.forall₂_map_right_iff, List.forall₂_same]
      intro failure hfailure
      obtain ⟨path, before, node, hpointer, hplace⟩ := hplaces failure hfailure
      obtain ⟨after, hchars⟩ := source.exists_chars_eq_of_at? hplace
      obtain ⟨trail, _, htext⟩ := hwrites.text_eq
      refine ⟨rfl, path, before, node, after ++ trail, hpointer, hplace, ?_, ?_⟩
      · rw [htext, hchars]
        simp
      · have hline := Outline.lineAt?_ofPath_of_writes hwrites hplace
        simp only [Evaluation.finding, Evaluation.lineAt?, hpointer, hline, Option.getD_some]
        rfl

/-- A schema of the fourth draft: the items of a value hold something. -/
def Schema.fullItems : Json :=
  .record [("$schema", .ofString "http://json-schema.org/draft-04/schema"),
    ("items", .record [("minItems", .ofInt 1)])]

/-- What this schema says of an array with one item that holds nothing. -/
def Schema.fullItemsFailure : Failure := ⟨Text.ofString "/0", "[] should be non-empty", []⟩

theorem Schema.validate_located_fullItems :
    Json.parse "[\n[]]" = .ok (.arr [.arr []]) ∧
      validate fullItems (.arr [.arr []]) = .ok [fullItemsFailure] ∧
      ∀ failure ∈ [fullItemsFailure],
        failure.pointer ∈ (Outline.positions "[\n[]]").map (·.1) := by
  have hparse : Json.parse "[\n[]]" = .ok (.arr [.arr []]) := by cbv
  have hvalidate : validate fullItems (.arr [.arr []]) = .ok [fullItemsFailure] :=
    eq_ok_of_toOption (by decide +kernel)
  have hspared : validateSparing fullItems (.arr [.arr []]) = .ok [fullItemsFailure] :=
    eq_ok_of_toOption (by decide +kernel)
  exact ⟨hparse, hvalidate,
    (validate_located hparse hvalidate (hspared.trans hvalidate.symm)).1⟩

end Conform
