import Conform.Proofs.Json.Positions
import Conform.Proofs.Json.Refusals
import Conform.Schema.Validator
import Conform.Session.Pass

/-! # What an evaluation comes to

What an evaluation finds stands on lines of the file, so the diagnostics say what
was found as it was found. An evaluation has a result unless one of the texts is
nested too deeply or has an integer of too many digits, or validating ends with a
fault.
-/

namespace Conform

theorem Outline.one_le_of_scan {text : String} {value : Json}
    (hparse : Json.parse text = .ok value) {pointer : Text} {line : Nat}
    (h : Evaluation.lineAt? (scan text) pointer = some line) : 1 ≤ line := by
  obtain ⟨lead, source, hwrites, -⟩ := Json.exists_source_of_parse hparse
  rw [Evaluation.lineAt?, scan, scanChars_of_writes hwrites, Option.bind_some, lineAt?] at h
  obtain ⟨segments, -, hline⟩ := Option.bind_eq_some_iff.mp h
  obtain ⟨_, before, _, -, -, rfl⟩ := (source.lineOf?_outline_iff _ _ _).mp hline
  omega

/-- The diagnostic that says in a file what was found there. -/
def Finding.inFile (file : FilePath) (f : Finding) : Diagnostic := ⟨file, f.message, f.line, .error⟩

namespace Evaluation

variable {setup : Setup} {file : FilePath} {text label schemaText : String}
  {evaluation : Evaluation}

/-! ## Findings -/

theorem one_le_line_of_ofFailures {value : Json} (hparse : Json.parse text = .ok value)
    (failures : List Failure) : ∀ f ∈ (ofFailures file text failures).findings, 1 ≤ f.line := by
  intro f hf
  cases failures with
  | nil => cases hf
  | cons failure rest =>
      obtain ⟨failure, -, rfl⟩ := List.mem_map.mp hf
      rw [finding]
      cases hline : lineAt? (Outline.scan text) failure.pointer with
      | none => exact Nat.le_refl 1
      | some line => exact Outline.one_le_of_scan hparse hline

theorem one_le_line (h : ofText setup file text label schemaText = .ok evaluation) :
    ∀ f ∈ evaluation.findings, 1 ≤ f.line := by
  unfold ofText at h
  split at h
  next fault line hparse =>
    split at h
    next =>
      cases h
      simp [silent]
    next =>
      cases h
      intro f hf
      rw [List.mem_singleton.mp hf]
      cases Json.occurs_of_parse hparse with
      | defect _ hline => exact hline
  next => cases h
  next found hparse =>
    unfold ofValue at h
    split at h
    next =>
      cases h
      simp [silent]
    next => cases h
    next =>
      split at h
      next =>
        cases h
        simp [silent]
      next => cases h
      next failures _ =>
        cases h
        exact one_le_line_of_ofFailures hparse failures

/-- The diagnostics are the findings, each of them as it is. -/
theorem diagnostics_eq (h : ofText setup file text label schemaText = .ok evaluation) :
    evaluation.diagnostics file = evaluation.findings.map (·.inFile file) := by
  refine List.map_congr_left fun f hf => ?_
  have hline := one_le_line h f hf
  simp only [Diagnostic.atLine, Finding.inFile, Diagnostic.mk.injEq, true_and, and_true]
  omega

/-! ## Schemas that everything meets -/

/-- A validation that comes to an end finds nothing if the report of its schema is clean. -/
theorem eq_nil_of_validate_clean {schema found : Json} {draft : Draft} {failures : List Failure}
    (hdraft : Scope.draftOf .latest schema = .ok draft)
    (hclean : Schema.report draft false false found schema = .clean)
    (h : Schema.validate schema found = .ok failures) : failures = [] := by
  rw [Schema.validate, Schema.violations, hdraft] at h
  split at h
  · dsimp only at h
    rw [hclean] at h
    cases hdefect : Schema.firstDefect? draft schema with
    | error fault =>
        rw [hdefect] at h
        cases h
    | ok defect =>
        rw [hdefect] at h
        cases defect with
        | some violation => cases h
        | none =>
            cases h
            rfl
  · cases h

/-- A validation against the empty schema that comes to an end finds nothing. -/
theorem eq_nil_of_validate_empty {found : Json} {failures : List Failure}
    (h : Schema.validate (.obj []) found = .ok failures) : failures = [] := by
  have hdraft : Scope.draftOf .latest (.obj []) = .ok .latest := rfl
  exact eq_nil_of_validate_clean hdraft rfl h

/-! ## Evaluations without a result -/

/-- The texts that are read: that of the file and, if it has a value, that of the schema. -/
def IsRead (text schemaText given : String) : Prop :=
  given = text ∨ given = schemaText ∧ ∃ found, Json.parse text = .ok found

/-- Why the evaluation of the text of a file against the text of a schema has no result. -/
inductive Stops (text schemaText : String) : Breakdown → Prop
  /-- A text is nested too deeply. -/
  | tooDeep {given : String} (hread : IsRead text schemaText given)
      (hparse : Json.parse given = .error .tooDeep) : Stops text schemaText (.fault .tooDeep)
  /-- An integer has too many digits. -/
  | tooManyDigits {given : String} {ds : List Char} (hread : IsRead text schemaText given)
      (hparse : Json.parse given = .error (.tooManyDigits ds.length)) (hmem : ds <:+: given.toList)
      (hdigits : ∀ c ∈ ds, c.isDigit = true) (hlong : Json.digitLimit < ds.length) :
      Stops text schemaText (.tooManyDigits ds.length)
  /-- Both texts are read and the schema has the form of one, but validating ends with a fault. -/
  | fault {found schema : Json} {f : Fault} (hfound : Json.parse text = .ok found)
      (hschema : Json.parse schemaText = .ok schema) (hform : Schema.isSchema schema = true)
      (hvalidate : Schema.validate schema found = .error (.fault f)) :
      Stops text schemaText (.fault f)

/-- A text that is read and not malformed, but has no value, stops the evaluation. -/
theorem Stops.of_parse {given : String} {e : ReadError} (hread : IsRead text schemaText given)
    (hparse : Json.parse given = .error e) (hdefect : ∀ fault line, e ≠ .defect fault line) :
    Stops text schemaText (unreadable e) := by
  cases Json.occurs_of_parse hparse with
  | defect fault _ => exact absurd rfl (hdefect fault _)
  | tooDeep => exact .tooDeep hread hparse
  | tooManyDigits hmem hdigits hlong => exact .tooManyDigits hread hparse hmem hdigits hlong

theorem isSchema_of_validate_eq_fault {schema found : Json} {f : Fault}
    (h : Schema.validate schema found = .error (.fault f)) : Schema.isSchema schema = true := by
  by_contra hform
  rw [Schema.validate, Schema.violations, if_neg hform] at h
  cases h

/-- An evaluation has a result unless one of the texts it reads is nested too deeply or has an
integer of too many digits, or validating ends with a fault. Everything else that may be wrong with
the texts is told of in the result. -/
theorem ofText_eq_error_iff (providers : List Provider) (host : Host) (display : Display)
    (file : FilePath) (text label schemaText : String) (reason : Breakdown) :
    ofText ⟨providers, host, display, Schema.validate⟩ file text label schemaText = .error reason ↔
      Stops text schemaText reason := by
  constructor
  · intro h
    unfold ofText at h
    split at h
    next => split at h <;> cases h
    next e hdefect hparse =>
      cases h
      exact .of_parse (Or.inl rfl) hparse hdefect
    next found hfound =>
      have hread : IsRead text schemaText schemaText := Or.inr ⟨rfl, found, hfound⟩
      unfold ofValue at h
      split at h
      next => cases h
      next e hdefect hparse =>
        cases h
        exact .of_parse hread hparse hdefect
      next schema hschema =>
        split at h
        next => cases h
        next f hvalidate =>
          cases h
          exact .fault hfound hschema (isSchema_of_validate_eq_fault hvalidate) hvalidate
        next => cases h
  · rintro (⟨rfl | ⟨rfl, found, hfound⟩, hparse⟩ | ⟨rfl | ⟨rfl, found, hfound⟩, hparse, _, _, _⟩ |
      ⟨hfound, hschema, _, hvalidate⟩)
    · simp only [ofText, hparse, unreadable]
    · simp only [ofText, ofValue, hfound, hparse, unreadable]
    · simp only [ofText, hparse, unreadable]
    · simp only [ofText, ofValue, hfound, hparse, unreadable]
    · simp only [ofText, ofValue, hfound, hschema, hvalidate]

/-! ## Texts that stop an evaluation -/

/-- The pointer of a reference that led nowhere, if that stopped an evaluation. -/
def lostPointer? : Except Breakdown Evaluation → Option Text
  | .error (.fault (.unresolved (.noPlace pointer _))) => some pointer
  | _ => none

theorem eq_of_lostPointer? {result : Except Breakdown Evaluation} {pointer : Text}
    (h : lostPointer? result = some pointer) :
    ∃ document, result = .error (.fault (.unresolved (.noPlace pointer document))) := by
  unfold lostPointer? at h
  split at h
  next document =>
    cases h
    exact ⟨document, rfl⟩
  next => cases h

/-- A schema of the fourth draft that refers to a place which it does not have. -/
def lostSchema : String :=
  "\x7b\"$schema\": \"http://json-schema.org/draft-04/schema#\", \"$ref\": \"#/x\"\x7d"

/-- Ones in a row are an integer, which stops an evaluation if there are too many of them. -/
theorem ofText_replicate_one (setup : Setup) (file : FilePath) (label schemaText : String) {n : Nat}
    (h : Json.digitLimit < n) :
    ofText setup file (String.ofList (List.replicate n '1')) label schemaText =
      .error (.tooManyDigits n) := by
  have hdigits : ∀ d ∈ List.replicate n '1', d.isDigit = true := by
    intro d hd
    rw [(List.mem_replicate.mp hd).2]
    decide
  have hzero : (List.replicate n '1').head? ≠ some '0' := by
    cases n with
    | zero => simp
    | succ n => simp [List.replicate_succ]
  have hparse := Json.parse_digits hzero hdigits (by rwa [List.length_replicate])
  rw [List.length_replicate] at hparse
  simp only [ofText, hparse, unreadable]

/-- A reference that leads nowhere stops an evaluation, and so does an integer of 4301 digits. -/
theorem ofText_stops_lost :
    (∃ document, ofText ⟨[], ⟨[]⟩, .silent, Schema.validate⟩ ⟨.root, ["a.json"]⟩ "1" "S" lostSchema =
      .error (.fault (.unresolved (.noPlace (Text.ofString "/x") document)))) ∧
    ofText ⟨[], ⟨[]⟩, .silent, Schema.validate⟩ ⟨.root, ["a.json"]⟩
      (String.ofList (List.replicate 4301 '1')) "S" Target.emptyText =
        .error (.tooManyDigits 4301) :=
  ⟨eq_of_lostPointer? (by decide +kernel), ofText_replicate_one _ _ _ _ (by decide)⟩

end Evaluation

end Conform
