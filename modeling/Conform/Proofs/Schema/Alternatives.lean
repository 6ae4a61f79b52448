import Conform.Proofs.Schema.Sound
import Conform.Schema.Validator
import Mathlib.Data.List.Forall2

/-! # What is listed of alternatives

Where a value meets none of several schemas, the failure lists what speaks
against it. There is one list for each of the schemas, except that what the
schemas `false` say is added to the list of the first schema.
-/

namespace Conform

open Report Violation

namespace Rules

variable {judge : Judge} {scope : Scope} {found : Json}

/-- A schema is not met for some causes, in the order in which they are reported. -/
def Refuses (judge : Judge) (scope : Scope) (found schema : Json) (causes : List Cause) : Prop :=
  ∃ violations, (judge.report scope false found schema).all = .ok violations ∧
    violations ≠ [] ∧ causes = violations.map Violation.cause

/-! ## Lists for several schemas -/

/-- The schema that nothing meets. -/
def isFalse : Json → Bool
  | .bool false => true
  | _ => false

theorem isFalse_iff {schema : Json} : isFalse schema = true ↔ schema = .bool false := by
  unfold isFalse
  split <;> simp_all

/-- The causes for the schemas `false`, as one list. -/
def causesOfFalse (schemas : List Json) (refusals : List (List Cause)) : List Cause :=
  ((schemas.zip refusals).filter fun entry => isFalse entry.1).flatMap (·.2)

/-- The causes for each of the schemas other than `false`. -/
def causesOfOthers (schemas : List Json) (refusals : List (List Cause)) : List (List Cause) :=
  ((schemas.zip refusals).filter fun entry => !isFalse entry.1).map (·.2)

/-- The causes for several schemas, as they are listed: what speaks for the
schemas `false` behind the first schema is added to what speaks for this one. -/
def alternativesOf : List Json → List (List Cause) → List (List Cause)
  | _ :: schemas, causes :: refusals =>
    (causes ++ causesOfFalse schemas refusals) :: causesOfOthers schemas refusals
  | _, _ => []

theorem causesOfFalse_eq_nil {schemas : List Json} (hfalse : .bool false ∉ schemas)
    (refusals : List (List Cause)) : causesOfFalse schemas refusals = [] := by
  have hnone : (schemas.zip refusals).filter (fun entry => isFalse entry.1) = [] := by
    refine List.filter_eq_nil_iff.mpr fun entry hentry hisFalse => hfalse ?_
    rw [← isFalse_iff.mp hisFalse]
    exact (List.of_mem_zip hentry).1
  rw [causesOfFalse, hnone, List.flatMap_nil]

theorem causesOfOthers_eq {schemas : List Json} (hfalse : .bool false ∉ schemas)
    {refusals : List (List Cause)} (hlength : schemas.length = refusals.length) :
    causesOfOthers schemas refusals = refusals := by
  have hall : (schemas.zip refusals).filter (fun entry => !isFalse entry.1) =
      schemas.zip refusals := by
    refine List.filter_eq_self.mpr fun entry hentry => ?_
    rw [Bool.not_eq_true', Bool.eq_false_iff]
    intro hisFalse
    rw [isFalse_iff] at hisFalse
    exact hfalse (hisFalse ▸ (List.of_mem_zip hentry).1)
  rw [causesOfOthers, hall]
  exact List.map_snd_zip (Nat.le_of_eq hlength.symm)

theorem causesOfOthers_length_lt {schemas : List Json} (hfalse : .bool false ∈ schemas)
    {refusals : List (List Cause)} (hlength : schemas.length = refusals.length) :
    (causesOfOthers schemas refusals).length < refusals.length := by
  have hdropped : ∃ entry ∈ schemas.zip refusals, ¬(!isFalse entry.1) = true := by
    obtain ⟨i, hi, hschema⟩ := List.mem_iff_getElem.mp hfalse
    refine ⟨(schemas[i], refusals[i]), List.mem_iff_getElem.mpr ⟨i, by simp; omega, by simp⟩, ?_⟩
    simp [hschema, isFalse]
  have hshorter := List.length_filter_lt_length_iff_exists.mpr hdropped
  rw [List.length_zip, hlength, Nat.min_self] at hshorter
  rwa [causesOfOthers, List.length_map]

/-- There is one list for each schema exactly if no schema behind the first is `false`. -/
theorem alternativesOf_eq_iff {R : Json → List Cause → Prop} {schemas : List Json}
    {refusals : List (List Cause)} (hrefusals : List.Forall₂ R schemas refusals) :
    alternativesOf schemas refusals = refusals ↔ .bool false ∉ schemas.tail := by
  cases hrefusals with
  | nil => simp [alternativesOf]
  | @cons schema causes schemas refusals _ hrest =>
      rw [alternativesOf, List.tail_cons]
      constructor
      · intro heq hfalse
        have hshorter := causesOfOthers_length_lt hfalse hrest.length_eq
        rw [(List.cons.inj heq).2] at hshorter
        exact Nat.lt_irrefl _ hshorter
      · intro hfalse
        rw [causesOfFalse_eq_nil hfalse, causesOfOthers_eq hfalse hrest.length_eq, List.append_nil]

/-! ## Trying several schemas -/

/-- Where no schema is met, the first one refuses the value and of the others none is met. -/
theorem tryEach_cons {index : Nat} {schema : Json} {schemas : List Json} {trial : Trial}
    (htrial : tryEach judge scope found index (schema :: schemas) = .ok trial)
    (hmet : trial.met = none) : ∃ causes later, Refuses judge scope found schema causes ∧
      tryEach judge scope found (index + 1) schemas = .ok later ∧ later.met = none ∧
      trial.refused = (listedUnder index schema, causes) :: later.refused := by
  rw [tryEach] at htrial
  cases hall : (judge.report scope false found schema).all with
  | error fault =>
      rw [hall] at htrial
      cases htrial
  | ok violations =>
      simp only [hall, bind, Except.bind] at htrial
      split at htrial
      next =>
        cases htrial
        cases hmet
      next hviolations =>
        cases hlater : tryEach judge scope found (index + 1) schemas with
        | error fault =>
            rw [hlater] at htrial
            cases htrial
        | ok later =>
            rw [hlater] at htrial
            cases htrial
            exact ⟨_, later, ⟨violations, hall, by simpa using hviolations, rfl⟩, rfl, hmet, rfl⟩

/-- Behind the first schema only `false` is listed with the first one. -/
theorem refused_of_tryEach {index : Nat} (hindex : index ≠ 0) {schemas : List Json}
    {trial : Trial} (htrial : tryEach judge scope found index schemas = .ok trial)
    (hmet : trial.met = none) : ∃ refusals,
      List.Forall₂ (Refuses judge scope found) schemas refusals ∧
        (trial.refused.filter (·.1 == 0)).flatMap (·.2) = causesOfFalse schemas refusals ∧
        (trial.refused.filter (!·.1 == 0)).map (·.2) = causesOfOthers schemas refusals := by
  induction schemas generalizing index trial with
  | nil =>
      cases htrial
      exact ⟨[], .nil, rfl, rfl⟩
  | cons schema schemas ih =>
      obtain ⟨causes, later, hrefuses, hlater, hnone, hrefused⟩ := tryEach_cons htrial hmet
      obtain ⟨refusals, hrefusals, hfirst, hothers⟩ := ih (Nat.succ_ne_zero index) hlater hnone
      -- Numbers only go up, so zero can only stand for `false`.
      have hzero : (listedUnder index schema == 0) = isFalse schema := by
        unfold listedUnder isFalse
        split <;> simp [hindex]
      refine ⟨causes :: refusals, .cons hrefuses hrefusals, ?_, ?_⟩
      · rw [hrefused, causesOfFalse, List.zip_cons_cons, List.filter_cons, List.filter_cons, hzero]
        split
        next => rw [List.flatMap_cons, List.flatMap_cons, hfirst, causesOfFalse]
        next => exact hfirst
      · rw [hrefused, causesOfOthers, List.zip_cons_cons, List.filter_cons, List.filter_cons, hzero]
        split
        next => rw [List.map_cons, List.map_cons, hothers, causesOfOthers]
        next => exact hothers

/-- The alternatives of a trial that met no schema. -/
theorem alternatives_of_tryEach {schemas : List Json} {trial : Trial}
    (htrial : tryEach judge scope found 0 schemas = .ok trial) (hmet : trial.met = none) :
    ∃ refusals, List.Forall₂ (Refuses judge scope found) schemas refusals ∧
      trial.alternatives = alternativesOf schemas refusals := by
  cases schemas with
  | nil =>
      cases htrial
      exact ⟨[], .nil, rfl⟩
  | cons schema schemas =>
      obtain ⟨causes, later, hrefuses, hlater, hnone, hrefused⟩ := tryEach_cons htrial hmet
      obtain ⟨refusals, hrefusals, hfirst, hothers⟩ :=
        refused_of_tryEach (Nat.succ_ne_zero 0) hlater hnone
      have hzero : listedUnder 0 schema = 0 := by
        unfold listedUnder
        split <;> rfl
      have hcauses : causes ≠ [] := by
        obtain ⟨violations, _, hviolations, rfl⟩ := hrefuses
        simpa using hviolations
      refine ⟨causes :: refusals, .cons hrefuses hrefusals, ?_⟩
      rw [Trial.alternatives, hrefused, hzero, List.partition_eq_filter_filter]
      simpa [alternativesOf, hfirst, hcauses, Function.comp_def] using hothers

/-- Alternatives are listed for the schemas that a value holds: one list for each
of them, unless a schema behind the first one is `false`. -/
def Lists (judge : Judge) (scope : Scope) (value found : Json) (alternatives : List (List Cause)) :
    Prop :=
  ∃ schemas refusals, heldBy value = .ok schemas ∧
    List.Forall₂ (Refuses judge scope found) schemas refusals ∧
    alternatives = alternativesOf schemas refusals ∧
    (alternatives = refusals ↔ .bool false ∉ schemas.tail)

variable {value : Json} {trial : Trial} {v : Violation}

theorem NoneMet.lists (hnone : NoneMet judge scope value found trial) :
    Lists judge scope value found trial.alternatives := by
  obtain ⟨schemas, hschemas, htrial, hmet⟩ := hnone
  obtain ⟨refusals, hrefusals, halternatives⟩ := alternatives_of_tryEach htrial hmet
  refine ⟨schemas, refusals, hschemas, hrefusals, halternatives, ?_⟩
  rw [halternatives, alternativesOf_eq_iff hrefusals]

theorem NoneMet.report_eq (hnone : NoneMet judge scope value found trial) {rule : Rule}
    (hrule : rule = .anyOf ∨ rule = .oneOf) (brief : Bool) (schema : Members) :
    rule.report judge scope brief schema value found = noAlternative found trial := by
  obtain ⟨schemas, hschemas, htrial, hmet⟩ := hnone
  rcases hrule with rfl | rfl
  · simp only [Rule.report, anyOf, hschemas, bind, Except.bind, htrial, hmet]
    rfl
  · simp only [Rule.report, oneOf, hschemas, bind, Except.bind, htrial, hmet]
    rfl

/-- What a rule that demands one of several schemas says of a value. -/
def SaysOfSeveral (judge : Judge) (scope : Scope) (value found : Json) (v : Violation) : Prop :=
  v.cause = .noAlternative found ∧ Lists judge scope value found v.alternatives ∨
    v.cause.IsPlain ∧ v.alternatives = []

theorem noAlternative_says (hnone : NoneMet judge scope value found trial) :
    (noAlternative found trial).Every (SaysOfSeveral judge scope value) found := by
  intro v hv
  obtain rfl := List.mem_singleton.mp hv
  exact Or.inl ⟨rfl, hnone.lists⟩

/-- Whoever judges the schemas, the two rules that demand one of several say nothing else. -/
theorem report_says {rule : Rule} (hrule : rule = .anyOf ∨ rule = .oneOf) (judge : Judge)
    (scope : Scope) (brief : Bool) (schema : Members) (value found : Json) :
    (rule.report judge scope brief schema value found).Every (SaysOfSeveral judge scope value)
      found := by
  rcases hrule with rfl | rfl
  · exact anyOf_every scope value found fun _ => noAlternative_says
  · refine oneOf_every scope value found (fun _ => noAlternative_says) fun _ v hv => ?_
    obtain rfl := List.mem_singleton.mp hv
    exact Or.inr ⟨trivial, rfl⟩

end Rules

/-! ## Failures -/

/-- The violation is, apart from the steps to its place, what one of the rules that
demand one of several schemas says of a value that meets none of them. -/
def Violation.StemsFromSeveral (v : Violation) : Prop :=
  ∃ depth scope around schema rule value found,
    Scope.Offers scope around schema rule value ∧
      (rule.report (.ofDepth depth) scope false schema value found).violations =
        [{ v with path := [] }] ∧
      v.cause = .noAlternative found ∧
      Rules.Lists (.ofDepth depth) scope value found v.alternatives

/-- What is listed of alternatives is accounted for. -/
def Violation.Accounted (v : Violation) : Prop :=
  v.cause.IsPlain ∧ v.alternatives = [] ∨ v.StemsFromSeveral

theorem Violation.accounted_carried : Carried fun _ v => v.Accounted where
  plain hcause := Or.inl ⟨hcause, rfl⟩
  item _ haccounted := haccounted
  member _ haccounted := haccounted
  name haccounted := haccounted

namespace Judge

variable {judge : Judge} (scope : Scope) (brief : Bool) (found schema : Json)

/-- The rule that names members which are not there lists no alternatives of its own. -/
theorem Sound.propertiesWithRequired_accounted (hjudge : judge.Sound fun _ v => v.Accounted)
    (value : Json) :
    (Rules.propertiesWithRequired judge scope brief value found).Every
      (fun _ v => v.Accounted) found := by
  unfold Rules.propertiesWithRequired
  split
  · refine ofExcept_bind_every fun _ _ => each_every fun (key, schema) _ => ?_
    dsimp only
    split
    next item hitem =>
      exact hjudge.reportIn_key accounted_carried scope brief (Entries.mem_of_lookup hitem) schema
    next =>
      refine ofExcept_bind_every fun requires _ => ?_
      split
      · intro v hv
        obtain rfl := List.mem_singleton.mp hv
        exact Or.inl ⟨trivial, rfl⟩
      · exact clean_every
  · exact clean_every

theorem apply_ofDepth_accounted {depth : Nat}
    (hjudge : (ofDepth depth).Sound fun _ v => v.Accounted) (around : Draft) :
    ((ofDepth depth).apply around scope brief found schema).Every (fun _ v => v.Accounted) found := by
  refine hjudge.apply_every accounted_carried scope brief around found schema ?_ ?_
  · intro members rule value _ hoffers trial hnone v hv
    obtain rfl := List.mem_singleton.mp hv
    exact Or.inr ⟨depth, scope, around, members, rule, value, found, hoffers,
      by rw [hnone.report_eq hoffers.rule]; rfl, rfl, hnone.lists⟩
  · exact fun _ value _ => hjudge.propertiesWithRequired_accounted scope brief found value

/-- At every depth, what is listed of alternatives is accounted for. -/
theorem ofDepth_accounted (depth : Nat) : (ofDepth depth).Sound fun _ v => v.Accounted := by
  induction depth with
  | zero => exact tooDeep_sound
  | succ depth ih =>
      have hreportAt : ∀ scope brief found schema,
          ((ofDepth depth).reportAs scope brief found schema).Every
            (fun _ v => v.Accounted) found := fun scope brief found schema =>
        ofExcept_bind_every fun _ _ => apply_ofDepth_accounted _ brief found schema ih _
      refine ⟨fun scope brief found schema => ?_, hreportAt⟩
      -- A schema inside another one is looked at as it stands, or as a resource of its own.
      change ((ofDepth depth).reportInside scope brief found schema).Every _ found
      unfold reportInside
      split
      · exact apply_ofDepth_accounted scope brief found _ ih _
      · exact ofExcept_bind_every fun inner _ => hreportAt inner brief found schema

end Judge

theorem Schema.violations_accounted {schema found : Json} {violations : List Violation}
    (h : Schema.violations schema found = .ok violations) : ∀ v ∈ violations, v.Accounted := by
  unfold Schema.violations at h
  split at h
  next =>
    split at h
    next => cases h
    next draft _ =>
      split at h
      next => cases h
      next => cases h
      next =>
        split at h
        next => cases h
        next reported hall =>
          cases h
          have hreport : (report draft false false found schema).Every
              (fun _ v => v.Accounted) found :=
            ofExcept_bind_every fun scope _ =>
              Judge.apply_ofDepth_accounted scope false found schema
                (Judge.ofDepth_accounted Judge.depthLimit) draft
          exact fun v hv => hreport v (mem_violations_of_all hall hv)
  next => cases h

/-- A schema of the sixth draft: a value is a text, or nothing at all. -/
def Schema.textOrNothing : Json :=
  .record [("$schema", .ofString "http://json-schema.org/draft-06/schema"),
    ("anyOf", .arr [.record [("type", .ofString "string")], .bool false])]

theorem Schema.validate_textOrNothing :
    validate textOrNothing (.ofInt 1) = .ok [⟨[], "1 is not valid under any of the given schemas",
      [["1 is not of type 'string'", "False schema does not allow 1"]]⟩] :=
  eq_ok_of_toOption (by decide +kernel)

/-- Where none of several schemas is met, there is one list of causes for each of
them, in the order in which they stand, except that the causes for the schemas
`false` behind the first one are in the list of the first one. This is what the
two rules that demand one of several schemas report, whoever judges the schemas,
and every failure of a value lists either what one of them reported or nothing. -/
theorem Schema.alternatives_listed {rule : Rule} (hrule : rule = .anyOf ∨ rule = .oneOf)
    {schema found : Json} {failures : List Failure}
    (hvalidate : validate schema found = .ok failures) :
    (∀ (judge : Judge) (scope : Scope) (brief : Bool) (around : Members) (value inner : Json),
        ∀ v ∈ (rule.report judge scope brief around value inner).violations,
          v.cause = .noAlternative inner ∧ Rules.Lists judge scope value inner v.alternatives ∨
            v.cause.IsPlain ∧ v.alternatives = []) ∧
      ∃ violations : List Violation, failures = violations.map Violation.toFailure ∧
        ∀ v ∈ violations, v.cause.IsPlain ∧ v.alternatives = [] ∨ v.StemsFromSeveral := by
  constructor
  · intro judge scope brief around value inner
    exact Rules.report_says hrule judge scope brief around value inner
  · unfold validate at hvalidate
    cases hviolations : violations schema found with
    | error refusal =>
        rw [hviolations] at hvalidate
        cases hvalidate
    | ok violations =>
        rw [hviolations] at hvalidate
        cases hvalidate
        exact ⟨violations, rfl, violations_accounted hviolations⟩

/-- The one failure of a number, which is neither a text nor nothing, is accounted for. -/
theorem Schema.alternatives_listed_textOrNothing :
    ∃ v : Violation, v.toFailure = ⟨[], "1 is not valid under any of the given schemas",
        [["1 is not of type 'string'", "False schema does not allow 1"]]⟩ ∧
      (v.cause.IsPlain ∧ v.alternatives = [] ∨ v.StemsFromSeveral) := by
  obtain ⟨violations, hfailures, haccounted⟩ :=
    (alternatives_listed (Or.inl rfl) validate_textOrNothing).2
  obtain ⟨v, rfl, hv⟩ := List.map_eq_singleton_iff.mp hfailures.symm
  exact ⟨v, hv, haccounted v (List.mem_singleton.mpr rfl)⟩

/-- What speaks against a number is not listed once for each of the two schemas. -/
theorem Schema.alternatives_merged : ∃ failure, validate textOrNothing (.ofInt 1) = .ok [failure] ∧
    failure.alternatives ≠ [["1 is not of type 'string'"], ["False schema does not allow 1"]] :=
  ⟨_, validate_textOrNothing, by decide⟩

end Conform
