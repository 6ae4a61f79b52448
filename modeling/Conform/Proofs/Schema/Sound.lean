import Conform.Proofs.Entries
import Conform.Proofs.Schema.Carried
import Conform.Schema.Evaluation

/-! # Rules carry on properties of violations

If the answers of a judge have a property that is carried on, so have the reports
of every rule that asks it. Three rules are left to who uses this: the
alternatives that are listed where no schema is met come from the rules that try
schemas, and one rule names members that an object does not have.
-/

namespace Conform

open Report Violation

/-- The reports that a judge answers with have a property, as reports on the values asked about. -/
structure Judge.Sound (judge : Judge) (P : Json → Violation → Prop) : Prop where
  report : ∀ scope brief found schema, (judge.report scope brief found schema).Every P found
  reportAt : ∀ scope brief found schema, (judge.reportAt scope brief found schema).Every P found

variable {P : Json → Violation → Prop}

theorem Judge.tooDeep_sound : tooDeep.Sound P where
  report _ _ _ _ := failed_every _
  reportAt _ _ _ _ := failed_every _

variable (hP : Carried P)

include hP

theorem Judge.Sound.reportIn_index {judge : Judge} (hjudge : judge.Sound P) (scope : Scope)
    (brief : Bool) {items : List Json} {n : Nat} {item : Json} (hitem : items[n]? = some item)
    (schema : Json) : (judge.reportIn scope brief (.index n) item schema).Every P (.arr items) := by
  unfold reportIn
  split
  · exact hP.violation_every trivial
  · exact hP.within_index_every hitem (hjudge.report scope brief item schema)

theorem Judge.Sound.reportIn_key {judge : Judge} (hjudge : judge.Sound P) (scope : Scope)
    (brief : Bool) {members : Members} {key : Text} {value : Json}
    (hmember : (key, value) ∈ members) (schema : Json) :
    (judge.reportIn scope brief (.key key) value schema).Every P (.obj members) := by
  unfold reportIn
  split
  · exact hP.violation_every trivial
  · exact hP.within_key_every hmember (hjudge.report scope brief value schema)

omit hP

namespace Rules

/-- None of the schemas that a value holds is met. -/
def NoneMet (judge : Judge) (scope : Scope) (value found : Json) (trial : Trial) : Prop :=
  ∃ branches, heldBy value = .ok branches ∧
    tryEach judge scope found 0 branches = .ok trial ∧ trial.met = none

/-! ## Rules on single values -/

section Values

variable (value found : Json)

include hP

theorem type_every (draft : Draft) : (type draft value found).Every P found :=
  ofExcept_bind_every fun _ _ => ofExcept_bind_every fun _ _ => hP.ensure_every _ trivial

theorem enumeration_every : (enumeration value found).Every P found :=
  ofExcept_bind_every fun _ _ => hP.ensure_every _ trivial

theorem limited_every (holds : Number → Number → Bool) {cause : Json → Json → Cause}
    (hcause : ∀ found limit, (cause found limit).IsPlain) :
    (limited holds cause value found).Every P found := by
  unfold limited
  split
  · exact clean_every
  · split
    · exact hP.ensure_every _ (hcause _ _)
    · exact failed_every _

theorem flaggedMinimum_every (schema : Members) :
    (flaggedMinimum schema value found).Every P found := by
  unfold flaggedMinimum
  split <;> exact limited_every hP value found _ fun _ _ => trivial

theorem flaggedMaximum_every (schema : Members) :
    (flaggedMaximum schema value found).Every P found := by
  unfold flaggedMaximum
  split <;> exact limited_every hP value found _ fun _ _ => trivial

theorem multipleOf_every : (multipleOf value found).Every P found := by
  unfold multipleOf
  split
  · exact clean_every
  · split
    · exact failed_every _
    · split
      · exact hP.ensure_every _ trivial
      · exact failed_every _

theorem atLeast_every (count : Count) : (atLeast count value found).Every P found := by
  unfold atLeast
  split
  · exact clean_every
  · split
    · exact failed_every _
    · exact hP.ensure_every _ trivial

theorem atMost_every (count : Count) : (atMost count value found).Every P found := by
  unfold atMost
  split
  · exact clean_every
  · split
    · exact failed_every _
    · exact hP.ensure_every _ trivial

theorem uniqueItems_every : (uniqueItems value found).Every P found := by
  unfold uniqueItems
  split
  · split
    · exact hP.ensure_every _ trivial
    · exact clean_every
  · exact clean_every

theorem pattern_every : (pattern value found).Every P found := by
  unfold pattern
  split
  · split
    · exact ofExcept_bind_every fun _ _ => ofExcept_bind_every fun _ _ => hP.ensure_every _ trivial
    · exact failed_every _
  · exact clean_every

theorem format_every (checks : Bool) : (format checks value found).Every P found := by
  unfold format
  split
  · split
    · split
      · exact clean_every
      · exact hP.violation_every trivial
      · exact failed_every _
    · exact clean_every
  · exact clean_every

end Values

variable {judge : Judge} (hjudge : judge.Sound P) (scope : Scope) (brief : Bool)
  (value found : Json)

include hjudge

/-! ## Rules that combine schemas -/

theorem reference_every : (reference judge scope brief value found).Every P found := by
  unfold reference
  split
  · split
    · exact hjudge.reportAt _ _ _ _
    · exact failed_every _
  · exact failed_every _

theorem recursiveReference_every : (recursiveReference judge scope brief found).Every P found :=
  ofExcept_bind_every fun _ _ => hjudge.reportAt _ _ _ _

theorem allOf_every : (allOf judge scope brief value found).Every P found :=
  ofExcept_bind_every fun _ _ => each_every fun _ _ => hjudge.report _ _ _ _

theorem branch_every (schema : Members) (keyword : String) :
    (branch judge scope brief schema keyword found).Every P found := by
  unfold branch
  split
  · exact hjudge.report _ _ _ _
  · exact clean_every

theorem conditional_every (schema : Members) :
    (conditional judge scope brief schema value found).Every P found :=
  ofExcept_bind_every fun _ _ => branch_every hjudge scope brief found schema _

theorem extension_every : (extension judge scope brief value found).Every P found := by
  unfold extension
  split
  · exact hjudge.report _ _ _ _
  · exact allOf_every hjudge scope brief value found

omit hjudge

theorem anyOf_every (hnone : ∀ trial, NoneMet judge scope value found trial →
      (noAlternative found trial).Every P found) :
    (anyOf judge scope value found).Every P found := by
  refine ofExcept_bind_every fun branches hbranches => ofExcept_bind_every fun trial htrial => ?_
  split
  next => exact clean_every
  next hmet => exact hnone trial ⟨branches, hbranches, htrial, hmet⟩

theorem oneOf_every (hnone : ∀ trial, NoneMet judge scope value found trial →
      (noAlternative found trial).Every P found)
    (hseveral : ∀ schemas, (violation (.severalAlternatives found schemas)).Every P found) :
    (oneOf judge scope value found).Every P found := by
  refine ofExcept_bind_every fun branches hbranches => ofExcept_bind_every fun trial htrial => ?_
  split
  next hmet => exact hnone trial ⟨branches, hbranches, htrial, hmet⟩
  next =>
    refine ofExcept_bind_every fun _ _ => ?_
    split
    · exact clean_every
    · exact hseveral _

include hP

theorem not_every : (Rules.not judge scope value found).Every P found :=
  ofExcept_bind_every fun _ _ => hP.ensure_every _ trivial

theorem typeOrSchema_every : (typeOrSchema judge scope value found).Every P found :=
  ofExcept_bind_every fun _ _ => ofExcept_bind_every fun _ _ => hP.ensure_every _ trivial

theorem disallow_every : (disallow judge scope brief value found).Every P found :=
  ofExcept_bind_every fun _ _ => each_every fun _ _ =>
    ofExcept_bind_every fun _ _ => hP.ensure_every _ trivial

/-! ## Rules on items -/

omit hP value found

theorem getElem?_of_mem_indexed {items values : List Json} {first n : Nat} {item : Json}
    (hvalues : values = items.drop first) (hmem : (n, item) ∈ indexed first values) :
    items[n]? = some item := by
  induction values generalizing first with
  | nil => simp [indexed] at hmem
  | cons value rest ih =>
      have hrest : rest = items.drop (first + 1) := by
        rw [← List.drop_drop, ← hvalues, List.drop_one, List.tail_cons]
      rcases List.mem_cons.mp hmem with heq | hmem
      · cases heq
        rw [← List.head?_drop, ← hvalues, List.head?_cons]
      · exact ih hrest hmem

section Items

variable {items : List Json} {values : List (Nat × Json)}
  (hvalues : ∀ n item, (n, item) ∈ values → items[n]? = some item)

include hP hjudge hvalues

theorem allItems_every (schema : Json) :
    (allItems judge scope brief schema values).Every P (.arr items) :=
  each_every fun (n, item) hmem =>
    hjudge.reportIn_index hP scope brief (hvalues n item hmem) schema

theorem eachItem_every (schemas : List Json) :
    (eachItem judge scope brief schemas values).Every P (.arr items) :=
  each_every fun ((n, item), schema) hmem =>
    hjudge.reportIn_index hP scope brief (hvalues n item (List.of_mem_zip hmem).1) schema

end Items

section Found

variable (value found : Json)

include hP hjudge

theorem prefixItems_every : (prefixItems judge scope brief value found).Every P found := by
  unfold prefixItems
  split
  next items =>
    exact ofExcept_bind_every fun schemas _ =>
      eachItem_every hP hjudge scope brief (fun _ _ => getElem?_of_mem_indexed rfl) schemas
  next => exact clean_every

theorem restItems_every (schema : Members) :
    (restItems judge scope brief schema value found).Every P found := by
  unfold restItems
  split
  next items =>
    refine ofExcept_bind_every fun count _ => ?_
    dsimp only
    split
    · exact clean_every
    · split
      · exact hP.violation_every trivial
      · exact allItems_every hP hjudge scope brief (fun _ _ => getElem?_of_mem_indexed rfl) value
  next => exact clean_every

theorem itemsOrTuple_every : (itemsOrTuple judge scope brief value found).Every P found := by
  unfold itemsOrTuple
  split
  next items =>
    have hvalues : ∀ n item, (n, item) ∈ indexed 0 items → items[n]? = some item :=
      fun _ _ => getElem?_of_mem_indexed rfl
    split
    · exact eachItem_every hP hjudge scope brief hvalues _
    · exact allItems_every hP hjudge scope brief hvalues value
  next => exact clean_every

theorem itemsOrTupleStrict_every :
    (itemsOrTupleStrict judge scope brief value found).Every P found := by
  unfold itemsOrTupleStrict
  split
  next items =>
    have hvalues : ∀ n item, (n, item) ∈ indexed 0 items → items[n]? = some item :=
      fun _ _ => getElem?_of_mem_indexed rfl
    split
    · exact allItems_every hP hjudge scope brief hvalues _
    · exact ofExcept_bind_every fun schemas _ =>
        eachItem_every hP hjudge scope brief hvalues schemas
  next => exact clean_every

theorem additionalItems_every (schema : Members) :
    (additionalItems judge scope brief schema value found).Every P found := by
  unfold additionalItems
  split
  next items =>
    split
    · exact clean_every
    · exact clean_every
    · refine ofExcept_bind_every fun count _ => ?_
      dsimp only
      split
      · exact allItems_every hP hjudge scope brief (fun _ _ => getElem?_of_mem_indexed rfl) _
      · split
        · exact clean_every
        · exact hP.violation_every trivial
  next => exact clean_every

omit hjudge

theorem contains_every (schema : Members) :
    (contains judge scope schema value found).Every P found := by
  unfold contains
  split
  · refine ofExcept_bind_every fun _ _ => ofExcept_bind_every fun (count, exceeds) _ => ?_
    dsimp only
    split
    · exact hP.violation_every trivial
    · refine ofExcept_bind_every fun _ _ => ?_
      split
      · split
        · exact hP.violation_every trivial
        · exact hP.violation_every trivial
      · exact clean_every
  · exact clean_every

theorem containsAny_every : (containsAny judge scope value found).Every P found := by
  unfold containsAny
  split
  · exact ofExcept_bind_every fun _ _ => hP.ensure_every _ trivial
  · exact clean_every

/-! ## Rules on members -/

theorem present_every (members : Members) (cause : Json → Cause)
    (hcause : ∀ key, (cause key).IsPlain) (names : Json) :
    (present brief members cause names).Every P found :=
  ofExcept_bind_every fun _ _ => each_every fun _ _ =>
    ofExcept_bind_every fun _ _ => hP.ensure_every _ (hcause _)

theorem dependency_every (members : Members) (of : Text) (keys : Json) :
    (dependency brief members of keys).Every P found :=
  present_every hP brief found members (.missingDependency · of) (fun _ => trivial) keys

theorem required_every : (required brief value found).Every P found := by
  unfold required
  split
  · exact present_every hP brief _ _ .missing (fun _ => trivial) value
  · exact clean_every

theorem dependentRequired_every : (dependentRequired brief value found).Every P found := by
  unfold dependentRequired
  split
  · refine ofExcept_bind_every fun _ _ => each_every fun (key, names) _ => ?_
    dsimp only
    split
    · exact dependency_every hP brief _ _ key names
    · exact clean_every
  · exact clean_every

include hjudge

theorem properties_every : (properties judge scope brief value found).Every P found := by
  unfold properties
  split
  · refine ofExcept_bind_every fun _ _ => each_every fun (key, schema) _ => ?_
    dsimp only
    split
    next item hitem => exact hjudge.reportIn_key hP scope brief (Entries.mem_of_lookup hitem) schema
    next => exact clean_every
  · exact clean_every

theorem patternProperties_every :
    (patternProperties judge scope brief value found).Every P found := by
  unfold patternProperties
  split
  · refine ofExcept_bind_every fun _ _ => each_every fun (pattern, schema) _ => ?_
    dsimp only
    split
    · exact clean_every
    · refine ofExcept_bind_every fun _ _ => each_every fun (key, item) hmember => ?_
      refine ofExcept_bind_every fun _ _ => ?_
      split
      · exact hjudge.reportIn_key hP scope brief hmember schema
      · exact clean_every
  · exact clean_every

theorem additionalProperties_every (schema : Members) :
    (additionalProperties judge scope brief schema value found).Every P found := by
  unfold additionalProperties
  split
  · refine ofExcept_bind_every fun _ _ => ?_
    split
    · refine each_every fun key _ => ?_
      split
      next item hitem =>
        exact hjudge.reportIn_key hP scope brief (Entries.mem_of_lookup hitem) _
      next => exact clean_every
    · split
      · exact clean_every
      · split
        · exact ofExcept_bind_every fun _ _ => hP.violation_every trivial
        · exact hP.violation_every trivial
  · exact clean_every

theorem propertyNames_every : (propertyNames judge scope brief value found).Every P found := by
  unfold propertyNames
  split
  -- A key is checked as a text of its own, and nothing but the top is a place of a text.
  · exact each_every fun (key, _) _ => hP.every_of_str (hjudge.report scope brief (.str key) value)
  · exact clean_every

omit hP in
theorem dependentSchemas_every :
    (dependentSchemas judge scope brief value found).Every P found := by
  unfold dependentSchemas
  split
  · refine ofExcept_bind_every fun _ _ => each_every fun (key, schema) _ => ?_
    dsimp only
    split
    · exact hjudge.report _ _ _ _
    · exact clean_every
  · exact clean_every

theorem dependencies_every : (dependencies judge scope brief value found).Every P found := by
  unfold dependencies
  split
  · refine ofExcept_bind_every fun _ _ => each_every fun (key, demand) _ => ?_
    dsimp only
    split
    · split
      · exact dependency_every hP brief _ _ key _
      · exact hjudge.report _ _ _ _
    · exact clean_every
  · exact clean_every

theorem dependenciesOrName_every :
    (dependenciesOrName judge scope brief value found).Every P found := by
  unfold dependenciesOrName
  split
  · refine ofExcept_bind_every fun _ _ => each_every fun (key, demand) _ => ?_
    dsimp only
    split
    · split
      · exact hjudge.report _ _ _ _
      · exact dependency_every hP brief _ _ key _
      · exact dependency_every hP brief _ _ key _
    · exact clean_every
  · exact clean_every

omit hjudge

/-! ## Rules on what is not evaluated -/

theorem unevaluatedItems_every (schema : Members) :
    (unevaluatedItems judge scope schema found).Every P found := by
  unfold unevaluatedItems
  split
  · exact ofExcept_bind_every fun _ _ => hP.ensure_every _ trivial
  · exact clean_every

theorem unevaluatedProperties_every (schema : Members) :
    (unevaluatedProperties judge scope schema value found).Every P found := by
  unfold unevaluatedProperties
  split
  · refine ofExcept_bind_every fun _ _ => ofExcept_bind_every fun _ _ => ?_
    split
    · exact clean_every
    · split
      · exact hP.violation_every trivial
      · exact hP.violation_every trivial
  · exact clean_every

end Found

end Rules

/-! ## All rules -/

/-- Under a keyword with some rule, a schema gives the alternatives of which a value
has to meet one. -/
structure Scope.Offers (scope : Scope) (around : Draft) (schema : Members) (rule : Rule)
    (value : Json) : Prop where
  keyword : ∃ keyword, (keyword, value) ∈ around.applicable schema ∧
    scope.draft.rule? keyword = some rule
  rule : rule = .anyOf ∨ rule = .oneOf

section Apply

variable {judge : Judge} (hjudge : judge.Sound P) (scope : Scope) (brief : Bool)

include hP hjudge

/-- The report of a rule, but for the alternatives that it lists and the members
that it misses. -/
theorem Rule.report_every (schema : Members) (value found : Json) {rule : Rule}
    (hnone : rule = .anyOf ∨ rule = .oneOf → ∀ trial, Rules.NoneMet judge scope value found trial →
      (Rules.noAlternative found trial).Every P found)
    (hrequired : rule = .propertiesWithRequired →
      (Rules.propertiesWithRequired judge scope brief value found).Every P found) :
    (rule.report judge scope brief schema value found).Every P found := by
  cases rule with
  | propertiesWithRequired => exact hrequired rfl
  | reference => exact Rules.reference_every hjudge scope brief value found
  | recursiveReference => exact Rules.recursiveReference_every hjudge scope brief found
  | type => exact Rules.type_every hP value found scope.draft
  | typeOrSchema => exact Rules.typeOrSchema_every hP scope value found
  | enumeration => exact Rules.enumeration_every hP value found
  | constant => exact hP.ensure_every _ trivial
  | minimum => exact Rules.limited_every hP value found _ fun _ _ => trivial
  | maximum => exact Rules.limited_every hP value found _ fun _ _ => trivial
  | exclusiveMinimum => exact Rules.limited_every hP value found _ fun _ _ => trivial
  | exclusiveMaximum => exact Rules.limited_every hP value found _ fun _ _ => trivial
  | flaggedMinimum => exact Rules.flaggedMinimum_every hP value found schema
  | flaggedMaximum => exact Rules.flaggedMaximum_every hP value found schema
  | multipleOf => exact Rules.multipleOf_every hP value found
  | minLength => exact Rules.atLeast_every hP value found _
  | maxLength => exact Rules.atMost_every hP value found _
  | pattern => exact Rules.pattern_every hP value found
  | format => exact Rules.format_every hP value found scope.checksFormats
  | minItems => exact Rules.atLeast_every hP value found _
  | maxItems => exact Rules.atMost_every hP value found _
  | uniqueItems => exact Rules.uniqueItems_every hP value found
  | prefixItems => exact Rules.prefixItems_every hP hjudge scope brief value found
  | restItems => exact Rules.restItems_every hP hjudge scope brief value found schema
  | itemsOrTuple => exact Rules.itemsOrTuple_every hP hjudge scope brief value found
  | itemsOrTupleStrict => exact Rules.itemsOrTupleStrict_every hP hjudge scope brief value found
  | additionalItems => exact Rules.additionalItems_every hP hjudge scope brief value found schema
  | contains => exact Rules.contains_every hP scope value found schema
  | containsAny => exact Rules.containsAny_every hP scope value found
  | unevaluatedItems => exact Rules.unevaluatedItems_every hP scope found schema
  | properties => exact Rules.properties_every hP hjudge scope brief value found
  | patternProperties => exact Rules.patternProperties_every hP hjudge scope brief value found
  | additionalProperties =>
      exact Rules.additionalProperties_every hP hjudge scope brief value found schema
  | propertyNames => exact Rules.propertyNames_every hP hjudge scope brief value found
  | unevaluatedProperties => exact Rules.unevaluatedProperties_every hP scope value found schema
  | required => exact Rules.required_every hP brief value found
  | minProperties => exact Rules.atLeast_every hP value found _
  | maxProperties => exact Rules.atMost_every hP value found _
  | dependentRequired => exact Rules.dependentRequired_every hP brief value found
  | dependentSchemas => exact Rules.dependentSchemas_every hjudge scope brief value found
  | dependencies => exact Rules.dependencies_every hP hjudge scope brief value found
  | dependenciesOrName => exact Rules.dependenciesOrName_every hP hjudge scope brief value found
  | allOf => exact Rules.allOf_every hjudge scope brief value found
  | anyOf => exact Rules.anyOf_every scope value found (hnone (Or.inl rfl))
  | oneOf =>
      exact Rules.oneOf_every scope value found (hnone (Or.inr rfl))
        fun _ => hP.violation_every trivial
  | not => exact Rules.not_every hP scope value found
  | conditional => exact Rules.conditional_every hjudge scope brief value found schema
  | disallow => exact Rules.disallow_every hP scope brief value found
  | extension => exact Rules.extension_every hjudge scope brief value found

/-- The report of the rules of a schema, but for the alternatives that they list
and the members that they miss. -/
theorem Judge.Sound.apply_every (around : Draft) (found schema : Json)
    (hnone : ∀ members rule value, schema = .obj members →
      scope.Offers around members rule value →
      ∀ trial, Rules.NoneMet judge scope value found trial →
        (Rules.noAlternative found trial).Every P found)
    (hrequired : ∀ keyword value, scope.draft.rule? keyword = some .propertiesWithRequired →
      (Rules.propertiesWithRequired judge scope brief value found).Every P found) :
    (judge.apply around scope brief found schema).Every P found := by
  unfold Judge.apply
  split
  · exact clean_every
  · exact hP.violation_every trivial
  next members =>
    refine each_every fun (keyword, value) hmember => ?_
    dsimp only
    split
    next rule hrule =>
      exact rule.report_every hP hjudge scope brief members value found
        (fun hrules => hnone members rule value rfl ⟨⟨keyword, hmember, hrule⟩, hrules⟩)
        (fun heq => hrequired keyword value (heq ▸ hrule))
    next => exact clean_every
  · exact failed_every _

end Apply

end Conform
