import Mathlib.Data.Set.List
import StockoutOps.Investigation.Reasoning
import StockoutOps.JsonSchema

/-!
Contract: the schema that the provider is given for the reasoning output.

Owns: `REASONING_JSON_SCHEMA`, and that it accepts what `ReasoningResult` does.

Does not own: the request to the provider, and the text of its answer.
-/

namespace StockoutOps.Investigation

open StockoutOps.JsonSchema

/-- `REASONING_JSON_SCHEMA` -/
def reasoningJsonSchema : Json :=
  .obj [
    ("type", .str "object"),
    ("additionalProperties", .bool false),
    ("required", .arr [.str "root_cause_hypothesis", .str "recommendation_draft"]),
    ("properties", .obj [
      ("root_cause_hypothesis", .obj [
        ("type", .str "object"),
        ("additionalProperties", .bool false),
        ("required", .arr [.str "statement", .str "confidence", .str "citations"]),
        ("properties", .obj [
          ("statement", .obj [("type", .str "string"), ("minLength", .int 1),
            ("maxLength", .int 600)]),
          ("confidence", .obj [("type", .str "string"),
            ("enum", .arr [.str "low", .str "medium", .str "high"])]),
          ("citations", .obj [("type", .str "array"), ("minItems", .int 1), ("maxItems", .int 3),
            ("items", .obj [("type", .str "string")])])])]),
      ("recommendation_draft", .obj [
        ("type", .str "object"),
        ("additionalProperties", .bool false),
        ("required", .arr [.str "action_type", .str "rationale", .str "citations"]),
        ("properties", .obj [
          ("action_type", .obj [("type", .str "string"),
            ("enum", .arr [.str "monitor", .str "review_replenishment", .str "review_transfer",
              .str "escalate_manual_investigation"])]),
          ("rationale", .obj [("type", .str "string"), ("minLength", .int 1),
            ("maxLength", .int 1000)]),
          ("citations", .obj [("type", .str "array"), ("minItems", .int 1), ("maxItems", .int 3),
            ("items", .obj [("type", .str "string")])])])])])]

/-- The properties of `root_cause_hypothesis`, in the words of the schema library. -/
def rootCauseSchema : List (String × Json) :=
  [("statement", boundedText 1 600), ("confidence", oneOf ["low", "medium", "high"]),
    ("citations", boundedTexts 1 3)]

/-- The properties of `recommendation_draft`. -/
def recommendationSchema : List (String × Json) :=
  [("action_type", oneOf ["monitor", "review_replenishment", "review_transfer",
      "escalate_manual_investigation"]),
    ("rationale", boundedText 1 1000), ("citations", boundedTexts 1 3)]

/-- The schema is made of closed objects only: every property is required, and no other
one is admitted. -/
theorem reasoningJsonSchema_eq : reasoningJsonSchema =
    closedObject [("root_cause_hypothesis", closedObject rootCauseSchema),
      ("recommendation_draft", closedObject recommendationSchema)] := rfl

/-! ## Leaves -/

section Leaves

variable {value : Json}

/-- The bounds of a `Text` count the characters that `minLength` and `maxLength` count. -/
theorem Text.validate_isSome {low high : Nat} : (Text.validate low high value).isSome = true ↔
    accepts (boundedText low high) value = true := by
  rw [accepts_boundedText]
  cases value <;> simp [Text.validate, Option.isSome_dite]

/-- The enumeration of the schema lists the values of `Confidence`. -/
theorem Confidence.validate_isSome : (Confidence.validate value).isSome = true ↔
    accepts (oneOf ["low", "medium", "high"]) value = true := by
  rw [accepts_oneOf]
  constructor
  · intro valid
    unfold Confidence.validate at valid
    split at valid <;> first | exact ⟨_, rfl, by decide⟩ | cases valid
  · rintro ⟨text, rfl, option⟩
    simp only [List.mem_cons, List.not_mem_nil, or_false] at option
    rcases option with rfl | rfl | rfl <;> rfl

/-- The enumeration of the schema lists the values of `ActionType`. -/
theorem ActionType.validate_isSome : (ActionType.validate value).isSome = true ↔
    accepts (oneOf ["monitor", "review_replenishment", "review_transfer",
      "escalate_manual_investigation"]) value = true := by
  rw [accepts_oneOf]
  constructor
  · intro valid
    unfold ActionType.validate at valid
    split at valid <;> first | exact ⟨_, rfl, by decide⟩ | cases valid
  · rintro ⟨text, rfl, option⟩
    simp only [List.mem_cons, List.not_mem_nil, or_false] at option
    rcases option with rfl | rfl | rfl | rfl <;> rfl

/-- A list that is read as texts consists of these texts. -/
theorem mapM_strItem {items : List Json} {texts : List String} :
    items.mapM strItem = some texts ↔ items = texts.map .str := by
  constructor
  · induction items generalizing texts with
    | nil =>
        intro read
        cases read
        rfl
    | cons head tail inductionHypothesis =>
        intro read
        rw [List.mapM_cons] at read
        obtain ⟨text, first, rest⟩ := Option.bind_eq_some_iff.mp read
        obtain ⟨others, later, same⟩ := Option.bind_eq_some_iff.mp rest
        cases same
        unfold strItem at first
        split at first <;> cases first
        rw [inductionHypothesis later, List.map_cons]
  · rintro rfl
    exact strItem_dump texts

/-- Citations are one to three texts on both sides. -/
theorem Citations.validate_isSome : (Citations.validate value).isSome = true ↔
    accepts (boundedTexts 1 3) value = true := by
  rw [accepts_boundedTexts]
  constructor
  · intro valid
    obtain ⟨citations, valid⟩ := Option.isSome_iff_exists.mp valid
    unfold Citations.validate at valid
    split at valid <;> try cases valid
    obtain ⟨texts, read, bounded⟩ := Option.bind_eq_some_iff.mp valid
    obtain rfl := mapM_strItem.mp read
    split at bounded <;> cases bounded
    rename_i bounds
    refine ⟨_, rfl, by simpa using bounds, fun item inside => ?_⟩
    obtain ⟨text, -, rfl⟩ := List.mem_map.mp inside
    exact ⟨text, rfl⟩
  · rintro ⟨items, rfl, bounds, texts⟩
    obtain ⟨texts, rfl⟩ : items ∈ Set.range (List.map Json.str) := by
      rw [Set.range_list_map]
      exact fun item inside => (texts item inside).imp fun _ => Eq.symm
    rw [List.length_map] at bounds
    simp [Citations.validate, strItem_dump, -List.mapM_map, bounds]

end Leaves

/-! ### Dumps

What is read and dumped again is what was read. -/

section Dumps

variable {value : Json}

theorem Text.dump_same {low high : Nat} {text : Text low high}
    (valid : Text.validate low high value = some text) :
    (Json.str text.value).sameUpToOrder value = true := by
  unfold Text.validate at valid
  split at valid <;> try cases valid
  split at valid <;> cases valid
  simp [Json.sameUpToOrder]

theorem Confidence.dump_same {confidence : Confidence}
    (valid : Confidence.validate value = some confidence) :
    (Json.str confidence.value).sameUpToOrder value = true := by
  unfold Confidence.validate at valid
  split at valid <;> cases valid <;> rfl

theorem ActionType.dump_same {action : ActionType}
    (valid : ActionType.validate value = some action) :
    (Json.str action.value).sameUpToOrder value = true := by
  unfold ActionType.validate at valid
  split at valid <;> cases valid <;> rfl

/-- The texts are dumped in the order in which they were read. -/
theorem Citations.dump_same {citations : Citations}
    (valid : Citations.validate value = some citations) :
    citations.modelDump.sameUpToOrder value = true := by
  unfold Citations.validate at valid
  split at valid <;> try cases valid
  obtain ⟨texts, read, bounded⟩ := Option.bind_eq_some_iff.mp valid
  obtain rfl := mapM_strItem.mp read
  split at bounded <;> cases bounded
  refine Json.sameUpToOrder_arr.mpr (List.forall₂_same.mpr fun item inside => ?_)
  obtain ⟨text, -, rfl⟩ := List.mem_map.mp inside
  simp [Json.sameUpToOrder]

end Dumps

/-! ## Objects -/

section Objects

variable {value : Json}

/-- `extra="forbid"`: a strict object has no member besides the named ones. -/
theorem strictObject_eq_some {names : List String} {members : List (String × Json)} :
    strictObject names value = some members ↔
      value = .obj members ∧ ∀ member ∈ members, member.1 ∈ names := by
  cases value with
  | obj own =>
      simp only [strictObject, Option.ite_none_right_eq_some, Option.some.injEq, Json.obj.injEq,
        List.all_eq_true, decide_eq_true_eq]
      rw [and_comm]
      exact and_congr_right fun same => same ▸ Iff.rfl
  | _ => simp [strictObject]

/-- A hypothesis is read from a closed object, every field from the member of its name. -/
theorem RootCauseHypothesis.validate_eq_some {hypothesis : RootCauseHypothesis} :
    validate value = some hypothesis ↔ ∃ members, value = .obj members ∧
      (∀ member ∈ members, member.1 ∈ rootCauseSchema.map Prod.fst) ∧
      (∃ member, value.member? "statement" = some member ∧
        Text.validate 1 600 member = some hypothesis.statement) ∧
      (∃ member, value.member? "confidence" = some member ∧
        Confidence.validate member = some hypothesis.confidence) ∧
      ∃ member, value.member? "citations" = some member ∧
        Citations.validate member = some hypothesis.citations := by
  obtain ⟨statement, confidence, citations⟩ := hypothesis
  simp only [validate, bind, Option.bind_eq_some_iff, strictObject_eq_some, Option.some.injEq,
    RootCauseHypothesis.mk.injEq, rootCauseSchema, List.map_cons, List.map_nil]
  grind

/-- A draft is read from a closed object, every field from the member of its name. -/
theorem RecommendationDraft.validate_eq_some {draft : RecommendationDraft} :
    validate value = some draft ↔ ∃ members, value = .obj members ∧
      (∀ member ∈ members, member.1 ∈ recommendationSchema.map Prod.fst) ∧
      (∃ member, value.member? "action_type" = some member ∧
        ActionType.validate member = some draft.actionType) ∧
      (∃ member, value.member? "rationale" = some member ∧
        Text.validate 1 1000 member = some draft.rationale) ∧
      ∃ member, value.member? "citations" = some member ∧
        Citations.validate member = some draft.citations := by
  obtain ⟨actionType, rationale, citations⟩ := draft
  simp only [validate, bind, Option.bind_eq_some_iff, strictObject_eq_some, Option.some.injEq,
    RecommendationDraft.mk.injEq, recommendationSchema, List.map_cons, List.map_nil]
  grind

/-- The whole answer is read from a closed object of its two parts. -/
theorem ReasoningResult.modelValidate_eq_some {result : ReasoningResult} :
    modelValidate value = some result ↔ ∃ members, value = .obj members ∧
      (∀ member ∈ members, member.1 ∈ ["root_cause_hypothesis", "recommendation_draft"]) ∧
      (∃ member, value.member? "root_cause_hypothesis" = some member ∧
        RootCauseHypothesis.validate member = some result.rootCauseHypothesis) ∧
      ∃ member, value.member? "recommendation_draft" = some member ∧
        RecommendationDraft.validate member = some result.recommendationDraft := by
  obtain ⟨rootCauseHypothesis, recommendationDraft⟩ := result
  simp only [modelValidate, bind, Option.bind_eq_some_iff, strictObject_eq_some, Option.some.injEq,
    ReasoningResult.mk.injEq]
  grind

/-- The model of the hypothesis accepts what its part of the schema does. -/
theorem RootCauseHypothesis.validate_isSome : (validate value).isSome = true ↔
    accepts (closedObject rootCauseSchema) value = true := by
  rw [accepts_closedObject, Option.isSome_iff_exists]
  simp only [RootCauseHypothesis.validate_eq_some, rootCauseSchema, List.forall_mem_cons,
    List.not_mem_nil, false_imp_iff, implies_true, and_true, ← Text.validate_isSome,
    ← Confidence.validate_isSome, ← Citations.validate_isSome, Option.isSome_iff_exists]
  constructor
  · rintro ⟨hypothesis, members, rfl, closed, ⟨_, statement⟩, ⟨_, confidence⟩, _, citations⟩
    exact ⟨members, rfl, closed, ⟨_, statement.1, _, statement.2⟩,
      ⟨_, confidence.1, _, confidence.2⟩, _, citations.1, _, citations.2⟩
  · rintro ⟨members, rfl, closed, ⟨_, statement, statementText, valid⟩,
      ⟨_, confidence, confidenceValue, valid'⟩, _, citations, citationTexts, valid''⟩
    exact ⟨⟨statementText, confidenceValue, citationTexts⟩, members, rfl, closed,
      ⟨_, statement, valid⟩, ⟨_, confidence, valid'⟩, _, citations, valid''⟩

/-- The model of the draft accepts what its part of the schema does. -/
theorem RecommendationDraft.validate_isSome : (validate value).isSome = true ↔
    accepts (closedObject recommendationSchema) value = true := by
  rw [accepts_closedObject, Option.isSome_iff_exists]
  simp only [RecommendationDraft.validate_eq_some, recommendationSchema, List.forall_mem_cons,
    List.not_mem_nil, false_imp_iff, implies_true, and_true, ← Text.validate_isSome,
    ← ActionType.validate_isSome, ← Citations.validate_isSome, Option.isSome_iff_exists]
  constructor
  · rintro ⟨draft, members, rfl, closed, ⟨_, action⟩, ⟨_, rationale⟩, _, citations⟩
    exact ⟨members, rfl, closed, ⟨_, action.1, _, action.2⟩,
      ⟨_, rationale.1, _, rationale.2⟩, _, citations.1, _, citations.2⟩
  · rintro ⟨members, rfl, closed, ⟨_, action, actionType, valid⟩,
      ⟨_, rationale, rationaleText, valid'⟩, _, citations, citationTexts, valid''⟩
    exact ⟨⟨actionType, rationaleText, citationTexts⟩, members, rfl, closed,
      ⟨_, action, valid⟩, ⟨_, rationale, valid'⟩, _, citations, valid''⟩

/-- Where no name occurs twice, the dump has the members that were read, so nothing but
their order is lost. -/
theorem RootCauseHypothesis.dump_same {hypothesis : RootCauseHypothesis}
    (distinct : value.distinctKeys = true) (valid : validate value = some hypothesis) :
    hypothesis.modelDump.sameUpToOrder value = true := by
  obtain ⟨members, rfl, closed, ⟨_, statement, validText⟩, ⟨_, confidence, validConfidence⟩,
    _, citations, validCitations⟩ := RootCauseHypothesis.validate_eq_some.mp valid
  refine Json.sameUpToOrder_of_names (by simp) (Json.distinctKeys_obj.mp distinct).1 closed ?_
  simp only [List.forall_mem_cons, List.not_mem_nil, false_imp_iff, implies_true, and_true]
  exact ⟨⟨_, statement, Text.dump_same validText⟩,
    ⟨_, confidence, Confidence.dump_same validConfidence⟩,
    _, citations, Citations.dump_same validCitations⟩

/-- The same of a draft. -/
theorem RecommendationDraft.dump_same {draft : RecommendationDraft}
    (distinct : value.distinctKeys = true) (valid : validate value = some draft) :
    draft.modelDump.sameUpToOrder value = true := by
  obtain ⟨members, rfl, closed, ⟨_, action, validAction⟩, ⟨_, rationale, validText⟩,
    _, citations, validCitations⟩ := RecommendationDraft.validate_eq_some.mp valid
  refine Json.sameUpToOrder_of_names (by simp) (Json.distinctKeys_obj.mp distinct).1 closed ?_
  simp only [List.forall_mem_cons, List.not_mem_nil, false_imp_iff, implies_true, and_true]
  exact ⟨⟨_, action, ActionType.dump_same validAction⟩,
    ⟨_, rationale, Text.dump_same validText⟩,
    _, citations, Citations.dump_same validCitations⟩

end Objects

/-! ## The schema and the model -/

/-- What the provider may answer is what is parsed, and parsing loses nothing. -/
theorem reasoningJsonSchema_accepts_iff (value : Json) (distinct : value.distinctKeys = true) :
    (accepts reasoningJsonSchema value = true ↔
      (ReasoningResult.modelValidate value).isSome = true) ∧
    ∀ result, ReasoningResult.modelValidate value = some result →
      result.modelDump.sameUpToOrder value = true := by
  constructor
  · rw [reasoningJsonSchema_eq, accepts_closedObject, Option.isSome_iff_exists]
    simp only [ReasoningResult.modelValidate_eq_some, List.forall_mem_cons, List.not_mem_nil,
      false_imp_iff, implies_true, and_true, ← RootCauseHypothesis.validate_isSome,
      ← RecommendationDraft.validate_isSome, Option.isSome_iff_exists]
    constructor
    · rintro ⟨members, rfl, closed, ⟨_, hypothesis, rootCause, valid⟩,
        _, recommendation, draft, valid'⟩
      exact ⟨⟨rootCause, draft⟩, members, rfl, closed, ⟨_, hypothesis, valid⟩,
        _, recommendation, valid'⟩
    · rintro ⟨result, members, rfl, closed, ⟨_, hypothesis⟩, _, recommendation⟩
      exact ⟨members, rfl, closed, ⟨_, hypothesis.1, _, hypothesis.2⟩,
        _, recommendation.1, _, recommendation.2⟩
  · intro result valid
    obtain ⟨members, rfl, closed, ⟨_, hypothesis, validHypothesis⟩, _, recommendation,
      validDraft⟩ := ReasoningResult.modelValidate_eq_some.mp valid
    refine Json.sameUpToOrder_of_names (by simp) (Json.distinctKeys_obj.mp distinct).1 closed ?_
    simp only [List.forall_mem_cons, List.not_mem_nil, false_imp_iff, implies_true, and_true]
    exact ⟨⟨_, hypothesis, RootCauseHypothesis.dump_same
        (Json.distinctKeys_member distinct hypothesis) validHypothesis⟩,
      _, recommendation, RecommendationDraft.dump_same
        (Json.distinctKeys_member distinct recommendation) validDraft⟩

/-! ### An answer with its members in another order -/

/-- An answer that names its parts, and their members, in another order than the model. -/
def monitorAnswer : Json :=
  .obj [
    ("recommendation_draft", .obj [("citations", .arr [.str "ev_1"]),
      ("action_type", .str "monitor"), ("rationale", .str "Stock is in transit.")]),
    ("root_cause_hypothesis", .obj [("statement", .str "A late delivery."),
      ("confidence", .str "low"), ("citations", .arr [.str "ev_1", .str "ev_2"])])]

theorem monitorAnswer_parses : ∃ result, ReasoningResult.modelValidate monitorAnswer = some result ∧
    result.modelDump.sameUpToOrder monitorAnswer = true := by
  obtain ⟨parses, dumps⟩ := reasoningJsonSchema_accepts_iff monitorAnswer (by decide)
  obtain ⟨result, valid⟩ := Option.isSome_iff_exists.mp (parses.mp (by decide +kernel))
  exact ⟨result, valid, dumps result valid⟩

end StockoutOps.Investigation
