import Mathlib.Data.List.Dedup
import StockoutOps.Investigation.EvidenceJson

/-!
Contract: what the acceptance of an evidence bundle says of its facts.

Owns: `validate_bundle` as a conjunction, the age that it checks and the age of
the facts, and exactly when the two agree.

Does not own: where the items of a bundle come from.

The content hash covers `updated_at`; the age is taken of `freshness_ts`, which
no hash covers.
-/

namespace StockoutOps.Investigation

open StockoutOps.Sql

/-- The `updated_at` fact of every evidence class. -/
def EvidenceFacts.updatedAt : EvidenceFacts → PyDatetime
  | .inventory _ _ _ _ _ updatedAt | .demand _ _ _ _ _ updatedAt
  | .supplier _ _ _ _ _ _ updatedAt => updatedAt

/-- `timedelta(0) <= as_of_ts - instant <= FRESHNESS_LIMITS[tool]` -/
def WithinPolicy (asOfTs : Timestamp) (tool : ToolName) (instant : Timestamp) : Prop :=
  0 ≤ asOfTs - instant ∧ asOfTs - instant ≤ freshnessLimit tool

instance (asOfTs : Timestamp) (tool : ToolName) (instant : Timestamp) :
    Decidable (WithinPolicy asOfTs tool instant) :=
  inferInstanceAs (Decidable (0 ≤ asOfTs - instant ∧ asOfTs - instant ≤ freshnessLimit tool))

/-- The labels of an item are those of its facts. -/
structure Evidence.Provenanced (provenance : Provenance) (item : Evidence) : Prop where
  retrieved : item.retrievedAt.aware = true
  fresh : item.freshnessTs.aware = true
  contentHash : provenance.canonicalHash (item.facts.toJson provenance) = item.contentHash
  evidenceId : provenance.expectedEvidenceId item.sourceRef item.contentHash = item.evidenceId

/-- Exactly one item of each tool. -/
def OnePerTool (bundle : List Evidence) : Prop :=
  (bundle.map Evidence.tool).Perm ToolName.evidenceTools

section Validation

variable {provenance : Provenance} {bundle : List Evidence} {asOfTs : Timestamp} {item : Evidence}

theorem validateItem_eq_ok :
    validateItem provenance asOfTs item = .ok () ↔
      item.Provenanced provenance ∧ WithinPolicy asOfTs item.tool item.freshnessTs.instant := by
  unfold validateItem
  simp only [throw, throwThe, MonadExceptOf.throw, bind, Except.bind, pure, Except.pure]
  constructor
  · intro accepted
    split at accepted
    · cases accepted
    rename_i aware
    split at accepted
    · cases accepted
    rename_i content
    split at accepted
    · cases accepted
    rename_i identified
    split at accepted
    · cases accepted
    rename_i age
    obtain ⟨retrieved, fresh⟩ := not_or.mp aware
    obtain ⟨past, recent⟩ := not_or.mp age
    exact ⟨⟨not_not.mp retrieved, not_not.mp fresh, not_not.mp content, not_not.mp identified⟩,
      Int.not_lt.mp past, Int.not_lt.mp recent⟩
  · rintro ⟨⟨retrieved, fresh, content, identified⟩, age⟩
    have aware : ¬ (¬ item.retrievedAt.aware = true ∨ ¬ item.freshnessTs.aware = true) := by
      simp [retrieved, fresh]
    have policy : ¬ (asOfTs - item.freshnessTs.instant < 0 ∨
        freshnessLimit item.tool < asOfTs - item.freshnessTs.instant) :=
      not_or.mpr ⟨Int.not_lt.mpr age.1, Int.not_lt.mpr age.2⟩
    rw [if_neg aware, if_neg (not_not_intro content), if_neg (not_not_intro identified),
      if_neg policy]

theorem forM_eq_ok {α : Type} {check : α → Except Failure Unit} (items : List α) :
    items.forM check = .ok () ↔ ∀ item ∈ items, check item = .ok () := by
  induction items with
  | nil => simp [pure, Except.pure]
  | cons head tail inductionHypothesis =>
      have stepped : (head :: tail).forM check = (check head >>= fun _ => tail.forM check) := rfl
      rw [stepped, guard_bind_eq_ok, inductionHypothesis, List.forall_mem_cons]

theorem onePerTool_iff {tools : List ToolName} :
    tools.Perm ToolName.evidenceTools ↔ tools.length = 3 ∧
      (∀ tool ∈ tools, tool ∈ ToolName.evidenceTools) ∧
      (∀ tool ∈ ToolName.evidenceTools, tool ∈ tools) ∧ tools.dedup.length = tools.length := by
  have nodup : ToolName.evidenceTools.Nodup := by decide
  constructor
  · intro perm
    refine ⟨perm.length_eq, fun tool => perm.mem_iff.mp, fun tool => perm.mem_iff.mpr, ?_⟩
    rw [List.Nodup.dedup (perm.nodup_iff.mpr nodup)]
  · rintro ⟨-, known, covered, unique⟩
    have distinct : tools.Nodup :=
      List.dedup_eq_self.mp ((List.dedup_sublist tools).eq_of_length unique)
    exact (List.perm_ext_iff_of_nodup distinct nodup).mpr
      fun tool => ⟨known tool, covered tool⟩

theorem validateBundle_eq_ok :
    validateBundle provenance bundle asOfTs = .ok () ↔ OnePerTool bundle ∧ ∀ item ∈ bundle,
      item.Provenanced provenance ∧ WithinPolicy asOfTs item.tool item.freshnessTs.instant := by
  have items : bundle.forM (validateItem provenance asOfTs) = .ok () ↔ ∀ item ∈ bundle,
      item.Provenanced provenance ∧ WithinPolicy asOfTs item.tool item.freshnessTs.instant := by
    simp only [forM_eq_ok, validateItem_eq_ok]
  unfold validateBundle OnePerTool
  simp only [throw, throwThe, MonadExceptOf.throw, bind, Except.bind]
  rw [onePerTool_iff]
  constructor
  · intro accepted
    split at accepted
    · cases accepted
    rename_i complete
    split at accepted
    · cases accepted
    rename_i unique
    obtain ⟨three, sets⟩ := not_or.mp complete
    obtain ⟨known, covered⟩ := not_or.mp sets
    exact ⟨⟨not_not.mp three, not_not.mp known, not_not.mp covered, not_not.mp unique⟩,
      items.mp accepted⟩
  · rintro ⟨⟨three, known, covered, unique⟩, valid⟩
    rw [if_neg (by simp only [not_or, not_not]; exact ⟨three, known, covered⟩),
      if_neg (not_not_intro unique)]
    exact items.mpr valid

def staleEvidence (tool : ToolName) : Failure :=
  .evidenceFailure "EVIDENCE_STALE" (tool.value ++ " evidence is outside policy")

/-- An item with the labels of its facts is valid or stale. -/
theorem validateItem_of_provenanced (provenanced : item.Provenanced provenance) :
    validateItem provenance asOfTs item = .ok () ∨
      validateItem provenance asOfTs item = .error (staleEvidence item.tool) := by
  obtain ⟨retrieved, fresh, content, identified⟩ := provenanced
  have aware : ¬ (¬ item.retrievedAt.aware = true ∨ ¬ item.freshnessTs.aware = true) := by
    simp [retrieved, fresh]
  unfold validateItem
  simp only [throw, throwThe, MonadExceptOf.throw, bind, Except.bind, pure, Except.pure]
  rw [if_neg aware, if_neg (not_not_intro content), if_neg (not_not_intro identified)]
  split
  · exact .inr rfl
  · exact .inl rfl

theorem forM_ok_or_stale (items : List Evidence)
    (provenanced : ∀ item ∈ items, item.Provenanced provenance) :
    items.forM (validateItem provenance asOfTs) = .ok () ∨
      ∃ item ∈ items, items.forM (validateItem provenance asOfTs) =
        .error (staleEvidence item.tool) := by
  induction items with
  | nil => exact .inl rfl
  | cons head tail inductionHypothesis =>
      have stepped : (head :: tail).forM (validateItem provenance asOfTs) =
          (validateItem provenance asOfTs head >>= fun _ =>
            tail.forM (validateItem provenance asOfTs)) := rfl
      rw [stepped]
      have first : validateItem provenance asOfTs head = .ok () ∨
          validateItem provenance asOfTs head = .error (staleEvidence head.tool) :=
        validateItem_of_provenanced (provenanced head List.mem_cons_self)
      rcases first with valid | stale
      · rw [valid]
        rcases inductionHypothesis fun item member =>
          provenanced item (List.mem_cons_of_mem _ member) with done | ⟨item, member, stale⟩
        · exact .inl done
        · exact .inr ⟨item, List.mem_cons_of_mem _ member, stale⟩
      · rw [stale]
        exact .inr ⟨head, List.mem_cons_self, rfl⟩

/-- A complete bundle with the labels of its facts is accepted or stale. -/
theorem validateBundle_of_provenanced (complete : OnePerTool bundle)
    (provenanced : ∀ item ∈ bundle, item.Provenanced provenance) :
    validateBundle provenance bundle asOfTs = .ok () ∨
      ∃ item ∈ bundle, validateBundle provenance bundle asOfTs =
        .error (staleEvidence item.tool) := by
  obtain ⟨three, known, covered, unique⟩ := onePerTool_iff.mp complete
  have same : validateBundle provenance bundle asOfTs =
      bundle.forM (validateItem provenance asOfTs) := by
    unfold validateBundle
    simp only [throw, throwThe, MonadExceptOf.throw, bind, Except.bind]
    rw [if_neg (by simp only [not_or, not_not]; exact ⟨three, known, covered⟩),
      if_neg (not_not_intro unique)]
  rw [same]
  exact forM_ok_or_stale bundle provenanced

/-! ## The facts of an accepted bundle -/

/-- An accepted bundle has one item of each tool, and none of its facts is stale. -/
def FactsFresh (provenance : Provenance) (bundle : List Evidence) (asOfTs : Timestamp) : Prop :=
  validateBundle provenance bundle asOfTs = .ok () → OnePerTool bundle ∧
    ∀ item ∈ bundle, WithinPolicy asOfTs item.tool item.facts.updatedAt.instant

/-- One item of each tool, all of them labelled as their facts say, with a
`freshness_ts` that hides the age of a fact. -/
structure Misdated (provenance : Provenance) (bundle : List Evidence) (asOfTs : Timestamp) :
    Prop where
  complete : OnePerTool bundle
  provenanced : ∀ item ∈ bundle, item.Provenanced provenance
  labelled : ∀ item ∈ bundle, WithinPolicy asOfTs item.tool item.freshnessTs.instant
  hidden : ∃ item ∈ bundle, ¬ WithinPolicy asOfTs item.tool item.facts.updatedAt.instant

theorem factsFresh_of_not_misdated (dated : ¬ Misdated provenance bundle asOfTs) :
    FactsFresh provenance bundle asOfTs := by
  intro accepted
  obtain ⟨complete, valid⟩ := validateBundle_eq_ok.mp accepted
  refine ⟨complete, fun item member => Classical.byContradiction fun stale => dated ?_⟩
  exact ⟨complete, fun item member => (valid item member).1,
    fun item member => (valid item member).2, item, member, stale⟩

/-- The facts of an accepted bundle are fresh unless a label misdates them. -/
theorem factsFresh_iff (provenance : Provenance) (bundle : List Evidence) (asOfTs : Timestamp) :
    FactsFresh provenance bundle asOfTs ↔ ¬ Misdated provenance bundle asOfTs := by
  constructor
  · rintro fresh ⟨complete, provenanced, labelled, item, member, stale⟩
    have accepted : validateBundle provenance bundle asOfTs = .ok () :=
      validateBundle_eq_ok.mpr
        ⟨complete, fun item member => ⟨provenanced item member, labelled item member⟩⟩
    exact stale ((fresh accepted).2 item member)
  · exact factsFresh_of_not_misdated

/-- A bundle of items that carry the date of their facts, as those of the tools do, is
not misdated. -/
theorem factsFresh_of_dated (dated : ∀ item ∈ bundle, item.freshnessTs = item.facts.updatedAt) :
    FactsFresh provenance bundle asOfTs := by
  refine factsFresh_of_not_misdated fun ⟨_, _, labelled, item, member, stale⟩ => stale ?_
  rw [← dated item member]
  exact labelled item member

end Validation

/-! ### Four days old, and labelled as of today -/

/-- The canonical texts and digests of the source on the facts below. -/
def misdatedProvenance : Provenance where
  canonicalJson := fun value =>
    if (value.member? "on_hand").isSome then
      "\x7b\"on_hand\":5.0,\"on_order\":0.0,\"reserved\":0.0,\"sku_id\":\"SKU-1\"," ++
        "\"store_id\":\"STORE-1\",\"updated_at\":\"1970-01-01T00:00:00Z\"\x7d"
    else if (value.member? "demand_signal").isSome then
      "\x7b\"average_daily_units\":1.0,\"demand_signal\":\"steady\",\"sku_id\":\"SKU-1\"," ++
        "\"store_id\":\"STORE-1\",\"units_sold\":1.0,\"updated_at\":\"1970-01-01T00:00:00Z\"\x7d"
    else
      "\x7b\"expected_receipt_at\":\"1970-01-01T00:00:00Z\",\"historical_lead_time_days\":2.0," ++
        "\"open_order_quantity\":0.0,\"sku_id\":\"SKU-1\",\"status\":\"open\"," ++
        "\"supplier_id\":\"SUP-1\",\"updated_at\":\"1970-01-01T00:00:00Z\"\x7d"
  sha256Text := fun text =>
    match text.toList.head? with
    | some 'i' => "8bac276c525700163d5a970cf37457b786c7a48f878b7db3b86521a810d213dd"
    | some 'd' => "e90dfc89b92004d8e38efe35318c0bd960a031959955e66261ce0c9d9dafe8aa"
    | some 's' => "639a892cce136f4b80403dca8eb802b607ab0d4a5dfcb3d0af101aad629c6c15"
    | _ =>
        match text.toList[2]? with
        | some 'o' => "8a7d03653c6f62a7b7b1c909152406ce441902c23d934e20de45d3b8f3817c04"
        | some 'a' => "86a2bec8b920fb53dfa2eac289cd510d5cd35229f560f46f79e50406511dd731"
        | _ => "8354d5f710793d25cbffcb7a8ea5b45f825a1a7f5ffe8b3d493bd1767f691a1e"
  isoUtc := fun value =>
    if value.instant = 0 then "1970-01-01T00:00:00Z" else "1970-01-05T00:00:00Z"
  isoformat := fun instant =>
    if instant = 0 then "1970-01-01T00:00:00+00:00" else "1970-01-05T00:00:00+00:00"
  sha256Text_hex := by
    intro text
    split
    · decide
    · decide
    · decide
    · split <;> decide

/-- The fifth day of 1970. -/
def fifthDay : Timestamp := 4 * 24 * hour

def misdatedItem (sourceRef queryHash evidenceId contentHash : String) (facts : EvidenceFacts) :
    Evidence where
  evidenceId := evidenceId
  sourceRef := sourceRef
  queryHash := queryHash
  contentHash := contentHash
  retrievedAt := ⟨fifthDay, true⟩
  freshnessTs := ⟨fifthDay, true⟩
  fixtureManifestVersion := "v1"
  facts := facts

/-- Facts of the first day, with the digests of the source. -/
def misdatedBundle : List Evidence :=
  [ misdatedItem "inventory:north:SKU-1:STORE-1"
      "9e8973cc3cefba12d52bb29488f7be2b145f5bb7250f2438fd85848719c527cc"
      "ev_8bac276c525700163d5a970cf37457b786c7a48f878b7db3b86521a810d213dd"
      "8a7d03653c6f62a7b7b1c909152406ce441902c23d934e20de45d3b8f3817c04"
      (.inventory "SKU-1" "STORE-1" (.finite 5) (.finite 0) (.finite 0) ⟨0, true⟩),
    misdatedItem
      "demand:north:SKU-1:STORE-1:1970-01-01T00:00:00+00:00:1970-01-05T00:00:00+00:00"
      "d3472c8d43f00b673031dcefcd91494a6c8aaef6993cbaf77a001f4f2ec7d75a"
      "ev_e90dfc89b92004d8e38efe35318c0bd960a031959955e66261ce0c9d9dafe8aa"
      "86a2bec8b920fb53dfa2eac289cd510d5cd35229f560f46f79e50406511dd731"
      (.demand "SKU-1" "STORE-1" (.finite 1) (.finite 1) "steady" ⟨0, true⟩),
    misdatedItem "supplier:north:SKU-1:SUP-1"
      "1b3d86ecd1849b624ab0d4c2572def2496bc33b059167f900e17607131b038de"
      "ev_639a892cce136f4b80403dca8eb802b607ab0d4a5dfcb3d0af101aad629c6c15"
      "8354d5f710793d25cbffcb7a8ea5b45f825a1a7f5ffe8b3d493bd1767f691a1e"
      (.supplier "SKU-1" "SUP-1" (.finite 0) ⟨0, true⟩ (.finite 2) "open" ⟨0, true⟩) ]

theorem misdatedBundle_accepted :
    validateBundle misdatedProvenance misdatedBundle fifthDay = .ok () := by
  decide +kernel

theorem stale_facts_accepted :
    (∀ item ∈ misdatedBundle, exactModels.accepts item = true ∧
      ∃ payload, exactModels.parseEvidence payload = .ok item) ∧
      ¬ FactsFresh misdatedProvenance misdatedBundle fifthDay := by
  constructor
  · intro item member
    have accepted : ∀ item ∈ misdatedBundle, exactModels.accepts item = true := by decide +kernel
    refine ⟨accepted item member, some (exactModels.modelDump item), ?_⟩
    simp [EvidenceCodec.parseEvidence, exactModels, readEvidence_dump]
  · intro fresh
    obtain ⟨-, policy⟩ := fresh misdatedBundle_accepted
    have first := policy _ List.mem_cons_self
    exact absurd first.2 (by decide)

end StockoutOps.Investigation
