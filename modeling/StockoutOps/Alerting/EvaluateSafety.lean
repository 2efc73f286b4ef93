import StockoutOps.Alerting.RecordAnswers

/-!
Contract: the safety of the calls of `AlertService.evaluate`.

Owns: what a call knows of its sessions; how its loop ends; and that the calls, their
crashes and the other writers keep to the discipline of the sessions.

Does not own: what follows for the stored events.
-/

namespace StockoutOps.Alerting

open StockoutOps.Sql StockoutOps.Foundation.Interleaving

/-! ## The sessions of a call -/

theorem sessionCaller_policySession (index : Nat) (u : Caller) :
    sessionCaller (policySession index u) = u := by
  simp [sessionCaller, policySession]

theorem policySession_ne {index other : Nat} {u v : Caller} (differ : index ≠ other ∨ u ≠ v) :
    policySession index u ≠ policySession other v := by
  intro same
  obtain ⟨rfl, rfl⟩ := Nat.pair_eq_pair.mp same
  simp at differ

/-- The caller is an operator of the snapshot's tenant. -/
structure EvaluateCall.Entitled (call : EvaluateCall) : Prop where
  operator : call.principal.hasRole "operator" = true
  ownTenant : call.snapshot.correlation.tenantId = call.principal.tenantId

/-- The session records an assessment of its caller's snapshot. -/
def Opens (calls : Caller → EvaluateCall) (session : Caller) : Prop :=
  (calls (sessionCaller session)).Entitled ∧
    ∃ assessments, assessPolicies (calls (sessionCaller session)).snapshot = .ok assessments ∧
      session.unpair.2 < assessments.length

/-- The events are those of sessions that a call opens. -/
def FromSessions (calls : Caller → EvaluateCall) (world : RecordWorld) : Prop :=
  ∀ session row, (session, row) ∈ world.log → Opens calls session

/-- The discipline of the calls is that of their sessions. -/
abbrev evaluateDiscipline (platform : EvaluationPlatform) (calls : Caller → EvaluateCall) :
    Discipline Caller RecordInput RecordWorld :=
  (recordDiscipline platform (recordCalls calls)).bySession sessionCaller RecordInput.Outside
    (FromSessions calls)

/-- The sessions from an index on are not open and have never been. -/
def Unopened (u : Caller) (index : Nat) (world : RecordWorld) : Prop :=
  ∀ later, index ≤ later → world.InCall (policySession later u) .empty none

/-- What the evaluations of a loop say that went through. -/
inductive Evaluations (platform : EvaluationPlatform) (u : Caller) (call : EvaluateCall)
    (world : RecordWorld) : Nat → List PolicyAssessment → List AlertEvaluation → Prop where
  | nil (index : Nat) : Evaluations platform u call world index [] []
  | cons {index : Nat} {assessment : PolicyAssessment} {assessments : List PolicyAssessment}
      {evaluation : AlertEvaluation} {evaluations : List AlertEvaluation}
      (evaluated : Evaluated platform (policySession index u)
        (call.submission index assessment).request (.ok evaluation) world)
      (calm : ¬ (assessment.policyId = externalActionSafety ∧ evaluation.state = some .firing))
      (rest : Evaluations platform u call world (index + 1) assessments evaluations) :
      Evaluations platform u call world index (assessment :: assessments)
        (evaluation :: evaluations)

/-- The loop has met the safety policy firing, and has gone no further. -/
structure Detected (platform : EvaluationPlatform) (u : Caller) (call : EvaluateCall)
    (assessment : PolicyAssessment) (evaluation : AlertEvaluation) (index : Nat)
    (world : RecordWorld) : Prop where
  evaluated : Evaluated platform (policySession index u)
    (call.submission index assessment).request (.ok evaluation) world
  safety : assessment.policyId = externalActionSafety
  firing : evaluation.state = some .firing
  unopened : Unopened u (index + 1) world

/-- How a loop ends. -/
def Looped (platform : EvaluationPlatform) (u : Caller) (call : EvaluateCall) (index : Nat)
    (assessments : List PolicyAssessment) :
    Except Failure (List AlertEvaluation) → RecordWorld → Prop
  | .ok evaluations, world => Evaluations platform u call world index assessments evaluations
  | .error failure, world => failure = shadowExternalActionDetected →
      (∃ evaluation, call.service.sink call.principal evaluation = .error failure) ∨
      ∃ passed assessment evaluation, assessments[passed]? = some assessment ∧
        Detected platform u call assessment evaluation (index + passed) world

section Loop

variable {platform : EvaluationPlatform} {calls : Caller → EvaluateCall} {u : Caller}
  {call : EvaluateCall} {world later : RecordWorld} {index : Nat} {submission : Submission}
  {assessments : List PolicyAssessment} {evaluations : List AlertEvaluation}
  {Kept : RecordWorld → Prop}

theorem Unopened.rely (unopened : Unopened u index world)
    (rely : (evaluateDiscipline platform calls).Rely u world later) :
    Unopened u index later := fun next above =>
  (unopened next above).rely (rely _ (sessionCaller_policySession next u))

theorem Unopened.mono (unopened : Unopened u index world) : Unopened u (index + 1) world :=
  fun next above => unopened next (by omega)

theorem Evaluations.rely (told : Evaluations platform u call world index assessments evaluations)
    (rely : (evaluateDiscipline platform calls).Rely u world later) :
    Evaluations platform u call later index assessments evaluations := by
  induction told with
  | nil index => exact .nil index
  | cons evaluated calm _ inductionHypothesis =>
      exact .cons (evaluated.rely (rely _ (sessionCaller_policySession _ u))) calm
        inductionHypothesis

theorem Detected.rely {assessment : PolicyAssessment} {evaluation : AlertEvaluation}
    (detected : Detected platform u call assessment evaluation index world)
    (rely : (evaluateDiscipline platform calls).Rely u world later) :
    Detected platform u call assessment evaluation index later :=
  ⟨detected.evaluated.rely (rely _ (sessionCaller_policySession _ u)), detected.safety,
    detected.firing, detected.unopened.rely rely⟩

/-- One policy, in its session; what the earlier sessions know stays true. -/
theorem safe_policy (opens : Opens calls (policySession index u))
    (records : recordCalls calls (policySession index u) = submission)
    (stable : ∀ {before after : RecordWorld},
      (∀ earlier < index, before.Rely platform (policySession earlier u) after) →
      Kept before → Kept after)
    (unopened : Unopened u index world) (kept : Kept world) :
    (evaluateDiscipline platform calls).Safe u
      ((submission.program platform).inSession (policySession index))
      (fun result last =>
        Evaluated platform (policySession index u) submission.request result last ∧
        Unopened u (index + 1) last ∧ Kept last) world := by
  have fresh := unopened index (Nat.le_refl _)
  subst records
  refine Discipline.safe_inSession (sessionCaller_policySession index u) (fun _ _ => trivial)
    (fun before after rely frame => ⟨frame.1.rely rely, stable (fun earlier _ =>
      rely _ (sessionCaller_policySession earlier u)) frame.2⟩)
    (fun before after _ sessions frame guarantee => ⟨fun session row logged => ?_,
      fun next above => ?_, ?_⟩)
    (safe_program fresh) (watched_record fresh.own) ⟨unopened.mono, kept⟩
  · by_cases own : session = policySession index u
    · exact own ▸ opens
    · exact sessions session row (((guarantee.rely session own).log row).mp logged)
  · refine (frame.1 next above).rely (guarantee.rely _ (policySession_ne (.inl ?_)))
    omega
  · refine stable (fun earlier below => guarantee.rely _ (policySession_ne (.inl ?_))) frame.2
    omega

/-- The loop from an index on. -/
theorem safe_evaluateFrom
    (opens : ∀ passed assessment, assessments[passed]? = some assessment →
      Opens calls (policySession (index + passed) u) ∧
        recordCalls calls (policySession (index + passed) u) =
          call.submission (index + passed) assessment)
    (stable : ∀ {before after : RecordWorld},
      (∀ earlier < index, before.Rely platform (policySession earlier u) after) →
      Kept before → Kept after)
    (unopened : Unopened u index world) (kept : Kept world) :
    (evaluateDiscipline platform calls).Safe u (call.evaluateFrom platform index assessments)
      (fun result last => Looped platform u call index assessments result last ∧ Kept last)
      world := by
  induction assessments generalizing index world Kept with
  | nil =>
      refine Discipline.Safe.pure fun last rely _ => ⟨.nil index, stable (fun earlier _ => ?_) kept⟩
      exact rely _ (sessionCaller_policySession earlier u)
  | cons assessment rest inductionHypothesis =>
      have relied : ∀ {before after : RecordWorld},
          (evaluateDiscipline platform calls).Rely u before after → Kept before → Kept after :=
        fun rely => stable fun earlier _ => rely _ (sessionCaller_policySession earlier u)
      refine Discipline.Safe.call_bind (Discipline.Safe.mono (fun result last _ post => ?_)
        (safe_policy (opens 0 assessment rfl).1 (opens 0 assessment rfl).2 stable unopened kept))
      obtain ⟨evaluated, unopened, kept⟩ := post
      cases result with
      | error failure =>
          exact fun final rely _ => ⟨fun same => absurd same evaluated, relied rely kept⟩
      | ok evaluation =>
          cases delivered : call.service.sink call.principal evaluation with
          | error failure =>
              simp only [delivered]
              exact Discipline.Safe.raise fun final rely _ =>
                ⟨fun _ => .inl ⟨evaluation, delivered⟩, relied rely kept⟩
          | ok done =>
              by_cases firing : assessment.policyId = externalActionSafety ∧
                  evaluation.state = some .firing
              · simp only [delivered, if_pos firing]
                refine Discipline.Safe.raise fun final rely _ => ⟨fun _ => ?_, relied rely kept⟩
                have detected : Detected platform u call assessment evaluation index last :=
                  ⟨evaluated, firing.1, firing.2, unopened⟩
                exact .inr ⟨0, assessment, evaluation, rfl, detected.rely rely⟩
              · simp only [delivered, if_neg firing]
                have next := @inductionHypothesis last (index + 1) (fun world => Kept world ∧
                    Evaluated platform (policySession index u)
                      (call.submission index assessment).request (.ok evaluation) world)
                  (fun passed later at_ => by
                    have opened := opens (passed + 1) later at_
                    rwa [show index + (passed + 1) = index + 1 + passed by omega] at opened)
                  (fun rely both => ⟨stable (fun earlier below => rely earlier (by omega)) both.1,
                    both.2.rely (rely index (by omega))⟩) unopened ⟨kept, evaluated⟩
                refine Discipline.Safe.call_bind (Discipline.Safe.mono
                  (fun result last _ post => ?_) next)
                obtain ⟨looped, kept, evaluated⟩ := post
                cases result with
                | error failure =>
                    intro final rely _
                    refine ⟨fun same => ?_, relied rely kept⟩
                    obtain sink | ⟨passed, later, evaluation, at_, detected⟩ := looped same
                    · exact .inl sink
                    · have place : index + (passed + 1) = index + 1 + passed := by omega
                      exact .inr ⟨passed + 1, later, evaluation, at_, place ▸ detected.rely rely⟩
                | ok evaluations =>
                    refine Discipline.Safe.pure fun final rely _ => ⟨?_, relied rely kept⟩
                    exact .cons (evaluated.rely (rely _ (sessionCaller_policySession _ u))) firing
                      (looped.rely rely)

end Loop

/-! ## Every run -/

/-- How a call ends: its loop has ended so, or it has raised before. -/
def EvaluateEnds (platform : EvaluationPlatform) (u : Caller) (call : EvaluateCall)
    (result : Except Failure (List AlertEvaluation)) (world : RecordWorld) : Prop :=
  (∃ assessments, call.Entitled ∧ assessPolicies call.snapshot = .ok assessments ∧
      Looped platform u call 0 assessments result world) ∨
    Raises result

section Runs

variable {platform : EvaluationPlatform} {calls : Caller → EvaluateCall} {u v : Caller}
  {call other : EvaluateCall} {world : RecordWorld} {pool : EvaluatePool}
  {assessments : List PolicyAssessment}

theorem opens_of_assessed (entitled : (calls u).Entitled)
    (assessed : assessPolicies (calls u).snapshot = .ok assessments)
    {index : Nat} {assessment : PolicyAssessment} (at_ : assessments[index]? = some assessment) :
    Opens calls (policySession index u) ∧
      recordCalls calls (policySession index u) = (calls u).submission index assessment := by
  have below : index < assessments.length := (List.getElem?_eq_some_iff.mp at_).1
  refine ⟨⟨?_, assessments, ?_, ?_⟩, ?_⟩
  · rw [sessionCaller_policySession]
    exact entitled
  · rw [sessionCaller_policySession]
    exact assessed
  · simpa [policySession] using below
  · rw [recordCalls, sessionCaller_policySession]
    simp [policySession, EvaluateCall.assessment, assessed, List.getD_eq_getElem?_getD, at_]

theorem error_of_map {α β : Type} {f : α → β} {first : Except Failure α} {failure : Failure}
    (raised : (f <$> first) = .error failure) : first = .error failure := by
  cases first with
  | error error => simpa using raised
  | ok value => cases raised

theorem overflow_of_floatOfInt {count : Nat} {failure : Failure}
    (raised : floatOfInt count = .error failure) : ∃ message, failure = .overflowError message := by
  unfold floatOfInt at raised
  split at raised
  · cases raised
  · exact ⟨_, (Except.error.inj raised).symm⟩

theorem overflow_of_trueDivision {numerator denominator : Nat} {failure : Failure}
    (raised : trueDivision numerator denominator = .error failure) :
    ∃ message, failure = .overflowError message := by
  unfold trueDivision at raised
  split at raised
  · cases raised
  · exact ⟨_, (Except.error.inj raised).symm⟩

theorem overflow_of_countValue {count : Option Nat} {failure : Failure}
    (raised : countValue count = .error failure) : ∃ message, failure = .overflowError message := by
  cases count with
  | none => cases raised
  | some count => exact overflow_of_floatOfInt (error_of_map raised)

theorem overflow_of_rateValue {caseCount : Nat} {count : Option Nat} {failure : Failure}
    (raised : rateValue caseCount count = .error failure) :
    ∃ message, failure = .overflowError message := by
  cases count with
  | none => cases raised
  | some count =>
      simp only [rateValue] at raised
      split at raised
      · cases raised
      · exact overflow_of_trueDivision (error_of_map raised)

/-- A policy raises only where a count is too large for a float. -/
theorem overflow_of_assess {policy : AlertPolicy} {snapshot : AlertMetricSnapshot}
    {failure : Failure} (raised : policy.assess snapshot = .error failure) :
    ∃ message, failure = .overflowError message := by
  have observed : policy.observe snapshot = .error failure := error_of_map raised
  unfold AlertPolicy.observe at observed
  split at observed
  · exact overflow_of_countValue observed
  · exact overflow_of_rateValue observed
  · exact overflow_of_countValue observed
  · exact overflow_of_countValue observed
  · exact overflow_of_rateValue observed

theorem raises_of_assessPolicies {snapshot : AlertMetricSnapshot} {failure : Failure}
    (raised : assessPolicies snapshot = .error failure) :
    failure ≠ shadowExternalActionDetected := by
  obtain ⟨policy, -, refused⟩ := exists_of_mapM_eq_error raised
  obtain ⟨message, rfl⟩ := overflow_of_assess refused
  simp [shadowExternalActionDetected, Failure.conflict]

theorem safe_evaluate (unopened : Unopened u 0 world) :
    (evaluateDiscipline platform calls).Safe u ((calls u).evaluate platform)
      (EvaluateEnds platform u (calls u)) world := by
  unfold EvaluateCall.evaluate
  split
  case isTrue =>
    exact Discipline.Safe.raise fun _ _ _ => .inr ⟨_, rfl, by
      simp [shadowExternalActionDetected, Failure.conflict]⟩
  case isFalse role =>
  split
  case isTrue =>
    exact Discipline.Safe.raise fun _ _ _ => .inr ⟨_, rfl, by
      simp [shadowExternalActionDetected, Failure.conflict]⟩
  case isFalse foreign =>
  have entitled : (calls u).Entitled := ⟨Bool.not_eq_false _ ▸ role, not_not.mp foreign⟩
  cases assessed : assessPolicies (calls u).snapshot with
  | error failure =>
      exact Discipline.Safe.raise fun _ _ _ => .inr ⟨_, rfl, raises_of_assessPolicies assessed⟩
  | ok assessments =>
      have safe : (evaluateDiscipline platform calls).Safe u
          ((calls u).evaluateFrom platform 0 assessments)
          (fun result last => Looped platform u (calls u) 0 assessments result last ∧ True) world :=
        safe_evaluateFrom (fun passed assessment at_ => by
          rw [Nat.zero_add]
          exact opens_of_assessed entitled assessed at_) (fun _ _ => trivial) unopened trivial
      exact Discipline.Safe.mono
        (fun result last _ post => .inl ⟨assessments, entitled, assessed, post.1⟩) safe

theorem guarantee_leave (consistent : (evaluateDiscipline platform calls).Inv world) :
    (evaluateDiscipline platform calls).Guarantee u world (world.leave u) := by
  unfold RecordWorld.leave
  induction List.range policies.length generalizing world with
  | nil => exact .refl consistent
  | cons index rest inductionHypothesis =>
      have first : (evaluateDiscipline platform calls).Guarantee u world
          (world.abandon (policySession index u)) := by
        refine ⟨⟨consistent.1.abandon, consistent.2⟩, fun other differs session owned => ?_⟩
        refine RecordWorld.abandon_onlyOwn.rely session fun same => differs ?_
        rw [← owned, same, sessionCaller_policySession]
      exact first.trans (inductionHypothesis first.inv)

theorem evaluate_verified :
    Verified (evaluateSystem platform calls) (evaluateDiscipline platform calls)
      (fun u world => Unopened u 0 world)
      (fun u call result world => call = calls u ∧ EvaluateEnds platform u call result world) where
  allowed := fun _ _ outside => outside
  fresh := fun _ _ _ rely _ unopened => unopened.rely rely
  calls := fun u call world starts _ unopened => by
    obtain rfl := starts
    exact Discipline.Safe.mono (fun _ _ _ ends => ⟨rfl, ends⟩) (safe_evaluate unopened)
  crash := fun u before after crash inv => by
    obtain rfl := crash
    exact guarantee_leave inv
  disturb := fun before after disturb inv => by
    obtain ⟨consistent, rely⟩ := record_verified.disturb before after disturb inv.1
    obtain ⟨evaluations, outbox, rfl⟩ := disturb
    exact ⟨⟨consistent, inv.2⟩, fun u session _ => rely session⟩

/-- The pool is safe: its tables are those of atomic calls, and its calls end as they should. -/
theorem EvaluatePool.Reachable.safe
    (reachable : EvaluatePool.Reachable platform calls pool) :
    pool.Safe (evaluateDiscipline platform calls) (fun u world => Unopened u 0 world)
      (fun u call result world => call = calls u ∧ EvaluateEnds platform u call result world) := by
  have unopened (u : Caller) : Unopened u 0 RecordWorld.initial := fun index _ =>
    ⟨rfl, fun key => by simp [RecordWorld.initial], rfl, fun row => by simp [RecordWorld.initial]⟩
  have sessions : FromSessions calls RecordWorld.initial := fun session row logged => by
    simp [RecordWorld.initial] at logged
  have consistent : (evaluateDiscipline platform calls).Inv RecordWorld.initial :=
    ⟨RecordWorld.initial_consistent, sessions⟩
  have safe : Pool.Safe (evaluateDiscipline platform calls) (fun u world => Unopened u 0 world)
      (fun u call result world => call = calls u ∧ EvaluateEnds platform u call result world)
      (Pool.start RecordWorld.initial) :=
    Pool.safe_start consistent unopened
  exact safe.reaches evaluate_verified reachable

end Runs

end StockoutOps.Alerting
