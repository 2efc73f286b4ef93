import StockoutOps.Foundation.Component

/-!
Contract: programs that perform one kind of action only.

Owns: the judgement `Every` (each action that a program can reach is of a kind), its
rules for calls and for programs on a component, the rely-guarantee proof of a
program whose actions all keep a frame, and that a safe program's postcondition stays.

Does not own: the kind.
-/

namespace StockoutOps.Foundation.Interleaving

/-- A property of actions, whatever they answer. -/
abbrev ActionKind (τ ι σ : Type) : Type 1 := (ρ : Type) → (τ → ι → σ → Option (ρ × σ)) → Prop

namespace Prog

variable {τ ι ω σ α β : Type} {Kind : ActionKind τ ι σ}

/-- Every action of the program is of the kind, whatever the earlier ones answer. -/
def Every (Kind : ActionKind τ ι σ) : Prog τ ι σ α → Prop
  | .ret _ => True
  | .step action next => Kind _ action ∧ ∀ result, (next result).Every Kind

theorem Every.bind {program : Prog τ ι σ α} {follow : α → Prog τ ι σ β}
    (first : program.Every Kind) (rest : ∀ value, (follow value).Every Kind) :
    (program.bind follow).Every Kind := by
  induction program with
  | ret value => exact rest value
  | step action next inductionHypothesis =>
      exact ⟨first.1, fun result => inductionHypothesis result (first.2 result)⟩

theorem Every.within (component : Component ω σ) {Outer : ActionKind τ ι ω}
    {program : Prog τ ι σ α} (every : program.Every Kind)
    (lifted : ∀ ρ (action : τ → ι → σ → Option (ρ × σ)), Kind ρ action →
      Outer ρ (fun t input whole => (action t input (component.get whole)).map
        fun answer => (answer.1, component.set whole answer.2))) :
    (program.within component).Every Outer := by
  induction program with
  | ret value => trivial
  | step action next inductionHypothesis =>
      exact ⟨lifted _ action every.1, fun result => inductionHypothesis result (every.2 result)⟩

end Prog

namespace Call

variable {τ ι σ ε α β : Type} {Kind : ActionKind τ ι σ}

/-- Every action of the call. -/
def Every (Kind : ActionKind τ ι σ) (call : Call τ ι σ ε α) : Prop := Prog.Every Kind call

theorem every_pure (value : α) : (Call.pure value : Call τ ι σ ε α).Every Kind := trivial

theorem every_raise (exception : ε) : (Call.raise exception : Call τ ι σ ε α).Every Kind :=
  trivial

theorem every_exec {action : τ → ι → σ → Option (Except ε α × σ)} (kind : Kind _ action) :
    (Call.exec action).Every Kind := ⟨kind, fun _ => trivial⟩

theorem every_bind {first : Call τ ι σ ε α} {follow : α → Call τ ι σ ε β}
    (start : first.Every Kind) (rest : ∀ value, (follow value).Every Kind) :
    (first >>= follow : Call τ ι σ ε β).Every Kind :=
  Prog.Every.bind start fun result =>
    match result with
    | .ok value => rest value
    | .error _ => trivial

theorem every_attempt {body : Call τ ι σ ε α} (every : body.Every Kind) :
    body.attempt.Every Kind :=
  Prog.Every.bind every fun _ => trivial

end Call

section Safe

variable {τ ι σ α : Type} {discipline : Discipline τ ι σ} {Frame : τ → σ → Prop}
  {Kind : ActionKind τ ι σ} {t : τ}

/-- A program whose actions keep a frame keeps it to its end; it may wait anywhere. -/
theorem safe_of_every (waits : ∀ state, discipline.Waits t state)
    (frame : ∀ before after, discipline.Rely t before after → Frame t before → Frame t after)
    (steps : ∀ ρ (action : τ → ι → σ → Option (ρ × σ)), Kind ρ action →
      ∀ input state result after, discipline.Inv state → Frame t state →
        action t input state = some (result, after) →
          discipline.Guarantee t state after ∧ Frame t after)
    {program : Prog τ ι σ α} (every : program.Every Kind) {state : σ} (kept : Frame t state) :
    discipline.Safe t program (fun _ last => Frame t last) state := by
  induction program generalizing state with
  | ret value => exact fun later relied _ => frame state later relied kept
  | step action next inductionHypothesis =>
      intro later relied inv
      refine ⟨.inr (waits later), fun input result after _ answered => ?_⟩
      obtain ⟨guarantee, framed⟩ := steps _ action every.1 input later result after inv
        (frame state later relied kept) answered
      exact ⟨guarantee, inductionHypothesis result (every.2 result) framed⟩

/-- What a safe program ends with, it ends with for good. -/
theorem Discipline.Safe.settled {program : Prog τ ι σ α} {Post : α → σ → Prop} {state : σ}
    (safe : discipline.Safe t program Post state) :
    discipline.Safe t program (discipline.Settled t Post) state := by
  induction program generalizing state with
  | ret value =>
      exact fun later relied _ last reliedLast inv =>
        safe last (discipline.trans t relied reliedLast) inv
  | step action next inductionHypothesis =>
      intro later relied inv
      obtain ⟨ready, answers⟩ := safe later relied inv
      refine ⟨ready, fun input result after allowed answered => ?_⟩
      obtain ⟨guarantee, rest⟩ := answers input result after allowed answered
      exact ⟨guarantee, inductionHypothesis result rest⟩

end Safe

end StockoutOps.Foundation.Interleaving
