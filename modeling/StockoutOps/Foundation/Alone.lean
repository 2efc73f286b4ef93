import StockoutOps.Foundation.Interleaving

/-!
Contract: a program that has the shared state to itself.

Owns: the judgement `Alone` (whatever it reads from outside, the program never
waits for ever, ends, and ends well), and how a rely-guarantee proof gives it
when nobody else is there to wait for.

Does not own: the state, the actions and the discipline.
-/

namespace StockoutOps.Foundation.Interleaving

namespace Prog

variable {τ ι σ α : Type}

/-- Run by `t` alone, every action of the program answers on some allowed
input, and whatever the inputs are the run ends in `Post`. -/
def Alone (Allowed : ι → Prop) (t : τ) : Prog τ ι σ α → (α → σ → Prop) → σ → Prop
  | .ret value, Post, state => Post value state
  | .step action next, Post, state =>
      (∃ input answer, Allowed input ∧ action t input state = some answer) ∧
        ∀ input result after, Allowed input → action t input state = some (result, after) →
          (next result).Alone Allowed t Post after

variable {Allowed : ι → Prop} {t : τ} {program : Prog τ ι σ α} {Post Post' : α → σ → Prop}
  {state : σ}

theorem Alone.mono (weaker : ∀ value last, Post value last → Post' value last)
    (alone : program.Alone Allowed t Post state) : program.Alone Allowed t Post' state := by
  induction program generalizing state with
  | ret value => exact weaker value state alone
  | step action next inductionHypothesis =>
      obtain ⟨ready, answers⟩ := alone
      exact ⟨ready, fun input result after allowed answered =>
        inductionHypothesis result (answers input result after allowed answered)⟩

/-- A program that ends has an end: what always holds there can be met. -/
theorem Alone.exists_end (alone : program.Alone Allowed t Post state) :
    ∃ value last, Post value last := by
  induction program generalizing state with
  | ret value => exact ⟨value, state, alone⟩
  | step action next inductionHypothesis =>
      obtain ⟨⟨input, ⟨result, after⟩, allowed, answered⟩, answers⟩ := alone
      exact inductionHypothesis result (answers input result after allowed answered)

theorem Alone.and (left : program.Alone Allowed t Post state)
    (right : program.Alone Allowed t Post' state) :
    program.Alone Allowed t (fun value last => Post value last ∧ Post' value last) state := by
  induction program generalizing state with
  | ret value => exact ⟨left, right⟩
  | step action next inductionHypothesis =>
      exact ⟨left.1, fun input result after allowed answered =>
        inductionHypothesis result (left.2 input result after allowed answered)
          (right.2 input result after allowed answered)⟩

end Prog

section Safe

variable {τ ι σ α : Type} {discipline : Discipline τ ι σ} {t : τ}

/-- A safe program runs well alone, as long as it has nobody to wait for. -/
theorem alone_of_safe (NoOther : σ → Prop)
    (kept : ∀ before after, discipline.Inv before → discipline.Guarantee t before after →
      NoOther before → NoOther after)
    (ready : ∀ state, discipline.Inv state → NoOther state → ¬ discipline.Waits t state)
    {program : Prog τ ι σ α} {Post : α → σ → Prop} {state : σ}
    (safe : discipline.Safe t program Post state) (inv : discipline.Inv state)
    (nobody : NoOther state) : program.Alone (discipline.Allowed t) t Post state := by
  induction program generalizing state with
  | ret value => exact safe state (discipline.refl t state) inv
  | step action next inductionHypothesis =>
      obtain ⟨enabled, answers⟩ := safe state (discipline.refl t state) inv
      constructor
      · rcases enabled with ⟨input, answer, allowed, answered⟩ | waits
        · exact ⟨input, answer, allowed, answered⟩
        · exact absurd waits (ready state inv nobody)
      · intro input result after allowed answered
        obtain ⟨guarantee, rest⟩ := answers input result after allowed answered
        exact inductionHypothesis result rest guarantee.inv
          (kept state after inv guarantee nobody)

end Safe

end StockoutOps.Foundation.Interleaving
