import StockoutOps.Foundation.Interleaving

/-!
Contract: facts that no thread undoes.

Owns: the frame rule: a fact that a thread keeps, and that the others keep, still
holds when the program of the thread ends.

Does not own: the facts.
-/

namespace StockoutOps.Foundation.Interleaving

namespace Discipline

variable {τ ι σ α : Type} {discipline : Discipline τ ι σ} {t : τ} {Fact : σ → Prop}

theorem Safe.frame
    (relied : ∀ before after, discipline.Rely t before after → discipline.Inv after →
      Fact before → Fact after)
    (owed : ∀ before after, discipline.Guarantee t before after → Fact before → Fact after)
    {program : Prog τ ι σ α} {Post : α → σ → Prop} {state : σ}
    (safe : discipline.Safe t program Post state) (fact : Fact state) :
    discipline.Safe t program (fun value last => Post value last ∧ Fact last) state := by
  induction program generalizing state with
  | ret value =>
      exact fun last reliedLast inv => ⟨safe last reliedLast inv, relied _ _ reliedLast inv fact⟩
  | step action next inductionHypothesis =>
      intro later reliedLater inv
      obtain ⟨ready, answers⟩ := safe later reliedLater inv
      refine ⟨ready, fun input result after allowed answered => ?_⟩
      obtain ⟨guarantee, rest⟩ := answers input result after allowed answered
      have kept := owed _ _ guarantee (relied _ _ reliedLater inv fact)
      exact ⟨guarantee, inductionHypothesis result rest kept⟩

end Discipline

end StockoutOps.Foundation.Interleaving
