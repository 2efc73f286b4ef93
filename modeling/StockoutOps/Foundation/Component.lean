import StockoutOps.Foundation.Interleaving

/-!
Contract: a program that works on one component of a larger state.

Owns: the program as one of the larger state, and how its rely-guarantee proof
over the component becomes one over the whole.

Does not own: what else the larger state holds, and what binds it to the
component.
-/

namespace StockoutOps.Foundation.Interleaving

/-- A component of a state. -/
structure Component (ω σ : Type) where
  get : ω → σ
  set : ω → σ → ω
  get_set : ∀ whole part, get (set whole part) = part

namespace Prog

variable {τ ι ω σ α : Type}

/-- The program on the component; the rest of the state is left alone. -/
def within (component : Component ω σ) : Prog τ ι σ α → Prog τ ι ω α
  | .ret value => .ret value
  | .step action next =>
      .step
        (fun t input whole =>
          (action t input (component.get whole)).map
            (fun answer => (answer.1, component.set whole answer.2)))
        (fun result => (next result).within component)

end Prog

namespace Call

variable {τ ι ω σ ε α : Type}

/-- The call on the component. -/
def within (component : Component ω σ) (call : Call τ ι σ ε α) : Call τ ι ω ε α :=
  Prog.within component call

end Call

/-! ## Rely-guarantee proofs -/

/-- How a discipline of the component sits in one of the whole. `Frame` is what
a thread knows of the rest while it works on the component. -/
structure Embeds {τ ι ω σ : Type} (component : Component ω σ) (inner : Discipline τ ι σ)
    (outer : Discipline τ ι ω) (Frame : τ → ω → Prop) : Prop where
  inv : ∀ whole, outer.Inv whole → inner.Inv (component.get whole)
  rely : ∀ t before after, outer.Rely t before after →
    inner.Rely t (component.get before) (component.get after)
  allowed : ∀ t input, outer.Allowed t input ↔ inner.Allowed t input
  waits : ∀ t whole, outer.Inv whole → Frame t whole → inner.Waits t (component.get whole) →
    outer.Waits t whole
  guarantee : ∀ t whole part, outer.Inv whole → Frame t whole →
    inner.Guarantee t (component.get whole) part →
    outer.Guarantee t whole (component.set whole part) ∧ Frame t (component.set whole part)
  frame : ∀ t before after, outer.Rely t before after → outer.Inv after → Frame t before →
    Frame t after

section Embeds

variable {τ ι ω σ α : Type} {component : Component ω σ} {inner : Discipline τ ι σ}
  {outer : Discipline τ ι ω} {Frame : τ → ω → Prop} {t : τ}

/-- A program that is safe on the component is safe on the whole. -/
theorem Embeds.safe (embeds : Embeds component inner outer Frame) {program : Prog τ ι σ α}
    {Post : α → σ → Prop} {whole : ω} (safe : inner.Safe t program Post (component.get whole))
    (frame : Frame t whole) :
    outer.Safe t (program.within component)
      (fun value last => Post value (component.get last) ∧ Frame t last) whole := by
  induction program generalizing whole with
  | ret value =>
      intro later relied inv
      exact ⟨safe _ (embeds.rely t whole later relied) (embeds.inv later inv),
        embeds.frame t whole later relied inv frame⟩
  | step action next inductionHypothesis =>
      intro later relied inv
      have known := embeds.frame t whole later relied inv frame
      obtain ⟨ready, answers⟩ :=
        safe (component.get later) (embeds.rely t whole later relied) (embeds.inv later inv)
      constructor
      · rcases ready with ⟨input, answer, allowed, answered⟩ | waits
        · refine .inl ⟨input, (answer.1, component.set later answer.2),
            (embeds.allowed t input).mpr allowed, ?_⟩
          show Option.map _ (action t input (component.get later)) = _
          rw [answered, Option.map_some]
        · exact .inr (embeds.waits t later inv known waits)
      · intro input result after allowed answered
        obtain ⟨⟨found, part⟩, acted, same⟩ := Option.map_eq_some_iff.mp answered
        obtain ⟨rfl, rfl⟩ := Prod.mk.inj same
        obtain ⟨owed, rest⟩ :=
          answers input found part ((embeds.allowed t input).mp allowed) acted
        obtain ⟨guarantee, kept⟩ := embeds.guarantee t later part inv known owed
        refine ⟨guarantee, inductionHypothesis found ?_ kept⟩
        rw [component.get_set]
        exact rest

end Embeds

/-- Nothing is known of the component and anything may happen to it. -/
def Discipline.free (τ ι σ : Type) (Allowed : τ → ι → Prop) : Discipline τ ι σ where
  Inv := fun _ => True
  Rely := fun _ _ _ => True
  Allowed := Allowed
  Waits := fun _ _ => True
  refl := fun _ _ => trivial
  trans := fun _ _ _ _ _ _ => trivial

theorem Discipline.safe_free {τ ι σ α : Type} {Allowed : τ → ι → Prop} {t : τ}
    (program : Prog τ ι σ α) (state : σ) :
    (Discipline.free τ ι σ Allowed).Safe t program (fun _ _ => True) state := by
  induction program generalizing state with
  | ret value => exact fun _ _ _ => trivial
  | step action next inductionHypothesis =>
      exact fun later _ _ => ⟨.inr trivial, fun input result after _ _ =>
        ⟨⟨trivial, fun _ _ => trivial⟩, inductionHypothesis result after⟩⟩

end StockoutOps.Foundation.Interleaving
