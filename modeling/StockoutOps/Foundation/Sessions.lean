import StockoutOps.Foundation.Interleaving

/-!
Contract: threads that run programs in sessions of their own.

Owns: a program run in a session of its caller; the discipline of callers that is
made of that of their sessions; and the proof that a program which is safe in its
session is safe for its caller, whatever the caller knows of its other sessions.

Does not own: which caller owns which session.

What a program answers can be proved apart from what it owes the others: `observing`
leaves one thread alone with what it relies on.
-/

namespace StockoutOps.Foundation.Interleaving

namespace Prog

variable {τ υ ι σ α β : Type}

/-- The program, every action of it performed in the caller's session. -/
def inSession (session : υ → τ) : Prog τ ι σ α → Prog υ ι σ α
  | .ret value => .ret value
  | .step action next =>
      .step (fun t input state => action (session t) input state)
        (fun result => (next result).inSession session)

end Prog

namespace Call

/-- The call, in the caller's session. -/
def inSession {τ υ ι σ ε α : Type} (session : υ → τ) (call : Call τ ι σ ε α) :
    Call υ ι σ ε α :=
  Prog.inSession session call

end Call

namespace Discipline

variable {τ υ ι σ α : Type}

/-- What `t` relies on, and nothing that it owes. -/
def observing (discipline : Discipline τ ι σ) (t : τ) (Permitted : ι → Prop) :
    Discipline τ ι σ where
  Inv := fun _ => True
  Rely := fun u before after => u = t → discipline.Rely t before after
  Allowed := fun _ => Permitted
  Waits := fun _ _ => True
  refl := fun _ state _ => discipline.refl t state
  trans _ := fun left right same => discipline.trans t (left same) (right same)

theorem observing_guarantee (discipline : Discipline τ ι σ) (t : τ) (Permitted : ι → Prop)
    (before after : σ) : (discipline.observing t Permitted).Guarantee t before after :=
  ⟨trivial, fun _ other same => absurd same other⟩

/-- A caller relies on what each of its sessions relies on. -/
def bySession (discipline : Discipline τ ι σ) (owner : τ → υ) (Permitted : ι → Prop)
    (Extra : σ → Prop) : Discipline υ ι σ where
  Inv := fun state => discipline.Inv state ∧ Extra state
  Rely := fun u before after => ∀ session, owner session = u → discipline.Rely session before after
  Allowed := fun _ => Permitted
  Waits := fun _ _ => True
  refl := fun _ state session _ => discipline.refl session state
  trans _ := fun left right session owned =>
    discipline.trans session (left session owned) (right session owned)

variable {discipline : Discipline τ ι σ} {owner : τ → υ} {Permitted : ι → Prop}
  {Extra Frame : σ → Prop} {session : υ → τ} {u : υ}

/-- A program that is safe in its session is safe for its caller, and ends in what was
observed of it. -/
theorem safe_inSession (owned : owner (session u) = u)
    (allowed : ∀ input, Permitted input → discipline.Allowed (session u) input)
    (relied : ∀ before after, (discipline.bySession owner Permitted Extra).Rely u before after →
      Frame before → Frame after)
    (kept : ∀ before after, discipline.Inv before → Extra before → Frame before →
      discipline.Guarantee (session u) before after → Extra after ∧ Frame after)
    {program : Prog τ ι σ α} {Safely Post : α → σ → Prop} {state : σ}
    (safe : discipline.Safe (session u) program Safely state)
    (observed : (discipline.observing (session u) Permitted).Safe (session u) program Post state)
    (frame : Frame state) :
    (discipline.bySession owner Permitted Extra).Safe u (program.inSession session)
      (fun value last => Post value last ∧ Frame last) state := by
  induction program generalizing state with
  | ret value =>
      intro later rely inv
      exact ⟨observed later (fun _ => rely _ owned) trivial, relied state later rely frame⟩
  | step action next inductionHypothesis =>
      intro later rely inv
      refine ⟨.inr trivial, fun input result after permitted answered => ?_⟩
      obtain ⟨guarantee, rest⟩ := (safe later (rely _ owned) inv.1).2 input result after
        (allowed input permitted) answered
      obtain ⟨extra, framed⟩ := kept later after inv.1 inv.2
        (relied state later rely frame) guarantee
      have seen := ((observed later (fun _ => rely _ owned) trivial).2 input result after
        permitted answered).2
      refine ⟨⟨⟨guarantee.inv, extra⟩, fun other differs own owns => ?_⟩,
        inductionHypothesis result rest seen framed⟩
      refine guarantee.rely own fun same => differs ?_
      rw [← owns, same, owned]

end Discipline

end StockoutOps.Foundation.Interleaving
