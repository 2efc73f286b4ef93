import Mathlib.Data.List.Nodup
import Mathlib.Logic.Function.Basic
import Mathlib.Logic.Relation

/-!
Contract: tokens that are issued to holders and spent one at a time.

Owns: the protocol in which a fresh batch is issued to a holder, who spends its
tokens in order and may lose those it has left; and the fact any implementation
inherits: no token is spent twice.

Does not own: why tokens are fresh, or what spending one does.
-/

namespace StockoutOps.Foundation.Custody

variable {κ τ : Type} [DecidableEq κ]

structure State (κ τ : Type) where
  issued : List τ
  held : κ → List τ
  spent : List τ

inductive Step : State κ τ → State κ τ → Prop where
  | issue (state : State κ τ) (holder : κ) (batch : List τ)
      (fresh : (state.issued ++ batch).Nodup) :
      Step state
        ⟨state.issued ++ batch, Function.update state.held holder batch, state.spent⟩
  | spend (state : State κ τ) {holder : κ} {token : τ} {rest : List τ}
      (holds : state.held holder = token :: rest) :
      Step state
        ⟨state.issued, Function.update state.held holder rest, state.spent ++ [token]⟩
  | lose (state : State κ τ) (holder : κ) :
      Step state ⟨state.issued, Function.update state.held holder [], state.spent⟩

/-- A token is held by one holder and not spent, or spent once, or lost. -/
structure Invariant (state : State κ τ) : Prop where
  issued : state.issued.Nodup
  spent : state.spent.Nodup
  spentIssued : state.spent ⊆ state.issued
  heldIssued : ∀ holder, state.held holder ⊆ state.issued
  held : ∀ holder, (state.held holder).Nodup
  unspent : ∀ holder, ∀ token ∈ state.held holder, token ∉ state.spent
  exclusive : ∀ holder other, ∀ token ∈ state.held holder, token ∈ state.held other →
    holder = other

omit [DecidableEq κ] in
theorem invariant_initial : Invariant (⟨[], fun _ => [], []⟩ : State κ τ) := by
  constructor <;> simp

/-- What holds of the new batch of one holder, and of the old ones of the others. -/
theorem forall_update {held : κ → List τ} {holder : κ} {batch : List τ} {P : List τ → Prop}
    (own : P batch) (others : ∀ other, other ≠ holder → P (held other)) :
    ∀ other, P (Function.update held holder batch other) := by
  intro other
  by_cases same : other = holder
  · subst same
    rw [Function.update_self]
    exact own
  · rw [Function.update_of_ne same]
    exact others other same

/-- A holder whose tokens no other holds may keep any of them. -/
theorem exclusive_update {held : κ → List τ} {holder : κ} {batch : List τ}
    (exclusive : ∀ left right, ∀ token ∈ held left, token ∈ held right → left = right)
    (apart : ∀ token ∈ batch, ∀ other, other ≠ holder → token ∉ held other) :
    ∀ left right, ∀ token ∈ Function.update held holder batch left,
      token ∈ Function.update held holder batch right → left = right := by
  intro left right token
  by_cases atLeft : left = holder <;> by_cases atRight : right = holder
  · exact fun _ _ => atLeft.trans atRight.symm
  · subst atLeft
    rw [Function.update_self, Function.update_of_ne atRight]
    exact fun inBatch inOther => absurd inOther (apart token inBatch right atRight)
  · subst atRight
    rw [Function.update_self, Function.update_of_ne atLeft]
    exact fun inOther inBatch => absurd inOther (apart token inBatch left atLeft)
  · rw [Function.update_of_ne atLeft, Function.update_of_ne atRight]
    exact exclusive left right token

section Steps

variable {state next : State κ τ}

theorem invariant_issue (invariant : Invariant state) (holder : κ) {batch : List τ}
    (fresh : (state.issued ++ batch).Nodup) :
    Invariant ⟨state.issued ++ batch, Function.update state.held holder batch, state.spent⟩ := by
  obtain ⟨-, distinct, apart⟩ := List.nodup_append.mp fresh
  have unissued : ∀ token ∈ batch, token ∉ state.issued := fun token new old =>
    apart token old token new rfl
  exact
    { issued := fresh
      spent := invariant.spent
      spentIssued := List.Subset.trans invariant.spentIssued (List.subset_append_left _ _)
      heldIssued := forall_update (P := (· ⊆ state.issued ++ batch)) (List.subset_append_right _ _)
        fun other _ => List.Subset.trans (invariant.heldIssued other) (List.subset_append_left _ _)
      held := forall_update (P := List.Nodup) distinct fun other _ => invariant.held other
      unspent := forall_update (P := fun tokens => ∀ token ∈ tokens, token ∉ state.spent)
        (fun token new used => unissued token new (invariant.spentIssued used))
        fun other _ => invariant.unspent other
      exclusive := exclusive_update invariant.exclusive
        fun token new other _ holds => unissued token new (invariant.heldIssued other holds) }

theorem invariant_spend (invariant : Invariant state) {holder : κ} {token : τ} {rest : List τ}
    (holds : state.held holder = token :: rest) :
    Invariant ⟨state.issued, Function.update state.held holder rest, state.spent ++ [token]⟩ := by
  have tokenHeld : token ∈ state.held holder := holds ▸ List.mem_cons_self
  have restHeld : ∀ other ∈ rest, other ∈ state.held holder := fun other member =>
    holds ▸ List.mem_cons_of_mem _ member
  obtain ⟨tokenApart, restDistinct⟩ := List.nodup_cons.mp (holds ▸ invariant.held holder)
  exact
    { issued := invariant.issued
      spent := by
        refine List.nodup_append.mpr ⟨invariant.spent, List.nodup_singleton token, ?_⟩
        rintro used old _ new rfl
        exact invariant.unspent holder token tokenHeld (List.mem_singleton.mp new ▸ old)
      spentIssued := List.append_subset.mpr ⟨invariant.spentIssued,
        List.cons_subset.mpr ⟨invariant.heldIssued holder tokenHeld, List.nil_subset _⟩⟩
      heldIssued := forall_update (P := (· ⊆ state.issued))
        (fun other member => invariant.heldIssued holder (restHeld other member))
        fun other _ => invariant.heldIssued other
      held := forall_update (P := List.Nodup) restDistinct fun other _ => invariant.held other
      unspent := by
        refine forall_update (P := fun tokens => ∀ left ∈ tokens, left ∉ state.spent ++ [token])
          (fun left member used => ?_) (fun other apart left member used => ?_)
        · rcases List.mem_append.mp used with old | new
          · exact invariant.unspent holder left (restHeld left member) old
          · exact tokenApart (List.mem_singleton.mp new ▸ member)
        · rcases List.mem_append.mp used with old | new
          · exact invariant.unspent other left member old
          · obtain rfl := List.mem_singleton.mp new
            exact apart (invariant.exclusive other holder left member tokenHeld)
      exclusive := exclusive_update invariant.exclusive fun left member other apart holdsLeft =>
        apart (invariant.exclusive other holder left holdsLeft (restHeld left member)) }

theorem invariant_lose (invariant : Invariant state) (holder : κ) :
    Invariant ⟨state.issued, Function.update state.held holder [], state.spent⟩ :=
  { invariant with
    heldIssued := forall_update (P := (· ⊆ state.issued)) (List.nil_subset _)
      fun other _ => invariant.heldIssued other
    held := forall_update (P := List.Nodup) List.nodup_nil fun other _ => invariant.held other
    unspent := forall_update (P := fun tokens => ∀ token ∈ tokens, token ∉ state.spent)
      (fun _ member => absurd member List.not_mem_nil) fun other _ => invariant.unspent other
    exclusive := exclusive_update invariant.exclusive fun _ member =>
      absurd member List.not_mem_nil }

theorem invariant_step (invariant : Invariant state) (step : Step state next) :
    Invariant next := by
  cases step with
  | issue holder batch fresh => exact invariant_issue invariant holder fresh
  | spend holds => exact invariant_spend invariant holds
  | lose holder => exact invariant_lose invariant holder

/-- The invariant of every reachable state. -/
theorem invariant_reachable {initial : State κ τ} (start : Invariant initial)
    (reachable : Relation.ReflTransGen Step initial state) : Invariant state := by
  induction reachable with
  | refl => exact start
  | tail _ step inductionHypothesis => exact invariant_step inductionHypothesis step

end Steps

end StockoutOps.Foundation.Custody
