import Mathlib.Data.List.Forall2

/-!
Contract: the part of PostgreSQL that every table of the schema uses.

Owns: the errors a statement can raise, guard and CHECK evaluation in trigger
order, and the text predicates of the column constraints.

Does not own: any table. A statement that raises has no effect; that rule
belongs to the statement runners.

Text values are the ones a `text` column can hold, unless a table asks for
`storableText`; instants are microseconds, the resolution of `timestamptz`.
-/

namespace StockoutOps

/-- An instant of a `timestamptz` column, in microseconds. -/
abbrev Timestamp := Int

/-- One second, as a duration. -/
def second : Int := 1000000

namespace Sql

inductive SqlError where
  /-- `RAISE EXCEPTION ... USING ERRCODE = '55000'` in a trigger. -/
  | raised (message : String)
  | checkViolation (constraint : String)
  | uniqueViolation (constraint : String)
  | foreignKeyViolation (constraint : String)
  /-- `psycopg.DataError`: a value the server refuses or Python cannot hold. -/
  | dataError (message : String)
deriving DecidableEq, Repr

/-- Raise `error` unless `condition` holds. -/
def require (error : SqlError) (condition : Prop) [Decidable condition] :
    Except SqlError Unit :=
  if condition then .ok () else .error error

/-- `IF condition THEN RAISE EXCEPTION message`. -/
def raiseIf (message : String) (condition : Prop) [Decidable condition] :
    Except SqlError Unit :=
  if condition then .error (.raised message) else .ok ()

/-- Evaluate CHECK constraints in order; the first false one is reported. -/
def checkAll : List (String × Bool) → Except SqlError Unit
  | [] => .ok ()
  | (constraint, holds) :: rest =>
      if holds then checkAll rest else .error (.checkViolation constraint)

@[simp] theorem require_eq_ok {error : SqlError} {condition : Prop} [Decidable condition]
    {done : Unit} : require error condition = .ok done ↔ condition := by
  unfold require
  split <;> simp [*]

@[simp] theorem raiseIf_eq_ok {message : String} {condition : Prop} [Decidable condition]
    {done : Unit} : raiseIf message condition = .ok done ↔ ¬ condition := by
  unfold raiseIf
  split <;> simp [*]

theorem checkAll_eq_ok {checks : List (String × Bool)} {done : Unit} :
    checkAll checks = .ok done ↔ ∀ check ∈ checks, check.2 = true := by
  induction checks with
  | nil => simp [checkAll]
  | cons head tail inductionHypothesis =>
      obtain ⟨constraint, holds⟩ := head
      cases holds <;> simp [checkAll, inductionHypothesis]

/-- A refusal names a constraint that is false. -/
theorem checkAll_eq_error {checks : List (String × Bool)} {error : SqlError}
    (refused : checkAll checks = .error error) :
    ∃ constraint, (constraint, false) ∈ checks ∧ error = .checkViolation constraint := by
  induction checks with
  | nil => cases refused
  | cons head tail inductionHypothesis =>
      obtain ⟨constraint, holds⟩ := head
      cases holds with
      | false => exact ⟨constraint, List.mem_cons_self, (Except.error.inj refused).symm⟩
      | true =>
          obtain ⟨other, member, same⟩ := inductionHypothesis refused
          exact ⟨other, List.mem_cons_of_mem _ member, same⟩

/-- A sequence of guards passes exactly when each of them does. -/
@[simp] theorem guard_bind_eq_ok {ε β : Type} {guard : Except ε Unit} {next : Unit → Except ε β}
    {result : β} :
    (guard >>= next) = .ok result ↔ guard = .ok () ∧ next () = .ok result := by
  cases guard with
  | error error => simp [bind, Except.bind]
  | ok value => simp [bind, Except.bind]

theorem bind_eq_ok {ε α β : Type} {first : Except ε α} {next : α → Except ε β}
    {result : β} :
    (first >>= next) = .ok result ↔ ∃ value, first = .ok value ∧ next value = .ok result := by
  cases first with
  | error error => simp [bind, Except.bind]
  | ok value => simp [bind, Except.bind]

theorem bind_eq_error {ε α β : Type} {first : Except ε α} {next : α → Except ε β} {error : ε} :
    (first >>= next) = .error error ↔
      first = .error error ∨ ∃ value, first = .ok value ∧ next value = .error error := by
  cases first with
  | error error => simp [bind, Except.bind]
  | ok value => simp [bind, Except.bind]

/-- A statement over many rows succeeds exactly when it does so on each row. -/
theorem mapM_eq_ok {ε α β : Type} {f : α → Except ε β} {items : List α} {results : List β} :
    items.mapM f = .ok results ↔
      List.Forall₂ (fun item result => f item = .ok result) items results := by
  induction items generalizing results with
  | nil =>
      cases results with
      | nil => simp [pure, Except.pure]
      | cons _ _ => exact ⟨nofun, nofun⟩
  | cons head tail inductionHypothesis =>
      cases results with
      | nil => exact ⟨by simp [pure, Except.pure, bind_eq_ok], nofun⟩
      | cons _ _ => simp [pure, Except.pure, bind_eq_ok, inductionHypothesis]

/-- When `f` can only return `g item`, its results over many rows are a map. -/
theorem mapM_eq_ok_map {ε α β : Type} {f : α → Except ε β} {g : α → β}
    (functional : ∀ item value, f item = .ok value → value = g item) {items : List α}
    {results : List β} :
    items.mapM f = .ok results ↔
      results = items.map g ∧ ∀ item ∈ items, f item = .ok (g item) := by
  induction items generalizing results with
  | nil => simp [pure, Except.pure, eq_comm]
  | cons head tail inductionHypothesis =>
      simp only [List.mapM_cons, bind_eq_ok, inductionHypothesis, pure, Except.pure,
        Except.ok.injEq, List.map_cons, List.forall_mem_cons]
      constructor
      · rintro ⟨first, accepted, rest, ⟨rfl, others⟩, rfl⟩
        obtain rfl := functional head first accepted
        exact ⟨rfl, accepted, others⟩
      · rintro ⟨rfl, accepted, others⟩
        exact ⟨g head, accepted, tail.map g, ⟨rfl, others⟩, rfl⟩

theorem map_eq_ok {ε α β : Type} {f : α → β} {result : Except ε α} {value : β} :
    f <$> result = .ok value ↔ ∃ first, result = .ok first ∧ f first = value := by
  cases result <;> simp [Functor.map, Except.map]

/-- A statement over many rows is refused because of one of them. -/
theorem exists_of_mapM_eq_error {ε α β : Type} {f : α → Except ε β} {items : List α} {error : ε}
    (refused : items.mapM f = .error error) : ∃ item ∈ items, f item = .error error := by
  induction items with
  | nil => cases refused
  | cons head tail inductionHypothesis =>
      rw [List.mapM_cons, bind_eq_error] at refused
      obtain first | ⟨_, -, rest⟩ := refused
      · exact ⟨head, List.mem_cons_self, first⟩
      · obtain later | ⟨_, -, done⟩ := bind_eq_error.mp rest
        · obtain ⟨item, member, same⟩ := inductionHypothesis later
          exact ⟨item, List.mem_cons_of_mem _ member, same⟩
        · cases done

/-! ## Row-by-row results of an UPDATE -/

section Rows

variable {α β : Type} {Updated : α → β → Prop} {olds : List α} {news : List β}

theorem exists_old_of_mem (updated : List.Forall₂ Updated olds news) {new : β}
    (member : new ∈ news) : ∃ old ∈ olds, Updated old new := by
  induction updated with
  | nil => cases member
  | @cons old head olds news first _ inductionHypothesis =>
      rcases List.mem_cons.mp member with rfl | rest
      · exact ⟨old, List.mem_cons_self, first⟩
      · obtain ⟨found, foundMember, relation⟩ := inductionHypothesis rest
        exact ⟨found, List.mem_cons_of_mem old foundMember, relation⟩

theorem exists_new_of_mem (updated : List.Forall₂ Updated olds news) {old : α}
    (member : old ∈ olds) : ∃ new ∈ news, Updated old new :=
  exists_old_of_mem updated.flip member

/-- A column no row update touches keeps its list of values. -/
theorem map_eq_of_forall₂ {γ : Type} {oldColumn : α → γ} {newColumn : β → γ}
    (kept : ∀ old new, Updated old new → newColumn new = oldColumn old)
    (updated : List.Forall₂ Updated olds news) : news.map newColumn = olds.map oldColumn := by
  induction updated with
  | nil => rfl
  | cons first _ inductionHypothesis =>
      rw [List.map_cons, List.map_cons, kept _ _ first, inductionHypothesis]

end Rows

/-- What every successful row of a multi-row INSERT preserves, the INSERT preserves. -/
theorem foldlM_preserves {ε σ α : Type} {insert : σ → α → Except ε σ} (Holds : σ → Prop)
    (step : ∀ state row next, Holds state → insert state row = .ok next → Holds next)
    {rows : List α} {state result : σ} (initial : Holds state)
    (inserted : rows.foldlM insert state = .ok result) : Holds result := by
  induction rows generalizing state with
  | nil =>
      simp only [List.foldlM_nil, pure, Except.pure, Except.ok.injEq] at inserted
      exact inserted ▸ initial
  | cons head tail inductionHypothesis =>
      simp only [List.foldlM_cons, bind_eq_ok] at inserted
      obtain ⟨next, first, rest⟩ := inserted
      exact inductionHypothesis (step state head next initial first) rest

/-! ## Text predicates of the column constraints -/

/-- `value ~ '^[0-9a-f]{64}$'` -/
def isHex64 (value : String) : Bool :=
  value.length == 64 &&
    value.toList.all (fun char => ('0' ≤ char && char ≤ '9') || ('a' ≤ char && char ≤ 'f'))

/-- `length(value) BETWEEN low AND high` -/
def lengthBetween (low high : Nat) (value : String) : Bool :=
  low ≤ value.length && value.length ≤ high

/-- `btrim(value) <> ''` -/
def notBlank (value : String) : Bool :=
  value.toList.any (fun char => char != ' ')

/-- A `text` value has no NUL byte. -/
def storableText (value : String) : Bool :=
  value.toList.all (fun char => char != Char.ofNat 0)

/-- A `timestamptz` that Python can read: the years 1 to 9999 of UTC. -/
def readableInstant (instant : Timestamp) : Bool :=
  -62135596800 * second ≤ instant && instant < 253402300800 * second

/-- A CHECK on a nullable column: NULL passes. -/
def nullOr {α : Type} (check : α → Bool) : Option α → Bool
  | none => true
  | some value => check value

end Sql

end StockoutOps
