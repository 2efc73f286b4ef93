import Mathlib.Data.List.Nodup
import Mathlib.Logic.Function.Basic

/-!
Contract: items that are announced once, by the thread that added them.

Owns: the invariant between the items, the announcements and what each thread
has added without announcing it, and its steps: an item is added, an item is
announced.

Does not own: what an item or an announcement is; both are ids here.
-/

namespace StockoutOps.Foundation.Announcement

variable {τ ι : Type} [DecidableEq τ] [DecidableEq ι]

/-- Every item has one announcement, or none while one thread still owes it. -/
structure Announced (items announcements : List ι) (owes : τ → Option ι) : Prop where
  nodup : items.Nodup
  known : ∀ item ∈ announcements, item ∈ items
  announced : ∀ item ∈ items, announcements.count item = 1 ∨ ∃ t, owes t = some item
  owed : ∀ t item, owes t = some item → item ∈ items ∧ item ∉ announcements
  sole : ∀ t u item, owes t = some item → owes u = some item → t = u

variable {items announcements : List ι} {owes : τ → Option ι} {t : τ} {item : ι}

omit [DecidableEq τ] in
theorem Announced.empty : Announced ([] : List ι) [] (fun _ : τ => none) where
  nodup := List.nodup_nil
  known := fun _ member => member
  announced := fun _ member => absurd member List.not_mem_nil
  owed := fun _ _ => nofun
  sole := fun _ _ _ => nofun

omit [DecidableEq τ] in
/-- Where nobody owes anything, every item has its one announcement. -/
theorem Announced.count_eq_one (announced : Announced items announcements owes)
    (settled : ∀ t, owes t ≠ some item) (member : item ∈ items) :
    announcements.count item = 1 := by
  rcases announced.announced item member with once | ⟨t, owed⟩
  · exact once
  · exact absurd owed (settled t)

/-- A thread that owes nothing adds a new item. -/
theorem Announced.add (announced : Announced items announcements owes) (free : owes t = none)
    (fresh : item ∉ items) :
    Announced (items ++ [item]) announcements (Function.update owes t (some item)) where
  nodup := by
    rw [List.nodup_append_comm]
    exact List.nodup_cons.mpr ⟨fresh, announced.nodup⟩
  known := fun other member => List.mem_append_left _ (announced.known other member)
  announced := by
    intro other member
    rcases List.mem_append.mp member with old | new
    · refine (announced.announced other old).imp_right fun ⟨u, owed⟩ => ⟨u, ?_⟩
      have different : u ≠ t := fun same => by simp [same, free] at owed
      rwa [Function.update_of_ne different]
    · obtain rfl := List.mem_singleton.mp new
      exact .inr ⟨t, Function.update_self _ _ _⟩
  owed := by
    intro u other owed
    by_cases same : u = t
    · subst same
      rw [Function.update_self] at owed
      obtain rfl := Option.some.inj owed
      exact ⟨by simp, fun member => fresh (announced.known _ member)⟩
    · rw [Function.update_of_ne same] at owed
      obtain ⟨member, unannounced⟩ := announced.owed u other owed
      exact ⟨List.mem_append_left _ member, unannounced⟩
  sole := by
    have mine : ∀ u other, Function.update owes t (some item) u = some other → other = item →
        u = t := by
      rintro u other owed rfl
      by_contra different
      rw [Function.update_of_ne different] at owed
      exact fresh (announced.owed u _ owed).1
    intro u v other left right
    by_cases new : other = item
    · rw [mine u other left new, mine v other right new]
    · have old : ∀ w, Function.update owes t (some item) w = some other → owes w = some other := by
        intro w owed
        by_cases same : w = t
        · rw [same, Function.update_self] at owed
          exact absurd (Option.some.inj owed).symm new
        · rwa [Function.update_of_ne same] at owed
      exact announced.sole u v other (old u left) (old v right)

/-- The thread that owes an item announces it. -/
theorem Announced.announce (announced : Announced items announcements owes)
    (owed : owes t = some item) :
    Announced items (announcements ++ [item]) (Function.update owes t none) := by
  obtain ⟨present, unannounced⟩ := announced.owed t item owed
  have others : ∀ u other, Function.update owes t none u = some other →
      owes u = some other ∧ other ≠ item := by
    intro u other owedOther
    by_cases same : u = t
    · rw [same, Function.update_self] at owedOther
      cases owedOther
    · rw [Function.update_of_ne same] at owedOther
      refine ⟨owedOther, ?_⟩
      rintro rfl
      exact same (announced.sole u t _ owedOther owed)
  refine ⟨announced.nodup, ?_, ?_, ?_, ?_⟩
  · intro other member
    rcases List.mem_append.mp member with old | new
    · exact announced.known other old
    · obtain rfl := List.mem_singleton.mp new
      exact present
  · intro other member
    by_cases same : other = item
    · subst same
      simp [List.count_append, List.count_eq_zero_of_not_mem unannounced]
    · rw [List.count_append, List.count_singleton]
      rcases announced.announced other member with once | ⟨u, owedOther⟩
      · exact .inl (by simp [once, Ne.symm same])
      · refine .inr ⟨u, ?_⟩
        have different : u ≠ t := fun equal => by
          rw [equal, owed] at owedOther
          exact same (Option.some.inj owedOther).symm
        rwa [Function.update_of_ne different]
  · intro u other owedOther
    obtain ⟨before, different⟩ := others u other owedOther
    obtain ⟨member, unannouncedOther⟩ := announced.owed u other before
    simp [member, unannouncedOther, different]
  · intro u v other left right
    exact announced.sole u v other (others u other left).1 (others v other right).1

end StockoutOps.Foundation.Announcement
