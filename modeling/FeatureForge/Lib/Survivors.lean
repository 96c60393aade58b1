import Mathlib.Data.List.Basic
import Mathlib.Data.List.Induction

/-!
# Survivors

A list is filled from the left; each element that arrives removes what it conflicts with.
`survivors conflict l` is what is left at the end.  A list survives as a whole exactly when no
element conflicts with a later one (`forall_mem_survivors`).
-/

namespace FeatureForge

variable {α : Type} (conflict : α → α → Bool)

/-- What is left of a list after each element has removed the earlier ones it conflicts with. -/
def survivors (l : List α) : List α :=
  l.foldl (fun kept a => (kept.filter fun b => !conflict b a) ++ [a]) []

theorem survivors_append_singleton (l : List α) (a : α) :
    survivors conflict (l ++ [a]) =
      ((survivors conflict l).filter fun b => !conflict b a) ++ [a] := by
  rw [survivors, List.foldl_append]
  rfl

variable {conflict}

theorem mem_survivors_append {l : List α} {a b : α} :
    b ∈ survivors conflict (l ++ [a]) ↔ b = a ∨ (b ∈ survivors conflict l ∧ conflict b a = false) := by
  rw [survivors_append_singleton, List.mem_append, List.mem_singleton, List.mem_filter,
    Bool.not_eq_true', or_comm]

theorem mem_of_mem_survivors {l : List α} : ∀ {b : α}, b ∈ survivors conflict l → b ∈ l := by
  induction l using List.reverseRecOn with
  | nil => exact fun h => h
  | append_singleton l a ih =>
    intro b h
    rcases mem_survivors_append.mp h with rfl | ⟨h, _⟩
    · exact List.mem_append_right l (List.mem_singleton_self b)
    · exact List.mem_append_left [a] (ih h)

/-- **Everything survives** exactly when no element conflicts with a later one. -/
theorem forall_mem_survivors {l : List α} (hnodup : l.Nodup) :
    (∀ a ∈ l, a ∈ survivors conflict l) ↔ l.Pairwise fun a b => conflict a b = false := by
  induction l using List.reverseRecOn with
  | nil => exact ⟨fun _ => List.Pairwise.nil, fun _ _ h => h⟩
  | append_singleton l a ih =>
    obtain ⟨hl, _, hdisjoint⟩ := List.nodup_append.mp hnodup
    have hne : ∀ b ∈ l, b ≠ a := fun b hb => hdisjoint b hb a (List.mem_singleton_self a)
    rw [List.pairwise_append, ← ih hl]
    constructor
    · intro h
      have hkept : ∀ b ∈ l, b ∈ survivors conflict l ∧ conflict b a = false := fun b hb =>
        (mem_survivors_append.mp (h b (List.mem_append_left [a] hb))).resolve_left (hne b hb)
      refine ⟨fun b hb => (hkept b hb).1, List.pairwise_singleton _ _, fun b hb c hc => ?_⟩
      rw [List.mem_singleton.mp hc]
      exact (hkept b hb).2
    · rintro ⟨hkept, _, hfree⟩ b hb
      refine mem_survivors_append.mpr ?_
      rcases List.mem_append.mp hb with hb | hb
      · exact Or.inr ⟨hkept b hb, hfree b hb a (List.mem_singleton_self a)⟩
      · exact Or.inl (List.mem_singleton.mp hb)

end FeatureForge
