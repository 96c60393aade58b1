import Mathlib.Logic.Basic

/-!
# Runs of a machine

A machine is a partial step function on states, each step taken by an action.
`Reaches step ok s t` says that `t` is reached from `s` by steps whose state and
action satisfy `ok`; the trivial `ok` gives all runs.

`Reaches.invariant` is the one induction over runs: what a start satisfies and a
step keeps, every state of the run satisfies.
-/

namespace FeatureForge

namespace Machine

variable {S A : Type} (step : S → A → Option S) (ok : S → A → Prop)

inductive Reaches (s : S) : S → Prop
  | refl : Reaches s s
  | tail {t u : S} {a : A} : Reaches s t → ok t a → step t a = some u → Reaches s u

/-- The run of a list of actions, if each can be taken. -/
def run (s : S) : List A → Option S
  | [] => some s
  | a :: as => (step s a).bind fun t => run t as

variable {step ok}

/-- **Invariance.**  What the start satisfies and every step keeps holds throughout. -/
theorem Reaches.invariant {Inv : S → Prop} {s t : S} (h : Reaches step ok s t) (hs : Inv s)
    (hstep : ∀ u v a, Inv u → ok u a → step u a = some v → Inv v) : Inv t := by
  induction h with
  | refl => exact hs
  | tail _ hok ha ih => exact hstep _ _ _ ih hok ha

theorem Reaches.trans {s t u : S} (h : Reaches step ok s t) (h' : Reaches step ok t u) :
    Reaches step ok s u := by
  induction h' with
  | refl => exact h
  | tail _ hok ha ih => exact ih.tail hok ha

/-- Any step of any state. -/
def Any : S → A → Prop := fun _ _ => True

theorem reaches_of_run : ∀ {as : List A} {s t : S},
    run step s as = some t → Reaches step Any s t := by
  intro as
  induction as with
  | nil =>
    intro s t h
    cases h
    exact .refl
  | cons a as ih =>
    intro s t h
    obtain ⟨u, hu, hrun⟩ := Option.bind_eq_some_iff.mp h
    exact (Reaches.tail .refl trivial hu).trans (ih hrun)

end Machine

end FeatureForge
