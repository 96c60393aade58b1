import Mathlib.Data.List.Basic

/-!
# Changing the first of a list

`setFirst` changes the first element of a list that a test accepts.  Where elements have keys
that the change keeps, this is seen at the one key only (`find?_setFirst`), and a part of the list
that the test does not reach into is left as it was (`filter_setFirst_of_false`).
-/

namespace FeatureForge

variable {α κ : Type} {p : α → Bool} {f : α → α}

/-- The first element that passes the test, changed. -/
def setFirst (p : α → Bool) (f : α → α) : List α → List α
  | [] => []
  | a :: as => if p a then f a :: as else a :: setFirst p f as

theorem setFirst_cons_of_pos {a : α} (h : p a = true) (as : List α) :
    setFirst p f (a :: as) = f a :: as := by
  rw [setFirst, if_pos h]

theorem setFirst_cons_of_neg {a : α} (h : ¬ p a = true) (as : List α) :
    setFirst p f (a :: as) = a :: setFirst p f as := by
  rw [setFirst, if_neg h]

theorem setFirst_of_forall {as : List α} (h : ∀ a ∈ as, p a = false) : setFirst p f as = as := by
  induction as with
  | nil => rfl
  | cons a as ih =>
    rw [setFirst_cons_of_neg (by simp [h a]), ih fun b hb => h b (List.mem_cons_of_mem _ hb)]

/-- An element of the changed list was there before, or is the changed one. -/
theorem mem_setFirst {as : List α} {b : α} (h : b ∈ setFirst p f as) :
    b ∈ as ∨ ∃ a, as.find? p = some a ∧ b = f a := by
  induction as with
  | nil => exact absurd h List.not_mem_nil
  | cons a as ih =>
    by_cases ha : p a = true
    · rw [setFirst_cons_of_pos ha] at h
      rcases List.mem_cons.mp h with rfl | h
      · exact Or.inr ⟨a, List.find?_cons_of_pos ha, rfl⟩
      · exact Or.inl (List.mem_cons_of_mem _ h)
    · rw [setFirst_cons_of_neg ha] at h
      rcases List.mem_cons.mp h with rfl | h
      · exact Or.inl List.mem_cons_self
      · rcases ih h with h | ⟨c, hc, rfl⟩
        · exact Or.inl (List.mem_cons_of_mem _ h)
        · exact Or.inr ⟨c, (List.find?_cons_of_neg ha).trans hc, rfl⟩

/-- What no element of the change has to do with stays. -/
theorem map_setFirst {β : Type} {g : α → β} (hg : ∀ a, g (f a) = g a) (as : List α) :
    (setFirst p f as).map g = as.map g := by
  induction as with
  | nil => rfl
  | cons a as ih =>
    rw [setFirst]
    split_ifs
    · rw [List.map_cons, List.map_cons, hg]
    · rw [List.map_cons, List.map_cons, ih]

/-! ### By a key -/

section

variable [DecidableEq κ] {key : α → κ}

/-- **The change is seen at its key**, and at no other. -/
theorem find?_setFirst (hf : ∀ a, key (f a) = key a) (k k' : κ) (as : List α) :
    (setFirst (fun a => key a = k) f as).find? (fun a => key a = k') =
      if k' = k then (as.find? fun a => key a = k).map f else as.find? fun a => key a = k' := by
  induction as with
  | nil => simp [setFirst]
  | cons a as ih =>
    by_cases ha : key a = k
    · rw [setFirst_cons_of_pos (by simpa using ha)]
      by_cases hk : k' = k
      · rw [if_pos hk, List.find?_cons_of_pos (by simp [hf, ha, hk]),
          List.find?_cons_of_pos (by simp [ha]), Option.map_some]
      · have hne : ¬ key a = k' := fun heq => hk (heq.symm.trans ha)
        rw [if_neg hk, List.find?_cons_of_neg (by simpa [hf] using hne),
          List.find?_cons_of_neg (by simpa using hne)]
    · rw [setFirst_cons_of_neg (by simpa using ha)]
      by_cases hk' : key a = k'
      · have hne : ¬ k' = k := fun heq => ha (hk'.trans heq)
        rw [if_neg hne, List.find?_cons_of_pos (by simp [hk']),
          List.find?_cons_of_pos (by simp [hk'])]
      · have hskip : ∀ bs : List α, (a :: bs).find? (fun a => key a = k') =
            bs.find? fun a => key a = k' := fun bs => List.find?_cons_of_neg (by simpa using hk')
        have hskip' : (a :: as).find? (fun a => key a = k) = as.find? fun a => key a = k :=
          List.find?_cons_of_neg (by simpa using ha)
        rw [hskip, hskip, hskip', ih]

/-- What the change keeps is found as before, whatever is changed. -/
theorem map_find?_setFirst {β : Type} {g : α → β} (hf : ∀ a, key (f a) = key a)
    (hg : ∀ a, g (f a) = g a) (k : κ) (as : List α) :
    ((setFirst p f as).find? fun a => key a = k).map g =
      (as.find? fun a => key a = k).map g := by
  induction as with
  | nil => rfl
  | cons a as ih =>
    by_cases hp : p a = true
    · rw [setFirst_cons_of_pos hp]
      by_cases ha : key a = k
      · rw [List.find?_cons_of_pos (by simp [hf, ha]), List.find?_cons_of_pos (by simp [ha]),
          Option.map_some, Option.map_some, hg]
      · rw [List.find?_cons_of_neg (by simpa [hf] using ha),
          List.find?_cons_of_neg (by simpa using ha)]
    · rw [setFirst_cons_of_neg hp, List.find?_cons, List.find?_cons]
      cases decide (key a = k) with
      | true => rfl
      | false => exact ih

theorem find?_map_key {g : α → α} (hg : ∀ a, key (g a) = key a) (k : κ) (as : List α) :
    (as.map g).find? (fun a => key a = k) = (as.find? fun a => key a = k).map g := by
  rw [List.find?_map]
  refine congrArg (Option.map g) (congrArg (fun q => as.find? q) (funext fun a => ?_))
  simp [hg]

end

/-! ### In a part of the list -/

theorem filter_setFirst {q : α → Bool} (hp : ∀ a, p a = true → q a = true)
    (hf : ∀ a, q (f a) = q a) (as : List α) :
    (setFirst p f as).filter q = setFirst p f (as.filter q) := by
  induction as with
  | nil => rfl
  | cons a as ih =>
    by_cases ha : p a = true
    · rw [setFirst_cons_of_pos ha, List.filter_cons_of_pos (by rw [hf, hp a ha]),
        List.filter_cons_of_pos (hp a ha), setFirst_cons_of_pos ha]
    · rw [setFirst_cons_of_neg ha]
      by_cases hq : q a = true
      · rw [List.filter_cons_of_pos hq, List.filter_cons_of_pos hq, setFirst_cons_of_neg ha, ih]
      · rw [List.filter_cons_of_neg hq, List.filter_cons_of_neg hq, ih]

theorem filter_setFirst_of_false {q : α → Bool} (hp : ∀ a, p a = true → q a = false)
    (hf : ∀ a, q (f a) = q a) (as : List α) : (setFirst p f as).filter q = as.filter q := by
  induction as with
  | nil => rfl
  | cons a as ih =>
    by_cases ha : p a = true
    · have hq := hp a ha
      rw [setFirst_cons_of_pos ha, List.filter_cons_of_neg (by simp [hf, hq]),
        List.filter_cons_of_neg (by simp [hq])]
    · rw [setFirst_cons_of_neg ha, List.filter_cons, List.filter_cons, ih]

end FeatureForge
