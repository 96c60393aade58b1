import FeatureForge.Lib.OrderedMap

/-!
# Deltas of a map

A delta is a map again: a value stands for the new entry of its key, and a value
that `removes` recognises for the absence of the key.  `patch` applies a delta and
`diff` computes the one that leads from a map to another.

`get?_patch` and `get?_diff` say what the two do key by key, and
`patch_diff` that they fit: the delta from `m` to `m'` leads there from `m`, unless
`m'` stores a value that a delta cannot tell from a removal.  `Sub` orders maps by
their entries; patches taken from one map stay below it and only add.
-/

namespace FeatureForge

namespace OrderedMap

variable {K V : Type} [LinearOrder K] (removes : V → Bool)

def patchEntry (m : OrderedMap K V) (k : K) (v : V) : OrderedMap K V :=
  if removes v then m.erase k else m.insert k v

def patch (m d : OrderedMap K V) : OrderedMap K V :=
  d.entries.foldl (fun m e => patchEntry removes m e.1 e.2) m

theorem get?_patchEntry (m : OrderedMap K V) (k k' : K) (v : V) :
    (patchEntry removes m k v).get? k' =
      if k' = k then (if removes v then none else some v) else m.get? k' := by
  by_cases hv : removes v = true
  · simp only [patchEntry, hv, if_true, get?_erase]
  · simp only [patchEntry, hv, get?_insert, if_false, Bool.false_eq_true]

theorem get?_foldl_patchEntry : ∀ (es : List (K × V)) (m : OrderedMap K V) (k : K),
    (es.map Prod.fst).Nodup →
      (es.foldl (fun m e => patchEntry removes m e.1 e.2) m).get? k =
        match lookup k es with
        | none => m.get? k
        | some v => if removes v then none else some v := by
  intro es
  induction es with
  | nil => intro m k _; rfl
  | cons e es ih =>
    obtain ⟨a, b⟩ := e
    intro m k hn
    rw [List.map_cons, List.nodup_cons] at hn
    rw [List.foldl_cons, ih _ k hn.2, get?_patchEntry, lookup]
    by_cases hk : k = a
    · subst hk
      rw [lookup_eq_none.mpr hn.1]
      simp
    · rw [if_neg hk, if_neg hk]

/-- **A patched map, key by key.** -/
theorem get?_patch (m d : OrderedMap K V) (k : K) :
    (patch removes m d).get? k =
      match d.get? k with
      | none => m.get? k
      | some v => if removes v then none else some v :=
  get?_foldl_patchEntry removes d.entries m k d.nodup_keys

@[simp] theorem patch_empty (m : OrderedMap K V) : patch removes m empty = m := rfl

/-! ### Patches that only add -/

/-- Every entry of `m` is one of `m'`. -/
def Sub (m m' : OrderedMap K V) : Prop := ∀ k v, m.get? k = some v → m'.get? k = some v

theorem Sub.refl (m : OrderedMap K V) : Sub m m := fun _ _ h => h

theorem Sub.trans {m m' m'' : OrderedMap K V} (h : Sub m m') (h' : Sub m' m'') : Sub m m'' :=
  fun k v hk => h' k v (h k v hk)

theorem Sub.antisymm {m m' : OrderedMap K V} (h : Sub m m') (h' : Sub m' m) : m = m' := by
  refine ext_get? fun k => ?_
  cases hk : m.get? k with
  | some v => exact (h k v hk).symm
  | none =>
    cases hk' : m'.get? k with
    | none => rfl
    | some v => exact hk.symm.trans (h' k v hk')

theorem sub_empty (m : OrderedMap K V) : Sub empty m := fun _ _ h => by cases h

section

variable {removes} {m d whole : OrderedMap K V}

/-- A patch with entries of a map leads from a part of the map to a part of it. -/
theorem patch_sub (hm : Sub m whole) (hd : Sub d whole) : Sub (patch removes m d) whole := by
  intro k v h
  rw [get?_patch] at h
  cases hk : d.get? k with
  | none => rw [hk] at h; exact hm k v h
  | some w =>
    simp only [hk] at h
    split_ifs at h
    cases h
    exact hd k _ hk

variable (hclean : ∀ k v, whole.get? k = some v → removes v = false)
include hclean

/-- What the patch brings is there afterwards. -/
theorem sub_patch (hd : Sub d whole) : Sub d (patch removes m d) := by
  intro k v h
  rw [get?_patch, h]
  exact if_neg (by rw [hclean k v (hd k v h)]; exact Bool.false_ne_true)

/-- What was there stays. -/
theorem le_patch (hm : Sub m whole) (hd : Sub d whole) : Sub m (patch removes m d) := by
  intro k v h
  cases hk : d.get? k with
  | none => rw [get?_patch, hk]; exact h
  | some w =>
    have hw := hm k v h
    rw [hd k w hk] at hw
    rw [← Option.some.inj hw]
    exact sub_patch hclean hd k w hk

end

variable (gone : V)

theorem get?_foldl_gone : ∀ (es : List (K × V)) (d : OrderedMap K V) (k : K),
    (es.foldl (fun d e => d.insert e.1 gone) d).get? k =
      if k ∈ es.map Prod.fst then some gone else d.get? k := by
  intro es
  induction es with
  | nil => intro d k; simp
  | cons e es ih =>
    intro d k
    have hcons : k ∈ (e :: es).map Prod.fst ↔ k = e.1 ∨ k ∈ es.map Prod.fst := List.mem_cons
    rw [List.foldl_cons, ih, get?_insert]
    by_cases hm : k ∈ es.map Prod.fst
    · rw [if_pos hm, if_pos (hcons.mpr (Or.inr hm))]
    · by_cases hk : k = e.1
      · rw [if_neg hm, if_pos hk, if_pos (hcons.mpr (Or.inl hk))]
      · rw [if_neg hm, if_neg hk, if_neg fun h => (hcons.mp h).elim hk hm]

variable [DecidableEq V]

/-- The entries of `m'` that `m` does not have, and `gone` for every key that `m'`
has lost. -/
def diff (m m' : OrderedMap K V) : OrderedMap K V :=
  (m.entries.filter fun e => !m'.contains e.1).foldl (fun d e => d.insert e.1 gone)
    (m'.filter fun k v => decide (m.get? k ≠ some v))

/-- **A delta, key by key.** -/
theorem get?_diff (m m' : OrderedMap K V) (k : K) :
    (diff gone m m').get? k =
      match m'.get? k with
      | some v => if m.get? k = some v then none else some v
      | none => (m.get? k).map fun _ => gone := by
  have hlost : k ∈ (m.entries.filter fun e => !m'.contains e.1).map Prod.fst ↔
      m'.get? k = none ∧ (m.get? k).isSome := by
    rw [List.mem_map, Option.isSome_iff_exists]
    constructor
    · rintro ⟨⟨a, b⟩, he, rfl⟩
      obtain ⟨hmem, hnot⟩ := List.mem_filter.mp he
      refine ⟨?_, b, mem_entries.mp hmem⟩
      simpa [contains] using hnot
    · rintro ⟨hnone, b, hb⟩
      exact ⟨(k, b), List.mem_filter.mpr ⟨mem_entries.mpr hb, by simp [contains, hnone]⟩, rfl⟩
  rw [diff, get?_foldl_gone, get?_filter]
  cases hk' : m'.get? k with
  | some v =>
    rw [if_neg fun h => absurd (hlost.mp h).1 (by simp [hk'])]
    by_cases hv : m.get? k = some v
    · simp [hv]
    · simp [hv]
  | none =>
    cases hk : m.get? k with
    | some v => rw [if_pos (hlost.mpr ⟨hk', by simp [hk]⟩)]; rfl
    | none =>
      rw [if_neg fun h => absurd (hlost.mp h).2 (by simp [hk])]
      rfl

/-- **A delta leads from the first map to the second**, at every key where the second
does not store a new value that a delta takes for a removal. -/
theorem get?_patch_diff (hgone : removes gone = true) (m m' : OrderedMap K V) (k : K) :
    (patch removes m (diff gone m m')).get? k =
      (m'.get? k).filter fun v => decide (m.get? k = some v) || !removes v := by
  rw [get?_patch, get?_diff]
  cases hk' : m'.get? k with
  | some v =>
    rw [Option.filter_some]
    by_cases hv : m.get? k = some v
    · simp [hv]
    · by_cases hr : removes v = true
      · simp [hv, hr]
      · simp [hv, hr]
  | none =>
    cases hk : m.get? k with
    | some v => simp [hgone]
    | none => rfl

theorem patch_diff (hgone : removes gone = true) (m m' : OrderedMap K V)
    (h : ∀ k v, m'.get? k = some v → removes v = false ∨ m.get? k = some v) :
    patch removes m (diff gone m m') = m' := by
  refine ext_get? fun k => ?_
  rw [get?_patch_diff removes gone hgone]
  cases hk' : m'.get? k with
  | none => rfl
  | some v =>
    rw [Option.filter_some, if_pos]
    rcases h k v hk' with hv | hv
    · simp [hv]
    · simp [hv]

@[simp] theorem diff_self (m : OrderedMap K V) : diff gone m m = empty := by
  refine ext_get? fun k => ?_
  rw [get?_diff]
  cases hk : m.get? k with
  | none => simp
  | some v => simp

end OrderedMap

end FeatureForge
