import FeatureForge.Lib.OrderedMap

/-!
# Histories with one record in force

A history files records under their keys; some of them are `retired`, and at most one,
the one under a key kept elsewhere, is not.  `Register` says so of a history and that
key.  Filing a record under a new key keeps it, once the record in force has been
retired.
-/

namespace FeatureForge

section

variable {K V : Type} [LinearOrder K] {retired : V → Prop} {m : OrderedMap K V} {k : K}

/-- Every record is retired, save the one under the key `c`. -/
def Register (retired : V → Prop) (m : OrderedMap K V) (c : Option K) : Prop :=
  ∀ k v, m.get? k = some v → retired v ∨ c = some k

theorem register_empty (retired : V → Prop) (c : Option K) :
    Register retired (OrderedMap.empty : OrderedMap K V) c :=
  fun _ _ h => by cases h

/-- At most one record is in force. -/
theorem Register.unique {c : Option K} (h : Register retired m c) {k k' : K} {v v' : V}
    (hv : m.get? k = some v) (hv' : m.get? k' = some v') (hk : ¬ retired v) (hk' : ¬ retired v') :
    k = k' ∧ c = some k := by
  have hc := (h k v hv).resolve_left hk
  have hc' := (h k' v' hv').resolve_left hk'
  exact ⟨Option.some.inj (hc.symm.trans hc'), hc⟩

/-- **Filing a record** where the others are retired, or it takes its own place. -/
theorem Register.insert {c : Option K} (h : Register retired m c) (hc : c = none ∨ c = some k)
    (v : V) : Register retired (m.insert k v) (some k) := by
  intro k' v' hv'
  rw [OrderedMap.get?_insert] at hv'
  split_ifs at hv' with hk
  · exact Or.inr (congrArg some hk.symm)
  · rcases h k' v' hv' with hr | hk'
    · exact Or.inl hr
    · rcases hc with hc | hc
      · rw [hc] at hk'
        cases hk'
      · exact absurd (Option.some.inj (hk'.symm.trans hc)) hk

/-- **Retiring the record in force** retires all. -/
theorem Register.retire {f : K → V → V} (h : Register retired m (some k))
    (hkeep : ∀ k v, m.get? k = some v → retired v → retired (f k v))
    (hk : ∀ v, m.get? k = some v → retired (f k v)) : Register retired (m.mapVal f) none := by
  intro k' v' hv'
  rw [OrderedMap.get?_mapVal, Option.map_eq_some_iff] at hv'
  obtain ⟨v, hv, rfl⟩ := hv'
  rcases h k' v hv with hr | hkk
  · exact Or.inl (hkeep k' v hv hr)
  · cases hkk
    exact Or.inl (hk v hv)

theorem Register.mono {c : Option K} (h : Register retired m none) : Register retired m c :=
  fun k v hv => Or.inl ((h k v hv).resolve_right fun hc => by cases hc)

theorem Register.all {c : Option K} (h : Register retired m c) (hc : c = none) {v : V}
    (hv : m.get? k = some v) : retired v :=
  (h k v hv).resolve_right fun hk => by
    rw [hc] at hk
    cases hk

end

end FeatureForge
