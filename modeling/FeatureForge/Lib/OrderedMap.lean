import Mathlib.Data.List.Sort
import Mathlib.Data.String.Basic

/-!
# Ordered maps

A finite map kept as the list of its entries in strictly increasing key order,
the shape in which a `BTreeMap` is iterated.  The order is a field of the
structure, so two maps with the same lookups are equal (`OrderedMap.ext_get?`)
and no theorem below carries a well-formedness premise.

The work is done once on entry lists: `insertEntries` and `eraseEntries` keep
the order, and `get?_insert`, `get?_erase`, `get?_mapVal` say what a lookup
reads afterwards.  Everything that later modules do to a map goes through these
three.
-/

namespace FeatureForge

/-- A finite map as its entries in strictly increasing key order. -/
structure OrderedMap (K V : Type) [LinearOrder K] where
  entries : List (K × V)
  sorted : (entries.map Prod.fst).Pairwise (· < ·)
  deriving DecidableEq

namespace OrderedMap

variable {K V W : Type} [LinearOrder K]

/-! ### Entry lists -/

/-- Insertion at the place the order gives, replacing an entry of the same key. -/
def insertEntries (k : K) (v : V) : List (K × V) → List (K × V)
  | [] => [(k, v)]
  | (k', v') :: rest =>
    if k = k' then (k, v) :: rest
    else if k < k' then (k, v) :: (k', v') :: rest
    else (k', v') :: insertEntries k v rest

def lookup (k : K) : List (K × V) → Option V
  | [] => none
  | (a, b) :: rest => if k = a then some b else lookup k rest

def eraseEntries (k : K) (es : List (K × V)) : List (K × V) := es.filter (fun e => e.1 ≠ k)

theorem mem_keys_insertEntries {k a : K} {v : V} : ∀ {es : List (K × V)},
    a ∈ (insertEntries k v es).map Prod.fst → a = k ∨ a ∈ es.map Prod.fst := by
  intro es
  induction es with
  | nil => simp [insertEntries]
  | cons e rest ih =>
    obtain ⟨k', v'⟩ := e
    rw [insertEntries]
    split_ifs with h h'
    · subst h; simp
    · simp
    · intro ha
      rcases List.mem_cons.mp ha with rfl | ha
      · simp
      · rcases ih ha with rfl | ha
        · exact Or.inl rfl
        · exact Or.inr (List.mem_cons_of_mem _ ha)

theorem sorted_insertEntries {k : K} {v : V} : ∀ {es : List (K × V)},
    (es.map Prod.fst).Pairwise (· < ·) →
      ((insertEntries k v es).map Prod.fst).Pairwise (· < ·) := by
  intro es
  induction es with
  | nil => simp [insertEntries]
  | cons e rest ih =>
    obtain ⟨k', v'⟩ := e
    intro hs
    rw [List.map_cons, List.pairwise_cons] at hs
    obtain ⟨hlt, hrest⟩ := hs
    rw [insertEntries]
    split_ifs with h h'
    · subst h; exact List.pairwise_cons.mpr ⟨hlt, hrest⟩
    · refine List.pairwise_cons.mpr ⟨?_, List.pairwise_cons.mpr ⟨hlt, hrest⟩⟩
      intro a ha
      rcases List.mem_cons.mp ha with rfl | ha
      · exact h'
      · exact lt_trans h' (hlt a ha)
    · refine List.pairwise_cons.mpr ⟨?_, ih hrest⟩
      intro a ha
      rcases mem_keys_insertEntries ha with rfl | ha
      · exact lt_of_le_of_ne (not_lt.mp h') (Ne.symm h)
      · exact hlt a ha

theorem sorted_eraseEntries (k : K) {es : List (K × V)}
    (hs : (es.map Prod.fst).Pairwise (· < ·)) :
    ((eraseEntries k es).map Prod.fst).Pairwise (· < ·) :=
  hs.sublist (List.filter_sublist.map _)

theorem lookup_insertEntries (k k' : K) (v : V) : ∀ es : List (K × V),
    lookup k' (insertEntries k v es) = if k' = k then some v else lookup k' es := by
  intro es
  induction es with
  | nil => simp [insertEntries, lookup]
  | cons e rest ih =>
    obtain ⟨a, b⟩ := e
    rw [insertEntries]
    by_cases ha : k = a
    · subst ha; by_cases hk : k' = k <;> simp [lookup, hk]
    · by_cases hlt : k < a
      · simp [lookup, ha, hlt]
      · by_cases hk : k' = a
        · subst hk; simp [lookup, ha, hlt, Ne.symm ha]
        · simp [lookup, ha, hlt, hk, ih]

theorem lookup_eraseEntries (k k' : K) : ∀ es : List (K × V),
    lookup k' (eraseEntries k es) = if k' = k then none else lookup k' es := by
  intro es
  induction es with
  | nil => simp [eraseEntries, lookup]
  | cons e rest ih =>
    obtain ⟨a, b⟩ := e
    by_cases ha : a = k
    · have he : eraseEntries k ((a, b) :: rest) = eraseEntries k rest := by
        simp [eraseEntries, ha]
      rw [he, ih, lookup]
      subst ha; by_cases hk : k' = a <;> simp [hk]
    · have he : eraseEntries k ((a, b) :: rest) = (a, b) :: eraseEntries k rest := by
        simp [eraseEntries, ha]
      rw [he, lookup, lookup, ih]
      by_cases hk : k' = a
      · subst hk; simp [ha]
      · simp [hk]

theorem lookup_eq_none {k : K} : ∀ {es : List (K × V)},
    lookup k es = none ↔ k ∉ es.map Prod.fst := by
  intro es
  induction es with
  | nil => simp [lookup]
  | cons e rest ih =>
    obtain ⟨a, b⟩ := e
    by_cases h : k = a
    · simp [lookup, h]
    · rw [lookup, if_neg h, ih]; simp [h]

theorem mem_of_lookup {k : K} {v : V} : ∀ {es : List (K × V)},
    lookup k es = some v → (k, v) ∈ es := by
  intro es
  induction es with
  | nil => simp [lookup]
  | cons e rest ih =>
    obtain ⟨a, b⟩ := e
    rw [lookup]
    split_ifs with h
    · subst h; rintro ⟨⟩; exact List.mem_cons_self
    · exact fun hl => List.mem_cons_of_mem _ (ih hl)

theorem lookup_of_mem {k : K} {v : V} : ∀ {es : List (K × V)},
    (es.map Prod.fst).Pairwise (· < ·) → (k, v) ∈ es → lookup k es = some v := by
  intro es
  induction es with
  | nil => simp
  | cons e rest ih =>
    obtain ⟨a, b⟩ := e
    intro hs hm
    rw [List.map_cons, List.pairwise_cons] at hs
    rcases List.mem_cons.mp hm with h | h
    · cases h; simp [lookup]
    · have hlt : a < k := hs.1 k (List.mem_map_of_mem (f := Prod.fst) h)
      rw [lookup, if_neg hlt.ne']
      exact ih hs.2 h

/-- Two sorted entry lists with the same lookups are the same list: compare the
heads, whose keys are the least keys of either side. -/
theorem entries_ext : ∀ {es fs : List (K × V)}, (es.map Prod.fst).Pairwise (· < ·) →
    (fs.map Prod.fst).Pairwise (· < ·) → (∀ k, lookup k es = lookup k fs) → es = fs := by
  intro es
  induction es with
  | nil =>
    intro fs _ _ h
    cases fs with
    | nil => rfl
    | cons f fs => have := h f.1; simp [lookup] at this
  | cons e es ih =>
    intro fs hes hfs h
    cases fs with
    | nil => have := h e.1; simp [lookup] at this
    | cons f fs =>
      obtain ⟨a, b⟩ := e
      obtain ⟨c, d⟩ := f
      rw [List.map_cons, List.pairwise_cons] at hes hfs
      have hmem : (a, b) ∈ (c, d) :: fs := mem_of_lookup (by rw [← h a]; simp [lookup])
      have hmem' : (c, d) ∈ (a, b) :: es := mem_of_lookup (by rw [h c]; simp [lookup])
      have hac : a = c := by
        rcases List.mem_cons.mp hmem with he | hm
        · exact congrArg Prod.fst he
        · rcases List.mem_cons.mp hmem' with he | hm'
          · exact (congrArg Prod.fst he).symm
          · exact absurd (hes.1 c (List.mem_map_of_mem (f := Prod.fst) hm'))
              (lt_asymm (hfs.1 a (List.mem_map_of_mem (f := Prod.fst) hm)))
      subst hac
      have hbd : b = d := by have := h a; simpa [lookup] using this
      subst hbd
      refine congrArg _ (ih hes.2 hfs.2 fun k => ?_)
      by_cases hk : k = a
      · subst hk
        rw [lookup_eq_none.mpr fun hm => lt_irrefl _ (hes.1 k hm),
          lookup_eq_none.mpr fun hm => lt_irrefl _ (hfs.1 k hm)]
      · simpa [lookup, hk] using h k

/-! ### The map operations -/

def empty : OrderedMap K V := ⟨[], List.Pairwise.nil⟩

def get? (m : OrderedMap K V) (k : K) : Option V := lookup k m.entries

def insert (m : OrderedMap K V) (k : K) (v : V) : OrderedMap K V :=
  ⟨insertEntries k v m.entries, sorted_insertEntries m.sorted⟩

def erase (m : OrderedMap K V) (k : K) : OrderedMap K V :=
  ⟨eraseEntries k m.entries, sorted_eraseEntries k m.sorted⟩

/-- The values rewritten in place, each with its key in hand. -/
def mapVal (f : K → V → W) (m : OrderedMap K V) : OrderedMap K W :=
  ⟨m.entries.map fun e => (e.1, f e.1 e.2), by simpa [Function.comp_def] using m.sorted⟩

def filter (p : K → V → Bool) (m : OrderedMap K V) : OrderedMap K V :=
  ⟨m.entries.filter fun e => p e.1 e.2, m.sorted.sublist (List.filter_sublist.map _)⟩

def isEmpty (m : OrderedMap K V) : Bool := m.entries.isEmpty

def contains (m : OrderedMap K V) (k : K) : Bool := (m.get? k).isSome

/-- Later entries replace earlier ones of the same key. -/
def ofList (es : List (K × V)) : OrderedMap K V := es.foldl (fun m e => m.insert e.1 e.2) empty

instance : Inhabited (OrderedMap K V) := ⟨empty⟩

/-! ### What a lookup reads -/

@[simp] theorem get?_empty (k : K) : (empty : OrderedMap K V).get? k = none := rfl

theorem get?_insert (m : OrderedMap K V) (k k' : K) (v : V) :
    (m.insert k v).get? k' = if k' = k then some v else m.get? k' :=
  lookup_insertEntries k k' v m.entries

@[simp] theorem get?_insert_self (m : OrderedMap K V) (k : K) (v : V) :
    (m.insert k v).get? k = some v := by simp [get?_insert]

theorem get?_insert_of_ne (m : OrderedMap K V) {k k' : K} (v : V) (h : k' ≠ k) :
    (m.insert k v).get? k' = m.get? k' := by simp [get?_insert, h]

theorem get?_erase (m : OrderedMap K V) (k k' : K) :
    (m.erase k).get? k' = if k' = k then none else m.get? k' :=
  lookup_eraseEntries k k' m.entries

@[simp] theorem get?_erase_self (m : OrderedMap K V) (k : K) : (m.erase k).get? k = none := by
  simp [get?_erase]

theorem get?_erase_of_ne (m : OrderedMap K V) {k k' : K} (h : k' ≠ k) :
    (m.erase k).get? k' = m.get? k' := by simp [get?_erase, h]

theorem get?_mapVal (f : K → V → W) (m : OrderedMap K V) (k : K) :
    (m.mapVal f).get? k = (m.get? k).map (f k) := by
  obtain ⟨es, hs⟩ := m
  show lookup k (es.map fun e => (e.1, f e.1 e.2)) = (lookup k es).map (f k)
  clear hs
  induction es with
  | nil => rfl
  | cons e es ih =>
    obtain ⟨a, b⟩ := e
    by_cases h : k = a
    · subst h; simp [lookup]
    · simp [lookup, h, ih]

theorem length_mapVal (f : K → V → W) (m : OrderedMap K V) :
    (m.mapVal f).entries.length = m.entries.length :=
  List.length_map _

theorem length_insertEntries {k : K} {v : V} : ∀ {es : List (K × V)}, k ∉ es.map Prod.fst →
    (insertEntries k v es).length = es.length + 1 := by
  intro es
  induction es with
  | nil => exact fun _ => rfl
  | cons e rest ih =>
    intro h
    rw [List.map_cons, List.mem_cons, not_or] at h
    rw [insertEntries]
    split_ifs with heq
    · exact absurd heq h.1
    · rfl
    · rw [List.length_cons, ih h.2, List.length_cons]

/-- A key that is new adds one entry. -/
theorem length_insert {m : OrderedMap K V} {k : K} (h : m.get? k = none) (v : V) :
    (m.insert k v).entries.length = m.entries.length + 1 :=
  length_insertEntries (lookup_eq_none.mp h)

theorem mem_entries {m : OrderedMap K V} {k : K} {v : V} :
    (k, v) ∈ m.entries ↔ m.get? k = some v :=
  ⟨lookup_of_mem m.sorted, mem_of_lookup⟩

theorem get?_filter (p : K → V → Bool) (m : OrderedMap K V) (k : K) :
    (m.filter p).get? k = (m.get? k).filter (p k) := by
  apply Option.ext
  intro v
  rw [← mem_entries, Option.filter_eq_some_iff, ← mem_entries]
  exact List.mem_filter

/-- **Maps with the same lookups are equal.** -/
theorem ext_get? {m m' : OrderedMap K V} (h : ∀ k, m.get? k = m'.get? k) : m = m' := by
  obtain ⟨es, hs⟩ := m
  obtain ⟨fs, hf⟩ := m'
  simp only [mk.injEq]
  exact entries_ext hs hf h

@[simp] theorem insert_get?_self {m : OrderedMap K V} {k : K} {v : V} (h : m.get? k = some v) :
    m.insert k v = m := by
  refine ext_get? fun k' => ?_
  by_cases hk : k' = k
  · subst hk; simp [h]
  · rw [get?_insert_of_ne m v hk]

theorem erase_of_get?_none {m : OrderedMap K V} {k : K} (h : m.get? k = none) : m.erase k = m := by
  refine ext_get? fun k' => ?_
  by_cases hk : k' = k
  · subst hk; simp [h]
  · rw [get?_erase_of_ne m hk]

theorem isEmpty_iff {m : OrderedMap K V} : m.isEmpty = true ↔ m = empty := by
  obtain ⟨es, hs⟩ := m
  cases es <;> simp [isEmpty, empty]

theorem eq_empty_iff_get? {m : OrderedMap K V} : m = empty ↔ ∀ k, m.get? k = none :=
  ⟨fun h k => by rw [h]; rfl, fun h => ext_get? fun k => by rw [h k]; rfl⟩

theorem get?_foldl_insert : ∀ (es : List (K × V)) (m : OrderedMap K V) (k : K),
    (es.map Prod.fst).Nodup →
      (es.foldl (fun m e => m.insert e.1 e.2) m).get? k = (lookup k es).or (m.get? k) := by
  intro es
  induction es with
  | nil => intro m k _; rfl
  | cons e es ih =>
    obtain ⟨a, b⟩ := e
    intro m k hn
    rw [List.map_cons, List.nodup_cons] at hn
    rw [List.foldl_cons, ih _ k hn.2, lookup]
    by_cases hk : k = a
    · subst hk
      rw [lookup_eq_none.mpr hn.1]
      simp
    · rw [if_neg hk, get?_insert_of_ne m b hk]

theorem nodup_keys (m : OrderedMap K V) : (m.entries.map Prod.fst).Nodup :=
  m.sorted.imp ne_of_lt

theorem get?_ofList (es : List (K × V)) (h : (es.map Prod.fst).Nodup) (k : K) :
    (ofList es).get? k = lookup k es := by
  rw [ofList, get?_foldl_insert _ _ _ h, get?_empty, Option.or_none]

/-- Reading a map back from its entries. -/
@[simp] theorem ofList_entries (m : OrderedMap K V) : ofList m.entries = m := by
  refine ext_get? fun k => ?_
  rw [ofList, get?_foldl_insert _ _ _ m.nodup_keys, get?_empty, Option.or_none]
  rfl

/-- A map listed by keys that determine their values. -/
theorem get?_ofList_map {α : Type*} {key : α → K} {val : α → V}
    (hkey : ∀ a b, key a = key b → val a = val b) {k : K} {v : V} (as : List α) :
    (ofList (as.map fun a => (key a, val a))).get? k = some v ↔
      ∃ a ∈ as, key a = k ∧ val a = v := by
  have hfold : ∀ (as : List α) (m : OrderedMap K V),
      ((as.map fun a => (key a, val a)).foldl (fun m e => m.insert e.1 e.2) m).get? k = some v ↔
        (∃ a ∈ as, key a = k ∧ val a = v) ∨ (∀ a ∈ as, key a ≠ k) ∧ m.get? k = some v := by
    intro as
    induction as with
    | nil => intro m; simp
    | cons a as ih =>
      intro m
      rw [List.map_cons, List.foldl_cons, ih, get?_insert]
      simp only [List.exists_mem_cons_iff, List.forall_mem_cons]
      by_cases hk : key a = k
      · rw [if_pos hk.symm, Option.some.injEq]
        by_cases hlater : ∃ b ∈ as, key b = k ∧ val b = v
        · exact iff_of_true (Or.inl hlater) (Or.inl (Or.inr hlater))
        · -- the values under one key agree, so a later one would be this one
          have hlast : val a = v → ∀ b ∈ as, key b ≠ k := fun ha b hb hbk =>
            hlater ⟨b, hb, hbk, (hkey b a (hbk.trans hk.symm)).trans ha⟩
          constructor
          · rintro (h | ⟨_, ha⟩)
            · exact absurd h hlater
            · exact Or.inl (Or.inl ⟨hk, ha⟩)
          · rintro ((⟨_, ha⟩ | h) | ⟨⟨hne, _⟩, _⟩)
            · exact Or.inr ⟨hlast ha, ha⟩
            · exact absurd h hlater
            · exact absurd hk hne
      · rw [if_neg fun h => hk h.symm]
        simp only [hk, false_and, false_or, ne_eq, not_false_eq_true, true_and]
  rw [ofList, hfold]
  simp

/-- A map listed by some of its keys. -/
theorem get?_ofList_filterMap (f : K → Option V) (ks : List K) (k : K) :
    (ofList (ks.filterMap fun k => (f k).map (k, ·))).get? k = if k ∈ ks then f k else none := by
  have hfold : ∀ (ks : List K) (m : OrderedMap K V),
      ((ks.filterMap fun k => (f k).map (k, ·)).foldl (fun m e => m.insert e.1 e.2) m).get? k =
        if k ∈ ks then (f k).or (m.get? k) else m.get? k := by
    intro ks
    induction ks with
    | nil => intro m; rfl
    | cons a ks ih =>
      intro m
      cases ha : f a with
      | none =>
        rw [List.filterMap_cons_none (by rw [ha]; rfl), ih]
        by_cases hk : k = a
        · subst hk
          simp [ha]
        · simp [hk]
      | some v =>
        rw [List.filterMap_cons_some (b := (a, v)) (by rw [ha]; rfl), List.foldl_cons, ih,
          get?_insert]
        by_cases hk : k = a
        · subst hk
          simp [ha]
        · simp [hk]
  rw [ofList, hfold, get?_empty, Option.or_none]

/-- What is read from a list's map stands in the list. -/
theorem mem_of_get?_ofList {es : List (K × V)} {k : K} {v : V}
    (h : (ofList es).get? k = some v) : (k, v) ∈ es := by
  have hfold : ∀ (es : List (K × V)) (m : OrderedMap K V),
      (es.foldl (fun m e => m.insert e.1 e.2) m).get? k = some v →
        (k, v) ∈ es ∨ m.get? k = some v := by
    intro es
    induction es with
    | nil => exact fun m h => Or.inr h
    | cons e es ih =>
      intro m h
      rcases ih _ h with hmem | hget
      · exact Or.inl (List.mem_cons_of_mem _ hmem)
      · rw [get?_insert] at hget
        split_ifs at hget with hk
        · rw [hk, ← Option.some.inj hget]
          exact Or.inl List.mem_cons_self
        · exact Or.inr hget
  rcases hfold es empty h with hmem | hget
  · exact hmem
  · cases hget

/-- A key of a list is a key of its map. -/
theorem exists_get?_ofList {es : List (K × V)} {k : K} {v : V} (h : (k, v) ∈ es) :
    ∃ v', (ofList es).get? k = some v' := by
  have hfold : ∀ (es : List (K × V)) (m : OrderedMap K V), ((∃ v, (k, v) ∈ es) ∨ ∃ v, m.get? k = some v) →
      ∃ v', (es.foldl (fun m e => m.insert e.1 e.2) m).get? k = some v' := by
    intro es
    induction es with
    | nil =>
      rintro m (⟨v, hv⟩ | hm)
      · exact absurd hv List.not_mem_nil
      · exact hm
    | cons e es ih =>
      intro m h
      refine ih _ ?_
      by_cases hk : k = e.1
      · exact Or.inr ⟨e.2, by rw [hk, get?_insert_self]⟩
      · rw [get?_insert_of_ne m e.2 hk]
        refine h.imp_left fun ⟨v, hv⟩ => ⟨v, (List.mem_cons.mp hv).resolve_left ?_⟩
        exact fun he => hk (congrArg Prod.fst he)
  exact hfold es empty (Or.inl ⟨v, h⟩)

@[simp] theorem contains_eq_true {m : OrderedMap K V} {k : K} :
    m.contains k = true ↔ ∃ v, m.get? k = some v := by
  rw [contains, Option.isSome_iff_exists]

/-! ### Sets -/

/-- Some keys, in their order and each once. -/
def keySet (ks : List K) : List K := (ofList (ks.map fun k => (k, ()))).entries.map Prod.fst

@[simp] theorem mem_keySet {ks : List K} {k : K} : k ∈ keySet ks ↔ k ∈ ks := by
  rw [keySet, List.mem_map]
  constructor
  · rintro ⟨⟨k', ⟨⟩⟩, hmem, rfl⟩
    rw [mem_entries, get?_ofList_map (fun _ _ _ => rfl)] at hmem
    obtain ⟨k, hk, rfl, _⟩ := hmem
    exact hk
  · intro hk
    refine ⟨(k, ()), ?_, rfl⟩
    rw [mem_entries, get?_ofList_map (fun _ _ _ => rfl)]
    exact ⟨k, hk, rfl, rfl⟩

theorem nodup_keySet (ks : List K) : (keySet ks).Nodup := nodup_keys _

/-- Keys that are the same set are listed alike. -/
theorem keySet_ext {ks ks' : List K} (h : ∀ k, k ∈ ks ↔ k ∈ ks') : keySet ks = keySet ks' := by
  have hmap : ofList (ks.map fun k => (k, ())) = ofList (ks'.map fun k => (k, ())) := by
    refine ext_get? fun k => Option.ext fun u => ?_
    rw [get?_ofList_map (fun _ _ _ => rfl), get?_ofList_map (fun _ _ _ => rfl)]
    exact exists_congr fun k' => and_congr_left fun _ => h k'
  rw [keySet, hmap, ← keySet]

end OrderedMap

end FeatureForge
