import FeatureForge.Lib.OrderedMap

/-!
# JSON values

Two readings of a JSON tree.  `RawJson` is the tree as it stands in a text: the
members of an object in the order they are written, repeated keys and all.
`Json` is the value such a tree denotes, with every object an `OrderedMap` of
its members; it is a tree that carries the proof that its objects list their
keys in increasing order, so equality of values is equality of trees.

`RawJson.toJson` reads a tree as a value, a later member replacing an earlier
one of the same name, and `RawJson.toJson_raw` says it changes nothing on a tree
that is already canonical.  Numbers are the integers; a fraction has no place
here.
-/

namespace FeatureForge

/-- An integer literal: `posInt n` is `n`, `negInt n` is `-(n + 1)`. -/
inductive Number where
  | posInt (n : Nat)
  | negInt (n : Nat)
  deriving DecidableEq

/-- A JSON tree, object members in the order they are written. -/
inductive RawJson where
  | null
  | bool (b : Bool)
  | num (n : Number)
  | str (s : String)
  | arr (xs : List RawJson)
  | obj (members : List (String × RawJson))
  deriving Inhabited

namespace RawJson

/-- Induction on a tree, with the hypothesis for every element and every member. -/
theorem ind {P : RawJson → Prop} (null : P .null) (bool : ∀ b, P (.bool b))
    (num : ∀ n, P (.num n)) (str : ∀ s, P (.str s))
    (arr : ∀ xs, (∀ x ∈ xs, P x) → P (.arr xs))
    (obj : ∀ ms, (∀ e ∈ ms, P e.2) → P (.obj ms)) : ∀ r, P r := by
  intro r
  refine @RawJson.rec P (fun xs => ∀ x ∈ xs, P x) (fun ms => ∀ e ∈ ms, P e.2) (fun e => P e.2)
    null bool num str arr obj ?_ ?_ ?_ ?_ ?_ r
  · simp
  · intro x xs hx hxs
    simpa using ⟨hx, hxs⟩
  · simp
  · intro e ms he hms f hf
    rcases List.mem_cons.mp hf with rfl | hf
    · exact he
    · exact hms f hf
  · intro k v hv
    exact hv

mutual

def beq : RawJson → RawJson → Bool
  | .null, .null => true
  | .bool a, .bool b => decide (a = b)
  | .num a, .num b => decide (a = b)
  | .str a, .str b => decide (a = b)
  | .arr xs, .arr ys => beqList xs ys
  | .obj ms, .obj ns => beqMembers ms ns
  | _, _ => false

def beqList : List RawJson → List RawJson → Bool
  | [], [] => true
  | x :: xs, y :: ys => beq x y && beqList xs ys
  | _, _ => false

def beqMembers : List (String × RawJson) → List (String × RawJson) → Bool
  | [], [] => true
  | (k, v) :: ms, (l, w) :: ns => decide (k = l) && beq v w && beqMembers ms ns
  | _, _ => false

end

theorem beqList_iff : ∀ {xs : List RawJson}, (∀ x ∈ xs, ∀ y, beq x y = true ↔ x = y) →
    ∀ ys, beqList xs ys = true ↔ xs = ys := by
  intro xs
  induction xs with
  | nil => intro _ ys; cases ys <;> simp [beqList]
  | cons x xs ih =>
    intro h ys
    cases ys with
    | nil => simp [beqList]
    | cons y ys =>
      rw [beqList, Bool.and_eq_true, h x (by simp),
        ih (fun a ha => h a (List.mem_cons_of_mem _ ha)), List.cons.injEq]

theorem beqMembers_iff : ∀ {ms : List (String × RawJson)},
    (∀ e ∈ ms, ∀ y, beq e.2 y = true ↔ e.2 = y) → ∀ ns, beqMembers ms ns = true ↔ ms = ns := by
  intro ms
  induction ms with
  | nil => intro _ ns; cases ns <;> simp [beqMembers]
  | cons e ms ih =>
    obtain ⟨k, v⟩ := e
    intro h ns
    cases ns with
    | nil => simp [beqMembers]
    | cons f ns =>
      obtain ⟨l, w⟩ := f
      rw [beqMembers, Bool.and_eq_true, Bool.and_eq_true, h (k, v) (by simp),
        ih (fun a ha => h a (List.mem_cons_of_mem _ ha)), List.cons.injEq, Prod.mk.injEq,
        decide_eq_true_iff]

theorem beq_iff : ∀ a b : RawJson, beq a b = true ↔ a = b := by
  intro a
  induction a using RawJson.ind with
  | null => intro b; cases b <;> simp [beq]
  | bool a => intro b; cases b <;> simp [beq]
  | num a => intro b; cases b <;> simp [beq]
  | str a => intro b; cases b <;> simp [beq]
  | arr xs ih => intro b; cases b <;> simp [beq, beqList_iff ih]
  | obj ms ih => intro b; cases b <;> simp [beq, beqMembers_iff ih]

instance : DecidableEq RawJson := fun a b => decidable_of_iff _ (beq_iff a b)

/-! ### Canonical trees -/

mutual

/-- Every object of the tree lists its keys in strictly increasing order. -/
def canonical : RawJson → Bool
  | .arr xs => canonicalList xs
  | .obj ms => decide ((ms.map Prod.fst).Pairwise (· < ·)) && canonicalMembers ms
  | .null => true
  | .bool _ => true
  | .num _ => true
  | .str _ => true

def canonicalList : List RawJson → Bool
  | [] => true
  | x :: xs => x.canonical && canonicalList xs

def canonicalMembers : List (String × RawJson) → Bool
  | [] => true
  | (_, v) :: ms => v.canonical && canonicalMembers ms

end

theorem canonicalList_iff {xs : List RawJson} :
    canonicalList xs = true ↔ ∀ x ∈ xs, x.canonical = true := by
  induction xs with
  | nil => simp [canonicalList]
  | cons x xs ih => simp [canonicalList, ih]

theorem canonicalMembers_iff {ms : List (String × RawJson)} :
    canonicalMembers ms = true ↔ ∀ e ∈ ms, e.2.canonical = true := by
  induction ms with
  | nil => simp [canonicalMembers]
  | cons e ms ih => obtain ⟨k, v⟩ := e; simp [canonicalMembers, ih]

end RawJson

/-- A JSON value: a tree whose objects are ordered maps. -/
structure Json where
  raw : RawJson
  canonical : raw.canonical = true
  deriving DecidableEq

abbrev Object : Type := OrderedMap String Json

namespace Json

theorem ext_raw {v w : Json} (h : v.raw = w.raw) : v = w := by
  obtain ⟨a, ha⟩ := v
  obtain ⟨b, hb⟩ := w
  cases h
  rfl

/-! ### Building a value -/

def null : Json := ⟨.null, rfl⟩

def bool (b : Bool) : Json := ⟨.bool b, rfl⟩

def num (n : Number) : Json := ⟨.num n, rfl⟩

def u64 (n : Nat) : Json := num (.posInt n)

def str (s : String) : Json := ⟨.str s, rfl⟩

def arr (xs : List Json) : Json :=
  ⟨.arr (xs.map Json.raw), by
    rw [RawJson.canonical, RawJson.canonicalList_iff]
    intro x hx
    obtain ⟨y, _, rfl⟩ := List.mem_map.mp hx
    exact y.canonical⟩

def obj (m : Object) : Json :=
  ⟨.obj (m.entries.map fun e => (e.1, e.2.raw)), by
    rw [RawJson.canonical, Bool.and_eq_true, RawJson.canonicalMembers_iff, decide_eq_true_iff,
      List.map_map]
    refine ⟨m.sorted, fun e he => ?_⟩
    obtain ⟨f, _, rfl⟩ := List.mem_map.mp he
    exact f.2.canonical⟩

instance : Inhabited Json := ⟨null⟩

/-- The object with the given members, a later one replacing an earlier one. -/
def record (ms : List (String × Json)) : Json := obj (OrderedMap.ofList ms)

/-! ### Reading a value -/

def attachList : (xs : List RawJson) → RawJson.canonicalList xs = true → List Json
  | [], _ => []
  | x :: xs, h =>
    ⟨x, (Bool.and_eq_true _ _ ▸ h).1⟩ :: attachList xs (Bool.and_eq_true _ _ ▸ h).2

def attachMembers : (ms : List (String × RawJson)) → RawJson.canonicalMembers ms = true →
    List (String × Json)
  | [], _ => []
  | (k, v) :: ms, h =>
    (k, ⟨v, (Bool.and_eq_true _ _ ▸ h).1⟩) :: attachMembers ms (Bool.and_eq_true _ _ ▸ h).2

theorem attachList_raw : ∀ (xs : List Json) (h), attachList (xs.map Json.raw) h = xs := by
  intro xs
  induction xs with
  | nil => intro _; rfl
  | cons x xs ih => intro h; simp [attachList, ih]

theorem raw_attachList : ∀ (xs : List RawJson) (h), (attachList xs h).map Json.raw = xs := by
  intro xs
  induction xs with
  | nil => intro _; rfl
  | cons x xs ih => intro h; simp [attachList, ih]

theorem attachMembers_raw : ∀ (ms : List (String × Json)) (h),
    attachMembers (ms.map fun e => (e.1, e.2.raw)) h = ms := by
  intro ms
  induction ms with
  | nil => intro _; rfl
  | cons e ms ih => intro h; simp [attachMembers, ih]

theorem raw_attachMembers : ∀ (ms : List (String × RawJson)) (h),
    (attachMembers ms h).map (fun e => (e.1, e.2.raw)) = ms := by
  intro ms
  induction ms with
  | nil => intro _; rfl
  | cons e ms ih => obtain ⟨k, v⟩ := e; intro h; simp [attachMembers, ih]

theorem keys_attachMembers (ms : List (String × RawJson)) (h) :
    (attachMembers ms h).map Prod.fst = ms.map Prod.fst := by
  conv_rhs => rw [← raw_attachMembers ms h, List.map_map]
  rfl

def asObject : Json → Option Object
  | ⟨.obj ms, h⟩ =>
    some ⟨attachMembers ms (Bool.and_eq_true _ _ ▸ h).2, by
      rw [keys_attachMembers]; exact of_decide_eq_true (Bool.and_eq_true _ _ ▸ h).1⟩
  | _ => none

def asArray : Json → Option (List Json)
  | ⟨.arr xs, h⟩ => some (attachList xs h)
  | _ => none

def asStr : Json → Option String
  | ⟨.str s, _⟩ => some s
  | _ => none

def asU64 : Json → Option Nat
  | ⟨.num (.posInt n), _⟩ => some n
  | _ => none

def asBool : Json → Option Bool
  | ⟨.bool b, _⟩ => some b
  | _ => none

def isNull : Json → Bool
  | ⟨.null, _⟩ => true
  | _ => false

/-- The member of an object; nothing for any other value. -/
def get? (v : Json) (k : String) : Option Json := v.asObject.bind (·.get? k)

/-- **Every value is built by one of the six constructors.** -/
theorem exhaust (v : Json) : v = null ∨ (∃ b, v = bool b) ∨ (∃ n, v = num n) ∨
    (∃ s, v = str s) ∨ (∃ xs, v = arr xs) ∨ ∃ m, v = obj m := by
  obtain ⟨r, h⟩ := v
  cases r with
  | null => exact Or.inl rfl
  | bool b => exact Or.inr (Or.inl ⟨b, rfl⟩)
  | num n => exact Or.inr (Or.inr (Or.inl ⟨n, rfl⟩))
  | str s => exact Or.inr (Or.inr (Or.inr (Or.inl ⟨s, rfl⟩)))
  | arr xs =>
    exact Or.inr (Or.inr (Or.inr (Or.inr (Or.inl
      ⟨attachList xs h, ext_raw (congrArg RawJson.arr (raw_attachList xs h).symm)⟩))))
  | obj ms =>
    have hm : RawJson.canonicalMembers ms = true := (Bool.and_eq_true _ _ ▸ h).2
    refine Or.inr (Or.inr (Or.inr (Or.inr (Or.inr ⟨⟨attachMembers ms hm, ?_⟩, ?_⟩))))
    · rw [keys_attachMembers]; exact of_decide_eq_true (Bool.and_eq_true _ _ ▸ h).1
    · exact ext_raw (congrArg RawJson.obj (raw_attachMembers ms hm).symm)

@[simp] theorem asObject_obj (m : Object) : (obj m).asObject = some m := by
  simp only [obj, asObject, attachMembers_raw]

@[simp] theorem asArray_arr (xs : List Json) : (arr xs).asArray = some xs :=
  congrArg some (attachList_raw xs _)

@[simp] theorem asStr_str (s : String) : (str s).asStr = some s := rfl
@[simp] theorem asU64_u64 (n : Nat) : (u64 n).asU64 = some n := rfl
@[simp] theorem asBool_bool (b : Bool) : (bool b).asBool = some b := rfl

@[simp] theorem asObject_null : null.asObject = none := rfl
@[simp] theorem asObject_str (s : String) : (str s).asObject = none := rfl
@[simp] theorem asStr_null : null.asStr = none := rfl
@[simp] theorem asStr_obj (m : Object) : (obj m).asStr = none := rfl
@[simp] theorem asU64_null : null.asU64 = none := rfl
@[simp] theorem isNull_null : null.isNull = true := rfl
@[simp] theorem isNull_obj (m : Object) : (obj m).isNull = false := rfl
@[simp] theorem isNull_str (s : String) : (str s).isNull = false := rfl
@[simp] theorem isNull_bool (b : Bool) : (bool b).isNull = false := rfl
@[simp] theorem isNull_u64 (n : Nat) : (u64 n).isNull = false := rfl
@[simp] theorem isNull_arr (xs : List Json) : (arr xs).isNull = false := rfl

theorem isNull_iff {v : Json} : v.isNull = true ↔ v = null := by
  constructor
  · obtain ⟨r, h⟩ := v
    cases r with
    | null => intro _; rfl
    | _ => intro hn; exact absurd hn (by simp [isNull])
  · rintro rfl; rfl

theorem asObject_eq_some {v : Json} {m : Object} : v.asObject = some m ↔ v = obj m := by
  constructor
  · intro h
    rcases v.exhaust with rfl | ⟨b, rfl⟩ | ⟨n, rfl⟩ | ⟨s, rfl⟩ | ⟨xs, rfl⟩ | ⟨m', rfl⟩
    case inr.inr.inr.inr.inr => rw [asObject_obj] at h; cases h; rfl
    all_goals cases h
  · rintro rfl; exact asObject_obj m

theorem asStr_eq_some {v : Json} {s : String} : v.asStr = some s ↔ v = str s := by
  constructor
  · intro h
    rcases v.exhaust with rfl | ⟨b, rfl⟩ | ⟨n, rfl⟩ | ⟨s', rfl⟩ | ⟨xs, rfl⟩ | ⟨m', rfl⟩
    case inr.inr.inr.inl => cases h; rfl
    all_goals cases h
  · rintro rfl; rfl

theorem obj_injective : Function.Injective obj := fun m m' h =>
  Option.some.inj (by rw [← asObject_obj m, ← asObject_obj m', h])

theorem str_injective : Function.Injective str := fun s s' h =>
  Option.some.inj (by rw [← asStr_str s, ← asStr_str s', h])

@[simp] theorem obj_inj {m m' : Object} : obj m = obj m' ↔ m = m' := obj_injective.eq_iff
@[simp] theorem str_inj {s s' : String} : str s = str s' ↔ s = s' := str_injective.eq_iff

@[simp] theorem obj_ne_null (m : Object) : obj m ≠ null := fun h => by
  simpa using congrArg isNull h

@[simp] theorem str_ne_null (s : String) : str s ≠ null := fun h => by
  simpa using congrArg isNull h

@[simp] theorem get?_obj (m : Object) (k : String) : (obj m).get? k = m.get? k := by simp [get?]

theorem get?_of_asObject_none {v : Json} (h : v.asObject = none) (k : String) :
    v.get? k = none := by simp [get?, h]

end Json

/-! ### Reading a tree as a value -/

namespace RawJson

mutual

def toJson : RawJson → Json
  | .null => Json.null
  | .bool b => Json.bool b
  | .num n => Json.num n
  | .str s => Json.str s
  | .arr xs => Json.arr (toJsonList xs)
  | .obj ms => Json.obj (OrderedMap.ofList (toJsonMembers ms))

def toJsonList : List RawJson → List Json
  | [] => []
  | x :: xs => x.toJson :: toJsonList xs

def toJsonMembers : List (String × RawJson) → List (String × Json)
  | [] => []
  | (k, v) :: ms => (k, v.toJson) :: toJsonMembers ms

end

theorem toJsonList_eq (xs : List RawJson) : toJsonList xs = xs.map toJson := by
  induction xs with
  | nil => rfl
  | cons x xs ih => rw [toJsonList, ih, List.map_cons]

theorem toJsonMembers_eq (ms : List (String × RawJson)) :
    toJsonMembers ms = ms.map fun e => (e.1, e.2.toJson) := by
  induction ms with
  | nil => rfl
  | cons e ms ih => obtain ⟨k, v⟩ := e; rw [toJsonMembers, ih, List.map_cons]

/-- **A canonical tree denotes itself.** -/
theorem toJson_mk : ∀ (r : RawJson) (h : r.canonical = true), r.toJson = ⟨r, h⟩ := by
  intro r
  induction r using RawJson.ind with
  | null => intro _; rfl
  | bool b => intro _; rfl
  | num n => intro _; rfl
  | str s => intro _; rfl
  | arr xs ih =>
    intro h
    have hc : ∀ x ∈ xs, x.canonical = true := canonicalList_iff.mp h
    have hraw : (xs.map toJson).map Json.raw = xs := by
      rw [List.map_map]
      conv_rhs => rw [← List.map_id xs]
      exact List.map_congr_left fun x hx => by simp [ih x hx (hc x hx)]
    rw [toJson, toJsonList_eq]
    exact Json.ext_raw (congrArg RawJson.arr hraw)
  | obj ms ih =>
    intro h
    obtain ⟨hs, hm⟩ : (ms.map Prod.fst).Pairwise (· < ·) ∧ canonicalMembers ms = true := by
      rw [canonical, Bool.and_eq_true, decide_eq_true_iff] at h; exact h
    have hc : ∀ e ∈ ms, e.2.canonical = true := canonicalMembers_iff.mp hm
    have hkeys : ((toJsonMembers ms).map Prod.fst).Pairwise (· < ·) := by
      rw [toJsonMembers_eq, List.map_map]; exact hs
    have hent : OrderedMap.ofList (toJsonMembers ms) = ⟨toJsonMembers ms, hkeys⟩ :=
      OrderedMap.ofList_entries ⟨toJsonMembers ms, hkeys⟩
    have hraw : (toJsonMembers ms).map (fun e => (e.1, e.2.raw)) = ms := by
      rw [toJsonMembers_eq, List.map_map]
      conv_rhs => rw [← List.map_id ms]
      exact List.map_congr_left fun e he => by simp [ih e he (hc e he)]
    rw [toJson, hent]
    exact Json.ext_raw (congrArg RawJson.obj hraw)

theorem toJson_raw (v : Json) : v.raw.toJson = v := toJson_mk v.1 v.2

end RawJson

end FeatureForge
