import FeatureForge.Lib.Serde

/-!
# Structs as values

A struct that goes into a value and not into a text has its members in the order of their keys.
A `ValueCodec` is a codec that reads back what it wrote through such a value too; a struct that
is read by the keys of its members (`sortedMembers`) has one.
-/

namespace FeatureForge

/-- A codec that reads back what it wrote as a value. -/
structure ValueCodec (α : Type) extends Codec α where
  decode_sorted : ∀ a, decode (encode a).toJson.raw = some a

namespace ValueCodec

attribute [simp] decode_sorted

variable {α : Type}

/-- `serde_json::to_value`. -/
def toValue (c : ValueCodec α) (a : α) : Json := (c.encode a).toJson

/-- `serde_json::from_value`. -/
def fromValue (c : ValueCodec α) (v : Json) : Option α := c.decode v.raw

@[simp] theorem fromValue_toValue (c : ValueCodec α) (a : α) : c.fromValue (c.toValue a) = some a :=
  c.decode_sorted a

theorem raw_toJson_arr (xs : List RawJson) :
    (RawJson.arr xs).toJson.raw = .arr (xs.map fun x => x.toJson.raw) := by
  rw [RawJson.toJson, RawJson.toJsonList_eq]
  simp [Json.arr]

theorem toValue_ne_null (c : ValueCodec α) (a : α) : c.toValue a ≠ .null := by
  intro h
  have hraw : (c.encode a).toJson.raw = .null := congrArg Json.raw h
  cases hencode : c.encode a with
  | null => exact c.encode_ne_null a hencode
  | obj ms => rw [hencode] at hraw; cases hraw
  | arr xs => rw [hencode, raw_toJson_arr] at hraw; cases hraw
  | _ => rw [hencode] at hraw; cases hraw

/-! ### Scalars and lists -/

def text : ValueCodec (List Char) where
  encode s := .str (String.ofList s)
  decode
    | .str s => some s.toList
    | _ => none
  decode_encode _ := congrArg some String.toList_ofList
  encode_ne_null _ := RawJson.noConfusion
  decode_sorted _ := congrArg some String.toList_ofList

def u32 : ValueCodec UInt32 where
  toCodec := Codec.u32
  decode_sorted := Codec.u32.decode_encode

def u64 : ValueCodec UInt64 where
  toCodec := Codec.u64
  decode_sorted := Codec.u64.decode_encode

theorem mapM_map_some {β : Type} {read : β → Option α} {write : α → β}
    (h : ∀ a, read (write a) = some a) (xs : List α) : (xs.map write).mapM read = some xs := by
  induction xs with
  | nil => rfl
  | cons x xs ih => simp [h, ih]

def list (c : ValueCodec α) : ValueCodec (List α) where
  encode xs := .arr (xs.map c.encode)
  decode
    | .arr xs => xs.mapM c.decode
    | _ => none
  decode_encode := mapM_map_some c.decode_encode
  encode_ne_null _ := RawJson.noConfusion
  decode_sorted xs := by
    rw [raw_toJson_arr, List.map_map]
    exact mapM_map_some c.decode_sorted xs

end ValueCodec

/-! ### Structs -/

namespace Members

variable {α : Type}

/-- The members in the order of their keys, each of them a value. -/
def sortedMembers (ms : Members) : Members :=
  (OrderedMap.ofList (RawJson.toJsonMembers ms)).entries.map fun e => (e.1, e.2.raw)

theorem noDuplicates_sorted (known : List String) (ms : Members) :
    noDuplicates known (sortedMembers ms) = true := by
  refine decide_eq_true (List.Nodup.filter _ ?_)
  rw [sortedMembers, List.map_map]
  exact OrderedMap.nodup_keys _

theorem lookup_map {β γ : Type} (g : β → γ) (k : String) (es : List (String × β)) :
    OrderedMap.lookup k (es.map fun e => (e.1, g e.2)) = (OrderedMap.lookup k es).map g := by
  induction es with
  | nil => rfl
  | cons e es ih =>
    simp only [List.map_cons, OrderedMap.lookup]
    rw [ih]
    split_ifs <;> rfl

/-- **A member is found by its key** in the value of a struct. -/
theorem member_sorted {ms : Members} (h : (ms.map Prod.fst).Nodup) (k : String) :
    member (sortedMembers ms) k = (member ms k).map fun r => r.toJson.raw := by
  have hkeys : ((RawJson.toJsonMembers ms).map Prod.fst).Nodup := by
    rw [RawJson.toJsonMembers_eq, List.map_map]
    exact h
  have hget := OrderedMap.get?_ofList _ hkeys k
  rw [RawJson.toJsonMembers_eq, lookup_map RawJson.toJson] at hget
  rw [member, sortedMembers, lookup_map Json.raw, RawJson.toJsonMembers_eq]
  show ((OrderedMap.ofList _).get? k).map Json.raw = _
  rw [hget, Option.map_map]
  rfl

theorem get?_toJson_obj {ms : Members} (h : (ms.map Prod.fst).Nodup) (k : String) :
    (RawJson.obj ms).toJson.get? k = (member ms k).map RawJson.toJson := by
  have hkeys : ((RawJson.toJsonMembers ms).map Prod.fst).Nodup := by
    rw [RawJson.toJsonMembers_eq, List.map_map]
    exact h
  rw [RawJson.toJson, Json.get?_obj, OrderedMap.get?_ofList _ hkeys, RawJson.toJsonMembers_eq,
    lookup_map RawJson.toJson, member]

theorem decodeOptional_of_ne (c : Codec α) {r : RawJson} (h : r ≠ .null) :
    decodeOptional c (some r) = (c.decode r).map some := by
  cases r with
  | null => exact absurd rfl h
  | _ => rfl

theorem decodeOptional_sorted (c : ValueCodec α) (o : Option α) :
    decodeOptional c.toCodec (some ((o.map c.encode).getD .null).toJson.raw) = some o := by
  cases o with
  | none => rfl
  | some a =>
    have hread := c.decode_sorted a
    have hnull : (c.encode a).toJson.raw ≠ .null := fun h =>
      c.toValue_ne_null a (Json.ext_raw h)
    show decodeOptional c.toCodec (some (c.encode a).toJson.raw) = some (some a)
    rw [decodeOptional_of_ne c.toCodec hnull, hread, Option.map_some]

/-- Members from which a struct can be read that was written as `written`: its fields are found
by their keys and come back as they were. -/
structure ReadsAs (known : List String) (written ms : Members) : Prop where
  once : noDuplicates known ms = true
  required : ∀ {β : Type} {c : ValueCodec β} {k : String} {b : β},
    member written k = some (c.encode b) → getRequired ms k c.toCodec = some b
  optional : ∀ {β : Type} {c : ValueCodec β} {k : String} {o : Option β},
    member written k = some ((o.map c.encode).getD .null) → getOptional ms k c.toCodec = some o

variable {known : List String} {written : Members}

theorem readsAs_self (h : (written.map Prod.fst).Nodup) : ReadsAs known written written where
  once := decide_eq_true (List.Nodup.filter _ h)
  required hk := by rw [getRequired, hk, Option.bind_some, Codec.decode_encode]
  optional hk := by rw [getOptional, hk, decodeOptional_getD]

theorem readsAs_sorted (h : (written.map Prod.fst).Nodup) :
    ReadsAs known written (sortedMembers written) where
  once := noDuplicates_sorted known written
  required {_ c _ b} hk := by
    rw [getRequired, member_sorted h, hk, Option.map_some, Option.bind_some, c.decode_sorted]
  optional hk := by
    rw [getOptional, member_sorted h, hk, Option.map_some, decodeOptional_sorted]

end Members

/-- The codec of a struct that is written and read by its members. -/
def ValueCodec.struct {α : Type} (known : List String) (toMembers : α → Members)
    (fromMembers : Members → Option α) (hkeys : ∀ a, ((toMembers a).map Prod.fst).Nodup)
    (hread : ∀ a ms, Members.ReadsAs known (toMembers a) ms → fromMembers ms = some a) :
    ValueCodec α where
  encode a := .obj (toMembers a)
  decode
    | .obj ms => fromMembers ms
    | _ => none
  decode_encode a := hread a _ (Members.readsAs_self (hkeys a))
  encode_ne_null _ := RawJson.noConfusion
  decode_sorted a := hread a _ (Members.readsAs_sorted (hkeys a))

end FeatureForge
