import FeatureForge.Lib.Json

/-!
# Reading and writing structs as JSON objects

The conventions a derived `Serialize` and `Deserialize` follow, on the members of
an object.  A `Codec` writes a value as a tree and reads it back, and carries the
proof that it does.  A struct is then a list of members: a field is always there
(`required`), left out when it is `None` (`skipNone`), or written as `null` when
it is `None` (`nullable`); an optional field that is missing or `null` reads as
`None`.  A field that occurs twice is an error (`noDuplicates`), a field that is
not of the struct is passed over unless the struct denies unknown fields.

The positional form, a struct written as an array, is never produced and is left
out.
-/

namespace FeatureForge

abbrev Members : Type := List (String × RawJson)

/-- A way to write a value as a tree and to read it back. -/
structure Codec (α : Type) where
  encode : α → RawJson
  decode : RawJson → Option α
  decode_encode : ∀ a, decode (encode a) = some a
  encode_ne_null : ∀ a, encode a ≠ .null

namespace Codec

attribute [simp] decode_encode encode_ne_null

theorem encode_injective {α : Type} (c : Codec α) : Function.Injective c.encode := fun a b h =>
  Option.some.inj (by rw [← c.decode_encode a, ← c.decode_encode b, h])

def str : Codec String where
  encode s := .str s
  decode
    | .str s => some s
    | _ => none
  decode_encode _ := rfl
  encode_ne_null _ := RawJson.noConfusion

def bool : Codec Bool where
  encode b := .bool b
  decode
    | .bool b => some b
    | _ => none
  decode_encode _ := rfl
  encode_ne_null _ := RawJson.noConfusion

def u32 : Codec UInt32 where
  encode n := .num (.posInt n.toNat)
  decode
    | .num (.posInt n) => if n < 2 ^ 32 then some (UInt32.ofNat n) else none
    | _ => none
  decode_encode n := by
    have h : n.toNat < 2 ^ 32 := n.toNat_lt
    simp only [if_pos h, UInt32.ofNat_toNat]
  encode_ne_null _ := RawJson.noConfusion

def u64 : Codec UInt64 where
  encode n := .num (.posInt n.toNat)
  decode
    | .num (.posInt n) => if n < 2 ^ 64 then some (UInt64.ofNat n) else none
    | _ => none
  decode_encode n := by
    have h : n.toNat < 2 ^ 64 := n.toNat_lt
    simp only [if_pos h, UInt64.ofNat_toNat]
  encode_ne_null _ := RawJson.noConfusion

/-- An enumeration written as the name of its variant. -/
def tag {α : Type} (token : α → String) (all : List α) (hall : ∀ a, a ∈ all)
    (hinj : Function.Injective token) : Codec α where
  encode a := .str (token a)
  decode
    | .str s => all.find? fun a => token a = s
    | _ => none
  decode_encode a := by
    cases h : all.find? fun b => token b = token a with
    | none => exact absurd (List.find?_eq_none.mp h a (hall a)) (by simp)
    | some b =>
      have : token b = token a := by simpa using List.find?_some h
      show all.find? (fun b => decide (token b = token a)) = some a
      rw [h, hinj this]
  encode_ne_null _ := RawJson.noConfusion

end Codec

namespace Members

variable {α : Type}

/-! ### Writing -/

def required (k : String) (c : Codec α) (a : α) : Members := [(k, c.encode a)]

def skipNone (k : String) (c : Codec α) : Option α → Members
  | none => []
  | some a => [(k, c.encode a)]

def nullable (k : String) (c : Codec α) (o : Option α) : Members :=
  [(k, (o.map c.encode).getD .null)]

/-! ### Reading -/

def member (ms : Members) (k : String) : Option RawJson := OrderedMap.lookup k ms

def getRequired (ms : Members) (k : String) (c : Codec α) : Option α :=
  (ms.member k).bind c.decode

def decodeOptional (c : Codec α) : Option RawJson → Option (Option α)
  | none => some none
  | some .null => some none
  | some r => (c.decode r).map some

def getOptional (ms : Members) (k : String) (c : Codec α) : Option (Option α) :=
  decodeOptional c (ms.member k)

/-- No known field occurs twice. -/
def noDuplicates (known : List String) (ms : Members) : Bool :=
  decide (((ms.map Prod.fst).filter fun k => k ∈ known).Nodup)

/-! ### Reading back what was written -/

@[simp] theorem member_nil (k : String) : member [] k = none := rfl

@[simp] theorem member_cons (k l : String) (v : RawJson) (ms : Members) :
    member ((k, v) :: ms) l = if l = k then some v else member ms l := rfl

theorem member_append (ms ns : Members) (k : String) :
    member (ms ++ ns) k = (member ms k).or (member ns k) := by
  induction ms with
  | nil => rfl
  | cons e ms ih =>
    obtain ⟨l, v⟩ := e
    rw [List.cons_append, member_cons, member_cons, ih]
    split_ifs <;> rfl

theorem member_required (k l : String) (c : Codec α) (a : α) :
    member (required k c a) l = if l = k then some (c.encode a) else none := rfl

theorem member_nullable (k l : String) (c : Codec α) (o : Option α) :
    member (nullable k c o) l = if l = k then some ((o.map c.encode).getD .null) else none := rfl

theorem member_skipNone (k l : String) (c : Codec α) (o : Option α) :
    member (skipNone k c o) l = if l = k then o.map c.encode else none := by
  cases o <;> simp [skipNone]

theorem decodeOptional_encode (c : Codec α) (a : α) :
    decodeOptional c (some (c.encode a)) = some (some a) := by
  have hne := c.encode_ne_null a
  rw [decodeOptional]
  · rw [c.decode_encode]; rfl
  · exact fun h => hne h

theorem decodeOptional_map (c : Codec α) (o : Option α) :
    decodeOptional c (o.map c.encode) = some o := by
  cases o with
  | none => rfl
  | some a => exact decodeOptional_encode c a

theorem decodeOptional_getD (c : Codec α) (o : Option α) :
    decodeOptional c (some ((o.map c.encode).getD .null)) = some o := by
  cases o with
  | none => rfl
  | some a => exact decodeOptional_encode c a

/-! A reader passes over the members of other fields and stops at its own. -/

theorem getRequired_append {w : Members} {k : String} (h : member w k = none) (ms : Members)
    (c : Codec α) : getRequired (w ++ ms) k c = getRequired ms k c := by
  rw [getRequired, getRequired, member_append, h, Option.none_or]

theorem getOptional_append {w : Members} {k : String} (h : member w k = none) (ms : Members)
    (c : Codec α) : getOptional (w ++ ms) k c = getOptional ms k c := by
  rw [getOptional, getOptional, member_append, h, Option.none_or]

theorem getRequired_required_last (k : String) (c : Codec α) (a : α) :
    getRequired (required k c a) k c = some a := by
  rw [getRequired, member_required, if_pos rfl, Option.bind_some, c.decode_encode]

theorem getRequired_required (k : String) (c : Codec α) (a : α) (ms : Members) :
    getRequired (required k c a ++ ms) k c = some a := by
  rw [getRequired, member_append, member_required, if_pos rfl, Option.some_or, Option.bind_some,
    c.decode_encode]

theorem getOptional_nullable (k : String) (c : Codec α) (o : Option α) (ms : Members) :
    getOptional (nullable k c o ++ ms) k c = some o := by
  rw [getOptional, member_append, member_nullable, if_pos rfl, Option.some_or,
    decodeOptional_getD]

theorem getOptional_skipNone_last (k : String) (c : Codec α) (o : Option α) :
    getOptional (skipNone k c o) k c = some o := by
  rw [getOptional, member_skipNone, if_pos rfl, decodeOptional_map]

theorem getOptional_skipNone (k : String) (c : Codec α) (o : Option α) {ms : Members}
    (h : member ms k = none) : getOptional (skipNone k c o ++ ms) k c = some o := by
  rw [getOptional, member_append, member_skipNone, if_pos rfl, h, Option.or_none,
    decodeOptional_map]

theorem noDuplicates_of_sublist {known keys : List String} {ms : Members}
    (h : (ms.map Prod.fst).Sublist keys) (hk : keys.Nodup) : noDuplicates known ms = true :=
  decide_eq_true ((hk.sublist h).sublist List.filter_sublist)

theorem keys_skipNone_sublist (k : String) (c : Codec α) (o : Option α) :
    ((skipNone k c o).map Prod.fst).Sublist [k] := by
  cases o <;> simp [skipNone]

end Members

end FeatureForge
