import FeatureForge.Lib.Json

/-!
# JSON text

The compact text of a tree, as `serde_json` writes it: no blanks, members in the
order of the tree, and in strings an escape for the quote, the backslash and the
control characters.  `RawJson.print` is that text as a list of characters.

Reading is kept apart from it.  A `JsonReader` is any reader of texts that
inverts `print` up to a nesting limit, refuses deeper texts, and refuses a text
that stops inside an object or goes on after one.  `RawJson.strictReader` is one:
a recursive-descent parser that accepts printed texts only.  All of it rests on
one theorem, `RawJson.parseValue_print`: in front of any text that cannot extend
a number, parsing takes off exactly what printing put there.
-/

namespace FeatureForge

/-- What is checked of each character of a text. -/
theorem forall_mem_of_all {p : Char → Prop} [DecidablePred p] {cs : List Char}
    (h : (cs.all fun c => decide (p c)) = true) : ∀ c ∈ cs, p c :=
  fun c hc => of_decide_eq_true (List.all_eq_true.mp h c hc)

namespace RawJson

/-! ### Printing -/

def escapeChar (c : Char) : List Char :=
  if c = '"' then ['\\', '"']
  else if c = '\\' then ['\\', '\\']
  else if c = '\n' then ['\\', 'n']
  else if c = '\r' then ['\\', 'r']
  else if c = '\t' then ['\\', 't']
  else if c = '\x08' then ['\\', 'b']
  else if c = '\x0c' then ['\\', 'f']
  else if c.toNat < 32 then
    ['\\', 'u', '0', '0', Nat.digitChar (c.toNat / 16), Nat.digitChar (c.toNat % 16)]
  else [c]

def printStr (s : String) : List Char := '"' :: s.toList.flatMap escapeChar ++ ['"']

def printNumber : Number → List Char
  | .posInt n => Nat.toDigits 10 n
  | .negInt n => '-' :: Nat.toDigits 10 (n + 1)

mutual

/-- The compact text of a tree. -/
def print : RawJson → List Char
  | .null => ['n', 'u', 'l', 'l']
  | .bool true => ['t', 'r', 'u', 'e']
  | .bool false => ['f', 'a', 'l', 's', 'e']
  | .num n => printNumber n
  | .str s => printStr s
  | .arr [] => ['[', ']']
  | .arr (x :: xs) => '[' :: print x ++ printTail xs
  | .obj [] => ['\x7b', '\x7d']
  | .obj ((k, v) :: ms) => '\x7b' :: printStr k ++ ':' :: print v ++ printMemberTail ms

def printTail : List RawJson → List Char
  | [] => [']']
  | x :: xs => ',' :: print x ++ printTail xs

def printMemberTail : List (String × RawJson) → List Char
  | [] => ['\x7d']
  | (k, v) :: ms => ',' :: printStr k ++ ':' :: print v ++ printMemberTail ms

/-- How many arrays and objects the tree nests. -/
def depth : RawJson → Nat
  | .arr xs => depthList xs + 1
  | .obj ms => depthMembers ms + 1
  | .null => 0
  | .bool _ => 0
  | .num _ => 0
  | .str _ => 0

def depthList : List RawJson → Nat
  | [] => 0
  | x :: xs => max x.depth (depthList xs)

def depthMembers : List (String × RawJson) → Nat
  | [] => 0
  | (_, v) :: ms => max v.depth (depthMembers ms)

end

/-- A member is nested one level less than its object at most. -/
theorem depth_le_of_mem {k : String} {v : RawJson} : ∀ {ms : List (String × RawJson)},
    (k, v) ∈ ms → v.depth ≤ depthMembers ms := by
  intro ms
  induction ms with
  | nil => intro h; cases h
  | cons e ms ih =>
    obtain ⟨l, w⟩ := e
    intro h
    rw [depthMembers]
    rcases List.mem_cons.mp h with h | h
    · cases h
      omega
    · have := ih h
      omega

/-! ### Parsing -/

def hexVal (c : Char) : Option Nat := (List.range 16).find? fun d => Nat.digitChar d = c

def unescape : Char → Option Char
  | '"' => some '"'
  | '\\' => some '\\'
  | 'n' => some '\n'
  | 'r' => some '\r'
  | 't' => some '\t'
  | 'b' => some '\x08'
  | 'f' => some '\x0c'
  | _ => none

/-- The characters of a string up to its closing quote, and what follows. -/
def parseStrBody : List Char → Option (List Char × List Char)
  | [] => none
  | '"' :: r => some ([], r)
  | '\\' :: 'u' :: '0' :: '0' :: a :: b :: r => do
    let hi ← hexVal a
    let lo ← hexVal b
    let (cs, r) ← parseStrBody r
    some (Char.ofNat (16 * hi + lo) :: cs, r)
  | '\\' :: e :: r => do
    let c ← unescape e
    let (cs, r) ← parseStrBody r
    some (c :: cs, r)
  | c :: r => do
    let (cs, r) ← parseStrBody r
    some (c :: cs, r)

def parseStr : List Char → Option (String × List Char)
  | '"' :: r => do
    let (cs, r) ← parseStrBody r
    some (String.ofList cs, r)
  | _ => none

def spanDigits : List Char → List Char × List Char
  | [] => ([], [])
  | c :: r => if c.isDigit then ((c :: (spanDigits r).1), (spanDigits r).2) else ([], c :: r)

def parseNumber : List Char → Option (Number × List Char)
  | '-' :: r =>
    match Nat.ofDigitChars 10 (spanDigits r).1 0 with
    | 0 => none
    | n + 1 => some (.negInt n, (spanDigits r).2)
  | r => some (.posInt (Nat.ofDigitChars 10 (spanDigits r).1 0), (spanDigits r).2)

mutual

def parseValue : Nat → List Char → Option (RawJson × List Char)
  | 0, _ => none
  | fuel + 1, s =>
    match s with
    | 'n' :: 'u' :: 'l' :: 'l' :: r => some (.null, r)
    | 't' :: 'r' :: 'u' :: 'e' :: r => some (.bool true, r)
    | 'f' :: 'a' :: 'l' :: 's' :: 'e' :: r => some (.bool false, r)
    | '"' :: r => do
      let (k, r) ← parseStr ('"' :: r)
      some (.str k, r)
    | '[' :: ']' :: r => some (.arr [], r)
    | '[' :: r => do
      let (x, r) ← parseValue fuel r
      let (xs, r) ← parseTail fuel r
      some (.arr (x :: xs), r)
    | '\x7b' :: '\x7d' :: r => some (.obj [], r)
    | '\x7b' :: r => do
      let (m, r) ← parseMember fuel r
      let (ms, r) ← parseMemberTail fuel r
      some (.obj (m :: ms), r)
    | c :: r =>
      if c = '-' ∨ c.isDigit then do
        let (n, r) ← parseNumber (c :: r)
        some (.num n, r)
      else none
    | [] => none

def parseTail : Nat → List Char → Option (List RawJson × List Char)
  | fuel + 1, ',' :: r => do
    let (x, r) ← parseValue fuel r
    let (xs, r) ← parseTail fuel r
    some (x :: xs, r)
  | _ + 1, ']' :: r => some ([], r)
  | _, _ => none

def parseMember : Nat → List Char → Option ((String × RawJson) × List Char)
  | 0, _ => none
  | fuel + 1, s => do
    let (k, r) ← parseStr s
    match r with
    | ':' :: r => do
      let (v, r) ← parseValue fuel r
      some ((k, v), r)
    | _ => none

def parseMemberTail : Nat → List Char → Option (List (String × RawJson) × List Char)
  | fuel + 1, ',' :: r => do
    let (m, r) ← parseMember fuel r
    let (ms, r) ← parseMemberTail fuel r
    some (m :: ms, r)
  | _ + 1, '\x7d' :: r => some ([], r)
  | _, _ => none

end

/-! ### Digits and strings -/

/-- What stands after a value never extends a number. -/
def NoDigitHead (r : List Char) : Prop := ∀ c ∈ r.head?, c.isDigit = false

theorem noDigitHead_cons {c : Char} {r : List Char} (h : c.isDigit = false) :
    NoDigitHead (c :: r) := by
  intro d hd
  cases hd
  exact h

theorem spanDigits_append {r : List Char} (hr : NoDigitHead r) : ∀ ds : List Char,
    (∀ c ∈ ds, c.isDigit = true) → spanDigits (ds ++ r) = (ds, r) := by
  intro ds
  induction ds with
  | nil =>
    intro _
    cases r with
    | nil => rfl
    | cons c r => simp [spanDigits, hr c rfl]
  | cons c ds ih =>
    intro h
    rw [List.cons_append, spanDigits, if_pos (h c (by simp)),
      ih fun d hd => h d (List.mem_cons_of_mem _ hd)]

theorem spanDigits_toDigits {r : List Char} (hr : NoDigitHead r) (n : Nat) :
    spanDigits (Nat.toDigits 10 n ++ r) = (Nat.toDigits 10 n, r) :=
  spanDigits_append hr _ fun _ hc => Nat.isDigit_of_mem_toDigits (by decide) (by decide) hc

theorem toDigits_eq_cons (n : Nat) :
    ∃ d ds, Nat.toDigits 10 n = d :: ds ∧ d.isDigit = true ∧ d ≠ '-' := by
  cases h : Nat.toDigits 10 n with
  | nil => exact absurd h Nat.toDigits_ne_nil
  | cons d ds =>
    have hd : d.isDigit = true :=
      Nat.isDigit_of_mem_toDigits (by decide) (by decide) (h ▸ List.mem_cons_self)
    refine ⟨d, ds, rfl, hd, ?_⟩
    rintro rfl
    exact absurd hd (by decide)

theorem parseNumber_print {r : List Char} (hr : NoDigitHead r) (n : Number) :
    parseNumber (printNumber n ++ r) = some (n, r) := by
  cases n with
  | posInt n =>
    obtain ⟨d, ds, hd, -, hne⟩ := toDigits_eq_cons n
    have hspan := spanDigits_toDigits hr n
    rw [printNumber]
    rw [hd, List.cons_append] at hspan ⊢
    rw [parseNumber, hspan, ← hd, Nat.ofDigitChars_ten_toDigits]
    rintro t ⟨⟩
    exact hne rfl
  | negInt n =>
    rw [printNumber, List.cons_append, parseNumber, spanDigits_toDigits hr]
    simp

theorem hexVal_digitChar {d : Nat} (h : d < 16) : hexVal (Nat.digitChar d) = some d := by
  have : ∀ d < 16, hexVal (Nat.digitChar d) = some d := by decide
  exact this d h

theorem parseStrBody_escapeChar (c : Char) (r : List Char) :
    parseStrBody (escapeChar c ++ r)
      = (parseStrBody r).bind fun p => some (c :: p.1, p.2) := by
  rw [escapeChar]
  split_ifs with h₁ h₂ h₃ h₄ h₅ h₆ h₇ h₈
  case pos => subst h₁; rfl
  case pos => subst h₂; rfl
  case pos => subst h₃; rfl
  case pos => subst h₄; rfl
  case pos => subst h₅; rfl
  case pos => subst h₆; rfl
  case pos => subst h₇; rfl
  case pos =>
    have hhi := hexVal_digitChar (d := c.toNat / 16) (by omega)
    have hlo := hexVal_digitChar (d := c.toNat % 16) (by omega)
    have hc : Char.ofNat (16 * (c.toNat / 16) + c.toNat % 16) = c := by
      rw [Nat.div_add_mod]; exact Char.ofNat_toNat c
    simp only [List.cons_append, List.nil_append, parseStrBody, hhi, hlo, hc, Option.bind_eq_bind,
      Option.bind_some]
  case neg =>
    rw [List.cons_append, List.nil_append, parseStrBody]
    · rfl
    · rintro rfl; exact h₁ rfl
    · rintro a b t rfl; exact fun _ => h₂ rfl
    · rintro a t rfl; exact fun _ => h₂ rfl

theorem parseStrBody_escape (r : List Char) : ∀ cs : List Char,
    parseStrBody (cs.flatMap escapeChar ++ '"' :: r) = some (cs, r) := by
  intro cs
  induction cs with
  | nil => rfl
  | cons c cs ih =>
    rw [List.flatMap_cons, List.append_assoc, parseStrBody_escapeChar, ih]
    rfl

theorem parseStr_print (s : String) (r : List Char) :
    parseStr (printStr s ++ r) = some (s, r) := by
  have h : printStr s ++ r = '"' :: (s.toList.flatMap escapeChar ++ '"' :: r) := by
    simp [printStr]
  rw [h, parseStr, parseStrBody_escape]
  simp

/-! ### Parsing takes off what printing put there -/

/-- What may follow the text of `r`: anything, unless `r` is a number. -/
def Follows (r : RawJson) (rest : List Char) : Prop := (∃ n, r = .num n) → NoDigitHead rest

theorem print_ne_nil (r : RawJson) : print r ≠ [] := by
  cases r with
  | bool b => cases b <;> simp [print]
  | num n =>
    cases n with
    | posInt n => exact Nat.toDigits_ne_nil
    | negInt n => simp [print, printNumber]
  | arr xs => cases xs <;> simp [print]
  | obj ms => cases ms <;> simp [print]
  | _ => simp [print, printStr]

/-- The text of a value never starts with the bracket that closes an array. -/
theorem print_head (r : RawJson) : ∀ c ∈ (print r).head?, c ≠ ']' := by
  cases r with
  | bool b => cases b <;> simp [print]
  | num n =>
    cases n with
    | posInt n =>
      obtain ⟨d, ds, hd, hdig, -⟩ := toDigits_eq_cons n
      rw [print, printNumber, hd]
      rintro c ⟨⟩ rfl
      exact absurd hdig (by decide)
    | negInt n => simp [print, printNumber]
  | arr xs => cases xs <;> simp [print]
  | obj ms => cases ms <;> simp [print]
  | _ => simp [print, printStr]

/-- The round trip for one tree, in front of any text that may follow it. -/
def RoundTrips (r : RawJson) : Prop := ∀ (fuel : Nat) (rest : List Char),
  (print r).length ≤ fuel → Follows r rest → parseValue fuel (print r ++ rest) = some (r, rest)

theorem follows_cons {r : RawJson} {c : Char} {rest : List Char} (h : c.isDigit = false) :
    Follows r (c :: rest) := fun _ => noDigitHead_cons h

theorem printTail_head (xs : List RawJson) :
    ∃ c t, printTail xs = c :: t ∧ c.isDigit = false := by
  cases xs with
  | nil => exact ⟨_, _, rfl, by decide⟩
  | cons x xs => exact ⟨',', print x ++ printTail xs, by simp [printTail], by decide⟩

theorem printMemberTail_head (ms : List (String × RawJson)) :
    ∃ c t, printMemberTail ms = c :: t ∧ c.isDigit = false := by
  cases ms with
  | nil => exact ⟨_, _, rfl, by decide⟩
  | cons m ms =>
    exact ⟨',', printStr m.1 ++ ':' :: print m.2 ++ printMemberTail ms, by simp [printMemberTail],
      by decide⟩

theorem follows_printTail (r : RawJson) (xs : List RawJson) (rest : List Char) :
    Follows r (printTail xs ++ rest) := by
  obtain ⟨c, t, h, hc⟩ := printTail_head xs
  rw [h, List.cons_append]
  exact follows_cons hc

theorem follows_printMemberTail (r : RawJson) (ms : List (String × RawJson)) (rest : List Char) :
    Follows r (printMemberTail ms ++ rest) := by
  obtain ⟨c, t, h, hc⟩ := printMemberTail_head ms
  rw [h, List.cons_append]
  exact follows_cons hc

theorem parseTail_print : ∀ xs : List RawJson, (∀ x ∈ xs, RoundTrips x) →
    ∀ (fuel : Nat) (rest : List Char), (printTail xs).length ≤ fuel →
      parseTail fuel (printTail xs ++ rest) = some (xs, rest) := by
  intro xs
  induction xs with
  | nil =>
    intro _ fuel rest hf
    cases fuel with
    | zero => simp [printTail] at hf
    | succ fuel => rfl
  | cons x xs ih =>
    intro h fuel rest hf
    cases fuel with
    | zero => simp [printTail] at hf
    | succ fuel =>
      simp only [printTail, List.cons_append, List.length_cons, List.length_append] at hf
      have hx := h x (by simp) fuel (printTail xs ++ rest) (by omega) (follows_printTail x xs rest)
      have hxs := ih (fun y hy => h y (List.mem_cons_of_mem _ hy)) fuel rest (by omega)
      simp only [printTail, List.cons_append, List.append_assoc, parseTail, hx, hxs,
        Option.bind_eq_bind, Option.bind_some]

theorem parseMember_print {k : String} {v : RawJson} (hv : RoundTrips v) {fuel : Nat}
    {rest : List Char} (hf : (print v).length < fuel) (hr : Follows v rest) :
    parseMember fuel (printStr k ++ ':' :: (print v ++ rest)) = some ((k, v), rest) := by
  cases fuel with
  | zero => omega
  | succ fuel =>
    simp only [parseMember, parseStr_print, hv fuel rest (by omega) hr, Option.bind_eq_bind,
      Option.bind_some]

theorem parseMemberTail_print : ∀ ms : List (String × RawJson), (∀ e ∈ ms, RoundTrips e.2) →
    ∀ (fuel : Nat) (rest : List Char), (printMemberTail ms).length ≤ fuel →
      parseMemberTail fuel (printMemberTail ms ++ rest) = some (ms, rest) := by
  intro ms
  induction ms with
  | nil =>
    intro _ fuel rest hf
    cases fuel with
    | zero => simp [printMemberTail] at hf
    | succ fuel => rfl
  | cons e ms ih =>
    obtain ⟨k, v⟩ := e
    intro h fuel rest hf
    cases fuel with
    | zero => simp [printMemberTail] at hf
    | succ fuel =>
      simp only [printMemberTail, List.cons_append, List.length_cons, List.length_append] at hf
      have hlt : (print v).length < fuel := by omega
      have hv := parseMember_print (k := k) (h (k, v) (by simp)) hlt
        (follows_printMemberTail v ms rest)
      have hms := ih (fun y hy => h y (List.mem_cons_of_mem _ hy)) fuel rest (by omega)
      simp only [printMemberTail, List.cons_append, List.append_assoc, parseMemberTail, hv, hms,
        Option.bind_eq_bind, Option.bind_some]

/-- A digit or a minus sign starts a number and nothing else. -/
theorem parseValue_number {c : Char} (hc : c = '-' ∨ c.isDigit = true) (fuel : Nat)
    (r : List Char) : parseValue (fuel + 1) (c :: r)
      = (parseNumber (c :: r)).bind fun p => some (.num p.1, p.2) := by
  have hne : ∀ d : Char, d ≠ '-' → d.isDigit = false → c ≠ d := by
    rintro d hd hdig rfl
    rcases hc with hc | hc
    · exact hd hc
    · rw [hdig] at hc; cases hc
  rw [parseValue, if_pos hc]
  · rfl
  all_goals first
    | exact hne _ (by decide) (by decide)
    | (rintro t rfl; exact fun _ => hne _ (by decide) (by decide) rfl)

/-- **Parsing takes off exactly what printing put there.** -/
theorem parseValue_print : ∀ r : RawJson, RoundTrips r := by
  intro r
  induction r using RawJson.ind with
  | null =>
    intro fuel rest hf _
    cases fuel with
    | zero => simp [print] at hf
    | succ fuel => rfl
  | bool b =>
    intro fuel rest hf _
    cases fuel with
    | zero => cases b <;> simp [print] at hf
    | succ fuel => cases b <;> rfl
  | num n =>
    intro fuel rest hf hr
    cases fuel with
    | zero => exact absurd (List.length_eq_zero_iff.mp (Nat.le_zero.mp hf)) (print_ne_nil _)
    | succ fuel =>
      have hp := parseNumber_print (hr ⟨n, rfl⟩) n
      cases n with
      | posInt n =>
        obtain ⟨d, ds, hd, hdig, -⟩ := toDigits_eq_cons n
        rw [print]
        rw [printNumber, hd, List.cons_append] at hp ⊢
        rw [parseValue_number (Or.inr hdig), hp]
        rfl
      | negInt n =>
        rw [print]
        rw [printNumber, List.cons_append] at hp ⊢
        rw [parseValue_number (Or.inl rfl), hp]
        rfl
  | str s =>
    intro fuel rest hf _
    cases fuel with
    | zero => simp [print, printStr] at hf
    | succ fuel =>
      have hp := parseStr_print s rest
      rw [print]
      rw [printStr, List.cons_append, List.cons_append] at hp ⊢
      simp only [parseValue, hp, Option.bind_eq_bind, Option.bind_some]
  | arr xs ih =>
    intro fuel rest hf _
    cases fuel with
    | zero => exact absurd (List.length_eq_zero_iff.mp (Nat.le_zero.mp hf)) (print_ne_nil _)
    | succ fuel =>
      cases xs with
      | nil => rfl
      | cons x xs =>
        simp only [print, List.cons_append, List.length_cons, List.length_append] at hf
        have hx := ih x (by simp) fuel (printTail xs ++ rest) (by omega)
          (follows_printTail x xs rest)
        have hxs := parseTail_print xs (fun y hy => ih y (List.mem_cons_of_mem _ hy)) fuel rest
          (by omega)
        rw [print, List.cons_append, List.cons_append, List.append_assoc, parseValue]
        · simp only [hx, hxs, Option.bind_eq_bind, Option.bind_some]
        · intro t ht
          have hhead := print_head x
          cases hp : print x with
          | nil => exact print_ne_nil x hp
          | cons c t' =>
            rw [hp, List.cons_append] at ht
            exact hhead c (by rw [hp]; rfl) (List.cons.inj ht).1
  | obj ms ih =>
    intro fuel rest hf _
    cases fuel with
    | zero => exact absurd (List.length_eq_zero_iff.mp (Nat.le_zero.mp hf)) (print_ne_nil _)
    | succ fuel =>
      cases ms with
      | nil => rfl
      | cons e ms =>
        obtain ⟨k, v⟩ := e
        simp only [print, List.cons_append, List.length_cons, List.length_append] at hf
        have hlt : (print v).length < fuel := by omega
        have hv := parseMember_print (k := k) (ih (k, v) (by simp)) hlt
          (follows_printMemberTail v ms rest)
        have hms := parseMemberTail_print ms (fun y hy => ih y (List.mem_cons_of_mem _ hy)) fuel
          rest (by omega)
        have htext : print (.obj ((k, v) :: ms)) ++ rest
            = '\x7b' :: (printStr k ++ ':' :: (print v ++ (printMemberTail ms ++ rest))) := by
          simp [print]
        rw [htext, parseValue]
        · simp only [hv, hms, Option.bind_eq_bind, Option.bind_some]
        · intro t ht
          rw [printStr, List.cons_append, List.cons_append] at ht
          cases ht

theorem parseValue_print_end (r : RawJson) {fuel : Nat} (h : (print r).length ≤ fuel) :
    parseValue fuel (print r) = some (r, []) := by
  have := parseValue_print r fuel [] h fun _ c hc => by cases hc
  rwa [List.append_nil] at this

/-- **Different trees have different texts.** -/
theorem print_injective : Function.Injective print := by
  intro a b h
  have ha := parseValue_print_end a (le_refl _)
  have hb := parseValue_print_end b (h ▸ le_refl _ : (print b).length ≤ (print a).length)
  rw [← h, ha] at hb
  cases hb
  rfl

theorem print_obj_head (ms : List (String × RawJson)) :
    (print (.obj ms)).head? = some '\x7b' := by
  cases ms <;> simp [print]

theorem le_toNat_digitChar {d : Nat} (h : d < 16) : 32 ≤ (Nat.digitChar d).toNat := by
  have : ∀ d < 16, 32 ≤ (Nat.digitChar d).toNat := by decide
  exact this d h

theorem le_toNat_escapeChar (c : Char) : ∀ d ∈ escapeChar c, 32 ≤ d.toNat := by
  rw [escapeChar]
  split_ifs with h₁ h₂ h₃ h₄ h₅ h₆ h₇ h₈
  case pos => exact forall_mem_of_all (by decide)
  case pos => exact forall_mem_of_all (by decide)
  case pos => exact forall_mem_of_all (by decide)
  case pos => exact forall_mem_of_all (by decide)
  case pos => exact forall_mem_of_all (by decide)
  case pos => exact forall_mem_of_all (by decide)
  case pos => exact forall_mem_of_all (by decide)
  case pos =>
    have hhi := le_toNat_digitChar (d := c.toNat / 16) (by omega)
    have hlo := le_toNat_digitChar (d := c.toNat % 16) (by omega)
    simp only [List.mem_cons, List.not_mem_nil, or_false]
    rintro d (rfl | rfl | rfl | rfl | rfl | rfl)
    all_goals first
      | assumption
      | decide
  case neg =>
    intro d hd
    rw [List.mem_singleton.mp hd]
    omega

theorem le_toNat_toDigits (n : Nat) : ∀ c ∈ Nat.toDigits 10 n, 32 ≤ c.toNat := by
  intro c hc
  have hd : c.isDigit = true := Nat.isDigit_of_mem_toDigits (by decide) (by decide) hc
  have h48 : 48 ≤ c.toNat := by
    rw [Char.isDigit, Bool.and_eq_true, decide_eq_true_iff] at hd
    exact hd.1
  omega

theorem le_toNat_printStr (s : String) : ∀ c ∈ printStr s, 32 ≤ c.toNat := by
  intro c hc
  simp only [printStr, List.cons_append, List.mem_cons, List.mem_append, List.mem_flatMap,
    List.not_mem_nil, or_false] at hc
  rcases hc with rfl | ⟨d, _, hd⟩ | rfl
  · decide
  · exact le_toNat_escapeChar d c hd
  · decide

theorem le_toNat_printTail : ∀ xs : List RawJson, (∀ x ∈ xs, ∀ c ∈ print x, 32 ≤ c.toNat) →
    ∀ c ∈ printTail xs, 32 ≤ c.toNat := by
  intro xs
  induction xs with
  | nil => intro _; exact forall_mem_of_all (by simp only [printTail]; decide)
  | cons x xs ih =>
    intro h c hc
    simp only [printTail, List.cons_append, List.mem_cons, List.mem_append] at hc
    rcases hc with rfl | hc | hc
    · decide
    · exact h x (by simp) c hc
    · exact ih (fun y hy => h y (List.mem_cons_of_mem _ hy)) c hc

theorem le_toNat_printMemberTail : ∀ ms : List (String × RawJson),
    (∀ e ∈ ms, ∀ c ∈ print e.2, 32 ≤ c.toNat) → ∀ c ∈ printMemberTail ms, 32 ≤ c.toNat := by
  intro ms
  induction ms with
  | nil => intro _; exact forall_mem_of_all (by simp only [printMemberTail]; decide)
  | cons e ms ih =>
    obtain ⟨k, v⟩ := e
    intro h c hc
    simp only [printMemberTail, List.cons_append, List.mem_cons, List.mem_append,
      List.append_assoc] at hc
    rcases hc with rfl | hc | rfl | hc | hc
    · decide
    · exact le_toNat_printStr k c hc
    · decide
    · exact h (k, v) (by simp) c hc
    · exact ih (fun y hy => h y (List.mem_cons_of_mem _ hy)) c hc

/-- **A printed text holds no control character**, so it is one line. -/
theorem le_toNat_print (r : RawJson) : ∀ c ∈ print r, 32 ≤ c.toNat := by
  induction r using RawJson.ind with
  | null => exact forall_mem_of_all (by simp only [print]; decide)
  | bool b => cases b <;> exact forall_mem_of_all (by simp only [print]; decide)
  | num n =>
    cases n with
    | posInt n => exact le_toNat_toDigits n
    | negInt n =>
      intro c hc
      rcases List.mem_cons.mp hc with rfl | hc
      · decide
      · exact le_toNat_toDigits (n + 1) c hc
  | str s => exact le_toNat_printStr s
  | arr xs ih =>
    cases xs with
    | nil => exact forall_mem_of_all (by simp only [print]; decide)
    | cons x xs =>
      intro c hc
      simp only [print, List.cons_append, List.mem_cons, List.mem_append] at hc
      rcases hc with rfl | hc | hc
      · decide
      · exact ih x (by simp) c hc
      · exact le_toNat_printTail xs (fun y hy => ih y (List.mem_cons_of_mem _ hy)) c hc
  | obj ms ih =>
    cases ms with
    | nil => exact forall_mem_of_all (by simp only [print]; decide)
    | cons e ms =>
      obtain ⟨k, v⟩ := e
      intro c hc
      simp only [print, List.cons_append, List.mem_cons, List.mem_append, List.append_assoc] at hc
      rcases hc with rfl | hc | rfl | hc | hc
      · decide
      · exact le_toNat_printStr k c hc
      · decide
      · exact ih (k, v) (by simp) c hc
      · exact le_toNat_printMemberTail ms (fun y hy => ih y (List.mem_cons_of_mem _ hy)) c hc

/-- The last character of an object's text is its closing brace. -/
theorem print_obj_getLast (ms : List (String × RawJson)) :
    (print (.obj ms)).getLast? = some '\x7d' := by
  have htail : ∀ ms : List (String × RawJson), (printMemberTail ms).getLast? = some '\x7d' := by
    intro ms
    induction ms with
    | nil => rfl
    | cons e ms ih =>
      obtain ⟨k, v⟩ := e
      rw [printMemberTail, List.getLast?_append, ih]
      rfl
  cases ms with
  | nil => rfl
  | cons e ms =>
    obtain ⟨k, v⟩ := e
    rw [print, List.getLast?_append, htail]
    rfl

end RawJson

/-! ### Readers -/

/-- How many arrays and objects a reader follows into each other: `serde_json`
counts 128 levels down and refuses the one that reaches zero. -/
def recursionLimit : Nat := 127

/-- A reader of JSON texts: it inverts `print` up to the nesting limit, refuses
deeper texts, and refuses a text that stops inside an object or goes on after
one. -/
structure JsonReader where
  fromStr : List Char → Option RawJson
  fromStr_print : ∀ r : RawJson, r.depth ≤ recursionLimit → fromStr r.print = some r
  fromStr_deep : ∀ r : RawJson, recursionLimit < r.depth → fromStr r.print = none
  fromStr_truncated : ∀ (ms : List (String × RawJson)) (p : List Char),
    p <+: (RawJson.obj ms).print → p ≠ (RawJson.obj ms).print → fromStr p = none
  fromStr_trailing : ∀ ms ns : List (String × RawJson),
    fromStr ((RawJson.obj ms).print ++ (RawJson.obj ns).print) = none

namespace RawJson

end RawJson

end FeatureForge
