import Mathlib.Data.List.TakeWhile
import Mathlib.Data.String.Basic

/-!
# Lines, trimming and searching

`str::trim`, `str::lines` and the other text functions the parsers use, on lists of
characters.  `trimChars` drops Unicode white space from both ends; `lines` cuts
after each line feed, drops one carriage return before it, and yields no empty last
line.

The two facts the readers of line files need: a text without white space at its
ends is its own trimming (`trimChars_of_ends`), and a line put in front of a
text is the first of its lines (`lines_append`).
-/

namespace FeatureForge

/-- Unicode `White_Space`. -/
def isWhitespace (c : Char) : Bool :=
  let n := c.toNat
  (9 ≤ n && n ≤ 13) || n == 0x20 || n == 0x85 || n == 0xA0 || n == 0x1680 ||
    (0x2000 ≤ n && n ≤ 0x200A) || n == 0x2028 || n == 0x2029 || n == 0x202F || n == 0x205F ||
    n == 0x3000

def trimChars (cs : List Char) : List Char :=
  ((cs.dropWhile isWhitespace).reverse.dropWhile isWhitespace).reverse

def trim (s : String) : String := String.ofList (trimChars s.toList)

/-- A text that neither starts nor ends with white space is not trimmed. -/
theorem trimChars_of_ends {cs : List Char} (hhead : ∀ c ∈ cs.head?, isWhitespace c = false)
    (hlast : ∀ c ∈ cs.getLast?, isWhitespace c = false) : trimChars cs = cs := by
  have hdrop : ∀ ds : List Char, (∀ c ∈ ds.head?, isWhitespace c = false) →
      ds.dropWhile isWhitespace = ds := by
    intro ds h
    cases ds with
    | nil => rfl
    | cons d ds => rw [List.dropWhile_cons_of_neg (by simp [h d rfl])]
  rw [trimChars, hdrop cs hhead, hdrop cs.reverse (by rw [List.head?_reverse]; exact hlast),
    List.reverse_reverse]

theorem head_dropWhile_isWhitespace (cs : List Char) :
    ∀ c ∈ (cs.dropWhile isWhitespace).head?, isWhitespace c = false := by
  induction cs with
  | nil => simp
  | cons d ds ih =>
    by_cases hd : isWhitespace d = true
    · rw [List.dropWhile_cons_of_pos hd]; exact ih
    · rw [List.dropWhile_cons_of_neg hd]
      rintro c ⟨⟩
      exact Bool.not_eq_true _ ▸ hd

/-- What is trimmed neither starts nor ends with white space. -/
theorem trimChars_head (cs : List Char) :
    ∀ c ∈ (trimChars cs).head?, isWhitespace c = false := by
  intro c hc
  obtain ⟨p, hp⟩ := List.dropWhile_suffix (p := isWhitespace) (l := (cs.dropWhile isWhitespace).reverse)
  have hpre : trimChars cs ++ p.reverse = cs.dropWhile isWhitespace := by
    rw [trimChars, ← List.reverse_append, hp, List.reverse_reverse]
  refine head_dropWhile_isWhitespace cs c ?_
  rw [← hpre]
  cases ht : trimChars cs with
  | nil => rw [ht] at hc; cases hc
  | cons d ds => rw [ht] at hc; exact hc

theorem trimChars_last (cs : List Char) :
    ∀ c ∈ (trimChars cs).getLast?, isWhitespace c = false := by
  intro c hc
  rw [trimChars, List.getLast?_reverse] at hc
  exact head_dropWhile_isWhitespace _ c hc

/-- **Trimming twice is trimming once.** -/
theorem trimChars_idem (cs : List Char) : trimChars (trimChars cs) = trimChars cs :=
  trimChars_of_ends (trimChars_head cs) (trimChars_last cs)

theorem infix_trimChars (cs : List Char) : trimChars cs <:+: cs := by
  refine List.IsInfix.trans ?_ (List.dropWhile_suffix (p := isWhitespace)).isInfix
  rw [trimChars, ← List.reverse_infix, List.reverse_reverse]
  exact (List.dropWhile_suffix _).isInfix

theorem length_trimChars_le (cs : List Char) : (trimChars cs).length ≤ cs.length :=
  (infix_trimChars cs).length_le

/-- A text that starts with something is trimmed at its end only. -/
theorem trimChars_of_head {c : Char} {cs : List Char} (hc : isWhitespace c = false) :
    trimChars (c :: cs) <+: c :: cs ∧ trimChars (c :: cs) ≠ [] := by
  have hdrop : (c :: cs).dropWhile isWhitespace = c :: cs :=
    List.dropWhile_cons_of_neg (by simp [hc])
  rw [trimChars, hdrop]
  constructor
  · rw [← List.reverse_suffix, List.reverse_reverse]
    exact List.dropWhile_suffix _
  · intro h
    have hnil := List.dropWhile_eq_nil_iff.mp (List.reverse_eq_nil_iff.mp h) c (by simp)
    rw [hc] at hnil
    cases hnil

@[simp] theorem trim_trim (s : String) : trim (trim s) = trim s := by
  rw [trim, trim, String.toList_ofList, trimChars_idem]

/-! ### Lines -/

/-- `str::lines`: a carriage return goes with the line feed behind it, and only then. -/
def lines : List Char → List (List Char)
  | [] => []
  | c :: r =>
    if c = '\n' then [] :: lines r
    else if c = '\r' ∧ r.head? = some '\n' then lines r
    else match lines r with
      | [] => [[c]]
      | l :: ls => (c :: l) :: ls

theorem lines_cons {c : Char} {r : List Char} (hn : c ≠ '\n')
    (hr : ¬(c = '\r' ∧ r.head? = some '\n')) :
    lines (c :: r) = match lines r with
      | [] => [[c]]
      | l :: ls => (c :: l) :: ls := by
  rw [lines, if_neg hn, if_neg hr]

/-- **A line in front of a text is the first of its lines.** -/
theorem lines_append {r : List Char} : ∀ {l : List Char}, '\n' ∉ l → '\r' ∉ l →
    lines (l ++ '\n' :: r) = l :: lines r := by
  intro l
  induction l with
  | nil => intro _ _; rfl
  | cons c l ih =>
    intro hn hr
    rw [List.mem_cons, not_or] at hn hr
    rw [List.cons_append, lines_cons (Ne.symm hn.1) (fun h => hr.1 h.1.symm), ih hn.2 hr.2]

theorem lines_single : ∀ {l : List Char}, '\n' ∉ l → l ≠ [] → lines l = [l] := by
  intro l
  induction l with
  | nil => intro _ h; exact absurd rfl h
  | cons c l ih =>
    intro h _
    rw [List.mem_cons, not_or] at h
    have hr : ¬(c = '\r' ∧ l.head? = some '\n') := by
      rintro ⟨_, hhead⟩
      exact h.2 (List.mem_of_mem_head? hhead)
    rw [lines_cons (Ne.symm h.1) hr]
    cases l with
    | nil => rfl
    | cons d l => rw [ih h.2 (by simp)]

/-! ### Searching and cutting -/

def startsWith (p s : List Char) : Bool := p.isPrefixOf s

/-- `str::split_once`, at the first occurrence. -/
def splitOnce (p : List Char) : List Char → Option (List Char × List Char)
  | [] => if p = [] then some ([], []) else none
  | c :: s =>
    if startsWith p (c :: s) then some ([], (c :: s).drop p.length)
    else (splitOnce p s).map fun (before, after) => (c :: before, after)

/-- `str::contains`. -/
def containsText (p s : List Char) : Bool := (splitOnce p s).isSome

def trimStart (s : List Char) : List Char := s.dropWhile isWhitespace

def trimEnd (s : List Char) : List Char := (s.reverse.dropWhile isWhitespace).reverse

/-- `str::trim_start_matches` with a text, which is dropped as often as it occurs. -/
def trimStartMatches (p : List Char) (s : List Char) : List Char :=
  go s.length s
where
  go : Nat → List Char → List Char
    | 0, s => s
    | fuel + 1, s => if p ≠ [] ∧ startsWith p s then go fuel (s.drop p.length) else s

/-- `str::trim_end_matches` with a character. -/
def trimEndChar (c : Char) (s : List Char) : List Char := (s.reverse.dropWhile (· == c)).reverse

/-- `str::trim_start_matches` with a character. -/
def trimStartChar (c : Char) (s : List Char) : List Char := s.dropWhile (· == c)

/-- `str::trim_matches`, with a character. -/
def trimMatches (c : Char) (s : List Char) : List Char := trimEndChar c (trimStartChar c s)

/-- `str::trim_end_matches`, with a text that reads the same from its end. -/
def trimEndMatches (p s : List Char) : List Char := (trimStartMatches p s.reverse).reverse

/-- `str::trim_end_matches`, with a text. -/
def trimEndText (p s : List Char) : List Char := (trimStartMatches p.reverse s.reverse).reverse

/-- `str::split`, with a text. -/
def splitText (p : List Char) : List Char → List (List Char) :=
  fun s => go s.length s
where
  go : Nat → List Char → List (List Char)
    | 0, s => [s]
    | fuel + 1, s =>
      match splitOnce p s with
      | none => [s]
      | some (part, rest) => part :: go fuel rest

/-- `str::to_ascii_lowercase`. -/
def asciiLowercase (s : List Char) : List Char := s.map Char.toLower

/-- `char::is_ascii_alphanumeric`. -/
def isAsciiAlphanumeric (c : Char) : Bool := c.isAlphanum

/-- `str::split_whitespace`. -/
def splitWhitespace (s : List Char) : List (List Char) :=
  (s.splitOnP isWhitespace).filter fun t => t ≠ []

/-- The lines of a text with line feeds between them. -/
def joinLines (ls : List (List Char)) : List Char := List.intercalate ['\n'] ls

/-! ### Numbers -/

def digitsValue (s : List Char) : Nat :=
  s.foldl (fun n c => 10 * n + (c.toNat - '0'.toNat)) 0

/-- `str::parse` for an unsigned type: digits behind an optional plus sign, within the
bound of the type. -/
def parseUnsigned (bound : Nat) (s : List Char) : Option Nat :=
  let digits := match s with
    | '+' :: r => r
    | r => r
  if digits ≠ [] ∧ digits.all Char.isDigit ∧ digitsValue digits < bound then
    some (digitsValue digits)
  else none

theorem parseUnsigned_of_digits {bound : Nat} {s : List Char} (hne : s ≠ [])
    (hdigit : ∀ c ∈ s, c.isDigit = true) (hlt : digitsValue s < bound) :
    parseUnsigned bound s = some (digitsValue s) := by
  unfold parseUnsigned
  dsimp only
  split
  · next r =>
    have hplus := hdigit '+' List.mem_cons_self
    exact absurd hplus (by decide)
  · exact if_pos ⟨hne, List.all_eq_true.mpr hdigit, hlt⟩

def decimal (n : UInt32) : List Char := Nat.toDigits 10 n.toNat

def parseU32 (s : List Char) : Option UInt32 := (parseUnsigned (2 ^ 32) s).map UInt32.ofNat

theorem decimal_ne_nil (n : UInt32) : decimal n ≠ [] := Nat.toDigits_ne_nil

theorem isDigit_of_mem_decimal {n : UInt32} : ∀ c ∈ decimal n, c.isDigit = true := fun _ hc =>
  Nat.isDigit_of_mem_toDigits (by decide) (by decide) hc

theorem isWhitespace_of_isDigit {c : Char} (h : c.isDigit = true) : isWhitespace c = false := by
  have hval : 48 ≤ c.toNat ∧ c.toNat ≤ 57 := by
    simp only [Char.isDigit, Bool.and_eq_true, decide_eq_true_eq, UInt32.le_iff_toNat_le] at h
    exact h
  unfold isWhitespace
  grind

theorem parseU32_decimal (n : UInt32) : parseU32 (decimal n) = some n := by
  have hvalue : digitsValue (decimal n) = n.toNat := Nat.ofDigitChars_ten_toDigits
  rw [parseU32, parseUnsigned_of_digits (decimal_ne_nil n) isDigit_of_mem_decimal
    (by rw [hvalue]; exact n.toNat_lt), hvalue, Option.map_some, UInt32.ofNat_toNat]

theorem not_mem_decimal {c : Char} (hc : c.isDigit = false) (n : UInt32) : c ∉ decimal n := by
  intro hmem
  rw [isDigit_of_mem_decimal c hmem] at hc
  cases hc

end FeatureForge
