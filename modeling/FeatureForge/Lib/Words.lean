import Mathlib.Algebra.GroupWithZero.Nat
import Mathlib.Algebra.Order.BigOperators.Group.List
import FeatureForge.Lib.Text

/-!
# Cutting and spacing

Three families of facts about the text functions.  What is cut off at the front: a text is
cut at the prefix it was put together with, and at no prefix that clashes with it
(`stripPrefix_append`, `stripPrefix_of_clash`).  What is split once: `splitOnce_append_iff`
tells exactly when a text is split where it was put together.  What is spaced: the texts
that `List.intercalate [' '] (splitWhitespace v)` leaves as they are are the empty one and
the ones of words with single blanks between them (`spaced`, `respace_eq_self`).
-/

namespace FeatureForge

/-! ### Prefixes -/

/-- `str::strip_prefix`. -/
def stripPrefix : List Char → List Char → Option (List Char)
  | [], s => some s
  | _ :: _, [] => none
  | c :: p, d :: s => if c = d then stripPrefix p s else none

/-- Two texts that differ at a place both have. -/
def clashes : List Char → List Char → Bool
  | c :: p, d :: q => c ≠ d || clashes p q
  | _, _ => false

theorem stripPrefix_append : ∀ p v : List Char, stripPrefix p (p ++ v) = some v := by
  intro p
  induction p with
  | nil => intro v; rfl
  | cons c p ih =>
    intro v
    rw [List.cons_append, stripPrefix, if_pos rfl, ih]

theorem stripPrefix_self (p : List Char) : stripPrefix p p = some [] := by
  have := stripPrefix_append p []
  rwa [List.append_nil] at this

theorem eq_of_stripPrefix : ∀ {p s v : List Char}, stripPrefix p s = some v → s = p ++ v := by
  intro p
  induction p with
  | nil =>
    intro s v h
    exact Option.some.inj h
  | cons c p ih =>
    intro s v h
    cases s with
    | nil => cases h
    | cons d s =>
      rw [stripPrefix] at h
      split_ifs at h with hcd
      rw [hcd, ih h, List.cons_append]

theorem stripPrefix_of_clash : ∀ {p q : List Char}, clashes p q = true →
    ∀ v, stripPrefix p (q ++ v) = none := by
  intro p
  induction p with
  | nil => intro q h; cases h
  | cons c p ih =>
    intro q h v
    cases q with
    | nil => cases h
    | cons d q =>
      rw [List.cons_append, stripPrefix]
      split_ifs with hcd
      · rw [clashes, hcd, Bool.or_eq_true] at h
        rcases h with h | h
        · exact absurd rfl (of_decide_eq_true h)
        · exact ih h v
      · rfl

theorem startsWith_iff {p s : List Char} : startsWith p s = true ↔ p <+: s := by
  rw [startsWith, List.isPrefixOf_iff_prefix]

theorem startsWith_of_clash {p q : List Char} (h : clashes p q = true) (v : List Char) :
    startsWith p (q ++ v) = false := by
  rw [← Bool.not_eq_true, startsWith_iff]
  rintro ⟨w, hw⟩
  have := stripPrefix_of_clash h v
  rw [← hw, stripPrefix_append] at this
  cases this

/-- A prefix within a text does not depend on what follows it. -/
theorem startsWith_append {p s : List Char} (h : p.length ≤ s.length) (t : List Char) :
    startsWith p (s ++ t) = startsWith p s := by
  rw [Bool.eq_iff_iff, startsWith_iff, startsWith_iff]
  constructor
  · exact fun hp => List.prefix_of_prefix_length_le hp (List.prefix_append s t) h
  · exact fun hp => hp.trans (List.prefix_append s t)

/-! ### Splitting once -/

theorem splitOnce_cons {p : List Char} (c : Char) (s : List Char) : splitOnce p (c :: s) =
    if startsWith p (c :: s) then some ([], (c :: s).drop p.length)
    else (splitOnce p s).map fun cut => (c :: cut.1, cut.2) := rfl

theorem containsText_cons {p : List Char} (c : Char) (s : List Char) :
    containsText p (c :: s) = (startsWith p (c :: s) || containsText p s) := by
  rw [containsText, splitOnce_cons]
  split_ifs with h
  · rw [h]
    rfl
  · rw [Option.isSome_map, Bool.eq_false_iff.mpr h, Bool.false_or]
    rfl

theorem length_of_containsText {p : List Char} : ∀ {s : List Char},
    containsText p s = true → p.length ≤ s.length := by
  intro s
  induction s with
  | nil =>
    intro h
    rw [containsText, splitOnce] at h
    split_ifs at h with hp
    · rw [hp]
    · cases h
  | cons c s ih =>
    intro h
    rw [containsText_cons, Bool.or_eq_true] at h
    rcases h with h | h
    · exact (startsWith_iff.mp h).length_le
    · exact (ih h).trans (Nat.le_succ _)

/-- **A text is split where it was put together** exactly where the separator is not met
before. -/
theorem splitOnce_append_iff {p b : List Char} (hp : p ≠ []) : ∀ {a : List Char},
    splitOnce p (a ++ (p ++ b)) = some (a, b) ↔ containsText p (a ++ p.dropLast) = false := by
  intro a
  have hlength : p.dropLast.length < p.length := by
    rw [List.length_dropLast]
    have := List.length_pos_iff.mpr hp
    omega
  induction a with
  | nil =>
    refine iff_of_true ?_ ?_
    · obtain ⟨c, q, rfl⟩ := List.exists_cons_of_ne_nil hp
      rw [List.nil_append, List.cons_append, splitOnce_cons, if_pos]
      · rw [← List.cons_append, List.drop_left]
      · rw [startsWith_iff, ← List.cons_append]
        exact List.prefix_append _ _
    · rw [List.nil_append, ← Bool.not_eq_true]
      intro h
      have := length_of_containsText h
      omega
  | cons c a ih =>
    have hstart : startsWith p (c :: (a ++ (p ++ b))) = startsWith p (c :: (a ++ p.dropLast)) := by
      have hle : p.length ≤ (c :: (a ++ p.dropLast)).length := by
        rw [List.length_cons, List.length_append, List.length_dropLast]
        omega
      have hsplit : c :: (a ++ (p ++ b)) = c :: (a ++ p.dropLast) ++ (p.getLast hp :: b) := by
        have := List.dropLast_append_getLast hp
        rw [List.cons_append, List.append_assoc]
        nth_rewrite 1 [← this]
        rw [List.append_assoc, List.singleton_append]
      rw [hsplit, startsWith_append hle]
    rw [List.cons_append, List.cons_append, splitOnce_cons, containsText_cons, hstart]
    cases startsWith p (c :: (a ++ p.dropLast)) with
    | true => simp
    | false =>
      rw [if_neg Bool.false_ne_true, Bool.false_or]
      refine Iff.trans ?_ ih
      cases splitOnce p (a ++ (p ++ b)) with
      | none => simp
      | some cut => simp [Prod.ext_iff]

theorem eq_of_splitOnce {p : List Char} : ∀ {s a b : List Char}, splitOnce p s = some (a, b) →
    s = a ++ (p ++ b) := by
  intro s
  induction s with
  | nil =>
    intro a b h
    rw [splitOnce] at h
    split_ifs at h with hp
    cases h
    rw [hp]
    rfl
  | cons c s ih =>
    intro a b h
    rw [splitOnce_cons] at h
    split_ifs at h with hp
    · cases h
      obtain ⟨t, ht⟩ := startsWith_iff.mp hp
      rw [← ht, List.drop_left, List.nil_append]
    · obtain ⟨⟨a', b'⟩, hcut, heq⟩ := Option.map_eq_some_iff.mp h
      cases heq
      rw [ih hcut, List.cons_append]

/-- Split where a character is first met that the text before has not. -/
theorem splitOnce_of_not_mem {c : Char} {p a b : List Char} (h : c ∉ a) :
    splitOnce (c :: p) (a ++ (c :: p ++ b)) = some (a, b) := by
  induction a with
  | nil =>
    rw [List.nil_append, List.cons_append, splitOnce_cons, if_pos]
    · rw [← List.cons_append, List.drop_left]
    · rw [startsWith_iff, ← List.cons_append]
      exact List.prefix_append _ _
  | cons d a ih =>
    rw [List.mem_cons, not_or] at h
    rw [List.cons_append, splitOnce_cons, if_neg, ih h.2]
    · rfl
    · rw [startsWith_iff]
      rintro ⟨t, ht⟩
      exact h.1 (List.cons.inj ht).1

/-- A text without a line feed stands in one line. -/
theorem containsText_line {p r : List Char} (hp : '\n' ∉ p) (hne : p ≠ []) :
    ∀ {l : List Char}, '\n' ∉ l →
      containsText p (l ++ '\n' :: r) = (containsText p l || containsText p r) := by
  obtain ⟨d, q, rfl⟩ := List.exists_cons_of_ne_nil hne
  intro l
  induction l with
  | nil =>
    intro _
    have hstart : startsWith (d :: q) ('\n' :: r) = false := by
      rw [← Bool.not_eq_true, startsWith_iff]
      rintro ⟨t, ht⟩
      exact hp (by rw [(List.cons.inj ht).1]; exact List.mem_cons_self)
    rw [List.nil_append, containsText_cons, hstart, Bool.false_or]
    rfl
  | cons c l ih =>
    intro hl
    have hstart : startsWith (d :: q) (c :: (l ++ '\n' :: r)) = startsWith (d :: q) (c :: l) := by
      rw [← List.cons_append, Bool.eq_iff_iff, startsWith_iff, startsWith_iff]
      constructor
      · intro h
        refine List.prefix_of_prefix_length_le h (List.prefix_append _ _) ?_
        by_contra hlong
        -- a longer prefix would have the line feed
        have hline : c :: l ++ ['\n'] <+: c :: l ++ '\n' :: r := by
          have hjoin : c :: l ++ '\n' :: r = c :: l ++ ['\n'] ++ r := by simp
          rw [hjoin]
          exact List.prefix_append _ _
        have hstart : c :: l ++ ['\n'] <+: d :: q := by
          refine List.prefix_of_prefix_length_le hline h ?_
          rw [List.length_append, List.length_singleton]
          omega
        exact hp (hstart.subset (by simp))
      · exact fun h => h.trans (List.prefix_append _ _)
    rw [List.mem_cons, not_or] at hl
    rw [List.cons_append, containsText_cons, containsText_cons, hstart, ih hl.2, Bool.or_assoc]

/-! ### Words -/

/-- Words with single blanks between them; the flag tells that no blank may come next. -/
def spaced : Bool → List Char → Bool
  | blank, [] => !blank
  | blank, c :: s =>
    if isWhitespace c then c = ' ' && !blank && spaced true s else spaced false s

theorem spaced_append : ∀ {v t : List Char} {blank : Bool}, spaced blank v = true →
    spaced blank (v ++ t) = spaced false t := by
  intro v
  induction v with
  | nil =>
    intro t blank h
    have : blank = false := by simpa [spaced] using h
    rw [this, List.nil_append]
  | cons c v ih =>
    intro t blank h
    rw [List.cons_append, spaced]
    rw [spaced] at h
    split_ifs at h ⊢ with hc
    · rw [Bool.and_eq_true] at h
      rw [h.1, Bool.true_and, ih h.2]
    · exact ih h

/-- What follows a word may also follow a blank. -/
theorem spaced_false_of_true {v : List Char} (h : spaced true v = true) :
    spaced false v = true := by
  cases v with
  | nil => cases h
  | cons c v =>
    rw [spaced] at h ⊢
    split_ifs at h ⊢ with hc
    · simp at h
    · exact h

theorem spaced_word : ∀ {word : List Char} (blank : Bool), word ≠ [] →
    (∀ c ∈ word, isWhitespace c = false) → spaced blank word = true := by
  intro word
  induction word with
  | nil => intro _ h; exact absurd rfl h
  | cons c word ih =>
    intro blank _ hword
    rw [spaced, hword c List.mem_cons_self, if_neg Bool.false_ne_true]
    cases word with
    | nil => rfl
    | cons d word => exact ih false (by simp) fun c hc => hword c (List.mem_cons_of_mem _ hc)

/-- White space in a spaced text is blanks. -/
theorem eq_blank_of_spaced : ∀ {v : List Char} {blank : Bool}, spaced blank v = true →
    ∀ c ∈ v, isWhitespace c = true → c = ' ' := by
  intro v
  induction v with
  | nil => intro _ _ c hc; exact absurd hc List.not_mem_nil
  | cons d v ih =>
    intro blank h c hc hblank
    rw [spaced] at h
    rcases List.mem_cons.mp hc with rfl | hc
    · rw [if_pos hblank] at h
      simp only [Bool.and_eq_true, decide_eq_true_eq] at h
      exact h.1.1
    · split_ifs at h
      · exact ih (Bool.and_eq_true _ _ ▸ h).2 c hc hblank
      · exact ih h c hc hblank

theorem not_mem_of_spaced {v : List Char} {blank : Bool} (h : spaced blank v = true) {c : Char}
    (hc : isWhitespace c = true) (hne : c ≠ ' ') : c ∉ v :=
  fun hmem => hne (eq_blank_of_spaced h c hmem hc)

/-- The words of a text with single blanks between them. -/
def respace (v : List Char) : List Char := List.intercalate [' '] (splitWhitespace v)

theorem intercalate_cons_cons (c : Char) (part part' : List Char) (parts : List (List Char)) :
    List.intercalate [c] (part :: part' :: parts) =
      part ++ c :: List.intercalate [c] (part' :: parts) := by
  simp [List.intercalate, List.intersperse]

theorem spaced_intercalate {words : List (List Char)} (hne : words ≠ [])
    (hwords : ∀ word ∈ words, word ≠ [] ∧ ∀ c ∈ word, isWhitespace c = false) :
    ∀ blank, spaced blank (List.intercalate [' '] words) = true := by
  induction words with
  | nil => exact absurd rfl hne
  | cons word words ih =>
    intro blank
    have hword := hwords word List.mem_cons_self
    have hspaced := spaced_word blank hword.1 hword.2
    cases words with
    | nil => simpa [List.intercalate] using hspaced
    | cons word' words =>
      rw [intercalate_cons_cons, spaced_append hspaced]
      have hrest := ih (by simp) (fun w hw => hwords w (List.mem_cons_of_mem _ hw)) true
      simpa [spaced, isWhitespace] using hrest

theorem not_of_mem_splitOnP {q : Char → Bool} {s : List Char} : ∀ part ∈ s.splitOnP q,
    ∀ c ∈ part, q c = false := by
  induction s with
  | nil => simp
  | cons d s ih =>
    rw [List.splitOnP_cons_eq_if_modifyHead]
    split_ifs with hd
    · intro part hpart
      rcases List.mem_cons.mp hpart with rfl | hpart
      · exact fun c hc => absurd hc List.not_mem_nil
      · exact ih part hpart
    · obtain ⟨head, rest, hsplit⟩ := List.exists_cons_of_ne_nil (List.splitOnP_ne_nil q s)
      rw [hsplit] at ih ⊢
      intro part hpart c hc
      rcases List.mem_cons.mp hpart with rfl | hpart
      · rcases List.mem_cons.mp hc with rfl | hc
        · exact Bool.eq_false_iff.mpr hd
        · exact ih head List.mem_cons_self c hc
      · exact ih part (List.mem_cons_of_mem _ hpart) c hc

/-- **A text of words comes out spaced.** -/
theorem spaced_respace (v : List Char) (h : respace v ≠ []) : spaced true (respace v) = true := by
  refine spaced_intercalate ?_ ?_ true
  · intro hnil
    exact h (by rw [respace, hnil]; rfl)
  · intro word hword
    obtain ⟨hmem, hne⟩ := List.mem_filter.mp hword
    exact ⟨of_decide_eq_true hne, not_of_mem_splitOnP word hmem⟩

/-- The parts of a spaced text at its blanks are words, but for an empty first one behind a
word. -/
theorem splitOnP_of_spaced : ∀ {v : List Char} {blank : Bool}, spaced blank v = true →
    ∃ word words, v.splitOnP isWhitespace = word :: words ∧ (blank = true → word ≠ []) ∧
      (∀ w ∈ words, w ≠ []) ∧ List.intercalate [' '] (word :: words) = v := by
  intro v
  induction v with
  | nil =>
    intro blank h
    refine ⟨[], [], rfl, ?_, by simp, rfl⟩
    rintro rfl
    cases h
  | cons c v ih =>
    intro blank h
    rw [spaced] at h
    rw [List.splitOnP_cons_eq_if_modifyHead]
    split_ifs at h with hc
    · simp only [Bool.and_eq_true, decide_eq_true_eq, Bool.not_eq_true'] at h
      obtain ⟨word, words, hsplit, hword, hwords, hjoin⟩ := ih h.2
      rw [if_pos hc, hsplit]
      refine ⟨[], word :: words, rfl, by simp [h.1.2], ?_, ?_⟩
      · intro w hw
        rcases List.mem_cons.mp hw with rfl | hw
        · exact hword rfl
        · exact hwords w hw
      · rw [h.1.1, ← hjoin]
        simp [List.intercalate, List.intersperse]
    · obtain ⟨word, words, hsplit, _, hwords, hjoin⟩ := ih h
      rw [if_neg hc, hsplit]
      refine ⟨c :: word, words, rfl, by simp, hwords, ?_⟩
      rw [← hjoin]
      cases words <;> simp [List.intercalate, List.intersperse]

/-- **The texts that stay as they are.** -/
theorem respace_eq_self {v : List Char} : respace v = v ↔ v = [] ∨ spaced true v = true := by
  constructor
  · intro h
    by_cases hv : v = []
    · exact Or.inl hv
    · right
      rw [← h]
      exact spaced_respace v (h.symm ▸ hv)
  · rintro (rfl | h)
    · rfl
    · obtain ⟨word, words, hsplit, hword, hwords, hjoin⟩ := splitOnP_of_spaced h
      have hfilter : splitWhitespace v = word :: words := by
        rw [splitWhitespace, hsplit, List.filter_eq_self]
        intro w hw
        rcases List.mem_cons.mp hw with rfl | hw
        · exact decide_eq_true (hword rfl)
        · exact decide_eq_true (hwords w hw)
      rw [respace, hfilter, hjoin]

/-! ### Trimming -/

theorem head_of_spaced {v : List Char} (h : spaced true v = true) :
    ∀ c ∈ v.head?, isWhitespace c = false := by
  cases v with
  | nil => simp
  | cons c v =>
    rintro d ⟨⟩
    rw [spaced] at h
    split_ifs at h with hc
    · simp at h
    · exact Bool.eq_false_iff.mpr hc

theorem last_of_spaced : ∀ {v : List Char} {blank : Bool}, spaced blank v = true →
    ∀ c ∈ v.getLast?, isWhitespace c = false := by
  intro v
  induction v with
  | nil => simp
  | cons d v ih =>
    intro blank h c hc
    rw [spaced] at h
    cases v with
    | nil =>
      cases hc
      split_ifs at h with hd
      · simp [spaced] at h
      · exact Bool.eq_false_iff.mpr hd
    | cons e v =>
      rw [List.getLast?_cons_cons] at hc
      split_ifs at h
      · exact ih (Bool.and_eq_true _ _ ▸ h).2 c hc
      · exact ih h c hc

theorem trimChars_of_spaced {v : List Char} (h : spaced true v = true) : trimChars v = v :=
  trimChars_of_ends (head_of_spaced h) (last_of_spaced h)

/-- A part of a spaced text is spaced where it has no white space at its ends. -/
theorem spaced_of_infix {v w : List Char} (hw : spaced true w = true) (hpart : v <:+: w)
    (hne : v ≠ []) (hhead : ∀ c ∈ v.head?, isWhitespace c = false)
    (hlast : ∀ c ∈ v.getLast?, isWhitespace c = false) : spaced true v = true := by
  obtain ⟨x, y, rfl⟩ := hpart
  have hsuffix : ∀ (x v : List Char) (blank : Bool), spaced blank (x ++ v) = true →
      ∃ blank', spaced blank' v = true := by
    intro x
    induction x with
    | nil => exact fun v blank h => ⟨blank, h⟩
    | cons c x ih =>
      intro v blank h
      rw [List.cons_append, spaced] at h
      split_ifs at h
      · exact ih v true (Bool.and_eq_true _ _ ▸ h).2
      · exact ih v false h
  have hprefix : ∀ (v y : List Char) (blank : Bool), v ≠ [] →
      (∀ c ∈ v.getLast?, isWhitespace c = false) → spaced blank (v ++ y) = true →
      spaced blank v = true := by
    intro v
    induction v with
    | nil => exact fun y blank h => absurd rfl h
    | cons c v ih =>
      intro y blank _ hlast h
      rw [List.cons_append, spaced] at h
      rw [spaced]
      cases v with
      | nil =>
        rw [if_neg (by simp [hlast c rfl])]
        rfl
      | cons d v =>
        rw [List.getLast?_cons_cons] at hlast
        split_ifs at h ⊢ with hc
        · rw [Bool.and_eq_true] at h ⊢
          exact ⟨h.1, ih y true (by simp) hlast h.2⟩
        · exact ih y false (by simp) hlast h
  rw [List.append_assoc] at hw
  obtain ⟨blank, hv⟩ := hsuffix x (v ++ y) true hw
  have hspaced := hprefix v y blank hne hlast hv
  cases v with
  | nil => exact absurd rfl hne
  | cons c v =>
    rw [spaced, hhead c rfl, if_neg Bool.false_ne_true] at hspaced ⊢
    exact hspaced

theorem trimChars_cons {c : Char} (hc : isWhitespace c = false) (s : List Char) :
    trimChars (c :: s) = c :: trimEnd s := by
  rw [trimChars, List.dropWhile_cons_of_neg (by simp [hc]), List.reverse_cons, trimEnd]
  by_cases hs : s.reverse.dropWhile isWhitespace = []
  · rw [List.dropWhile_append, hs]
    simp [hc]
  · rw [List.dropWhile_append, if_neg (by simpa using hs)]
    simp

/-- White space at the end is trimmed. -/
theorem trimEnd_concat {c : Char} (hc : isWhitespace c = true) (s : List Char) :
    trimEnd (s ++ [c]) = trimEnd s := by
  rw [trimEnd, List.reverse_append, List.reverse_singleton, List.singleton_append,
    List.dropWhile_cons_of_pos hc, trimEnd]

theorem trimChars_concat {c : Char} (hc : isWhitespace c = true) (s : List Char) :
    trimChars (s ++ [c]) = trimChars s := by
  show trimEnd ((s ++ [c]).dropWhile isWhitespace) = trimEnd (s.dropWhile isWhitespace)
  rw [List.dropWhile_append]
  split_ifs with hs
  · rw [List.isEmpty_iff.mp hs, List.dropWhile_cons_of_pos hc]
    rfl
  · exact trimEnd_concat hc _

theorem trimEnd_cons {c : Char} (hc : isWhitespace c = false) (s : List Char) :
    trimEnd (c :: s) = c :: trimEnd s := by
  have h := trimChars_cons hc s
  rw [trimChars, List.dropWhile_cons_of_neg (by simp [hc])] at h
  exact h

/-! ### Parts put together again -/

theorem sum_splitOnP (q : Char → Bool) (s : List Char) :
    ((s.splitOnP q).map fun part => part.length + 1).sum = s.length + 1 := by
  induction s with
  | nil => rfl
  | cons c s ih =>
    rw [List.splitOnP_cons_eq_if_modifyHead]
    split_ifs
    · rw [List.map_cons, List.sum_cons, ih, List.length_cons, List.length_nil]
      omega
    · obtain ⟨head, rest, hsplit⟩ := List.exists_cons_of_ne_nil (List.splitOnP_ne_nil q s)
      rw [hsplit, List.map_cons, List.sum_cons] at ih
      rw [hsplit, List.modifyHead_cons, List.map_cons, List.sum_cons, List.length_cons,
        List.length_cons]
      omega

theorem length_intercalate_le (c : Char) (parts : List (List Char)) :
    (List.intercalate [c] parts).length ≤ (parts.map fun part => part.length + 1).sum - 1 := by
  induction parts with
  | nil => exact Nat.zero_le _
  | cons part parts ih =>
    cases parts with
    | nil => simp [List.intercalate]
    | cons part' parts =>
      rw [intercalate_cons_cons, List.length_append, List.length_cons, List.map_cons, List.sum_cons]
      have hpos : 0 < ((part' :: parts).map fun part => part.length + 1).sum := by
        rw [List.map_cons, List.sum_cons]
        omega
      omega

/-- Some of the parts of a text, put together again, are no longer than it. -/
theorem length_intercalate_filter_splitOnP (c : Char) (keep : List Char → Bool) (q : Char → Bool)
    (s : List Char) :
    (List.intercalate [c] ((s.splitOnP q).filter keep)).length ≤ s.length := by
  have hparts := length_intercalate_le c ((s.splitOnP q).filter keep)
  have hkept : (((s.splitOnP q).filter keep).map fun part => part.length + 1).sum ≤
      ((s.splitOnP q).map fun part => part.length + 1).sum :=
    (List.filter_sublist.map _).sum_le_sum fun _ _ => Nat.zero_le _
  rw [sum_splitOnP] at hkept
  omega

theorem mem_of_mem_splitOnP {q : Char → Bool} {s : List Char} :
    ∀ part ∈ s.splitOnP q, ∀ c ∈ part, c ∈ s := by
  induction s with
  | nil => simp
  | cons d s ih =>
    rw [List.splitOnP_cons_eq_if_modifyHead]
    split_ifs
    · intro part hpart c hc
      rcases List.mem_cons.mp hpart with rfl | hpart
      · exact absurd hc List.not_mem_nil
      · exact List.mem_cons_of_mem _ (ih part hpart c hc)
    · obtain ⟨head, rest, hsplit⟩ := List.exists_cons_of_ne_nil (List.splitOnP_ne_nil q s)
      rw [hsplit] at ih ⊢
      intro part hpart c hc
      rcases List.mem_cons.mp hpart with rfl | hpart
      · rcases List.mem_cons.mp hc with rfl | hc
        · exact List.mem_cons_self
        · exact List.mem_cons_of_mem _ (ih head List.mem_cons_self c hc)
      · exact List.mem_cons_of_mem _ (ih part (List.mem_cons_of_mem _ hpart) c hc)

theorem mem_intercalate {c d : Char} {parts : List (List Char)}
    (h : d ∈ List.intercalate [c] parts) : d = c ∨ ∃ part ∈ parts, d ∈ part := by
  induction parts with
  | nil => exact absurd h List.not_mem_nil
  | cons part parts ih =>
    cases parts with
    | nil => exact Or.inr ⟨part, List.mem_cons_self, by simpa [List.intercalate] using h⟩
    | cons part' parts =>
      rw [intercalate_cons_cons, List.mem_append, List.mem_cons] at h
      rcases h with h | rfl | h
      · exact Or.inr ⟨part, List.mem_cons_self, h⟩
      · exact Or.inl rfl
      · rcases ih h with h | ⟨q, hq, hd⟩
        · exact Or.inl h
        · exact Or.inr ⟨q, List.mem_cons_of_mem _ hq, hd⟩

theorem mem_intercalate_filter_splitOnP {c d : Char} {keep : List Char → Bool} {q : Char → Bool}
    {s : List Char} (h : d ∈ List.intercalate [c] ((s.splitOnP q).filter keep)) :
    d = c ∨ d ∈ s := by
  rcases mem_intercalate h with h | ⟨part, hpart, hd⟩
  · exact Or.inl h
  · exact Or.inr (mem_of_mem_splitOnP part (List.mem_of_mem_filter hpart) d hd)

/-! ### Lines put together -/

theorem lines_ne_nil {s : List Char} (hs : s ≠ []) : lines s ≠ [] := by
  induction s with
  | nil => exact absurd rfl hs
  | cons c s ih =>
    rw [lines]
    split_ifs with hn hr
    · exact List.cons_ne_nil _ _
    · refine ih ?_
      rintro rfl
      cases hr.2
    · split <;> exact List.cons_ne_nil _ _

theorem lines_append_feed (r : List Char) : ∀ s : List Char,
    lines (s ++ '\n' :: r) = lines (s ++ ['\n']) ++ lines r := by
  intro s
  induction s with
  | nil => rfl
  | cons c s ih =>
    have hhead : (s ++ '\n' :: r).head? = (s ++ ['\n']).head? := by
      cases s <;> rfl
    rw [List.cons_append, List.cons_append, lines, lines, hhead]
    split_ifs with hn hr
    · rw [ih, List.cons_append]
    · exact ih
    · obtain ⟨l, ls, hsplit⟩ := List.exists_cons_of_ne_nil
        (lines_ne_nil (List.append_ne_nil_of_right_ne_nil s (List.cons_ne_nil '\n' [])))
      rw [ih, hsplit]
      rfl

theorem joinLines_cons_cons (l l' : List Char) (ls : List (List Char)) :
    joinLines (l :: l' :: ls) = l ++ '\n' :: joinLines (l' :: ls) := intercalate_cons_cons ..

/-- **The lines of lines put together** are the lines of each. -/
theorem lines_joinLines {ls : List (List Char)} (hne : ls ≠ []) :
    lines (joinLines ls ++ ['\n']) = ls.flatMap fun l => lines (l ++ ['\n']) := by
  induction ls with
  | nil => exact absurd rfl hne
  | cons l ls ih =>
    cases ls with
    | nil => simp [joinLines, List.intercalate]
    | cons l' ls =>
      rw [joinLines_cons_cons, List.append_assoc, List.cons_append, lines_append_feed,
        ih (by simp)]
      rfl

/-- A text that is one line. -/
def singleLine (l : List Char) : Prop := '\n' ∉ l ∧ l.getLast? ≠ some '\r'

theorem lines_of_singleLine : ∀ {l : List Char}, singleLine l → lines (l ++ ['\n']) = [l] := by
  intro l
  induction l with
  | nil => intro _; rfl
  | cons c l ih =>
    rintro ⟨hn, hlast⟩
    rw [List.mem_cons, not_or] at hn
    cases l with
    | nil =>
      rw [List.getLast?_singleton] at hlast
      rw [List.cons_append, lines_cons (Ne.symm hn.1) (fun h => hlast (by rw [h.1]))]
      rfl
    | cons d l =>
      rw [List.getLast?_cons_cons] at hlast
      rw [List.cons_append, lines_cons (Ne.symm hn.1), ih ⟨hn.2, hlast⟩]
      rintro ⟨_, hhead⟩
      exact hn.2 (by rw [← Option.some.inj hhead]; exact List.mem_cons_self)

theorem not_mem_of_mem_lines : ∀ {s l : List Char}, l ∈ lines s → '\n' ∉ l := by
  intro s
  induction s with
  | nil => intro l hl; exact absurd hl List.not_mem_nil
  | cons c s ih =>
    intro l hl
    rw [lines] at hl
    split_ifs at hl with hn hr
    · rcases List.mem_cons.mp hl with rfl | hl
      · exact List.not_mem_nil
      · exact ih hl
    · exact ih hl
    · cases hs : lines s with
      | nil =>
        rw [hs] at hl
        rw [List.mem_singleton.mp hl, List.mem_singleton]
        exact Ne.symm hn
      | cons l' ls =>
        rw [hs] at hl ih
        rcases List.mem_cons.mp hl with rfl | hl
        · rw [List.mem_cons, not_or]
          exact ⟨Ne.symm hn, ih List.mem_cons_self⟩
        · exact ih (List.mem_cons_of_mem _ hl)

/-- A line without the carriage return at its end. -/
def stripCarriageReturn (l : List Char) : List Char :=
  if l.getLast? = some '\r' then l.dropLast else l

theorem lines_append_strip {r : List Char} : ∀ {l : List Char}, '\n' ∉ l →
    lines (l ++ '\n' :: r) = stripCarriageReturn l :: lines r := by
  intro l
  induction l with
  | nil => intro _; rfl
  | cons c l ih =>
    intro hn
    rw [List.mem_cons, not_or] at hn
    cases l with
    | nil =>
      by_cases hc : c = '\r'
      · subst hc
        rfl
      · rw [List.cons_append, lines_cons (Ne.symm hn.1) (fun h => hc h.1), ih hn.2,
          stripCarriageReturn, stripCarriageReturn, if_neg (by simp), if_neg (by simpa using hc)]
    | cons d l =>
      have hr : ¬(c = '\r' ∧ ((d :: l) ++ '\n' :: r).head? = some '\n') := by
        rintro ⟨_, hhead⟩
        exact hn.2 (by rw [← Option.some.inj hhead]; exact List.mem_cons_self)
      rw [List.cons_append, lines_cons (Ne.symm hn.1) hr, ih hn.2]
      unfold stripCarriageReturn
      rw [List.getLast?_cons_cons]
      split_ifs <;> rfl

/-- What becomes of lines that are put together and cut again. -/
def relines : List (List Char) → List (List Char)
  | [] => []
  | [l] => if l = [] then [] else [l]
  | l :: l' :: ls => stripCarriageReturn l :: relines (l' :: ls)

theorem lines_joinLines_eq_relines : ∀ {ls : List (List Char)}, (∀ l ∈ ls, '\n' ∉ l) →
    lines (joinLines ls) = relines ls := by
  intro ls
  induction ls with
  | nil => intro _; rfl
  | cons l ls ih =>
    intro h
    rw [List.forall_mem_cons] at h
    cases ls with
    | nil =>
      have hjoin : joinLines [l] = l := by simp [joinLines, List.intercalate]
      rw [hjoin, relines]
      split_ifs with hl
      · rw [hl]
        rfl
      · exact lines_single h.1 hl
    | cons l' ls => rw [joinLines_cons_cons, lines_append_strip h.1, ih h.2, relines]

theorem stripCarriageReturn_append {t : List Char} (ht : t ≠ []) (p : List Char) :
    stripCarriageReturn (p ++ t) = p ++ stripCarriageReturn t := by
  unfold stripCarriageReturn
  rw [List.getLast?_append_of_ne_nil p ht, List.dropLast_append_of_ne_nil ht]
  split_ifs <;> rfl

theorem trimChars_stripCarriageReturn (l : List Char) :
    trimChars (stripCarriageReturn l) = trimChars l := by
  unfold stripCarriageReturn
  split_ifs with h
  · obtain ⟨m, rfl⟩ := List.getLast?_eq_some_iff.mp h
    rw [List.dropLast_concat]
    exact (trimChars_concat (by decide) m).symm
  · rfl

theorem relines_cons {l : List Char} (hl : l ≠ []) (ls : List (List Char)) :
    ∃ l', (l' = l ∨ l' = stripCarriageReturn l) ∧ relines (l :: ls) = l' :: relines ls := by
  cases ls with
  | nil => exact ⟨l, Or.inl rfl, if_neg hl⟩
  | cons l' ls => exact ⟨stripCarriageReturn l, Or.inr rfl, rfl⟩

/-- What is read of the words of lines alone is read of them cut again. -/
theorem filterMap_relines {α : Type} {f : List Char → Option α} (hnil : f [] = none)
    (hf : ∀ l, f (stripCarriageReturn l) = f l) : ∀ ls : List (List Char),
    (relines ls).filterMap f = ls.filterMap f := by
  intro ls
  induction ls with
  | nil => rfl
  | cons l ls ih =>
    cases ls with
    | nil =>
      rw [relines]
      split_ifs with hl
      · rw [hl, List.filterMap_cons_none hnil]
      · rfl
    | cons l' ls => rw [relines, List.filterMap_cons, List.filterMap_cons, hf, ih]

end FeatureForge
