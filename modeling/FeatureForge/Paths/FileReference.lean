import FeatureForge.Contracts.Topology
import FeatureForge.Paths.SafePath
import FeatureForge.Plans.PlanDocument

/-!
# File references

A reference to a file may name lines behind it, `p:a` or `p:a-b`.  The reader of references
cuts such suffixes off in a loop (`strip_cut`, `strip_of_bare`), a colon and a dash alike, so
`p`, `p:a` and `p:a-b` are one reference (`reference_lines`).  It also takes a dash and digits
without any colon for a suffix, and a path that ends so is not the path it was
(`reference_eq_iff_not_endsInLine`): what is left has a shorter last component
(`normalize_append_ne`).  Two files whose names end so can then be one write scope of a plan;
no others can (`file_references_apart`).
-/

namespace FeatureForge

/-- The digits of a line number. -/
def LineNumber (digits : List Char) : Prop := digits ≠ [] ∧ ∀ c ∈ digits, c.isDigit = true

/-- The path ends in a separator and a line number. -/
def EndsInLine (separator : Char) (path : List Char) : Prop :=
  ∃ stem digits, LineNumber digits ∧ path = stem ++ separator :: digits

/-- The path ends in `:a` or `:a-b`. -/
def HasLineSuffix (path : List Char) : Prop :=
  EndsInLine ':' path ∨
    ∃ stem a b, LineNumber a ∧ LineNumber b ∧ path = stem ++ ':' :: a ++ '-' :: b

/-- A path with the lines of a reference behind it. -/
inductive Reference (path : List Char) : List Char → Prop
  | file : Reference path path
  | line {a : List Char} (ha : LineNumber a) : Reference path (path ++ ':' :: a)
  | lines {a b : List Char} (ha : LineNumber a) (hb : LineNumber b) :
    Reference path (path ++ ':' :: a ++ '-' :: b)

/-! ### The loop -/

theorem go_cut {fuel : Nat} {stem digits : List Char} {separator : Char}
    (hseparator : separator = ':' ∨ separator = '-') (hdigits : LineNumber digits) :
    stripFileReferenceSuffix.go (fuel + 1) (stem ++ separator :: digits) =
      stripFileReferenceSuffix.go fuel stem := by
  have hnot : separator.isDigit = false := by rcases hseparator with rfl | rfl <;> decide
  have hdrop : ((stem ++ separator :: digits).reverse.dropWhile Char.isDigit).reverse =
      stem ++ [separator] := by
    rw [List.reverse_append, List.reverse_cons, List.append_assoc,
      List.dropWhile_append_of_pos fun c hc => hdigits.2 c (List.mem_reverse.mp hc),
      List.singleton_append, List.dropWhile_cons, hnot, if_neg Bool.false_ne_true,
      List.reverse_cons, List.reverse_reverse]
  have hlength : (stem ++ [separator]).length ≠ (stem ++ separator :: digits).length := by
    have := List.length_pos_iff.mpr hdigits.1
    simp only [List.length_append, List.length_cons, List.length_nil]
    omega
  have hsep : ¬(separator ≠ ':' ∧ separator ≠ '-') := by
    rintro ⟨hcolon, hdash⟩
    exact hseparator.elim hcolon hdash
  rw [stripFileReferenceSuffix.go, hdrop, if_neg hlength, List.getLast?_concat]
  dsimp only
  rw [if_neg hsep, List.dropLast_concat]

theorem go_stop {fuel : Nat} {value : List Char} (hcolon : ¬EndsInLine ':' value)
    (hdash : ¬EndsInLine '-' value) : stripFileReferenceSuffix.go fuel value = value := by
  cases fuel with
  | zero => rfl
  | succ fuel =>
    have hcut : value = (value.reverse.dropWhile Char.isDigit).reverse ++
        (value.reverse.takeWhile Char.isDigit).reverse := by
      rw [← List.reverse_append, List.takeWhile_append_dropWhile, List.reverse_reverse]
    rw [stripFileReferenceSuffix.go]
    generalize hstem : (value.reverse.dropWhile Char.isDigit).reverse = stem at hcut ⊢
    split_ifs with hlength
    · rfl
    · cases hlast : stem.getLast? with
      | none => rfl
      | some separator =>
        dsimp only
        refine if_pos ?_
        have hconcat : stem = stem.dropLast ++ [separator] := by
          rw [List.dropLast_append_getLast? separator hlast]
        have hends : EndsInLine separator value := by
          refine ⟨stem.dropLast, (value.reverse.takeWhile Char.isDigit).reverse, ⟨?_, ?_⟩, ?_⟩
          · intro hnil
            rw [hnil, List.append_nil] at hcut
            exact hlength (congrArg List.length hcut).symm
          · intro c hc
            exact List.mem_takeWhile_imp (List.mem_reverse.mp hc)
          · rw [List.append_cons, ← hconcat]
            exact hcut
        constructor
        · rintro rfl
          exact hcolon hends
        · rintro rfl
          exact hdash hends

/-- The loop needs no more rounds than the text has characters. -/
theorem go_of_le : ∀ {fuel : Nat} {value : List Char}, value.length ≤ fuel →
    stripFileReferenceSuffix.go fuel value = stripFileReferenceSuffix value := by
  intro fuel value h
  induction hn : value.length using Nat.strong_induction_on generalizing value fuel with
  | _ n ih =>
    by_cases hends : EndsInLine ':' value ∨ EndsInLine '-' value
    · obtain ⟨separator, hseparator, stem, digits, hdigits, rfl⟩ : ∃ separator,
          (separator = ':' ∨ separator = '-') ∧ EndsInLine separator value := by
        rcases hends with hends | hends
        · exact ⟨':', Or.inl rfl, hends⟩
        · exact ⟨'-', Or.inr rfl, hends⟩
      have hlength : (stem ++ separator :: digits).length = stem.length + digits.length + 1 := by
        simp only [List.length_append, List.length_cons]
        omega
      obtain ⟨k, rfl⟩ : ∃ k, fuel = k + 1 := ⟨fuel - 1, by omega⟩
      rw [stripFileReferenceSuffix, hlength, go_cut hseparator hdigits, go_cut hseparator hdigits,
        ih stem.length (by omega) (by omega) rfl, ih stem.length (by omega) (by omega) rfl]
    · rw [not_or] at hends
      rw [stripFileReferenceSuffix, go_stop hends.1 hends.2, go_stop hends.1 hends.2]

/-- **A separator and a line number are cut off.** -/
theorem strip_cut {stem digits : List Char} {separator : Char}
    (hseparator : separator = ':' ∨ separator = '-') (hdigits : LineNumber digits) :
    stripFileReferenceSuffix (stem ++ separator :: digits) = stripFileReferenceSuffix stem := by
  have hlength : (stem ++ separator :: digits).length = (stem ++ digits).length + 1 := by
    simp only [List.length_append, List.length_cons]
    omega
  rw [stripFileReferenceSuffix, hlength, go_cut hseparator hdigits]
  exact go_of_le (by rw [List.length_append]; omega)

theorem strip_of_bare {path : List Char} (hcolon : ¬EndsInLine ':' path)
    (hdash : ¬EndsInLine '-' path) : stripFileReferenceSuffix path = path := go_stop hcolon hdash

/-- What is cut off are digits and separators. -/
theorem strip_append (path : List Char) : ∃ suffix,
    path = stripFileReferenceSuffix path ++ suffix ∧
      ∀ c ∈ suffix, c.isDigit = true ∨ c = ':' ∨ c = '-' := by
  induction hn : path.length using Nat.strong_induction_on generalizing path with
  | _ n ih =>
    by_cases hends : EndsInLine ':' path ∨ EndsInLine '-' path
    · obtain ⟨separator, hseparator, stem, digits, hdigits, rfl⟩ : ∃ separator,
          (separator = ':' ∨ separator = '-') ∧ EndsInLine separator path := by
        rcases hends with hends | hends
        · exact ⟨':', Or.inl rfl, hends⟩
        · exact ⟨'-', Or.inr rfl, hends⟩
      have hlt : stem.length < n := by
        rw [← hn, List.length_append, List.length_cons]
        omega
      obtain ⟨suffix, hstem, hsuffix⟩ := ih stem.length hlt stem rfl
      rw [strip_cut hseparator hdigits]
      refine ⟨suffix ++ separator :: digits, ?_, ?_⟩
      · rw [← List.append_assoc, ← hstem]
      · intro c hc
        rcases List.mem_append.mp hc with hc | hc
        · exact hsuffix c hc
        · rcases List.mem_cons.mp hc with rfl | hc
          · exact Or.inr hseparator
          · exact Or.inl (hdigits.2 c hc)
    · rw [not_or] at hends
      exact ⟨[], by rw [strip_of_bare hends.1 hends.2, List.append_nil],
        fun c hc => absurd hc List.not_mem_nil⟩

/-! ### A path cut short -/

theorem splitOn_append_last {c : Char} {suffix : List Char} (hsuffix : c ∉ suffix) :
    ∀ s : List Char, ∃ parts last, s.splitOn c = parts ++ [last] ∧
      (s ++ suffix).splitOn c = parts ++ [last ++ suffix] := by
  intro s
  induction s with
  | nil => exact ⟨[], [], rfl, by rw [List.nil_append, List.splitOn_eq_singleton hsuffix]; rfl⟩
  | cons d s ih =>
    obtain ⟨parts, last, hcut, hmore⟩ := ih
    rw [List.cons_append, List.splitOn_cons_eq_if_modifyHead,
      List.splitOn_cons_eq_if_modifyHead, hcut, hmore]
    split_ifs
    · exact ⟨[] :: parts, last, rfl, rfl⟩
    · cases parts with
      | nil => exact ⟨[], d :: last, rfl, rfl⟩
      | cons part parts => exact ⟨(d :: part) :: parts, last, rfl, rfl⟩

/-- **A path without its last digits and separators is another path.** -/
theorem normalize_append_ne {stem suffix path : List Char} (hne : suffix ≠ [])
    (hsuffix : ∀ c ∈ suffix, c.isDigit = true ∨ c = ':' ∨ c = '-')
    (h : normalizeRepoRelativePath (stem ++ suffix) = some path) :
    normalizeRepoRelativePath stem ≠ some path := by
  intro hstem
  have hnot : ∀ c ∈ suffix, c ≠ '/' ∧ c ≠ '\\' ∧ c ≠ '.' := by
    intro c hc
    rcases hsuffix c hc with hdigit | rfl | rfl
    · refine ⟨?_, ?_, ?_⟩ <;> (rintro rfl; exact absurd hdigit (by decide))
    · decide
    · decide
  have hslashed : slashed (stem ++ suffix) = slashed stem ++ suffix := by
    rw [slashed, List.map_append]
    exact congrArg (slashed stem ++ ·) (slashed_of_not_mem fun hc => (hnot _ hc).2.1 rfl)
  obtain ⟨parts, last, hcut, hmore⟩ :=
    splitOn_append_last (fun hc => (hnot _ hc).1 rfl) (slashed stem)
  have hparts : pathParts (slashed stem) = pathParts (slashed (stem ++ suffix)) := by
    rw [← splitOn_intercalate_components (pathParts_of_normalize h).1
        (component_of_mem_pathParts h),
      ← splitOn_intercalate_components (pathParts_of_normalize hstem).1
        (component_of_mem_pathParts hstem)]
    exact congrArg (List.splitOn '/') ((normalizeRepoRelativePath_eq_some hstem).symm.trans
      (normalizeRepoRelativePath_eq_some h))
  have hdots : last ++ suffix ≠ ['.'] := by
    intro hdot
    have hmem : suffix.getLast hne ∈ ['.'] := by
      rw [← hdot]
      exact List.mem_append_right _ (List.getLast_mem hne)
    exact (hnot _ (List.getLast_mem hne)).2.2 (List.mem_singleton.mp hmem)
  rw [hslashed, pathParts, pathParts, ← List.splitOn_eq_splitOnP, ← List.splitOn_eq_splitOnP,
    hcut, hmore, List.filter_append, List.filter_append] at hparts
  have hlast := List.append_cancel_left hparts
  rw [List.filter_cons_of_pos (a := last ++ suffix) (by simp [hne, hdots])] at hlast
  rw [List.filter_cons] at hlast
  split_ifs at hlast
  · obtain ⟨hsame, -⟩ := List.cons_eq_cons.mp hlast
    exact hne (List.self_eq_append_right.mp hsame)
  · cases hlast

/-! ### References -/

/-- **A reference is the path it names**, for a path without a line suffix, exactly where the
path does not end in a dash and digits. -/
theorem reference_eq_iff_not_endsInLine {path normalized : List Char}
    (h : normalizeRepoRelativePath path = some normalized) (hbare : ¬HasLineSuffix path) :
    normalizeRepoRelativeFileReference path = some normalized ↔ ¬EndsInLine '-' path := by
  have hcolon : ¬EndsInLine ':' path := fun hends => hbare (Or.inl hends)
  constructor
  · rintro hreference ⟨stem, digits, hdigits, rfl⟩
    rw [normalizeRepoRelativeFileReference, strip_cut (Or.inr rfl) hdigits] at hreference
    obtain ⟨suffix, hstem, hsuffix⟩ := strip_append stem
    have hall : stem ++ '-' :: digits =
        stripFileReferenceSuffix stem ++ (suffix ++ '-' :: digits) := by
      rw [← List.append_assoc, ← hstem]
    rw [hall] at h
    refine normalize_append_ne (by simp) ?_ h hreference
    intro c hc
    rcases List.mem_append.mp hc with hc | hc
    · exact hsuffix c hc
    · rcases List.mem_cons.mp hc with rfl | hc
      · exact Or.inr (Or.inr rfl)
      · exact Or.inl (hdigits.2 c hc)
  · intro hdash
    rw [normalizeRepoRelativeFileReference, strip_of_bare hcolon hdash, h]

/-- **The lines of a reference do not matter.** -/
theorem reference_lines {path reference : List Char} (h : Reference path reference) :
    normalizeRepoRelativeFileReference reference = normalizeRepoRelativeFileReference path := by
  unfold normalizeRepoRelativeFileReference
  cases h with
  | file => rfl
  | line ha => rw [strip_cut (Or.inl rfl) ha]
  | lines ha hb => rw [strip_cut (Or.inr rfl) hb, strip_cut (Or.inl rfl) ha]

/-! ### Write scopes -/

/-- What the tasks of a plan write, as `detect_overlapping_write_scopes` collects it. -/
def writeScopes (tasks : List PlanTask) : TaskScopes :=
  tasks.map fun task => (task.number.toNat,
    (task.files.filter fun file => file.action ≠ "Test".toList).map fun file =>
      String.ofList file.path)

def detectOverlappingWriteScopes (tasks : List PlanTask) : List OverlappingWriteScope :=
  overlappingScopes (writeScopes tasks)

/-- The entry is read from a reference to the file, with or without lines, and the file's path
ends in no dash and digits. -/
def NamesFile (entry : TaskFileEntry) (file : List Char) : Prop :=
  ∃ path reference, ¬HasLineSuffix path ∧ ¬EndsInLine '-' path ∧
    normalizeRepoRelativePath path = some file ∧ Reference path reference ∧
    normalizeRepoRelativeFileReference reference = some entry.path

theorem path_of_namesFile {entry : TaskFileEntry} {file : List Char} (h : NamesFile entry file) :
    entry.path = file := by
  obtain ⟨path, reference, hbare, hdash, hnormal, hreference, hread⟩ := h
  rw [reference_lines hreference, (reference_eq_iff_not_endsInLine hnormal hbare).mpr hdash] at hread
  exact (Option.some.inj hread).symm

theorem exists_entry_of_mem_tasks {tasks : List PlanTask} {scope : OverlappingWriteScope}
    (hscope : scope ∈ detectOverlappingWriteScopes tasks) {number : Nat}
    (hnumber : number ∈ scope.tasks) :
    ∃ task ∈ tasks, task.number.toNat = number ∧ ∃ entry ∈ task.files,
      entry.action ≠ "Test".toList ∧ String.ofList entry.path = scope.path := by
  obtain ⟨path, -, rfl⟩ := List.mem_map.mp (List.mem_of_mem_filter hscope)
  obtain ⟨written, hwritten, rfl⟩ := List.mem_map.mp (mem_sortDedup.mp hnumber)
  obtain ⟨hmem, hpath⟩ := List.mem_filter.mp hwritten
  obtain ⟨task, htask, rfl⟩ := List.mem_map.mp hmem
  obtain ⟨entry, hentry, hwrites⟩ := List.mem_map.mp (List.contains_iff_mem.mp hpath)
  obtain ⟨hfile, haction⟩ := List.mem_filter.mp hentry
  exact ⟨task, htask, rfl, entry, hfile, of_decide_eq_true haction, hwrites⟩

/-- **File references keep files apart**, but for paths that end in a dash and digits. -/
theorem file_references_apart :
    (∀ path normalized, normalizeRepoRelativePath path = some normalized →
      ¬HasLineSuffix path →
        (normalizeRepoRelativeFileReference path = some normalized ↔ ¬EndsInLine '-' path)) ∧
    (∀ path reference, Reference path reference →
      normalizeRepoRelativeFileReference reference = normalizeRepoRelativeFileReference path) ∧
    ∀ tasks, ∀ scope ∈ detectOverlappingWriteScopes tasks, ∀ number ∈ scope.tasks,
      ∃ task ∈ tasks, task.number.toNat = number ∧ ∃ entry ∈ task.files,
        entry.action ≠ "Test".toList ∧ String.ofList entry.path = scope.path ∧
        ∀ file, NamesFile entry file → entry.path = file := by
  refine ⟨fun path normalized h hbare => reference_eq_iff_not_endsInLine h hbare,
    fun path reference h => reference_lines h, ?_⟩
  intro tasks scope hscope number hnumber
  obtain ⟨task, htask, hname, entry, hentry, haction, hpath⟩ :=
    exists_entry_of_mem_tasks hscope hnumber
  exact ⟨task, htask, hname, entry, hentry, haction, hpath, fun file h => path_of_namesFile h⟩

/-- A plan's name can end in a dash and a number. -/
theorem not_file_references_apart : ¬∀ path, (normalizeRepoRelativePath path).isSome →
    ¬HasLineSuffix path →
      normalizeRepoRelativeFileReference path = normalizeRepoRelativePath path := by
  intro h
  have hcolon : ':' ∉ "docs/plan-1".toList := by decide
  have hbare : ¬HasLineSuffix "docs/plan-1".toList := by
    rintro (⟨stem, digits, -, hpath⟩ | ⟨stem, a, b, -, -, hpath⟩)
    · exact hcolon (by rw [hpath]; simp)
    · exact hcolon (by rw [hpath]; simp)
  exact absurd (h "docs/plan-1".toList (by decide) hbare) (by decide)

end FeatureForge
