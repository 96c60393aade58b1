import FeatureForge.EventLog.Chain

/-!
# Where the state of a branch is kept

The event log, the locks and the artifacts of a branch lie under `harness_branch_root`,
whose last component but one is `branch_storage_key`: the name of the branch where it is
safe as it stands, otherwise a safe form of it with twelve digits of its digest, and
`current` where no safe form is left.

`branchStorageKey_eq_iff` goes through these three kinds of names two by two: two names
share their key where both have the key `current`, or where one is, as it stands, the key
that the other gets from its digest.
-/

namespace FeatureForge

/-! ### Names -/

/-- `normalize_whitespace`. -/
def normalizeWhitespace (value : List Char) : List Char :=
  List.intercalate [' '] (splitWhitespace value)

def identifierChar (c : Char) : Char :=
  if isAsciiAlphanumeric c ∨ c ∈ ['.', '_', '-'] then c else '-'

/-- `normalize_identifier_token`. -/
def normalizeIdentifierToken (value : List Char) : List Char :=
  let output := (normalizeWhitespace value).map identifierChar
  if output.all (· = '-') then [] else output

/-- The digits of a digest that a key shows. -/
def keyDigest (sha : Sha256Hex) (value : List Char) : List Char := (sha value).toList.take 12

/-- A safe form of a name, made its own by its digest. -/
def hashedKey (sha : Sha256Hex) (value : List Char) : List Char :=
  normalizeIdentifierToken value ++ '-' :: keyDigest sha value

def currentKey : List Char := ['c', 'u', 'r', 'r', 'e', 'n', 't']

def branchStorageKey (sha : Sha256Hex) (value : List Char) : List Char :=
  let normalized := normalizeIdentifierToken value
  if normalized = [] then currentKey
  else if normalized = value then normalized
  else hashedKey sha value

/-! ### Directories -/

/-- A path by its components. -/
abbrev Components : Type := List (List Char)

def harnessBranchRoot (sha : Sha256Hex) (stateDir : Components) (repoSlug branchName : List Char) :
    Components :=
  stateDir ++ ["projects".toList, repoSlug, "branches".toList, branchStorageKey sha branchName,
    "execution-harness".toList]

/-- One component on the way to a directory. -/
def enterComponent (directory : Components) (c : List Char) : Components :=
  if c = ['.'] then directory
  else if c = ['.', '.'] then directory.dropLast
  else directory ++ [c]

/-- The directory that a path leads to. -/
def resolve (path : Components) : Components := path.foldl enterComponent []

/-! ### Which names share a key -/

section

variable {sha : Sha256Hex} {a b : List Char}

/-- A name that is its own safe form. -/
def SafeName (value : List Char) : Prop :=
  normalizeIdentifierToken value ≠ [] ∧ normalizeIdentifierToken value = value

/-- A name that its digest is put to. -/
def HashedName (value : List Char) : Prop :=
  normalizeIdentifierToken value ≠ [] ∧ normalizeIdentifierToken value ≠ value

/-- A name without a safe form, or the name that stands for those. -/
def FallbackName (value : List Char) : Prop :=
  normalizeIdentifierToken value = [] ∨ value = currentKey

/-- The safe name `a` is the key of `b`. -/
def NamesKeyOf (sha : Sha256Hex) (a b : List Char) : Prop :=
  SafeName a ∧ HashedName b ∧ a = hashedKey sha b

theorem name_cases (value : List Char) :
    normalizeIdentifierToken value = [] ∨ SafeName value ∨ HashedName value := by
  by_cases hnil : normalizeIdentifierToken value = []
  · exact Or.inl hnil
  · by_cases hsafe : normalizeIdentifierToken value = value
    · exact Or.inr (Or.inl ⟨hnil, hsafe⟩)
    · exact Or.inr (Or.inr ⟨hnil, hsafe⟩)

theorem branchStorageKey_of_nil (h : normalizeIdentifierToken a = []) :
    branchStorageKey sha a = currentKey := if_pos h

theorem branchStorageKey_of_safe (h : SafeName a) : branchStorageKey sha a = a := by
  rw [branchStorageKey]
  show (if normalizeIdentifierToken a = [] then _ else _) = a
  rw [if_neg h.1, if_pos h.2, h.2]

theorem branchStorageKey_of_hashed (h : HashedName a) :
    branchStorageKey sha a = hashedKey sha a := by
  rw [branchStorageKey]
  show (if normalizeIdentifierToken a = [] then _ else _) = _
  rw [if_neg h.1, if_neg h.2]

theorem safeName_currentKey : SafeName currentKey := by
  unfold SafeName
  decide

theorem HashedName.not_fallback (h : HashedName a) : ¬ FallbackName a := by
  rintro (hnil | rfl)
  · exact h.1 hnil
  · exact h.2 safeName_currentKey.2

theorem SafeName.fallback_iff (h : SafeName a) : FallbackName a ↔ a = currentKey :=
  or_iff_right h.1

theorem SafeName.not_hashed (h : SafeName a) : ¬ HashedName a := fun hh => hh.2 h.2

variable (hdigest : ∀ t, 12 ≤ (sha t).toList.length)
include hdigest

theorem length_keyDigest (value : List Char) : (keyDigest sha value).length = 12 := by
  have := hdigest value
  rw [keyDigest, List.length_take]
  omega

/-- A key with a digest is longer than `current`. -/
theorem hashedKey_ne_currentKey (a : List Char) : hashedKey sha a ≠ currentKey := by
  intro heq
  have hlen := congrArg List.length heq
  rw [hashedKey, List.length_append, List.length_cons, length_keyDigest hdigest] at hlen
  have hcurrent : currentKey.length = 7 := rfl
  omega

/-- Keys with digests differ where the digests do. -/
theorem keyDigest_of_hashedKey_eq (h : hashedKey sha a = hashedKey sha b) :
    keyDigest sha a = keyDigest sha b := by
  have hlen : ('-' :: keyDigest sha a).length = ('-' :: keyDigest sha b).length := by
    rw [List.length_cons, List.length_cons, length_keyDigest hdigest, length_keyDigest hdigest]
  exact (List.cons.inj (List.append_inj' h hlen).2).2

/-- **Which names share a key**: those that fall back, and a name that is written like
the key of the other. -/
theorem branchStorageKey_eq_iff (hab : a ≠ b)
    (hcollision : keyDigest sha a = keyDigest sha b → a = b) :
    branchStorageKey sha a = branchStorageKey sha b ↔
      (FallbackName a ∧ FallbackName b) ∨ NamesKeyOf sha a b ∨ NamesKeyOf sha b a := by
  -- a name without a safe form shares its key with those that fall back
  have hfallback : ∀ a b : List Char, normalizeIdentifierToken a = [] →
      (currentKey = branchStorageKey sha b ↔
        (FallbackName a ∧ FallbackName b) ∨ NamesKeyOf sha a b ∨ NamesKeyOf sha b a) := by
    intro a b ha
    have hnames : ¬ (NamesKeyOf sha a b ∨ NamesKeyOf sha b a) := by
      rintro (h | h)
      · exact h.1.1 ha
      · exact h.2.1.1 ha
    have hself : FallbackName a := Or.inl ha
    rw [or_iff_left hnames, and_iff_right hself]
    rcases name_cases b with hb | hb | hb
    · rw [branchStorageKey_of_nil hb]
      exact iff_of_true rfl (Or.inl hb)
    · rw [branchStorageKey_of_safe hb, hb.fallback_iff]
      exact eq_comm
    · rw [branchStorageKey_of_hashed hb]
      exact iff_of_false (hashedKey_ne_currentKey hdigest b).symm hb.not_fallback
  -- a safe name and one with a digest
  have hmixed : ∀ a b : List Char, SafeName a → HashedName b →
      (a = hashedKey sha b ↔
        (FallbackName a ∧ FallbackName b) ∨ NamesKeyOf sha a b ∨ NamesKeyOf sha b a) := by
    intro a b ha hb
    have hnot : ¬ (FallbackName a ∧ FallbackName b) := fun h => hb.not_fallback h.2
    have hnames : ¬ NamesKeyOf sha b a := fun h => h.1.not_hashed hb
    rw [or_iff_right hnot, or_iff_left hnames]
    exact ⟨fun h => ⟨ha, hb, h⟩, fun h => h.2.2⟩
  rcases name_cases a with ha | ha | ha
  · rw [branchStorageKey_of_nil ha]
    exact hfallback a b ha
  · rcases name_cases b with hb | hb | hb
    · rw [branchStorageKey_of_nil hb, eq_comm, hfallback b a hb]
      exact or_congr and_comm or_comm
    · rw [branchStorageKey_of_safe ha, branchStorageKey_of_safe hb]
      refine iff_of_false hab ?_
      rintro (⟨hfa, hfb⟩ | h | h)
      · exact hab ((ha.fallback_iff.mp hfa).trans (hb.fallback_iff.mp hfb).symm)
      · exact hb.not_hashed h.2.1
      · exact ha.not_hashed h.2.1
    · rw [branchStorageKey_of_safe ha, branchStorageKey_of_hashed hb]
      exact hmixed a b ha hb
  · rcases name_cases b with hb | hb | hb
    · rw [branchStorageKey_of_nil hb, eq_comm, hfallback b a hb]
      exact or_congr and_comm or_comm
    · rw [branchStorageKey_of_hashed ha, branchStorageKey_of_safe hb, eq_comm, hmixed b a hb ha]
      exact or_congr and_comm or_comm
    · rw [branchStorageKey_of_hashed ha, branchStorageKey_of_hashed hb]
      refine iff_of_false (fun h => hab (hcollision (keyDigest_of_hashedKey_eq hdigest h))) ?_
      rintro (⟨hfa, _⟩ | h | h)
      · exact ha.not_fallback hfa
      · exact h.1.not_hashed ha
      · exact h.1.not_hashed hb

end

/-! ### Isolation -/

/-- The directory of a branch, behind that of the repository. -/
theorem resolve_harnessBranchRoot (sha : Sha256Hex) (stateDir : Components)
    (repoSlug branchName : List Char) :
    resolve (harnessBranchRoot sha stateDir repoSlug branchName) =
      enterComponent (enterComponent (resolve (stateDir ++ ["projects".toList, repoSlug]) ++
        ["branches".toList]) (branchStorageKey sha branchName)) "execution-harness".toList := by
  have hbranches : ∀ d : Components, enterComponent d "branches".toList =
      d ++ ["branches".toList] := by
    intro d
    rw [enterComponent, if_neg (by decide), if_neg (by decide)]
  rw [resolve, harnessBranchRoot, resolve, List.foldl_append, List.foldl_append]
  simp only [List.foldl_cons, List.foldl_nil, hbranches]

/-- Directories differ where the keys do. -/
theorem enterComponent_injective (d : Components) (c : List Char) {k k' : List Char}
    (h : enterComponent (enterComponent (d ++ [c]) k) "execution-harness".toList =
      enterComponent (enterComponent (d ++ [c]) k') "execution-harness".toList) : k = k' := by
  have hleaf : ∀ d : Components, enterComponent d "execution-harness".toList =
      d ++ ["execution-harness".toList] := by
    intro d
    rw [enterComponent, if_neg (by decide), if_neg (by decide)]
  rw [hleaf, hleaf, List.append_cancel_right_eq] at h
  have hdot : enterComponent (d ++ [c]) ['.'] = d ++ [c] := if_pos rfl
  have hdots : enterComponent (d ++ [c]) ['.', '.'] = d := by
    rw [enterComponent, if_neg (by decide), if_pos rfl, List.dropLast_concat]
  have hname : ∀ k, k ≠ ['.'] → k ≠ ['.', '.'] →
      enterComponent (d ++ [c]) k = d ++ [c] ++ [k] := by
    intro k h₁ h₂
    rw [enterComponent, if_neg h₁, if_neg h₂]
  -- the directory of `.` is one shorter than that of a name, that of `..` two
  have hlen := congrArg List.length h
  by_cases h₁ : k = ['.']
  · by_cases h₂ : k' = ['.']
    · rw [h₁, h₂]
    · exfalso
      by_cases h₃ : k' = ['.', '.']
      · rw [h₁, h₃, hdot, hdots, List.length_append, List.length_singleton] at hlen
        omega
      · rw [h₁, hdot, hname k' h₂ h₃] at hlen
        simp at hlen
  · by_cases h₂ : k = ['.', '.']
    · by_cases h₃ : k' = ['.']
      · exfalso
        rw [h₂, h₃, hdot, hdots, List.length_append, List.length_singleton] at hlen
        omega
      · by_cases h₄ : k' = ['.', '.']
        · rw [h₂, h₄]
        · exfalso
          rw [h₂, hdots, hname k' h₃ h₄] at hlen
          simp at hlen
    · by_cases h₃ : k' = ['.']
      · exfalso
        rw [h₃, hdot, hname k h₁ h₂] at hlen
        simp at hlen
      · by_cases h₄ : k' = ['.', '.']
        · exfalso
          rw [h₄, hdots, hname k h₁ h₂] at hlen
          simp at hlen
        · rw [hname k h₁ h₂, hname k' h₃ h₄, List.append_cancel_left_eq] at h
          exact (List.cons.inj h).1

/-- **The state of two branches is apart just where their names do not meet in a key**: both
falling back to `current`, or one being written like the key of the other. -/
theorem branch_isolation_iff {sha : Sha256Hex} (hdigest : ∀ t, 12 ≤ (sha t).toList.length)
    (stateDir : Components) (repoSlug : List Char) {a b : List Char} (hab : a ≠ b)
    (hcollision : keyDigest sha a = keyDigest sha b → a = b) :
    resolve (harnessBranchRoot sha stateDir repoSlug a) ≠
        resolve (harnessBranchRoot sha stateDir repoSlug b) ↔
      ¬ (FallbackName a ∧ FallbackName b) ∧ ¬ NamesKeyOf sha a b ∧ ¬ NamesKeyOf sha b a := by
  have hkeys : resolve (harnessBranchRoot sha stateDir repoSlug a) =
      resolve (harnessBranchRoot sha stateDir repoSlug b) ↔
        branchStorageKey sha a = branchStorageKey sha b := by
    rw [resolve_harnessBranchRoot, resolve_harnessBranchRoot]
    exact ⟨fun h => enterComponent_injective _ _ h, fun h => by rw [h]⟩
  rw [ne_eq, hkeys, branchStorageKey_eq_iff hdigest hab hcollision, not_or, not_or]

namespace SampleBranch

/-- A digest that shows the text itself. -/
def sha : Sha256Hex := fun text => String.ofList (text ++ List.replicate 12 '0')

theorem length_sha (t : List Char) : 12 ≤ (sha t).toList.length := by
  rw [sha, String.toList_ofList, List.length_append, List.length_replicate]
  omega

end SampleBranch

/-- The branches `main` and `feature/x`. -/
theorem branch_isolation_main_feature :
    resolve (harnessBranchRoot SampleBranch.sha [] "repo".toList "main".toList) ≠
      resolve (harnessBranchRoot SampleBranch.sha [] "repo".toList "feature/x".toList) := by
  refine (branch_isolation_iff SampleBranch.length_sha [] "repo".toList (by decide)
    (fun h => absurd h (by decide))).mpr ⟨?_, ?_, ?_⟩
  · rintro ⟨hmain | hmain, _⟩
    · exact absurd hmain (by decide)
    · exact absurd hmain (by decide)
  · rintro ⟨_, _, h⟩
    exact absurd h (by decide)
  · rintro ⟨⟨_, h⟩, _⟩
    exact absurd h (by decide)

/-- The branches `é` and `ü` have no safe form, and share their state. -/
theorem not_branch_isolation :
    ¬ ∀ (sha : Sha256Hex), (∀ t, 12 ≤ (sha t).toList.length) →
      ∀ (stateDir : Components) (repoSlug a b : List Char), a ≠ [] → b ≠ [] → a ≠ b →
        (keyDigest sha a = keyDigest sha b → a = b) →
        resolve (harnessBranchRoot sha stateDir repoSlug a) ≠
          resolve (harnessBranchRoot sha stateDir repoSlug b) := by
  intro h
  refine h SampleBranch.sha SampleBranch.length_sha [] "repo".toList ['é'] ['ü'] (by decide)
    (by decide) (by decide) (fun hd => absurd hd (by decide)) ?_
  decide

end FeatureForge
