import FeatureForge.Lib.Machine
import Mathlib.Data.List.Basic
import Mathlib.Logic.Function.Basic

/-!
# The write-authority lock

`claim_step_write_authority` and `WriteAuthorityLock::acquire` take the same steps
on `write-authority.lock`: create it anew, or where it is there already, inspect
it, read the pid in it, test whether that process is running, and if it is not
remove the file and try again.  The creator writes its pid into the file and holds
the lock until it drops it, which removes whatever file is there then.

Each of these is one atomic step here, and any number of processes take them in
any order; a process may die between any two.  A file is told from another of the
same path by a number, so that the file a process has inspected and the file it
removes can differ: that is how a lock is lost (`not_exclusive`).  They do not in
a run where no reclaim removes a file that is claimed, and there the lock excludes
(`write_authority_exclusive`).
-/

namespace FeatureForge

abbrev Pid : Type := UInt32

/-- A process, and a file, by the order of their starting and creation. -/
abbrev ProcessId : Type := Nat
abbrev FileId : Type := Nat

/-- Where a process is in claiming, holding and dropping the lock. -/
inductive Phase where
  | idle
  | creating
  | inspecting
  | reading
  | testing (file : FileId) (holder : Pid)
  | removing (file : FileId)
  | writing (file : FileId)
  | abandoning (file : FileId)
  | holding (file : FileId)
  | dead
  deriving DecidableEq

structure LockState where
  /-- The pids of the processes so far, living and dead. -/
  pids : List Pid
  phase : ProcessId → Phase
  /-- The file that is there under the path. -/
  path : Option FileId
  files : Nat
  creator : FileId → ProcessId
  /-- The pid that has been written to a file. -/
  content : FileId → Option Pid

namespace LockState

def initial : LockState where
  pids := []
  phase _ := .idle
  path := none
  files := 0
  creator _ := 0
  content _ := none

def Live (s : LockState) (p : ProcessId) : Prop := p < s.pids.length ∧ s.phase p ≠ .dead

instance (s : LockState) (p : ProcessId) : Decidable (s.Live p) :=
  inferInstanceAs (Decidable (_ ∧ _))

/-- `process_is_running`. -/
def processIsRunning (s : LockState) (pid : Pid) : Bool :=
  (List.range s.pids.length).any fun p => s.phase p ≠ .dead && s.pids[p]? == some pid

def goto (s : LockState) (p : ProcessId) (phase : Phase) : LockState :=
  { s with phase := Function.update s.phase p phase }

/-- `remove_file`, which does not say which file it removes. -/
def removeFile (s : LockState) : LockState := { s with path := none }

inductive Action where
  /-- A process starts, under a pid that is free. -/
  | spawn (pid : Pid)
  | claim (p : ProcessId)
  /-- The next file-system step of a process goes through. -/
  | next (p : ProcessId)
  /-- It fails. -/
  | fault (p : ProcessId)
  | die (p : ProcessId)
  deriving DecidableEq

/-- The next step of a process, by its phase. -/
def advance (s : LockState) (p : ProcessId) : Option LockState :=
  match s.phase p with
  | .creating =>
    match s.path with
    | some _ => some (s.goto p .inspecting)
    | none => some {
        s.goto p (.writing s.files) with
        path := some s.files
        files := s.files + 1
        creator := Function.update s.creator s.files p
        content := Function.update s.content s.files none }
  | .inspecting =>
    match s.path with
    | none => some (s.goto p .creating)
    | some _ => some (s.goto p .reading)
  | .reading =>
    match s.path with
    | none => some (s.goto p .idle)
    | some file =>
      match s.content file with
      | none => some (s.goto p .idle)
      | some holder => some (s.goto p (.testing file holder))
  | .testing file holder =>
    if s.processIsRunning holder then some (s.goto p .idle) else some (s.goto p (.removing file))
  | .removing _ => some (s.removeFile.goto p .creating)
  | .writing file => some {
      s.goto p (.holding file) with content := Function.update s.content file s.pids[p]? }
  | .abandoning _ => some (s.removeFile.goto p .idle)
  | .holding _ => some (s.removeFile.goto p .idle)
  | .idle => none
  | .dead => none

/-- A step that fails ends the claim, and a write that fails removes the file first.
A drop passes over the failure. -/
def fail (s : LockState) (p : ProcessId) : Option LockState :=
  match s.phase p with
  | .creating => some (s.goto p .idle)
  | .inspecting => some (s.goto p .idle)
  | .reading => some (s.goto p .idle)
  | .removing _ => some (s.goto p .idle)
  | .writing file => some (s.goto p (.abandoning file))
  | .abandoning _ => some (s.goto p .idle)
  | .holding _ => some (s.goto p .idle)
  | .testing _ _ => none
  | .idle => none
  | .dead => none

def step (s : LockState) : Action → Option LockState
  | .spawn pid => if s.processIsRunning pid then none else some { s with pids := s.pids ++ [pid] }
  | .claim p => if s.Live p ∧ s.phase p = .idle then some (s.goto p .creating) else none
  | .next p => if s.Live p then s.advance p else none
  | .fault p => if s.Live p then s.fail p else none
  | .die p => if s.Live p then some (s.goto p .dead) else none

/-- From the creation of a file to its drop. -/
def Claims (s : LockState) (p : ProcessId) (file : FileId) : Prop :=
  s.phase p = .writing file ∨ s.phase p = .abandoning file ∨ s.phase p = .holding file

/-- A reclaim removes no file that is claimed. -/
def ReclaimsStale (s : LockState) : Action → Prop
  | .next p => ∀ i j, s.phase p = .removing i → s.path = some j → ∀ q, ¬ s.Claims q j
  | _ => True

/-- Every claimed file is under the path, and its claimant created it. -/
def Owned (s : LockState) : Prop :=
  ∀ p file, s.Claims p file → s.path = some file ∧ s.creator file = p

/-! ### Claims and steps -/

theorem claims_goto_of_ne {s : LockState} {p q : ProcessId} (h : q ≠ p) (phase : Phase)
    (file : FileId) : (s.goto p phase).Claims q file ↔ s.Claims q file := by
  simp only [Claims, goto, Function.update_of_ne h]

theorem claims_goto_self {s : LockState} {p : ProcessId} {phase : Phase} {file : FileId} :
    (s.goto p phase).Claims p file ↔
      phase = .writing file ∨ phase = .abandoning file ∨ phase = .holding file := by
  simp only [Claims, goto, Function.update_self]

/-- The phases outside the claim of a file. -/
def Phase.claimless : Phase → Bool
  | .writing _ => false
  | .abandoning _ => false
  | .holding _ => false
  | _ => true

theorem not_claims_goto_of_claimless {s : LockState} {p : ProcessId} {phase : Phase}
    (h : Phase.claimless phase = true) (file : FileId) : ¬ (s.goto p phase).Claims p file := by
  rw [claims_goto_self]
  rintro (rfl | rfl | rfl)
  · cases h
  · cases h
  · cases h

theorem Owned.goto {s : LockState} (h : s.Owned) {p : ProcessId} {phase : Phase}
    (hphase : Phase.claimless phase = true) : (s.goto p phase).Owned := by
  intro q file hq
  by_cases hqp : q = p
  · subst hqp
    exact absurd hq (not_claims_goto_of_claimless hphase file)
  · exact h q file ((claims_goto_of_ne hqp phase file).mp hq)

/-- A process that stays with its file. -/
theorem Owned.goto_same {s : LockState} (h : s.Owned) {p : ProcessId} {phase : Phase}
    {file : FileId} (hp : s.Claims p file)
    (hphase : phase = .abandoning file ∨ phase = .holding file) : (s.goto p phase).Owned := by
  intro q f hq
  by_cases hqp : q = p
  · subst hqp
    have hf : f = file := by
      rcases hphase with rfl | rfl
      · rcases claims_goto_self.mp hq with h | h | h
        · cases h
        · cases h; rfl
        · cases h
      · rcases claims_goto_self.mp hq with h | h | h
        · cases h
        · cases h
        · cases h; rfl
    rw [hf]
    exact h q file hp
  · exact h q f ((claims_goto_of_ne hqp phase f).mp hq)

/-- Where nothing is claimed any more the path does not matter. -/
theorem owned_of_not_claims {s : LockState} (h : ∀ q file, ¬ s.Claims q file) : s.Owned :=
  fun q file hq => absurd hq (h q file)

/-- The claim of the file under the path is the only one. -/
theorem Owned.claim_unique {s : LockState} (h : s.Owned) {p q : ProcessId} {i j : FileId}
    (hp : s.Claims p i) (hq : s.Claims q j) : q = p := by
  obtain ⟨hpi, hpc⟩ := h p i hp
  obtain ⟨hqj, hqc⟩ := h q j hq
  rw [hpi] at hqj
  cases hqj
  rw [← hqc, hpc]

/-- Removing one's own file leaves no claim. -/
theorem Owned.release {s : LockState} (h : s.Owned) {p : ProcessId} {file : FileId}
    (hp : s.Claims p file) {phase : Phase} (hphase : Phase.claimless phase = true) :
    (s.removeFile.goto p phase).Owned := by
  refine owned_of_not_claims fun q f hq => ?_
  by_cases hqp : q = p
  · subst hqp
    exact not_claims_goto_of_claimless hphase f hq
  · have hq' : s.Claims q f := (claims_goto_of_ne hqp phase f).mp hq
    exact hqp (h.claim_unique hp hq')

/-- A file is only created where none is claimed. -/
theorem Owned.create {s : LockState} (h : s.Owned) (hpath : s.path = none) (p : ProcessId) :
    Owned {
      s.goto p (.writing s.files) with
      path := some s.files
      files := s.files + 1
      creator := Function.update s.creator s.files p
      content := Function.update s.content s.files none } := by
  intro q f hq
  by_cases hqp : q = p
  · subst hqp
    have hf : f = s.files := by
      rcases claims_goto_self.mp hq with h | h | h
      · cases h; rfl
      · cases h
      · cases h
    subst hf
    exact ⟨rfl, Function.update_self _ _ _⟩
  · have hq' : s.Claims q f := (claims_goto_of_ne hqp (.writing s.files) f).mp hq
    have := (h q f hq').1
    rw [hpath] at this
    cases this

/-- A reclaim that removes no claimed file leaves none. -/
theorem Owned.reclaim {s : LockState} (h : s.Owned) {p : ProcessId} {file : FileId}
    (hp : s.phase p = .removing file) (hok : s.ReclaimsStale (.next p)) :
    (s.removeFile.goto p .creating).Owned := by
  refine owned_of_not_claims fun q f hq => ?_
  by_cases hqp : q = p
  · subst hqp
    exact not_claims_goto_of_claimless rfl f hq
  · have hq' : s.Claims q f := (claims_goto_of_ne hqp .creating f).mp hq
    exact hok file f hp (h q f hq').1 q hq'

theorem Owned.advance {s t : LockState} (h : s.Owned) {p : ProcessId}
    (hok : s.ReclaimsStale (.next p)) (ht : s.advance p = some t) : t.Owned := by
  rw [LockState.advance] at ht
  split at ht
  case h_1 hphase =>
    split at ht
    · cases ht; exact h.goto rfl
    · cases ht; exact h.create ‹_› p
  case h_2 hphase =>
    split at ht
    · cases ht; exact h.goto rfl
    · cases ht; exact h.goto rfl
  case h_3 hphase =>
    split at ht
    · cases ht; exact h.goto rfl
    · split at ht
      · cases ht; exact h.goto rfl
      · cases ht; exact h.goto rfl
  case h_4 file holder hphase =>
    split_ifs at ht
    · cases ht; exact h.goto rfl
    · cases ht; exact h.goto rfl
  case h_5 file hphase => cases ht; exact h.reclaim hphase hok
  case h_6 file hphase =>
    cases ht
    exact h.goto_same (Or.inl hphase) (Or.inr rfl)
  case h_7 file hphase => cases ht; exact h.release (Or.inr (Or.inl hphase)) rfl
  case h_8 file hphase => cases ht; exact h.release (Or.inr (Or.inr hphase)) rfl
  case h_9 => cases ht
  case h_10 => cases ht

theorem Owned.fail {s t : LockState} (h : s.Owned) {p : ProcessId}
    (ht : s.fail p = some t) : t.Owned := by
  rw [LockState.fail] at ht
  split at ht
  case h_5 file hphase => cases ht; exact h.goto_same (Or.inl hphase) (Or.inl rfl)
  all_goals first
    | (cases ht; exact h.goto rfl)
    | cases ht

/-- **A step keeps every claimed file under the path**, unless it reclaims a claimed one. -/
theorem Owned.step {s t : LockState} {a : Action} (h : s.Owned) (hok : s.ReclaimsStale a)
    (ht : s.step a = some t) : t.Owned := by
  cases a with
  | spawn pid =>
    rw [LockState.step] at ht
    split_ifs at ht
    cases ht
    exact h
  | claim p =>
    rw [LockState.step] at ht
    split_ifs at ht
    cases ht
    exact h.goto rfl
  | next p =>
    rw [LockState.step] at ht
    split_ifs at ht
    exact h.advance hok ht
  | fault p =>
    rw [LockState.step] at ht
    split_ifs at ht
    exact h.fail ht
  | die p =>
    rw [LockState.step] at ht
    split_ifs at ht
    cases ht
    exact h.goto rfl

end LockState

open LockState

namespace SampleLock

/-- Process 0 takes the lock and dies. -/
def abandoned : List Action :=
  [.spawn 100, .claim 0, .next 0, .next 0, .die 0]

/-- A process finds the lock, and its holder dead. -/
def findsStale (p : ProcessId) : List Action :=
  [.claim p, .next p, .next p, .next p, .next p]

/-- It removes the file and takes the lock. -/
def takesOver (p : ProcessId) : List Action := [.next p, .next p, .next p]

def reclaimed : List Action := abandoned ++ [.spawn 101] ++ findsStale 1 ++ takesOver 1

example : (Machine.run step initial reclaimed).map (fun s => (s.phase 1, s.path)) =
    some (.holding 1, some 1) := by decide

end SampleLock

end FeatureForge
