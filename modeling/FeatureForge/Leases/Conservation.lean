import FeatureForge.Leases.Release
import FeatureForge.Lib.Except

/-!
# Releases conserve leases

A release either does nothing or splits the active leases at the decision: what it does then is
one function of the decision (`releaseApplication_eq_ok`, `applyRelease`), and the two lists of
active leases and the list of records are followed through it one by one (`ReleaseSplit`).  The
records added are unique, so a lease gets one unless it has some already
(`length_releasesOf_foldl`).  After the split none of the leases decided on is active, so the
same decision changes nothing more (`releaseApplication_of_split`).
-/

namespace FeatureForge

namespace LeaseIndex

/-- The lease is active, by its fingerprint or by a binding. -/
def Active (s : LeaseIndex) (fingerprint : String) : Prop :=
  fingerprint ∈ s.fingerprints ∨ fingerprint ∈ s.bindings.map (·.leaseFingerprint)

end LeaseIndex

/-- The records of the releases of a lease in a run. -/
def releasesOf (run fingerprint : String) (records : List WorktreeLeaseReleaseRecord) :
    List WorktreeLeaseReleaseRecord :=
  records.filter fun record => record.executionRunId = run && record.leaseFingerprint = fingerprint

/-- The active leases are split at the decision, and what is released is recorded. -/
structure ReleaseSplit (run : String) (decided : List String) (s s' : LeaseIndex) : Prop where
  identity : s'.runIdentity = s.runIdentity ∧ s'.chunkId = s.chunkId
  fingerprints : s'.activeWorktreeLeaseFingerprints = some (s.fingerprints.filter (· ∉ decided))
  bindings : s'.activeWorktreeLeaseBindings =
    some (s.bindings.filter (·.leaseFingerprint ∉ decided))
  history : s.records <+: s'.records
  released : ∀ fingerprint ∈ decided, s.Active fingerprint →
    (releasesOf run fingerprint s'.records).length =
      max 1 (releasesOf run fingerprint s.records).length
  kept : ∀ fingerprint, ¬(fingerprint ∈ decided ∧ s.Active fingerprint) →
    s'.records.filter (·.leaseFingerprint = fingerprint) =
      s.records.filter (·.leaseFingerprint = fingerprint)

/-! ### Records -/

theorem mem_removedFingerprints {s : LeaseIndex} {decided : List String} {fingerprint : String} :
    fingerprint ∈ removedFingerprints s.fingerprints s.bindings decided ↔
      fingerprint ∈ decided ∧ s.Active fingerprint := by
  rw [removedFingerprints, List.mem_append, List.mem_filter, List.mem_filter, decide_eq_true_iff,
    LeaseIndex.Active]
  tauto

theorem any_sameRelease {records : List WorktreeLeaseReleaseRecord}
    {record : WorktreeLeaseReleaseRecord} : records.any (sameRelease record) = true ↔
      releasesOf record.executionRunId record.leaseFingerprint records ≠ [] := by
  rw [List.any_eq_true]
  constructor
  · rintro ⟨existing, hexisting, hsame⟩
    exact List.ne_nil_of_mem (List.mem_filter.mpr ⟨hexisting, hsame⟩)
  · intro h
    obtain ⟨existing, hexisting⟩ := List.exists_mem_of_ne_nil _ h
    obtain ⟨hmem, hsame⟩ := List.mem_filter.mp hexisting
    exact ⟨existing, hmem, hsame⟩

theorem prefix_addRelease (records : List WorktreeLeaseReleaseRecord)
    (record : WorktreeLeaseReleaseRecord) : records <+: addRelease records record := by
  unfold addRelease
  split_ifs
  · exact List.prefix_rfl
  · exact List.prefix_append _ _

/-- One record more: the lease it is about has at least one then, and no more than before. -/
theorem length_releasesOf_addRelease (run fingerprint : String)
    (records : List WorktreeLeaseReleaseRecord) (record : WorktreeLeaseReleaseRecord) :
    (releasesOf run fingerprint (addRelease records record)).length =
      if record.executionRunId = run ∧ record.leaseFingerprint = fingerprint then
        max 1 (releasesOf run fingerprint records).length
      else (releasesOf run fingerprint records).length := by
  unfold addRelease
  by_cases hrecord : record.executionRunId = run ∧ record.leaseFingerprint = fingerprint
  · obtain ⟨rfl, rfl⟩ := hrecord
    rw [if_pos (And.intro rfl rfl)]
    split_ifs with hany
    · have hpos := List.length_pos_iff.mpr (any_sameRelease.mp hany)
      omega
    · rw [any_sameRelease, not_not] at hany
      have hadded : releasesOf record.executionRunId record.leaseFingerprint [record] = [record] := by
        simp [releasesOf]
      rw [hany, releasesOf, List.filter_append, ← releasesOf, ← releasesOf, hany, hadded]
      rfl
  · rw [if_neg hrecord]
    split_ifs
    · rfl
    · have hadded : releasesOf run fingerprint [record] = [] := by
        simpa [releasesOf] using hrecord
      rw [releasesOf, List.filter_append, ← releasesOf, ← releasesOf, hadded, List.append_nil]

/-- **Each lease that is released has a record then**, and only one where it had none. -/
theorem length_releasesOf_foldl {run fingerprint : String} :
    ∀ {released records : List WorktreeLeaseReleaseRecord},
      (∀ record ∈ released, record.executionRunId = run) →
      (∃ record ∈ released, record.leaseFingerprint = fingerprint) →
      (releasesOf run fingerprint (released.foldl addRelease records)).length =
        max 1 (releasesOf run fingerprint records).length := by
  have hmax : ∀ (released records : List WorktreeLeaseReleaseRecord),
      1 ≤ (releasesOf run fingerprint records).length →
      (releasesOf run fingerprint (released.foldl addRelease records)).length =
        (releasesOf run fingerprint records).length := by
    intro released
    induction released with
    | nil => intro records _; rfl
    | cons record released ih =>
      intro records hpos
      have hstep := length_releasesOf_addRelease run fingerprint records record
      split_ifs at hstep
      · rw [List.foldl_cons, ih _ (by omega), hstep]
        omega
      · rw [List.foldl_cons, ih _ (by omega), hstep]
  intro released
  induction released with
  | nil =>
    rintro records - ⟨record, hrecord, -⟩
    exact absurd hrecord List.not_mem_nil
  | cons record released ih =>
    intro records hrun hreleased
    have hstep := length_releasesOf_addRelease run fingerprint records record
    rw [List.foldl_cons]
    by_cases hrecord : record.leaseFingerprint = fingerprint
    · rw [if_pos ⟨hrun record List.mem_cons_self, hrecord⟩] at hstep
      rw [hmax released _ (by omega), hstep]
    · rw [if_neg fun h => hrecord h.2] at hstep
      rw [ih (fun r hr => hrun r (List.mem_cons_of_mem _ hr)) ?_, hstep]
      obtain ⟨r, hr, hfingerprint⟩ := hreleased
      rcases List.mem_cons.mp hr with rfl | hr
      · exact absurd hfingerprint hrecord
      · exact ⟨r, hr, hfingerprint⟩

theorem prefix_foldl_addRelease (released records : List WorktreeLeaseReleaseRecord) :
    records <+: released.foldl addRelease records := by
  refine List.foldlRecOn
    (motive := fun after : List WorktreeLeaseReleaseRecord => records <+: after) released _
    List.prefix_rfl ?_
  intro after hkeeps record _
  exact hkeeps.trans (prefix_addRelease after record)

theorem filter_foldl_addRelease {fingerprint : String}
    {released records : List WorktreeLeaseReleaseRecord}
    (h : ∀ record ∈ released, record.leaseFingerprint ≠ fingerprint) :
    (released.foldl addRelease records).filter (·.leaseFingerprint = fingerprint) =
      records.filter (·.leaseFingerprint = fingerprint) := by
  refine List.foldlRecOn
    (motive := fun after : List WorktreeLeaseReleaseRecord =>
      after.filter (·.leaseFingerprint = fingerprint) =
        records.filter (·.leaseFingerprint = fingerprint)) released _ rfl ?_
  intro after hafter record hrecord
  unfold addRelease
  split_ifs
  · exact hafter
  · rw [List.filter_append, hafter, List.filter_cons_of_neg (by simpa using h record hrecord)]
    exact List.append_nil _

/-! ### What a release comes to -/

theorem validate_record_run {identity : RunIdentitySnapshot} {record : WorktreeLeaseReleaseRecord}
    (h : validateWorktreeLeaseReleaseRecord identity record = .ok ()) :
    record.executionRunId = identity.executionRunId := by
  by_contra hrun
  rw [validateWorktreeLeaseReleaseRecord, if_pos hrun] at h
  cases h

/-- What an application takes out and records, by the decision it comes from. -/
structure Applies (identity : RunIdentitySnapshot) (decision : WorktreeLeaseReleaseDecision)
    (s : LeaseIndex) (application : WorktreeLeaseReleaseApplication) : Prop where
  releasedBy : application.releasedBy = decision.releasedBy
  removed : ∀ fingerprint, fingerprint ∈ application.removedFingerprints ↔
    fingerprint ∈ decision.leaseFingerprints ∧ s.Active fingerprint
  run : ∀ record ∈ application.releaseRecords, record.executionRunId = identity.executionRunId
  records : ∀ record ∈ application.releaseRecords,
    record.leaseFingerprint ∈ application.removedFingerprints
  recorded : ∀ fingerprint ∈ application.removedFingerprints,
    ∃ record ∈ application.releaseRecords, record.leaseFingerprint = fingerprint

theorem applies_of_prepare {identity : RunIdentitySnapshot} {decision : WorktreeLeaseReleaseDecision}
    {s : LeaseIndex} {application : WorktreeLeaseReleaseApplication}
    (h : prepareWorktreeLeaseReleaseApplication identity s.fingerprints s.bindings decision =
      .ok (some application)) : Applies identity decision s application := by
  unfold prepareWorktreeLeaseReleaseApplication at h
  dsimp only at h
  split_ifs at h with _ hrecorded
  · cases h
  · obtain ⟨⟨⟩, hvalid, happlication⟩ := bind_eq_ok.mp h
    obtain rfl := Option.some.inj (Except.ok.inj happlication)
    exact
      { releasedBy := rfl
        removed := fun fingerprint => mem_removedFingerprints
        run := fun record hrecord => validate_record_run (forM_eq_ok.mp hvalid record hrecord)
        records := fun record hrecord => of_decide_eq_true (List.mem_filter.mp hrecord).2
        recorded := hrecorded }

theorem releaseApplication_eq_ok {computeRelease : ComputeRelease} {s : LeaseIndex}
    {application : Option WorktreeLeaseReleaseApplication} :
    releaseApplication computeRelease s = .ok application ↔
      ∃ identity chunkId decision, s.runIdentity = some identity ∧ s.chunkId = some chunkId ∧
        validateSafeIdentifierToken identity.executionRunId "execution_run_id" = .ok () ∧
        validateSafeIdentifierToken chunkId "chunk_id" = .ok () ∧
        validateWorktreeLeaseBindings identity s.bindings = .ok () ∧
        computeRelease identity s.fingerprints s.bindings = .ok decision ∧
        prepareWorktreeLeaseReleaseApplication identity s.fingerprints s.bindings decision =
          .ok application := by
  unfold releaseApplication
  cases hidentity : s.runIdentity with
  | none => exact iff_of_false nofun (by rintro ⟨_, _, _, h, -⟩; cases h)
  | some identity =>
    cases hchunk : s.chunkId with
    | none => exact iff_of_false nofun (by rintro ⟨_, _, _, -, h, -⟩; cases h)
    | some chunkId =>
      simp only [bind_eq_ok]
      constructor
      · rintro ⟨⟨⟩, hrun, ⟨⟩, hid, ⟨⟩, hbindings, decision, hdecision, h⟩
        exact ⟨identity, chunkId, decision, rfl, rfl, hrun, hid, hbindings, hdecision, h⟩
      · rintro ⟨_, _, decision, ⟨⟩, ⟨⟩, hrun, hid, hbindings, hdecision, h⟩
        exact ⟨(), hrun, (), hid, (), hbindings, decision, hdecision, h⟩

/-! ### The split -/

theorem records_applyRelease (application : WorktreeLeaseReleaseApplication) (s : LeaseIndex) :
    (applyRelease application s).records =
      application.releaseRecords.foldl addRelease s.records := by
  unfold applyRelease appendUniqueWorktreeLeaseReleaseRecords
  split_ifs with hnil
  · rw [hnil]
    rfl
  · rfl

theorem lists_applyRelease (application : WorktreeLeaseReleaseApplication) (s : LeaseIndex) :
    (applyRelease application s).runIdentity = s.runIdentity ∧
    (applyRelease application s).chunkId = s.chunkId ∧
    (applyRelease application s).activeWorktreeLeaseFingerprints =
      some (s.fingerprints.filter (· ∉ application.removedFingerprints)) ∧
    (applyRelease application s).activeWorktreeLeaseBindings =
      some (s.bindings.filter (·.leaseFingerprint ∉ application.removedFingerprints)) := by
  unfold applyRelease appendUniqueWorktreeLeaseReleaseRecords
  split_ifs <;> exact ⟨rfl, rfl, rfl, rfl⟩

/-- **An application splits the active leases.** -/
theorem split_of_applies {identity : RunIdentitySnapshot} {decision : WorktreeLeaseReleaseDecision}
    {s : LeaseIndex} {application : WorktreeLeaseReleaseApplication}
    (h : Applies identity decision s application) :
    ReleaseSplit identity.executionRunId decision.leaseFingerprints s
      (applyRelease application s) := by
  obtain ⟨hidentity, hchunk, hfingerprints, hbindings⟩ := lists_applyRelease application s
  have hrecords := records_applyRelease application s
  exact
    { identity := ⟨hidentity, hchunk⟩
      fingerprints := by
        rw [hfingerprints]
        congr 1
        refine List.filter_congr fun fingerprint hmem => ?_
        simp only [h.removed, LeaseIndex.Active, hmem, true_or, and_true]
      bindings := by
        rw [hbindings]
        congr 1
        refine List.filter_congr fun binding hmem => ?_
        have hactive : s.Active binding.leaseFingerprint :=
          Or.inr (List.mem_map_of_mem hmem)
        simp only [h.removed, hactive, and_true]
      history := by
        rw [hrecords]
        exact prefix_foldl_addRelease _ _
      released := by
        intro fingerprint hdecided hactive
        rw [hrecords]
        exact length_releasesOf_foldl h.run
          (h.recorded fingerprint ((h.removed fingerprint).mpr ⟨hdecided, hactive⟩))
      kept := by
        intro fingerprint hkept
        rw [hrecords]
        refine filter_foldl_addRelease ?_
        rintro record hrecord rfl
        exact hkept ((h.removed _).mp (h.records record hrecord)) }

/-- **The same decision releases nothing more.** -/
theorem releaseApplication_of_split {identity : RunIdentitySnapshot} {chunkId : String}
    {decision : WorktreeLeaseReleaseDecision} {s s' : LeaseIndex} {computeRelease : ComputeRelease}
    (hsplit : ReleaseSplit identity.executionRunId decision.leaseFingerprints s s')
    (hidentity : s.runIdentity = some identity) (hchunk : s.chunkId = some chunkId)
    (hrun : validateSafeIdentifierToken identity.executionRunId "execution_run_id" = .ok ())
    (hid : validateSafeIdentifierToken chunkId "chunk_id" = .ok ())
    (hbindings : validateWorktreeLeaseBindings identity s.bindings = .ok ())
    (hdecision : computeRelease identity s'.fingerprints s'.bindings = .ok decision) :
    releaseApplication computeRelease s' = .ok none := by
  have hfingerprints : s'.fingerprints =
      s.fingerprints.filter (· ∉ decision.leaseFingerprints) := by
    rw [LeaseIndex.fingerprints, hsplit.fingerprints, Option.getD_some]
  have hkept : s'.bindings =
      s.bindings.filter (·.leaseFingerprint ∉ decision.leaseFingerprints) := by
    rw [LeaseIndex.bindings, hsplit.bindings, Option.getD_some]
  have hremoved : removedFingerprints s'.fingerprints s'.bindings decision.leaseFingerprints =
      [] := by
    rw [List.eq_nil_iff_forall_not_mem]
    intro fingerprint hmem
    obtain ⟨hdecided, hactive⟩ := mem_removedFingerprints.mp hmem
    rcases hactive with hactive | hactive
    · rw [hfingerprints] at hactive
      exact of_decide_eq_true (List.mem_filter.mp hactive).2 hdecided
    · rw [hkept] at hactive
      obtain ⟨binding, hbinding, rfl⟩ := List.mem_map.mp hactive
      exact of_decide_eq_true (List.mem_filter.mp hbinding).2 hdecided
  refine releaseApplication_eq_ok.mpr ⟨identity, chunkId, decision, ?_, ?_, hrun, hid, ?_,
    hdecision, ?_⟩
  · rw [hsplit.identity.1, hidentity]
  · rw [hsplit.identity.2, hchunk]
  · rw [hkept]
    exact forM_eq_ok.mpr fun binding hbinding =>
      forM_eq_ok.mp hbindings binding (List.mem_of_mem_filter hbinding)
  · exact if_pos (Or.inr hremoved)

/-- **Releases conserve leases.**  A release changes nothing, or it splits the active leases at
the decision; repeated, the decision then changes nothing. -/
theorem release_conserves_leases (persist : Option PersistFailure)
    (computeRelease : ComputeRelease) (s : LeaseIndex) :
    let release := releaseActiveWorktreeLeasesWithLockedIndex persist computeRelease s
    (release.2 = s ∧ (release.1 = .ok [] ∨ ∃ failure, release.1 = .error failure)) ∨
    ∃ identity decision, s.runIdentity = some identity ∧
      computeRelease identity s.fingerprints s.bindings = .ok decision ∧
      (release.1 = .ok decision.releasedBy ∨
        ∃ failure, persist = some (.publish failure) ∧ release.1 = .error failure) ∧
      ReleaseSplit identity.executionRunId decision.leaseFingerprints s release.2 ∧
      ∀ persist computeAgain,
        computeAgain identity release.2.fingerprints release.2.bindings = .ok decision →
          releaseActiveWorktreeLeasesWithLockedIndex persist computeAgain release.2 =
            (.ok [], release.2) := by
  intro release
  by_cases hempty : s.fingerprints = [] ∧ s.bindings = []
  · have hrelease : release = (.ok [], s) := if_pos hempty
    exact Or.inl (by rw [hrelease]; exact ⟨rfl, Or.inl rfl⟩)
  · have hrelease : release = _ := if_neg hempty
    cases happlication : releaseApplication computeRelease s with
    | error failure =>
      rw [happlication] at hrelease
      exact Or.inl (by rw [hrelease]; exact ⟨rfl, Or.inr ⟨failure, rfl⟩⟩)
    | ok found =>
      cases found with
      | none =>
        rw [happlication] at hrelease
        exact Or.inl (by rw [hrelease]; exact ⟨rfl, Or.inl rfl⟩)
      | some application =>
        rw [happlication] at hrelease
        obtain ⟨identity, chunkId, decision, hidentity, hchunk, hrun, hid, hbindings, hdecision,
          hprepare⟩ := releaseApplication_eq_ok.mp happlication
        have happlies := applies_of_prepare hprepare
        have hsplit := split_of_applies happlies
        have hrepeat : ∀ persist computeAgain,
            computeAgain identity (applyRelease application s).fingerprints
                (applyRelease application s).bindings = .ok decision →
              releaseActiveWorktreeLeasesWithLockedIndex persist computeAgain
                (applyRelease application s) = (.ok [], applyRelease application s) := by
          intro persist computeAgain hagain
          unfold releaseActiveWorktreeLeasesWithLockedIndex
          split_ifs
          · rfl
          · rw [releaseApplication_of_split hsplit hidentity hchunk hrun hid hbindings hagain]
        cases persist with
        | none =>
          refine Or.inr ⟨identity, decision, hidentity, hdecision, Or.inl ?_, ?_⟩
          · rw [hrelease]
            exact congrArg Except.ok happlies.releasedBy
          · rw [hrelease]
            exact ⟨hsplit, hrepeat⟩
        | some failed =>
          cases failed with
          | append failure => exact Or.inl (by rw [hrelease]; exact ⟨rfl, Or.inr ⟨failure, rfl⟩⟩)
          | publish failure =>
            refine Or.inr ⟨identity, decision, hidentity, hdecision,
              Or.inr ⟨failure, rfl, ?_⟩, ?_⟩
            · rw [hrelease]
            · rw [hrelease]
              exact ⟨hsplit, hrepeat⟩

/-! A lease whose release stands twice in the records. -/

namespace SampleRelease

def record : WorktreeLeaseReleaseRecord where
  executionRunId := "run-1"
  leaseFingerprint := "lease-1"
  sourceTask := 1
  sourceTaskClosureRecordId := "task-closure-1"
  releasedBy := "repair-review-state"

def decision : WorktreeLeaseReleaseDecision where
  releasedBy := [(1, "task-closure-1")]
  leaseFingerprints := ["lease-1"]
  releaseRecords := [record]

def recordedTwice : LeaseIndex where
  runIdentity := some ⟨"run-1", "docs/plan.md", 1⟩
  chunkId := some "chunk-1"
  activeWorktreeLeaseFingerprints := some ["lease-1"]
  activeWorktreeLeaseBindings := none
  releasedWorktreeLeaseRecords := some [record, record]

end SampleRelease

/-- Records that were doubled before stay so; and the event is in the log when the state file
cannot be written. -/
theorem not_release_recorded_once :
    (¬∀ (computeRelease : ComputeRelease) (s : LeaseIndex) (identity : RunIdentitySnapshot)
      (decision : WorktreeLeaseReleaseDecision),
      s.runIdentity = some identity →
      computeRelease identity s.fingerprints s.bindings = .ok decision →
      (releaseActiveWorktreeLeasesWithLockedIndex none computeRelease s).1 =
        .ok decision.releasedBy →
      ∀ fingerprint ∈ decision.leaseFingerprints, s.Active fingerprint →
        (releasesOf identity.executionRunId fingerprint
          (releaseActiveWorktreeLeasesWithLockedIndex none computeRelease s).2.records).length =
            1) ∧
    ¬∀ (persist : Option PersistFailure) (computeRelease : ComputeRelease) (s : LeaseIndex)
      (failure : JsonFailure),
      (releaseActiveWorktreeLeasesWithLockedIndex persist computeRelease s).1 = .error failure →
        (releaseActiveWorktreeLeasesWithLockedIndex persist computeRelease s).2 = s := by
  constructor
  · intro h
    have hone := h (fun _ _ _ => .ok SampleRelease.decision) SampleRelease.recordedTwice _
      SampleRelease.decision rfl rfl rfl "lease-1" List.mem_cons_self (Or.inl List.mem_cons_self)
    exact absurd hone (by decide)
  · intro h
    have hsame := h (some (.publish ⟨.partialAuthoritativeMutation, "Could not publish"⟩))
      (fun _ _ _ => .ok SampleRelease.decision) SampleRelease.recordedTwice _ rfl
    exact absurd hsame (by decide)

end FeatureForge
