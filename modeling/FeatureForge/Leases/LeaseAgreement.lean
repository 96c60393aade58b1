import FeatureForge.Leases.LeaseTruth
import FeatureForge.Lib.Except

/-!
# The gate and the release of leases

Both read the lease that a binding names in one way (`LeaseRead`) and ask for one proof of it.
They differ in the run that they compare the lease with: the gate takes the run of the state as
it is, the release takes the run of the binding, trimmed.  So they agree where the run of the
state is trimmed (`lease_release_agrees`), and nowhere else (`not_both_of_untrimmed`).
-/

namespace FeatureForge

variable {world : LeaseWorld} {context : LeasePlanContext}

/-! ### Checks -/

@[simp] theorem demand_eq_ok {condition : Bool} {failureClass : FailureClass}
    {code message : String} {u : Unit} :
    demand condition failureClass code message = .ok u ↔ condition = true := by
  cases condition with
  | true => exact iff_of_true rfl rfl
  | false => exact iff_of_false nofun nofun

@[simp] theorem demandSome_eq_ok {value : Option String} {failureClass : FailureClass}
    {code message text : String} :
    demandSome value failureClass code message = .ok text ↔ value = some text := by
  cases value with
  | none => exact iff_of_false nofun nofun
  | some value => exact ⟨fun h => congrArg some (Except.ok.inj h), fun h => by cases h; rfl⟩

theorem toOption_eq_some {ε α : Type} {x : Except ε α} {a : α} :
    x.toOption = some a ↔ x = .ok a := by
  cases x with
  | error e => exact iff_of_false nofun nofun
  | ok b => exact ⟨fun h => congrArg Except.ok (Option.some.inj h), fun h => by cases h; rfl⟩

/-! ### Leases that are read -/

/-- The lease that a binding names, and what both the gate and the release ask of its file. -/
structure LeaseRead (world : LeaseWorld) (context : LeasePlanContext)
    (binding : WorktreeLeaseBindingSnapshot) (lease : WorktreeLease) : Prop where
  file : ∃ name source,
    normalizeAuthoritativeArtifactBindingPath binding.leaseArtifactPath "worktree lease" =
      .ok name ∧
    readWorktreeLease world name = .ok (source, lease) ∧
    name = worktreeLeaseFileName world context lease ∧
    validateAuthoritativeWorktreeLeaseFingerprint world source lease
      (world.artifactDisplay name) = .ok ()
  applies : leaseAppliesToCurrentPlanContext context lease = true
  valid : validateWorktreeLease lease = .ok ()

/-- A lease is over. -/
def WorktreeLease.Terminal (lease : WorktreeLease) : Prop :=
  lease.leaseState = .reconciled ∨ lease.leaseState = .cleaned

instance (lease : WorktreeLease) : Decidable lease.Terminal :=
  inferInstanceAs (Decidable (lease.leaseState = .reconciled ∨ lease.leaseState = .cleaned))

variable {runIdentity : RunIdentitySnapshot} {authoritative : WorktreeLeaseAuthoritativeContext}
  {contract : LeaseContract} {contractFingerprint currentHead : String}
  {binding : WorktreeLeaseBindingSnapshot} {lease : WorktreeLease}

/-- What the gate asks for twice is in the proof of a lease that is over. -/
theorem structuredProof_ok {proof : TerminalWorktreeLeaseStructuredProof}
    (h : validateTerminalWorktreeLeaseStructuredProof world context runIdentity authoritative lease
      binding contract contractFingerprint currentHead = .ok proof) :
    (nonBlank authoritative.repoStateBaselineHeadSha).isSome = true ∧
    (nonBlank authoritative.repoStateBaselineWorktreeFingerprint).isSome = true ∧
    trim lease.executionContextKey =
      expectedWorktreeLeaseExecutionContextKey world context runIdentity lease := by
  unfold validateTerminalWorktreeLeaseStructuredProof at h
  obtain ⟨packet, -, h⟩ := bind_eq_ok.mp h
  obtain ⟨_, -, h⟩ := bind_eq_ok.mp h
  obtain ⟨terminal, -, h⟩ := bind_eq_ok.mp h
  obtain ⟨unitContract, -, h⟩ := bind_eq_ok.mp h
  obtain ⟨_, -, h⟩ := bind_eq_ok.mp h
  obtain ⟨checkpoint, -, h⟩ := bind_eq_ok.mp h
  obtain ⟨mode, -, h⟩ := bind_eq_ok.mp h
  obtain ⟨result, -, h⟩ := bind_eq_ok.mp h
  obtain ⟨reconcileProof, -, h⟩ := bind_eq_ok.mp h
  obtain ⟨_, -, h⟩ := bind_eq_ok.mp h
  obtain ⟨_, -, h⟩ := bind_eq_ok.mp h
  obtain ⟨_, -, h⟩ := bind_eq_ok.mp h
  obtain ⟨_, hkey, h⟩ := bind_eq_ok.mp h
  obtain ⟨_, -, h⟩ := bind_eq_ok.mp h
  obtain ⟨_, -, h⟩ := bind_eq_ok.mp h
  obtain ⟨_, -, h⟩ := bind_eq_ok.mp h
  obtain ⟨head, hhead, h⟩ := bind_eq_ok.mp h
  obtain ⟨worktree, hworktree, h⟩ := bind_eq_ok.mp h
  rw [demandText, demandSome_eq_ok] at hhead hworktree
  rw [demand_eq_ok, decide_eq_true_eq] at hkey
  exact ⟨Option.isSome_of_eq_some hhead, Option.isSome_of_eq_some hworktree, hkey⟩

theorem enforceLeaseState_ok :
    enforceLeaseState world context runIdentity authoritative contract contractFingerprint
      currentHead binding lease = .ok () ↔ lease.Terminal ∧
      ∃ proof, validateTerminalWorktreeLeaseStructuredProof world context runIdentity authoritative
        lease binding contract contractFingerprint currentHead = .ok proof := by
  unfold enforceLeaseState WorktreeLease.Terminal
  cases lease.leaseState with
  | «open» | reviewPassedPendingReconcile => exact iff_of_false nofun (by rintro ⟨h | h, _⟩ <;> cases h)
  | reconciled | cleaned =>
    rw [map_eq_ok]
    simp

/-- **What the gate asks of a lease.** -/
theorem enforceWorktreeLease_ok {fingerprint : String} :
    enforceWorktreeLease world context runIdentity authoritative contract contractFingerprint
      currentHead fingerprint binding = .ok () ↔
      ∃ lease, LeaseRead world context binding lease ∧ lease.leaseFingerprint = fingerprint ∧
        lease.executionRunId = runIdentity.executionRunId ∧ lease.Terminal ∧
        ∃ proof, validateTerminalWorktreeLeaseStructuredProof world context runIdentity
          authoritative lease binding contract contractFingerprint currentHead = .ok proof := by
  constructor
  · intro h
    obtain ⟨name, hname, h⟩ := bind_eq_ok.mp h
    obtain ⟨⟨source, lease⟩, hread, h⟩ := bind_eq_ok.mp h
    obtain ⟨_, hfile, h⟩ := bind_eq_ok.mp h
    obtain ⟨_, hfingerprint, h⟩ := bind_eq_ok.mp h
    obtain ⟨_, hrun, h⟩ := bind_eq_ok.mp h
    obtain ⟨_, happlies, h⟩ := bind_eq_ok.mp h
    obtain ⟨_, hvalid, h⟩ := bind_eq_ok.mp h
    obtain ⟨_, -, h⟩ := bind_eq_ok.mp h
    obtain ⟨_, -, h⟩ := bind_eq_ok.mp h
    obtain ⟨_, -, h⟩ := bind_eq_ok.mp h
    obtain ⟨_, hcanonical, h⟩ := bind_eq_ok.mp h
    rw [demand_eq_ok] at hfile hfingerprint hrun happlies
    exact ⟨lease, ⟨⟨name, source, hname, hread, of_decide_eq_true hfile, hcanonical⟩, happlies,
      mapError_eq_ok.mp hvalid⟩, of_decide_eq_true hfingerprint, of_decide_eq_true hrun,
      enforceLeaseState_ok.mp h⟩
  · rintro ⟨lease, ⟨⟨name, source, hname, hread, hfile, hcanonical⟩, happlies, hvalid⟩,
      hfingerprint, hrun, hterminal, proof, hproof⟩
    obtain ⟨hhead, hworktree, hkey⟩ := structuredProof_ok hproof
    refine bind_eq_ok.mpr ⟨name, hname, bind_eq_ok.mpr ⟨(source, lease), hread, ?_⟩⟩
    refine bind_eq_ok.mpr ⟨(), demand_eq_ok.mpr (decide_eq_true hfile), ?_⟩
    refine bind_eq_ok.mpr ⟨(), demand_eq_ok.mpr (decide_eq_true hfingerprint), ?_⟩
    refine bind_eq_ok.mpr ⟨(), demand_eq_ok.mpr (decide_eq_true hrun), ?_⟩
    refine bind_eq_ok.mpr ⟨(), demand_eq_ok.mpr happlies, ?_⟩
    refine bind_eq_ok.mpr ⟨(), mapError_eq_ok.mpr hvalid, ?_⟩
    refine bind_eq_ok.mpr ⟨(), demand_eq_ok.mpr hhead, ?_⟩
    refine bind_eq_ok.mpr ⟨(), demand_eq_ok.mpr hworktree, ?_⟩
    refine bind_eq_ok.mpr ⟨(), demand_eq_ok.mpr (decide_eq_true hkey), ?_⟩
    exact bind_eq_ok.mpr ⟨(), hcanonical, enforceLeaseState_ok.mpr ⟨hterminal, proof, hproof⟩⟩

/-! ### The release -/

theorem guard_eq_some {p : Prop} [Decidable p] {u : Unit} :
    (guard p : Option Unit) = some u ↔ p := by
  unfold guard
  split_ifs with h
  · exact iff_of_true rfl h
  · exact iff_of_false nofun h

theorem loadWorktreeLeaseForRelease_eq_some :
    loadWorktreeLeaseForRelease world context binding = some lease ↔
      LeaseRead world context binding lease ∧
      lease.leaseFingerprint = trim binding.leaseFingerprint ∧
      lease.executionRunId = trim binding.executionRunId := by
  unfold loadWorktreeLeaseForRelease
  constructor
  · intro h
    obtain ⟨name, hname, h⟩ := Option.bind_eq_some_iff.mp h
    obtain ⟨⟨source, read⟩, hread, h⟩ := Option.bind_eq_some_iff.mp h
    obtain ⟨_, hfile, h⟩ := Option.bind_eq_some_iff.mp h
    obtain ⟨_, hfingerprint, h⟩ := Option.bind_eq_some_iff.mp h
    obtain ⟨_, hrun, h⟩ := Option.bind_eq_some_iff.mp h
    obtain ⟨_, happlies, h⟩ := Option.bind_eq_some_iff.mp h
    obtain ⟨_, hvalid, h⟩ := Option.bind_eq_some_iff.mp h
    obtain ⟨_, hcanonical, h⟩ := Option.bind_eq_some_iff.mp h
    obtain rfl := Option.some.inj h
    rw [guard_eq_some] at hfile hfingerprint hrun happlies
    rw [toOption_eq_some] at hname hread hvalid hcanonical
    exact ⟨⟨⟨name, source, hname, hread, hfile, hcanonical⟩, happlies, hvalid⟩, hfingerprint, hrun⟩
  · rintro ⟨⟨⟨name, source, hname, hread, hfile, hcanonical⟩, happlies, hvalid⟩, hfingerprint, hrun⟩
    refine Option.bind_eq_some_iff.mpr ⟨name, toOption_eq_some.mpr hname, ?_⟩
    refine Option.bind_eq_some_iff.mpr ⟨(source, lease), toOption_eq_some.mpr hread, ?_⟩
    refine Option.bind_eq_some_iff.mpr ⟨(), guard_eq_some.mpr hfile, ?_⟩
    refine Option.bind_eq_some_iff.mpr ⟨(), guard_eq_some.mpr hfingerprint, ?_⟩
    refine Option.bind_eq_some_iff.mpr ⟨(), guard_eq_some.mpr hrun, ?_⟩
    refine Option.bind_eq_some_iff.mpr ⟨(), guard_eq_some.mpr happlies, ?_⟩
    refine Option.bind_eq_some_iff.mpr ⟨(), toOption_eq_some.mpr hvalid, ?_⟩
    exact Option.bind_eq_some_iff.mpr ⟨(), toOption_eq_some.mpr hcanonical, rfl⟩

/-- A binding's approved packet is one of some packets, and the contract's. -/
def ApprovedPacket (contract : LeaseContract) (packets : List String)
    (binding : WorktreeLeaseBindingSnapshot) : Prop :=
  ∃ packet ∈ nonBlank binding.approvedTaskPacketFingerprint,
    packet ∈ packets ∧ packet ∈ contract.sourceTaskPacketFingerprints

/-- **What the release asks of a lease.** -/
theorem releasable_eq_some {packets : List String} {fingerprint : String} :
    releasableTerminalWorktreeLeaseFingerprint world context runIdentity authoritative contract
      contractFingerprint currentHead packets binding = some fingerprint ↔
      trim binding.leaseFingerprint = fingerprint ∧ ApprovedPacket contract packets binding ∧
      ∃ lease, LeaseRead world context binding lease ∧
        lease.leaseFingerprint = trim binding.leaseFingerprint ∧
        lease.executionRunId = trim binding.executionRunId ∧ lease.Terminal ∧
        ∃ proof, validateTerminalWorktreeLeaseStructuredProof world context runIdentity
          authoritative lease binding contract contractFingerprint currentHead = .ok proof := by
  unfold releasableTerminalWorktreeLeaseFingerprint
  constructor
  · intro h
    obtain ⟨packet, hpacket, h⟩ := Option.bind_eq_some_iff.mp h
    obtain ⟨_, happroved, h⟩ := Option.bind_eq_some_iff.mp h
    obtain ⟨lease, hlease, h⟩ := Option.bind_eq_some_iff.mp h
    obtain ⟨_, hterminal, h⟩ := Option.bind_eq_some_iff.mp h
    obtain ⟨proof, hproof, h⟩ := Option.bind_eq_some_iff.mp h
    obtain ⟨hread, hfingerprint, hrun⟩ := loadWorktreeLeaseForRelease_eq_some.mp hlease
    exact ⟨Option.some.inj h, ⟨packet, hpacket, guard_eq_some.mp happroved⟩, lease, hread,
      hfingerprint, hrun, guard_eq_some.mp hterminal, proof, toOption_eq_some.mp hproof⟩
  · rintro ⟨rfl, ⟨packet, hpacket, happroved⟩, lease, hread, hfingerprint, hrun, hterminal, proof,
      hproof⟩
    refine Option.bind_eq_some_iff.mpr ⟨packet, hpacket, ?_⟩
    refine Option.bind_eq_some_iff.mpr ⟨(), guard_eq_some.mpr happroved, ?_⟩
    refine Option.bind_eq_some_iff.mpr
      ⟨lease, loadWorktreeLeaseForRelease_eq_some.mpr ⟨hread, hfingerprint, hrun⟩, ?_⟩
    refine Option.bind_eq_some_iff.mpr ⟨(), guard_eq_some.mpr hterminal, ?_⟩
    exact Option.bind_eq_some_iff.mpr ⟨proof, toOption_eq_some.mpr hproof, rfl⟩

/-! ### Agreement -/

/-- What has been loaded is there. -/
structure Loaded (authority : LeaseAuthority) (runIdentity : RunIdentitySnapshot)
    (contract : LeaseContract) (contractFingerprint currentHead : String) : Prop where
  run : authority.runIdentity = some runIdentity
  activeContract : authority.activeContract = some (contract, contractFingerprint)
  head : authority.currentHead = some currentHead

/-- The state in which the gate gets to the leases: its run is of the plan, and its contract has
the fingerprint that it is active under. -/
structure GateReached (context : LeasePlanContext) (runIdentity : RunIdentitySnapshot)
    (contract : LeaseContract) (contractFingerprint : String) : Prop where
  planPath : runIdentity.sourcePlanPath = context.planRel
  planRevision : runIdentity.sourcePlanRevision = context.planRevision
  contract : contract.contractFingerprint = contractFingerprint

variable {authority : LeaseAuthority} {executionRunId : Option String}
  {fingerprints : List String} {bindings : List WorktreeLeaseBindingSnapshot} {task : UInt32}

/-- **What is releasable**: the trimmed fingerprints of the bindings of the run that are active
and that the release accepts. -/
theorem mem_releasableFingerprints
    (hloaded : Loaded authority runIdentity contract contractFingerprint currentHead)
    {fingerprint : String} :
    fingerprint ∈ releasableFingerprints world context authority executionRunId fingerprints
      bindings task ↔
      nonBlank executionRunId = some (trim runIdentity.executionRunId) ∧
      GateReached context runIdentity contract contractFingerprint ∧
      ∃ binding ∈ bindings, trim binding.executionRunId = trim runIdentity.executionRunId ∧
        binding.leaseFingerprint ∈ fingerprints ∧
        releasableTerminalWorktreeLeaseFingerprint world context runIdentity
          authority.authoritative contract contractFingerprint currentHead
          (taskPacketFingerprintsForContractTask world contract task) binding =
            some fingerprint := by
  unfold releasableFingerprints
  constructor
  · intro h
    cases hsome : releasableTerminalWorktreeLeaseFingerprints world context authority
      executionRunId fingerprints bindings task with
    | none =>
      rw [hsome] at h
      exact absurd h List.not_mem_nil
    | some released =>
      rw [hsome, Option.getD_some] at h
      obtain ⟨run, hrun, hsome⟩ := Option.bind_eq_some_iff.mp hsome
      obtain ⟨_, -, hsome⟩ := Option.bind_eq_some_iff.mp hsome
      obtain ⟨identity, hidentity, hsome⟩ := Option.bind_eq_some_iff.mp hsome
      obtain ⟨_, hplan, hsome⟩ := Option.bind_eq_some_iff.mp hsome
      obtain ⟨⟨active, activeFingerprint⟩, hactive, hsome⟩ := Option.bind_eq_some_iff.mp hsome
      obtain ⟨_, hcontract, hsome⟩ := Option.bind_eq_some_iff.mp hsome
      obtain ⟨_, -, hsome⟩ := Option.bind_eq_some_iff.mp hsome
      obtain ⟨head, hhead, hsome⟩ := Option.bind_eq_some_iff.mp hsome
      obtain rfl := Option.some.inj hsome
      obtain rfl := Option.some.inj (hidentity.symm.trans hloaded.run)
      obtain ⟨rfl, rfl⟩ := Prod.mk.inj (Option.some.inj (hactive.symm.trans hloaded.activeContract))
      obtain rfl := Option.some.inj (hhead.symm.trans hloaded.head)
      obtain ⟨rfl, hpath, hrevision⟩ := guard_eq_some.mp hplan
      obtain ⟨binding, hbinding, hreleasable⟩ := List.mem_filterMap.mp h
      obtain ⟨hbinding, hactive⟩ := List.mem_filter.mp hbinding
      obtain ⟨hbinding, hsame⟩ := List.mem_filter.mp hbinding
      exact ⟨hrun, ⟨hpath, hrevision, guard_eq_some.mp hcontract⟩, binding, hbinding,
        of_decide_eq_true hsame, of_decide_eq_true hactive, hreleasable⟩
  · rintro ⟨hrun, ⟨hpath, hrevision, hcontract⟩, binding, hbinding, hsame, hactive, hreleasable⟩
    have hpackets : taskPacketFingerprintsForContractTask world contract task ≠ [] := by
      obtain ⟨-, ⟨packet, -, hpacket, -⟩, -⟩ := releasable_eq_some.mp hreleasable
      exact List.ne_nil_of_mem hpacket
    have hsome : releasableTerminalWorktreeLeaseFingerprints world context authority
        executionRunId fingerprints bindings task = some
        (((bindings.filter fun binding => trim binding.executionRunId =
          trim runIdentity.executionRunId).filter
          fun binding => binding.leaseFingerprint ∈ fingerprints).filterMap
            (releasableTerminalWorktreeLeaseFingerprint world context runIdentity
              authority.authoritative contract contractFingerprint currentHead
              (taskPacketFingerprintsForContractTask world contract task))) := by
      refine Option.bind_eq_some_iff.mpr ⟨_, hrun, ?_⟩
      refine Option.bind_eq_some_iff.mpr ⟨(), guard_eq_some.mpr (List.ne_nil_of_mem hactive), ?_⟩
      refine Option.bind_eq_some_iff.mpr ⟨_, hloaded.run, ?_⟩
      refine Option.bind_eq_some_iff.mpr ⟨(), guard_eq_some.mpr ⟨rfl, hpath, hrevision⟩, ?_⟩
      refine Option.bind_eq_some_iff.mpr ⟨_, hloaded.activeContract, ?_⟩
      refine Option.bind_eq_some_iff.mpr ⟨(), guard_eq_some.mpr hcontract, ?_⟩
      refine Option.bind_eq_some_iff.mpr ⟨(), guard_eq_some.mpr hpackets, ?_⟩
      exact Option.bind_eq_some_iff.mpr ⟨_, hloaded.head, rfl⟩
    rw [hsome, Option.getD_some]
    refine List.mem_filterMap.mpr ⟨binding, ?_, hreleasable⟩
    exact List.mem_filter.mpr ⟨List.mem_filter.mpr ⟨hbinding, decide_eq_true hsame⟩,
      decide_eq_true hactive⟩

/-- A lease that the release accepts passes the gate where the run of the state is trimmed. -/
theorem enforce_of_releasable {packets : List String} {fingerprint : String}
    (hnamed : trim runIdentity.executionRunId = runIdentity.executionRunId)
    (hsame : trim binding.executionRunId = trim runIdentity.executionRunId)
    (h : releasableTerminalWorktreeLeaseFingerprint world context runIdentity authoritative contract
      contractFingerprint currentHead packets binding = some fingerprint) :
    enforceWorktreeLease world context runIdentity authoritative contract contractFingerprint
      currentHead fingerprint binding = .ok () := by
  obtain ⟨rfl, -, lease, hread, hfingerprint, hrun, hterminal, hproof⟩ := releasable_eq_some.mp h
  have hown : lease.executionRunId = runIdentity.executionRunId := by rw [hrun, hsame, hnamed]
  exact enforceWorktreeLease_ok.mpr ⟨lease, hread, hfingerprint, hown, hterminal, hproof⟩

/-- A lease that passes the gate is accepted by the release where the run of the state is
trimmed, and so is the binding's. -/
theorem releasable_of_enforce {packets : List String}
    (hnamed : trim runIdentity.executionRunId = runIdentity.executionRunId)
    (hsame : binding.executionRunId = runIdentity.executionRunId)
    (hpacket : ApprovedPacket contract packets binding)
    (h : enforceWorktreeLease world context runIdentity authoritative contract contractFingerprint
      currentHead (trim binding.leaseFingerprint) binding = .ok ()) :
    releasableTerminalWorktreeLeaseFingerprint world context runIdentity authoritative contract
      contractFingerprint currentHead packets binding = some (trim binding.leaseFingerprint) := by
  obtain ⟨lease, hread, hfingerprint, hrun, hterminal, hproof⟩ := enforceWorktreeLease_ok.mp h
  have hown : lease.executionRunId = trim binding.executionRunId := by rw [hrun, hsame, hnamed]
  exact releasable_eq_some.mpr ⟨rfl, hpacket, lease, hread, hfingerprint, hown, hterminal, hproof⟩

/-- **Where the run of the state is not trimmed, no lease both passes the gate and is released.** -/
theorem not_both_of_untrimmed {packets : List String} {fingerprint : String}
    (huntrimmed : trim runIdentity.executionRunId ≠ runIdentity.executionRunId)
    (hsame : trim binding.executionRunId = trim runIdentity.executionRunId)
    (h : releasableTerminalWorktreeLeaseFingerprint world context runIdentity authoritative contract
      contractFingerprint currentHead packets binding = some fingerprint) :
    enforceWorktreeLease world context runIdentity authoritative contract contractFingerprint
      currentHead fingerprint binding ≠ .ok () := by
  intro hgate
  obtain ⟨-, -, lease, hread, -, hrun, -⟩ := releasable_eq_some.mp h
  obtain ⟨lease', hread', -, hrun', -⟩ := enforceWorktreeLease_ok.mp hgate
  have hone : lease = lease' := by
    obtain ⟨name, source, hname, hsource, -⟩ := hread.file
    obtain ⟨name', source', hname', hsource', -⟩ := hread'.file
    obtain rfl := Except.ok.inj (hname.symm.trans hname')
    exact (Prod.mk.inj (Except.ok.inj (hsource.symm.trans hsource'))).2
  rw [← hone, hrun, hsame] at hrun'
  exact huntrimmed hrun'

theorem nonBlank_run {lease : WorktreeLease} (h : validateWorktreeLease lease = .ok ()) :
    nonBlank (some lease.executionRunId) = some (trim lease.executionRunId) := by
  obtain ⟨_, -, h⟩ := bind_eq_ok.mp h
  obtain ⟨_, -, h⟩ := bind_eq_ok.mp h
  obtain ⟨_, hrun, -⟩ := bind_eq_ok.mp h
  unfold requireNonEmpty at hrun
  split_ifs at hrun with hblank
  rw [nonBlank, Option.map_some, Option.filter_some_pos (by simpa using hblank)]

/-- **The release of leases agrees with their gate**, where the run of the state is trimmed: what
is declared releasable of a binding passes the checks of the gate, and what passes them for a
binding of the run, which is active and was approved for a step of the task, is releasable. -/
theorem lease_release_agrees
    (hloaded : Loaded authority runIdentity contract contractFingerprint currentHead)
    (hnamed : trim runIdentity.executionRunId = runIdentity.executionRunId) :
    (∀ executionRunId fingerprints bindings task fingerprint,
      fingerprint ∈ releasableFingerprints world context authority executionRunId fingerprints
        bindings task ↔ ∃ binding ∈ bindings, fingerprint ∈ releasableFingerprints world context
          authority executionRunId fingerprints [binding] task) ∧
    (∀ executionRunId fingerprints binding task fingerprint,
      fingerprint ∈ releasableFingerprints world context authority executionRunId fingerprints
        [binding] task →
      trim binding.leaseFingerprint = fingerprint ∧
      enforceWorktreeLease world context runIdentity authority.authoritative contract
        contractFingerprint currentHead fingerprint binding = .ok ()) ∧
    ∀ fingerprints bindings task, ∀ binding ∈ bindings,
      GateReached context runIdentity contract contractFingerprint →
      binding.executionRunId = runIdentity.executionRunId →
      binding.leaseFingerprint ∈ fingerprints →
      enforceWorktreeLease world context runIdentity authority.authoritative contract
        contractFingerprint currentHead (trim binding.leaseFingerprint) binding = .ok () →
      ApprovedPacket contract (taskPacketFingerprintsForContractTask world contract task) binding →
      trim binding.leaseFingerprint ∈ releasableFingerprints world context authority
        (some runIdentity.executionRunId) fingerprints bindings task := by
  refine ⟨?_, ?_, ?_⟩
  · intro executionRunId fingerprints bindings task fingerprint
    constructor
    · intro h
      obtain ⟨hrun, hreached, binding, hbinding, hreleasable⟩ :=
        (mem_releasableFingerprints hloaded).mp h
      exact ⟨binding, hbinding, (mem_releasableFingerprints hloaded).mpr
        ⟨hrun, hreached, binding, List.mem_cons_self, hreleasable⟩⟩
    · rintro ⟨binding, hbinding, h⟩
      obtain ⟨hrun, hreached, one, hone, hreleasable⟩ := (mem_releasableFingerprints hloaded).mp h
      obtain rfl := List.mem_singleton.mp hone
      exact (mem_releasableFingerprints hloaded).mpr
        ⟨hrun, hreached, one, hbinding, hreleasable⟩
  · intro executionRunId fingerprints binding task fingerprint h
    obtain ⟨-, -, one, hone, hsame, -, hreleasable⟩ := (mem_releasableFingerprints hloaded).mp h
    obtain rfl := List.mem_singleton.mp hone
    exact ⟨(releasable_eq_some.mp hreleasable).1, enforce_of_releasable hnamed hsame hreleasable⟩
  · intro fingerprints bindings task binding hbinding hreached hrun hactive hgate hpacket
    obtain ⟨lease, hread, -, hown, -⟩ := enforceWorktreeLease_ok.mp hgate
    have hnonBlank := nonBlank_run hread.valid
    rw [hown] at hnonBlank
    refine (mem_releasableFingerprints hloaded).mpr ⟨hnonBlank, hreached, binding, hbinding, ?_,
      hactive, releasable_of_enforce hnamed hrun hpacket hgate⟩
    rw [hrun]

/-! ### A lease that is released -/

/-- A lease that is over, of the run `run-1`. -/
def cleanedLease : WorktreeLease where
  leaseVersion := 1
  authoritativeSequence := 1
  executionRunId := "run-1"
  executionContextKey := "0123456789abcdef"
  sourcePlanPath := "plan.md"
  sourcePlanRevision := 1
  executionUnitId := "unit-1"
  sourceBranch := "lane-1"
  authoritativeIntegrationBranch := "main"
  worktreePath := "/lanes/1"
  repoStateBaselineHeadSha := "b0"
  repoStateBaselineWorktreeFingerprint := "w0"
  leaseState := .cleaned
  cleanupState := "cleaned"
  reviewedCheckpointCommitSha := some "c1"
  reconcileResultCommitSha := some "c2"
  reconcileResultProofFingerprint := some "p2"
  reconcileMode := "identity_preserving"
  generatedBy := "runtime"
  generatedAt := "t1"
  leaseFingerprint := "0123456789abcdef"

/-- The text of its file, with the members that its fingerprint is taken of left out. -/
def cleanedSource : List Char :=
  (Json.record [("lease_fingerprint", .str "0123456789abcdef")]).raw.print

def cleanedFile : List Char :=
  "worktree-lease-main-run-1-0123456789abcdef.json".toList

/-- One digest for all texts, one file, and a repository in which the reviewed commit comes
before the reconciled one. -/
def cleanedWorld : LeaseWorld where
  sha := fun _ => "0123456789abcdef"
  jsonFromStr := fun text => if text = cleanedSource then
    some (.record [("lease_fingerprint", .str "0123456789abcdef")]) else none
  leaseFromStr := fun text => if text = cleanedSource then .ok cleanedLease else .error "expected value"
  artifact := fun name => if name = cleanedFile then .regular cleanedSource else .missing "not found"
  artifactDisplay := String.ofList
  commitObjectFingerprint := fun commit => if commit = "c2" then some "p2" else none
  isAncestorCommit := fun a b => a = "c1" && b = "c2" || a = "c2" && b = "c2"
  taskPacketFingerprint := fun _ _ _ => some "packet-1"

def cleanedPlan : LeasePlanContext := ⟨"plan.md", 1, "main"⟩

def cleanedRun : RunIdentitySnapshot := ⟨"run-1", "plan.md", 1⟩

def cleanedContract : LeaseContract :=
  ⟨"contract-1", "spec-1", ["Task 1 Step 1"], ["packet-1"]⟩

def cleanedBinding : WorktreeLeaseBindingSnapshot where
  executionRunId := "run-1"
  leaseFingerprint := "0123456789abcdef"
  leaseArtifactPath := "worktree-lease-main-run-1-0123456789abcdef.json"
  executionContextKey := some "0123456789abcdef"
  approvedTaskPacketFingerprint := some "packet-1"
  approvedUnitContractFingerprint := some "0123456789abcdef"
  reconcileResultProofFingerprint := some "p2"
  reviewedCheckpointCommitSha := some "c1"
  reconcileResultCommitSha := some "c2"
  reconcileMode := some "identity_preserving"
  reviewReceiptFingerprint := none
  reviewReceiptArtifactPath := none

def cleanedAuthority : LeaseAuthority where
  runIdentity := some cleanedRun
  authoritative := ⟨some "b0", some "w0"⟩
  activeContract := some (cleanedContract, "contract-1")
  currentHead := some "c2"

theorem enforce_cleaned : enforceWorktreeLease cleanedWorld cleanedPlan cleanedRun
    cleanedAuthority.authoritative cleanedContract "contract-1" "c2"
    (trim cleanedBinding.leaseFingerprint) cleanedBinding = .ok () := by
  have hread : readWorktreeLease cleanedWorld cleanedFile = .ok (cleanedSource, cleanedLease) := by
    simp only [readWorktreeLease, cleanedWorld, if_pos]
  have hcanonical : validateAuthoritativeWorktreeLeaseFingerprint cleanedWorld cleanedSource
      cleanedLease (cleanedWorld.artifactDisplay cleanedFile) = .ok () := by
    simp only [validateAuthoritativeWorktreeLeaseFingerprint, canonicalWorktreeLeaseFingerprint,
      cleanedWorld, if_pos, Option.bind_some, Json.record, Json.asObject_obj, Option.map_some]
    rfl
  exact enforceWorktreeLease_ok.mpr ⟨cleanedLease,
    ⟨⟨cleanedFile, cleanedSource, by decide, hread, by decide, hcanonical⟩, by decide, by decide⟩,
    by decide, by decide, by decide, _, rfl⟩

theorem lease_release_agrees_cleaned :
    trim cleanedBinding.leaseFingerprint ∈ releasableFingerprints cleanedWorld cleanedPlan
      cleanedAuthority (some cleanedRun.executionRunId) ["0123456789abcdef"] [cleanedBinding] 1 := by
  have hpacket : ApprovedPacket cleanedContract
      (taskPacketFingerprintsForContractTask cleanedWorld cleanedContract 1) cleanedBinding :=
    ⟨"packet-1", by decide, by decide, by decide⟩
  exact (lease_release_agrees ⟨rfl, rfl, rfl⟩ (by decide)).2.2 _ _ _ cleanedBinding
    List.mem_cons_self ⟨rfl, rfl, rfl⟩ rfl List.mem_cons_self enforce_cleaned hpacket

end FeatureForge
