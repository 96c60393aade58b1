import FeatureForge.Contracts.Topology
import Mathlib.Data.List.Pairwise

/-!
# What a valid topology is good for

A valid topology is expected to be sound (`TopologySound`): each task stands in exactly
one directive, the dependencies are those of some order of the tasks, tasks that write
one path are ordered by them, and a task executed last waits for all others.

The first and the third hold of every valid topology (`assigned_once_of_valid`,
`overlaps_ordered_of_valid`).  No check looks at the tasks named behind `after`, so the
rest is up to them: `topology_sound_iff` says that it holds exactly where they are tasks
of the plan, none of them executed last, and no chain of declared dependencies leads
back to its start.
-/

namespace FeatureForge

open Relation (TransGen ReflTransGen)

/-- `a` stands in front of `b` in one of the edges. -/
def Precedes (edges : List (Nat × Nat)) (a b : Nat) : Prop := (a, b) ∈ edges

/-! ### Assignment -/

/-- What a loop over tasks without a report has assigned. -/
theorem assignTasks_clean {numbers : List Nat} {kind : ExecutionDirectiveKind} :
    ∀ (tasks : List Nat) (assignment : TaskAssignment),
      (assignTasks numbers kind tasks assignment).2 = [] →
      (∀ t ∈ tasks, t ∈ numbers ∧ assignment.get? t = none) ∧
      ∀ t, ((assignTasks numbers kind tasks assignment).1.get? t).isSome ↔
        (assignment.get? t).isSome ∨ t ∈ tasks := by
  intro tasks
  induction tasks with
  | nil => intro assignment _; simp [assignTasks]
  | cons task tasks ih =>
    intro assignment h
    rw [assignTasks] at h ⊢
    by_cases hmem : task ∈ numbers
    · rw [if_pos hmem] at h ⊢
      dsimp only at h ⊢
      split_ifs at h with hdup
      obtain ⟨htasks, hsome⟩ := ih _ h
      have hnone : assignment.get? task = none := by simpa using hdup
      refine ⟨fun t ht => ?_, fun t => ?_⟩
      · rcases List.mem_cons.mp ht with rfl | ht
        · exact ⟨hmem, hnone⟩
        · have := htasks t ht
          rw [OrderedMap.get?_insert] at this
          split_ifs at this
          · cases this.2
          · exact this
      · rw [hsome, OrderedMap.get?_insert, List.mem_cons]
        by_cases hte : t = task
        · simp [hte]
        · rw [if_neg hte]
          tauto
    · rw [if_neg hmem] at h
      cases h

/-- What the loop over the directives without a report has assigned. -/
theorem checkDirectives_clean {numbers : List Nat} :
    ∀ (ds : List ExecutionDirective) (assignment : TaskAssignment),
      (checkDirectives numbers ds assignment).2 = [] →
      (∀ d ∈ ds, d.check numbers = [] ∧ ∀ t ∈ d.tasks, t ∈ numbers ∧ assignment.get? t = none) ∧
      ds.Pairwise (fun d e => ∀ t ∈ d.tasks, t ∉ e.tasks) ∧
      ∀ t, ((checkDirectives numbers ds assignment).1.get? t).isSome ↔
        (assignment.get? t).isSome ∨ ∃ d ∈ ds, t ∈ d.tasks := by
  intro ds
  induction ds with
  | nil => intro assignment _; simp [checkDirectives]
  | cons d ds ih =>
    intro assignment h
    rw [checkDirectives] at h ⊢
    dsimp only at h ⊢
    obtain ⟨h, hrest⟩ := List.append_eq_nil_iff.mp h
    obtain ⟨hassign, hcheck⟩ := List.append_eq_nil_iff.mp h
    obtain ⟨htasks, hsome⟩ := assignTasks_clean _ _ hassign
    obtain ⟨hds, hpair, hall⟩ := ih _ hrest
    have hmem : ∀ t, t ∈ d.sortedTasks ↔ t ∈ d.tasks := fun t => mem_sortDedup
    refine ⟨fun e he => ?_, List.pairwise_cons.mpr ⟨fun e he t ht hte => ?_, hpair⟩, fun t => ?_⟩
    · rcases List.mem_cons.mp he with rfl | he
      · exact ⟨hcheck, fun t ht => htasks t ((hmem t).mpr ht)⟩
      · refine ⟨(hds e he).1, fun t ht => ⟨((hds e he).2 t ht).1, ?_⟩⟩
        have hnone := ((hds e he).2 t ht).2
        by_contra hne
        have := (hsome t).mpr (Or.inl (Option.isSome_iff_ne_none.mpr hne))
        rw [hnone] at this
        cases this
    · -- a task of the first directive has been assigned when a later one comes
      have hnone := ((hds e he).2 t hte).2
      have := (hsome t).mpr (Or.inr ((hmem t).mpr ht))
      rw [hnone] at this
      cases this
    · rw [hall, hsome, hmem]
      simp only [List.mem_cons, exists_eq_or_imp]
      tauto

/-! ### What validity says -/

section

variable {source : List Char} {scopes : TaskScopes}

/-- The checks a valid topology has passed, as far as they are about tasks. -/
structure Checked (source : List Char) (scopes : TaskScopes) : Prop where
  tasks_mem : ∀ d ∈ (planDirectives source).1, ∀ t ∈ d.tasks, t ∈ taskNumbers scopes
  disjoint : (planDirectives source).1.Pairwise fun d e => ∀ t ∈ d.tasks, t ∉ e.tasks
  covered : ∀ t ∈ taskNumbers scopes, ∃ d ∈ (planDirectives source).1, t ∈ d.tasks
  check : ∀ d ∈ (planDirectives source).1, d.check (taskNumbers scopes) = []
  hotspots : hotspotConflicts scopes
    (dependencyEdges (taskNumbers scopes) (planDirectives source).1) = []

theorem checked_of_valid
    (h : (analyzeExecutionTopology source scopes).executionTopologyValid = true) :
    Checked source scopes := by
  have hnil := executionTopologyValid_iff.mp h
  simp only [topologyDiagnostics, List.append_eq_nil_iff] at hnil
  obtain ⟨⟨⟨⟨⟨⟨⟨_, _⟩, _⟩, hchecked⟩, hcoverage⟩, _⟩, _⟩, hhot⟩ := hnil
  obtain ⟨hds, hpair, hsome⟩ := checkDirectives_clean _ _ hchecked
  refine ⟨fun d hd t ht => ((hds d hd).2 t ht).1, hpair, fun t ht => ?_,
    fun d hd => (hds d hd).1, hhot⟩
  have hassigned : ((checkDirectives (taskNumbers scopes) (planDirectives source).1
      OrderedMap.empty).1.get? t).isSome := by
    rw [missingCoverage, List.map_eq_nil_iff, List.filter_eq_nil_iff] at hcoverage
    simpa [Option.isSome_iff_ne_none] using hcoverage t ht
  rcases (hsome t).mp hassigned with h | h
  · cases h
  · exact h

theorem formed_of_planDirectives (source : List Char) :
    ∀ d ∈ (planDirectives source).1, d.Formed := by
  intro d hd
  rw [planDirectives] at hd
  split at hd
  · exact formed_of_parse _ d hd
  · cases hd

theorem countP_eq_one {ds : List ExecutionDirective} {t : Nat}
    (hpair : ds.Pairwise fun d e => ∀ t ∈ d.tasks, t ∉ e.tasks) :
    (∃ d ∈ ds, t ∈ d.tasks) → ds.countP (fun d => t ∈ d.tasks) = 1 := by
  induction ds with
  | nil => rintro ⟨d, hd, _⟩; cases hd
  | cons d ds ih =>
    obtain ⟨hd, hpair⟩ := List.pairwise_cons.mp hpair
    rintro ⟨e, he, hte⟩
    by_cases htd : t ∈ d.tasks
    · have hzero : ds.countP (fun d => t ∈ d.tasks) = 0 := by
        rw [List.countP_eq_zero]
        intro e he
        simpa using hd e he t htd
      rw [List.countP_cons_of_pos (by simpa using htd), hzero]
    · rcases List.mem_cons.mp he with rfl | he
      · exact absurd hte htd
      · rw [List.countP_cons_of_neg (by simpa using htd)]
        exact ih hpair ⟨e, he, hte⟩

/-- **Each task of a valid topology stands in exactly one directive.** -/
theorem assigned_once_of_valid (h : Checked source scopes) :
    ∀ t ∈ taskNumbers scopes, (planDirectives source).1.countP (fun d => t ∈ d.tasks) = 1 :=
  fun t ht => countP_eq_one h.disjoint (h.covered t ht)

theorem Checked.eq_of_mem (h : Checked source scopes) {d e : ExecutionDirective} {t : Nat}
    (hd : d ∈ (planDirectives source).1) (he : e ∈ (planDirectives source).1)
    (htd : t ∈ d.tasks) (hte : t ∈ e.tasks) : d = e := by
  by_contra hne
  have hsymm : Std.Symm fun d e : ExecutionDirective => ∀ t ∈ d.tasks, t ∉ e.tasks :=
    ⟨fun d e h t hte htd => h t htd hte⟩
  exact h.disjoint.forall hd he hne t htd hte

/-! ### Overlapping scopes -/

theorem mem_transitiveDependencies {edges : List (Nat × Nat)} {a b : Nat} :
    b ∈ transitiveDependencies edges a ↔ TransGen (Precedes edges) b a := by
  have hdirect : ∀ a b, Dag.DependsOn (directDependencies edges) a b ↔ Precedes edges b a := by
    intro a b
    simp [Dag.DependsOn, directDependencies, Precedes]
  have hbound : ∀ a, ∀ b ∈ directDependencies edges a, b ∈ (edges.map Prod.fst).toFinset := by
    intro a b hb
    rw [List.mem_toFinset]
    exact List.mem_map.mpr ⟨(b, a), (hdirect a b).mp hb, rfl⟩
  have hfuel : (edges.map Prod.fst).toFinset.card < edges.length + 1 := by
    have := List.toFinset_card_le (edges.map Prod.fst)
    rw [List.length_map] at this
    omega
  have hrel : Dag.DependsOn (directDependencies edges) = Function.swap (Precedes edges) := by
    funext a b
    exact propext (hdirect a b)
  rw [transitiveDependencies, Dag.mem_collect hbound hfuel, hrel, Relation.transGen_swap]

theorem one_lt_length_of_mem {l : List Nat} {a b : Nat} (ha : a ∈ l) (hb : b ∈ l)
    (hne : a ≠ b) : 1 < l.length := by
  rcases l with _ | ⟨x, _ | ⟨y, l⟩⟩
  · cases ha
  · exact absurd ((List.mem_singleton.mp ha).trans (List.mem_singleton.mp hb).symm) hne
  · rw [List.length_cons, List.length_cons]
    omega

/-- The tasks `a` and `b` both write a path. -/
def SharePath (scopes : TaskScopes) (a b : Nat) : Prop :=
  ∃ path, (∃ s ∈ scopes, s.1 = a ∧ path ∈ s.2) ∧ ∃ s ∈ scopes, s.1 = b ∧ path ∈ s.2

/-- **Tasks of a valid topology that write one path are ordered.** -/
theorem overlaps_ordered_of_valid (h : Checked source scopes) {a b : Nat} (hne : a ≠ b)
    (hshare : SharePath scopes a b) :
    let edges := dependencyEdges (taskNumbers scopes) (planDirectives source).1
    TransGen (Precedes edges) a b ∨ TransGen (Precedes edges) b a := by
  intro edges
  obtain ⟨path, ⟨s, hs, rfl, hsp⟩, s', hs', rfl, hsp'⟩ := hshare
  let overlap : OverlappingWriteScope :=
    { path, tasks := sortDedup (taskNumbers (scopes.filter fun s => s.2.contains path)) }
  have hmem : ∀ s ∈ scopes, path ∈ s.2 → s.1 ∈ overlap.tasks := by
    intro s hs hp
    refine mem_sortDedup.mpr (List.mem_map.mpr ⟨s, List.mem_filter.mpr ⟨hs, ?_⟩, rfl⟩)
    simpa using hp
  have hlen : 1 < overlap.tasks.length :=
    one_lt_length_of_mem (hmem s hs hsp) (hmem s' hs' hsp') hne
  have hoverlap : overlap ∈ overlappingScopes scopes := by
    refine List.mem_filter.mpr ⟨List.mem_map.mpr ⟨path, ?_, rfl⟩, by simpa using hlen⟩
    rw [List.mem_dedup, List.mem_insertionSort]
    exact List.mem_flatMap.mpr ⟨s, hs, hsp⟩
  have hpair : overlap.tasks.Pairwise (taskOrdered edges) := by
    have hhot := h.hotspots
    rw [hotspotConflicts, List.map_eq_nil_iff, List.filter_eq_nil_iff] at hhot
    simpa using hhot overlap hoverlap
  have hsymm : Std.Symm (taskOrdered edges) := ⟨fun _ _ h => h.symm⟩
  have hord := hpair.forall (hmem s hs hsp) (hmem s' hs' hsp') hne
  rw [taskOrdered, mem_transitiveDependencies, mem_transitiveDependencies] at hord
  exact hord.symm

/-! ### The edges -/

theorem mem_edges {d : ExecutionDirective} {e : Nat × Nat} (h : e ∈ d.edges) :
    d.kind ≠ .last ∧ e.2 ∈ d.tasks ∧ (e.1 ∈ d.dependencies ∨ e.1 ∈ d.tasks) := by
  rw [ExecutionDirective.edges] at h
  cases hk : d.kind with
  | serial =>
    rw [hk] at h
    rcases List.mem_append.mp h with h | h
    · cases hs : d.sortedTasks with
      | nil => rw [hs] at h; cases h
      | cons first rest =>
        rw [hs] at h
        obtain ⟨dependency, hdep, rfl⟩ := List.mem_map.mp h
        have hfirst : first ∈ d.sortedTasks := by rw [hs]; exact List.mem_cons_self
        exact ⟨by simp, mem_sortDedup.mp hfirst, Or.inl hdep⟩
    · obtain ⟨h1, h2⟩ := mem_of_mem_windows h
      exact ⟨by simp, mem_sortDedup.mp h2, Or.inr (mem_sortDedup.mp h1)⟩
  | parallel =>
    rw [hk] at h
    obtain ⟨task, htask, h⟩ := List.mem_flatMap.mp h
    obtain ⟨dependency, hdep, rfl⟩ := List.mem_map.mp h
    exact ⟨by simp, mem_sortDedup.mp htask, Or.inl hdep⟩
  | last => rw [hk] at h; cases h

theorem exists_edge {d : ExecutionDirective} (hd : d.Formed) {dependency : Nat}
    (h : dependency ∈ d.dependencies) : ∃ t, (dependency, t) ∈ d.edges := by
  obtain ⟨t, ht⟩ := List.exists_mem_of_ne_nil _ hd.tasks_ne_nil
  have hsorted : t ∈ d.sortedTasks := mem_sortDedup.mpr ht
  rw [ExecutionDirective.edges]
  cases hk : d.kind with
  | serial =>
    cases hs : d.sortedTasks with
    | nil => rw [hs] at hsorted; cases hsorted
    | cons first rest =>
      exact ⟨first, List.mem_append_left _ (List.mem_map.mpr ⟨dependency, h, rfl⟩)⟩
  | parallel =>
    exact ⟨t, List.mem_flatMap.mpr ⟨t, hsorted, List.mem_map.mpr ⟨dependency, h, rfl⟩⟩⟩
  | last =>
    rw [(hd.last_single hk).2] at h
    cases h

theorem mem_sinkTasks {numbers : List Nat} {edges : List (Nat × Nat)} {task t : Nat} :
    t ∈ sinkTasks numbers edges task ↔
      t ∈ numbers ∧ t ≠ task ∧ ∀ b, (t, b) ∈ edges → b ∈ numbers → b = task := by
  simp only [sinkTasks, List.mem_filter, decide_eq_true_eq, Bool.not_eq_true', List.any_eq_false,
    Bool.and_eq_true, List.contains_iff_mem, ne_eq, and_assoc]
  constructor
  · rintro ⟨hmem, hne, h⟩
    refine ⟨hmem, hne, fun b hb hbn => ?_⟩
    by_contra hbt
    exact h (t, b) hb ⟨rfl, hbn, hbt⟩
  · rintro ⟨hmem, hne, h⟩
    refine ⟨hmem, hne, ?_⟩
    rintro ⟨a, b⟩ hab ⟨rfl, hbn, hbt⟩
    exact hbt (h b hab hbn)

/-- A directive adds edges to a task executed last only. -/
theorem mem_addLastEdges {numbers : List Nat} {edges : List (Nat × Nat)}
    {d : ExecutionDirective} {e : Nat × Nat} (h : e ∈ addLastEdges numbers edges d) :
    e ∈ edges ∨ (d.kind = .last ∧ e.2 ∈ d.tasks ∧ e.1 ∈ numbers ∧ e.1 ≠ e.2) := by
  rw [addLastEdges] at h
  split at h
  · rename_i task rest hk ht
    rcases List.mem_append.mp h with h | h
    · exact Or.inl h
    · obtain ⟨sink, hsink, rfl⟩ := List.mem_map.mp h
      obtain ⟨hmem, hne, _⟩ := mem_sinkTasks.mp hsink
      refine Or.inr ⟨hk, ?_, hmem, hne⟩
      rw [ht]
      exact List.mem_cons_self
  · exact Or.inl h

theorem subset_addLastEdges (numbers : List Nat) (edges : List (Nat × Nat))
    (d : ExecutionDirective) : edges ⊆ addLastEdges numbers edges d := by
  rw [addLastEdges]
  split
  · exact List.subset_append_left _ _
  · exact List.Subset.refl _

theorem subset_foldl_addLastEdges (numbers : List Nat) : ∀ (ds : List ExecutionDirective)
    (edges : List (Nat × Nat)), edges ⊆ ds.foldl (addLastEdges numbers) edges := by
  intro ds
  induction ds with
  | nil => intro edges; exact List.Subset.refl _
  | cons d ds ih =>
    intro edges
    exact List.Subset.trans (subset_addLastEdges numbers edges d) (ih _)

theorem mem_foldl_addLastEdges {numbers : List Nat} : ∀ (ds : List ExecutionDirective)
    (edges : List (Nat × Nat)) {e : Nat × Nat}, e ∈ ds.foldl (addLastEdges numbers) edges →
      e ∈ edges ∨ ∃ d ∈ ds, d.kind = .last ∧ e.2 ∈ d.tasks ∧ e.1 ∈ numbers ∧ e.1 ≠ e.2 := by
  intro ds
  induction ds with
  | nil => intro edges e h; exact Or.inl h
  | cons d ds ih =>
    intro edges e h
    rcases ih _ h with h | ⟨d', hd', h⟩
    · exact (mem_addLastEdges h).imp_right fun h => ⟨d, List.mem_cons_self, h⟩
    · exact Or.inr ⟨d', List.mem_cons_of_mem _ hd', h⟩

/-- Only the final task of a checked plan is executed last. -/
theorem Checked.last_task (h : Checked source scopes) {d : ExecutionDirective}
    (hd : d ∈ (planDirectives source).1) (hk : d.kind = .last) {t : Nat} (ht : t ∈ d.tasks) :
    (taskNumbers scopes).getLast? = some t := by
  have hcheck := h.check d hd
  have hlen := ((formed_of_planDirectives source d hd).last_single hk).1
  obtain ⟨t', ht'⟩ := List.length_eq_one_iff.mp hlen
  rw [ht', List.mem_singleton] at ht
  subst ht
  have hsorted : d.sortedTasks = [t] := by rw [ExecutionDirective.sortedTasks, ht']; rfl
  rw [ExecutionDirective.check, hk] at hcheck
  have hfinal := (List.append_eq_nil_iff.mp hcheck).2
  rw [ExecutionDirective.lastIsFinal, hsorted] at hfinal
  have hmem : t ∈ taskNumbers scopes := h.tasks_mem d hd t (by rw [ht']; exact List.mem_cons_self)
  cases hl : (taskNumbers scopes).getLast? with
  | none => rw [List.getLast?_eq_none_iff.mp hl] at hmem; cases hmem
  | some l =>
    rw [hl] at hfinal
    simp only [Option.getD_some, ite_eq_right_iff, List.cons_ne_nil, imp_false, not_not] at hfinal
    rw [hfinal]

/-! ### Soundness -/

/-- What is expected of a valid topology. -/
structure TopologySound (source : List Char) (scopes : TaskScopes) : Prop where
  assigned_once : ∀ t ∈ taskNumbers scopes,
    (planDirectives source).1.countP (fun d => t ∈ d.tasks) = 1
  edges_in_plan : ∀ e ∈ dependencyEdges (taskNumbers scopes) (planDirectives source).1,
    e.1 ∈ taskNumbers scopes ∧ e.2 ∈ taskNumbers scopes
  acyclic : Dag.Acyclic (Precedes (dependencyEdges (taskNumbers scopes) (planDirectives source).1))
  ordered : ∃ order : List Nat, order.Nodup ∧ (∀ t, t ∈ order ↔ t ∈ taskNumbers scopes) ∧
    order.Pairwise fun a b =>
      ¬ Precedes (dependencyEdges (taskNumbers scopes) (planDirectives source).1) b a
  overlaps_ordered : ∀ a b, a ≠ b → SharePath scopes a b →
    TransGen (Precedes (dependencyEdges (taskNumbers scopes) (planDirectives source).1)) a b ∨
      TransGen (Precedes (dependencyEdges (taskNumbers scopes) (planDirectives source).1)) b a
  last_waits : ∀ d ∈ (planDirectives source).1, d.kind = .last → ∀ l ∈ d.tasks,
    ∀ t ∈ taskNumbers scopes, t ≠ l →
      TransGen (Precedes (dependencyEdges (taskNumbers scopes) (planDirectives source).1)) t l

/-- The tasks named behind `after` are tasks of the plan, none of them executed last, and
no chain of declared dependencies leads back to its start. -/
structure AfterClausesSound (source : List Char) (scopes : TaskScopes) : Prop where
  in_plan : ∀ d ∈ (planDirectives source).1, ∀ t ∈ d.dependencies, t ∈ taskNumbers scopes
  not_last : ∀ d ∈ (planDirectives source).1, ∀ t ∈ d.dependencies,
    ∀ e ∈ (planDirectives source).1, e.kind = .last → t ∉ e.tasks
  acyclic : Dag.Acyclic (Precedes (declaredEdges (planDirectives source).1))

theorem declared_of_directive {d : ExecutionDirective} (hd : d ∈ (planDirectives source).1)
    {e : Nat × Nat} (he : e ∈ d.edges) : e ∈ declaredEdges (planDirectives source).1 :=
  List.mem_flatMap.mpr ⟨d, hd, he⟩

theorem TopologySound.afterClauses (h : TopologySound source scopes) :
    AfterClausesSound source scopes := by
  have hsub := subset_foldl_addLastEdges (taskNumbers scopes) (planDirectives source).1
    (declaredEdges (planDirectives source).1)
  have hedge : ∀ d ∈ (planDirectives source).1, ∀ t ∈ d.dependencies,
      ∃ t', (t, t') ∈ dependencyEdges (taskNumbers scopes) (planDirectives source).1 := by
    intro d hd t ht
    obtain ⟨t', ht'⟩ := exists_edge (formed_of_planDirectives source d hd) ht
    exact ⟨t', hsub (declared_of_directive hd ht')⟩
  refine ⟨fun d hd t ht => ?_, fun d hd t ht e he hk hte => ?_, h.acyclic.mono fun a b hab => hsub hab⟩
  · obtain ⟨t', ht'⟩ := hedge d hd t ht
    exact (h.edges_in_plan _ ht').1
  · -- what waits for the last task is waited for by it
    obtain ⟨t', ht'⟩ := hedge d hd t ht
    by_cases hself : t' = t
    · rw [hself] at ht'
      exact h.acyclic t (.single ht')
    · exact h.acyclic t (.head ht' (h.last_waits e he hk t hte t' (h.edges_in_plan _ ht').2 hself))

section

variable (h : Checked source scopes) (ha : AfterClausesSound source scopes)
include h ha

theorem declared_in_plan {e : Nat × Nat} (he : e ∈ declaredEdges (planDirectives source).1) :
    e.1 ∈ taskNumbers scopes ∧ e.2 ∈ taskNumbers scopes := by
  obtain ⟨d, hd, he⟩ := List.mem_flatMap.mp he
  obtain ⟨_, h2, h1⟩ := mem_edges he
  refine ⟨?_, h.tasks_mem d hd _ h2⟩
  rcases h1 with h1 | h1
  · exact ha.in_plan d hd _ h1
  · exact h.tasks_mem d hd _ h1

/-- No declared dependency is on a task executed last. -/
theorem not_declared_from_last {d : ExecutionDirective} (hd : d ∈ (planDirectives source).1)
    (hk : d.kind = .last) {l : Nat} (hl : l ∈ d.tasks) (b : Nat) :
    (l, b) ∉ declaredEdges (planDirectives source).1 := by
  intro he
  obtain ⟨e, he, hedge⟩ := List.mem_flatMap.mp he
  obtain ⟨hek, _, h1⟩ := mem_edges hedge
  rcases h1 with h1 | h1
  · exact ha.not_last e he _ h1 d hd hk hl
  · rw [h.eq_of_mem he hd h1 hl] at hek
    exact hek hk

theorem edges_in_plan {e : Nat × Nat}
    (he : e ∈ dependencyEdges (taskNumbers scopes) (planDirectives source).1) :
    e.1 ∈ taskNumbers scopes ∧ e.2 ∈ taskNumbers scopes := by
  rcases mem_foldl_addLastEdges _ _ he with he | ⟨d, hd, _, h2, h1, _⟩
  · exact declared_in_plan h ha he
  · exact ⟨h1, h.tasks_mem d hd _ h2⟩

theorem acyclic_dependencyEdges :
    Dag.Acyclic (Precedes (dependencyEdges (taskNumbers scopes) (planDirectives source).1)) := by
  by_cases hlast : ∃ d ∈ (planDirectives source).1, d.kind = .last
  · obtain ⟨d, hd, hk⟩ := hlast
    obtain ⟨l, hl⟩ := List.exists_mem_of_ne_nil _ (formed_of_planDirectives source d hd).tasks_ne_nil
    -- all tasks executed last are the final one
    have hunique : ∀ e ∈ (planDirectives source).1, e.kind = .last → ∀ t ∈ e.tasks, t = l := by
      intro e he hek t ht
      have := h.last_task he hek ht
      rw [h.last_task hd hk hl] at this
      exact (Option.some_injective _ this).symm
    refine ha.acyclic.add_end (l := l) (fun a b hab => ?_) (fun b hlb => ?_)
    · rcases mem_foldl_addLastEdges _ _ hab with hab | ⟨e, he, hek, h2, _, _⟩
      · exact Or.inl hab
      · exact Or.inr (hunique e he hek _ h2)
    · rcases mem_foldl_addLastEdges _ _ hlb with hlb | ⟨e, he, hek, h2, _, hne⟩
      · exact not_declared_from_last h ha hd hk hl b hlb
      · exact hne (hunique e he hek _ h2).symm
  · refine ha.acyclic.mono fun a b hab => ?_
    rcases mem_foldl_addLastEdges _ _ hab with hab | ⟨e, he, hek, _⟩
    · exact hab
    · exact absurd ⟨e, he, hek⟩ hlast

/-- A task executed last comes after all others: each leads to a sink. -/
theorem last_waits {d : ExecutionDirective} (hd : d ∈ (planDirectives source).1)
    (hk : d.kind = .last) {l : Nat} (hl : l ∈ d.tasks) {t : Nat}
    (ht : t ∈ taskNumbers scopes) (hne : t ≠ l) :
    TransGen (Precedes (dependencyEdges (taskNumbers scopes) (planDirectives source).1)) t l := by
  let prior := ((taskNumbers scopes).filter (· ≠ l)).toFinset
  have hprior : ∀ x, x ∈ prior ↔ x ∈ taskNumbers scopes ∧ x ≠ l := by
    intro x
    simp [prior]
  obtain ⟨sink, hsink, hpath, hend⟩ := Dag.exists_sink ha.acyclic prior ((hprior t).mpr ⟨ht, hne⟩)
  obtain ⟨before, after, hsplit⟩ := List.append_of_mem hd
  obtain ⟨l', hl'⟩ := List.length_eq_one_iff.mp
    ((formed_of_planDirectives source d hd).last_single hk).1
  rw [hl', List.mem_singleton] at hl
  subst hl
  -- the edges there are when the loop comes to the directive
  let edges := before.foldl (addLastEdges (taskNumbers scopes))
    (declaredEdges (planDirectives source).1)
  have hadded : (sink, l) ∈ addLastEdges (taskNumbers scopes) edges d := by
    have hmem : sink ∈ sinkTasks (taskNumbers scopes) edges l := by
      obtain ⟨hs, hsl⟩ := (hprior sink).mp hsink
      refine mem_sinkTasks.mpr ⟨hs, hsl, fun b hb hbn => ?_⟩
      rcases mem_foldl_addLastEdges _ _ hb with hb | ⟨e, he, hek, h2, _, _⟩
      · by_contra hbl
        exact hend b ((hprior b).mpr ⟨hbn, hbl⟩) hb
      · have he : e ∈ (planDirectives source).1 := by
          rw [hsplit]
          exact List.mem_append_left _ he
        have hlast := h.last_task he hek h2
        rw [h.last_task hd hk (by rw [hl']; exact List.mem_cons_self)] at hlast
        exact (Option.some_injective _ hlast).symm
    rw [addLastEdges, hk, hl']
    exact List.mem_append_right _ (List.mem_map.mpr ⟨sink, hmem, rfl⟩)
  have hedge : (sink, l) ∈ dependencyEdges (taskNumbers scopes) (planDirectives source).1 := by
    have hfold : dependencyEdges (taskNumbers scopes) (planDirectives source).1 =
        after.foldl (addLastEdges (taskNumbers scopes))
          (addLastEdges (taskNumbers scopes) edges d) := by
      rw [dependencyEdges]
      conv_lhs => rw [hsplit, List.foldl_append, List.foldl_cons]
      rw [← hsplit]
    rw [hfold]
    exact subset_foldl_addLastEdges _ _ _ hadded
  have hsub : ∀ a b, Precedes (declaredEdges (planDirectives source).1) a b →
      Precedes (dependencyEdges (taskNumbers scopes) (planDirectives source).1) a b :=
    fun a b hab => subset_foldl_addLastEdges _ _ _ hab
  exact TransGen.tail' (ReflTransGen.mono hsub _ _ hpath) hedge

end

/-- **A valid topology is sound exactly where its `after` clauses are.** -/
theorem topology_sound_iff (source : List Char) (scopes : TaskScopes)
    (hvalid : (analyzeExecutionTopology source scopes).executionTopologyValid = true) :
    TopologySound source scopes ↔ AfterClausesSound source scopes := by
  have h := checked_of_valid hvalid
  constructor
  · exact TopologySound.afterClauses
  · intro ha
    have hacyclic := acyclic_dependencyEdges h ha
    refine ⟨assigned_once_of_valid h, fun e => edges_in_plan h ha, hacyclic, ?_,
      fun a b => overlaps_ordered_of_valid h, fun d hd hk l hl t => last_waits h ha hd hk hl⟩
    obtain ⟨order, hnodup, hmem, hpair⟩ :=
      Dag.exists_topological_order hacyclic _ (taskNumbers scopes).toFinset rfl
    exact ⟨order, hnodup, fun t => (hmem t).trans List.mem_toFinset, hpair⟩

end

namespace SamplePlan

/-- Two tasks that write one file, the second executed last. -/
def inRow : List Char := ("## Execution Strategy\n- Execute Task 1 serially. First.\n" ++
  "- Execute Task 2 last. Then.\n## Dependency Diagram\nTask 1 --> Task 2\n").toList

def inRowScopes : TaskScopes := [(1, ["src/a.rs"]), (2, ["src/a.rs"])]

/-- One task, after a task that is not there. -/
def dangling : List Char := ("## Execution Strategy\n- Execute Task 1 after Task 9 serially. So.\n" ++
  "## Dependency Diagram\nTask 9 --> Task 1\n").toList

def danglingScopes : TaskScopes := [(1, ["src/a.rs"])]

end SamplePlan

theorem topology_sound_iff_in_row :
    TopologySound SamplePlan.inRow SamplePlan.inRowScopes ↔
      AfterClausesSound SamplePlan.inRow SamplePlan.inRowScopes :=
  topology_sound_iff SamplePlan.inRow SamplePlan.inRowScopes (by decide +kernel)

/-- A valid topology whose dependencies name a task that the plan does not have. -/
theorem not_topology_sound_of_valid :
    ¬ ∀ (source : List Char) (scopes : TaskScopes),
      (analyzeExecutionTopology source scopes).executionTopologyValid = true →
      TopologySound source scopes := by
  intro h
  have hsound := h SamplePlan.dangling SamplePlan.danglingScopes (by decide +kernel)
  have hedge : ((9, 1) : Nat × Nat) ∈
      dependencyEdges (taskNumbers SamplePlan.danglingScopes)
        (planDirectives SamplePlan.dangling).1 := by decide +kernel
  have hmem := (hsound.edges_in_plan _ hedge).1
  simp [taskNumbers, SamplePlan.danglingScopes] at hmem

end FeatureForge
