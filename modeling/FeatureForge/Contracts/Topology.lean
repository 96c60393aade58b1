import FeatureForge.Contracts.Diagram
import FeatureForge.Contracts.Strategy
import FeatureForge.Lib.Dag
import FeatureForge.Lib.OrderedMap

/-!
# The execution topology of a plan

`analyze_execution_topology` checks the execution strategy of a plan against its tasks,
their write scopes and the dependency diagram.  A topology is valid where no check
reports anything.  No check looks at the tasks named behind `after`.

Sets of edges are lists here, compared as sets.
-/

namespace FeatureForge

/-- The tasks of a plan in its order, each with the paths it writes. -/
abbrev TaskScopes : Type := List (Nat × List String)

def taskNumbers (scopes : TaskScopes) : List Nat := scopes.map Prod.fst

/-- `sort_unstable` and `dedup`. -/
def sortDedup (tasks : List Nat) : List Nat := (tasks.insertionSort (· ≤ ·)).dedup

@[simp] theorem mem_sortDedup {t : Nat} {tasks : List Nat} : t ∈ sortDedup tasks ↔ t ∈ tasks := by
  rw [sortDedup, List.mem_dedup, List.mem_insertionSort]

/-- The pairs of neighbours of a list. -/
def windows (tasks : List Nat) : List (Nat × Nat) := tasks.zip tasks.tail

theorem mem_of_mem_windows {tasks : List Nat} {e : Nat × Nat} (h : e ∈ windows tasks) :
    e.1 ∈ tasks ∧ e.2 ∈ tasks := by
  obtain ⟨a, b⟩ := e
  have := List.of_mem_zip h
  exact ⟨this.1, List.mem_of_mem_tail this.2⟩

/-- How a list of tasks is printed. -/
def debugTasks (tasks : List Nat) : String :=
  "[" ++ String.intercalate ", " (tasks.map toString) ++ "]"

/-! ### The directives -/

namespace ExecutionDirective

def sortedTasks (d : ExecutionDirective) : List Nat := sortDedup d.tasks

def firstTask (d : ExecutionDirective) : Nat := d.sortedTasks.headD 0

def needsReason (d : ExecutionDirective) : List ContractDiagnostic :=
  if trimChars d.reason = [] then
    [⟨"serial_execution_needs_reason",
      s!"Serialized work for Task {d.firstTask} must include an explicit reason."⟩]
  else []

/-- The dependencies a directive declares, each a pair of a task and one after it. -/
def edges (d : ExecutionDirective) : List (Nat × Nat) :=
  match d.kind with
  | .serial =>
    (match d.sortedTasks with
      | [] => []
      | first :: _ => d.dependencies.map fun dependency => (dependency, first)) ++
    windows d.sortedTasks
  | .parallel =>
    d.sortedTasks.flatMap fun task => d.dependencies.map fun dependency => (dependency, task)
  | .last => []

def workspaceIsolation (d : ExecutionDirective) : List ContractDiagnostic :=
  let declared := d.declaredWorktrees.getD 0
  let required := d.sortedTasks.length
  if d.declaredWorktrees ≠ some required then
    [⟨"parallel_workspace_isolation_mismatch",
      "Parallel execution groups must declare one isolated worktree per task; Tasks " ++
        debugTasks d.sortedTasks ++
        s!" declare {declared} worktree(s) but require {required}."⟩]
  else []

def laneOwnership (d : ExecutionDirective) : List ContractDiagnostic :=
  if sortDedup d.ownershipTasks ≠ d.sortedTasks then
    [⟨"parallel_lane_missing_ownership",
      "Parallel execution groups must declare a lane-ownership bullet for every task in the group."⟩]
  else []

def lastIsFinal (numbers : List Nat) (d : ExecutionDirective) : List ContractDiagnostic :=
  match d.sortedTasks with
  | [] => []
  | task :: _ =>
    if task ≠ numbers.getLast?.getD task then
      [⟨"last_execution_not_final_task",
        s!"\x60Execute Task {task} last\x60 is only valid for the numerically final task in the plan."⟩]
    else []

/-- What is checked of a directive by itself. -/
def check (numbers : List Nat) (d : ExecutionDirective) : List ContractDiagnostic :=
  match d.kind with
  | .serial => d.needsReason
  | .parallel => d.workspaceIsolation ++ d.laneOwnership
  | .last => d.needsReason ++ d.lastIsFinal numbers

end ExecutionDirective

/-- `task_assignment`. -/
abbrev TaskAssignment : Type := OrderedMap Nat ExecutionDirectiveKind

def unknownTask (task : Nat) : ContractDiagnostic where
  code := "execution_topology_unknown_task"
  message :=
    s!"Execution Strategy references Task {task} but the task does not exist in the plan."

def duplicateTask (task : Nat) : ContractDiagnostic where
  code := "execution_topology_duplicate_task"
  message := s!"Execution Strategy assigns Task {task} more than once."

/-- The tasks of a directive, assigned one after the other. -/
def assignTasks (numbers : List Nat) (kind : ExecutionDirectiveKind) :
    List Nat → TaskAssignment → TaskAssignment × List ContractDiagnostic
  | [], assignment => (assignment, [])
  | task :: tasks, assignment =>
    if task ∈ numbers then
      let rest := assignTasks numbers kind tasks (assignment.insert task kind)
      (rest.1, if (assignment.get? task).isSome then duplicateTask task :: rest.2 else rest.2)
    else
      let rest := assignTasks numbers kind tasks assignment
      (rest.1, unknownTask task :: rest.2)

/-- The first loop over the directives. -/
def checkDirectives (numbers : List Nat) :
    List ExecutionDirective → TaskAssignment → TaskAssignment × List ContractDiagnostic
  | [], assignment => (assignment, [])
  | d :: ds, assignment =>
    let assigned := assignTasks numbers d.kind d.sortedTasks assignment
    let rest := checkDirectives numbers ds assigned.1
    (rest.1, assigned.2 ++ d.check numbers ++ rest.2)

def missingCoverage (numbers : List Nat) (assignment : TaskAssignment) :
    List ContractDiagnostic :=
  (numbers.filter fun task => (assignment.get? task).isNone).map fun task =>
    ⟨"execution_topology_missing_task_coverage",
      s!"Execution Strategy does not assign Task {task} to a serial or parallel execution directive."⟩

/-! ### The dependencies -/

/-- The tasks before the last one that no other of them waits for. -/
def sinkTasks (numbers : List Nat) (edges : List (Nat × Nat)) (task : Nat) : List Nat :=
  let prior := numbers.filter (· ≠ task)
  prior.filter fun candidate => !edges.any fun e => e.1 = candidate && prior.contains e.2

/-- A task executed last comes after the sinks of all others. -/
def addLastEdges (numbers : List Nat) (edges : List (Nat × Nat)) (d : ExecutionDirective) :
    List (Nat × Nat) :=
  match d.kind, d.tasks with
  | .last, task :: _ => edges ++ (sinkTasks numbers edges task).map fun sink => (sink, task)
  | _, _ => edges

def declaredEdges (directives : List ExecutionDirective) : List (Nat × Nat) :=
  directives.flatMap ExecutionDirective.edges

/-- `expected_dependency_edges`, with those of the tasks executed last. -/
def dependencyEdges (numbers : List Nat) (directives : List ExecutionDirective) :
    List (Nat × Nat) :=
  directives.foldl (addLastEdges numbers) (declaredEdges directives)

/-- `dependencies`: the source builds this map along with the edges, entry by entry. -/
def directDependencies (edges : List (Nat × Nat)) (task : Nat) : List Nat :=
  (edges.filter fun e => e.2 = task).map Prod.fst

/-- `collect_dependencies`, with fuel for every edge. -/
def transitiveDependencies (edges : List (Nat × Nat)) (task : Nat) : Finset Nat :=
  (Dag.collect (directDependencies edges) (edges.length + 1) task ∅).1

/-! ### Serial execution -/

/-- `task_scope_index`. -/
def taskScopeIndex (scopes : TaskScopes) : OrderedMap Nat (List String) :=
  scopes.foldl (fun index scope => index.insert scope.1 scope.2) OrderedMap.empty

/-- `tasks_share_write_scope`. -/
def tasksShareWriteScope (scopes : TaskScopes) (left right : Nat) : Bool :=
  match (taskScopeIndex scopes).get? left, (taskScopeIndex scopes).get? right with
  | some leftScopes, some rightScopes => leftScopes.any rightScopes.contains
  | _, _ => false

/-- `reason_names_reintegration_seam`. -/
def reasonNamesReintegrationSeam (reason : List Char) : Bool :=
  let normalized := asciiLowercase reason
  ["reintegration", "integration seam", "merge-back", "merge back", "shared glue",
    "integration risk", "cannot be isolated"].any fun seam => containsText seam.toList normalized

def objectivelyJustified (scopes : TaskScopes) (assignment : TaskAssignment)
    (edges : List (Nat × Nat)) (d : ExecutionDirective) : Bool :=
  let seamJustified := reasonNamesReintegrationSeam d.reason &&
    d.dependencies.any fun dependency => assignment.get? dependency == some .parallel
  match d.sortedTasks with
  | [] => false
  | [task] => d.dependencies ≠ [] || edges.any fun e => e.1 = task
  | tasks => (windows tasks).all (fun pair => tasksShareWriteScope scopes pair.1 pair.2) ||
      seamJustified

def serialUnproven (scopes : TaskScopes) (assignment : TaskAssignment)
    (edges : List (Nat × Nat)) (directives : List ExecutionDirective) :
    List ContractDiagnostic :=
  (directives.filter fun d =>
    d.kind = .serial && !objectivelyJustified scopes assignment edges d).map fun d =>
      ⟨"serial_execution_unproven",
        s!"Serialized work for Task {d.firstTask} must prove a real hazard through dependency edges or overlapping write scope; prose-only serialization is not allowed."⟩

/-! ### The diagram and the write scopes -/

def sameEdges (edges other : List (Nat × Nat)) : Bool :=
  edges.all other.contains && other.all edges.contains

def checkDiagram (diagram : Option (List Char)) (edges : List (Nat × Nat)) :
    List ContractDiagnostic :=
  match diagram with
  | none => []
  | some diagram =>
    match parseDependencyDiagramEdges diagram with
    | some drawn =>
      if sameEdges drawn edges then []
      else [⟨"dependency_diagram_mismatch",
        "Dependency Diagram does not express the dependency edges claimed by Execution Strategy."⟩]
    | none => [⟨"malformed_dependency_diagram",
        "Dependency Diagram must be parseable and machine-checkable."⟩]

structure OverlappingWriteScope where
  path : String
  tasks : List Nat
  deriving DecidableEq

/-- `overlapping_scopes`: the paths in order, each with the tasks writing it. -/
def overlappingScopes (scopes : TaskScopes) : List OverlappingWriteScope :=
  let paths := ((scopes.flatMap Prod.snd).insertionSort (· ≤ ·)).dedup
  let index := paths.map fun path =>
    { path, tasks := sortDedup (taskNumbers (scopes.filter fun s => s.2.contains path)) }
  index.filter fun overlap => overlap.tasks.length > 1

/-- One of two tasks waits for the other. -/
def taskOrdered (edges : List (Nat × Nat)) (left right : Nat) : Prop :=
  right ∈ transitiveDependencies edges left ∨ left ∈ transitiveDependencies edges right

instance (edges : List (Nat × Nat)) (left right : Nat) : Decidable (taskOrdered edges left right) :=
  inferInstanceAs (Decidable (_ ∨ _))

def hotspotConflicts (scopes : TaskScopes) (edges : List (Nat × Nat)) :
    List ContractDiagnostic :=
  ((overlappingScopes scopes).filter fun overlap =>
    ¬ overlap.tasks.Pairwise (taskOrdered edges)).map fun overlap =>
      ⟨"parallel_hotspot_conflict",
        s!"Execution Strategy leaves hotspot path {overlap.path} unordered across tasks " ++
          debugTasks overlap.tasks ++ "."⟩

/-! ### The analysis -/

structure ParallelWorktreeRequirement where
  tasks : List Nat
  declaredWorktrees : Nat
  requiredWorktrees : Nat
  deriving DecidableEq

structure ExecutionTopologyAnalysis where
  executionStrategyPresent : Bool
  dependencyDiagramPresent : Bool
  executionTopologyValid : Bool
  serialHazardsResolved : Bool
  parallelLaneOwnershipValid : Bool
  parallelWorkspaceIsolationValid : Bool
  parallelWorktreeGroups : List (List Nat)
  parallelWorktreeRequirements : List ParallelWorktreeRequirement
  reasonCodes : List String
  diagnostics : List ContractDiagnostic

def missingSection (section' : Option (List Char)) (d : ContractDiagnostic) :
    List ContractDiagnostic :=
  if section'.isNone then [d] else []

def missingStrategy : ContractDiagnostic where
  code := "missing_execution_strategy"
  message := "Plans must include a canonical Execution Strategy section."

def missingDiagram : ContractDiagnostic where
  code := "missing_dependency_diagram"
  message := "Plans must include a canonical Dependency Diagram section."

/-- The directives of a plan, with what the parser reports. -/
def planDirectives (source : List Char) : List ExecutionDirective × List ContractDiagnostic :=
  match markdownSection source "Execution Strategy" with
  | some strategy => parseExecutionStrategyDirectives strategy
  | none => ([], [])

/-- All that is reported of a plan, in the order of the source. -/
def topologyDiagnostics (source : List Char) (scopes : TaskScopes) : List ContractDiagnostic :=
  let numbers := taskNumbers scopes
  let diagram := markdownSection source "Dependency Diagram"
  let directives := (planDirectives source).1
  let checked := checkDirectives numbers directives OrderedMap.empty
  let edges := dependencyEdges numbers directives
  missingSection (markdownSection source "Execution Strategy") missingStrategy ++
    missingSection diagram missingDiagram ++ (planDirectives source).2 ++ checked.2 ++
    missingCoverage numbers checked.1 ++ serialUnproven scopes checked.1 edges directives ++
    checkDiagram diagram edges ++ hotspotConflicts scopes edges

/-- `analyze_execution_topology`. -/
def analyzeExecutionTopology (source : List Char) (scopes : TaskScopes) :
    ExecutionTopologyAnalysis :=
  let diagnostics := topologyDiagnostics source scopes
  let groups := (planDirectives source).1.filter fun d => d.kind = .parallel
  let reported := fun code => diagnostics.any fun d => d.code = code
  { executionStrategyPresent := (markdownSection source "Execution Strategy").isSome
    dependencyDiagramPresent := (markdownSection source "Dependency Diagram").isSome
    executionTopologyValid := diagnostics.isEmpty
    serialHazardsResolved := !(reported "serial_execution_needs_reason" ||
      reported "last_execution_not_final_task" || reported "serial_execution_unproven")
    parallelLaneOwnershipValid := !reported "parallel_lane_missing_ownership"
    parallelWorkspaceIsolationValid := !reported "parallel_workspace_isolation_mismatch"
    parallelWorktreeGroups := groups.map ExecutionDirective.sortedTasks
    parallelWorktreeRequirements := groups.map fun d =>
      { tasks := d.sortedTasks, declaredWorktrees := d.declaredWorktrees.getD 0,
        requiredWorktrees := d.sortedTasks.length }
    reasonCodes := diagnostics.map ContractDiagnostic.code
    diagnostics }

theorem executionTopologyValid_iff {source : List Char} {scopes : TaskScopes} :
    (analyzeExecutionTopology source scopes).executionTopologyValid = true ↔
      topologyDiagnostics source scopes = [] := by
  simp only [analyzeExecutionTopology, List.isEmpty_iff]

end FeatureForge
