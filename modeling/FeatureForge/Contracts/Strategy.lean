import FeatureForge.Lib.Text

/-!
# The execution strategy of a plan

The `Execution Strategy` section of a plan lists directives: `- Execute Task 2 after
Task 1 serially. <reason>`, `- Execute Task 4 last. <reason>` and `- After Task 1,
create two worktrees and run Tasks 2 and 3 in parallel:` with one ownership line for
each of its tasks.  This is the parser of that section, which never fails: a line it
cannot make sense of is reported, and any other line passed over.

Tasks are natural numbers below `2 ^ 32`.
-/

namespace FeatureForge

structure ContractDiagnostic where
  code : String
  message : String
  deriving DecidableEq

/-- `markdown_section`: what stands under a heading of the second level, up to the next,
unless it is blank. -/
def markdownSection (source : List Char) (heading : String) : Option (List Char) :=
  let target := "## ".toList ++ heading.toList
  let body := ((lines source).dropWhile (· ≠ target)).drop 1
  let content := trimChars (joinLines (body.takeWhile fun l => !startsWith "## ".toList l))
  if content = [] then none else some content

inductive ExecutionDirectiveKind where
  | serial
  | parallel
  | last
  deriving DecidableEq

structure ExecutionDirective where
  kind : ExecutionDirectiveKind
  tasks : List Nat
  dependencies : List Nat
  reason : List Char
  ownershipTasks : List Nat
  declaredWorktrees : Option Nat
  deriving DecidableEq

/-- `extract_numbers`: the runs of digits, those out of range passed over. -/
def extractNumbers (s : List Char) : List Nat :=
  let (numbers, current) := s.foldl (fun (numbers, current) c =>
    if c.isDigit then (numbers, current ++ [c])
    else (numbers ++ (parseUnsigned (2 ^ 32) current).toList, [])) ([], [])
  numbers ++ (parseUnsigned (2 ^ 32) current).toList

def splitHeadAndReason (body : List Char) : List Char × List Char :=
  match splitOnce ". ".toList body with
  | some (head, reason) => (trimEndChar '.' head, trimEndChar '.' (trimChars reason))
  | none => (trimEndChar '.' body, [])

/-- `Task 2 after Task 1 serially. <reason>` -/
def parseSerially (body : List Char) : Option ExecutionDirective :=
  let head := (splitHeadAndReason body).1
  let parts := (splitOnce " after ".toList head).getD (head, [])
  match extractNumbers parts.1 with
  | [] => none
  | task :: tasks => some {
      kind := .serial, tasks := task :: tasks, dependencies := extractNumbers parts.2,
      reason := (splitHeadAndReason body).2, ownershipTasks := [], declaredWorktrees := none }

/-- `Task 4 last. <reason>` -/
def parseLast (body : List Char) : Option ExecutionDirective :=
  let normalized := trimEndChar '.' body
  let reason := match splitOnce " last".toList normalized with
    | some (_, rest) => trimChars (trimStartChar '.' (trimChars rest))
    | none => []
  match extractNumbers normalized with
  | [task] => some {
      kind := .last, tasks := [task], dependencies := [], reason, ownershipTasks := [],
      declaredWorktrees := none }
  | _ => none

/-- `parse_execute_directive`. -/
def parseExecuteDirective (line : List Char) : Option ExecutionDirective :=
  let body := trimEnd (trimStartMatches "- Execute ".toList line)
  if containsText " serially".toList body then parseSerially body
  else if containsText " last".toList body then parseLast body
  else none

def parseOwnershipTask (line : List Char) : Option Nat :=
  if startsWith "- Task ".toList line then
    (splitOnce " owns ".toList (line.drop 7)).bind fun (number, _) =>
      parseUnsigned (2 ^ 32) number
  else none

def countWords : List (String × Nat) :=
  [("one", 1), ("two", 2), ("three", 3), ("four", 4), ("five", 5), ("six", 6), ("seven", 7),
   ("eight", 8), ("nine", 9), ("ten", 10)]

def parseCountToken (token : List Char) : Option Nat :=
  match countWords.find? fun w => w.1.toList == asciiLowercase token with
  | some (_, n) => some n
  | none => parseUnsigned (2 ^ 64) token

/-- The first count with a worktree among the two words behind it. -/
def countBeforeWorktrees : List (List Char) → Option Nat
  | [] => none
  | token :: tokens =>
    match parseCountToken token with
    | some count =>
      if (tokens.take 2).any fun t => t == "worktree".toList || t == "worktrees".toList then
        some count
      else countBeforeWorktrees tokens
    | none => countBeforeWorktrees tokens

def trimPunctuation (token : List Char) : List Char :=
  ((token.dropWhile fun c => !isAsciiAlphanumeric c).reverse.dropWhile fun c =>
    !isAsciiAlphanumeric c).reverse

/-- `parse_declared_worktree_count`. -/
def parseDeclaredWorktreeCount (workspacePart : List Char) (taskCount : Nat) : Option Nat :=
  let normalized := asciiLowercase workspacePart
  if containsText "per task".toList normalized && containsText "worktree".toList normalized then
    some taskCount
  else
    countBeforeWorktrees (((splitWhitespace workspacePart).map trimPunctuation).filter
      fun t => t ≠ [])

/-- The ownership lines behind a parallel directive, blank lines among them, and how many
lines they are. -/
def ownershipLines : List (List Char) → List Nat × Nat
  | [] => ([], 0)
  | nested :: rest =>
    if trimChars nested = [] then
      let (tasks, consumed) := ownershipLines rest
      (tasks, consumed + 1)
    else if startsWith "  - Task ".toList nested then
      let (tasks, consumed) := ownershipLines rest
      ((parseOwnershipTask (trimChars nested)).toList ++ tasks, consumed + 1)
    else ([], 0)

/-- `parse_parallel_directive`, with the number of lines consumed behind the first. -/
def parseParallelDirective (line : List Char) (rest : List (List Char)) :
    Option (ExecutionDirective × Nat) := do
  let body := trimEndChar ':' (trimStartMatches "- After ".toList (trimEnd line))
  let (dependencyPart, rest') ← splitOnce ", ".toList body
  let (workspacePart, runPart) ← splitOnce " and run ".toList rest'
  let (taskPart, _) ← splitOnce " in parallel".toList runPart
  match extractNumbers taskPart with
  | [] => none
  | task :: tasks => some ({
      kind := .parallel, tasks := task :: tasks, dependencies := extractNumbers dependencyPart,
      reason := [], ownershipTasks := (ownershipLines rest).1,
      declaredWorktrees := parseDeclaredWorktreeCount workspacePart (tasks.length + 1) },
      (ownershipLines rest).2)

def unparseableExecute : ContractDiagnostic where
  code := "malformed_execution_strategy"
  message := "Execution Strategy contains an unparseable Execute directive."

def unparseableParallel : ContractDiagnostic where
  code := "malformed_execution_strategy"
  message := "Execution Strategy contains an unparseable parallel directive."

/-- The loop over the lines, of which every round consumes one at least. -/
def parseDirectiveLines : Nat → List (List Char) →
    List ExecutionDirective × List ContractDiagnostic
  | 0, _ => ([], [])
  | _ + 1, [] => ([], [])
  | fuel + 1, line :: rest =>
    let trimmed := trimEnd line
    if startsWith "- Execute ".toList trimmed then
      let (directives, diagnostics) := parseDirectiveLines fuel rest
      match parseExecuteDirective trimmed with
      | some directive => (directive :: directives, diagnostics)
      | none => (directives, unparseableExecute :: diagnostics)
    else if startsWith "- After ".toList trimmed then
      match parseParallelDirective line rest with
      | some (directive, consumed) =>
        let (directives, diagnostics) := parseDirectiveLines fuel (rest.drop consumed)
        (directive :: directives, diagnostics)
      | none =>
        let (directives, diagnostics) := parseDirectiveLines fuel rest
        (directives, unparseableParallel :: diagnostics)
    else parseDirectiveLines fuel rest

/-- `parse_execution_strategy_directives`. -/
def parseExecutionStrategyDirectives (section' : List Char) :
    List ExecutionDirective × List ContractDiagnostic :=
  let ls := lines section'
  parseDirectiveLines ls.length ls

/-! ### What is parsed -/

/-- What every parsed directive is like. -/
structure ExecutionDirective.Formed (d : ExecutionDirective) : Prop where
  tasks_ne_nil : d.tasks ≠ []
  last_single : d.kind = .last → d.tasks.length = 1 ∧ d.dependencies = []

theorem formed_of_parseExecuteDirective {line : List Char} {d : ExecutionDirective}
    (h : parseExecuteDirective line = some d) : d.Formed := by
  rw [parseExecuteDirective] at h
  split_ifs at h
  · rw [parseSerially] at h
    split at h
    · cases h
    · cases h
      exact ⟨List.cons_ne_nil _ _, fun hk => by cases hk⟩
  · rw [parseLast] at h
    split at h
    · cases h
      exact ⟨List.cons_ne_nil _ _, fun _ => ⟨rfl, rfl⟩⟩
    · cases h

theorem formed_of_parseParallelDirective {line : List Char} {rest : List (List Char)}
    {d : ExecutionDirective} {n : Nat} (h : parseParallelDirective line rest = some (d, n)) :
    d.Formed := by
  simp only [parseParallelDirective, Option.bind_eq_bind, Option.bind_eq_some_iff] at h
  obtain ⟨p, _, q, _, r, _, h⟩ := h
  split at h
  · cases h
  · cases h
    exact ⟨List.cons_ne_nil _ _, fun hk => by cases hk⟩

theorem formed_of_parseDirectiveLines : ∀ (fuel : Nat) (ls : List (List Char)),
    ∀ d ∈ (parseDirectiveLines fuel ls).1, d.Formed := by
  intro fuel
  induction fuel with
  | zero => intro ls d hd; cases hd
  | succ fuel ih =>
    intro ls d hd
    cases ls with
    | nil => cases hd
    | cons line rest =>
      rw [parseDirectiveLines] at hd
      split_ifs at hd with hexec hafter
      · cases hp : parseExecuteDirective (trimEnd line) with
        | none => rw [hp] at hd; exact ih rest d hd
        | some e =>
          rw [hp] at hd
          rcases List.mem_cons.mp hd with rfl | hd
          · exact formed_of_parseExecuteDirective hp
          · exact ih rest d hd
      · cases hp : parseParallelDirective line rest with
        | none => rw [hp] at hd; exact ih rest d hd
        | some p =>
          obtain ⟨e, consumed⟩ := p
          rw [hp] at hd
          rcases List.mem_cons.mp hd with rfl | hd
          · exact formed_of_parseParallelDirective hp
          · exact ih _ d hd
      · exact ih rest d hd

/-- **Every parsed directive names a task**, and one for the end names one task and no
dependencies. -/
theorem formed_of_parse (section' : List Char) :
    ∀ d ∈ (parseExecutionStrategyDirectives section').1, d.Formed :=
  formed_of_parseDirectiveLines _ _

end FeatureForge
