import FeatureForge.Lib.Text

/-!
# The dependency diagram of a plan

`parse_dependency_diagram_edges`: a drawing of `Task <n>` nodes and of connectors made
of `|`, `-`, `+`, `v` and `>`.  A connector right of a node or below it starts a walk
along connectors; wherever the walk stands on or just left of a node in its row, or
above one, there is an edge from the node it started at.

Sets of edges are lists here, compared as sets.
-/

namespace FeatureForge

/-- A position in the drawing, row and column. -/
abbrev Cell : Type := Nat × Nat

structure DiagramNode where
  task : Nat
  row : Nat
  first : Nat
  last : Nat
  deriving DecidableEq

/-- `extract_fenced_text`: the lines of the first fenced block, if it has any. -/
def extractFencedText (section' : List Char) : Option (List Char) :=
  let isFence := fun l => startsWith "\x60\x60\x60".toList (trimStart l)
  let inside := (((lines section').dropWhile fun l => !isFence l).drop 1).takeWhile fun l =>
    !isFence l
  if inside = [] then none else some (joinLines inside)

/-- The nodes of a row from a column on. -/
def rowNodes (row : Nat) : Nat → Nat → List Char → List DiagramNode
  | 0, _, _ => []
  | _ + 1, _, [] => []
  | fuel + 1, col, c :: cs =>
    let digits := ((c :: cs).drop 5).takeWhile Char.isDigit
    if startsWith "Task ".toList (c :: cs) ∧ digits ≠ [] then
      let next := col + 5 + digits.length
      let rest := rowNodes row fuel next ((c :: cs).drop (5 + digits.length))
      match parseUnsigned (2 ^ 32) digits with
      | some task => { task, row, first := col, last := next - 1 } :: rest
      | none => rest
    else rowNodes row fuel (col + 1) cs

def diagramNodes (ls : List (List Char)) : List DiagramNode :=
  ls.zipIdx.flatMap fun (line, row) => rowNodes row line.length 0 line

def isDependencyConnector (c : Char) : Bool :=
  c == '|' || c == '-' || c == '+' || c == 'v' || c == '>'

/-- The drawing, its rows filled up with blanks. -/
structure Grid where
  rows : List (List Char)
  width : Nat

namespace Grid

def cell (g : Grid) (c : Cell) : Char :=
  ((g.rows[c.1]?.getD [])[c.2]?).getD ' '

def inside (g : Grid) (c : Cell) : Bool := c.1 < g.rows.length && c.2 < g.width

def connects (g : Grid) (c : Cell) : Bool := g.inside c && isDependencyConnector (g.cell c)

/-- The first mark right of a node, if it is a connector. -/
def rightStart (g : Grid) (node : DiagramNode) : List Cell :=
  let columns := (List.range g.width).drop (node.last + 1)
  match columns.find? fun col => g.cell (node.row, col) ≠ ' ' with
  | some col => if g.connects (node.row, col) then [(node.row, col)] else []
  | none => []

/-- The connectors below a node in the first of these rows that has any, one row only
where there is a start already. -/
def belowStarts (g : Grid) (node : DiagramNode) (starts : List Cell) : List Nat → List Cell
  | [] => starts
  | row :: rows =>
    let columns := ((List.range g.width).take (node.last + 1)).drop node.first
    let starts := starts ++ (columns.map fun col => (row, col)).filter g.connects
    if starts ≠ [] then starts else belowStarts g node starts rows

/-- `dependency_starts`. -/
def dependencyStarts (g : Grid) (node : DiagramNode) : List Cell :=
  let maxRow := min (node.row + 4) (g.rows.length - 1)
  belowStarts g node (g.rightStart node) ((List.range (maxRow + 1)).drop (node.row + 1))

/-- `dependency_neighbors`: where a connector leads on. -/
def dependencyNeighbors (g : Grid) (c : Cell) : List Cell :=
  let down := [(c.1 + 1, c.2)]
  let left := if c.2 > 0 then [(c.1, c.2 - 1)] else []
  let right := [(c.1, c.2 + 1)]
  let directions := match g.cell c with
    | '|' => down
    | '-' => left ++ right
    | '+' => down ++ left ++ right
    | 'v' => down
    | '>' => right
    | _ => []
  directions.filter g.connects

/-- The nodes a walk meets at a cell. -/
def meets (c : Cell) (target : DiagramNode) : Bool :=
  (c.1 + 1 == target.row && target.first ≤ c.2 && c.2 ≤ target.last) ||
    (c.1 == target.row && target.first ≤ c.2 + 2 && c.2 ≤ target.first)

/-- `follow_dependency_edges`, the stack of cells to visit in front.  Every cell is
entered once and puts three cells on the stack at most. -/
def followDependencyEdges (g : Grid) (nodes : List DiagramNode) (source : DiagramNode) :
    Nat → List Cell → List Cell → List (Nat × Nat) → List (Nat × Nat)
  | 0, _, _, edges => edges
  | _ + 1, [], _, edges => edges
  | fuel + 1, c :: queue, seen, edges =>
    if c ∈ seen then followDependencyEdges g nodes source fuel queue seen edges
    else if g.connects c then
      let met := nodes.filter fun target => target.task ≠ source.task && meets c target
      followDependencyEdges g nodes source fuel ((g.dependencyNeighbors c).reverse ++ queue)
        (c :: seen) (edges ++ met.map fun target => (source.task, target.task))
    else followDependencyEdges g nodes source fuel queue (c :: seen) edges

end Grid

/-- `parse_dependency_diagram_edges`. -/
def parseDependencyDiagramEdges (section' : List Char) : Option (List (Nat × Nat)) :=
  let ls := lines ((extractFencedText section').getD section')
  let width := (ls.map List.length).foldl max 0
  if width = 0 then none
  else
    let g : Grid := { rows := ls, width }
    let nodes := diagramNodes ls
    if nodes = [] then none
    else
      let fuel := 3 * (ls.length * width) + 1
      some (nodes.flatMap fun node => (g.dependencyStarts node).flatMap fun start =>
        g.followDependencyEdges nodes node fuel [start] [] [])

end FeatureForge
