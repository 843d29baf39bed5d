import ConnectorLifecycle.Yaml.Glyph

/-!
# Block scalars

A block scalar begins with a header and takes all following lines that are indented far enough. In a
literal block every line break is kept; in a folded one a break between two lines that do not begin
with a blank becomes a space. The header may fix the indentation, which is otherwise that of the
first line with text, and says what becomes of the breaks after the last line: one is kept, none, or
all.
-/

namespace ConnectorLifecycle.Yaml.Block

/-- What becomes of the line breaks at the end. -/
inductive Chomping where
  /-- No break is kept. -/
  | strip
  /-- One break is kept. -/
  | clip
  /-- All breaks are kept. -/
  | keep
  deriving DecidableEq, Repr

/-- What the header says. -/
structure Header where
  /-- What becomes of the breaks at the end. -/
  chomping : Chomping := .clip
  /-- How much deeper than its surroundings the block is indented, if that is fixed. -/
  increment : Option Nat := none
  deriving DecidableEq, Repr

/-- A sign that chooses the chomping. -/
def chomping? (c : Char) : Option Chomping :=
  if c = '+' then some .keep else if c = '-' then some .strip else none

/-- A digit that fixes the indentation; zero is refused by `none`, other characters are left. -/
def increment? : List Glyph → Option (Option Nat × List Glyph)
  | [] => some (none, [])
  | g :: rest =>
    if g.char.isDigit then
      if g.char = '0' then none else some (some (g.char.toNat - 48), rest)
    else some (none, g :: rest)

/-- Read a sign and a digit, in either order and each perhaps missing. -/
def header? (gs : List Glyph) : Option (Header × List Glyph) :=
  match gs with
  | [] => some ({}, [])
  | g :: rest =>
    match chomping? g.char with
    | some chomping => do
      let (increment, after) ← increment? rest
      some ({ chomping, increment }, after)
    | none => do
      let (increment, after) ← increment? gs
      match increment, after with
      | some _, h :: last =>
        match chomping? h.char with
        | some chomping => some ({ chomping, increment }, last)
        | none => some ({ increment }, after)
      | _, _ => some ({ increment }, after)

/-- The breaks before the first line with text, the last one first, the greatest column reached, and
what follows. A tab among the spaces is refused. -/
def leadingBreaks? (breaks : List Char) (deepest : Nat) :
    List Glyph → Option (List Char × Nat × List Glyph)
  | [] => some (breaks, deepest, [])
  | g :: rest =>
    if g.char = ' ' then leadingBreaks? breaks deepest rest
    else if g.char = '\t' then none
    else if isBreak g.char then
      leadingBreaks? (g.char :: breaks) (max deepest g.place.column) rest
    else some (breaks, max deepest g.place.column, g :: rest)

/-- What has been read of a block, each list with its last character first. -/
structure Progress where
  /-- The text of the lines. -/
  text : List Char := []
  /-- Whether the last line began with a blank. -/
  afterBlank : Bool := false
  /-- The break after the last line. -/
  lineBreak : List Char := []
  /-- The breaks of empty lines after that. -/
  emptyLines : List Char := []

/-- Begin a line whose first character is given. -/
def Progress.beginLine (literal : Bool) (p : Progress) (c : Char) : Progress :=
  let folds := !literal && p.lineBreak = ['\n'] && !p.afterBlank && !isBlank c
  let joint :=
    if folds then if p.emptyLines.isEmpty then [' '] else [] else p.lineBreak
  { text := c :: (p.emptyLines ++ joint ++ p.text), afterBlank := isBlank c }

/-- The text of a block that has ended. -/
def Progress.finish (chomping : Chomping) (p : Progress) : String :=
  let tail :=
    match chomping with
    | .strip => []
    | .clip => p.lineBreak
    | .keep => p.emptyLines ++ p.lineBreak
  String.ofList (tail ++ p.text).reverse

/-- Read lines at the column `indent`, the next glyph being inside a line or before one. -/
def readLines? (literal : Bool) (chomping : Chomping) (indent : Nat) (inLine : Bool)
    (p : Progress) : List Glyph → Option (String × List Glyph)
  | [] => some (p.finish chomping, [])
  | g :: rest =>
    if inLine then
      if isBreak g.char then
        readLines? literal chomping indent false { p with lineBreak := [g.char] } rest
      else readLines? literal chomping indent true { p with text := g.char :: p.text } rest
    else if g.place.column < indent && g.char = ' ' then
      readLines? literal chomping indent false p rest
    else if g.place.column < indent && g.char = '\t' then none
    else if isBreak g.char then
      readLines? literal chomping indent false { p with emptyLines := g.char :: p.emptyLines } rest
    else if g.place.column = indent then
      readLines? literal chomping indent true (p.beginLine literal g.char) rest
    else some (p.finish chomping, g :: rest)

/-- Read a block after its `|` or `>`, inside a collection that is indented by `indent`. -/
def read? (literal : Bool) (indent : Int) (gs : List Glyph) : Option (String × List Glyph) := do
  let (header, gs) ← header? gs
  let gs ← skipLineEnd? gs
  match header.increment with
  | some n => readLines? literal header.chomping (indent.toNat + n) false {} gs
  | none =>
    let (breaks, deepest, gs) ← leadingBreaks? [] 0 gs
    let column := max (max deepest (indent + 1).toNat) 1
    readLines? literal header.chomping column false { emptyLines := breaks } gs

end ConnectorLifecycle.Yaml.Block
