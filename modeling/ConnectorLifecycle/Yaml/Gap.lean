import ConnectorLifecycle.Yaml.Glyph

/-!
# White space inside scalars

Between the words of a scalar that is not a block there may be a gap of blanks and line breaks.
Blanks in one line are kept. Of line breaks the first becomes a space, unless more follow, which are
then kept alone; blanks around them are lost. A break that is escaped leaves no trace of itself.
-/

namespace ConnectorLifecycle.Yaml

/-- White space after a word. -/
structure Gap where
  /-- The blanks before the first break, the last one first. -/
  blanks : List Char := []
  /-- Whether a line has ended. -/
  broken : Bool := false
  /-- The first break, unless it was escaped. -/
  first : Option Char := none
  /-- The breaks after the first, the last one first. -/
  later : List Char := []
  deriving DecidableEq, Repr

namespace Gap

/-- The gap that an escaped line break makes. -/
def escapedBreak : Gap := { broken := true }

/-- A gap with one more white character. -/
def extend (gap : Gap) (c : Char) : Gap :=
  if isBreak c then
    if gap.broken then { gap with later := c :: gap.later }
    else { gap with broken := true, first := some c }
  else if gap.broken then gap
  else { gap with blanks := c :: gap.blanks }

/-- What a gap adds to a text, the last character first. -/
def reversed (gap : Gap) : List Char :=
  if gap.broken then
    match gap.first with
    | none => gap.later
    | some '\n' => if gap.later.isEmpty then [' '] else gap.later
    | some c => gap.later ++ [c]
  else gap.blanks

end Gap

end ConnectorLifecycle.Yaml
