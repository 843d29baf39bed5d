import ConnectorLifecycle.Yaml.Gap

/-!
# Plain scalars

A plain scalar goes on over gaps of white space until something ends it: a colon that ends a word, a
comment, a document mark, less indentation than its surroundings ask for, or, inside brackets, one
of the flow marks.
-/

namespace ConnectorLifecycle.Yaml

/-- A plain scalar and what follows it. -/
structure PlainScalar where
  /-- Its text. -/
  text : String
  /-- Whether a line ended after its last word. -/
  broken : Bool
  /-- What follows the white space after it. -/
  rest : List Glyph

namespace PlainScalar

/-- A mark that ends a plain scalar inside brackets. -/
def isFlowMark (c : Char) : Bool := c = ',' || c = '[' || c = ']' || c = '\x7b' || c = '\x7d'

/-- A mark that may not follow a colon inside brackets. -/
def clashesWithColon : List Glyph → Bool
  | [] => false
  | g :: _ => isFlowMark g.char || g.char = '?'

/-- A scalar that has been read as far as `acc`, its last character first. -/
def ending (acc : List Char) (gap : Option Gap) (rest : List Glyph) : PlainScalar :=
  ⟨String.ofList acc.reverse, (gap.map Gap.broken).getD false, rest⟩

/-- Read on after the characters of `acc` and the gap, if there is one. -/
def readFrom? (flow : Bool) (indent : Int) (acc : List Char) (gap : Option Gap) :
    List Glyph → Option PlainScalar
  | [] => some (ending acc gap [])
  | g :: rest =>
    let column : Int := g.place.column
    if isWhite g.char then
      let soFar := gap.getD {}
      if soFar.broken && g.char = '\t' && column < indent then none
      else readFrom? flow indent acc (some (soFar.extend g.char)) rest
    else if gap.isSome &&
        ((!flow && column < indent) || atDocumentMark (g :: rest) || g.char = '#') then
      some (ending acc gap (g :: rest))
    else if flow && g.char = ':' && clashesWithColon rest then none
    else if (g.char = ':' && endsWord rest) || (flow && isFlowMark g.char) then
      some (ending acc gap (g :: rest))
    else readFrom? flow indent (g.char :: ((gap.map Gap.reversed).getD [] ++ acc)) none rest

/-- Read a plain scalar whose later lines stand at least at the column `indent`. -/
def read? (flow : Bool) (indent : Int) (gs : List Glyph) : Option PlainScalar :=
  readFrom? flow indent [] none gs

end PlainScalar

end ConnectorLifecycle.Yaml
