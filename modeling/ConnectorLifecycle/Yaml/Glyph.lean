/-!
# Characters with their places

YAML gives meaning to where a character stands, so a text is first turned into glyphs: characters
with their offset, line and column. Offsets count bytes, columns count characters. A text may hold
printable characters, tabs and line breaks. Every line break is one glyph; all but the two Unicode
separators are written `\n`.
-/

namespace ConnectorLifecycle.Yaml

/-- Where a character stands, counted from zero. -/
structure Place where
  /-- The number of bytes before it. -/
  offset : Nat
  /-- The number of lines before its own. -/
  line : Nat
  /-- The number of characters before it in its line. -/
  column : Nat
  deriving DecidableEq, Repr

/-- A character of a text. -/
structure Glyph where
  /-- The character, with line breaks made alike. -/
  char : Char
  /-- Where it stands. -/
  place : Place
  deriving DecidableEq, Repr

/-- A text as glyphs, with the place after the last one. -/
structure Source where
  /-- The glyphs in order. -/
  glyphs : List Glyph
  /-- Where the text ends. -/
  finish : Place
  deriving DecidableEq, Repr

/-- A character that a text may hold. -/
def isAllowed (c : Char) : Bool :=
  c = '\t' || c = '\n' || c = '\r' || c = '\x85' || (' ' ≤ c && c ≤ '~') ||
    ('\xa0' ≤ c && c != '\ufffe' && c != '\uffff')

/-- A character that ends a line. -/
def isBreak (c : Char) : Bool :=
  c = '\n' || c = '\r' || c = '\x85' || c = '\u2028' || c = '\u2029'

/-- A space or a tab. -/
def isBlank (c : Char) : Bool := c = ' ' || c = '\t'

/-- A character that ends a word. -/
def isWhite (c : Char) : Bool := isBlank c || isBreak c

/-- A line break as it is kept in the text of a scalar. -/
def plainBreak (c : Char) : Char := if c = '\u2028' || c = '\u2029' then c else '\n'

/-- A letter, digit or mark that names are made of. -/
def isNameChar (c : Char) : Bool := c.isAlphanum || c = '_' || c = '-'

/-- The glyphs of characters that start at a place. -/
def glyphsFrom (place : Place) : List Char → Source
  | [] => ⟨[], place⟩
  | '\r' :: '\n' :: rest =>
    let source := glyphsFrom ⟨place.offset + 2, place.line + 1, 0⟩ rest
    { source with glyphs := ⟨'\n', place⟩ :: source.glyphs }
  | c :: rest =>
    if isBreak c then
      let source := glyphsFrom ⟨place.offset + c.utf8Size, place.line + 1, 0⟩ rest
      { source with glyphs := ⟨plainBreak c, place⟩ :: source.glyphs }
    else
      let source := glyphsFrom ⟨place.offset + c.utf8Size, place.line, place.column + 1⟩ rest
      { source with glyphs := ⟨c, place⟩ :: source.glyphs }

/-- The glyphs of a text, if it holds allowed characters only. -/
def Source.ofText? (s : String) : Option Source :=
  if s.toList.all isAllowed then some (glyphsFrom ⟨0, 0, 0⟩ s.toList) else none

/-- No word goes on here: the text ends, or a white character follows. -/
def endsWord : List Glyph → Bool
  | [] => true
  | g :: _ => isWhite g.char

/-- A given character follows. -/
def startsWith (c : Char) : List Glyph → Bool
  | [] => false
  | g :: _ => g.char = c

/-- A line that begins with a mark of three equal characters, alone. -/
def atMark (c : Char) : List Glyph → Bool
  | a :: b :: d :: rest =>
    a.place.column = 0 && a.char = c && b.char = c && d.char = c && endsWord rest
  | _ => false

/-- A line that begins or ends a document. -/
def atDocumentMark (gs : List Glyph) : Bool := atMark '-' gs || atMark '.' gs

/-- The glyphs at the front that satisfy a condition, as characters, and the others. -/
def spanChars (p : Char → Bool) : List Glyph → List Char × List Glyph
  | [] => ([], [])
  | g :: rest =>
    if p g.char then
      let (cs, after) := spanChars p rest
      (g.char :: cs, after)
    else ([], g :: rest)

/-- What follows spaces and tabs. -/
def skipBlanks (gs : List Glyph) : List Glyph := (spanChars isBlank gs).2

/-- What follows the rest of a line that holds nothing but blanks and perhaps a comment. -/
def skipLineEnd? (gs : List Glyph) : Option (List Glyph) :=
  let gs := skipBlanks gs
  let gs := if startsWith '#' gs then (spanChars (fun c => !isBreak c) gs).2 else gs
  match gs with
  | [] => some []
  | g :: rest => if isBreak g.char then some rest else none

end ConnectorLifecycle.Yaml
