import ConnectorLifecycle.Text.Numeral
import ConnectorLifecycle.Yaml.Gap

/-!
# Quoted scalars

Between single quotes only the quote itself is written twice. Between double quotes a backslash
starts an escape: a letter that stands for a character, a code in two, four or eight hexadecimal
digits, or the end of a line that is to leave no trace. Lines are joined as in plain scalars. The
text may not end inside quotes, nor may a line there look like a document mark.
-/

namespace ConnectorLifecycle.Yaml.Quoted

/-- What a letter after a backslash stands for. -/
def escapeChar? : Char → Option Char
  | '0' => some '\x00'
  | 'a' => some '\x07'
  | 'b' => some '\x08'
  | 't' => some '\t'
  | '\t' => some '\t'
  | 'n' => some '\n'
  | 'v' => some '\x0b'
  | 'f' => some '\x0c'
  | 'r' => some '\r'
  | 'e' => some '\x1b'
  | ' ' => some ' '
  | '"' => some '"'
  | '/' => some '/'
  | '\\' => some '\\'
  | 'N' => some '\x85'
  | '_' => some '\xa0'
  | 'L' => some '\u2028'
  | 'P' => some '\u2029'
  | _ => none

/-- How many digits follow a letter after a backslash. -/
def codeLength? : Char → Option Nat
  | 'x' => some 2
  | 'u' => some 4
  | 'U' => some 8
  | _ => none

/-- The character of a code, unless the code is none of a character. -/
def charOfCode? (n : Nat) : Option Char :=
  if n.isValidChar then some (Char.ofNat n) else none

/-- What has been read last. -/
inductive Reading where
  /-- A character of the text, or nothing yet. -/
  | text
  /-- White space. -/
  | white (gap : Gap)
  /-- A backslash. -/
  | escape
  /-- Some digits of a code, with the number of those that are missing. -/
  | code (missing value : Nat)

/-- The characters before this place, the last one first, with the white space that was read. -/
def Reading.settle (acc : List Char) : Reading → List Char
  | white gap => gap.reversed ++ acc
  | _ => acc

/-- Read single quotes up to the closing one. -/
def readSingle? (acc : List Char) (reading : Reading) : List Glyph → Option (String × List Glyph)
  | [] => none
  | g :: rest =>
    if atDocumentMark (g :: rest) then none
    else if isWhite g.char then
      match reading with
      | .white gap => readSingle? acc (.white (gap.extend g.char)) rest
      | _ => readSingle? acc (.white (Gap.extend {} g.char)) rest
    else if g.char = '\'' then
      match rest with
      | [] => some (String.ofList (reading.settle acc).reverse, [])
      | h :: after =>
        if h.char = '\'' then readSingle? ('\'' :: reading.settle acc) .text after
        else some (String.ofList (reading.settle acc).reverse, h :: after)
    else readSingle? (g.char :: reading.settle acc) .text rest

/-- Read double quotes up to the closing one. -/
def readDouble? (acc : List Char) (reading : Reading) : List Glyph → Option (String × List Glyph)
  | [] => none
  | g :: rest =>
    match reading with
    | .escape =>
      if isBreak g.char then readDouble? acc (.white Gap.escapedBreak) rest
      else
        match escapeChar? g.char, codeLength? g.char with
        | some c, _ => readDouble? (c :: acc) .text rest
        | none, some n => readDouble? acc (.code n 0) rest
        | none, none => none
    | .code (missing + 1) value =>
      match digitValue? g.char with
      | none => none
      | some d =>
        let value := 16 * value + d
        if missing = 0 then
          match charOfCode? value with
          | some c => readDouble? (c :: acc) .text rest
          | none => none
        else readDouble? acc (.code missing value) rest
    | .code 0 _ => none
    | .text | .white _ =>
      if atDocumentMark (g :: rest) then none
      else if isWhite g.char then
        match reading with
        | .white gap => readDouble? acc (.white (gap.extend g.char)) rest
        | _ => readDouble? acc (.white (Gap.extend {} g.char)) rest
      else if g.char = '"' then some (String.ofList (reading.settle acc).reverse, rest)
      else if g.char = '\\' then readDouble? (reading.settle acc) .escape rest
      else readDouble? (g.char :: reading.settle acc) .text rest

end ConnectorLifecycle.Yaml.Quoted
