import ConnectorLifecycle.Text.Numeral
import ConnectorLifecycle.Yaml.Glyph

/-!
# Tags and directives

A tag is written in full between `!<` and `>`, or as a handle and a suffix. Handles are `!`, `!!`
and names between exclamation marks; a directive says what a handle is short for. Bytes may be
escaped, so the parts of a tag need not spell characters, and each part ends before a zero. The
version directive names the edition of the format that a text is written in.
-/

namespace ConnectorLifecycle.Yaml

/-- What a node is said to be. -/
structure Tag where
  /-- The characters, with `none` for escaped bytes that spell no character. -/
  marks : List (Option Char)
  deriving DecidableEq, Repr

namespace Tag

/-- The tag of a text. -/
def ofText (s : String) : Tag := ⟨s.toList.map some⟩

/-- A tag that every text may use. -/
def usual (name : String) : Tag := ofText ("tag:yaml.org,2002:" ++ name)

/-- A part of a tag as it has been read: it ends before a zero. -/
def ofRead (marks : List (Option Char)) : Tag := ⟨marks.takeWhile (· ≠ some '\x00')⟩

/-- A tag in two parts. -/
def append (front back : Tag) : Tag := ⟨front.marks ++ back.marks⟩

/-- All bytes spell characters. -/
def isText (tag : Tag) : Bool := tag.marks.all Option.isSome

/-- A tag of one's own, which begins with an exclamation mark and says nothing to this library. -/
def isOwn (tag : Tag) : Bool := tag.marks.head? = some (some '!')

/-- All bytes of a text spell characters. -/
theorem isText_ofText (s : String) : (ofText s).isText := by
  simp [ofText, isText]

/-- What follows a zero is no part of a tag. -/
theorem ofRead_append_zero (front back : List (Option Char)) (h : some '\x00' ∉ front) :
    ofRead (front ++ some '\x00' :: back) = ⟨front⟩ := by
  have kept : ∀ mark ∈ front, decide (mark ≠ some '\x00') = true := by
    intro mark member
    exact decide_eq_true fun equal => h (equal ▸ member)
  rw [ofRead, List.takeWhile_append_of_pos kept, List.takeWhile_cons_of_neg (by simp),
    List.append_nil]

end Tag

/-- A tag as it is written: a handle, empty for a tag in full, and the rest. -/
structure WrittenTag where
  /-- The handle. -/
  handle : String
  /-- What follows the handle. -/
  suffix : Tag
  deriving DecidableEq, Repr

/-- A line that begins with a percent sign. -/
inductive Directive where
  /-- The edition of the format. -/
  | version (major minor : Nat)
  /-- What a handle is short for. -/
  | handle (handle : String) (target : Tag)
  deriving DecidableEq, Repr

namespace WrittenTag

/-- A character of a tag's suffix. -/
def isSuffixChar (c : Char) : Bool := isNameChar c || ";/?:@&=+$.!~*'()%".toList.contains c

/-- A character of a tag that is written in full. -/
def isFullChar (c : Char) : Bool := isSuffixChar c || c = ',' || c = '[' || c = ']'

/-- How many bytes a character has whose first byte is given. -/
def byteCount? (byte : Nat) : Option Nat :=
  if byte < 0x80 then some 1
  else if byte < 0xc0 then none
  else if byte < 0xe0 then some 2
  else if byte < 0xf0 then some 3
  else if byte < 0xf8 then some 4
  else none

/-- What a first byte adds to the code of its character. -/
def firstBits (count byte : Nat) : Nat :=
  match count with
  | 1 => byte
  | 2 => byte % 0x20
  | 3 => byte % 0x10
  | _ => byte % 0x08

/-- The character of a code that was written in a number of bytes, unless the code is none of a
character or needs fewer bytes. -/
def charOfBytes? (count code : Nat) : Option Char :=
  let least := match count with
    | 1 => 0
    | 2 => 0x80
    | 3 => 0x800
    | _ => 0x10000
  if least ≤ code && code.isValidChar then some (Char.ofNat code) else none

/-- How far an escaped character has been read. -/
inductive Reading where
  /-- Between characters. -/
  | between
  /-- A percent sign is next, with the length of the character, the bytes missing and its code. -/
  | sign (count missing code : Nat)
  /-- A percent sign has been read, before the first or a later byte of a character. -/
  | high (count missing code : Nat)
  /-- One digit has been read as well. -/
  | low (count missing code digit : Nat)

/-- The step after a byte that was written as two digits, with what it adds to the tag. -/
def afterByte? (count missing code byte : Nat) : Option (List (Option Char) × Reading) :=
  if count = 0 then do
    let count ← byteCount? byte
    let code := firstBits count byte
    if count = 1 then some ([charOfBytes? 1 code], .between)
    else some ([], .sign count (count - 1) code)
  else if byte / 0x40 = 2 then
    let code := code * 0x40 + byte % 0x40
    if missing = 1 then some ([charOfBytes? count code], .between)
    else some ([], .sign count (missing - 1) code)
  else none

/-- Read characters of a kind, with bytes written as a percent sign and two digits. -/
def readChars? (kind : Char → Bool) (acc : List (Option Char)) (reading : Reading) :
    List Glyph → Option (List (Option Char) × List Glyph)
  | [] =>
    match reading with
    | .between => some (acc.reverse, [])
    | _ => none
  | g :: rest =>
    match reading with
    | .between =>
      if g.char = '%' then readChars? kind acc (.high 0 0 0) rest
      else if kind g.char then readChars? kind (some g.char :: acc) .between rest
      else some (acc.reverse, g :: rest)
    | .sign count missing code =>
      if g.char = '%' then readChars? kind acc (.high count missing code) rest else none
    | .high count missing code =>
      match digitValue? g.char with
      | some d => readChars? kind acc (.low count missing code d) rest
      | none => none
    | .low count missing code digit =>
      match digitValue? g.char with
      | none => none
      | some d =>
        match afterByte? count missing code (16 * digit + d) with
        | some (marks, reading) => readChars? kind (marks ++ acc) reading rest
        | none => none

/-- The handle at the front, after its first exclamation mark: a name and perhaps another mark. -/
def spanHandle (gs : List Glyph) : List Char × List Glyph :=
  let (name, after) := spanChars isNameChar gs
  match after with
  | [] => ('!' :: name, [])
  | g :: rest => if g.char = '!' then ('!' :: name ++ ['!'], rest) else ('!' :: name, after)

/-- A tag in full, after its exclamation mark and bracket. -/
def readFull? (gs : List Glyph) : Option (WrittenTag × List Glyph) := do
  let (marks, after) ← readChars? isFullChar [] .between gs
  match after with
  | g :: rest =>
    if g.char = '>' && !marks.isEmpty then some (⟨"", .ofRead marks⟩, rest) else none
  | [] => none

/-- A tag with a handle, after its exclamation mark. A mark with nothing after it is a tag in
full. -/
def readShort? (gs : List Glyph) : Option (WrittenTag × List Glyph) := do
  let (name, after) := spanHandle gs
  let (marks, rest) ← readChars? isSuffixChar [] .between after
  if 1 < name.length && name.getLast? = some '!' then
    if marks.isEmpty then none else some (⟨String.ofList name, .ofRead marks⟩, rest)
  else
    let suffix := Tag.ofRead (name.tail.map some ++ marks)
    if suffix.marks.isEmpty then some (⟨"", .ofText "!"⟩, rest) else some (⟨"!", suffix⟩, rest)

/-- A tag after its exclamation mark, which white space or, inside brackets, a comma has to end. -/
def read? (flow : Bool) (gs : List Glyph) : Option (WrittenTag × List Glyph) := do
  let (tag, rest) ←
    match gs with
    | g :: after => if g.char = '<' then readFull? after else readShort? gs
    | [] => readShort? gs
  if endsWord rest || (flow && startsWith ',' rest) then some (tag, rest) else none

end WrittenTag

namespace Directive

/-- A number of at most nine digits. -/
def number? (gs : List Glyph) : Option (Nat × List Glyph) := do
  let (digits, rest) := spanChars Char.isDigit gs
  if digits.length ≤ 9 then some (← numeral? 10 digits, rest) else none

/-- The numbers of an edition. -/
def readVersion? (gs : List Glyph) : Option (Directive × List Glyph) := do
  let (major, after) ← number? (skipBlanks gs)
  match after with
  | g :: rest =>
    if g.char = '.' then
      let (minor, rest) ← number? rest
      some (.version major minor, rest)
    else none
  | [] => none

/-- A handle and what it is short for. -/
def readHandle? (gs : List Glyph) : Option (Directive × List Glyph) := do
  match skipBlanks gs with
  | g :: rest =>
    if g.char = '!' then
      let (name, after) := WrittenTag.spanHandle rest
      if name = ['!'] || name.getLast? = some '!' then
        match after with
        | h :: _ =>
          if isBlank h.char then
            let (target, rest) ←
              WrittenTag.readChars? WrittenTag.isFullChar [] .between (skipBlanks after)
            if !target.isEmpty && endsWord rest then
              some (.handle (String.ofList name) (.ofRead target), rest)
            else none
          else none
        | [] => none
      else none
    else none
  | [] => none

/-- A directive after its percent sign, with its whole line. -/
def read? (gs : List Glyph) : Option (Directive × List Glyph) := do
  let (name, after) := spanChars isNameChar gs
  if endsWord after then
    let (directive, rest) ←
      if name = "YAML".toList then readVersion? after
      else if name = "TAG".toList then readHandle? after
      else none
    some (directive, ← skipLineEnd? rest)
  else none

end Directive

end ConnectorLifecycle.Yaml
