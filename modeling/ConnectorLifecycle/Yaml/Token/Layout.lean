import ConnectorLifecycle.Yaml.Scalar.Block
import ConnectorLifecycle.Yaml.Scalar.Plain
import ConnectorLifecycle.Yaml.Scalar.Quoted
import ConnectorLifecycle.Yaml.Token

/-!
# Reading tokens

Tokens are read one after the other. `Layout` keeps the indentation of the open block collections,
the tokens so far and, for the block context and each open bracket, the place at which a key may
have begun. When a colon confirms such a key, the key's token is inserted where the key began,
together with the start of a block mapping if the key stands deeper than the collections around it.
A key ends in the line in which it began and within 1024 bytes.
-/

namespace ConnectorLifecycle.Yaml

/-- The beginning of what may turn out to be a key. -/
structure KeyStart where
  /-- Whether it has to be a key, as nothing else may stand there. -/
  required : Bool
  /-- The number of tokens before it. -/
  position : Nat
  /-- Where it stands. -/
  place : Place
  deriving DecidableEq, Repr

/-- What the reading of tokens has come to. -/
structure Layout where
  /-- The column of the innermost block collection, `-1` outside of all. -/
  indent : Int := -1
  /-- The columns of the block collections around it, the inner ones first. -/
  outer : List Int := []
  /-- What may be a key in the innermost brackets, or in the block if there are none. -/
  key : Option KeyStart := none
  /-- The same for what is around them; its length is the number of open brackets. -/
  outerKeys : List (Option KeyStart) := []
  /-- Whether a key may begin here. -/
  keyAllowed : Bool := true
  /-- The tokens, the last one first. -/
  tokens : List Token := []
  /-- How many tokens there are. -/
  count : Nat := 0

namespace Layout

/-- Inside brackets. -/
def inFlow (l : Layout) : Bool := !l.outerKeys.isEmpty

/-- Add a token. -/
def push (l : Layout) (token : Token) : Layout :=
  { l with tokens := token :: l.tokens, count := l.count + 1 }

/-- Put an item into a list that is kept with its last item first, so that a number of items stands
before it. -/
def insertBefore (position count : Nat) (token : Token) (tokens : List Token) : List Token :=
  tokens.take (count - position) ++ token :: tokens.drop (count - position)

/-- Insert a token so that a number of tokens stands before it. -/
def insertAt (l : Layout) (position : Nat) (token : Token) : Layout :=
  { l with tokens := insertBefore position l.count token l.tokens, count := l.count + 1 }

/-- Allow or forbid that a key begins here. -/
def allowKey (l : Layout) (allowed : Bool) : Layout := { l with keyAllowed := allowed }

/-- Whether a key that began in another line or too far away is over. -/
def isStale (here : Place) (key : KeyStart) : Bool :=
  key.place.line < here.line || key.place.offset + 1024 < here.offset

/-- Forget a key start that is over; one that has to be a key is an error. -/
def refresh? (here : Place) : Option KeyStart → Option (Option KeyStart)
  | none => some none
  | some key =>
    if isStale here key then if key.required then none else some none else some (some key)

/-- Forget all key starts that are over. -/
def refreshKeys? (l : Layout) (here : Place) : Option Layout := do
  let key ← refresh? here l.key
  let outerKeys ← l.outerKeys.mapM (refresh? here)
  some { l with key, outerKeys }

/-- Forget the innermost key start. -/
def dropKey? (l : Layout) : Option Layout :=
  if (l.key.map KeyStart.required).getD false then none else some { l with key := none }

/-- Note that a key may begin here. -/
def saveKey? (l : Layout) (here : Place) : Option Layout :=
  if l.keyAllowed then do
    let l ← l.dropKey?
    let required := !l.inFlow && l.indent = here.column
    some { l with key := some ⟨required, l.count, here⟩ }
  else some l

/-- Begin a block collection at a column, if it is deeper than those that are open, by a token with
a number of tokens before it. -/
def openBlock (l : Layout) (column : Int) (position : Nat) (token : Token) : Layout :=
  if !l.inFlow && l.indent < column then
    { l.insertAt position token with indent := column, outer := l.indent :: l.outer }
  else l

/-- End the block collections that are deeper than a column. -/
def closeBlocks (column indent : Int) (l : Layout) : List Int → Layout
  | [] => { l with indent, outer := [] }
  | outer :: rest =>
    if column < indent then closeBlocks column outer (l.push .blockEnd) rest
    else { l with indent, outer := outer :: rest }

/-- Outside of brackets, end the block collections that are deeper than a column. -/
def close (l : Layout) (column : Int) : Layout :=
  if l.inFlow then l else closeBlocks column l.indent l l.outer

/-- Skip white space and comments. A new line may begin with a key, and tabs may stand only where no
key may begin. -/
def skipToToken (flow allowed comment : Bool) : List Glyph → Bool × List Glyph
  | [] => (allowed, [])
  | g :: rest =>
    if isBreak g.char then skipToToken flow (allowed || !flow) false rest
    else if comment then skipToToken flow allowed true rest
    else if g.char = '#' then skipToToken flow allowed true rest
    else if g.char = ' ' || (g.char = '\t' && (flow || !allowed)) ||
        (g.char = '\ufeff' && g.place.column = 0) then
      skipToToken flow allowed false rest
    else (allowed, g :: rest)

/-- The name of an anchor or alias, which a blank or an indicator has to end. -/
def anchorName? (gs : List Glyph) : Option (String × List Glyph) :=
  let (name, rest) := spanChars isNameChar gs
  if !name.isEmpty && (endsWord rest || "?:,]%@\x60\x7d".toList.any (startsWith · rest)) then
    some (String.ofList name, rest)
  else none

/-- A plain scalar may begin here. -/
def startsPlain (flow : Bool) : List Glyph → Bool
  | [] => false
  | g :: rest =>
    let blankNext := match rest with
      | h :: _ => isBlank h.char
      | [] => false
    (!isWhite g.char && !("-?:,[]#&*!|>'\"%@\x60\x7b\x7d".toList.contains g.char)) ||
      (g.char = '-' && !blankNext) ||
      (!flow && (g.char = '?' || g.char = ':') && !endsWord rest)

/-- Leave all block collections before a directive or a document mark. -/
def leaveDocument? (l : Layout) : Option Layout := do
  let l ← (l.close (-1)).dropKey?
  some (l.allowKey false)

/-- Begin a collection in brackets. -/
def openFlow? (l : Layout) (here : Place) (token : Token) : Option Layout := do
  let l ← l.saveKey? here
  let l := { l with key := none, outerKeys := l.key :: l.outerKeys }
  some ((l.allowKey true).push token)

/-- End a collection in brackets. -/
def closeFlow? (l : Layout) (token : Token) : Option Layout := do
  let l ← l.dropKey?
  let l := match l.outerKeys with
    | [] => l
    | key :: rest => { l with key, outerKeys := rest }
  some ((l.allowKey false).push token)

/-- A comma. -/
def flowEntry? (l : Layout) : Option Layout := do
  let l ← l.dropKey?
  some ((l.allowKey true).push .flowEntry)

/-- A dash before an item. -/
def blockEntry? (l : Layout) (here : Place) : Option Layout := do
  if l.inFlow || l.keyAllowed then
    let l ← (l.openBlock here.column l.count .blockSequence).dropKey?
    some ((l.allowKey true).push .blockEntry)
  else none

/-- A question mark before a key. -/
def explicitKey? (l : Layout) (here : Place) : Option Layout := do
  if l.inFlow || l.keyAllowed then
    let l ← (l.openBlock here.column l.count .blockMapping).dropKey?
    some ((l.allowKey (!l.inFlow)).push .key)
  else none

/-- A colon before a value. -/
def value? (l : Layout) (here : Place) : Option Layout :=
  match l.key with
  | some key =>
    let l := (l.insertAt key.position .key).openBlock key.place.column key.position .blockMapping
    some (({ l with key := none }.allowKey false).push .value)
  | none =>
    if l.inFlow then some ((l.allowKey false).push .value)
    else if l.keyAllowed then
      some (((l.openBlock here.column l.count .blockMapping).allowKey true).push .value)
    else none

/-- Something that may be the beginning of a key. -/
def beginNode? (l : Layout) (here : Place) : Option Layout := do
  let l ← l.saveKey? here
  some (l.allowKey false)

/-- Read one token, which begins at the first glyph. -/
def readToken? (l : Layout) (g : Glyph) (rest : List Glyph) : Option (Layout × List Glyph) := do
  let gs := g :: rest
  let here := g.place
  if here.column = 0 && g.char = '%' then
    let l ← l.leaveDocument?
    let (directive, rest) ← Directive.read? rest
    some (l.push (.directive directive), rest)
  else if atMark '-' gs then
    some ((← l.leaveDocument?).push .documentStart, gs.drop 3)
  else if atMark '.' gs then
    some ((← l.leaveDocument?).push .documentEnd, gs.drop 3)
  else if g.char = '[' then some (← l.openFlow? here .flowSequence, rest)
  else if g.char = '\x7b' then some (← l.openFlow? here .flowMapping, rest)
  else if g.char = ']' then some (← l.closeFlow? .flowSequenceEnd, rest)
  else if g.char = '\x7d' then some (← l.closeFlow? .flowMappingEnd, rest)
  else if g.char = ',' then some (← l.flowEntry?, rest)
  else if g.char = '-' && endsWord rest then some (← l.blockEntry? here, rest)
  else if g.char = '?' && (l.inFlow || endsWord rest) then some (← l.explicitKey? here, rest)
  else if g.char = ':' && (l.inFlow || endsWord rest) then some (← l.value? here, rest)
  else if g.char = '*' then
    let l ← l.beginNode? here
    let (name, rest) ← anchorName? rest
    some (l.push (.alias name), rest)
  else if g.char = '&' then
    let l ← l.beginNode? here
    let (name, rest) ← anchorName? rest
    some (l.push (.anchor name), rest)
  else if g.char = '!' then
    let l ← l.beginNode? here
    let (tag, rest) ← WrittenTag.read? l.inFlow rest
    some (l.push (.tag tag), rest)
  else if (g.char = '|' || g.char = '>') && !l.inFlow then
    let l ← l.dropKey?
    let literal := g.char = '|'
    let (text, rest) ← Block.read? literal l.indent rest
    some ((l.allowKey true).push (.scalar (if literal then .literal else .folded) text), rest)
  else if g.char = '\'' then
    let l ← l.beginNode? here
    let (text, rest) ← Quoted.readSingle? [] .text rest
    some (l.push (.scalar .quoted text), rest)
  else if g.char = '"' then
    let l ← l.beginNode? here
    let (text, rest) ← Quoted.readDouble? [] .text rest
    some (l.push (.scalar .quoted text), rest)
  else if startsPlain l.inFlow gs then
    let l ← l.beginNode? here
    let scalar ← PlainScalar.read? l.inFlow (l.indent + 1) gs
    some ((l.allowKey scalar.broken).push (.scalar .plain scalar.text), scalar.rest)
  else none

/-- End the text. -/
def finish? (l : Layout) : Option (List Token) := do
  let l ← l.leaveDocument?
  some l.tokens.reverse

/-- Read tokens to the end of the text. Each takes at least one glyph. -/
def readTokens? (finish : Place) : Nat → Layout → List Glyph → Option (List Token)
  | 0, _, _ => none
  | fuel + 1, l, gs => do
    let (allowed, gs) := skipToToken l.inFlow l.keyAllowed false gs
    match gs with
    | [] => do
      let l ← l.refreshKeys? finish
      finish? (l.allowKey allowed)
    | g :: rest => do
      let l ← (l.allowKey allowed).refreshKeys? g.place
      let (l, gs) ← readToken? (l.close g.place.column) g rest
      readTokens? finish fuel l gs

end Layout

/-- The tokens of a text, if it can be divided into tokens. -/
def Token.ofText? (s : String) : Option (List Token) := do
  let source ← Source.ofText? s
  Layout.readTokens? source.finish (source.glyphs.length + 1) {} source.glyphs

end ConnectorLifecycle.Yaml
