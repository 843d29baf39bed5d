import ConnectorLifecycle.Yaml.Node
import ConnectorLifecycle.Yaml.Token.Layout

/-!
# Reading documents

Tokens make at most one document. Where a node is expected and none is written, as after a colon at
the end of a line, an empty scalar is understood. An anchor is numbered when its node begins, by the
number of different names before it; naming a node anew can therefore give the number of one anchor
to another, and the node that began last is the one that an alias finds.
-/

namespace ConnectorLifecycle.Yaml

/-- A node that was given a name. -/
structure Anchored where
  /-- How many named nodes began before it. -/
  order : Nat
  /-- The number of its anchor. -/
  anchor : Nat
  /-- The node. -/
  node : Node

/-- What the reading of a document has come to. -/
structure DocumentProgress where
  /-- The tokens that follow. -/
  tokens : List Token
  /-- The number that each name stands for at present. -/
  names : List (String × Nat) := []
  /-- How many named nodes have begun. -/
  begun : Nat := 0
  /-- The named nodes that have ended, the one that began last first. -/
  anchored : List Anchored := []

/-- Something that is read from tokens, or refused. -/
abbrev DocumentReader := StateT DocumentProgress Option

namespace DocumentReader

/-- The next token. -/
def peek : DocumentReader (Option Token) := do return (← get).tokens.head?

/-- Go past the next token. -/
def skip : DocumentReader Unit := modify fun p => { p with tokens := p.tokens.tail }

/-- Refuse what follows. -/
def refuse {α : Type} : DocumentReader α := fun _ => none

/-- The number that a name stands for. -/
def numberOf (name : String) : DocumentReader Nat := do
  match (← get).names.find? fun e => e.1 = name with
  | some (_, anchor) => return anchor
  | none => refuse

/-- Give a name to the node that begins here; its order and its number come back. -/
def beginAnchor (name : String) : DocumentReader (Nat × Nat) := do
  let p ← get
  let anchor := p.names.length
  set { p with names := (name, anchor) :: p.names.filter (·.1 ≠ name), begun := p.begun + 1 }
  return (p.begun, anchor)

/-- Put a named node before those that began earlier. -/
def placeAnchored (a : Anchored) : List Anchored → List Anchored
  | [] => [a]
  | b :: rest => if a.order < b.order then b :: placeAnchored a rest else a :: b :: rest

/-- Note that a named node has ended. -/
def endAnchor (place : Option (Nat × Nat)) (node : Node) : DocumentReader Unit :=
  match place with
  | some (order, anchor) =>
    modify fun p => { p with anchored := placeAnchored ⟨order, anchor, node⟩ p.anchored }
  | none => pure ()

/-- An anchor and a tag, in either order and each perhaps missing. -/
def properties : DocumentReader (Option String × Option WrittenTag) := do
  match ← peek with
  | some (.anchor name) => do
    skip
    match ← peek with
    | some (.tag tag) => do
      skip
      return (some name, some tag)
    | _ => return (some name, none)
  | some (.tag tag) => do
    skip
    match ← peek with
    | some (.anchor name) => do
      skip
      return (some name, some tag)
    | _ => return (none, some tag)
  | _ => return (none, none)

/-- What a tag is short for. -/
def expand (handles : List (String × Tag)) (tag : WrittenTag) : DocumentReader Tag :=
  if tag.handle.isEmpty then return tag.suffix
  else
    match handles.find? fun e => e.1 = tag.handle with
    | some (_, target) => return target.append tag.suffix
    | none => refuse

/-- One of some tokens follows. -/
def followedBy (tokens : List Token) : DocumentReader Bool := do
  match ← peek with
  | some token => return tokens.contains token
  | none => return false

/-- Read on with `reader`, unless one of some tokens shows that nothing is written here. -/
def unlessNext (tokens : List Token) (reader : DocumentReader Node) : DocumentReader Node := do
  if ← followedBy tokens then return .blank else reader

mutual

/-- A node. Block collections are expected only in block context, and a sequence may be indented no
deeper than the mapping that it stands in. -/
def node (handles : List (String × Tag)) (block indentless : Bool) :
    Nat → DocumentReader Node
  | 0 => refuse
  | fuel + 1 => do
    match ← peek with
    | some (.alias name) => do
      skip
      return .alias (← numberOf name)
    | _ => do
      let (name, written) ← properties
      let tag ← written.mapM (expand handles)
      let place ← name.mapM beginAnchor
      let found ← content handles block indentless tag (name.isSome || tag.isSome) fuel
      endAnchor place found
      return found

/-- What follows the anchor and the tag of a node. -/
def content (handles : List (String × Tag)) (block indentless : Bool) (tag : Option Tag)
    (marked : Bool) : Nat → DocumentReader Node
  | 0 => refuse
  | fuel + 1 => do
    match ← peek with
    | some (.scalar style text) => do
      skip
      return .scalar tag style text
    | some .flowSequence => do
      skip
      return .sequence tag (← flowItems handles true fuel)
    | some .flowMapping => do
      skip
      return .mapping tag (← flowEntries handles true fuel)
    | some .blockEntry =>
      if indentless then return .sequence tag (← indentlessItems handles fuel)
      else if marked then return .scalar tag .plain "" else refuse
    | some .blockSequence =>
      if block then do
        skip
        return .sequence tag (← blockItems handles fuel)
      else if marked then return .scalar tag .plain "" else refuse
    | some .blockMapping =>
      if block then do
        skip
        return .mapping tag (← blockEntries handles fuel)
      else if marked then return .scalar tag .plain "" else refuse
    | _ => if marked then return .scalar tag .plain "" else refuse

/-- The items of a block sequence. -/
def blockItems (handles : List (String × Tag)) : Nat → DocumentReader (List Node)
  | 0 => refuse
  | fuel + 1 => do
    match ← peek with
    | some .blockEntry => do
      skip
      let item ← unlessNext [.blockEntry, .blockEnd] (node handles true false fuel)
      return item :: (← blockItems handles fuel)
    | some .blockEnd => do
      skip
      return []
    | _ => refuse

/-- The items of a sequence that is indented like the mapping that it stands in. -/
def indentlessItems (handles : List (String × Tag)) : Nat → DocumentReader (List Node)
  | 0 => refuse
  | fuel + 1 => do
    match ← peek with
    | some .blockEntry => do
      skip
      let item ← unlessNext [.blockEntry, .key, .value, .blockEnd] (node handles true false fuel)
      return item :: (← indentlessItems handles fuel)
    | _ => return []

/-- The pairs of a block mapping. -/
def blockEntries (handles : List (String × Tag)) : Nat → DocumentReader (List (Node × Node))
  | 0 => refuse
  | fuel + 1 => do
    match ← peek with
    | some .key => do
      skip
      let key ← unlessNext [.key, .value, .blockEnd] (node handles true true fuel)
      let value ← blockValue handles fuel
      return (key, value) :: (← blockEntries handles fuel)
    | some .blockEnd => do
      skip
      return []
    | _ => refuse

/-- The value of a pair of a block mapping. -/
def blockValue (handles : List (String × Tag)) : Nat → DocumentReader Node
  | 0 => refuse
  | fuel + 1 => do
    match ← peek with
    | some .value => do
      skip
      unlessNext [.key, .value, .blockEnd] (node handles true true fuel)
    | _ => return .blank

/-- The items of a sequence in brackets, which commas separate. A pair may stand for a mapping. -/
def flowItems (handles : List (String × Tag)) (first : Bool) :
    Nat → DocumentReader (List Node)
  | 0 => refuse
  | fuel + 1 => do
    if ← followedBy [.flowSequenceEnd] then do
      skip
      return []
    else do
      if first then pure ()
      else if ← followedBy [.flowEntry] then skip
      else refuse
      match ← peek with
      | some .key => do
        skip
        let pair ← flowPair handles fuel
        return .mapping none [pair] :: (← flowItems handles false fuel)
      | some .flowSequenceEnd => do
        skip
        return []
      | _ => do
        let item ← node handles false false fuel
        return item :: (← flowItems handles false fuel)

/-- A pair inside a sequence in brackets. Where its key is missing, the token there is skipped. -/
def flowPair (handles : List (String × Tag)) : Nat → DocumentReader (Node × Node)
  | 0 => refuse
  | fuel + 1 => do
    if ← followedBy [.value, .flowEntry, .flowSequenceEnd] then do
      skip
      return (.blank, ← flowValue handles .flowSequenceEnd fuel)
    else do
      let key ← node handles false false fuel
      return (key, ← flowValue handles .flowSequenceEnd fuel)

/-- The value of a pair in brackets or braces that a token closes. -/
def flowValue (handles : List (String × Tag)) (closing : Token) : Nat → DocumentReader Node
  | 0 => refuse
  | fuel + 1 => do
    if ← followedBy [.value] then do
      skip
      unlessNext [.flowEntry, closing] (node handles false false fuel)
    else return .blank

/-- The pairs of a mapping in braces, which commas separate. A key may stand without a value. -/
def flowEntries (handles : List (String × Tag)) (first : Bool) :
    Nat → DocumentReader (List (Node × Node))
  | 0 => refuse
  | fuel + 1 => do
    if ← followedBy [.flowMappingEnd] then do
      skip
      return []
    else do
      if first then pure ()
      else if ← followedBy [.flowEntry] then skip
      else refuse
      match ← peek with
      | some .key => do
        skip
        let key ←
          unlessNext [.value, .flowEntry, .flowMappingEnd] (node handles false false fuel)
        let value ← flowValue handles .flowMappingEnd fuel
        return (key, value) :: (← flowEntries handles false fuel)
      | some .flowMappingEnd => do
        skip
        return []
      | _ => do
        let key ← node handles false false fuel
        return (key, .blank) :: (← flowEntries handles false fuel)

end

end DocumentReader

namespace Document

/-- What the two handles that need no directive are short for. -/
def usualHandles : List (String × Tag) := [("!", .ofText "!"), ("!!", .usual "")]

/-- The directives at the front, and what follows them. -/
def spanDirectives : List Token → List Directive × List Token
  | .directive d :: rest =>
    let (directives, after) := spanDirectives rest
    (d :: directives, after)
  | tokens => ([], tokens)

/-- The handles that directives declare. A handle may be declared once, and one edition of the
format may be named, which has to be 1.1 or 1.2. -/
def declared? (versioned : Bool) (handles : List (String × Tag)) :
    List Directive → Option (List (String × Tag))
  | [] => some handles
  | .version major minor :: rest =>
    if !versioned && major = 1 && (minor = 1 || minor = 2) then declared? true handles rest
    else none
  | .handle handle target :: rest =>
    if handles.any (·.1 = handle) then none
    else declared? versioned ((handle, target) :: handles) rest

/-- A token that shows that a document has no content. -/
def endsContent : Option Token → Bool
  | none | some (.directive _) | some .documentStart | some .documentEnd => true
  | _ => false

/-- Read the content of a document, after which only marks may follow. -/
def read? (handles : List (String × Tag)) (tokens : List Token) : Option Document := do
  let reader :=
    if endsContent tokens.head? then return .blank
    else DocumentReader.node (handles ++ usualHandles) true false (2 * tokens.length + 2)
  let (root, p) ← reader { tokens }
  if p.tokens.all (· = .documentEnd) then
    some { root := some root, anchors := p.anchored.map fun a => (a.anchor, a.node) }
  else none

/-- The document of a list of tokens. -/
def ofTokens? (tokens : List Token) : Option Document := do
  match tokens with
  | [] => some { root := none }
  | _ =>
    let (directives, after) := spanDirectives tokens
    let handles ← declared? false [] directives
    match after with
    | .documentStart :: rest => read? handles rest
    | .documentEnd :: _ => none
    | _ => if directives.isEmpty then read? handles after else none

/-- The document that a text holds. -/
def ofText? (s : String) : Option Document := do ofTokens? (← Token.ofText? s)

end Document

end ConnectorLifecycle.Yaml
