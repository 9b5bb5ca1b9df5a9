import LogTemplate.Document
import LogTemplate.Nesting
import LogTemplate.Yaml.Token

/-!
# Reading YAML

The document that a YAML text denotes.  Every scalar is a text, and tags do not count.  Of entries
with the same key the first gives the place and the last the value; a key has to be a text.  An
alias stands for the node with its anchor, which comes before it and does not contain it.  Tokens
are asked for one at a time, so that what is wrong with the first of them is found before an error
in the text behind them; whether the nodes make a document is looked at when all have been read.
Lists and mappings are nested as deep as the program can go, both where they are read and where they
are made documents.
-/

namespace LogTemplate.Yaml

variable [Nesting]

/-- What is left to be read, and the nodes with anchors so far; an anchor whose node is still being
read has none. -/
structure Reading extends Tokens where
  anchors : List (List CodePoint × Option Document) := []
  /-- What first keeps the nodes from making a document: a key that is no text, a node that contains
  itself, or too many calls. -/
  fault : Option Error := none
  /-- How many lists and mappings are open. -/
  opened : Nat := 0
  /-- How many calls will be under way for them when the document is made. -/
  calls : Nat := 0

/-- A step of reading. -/
abbrev Read := StateT Reading (Except Error)

namespace Read

/-- Refuses the text. -/
def refuse {α : Type} : Read α := throw .malformed

/-- The next token; none at the end of the text. -/
def peek : Read (Option Token) := do
  let s ← get
  match s.tokens, s.failure with
  | token :: _, _ => return some token
  | [], none => return none
  | [], some e => throw e

/-- Passes over the next token. -/
def advance : Read Unit := modify fun s => { s with tokens := s.tokens.tail }

/-- Whether the next token is one of the given ones. -/
def isAt (tokens : List Token) : Read Bool := do return (← peek).any (tokens.contains ·)

/-- Passes over a token that has to come next. -/
def expect (token : Token) : Read Unit := do
  if ← isAt [token] then advance else refuse

/-- The node of a place where nothing stands. -/
def nothing : Document := .text ""

/-- Notes that the nodes make no document. -/
def spoil (e : Error) : Read Unit := modify fun s => { s with fault := s.fault <|> some e }

/-- Reads into a list or a mapping, for which some calls will be under way when it is made. -/
def within {α : Type} (calls : Nat) (inside : Read α) : Read α := do
  if Nesting.nodes ≤ (← get).opened then throw .tooDeep
  modify fun s => { s with opened := s.opened + 1, calls := s.calls + calls }
  if Nesting.calls < (← get).calls then spoil .tooDeep
  let found ← inside
  modify fun s => { s with opened := s.opened - 1, calls := s.calls - calls }
  return found

/-- Reads into a list. -/
def withinList {α : Type} (inside : Read α) : Read α := within 3 inside

/-- Reads into a mapping. -/
def withinMapping {α : Type} (inside : Read α) : Read α := within 2 inside

/-- The node of an anchor. -/
def resolve (name : List CodePoint) : Read Document := do
  match (← get).anchors.find? (·.1 == name) with
  | some (_, some node) => return node
  | some (_, none) =>
    spoil .malformed
    return nothing
  | none => refuse

/-- Reads the content of a node that has an anchor or none. -/
def anchored (anchor : Option (List CodePoint)) (node : Read Document) : Read Document := do
  match anchor with
  | none => node
  | some name =>
    if (← get).anchors.any (·.1 == name) then refuse
    else
      modify fun s => { s with anchors := (name, none) :: s.anchors }
      let found ← node
      modify fun s => { s with anchors := (name, some found) :: s.anchors }
      return found

/-- Reads an anchor, if one comes next. -/
def anchor? : Read (Option (List CodePoint)) := do
  match ← peek with
  | some (.anchor name) => advance; return some name
  | _ => return none

/-- Reads a tag, if one comes next, and gives its handle. -/
def tag? : Read (Option (Option (List CodePoint))) := do
  match ← peek with
  | some (.tag handle) => advance; return some handle
  | _ => return none

/-- Reads an anchor and a tag, in either order, and tells whether one of them was there.  The handle
of the tag has to be known. -/
def properties (handles : List (List CodePoint)) : Read (Option (List CodePoint) × Bool) := do
  let before ← anchor?
  let tag ← tag?
  let behind ← if before.isNone && tag.isSome then anchor? else pure none
  if tag.any fun handle => handle.any (!handles.contains ·) then refuse
  else return (before.or behind, before.isSome || tag.isSome)

/-- The mapping of pairs of nodes. -/
def mapping (pairs : List (Document × Document)) : Read Document := do
  let entries ← pairs.foldlM (fun entries (key, value) =>
    match key with
    | .text key => pure (OrderedMap.set key value entries)
    | _ => do
      spoil .malformed
      return entries) []
  return .mapping entries

end Read

open Read

/-- Where a node stands. -/
inductive Place where
  | flow
  | block
  /-- In a block mapping, where the items of a sequence need no indentation. -/
  | entry
  deriving DecidableEq, Repr

mutual

/-- Reads a node. -/
def readNode (handles : List (List CodePoint)) (place : Place) : (fuel : Nat) → Read Document
  | 0 => refuse
  | fuel + 1 => do
    match ← peek with
    | some (.alias name) =>
      advance
      resolve name
    | _ =>
      let (anchor, hasProperties) ← properties handles
      let content ← peek
      anchored anchor do
        match content with
        | some .blockEntry =>
          if place == .entry then return .list (← withinList (readIndentless handles fuel))
          else if hasProperties then return nothing
          else refuse
        | some (.scalar text) =>
          advance
          return .text (Text.ofList text)
        | some .flowSequenceStart =>
          advance
          return .list (← withinList (readFlowItems handles true fuel))
        | some .flowMappingStart =>
          advance
          mapping (← withinMapping (readFlowPairs handles true fuel))
        | some .sequenceStart =>
          if place == .flow then if hasProperties then return nothing else refuse
          else
            advance
            return .list (← withinList (readItems handles fuel))
        | some .mappingStart =>
          if place == .flow then if hasProperties then return nothing else refuse
          else
            advance
            mapping (← withinMapping (readPairs handles fuel))
        | _ => if hasProperties then return nothing else refuse

/-- Reads a node, unless one of the given tokens comes next. -/
def readUnless (handles : List (List CodePoint)) (place : Place) (ends : List Token) :
    (fuel : Nat) → Read Document
  | 0 => refuse
  | fuel + 1 => do
    if ← isAt ends then return nothing else readNode handles place fuel

/-- Reads the items of a block sequence. -/
def readItems (handles : List (List CodePoint)) : (fuel : Nat) → Read (List Document)
  | 0 => refuse
  | fuel + 1 => do
    if ← isAt [.blockEntry] then
      advance
      let item ← readUnless handles .block [.blockEntry, .blockEnd] fuel
      return item :: (← readItems handles fuel)
    else
      expect .blockEnd
      return []

/-- Reads the items of a sequence that is not indented. -/
def readIndentless (handles : List (List CodePoint)) : (fuel : Nat) → Read (List Document)
  | 0 => refuse
  | fuel + 1 => do
    if ← isAt [.blockEntry] then
      advance
      let item ← readUnless handles .block [.blockEntry, .key, .value, .blockEnd] fuel
      return item :: (← readIndentless handles fuel)
    else return []

/-- Reads the pairs of a block mapping. -/
def readPairs (handles : List (List CodePoint)) : (fuel : Nat) → Read (List (Document × Document))
  | 0 => refuse
  | fuel + 1 => do
    if ← isAt [.key] then
      advance
      let key ← readUnless handles .entry [.key, .value, .blockEnd] fuel
      let value ← readValue handles .entry [.key, .value, .blockEnd] fuel
      return (key, value) :: (← readPairs handles fuel)
    else
      expect .blockEnd
      return []

/-- Reads the value of a pair, if one is given. -/
def readValue (handles : List (List CodePoint)) (place : Place) (ends : List Token) :
    (fuel : Nat) → Read Document
  | 0 => refuse
  | fuel + 1 => do
    if ← isAt [.value] then
      advance
      readUnless handles place ends fuel
    else return nothing

/-- Reads the items of a flow sequence; a pair without braces is a mapping of its own. -/
def readFlowItems (handles : List (List CodePoint)) (isFirst : Bool) :
    (fuel : Nat) → Read (List Document)
  | 0 => refuse
  | fuel + 1 => do
    if ← isAt [.flowSequenceEnd] then
      advance
      return []
    else
      if !isFirst then expect .flowEntry
      if ← isAt [.flowSequenceEnd] then
        advance
        return []
      else
        let item ← if ← isAt [.key] then do
            advance
            mapping (← withinMapping do
              let key ← readUnless handles .flow [.value, .flowEntry, .flowSequenceEnd] fuel
              let value ← readValue handles .flow [.flowEntry, .flowSequenceEnd] fuel
              return [(key, value)])
          else readNode handles .flow fuel
        return item :: (← readFlowItems handles false fuel)

/-- Reads the pairs of a flow mapping; a node that is no pair is a key without a value. -/
def readFlowPairs (handles : List (List CodePoint)) (isFirst : Bool) :
    (fuel : Nat) → Read (List (Document × Document))
  | 0 => refuse
  | fuel + 1 => do
    if ← isAt [.flowMappingEnd] then
      advance
      return []
    else
      if !isFirst then expect .flowEntry
      if ← isAt [.flowMappingEnd] then
        advance
        return []
      else
        let pair ← if ← isAt [.key] then do
            advance
            let key ← readUnless handles .flow [.value, .flowEntry, .flowMappingEnd] fuel
            let value ← readValue handles .flow [.flowEntry, .flowMappingEnd] fuel
            pure (key, value)
          else do
            let key ← readNode handles .flow fuel
            pure (key, nothing)
        return pair :: (← readFlowPairs handles false fuel)

end

/-- What the directives before a document say: whether a version was named, and the handles. -/
structure Preamble where
  hasVersion : Bool := false
  handles : List (List CodePoint) := []

/-- The handles that need no directive. -/
def commonHandles : List (List CodePoint) := [['!'], ['!', '!']]

/-- Reads directives.  The version is named once at most and is one with major number 1, and no
handle is named twice. -/
def readDirectives : (fuel : Nat) → Preamble → Read Preamble
  | 0, p => return p
  | fuel + 1, p => do
    match ← peek with
    | some (.directive content) =>
      advance
      match content with
      | .version major =>
        if p.hasVersion || major ≠ 1 then refuse
        else readDirectives fuel { p with hasVersion := true }
      | .tagHandle handle =>
        if p.handles.contains handle then refuse
        else readDirectives fuel { p with handles := handle :: p.handles }
      | .other => readDirectives fuel p
    | _ => return p

/-- Reads a document, with what is before and behind it. -/
def readDocument (fuel : Nat) : Read Document := do
  match ← peek with
  | none => return .null
  | some (.directive _) | some .documentStart =>
    let preamble ← readDirectives fuel {}
    expect .documentStart
    match ← peek with
    | none | some (.directive _) | some .documentStart | some .documentEnd => return nothing
    | _ => readNode (preamble.handles ++ commonHandles) .block fuel
  | _ => readNode commonHandles .block fuel

/-- Passes over marks of a document's end. -/
def skipEnds : (fuel : Nat) → Read Unit
  | 0 => return ()
  | fuel + 1 => do
    if ← isAt [.documentEnd] then
      advance
      skipEnds fuel

/-- Reads a text that holds one document.  If another one follows, its directives are read before
the text is refused. -/
def readText (fuel : Nat) : Read Document := do
  let document ← readDocument fuel
  skipEnds fuel
  match ← peek with
  | none =>
    match (← get).fault with
    | none => return document
    | some e => throw e
  | some _ =>
    let _ ← readDirectives fuel {}
    let _ ← peek
    refuse

/-- The document that a text denotes. -/
def read (text : List CodePoint) : Except Error Document := do
  let tokens := Tokens.ofText text
  let (document, _) ← (readText (3 * tokens.tokens.length + 3)).run { tokens with }
  return document

end LogTemplate.Yaml
