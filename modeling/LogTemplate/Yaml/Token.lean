import LogTemplate.Text.Utf8
import LogTemplate.Yaml.Scalar

/-!
# Tokens of YAML

The marks and scalars of a text, with marks of their own where block collections start and end.  A
token that turns out to be the key of a mapping, because a colon follows it on its line, is known as
one only later; so tokens are kept in slots, in which a key can be marked afterwards.
-/

namespace LogTemplate.Yaml

/-- What a directive asks for. -/
inductive Directive where
  | version (major : Int)
  | tagHandle (handle : List CodePoint)
  | other
  deriving DecidableEq, Repr

/-- A mark or a scalar. -/
inductive Token where
  | directive (content : Directive)
  | documentStart
  | documentEnd
  | sequenceStart
  | mappingStart
  /-- The end of a block sequence or a block mapping. -/
  | blockEnd
  | flowSequenceStart
  | flowSequenceEnd
  | flowMappingStart
  | flowMappingEnd
  | flowEntry
  | blockEntry
  | key
  | value
  | alias (name : List CodePoint)
  | anchor (name : List CodePoint)
  /-- A tag, of which only the handle counts. -/
  | tag (handle : Option (List CodePoint))
  | scalar (text : List CodePoint)
  deriving DecidableEq, Repr

/-- A token, and whether it is a key, perhaps the first of a block mapping. -/
structure Slot where
  token : Token
  isKey : Bool := false
  opensMapping : Bool := false
  deriving Repr

namespace Slot

/-- The tokens of a slot. -/
def tokens (s : Slot) : List Token :=
  (if s.opensMapping then [.mappingStart] else []) ++ (if s.isKey then [.key] else []) ++ [s.token]

end Slot

/-- A place where a key may have started. -/
structure KeyStart where
  /-- The slot of the token that starts there. -/
  slot : Nat
  /-- Whether the text is wrong if it is no key. -/
  isRequired : Bool
  cursor : Cursor
  deriving Repr

/-- The most characters that a key may have. -/
def keyLimit : Nat := 1024

/-- A text of which a part has been cut into tokens. -/
structure Scanner where
  cursor : Cursor
  slots : Array Slot := #[]
  /-- The columns of the open block collections, the innermost first. -/
  indents : List Nat := []
  /-- Whether a key may start here. -/
  keyAllowed : Bool := true
  /-- Where a key may have started, outside all flow collections. -/
  outerKey : Option KeyStart := none
  /-- Where a key may have started, for each open flow collection, the innermost first. -/
  flowKeys : List (Option KeyStart) := []

/-- What scanning gives. -/
abbrev Scan := Except Error

namespace Scanner

/-- Whether a flow collection is open. -/
def inFlow (s : Scanner) : Bool := !s.flowKeys.isEmpty

/-- Where a key may have started in the innermost open flow collection, or outside all. -/
def keyStart? (s : Scanner) : Option KeyStart :=
  match s.flowKeys with
  | [] => s.outerKey
  | start :: _ => start

/-- Notes where a key may have started. -/
def setKeyStart (s : Scanner) (start : Option KeyStart) : Scanner :=
  match s.flowKeys with
  | [] => { s with outerKey := start }
  | _ :: rest => { s with flowKeys := start :: rest }

/-- Adds a token. -/
def push (s : Scanner) (token : Token) : Scanner :=
  { s with slots := s.slots.push { token := token } }

/-- Forgets where a key may have started, unless it is required. -/
def dropKeyStart (s : Scanner) : Scan Scanner :=
  if s.keyStart?.any (·.isRequired) then .error .malformed else .ok (s.setKeyStart none)

/-- Whether a key that started there cannot end here. -/
def isStale (s : Scanner) (start : KeyStart) : Bool :=
  start.cursor.line != s.cursor.line || start.cursor.index + keyLimit < s.cursor.index

/-- Forgets the starts of keys that cannot end here, unless they are required. -/
def dropStale (s : Scanner) : Scan Scanner :=
  let keep := fun (start : Option KeyStart) => start.filter (!s.isStale ·)
  if (s.outerKey :: s.flowKeys).any (·.any fun start => start.isRequired && s.isStale start) then
    .error .malformed
  else .ok { s with outerKey := keep s.outerKey, flowKeys := s.flowKeys.map keep }

/-- Notes that a key may start here, if one is allowed. -/
def noteKeyStart (s : Scanner) : Scan Scanner :=
  if s.keyAllowed then do
    let s ← s.dropKeyStart
    let isRequired := !s.inFlow && s.indents.head? == some s.cursor.column
    return s.setKeyStart (some ⟨s.slots.size, isRequired, s.cursor⟩)
  else .ok s

/-- Closes the block collections that are indented deeper than a column. -/
def closeDeeper (column : Nat) : List Nat → Array Slot → List Nat × Array Slot
  | [], slots => ([], slots)
  | indent :: rest, slots =>
    if column < indent then closeDeeper column rest (slots.push { token := .blockEnd })
    else (indent :: rest, slots)

/-- Closes the block collections that are indented deeper than the cursor. -/
def unwind (s : Scanner) : Scanner :=
  if s.inFlow then s
  else
    let (indents, slots) := closeDeeper s.cursor.column s.indents s.slots
    { s with indents, slots }

/-- Closes all block collections. -/
def unwindAll (s : Scanner) : Scanner :=
  if s.inFlow then s
  else
    let slots := s.indents.foldl (fun slots _ => slots.push { token := .blockEnd }) s.slots
    { s with indents := [], slots }

/-- Whether a column is deeper than all open block collections. -/
def isDeeper (s : Scanner) (column : Nat) : Bool := s.indents.head?.all (· < column)

/-- Opens a block collection at the cursor, unless one is open there. -/
def openBlock (s : Scanner) (token : Token) : Scanner :=
  if s.isDeeper s.cursor.column then
    { s.push token with indents := s.cursor.column :: s.indents }
  else s

/-- Skips blanks, comments and line ends. -/
def skipToToken : (fuel : Nat) → Scanner → Scanner
  | 0, s => s
  | fuel + 1, s =>
    let c := s.cursor.skipSpaces.skipComment
    if c.peek.any isBreak then
      let keyAllowed := s.keyAllowed || !s.inFlow
      skipToToken fuel { s with cursor := c.lineBreak.2, keyAllowed }
    else { s with cursor := c }

/-- Reads the marks of a document's start or end. -/
def documentMark (s : Scanner) (token : Token) : Scan Scanner := do
  let s ← s.unwindAll.dropKeyStart
  return { s.push token with cursor := s.cursor.skip 3, keyAllowed := false }

/-- Reads the start of a flow collection. -/
def flowStart (s : Scanner) (token : Token) : Scan Scanner := do
  let s ← s.noteKeyStart
  return { s.push token with
    cursor := s.cursor.next, keyAllowed := true, flowKeys := none :: s.flowKeys }

/-- Reads the end of a flow collection. -/
def flowEnd (s : Scanner) (token : Token) : Scan Scanner := do
  let s ← s.dropKeyStart
  match s.flowKeys with
  | [] => .error .malformed
  | _ :: flowKeys =>
    return { s.push token with cursor := s.cursor.next, keyAllowed := false, flowKeys }

/-- Reads a comma between the entries of a flow collection. -/
def flowEntry (s : Scanner) : Scan Scanner := do
  let s ← s.dropKeyStart
  return { s.push .flowEntry with cursor := s.cursor.next, keyAllowed := true }

/-- Reads the dash before an item. -/
def blockEntry (s : Scanner) : Scan Scanner := do
  if !s.inFlow && !s.keyAllowed then .error .malformed
  else
    let s := if s.inFlow then s else s.openBlock .sequenceStart
    let s ← s.dropKeyStart
    return { s.push .blockEntry with cursor := s.cursor.next, keyAllowed := true }

/-- Reads the question mark before a key. -/
def explicitKey (s : Scanner) : Scan Scanner := do
  if !s.inFlow && !s.keyAllowed then .error .malformed
  else
    let s := if s.inFlow then s else s.openBlock .mappingStart
    let s ← s.dropKeyStart
    return { s.push .key with cursor := s.cursor.next, keyAllowed := !s.inFlow }

/-- Marks the token that starts at a place as a key. -/
def markKey (s : Scanner) (start : KeyStart) : Scanner :=
  let column := start.cursor.column
  let opens := !s.inFlow && s.isDeeper column
  { s.setKeyStart none with
    slots := s.slots.modify start.slot fun slot =>
      { slot with isKey := true, opensMapping := opens }
    indents := if opens then column :: s.indents else s.indents
    keyAllowed := false }

/-- Reads the colon before a value. -/
def value (s : Scanner) : Scan Scanner := do
  let s ← match s.keyStart? with
    | some start => .ok (s.markKey start)
    | none =>
      if s.inFlow then .ok { s with keyAllowed := false }
      else if s.keyAllowed then .ok { s.openBlock .mappingStart with keyAllowed := true }
      else .error .malformed
  return { s.push .value with cursor := s.cursor.next }

/-- The name of an anchor or an alias, and the place behind it. -/
def anchorName (c : Cursor) : Scan (List CodePoint × Cursor) :=
  let (name, c) := c.span isWordChar
  if name.isEmpty || !(isGap c.peek || c.peek.any ((Text.toList "?:,]\x7d%@\x60").contains ·)) then
    .error .malformed
  else .ok (name, c)

/-- Adds a token that may be a key, and goes on behind it. -/
def pushNode (s : Scanner) (token : Token) (c : Cursor) : Scan Scanner := do
  let s ← s.noteKeyStart
  return { s.push token with cursor := c, keyAllowed := false }

/-- Reads an alias or an anchor. -/
def anchor (s : Scanner) (token : List CodePoint → Token) : Scan Scanner := do
  let (name, c) ← anchorName s.cursor.next
  s.pushNode (token name) c

/-- The bytes of escapes in a tag, and the place behind them. -/
def uriBytes : (fuel : Nat) → Cursor → Scan (List UInt8 × Cursor)
  | 0, c => .ok ([], c)
  | fuel + 1, c =>
    match c.rest with
    | '%' :: high :: low :: _ =>
      match Text.hexValue? high, Text.hexValue? low with
      | some h, some l => do
        let (bytes, left) ← uriBytes fuel (c.skip 3)
        return (UInt8.ofNat (16 * h + l) :: bytes, left)
      | _, _ => .error .malformed
    | '%' :: _ => .error .malformed
    | _ => .ok ([], c)

/-- The place behind the URI of a tag. -/
def skipUri : (fuel : Nat) → Cursor → Scan Cursor
  | 0, c => .ok c
  | fuel + 1, c => do
    if c.isAt '%' then
      let (bytes, c) ← uriBytes c.rest.length c
      match Text.Utf8.decode bytes with
      | .ok _ => skipUri fuel c
      | .error _ => .error .malformed
    else if c.peek.any isUriChar then skipUri fuel c.next
    else return c
where
  /-- The characters of a URI. -/
  isUriChar (c : CodePoint) : Bool :=
    c.isAlphanum || (Text.toList "-;/?:@&=+$,_.!~*'()[]").contains c

/-- The place behind a URI, which is not empty. -/
def uri (c : Cursor) : Scan Cursor := do
  let after ← skipUri (c.rest.length + 1) c
  if after.index == c.index then .error .malformed else return after

/-- A handle of tags: one mark, or a word between two; and the place behind it. -/
def tagHandle (c : Cursor) : Scan (List CodePoint × Cursor) :=
  if !c.isAt '!' then .error .malformed
  else if c.next.isAt ' ' then .ok (['!'], c.next)
  else
    let (word, after) := c.next.span isWordChar
    if after.isAt '!' then .ok (.char '!' :: word ++ [.char '!'], after.next) else .error .malformed

/-- Whether a tag that starts here has a handle of more than one mark. -/
def hasLongHandle (c : Cursor) : Bool :=
  ((c.rest.drop 1).takeWhile fun (c : CodePoint) => !(c == ' ' || isBreak c)).contains '!'

/-- Reads a tag. -/
def tag (s : Scanner) : Scan Scanner := do
  let c := s.cursor
  let (handle, after) ←
    if c.peekAt 1 == some (.char '<') then do
      let after ← uri (c.skip 2)
      if after.isAt '>' then pure (none, after.next) else .error .malformed
    else if isGap (c.peekAt 1) then pure (none, c.next)
    else do
      let (handle, after) ← if hasLongHandle c then tagHandle c else pure (['!'], c.next)
      pure (some handle, ← uri after)
  if isSpaceOrEnd after.peek then s.pushNode (.tag handle) after else .error .malformed

/-- The number in the version of a directive, and the place behind it. -/
def versionNumber (c : Cursor) : Scan (Int × Cursor) :=
  let (digits, c) := c.span CodePoint.isDigit
  if digits.isEmpty then .error .malformed
  else match Numeral.readDecimal digits with
    | .ok n => .ok (n, c)
    | .error e => .error (.numeral e)

/-- The content of a directive, and the place behind it; the cursor is behind its mark. -/
def directiveContent (c : Cursor) : Scan (Directive × Cursor) := do
  let (name, c) := c.span isWordChar
  if name.isEmpty || !isSpaceOrEnd c.peek then .error .malformed
  else if name == Text.toList "YAML" then
    let (major, c) ← versionNumber c.skipSpaces
    if !c.isAt '.' then .error .malformed
    else
      let (_, c) ← versionNumber c.next
      if isSpaceOrEnd c.peek then return (.version major, c) else .error .malformed
  else if name == Text.toList "TAG" then
    let (handle, c) ← tagHandle c.skipSpaces
    if !c.isAt ' ' then .error .malformed
    else
      let c ← uri c.skipSpaces
      if isSpaceOrEnd c.peek then return (.tagHandle handle, c) else .error .malformed
  else return (.other, c.skipWhile (!isBreak ·))

/-- Reads a directive. -/
def directive (s : Scanner) : Scan Scanner := do
  let s ← s.unwindAll.dropKeyStart
  let (content, c) ← directiveContent s.cursor.next
  let c := c.skipSpaces.skipComment
  if endsLine c.peek then
    return { s.push (.directive content) with cursor := c.lineBreak.2, keyAllowed := false }
  else .error .malformed

/-- Reads a block scalar. -/
def blockScalar (s : Scanner) (isFolded : Bool) : Scan Scanner := do
  let s ← s.dropKeyStart
  let (text, c) ← Block.scan isFolded s.indents.head? s.cursor.next
  return { s.push (.scalar text) with cursor := c, keyAllowed := true }

/-- Reads a scalar between quotation marks. -/
def quotedScalar (s : Scanner) (double : Bool) : Scan Scanner := do
  let (text, c) ← Quoted.scan double (s.cursor.rest.length + 1) s.cursor.next
  s.pushNode (.scalar text) c

/-- Reads a plain scalar. -/
def plainScalar (s : Scanner) : Scan Scanner := do
  let indent := s.indents.head?.elim 0 (· + 1)
  let (text, c, hasBreak) :=
    Plain.scan s.inFlow indent (s.cursor.rest.length + 1) [] false s.cursor
  let s ← s.pushNode (.scalar text) c
  return { s with keyAllowed := hasBreak }

/-- Reads the next token, which starts with the given character. -/
def readToken (s : Scanner) (first : CodePoint) : Scan Scanner :=
  let c := s.cursor
  let gapFollows := isGap (c.peekAt 1)
  if first == '%' && c.column == 0 then s.directive
  else if first == '-' && c.column == 0 && c.isAtMarker '-' then s.documentMark .documentStart
  else if first == '.' && c.column == 0 && c.isAtMarker '.' then s.documentMark .documentEnd
  else if first == '[' then s.flowStart .flowSequenceStart
  else if first == '\x7b' then s.flowStart .flowMappingStart
  else if first == ']' then s.flowEnd .flowSequenceEnd
  else if first == '\x7d' then s.flowEnd .flowMappingEnd
  else if first == ',' then s.flowEntry
  else if first == '-' && gapFollows then s.blockEntry
  else if first == '?' && (s.inFlow || gapFollows) then s.explicitKey
  else if first == ':' && (s.inFlow || gapFollows) then s.value
  else if first == '*' then s.anchor .alias
  else if first == '&' then s.anchor .anchor
  else if first == '!' then s.tag
  else if first == '|' && !s.inFlow then s.blockScalar false
  else if first == '>' && !s.inFlow then s.blockScalar true
  else if first == '\'' then s.quotedScalar false
  else if first == '"' then s.quotedScalar true
  else if Plain.canStart s.inFlow c then s.plainScalar
  else .error .malformed

/-- Reads on, and tells whether there was a token to be read. -/
def step (s : Scanner) : Scan (Scanner × Bool) := do
  let s ← (s.skipToToken (s.cursor.rest.length + 1)).dropStale
  match s.cursor.peek with
  | none => return (← s.unwindAll.dropKeyStart, false)
  | some first => return (← s.unwind.readToken first, true)

/-- Reads all tokens, up to an error if there is one. -/
def readAll : (fuel : Nat) → Scanner → Scanner × Option Error
  | 0, s => (s, some .malformed)
  | fuel + 1, s =>
    match s.step with
    | .error e => (s, some e)
    | .ok (s, false) => (s, none)
    | .ok (s, true) => readAll fuel s

/-- How many slots come before all those in which a key can still be marked. -/
def settled (s : Scanner) : Nat :=
  ((s.outerKey :: s.flowKeys).filterMap id).foldl
    (fun count start => if s.isStale start then count else min count start.slot) s.slots.size

end Scanner

/-- Whether a YAML text may hold the character. -/
def isAllowed (c : CodePoint) : Bool :=
  let n := c.toNat
  n == 0x09 || n == 0x0A || n == 0x0D || (0x20 ≤ n && n ≤ 0x7E) || n == 0x85
    || (0xA0 ≤ n && n ≤ 0xD7FF) || (0xE000 ≤ n && n ≤ 0xFFFD) || 0x10000 ≤ n

/-- The tokens of a text, and the error that comes up when more of them are asked for. -/
structure Tokens where
  tokens : List Token
  failure : Option Error := none

/-- The tokens of a text.  Before an error only those are known that no key can be marked in. -/
def Tokens.ofText (text : List CodePoint) : Tokens :=
  if !text.all isAllowed then ⟨[], some .malformed⟩
  else
    let start : Cursor := { rest := text }
    let start := if start.isAt '\uFEFF' then start.next else start
    let (s, failure) := Scanner.readAll (text.length + 1) { cursor := start }
    let slots := if failure.isSome then s.slots.toList.take s.settled else s.slots.toList
    ⟨slots.flatMap Slot.tokens, failure⟩

end LogTemplate.Yaml
