import LogTemplate.Sink.Expression
import LogTemplate.Sink.Expression.Member
import LogTemplate.Text.Digit

/-!
# Functions of the database's language

What functions and operators make of cells.  Nearly all of them make nothing of nothing.
-/

namespace LogTemplate.Sink

namespace Cell

/-- The characters of a cell as a text. -/
def chars : Cell → List Char
  | .integer n => (Numeral.decimal n).toList
  | .real x => x.columnText.toList
  | .text s => s.toList
  | .garbled bytes | .blob bytes => Text.Utf8.decodeReplacing bytes
  | .null => []

/-- A text as a cell. -/
def ofChars (s : List Char) : Cell := .text (String.ofList s)

/-- The bytes of a cell as a text. -/
def textBytes : Cell → List UInt8
  | .garbled bytes | .blob bytes => bytes
  | cell => Text.Utf8.encode cell.chars

/-- Two texts joined; nothing if one of them is nothing. -/
def join (x y : Cell) : Cell :=
  if x.isNull || y.isNull then .null else ofBytes (x.textBytes ++ y.textBytes)

/-- A number as a cell; what is not a number is nothing. -/
def ofNumber : Double → Cell
  | .nan => .null
  | x => .real x

/-- An integer as a cell, with a fraction if it has more than 64 bits. -/
def ofInt (n : Int) : Cell := if fits n then .integer n else widen (.integer n)

/-- The number that a cell counts as where numbers are needed; a text counts as the number at its
front. -/
def toNumber : Cell → Cell
  | .null => .null
  | .integer n => .integer n
  | .real x => .real x
  | cell => (readNumber (cell.chars.dropWhile isPadding)).number

/-- The double that a number counts as. -/
def toDouble : Cell → Double
  | .integer n => .ofRatio n 1
  | .real x => x
  | _ => .ofRatio 0 1

/-- The greatest integer of 64 bits. -/
def greatestInteger : Int := 0x7FFFFFFFFFFFFFFF

/-- The integer of 64 bits nearest to what a number truncates to. -/
def clamp (n : Int) : Int := max minInteger (min n greatestInteger)

/-- The integer that a cell counts as where integers are needed. -/
def toInteger (cell : Cell) : Int :=
  match cell with
  | .text _ | .garbled _ | .blob _ =>
    let (negative, unsigned) := splitSign (cell.chars.dropWhile isPadding)
    let n : Int := Text.decimalNumber ((unsigned.takeWhile Char.isDigit).map .char)
    clamp (if negative then -n else n)
  | .integer n => n
  | .real x => clamp (x.truncate?.getD (if x.isNegative then minInteger else greatestInteger))
  | .null => 0

/-- Whether a cell counts as true; nothing counts as neither. -/
def truth? (cell : Cell) : Option Bool :=
  match cell.toNumber with
  | .null => none
  | .integer n => some (n != 0)
  | number => some (!number.toDouble.equalInt 0)

/-- A truth value as a cell. -/
def ofTruth : Option Bool → Cell
  | some b => ofBool b
  | none => .null

/-- What an operator makes of two numbers. -/
def calculate (a : Arithmetic) (x y : Cell) : Cell :=
  match x.toNumber, y.toNumber with
  | .null, _ | _, .null => .null
  | .integer m, .integer n =>
    match a with
    | .add => ofInt (m + n)
    | .subtract => ofInt (m - n)
    | .multiply => ofInt (m * n)
    | .divide => if n = 0 then .null else ofInt (m.tdiv n)
    | .remainder => if n = 0 then .null else .integer (m.tmod n)
  | m, n =>
    let u := m.toDouble
    let v := n.toDouble
    match a with
    | .add => ofNumber (u.add v)
    | .subtract => ofNumber (u.add v.negate)
    | .multiply => ofNumber (u.mul v)
    | .divide => ofNumber (u.div v)
    | .remainder =>
      let divisor := n.toInteger
      if divisor = 0 then .null else widen (.integer (m.toInteger.tmod divisor))

/-- The integer of 64 bits that has the bits of a natural number. -/
def ofBits (n : Nat) : Cell := .integer (BitVec.ofNat 64 n).toInt

/-- What an operator makes of the bits of two integers. -/
def combine (b : Bitwise) (x y : Cell) : Cell :=
  if x.isNull || y.isNull then .null
  else
    let m := BitVec.ofInt 64 x.toInteger
    let n := BitVec.ofInt 64 y.toInteger
    let shift := fun (places : Int) =>
      if 0 ≤ places then m <<< min places.toNat 64 else m.sshiftRight (min (-places).toNat 64)
    match b with
    | .conjunction => .integer (m &&& n).toInt
    | .disjunction => .integer (m ||| n).toInt
    | .left => .integer (shift y.toInteger).toInt
    | .right => .integer (shift (-y.toInteger)).toInt

/-- What a cell becomes when it is made to be of a kind. -/
def cast (affinity : Affinity) (cell : Cell) : Cell :=
  if cell.isNull then .null
  else match affinity with
    | .blob =>
      match cell with
      | .blob bytes => .blob bytes
      | cell => .blob cell.textBytes
    | .text => ofBytes cell.textBytes
    | .integer => .integer cell.toInteger
    | .real => .real cell.toNumber.toDouble
    | .numeric =>
      match cell with
      | .integer n => .integer n
      | .real x => ofDouble x
      | cell =>
        match cell.toNumber with
        | .real x => ofDouble x
        | number => number

end Cell

namespace Function

open Cell

/-- The ends of a list, the whole of it first. -/
def suffixes {α : Type} : List α → List (List α)
  | [] => [[]]
  | a :: rest => (a :: rest) :: suffixes rest

/-- Whether a text is like a pattern, in which `%` stands for any characters and `_` for one, unless
the character for escapes stands before them. -/
def isLike (escape : Option Char) : (pattern s : List Char) → Bool
  | [], s => s.isEmpty
  | [p], s =>
    if some p == escape then false
    else if p = '%' then true
    else match s with
      | [c] => p = '_' || p.toLower == c.toLower
      | _ => false
  | p :: q :: rest, s =>
    if some p == escape then
      match s with
      | c :: more => q.toLower == c.toLower && isLike escape rest more
      | [] => false
    else if p = '%' then (suffixes s).any fun left => isLike escape (q :: rest) left
    else match s with
      | c :: more => (p = '_' || p.toLower == c.toLower) && isLike escape (q :: rest) more
      | [] => false

/-- Whether a character is in a set of characters and ranges. -/
def isInSet (c : Char) : List Char → Bool
  | low :: '-' :: high :: rest => (low ≤ c && c ≤ high) || isInSet c rest
  | d :: rest => c == d || isInSet c rest
  | [] => false

/-- The set in brackets at the front of a pattern, and what follows it. -/
def set? : List Char → Option (List Char × List Char)
  | ']' :: rest => (Text.splitAt? ']' rest).map fun (inside, left) => (']' :: inside, left)
  | rest => Text.splitAt? ']' rest

/-- Whether a text is a pattern's, in which `*` stands for any characters, `?` for one and brackets
for one of a set; `fuel` bounds the pattern. -/
def isGlob : (fuel : Nat) → (pattern s : List Char) → Bool
  | 0, _, _ => false
  | _ + 1, [], s => s.isEmpty
  | fuel + 1, '*' :: rest, s => (suffixes s).any fun left => isGlob fuel rest left
  | _ + 1, _ :: _, [] => false
  | fuel + 1, '?' :: rest, _ :: more => isGlob fuel rest more
  | fuel + 1, '[' :: rest, c :: more =>
    let isNegated := rest.head? == some '^'
    match set? (if isNegated then rest.drop 1 else rest) with
    | some (inside, left) => (isInSet c inside != isNegated) && isGlob fuel left more
    | none => false
  | fuel + 1, p :: rest, c :: more => p == c && isGlob fuel rest more

/-- The place of a part in a text, from one on; zero if it is not there. -/
def place {α : Type} [BEq α] (part whole : List α) : Nat :=
  match (suffixes whole).findIdx? part.isPrefixOf with
  | some n => n + 1
  | none => 0

/-- The part of a list from a place on, counted from one or, if it is negative, from the end. -/
def part {α : Type} (items : List α) (start : Int) (count : Option Int) : List α :=
  let size : Int := items.length
  let first := if 0 < start then start - 1 else if start < 0 then size + start else -1
  let last := match count with
    | none => size
    | some n => if n < 0 then first else if start = 0 then n - 1 else first + n
  let first := match count with
    | some n => if n < 0 then first + n else first
    | none => first
  (items.take last.toNat).drop first.toNat

/-- A text with every occurrence of a part, which is not empty, replaced; `fuel` bounds the text. -/
def replaced (old new : List Char) : (fuel : Nat) → List Char → List Char
  | 0, s => s
  | _ + 1, [] => []
  | fuel + 1, c :: rest =>
    if old.isPrefixOf (c :: rest) then new ++ replaced old new fuel ((c :: rest).drop old.length)
    else c :: replaced old new fuel rest

/-- The characters of a text up to the first zero. -/
def visible (cell : Cell) : List Char := cell.chars.takeWhile (· != '\x00')

/-- The name of a kind of cell. -/
def typeName : Cell → String
  | .null => "null"
  | .integer _ => "integer"
  | .real _ => "real"
  | .text _ | .garbled _ => "text"
  | .blob _ => "blob"

/-- The bytes of a cell in base sixteen. -/
def hexadecimal (cell : Cell) : List Char :=
  -- The digit in front keeps the zeros of small bytes.
  (cell.textBytes.flatMap fun b => (Nat.toDigits 16 (0x100 + b.toNat)).tail).map Char.toUpper

/-- The byte of the mark around texts. -/
def textMark : UInt8 := 0x27

/-- The bytes of a cell as definitions write it. -/
def quoted : Cell → List UInt8
  | .null => "NULL".toUTF8.toList
  | .blob bytes => Text.Utf8.encode ('X' :: '\'' :: hexadecimal (.blob bytes) ++ ['\''])
  | .integer n => textBytes (.integer n)
  | .real x => textBytes (.real x)
  | cell =>
    let inside := cell.textBytes.takeWhile (· != 0)
    textMark :: inside.flatMap (fun b => if b == textMark then [b, b] else [b]) ++ [textMark]

/-- The most places behind the point that a number is rounded to. -/
def mostPlaces : Nat := 30

/-- A number rounded to some places behind the point. -/
def rounded (x : Double) (places : Nat) : Double :=
  match x.fraction? with
  | none => x
  | some (negative, num, den) =>
    let scale := Nat.pow 10 (min places mostPlaces)
    .ofQuotient negative ((2 * num * scale + den) / (2 * den)) scale

/-- What is made of the member of a JSON text that a path leads to: nothing, if there is none.
There is no such cell for a text that is not JSON, nor for a path that is none. -/
def ofMember? (make : Document → Cell) (x : Cell) (steps : Option (List Member.Step)) :
    Option Cell := do
  if x.isNull then return .null
  else return ((Member.follow? (← Member.read? x.chars) (← steps)).map make).getD .null

/-- What a function of a JSON text makes of one of its members. -/
def memberFunction? (name : String) : Option (Document → Cell) :=
  match name with
  | "json_type" => some fun d => .text (Member.typeName d)
  | "json_array_length" => some fun d => .integer (Member.size d)
  | "json_extract" => some Member.cellOf
  | _ => none

/-- What an operator makes of a JSON text. -/
def extract? (asText : Bool) (x y : Cell) : Option Cell :=
  if x.isNull || y.isNull then some .null
  else ofMember? (if asText then Member.cellOf else Member.textOf) x (Member.shortSteps? y)

/-- The least or the greatest of cells. -/
def extreme (form : TextForm) (collation : Collation) (wanted : Ordering) : List Cell → Cell
  | [] => .null
  | a :: rest => rest.foldl (fun best cell =>
      if cell.compare form collation best == wanted then cell else best) a

/-- What a function that makes nothing of nothing makes of one cell. -/
def ofOne? (name : String) (x : Cell) : Option Cell :=
  match name with
  | "abs" =>
    match x with
    | .integer n => some (ofInt n.natAbs)
    | x =>
      let y := x.toNumber.toDouble
      some (.real (if y.less (.ofRatio 0 1) then y.negate else y))
  | "length" =>
    match x with
    | .blob bytes => some (.integer bytes.length)
    | x => some (.integer (visible x).length)
  | "upper" => some (ofChars ((visible x).map Char.toUpper))
  | "lower" => some (ofChars ((visible x).map Char.toLower))
  | "trim" => some (ofChars (Text.stripEnds (· == ' ') x.chars))
  | "ltrim" => some (ofChars (x.chars.dropWhile (· == ' ')))
  | "rtrim" => some (ofChars (x.chars.reverse.dropWhile (· == ' ')).reverse)
  | "unicode" => some ((x.chars.head?.map fun c => Cell.integer c.toNat).getD .null)
  | "round" => some (.real (rounded x.toNumber.toDouble 0))
  | "sign" =>
    match Affinity.numeric.apply x with
    | .integer n => some (.integer n.sign)
    | .real y =>
      some (.integer (if y.equalInt 0 then 0 else if y.less (.ofRatio 0 1) then -1 else 1))
    | _ => some .null
  | "json_valid" => some (ofBool (Member.read? x.chars).isSome)
  | "json" => ofMember? Member.textOf x (some [])
  | "zeroblob" => some (.blob (List.replicate x.toInteger.toNat 0))
  | name => do ofMember? (← memberFunction? name) x (some [])

/-- What a function that makes nothing of nothing makes of two cells. -/
def ofTwo? (name : String) (x y : Cell) : Option Cell :=
  match name with
  | "like" => some (ofBool (isLike none x.chars y.chars))
  | "glob" => some (ofBool (isGlob (x.chars.length + 1) x.chars y.chars))
  | "instr" =>
    match x, y with
    | .blob held, .blob part => some (.integer (place part held))
    | _, _ => some (.integer (place y.chars x.chars))
  | "substr" | "substring" =>
    match x with
    | .blob bytes => some (.blob (part bytes y.toInteger none))
    | x => some (ofChars (part x.chars y.toInteger none))
  | "trim" => some (ofChars (Text.stripEnds y.chars.contains x.chars))
  | "ltrim" => some (ofChars (x.chars.dropWhile y.chars.contains))
  | "rtrim" => some (ofChars (x.chars.reverse.dropWhile y.chars.contains).reverse)
  | "round" => some (.real (rounded x.toNumber.toDouble y.toInteger.toNat))
  | name => do
    let make ← memberFunction? name
    if y.isNull then return .null else ofMember? make x (Member.steps? y.chars)

/-- What a function that makes nothing of nothing makes of three cells. -/
def ofThree? (name : String) (x y z : Cell) : Option Cell :=
  match name with
  | "like" => some (ofBool (isLike z.chars.head? x.chars y.chars))
  | "substr" | "substring" =>
    match x with
    | .blob bytes => some (.blob (part bytes y.toInteger (some z.toInteger)))
    | x => some (ofChars (part x.chars y.toInteger (some z.toInteger)))
  | "replace" =>
    if y.chars.isEmpty then some x
    else some (ofChars (replaced y.chars z.chars (x.chars.length + 1) x.chars))
  | _ => none

/-- The functions of a time, which is not known here. -/
def timeFunctions : List String :=
  ["date", "time", "datetime", "julianday", "strftime", "unixepoch"]

/-- Functions of which nothing is known but that they are there. -/
def otherFunctions : List String :=
  ["printf", "format", "random", "randomblob", "changes", "total_changes", "last_insert_rowid",
    "sqlite_version", "json_array", "json_object", "json_quote", "json_set", "json_insert",
    "json_replace", "json_remove", "json_patch"]

/-- What a function makes of cells, if there is such a function of so many cells. -/
def value? (form : TextForm) (collation : Collation) (name : String) (cells : List Cell) :
    Option Cell :=
  match name, cells with
  | "quote", [x] => some (ofBytes (quoted x))
  | "typeof", [x] => some (.text (typeName x))
  | "hex", [x] => some (ofChars (hexadecimal x))
  | "ifnull", [x, y] => some (if x.isNull then y else x)
  | "nullif", [x, y] => some (if !x.isNull && x.same form collation y then .null else x)
  | "iif", [x, y, z] => some (if x.truth? == some true then y else z)
  | "likely", [x] | "unlikely", [x] | "likelihood", [x, _] => some x
  | "char", cells => some (ofChars (cells.map fun c => Char.ofNat c.toInteger.toNat))
  | "coalesce", _ :: _ :: _ => some ((cells.find? (!·.isNull)).getD .null)
  | "min", _ :: _ :: _ =>
    some (if cells.any isNull then .null else extreme form collation .lt cells)
  | "max", _ :: _ :: _ =>
    some (if cells.any isNull then .null else extreme form collation .gt cells)
  | _, _ =>
    if timeFunctions.contains name then some (.text "2000-01-01 00:00:00")
    else if otherFunctions.contains name then some .null
    else
      let made := match cells with
        | [x] => ofOne? name x
        | [x, y] => ofTwo? name x y
        | [x, y, z] => ofThree? name x y z
        | _ => none
      if cells.any isNull then made.map fun _ => .null else made

/-- What a function makes of the cells in one column of several rows, if there is such a function.
Nothing is passed over. -/
def overRows? (form : TextForm) (collation : Collation) (name : String) (cells : List Cell) :
    Option Cell :=
  let found := cells.filter (!·.isNull)
  let total := found.foldl (calculate .add) (.integer 0)
  match name with
  | "count" => some (.integer found.length)
  | "min" => some (extreme form collation .lt found)
  | "max" => some (extreme form collation .gt found)
  | "sum" => some (if found.isEmpty then .null else total)
  | "total" => some (.real total.toDouble)
  | "avg" =>
    some (if found.isEmpty then .null
      else ofNumber (total.toDouble.div (.ofRatio found.length 1)))
  | "group_concat" =>
    some (if found.isEmpty then .null
      else ofChars (List.intercalate [','] (found.map chars)))
  | _ => none

end Function

end LogTemplate.Sink
