import LogTemplate.Text.Digit

/-!
# UTF-8

The bytes of a text and the text of bytes.  Bytes that are no UTF-8 fall into faults: each is a
byte that starts no character, or the longest beginning of a character that the bytes after it do
not complete.  What becomes of the faults is the reader's choice: the first refuses the text, or
each stands as a replacement character, or each is passed over.  In a URI a percent sign and two
hexadecimal digits stand for a byte.
-/

namespace LogTemplate.Text

namespace Utf8

/-- Why bytes are no character. -/
inductive Reason where
  /-- No character starts with this byte. -/
  | start
  /-- The character is broken off by a byte that does not continue it. -/
  | continuation
  /-- The bytes end inside the character. -/
  | ending
  deriving DecidableEq, Repr

/-- Bytes that are no character: where they start, what they are, and why. -/
structure Fault where
  position : Nat
  bytes : List UInt8
  reason : Reason
  deriving DecidableEq, Repr

/-- The wording of a reason. -/
def Reason.text : Reason → Text
  | .start => "invalid start byte"
  | .continuation => "invalid continuation byte"
  | .ending => "unexpected end of data"

/-- How messages speak of bytes at a position. -/
def place (position : Nat) : List UInt8 → Text
  | [b] => "byte 0x" ++ Text.ofList (hexDigits 2 b.toNat) ++ s!" in position {position}"
  | bytes => s!"bytes in position {position}-{position + bytes.length - 1}"

/-- The wording of a fault. -/
def Fault.message (fault : Fault) : Text :=
  "'utf-8' codec can't decode " ++ place fault.position fault.bytes ++ ": " ++ fault.reason.text

/-- What stands at the front of some bytes: how many bytes it takes beyond the first, and the
character's code point or the reason why it is none. -/
structure Front where
  further : Nat
  content : Except Reason Nat

/-- Whether the byte continues a character. -/
def isTail (b : UInt8) : Bool := 0x80 ≤ b && b ≤ 0xBF

/-- The payload of a continuation byte. -/
def payload (b : UInt8) : Nat := b.toNat % 0x40

/-- Reads on in a character that has its second byte: `owed` more continuation bytes complete it. -/
def continueWith : (owed : Nat) → (taken code : Nat) → List UInt8 → Front
  | 0, taken, code, _ => ⟨taken, .ok code⟩
  | _ + 1, taken, _, [] => ⟨taken, .error .ending⟩
  | owed + 1, taken, code, b :: rest =>
    if isTail b then continueWith owed (taken + 1) (code * 0x40 + payload b) rest
    else ⟨taken, .error .continuation⟩

/-- Reads on in a character whose second byte has to lie between `low` and `high`. -/
def secondWithin (low high : UInt8) (owed code : Nat) : List UInt8 → Front
  | [] => ⟨0, .error .ending⟩
  | b :: rest =>
    if low ≤ b && b ≤ high then continueWith owed 1 (code * 0x40 + payload b) rest
    else ⟨0, .error .continuation⟩

/-- What stands at the front of the bytes `b :: rest`. -/
def front (b : UInt8) (rest : List UInt8) : Front :=
  let n := b.toNat
  if n < 0x80 then ⟨0, .ok n⟩
  else if n < 0xC2 then ⟨0, .error .start⟩
  else if n < 0xE0 then secondWithin 0x80 0xBF 0 (n - 0xC0) rest
  else if n = 0xE0 then secondWithin 0xA0 0xBF 1 0 rest
  else if n = 0xED then secondWithin 0x80 0x9F 1 (n - 0xE0) rest
  else if n < 0xF0 then secondWithin 0x80 0xBF 1 (n - 0xE0) rest
  else if n = 0xF0 then secondWithin 0x90 0xBF 2 0 rest
  else if n < 0xF4 then secondWithin 0x80 0xBF 2 (n - 0xF0) rest
  else if n = 0xF4 then secondWithin 0x80 0x8F 2 (n - 0xF0) rest
  else ⟨0, .error .start⟩

/-- The characters and the faults of the bytes that start at a position. -/
def pieces (position : Nat) : List UInt8 → List (Except Fault Char)
  | [] => []
  | b :: rest =>
    let found := front b rest
    let piece := match found.content with
      | .ok code => .ok (Char.ofNat code)
      | .error reason => .error ⟨position, b :: rest.take found.further, reason⟩
    piece :: pieces (position + found.further + 1) (rest.drop found.further)
termination_by bytes => bytes.length
decreasing_by simp only [List.length_drop, List.length_cons]; omega

/-- The characters of some bytes, or their first fault. -/
def decode (bytes : List UInt8) : Except Fault (List Char) := (pieces 0 bytes).mapM id

/-- The text of some bytes, or their first fault. -/
def decodeText (bytes : List UInt8) : Except Fault (List CodePoint) :=
  (decode bytes).map (List.map .char)

/-- The replacement character. -/
def replacement : Char := '\uFFFD'

/-- The characters of some bytes, with a replacement character for each fault. -/
def decodeReplacing (bytes : List UInt8) : List Char :=
  (pieces 0 bytes).map fun
    | .ok c => c
    | .error _ => replacement

/-- The characters of some bytes without their faults. -/
def decodeSkipping (bytes : List UInt8) : List Char :=
  (pieces 0 bytes).filterMap Except.toOption

/-- The bytes of characters. -/
def encode (s : List Char) : List UInt8 := s.flatMap String.utf8EncodeChar

/-- The bytes of a code point.  Half a character has those of its number, though no reader takes
them for one. -/
def encodePoint : CodePoint → List UInt8
  | .char c => String.utf8EncodeChar c
  | .lone half =>
    let n := 0xD800 + half.val
    [0xE0 + n / 0x1000, 0x80 + n / 0x40 % 0x40, 0x80 + n % 0x40].map UInt8.ofNat

/-- The wording of the refusal to write halves that stand alone. -/
def refusal (stray : Stray) : Text :=
  let place : Text :=
    if stray.count = 1 then
      "character '\\u" ++ Text.ofList (hexDigits 4 (0xD800 + stray.half.val))
        ++ s!"' in position {stray.position}"
    else s!"characters in position {stray.position}-{stray.position + stray.count - 1}"
  "'utf-8' codec can't encode " ++ place ++ ": surrogates not allowed"

/-- The bytes of a text. -/
def encodeText (s : List CodePoint) : List UInt8 := s.flatMap encodePoint

end Utf8

/-- The bytes of a text in which percent signs stand for bytes.  A percent sign without two digits
stands for itself. -/
def percentDecode : List Char → List UInt8
  | [] => []
  | '%' :: high :: low :: rest =>
    match hexNumber? [high, low] with
    | some byte => UInt8.ofNat byte :: percentDecode rest
    | none => 0x25 :: percentDecode (high :: low :: rest)
  | c :: rest => Utf8.encode [c] ++ percentDecode rest

end LogTemplate.Text
