import LogTemplate.Field
import LogTemplate.Text.Alphanumeric

/-!
# Maximal runs

A field takes the longest run of characters that its kind admits.  Free text has no characters of
its own: it ends where the literal after it could start, or with the line.  Main statement: a run
is a prefix of the text it is taken from.
-/

namespace LogTemplate

namespace Kind

/-- The characters of a word. -/
def isWordChar (c : CodePoint) : Bool := Text.isAlphanumeric c || c == '_' || c == '-' || c == '.'

/-- The characters of an IPv4 address. -/
def isIpv4Char (c : CodePoint) : Bool := c.isDigit || c == '.'

/-- The characters of an IPv6 address. -/
def isIpv6Char (c : CodePoint) : Bool :=
  c.isDigit || ('a' ≤ c && c ≤ 'f') || ('A' ≤ c && c ≤ 'F') || c == ':' || c == '.'

/-- The characters of a timestamp. -/
def isTimestampChar (c : CodePoint) : Bool := c.isDigit || (Text.toList "-:.+TZ").contains c

/-- The characters that a kind takes wherever they stand; numbers and free text have a rule of
their own. -/
def isRunChar : Kind → CodePoint → Bool
  | .number, c => c.isDigit
  | .string, c => isWordChar c
  | .ipv4, c => isIpv4Char c
  | .ipv6, c => isIpv6Char c
  | .timestamp, c => isTimestampChar c
  | .any, _ => true

/-- The text before the first occurrence of another text. -/
def takeUntil (stop : List CodePoint) : List CodePoint → List CodePoint
  | [] => []
  | c :: rest => if stop.isPrefixOf (c :: rest) then [] else c :: takeUntil stop rest

/-- A number at the front of a text: digits, after a minus sign if digits follow it. -/
def numberRun : List CodePoint → List CodePoint
  | '-' :: rest =>
    match rest.takeWhile CodePoint.isDigit with
    | [] => []
    | digits => '-' :: digits
  | s => s.takeWhile CodePoint.isDigit

/-- The longest run of a kind at the front of a text.  Only free text heeds `stop`. -/
def run (kind : Kind) (stop : Option (List CodePoint)) (s : List CodePoint) : List CodePoint :=
  match kind with
  | .number => numberRun s
  | .any =>
    match stop with
    | none => s
    | some stop => takeUntil stop s
  | kind => s.takeWhile kind.isRunChar

/-- Where the longest run of a kind ends that starts at a position of a text.  Free text asked for
beyond the end of the text ends with it. -/
def runEnd (kind : Kind) (text : List CodePoint) (position : Nat) (stop : Option (List CodePoint)) :
    Nat :=
  if text.length < position then
    match kind with
    | .any => text.length
    | _ => position
  else position + (kind.run stop (text.drop position)).length

theorem takeUntil_prefix (stop s : List CodePoint) : takeUntil stop s <+: s := by
  induction s with
  | nil => simp [takeUntil]
  | cons c rest ih =>
    unfold takeUntil
    split
    · simp
    · exact (List.cons_prefix_cons).2 ⟨rfl, ih⟩

theorem numberRun_prefix (s : List CodePoint) : numberRun s <+: s := by
  unfold numberRun
  split
  · rename_i rest
    have h := List.takeWhile_prefix CodePoint.isDigit (l := rest)
    split
    · exact List.nil_prefix
    · exact (List.cons_prefix_cons).2 ⟨rfl, h⟩
  · exact List.takeWhile_prefix _

/-- A run is a prefix of the text it is taken from. -/
theorem run_prefix (kind : Kind) (stop : Option (List CodePoint)) (s : List CodePoint) :
    kind.run stop s <+: s := by
  unfold run
  split
  · exact numberRun_prefix s
  · split
    · exact List.prefix_rfl
    · exact takeUntil_prefix _ s
  · exact List.takeWhile_prefix _

end Kind

end LogTemplate
