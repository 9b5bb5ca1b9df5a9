import LogTemplate.Numeral
import LogTemplate.Service.Host
import LogTemplate.Text.Uppercase
import LogTemplate.Text.Utf8

/-!
# URLs

What a client names a resource with: a scheme, an authority, which has a host and a port, a path
and a query.  A URL without a scheme or without a host is relative: it names a resource of the
service itself.  A URL is written in printable characters and is not too long.
-/

namespace LogTemplate.Service

open Text

/-- A URL.  Parts that it does not have are empty; a query may be there and be empty. -/
structure Url where
  scheme : List Char := []
  user : List Char := []
  host : List Char := []
  port : Option Int := none
  path : List Char := []
  query : Option (List Char) := none
  deriving Repr

namespace Url

/-- Why a URL cannot be followed. -/
inductive Error where
  | tooLong
  /-- A part of it is too long once its characters are written as they are sent. -/
  | partTooLong (part : String)
  | control (c : Char) (position : Nat)
  | notIpv4 (host : String)
  | notIpv6 (host : String)
  | notName (host : String)
  | notPort (text : String)
  /-- The path of a relative URL starts with a mark that would make it another part. -/
  | misleading (mark : String)
  /-- Nothing is known of the scheme. -/
  | unknownScheme (scheme : String)
  /-- The scheme asks for a connection that stays open. -/
  | staysOpen
  /-- What stands behind the first colon of the authority is no port. -/
  | numeral (error : Numeral.Error)
  deriving Repr

/-- The wording of an error. -/
def Error.message : Error → Text
  | .tooLong => "URL too long"
  | .partTooLong part => s!"URL component '{part}' too long"
  | .control c position =>
    "Invalid non-printable ASCII character in URL, " ++ quoted c.toString
      ++ s!" at position {position}."
  | .notIpv4 host => "Invalid IPv4 address: " ++ quoted host
  | .notIpv6 host => "Invalid IPv6 address: " ++ quoted host
  | .notName host => "Invalid IDNA hostname: " ++ quoted host
  | .notPort text => "Invalid port: " ++ quoted text
  | .misleading mark => s!"Relative URLs cannot have a path starting with '{mark}'"
  | .unknownScheme scheme => quoted scheme
  | .staysOpen => ""
  | .numeral error => error.message

/-- The most characters of a URL, and of a part of it. -/
def lengthLimit : Nat := 65536

/-- Whether a character is a control character of ASCII. -/
def isControl (c : Char) : Bool := c.toNat < 0x20 || c.toNat == 0x7F

/-- Refuses a text that cannot be a URL, whatever its parts. -/
def checkText (text : List Char) : Except Error Unit :=
  if lengthLimit < text.length then .error .tooLong
  else match text.find? isControl with
    | some c => .error (.control c (text.idxOf c))
    | none => .ok ()

/-- Whether a character may stand in a scheme. -/
def isSchemePart (c : Char) : Bool := c.isAlphanum || c == '+' || c == '.' || c == '-'

/-- The scheme at the front of a text and what follows its colon.  A colon in front stands for no
scheme. -/
def splitScheme (text : List Char) : List Char × List Char :=
  let scheme := text.takeWhile isSchemePart
  match text.dropWhile isSchemePart with
  | ':' :: rest => if scheme.head?.all Char.isAlpha then (scheme, rest) else ([], text)
  | _ => ([], text)

/-- The authority at the front of a text and what follows it. -/
def splitAuthority (text : List Char) : List Char × List Char :=
  match dropPrefix? ['/', '/'] text with
  | none => ([], text)
  | some rest => rest.span fun c => c != '/' && c != '?' && c != '#'

/-- What stands before the last occurrence of a character, and what follows it. -/
def splitAtLast? (mark : Char) (text : List Char) : Option (List Char × List Char) :=
  (splitAt? mark text.reverse).map fun (after, before) => (before.reverse, after.reverse)

/-- The host at the front of an authority without its user, and the text of the port.  Brackets
may hold colons. -/
def splitHost (text : List Char) : List Char × List Char :=
  let (host, rest) := match text, splitAtLast? ']' text with
    | '[' :: _, some (before, after) => (before ++ [']'], after)
    | _, _ => text.span (· != ':')
  (host, if rest.head? == some ':' then rest.tail else rest)

/-- Refuses a host that cannot be one. -/
def checkHost (host : List Char) : Except Error Unit :=
  let text := String.ofList host
  if host.isEmpty then .ok ()
  else if Host.looksIpv4 host then
    if Address.isIpv4 (host.map .char) then .ok () else .error (.notIpv4 text)
  else if Host.isBracketed host then
    if Address.isIpv6 ((Host.bracketed host).map .char) then .ok () else .error (.notIpv6 text)
  else if Host.isName host then .ok ()
  else .error (.notName text)

/-- The port of a scheme where the URL names none. -/
def usualPort? (scheme : List Char) : Option Int :=
  match String.ofList scheme with
  | "ftp" => some 21
  | "http" | "ws" => some 80
  | "https" | "wss" => some 443
  | _ => none

/-- The port that a text names; the usual one is left out. -/
def portOf (scheme text : List Char) : Except Error (Option Int) :=
  if text.isEmpty then .ok none
  else match Numeral.readDecimal (text.map .char) with
    | .error _ => .error (.notPort (String.ofList text))
    | .ok port => .ok (if usualPort? scheme == some port then none else some port)

/-- One step of a path, taken from the steps before it, the last of which comes first: a dot stays
where it is, and two dots go back, but not before the start. -/
def takeStep (taken : List (List Char)) (step : List Char) : List (List Char) :=
  if step == ['.'] then taken
  else if step == ['.', '.'] then (if taken == [[]] then taken else taken.tail)
  else step :: taken

/-- A path without steps that are dots. -/
def withoutDots (path : List Char) : List Char :=
  ['/'].intercalate ((splitOn '/' path).foldl takeStep []).reverse

/-- Whether a URL has a user, a host or a port. -/
def hasAuthority (u : Url) : Bool := !u.user.isEmpty || !u.host.isEmpty || u.port.isSome

/-- Settles the path of a URL.  Dots count if there is something that the path starts from. -/
def settlePath (u : Url) : Except Error Url :=
  if u.hasAuthority || !u.scheme.isEmpty then .ok { u with path := withoutDots u.path }
  else if ['/', '/'].isPrefixOf u.path then .error (.misleading "//")
  else if u.path.head? == some ':' then .error (.misleading ":")
  else .ok u

/-- The URL that a text is. -/
def ofText (text : List Char) : Except Error Url := do
  checkText text
  let (scheme, rest) := splitScheme (text.takeWhile (· != '#'))
  let (authority, rest) := splitAuthority rest
  let (path, query) := match splitAt? '?' rest with
    | some (path, query) => (path, some query)
    | none => (rest, none)
  let (user, place) := (splitAtLast? '@' authority).getD ([], authority)
  let (host, port) := splitHost place
  checkHost host
  let port ← portOf scheme port
  settlePath { scheme := scheme.map Char.toLower, user, host, port, path, query }

/-- Whether a URL names a resource of the service itself. -/
def isRelative (u : Url) : Bool := u.scheme.isEmpty || u.host.isEmpty

/-- The characters that are not sent as they are in a query. -/
def unsafeInQuery : List Char := [' ', '"', '#', '<', '>']

/-- The characters that are not sent as they are in a path. -/
def unsafeInPath : List Char := unsafeInQuery ++ ['?', '\x60', '\x7B', '\x7D']

/-- How many characters are sent for a part: one, or three for each byte of a character that is
not sent as it is. -/
def sentLength (refused : List Char) (part : List Char) : Nat :=
  part.foldl (fun n c =>
    n + if c.toNat < 0x7F && !refused.contains c then 1 else 3 * c.utf8Size) 0

/-- A relative URL where the service lies, which takes its path for one that starts with a
slash. -/
def onService (u : Url) : Except Error Url :=
  let path := '/' :: u.path.dropWhile (· == '/')
  if lengthLimit < sentLength unsafeInPath path then .error (.partTooLong "path")
  else if lengthLimit < sentLength unsafeInQuery (u.query.getD []) then
    .error (.partTooLong "query")
  else .ok { u with path := withoutDots path }

/-- The authority of a URL without its user. -/
def place (u : Url) : List Char :=
  u.host ++ ((u.port.map fun port => ':' :: (Numeral.decimal port).toList).getD [])

/-- Refuses a URL that leads elsewhere in a way that the service does not know.  The port is what
follows the first colon. -/
def checkPlace (u : Url) : Except Error Unit := do
  let scheme := String.ofList u.scheme
  if (usualPort? u.scheme).isNone || scheme == "ftp" then .error (.unknownScheme scheme)
  else match splitAt? ':' u.place with
    | none => .ok ()
    | some (_, port) => (Numeral.readDecimal (port.map .char)).mapError .numeral |>.map fun _ => ()
  if scheme == "ws" || scheme == "wss" then .error .staysOpen

/-- A path once percent signs stand for bytes no more.  They are resolved as the URL is read and
again as the request is. -/
def resolved (path : List Char) : List Char :=
  let once := Utf8.decodeReplacing (percentDecode path)
  Utf8.decodeReplacing (percentDecode once)

/-- The path that a text leads to. -/
def pathOf (text : List Char) : Except Error (List Char) := do
  let u ← ofText text
  if u.isRelative then return resolved (← u.onService).path
  checkPlace u
  return if u.path.isEmpty then ['/'] else resolved u.path

end Url

end LogTemplate.Service
