import LogTemplate.Sink
import LogTemplate.Text.Split
import LogTemplate.Text.Uppercase
import LogTemplate.Text.Utf8

/-!
# Where a database lies

What stands for a database is the name of a file or, if it starts with `file:`, a URI.  Behind the
name of the file a URI may have parameters, which say how the database is used, and a fragment,
which does not count.
-/

namespace LogTemplate.Sink

open Text

/-- How a database is used. -/
inductive Access where
  /-- It is read and written, and made if it is missing. -/
  | create
  /-- It is read and written. -/
  | write
  /-- It is only read. -/
  | read
  /-- It has no file. -/
  | memory
  deriving DecidableEq, Repr

/-- Whether one way of use can take the place of another one: none that allows more can. -/
def Access.admits : Access → Access → Bool
  | .write, .create => false
  | .read, .create => false
  | .read, .write => false
  | _, _ => true

/-- The ways of use by name. -/
def Access.ofName? (name : String) : Option Access :=
  match name with
  | "ro" => some .read
  | "rw" => some .write
  | "rwc" => some .create
  | "memory" => some .memory
  | _ => none

/-- What stands for a database. -/
structure Locator where
  /-- The name of its file; nothing, if no file has it. -/
  name : String
  access : Access := .create
  /-- Whether those that use the same name use the same database even if it has no file. -/
  isShared : Bool := false
  /-- The kind of place where the file lies. -/
  storage : String := "unix"
  /-- Whether the file is said never to change. -/
  isImmutable : Bool := false
  /-- Whether those that use the file are not to keep off each other. -/
  isUnlocked : Bool := false
  deriving DecidableEq, Repr

namespace Locator

/-- The text of a part of a URI, which ends where the byte zero is. -/
def partText (part : List Char) : String :=
  String.ofList (Utf8.decodeReplacing ((percentDecode part).takeWhile (· != 0)))

/-- A parameter of a URI, unless it has no name. -/
def parameter? (part : List Char) : Option (String × String) :=
  let (key, value) := (splitAt? '=' part).getD (part, [])
  let key := partText key
  if key.isEmpty then none else some (key, partText value)

/-- The words that say yes. -/
def agreements : List String := ["on", "yes", "true"]

/-- Whether the value of a parameter says yes.  A number of less than 32 bits does that unless its
last byte is zero. -/
def isAgreement (value : String) : Bool :=
  let digits := value.toList.takeWhile Char.isDigit
  let n := decimalNumber (digits.map .char)
  if digits.isEmpty then agreements.contains (String.ofList (value.toList.map Char.toLower))
  else n < 0x80000000 && n % 0x100 != 0

/-- Applies a parameter; one that is not known does not count. -/
def apply (l : Locator) (parameter : String × String) : Except Error Locator :=
  let (key, value) := parameter
  if key == "mode" then
    match Access.ofName? value with
    | some access => if l.access.admits access then .ok { l with access } else .error .cannotOpen
    | none => .error .cannotOpen
  else if key == "cache" then
    if value == "shared" then .ok { l with isShared := true }
    else if value == "private" then .ok { l with isShared := false }
    else .error .cannotOpen
  else if key == "vfs" then .ok { l with storage := value }
  else .ok l

/-- What follows the authority of a URI; nothing but this computer can be one. -/
def dropAuthority (text : List Char) : Except Error (List Char) :=
  match dropPrefix? "//".toList text with
  | none => .ok text
  | some rest =>
    let authority := rest.takeWhile (· != '/')
    if authority.isEmpty || authority == "localhost".toList then
      .ok (rest.dropWhile (· != '/'))
    else .error .cannotOpen

/-- The kinds of places where files lie. -/
def storages : List String := ["unix", "unix-none", "unix-dotfile", "unix-excl"]

/-- The kind of place that is in memory. -/
def memoryStorage : String := "memdb"

/-- Refuses kinds of places that are not known. -/
def settle (l : Locator) : Except Error Locator :=
  if storages.contains l.storage || l.storage == memoryStorage then .ok l
  else .error .cannotOpen

/-- What a text stands for. -/
def ofText (text : String) : Except Error Locator :=
  match dropPrefix? "file:".toList text.toList with
  | none => .ok { name := text }
  | some uri => do
    let body ← dropAuthority (uri.takeWhile (· != '#'))
    let (path, query) := (splitAt? '?' body).getD (body, [])
    let parameters := (splitOn '&' query).filterMap parameter?
    let agrees := fun (key : String) => (OrderedMap.lookup key parameters).any isAgreement
    let l ← parameters.foldlM apply ({
      name := partText path
      isImmutable := agrees "immutable"
      isUnlocked := agrees "nolock" } : Locator)
    l.settle

/-- Whether a database has no file and no place in the memory that others find. -/
def isAlone (l : Locator) : Bool :=
  l.name.isEmpty || (!l.isShared && (l.access == .memory || l.name == ":memory:"))

/-- Whether a database lies in memory under a name.  In the memory that is a kind of place, those
names are found by others that start with a slash. -/
def isNamedMemory (l : Locator) : Bool :=
  l.access == .memory || l.name == ":memory:" || l.storage == memoryStorage

/-- Whether others find a database that lies in memory under its name. -/
def isFound (l : Locator) : Bool :=
  l.isShared || (l.storage == memoryStorage && l.name.startsWith "/" && l.name != "/")

/-- How those that use a database keep off each other. -/
def locking (l : Locator) : Locking :=
  if l.storage == memoryStorage then .memory
  else if l.isImmutable then .immutable
  else if l.isUnlocked || l.storage == "unix-none" then .absent
  else if l.storage == "unix-dotfile" then .whole
  else .ordinary

end Locator

end LogTemplate.Sink
