import LogTemplate.Path
import LogTemplate.Sink.Database
import LogTemplate.Text.Quoted

/-!
# Workspaces

Directories and files, and the directory from which relative paths start.  Main operations: reading
a file, writing one, and making directories.  Each operation either succeeds or names the fault that
the operating system would report.
-/

namespace LogTemplate

/-- What a file holds: bytes, a database, or a log of the changes that make one of another file. -/
inductive Content where
  | bytes (held : List UInt8)
  | database (held : Sink.Database)
  | log (held : Sink.Database)
  deriving Repr, Inhabited

/-- How the file of a database starts: its heading without its counters, and the first bytes of the
page that lists its tables. -/
def databaseHeading : List UInt8 :=
  "SQLite format 3\x00".toUTF8.toList ++ [0x10, 0x00, 0x01, 0x01, 0x00, 0x40, 0x20, 0x20]
    ++ List.replicate 23 0x00 ++ [0x04] ++ List.replicate 11 0x00 ++ [0x01]
    ++ List.replicate 36 0x00 ++ [0x00, 0x2E, 0x63, 0x01, 0x0D, 0x0F, 0xF8]

/-- How a log starts: four bytes of which the last one may also be greater by one, and the version
of the format. -/
def logHeading : List UInt8 := [0x37, 0x7F, 0x06, 0x82, 0x00, 0x2D, 0xE2, 0x18]

/-- The bytes of a file.  Of a database nothing but its heading is known, and so of a log. -/
def Content.toBytes : Content → List UInt8
  | .bytes held => held
  | .database _ => databaseHeading
  | .log _ => logHeading

/-- The bytes of a file after some are written from a place on.  A gap before that place is filled
with zeros. -/
def overwrite (place : Nat) (written bytes : List UInt8) : List UInt8 :=
  let before := bytes.take place
  before ++ List.replicate (place - before.length) 0 ++ written
    ++ bytes.drop (place + written.length)

/-- A directory or a file. -/
inductive Node where
  | directory
  | file (content : Content)
  deriving Repr

/-- Whether a node is a directory. -/
def Node.isDirectory : Node → Bool
  | .directory => true
  | .file _ => false

/-- Why an operation on a file fails. -/
inductive FileFault where
  | missing
  | exists
  | notDirectory
  | isDirectory
  | nameTooLong
  /-- The character zero stands in the path, which the operating system does not get to see. -/
  | zeroInPath
  deriving DecidableEq, Repr

namespace FileFault

/-- The number of a fault, if the operating system reports it. -/
def number? : FileFault → Option Nat
  | .missing => some 2
  | .exists => some 17
  | .notDirectory => some 20
  | .isDirectory => some 21
  | .nameTooLong => some 36
  | .zeroInPath => none

/-- Whether the operating system reports a fault. -/
def isReported (fault : FileFault) : Bool := fault.number?.isSome

/-- The wording of a fault. -/
def text : FileFault → Text
  | .missing => "No such file or directory"
  | .exists => "File exists"
  | .notDirectory => "Not a directory"
  | .isDirectory => "Is a directory"
  | .nameTooLong => "File name too long"
  | .zeroInPath => "embedded null byte"

end FileFault

/-- A fault and the path it concerns. -/
structure FileError where
  fault : FileFault
  path : String
  deriving DecidableEq, Repr

/-- The wording of an error. -/
def FileError.message (e : FileError) : Text :=
  match e.fault.number? with
  | some number => s!"[Errno {number}] " ++ e.fault.text ++ ": " ++ Text.quoted e.path
  | none => e.fault.text

/-- Directories and files, each under the names on the way to it from the root. -/
structure Workspace where
  nodes : List (List String × Node) := []
  /-- The directory from which relative paths start.  Unless it is given, it is one that no path
  names. -/
  home : List String := [""]
  deriving Inhabited

namespace Workspace

/-- What lies at a place.  The home directory is always there. -/
def node? (w : Workspace) (place : List String) : Option Node :=
  if place.isPrefixOf w.home then some .directory
  else (w.nodes.find? (·.1 == place)).map Prod.snd

/-- Puts something at a place. -/
def setNode (w : Workspace) (place : List String) (node : Node) : Workspace :=
  { w with nodes := (place, node) :: w.nodes.filter (·.1 != place) }

/-- Takes away what lies at a place. -/
def dropNode (w : Workspace) (place : List String) : Workspace :=
  { w with nodes := w.nodes.filter (·.1 != place) }

/-- The most bytes that a name may have. -/
def nameLimit : Nat := 255

/-- The bytes that a path has to stay below. -/
def pathLimit : Nat := 4096

/-- The place that names lead to from a directory.  All but the last have to be directories. -/
def walk (w : Workspace) (place : List String) : List String → Except FileFault (List String)
  | [] => .ok place
  | name :: rest =>
    if name == ".." then walk w place.dropLast rest
    else if nameLimit < name.utf8ByteSize then .error .nameTooLong
    else if rest.isEmpty then .ok (place ++ [name])
    else match w.node? (place ++ [name]) with
      | some .directory => walk w (place ++ [name]) rest
      | some (.file _) => .error .notDirectory
      | none => .error .missing

/-- The place of a path. -/
def locate (w : Workspace) (p : Path) : Except FileFault (List String) :=
  if p.hasZero then .error .zeroInPath
  else if pathLimit ≤ p.text.utf8ByteSize then .error .nameTooLong
  else w.walk (if p.root.isEmpty then w.home else []) p.names

/-- The content of a file. -/
def read (w : Workspace) (p : Path) : Except FileFault Content := do
  match w.node? (← w.locate p) with
  | none => .error .missing
  | some .directory => .error .isDirectory
  | some (.file content) => .ok content

/-- Whether a path leads to a directory. -/
def isDirectory (w : Workspace) (p : Path) : Bool :=
  match w.locate p with
  | .error _ => false
  | .ok place => (w.node? place).any Node.isDirectory

/-- The place where a file can be written: in a directory, and no directory itself. -/
def writable (w : Workspace) (p : Path) : Except FileFault (List String) := do
  let place ← w.locate p
  match w.node? place with
  | some .directory => .error .isDirectory
  | some (.file _) => .ok place
  | none =>
    match w.node? place.dropLast with
    | some .directory => .ok place
    | some (.file _) => .error .notDirectory
    | none => .error .missing

/-- Sets the content of the file at a place. -/
def write (w : Workspace) (place : List String) (content : Content) : Workspace :=
  w.setNode place (.file content)

/-- Makes a directory in an existing one. -/
def makeDirectory (w : Workspace) (p : Path) : Except FileFault Workspace := do
  let place ← w.locate p
  match w.node? place with
  | some _ => .error .exists
  | none =>
    match w.node? place.dropLast with
    | some .directory => .ok (w.setNode place .directory)
    | some (.file _) => .error .notDirectory
    | none => .error .missing

/-- Makes a directory where none may be yet. -/
def ensureDirectory (w : Workspace) (p : Path) : Except FileError Workspace :=
  match w.makeDirectory p with
  | .ok made => .ok made
  | .error fault => if w.isDirectory p then .ok w else .error ⟨fault, p.text⟩

/-- Makes a directory, and first those on the way to it that are missing; `steps` is the number of
names on the way. -/
def ensureDirectories (w : Workspace) (root : String) :
    (steps : Nat) → List String → Except FileError Workspace
  | 0, names => w.ensureDirectory ⟨root, names⟩
  | steps + 1, names => do
    let p : Path := ⟨root, names⟩
    match w.makeDirectory p with
    | .error .missing =>
      let w ← w.ensureDirectories root steps names.dropLast
      w.ensureDirectory p
    | _ => w.ensureDirectory p

/-- Makes the directory of a path, and those on the way to it. -/
def ensureParent (w : Workspace) (p : Path) : Except FileError Workspace :=
  let parent := p.parent
  w.ensureDirectories parent.root parent.names.length parent.names

end Workspace

end LogTemplate
