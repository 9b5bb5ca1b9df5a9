import LogTemplate.Command
import LogTemplate.Command.Argument
import LogTemplate.Numeral

/-!
# Invocations

The command that the arguments of a command line ask for.  Options for all commands come first, then
the name of a command, then its words and options in any order.
-/

namespace LogTemplate

/-- A command and how it is run. -/
structure Invocation where
  isVerbose : Bool
  command : Command
  deriving DecidableEq, Repr

namespace Invocation

/-- Why no command is run. -/
inductive Stop where
  /-- Help was asked for. -/
  | help
  /-- The arguments ask for no command. -/
  | usage
  deriving DecidableEq, Repr

/-- The number with which the program ends if no command is run. -/
def Stop.number : Stop → Nat
  | .help => 0
  | .usage => 2

/-- What the arguments of a command have given so far. -/
structure Gathered where
  words : List (List Char) := []
  /-- What the last option for the workers says: a number, or none. -/
  workers : Option (Option Int) := none
  /-- Whether there was an argument too many. -/
  hasExtra : Bool := false

/-- The word that stands for a mark among the words behind the mark, where no word is due. -/
def emptyWord : List Char := "[]".toList

/-- Takes the words behind a mark.  The first of them may be a mark itself, unless the mark is
taken together with the word before it. -/
def Gathered.addMarked (g : Gathered) (due : Nat) (followsWord : Bool) (rest : List (List Char)) :
    Gathered :=
  let free := due - g.words.length
  let taken := rest.take free
  let shown := fun (text : List Char) => if text == ['-', '-'] then emptyWord else text
  let words := match taken with
    | first :: more => (if followsWord then shown first else first) :: more.map shown
    | [] => []
  let isStray := taken.isEmpty && !followsWord
  { g with
    words := g.words ++ words
    hasExtra := g.hasExtra || isStray || free < rest.length }

/-- Gathers the arguments of a command that takes `due` words. -/
def gather (known : List Switch) (due : Nat) :
    Gathered → (followsWord : Bool) → List (List Char) → Except Stop Gathered
  | g, _, [] => if g.words.length < due then .error .usage else .ok g
  | g, followsWord, text :: rest =>
    match Argument.ofText known text with
    | .word word =>
      if g.words.length < due then gather known due { g with words := g.words ++ [word] } true rest
      else gather known due { g with hasExtra := true } false rest
    | .mark =>
      let g := g.addMarked due followsWord rest
      if g.words.length < due then .error .usage else .ok g
    | .unknown => gather known due { g with hasExtra := true } false rest
    | .flags .. => .error .help
    | .malformed | .ambiguous => .error .usage
    | .valued _ (some value) =>
      if value == ['-', '-'] then gather known due { g with workers := some none } false rest
      else match Numeral.readDecimal (value.map .char) with
        | .ok n => gather known due { g with workers := some (some n) } false rest
        | .error _ => .error .usage
    | .valued _ none =>
      match rest with
      | [] => .error .usage
      | value :: rest =>
        match Argument.ofText known value, Numeral.readDecimal (value.map .char) with
        | .word _, .ok n => gather known due { g with workers := some (some n) } false rest
        | _, _ => .error .usage

/-- The path that a word denotes. -/
def pathOf (word : List Char) : Path := .ofText (String.ofList word)

/-- The command of a name, with the arguments behind the name, and whether there was one too many.
The number of workers may be left out. -/
def commandOf (workers : Int) (name : List Char) (arguments : List (List Char)) :
    Except Stop (Command × Bool) :=
  if name == "validate".toList then do
    let g ← gather [.help] 1 {} false arguments
    match g.words with
    | [file] => return (.validate (pathOf file), g.hasExtra)
    | _ => .error .usage
  else if name == "parse".toList then do
    let g ← gather [.help, .workers] 3 {} false arguments
    match g.words with
    | [patterns, input, output] =>
      let workers := g.workers.getD (some workers)
      return (.parse (pathOf patterns) (pathOf input) (pathOf output) workers, g.hasExtra)
    | _ => .error .usage
  else .error .usage

/-- The options for all commands. -/
def common : List Switch := [.help, .verbose]

/-- Reads the options for all commands, and the command. -/
def readFrom (workers : Int) :
    (isVerbose hasExtra : Bool) → List (List Char) → Except Stop Invocation
  | _, _, [] => .error .usage
  | isVerbose, hasExtra, text :: rest =>
    match Argument.ofText common text with
    | .word name => do
      let (command, hasMore) ← commandOf workers name rest
      if hasExtra || hasMore then .error .usage else return ⟨isVerbose, command⟩
    | .flags all =>
      if all.contains .help then .error .help else readFrom workers true hasExtra rest
    | .unknown => readFrom workers isVerbose true rest
    | _ => .error .usage

/-- The invocation that arguments ask for, where `workers` share the matching of lines unless the
arguments say otherwise. -/
def ofArguments (workers : Int) (arguments : List String) : Except Stop Invocation :=
  let texts := arguments.map String.toList
  let unmarked := texts.takeWhile (· != ['-', '-'])
  if unmarked.any fun text => Argument.ofText common text == .ambiguous then .error .usage
  else readFrom workers false false texts

end Invocation

end LogTemplate
