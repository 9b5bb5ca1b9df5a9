import LogTemplate.Path

/-!
# Commands

What the program is asked to do.
-/

namespace LogTemplate

/-- A command. -/
inductive Command where
  /-- Check a pattern file. -/
  | validate (patternFile : Path)
  /-- Parse a file; the matching of its lines is shared among workers, if their number is known. -/
  | parse (patternFile inputFile outputFile : Path) (workers : Option Int)
  deriving DecidableEq, Repr

/-- How a command ends. -/
inductive ExitCode where
  | ok
  | failed
  /-- The pattern file to be checked cannot be loaded. -/
  | unreadable
  deriving DecidableEq, Repr

/-- The number of an exit code. -/
def ExitCode.number : ExitCode → Nat
  | .ok => 0
  | .failed => 1
  | .unreadable => 2

end LogTemplate
