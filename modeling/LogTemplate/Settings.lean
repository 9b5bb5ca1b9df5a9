import LogTemplate.Numeral
import LogTemplate.Path
import LogTemplate.Text.Uppercase

/-!
# Settings

What the environment's variables set, and what holds where they set nothing.
-/

namespace LogTemplate

/-- The settings of the program. -/
structure Settings where
  /-- The pattern file of the service. -/
  patternFile : Path
  logLevel : String
  /-- How many workers share the matching of lines. -/
  workers : Int
  /-- Whether the service watches its pattern file. -/
  watches : Bool
  /-- Whether the pattern file is watched by polling. -/
  polls : Bool
  /-- The table that entries are written to. -/
  resultsTable : String
  deriving Repr

namespace Settings

/-- The layout of log lines. -/
def logFormat : String := "%(asctime)s [%(levelname)s] %(name)s: %(message)s"

/-- The table that entries are written to if no other is set. -/
def defaultTable : String := "parse_results"

/-- The words that switch a setting on. -/
def onWords : List (List Char) := ["1".toList, "true".toList, "yes".toList]

/-- Whether a word switches a setting on; the case of its letters does not matter. -/
def isOn (word : String) : Bool := onWords.contains (word.toList.map Char.toLower)

/-- The variables that set something. -/
def variableNames : List String :=
  ["PATTERN_FILE", "LOG_LEVEL", "PARSE_WORKERS", "WATCH_PATTERNS", "WATCH_USE_POLLING",
    "RESULTS_TABLE"]

/-- The settings that variables make. -/
def ofVariables (lookup? : String → Option String) : Except Numeral.Error Settings := do
  let get := fun (name default : String) => (lookup? name).getD default
  let workers ← Numeral.readDecimal (Text.toList (get "PARSE_WORKERS" "1"))
  return {
    patternFile := .ofText (get "PATTERN_FILE" "patterns.json")
    logLevel := String.ofList (Text.uppercase (get "LOG_LEVEL" "INFO").toList)
    workers
    watches := isOn (get "WATCH_PATTERNS" "1")
    polls := isOn (get "WATCH_USE_POLLING" "1")
    resultsTable := get "RESULTS_TABLE" defaultTable }

end Settings

end LogTemplate
