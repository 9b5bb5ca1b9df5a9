import LogTemplate.Json.Reader
import LogTemplate.Log
import LogTemplate.Path
import LogTemplate.Text.Lines

/-!
# Formats of pattern files

Pattern files are written as JSON, as lines of JSON, or as YAML.  The end of a file's name tells the
format, if it is a known one; else its first lines do.  Each format gives them a score between zero
and one, unless the sample is nested too deep for it.  The best score wins, of equal ones that of
the format that is tried first; without any score above zero no format is told.
-/

namespace LogTemplate.PatternFile

open Text

variable [Nesting]

/-- A format of pattern files. -/
inductive Format where
  | json
  /-- One JSON text on each line. -/
  | jsonLines
  | yaml
  deriving DecidableEq, Repr

namespace Format

/-- The name of the reader of a format. -/
def readerName : Format → String
  | .json => "JsonPatternHandler"
  | .jsonLines => "JsonLinesPatternHandler"
  | .yaml => "YamlPatternHandler"

/-- The ends of names that tell the format, without the dot. -/
def suffixes : Format → List String
  | .json => ["json"]
  | .jsonLines => ["jsonl", "ndjson"]
  | .yaml => ["yaml", "yml"]

/-- All formats, in the order in which they are tried. -/
def all : List Format := [.json, .jsonLines, .yaml]

/-- The format that a file's name tells. -/
def ofPath? (p : Path) : Option Format :=
  let known := fun (s : String) => '.' :: s.toList == p.suffix
  all.find? (·.suffixes.any known)

end Format

/-! ## Telling a format from a sample -/

/-- Whether a text is JSON, and if so whether it is a mapping. -/
def isMapping? (s : List CodePoint) : Except Nesting.Excess (Option Bool) :=
  match Json.read s with
  | .ok (.mapping _) => .ok (some true)
  | .ok _ => .ok (some false)
  | .error (.tooDeep what) => .error what
  | .error _ => .ok none

/-- The lines that are not blank, without the blanks around them. -/
def denseLines (s : List CodePoint) : List (List CodePoint) :=
  ((splitLines s).map trim).filter (!·.isEmpty)

/-- A share of a number of tenths. -/
def tenths (n : Nat) : Double := .ofScientific false n (-1)

/-- The score of a sample as JSON.  A mapping that is complete on the first line is more likely to
be one of many. -/
def jsonScore (sample : List CodePoint) : Except Nesting.Excess Double :=
  match trimLeft sample with
  | '[' :: _ => .ok (tenths 9)
  | '\x7b' :: rest => do
    let first := (splitLines ('\x7b' :: rest)).headD []
    return if (← isMapping? first).isSome then tenths 4 else tenths 8
  | _ => .ok (.ofNat 0)

/-- The score of a sample as lines of JSON: the share of its lines that are mappings. -/
def jsonLinesScore (sample : List CodePoint) : Except Nesting.Excess Double := do
  let lines := denseLines sample
  if lines.isEmpty then return .ofNat 0
  else
    let found ← lines.mapM isMapping?
    return ((tenths 9).scale (found.count (some true))).divide lines.length

/-- How a YAML text may start. -/
def yamlStarts : List (List CodePoint) :=
  [Text.toList "---", Text.toList "- ", Text.toList "patterns:"]

/-- The score of a sample as YAML. -/
def yamlScore (sample : List CodePoint) : Double :=
  if yamlStarts.any (·.isPrefixOf (trimLeft sample)) then tenths 7 else .ofNat 0

/-- The score of a sample in a format. -/
def Format.score (sample : List CodePoint) : Format → Except Nesting.Excess Double
  | .json => jsonScore sample
  | .jsonLines => jsonLinesScore sample
  | .yaml => .ok (yamlScore sample)

/-- The better one of the best score so far and that of a format, which is passed over if it gives
none. -/
def better (sample : List CodePoint) (best : Double × Option Format) (format : Format) :
    Double × Option Format :=
  match format.score sample with
  | .error _ => best
  | .ok score => if best.1.less score then (score, some format) else best

/-- The format that scores best, if one scores above zero. -/
def sniff (sample : List CodePoint) : Option Format :=
  (Format.all.foldl (better sample) (.ofNat 0, none)).2

/-- Says of each name of some formats that it gives no score, if it gives none. -/
def logSkips (sample : List CodePoint) : List Format → Logged Unit
  | [] => return ()
  | format :: rest => do
    match format.score sample with
    | .ok _ => pure ()
    | .error what => logNames what format.suffixes
    logSkips sample rest
where
  /-- Says of names that they give no score. -/
  logNames (what : Nesting.Excess) : List String → Logged Unit
    | [] => return ()
    | name :: rest => do
      Logged.write .debug .formats s!"Sniff failed for {name}: {what.message}"
      logNames what rest

/-- The format that a sample tells, if it tells one. -/
def sniffLogged (sample : List CodePoint) : Logged (Option Format) := do
  logSkips sample Format.all
  return sniff sample

end LogTemplate.PatternFile
