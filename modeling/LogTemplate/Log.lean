import LogTemplate.Text

/-!
# Log lines

What the program says while it works.  A computation that logs gives its value together with the
lines it has written, in order.
-/

namespace LogTemplate

namespace Log

/-- How grave a line is. -/
inductive Level where
  | debug
  | info
  | warning
  | error
  deriving DecidableEq, Repr

/-- The word for a level. -/
def Level.word : Level → Text
  | .debug => "DEBUG"
  | .info => "INFO"
  | .warning => "WARNING"
  | .error => "ERROR"

/-- The parts of the program that write lines. -/
inductive Channel where
  | program
  | loader
  | jsonFile
  | jsonLinesFile
  | yamlFile
  | inputFile
  | sniffer
  | formats
  | patternFile
  | watcher
  deriving DecidableEq, Repr

/-- The name of a channel. -/
def Channel.name : Channel → Text
  | .program => "logpattern"
  | .loader => "patterns.loader"
  | .jsonFile => "ingestor.handlers.json_file"
  | .jsonLinesFile => "ingestor.handlers.jsonl"
  | .yamlFile => "ingestor.handlers.yaml_file"
  | .inputFile => "ingestor.handlers.raw"
  | .sniffer => "ingestor.sniffer"
  | .formats => "ingestor.handlers.registry"
  | .patternFile => "ingestor.patternfile"
  | .watcher => "ingestor.watcher"

/-- One line. -/
structure Line where
  level : Level
  channel : Channel
  message : Text
  deriving DecidableEq, Repr

/-- The level and the channel of a line. -/
def Line.heading (line : Line) : Text := "[" ++ line.level.word ++ "] " ++ line.channel.name

/-- A line as it is written. -/
def Line.text (line : Line) : Text := line.heading ++ ": " ++ line.message

/-- Whether the line is written unless debugging is asked for. -/
def Line.isShown (isVerbose : Bool) (line : Line) : Bool := isVerbose || line.level != .debug

end Log

/-- A value and the lines that were written on the way to it. -/
structure Logged (α : Type) where
  value : α
  lines : List Log.Line := []

namespace Logged

instance : Monad Logged where
  pure value := ⟨value, []⟩
  bind x f := let y := f x.value; ⟨y.value, x.lines ++ y.lines⟩

/-- Writes a line. -/
def write (level : Log.Level) (channel : Log.Channel) (message : Text) : Logged Unit :=
  ⟨(), [⟨level, channel, message⟩]⟩

@[simp] theorem value_pure {α : Type} (a : α) : (pure a : Logged α).value = a := rfl

@[simp] theorem lines_pure {α : Type} (a : α) : (pure a : Logged α).lines = [] := rfl

@[simp] theorem value_bind {α β : Type} (x : Logged α) (f : α → Logged β) :
    (x >>= f).value = (f x.value).value := rfl

@[simp] theorem lines_bind {α β : Type} (x : Logged α) (f : α → Logged β) :
    (x >>= f).lines = x.lines ++ (f x.value).lines := rfl

end Logged

end LogTemplate
