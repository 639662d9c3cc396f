/-!
# Console messages

What a run prints, on either of its two channels, and the record by which messages are printed only
once. All levels share one record; a message that may be repeated neither consults nor changes it.
-/

namespace SourceTrace

/-- The channels of a run. -/
inductive Channel where
  /-- Results. -/
  | out
  /-- Messages. -/
  | err
  deriving DecidableEq, Repr

/-- The weight of a message. -/
inductive Level where
  /-- A detail. -/
  | debug
  /-- A piece of information. -/
  | info
  /-- A warning. -/
  | warning
  deriving DecidableEq, Repr

/-- The terminal style of a level. -/
def Level.style : Level → Option String
  | .debug => some "\x1b[2m"
  | .info => none
  | .warning => some "\x1b[33m"

/-- The categories of warnings. -/
inductive Category where
  /-- Something could not be parsed and is left out. -/
  | parsingError
  /-- A file name was given where a contract name is expected. -/
  | contractNameIsFileName
  /-- The compiler is too old. -/
  | untestedCompilerVersion
  /-- A source file is not valid UTF-8. -/
  | sourceEncoding
  /-- A source file was not found. -/
  | missingSourceText
  /-- Source text was made from the syntax tree. -/
  | reconstructedSource
  deriving DecidableEq, Repr

/-- The tag of a category. -/
def Category.code : Category → String
  | .parsingError => "parsing-error"
  | .contractNameIsFileName => "contract-name-is-file-name"
  | .untestedCompilerVersion => "untested-compiler-version"
  | .sourceEncoding => "source-encoding"
  | .missingSourceText => "missing-source-text"
  | .reconstructedSource => "reconstructed-source"

/-- All categories. -/
def Category.all : List Category :=
  [.parsingError, .contractNameIsFileName, .untestedCompilerVersion, .sourceEncoding,
    .missingSourceText, .reconstructedSource]

/-- A message for the person at the console. -/
structure Message where
  /-- Its weight. -/
  level : Level
  /-- Its full text. -/
  text : String
  /-- Whether it may be printed more than once. -/
  repeatable : Bool := false
  deriving DecidableEq, Repr

/-- A warning with the tag of its category. -/
def Message.warning (category : Category) (text : String) (repeatable : Bool := false) : Message :=
  ⟨.warning, "WARNING: " ++ text ++ " [" ++ category.code ++ "]", repeatable⟩

/-- The code that ends a terminal style. -/
def styleReset : String := "\x1b[0m"

/-- Text in a terminal style, which is taken up again after each reset inside the text. -/
def paint (style text : String) : String :=
  style ++ (text.replace styleReset (styleReset ++ style)) ++ styleReset

/-- A message as it is printed. -/
def Message.render (colored : Bool) (message : Message) : String :=
  match message.level.style with
  | some style => if colored then paint style message.text else message.text
  | none => message.text

/-- The state of the console. -/
structure Console where
  /-- Whether terminal styles are used. -/
  colored : Bool := false
  /-- Texts of the messages that are not to be printed again, the latest first. -/
  recorded : List String := []
  /-- What was printed so far, each piece with its channel. -/
  printed : List (Channel × String) := []
  deriving DecidableEq, Repr

namespace Console

/-- Prints a text as it is. -/
def print (console : Console) (channel : Channel) (text : String) : Console :=
  { console with printed := console.printed ++ [(channel, text)] }

/-- Whether a text was recorded. -/
def isRecorded (console : Console) (text : String) : Bool :=
  console.recorded.contains text

/-- Whether a message is to be printed. -/
def admits (console : Console) (message : Message) : Bool :=
  message.repeatable || !console.isRecorded message.text

/-- Records the text of a message that may not be repeated. -/
def record (console : Console) (message : Message) : Console :=
  if message.repeatable || console.isRecorded message.text then console
  else { console with recorded := message.text :: console.recorded }

/-- Prints a message on a line of its own, unless it must not be repeated and was printed before. -/
def post (console : Console) (message : Message) : Console :=
  if console.admits message then
    (console.record message).print .err (message.render console.colored ++ "\n")
  else console

/-- Posts messages in turn. -/
def postAll (console : Console) (messages : List Message) : Console :=
  messages.foldl post console

/-- All that was printed on a channel. -/
def text (console : Console) (channel : Channel) : String :=
  String.join ((console.printed.filter fun piece => piece.1 = channel).map Prod.snd)

end Console

/-- The default filter of the program's own trace for a number of verbosity flags. -/
def traceFilter (verbosity : Nat) : String :=
  match verbosity with
  | 0 => "warn"
  | 1 => "info"
  | 2 => "debug"
  | _ => "trace"

end SourceTrace
