/-
# Settings and start

The settings of the service, read from environment variables: where the samples lie, which
origins may call the service, and which log records are kept.  A variable that is absent leaves
its setting at the default; one that is empty is there.

When it starts, the service notes the connectors it knows and the samples it offers.
-/
import ArrowNotation.LogRecord
import ArrowNotation.Samples.Directory

namespace ArrowNotation

/-- The environment variables that matter, where they are set. -/
structure Environment where
  samplesDirectory : Option Text
  origins : Option Text
  logLevel : Option Text

/-- Whether there can be such an environment, that is, no variable holds a null character. -/
def Environment.isPossible (e : Environment) : Bool :=
  [e.samplesDirectory, e.origins, e.logLevel].all fun value => !(value.getD []).contains Text.null

/-- The settings of the service; no samples directory stands for the one that comes with the
service. -/
structure Settings where
  samplesDirectory : Option FilePath
  origins : List Text
  logLevel : LogLevel

namespace Settings

/-! ## 1. Log levels -/

/-- A character in capitals, as far as a level name can tell: of all characters only the letters
`a` to `z`, the dotless i and the long s have an upper-case form that is one of the letters `A`
to `Z`.  The forms of several letters, such as that of the sharp s, spell nothing that occurs in
a level name. -/
def capital (c : CodePoint) : CodePoint :=
  if c = 'ı' then 'I'
  else if c = 'ſ' then 'S'
  else if 0x61 ≤ c.toNat ∧ c.toNat ≤ 0x7A then .ofNat (c.toNat - 0x20)
  else c

/-- The level that a text names, blanks around it and letter case aside. -/
def logLevelOf? (t : Text) : Option LogLevel :=
  let name := (Text.trim t).map capital
  LogLevel.all.find? fun level => level.name = name

/-- The level of the records that are kept where no other is named. -/
def defaultLogLevel : LogLevel := .info

/-- The record about a text that names no level. -/
def unknownLevel (t : Text) : LogRecord where
  level := .warning
  message := "Unknown ARROWDIAGRAM_LOG_LEVEL ".toText ++ Text.quoted t
    ++ ", falling back to ".toText ++ defaultLogLevel.name

/-! ## 2. Origins -/

/-- The origin that may call the service where none is set. -/
def defaultOrigins : Text := "http://localhost:5173".toText

/-- The origins that a text lists, with commas between them; blanks around an origin and empty
places do not count. -/
def originsOf (t : Text) : List Text :=
  ((Text.splitAt ',' t).map Text.trim).filter fun origin => origin ≠ []

/-! ## 3. All settings -/

/-- The settings that the environment asks for. -/
def ofEnvironment (e : Environment) : Settings where
  samplesDirectory := e.samplesDirectory.map FilePath.ofText
  origins := originsOf (e.origins.getD defaultOrigins)
  logLevel := (e.logLevel.bind logLevelOf?).getD defaultLogLevel

/-- What the reading of the settings notes. -/
def log (e : Environment) : List LogRecord :=
  match e.logLevel with
  | some t => if (logLevelOf? t).isNone then [unknownLevel t] else []
  | none => []

end Settings

/-! ## 4. Start -/

/-- The log records of a start, where `path` is how the directory of the samples is written. -/
def startupLog (d : SampleDirectory) (path : Text) : List LogRecord :=
  [⟨.info, "Arrow notation connectors: ".toText
      ++ Text.quotedList (Connector.all.map Connector.token)⟩,
    match d.directory? with
    | some _ => ⟨.info, "Available sample diagrams: ".toText ++ Text.quotedList d.names⟩
    | none => ⟨.warning, "Samples directory does not exist: ".toText ++ path⟩]

end ArrowNotation
