/-
# Log records

A log record is a level and a message.  Records are values: whoever produces them hands them
over as a list, in order.
-/
import ArrowNotation.Text.Basic

namespace ArrowNotation

/-- How serious a record is, and the least level at which records are kept. -/
inductive LogLevel where
  | critical
  | fatal
  | error
  | warn
  | warning
  | info
  | debug
  | notset
  deriving DecidableEq

namespace LogLevel

/-- All levels that a setting may name. -/
def all : List LogLevel := [critical, fatal, error, warn, warning, info, debug, notset]

def name : LogLevel → Text
  | critical => "CRITICAL".toText
  | fatal => "FATAL".toText
  | error => "ERROR".toText
  | warn => "WARN".toText
  | warning => "WARNING".toText
  | info => "INFO".toText
  | debug => "DEBUG".toText
  | notset => "NOTSET".toText

end LogLevel

/-- A level and a message. -/
structure LogRecord where
  level : LogLevel
  message : Text
  deriving DecidableEq

end ArrowNotation
