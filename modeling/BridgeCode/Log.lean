import BridgeCode.Value.Json

/-!
Log lines: levels, channels, scopes and colours.

A logger does not print. Each of its operations gives the lines it would print, none if the message
is below the logger's level.
-/

namespace BridgeCode

/-- Levels, from the chattiest on. -/
inductive LogLevel where
  | debug
  | info
  | warn
  | error
  | silent
deriving Repr, DecidableEq

namespace LogLevel

/-- The name of a level. -/
def name : LogLevel → String
  | .debug => "debug"
  | .info => "info"
  | .warn => "warn"
  | .error => "error"
  | .silent => "silent"

/-- The place of a level in their order. -/
def rank : LogLevel → Nat
  | .debug => 0
  | .info => 1
  | .warn => 2
  | .error => 3
  | .silent => 4

/-- All levels. -/
def all : List LogLevel := [.debug, .info, .warn, .error, .silent]

/-- The level of a name. -/
def ofName? (name : String) : Option LogLevel := all.find? (·.name == name)

end LogLevel

/-- The channels of an output. -/
inductive LogChannel where
  | log
  | warn
  | error
deriving Repr, DecidableEq

/-- The name of a channel. -/
def LogChannel.name : LogChannel → String
  | .log => "log"
  | .warn => "warn"
  | .error => "error"

/-- Where lines go. -/
inductive LogOutput where
  | console
  | named (name : String)
deriving Repr, DecidableEq

/-- A line to print. -/
structure LogLine where
  output : LogOutput
  channel : LogChannel
  text : String
deriving Repr, DecidableEq

/-! ## Colours -/

/-- Colours of log lines. -/
inductive Colour where
  | gray
  | blue
  | yellow
  | red
  | green
deriving Repr, DecidableEq

namespace Colour

/-- The terminal code that starts a colour. -/
def opening : Colour → List Char
  | .gray => "\x1b[90m".toList
  | .blue => "\x1b[34m".toList
  | .yellow => "\x1b[33m".toList
  | .red => "\x1b[31m".toList
  | .green => "\x1b[32m".toList

/-- The terminal code that ends any colour. -/
def closing : List Char := "\x1b[39m".toList

/-- A text in which the colour starts again after every end of a colour. -/
def reopen (colour : Colour) : List Char → List Char
  | '\x1b' :: '[' :: '3' :: '9' :: 'm' :: rest => closing ++ colour.opening ++ reopen colour rest
  | c :: rest => c :: reopen colour rest
  | [] => []

/-- A text in which the colour pauses over every line break. -/
def pauseAtBreaks (colour : Colour) : List Char → List Char
  | '\r' :: '\n' :: rest => closing ++ ['\r', '\n'] ++ colour.opening ++ pauseAtBreaks colour rest
  | '\n' :: rest => closing ++ ['\n'] ++ colour.opening ++ pauseAtBreaks colour rest
  | c :: rest => c :: pauseAtBreaks colour rest
  | [] => []

/-- A text in a colour. The empty text stays empty. -/
def paint (colour : Colour) (text : String) : String :=
  if text.isEmpty then text
  else
    String.ofList
      (colour.opening ++ colour.pauseAtBreaks (colour.reopen text.toList) ++ closing)

end Colour

/-! ## Loggers -/

/-- A logger. -/
structure Logger where
  level : LogLevel := .info
  /-- What lines are marked with, if anything. -/
  scope : String := ""
  output : LogOutput := .console
  coloured : Bool := false
deriving Repr

namespace Logger

/-- A message after the logger's scope. -/
def marked (logger : Logger) (message : String) : String :=
  if logger.scope.isEmpty then message else "[" ++ logger.scope ++ "] " ++ message

/-- The lines of a message and its detail at a level. -/
def emit (logger : Logger) (level : LogLevel) (channel : LogChannel) (colour : Colour)
    (line : String) (detail : Option String) : List LogLine :=
  if level.rank < logger.level.rank then []
  else
    (line :: detail.toList).map fun text =>
      { output := logger.output, channel,
        text := if logger.coloured then colour.paint text else text }

/-- Data as the text of a detail: text as it is, anything else as indented JSON. -/
def detailText : Value → String
  | .str text => text
  | data => data.jsonLines ""

/-- A message for those who look for a fault. -/
def debug (logger : Logger) (message : String) (data : Option Value) : List LogLine :=
  logger.emit .debug .log .gray ("[DEBUG] " ++ logger.marked message) (data.map detailText)

/-- A message for everyone. -/
def info (logger : Logger) (message : String) (data : Option Value) : List LogLine :=
  logger.emit .info .log .blue ("[INFO] " ++ logger.marked message) (data.map detailText)

/-- A warning. -/
def warn (logger : Logger) (message : String) (data : Option Value) : List LogLine :=
  logger.emit .warn .warn .yellow ("[WARN] " ++ logger.marked message) (data.map detailText)

/-- An error with what is known about it. -/
def error (logger : Logger) (message : String) (detail : Option String) : List LogLine :=
  logger.emit .error .error .red ("[ERROR] " ++ logger.marked message) detail

/-- The good end of a task. -/
def success (logger : Logger) (message : String) : List LogLine :=
  logger.emit .info .log .green ("✓ " ++ message) none

/-- The bad end of a task. -/
def fail (logger : Logger) (message : String) : List LogLine :=
  logger.emit .info .log .red ("✗ " ++ message) none

/-- A logger of the same level and output, its scope below this one's. -/
def child (logger : Logger) (scope : String) : Logger :=
  { logger with scope := if logger.scope.isEmpty then scope else logger.scope ++ ":" ++ scope }

end Logger

end BridgeCode
