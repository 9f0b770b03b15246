import TextScan.ControlSequence
import TextScan.Unicode.Lowercase

/-! Levels of a log and its lines. -/

namespace TextScan

inductive LogLevel where
  | error | warn | info | debug | trace
deriving DecidableEq

namespace LogLevel

/-- How much is told: a level with all those before it. -/
def rank : LogLevel → Nat
  | error => 1
  | warn => 2
  | info => 3
  | debug => 4
  | trace => 5

def name : LogLevel → String
  | error => "ERROR"
  | warn => "WARN"
  | info => "INFO"
  | debug => "DEBUG"
  | trace => "TRACE"

def all : List LogLevel := [error, warn, info, debug, trace]

/-- A line of a log about `subject`. Nothing in it steers a terminal, and a
sequence left open in the message hides the end of the line as well. -/
def line (level : LogLevel) (subject message : String) : String :=
  ControlSequence.visible ("[" ++ level.name ++ "] " ++ subject ++ ": " ++ message ++ "\n")

/-- Letter case does not matter, and unknown levels stand for warnings. -/
def ofText (s : String) : LogLevel :=
  let lower := Unicode.lowercase s.toList
  (all.find? fun l => Unicode.lowercase l.name.toList = lower).getD warn

end LogLevel

end TextScan
