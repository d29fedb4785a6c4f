import FloatingAddress.Text.Blank
import FloatingAddress.Text.Case

/-!
# Log levels

A message has a level, and a filter decides from which level on messages are shown. At the start
the filter comes from the environment; later it follows the level that the options name.
-/

namespace FloatingAddress

/-- The weight of a log message. -/
inductive LogLevel
  | trace | debug | info | warn | error
deriving DecidableEq, Repr

namespace LogLevel

def gravity : LogLevel → Nat
  | trace => 0
  | debug => 1
  | info => 2
  | warn => 3
  | error => 4

def name : LogLevel → String
  | trace => "trace"
  | debug => "debug"
  | info => "info"
  | warn => "warn"
  | error => "error"

/-- The name of a level at the front of a log line. -/
def label : LogLevel → String
  | trace => "TRACE"
  | debug => "DEBUG"
  | info => "INFO"
  | warn => "WARN"
  | error => "ERROR"

def all : List LogLevel := [trace, debug, info, warn, error]

/-- The level with a lower-case name. -/
def ofName? (s : String) : Option LogLevel := all.find? (·.name = s)

/-- The level that an option value names; blanks around it and letter case do not matter, and an
unknown name means the level `info`. -/
def ofOption (s : String) : LogLevel :=
  let name := Text.lowerAscii (Text.trim s)
  if name = "warning" then warn else (ofName? name).getD info

end LogLevel

/-- The least level that is shown; without one, nothing is shown. -/
structure LogFilter where
  least : Option LogLevel
deriving DecidableEq, Repr

namespace LogFilter

/-- Show a level and all graver ones. -/
def atLeast (level : LogLevel) : LogFilter := ⟨some level⟩

def shows (filter : LogFilter) (level : LogLevel) : Bool :=
  match filter.least with
  | none => false
  | some least => least.gravity ≤ level.gravity

/-- The filters that a level of the environment can name, by name or by number. -/
def named : List (List String × LogFilter) :=
  [(["off", "0"], ⟨none⟩), (["error", "1", ""], atLeast .error), (["warn", "2"], atLeast .warn),
   (["info", "3"], atLeast .info), (["debug", "4"], atLeast .debug), (["trace", "5"], atLeast .trace)]

/-- Whether a text names a part of some program, to which a level could be given. -/
def isTarget (s : String) : Bool :=
  s.toList.all fun c => c.isAlphanum || c = '_' || c = '-' || c = ':' || 0x7F < c.toNat

/-- The filter at the start. Without a setting, and with one that cannot be read, it shows `info`
and what is graver. A setting that names a part of another program shows that part only. -/
def ofEnvironment (setting : Option String) : LogFilter :=
  match setting with
  | none => atLeast .info
  | some s =>
    match named.find? fun entry => Text.lowerAscii s ∈ entry.1 with
    | some entry => entry.2
    | none => if isTarget s then ⟨none⟩ else atLeast .info

end LogFilter

end FloatingAddress
