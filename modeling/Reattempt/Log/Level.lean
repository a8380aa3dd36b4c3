/-! Log levels. The five usual ones have names; any other number is a level without
one. -/

namespace Reattempt

structure LogLevel where
  value : Int
  deriving DecidableEq, Repr

namespace LogLevel

def debug : LogLevel := ⟨10⟩
def info : LogLevel := ⟨20⟩
def warning : LogLevel := ⟨30⟩
def error : LogLevel := ⟨40⟩
def critical : LogLevel := ⟨50⟩

def named : List (LogLevel × String) :=
  [(debug, "DEBUG"), (info, "INFO"), (warning, "WARNING"), (error, "ERROR"),
   (critical, "CRITICAL")]

def name (level : LogLevel) : String :=
  match named.find? fun entry => entry.1 = level with
  | some (_, name) => name
  | none => s!"Level {level.value}"

def ofName? (name : String) : Option LogLevel :=
  (named.find? fun entry => entry.2 = name).map Prod.fst

/-- Records below the threshold are dropped, and so are all whose level is not
positive. -/
def passes (level threshold : LogLevel) : Bool :=
  0 < level.value && threshold.value ≤ level.value

end LogLevel

end Reattempt
