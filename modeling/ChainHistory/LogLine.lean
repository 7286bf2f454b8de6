namespace ChainHistory

inductive LogLevel
  | info
  | warning
  | error
  deriving DecidableEq

def LogLevel.name : LogLevel → String
  | info => "INFO"
  | warning => "WARNING"
  | error => "ERROR"

/-- A line that a part of the service logs. -/
structure LogLine where
  level : LogLevel
  text : String
  deriving DecidableEq

namespace LogLine

def info (text : String) : LogLine := ⟨.info, text⟩

def warning (text : String) : LogLine := ⟨.warning, text⟩

def error (text : String) : LogLine := ⟨.error, text⟩

end LogLine

end ChainHistory
