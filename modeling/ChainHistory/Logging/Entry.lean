import ChainHistory.Text.Quoted

namespace ChainHistory.Logging

open Text

/-- A line as it is handed to a formatter. -/
structure Entry where
  name : String
  level : Int
  levelName : String
  message : String
  deriving DecidableEq

/-- The levels that have a name. -/
def levelNames : List (Int × String) := [
  (0, "NOTSET"), (10, "DEBUG"), (20, "INFO"), (30, "WARNING"), (40, "ERROR"), (50, "CRITICAL")]

def levelName (level : Int) : String :=
  (levelNames.lookup level).getD s!"Level {level}"

/-- Terminal colours of the levels that have one. -/
def levelColours : List (Int × String) := [
  (10, "\x1b[90m"), (20, "\x1b[32m"), (30, "\x1b[33m"), (40, "\x1b[31m"), (50, "\x1b[31;1m")]

def resetColour : String := "\x1b[0m"

namespace Entry

/-- The entry with the name of its level in colour. -/
def coloured (e : Entry) : Entry :=
  match levelColours.lookup e.level with
  | none => e
  | some colour => { e with levelName := colour ++ e.levelName ++ resetColour }

/-- What a field stands for. Without a name it is the whole entry, or nothing is left for it once
another field was filled. -/
inductive Value
  | text (s : String)
  | number (n : Int)
  /-- A field that is there and holds nothing. -/
  | nothing
  | whole (s : String)
  | absent

/-- The fields of an entry with their values, in brackets; those of the place where it arose are
left out. -/
def summary (e : Entry) : String :=
  "\x7b" ++ s!"'name': {quoted e.name}, 'msg': {quoted e.message}, 'args': (), " ++
    s!"'levelname': {quoted e.levelName}, 'levelno': {e.level}" ++ "\x7d"

def field? (e : Entry) : String → Option Value
  | "name" => some (.text e.name)
  | "levelname" => some (.text e.levelName)
  | "levelno" => some (.number e.level)
  | "message" | "msg" => some (.text e.message)
  | "exc_info" | "exc_text" | "stack_info" => some .nothing
  | _ => none

end Entry

end ChainHistory.Logging
