import ChainHistory.FileTree
import ChainHistory.Json.Basic
import ChainHistory.Settings.ConfigFile
import ChainHistory.Text.Case

namespace ChainHistory.Logging

open Text Settings

/-- How the service logs: from which level on, and into which file besides the console. -/
structure Config where
  level : String
  file : Option String
  deriving DecidableEq

namespace Config

def fileName : String := "tx-atlas.log"

def lineFormat : String := "%(asctime)s - %(name)s - %(levelname)s - %(message)s"

/-- Reads the level and the directory of the log file, which is made if it is not there. -/
def ofVariables (t : FileTree) (cwd : Path) (env : Variables) :
    Except FileTree.DirectoryError (Config × FileTree) :=
  let level := upper ((env.lookup "LOG_LEVEL").getD "INFO")
  match nonEmpty? (env.lookup "LOG_DIR") with
  | none => .ok (⟨level, none⟩, t)
  | some dir => do
    let t ← t.makeDirectories cwd dir
    return (⟨level, some (Path.join dir fileName)⟩, t)

/-- Every logger writes to the console, and to the file if there is one. -/
def handlerNames (c : Config) : List String :=
  match c.file with
  | none => ["console"]
  | some _ => ["console", "file"]

def handlersJson (c : Config) : Json :=
  let console := ("console", .obj [
    ("class", .str "logging.StreamHandler"),
    ("stream", .str "ext://sys.stdout"),
    ("formatter", .str "colour")])
  .obj (console :: match c.file with
    | none => []
    | some f => [("file", .obj [
        ("class", .str "logging.FileHandler"),
        ("filename", .str f),
        ("formatter", .str "plain")])])

/-- A logger of a library underneath, which does not pass its lines on. -/
def libraryLogger (handlers : Json) (level : String) : Json :=
  .obj [("handlers", handlers), ("level", .str level), ("propagate", .bool false)]

/-- The configuration as a document. The console colours its lines and the file does not. -/
def toJson (c : Config) : Json :=
  let handlers := Json.arr (c.handlerNames.map .str)
  .obj [
    ("version", .int 1),
    ("disable_existing_loggers", .bool false),
    ("formatters", .obj [
      ("colour", .obj [
        ("()", .str "tx_atlas.logger.ColourizedFormatter"),
        ("format", .str lineFormat)]),
      ("plain", .obj [("format", .str lineFormat)])]),
    ("handlers", c.handlersJson),
    ("loggers", .obj [
      ("", .obj [("handlers", handlers), ("level", .str c.level)]),
      ("uvicorn", libraryLogger handlers "INFO"),
      ("uvicorn.error", libraryLogger handlers "INFO"),
      ("uvicorn.access", libraryLogger handlers "INFO"),
      ("httpx", libraryLogger handlers "WARNING")])]

end Config

end ChainHistory.Logging
