import ChainHistory.FileTree
import ChainHistory.Settings.Dotenv
import ChainHistory.Settings.Mask

namespace ChainHistory.Settings

open Text

def configFileName : String := "config.yaml"

def dotenvFileName : String := ".env"

/-- A place and those above it, nearest first. -/
def ancestors (p : Path) : List Path :=
  (List.range (p.length + 1)).reverse.map p.take

/-- The file with assignments: the one in the configuration's directory, else the nearest one at or
above the working directory. -/
def dotenvPath? (t : FileTree) (cwd : Path) (env : Variables) : Option Path :=
  match nonEmpty? (env.lookup "CONFIG_DIR") with
  | some dir => t.find? cwd (Path.join dir dotenvFileName) <|> nearest
  | none => nearest
where
  nearest := ((ancestors cwd).map (· ++ [dotenvFileName])).find? t.isFile

/-- The configuration file as it is written: in its directory if one is named, else under `config`,
else in the working directory. It need not be there. -/
def configFile (t : FileTree) (cwd : Path) (env : Variables) : String :=
  match nonEmpty? (env.lookup "CONFIG_DIR") with
  | some dir => Path.join dir configFileName
  | none =>
    let nested := Path.join "config" configFileName
    if (t.find? cwd nested).isSome then nested else configFileName

/-- Why the environment cannot be read. -/
inductive LoadError
  | notText (e : Utf8.Error)
  | isDirectory (path : String)
  /-- A name or value holds the character that ends texts in the process. -/
  | holdsNull
  | illegalName
  deriving DecidableEq

def LoadError.message : LoadError → String
  | notText e => e.message
  | isDirectory path => s!"[Errno 21] Is a directory: {quoted path}"
  | holdsNull => "embedded null byte"
  | illegalName => "illegal environment variable name"

/-- Sets a variable that is not set. -/
def setNew (name value : String) (env : Variables) : Except LoadError Variables :=
  if (env.lookup name).isSome then .ok env
  else if '\x00' ∈ name.toList ++ value.toList then .error .holdsNull
  else if '=' ∈ name.toList then .error .illegalName
  else .ok (Assoc.putNew name value env)

/-- Sets the variables that have a value and are not set. -/
def applyAssignments (assignments : List (String × Option String)) (env : Variables) :
    Except LoadError Variables :=
  assignments.foldlM (fun env a => match a.2 with
    | some v => setNew a.1 v env
    | none => .ok env) env

/-- Sets those of the configuration's own variables that are not set and stand in the file. -/
def applyConfig (values : Variables) (env : Variables) : Except LoadError Variables :=
  configKeys.foldlM (fun env key => match values.lookup key with
    | some v => setNew key v env
    | none => .ok env) env

/-- The environment after the files were read. -/
structure Environment where
  vars : Variables
  configPath : Path
  configValues : Variables

/-- The settings in the configuration file, none if it is not there. -/
def readConfig (t : FileTree) (cwd : Path) (file : String) : Except LoadError Variables :=
  match t.find? cwd file with
  | none => .ok []
  | some p =>
    match t.read? p with
    | none => .error (.isDirectory file)
    | some bs => (ConfigFile.ofBytes bs).mapError .notText

/-- The assignments, none if their file is not there or must not be read. -/
def readAssignments (t : FileTree) (cwd : Path) (process : Variables) :
    Except LoadError (List (String × Option String)) :=
  if Dotenv.isDisabled process then .ok []
  else match (dotenvPath? t cwd process).bind t.read? with
    | none => .ok []
    | some bs =>
      let read := fun cs => Dotenv.values process (unifyBreaks (Dotenv.dropMark cs))
      ((Utf8.decode bs).map read).mapError .notText

/-- Reads both files. The process comes before assignments, and these before the configuration. -/
def Environment.load (t : FileTree) (cwd : Path) (process : Variables) :
    Except LoadError Environment := do
  let assignments ← readAssignments t cwd process
  let env ← applyAssignments assignments process
  let file := configFile t cwd env
  let values ← readConfig t cwd file
  let env ← applyConfig values env
  return ⟨env, Path.resolve cwd file, values⟩

end ChainHistory.Settings
