import ChainHistory.Logging.Config
import ChainHistory.Number.Numeral

namespace ChainHistory

open Number Settings

/-- What the server is started with. -/
structure Launch where
  host : String
  port : Int
  logging : Logging.Config
  deriving DecidableEq

namespace Launch

inductive Error
  | badPort (e : NumeralError)
  | noLogDirectory (e : FileTree.DirectoryError)
  deriving DecidableEq

def Error.message : Error → String
  | badPort e => e.message
  | noLogDirectory e => e.message

/-- Reads where to listen and how to log. The port is not checked to be one. -/
def prepare (t : FileTree) (cwd : Path) (env : Variables) : Except Error (Launch × FileTree) := do
  let port ← (parseInt ((env.lookup "PORT").getD "8420")).mapError .badPort
  let (logging, t) ← (Logging.Config.ofVariables t cwd env).mapError .noLogDirectory
  return (⟨(env.lookup "HOST").getD "0.0.0.0", port, logging⟩, t)

end Launch

end ChainHistory
