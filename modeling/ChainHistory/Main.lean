import ChainHistory.Json.Printer
import ChainHistory.Launch

open ChainHistory

/-- The variables that the launch reads, as far as the process has them. -/
def processVariables : IO Settings.Variables := do
  let mut found := []
  for name in ["HOST", "PORT", "LOG_LEVEL", "LOG_DIR"] do
    if let some value ← IO.getEnv name then
      found := found ++ [(name, value)]
  return found

/-- Prints what the server is started with. -/
def main : IO UInt32 := do
  match Launch.prepare {} [] (← processVariables) with
  | .error e =>
    IO.eprintln e.message
    return 1
  | .ok (launch, _) =>
    IO.println (Json.obj [
      ("host", .str launch.host),
      ("port", .int launch.port),
      ("log_config", launch.logging.toJson)]).render
    return 0
