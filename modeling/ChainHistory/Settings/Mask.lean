import ChainHistory.LogLine
import ChainHistory.Settings.ConfigFile
import ChainHistory.Text.Case

namespace ChainHistory.Settings

open Text

/-- The variables that the configuration may set. -/
def configKeys : List String := [
  "LOG_LEVEL", "LOG_DIR", "TX_PER_PAGE", "MEMO_MAX_LENGTH", "UPSTREAM_URL", "UPSTREAM_TOKEN",
  "UPSTREAM_TIMEOUT", "CHAINS"]

/-- Words in the name of a variable whose value must not be shown. -/
def sensitiveMarkers : List String := ["KEY", "TOKEN", "SECRET", "PASSWORD", "AUTH"]

def holdsWord (word : List Char) : List Char → Bool
  | [] => word.isEmpty
  | c :: cs => word.isPrefixOf (c :: cs) || holdsWord word cs

def isSensitive (name : String) : Bool :=
  sensitiveMarkers.any fun m => holdsWord m.toList (upper name).toList

/-- Line breaks become visible. -/
def escapeBreaks (cs : List Char) : List Char :=
  cs.flatMap fun c => if c = '\r' then ['\\', 'r'] else if c = '\n' then ['\\', 'n'] else [c]

/-- The value of a variable as it is logged. Of a sensitive one at most the first and the last two
characters are shown. -/
def mask (name value : String) : String :=
  let shown := escapeBreaks value.toList
  if !isSensitive name then String.ofList shown
  else if shown.length ≤ 4 then "****"
  else String.ofList (shown.take 2 ++ "...".toList ++ shown.drop (shown.length - 2))

/-- The lines that show the configuration. -/
def environmentLines (env : Variables) : List LogLine :=
  .info "[ENV] Logging configured environment variables (masked where needed)." ::
    configKeys.map fun key =>
      let value := match env.lookup key with
        | none => "<unset>"
        | some v => mask key v
      .info s!"[ENV] {key}={value}"

end ChainHistory.Settings
