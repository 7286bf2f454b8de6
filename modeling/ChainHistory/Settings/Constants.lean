import ChainHistory.LogLine
import ChainHistory.Number.Real
import ChainHistory.Settings.ConfigFile

namespace ChainHistory

open Number Text

/-- What the service reads from its environment once. -/
structure Settings where
  logDir : Option String := none
  configDir : Option String := none
  pageSize : Int := 25
  memoLength : Int := 256
  indexerUrl : Option String := none
  indexerToken : Option String := none
  indexerTimeout : Binary64 := .ofInt 30
  chains : String := ""

namespace Settings

/-- The integer that a variable holds. One that is unset or empty has the default; one that holds
something else, or less than the least, is given the default with a warning. -/
def readInt (name : String) (default : Int) (least : Option Int) (raw : Option String) :
    Int × List LogLine :=
  match nonEmpty? raw with
  | none => (default, [])
  | some text =>
    match parseInt text with
    | .error _ =>
      (default, [.warning s!"[ENV] Invalid {name}='{text}', using default {default}."])
    | .ok n =>
      match least with
      | none => (n, [])
      | some least =>
        if n < least then
          (default, [.warning
            s!"[ENV] {name}='{text}' below minimum {least}, using default {default}."])
        else (n, [])

/-- The number that a variable holds, under the same rule. -/
def readReal (name : String) (default : Binary64) (raw : Option String) :
    Binary64 × List LogLine :=
  match nonEmpty? raw with
  | none => (default, [])
  | some text =>
    match parseReal text with
    | some x => (x, [])
    | none =>
      (default,
        [.warning s!"[ENV] Invalid {name}='{text}', using default {default.hundredths}."])

/-- Reads the settings. A page and a memo have room for one at least. -/
def ofVariables (env : Variables) : Settings × List LogLine :=
  let d : Settings := {}
  let (pageSize, l₁) := readInt "TX_PER_PAGE" d.pageSize (some 1) (env.lookup "TX_PER_PAGE")
  let (memoLength, l₂) :=
    readInt "MEMO_MAX_LENGTH" d.memoLength (some 1) (env.lookup "MEMO_MAX_LENGTH")
  let (timeout, l₃) :=
    readReal "UPSTREAM_TIMEOUT" d.indexerTimeout (env.lookup "UPSTREAM_TIMEOUT")
  ({ logDir := env.lookup "LOG_DIR"
     configDir := env.lookup "CONFIG_DIR"
     pageSize := pageSize
     memoLength := memoLength
     indexerUrl := env.lookup "UPSTREAM_URL"
     indexerToken := env.lookup "UPSTREAM_TOKEN"
     indexerTimeout := timeout
     chains := (env.lookup "CHAINS").getD "" },
    l₁ ++ l₂ ++ l₃)

end Settings

end ChainHistory
