import ChainHistory.Capability
import ChainHistory.LogLine
import ChainHistory.Number.Numeral
import ChainHistory.Text.Case

namespace ChainHistory

open Text Number

/-- A chain as the configuration names it. -/
structure ChainSpec where
  coin : String
  coinId : Int
  capabilities : Capabilities
  deriving DecidableEq

namespace ChainSpec

/-- Coin types of the chains that need no number in the configuration. -/
def knownCoinIds : List (String × Int) := [
  ("bitcoin", 0), ("litecoin", 2), ("dogecoin", 3), ("ethereum", 60), ("zcash", 133),
  ("cosmos", 118), ("ripple", 144), ("stellar", 148), ("tron", 195), ("near", 397),
  ("solana", 501), ("binance", 714), ("tezos", 1729)]

/-- Why an entry names no chain. -/
inductive EntryError
  | noCapabilityList (entry : String)
  | noCoin (entry : String)
  | badCoinId (e : NumeralError)
  | unknownCoin (coin : String)
  | unknownCapability (e : UnknownName)
  | noCapabilities (entry : String)
  deriving DecidableEq

def EntryError.message : EntryError → String
  | .noCapabilityList entry => s!"missing capability list in '{entry}'"
  | .noCoin entry => s!"missing coin name in '{entry}'"
  | .badCoinId e => e.message
  | .unknownCoin coin => s!"unknown coin '{coin}' needs an explicit id"
  | .unknownCapability e => e.message
  | .noCapabilities entry => s!"empty capability list in '{entry}'"

def stripLower (cs : List Char) : String :=
  lower (strip (String.ofList cs))

/-- Reads capability names with plus signs between them; blank names are passed over. -/
def readCapabilities (cs : List Char) : Except UnknownName Capabilities :=
  (((splitOn '+' cs).map stripLower).filter (· ≠ "")).mapM Capability.ofName
    |>.map Capabilities.ofList

/-- The number of a coin: the one written after the equals sign, or the known one. -/
def readCoinId (coin : String) (written : Option (List Char)) : Except EntryError Int :=
  let written := String.ofList (written.getD [])
  if !isBlankText written then (parseInt written).mapError .badCoinId
  else match knownCoinIds.lookup coin with
    | some n => .ok n
    | none => .error (.unknownCoin coin)

/-- The text before the first equals sign, and the text after it if there is one. -/
def cutNumber (head : List Char) : List Char × Option (List Char) :=
  match cut '=' head with
  | some (coin, number) => (coin, some number)
  | none => (head, none)

/-- Reads an entry of the form `coin=number:capability+capability`; the number may be left out for
a known coin. -/
def parseEntry (entry : String) : Except EntryError ChainSpec := do
  let some (head, names) := cut ':' entry.toList
    | throw (.noCapabilityList entry)
  let (coin, number) := cutNumber head
  let coin := stripLower coin
  if coin = "" then throw (.noCoin entry)
  let coinId ← readCoinId coin number
  let capabilities ← (readCapabilities names).mapError .unknownCapability
  if capabilities = .none then throw (.noCapabilities entry)
  return ⟨coin, coinId, capabilities⟩

/-- What became of an entry of the list. -/
inductive EntryOutcome
  | taken (spec : ChainSpec)
  | rejected (entry : String) (e : EntryError)
  | repeated (coin : String)
  deriving DecidableEq

/-- The entries between commas, without outer blanks; blank ones are passed over. -/
def entries (text : String) : List String :=
  ((splitOn ',' text.toList).map fun cs => strip (String.ofList cs)).filter (· ≠ "")

/-- What becomes of one entry after the coins in `seen`. -/
def judge (seen : List String) (entry : String) : EntryOutcome :=
  match parseEntry entry with
  | .error e => .rejected entry e
  | .ok spec => if spec.coin ∈ seen then .repeated spec.coin else .taken spec

/-- The outcomes of entries in order; the first entry of a coin that can be read is taken. -/
def outcomes (seen : List String) : List String → List EntryOutcome
  | [] => []
  | entry :: rest =>
    match judge seen entry with
    | .taken spec => .taken spec :: outcomes (spec.coin :: seen) rest
    | o => o :: outcomes seen rest

def EntryOutcome.spec? : EntryOutcome → Option ChainSpec
  | .taken spec => some spec
  | _ => none

def EntryOutcome.warning? : EntryOutcome → Option LogLine
  | .taken _ => none
  | .rejected entry e =>
    some (.warning s!"[REGISTRY] Skipping chain entry '{entry}': {e.message}")
  | .repeated coin =>
    some (.warning s!"[REGISTRY] Duplicate chain '{coin}', keeping the first entry.")

/-- The chains that a text lists, with a warning for each entry that gives none. -/
def parseList (text : String) : List ChainSpec × List LogLine :=
  let os := outcomes [] (entries text)
  (os.filterMap (·.spec?), os.filterMap (·.warning?))

end ChainSpec

end ChainHistory
