import ChainHistory.Record.Reader
import ChainHistory.Text.Blank

namespace ChainHistory

/-- The kinds of failure that the indexer's side can report. -/
inductive FailureKind
  | invalidAddress
  | invalidKey
  | notFound
  | sourceUnavailable
  | internal
  deriving DecidableEq

namespace FailureKind

def all : List FailureKind := [invalidAddress, invalidKey, notFound, sourceUnavailable, internal]

def name : FailureKind → String
  | invalidAddress => "invalid_address"
  | invalidKey => "invalid_key"
  | notFound => "not_found"
  | sourceUnavailable => "source_unavailable"
  | internal => "internal"

def ofName? (s : String) : Option FailureKind :=
  all.find? (·.name = s)

def defaultMessage : FailureKind → String
  | invalidAddress => "invalid address"
  | invalidKey => "invalid key"
  | notFound => "not found"
  | sourceUnavailable => "source is unavailable"
  | internal => "internal error"

end FailureKind

/-- Why a query fails though whoever asked could not have asked it better. -/
inductive InternalCause
  | noBaseUrl
  | unexpectedStatus (status : Int)
  | invalidJson (path : String)
  | unexpectedPayload (path : String)
  | malformedRecord (coin : String) (fault : Record.DocumentFault)
  deriving DecidableEq

def InternalCause.message : InternalCause → String
  | noBaseUrl => "upstream URL is not configured"
  | unexpectedStatus status => s!"upstream returned HTTP {status}"
  | invalidJson path => s!"upstream returned invalid JSON for {path}"
  | unexpectedPayload path => s!"upstream returned unexpected payload for {path}"
  | malformedRecord coin fault =>
    s!"malformed transaction from upstream for {coin}: {fault.message}"

/-- What stops a query. -/
inductive Failure
  /-- A failure of a known kind, in its own words if it has any. -/
  | reported (kind : FailureKind) (words : Option String)
  /-- A failure on the indexer's side that gives no kind. -/
  | unclassified (words : Option String)
  | internal (cause : InternalCause)
  | noCapability (coin : String) (capability : String)
  | unknownCoin (coin : String)
  /-- A failure of the service that is none of the others. -/
  | general (words : String)
  | unsupportedQuery (kind : String)
  /-- A failure of a library underneath, with the name of its kind and its words. -/
  | foreign (name : String) (words : String)
  deriving DecidableEq

namespace Failure

/-- The kind, for a failure on the indexer's side. -/
def kind? : Failure → Option FailureKind
  | reported kind _ => some kind
  | unclassified _ => some .internal
  | internal _ => some .internal
  | noCapability _ _ => some .internal
  | _ => none

/-- Own words, or the usual ones if there are none. -/
def wordsOr (kind : FailureKind) (words : Option String) : String :=
  match Text.nonEmpty? words with
  | some w => w
  | none => kind.defaultMessage

def message : Failure → String
  | reported kind words => wordsOr kind words
  | unclassified words => wordsOr .internal words
  | internal cause => cause.message
  | noCapability coin capability =>
    s!"no capability for this coin: {coin} does not support {capability}"
  | unknownCoin coin => s!"unknown coin: {coin}"
  | general words => words
  | unsupportedQuery kind => s!"Unsupported query type: {kind}"
  | foreign _ words => words

/-- What stands in for words when a failure has none. -/
def label : Failure → String
  | general _ => "TxAtlasError"
  | foreign name _ => name
  | e => e.message

end Failure

end ChainHistory
