import ChainHistory.ChainSpec
import ChainHistory.Indexer.Client
import ChainHistory.Indexer.Path
import ChainHistory.Json.Encoding
import ChainHistory.Query
import ChainHistory.Registry

namespace ChainHistory.Indexer

open Text

/-- The segments of the path of a call; the words between coin and identifier tell the calls
apart. -/
def segments (coin : String) : Call → List String
  | .tx address => [coin, "transactions", address]
  | .token address _ => [coin, "transactions", address]
  | .account account _ _ => [coin, "transactions", "account", account]
  | .xpub xpub => [coin, "transactions", "xpub", xpub]

def params : Call → List (String × String)
  | .tx _ => []
  | .token _ token => [("token", token)]
  | .account _ token limit =>
    ("limit", toString limit) :: match nonEmpty? token with
      | some t => [("token", t)]
      | none => []
  | .xpub _ => []

/-- What the indexer means by a bad request. -/
def invalidKind : Call → FailureKind
  | .xpub _ => .invalidKey
  | _ => .invalidAddress

/-- What a status outside the successful ones means. -/
def ofStatus (invalid : FailureKind) (status : Int) : Failure :=
  if status = 400 ∨ status = 422 then .reported invalid none
  else if status = 404 then .reported .notFound none
  else if 500 ≤ status ∨ status = 429 then .reported .sourceUnavailable none
  else .internal (.unexpectedStatus status)

/-- The request of a call. A client without a base URL is refused before the path is looked at. -/
def request (client : Client) (coin : String) (call : Call) : Except Failure Request :=
  match client.baseUrl with
  | none => .error (.internal .noBaseUrl)
  | some baseUrl =>
    match path? (segments coin call) with
    | none => .error (.reported (invalidKind call) none)
    | some path => .ok ⟨baseUrl, path, params call, nonEmpty? client.token⟩

/-- A body that is nested too deep gives up in words of its own. -/
def unreadable (path : String) : Json.ReadError → Failure
  | .malformed => .internal (.invalidJson path)
  | .tooDeep kind => .foreign "RecursionError"
    s!"maximum recursion depth exceeded while decoding a JSON {kind.name} from a unicode string"

/-- The documents of a body: an array, or the array under `docs` of an object. -/
def documents (path : String) (body : List UInt8) : Except Failure (List Json) :=
  match Json.ofBytes body with
  | .error e => .error (unreadable path e)
  | .ok (.arr items) => .ok items
  | .ok (.obj fields) =>
    match fields.lookup "docs" with
    | some (.arr items) => .ok items
    | _ => .error (.internal (.unexpectedPayload path))
  | .ok _ => .error (.internal (.unexpectedPayload path))

/-- The records of documents, each determined by its own document alone. -/
def recordsOf (coin : String) (coinId : Int) (docs : Json) : Except Failure (List Record) :=
  (Record.ofJson coinId docs).mapError fun e => .internal (.malformedRecord coin e)

/-- What a call makes of the reply to its request. -/
def interpret (coin : String) (coinId : Int) (call : Call) (path : String) :
    Reply → Except Failure (List Record)
  | .unreachable _ => .error (.reported .sourceUnavailable none)
  | .failed e => .error e
  | .response status body =>
    if 200 ≤ status ∧ status ≤ 299 then
      (documents path body).bind fun docs => recordsOf coin coinId (.arr docs)
    else .error (ofStatus (invalidKind call) status)

/-- Only a request that did not get through is logged here. -/
def replyLines (r : Request) : Reply → List LogLine
  | .unreachable words => [.warning s!"[UPSTREAM] Request to {r.url} failed: {words}"]
  | _ => []

/-- The indexer's behaviour: its reply to each request, by how many it had before. -/
abbrev Behaviour := Nat → Request → Reply

/-- Makes a call to the indexer by at most one message. A request that makes no message opens a
connection all the same. -/
def fetch (indexer : Behaviour) (client : Client) (p : Platform Unit) (call : Call) :
    StateM Conversation (Except Failure (List Record)) := fun c =>
  match request client p.coin call with
  | .error e => (.error e, c)
  | .ok r =>
    match Message.ofRequest r with
    | .error e => (.error e, c.connect)
    | .ok m =>
      let reply := m.receive (indexer c.sent.length r)
      (interpret p.coin p.coinId call r.path reply, (c.connect.send m).log (replyLines r reply))

/-- The platform of a configured chain, which can serve every call. -/
def platformOf (spec : ChainSpec) : Platform Unit :=
  ⟨spec.coin, spec.coinId, .every, ()⟩

/-- The registry of configured chains, each with the capabilities that are configured for it. -/
def registryOf (specs : List ChainSpec) :
    Except Registry.AlreadyRegistered (Registry Unit × List LogLine) :=
  Registry.registerAll {} (specs.map fun spec => (platformOf spec, some spec.capabilities))

end ChainHistory.Indexer
