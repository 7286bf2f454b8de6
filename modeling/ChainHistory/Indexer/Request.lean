import ChainHistory.Failure

namespace ChainHistory.Indexer

/-- A request to the indexer; `path` is relative to `baseUrl`. -/
structure Request where
  baseUrl : String
  path : String
  params : List (String × String)
  /-- The bearer token, if there is one. -/
  bearer : Option String
  deriving DecidableEq

namespace Request

def url (r : Request) : String := s!"{r.baseUrl}/{r.path}"

def accept : String := "application/json"

def authorization (r : Request) : Option String :=
  r.bearer.map ("Bearer " ++ ·)

end Request

/-- What comes of a request. -/
inductive Reply
  | response (status : Int) (body : List UInt8)
  /-- The indexer was not reached, or the exchange broke off. -/
  | unreachable (words : String)
  /-- Another failure of the exchange. -/
  | failed (e : Failure)

/-- The failures of an exchange that count as the indexer not being reached. -/
def transportFailures : List String := [
  "ConnectError", "ConnectTimeout", "ReadTimeout", "WriteTimeout", "PoolTimeout", "ReadError",
  "WriteError", "CloseError", "ProxyError", "UnsupportedProtocol", "LocalProtocolError",
  "RemoteProtocolError", "TransportError", "NetworkError", "TimeoutException", "ProtocolError"]

def Reply.ofFailure (e : Failure) : Reply :=
  match e with
  | .foreign name words => if name ∈ transportFailures then .unreachable words else .failed e
  | e => .failed e

end ChainHistory.Indexer
