import ChainHistory.Http.Exchange
import ChainHistory.Http.Route
import ChainHistory.Indexer.Remote
import ChainHistory.ResponseClass
import ChainHistory.Settings.Constants
import ChainHistory.Settings.Mask

namespace ChainHistory.Http

open Indexer

/-- The service behind its routes, and the client by which it asks the indexer. -/
structure App where
  client : Client
  service : Service Unit

namespace App

def startLines (s : Settings) (specs : List ChainSpec) (size : Nat)
    (parsed registered : List LogLine) : List LogLine :=
  (if (Text.nonEmpty? s.indexerUrl).isNone then
    [.warning "UPSTREAM_URL not set. Every transaction query will fail as internal error."]
    else []) ++ parsed ++
  (if specs.isEmpty then
    [.warning "CHAINS not set or empty. No chain integrations registered."]
    else []) ++ registered ++
  [.info s!"Services initialized: {size} chain(s), page size {s.pageSize}."]

/-- Starts the service on the chains of its settings. -/
def start (env : Settings.Variables) (s : Settings) :
    Except Registry.AlreadyRegistered (App × List LogLine) := do
  let (specs, parsed) := ChainSpec.parseList s.chains
  let (registry, registered) ← registryOf specs
  let client := Client.make ⟨s.indexerUrl, s.indexerToken, s.indexerTimeout⟩ none none none
  return (⟨client, ⟨registry, s.pageSize, s.memoLength⟩⟩,
    .info "Initializing services..." :: Settings.environmentLines env ++
      startLines s specs registry.size parsed registered)

def stopLines : List LogLine := [.info "Service shutting down."]

/-- The line for a failed query; its level tells whose fault it is. -/
def failureLine (context : String) (m : MappedFailure) : LogLine :=
  match m.classification with
  | .internalError => .error s!"[QUERY] {context} failed: {m.message}"
  | .serviceUnavailable => .error s!"[QUERY] {context} failed, upstream unavailable: {m.message}"
  | c => .warning s!"[QUERY] {context} rejected ({c.name}): {m.message}"

/-- The response to a failure, and the one line that is logged for it. -/
def refuse (context : String) (e : Failure) : Response × LogLine :=
  let m := MappedFailure.ofFailure e
  (.error m.statusCode m.message, failureLine context m)

def kindWord : IdentifierKind → String
  | .address => "address"
  | .account => "account"
  | .xpub => "xpub"

/-- Answers and logs a failure, or answers what was found. -/
def respond (context : String) (result : Except Failure Json) :
    StateM Conversation Response := fun c =>
  match result with
  | .ok body => (.ok body, c)
  | .error e =>
    let (response, line) := refuse context e
    (response, c.log [line])

def capabilitiesJson (p : Platform Unit) (s : CapabilitySet) : Json :=
  .obj [
    ("coin", .str p.coin),
    ("coin_id", .int p.coinId),
    ("capabilities", .arr (s.supported.toList.map fun c => .str c.name))]

def serveCapabilities (app : App) (coin : String) : StateM Conversation Response :=
  respond s!"{coin} capabilities" do
    let p ← app.service.registry.get coin
    let s ← app.service.registry.capabilities coin
    return capabilitiesJson p s

def serveQuery (indexer : Behaviour) (app : App) (i : Inquiry) :
    StateM Conversation Response := do
  let result ← app.service.answer (fetch indexer app.client) i
  respond s!"{i.coin} {kindWord i.kind} query" (result.map (·.toJson))

/-- Runs the operation of a route with the parameters of the path and the token of the query. -/
def serve (indexer : Behaviour) (app : App) (token : Option String) :
    Operation → List String → StateM Conversation Response
  | .health, _ =>
    pure (.ok (.obj [("status", .str "ok"), ("chains", .int app.service.registry.size)]))
  | .chains, _ => pure (.ok (.arr (app.service.registry.coins.map .str)))
  | .capabilities, coin :: _ => serveCapabilities app coin
  | .query kind, coin :: identifier :: _ =>
    serveQuery indexer app ⟨kind, coin, some identifier, token⟩
  | _, _ => pure .notFound

/-- Answers a request. A path that only another slash keeps from a route is redirected there;
before the service is started every route answers that it is not. The paths of the documentation,
for which there is no route here, are answered as not found. -/
def handle (indexer : Behaviour) (app : Option App) (r : Request) :
    StateM Conversation Response :=
  match findRoute? r.path with
  | some (operation, parameters) =>
    if r.method ≠ "GET" then pure .methodNotAllowed
    else match app with
      | none => pure .notInitialized
      | some app => serve indexer app r.token? operation parameters
  | none =>
    if r.path ≠ ['/'] && (findRoute? (otherSlash r.path)).isSome then
      pure (.redirect r (otherSlash r.path))
    else pure .notFound

end App

end ChainHistory.Http
