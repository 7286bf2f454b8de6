import ChainHistory.Service
import ChainHistory.Text.Split

namespace ChainHistory.Http

open Text

/-- What a route leads to. -/
inductive Operation
  | health
  | chains
  | capabilities
  | query (kind : IdentifierKind)
  deriving DecidableEq

/-- A segment of a template: a word that stands there, or any segment that is not empty. -/
inductive Piece
  | word (w : String)
  | parameter
  deriving DecidableEq

structure Route where
  operation : Operation
  pieces : List Piece

/-- The routes, whose parameters are a coin and an identifier in this order. The pages that document
them are left out: `/docs`, `/docs/oauth2-redirect`, `/redoc` and `/openapi.json`. -/
def routes : List Route := [
  ⟨.health, [.word "health"]⟩,
  ⟨.chains, [.word "v2", .word "chains"]⟩,
  ⟨.capabilities, [.word "v2", .parameter, .word "capabilities"]⟩,
  ⟨.query .address, [.word "v2", .parameter, .word "transactions", .parameter]⟩,
  ⟨.query .address, [.word "v1", .parameter, .parameter]⟩,
  ⟨.query .account,
    [.word "v2", .parameter, .word "transactions", .word "account", .parameter]⟩,
  ⟨.query .xpub,
    [.word "v2", .parameter, .word "transactions", .word "xpub", .parameter]⟩]

/-- The parameters of segments that fit some pieces. A line feed may follow a word that ends the
path. -/
def matchPieces : List Piece → List (List Char) → Option (List String)
  | [], [] => some []
  | .word w :: ps, s :: ss =>
    if s = w.toList ∨ (ps.isEmpty ∧ s = w.toList ++ ['\n']) then matchPieces ps ss else none
  | .parameter :: ps, s :: ss =>
    if s.isEmpty then none else (matchPieces ps ss).map (String.ofList s :: ·)
  | _, _ => none

/-- The segments of a path that begins with a slash. -/
def pathSegments : List Char → Option (List (List Char))
  | '/' :: cs => some (splitOn '/' cs)
  | _ => none

def Route.match? (path : List Char) (r : Route) : Option (List String) :=
  (pathSegments path).bind (matchPieces r.pieces)

/-- The path of a route with its parameters filled in. -/
def Route.fill (r : Route) (parameters : List String) : List Char :=
  go r.pieces parameters
where
  go : List Piece → List String → List Char
    | [], _ => []
    | .word w :: ps, params => '/' :: w.toList ++ go ps params
    | .parameter :: ps, p :: params => '/' :: p.toList ++ go ps params
    | .parameter :: ps, [] => '/' :: go ps []

/-- The first route of a path and its parameters. -/
def findRoute? (path : List Char) : Option (Operation × List String) :=
  routes.findSome? fun r => (r.match? path).map (r.operation, ·)

end ChainHistory.Http
