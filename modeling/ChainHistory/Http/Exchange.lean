import ChainHistory.Json.Basic
import ChainHistory.Text.Blank
import ChainHistory.Text.Form

namespace ChainHistory.Http

open Text

/-- A request to the service: its method, the scheme and host it was sent to, and its target. -/
structure Request where
  method : String
  origin : String
  target : String
  deriving DecidableEq

namespace Request

/-- The path with its escapes resolved. -/
def path (r : Request) : List Char :=
  Percent.decode (r.target.toList.takeWhile (· ≠ '?'))

/-- The query as it was sent, empty if there is none. -/
def query (r : Request) : List Char :=
  (r.target.toList.dropWhile (· ≠ '?')).drop 1

def token? (r : Request) : Option String :=
  lastValue? "token" (formFields r.query)

end Request

/-- What is answered; a redirection has no body. -/
structure Response where
  status : Nat
  body : Option Json := none
  allow : Option String := none
  location : Option String := none

namespace Response

def ok (body : Json) : Response := { status := 200, body := some body }

def error (status : Nat) (message : String) : Response :=
  { status := status, body := some (.obj [("error", .str message)]) }

def notFound : Response := error 404 "Not Found"

def methodNotAllowed : Response :=
  { error 405 "Method Not Allowed" with allow := some "GET" }

def notInitialized : Response := error 500 "Service not initialized"

/-- The characters of an address that keep their meaning and are not escaped. -/
def addressCharacters : List Char := ":/%#?=@[]!$&'()*+,;".toList

/-- A path in which no character would end it. -/
def closedPath (path : List Char) : List Char :=
  path.flatMap fun c => if c = '?' ∨ c = '#' then Percent.encode [c] else [c]

/-- Leads to another path of the same host, with the same query. -/
def redirect (r : Request) (path : List Char) : Response :=
  let query := if r.query.isEmpty then [] else '?' :: r.query
  { status := 307
    location := some (String.ofList
      (Percent.encodeKeeping addressCharacters (r.origin.toList ++ closedPath path ++ query))) }

end Response

/-- The path without the slashes at its end, or with one if it has none. -/
def otherSlash (path : List Char) : List Char :=
  if path.getLast? = some '/' then trimEnd (· = '/') path else path ++ ['/']

end ChainHistory.Http
