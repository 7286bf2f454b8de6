import ChainHistory.Indexer.Request
import ChainHistory.Text.Ascii
import ChainHistory.Text.Base64
import ChainHistory.Text.Form
import ChainHistory.Url.Reader

namespace ChainHistory.Indexer

open Text

/-- A request in the form in which the indexer sees it. -/
structure Message where
  request : Request
  url : Url
  host : String
  params : List (String × String)
  authorization : Option String
  deriving DecidableEq

namespace Message

/-- A user in the URL comes before a token. -/
def authorizationOf (r : Request) (u : Url) : Option String :=
  let (name, password) := u.credentials
  if name.isEmpty && password.isEmpty then r.authorization
  else
    let bytes := (name ++ ':' :: password).flatMap Utf8.encodeChar
    some ("Basic " ++ String.ofList (Base64.encode bytes))

/-- The parameters of a request take the place of the query that its URL has. -/
def locate (r : Request) : Except Url.Error Url :=
  (Url.ofText r.url).bind Url.rooted

def addParams (r : Request) (u : Url) : Except Url.Error Url :=
  if r.params.isEmpty then .ok u else u.withQuery (formText r.params)

def invalidUrl (e : Url.Error) : Failure := .foreign "InvalidURL" e.message

def notAscii (e : AsciiError) : Failure := .foreign "UnicodeEncodeError" e.message

def badName (e : DomainName.NameError) : Failure := .foreign e.name e.message

/-- Puts a request together. Its token and its place must be ASCII. -/
def ofRequest (r : Request) : Except Failure Message := do
  let u ← (locate r).mapError invalidUrl
  (checkAscii (r.authorization.getD "")).mapError notAscii
  let u ← (addParams r u).mapError invalidUrl
  let host ← u.shownHost.mapError badName
  (checkAscii (String.ofList u.place)).mapError notAscii
  return {
    request := r
    url := u
    host := String.ofList host
    params := groupFields (formFields (u.query.getD []))
    authorization := authorizationOf r u }

/-- The path that the indexer sees. -/
def target (m : Message) : String := String.ofList m.url.target

/-- A response counts only if it is known where it came from. -/
def receive (m : Message) : Reply → Reply
  | .response status body =>
    if m.url.isAbsolute then .response status body
    else .failed (.foreign "ValueError" s!"unknown url type: {quoted m.url.toText}")
  | reply => reply

end Message

end ChainHistory.Indexer
