import ChainHistory.Text.Percent
import ChainHistory.Text.Quoted
import ChainHistory.Text.Split

namespace ChainHistory

open Text

/-- A URL. The host, the user and all that follows are escaped; a host that is an address of groups
stands without its brackets. -/
structure Url where
  scheme : List Char
  user : List Char
  host : List Char
  port : Option Int
  path : List Char
  query : Option (List Char)
  fragment : Option (List Char)
  deriving DecidableEq

namespace Url

/-- Why a text is no URL. -/
inductive Error
  | tooLong
  | control (c : Char) (position : Nat)
  | badPort (text : List Char)
  | badAddress4 (host : List Char)
  | badAddress6 (host : List Char)
  | badName (host : List Char)
  | openSlashes
  | openColon
  | partTooLong (part : String)
  deriving DecidableEq

def Error.message : Error → String
  | tooLong => "URL too long"
  | control c position =>
    s!"Invalid non-printable ASCII character in URL, {quoted (String.singleton c)} at position " ++
      s!"{position}."
  | badPort text => s!"Invalid port: {quoted (String.ofList text)}"
  | badAddress4 host => s!"Invalid IPv4 address: {quoted (String.ofList host)}"
  | badAddress6 host => s!"Invalid IPv6 address: {quoted (String.ofList host)}"
  | badName host => s!"Invalid IDNA hostname: {quoted (String.ofList host)}"
  | openSlashes => "Relative URLs cannot have a path starting with '//'"
  | openColon => "Relative URLs cannot have a path starting with ':'"
  | partTooLong part => s!"URL component '{part}' too long"

/-- Whether it is known where the URL leads. -/
def isAbsolute (u : Url) : Bool := !u.scheme.isEmpty && !u.host.isEmpty

/-- The path as it is asked for, which is never empty. -/
def target (u : Url) : List Char := if u.path.isEmpty then ['/'] else u.path

/-- A mark and what follows it, if there is anything to follow. -/
def marked (mark : Char) (cs : Option (List Char)) : List Char :=
  match cs with
  | none => []
  | some cs => mark :: cs

/-- The host with its port. -/
def place (u : Url) : List Char :=
  (if ':' ∈ u.host then '[' :: u.host ++ [']'] else u.host) ++
    marked ':' (u.port.map fun n => (toString n).toList)

/-- The place with the user before it. -/
def authority (u : Url) : List Char :=
  (if u.user.isEmpty then [] else u.user ++ ['@']) ++ u.place

def toText (u : Url) : String :=
  String.ofList (
    (if u.scheme.isEmpty then [] else u.scheme ++ [':']) ++
    (if u.authority.isEmpty then [] else '/' :: '/' :: u.authority) ++
    u.path ++ marked '?' u.query ++ marked '#' u.fragment)

/-- The name and the password of the user. -/
def credentials (u : Url) : List Char × List Char :=
  match cut ':' u.user with
  | some (name, password) => (Percent.decode name, Percent.decode password)
  | none => (Percent.decode u.user, [])

end Url

end ChainHistory
