import ChainHistory.DomainName.Label
import ChainHistory.Url.Address
import ChainHistory.Url.Basic

namespace ChainHistory.Url

open Text

/-- The characters of a host in ASCII that are not escaped. -/
def keepsInHost (c : Char) : Bool :=
  Percent.isUnreserved c || c ∈ "!$&'()*+,;=%|".toList ||
    c ∈ ['"', '\x60', '\x7b', '\x7d', '\\']

/-- Whether a host stands in brackets. -/
def isBracketed (cs : List Char) : Bool :=
  2 ≤ cs.length && cs.head? = some '[' && cs.getLast? = some ']'

/-- The host in the form in which it is looked up: an address as it is, a name in ASCII. -/
def encodeHost (host : List Char) : Except Error (List Char) :=
  let lowered := (lower (String.ofList host)).toList
  if host.isEmpty then .ok []
  else if resemblesAddress4 host then
    if isAddress4 host then .ok host else .error (.badAddress4 host)
  else if isBracketed host then
    let address := (host.drop 1).dropLast
    if isAddress6 address then .ok address else .error (.badAddress6 host)
  else if host.all isAscii then .ok (Percent.encodeUnless keepsInHost lowered)
  else (DomainName.encode lowered).mapError fun _ => .badName host

/-- The host as it is shown. A name that begins with an encoded label is decoded. -/
def shownHost (u : Url) : Except DomainName.NameError (List Char) :=
  if DomainName.encodedMark.isPrefixOf u.host then DomainName.decode u.host else .ok u.host

end ChainHistory.Url
