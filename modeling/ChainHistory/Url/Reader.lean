import ChainHistory.Number.Numeral
import ChainHistory.Url.Host

namespace ChainHistory.Url

open Text Number

/-- The parts that a URL is made of, as they are written. -/
structure Parts where
  scheme : List Char := []
  authority : List Char := []
  path : List Char := []
  query : Option (List Char) := none
  fragment : Option (List Char) := none

/-- No URL, and no part of one, is longer. -/
def maxLength : Nat := 65536

def inScheme (c : Char) : Bool := c.isAlphanum || c = '+' || c = '.' || c = '-'

/-- The scheme, which may be empty, and what follows its colon. -/
def takeScheme (cs : List Char) : List Char × List Char :=
  match cut ':' cs with
  | none => ([], cs)
  | some (scheme, rest) =>
    if scheme.all inScheme && (scheme.head?.map Char.isAlpha).getD true then (scheme, rest)
    else ([], cs)

/-- What stands behind a mark up to one of `stops`. -/
def takeMarked (mark : Char) (stops : List Char) (cs : List Char) :
    Option (List Char) × List Char :=
  match cs with
  | c :: rest =>
    if c = mark then (some (rest.takeWhile (· ∉ stops)), rest.dropWhile (· ∉ stops))
    else (none, cs)
  | [] => (none, [])

/-- Every text has parts, the path at least. -/
def Parts.ofText (cs : List Char) : Parts :=
  let (scheme, cs) := takeScheme cs
  let ends := ['/', '?', '#']
  let (authority, cs) := match cs with
    | '/' :: '/' :: rest => (rest.takeWhile (· ∉ ends), rest.dropWhile (· ∉ ends))
    | cs => ([], cs)
  let path := cs.takeWhile (· ∉ ends.drop 1)
  let (query, cs) := takeMarked '?' ['#'] (cs.dropWhile (· ∉ ends.drop 1))
  { scheme, authority, path, query, fragment := (takeMarked '#' [] cs).1 }

/-- What stands before and after the last `sep`. -/
def cutLast (sep : Char) (cs : List Char) : Option (List Char × List Char) :=
  (cut sep cs.reverse).map fun p => (p.2.reverse, p.1.reverse)

/-- The user, the host and the port of an authority; brackets hold colons together. -/
def splitAuthority (cs : List Char) : List Char × List Char × List Char :=
  let (user, cs) := (cutLast '@' cs).getD ([], cs)
  let bracketed : Option (List Char × List Char) := match cs with
    | '[' :: rest => (cutLast ']' rest).map fun p => ('[' :: p.1 ++ [']'], p.2)
    | _ => none
  let (host, rest) := bracketed.getD (cs.takeWhile (· ≠ ':'), cs.dropWhile (· ≠ ':'))
  (user, host, if rest.head? = some ':' then rest.drop 1 else rest)

/-- The ports that go without saying. -/
def defaultPorts : List (String × Int) := [
  ("ftp", 21), ("http", 80), ("https", 443), ("ws", 80), ("wss", 443)]

def readPort (scheme text : List Char) : Except Error (Option Int) :=
  if text.isEmpty then .ok none
  else match parseInt (String.ofList text) with
    | .error _ => .error (.badPort text)
    | .ok n =>
      if defaultPorts.lookup (String.ofList scheme) = some n then .ok none else .ok (some n)

def isVisible (c : Char) : Bool := 0x20 < c.toNat && c.toNat < 0x7f

def keepsInFragment (c : Char) : Bool := isVisible c && c ∉ ['"', '<', '>', '\x60']

def keepsInQuery (c : Char) : Bool := isVisible c && c ∉ ['"', '#', '<', '>']

def keepsInPath (c : Char) : Bool := keepsInQuery c && c ∉ ['?', '\x60', '\x7b', '\x7d']

def keepsInUser (c : Char) : Bool :=
  keepsInPath c && c ∉ ['/', ';', '=', '@', '[', '\\', ']', '^', '|']

/-- Drops single dots, and double dots with the component before them; nothing is above the
first. -/
def dropDots (path : List Char) : List Char :=
  joinWith '/' ((splitOn '/' path).foldl (fun done part =>
    if part = ['.'] then done
    else if part = ['.', '.'] then (if done = [[]] then done else done.dropLast)
    else done ++ [part]) [])

/-- Brings every part into its normal form. -/
def ofParts (p : Parts) : Except Error Url := do
  let (user, host, port) := splitAuthority p.authority
  let user := Percent.encodeUnless keepsInUser user
  let host ← encodeHost host
  let port ← readPort p.scheme port
  let isPlaced := !user.isEmpty || !host.isEmpty || port.isSome
  let path ←
    if isPlaced || !p.scheme.isEmpty then pure (dropDots p.path)
    else match p.path with
      | '/' :: '/' :: _ => throw .openSlashes
      | ':' :: _ => throw .openColon
      | path => pure path
  return {
    scheme := p.scheme.map Char.toLower
    user, host, port
    path := Percent.encodeUnless keepsInPath path
    query := p.query.map (Percent.encodeUnless keepsInQuery)
    fragment := p.fragment.map (Percent.encodeUnless keepsInFragment) }

def isControl (c : Char) : Bool := c.toNat < 0x20 || c.toNat = 0x7f

def ofText (text : String) : Except Error Url :=
  let cs := text.toList
  if maxLength < cs.length then .error .tooLong
  else match cs.dropWhile (!isControl ·) with
    | c :: _ => .error (.control c (cs.takeWhile (!isControl ·)).length)
    | [] => ofParts (.ofText cs)

/-- The parts of a URL, written anew. -/
def parts (u : Url) : Parts := {
  scheme := u.scheme
  authority := u.authority
  path := u.path
  query := u.query
  fragment := u.fragment }

/-- The name of the first part that is too long. -/
def Parts.tooLong? (p : Parts) : Option String :=
  ([("scheme", p.scheme), ("authority", p.authority), ("path", p.path),
    ("query", p.query.getD []), ("fragment", p.fragment.getD [])].find? fun part =>
      maxLength < part.2.length).map (·.1)

/-- Makes a URL of parts none of which may be too long. -/
def rebuild (p : Parts) : Except Error Url :=
  match p.tooLong? with
  | some part => .error (.partTooLong part)
  | none => ofParts p

/-- The URL with another query. -/
def withQuery (query : List Char) (u : Url) : Except Error Url :=
  rebuild { u.parts with query := some query }

/-- Of a URL that does not say where it leads, the path from the root and the query are left. -/
def rooted (u : Url) : Except Error Url :=
  if u.isAbsolute then .ok u
  else
    let whole := '/' :: (u.target ++ marked '?' u.query).dropWhile (· = '/')
    let (query, _) := takeMarked '?' [] (whole.dropWhile (· ≠ '?'))
    rebuild { path := whole.takeWhile (· ≠ '?'), query }

end ChainHistory.Url
