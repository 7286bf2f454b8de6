import ChainHistory.Settings.ConfigFile
import ChainHistory.Text.Case

namespace ChainHistory.Settings.Dotenv

open Text

/-- A line that names a variable; without an equals sign it gives it no value. -/
structure Binding where
  key : String
  value : Option String
  deriving DecidableEq

/-- Reading either goes on behind what was read, or stops at a character that does not fit. -/
abbrev Reading (α : Type) := Except (List Char) (α × List Char)

/-- A blank that ends no line. -/
def isInline (c : Char) : Bool := isBlank c && c ≠ '\n' && c ≠ '\r'

def endsLine (c : Char) : Bool := c = '\n' || c = '\r'

def skipInline (cs : List Char) : List Char := cs.dropWhile isInline

/-- Drops the word `export` if blanks follow it. -/
def skipExport (cs : List Char) : List Char :=
  let word := "export".toList
  if word.isPrefixOf cs && ((cs.drop word.length).head?.map isInline).getD false then
    skipInline (cs.drop word.length)
  else cs

/-- What stands before the closing mark. A backslash takes the next character with it, so a mark
behind one does not close. -/
def untilMark (mark : Char) : List Char → Option (List Char × List Char)
  | [] => none
  | '\\' :: c :: cs => (untilMark mark cs).map fun r => ('\\' :: c :: r.1, r.2)
  | c :: cs =>
    if c = mark then some ([], cs) else (untilMark mark cs).map fun r => (c :: r.1, r.2)

/-- The letters that name a character behind a backslash between double quotes. -/
def doubleEscapes : List (Char × Char) := [
  ('\\', '\\'), ('\'', '\''), ('"', '"'), ('a', '\x07'), ('b', '\x08'), ('f', '\x0c'),
  ('n', '\n'), ('r', '\r'), ('t', '\t'), ('v', '\x0b')]

def singleEscapes : List (Char × Char) := [('\\', '\\'), ('\'', '\'')]

def unescape (escapes : List (Char × Char)) : List Char → List Char
  | [] => []
  | c :: cs =>
    if c = '\\' then
      match cs with
      | [] => [c]
      | d :: rest =>
        match escapes.lookup d with
        | some e => e :: unescape escapes rest
        | none => c :: unescape escapes (d :: rest)
    else c :: unescape escapes cs

/-- A key, in single quotes or up to a blank, an equals sign or a number sign. A comment has
none. -/
def readKey (cs : List Char) : Reading (Option String) :=
  match cs with
  | '#' :: _ => .ok (none, cs)
  | '\'' :: rest =>
    let inside := rest.takeWhile (· ≠ '\'')
    match rest.dropWhile (· ≠ '\'') with
    | _ :: after => if inside.isEmpty then .error cs else .ok (some (String.ofList inside), after)
    | [] => .error cs
  | _ =>
    let inKey := fun c => !isBlank c && c ≠ '=' && c ≠ '#'
    if (cs.takeWhile inKey).isEmpty then .error cs
    else .ok (some (String.ofList (cs.takeWhile inKey)), cs.dropWhile inKey)

/-- What stands before a number sign that follows a blank. -/
def beforeComment (afterBlank : Bool) : List Char → List Char
  | [] => []
  | c :: cs => if c = '#' && afterBlank then [] else c :: beforeComment (isBlank c) cs

/-- Reads a value, quoted or up to the end of its line. Blanks before it were dropped already, if
there were any. -/
def readValue (afterBlank : Bool) (cs : List Char) : Reading String :=
  match cs with
  | '\'' :: rest =>
    match untilMark '\'' rest with
    | some (inside, rest) => .ok (String.ofList (unescape singleEscapes inside), rest)
    | none => .error cs
  | '"' :: rest =>
    match untilMark '"' rest with
    | some (inside, rest) => .ok (String.ofList (unescape doubleEscapes inside), rest)
    | none => .error cs
  | _ =>
    let part := cs.takeWhile (!endsLine ·)
    .ok (String.ofList (trimEnd isBlank (beforeComment afterBlank part)),
      cs.dropWhile (!endsLine ·))

def skipComment (cs : List Char) : List Char :=
  match skipInline cs with
  | '#' :: rest => rest.dropWhile (!endsLine ·)
  | _ => cs

def endLine (cs : List Char) : Except (List Char) (List Char) :=
  match skipInline cs with
  | [] => .ok []
  | '\r' :: '\n' :: rest => .ok rest
  | '\n' :: rest => .ok rest
  | '\r' :: rest => .ok rest
  | _ => .error cs

def skipLine (cs : List Char) : List Char :=
  match cs.dropWhile (!endsLine ·) with
  | [] => []
  | _ :: rest => rest

/-- Reads a line that begins at a character that is not blank. -/
def readLine (cs : List Char) : Except (List Char) (Option Binding × List Char) := do
  let (key, cs) ← readKey (skipExport cs)
  let (value, cs) ← match skipInline cs with
    | '=' :: rest =>
      let afterBlank := (rest.head?.map isInline).getD false
      Except.map (fun r => (some r.1, r.2)) (readValue afterBlank (skipInline rest))
    | rest => pure (none, rest)
  let rest ← endLine (skipComment cs)
  return (key.map fun k => ⟨k, value⟩, rest)

/-- The bindings of a text. A line that cannot be read is left out from where it does not fit to
its end. -/
def bindings (cs : List Char) : List Binding :=
  let start := cs.dropWhile isBlank
  if start.isEmpty then []
  else
    let (b, rest) := match readLine start with
      | .ok r => r
      | .error stuck => (none, skipLine stuck)
    if rest.length < cs.length then b.toList ++ bindings rest else b.toList
termination_by cs.length

/-- A place where a value is put in: its name, its default, and what follows it. -/
structure Slot where
  name : String
  default : String
  rest : List Char

/-- Reads `NAME}` or `NAME:-default}`, the dollar sign and brace already taken off. -/
def readSlot (cs : List Char) : Option Slot :=
  let inName := fun c => c ≠ '\x7d' && c ≠ ':'
  let name := String.ofList (cs.takeWhile inName)
  match cs.dropWhile inName with
  | '\x7d' :: rest => some ⟨name, "", rest⟩
  | ':' :: '-' :: rest =>
    match rest.dropWhile (· ≠ '\x7d') with
    | _ :: after => some ⟨name, String.ofList (rest.takeWhile (· ≠ '\x7d')), after⟩
    | [] => none
  | _ => none

/-- The slot that a text begins with. -/
def slot? : List Char → Option Slot
  | '$' :: '\x7b' :: cs => readSlot cs
  | _ => none

/-- Puts values into slots; a name without a value gives its default. -/
def expand (value? : String → Option String) (cs : List Char) : List Char :=
  match cs with
  | [] => []
  | c :: rest =>
    match slot? (c :: rest) with
    | none => c :: expand value? rest
    | some s =>
      let value := ((value? s.name).getD s.default).toList
      if s.rest.length ≤ rest.length then value ++ expand value? s.rest else value
termination_by cs.length

/-- The variables of a text in order of first appearance, each with its last value and with slots
filled from `process`, or else from the bindings before it. A bare key has no value, and none is
put in for it. -/
def values (process : Variables) (cs : List Char) : List (String × Option String) :=
  (bindings cs).foldl (fun done b =>
    let value? := fun name => process.lookup name <|> (done.lookup name).map (·.getD "")
    Assoc.put b.key (b.value.map fun v => String.ofList (expand value? v.toList)) done) []

/-- Drops the mark that may stand first in a text to show its encoding. -/
def dropMark : List Char → List Char
  | '\uFEFF' :: cs => cs
  | cs => cs

/-- The variable that turns the reading of assignments off. -/
def disableKey : String := "PYTHON_DOTENV_DISABLED"

/-- Case does not matter, nor does the long form of `s`. -/
def isDisabled (process : Variables) : Bool :=
  match process.lookup disableKey with
  | none => false
  | some v =>
    let folded := String.ofList ((lower v).toList.map fun c => if c = 'ſ' then 's' else c)
    ["1", "true", "t", "yes", "y"].contains folded

end ChainHistory.Settings.Dotenv
