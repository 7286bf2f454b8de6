import ChainHistory.Indexer.Message
import ChainHistory.LogLine
import ChainHistory.Number.Binary64
import ChainHistory.Text.Blank

namespace ChainHistory.Indexer

open Text Number

/-- Where the indexer is and how it is asked. -/
structure Client where
  baseUrl : Option String
  token : Option String
  timeout : Binary64
  deriving DecidableEq

namespace Client

/-- What was configured for the client where nothing else is given. -/
structure Defaults where
  baseUrl : Option String
  token : Option String
  timeout : Binary64

/-- Given values come before configured ones; slashes at the end of the base URL are dropped. -/
def make (d : Defaults) (baseUrl token : Option String) (timeout : Option Binary64) : Client :=
  let url := ((nonEmpty? baseUrl <|> nonEmpty? d.baseUrl).getD "").toList
  { baseUrl := nonEmpty? (some (String.ofList (trimEnd (· = '/') url)))
    token := nonEmpty? token <|> d.token
    timeout := timeout.getD d.timeout }

end Client

/-- A conversation with the indexer: how many connections were opened in all, whether the last one
is still open, the messages so far, and what was logged. -/
structure Conversation where
  opened : Nat := 0
  isOpen : Bool := false
  sent : List Message := []
  logged : List LogLine := []

namespace Conversation

/-- A conversation over a connection that was opened elsewhere. -/
def overOpen : Conversation := { opened := 1, isOpen := true }

/-- Opens a connection unless one is open. -/
def connect (c : Conversation) : Conversation :=
  if c.isOpen then c else { c with opened := c.opened + 1, isOpen := true }

def close (c : Conversation) : Conversation := { c with isOpen := false }

def send (m : Message) (c : Conversation) : Conversation :=
  { c with sent := c.sent ++ [m] }

def log (lines : List LogLine) (c : Conversation) : Conversation :=
  { c with logged := c.logged ++ lines }

end Conversation

end ChainHistory.Indexer
