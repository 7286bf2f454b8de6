import ChainHistory.Page
import ChainHistory.Query
import ChainHistory.Registry

namespace ChainHistory

inductive IdentifierKind
  | address
  | account
  | xpub
  deriving DecidableEq

/-- A question as it reaches the service. An extended key has no token. -/
structure Inquiry where
  kind : IdentifierKind
  coin : String
  identifier : Option String
  token : Option String := none
  deriving DecidableEq

/-- What a blank identifier is refused with. -/
def IdentifierKind.invalid : IdentifierKind → FailureKind
  | address => .invalidAddress
  | account => .invalidAddress
  | xpub => .invalidKey

/-- The query of an inquiry, unless its identifier is blank. -/
def Inquiry.query (i : Inquiry) : Except Failure Query :=
  match i.identifier with
  | none => .error (.reported i.kind.invalid none)
  | some s =>
    if Text.isBlankText s then .error (.reported i.kind.invalid none)
    else .ok (match i.kind with
      | .address => .address s (Text.clean i.token)
      | .account => .account s (Text.clean i.token)
      | .xpub => .xpub s)

/-- The service: its chains, the size of a page, and the length of the memos it shows. -/
structure Service (H : Type) where
  registry : Registry H
  pageSize : Int
  memoLength : Int

namespace Service

variable {H : Type}

/-- What an inquiry comes to before anything is fetched: the query, whom to call, and the call. -/
structure Plan (H : Type) where
  query : Query
  platform : Platform H
  call : Call

/-- The identifier is looked at first, then the coin, then what the chain supports. -/
def plan (s : Service H) (i : Inquiry) : Except Failure (Plan H) := do
  let q ← i.query
  let e ← s.registry.registration i.coin
  let call ← q.resolve s.pageSize e.capabilities
  return ⟨q, e.platform, call⟩

/-- The page that a query makes of the records that were fetched for it. -/
def page (s : Service H) (q : Query) (rs : List Record) : Page :=
  let valid := Record.memoValid s.memoLength
  match q with
  | .address a token => .ofAddress s.pageSize valid token a rs
  | .account a _ => .ofAccount valid a rs
  | .xpub _ => .ofXpub s.pageSize valid rs

/-- Answers an inquiry by at most one call. -/
def answer {m : Type → Type} [Monad m] (s : Service H)
    (fetch : Platform H → Call → m (Except Failure (List Record))) (i : Inquiry) :
    m (Except Failure Page) :=
  match s.plan i with
  | .error e => pure (.error e)
  | .ok p => do
    let rs ← fetch p.platform p.call
    pure (rs.map (s.page p.query))

end Service

end ChainHistory
