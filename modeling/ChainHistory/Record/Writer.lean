import ChainHistory.Record.Basic
import ChainHistory.Json.Basic

namespace ChainHistory.Record

def optional {α : Type} (write : α → Json) : Option α → Json
  | none => .null
  | some a => write a

/-- The document of a record, with all twelve fields. -/
def toJson (r : Record) : Json :=
  .obj [
    ("id", .str r.id),
    ("coin", .int r.coin),
    ("timestamp", .int r.timestamp),
    ("senders", .arr (r.senders.map .str)),
    ("receivers", .arr (r.receivers.map .str)),
    ("memo", optional .str r.memo),
    ("token_id", optional .str r.tokenId),
    ("block", optional .int r.block),
    ("fee", optional .str r.fee),
    ("status", .str r.status.name),
    ("type", .str r.kind),
    ("direction", optional (fun d => .str d.name) r.direction)]

end ChainHistory.Record
