import ChainHistory.Proofs.DocumentRoundTrip

namespace ChainHistory.Indexer

section

variable (coin : String) (coinId : Int)

variable {coin coinId}

end

/-- Two faults of one document are told together, and a worse one behind it is not reached. -/
example : recordsOf "x" 7 (.arr [
    .obj [("id", .str "a"), ("timestamp", .int 5)],
    .obj [("timestamp", .null), ("senders", .arr [.str "s", .int 1])],
    .null]) =
    .error (.internal (.malformedRecord "x" (.invalid [⟨"id", none, .missing⟩,
      ⟨"timestamp", none, .notInteger⟩, ⟨"senders", some 1, .notText⟩]))) := rfl

end ChainHistory.Indexer
