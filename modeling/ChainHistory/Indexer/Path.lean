import ChainHistory.Text.Percent
import ChainHistory.Text.Split

namespace ChainHistory.Indexer

open Text

/-- The segments that a URL would resolve away. -/
def isDots (segment : String) : Bool := segment = "." || segment = ".."

/-- The path of the segments, each escaped so that it stays one segment; `none` if one of them is
dots, which no escape protects. -/
def path? (segments : List String) : Option String :=
  if segments.any isDots then none
  else some (String.ofList (joinWith '/' (segments.map fun s => Percent.encode s.toList)))

/-- The segments of a path. -/
def segmentsOf (path : String) : List String :=
  (splitOn '/' path.toList).map fun cs => String.ofList (Percent.decode cs)

end ChainHistory.Indexer
