import ChainHistory.Text.Table.Word

namespace ChainHistory.Text

/-- Whether a character can stand in a word. -/
def isWordChar (c : Char) : Bool := wordRanges.contains c.toNat

end ChainHistory.Text
