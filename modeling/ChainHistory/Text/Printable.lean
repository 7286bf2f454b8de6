import ChainHistory.Text.Table.Printable

namespace ChainHistory.Text

def isPrintable (c : Char) : Bool := printableRanges.contains c.toNat

end ChainHistory.Text
