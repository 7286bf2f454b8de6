import ChainHistory.Text.Ranges

namespace ChainHistory.DomainName

open Text

/-- Greek letters. -/
def greekRanges : Ranges := [
  (0x0371, 0x0371), (0x0373, 0x0373), (0x0375, 0x0375), (0x0377, 0x0377), (0x037b, 0x037d),
  (0x0390, 0x0390), (0x03ac, 0x03ce), (0x03d7, 0x03d7), (0x03d9, 0x03d9), (0x03db, 0x03db),
  (0x03dd, 0x03dd), (0x03df, 0x03df), (0x03e1, 0x03e1), (0x03f3, 0x03f3), (0x03f8, 0x03f8),
  (0x03fb, 0x03fc), (0x1d26, 0x1d2a), (0x1f00, 0x1f07), (0x1f10, 0x1f15), (0x1f20, 0x1f27),
  (0x1f30, 0x1f37), (0x1f40, 0x1f45), (0x1f50, 0x1f57), (0x1f60, 0x1f67), (0x1f70, 0x1f70),
  (0x1f72, 0x1f72), (0x1f74, 0x1f74), (0x1f76, 0x1f76), (0x1f78, 0x1f78), (0x1f7a, 0x1f7a),
  (0x1f7c, 0x1f7c), (0x1fb0, 0x1fb1), (0x1fb6, 0x1fb6), (0x1fc6, 0x1fc6), (0x1fd0, 0x1fd2),
  (0x1fd6, 0x1fd7), (0x1fe0, 0x1fe2), (0x1fe4, 0x1fe7), (0x1ff6, 0x1ff6), (0xab65, 0xab65)]

/-- Hebrew letters and points. -/
def hebrewRanges : Ranges := [
  (0x0591, 0x05bd), (0x05bf, 0x05bf), (0x05c1, 0x05c2), (0x05c4, 0x05c5), (0x05c7, 0x05c7),
  (0x05d0, 0x05ea), (0x05ef, 0x05f4), (0xfb1e, 0xfb1e)]

/-- Hiragana, Katakana and Han. -/
def japaneseRanges : Ranges := [
  (0x3005, 0x3005), (0x3007, 0x3007), (0x3041, 0x3096), (0x309d, 0x309e), (0x30a1, 0x30fa),
  (0x30fd, 0x30fe), (0x31f0, 0x31ff), (0x3400, 0x4dbf), (0x4e00, 0x9fff), (0xfa0e, 0xfa0f),
  (0xfa11, 0xfa11), (0xfa13, 0xfa14), (0xfa1f, 0xfa1f), (0xfa21, 0xfa21), (0xfa23, 0xfa24),
  (0xfa27, 0xfa29), (0x16fe3, 0x16fe3), (0x16ff0, 0x16ff1), (0x1aff0, 0x1aff3), (0x1aff5, 0x1affb),
  (0x1affd, 0x1affe), (0x1b000, 0x1b122), (0x1b150, 0x1b152), (0x1b164, 0x1b167),
  (0x20000, 0x2a6df), (0x2a700, 0x2b738), (0x2b740, 0x2b81d), (0x2b820, 0x2cea1),
  (0x2ceb0, 0x2ebe0), (0x30000, 0x3134a)]

end ChainHistory.DomainName
