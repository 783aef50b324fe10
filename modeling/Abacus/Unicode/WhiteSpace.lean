import Abacus.Unicode.Range

/-! The Unicode property White_Space, and the text without the white space at its two ends. -/

namespace Abacus.Unicode

/-- The code points of white space. -/
def whiteSpaceRanges : List Range :=
  [⟨0x9, 0xd⟩, ⟨0x20, 0x20⟩, ⟨0x85, 0x85⟩, ⟨0xa0, 0xa0⟩, ⟨0x1680, 0x1680⟩, ⟨0x2000, 0x200a⟩,
   ⟨0x2028, 0x2029⟩, ⟨0x202f, 0x202f⟩, ⟨0x205f, 0x205f⟩, ⟨0x3000, 0x3000⟩]

/-- The character is white space. -/
def isWhiteSpace (c : Char) : Bool := inTable whiteSpaceRanges c

/-- The text from its first to its last character that is not white space. -/
def trim (text : String) : String :=
  String.ofList
    ((text.toList.dropWhile isWhiteSpace).reverse.dropWhile isWhiteSpace).reverse

end Abacus.Unicode
