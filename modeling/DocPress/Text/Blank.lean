import DocPress.Text.Ranges

/-! # Blank characters

The characters of the Unicode property `White_Space`, with the four separators `U+001C` to
`U+001F` besides, and the removal of blanks at both ends of a text. -/

set_option autoImplicit false

namespace DocPress.Text

/-- The ranges of blank characters. -/
def blankRanges : List (Nat × Nat) :=
  [(0x9, 0xD), (0x1C, 0x20), (0x85, 0x85), (0xA0, 0xA0), (0x1680, 0x1680), (0x2000, 0x200A),
   (0x2028, 0x2029), (0x202F, 0x202F), (0x205F, 0x205F), (0x3000, 0x3000)]

def isBlank (c : Char) : Bool := inRanges blankRanges c

def trimLeft (cs : List Char) : List Char := cs.dropWhile isBlank

def trimRight (cs : List Char) : List Char := (trimLeft cs.reverse).reverse

def trim (s : String) : String := String.ofList (trimRight (trimLeft s.toList))

end DocPress.Text
