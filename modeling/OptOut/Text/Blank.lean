import OptOut.Text.Ranges

/-!
# Blank characters

The white space that may pad a name or a line, and its removal from both ends of a text.
-/

namespace OptOut.Text

/-- The code points with the property White_Space. -/
def blankRanges : List (Nat × Nat) := [
    (0x9, 0xD), (0x20, 0x20), (0x85, 0x85), (0xA0, 0xA0), (0x1680, 0x1680), (0x2000, 0x200A),
    (0x2028, 0x2029), (0x202F, 0x202F), (0x205F, 0x205F), (0x3000, 0x3000)]

def isBlank (char : Char) : Bool :=
  inRanges blankRanges char.toNat

def trimChars (chars : List Char) : List Char :=
  ((chars.dropWhile isBlank).reverse.dropWhile isBlank).reverse

def trim (text : String) : String :=
  String.ofList (trimChars text.toList)

/-- A text is blank if it holds blank characters only, the empty text among them. -/
def blank (text : String) : Bool :=
  text.toList.all isBlank

end OptOut.Text
