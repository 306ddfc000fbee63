import OptOut.Text.PrintableTable

/-!
# Quoted text

A text as an error message shows it: in double quotes, on one line, with every character that would
not be seen as itself written by its number.
-/

namespace OptOut.Text

/-- Lower-case hexadecimal digits, without leading zeros. -/
def hexDigits (number : Nat) : List Char :=
  Nat.toDigits 16 number

/-- Hexadecimal digits padded with zeros to a width. -/
def paddedHex (width number : Nat) : List Char :=
  (hexDigits number).leftpad width '0'

def isPlain (char : Char) : Bool :=
  !inRanges unprintableRanges char.toNat && !inRanges graphemeExtendRanges char.toNat

def quotedChar (char : Char) : List Char :=
  match char with
  | '\x00' => ['\\', '0']
  | '\t' => ['\\', 't']
  | '\n' => ['\\', 'n']
  | '\r' => ['\\', 'r']
  | '"' => ['\\', '"']
  | '\\' => ['\\', '\\']
  | _ => if isPlain char then [char] else ['\\', 'u', '{'] ++ hexDigits char.toNat ++ ['}']

def quoted (text : String) : String :=
  String.ofList ('"' :: text.toList.flatMap quotedChar ++ ['"'])

end OptOut.Text
