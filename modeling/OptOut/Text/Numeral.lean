/-!
# Numerals

Whole numbers in decimal digits. As an operator writes them in a setting, a plus sign may stand in
front. Numbers that need not be whole are only told apart from other texts.
-/

namespace OptOut.Text

def decimal (number : Nat) : String :=
  String.ofList (Nat.toDigits 10 number)

/-- The number that decimal digits stand for, or nothing if there is none or another character. -/
def digitsValue (digits : List Char) : Option Nat :=
  if digits.isEmpty || !digits.all Char.isDigit then none
  else some (Nat.ofDigitChars 10 digits 0)

def withoutPlus : List Char → List Char
  | '+' :: rest => rest
  | chars => chars

/-- Reads a number of at most 64 bits. -/
def wordValue (text : String) : Option UInt64 :=
  match digitsValue (withoutPlus text.toList) with
  | some value => if value < UInt64.size then some (UInt64.ofNat value) else none
  | none => none

def hexValue (char : Char) : Option Nat :=
  if '0' ≤ char ∧ char ≤ '9' then some (char.toNat - '0'.toNat)
  else if 'a' ≤ char ∧ char ≤ 'f' then some (char.toNat - 'a'.toNat + 10)
  else if 'A' ≤ char ∧ char ≤ 'F' then some (char.toNat - 'A'.toNat + 10)
  else none

def withoutSign : List Char → List Char
  | '-' :: rest => rest
  | chars => withoutPlus chars

/-- An exponent may follow the digits of a number. -/
def isExponent : List Char → Bool
  | [] => true
  | mark :: rest => (mark = 'e' || mark = 'E') && (digitsValue (withoutSign rest)).isSome

/-- Digits, with a point among them or not and an exponent behind them or not. -/
def isUnsignedNumber (chars : List Char) : Bool :=
  let whole := chars.takeWhile Char.isDigit
  match chars.dropWhile Char.isDigit with
  | '.' :: rest =>
    !(whole.isEmpty && (rest.takeWhile Char.isDigit).isEmpty) &&
      isExponent (rest.dropWhile Char.isDigit)
  | rest => !whole.isEmpty && isExponent rest

/-- A number with or without a sign; it may also be infinite or no number at all. -/
def isNumber (chars : List Char) : Bool :=
  let chars := withoutSign chars
  isUnsignedNumber chars ||
    ["inf", "infinity", "nan"].contains (String.ofList (chars.map Char.toLower))

end OptOut.Text
