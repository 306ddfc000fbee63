import OptOut.Double.Nearest
import OptOut.Json.Source

/-!
# JSON values

What a JSON text stands for. Every string is a sequence of characters, so an escape that names half
of a surrogate pair has no meaning; a number may be as long as it likes but not as large; and values
nest at most 127 deep.
-/

namespace OptOut.Json

inductive Value where
  | null
  | bool (value : Bool)
  | number (literal : Literal)
  | text (value : String)
  | list (items : List Value)
  | object (fields : List (String × Value))
deriving Repr

/-! ## Strings -/

def isHighSurrogate (code : Nat) : Bool :=
  0xD800 ≤ code && code < 0xDC00

def isLowSurrogate (code : Nat) : Bool :=
  0xDC00 ≤ code && code < 0xE000

def resolve : List Piece → Option (List Char)
  | [] => some []
  | .plain char :: rest => (resolve rest).map (char :: ·)
  | .unit high :: .unit low :: rest =>
    if isHighSurrogate high then
      if isLowSurrogate low then
        (resolve rest).map
          (Char.ofNat (0x10000 + (high - 0xD800) * 0x400 + (low - 0xDC00)) :: ·)
      else none
    else if isLowSurrogate high then none
    else (resolve (.unit low :: rest)).map (Char.ofNat high :: ·)
  | .unit code :: rest =>
    if isHighSurrogate code || isLowSurrogate code then none
    else (resolve rest).map (Char.ofNat code :: ·)

def resolveText (pieces : List Piece) : Option String :=
  (resolve pieces).map String.ofList

/-! ## Numbers -/

namespace Literal

/-- Appends digits to a significand as long as it fits 64 bits; also how many were appended. -/
def keepDigits (significand : Nat) : List Char → Nat × Nat
  | [] => (significand, 0)
  | digit :: rest =>
    let longer := significand * 10 + (digit.toNat - '0'.toNat)
    if longer < UInt64.size then
      let (kept, count) := keepDigits longer rest
      (kept, count + 1)
    else (significand, 0)

/-- A number is out of range if the leading digits that fit 64 bits, rounded to a double, times the
power of ten that is left, rounded to a double, exceed every double. -/
def overflows (literal : Literal) : Bool :=
  let (whole, kept) := keepDigits 0 literal.whole
  let (significand, places) := keepDigits whole literal.fraction
  let exponent : Int := literal.exponent.getD 0 + (literal.whole.length - kept : Nat) - places
  significand != 0 && decide (0 ≤ exponent) &&
    (decide (308 < exponent) || decide
      (Double.overflow ≤ Double.nearest significand * Double.nearest (Nat.pow 10 exponent.toNat)))

/-- A number written in digits alone that fits 64 bits. -/
def word? (literal : Literal) : Option Nat :=
  let value := Nat.ofDigitChars 10 literal.whole 0
  if !literal.negative && literal.fraction.isEmpty && literal.exponent.isNone &&
      decide (value < UInt64.size) then some value
  else none

def ofNat (value : Nat) : Literal :=
  ⟨false, Nat.toDigits 10 value, [], none⟩

end Literal

/-! ## Values -/

/-- How deep lists and objects may nest. -/
def maximalDepth : Nat := 127

mutual

/-- The value of a written text in which at most `depth` lists and objects nest. -/
def interpret (depth : Nat) : Source → Option Value
  | .null => some .null
  | .bool value => some (.bool value)
  | .number literal => if literal.overflows then none else some (.number literal)
  | .text pieces => (resolveText pieces).map .text
  | .list items =>
    match depth with
    | 0 => none
    | depth + 1 => (interpretItems depth items).map .list
  | .object fields =>
    match depth with
    | 0 => none
    | depth + 1 => (interpretFields depth fields).map .object

def interpretItems (depth : Nat) : List Source → Option (List Value)
  | [] => some []
  | item :: rest => do
    let value ← interpret depth item
    let values ← interpretItems depth rest
    some (value :: values)

def interpretFields (depth : Nat) : List (List Piece × Source) → Option (List (String × Value))
  | [] => some []
  | (name, item) :: rest => do
    let name ← resolveText name
    let value ← interpret depth item
    let fields ← interpretFields depth rest
    some ((name, value) :: fields)

end

namespace Value

def ofText (text : String) : Option Value :=
  (Source.ofText text).bind (interpret maximalDepth)

/-- The last of the fields with a name. -/
def lookup (fields : List (String × Value)) (name : String) : Option Value :=
  (fields.reverse.find? (·.1 = name)).map (·.2)

def field? : Value → String → Option Value
  | .object fields, name => lookup fields name
  | _, _ => none

def text? : Value → Option String
  | .text value => some value
  | _ => none

/-- A number without sign, fraction or exponent, below 2 ^ 64. -/
def word? : Value → Option UInt64
  | .number literal => literal.word?.map UInt64.ofNat
  | _ => none

def list? : Value → Option (List Value)
  | .list items => some items
  | _ => none

def ofNat (value : Nat) : Value :=
  .number (.ofNat value)

end Value

end OptOut.Json
