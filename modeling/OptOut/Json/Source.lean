import OptOut.Text.Numeral

/-!
# JSON as it is written

A JSON text keeps more than the value it stands for: how a string spells its characters and how many
digits a number has. This module reads a text into that form and accepts exactly the grammar; what
strings and numbers mean is decided afterwards, and only for the parts that are used.
-/

namespace OptOut.Json

/-- An element of a written string: a character, or the number of a four-digit escape. -/
inductive Piece where
  | plain (char : Char)
  | unit (code : Nat)
deriving DecidableEq, Repr

/-- A number as it is written. `whole` has no leading zero unless it is `0`; an empty `fraction`
stands for none. -/
structure Literal where
    negative : Bool
    whole : List Char
    fraction : List Char
    exponent : Option Int
deriving DecidableEq, Repr

inductive Source where
  | null
  | bool (value : Bool)
  | number (literal : Literal)
  | text (pieces : List Piece)
  | list (items : List Source)
  | object (fields : List (List Piece × Source))
deriving Repr

def isSpace (char : Char) : Bool :=
  char = ' ' || char = '\t' || char = '\n' || char = '\r'

def skipSpace (chars : List Char) : List Char :=
  chars.dropWhile isSpace

/-- The characters that an escape of one letter stands for. -/
def shortEscape : Char → Option Char
  | '"' => some '"'
  | '\\' => some '\\'
  | '/' => some '/'
  | 'b' => some '\x08'
  | 'f' => some '\x0c'
  | 'n' => some '\n'
  | 'r' => some '\r'
  | 't' => some '\t'
  | _ => none

def readPieces : List Char → Option (List Piece × List Char)
  | [] => none
  | '"' :: rest => some ([], rest)
  | '\\' :: 'u' :: a :: b :: c :: d :: rest => do
    let high := (← Text.hexValue a) * 16 + (← Text.hexValue b)
    let code := high * 256 + (← Text.hexValue c) * 16 + (← Text.hexValue d)
    let (pieces, rest) ← readPieces rest
    some (.unit code :: pieces, rest)
  | '\\' :: escape :: rest => do
    let char ← shortEscape escape
    let (pieces, rest) ← readPieces rest
    some (.plain char :: pieces, rest)
  | char :: rest =>
    if char.toNat < 0x20 then none
    else do
      let (pieces, rest) ← readPieces rest
      some (.plain char :: pieces, rest)

def readDigits (chars : List Char) : List Char × List Char :=
  (chars.takeWhile Char.isDigit, chars.dropWhile Char.isDigit)

/-- At least one digit, and no zero in front of another digit. -/
def readWhole (chars : List Char) : Option (List Char × List Char) :=
  match readDigits chars with
  | ([], _) => none
  | ('0' :: _ :: _, _) => none
  | (digits, rest) => some (digits, rest)

def readFraction : List Char → Option (List Char × List Char)
  | '.' :: rest =>
    match readDigits rest with
    | ([], _) => none
    | (digits, rest) => some (digits, rest)
  | chars => some ([], chars)

def readMagnitude (negative : Bool) (chars : List Char) : Option (Option Int × List Char) :=
  match readDigits chars with
  | ([], _) => none
  | (digits, rest) =>
    let magnitude : Int := Nat.ofDigitChars 10 digits 0
    some (some (if negative then -magnitude else magnitude), rest)

def readSigned : List Char → Option (Option Int × List Char)
  | '+' :: rest => readMagnitude false rest
  | '-' :: rest => readMagnitude true rest
  | chars => readMagnitude false chars

def readExponent : List Char → Option (Option Int × List Char)
  | 'e' :: rest => readSigned rest
  | 'E' :: rest => readSigned rest
  | chars => some (none, chars)

def readUnsigned (negative : Bool) (chars : List Char) : Option (Literal × List Char) := do
  let (whole, rest) ← readWhole chars
  let (fraction, rest) ← readFraction rest
  let (exponent, rest) ← readExponent rest
  some (⟨negative, whole, fraction, exponent⟩, rest)

def readLiteral : List Char → Option (Literal × List Char)
  | '-' :: rest => readUnsigned true rest
  | chars => readUnsigned false chars

/-! ## Values

`fuel` bounds the number of nested and consecutive values; twice the length of the text is always
enough, since each value takes a character and costs at most two. -/

mutual

def readSource : Nat → List Char → Option (Source × List Char)
  | 0, _ => none
  | fuel + 1, chars =>
    match skipSpace chars with
    | 'n' :: 'u' :: 'l' :: 'l' :: rest => some (.null, rest)
    | 't' :: 'r' :: 'u' :: 'e' :: rest => some (.bool true, rest)
    | 'f' :: 'a' :: 'l' :: 's' :: 'e' :: rest => some (.bool false, rest)
    | '"' :: rest => do
      let (pieces, rest) ← readPieces rest
      some (.text pieces, rest)
    | '[' :: rest =>
      match skipSpace rest with
      | ']' :: rest => some (.list [], rest)
      | rest => do
        let (items, rest) ← readItems fuel rest
        some (.list items, rest)
    | '{' :: rest =>
      match skipSpace rest with
      | '}' :: rest => some (.object [], rest)
      | rest => do
        let (fields, rest) ← readFields fuel rest
        some (.object fields, rest)
    | rest => do
      let (literal, rest) ← readLiteral rest
      some (.number literal, rest)

/-- One or more items and the bracket that closes them. -/
def readItems : Nat → List Char → Option (List Source × List Char)
  | 0, _ => none
  | fuel + 1, chars => do
    let (item, rest) ← readSource fuel chars
    match skipSpace rest with
    | ',' :: rest => do
      let (items, rest) ← readItems fuel rest
      some (item :: items, rest)
    | ']' :: rest => some ([item], rest)
    | _ => none

/-- One or more fields and the brace that closes them. -/
def readFields : Nat → List Char → Option (List (List Piece × Source) × List Char)
  | 0, _ => none
  | fuel + 1, chars =>
    match skipSpace chars with
    | '"' :: rest => do
      let (name, rest) ← readPieces rest
      match skipSpace rest with
      | ':' :: rest => do
        let (value, rest) ← readSource fuel rest
        match skipSpace rest with
        | ',' :: rest => do
          let (fields, rest) ← readFields fuel rest
          some ((name, value) :: fields, rest)
        | '}' :: rest => some ([(name, value)], rest)
        | _ => none
      | _ => none
    | _ => none

end

def Source.ofText (text : String) : Option Source :=
  match readSource (2 * text.toList.length + 2) text.toList with
  | some (source, rest) => if (skipSpace rest).isEmpty then some source else none
  | none => none

end OptOut.Json
