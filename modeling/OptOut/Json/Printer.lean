import OptOut.Json.Value
import OptOut.Text.Quoted

/-!
# Printing JSON

Writes a value as text, either without any white space or indented by two spaces a level. Only the
characters that a string must not hold as they are are escaped.
-/

namespace OptOut.Json

def escape (char : Char) : List Char :=
  match char with
  | '"' => ['\\', '"']
  | '\\' => ['\\', '\\']
  | '\x08' => ['\\', 'b']
  | '\t' => ['\\', 't']
  | '\n' => ['\\', 'n']
  | '\x0c' => ['\\', 'f']
  | '\r' => ['\\', 'r']
  | _ => if char.toNat < 0x20 then ['\\', 'u'] ++ Text.paddedHex 4 char.toNat else [char]

def printText (text : String) : List Char :=
  '"' :: text.toList.flatMap escape ++ ['"']

def printExponent : Option Int → List Char
  | none => []
  | some (.ofNat magnitude) => 'e' :: Nat.toDigits 10 magnitude
  | some (.negSucc less) => 'e' :: '-' :: Nat.toDigits 10 (less + 1)

def printLiteral (literal : Literal) : List Char :=
  (if literal.negative then ['-'] else []) ++ literal.whole ++
    (if literal.fraction.isEmpty then [] else '.' :: literal.fraction) ++
      printExponent literal.exponent

mutual

def print : Value → List Char
  | .null => "null".toList
  | .bool true => "true".toList
  | .bool false => "false".toList
  | .number literal => printLiteral literal
  | .text value => printText value
  | .list [] => ['[', ']']
  | .list (item :: rest) => '[' :: print item ++ printItems rest
  | .object [] => ['{', '}']
  | .object ((name, value) :: rest) =>
    '{' :: printText name ++ ':' :: print value ++ printFields rest

/-- The items after the first, and the closing bracket. -/
def printItems : List Value → List Char
  | [] => [']']
  | item :: rest => ',' :: print item ++ printItems rest

/-- The fields after the first, and the closing brace. -/
def printFields : List (String × Value) → List Char
  | [] => ['}']
  | (name, value) :: rest => ',' :: printText name ++ ':' :: print value ++ printFields rest

end

/-- A new line at a level of indentation. -/
def lineAt (level : Nat) : List Char :=
  '\n' :: List.replicate (2 * level) ' '

mutual

/-- Prints a value that stands at `level`, each item and field on a line of its own. -/
def printIndented (level : Nat) : Value → List Char
  | .list (item :: rest) =>
    '[' :: lineAt (level + 1) ++ printIndented (level + 1) item ++ indentedItems level rest
  | .object ((name, value) :: rest) =>
    '{' :: lineAt (level + 1) ++ printText name ++ ':' :: ' ' :: printIndented (level + 1) value ++
      indentedFields level rest
  | .list [] => ['[', ']']
  | .object [] => ['{', '}']
  | .null => "null".toList
  | .bool true => "true".toList
  | .bool false => "false".toList
  | .number literal => printLiteral literal
  | .text value => printText value

def indentedItems (level : Nat) : List Value → List Char
  | [] => lineAt level ++ [']']
  | item :: rest =>
    ',' :: lineAt (level + 1) ++ printIndented (level + 1) item ++ indentedItems level rest

def indentedFields (level : Nat) : List (String × Value) → List Char
  | [] => lineAt level ++ ['}']
  | (name, value) :: rest =>
    ',' :: lineAt (level + 1) ++ printText name ++ ':' :: ' ' :: printIndented (level + 1) value ++
      indentedFields level rest

end

namespace Value

def compact (value : Value) : String :=
  String.ofList (print value)

def indented (value : Value) : String :=
  String.ofList (printIndented 0 value)

def ofTexts (texts : List String) : Value :=
  .list (texts.map .text)

end Value

end OptOut.Json
