import OptOut.Text.Blank
import OptOut.Text.Letter
import OptOut.Text.Numeral

/-!
# Patterns

Tells whether a text is a regular expression that can be matched. A pattern is read from left to
right. It matches by code point and has no tables of letters, so that whatever would need one is
refused: classes of digits, blanks and word characters, the ends of words, and letters in any case.
A flag can switch to matching by octet, where such classes mean the ASCII characters; there, what
could match a part of a character is refused. A pattern has no counts in braces.
-/

namespace OptOut.Pattern

/-- How a part of a pattern is read. -/
structure Mode where
    /-- Whether it is matched by code point instead of by octet. -/
    byCodePoint : Bool := true
    anyCase : Bool := false
    /-- Whether blanks and comments in it do not count. -/
    spaced : Bool := false
deriving DecidableEq, Repr

/-- Drops blanks, comments up to the end of their line and, if it is given, another character. -/
def dropSpace (further : Option Char) (inComment : Bool) : List Char → List Char
  | [] => []
  | char :: rest =>
    if inComment then dropSpace further (char ≠ '\n') rest
    else if Text.isBlank char || further = some char then dropSpace further false rest
    else if char = '#' then dropSpace further true rest
    else char :: rest

namespace Mode

def skip (mode : Mode) (chars : List Char) : List Char :=
  if mode.spaced then dropSpace none false chars else chars

/-- Goes to the next character that counts and is no hyphen. -/
def skipHyphens (mode : Mode) (chars : List Char) : List Char :=
  if mode.spaced then dropSpace (some '-') false chars else chars.dropWhile (· = '-')

/-- Sets or clears a flag. The others have no bearing on what is well formed. -/
def withFlag (mode : Mode) (flag : Char) (value : Bool) : Mode :=
  match flag with
  | 'u' => { mode with byCodePoint := value }
  | 'i' => { mode with anyCase := value }
  | 'x' => { mode with spaced := value }
  | _ => mode

/-- Letters can be folded only where a character is an octet. -/
def canFold (mode : Mode) : Bool :=
  !(mode.byCodePoint && mode.anyCase)

/-- What is not in a class can be any octet, also a part of a character. -/
def canNegate (mode : Mode) (negated : Bool) : Bool :=
  mode.byCodePoint || !negated

end Mode

/-! ## Characters and escapes -/

/-- The smallest part of a pattern. -/
inductive Atom where
    /-- A character, which may have been written as one octet. -/
  | char (value : Char) (asOctet : Bool)
    /-- Digits, blanks, word characters, or all but these. -/
  | family (negated : Bool)
  | textEdge
  | wordEdge
deriving DecidableEq, Repr

namespace Atom

def fits (mode : Mode) : Atom → Bool
  | char value asOctet =>
    mode.canFold && (mode.byCodePoint || value.toNat < 0x80 || !(asOctet || mode.anyCase))
  | family negated => !mode.byCodePoint && !negated
  | textEdge => true
  | wordEdge => !mode.byCodePoint

/-- Whether it can stand in a bracketed class. -/
def fitsClass (mode : Mode) : Atom → Bool
  | char value _ => mode.canFold && (mode.byCodePoint || value.toNat < 0x80)
  | family negated => !mode.byCodePoint && !negated
  | _ => false

end Atom

def readHex (mode : Mode) : Nat → Nat → List Char → Option (Nat × List Char)
  | 0, value, chars => some (value, chars)
  | digits + 1, value, chars =>
    match mode.skip chars with
    | [] => none
    | char :: rest => do readHex mode digits (value * 16 + (← Text.hexValue char)) rest

def readCode (mode : Mode) (digits : Nat) (chars : List Char) : Option (Atom × List Char) := do
  let (code, rest) ← readHex mode digits 0 chars
  if code.isValidChar then some (.char (Char.ofNat code) (digits = 2), rest) else none

def readEscape (mode : Mode) : List Char → Option (Atom × List Char)
  | [] => none
  | char :: rest =>
    match char with
    | 'x' => readCode mode 2 rest
    | 'u' => readCode mode 4 rest
    | 'U' => readCode mode 8 rest
    | 'd' | 's' | 'w' => some (.family false, rest)
    | 'D' | 'S' | 'W' => some (.family true, rest)
    | 'a' => some (.char '\x07' false, rest)
    | 'f' => some (.char '\x0c' false, rest)
    | 't' => some (.char '\t' false, rest)
    | 'n' => some (.char '\n' false, rest)
    | 'r' => some (.char '\r' false, rest)
    | 'v' => some (.char '\x0b' false, rest)
    | 'A' | 'z' => some (.textEdge, rest)
    | 'b' | 'B' | '<' | '>' => some (.wordEdge, rest)
    | _ => if char.isAlphanum || 0x80 ≤ char.toNat then none else some (.char char false, rest)

def readAtom (mode : Mode) : List Char → Option (Atom × List Char)
  | [] => none
  | '\\' :: rest => readEscape mode rest
  | char :: rest => some (.char char false, rest)

/-! ## Bracketed classes -/

def classNames : List String := [
  "alnum", "alpha", "ascii", "blank", "cntrl", "digit", "graph", "lower", "print", "punct", "space",
  "upper", "word", "xdigit"]

/-- Reads the name of a class between colons, from behind its opening bracket. -/
def readNamed : List Char → Option (Bool × List Char)
  | ':' :: rest =>
    let (negated, rest) := match rest with
      | '^' :: rest => (true, rest)
      | _ => (false, rest)
    match rest.dropWhile (· ≠ ':') with
    | ':' :: ']' :: after =>
      if classNames.contains (String.ofList (rest.takeWhile (· ≠ ':'))) then some (negated, after)
      else none
    | _ => none
  | _ => none

/-- Reads the beginning of a class, from behind its opening bracket. The hyphens that come first
are members, and so is a bracket that comes first and would close it. -/
def openClass (mode : Mode) (chars : List Char) : Option (List Char) :=
  let (negated, chars) := match mode.skip chars with
    | '^' :: rest => (true, mode.skip rest)
    | chars => (false, chars)
  if !mode.canNegate negated then none
  else match chars with
    | '-' :: rest => if mode.canFold then some (mode.skipHyphens rest) else none
    | ']' :: rest => if mode.canFold then some rest else none
    | chars => some chars

/-- Reads a member of a class, or a range of them. A hyphen in front of the closing bracket or of
another hyphen makes no range. -/
def readMember (mode : Mode) (chars : List Char) : Option (List Char) := do
  let (first, rest) ← readAtom mode chars
  let single (rest : List Char) := if first.fitsClass mode then some rest else none
  match mode.skip rest with
  | '-' :: after =>
    match mode.skip after with
    | ']' :: _ | '-' :: _ => single ('-' :: after)
    | after =>
      let (last, rest) ← readAtom mode after
      match first, last with
      | .char low _, .char high _ =>
        if low ≤ high && first.fitsClass mode && last.fitsClass mode then some rest else none
      | _, _ => none
  | rest => single rest

/-- Reads a class to its end, from behind its beginning; `around` counts the classes that are open
around it. -/
def readClass (mode : Mode) : Nat → Nat → List Char → Option (List Char)
  | 0, _, _ => none
  | fuel + 1, around, chars =>
    match mode.skip chars with
    | [] => none
    | '[' :: rest =>
      match readNamed rest with
      | some (negated, rest) =>
        if mode.canFold && mode.canNegate negated then readClass mode fuel around rest else none
      | none => do readClass mode fuel (around + 1) (← openClass mode rest)
    | ']' :: rest => if around = 0 then some rest else readClass mode fuel (around - 1) rest
    | '&' :: '&' :: rest | '-' :: '-' :: rest | '~' :: '~' :: rest =>
      readClass mode fuel around rest
    | chars => do readClass mode fuel around (← readMember mode chars)

/-! ## Groups -/

structure Reading where
    mode : Mode := {}
    /-- The modes to return to at the end of the open groups, innermost first. -/
    around : List Mode := []
    /-- The names of groups so far. -/
    names : List (List Char) := []
    /-- Whether a repetition can follow. -/
    repeatable : Bool := false

def readName (chars : List Char) : Option (List Char × List Char) :=
  match chars.takeWhile (· ≠ '>'), chars.dropWhile (· ≠ '>') with
  | first :: others, _ :: rest =>
    if (first = '_' || Text.isLetter first) &&
      others.all fun char => ['_', '.', '[', ']'].contains char || Text.isLetterOrNumeral char
    then some (first :: others, rest) else none
  | _, _ => none

/-- Reads flags, each of which may be given once; those behind a hyphen are cleared. The flags
that were read before are in reverse order. -/
def readFlags (before : List Char) (mode : Mode) : List Char → Option (Mode × List Char)
  | [] => none
  | char :: rest =>
    if char = ':' ∨ char = ')' then
      if before.head? = some '-' then none else some (mode, char :: rest)
    else if before.contains char || !("-imsUuRx".toList.contains char) then none
    else readFlags (char :: before) (mode.withFlag char (!before.contains '-')) rest

namespace Reading

def enter (reading : Reading) (mode : Mode) (names : List (List Char)) : Reading :=
  { mode, around := reading.mode :: reading.around, names }

/-- Reads the beginning of a group, or flags for the rest of the present one, from behind the
opening parenthesis. -/
def openGroup (reading : Reading) (chars : List Char) : Option (Reading × List Char) :=
  match reading.mode.skip chars with
  | '?' :: 'P' :: '<' :: rest | '?' :: '<' :: rest => do
    let (name, rest) ← readName rest
    if reading.names.contains name then none
    else some (reading.enter reading.mode (name :: reading.names), rest)
  | '?' :: ')' :: _ => none
  | '?' :: rest =>
    match readFlags [] reading.mode rest with
    | some (mode, ')' :: rest) => some ({ reading with mode, repeatable := false }, rest)
    | some (mode, _ :: rest) => some (reading.enter mode reading.names, rest)
    | _ => none
  | rest => some (reading.enter reading.mode reading.names, rest)

def closeGroup (reading : Reading) : Option Reading :=
  match reading.around with
  | [] => none
  | mode :: around => some { reading with mode, around, repeatable := true }

end Reading

/-! ## The whole pattern -/

def read : Nat → Reading → List Char → Bool
  | 0, _, _ => false
  | fuel + 1, reading, chars =>
    match reading.mode.skip chars with
    | [] => reading.around.isEmpty
    | '(' :: rest => (reading.openGroup rest).any fun (reading, rest) => read fuel reading rest
    | ')' :: rest => reading.closeGroup.any fun reading => read fuel reading rest
    | '|' :: rest => read fuel { reading with repeatable := false } rest
    | '*' :: rest | '+' :: rest | '?' :: rest => reading.repeatable && read fuel reading rest
    | '{' :: _ => false
    | '[' :: rest =>
      ((openClass reading.mode rest).bind (readClass reading.mode rest.length 0)).any fun rest =>
        read fuel { reading with repeatable := true } rest
    | '.' :: rest => reading.mode.byCodePoint && read fuel { reading with repeatable := true } rest
    | '^' :: rest | '$' :: rest => read fuel { reading with repeatable := true } rest
    | chars =>
      (readAtom reading.mode chars).any fun (atom, rest) =>
        atom.fits reading.mode && read fuel { reading with repeatable := true } rest

/-- Each step reads at least one character, so the length of the text bounds their number. -/
def wellFormed (chars : List Char) : Bool :=
  read (chars.length + 1) {} chars

end OptOut.Pattern
