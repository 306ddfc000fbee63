import OptOut.Text.Blank
import OptOut.Text.CaseTable

/-!
# Lower case

Full lower-casing without regard to language. Two letters need more than the table: capital I with
a dot above becomes two characters, and capital sigma has a form of its own at the end of a word.
-/

namespace OptOut.Text

def lowerCode : List CaseRun → Nat → Nat
  | [], code => code
  | run :: rest, code =>
    if code < run.first then code
    else if code ≤ run.last then
      if (code - run.first) % run.step = 0 then run.image + (code - run.first) else code
    else lowerCode rest code

def capitalSigma : Char := '\u03A3'

/-- The lower-case form of a letter away from the end of a word. -/
def lowerChar (char : Char) : List Char :=
  if char = '\u0130' then ['i', '\u0307'] else [Char.ofNat (lowerCode lowerCaseRuns char.toNat)]

def isCased (char : Char) : Bool :=
  inRanges casedRanges char.toNat

def isCaseIgnorable (char : Char) : Bool :=
  inRanges caseIgnorableRanges char.toNat

/-- Whether the first character that is not skipped has a case. -/
def meetsCased (chars : List Char) : Bool :=
  (chars.dropWhile isCaseIgnorable).head?.any isCased

/-- Sigma ends a word if a cased letter stands before it and none after it. -/
def lowerSigma (before after : List Char) : Char :=
  if meetsCased before && !meetsCased after then '\u03C2' else '\u03C3'

/-- Lower-cases characters that follow `before`, which is in reverse order. -/
def lowerChars (before : List Char) : List Char → List Char
  | [] => []
  | char :: after =>
    (if char = capitalSigma then [lowerSigma before after] else lowerChar char) ++
      lowerChars (char :: before) after

def lowercase (text : String) : String :=
  String.ofList (lowerChars [] text.toList)

/-- Names and words are compared without regard to padding and letter case. -/
def normalize (text : String) : String :=
  lowercase (trim text)

end OptOut.Text
