import OptOut.Double.Nearest
import OptOut.Text.Quoted

/-!
# Scores

The position of a member in a sorted set: a double, held by its 64 bits. Scores are ordered by
sign and magnitude of these bits, so that negative zero comes before zero and every not-a-number
has a place at one of the ends.
-/

namespace OptOut

structure Score where
    bits : UInt64
deriving DecidableEq, Repr

namespace Score

/-- The bit that negative scores have. -/
def signBit : UInt64 := 0x8000000000000000

/-- The place of a score among all scores, from 0 up. -/
def rank (score : Score) : Nat :=
  if score.bits < signBit then score.bits.toNat + signBit.toNat
  else UInt64.size - 1 - score.bits.toNat

/-- The score nearest to a whole number. -/
def ofNat (value : Nat) : Score :=
  ⟨UInt64.ofNat (Double.bitsOfWhole (Double.nearest value))⟩

def ofInt : Int → Score
  | .ofNat value => ofNat value
  | .negSucc value => ⟨(ofNat (value + 1)).bits ||| signBit⟩

/-- The score of a moment, in milliseconds. -/
def ofMillis (millis : UInt64) : Score :=
  ofNat millis.toNat

/-- The bits in sixteen hexadecimal digits. -/
def hex (score : Score) : String :=
  String.ofList (Text.paddedHex 16 score.bits.toNat)

end Score

end OptOut
