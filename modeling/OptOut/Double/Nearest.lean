/-!
# Whole numbers as doubles

A double holds 53 significant bits. A longer whole number becomes its nearest neighbour among those
that fit, and of two equally near ones the one whose last bit is zero.
-/

namespace OptOut.Double

def twoTo (exponent : Nat) : Nat :=
  Nat.pow 2 exponent

/-- The bits of a whole number beyond the 53 a double has room for. -/
def excessBits (value : Nat) : Nat :=
  value.log2 + 1 - 53

/-- The quotient by `twoTo shift`, rounded to nearest, a half to the even neighbour. -/
def roundShift (value shift : Nat) : Nat :=
  let quotient := value / twoTo shift
  let remainder := value % twoTo shift
  if 2 * remainder < twoTo shift then quotient
  else if 2 * remainder = twoTo shift ∧ quotient % 2 = 0 then quotient
  else quotient + 1

def nearest (value : Nat) : Nat :=
  roundShift value (excessBits value) * twoTo (excessBits value)

/-- The 64 bits of a double that is a whole number: biased exponent, then the significant bits
after the first. -/
def bitsOfWhole (value : Nat) : Nat :=
  if value = 0 then 0
  else
    let exponent := value.log2
    let significand := if exponent < 52 then value * twoTo (52 - exponent)
      else value / twoTo (exponent - 52)
    (exponent + 1023) * twoTo 52 + (significand - twoTo 52)

/-- The least magnitude that rounds past the largest double. -/
def overflow : Nat :=
  twoTo 1024 - twoTo 970

end OptOut.Double
