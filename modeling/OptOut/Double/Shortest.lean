import OptOut.Double.Nearest

/-!
# Shortest decimal of a double

Of the decimals that read back as a given double, the one with the fewest significant digits, and
of those the nearest. Here for doubles that are whole numbers, written without an exponent.
-/

namespace OptOut.Double

/-- Whether a decimal reads back as `value`: it lies between the midpoints to the neighbouring
doubles, a midpoint included if the last bit of `value` is zero. -/
def readsBack (value decimal : Nat) : Bool :=
  let gap := twoTo (excessBits value)
  let below := if value = twoTo value.log2 then gap else 2 * gap
  let even := value / gap % 2 = 0
  if decimal < value then
    4 * (value - decimal) < below || (even && 4 * (value - decimal) == below)
  else
    4 * (decimal - value) < 2 * gap || (even && 4 * (decimal - value) == 2 * gap)

/-- Looks on the grids of `10 ^ places` and finer for a decimal that reads back. -/
def shortestFrom (value : Nat) : Nat → Nat
  | 0 => value
  | places + 1 =>
    let unit := Nat.pow 10 (places + 1)
    let lower := value / unit * unit
    let upper := lower + unit
    match readsBack value lower, readsBack value upper with
    | true, true => if value - lower < upper - value then lower else upper
    | true, false => lower
    | false, true => upper
    | false, false => shortestFrom value places

/-- The shortest decimal of a whole double below `10 ^ 21`. -/
def shortest (value : Nat) : Nat :=
  shortestFrom value 20

end OptOut.Double
