/-!
# Rank ranges

Turns two inclusive ranks, either of which may count back from the end, into positions in a list.
-/

namespace OptOut

/-- The first and last of the positions below `length` that lie between two ranks, or nothing if
there is none. -/
def rankSpan (length : Nat) (start stop : Int64) : Option (Nat × Nat) :=
  let length := Int64.ofNat length
  if length = 0 then none
  else
    let first := if start < 0 then max (length + start) 0 else start
    let last := if stop < 0 then length + stop else min stop (length - 1)
    if first > last ∨ first ≥ length ∨ last < 0 then none
    else some (first.toNatClampNeg, last.toNatClampNeg)

end OptOut
