import OptOut.Store.Ranks

/-!
# Ranks in whole numbers

The arithmetic of ranks is done in 64 bits. As long as a list has fewer members than a rank can
count, none of it overflows, and two ranks select exactly the positions of the list that lie between
them.
-/

namespace OptOut

/-- How many ranks count from the lowest score up. -/
def rankCount : Nat :=
  0x8000000000000000

/-- The position that a rank stands for, which may lie before the beginning of a list or beyond its
end. -/
def positionOf (length : Nat) (rank : Int64) : Int :=
  if rank.toInt < 0 then length + rank.toInt else rank.toInt

variable {length : Nat}

theorem toInt_length (fits : length < rankCount) : (Int64.ofNat length).toInt = length :=
  Int64.toInt_ofNat_of_lt fits

theorem length_ne_zero (fits : length < rankCount) (occupied : 0 < length) :
    Int64.ofNat length ≠ 0 := by
  intro empty
  have counted := toInt_length fits
  rw [empty] at counted
  have zero : (0 : Int64).toInt = 0 := rfl
  omega

/-- Counting back from the end of a list does not overflow. -/
theorem toInt_from_end (fits : length < rankCount) {rank : Int64} (negative : rank.toInt < 0) :
    (Int64.ofNat length + rank).toInt = length + rank.toInt := by
  have least := rank.le_toInt
  unfold rankCount at fits
  rw [Int64.toInt_add, toInt_length fits]
  exact Int.bmod_eq_of_le (by omega) (by omega)

/-- Neither does the step from the length of a list to its last position. -/
theorem toInt_last (fits : length < rankCount) (occupied : 0 < length) :
    (Int64.ofNat length - 1).toInt = length - 1 := by
  unfold rankCount at fits
  rw [Int64.toInt_sub, toInt_length fits]
  exact Int.bmod_eq_of_le (by simp; omega) (by simp; omega)

theorem toInt_max (first second : Int64) :
    (max first second).toInt = max first.toInt second.toInt := by
  have chosen : max first second = if first ≤ second then second else first := rfl
  rw [chosen, Int.max_def]
  simp only [Int64.le_iff_toInt_le]
  split <;> rfl

theorem toInt_min (first second : Int64) :
    (min first second).toInt = min first.toInt second.toInt := by
  have chosen : min first second = if first ≤ second then first else second := rfl
  rw [chosen, Int.min_def]
  simp only [Int64.le_iff_toInt_le]
  split <;> rfl

/-- The positions between two ranks are those from the first to the last of them that a list has. -/
theorem rank_span_eq (fits : length < rankCount) (start stop : Int64) :
    let first := max (positionOf length start) 0
    let last := min (positionOf length stop) (length - 1)
    rankSpan length start stop =
      if first ≤ last then some (first.toNat, last.toNat) else none := by
  intro first last
  rcases Nat.eq_zero_or_pos length with rfl | occupied
  · have nowhere : ¬first ≤ last := by
      simp only [first, last]
      omega
    rw [if_neg nowhere]
    rfl
  have nonempty := length_ne_zero fits occupied
  have first' :
      (if start < 0 then max (Int64.ofNat length + start) 0 else start).toInt = first := by
    simp only [first, positionOf, Int64.lt_iff_toInt_lt, Int64.toInt_zero]
    split
    · rename_i negative
      rw [toInt_max, toInt_from_end fits negative, Int64.toInt_zero]
    · omega
  have last' : (if stop < 0 then Int64.ofNat length + stop
      else min stop (Int64.ofNat length - 1)).toInt = last := by
    simp only [last, positionOf, Int64.lt_iff_toInt_lt, Int64.toInt_zero]
    split
    · rename_i negative
      rw [toInt_from_end fits negative]
      omega
    · rw [toInt_min, toInt_last fits occupied]
  simp only [rankSpan, if_neg nonempty]
  -- From here on only the whole numbers behind the two clamped ranks matter.
  generalize (if start < 0 then max (Int64.ofNat length + start) 0 else start) = lower at first' ⊢
  generalize (if stop < 0 then Int64.ofNat length + stop
    else min stop (Int64.ofNat length - 1)) = upper at last' ⊢
  have outside : lower > upper ∨ lower ≥ Int64.ofNat length ∨ upper < 0 ↔ ¬first ≤ last := by
    have least : 0 ≤ first := Int.le_max_right _ _
    have most : last ≤ length - 1 := Int.min_le_right _ _
    simp only [gt_iff_lt, ge_iff_le, Int64.lt_iff_toInt_lt, Int64.le_iff_toInt_le, first', last',
      toInt_length fits, Int64.toInt_zero]
    omega
  by_cases within : first ≤ last
  · rw [if_pos within, if_neg (fun beyond => outside.1 beyond within), ← Int64.toNat_toInt,
      ← Int64.toNat_toInt, first', last']
  · rw [if_neg within, if_pos (outside.2 within)]

end OptOut
