import Mathlib.Order.Bounds.Basic
import OptOut.Proofs.Charts
import OptOut.Proofs.Loading

/-!
# What two ranks select

Two ranks select the positions of a list that lie between them. If there are any, they are told by
the first and the last of them, so that a slice from one to the other is never out of range; and no
step on the way to them leaves the range of 64 bits. The newest entries that a load asks for and the
oldest that a trim takes away make up a sorted set between them.
-/

namespace OptOut

/-! ## Exact arithmetic -/

def rankOf? (number : Int) : Option Int64 :=
  if Int64.minValue.toInt ≤ number ∧ number ≤ Int64.maxValue.toInt then some (.ofInt number)
  else none

def indexOf? (rank : Int64) : Option Nat :=
  if 0 ≤ rank.toInt then some rank.toInt.toNat else none

def firstFrom? (length start : Int64) : Option Int64 :=
  if start < 0 then (rankOf? (length.toInt + start.toInt)).map (max · 0) else some start

def lastTo? (length stop : Int64) : Option Int64 :=
  if stop < 0 then rankOf? (length.toInt + stop.toInt)
  else (rankOf? (length.toInt - 1)).map (min stop)

/-- The positions below `length` that lie between two ranks, found in the same steps as by
`rankSpan`, but failing where the exact result of a step is out of range. -/
def exactSpan (length : Nat) (start stop : Int64) : Option (Option (Nat × Nat)) := do
  let length ← rankOf? length
  if length = 0 then return none
  let first ← firstFrom? length start
  let last ← lastTo? length stop
  if first > last ∨ first ≥ length ∨ last < 0 then return none
  return some (← indexOf? first, ← indexOf? last)

theorem rank_of_toInt (rank : Int64) : rankOf? rank.toInt = some rank := by
  rw [rankOf?, if_pos ⟨rank.minValue_le_toInt, rank.toInt_le⟩, Int64.ofInt_toInt]

theorem index_of_nonneg {rank : Int64} (forward : 0 ≤ rank.toInt) :
    indexOf? rank = some rank.toNatClampNeg := by
  rw [indexOf?, if_pos forward, rank.toNat_toInt]

section Exact

variable {length : Nat} (fits : length < rankCount)
include fits

theorem first_from (start : Int64) :
    firstFrom? (Int64.ofNat length) start =
      some (if start < 0 then max (Int64.ofNat length + start) 0 else start) := by
  unfold firstFrom?
  split
  · rename_i back
    rw [toInt_length fits, ← toInt_from_end fits (Int64.lt_iff_toInt_lt.1 back), rank_of_toInt]
    rfl
  · rfl

theorem last_to (occupied : 0 < length) (stop : Int64) :
    lastTo? (Int64.ofNat length) stop =
      some (if stop < 0 then Int64.ofNat length + stop
        else min stop (Int64.ofNat length - 1)) := by
  unfold lastTo?
  split
  · rename_i back
    rw [toInt_length fits, ← toInt_from_end fits (Int64.lt_iff_toInt_lt.1 back), rank_of_toInt]
  · rw [toInt_length fits, ← toInt_last fits occupied, rank_of_toInt]
    rfl

/-- No step on the way from two ranks to positions is out of range. -/
theorem exact_span_eq (start stop : Int64) :
    exactSpan length start stop = some (rankSpan length start stop) := by
  have counted : rankOf? length = some (Int64.ofNat length) := by
    rw [← toInt_length fits, rank_of_toInt]
  rcases Nat.eq_zero_or_pos length with rfl | occupied
  · rfl
  have nonempty := length_ne_zero fits occupied
  have forward : 0 ≤ (if start < 0 then max (Int64.ofNat length + start) 0 else start).toInt := by
    split
    · rw [toInt_max]
      exact Int.le_max_right _ _
    · rename_i ahead
      exact Int.not_lt.1 fun back => ahead (Int64.lt_iff_toInt_lt.2 back)
  simp only [exactSpan, rankSpan, counted, if_neg nonempty, Option.bind_eq_bind, Option.bind_some,
    first_from fits, last_to fits occupied]
  -- From here on only the signs of the two ranks matter.
  generalize (if start < 0 then max (Int64.ofNat length + start) 0 else start) = lower at forward ⊢
  generalize (if stop < 0 then Int64.ofNat length + stop
    else min stop (Int64.ofNat length - 1)) = upper
  split
  · rfl
  · rename_i within
    have upward : 0 ≤ upper.toInt :=
      Int.not_lt.1 fun back => within (.inr (.inr (Int64.lt_iff_toInt_lt.2 back)))
    rw [index_of_nonneg forward, index_of_nonneg upward]
    rfl

end Exact

/-! ## Positions -/

/-- The positions below `length` that lie between two ranks inclusive. -/
def selected (length : Nat) (start stop : Int64) : Set Nat :=
  {position | position < length ∧ positionOf length start ≤ position ∧
    (position : Int) ≤ positionOf length stop}

section Selected

variable {length : Nat} (fits : length < rankCount)
include fits

theorem rank_span_some_iff {start stop : Int64} {first last : Nat} :
    rankSpan length start stop = some (first, last) ↔
      IsLeast (selected length start stop) first ∧
        IsGreatest (selected length start stop) last := by
  have span := rank_span_eq fits start stop
  dsimp only at span
  rw [span]
  constructor
  · intro found
    split at found
    · rename_i any
      obtain ⟨rfl, rfl⟩ := Prod.mk.inj (Option.some.inj found)
      refine ⟨⟨⟨by omega, by omega, by omega⟩, ?_⟩, ⟨by omega, by omega, by omega⟩, ?_⟩
      · rintro position ⟨_, after, _⟩
        omega
      · rintro position ⟨within, _, before⟩
        omega
    · exact nomatch found
  · -- The clamped ranks are selected themselves, so that nothing selected lies beyond them.
    rintro ⟨⟨⟨within, after, before⟩, least⟩, ⟨within', after', before'⟩, greatest⟩
    have any : max (positionOf length start) 0 ≤ min (positionOf length stop) (length - 1) := by
      omega
    have start' : first ≤ (max (positionOf length start) 0).toNat :=
      least ⟨by omega, by omega, by omega⟩
    have stop' : (min (positionOf length stop) (length - 1)).toNat ≤ last :=
      greatest ⟨by omega, by omega, by omega⟩
    rw [if_pos any]
    congr 2 <;> omega

theorem rank_span_is_some_iff {start stop : Int64} :
    (rankSpan length start stop).isSome = true ↔ (selected length start stop).Nonempty := by
  constructor
  · intro found
    obtain ⟨⟨first, last⟩, span⟩ := Option.isSome_iff_exists.1 found
    exact ⟨first, ((rank_span_some_iff fits).1 span).1.1⟩
  · rintro ⟨position, within, after, before⟩
    rw [rank_span_eq fits, if_pos (by omega)]
    rfl

end Selected

/-- The elements from a first to a last position, if the list has all these positions. -/
def slice? {α : Type} (first last : Nat) (elements : List α) : Option (List α) :=
  if first ≤ last + 1 ∧ last < elements.length then some ((elements.take (last + 1)).drop first)
  else none

theorem slice_of_span {α : Type} {elements : List α} (fits : elements.length < rankCount)
    {start stop : Int64} {first last : Nat}
    (span : rankSpan elements.length start stop = some (first, last)) :
    slice? first last elements = some (between start stop elements) := by
  obtain ⟨ordered, within⟩ := rank_span_bounds fits span
  rw [slice?, if_pos ⟨by omega, within⟩, between_eq fits, span]

/-! ## The newest and the oldest -/

/-- As many of the first elements as are asked for, if the list has them. -/
theorem between_first {α : Type} {elements : List α} (fits : elements.length < rankCount)
    {count : Nat} (any : 0 < count) (enough : count ≤ elements.length) :
    between 0 (Int64.ofNat count - 1) elements = elements.take count := by
  have last : min (count - 1) (elements.length - 1) + 1 = count := by
    omega
  simp only [between_eq fits, rank_span_first (by omega) fits any (by omega), last, List.drop_zero]

/-- A load of the newest entries lists those that a trim of all the others leaves. -/
theorem load_trim_complement {contents : Contents} {key : String}
    (fits : (contents.set key).size < rankCount) {count : Nat} (any : 0 < count)
    (fewer : count < (contents.set key).size) :
    let members := (contents.set key).members
    let loaded := contents.rangeDescending key 0 (Int64.ofNat count - 1)
    let stop := Int64.ofNat ((contents.set key).size - count) - 1
    let trimmed := between 0 stop members
    let (removed, rest) := contents.trimLowest key 0 stop
    members = trimmed ++ loaded.reverse ∧
      (∀ member ∈ members, member ∈ loaded ↔ member ∉ trimmed) ∧
      removed = trimmed.length ∧ (rest.set key).members = loaded.reverse := by
  intro members loaded stop trimmed
  have length : members.length = (contents.set key).size := (contents.set key).length_members
  have oldest : trimmed = members.take ((contents.set key).size - count) :=
    between_first (length ▸ fits) (by omega) (by omega)
  have newest : loaded.reverse = members.rtake count := by
    rw [show loaded = _ from contents.range_newest key fits any (by omega),
      ← List.rtake_eq_reverse_take_reverse]
  have whole : members = trimmed ++ loaded.reverse := by
    rw [oldest, newest, List.rtake, length, List.take_append_drop]
  rw [contents.trim_oldest key fits (by omega) (by omega)]
  refine ⟨whole, ?_, ?_, ?_⟩
  · intro member held
    have distinct : members.Nodup := (contents.set key).members_nodup
    rw [whole] at held distinct
    have apart := List.disjoint_of_nodup_append distinct
    constructor
    · exact fun listed removed => apart removed (List.mem_reverse.2 listed)
    · exact fun kept => List.mem_reverse.1 ((List.mem_append.1 held).resolve_left kept)
  · rw [oldest, List.length_take, length]
    omega
  · rw [Contents.set_put_set, newest, ← Roster.members_rtake, Nat.sub_sub_self (by omega)]
    rfl

/-- Ranks are resolved without overflow, to the first and the last of the positions between them if
there is any, and then no slice between those two is out of range. A load of the newest and a trim
of the rest take complementary members. -/
theorem ranks_select {length : Nat} (fits : length < rankCount) (start stop : Int64) :
    exactSpan length start stop = some (rankSpan length start stop) ∧
    ((rankSpan length start stop).isSome = true ↔ (selected length start stop).Nonempty) ∧
    (∀ first last, rankSpan length start stop = some (first, last) ↔
      IsLeast (selected length start stop) first ∧
        IsGreatest (selected length start stop) last) ∧
    (∀ first last, rankSpan length start stop = some (first, last) →
      first ≤ last ∧ last < length ∧ ∀ (α : Type) (elements : List α),
        elements.length = length →
          slice? first last elements = some (between start stop elements)) ∧
    ∀ (contents : Contents) (key : String) (count : Nat), (contents.set key).size = length →
      0 < count → count < length →
        let members := (contents.set key).members
        let loaded := contents.rangeDescending key 0 (Int64.ofNat count - 1)
        let stop := Int64.ofNat (length - count) - 1
        let trimmed := between 0 stop members
        let (removed, rest) := contents.trimLowest key 0 stop
        members = trimmed ++ loaded.reverse ∧
          (∀ member ∈ members, member ∈ loaded ↔ member ∉ trimmed) ∧
          removed = trimmed.length ∧ (rest.set key).members = loaded.reverse := by
  refine ⟨exact_span_eq fits start stop, rank_span_is_some_iff fits,
    fun first last => rank_span_some_iff fits, ?_, ?_⟩
  · intro first last span
    obtain ⟨ordered, within⟩ := rank_span_bounds fits span
    refine ⟨ordered, within, ?_⟩
    rintro α elements rfl
    exact slice_of_span fits span
  · rintro contents key count rfl any fewer
    exact load_trim_complement fits any fewer

/-- The widest ranks on a list as long as ranks can count, and three senders of whom the newest is
loaded. -/
theorem ranks_select_at_extremes :
    let longest := rankCount - 1
    let contents := ((({} : Contents).seed "a" (.ofMillis 5) "alice").seed "a" (.ofMillis 9)
      "bob").seed "a" (.ofMillis 5) "carol"
    longest < rankCount ∧
      exactSpan longest Int64.minValue Int64.maxValue = some (some (0, longest - 1)) ∧
      IsGreatest (selected longest Int64.minValue Int64.maxValue) (longest - 1) ∧
      (contents.set "a").size = 3 ∧ exactSpan 3 (-2) (-9) = some none ∧
      ¬(selected 3 (-2) (-9)).Nonempty ∧
      contents.rangeDescending "a" 0 0 = ["bob"] ∧
      ((contents.trimLowest "a" 0 1).2.set "a").members = ["bob"] := by
  intro longest contents
  have fits : longest < rankCount := by decide
  obtain ⟨resolved, _, found, _, _⟩ := ranks_select fits Int64.minValue Int64.maxValue
  have widest : rankSpan longest Int64.minValue Int64.maxValue = some (0, longest - 1) := by
    decide +kernel
  have few : 3 < rankCount := by decide
  obtain ⟨refused, any, _, _, parts⟩ := ranks_select few (-2) (-9)
  have nothing : rankSpan 3 (-2) (-9) = none := by decide +kernel
  have size : (contents.set "a").size = 3 := by decide +kernel
  obtain ⟨_, _, _, left⟩ := parts contents "a" 1 size (by decide) (by decide)
  have newest : contents.rangeDescending "a" 0 0 = ["bob"] := by decide +kernel
  refine ⟨fits, widest ▸ resolved, ((found _ _).1 widest).2, size, nothing ▸ refused, ?_, newest, ?_⟩
  · rw [← any, nothing]
    exact Bool.false_ne_true
  · have loaded : contents.rangeDescending "a" 0 (Int64.ofNat 1 - 1) = ["bob"] := newest
    rw [loaded] at left
    exact left

end OptOut
