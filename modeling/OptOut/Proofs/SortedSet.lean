import OptOut.Proofs.Memory
import OptOut.Proofs.Ranks
import OptOut.Proofs.Roster

/-!
# The newest of a sorted set

A member that is given a score above all others becomes the last in order. Ranks that are asked for
from the top down give the newest members, and those that are trimmed from the bottom leave the
newest, as long as the set has fewer members than a rank can count.
-/

namespace OptOut

namespace ScoredMember

theorem place_last {entry : ScoredMember} {entries : List ScoredMember}
    (above : ∀ other ∈ entries, other.score.rank < entry.score.rank) :
    place entry entries = entries ++ [entry] := by
  induction entries with
  | nil => rfl
  | cons first rest induction =>
      have later := above first List.mem_cons_self
      have not : ¬entry.Before first := by
        rintro (before | ⟨same, _⟩)
        · omega
        · omega
      rw [place, if_neg not, induction fun other held => above other (List.mem_cons_of_mem _ held)]
      rfl

end ScoredMember

namespace SortedSet

variable (set : SortedSet)

theorem members_erase (member : Sender) :
    (set.erase member).members = set.members.filter (· ≠ member) := by
  rw [members, members, List.filter_map]
  rfl

theorem entries_insert_newest {score : Score}
    (above : ∀ entry ∈ set.entries, entry.score.rank < score.rank) (member : Sender) :
    (set.insert score member).entries = (set.erase member).entries ++ [⟨score, member⟩] :=
  ScoredMember.place_last fun other held => above other (List.mem_filter.1 held).1

theorem members_insert_newest {score : Score}
    (above : ∀ entry ∈ set.entries, entry.score.rank < score.rank) (member : Sender) :
    (set.insert score member).members = set.members.filter (· ≠ member) ++ [member] := by
  rw [members, set.entries_insert_newest above, List.map_append, ← members, members_erase]
  rfl

/-- Nothing gets a score but by being inserted with it. -/
theorem mem_insert {score : Score} {member : Sender} {entry : ScoredMember}
    (held : entry ∈ (set.insert score member).entries) :
    entry = ⟨score, member⟩ ∨ entry ∈ set.entries := by
  rcases List.mem_cons.1 ((ScoredMember.place_perm _ _).mem_iff.1 held) with same | held
  · exact .inl same
  · exact .inr (List.mem_filter.1 held).1

theorem mem_erase {member : Sender} {entry : ScoredMember}
    (held : entry ∈ (set.erase member).entries) : entry ∈ set.entries :=
  (List.mem_filter.1 held).1

/-- The part of a set that has the highest scores. -/
def newest (count : Nat) : SortedSet :=
  set.restrict (set.entries.rtake count) (rtake_suffix _ _).sublist

theorem erase_range_oldest {excess : Nat} (any : 0 < excess) (within : excess ≤ set.size) :
    set.eraseRange 0 (excess - 1) = set.newest (set.size - excess) := by
  have rest : set.entries.take 0 ++ set.entries.drop (max 0 (excess - 1 + 1)) =
      set.entries.rtake (set.size - excess) := by
    rw [List.rtake, ← size, Nat.sub_sub_self within, Nat.zero_max, Nat.sub_add_cancel any]
    rfl
  simp only [eraseRange, newest, rest]

theorem length_members : set.members.length = set.size := by
  rw [members, List.length_map, size]

theorem members_nodup : set.members.Nodup :=
  set.distinct

end SortedSet

/-! ## Ranks -/

/-- The first `count` of the positions below `length`. -/
theorem rank_span_first {length count : Nat} (occupied : 0 < length) (fits : length < rankCount)
    (any : 0 < count) (countable : count < rankCount) :
    rankSpan length 0 (Int64.ofNat count - 1) = some (0, min (count - 1) (length - 1)) := by
  have start : positionOf length 0 = 0 := rfl
  have stop : positionOf length (Int64.ofNat count - 1) = count - 1 := by
    rw [positionOf, toInt_last countable any, if_neg (by omega)]
  have within : max (0 : Int) 0 ≤ min (count - 1 : Int) (length - 1) := by
    omega
  have last : (min (count - 1 : Int) (length - 1)).toNat = min (count - 1) (length - 1) := by
    omega
  rw [rank_span_eq fits, start, stop, if_pos within, last]
  rfl

theorem int64_of_uint64 (number : UInt64) : number.toInt64 = Int64.ofNat number.toNat := by
  rw [← UInt64.toInt64_ofNat', UInt64.ofNat_toNat]

namespace Contents

variable (contents : Contents) (key : String)

/-- What ranks from the top down give: the newest, down to the position of the last rank. -/
theorem range_from_top (fits : (contents.set key).size < rankCount) (stop : Int64) :
    contents.rangeDescending key 0 stop =
      (contents.set key).members.reverse.take
        (positionOf (contents.set key).size stop + 1).toNat := by
  have length : (contents.set key).members.reverse.length = (contents.set key).size := by
    rw [List.length_reverse, SortedSet.length_members]
  have start : positionOf (contents.set key).size 0 = 0 := rfl
  simp only [rangeDescending, rank_span_eq fits, start, Int.max_self, Int.toNat_zero]
  by_cases within : 0 ≤ min (positionOf (contents.set key).size stop) ((contents.set key).size - 1)
  · simp only [if_pos within, SortedSet.descending, List.drop_zero]
    rw [List.take_eq_take_iff, length]
    omega
  · have nothing : (contents.set key).members.reverse.take
        (positionOf (contents.set key).size stop + 1).toNat = [] := by
      rw [List.take_eq_nil_iff, ← List.length_eq_zero_iff, length]
      omega
    simp only [if_neg within, nothing]

theorem range_newest (fits : (contents.set key).size < rankCount) {count : Nat} (any : 0 < count)
    (countable : count < rankCount) :
    contents.rangeDescending key 0 (Int64.ofNat count - 1) =
      (contents.set key).members.reverse.take count := by
  have last : positionOf (contents.set key).size (Int64.ofNat count - 1) = count - 1 := by
    rw [positionOf, toInt_last countable any, if_neg (by omega)]
  rw [range_from_top contents key fits, last, Int.sub_add_cancel, Int.toNat_natCast]

theorem trim_oldest (fits : (contents.set key).size < rankCount) {excess : Nat} (any : 0 < excess)
    (within : excess ≤ (contents.set key).size) :
    contents.trimLowest key 0 (Int64.ofNat excess - 1) =
      (excess, contents.putSet key ((contents.set key).newest
        ((contents.set key).size - excess))) := by
  have last : min (excess - 1) ((contents.set key).size - 1) = excess - 1 := by
    omega
  have count : excess - 1 - 0 + 1 = excess := by
    omega
  simp only [trimLowest, rank_span_first (by omega) fits any (by omega), last, count,
    SortedSet.erase_range_oldest _ any within]

end Contents

end OptOut
