import OptOut.Proofs.Loading

/-!
# How far a load reaches

A roster may be given any capacity of 64 bits but 0, while the ranks of a load are signed. Up to
half of the capacities, a load brings the newest entries of the replica, as many as there is room
for. Of a larger capacity the sign is lost: its last rank counts back from the end, and the oldest
entries are left out, although there is room for all. The ranks of a trim are always right.
-/

namespace OptOut.Roster

/-- How many of the newest entries a load asks a replica of some size for. -/
def reach (roster : Roster) (size : Nat) : Nat :=
  if roster.room ≤ rankCount then roster.room else size - (UInt64.size - roster.room)

variable {roster : Roster} {memory : Memory}

theorem reach_of_limited (limited : roster.room ≤ rankCount) (size : Nat) :
    roster.reach size = roster.room :=
  if_pos limited

theorem reach_le_room {size : Nat} (countable : size < rankCount) :
    roster.reach size ≤ roster.room := by
  have most : roster.room < UInt64.size := roster.settings.capacity.toNat_lt
  unfold reach
  split
  · exact Nat.le_refl _
  · omega

/-- The last rank that a load asks for. -/
theorem toInt_stop :
    (roster.settings.capacity.toInt64 - 1).toInt =
      if roster.room ≤ rankCount then (roster.room : Int) - 1
      else roster.room - 1 - UInt64.size := by
  have room : roster.settings.capacity.toNat = roster.room := rfl
  have one : (1 : Int64).toInt = 1 := rfl
  have most : roster.room < UInt64.size := roster.settings.capacity.toNat_lt
  -- Beyond 2 ^ 63 the conversion takes 2 ^ 64 off; at 2 ^ 63 itself, the subtraction adds it again.
  rw [int64_of_uint64, room, Int64.toInt_sub, Int64.toInt_ofNat', one]
  unfold rankCount UInt64.size Int64.size at *
  simp only [Int.bmod_def]
  omega

theorem position_of_stop (any : 0 < roster.room) (size : Nat) :
    (positionOf size (roster.settings.capacity.toInt64 - 1) + 1).toNat = roster.reach size := by
  have most : roster.room < UInt64.size := roster.settings.capacity.toNat_lt
  rw [positionOf, toInt_stop, reach]
  unfold UInt64.size at *
  by_cases limited : roster.room ≤ rankCount
  · rw [if_pos limited, if_pos limited, if_neg (by omega)]
    omega
  · rw [if_neg limited, if_neg limited, if_pos (by omega)]
    omega

/-- What a load brings whose first call is served. -/
theorem load_reached (countable : roster.Countable memory) (any : 0 < roster.room)
    (served : memory.lands roster.settings.storeTimeout memory.calls = true) :
    let newest := (roster.replica memory).members.rtake (roster.reach (roster.replica memory).size)
    let turn := roster.load memory
    turn.answer = .ok newest.length ∧ turn.state = roster.replace newest ∧
      (roster.replace newest).order = newest ∧
      turn.backend = ((roster.replace newest).trimReplica memory.skip).2 := by
  intro newest turn
  have fits : (roster.replica memory).size < rankCount := countable
  have range : memory.contents.rangeDescending roster.settings.replicaKey 0
      (roster.settings.capacity.toInt64 - 1) =
        (roster.replica memory).members.reverse.take
          (roster.reach (roster.replica memory).size) := by
    rw [← position_of_stop any]
    exact memory.contents.range_from_top roster.settings.replicaKey fits _
  have answered := Memory.range_served served roster.settings.replicaKey 0
    (roster.settings.capacity.toInt64 - 1)
  rw [range] at answered
  obtain ⟨answer, state, backend, _⟩ := load_answered roster memory answered
  have order : (((roster.replica memory).members.reverse.take
      (roster.reach (roster.replica memory).size)).take roster.room).reverse = newest := by
    rw [List.take_take, Nat.min_eq_right (reach_le_room fits),
      ← List.rtake_eq_reverse_take_reverse]
  have distinct : newest.Nodup :=
    (roster.replica memory).members_nodup.sublist (rtake_suffix _ _).sublist
  have kept := replace_order roster distinct
  rw [order] at answer state backend
  rw [kept] at answer
  exact ⟨answer, state, kept, backend⟩

/-- A capacity keeps its sign in the ranks up to half of all numbers. -/
theorem toInt_capacity_nonneg :
    0 ≤ roster.settings.capacity.toInt64.toInt ↔ roster.room < rankCount := by
  have room : roster.settings.capacity.toNat = roster.room := rfl
  have most : roster.room < UInt64.size := roster.settings.capacity.toNat_lt
  rw [int64_of_uint64, room, Int64.toInt_ofNat']
  unfold rankCount UInt64.size Int64.size at *
  simp only [Int.bmod_def]
  omega

/-- The last rank of a trim. -/
theorem toInt_trim_stop (countable : roster.Countable memory)
    (many : roster.room < (roster.replica memory).size) :
    ((UInt64.ofNat (roster.replica memory).size - roster.settings.capacity).toInt64 - 1).toInt =
      (roster.replica memory).size - roster.room - 1 := by
  have fits : (roster.replica memory).size - roster.room < rankCount :=
    Nat.lt_of_le_of_lt (Nat.sub_le _ _) countable
  rw [excess_eq countable many, toInt_last fits (Nat.sub_pos_of_lt many)]
  omega

theorem length_members_rtake (set : SortedSet) (count : Nat) :
    (set.members.rtake count).length = min count set.size := by
  rw [List.rtake, List.length_drop, set.length_members]
  omega

/-- What is promised of a load: the newest entries of the replica come into memory, as many as there
is room for. -/
structure BringsNewest (roster : Roster) (memory : Memory)
    (turn : Turn (Except RosterFault Nat) Roster Memory) : Prop where
    answer : turn.answer = .ok (min roster.room (roster.replica memory).size)
    order : turn.state.order = (roster.replica memory).members.rtake roster.room
    known : ∀ sender, turn.state.has sender = true ↔
      sender ∈ (roster.replica memory).members.rtake roster.room

/-- The newest that a load asks for are the newest that there is room for, unless the capacity lost
its sign and there is something to leave out. -/
theorem rtake_reach_iff (any : 0 < roster.room) {set : SortedSet}
    (countable : set.size < rankCount) :
    (set.members.rtake (roster.reach set.size)).length = min roster.room set.size ↔
      roster.room ≤ rankCount ∨ set.size = 0 := by
  rw [length_members_rtake, reach]
  have most : roster.room < UInt64.size := roster.settings.capacity.toNat_lt
  split
  · simp_all
  · omega

/-- A load keeps its promise up to half of the capacities; of a larger one it brings the newest of
the replica without as many of the oldest as the capacity stays below 2 ^ 64. The last rank of a
trim is right for every capacity. -/
theorem load_reaches (valid : roster.settings.check = .ok ()) (countable : roster.Countable memory)
    (served : memory.lands roster.settings.storeTimeout memory.calls = true) :
    let replica := roster.replica memory
    let newest := replica.members.rtake (roster.reach replica.size)
    let turn := roster.load memory
    (turn.answer = .ok newest.length ∧ turn.state.order = newest ∧
      ∀ sender, turn.state.has sender = true ↔ sender ∈ newest) ∧
    (roster.BringsNewest memory turn ↔ roster.room ≤ rankCount ∨ replica.size = 0) ∧
    (0 ≤ roster.settings.capacity.toInt64.toInt ↔ roster.room < rankCount) ∧
    (roster.room < replica.size →
      ((UInt64.ofNat replica.size - roster.settings.capacity).toInt64 - 1).toInt =
        replica.size - roster.room - 1) := by
  intro replica newest turn
  have any := RosterSettings.capacity_pos valid
  have fits : replica.size < rankCount := countable
  obtain ⟨answer, state, order, _⟩ := load_reached countable any served
  have few : newest.length ≤ roster.room :=
    (length_rtake_le _ _).trans (reach_le_room fits)
  have known : ∀ sender, turn.state.has sender = true ↔ sender ∈ newest := by
    intro sender
    rw [show turn.state = _ from state, (roster.replace_coherent few).agree, order]
  have order' : turn.state.order = newest := by
    rw [show turn.state = _ from state, order]
  refine ⟨⟨answer, order', known⟩, ?_, toInt_capacity_nonneg, toInt_trim_stop countable⟩
  rw [← rtake_reach_iff any fits]
  constructor
  · intro brings
    exact Except.ok.inj (answer.symm.trans brings.answer)
  · intro length
    have promised := length_members_rtake replica roster.room
    have suffix : newest <:+ replica.members.rtake roster.room :=
      List.suffix_of_suffix_length_le (rtake_suffix _ _) (rtake_suffix _ _)
        (length.trans promised.symm).le
    have same := suffix.eq_of_length (length.trans promised.symm)
    exact ⟨answer.trans (congrArg _ length), order'.trans same, fun sender => same ▸ known sender⟩

def widest : Roster :=
  { settings := { capacity := 18446744073709551615 } }

/-- Of two senders, a roster with room for 2 ^ 64 - 1 brings the newer one. -/
theorem load_reaches_at_widest :
    let contents := (({} : Contents).seed "processed_pubkeys_zset" (.ofMillis 5) "alice").seed
      "processed_pubkeys_zset" (.ofMillis 6) "bob"
    let memory : Memory := { contents }
    (widest.load memory).answer = .ok 1 ∧ (widest.load memory).state.order = ["bob"] ∧
      ¬widest.BringsNewest memory (widest.load memory) := by
  intro contents memory
  have valid : widest.settings.check = .ok () := by decide +kernel
  have countable : widest.Countable memory := by
    unfold Countable
    decide +kernel
  have served : memory.lands widest.settings.storeTimeout memory.calls = true := by decide +kernel
  obtain ⟨⟨answer, order, _⟩, promise, _, _⟩ := load_reaches valid countable served
  have size : (widest.replica memory).size = 2 := by decide +kernel
  have newest : (widest.replica memory).members.rtake
      (widest.reach (widest.replica memory).size) = ["bob"] := by
    decide +kernel
  rw [newest] at answer order
  refine ⟨answer, order, fun brings => ?_⟩
  rw [promise, size] at brings
  exact absurd brings (by decide +kernel)

/-- Nobody who was remembered is forgotten in a load that there is room for: this fails for the
largest capacity and a single sender. -/
theorem load_forgets_one_with_room :
    let contents := ({} : Contents).seed "processed_pubkeys_zset" (.ofMillis 1) "alice"
    let memory : Memory := { contents }
    let turn := widest.load memory
    widest.settings.check = .ok () ∧ (widest.replica memory).members = ["alice"] ∧
      (widest.replica memory).size ≤ widest.room ∧
      turn.answer = .ok 0 ∧ turn.state.has "alice" = false := by
  decide +kernel

end OptOut.Roster
