import OptOut.ManualClock
import OptOut.Proofs.Roster
import OptOut.Proofs.Replay

/-!
# Histories of enrolments

Adding senders one after another enrols those of them that are strangers at that moment. What is
enrolled, with which score, and who is forgotten for it depends on the senders, on the roster and
on the readings of the clock; nothing that happens to the replica enters into it.
-/

namespace OptOut

/-- A sender that came to be remembered, and the one that was forgotten for it. -/
structure Enrolment where
    entry : ScoredMember
    forgotten : Option Sender
deriving DecidableEq, Repr

def Enrolment.batch (key : String) (enrolment : Enrolment) : Replica.Batch :=
  ⟨key, .upsert enrolment.entry.member enrolment.entry.score ::
    enrolment.forgotten.toList.map .remove⟩

namespace Roster

def enrolment (roster : Roster) (sender : Sender) (score : Score) : Enrolment :=
  ⟨⟨score, sender⟩,
    if roster.order.length < roster.room then none else (roster.order ++ [sender]).head?⟩

theorem enrol_batch (roster : Roster) (sender : Sender) (score : Score) :
    (roster.enrol sender score).2 =
      (roster.enrolment sender score).batch roster.settings.replicaKey := by
  obtain ⟨oldest, rest, joined⟩ := exists_oldest roster.order sender
  by_cases free : roster.order.length < roster.room
  · rw [enrol_with_room free, enrolment, if_pos free]
    rfl
  · rw [enrol_when_full (Nat.le_of_not_lt free) joined, enrolment, if_neg free, joined]
    rfl

section

variable {roster : Roster} {sender : Sender}

theorem mem_enrol_order (coherent : roster.Coherent) (stranger : roster.has sender = false)
    (score : Score) (other : Sender) :
    other ∈ (roster.enrol sender score).1.order ↔
      (other = sender ∨ other ∈ roster.order) ∧
        (roster.enrolment sender score).forgotten ≠ some other := by
  have joined_iff : other ∈ roster.order ++ [sender] ↔ other = sender ∨ other ∈ roster.order := by
    rw [List.mem_append, List.mem_singleton, or_comm]
  by_cases free : roster.order.length < roster.room
  · rw [enrol_with_room free, enrolment, if_pos free, joined_iff]
    simp
  · obtain ⟨oldest, rest, joined⟩ := exists_oldest roster.order sender
    have distinct := coherent.joined_distinct stranger
    rw [joined, List.nodup_cons] at distinct
    rw [enrol_when_full (Nat.le_of_not_lt free) joined, enrolment, if_neg free, ← joined_iff,
      joined]
    simp only [List.head?_cons, List.mem_cons, ne_eq, Option.some.injEq]
    constructor
    · intro held
      exact ⟨.inr held, fun same => distinct.1 (same ▸ held)⟩
    · rintro ⟨rfl | held, other⟩
      · exact absurd rfl other
      · exact held

theorem forgotten_mem (any : 0 < roster.room) {score : Score} {oldest : Sender}
    (forgotten : (roster.enrolment sender score).forgotten = some oldest) :
    oldest ∈ roster.order := by
  simp only [enrolment] at forgotten
  split at forgotten
  · exact nomatch forgotten
  · cases order : roster.order with
    | nil =>
        rename_i full
        rw [order] at full
        exact absurd any full
    | cons first rest =>
        rw [order] at forgotten
        rw [← Option.some.inj forgotten]
        exact List.mem_cons_self

end

def remember (roster : Roster) (sender : Sender) : Roster :=
  if roster.has sender then roster else (roster.enrol sender ⟨0⟩).1

def rememberAll (roster : Roster) (senders : List Sender) : Roster :=
  senders.foldl remember roster

@[simp]
theorem remember_settings (roster : Roster) (sender : Sender) :
    (roster.remember sender).settings = roster.settings := by
  rw [remember]
  split
  · rfl
  · exact enrol_settings

@[simp]
theorem remember_all_settings (roster : Roster) (senders : List Sender) :
    (roster.rememberAll senders).settings = roster.settings := by
  induction senders generalizing roster with
  | nil => rfl
  | cons sender rest induction => exact (induction _).trans (remember_settings roster sender)

/-- What adding senders in turn enrols, the clock showing `shows reading` at each reading. -/
def history (shows : Nat → Millis) : List Sender → Nat → Roster → List Enrolment
  | [], _, _ => []
  | sender :: rest, reading, roster =>
    if roster.has sender then history shows rest reading roster
    else roster.enrolment sender (.ofMillis (shows reading)) ::
      history shows rest (reading + 1) (roster.remember sender)

/-! ## Rosters that remember the same -/

/-- Rosters that differ in their writer and in the failures they have seen at most. -/
structure Agrees (roster other : Roster) : Prop where
    settings : roster.settings = other.settings
    order : roster.order = other.order
    members : roster.members = other.members
    additions : roster.additions = other.additions
    evictions : roster.evictions = other.evictions

theorem Agrees.refl (roster : Roster) : roster.Agrees roster :=
  ⟨rfl, rfl, rfl, rfl, rfl⟩

theorem Agrees.symm {roster other : Roster} (agrees : roster.Agrees other) :
    other.Agrees roster :=
  ⟨agrees.settings.symm, agrees.order.symm, agrees.members.symm, agrees.additions.symm,
    agrees.evictions.symm⟩

theorem Agrees.trans {roster other third : Roster} (agrees : roster.Agrees other)
    (further : other.Agrees third) : roster.Agrees third :=
  ⟨agrees.settings.trans further.settings, agrees.order.trans further.order,
    agrees.members.trans further.members, agrees.additions.trans further.additions,
    agrees.evictions.trans further.evictions⟩

variable {roster other : Roster}

theorem Agrees.has (agrees : roster.Agrees other) (sender : Sender) :
    roster.has sender = other.has sender := by
  rw [Roster.has, Roster.has, agrees.members]

theorem Agrees.room (agrees : roster.Agrees other) : roster.room = other.room := by
  rw [Roster.room, Roster.room, agrees.settings]

theorem Agrees.enrol (agrees : roster.Agrees other) (sender : Sender) (score score' : Score) :
    (roster.enrol sender score).1.Agrees (other.enrol sender score').1 := by
  obtain ⟨oldest, rest, joined⟩ := exists_oldest roster.order sender
  have joined' : other.order ++ [sender] = oldest :: rest := agrees.order ▸ joined
  by_cases free : roster.order.length < roster.room
  · have free' : other.order.length < other.room := agrees.order ▸ agrees.room ▸ free
    rw [enrol_with_room free, enrol_with_room free']
    exact ⟨agrees.settings, by simp [agrees.order], by simp [agrees.members],
      by simp [agrees.additions], agrees.evictions⟩
  · have full := Nat.le_of_not_lt free
    have full' : other.room ≤ other.order.length := agrees.order ▸ agrees.room ▸ full
    rw [enrol_when_full full joined, enrol_when_full full' joined']
    exact ⟨agrees.settings, rfl, by simp [agrees.members], by simp [agrees.additions],
      by simp [agrees.evictions]⟩

theorem Agrees.remember (agrees : roster.Agrees other) (sender : Sender) :
    (roster.remember sender).Agrees (other.remember sender) := by
  rw [Roster.remember, Roster.remember, agrees.has]
  split
  · exact agrees
  · exact agrees.enrol sender _ _

theorem Agrees.remember_all (agrees : roster.Agrees other) (senders : List Sender) :
    (roster.rememberAll senders).Agrees (other.rememberAll senders) := by
  induction senders generalizing roster other with
  | nil => exact agrees
  | cons sender rest induction => exact induction (agrees.remember sender)

theorem Agrees.enrolment (agrees : roster.Agrees other) (sender : Sender) (score : Score) :
    roster.enrolment sender score = other.enrolment sender score := by
  rw [Roster.enrolment, Roster.enrolment, agrees.order, agrees.room]

theorem Agrees.history (agrees : roster.Agrees other) (shows : Nat → Millis)
    (senders : List Sender) (reading : Nat) :
    Roster.history shows senders reading roster = Roster.history shows senders reading other := by
  induction senders generalizing roster other reading with
  | nil => rfl
  | cons sender rest induction =>
      rw [Roster.history, Roster.history, agrees.has, induction agrees,
        induction (agrees.remember sender), agrees.enrolment]

/-! ## Histories in parts -/

theorem history_append (shows : Nat → Millis) (senders later : List Sender) (reading : Nat)
    (roster : Roster) :
    history shows (senders ++ later) reading roster =
      history shows senders reading roster ++
        history shows later (reading + (history shows senders reading roster).length)
          (roster.rememberAll senders) := by
  induction senders generalizing reading roster with
  | nil => rfl
  | cons sender rest induction =>
      have next : roster.rememberAll (sender :: rest) = (roster.remember sender).rememberAll rest := rfl
      rw [List.cons_append, history, history, next]
      split
      · rename_i known
        have same : roster.remember sender = roster := by
          rw [remember, if_pos known]
        rw [induction, same]
      · rw [induction, List.length_cons, List.cons_append, Nat.add_right_comm, Nat.add_assoc]

theorem history_additions (shows : Nat → Millis) (senders : List Sender) (reading : Nat)
    (roster : Roster) :
    (roster.rememberAll senders).additions =
      roster.additions + (history shows senders reading roster).length := by
  induction senders generalizing reading roster with
  | nil => rfl
  | cons sender rest induction =>
      have next : roster.rememberAll (sender :: rest) = (roster.remember sender).rememberAll rest := rfl
      rw [history, next]
      split
      · rename_i known
        have same : roster.remember sender = roster := by
          rw [remember, if_pos known]
        rw [same, induction reading]
      · rename_i stranger
        have more : (roster.remember sender).additions = roster.additions + 1 := by
          rw [remember, if_neg stranger]
          obtain ⟨oldest, others, joined⟩ := exists_oldest roster.order sender
          by_cases free : roster.order.length < roster.room
          · rw [enrol_with_room free]
          · rw [enrol_when_full (Nat.le_of_not_lt free) joined]
        rw [induction (reading + 1), more, List.length_cons]
        omega

/-- Every beginning of a history is the history of a beginning. -/
theorem history_take (shows : Nat → Millis) (senders : List Sender) (reading : Nat)
    (roster : Roster) (count : Nat)
    (within : count ≤ (history shows senders reading roster).length) :
    ∃ first ≤ senders.length, history shows (senders.take first) reading roster =
      (history shows senders reading roster).take count := by
  induction senders generalizing reading roster count with
  | nil => exact ⟨0, Nat.le_refl 0, by simp [history]⟩
  | cons sender rest induction =>
      rw [history] at within ⊢
      by_cases known : roster.has sender = true
      · rw [if_pos known] at within ⊢
        obtain ⟨first, bound, same⟩ := induction reading roster count within
        refine ⟨first + 1, Nat.succ_le_succ bound, ?_⟩
        rw [List.take_succ_cons, history, if_pos known, same]
      · rw [if_neg known] at within ⊢
        cases count with
        | zero => exact ⟨0, Nat.zero_le _, by simp [history]⟩
        | succ count =>
            obtain ⟨first, bound, same⟩ := induction (reading + 1) (roster.remember sender) count
              (by simpa using within)
            refine ⟨first + 1, Nat.succ_le_succ bound, ?_⟩
            rw [List.take_succ_cons, history, if_neg known, same, List.take_succ_cons]

end Roster

end OptOut
