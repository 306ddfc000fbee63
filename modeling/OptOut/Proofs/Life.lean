import OptOut.Proofs.Crew
import OptOut.Proofs.Enrolment

/-!
# The life of a roster

A roster and the deployment behind it, as senders are added and, between two additions, the writer
of the roster takes steps at whichever moments it gets to. What is in memory afterwards depends on
the senders alone. What is in the replica is a replay of the batches that the enrolments owed it: of
all of them where the roster writes for itself, and of those that the writer is done with where
there is one.
-/

namespace OptOut

open Replica

/-! ## Moves -/

def Deployment.ticked (deployment : Deployment) : Deployment :=
  { deployment with clock := { deployment.clock with next := deployment.clock.next + 1 } }

structure Life where
    roster : Roster
    deployment : Deployment

namespace Life

def ofTurn {α : Type} (turn : Turn α Roster Deployment) : Life :=
  ⟨turn.state, turn.backend⟩

inductive Move where
  | add (sender : Sender)
    /-- The writer of the roster takes a step. -/
  | act
  | pass (time : Nat)
    /-- Writers without anything to do fall asleep. -/
  | settle
    /-- The writers are let work, until one of them is done or all are, or until the time is up. -/
  | work (target : Option WriterId) (time : Option Nat)
deriving DecidableEq, Repr

def Move.sender? : Move → Option Sender
  | add sender => some sender
  | _ => none

def added (moves : List Move) : List Sender :=
  moves.filterMap Move.sender?

def step (life : Life) : Move → Life
  | .add sender => ofTurn (life.roster.add sender life.deployment)
  | .act =>
    match life.roster.writer with
    | none => life
    | some writer =>
      let (crew, memory, _) := life.deployment.crew.act writer life.deployment.memory
      { life with deployment := { life.deployment with crew, memory } }
  | .pass time =>
    { life with deployment := { life.deployment with crew := life.deployment.crew.pass time } }
  | .settle =>
    { life with deployment := { life.deployment with crew := life.deployment.crew.settle } }
  | .work target time =>
    match life.roster.writer with
    | none => life
    | some _ => { life with deployment := (life.deployment.runWriters target time).1 }

def run (life : Life) (moves : List Move) : Life :=
  moves.foldl step life

theorem run_append (life : Life) (moves later : List Move) :
    life.run (moves ++ later) = (life.run moves).run later :=
  List.foldl_append

theorem added_append (moves later : List Move) :
    added (moves ++ later) = added moves ++ added later :=
  List.filterMap_append

/-- What holds at first, is carried on by each addition and is left alone by everything else, holds
of the senders added so far. -/
theorem run_keeps {holds : List Sender → Life → Prop} {life : Life} (start : holds [] life)
    (add : ∀ senders life sender, holds senders life →
      holds (senders ++ [sender]) (life.step (.add sender)))
    (idle : ∀ senders life move, move.sender? = none → holds senders life →
      holds senders (life.step move))
    (moves : List Move) : holds (added moves) (life.run moves) := by
  induction moves using List.reverseRecOn with
  | nil => exact start
  | append_singleton moves move induction =>
      rw [added_append, run_append]
      cases sender : move.sender? with
      | none =>
          rw [show added [move] = [] by simp [added, sender], List.append_nil]
          exact idle _ _ move sender induction
      | some sender =>
          cases move <;> cases sender
          exact add _ _ _ induction

def addAll (life : Life) (senders : List Sender) : Life :=
  life.run (senders.map .add)

theorem added_map_add (senders : List Sender) : added (senders.map .add) = senders := by
  induction senders with
  | nil => rfl
  | cons sender rest induction =>
      rw [List.map_cons]
      simpa [added, Move.sender?] using induction

def key (life : Life) : String :=
  life.roster.settings.replicaKey

def score (life : Life) : Score :=
  .ofMillis life.deployment.clock.current

def replica (life : Life) : SortedSet :=
  life.deployment.memory.contents.set life.key

def enrolments (life : Life) (senders : List Sender) : List Enrolment :=
  Roster.history life.deployment.clock.shows senders life.deployment.clock.next life.roster

def batches (life : Life) (senders : List Sender) : List Batch :=
  (life.enrolments senders).map (Enrolment.batch life.key)

/-! ## Memory

Whatever else goes on, memory holds what the additions left in it. -/

/-- A later moment of a life, at which some senders were added. -/
structure Remembers (origin : Life) (senders : List Sender) (life : Life) : Prop where
    roster : life.roster.Agrees (origin.roster.rememberAll senders)
    writer : life.roster.writer = origin.roster.writer
    clock : life.deployment.clock =
      { origin.deployment.clock with
        next := origin.deployment.clock.next + (origin.enrolments senders).length }

variable {origin life : Life} {senders : List Sender}

theorem remembers_start (life : Life) : life.Remembers [] life :=
  ⟨Roster.Agrees.refl _, rfl, rfl⟩

theorem Remembers.enrolments_add (remembers : origin.Remembers senders life) (sender : Sender) :
    origin.enrolments (senders ++ [sender]) = origin.enrolments senders ++
      if life.roster.has sender then []
      else [life.roster.enrolment sender life.score] := by
  have reading : life.deployment.clock.current = origin.deployment.clock.shows
      (origin.deployment.clock.next + (origin.enrolments senders).length) := by
    rw [remembers.clock]
    rfl
  rw [enrolments, Roster.history_append, score, reading, remembers.roster.has,
    remembers.roster.enrolment]
  rfl

theorem remember_all_append (roster : Roster) (senders : List Sender) (sender : Sender) :
    roster.rememberAll (senders ++ [sender]) = (roster.rememberAll senders).remember sender := by
  simp [Roster.rememberAll]

theorem add_member_life {sender : Sender} (known : life.roster.has sender = true) :
    life.step (.add sender) = life := by
  simp only [step, Roster.add_member known, ofTurn]

theorem add_stranger_life {sender : Sender} (stranger : life.roster.has sender = false) :
    life.step (.add sender) = ofTurn ((life.roster.enrol sender life.score).1.persist
      ((life.roster.enrolment sender life.score).batch life.key) life.deployment.ticked) := by
  simp only [step, Roster.add, stranger, Bool.false_eq_true, if_false, key, ← Roster.enrol_batch]
  rfl

def verdicts (life : Life) : Nat → Bool :=
  life.deployment.memory.lands life.roster.settings.storeTimeout

def number (life : Life) : Nat :=
  life.deployment.memory.calls

theorem Remembers.settings_eq (remembers : origin.Remembers senders life) :
    life.roster.settings = origin.roster.settings :=
  remembers.roster.settings.trans (Roster.remember_all_settings _ _)

theorem Remembers.key_eq (remembers : origin.Remembers senders life) : life.key = origin.key := by
  rw [key, remembers.settings_eq, key]

theorem Remembers.batches_member (remembers : origin.Remembers senders life) {sender : Sender}
    (known : life.roster.has sender = true) :
    origin.batches (senders ++ [sender]) = origin.batches senders := by
  rw [batches, remembers.enrolments_add, known, if_pos rfl, List.append_nil, batches]

theorem Remembers.batches_stranger (remembers : origin.Remembers senders life) {sender : Sender}
    (stranger : life.roster.has sender = false) :
    origin.batches (senders ++ [sender]) = origin.batches senders ++
      [(life.roster.enrolment sender life.score).batch life.key] := by
  rw [batches, remembers.enrolments_add, stranger, List.map_append, batches, remembers.key_eq]
  rfl

theorem Remembers.add (remembers : origin.Remembers senders life) {sender : Sender}
    (stranger : life.roster.has sender = false) {after : Life} {failures : Nat}
    (roster : after.roster =
      { (life.roster.enrol sender life.score).1 with inlineFailures := failures })
    (clock : after.deployment.clock = life.deployment.ticked.clock) :
    origin.Remembers (senders ++ [sender]) after := by
  constructor
  · have remembered : (origin.roster.rememberAll senders).remember sender =
        ((origin.roster.rememberAll senders).enrol sender ⟨0⟩).1 := by
      rw [Roster.remember, ← remembers.roster.has, stranger]
      rfl
    have enrolled := remembers.roster.enrol sender life.score ⟨0⟩
    rw [remember_all_append, remembered, roster]
    exact ⟨enrolled.settings, enrolled.order, enrolled.members, enrolled.additions,
      enrolled.evictions⟩
  · rw [roster, ← remembers.writer]
    exact Roster.enrol_writer
  · rw [clock, Deployment.ticked, remembers.enrolments_add, stranger, remembers.clock]
    simp [Nat.add_assoc]

theorem Remembers.add_member (remembers : origin.Remembers senders life) {sender : Sender}
    (known : life.roster.has sender = true) : origin.Remembers (senders ++ [sender]) life := by
  have same : (origin.roster.rememberAll senders).remember sender = origin.roster.rememberAll senders := by
    rw [Roster.remember, ← remembers.roster.has, known]
    rfl
  refine ⟨?_, remembers.writer, ?_⟩
  · rw [remember_all_append, same]
    exact remembers.roster
  · rw [remembers.enrolments_add, known, remembers.clock]
    simp

theorem Remembers.idle (remembers : origin.Remembers senders life) {after : Life}
    (roster : after.roster = life.roster)
    (clock : after.deployment.clock = life.deployment.clock) :
    origin.Remembers senders after := by
  constructor
  · rw [roster]
    exact remembers.roster
  · rw [roster]
    exact remembers.writer
  · rw [clock]
    exact remembers.clock

end Life

end OptOut
