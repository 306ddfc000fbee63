import OptOut.Proofs.Enrolment
import OptOut.Proofs.SortedSet

/-!
# What the replica keeps in which order

As long as every upsert lands and scores rise, the members of the replica are, in ascending order,
those that memory does not hold followed by those that it holds in the order of their addition. The
first layer only ever gains what could not be taken out.
-/

namespace OptOut

open Replica

namespace Replica

/-- All operations of a kind among writes that are numbered on from `number` take effect. -/
def Land (operation : Operation) (lands : Nat → Bool) (number : Nat) (writes : List Write) : Prop :=
  ∀ position write, writes[position]? = some write → write.operation = operation →
    lands (number + position) = true

variable {operation : Operation} {lands : Nat → Bool} {number : Nat}

theorem land_iff {writes : List Write} :
    Land operation lands number writes ↔ ∀ position (within : position < writes.length),
      writes[position].operation = operation → lands (number + position) = true := by
  constructor
  · intro land position within
    exact land position _ (List.getElem?_eq_getElem within)
  · intro land position write found
    obtain ⟨within, rfl⟩ := List.getElem?_eq_some_iff.1 found
    exact land position within

instance (writes : List Write) : Decidable (Land operation lands number writes) :=
  decidable_of_iff _ land_iff.symm

theorem Land.first {write : Write} {later : List Write}
    (land : Land operation lands number (write :: later)) (own : write.operation = operation) :
    lands number = true :=
  land 0 write rfl own

theorem Land.of_append {writes later : List Write}
    (land : Land operation lands number (writes ++ later)) :
    Land operation lands number writes ∧ Land operation lands (number + writes.length) later := by
  constructor
  · intro position write found
    apply land
    obtain ⟨within, _⟩ := List.getElem?_eq_some_iff.1 found
    rw [List.getElem?_append_left within, found]
  · intro position write found
    rw [Nat.add_assoc]
    apply land
    rw [List.getElem?_append_right (Nat.le_add_right _ _), Nat.add_sub_cancel_left, found]

end Replica

namespace SortedSet

variable {set : SortedSet} {older order : List Sender} {sender : Sender}

theorem filter_of_absent {senders : List Sender} (absent : sender ∉ senders) :
    senders.filter (· ≠ sender) = senders := by
  rw [List.filter_eq_self]
  intro other held
  rw [decide_eq_true_iff]
  rintro rfl
  exact absent held

theorem insert_layers (layers : set.members = older ++ order) {score : Score}
    (above : ∀ entry ∈ set.entries, entry.score.rank < score.rank) (stranger : sender ∉ order) :
    (set.insert score sender).members = older.filter (· ≠ sender) ++ (order ++ [sender]) := by
  rw [set.members_insert_newest above, layers, List.filter_append, filter_of_absent stranger,
    List.append_assoc]

theorem erase_layers (layers : set.members = older ++ sender :: order) :
    (set.erase sender).members = older ++ order := by
  have distinct := layers ▸ set.members_nodup
  rw [List.nodup_append, List.nodup_cons] at distinct
  obtain ⟨_, ⟨absent, _⟩, apart⟩ := distinct
  have earlier : sender ∉ older := fun held => apart sender held sender List.mem_cons_self rfl
  rw [set.members_erase, layers, List.filter_append, filter_of_absent earlier,
    List.filter_cons_of_neg (by simp), filter_of_absent absent]

end SortedSet

namespace Roster

/-- The first layer of the replica after some enrolments. -/
structure Leftover (roster : Roster) (older enrolled : List Sender) (complete : Prop)
    (after : Roster) (left : List Sender) : Prop where
    cleared : complete → left = older.filter (· ∉ enrolled)
    full : older = [] ∨ roster.order.length = roster.room →
      left = [] ∨ after.order.length = after.room
    known : ∀ sender ∈ left, sender ∈ older ∨ sender ∈ roster.order ∨ sender ∈ enrolled

variable {roster : Roster} {set : SortedSet} {older : List Sender} {sender : Sender}
  {score : Score} {lands : Nat → Bool} {number : Nat}

theorem enrolment_layers (coherent : roster.Coherent) (any : 0 < roster.room)
    (layers : set.members = older ++ roster.order)
    (above : ∀ entry ∈ set.entries, entry.score.rank < score.rank)
    (stranger : roster.has sender = false) (landed : lands number = true) (key : String) :
    let writes := ((roster.enrolment sender score).batch key).writes
    ∃ left, (replay lands number writes set).members = left ++ (roster.remember sender).order ∧
      roster.Leftover older [sender] (Land .remove lands number writes) (roster.remember sender)
        left ∧
      ∀ entry ∈ (replay lands number writes set).entries,
        entry = ⟨score, sender⟩ ∨ entry ∈ set.entries := by
  intro writes
  have absent : sender ∉ roster.order := by
    rw [← coherent.agree, stranger]
    decide
  have joined := SortedSet.insert_layers layers above absent
  have scores : ∀ entry ∈ (set.insert score sender).entries,
      entry = ⟨score, sender⟩ ∨ entry ∈ set.entries := fun _ => set.mem_insert
  have remember : roster.remember sender = (roster.enrol sender ⟨0⟩).1 := by
    rw [Roster.remember, stranger]
    rfl
  have cleared : older.filter (· ≠ sender) = older.filter (· ∉ [sender]) := by
    simp
  by_cases free : roster.order.length < roster.room
  · have single : writes = [.upsert sender score] := by
      simp [writes, enrolment, Enrolment.batch, free]
    rw [single, remember, enrol_with_room free, replay, landed, if_pos rfl]
    refine ⟨_, joined, ⟨fun _ => cleared, ?_, ?_⟩, scores⟩
    · rintro (none | full)
      · exact .inl (by rw [none]; rfl)
      · omega
    · intro other held
      exact .inl (List.mem_filter.1 held).1
  · have full : roster.order.length = roster.room :=
      Nat.le_antisymm coherent.bounded (Nat.le_of_not_lt free)
    obtain ⟨oldest, others, order⟩ := List.exists_cons_of_length_pos (full ▸ any)
    have moved : roster.order ++ [sender] = oldest :: (others ++ [sender]) := by
      rw [order]
      rfl
    have still : (others ++ [sender]).length = roster.room := by
      rw [← full, order, List.length_append]
      rfl
    have double : writes = [.upsert sender score, .remove oldest] := by
      simp [writes, enrolment, Enrolment.batch, free, moved]
    rw [moved] at joined
    rw [double, remember, enrol_when_full (Nat.le_of_not_lt free) moved, replay, landed, if_pos rfl,
      replay, replay]
    cases removed : lands (number + 1) with
    | true =>
        refine ⟨_, SortedSet.erase_layers joined, ⟨fun _ => cleared, fun _ => .inr still, ?_⟩, ?_⟩
        · intro other held
          exact .inl (List.mem_filter.1 held).1
        · intro entry held
          exact scores entry (SortedSet.mem_erase _ held)
    | false =>
        -- The oldest sender stays behind, at the end of the first layer.
        refine ⟨older.filter (· ≠ sender) ++ [oldest], ?_, ⟨?_, fun _ => .inr still, ?_⟩, scores⟩
        · rw [List.append_assoc]
          exact joined
        · intro complete
          have landed := complete 1 (.remove oldest) rfl rfl
          rw [removed] at landed
          cases landed
        · intro other held
          rcases List.mem_append.1 held with held | held
          · exact .inl (List.mem_filter.1 held).1
          · rw [List.mem_singleton.1 held, order]
            exact .inr (.inl List.mem_cons_self)

theorem Coherent.remember (coherent : roster.Coherent) (sender : Sender) :
    (roster.remember sender).Coherent := by
  rw [Roster.remember]
  split
  · exact coherent
  · rename_i stranger
    exact coherent.enrol (by simpa using stranger)

theorem Coherent.mem_remember (coherent : roster.Coherent) {other : Sender}
    (held : other ∈ (roster.remember sender).order) : other ∈ roster.order ∨ other = sender := by
  rw [Roster.remember] at held
  split at held
  · exact .inl held
  · rw [enrol_order coherent.bounded] at held
    simpa using (rtake_suffix _ _).subset held

theorem Leftover.trans {later left further : List Sender} {next after : Roster}
    {complete complete' : Prop} (leftover : roster.Leftover older [sender] complete next left)
    (coming : ∀ other ∈ next.order, other ∈ roster.order ∨ other = sender)
    (rest : next.Leftover left later complete' after further) :
    roster.Leftover older (sender :: later) (complete ∧ complete') after further := by
  refine ⟨?_, fun whole => rest.full (leftover.full whole), ?_⟩
  · rintro ⟨first, second⟩
    rw [rest.cleared second, leftover.cleared first, List.filter_filter]
    apply List.filter_congr
    intro other _
    simp [Bool.and_comm]
  · intro other held
    rcases rest.known other held with held | held | held
    · rcases leftover.known other held with held | held | held
      · exact .inl held
      · exact .inr (.inl held)
      · rw [List.mem_singleton.1 held]
        exact .inr (.inr List.mem_cons_self)
    · rcases coming other held with held | rfl
      · exact .inr (.inl held)
      · exact .inr (.inr List.mem_cons_self)
    · exact .inr (.inr (List.mem_cons_of_mem _ held))

theorem replay_layers (shows : Nat → Millis) (senders : List Sender) (key : String)
    (coherent : roster.Coherent) (any : 0 < roster.room)
    (layers : set.members = older ++ roster.order) {reading : Nat}
    (above : ∀ entry ∈ set.entries, ∀ enrolment ∈ history shows senders reading roster,
      entry.score.rank < enrolment.entry.score.rank)
    (rising : (history shows senders reading roster).Pairwise fun earlier later =>
      earlier.entry.score.rank < later.entry.score.rank)
    (upserts : Land .upsert lands number
      (writesOf ((history shows senders reading roster).map (Enrolment.batch key)))) :
    let enrolments := history shows senders reading roster
    let writes := writesOf (enrolments.map (Enrolment.batch key))
    ∃ left, (replay lands number writes set).members = left ++ (roster.rememberAll senders).order ∧
      roster.Leftover older (enrolments.map (·.entry.member)) (Land .remove lands number writes)
        (roster.rememberAll senders) left := by
  induction senders generalizing roster set older reading number with
  | nil =>
      refine ⟨older, layers, fun _ => ?_, id, fun _ => .inl⟩
      simp [history]
  | cons sender rest induction =>
      have next : roster.rememberAll (sender :: rest) =
          (roster.remember sender).rememberAll rest := rfl
      rw [next]
      cases known : roster.has sender with
      | true =>
          have same : roster.remember sender = roster := by
            rw [Roster.remember, known]
            rfl
          have skip : history shows (sender :: rest) reading roster =
              history shows rest reading roster := by
            rw [history, if_pos known]
          rw [skip] at above rising upserts ⊢
          rw [same]
          exact induction coherent any layers above rising upserts
      | false =>
          have first : history shows (sender :: rest) reading roster =
              roster.enrolment sender (.ofMillis (shows reading)) ::
                history shows rest (reading + 1) (roster.remember sender) := by
            rw [history, known]
            rfl
          rw [first] at above rising upserts ⊢
          rw [List.pairwise_cons] at rising
          obtain ⟨own, others⟩ := Land.of_append upserts
          obtain ⟨left, one, leftover, scores⟩ := enrolment_layers coherent any layers
            (fun entry held => above entry held _ List.mem_cons_self) known (own.first rfl) key
          have room : (roster.remember sender).room = roster.room := by
            rw [Roster.room, remember_settings, Roster.room]
          obtain ⟨further, whole, remains⟩ := induction (coherent.remember sender) (room ▸ any) one
            (fun entry held enrolment later => by
              rcases scores entry held with rfl | held
              · exact rising.1 enrolment later
              · exact above entry held enrolment (List.mem_cons_of_mem _ later))
            rising.2 others
          have both := leftover.trans (fun _ => coherent.mem_remember) remains
          refine ⟨further, ?_, fun complete => both.cleared (Land.of_append complete), both.full,
            both.known⟩
          rw [List.map_cons, writesOf, List.flatMap_cons, replay_append]
          exact whole

end Roster

end OptOut
