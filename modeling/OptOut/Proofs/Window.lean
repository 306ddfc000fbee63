import OptOut.Deployment
import OptOut.Proofs.Registrar

/-!
# The decision window

Write down the senders that a registrar remembers at some moment, and after them the sender of each
request that it records from then on. The registrar then always remembers exactly the newest entries
of this log, as many as it has room for. A sender is refused if and only if it is among them, and
nothing but a recorded request moves the window.
-/

namespace OptOut

theorem mem_rtake_of_near {earlier later : List Sender} {sender : Sender} {count : Nat}
    (near : later.length < count) : sender ∈ (earlier ++ sender :: later).rtake count := by
  have before : (earlier ++ sender :: later).length - count ≤ earlier.length := by
    simp only [List.length_append, List.length_cons]
    omega
  rw [List.rtake, List.drop_append_of_le_length before]
  simp

/-- No entry of the log returns before `gap` others came after it. -/
def Spaced (gap : Nat) (log : List Sender) : Prop :=
  ∀ earlier sender later, log = earlier ++ sender :: later → later.length ≤ gap → sender ∉ later

theorem spaced_of_nodup {log : List Sender} (distinct : log.Nodup) (gap : Nat) :
    Spaced gap log := by
  rintro earlier sender later rfl _
  exact (List.nodup_cons.1 (List.nodup_append.1 distinct).2.1).1

theorem Spaced.append {gap : Nat} {log : List Sender} (spaced : Spaced gap log) {newest : Sender}
    (absent : newest ∉ log.rtake gap) : Spaced gap (log ++ [newest]) := by
  intro earlier sender later split near
  rcases List.eq_nil_or_concat later with rfl | ⟨middle, last, rfl⟩
  · exact List.not_mem_nil
  · rw [List.concat_eq_append] at split near ⊢
    rw [← List.cons_append, ← List.append_assoc] at split
    obtain ⟨log', last'⟩ := List.append_inj' split rfl
    obtain rfl : newest = last := List.singleton_inj.1 last'
    simp only [List.length_append, List.length_singleton] at near
    have old : sender ∉ middle := spaced earlier sender middle log' (by omega)
    have new : sender ≠ newest := by
      rintro rfl
      apply absent
      rw [log']
      exact mem_rtake_of_near (by omega)
    simp [old, new]

namespace Registrar

variable {β : Type} [Backend β]

structure Course (β : Type) where
    rulings : List (Event × Ruling)
    registrar : Registrar
    backend : β

/-- Decides on events in turn. Before each of them, the backend may have changed in any way. -/
def follow (registrar : Registrar) (backend : β) : List (Event × (β → β)) → Course β
  | [] => ⟨[], registrar, backend⟩
  | (event, meanwhile) :: rest =>
    let turn := registrar.decide event (meanwhile backend)
    let course := turn.state.follow turn.backend rest
    { course with rulings := (event, turn.answer) :: course.rulings }

def Course.recorded (course : Course β) : List Sender :=
  (course.rulings.filter (·.2.outcome.isRegistered)).map (·.1.pubkey)

theorem recorded_follow_cons (registrar : Registrar) (backend : β) (event : Event)
    (meanwhile : β → β) (rest : List (Event × (β → β))) :
    let turn := registrar.decide event (meanwhile backend)
    (registrar.follow backend ((event, meanwhile) :: rest)).recorded =
      (if turn.answer.outcome.isRegistered then [event.pubkey] else []) ++
        (turn.state.follow turn.backend rest).recorded := by
  intro turn
  simp only [Course.recorded, follow]
  rw [List.filter_cons]
  split <;> rfl

/-- The registrar remembers the newest entries of the log, none of which repeats another. -/
structure Holds (registrar : Registrar) (log : List Sender) : Prop where
    coherent : registrar.roster.Coherent
    window : registrar.roster.order = log.rtake registrar.roster.room
    spaced : Spaced registrar.roster.room log

theorem Holds.start {registrar : Registrar} (coherent : registrar.roster.Coherent) :
    registrar.Holds registrar.roster.order :=
  ⟨coherent, (rtake_of_length_le coherent.bounded).symm, spaced_of_nodup coherent.distinct _⟩

variable {registrar : Registrar} {log : List Sender}

theorem Holds.has_iff (holds : registrar.Holds log) (sender : Sender) :
    registrar.roster.has sender = true ↔ sender ∈ log.rtake registrar.roster.room := by
  rw [holds.coherent.agree, holds.window]

theorem Holds.decide (holds : registrar.Holds log) (event : Event) (backend : β) :
    (registrar.decide event backend).state.Holds (log ++
      if (registrar.decide event backend).answer.outcome.isRegistered then [event.pubkey]
      else []) := by
  have order := decide_order holds.coherent event backend
  refine ⟨decide_coherent holds.coherent event backend, ?_, ?_⟩
  · rw [order, decide_room]
    split
    · rw [holds.window, rtake_append_newest]
    · rw [List.append_nil, holds.window]
  · rw [decide_room]
    cases registered : (registrar.decide event backend).answer.outcome.isRegistered with
    | false => simpa using holds.spaced
    | true =>
        refine holds.spaced.append fun remembered => ?_
        rw [← holds.has_iff] at remembered
        rw [decide_remembered remembered] at registered
        exact Bool.false_ne_true registered

theorem Holds.follow (holds : registrar.Holds log) (events : List (Event × (β → β)))
    (backend : β) :
    let course := registrar.follow backend events
    course.registrar.Holds (log ++ course.recorded) ∧
      course.registrar.scope = registrar.scope ∧
      course.registrar.roster.room = registrar.roster.room := by
  induction events generalizing registrar log backend with
  | nil =>
      refine ⟨?_, rfl, rfl⟩
      simpa [Registrar.follow, Course.recorded] using holds
  | cons first rest induction =>
      obtain ⟨event, meanwhile⟩ := first
      have next := holds.decide event (meanwhile backend)
      have later := induction next (registrar.decide event (meanwhile backend)).backend
      rw [decide_scope, decide_room] at later
      dsimp only
      rw [recorded_follow_cons, ← List.append_assoc]
      exact later

/-- How an event is answered where the given senders are refused. -/
structure Ruled (scope : Scope) (refused : List Sender) (event : Event) (ruling : Ruling) :
    Prop where
    shadowRejected : ruling = ⟨.shadowReject event.id, .alreadyVanished⟩ ↔ event.pubkey ∈ refused
    accepted : event.pubkey ∉ refused → ruling.reply = .accept event.id
    recorded : event.pubkey ∉ refused → (ruling.outcome.isRegistered = true ↔
      event.kind = optOutKind ∧ (scope.target? event).isSome = true)

theorem Holds.ruled (holds : registrar.Holds log) (event : Event) (backend : β) :
    Ruled registrar.scope (log.rtake registrar.roster.room) event
      (registrar.decide event backend).answer := by
  have known := holds.has_iff event.pubkey
  refine ⟨⟨fun rejected => ?_, fun remembered => ?_⟩, fun absent => ?_, fun absent => ?_⟩
  · cases stranger : registrar.roster.has event.pubkey with
    | true => exact known.1 stranger
    | false =>
        have outcome := (decide_stranger stranger backend).2.1
        rw [rejected] at outcome
        exact absurd rfl outcome
  · exact decide_remembered (known.2 remembered) backend
  · rw [← known, Bool.not_eq_true] at absent
    exact (decide_stranger absent backend).1
  · rw [← known, Bool.not_eq_true] at absent
    exact (decide_stranger absent backend).2.2

/-- The decision window: what is remembered, and how every further event is answered, is read off
the newest entries of the log. -/
theorem decision_window (reachable : registrar.Reachable) (events : List (Event × (β → β)))
    (start : β) :
    let room := registrar.roster.settings.capacity.toNat
    let course := registrar.follow start events
    let log := registrar.roster.order ++ course.recorded
    (registrar.roster.order.Nodup ∧ registrar.roster.order.length ≤ room ∧
      ∀ sender, registrar.roster.has sender = true ↔ sender ∈ registrar.roster.order) ∧
    course.registrar.roster.order = log.rtake room ∧
    course.registrar.roster.order.Nodup ∧
    (∀ (event : Event) (backend : β),
      let turn := course.registrar.decide event backend
      Ruled registrar.scope (log.rtake room) event turn.answer ∧
      (turn.answer.outcome.isRegistered = false →
        turn.state.roster.order = course.registrar.roster.order)) ∧
    (∀ (earlier : List Sender) (sender : Sender) (later : List Sender),
      log = earlier ++ sender :: later → later.length = room → sender ∉ log.rtake room) := by
  intro room course log
  have coherent := reachable.coherent
  obtain ⟨holds, scope, same⟩ := (Holds.start coherent).follow events start
  have window : course.registrar.roster.order = log.rtake room := by
    rw [holds.window, same]
    rfl
  refine ⟨⟨coherent.distinct, coherent.bounded, coherent.agree⟩, window, holds.coherent.distinct,
    ?_, ?_⟩
  · intro event backend turn
    have ruled := holds.ruled event backend
    rw [same, scope] at ruled
    refine ⟨ruled, fun unrecorded => ?_⟩
    have order := decide_order holds.coherent event backend
    rw [if_neg (by simpa using unrecorded)] at order
    exact order
  · intro earlier sender later split length
    -- The window is what came after the sender, and the log does not repeat so soon.
    have spaced := holds.spaced earlier sender later split (by rw [same, length]; exact Nat.le_refl _)
    have newest : log.rtake room = later := by
      have count : (earlier ++ sender :: later).length - room = earlier.length + 1 := by
        simp only [List.length_append, List.length_cons]
        omega
      rw [split, List.rtake, count, List.drop_append]
      simp
    rw [newest]
    exact spaced

/-- With room for one, the second request makes the first sender a stranger again. -/
theorem decision_window_for_one :
    let start : Deployment := { clock := .standing 0 }
    let course := (forOne optOutStream).follow start
      [(plainRequest "alice", id), (plainRequest "bob", id)]
    course.registrar.roster.order = ["bob"] ∧
      Ruled ⟨"relay.example"⟩ ["bob"] (plainRequest "alice")
        (course.registrar.decide (plainRequest "alice") start).answer := by
  intro start course
  have built : ofSettings { relayScope := "relay.example", roster := { capacity := 1 } } =
      .ok (forOne optOutStream) := rfl
  obtain ⟨_, window, _, rulings, _⟩ := decision_window (.built built)
    [(plainRequest "alice", id), (plainRequest "bob", id)] start
  have newest : ((forOne optOutStream).roster.order ++ course.recorded).rtake
      (forOne optOutStream).roster.settings.capacity.toNat = ["bob"] := by
    decide +kernel
  exact ⟨window.trans newest, newest ▸ (rulings (plainRequest "alice") start).1⟩

end Registrar

end OptOut
