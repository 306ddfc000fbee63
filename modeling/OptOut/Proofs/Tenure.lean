import OptOut.Proofs.Workload

/-!
# The order of effects

A registrar in office, with everything that it and its writer ask of the outside. Whoever is put
into the replica had been put on the stream before, and whoever is taken out of it is taken out
behind the sender that took its place. Loads, failures of the stores, the pace of the writer and its
end have no part in this.
-/

namespace OptOut

open Replica

/-! ## Effects in order -/

structure Displacement where
    newcomer : Sender
    forgotten : Sender
deriving DecidableEq, Repr

/-- When a write may come: that of a newcomer, once a record of it was appended to the stream; the
removal of someone, right behind the upsert of whoever displaced it. -/
def Timely (streamKey : String) (displaced : List Displacement) (earlier : List Effect) :
    Effect → Prop
  | .write _ (.upsert sender _) => ∃ event target moment, event.pubkey = sender ∧
      .append streamKey (Record.ofEvent event target moment).fields ∈ earlier
  | .write key (.remove sender) => ∃ newcomer score, ⟨newcomer, sender⟩ ∈ displaced ∧
      (earlier.filter Effect.isWrite).getLast? = some (.write key (.upsert newcomer score))
  | _ => True

def InOrder (streamKey : String) (displaced : List Displacement) (effects : List Effect) : Prop :=
  ∀ earlier effect later, effects = earlier ++ effect :: later →
    Timely streamKey displaced earlier effect

section

variable {streamKey : String} {displaced more : List Displacement}
  {effects front back quiet : List Effect} {effect : Effect}

theorem Quiet.writes (silent : Quiet quiet) : quiet.filter Effect.isWrite = [] := by
  rw [List.filter_eq_nil_iff]
  intro effect held
  rw [silent effect held]
  exact Bool.false_ne_true

theorem timely_of_no_write (other : effect.isWrite = false) :
    Timely streamKey displaced effects effect := by
  cases effect with
  | write key write => exact nomatch other
  | _ => trivial

theorem Timely.mono (timely : Timely streamKey displaced effects effect)
    (fewer : ∀ displacement ∈ displaced, displacement ∈ more) :
    Timely streamKey more effects effect := by
  rcases effect with _ | _ | ⟨key, _ | sender⟩ | _ | _ | _ | _
  case write.remove =>
      obtain ⟨newcomer, score, held, last⟩ := timely
      exact ⟨newcomer, score, fewer _ held, last⟩
  all_goals exact timely

theorem Timely.insert (timely : Timely streamKey displaced (front ++ back) effect)
    (silent : Quiet quiet) : Timely streamKey displaced (front ++ quiet ++ back) effect := by
  rcases effect with _ | _ | ⟨key, _ | sender⟩ | _ | _ | _ | _
  case write.upsert =>
      obtain ⟨event, target, moment, own, held⟩ := timely
      refine ⟨event, target, moment, own, ?_⟩
      rw [List.append_assoc]
      exact (List.mem_append.1 held).elim (List.mem_append_left _)
        fun held => List.mem_append_right _ (List.mem_append_right _ held)
  case write.remove =>
      obtain ⟨newcomer, score, held, last⟩ := timely
      refine ⟨newcomer, score, held, ?_⟩
      rwa [List.filter_append, List.filter_append, silent.writes, List.append_nil,
        ← List.filter_append]
  all_goals trivial

theorem in_order_nil : InOrder streamKey displaced [] := by
  intro earlier effect later split
  exact absurd split.symm (by simp)

theorem InOrder.snoc (ordered : InOrder streamKey displaced effects)
    (timely : Timely streamKey displaced effects effect) :
    InOrder streamKey displaced (effects ++ [effect]) := by
  intro earlier other later split
  -- The effect in question is the last one, or it was there before.
  rcases List.eq_nil_or_concat later with rfl | ⟨others, last, rfl⟩
  · obtain ⟨rfl, same⟩ := List.append_inj' split rfl
    obtain rfl : effect = other := by simpa using same
    exact timely
  · rw [List.concat_eq_append, ← List.cons_append, ← List.append_assoc] at split
    obtain ⟨rfl, _⟩ := List.append_inj' split rfl
    exact ordered earlier other others rfl

theorem InOrder.of_append (ordered : InOrder streamKey displaced (front ++ back)) :
    InOrder streamKey displaced front := by
  intro earlier effect later split
  refine ordered earlier effect (later ++ back) ?_
  rw [split, List.append_assoc, List.cons_append]

theorem InOrder.mono (ordered : InOrder streamKey displaced effects)
    (fewer : ∀ displacement ∈ displaced, displacement ∈ more) : InOrder streamKey more effects :=
  fun earlier effect later split => (ordered earlier effect later split).mono fewer

/-- What is no write may come at any moment. -/
theorem InOrder.insert (ordered : InOrder streamKey displaced (front ++ back))
    (silent : Quiet quiet) : InOrder streamKey displaced (front ++ quiet ++ back) := by
  induction back using List.reverseRecOn with
  | nil =>
      rw [List.append_nil] at ordered ⊢
      induction quiet using List.reverseRecOn with
      | nil => rwa [List.append_nil]
      | append_singleton others last induction =>
          have last_silent := silent last (List.mem_append_right _ (List.mem_singleton_self _))
          rw [← List.append_assoc]
          exact (induction fun effect held => silent effect (List.mem_append_left _ held)).snoc
            (timely_of_no_write last_silent)
  | append_singleton others last induction =>
      have timely := ordered (front ++ others) last [] (by rw [List.append_assoc])
      rw [← List.append_assoc] at ordered ⊢
      exact (induction ordered.of_append).snoc (timely.insert silent)

/-- The writes that an enrolment owes are in order behind the record of the newcomer. -/
theorem InOrder.batch (ordered : InOrder streamKey displaced effects) {enrolment : Enrolment}
    {event : Event} (own : event.pubkey = enrolment.entry.member) {target : Target}
    {moment : UInt64}
    (recorded : .append streamKey (Record.ofEvent event target moment).fields ∈ effects)
    (forgets : ∀ sender, enrolment.forgotten = some sender →
      ⟨enrolment.entry.member, sender⟩ ∈ displaced) (key : String) :
    InOrder streamKey displaced (effects ++ (enrolment.batch key).effects) := by
  have newcomer : InOrder streamKey displaced
      (effects ++ [.write key (.upsert enrolment.entry.member enrolment.entry.score)]) :=
    ordered.snoc ⟨event, target, moment, own, recorded⟩
  cases forgotten : enrolment.forgotten with
  | none => simpa [Enrolment.batch, Batch.effects, forgotten] using newcomer
  | some sender =>
      have removal : Timely streamKey displaced
          (effects ++ [.write key (.upsert enrolment.entry.member enrolment.entry.score)])
          (.write key (.remove sender)) :=
        ⟨enrolment.entry.member, enrolment.entry.score, forgets sender forgotten,
          by simp [Effect.isWrite]⟩
      simpa [Enrolment.batch, Batch.effects, forgotten] using newcomer.snoc removal

end

/-! ## What a decision adds to the outlook -/

theorem Roster.persist_outlook {roster : Roster} {traced : Traced Deployment}
    (serves : traced.inner.crew.Serves roster.writer) (batch : Batch) :
    let after := (roster.persist batch traced).backend
    after.inner.crew.Serves roster.writer ∧ ∃ offers, Quiet offers ∧
      after.outlook = traced.trace ++ offers ++ traced.inner.crew.ahead ++ batch.effects := by
  intro after
  have crew := roster.persist_crew batch traced.inner
  have turn : after = ⟨(roster.persist batch traced.inner).backend,
      traced.trace ++ roster.bringing (ReplicaQueue.takers batch traced.inner) batch⟩ :=
    congrArg Turn.backend (roster.persist_traced batch traced)
  rw [turn, Traced.outlook]
  simp only [crew, bringing]
  cases employed : roster.writer with
  | none =>
      rw [employed] at serves
      have nobody : traced.inner.crew.ahead = [] := serves.ahead_unserved
      exact ⟨serves, [], quiet_nil, by simp [nobody]⟩
  | some id =>
      rw [employed] at serves
      obtain ⟨serves, ahead⟩ := serves.enqueue batch
      have taken : ReplicaQueue.takers batch traced.inner id = traced.inner.crew.accepts id :=
        traced.inner.crew.enqueue_taken id batch
      refine ⟨serves, [.offer id batch (traced.inner.crew.accepts id)], quiet_nil.cons rfl, ?_⟩
      cases accepts : traced.inner.crew.accepts id with
      | true =>
          simp only [accepts, if_true] at ahead
          simp [taken, accepts, ahead]
      | false =>
          simp only [accepts, Bool.false_eq_true, if_false] at ahead
          simp [taken, accepts, ahead]

theorem Roster.add_outlook {roster : Roster} {sender : Sender} {traced : Traced Deployment}
    (stranger : roster.has sender = false) (serves : traced.inner.crew.Serves roster.writer) :
    let after := (roster.add sender traced).backend
    after.inner.crew.Serves roster.writer ∧ ∃ now offers, Quiet offers ∧
      after.outlook = traced.trace ++ offers ++ traced.inner.crew.ahead ++
        ((roster.enrolment sender (.ofMillis now)).batch roster.settings.replicaKey).effects := by
  intro after
  let now := traced.inner.clock.current
  let enrolled := (roster.enrol sender (.ofMillis now)).1
  have turn : after = (enrolled.persist
      ((roster.enrolment sender (.ofMillis now)).batch roster.settings.replicaKey)
      (traced.note (.reading now) traced.inner.ticked)).backend := by
    simp only [after, add, stranger, Bool.false_eq_true, if_false, ← enrol_batch]
    rfl
  have kept : enrolled.writer = roster.writer := enrol_writer
  rw [← kept] at serves ⊢
  obtain ⟨serves, offers, silent, outlook⟩ := @persist_outlook enrolled
    (traced.note (.reading now) traced.inner.ticked) serves
    ((roster.enrolment sender (.ofMillis now)).batch roster.settings.replicaKey)
  rw [turn]
  refine ⟨serves, now, .reading now :: offers, silent.cons rfl, ?_⟩
  rw [outlook]
  simp [Traced.note]
  rfl

namespace Registrar

variable {registrar : Registrar} {event : Event} {traced : Traced Deployment}

theorem append_record_crew (registrar : Registrar) (record : Record) (deployment : Deployment) :
    (registrar.appendRecord record deployment).2.crew = deployment.crew := by
  rcases registrar.append_record_cases record deployment with ⟨fault, refused⟩ | entered
  · rw [refused]
    rfl
  · rw [entered]
    rfl

/-- What a request to vanish that is recorded adds to the outlook: its record and other things that
are no writes, and behind everything that lay ahead, the batch that it is owed. -/
structure Adds (registrar : Registrar) (event : Event) (before after : Traced Deployment) :
    Prop where
    serves : after.inner.crew.Serves registrar.roster.writer
    outlook : ∃ target moment now quiet, Quiet quiet ∧
      .append registrar.streamKey (Record.ofEvent event target moment).fields ∈ quiet ∧
      after.outlook = before.trace ++ quiet ++ before.inner.crew.ahead ++
        ((registrar.roster.enrolment event.pubkey (.ofMillis now)).batch
          registrar.roster.settings.replicaKey).effects

theorem register_outlook (stranger : registrar.roster.has event.pubkey = false)
    (serves : traced.inner.crew.Serves registrar.roster.writer) (target : Target) :
    registrar.Adds event traced (registrar.register event target traced).backend := by
  let first := traced.inner.clock.current
  let record := Record.ofEvent event target (secondOf first)
  let read := traced.note (.reading first) traced.inner.ticked
  let between := (registrar.appendRecord record read).2
  have turn : (registrar.register event target traced).backend =
      (registrar.roster.add event.pubkey between).backend := rfl
  have appended : between = read.note (.append registrar.streamKey record.fields)
      (registrar.appendRecord record read.inner).2 :=
    congrArg Prod.snd (registrar.append_record_traced record read)
  have crew : between.inner.crew = traced.inner.crew := by
    rw [appended]
    exact registrar.append_record_crew record read.inner
  rw [← crew] at serves
  obtain ⟨serves, now, offers, silent, outlook⟩ := Roster.add_outlook stranger serves
  rw [← turn] at serves outlook
  refine ⟨serves, target, secondOf first, now,
    .reading first :: .append registrar.streamKey record.fields :: offers,
    (silent.cons rfl).cons rfl, ?_, ?_⟩
  · exact List.mem_cons_of_mem _ List.mem_cons_self
  · rw [outlook, crew, appended]
    simp [read, Traced.note]

theorem decide_outlook (registrar : Registrar) (event : Event)
    (serves : traced.inner.crew.Serves registrar.roster.writer) :
    (registrar.decide event traced).backend = traced ∨
      registrar.Adds event traced (registrar.decide event traced).backend ∧
        registrar.roster.has event.pubkey = false ∧
        ∀ score, (registrar.decide event traced).state.roster.order =
          (registrar.roster.enrol event.pubkey score).1.order := by
  rcases registrar.decide_cases event traced with ⟨_, turn⟩ | ⟨_, _, _, _, turn⟩ |
    ⟨stranger, _, target, _, turn⟩
  · rw [turn]
    exact .inl rfl
  · rw [turn]
    exact .inl rfl
  · obtain ⟨between, roster⟩ := register_roster registrar.counted event target traced
    rw [turn]
    obtain ⟨serves, outlook⟩ := @register_outlook registrar.counted event traced stranger serves
      target
    refine .inr ⟨⟨serves, outlook⟩, stranger, fun score => ?_⟩
    obtain ⟨failures, state⟩ := Roster.add_stranger_state stranger score between
    simp only [roster]
    have order := congrArg Roster.order state
    exact order

theorem Reachable.asks_deployment (reachable : registrar.Reachable) (event : Event)
    (deployment : Deployment) :
    registrar.Asks event deployment.crew.accepts (registrar.deciding event deployment) := by
  refine reachable.asks fun target _ => ?_
  have crew : (registrar.owed event target deployment).2.crew = deployment.crew :=
    registrar.append_record_crew _ deployment.ticked
  funext writer
  rw [← crew]
  exact Crew.enqueue_taken _ writer _

end Registrar

/-! ## A registrar in office -/

structure Tenure (β : Type) where
    registrar : Registrar
    backend : β
    displaced : List Displacement := []

namespace Tenure

inductive Step where
  | load
  | decide (event : Event)
    /-- Something happens to the backend of its own accord. -/
  | stir (happening : Stir)

section

variable {β : Type} [Backend β]

def displacements (event : Event) (before after : Registrar) : List Displacement :=
  (before.roster.order.filter (· ∉ after.roster.order)).map (⟨event.pubkey, ·⟩)

def step (stir : β → Stir → β) (tenure : Tenure β) : Step → Tenure β
  | .load =>
    let turn := tenure.registrar.load tenure.backend
    { tenure with registrar := turn.state, backend := turn.backend }
  | .decide event =>
    let turn := tenure.registrar.decide event tenure.backend
    { registrar := turn.state
      backend := turn.backend
      displaced := tenure.displaced ++ displacements event tenure.registrar turn.state }
  | .stir happening => { tenure with backend := stir tenure.backend happening }

def run (stir : β → Stir → β) (tenure : Tenure β) (steps : List Step) : Tenure β :=
  steps.foldl (step stir) tenure

end

/-- A registrar takes office in front of a store, with a writer of its own if there is a limit for
one. -/
def begun (registrar : Registrar) (memory : Memory) (clock : ManualClock) :
    Option Millis → Tenure Deployment
  | none => { registrar, backend := { memory, clock } }
  | some limit =>
    let (writer, backend) := ({ memory, clock } : Deployment).startWriter limit
    { registrar := registrar.withWriter writer, backend }

def recorded (tenure : Tenure Deployment) : Tenure (Traced Deployment) :=
  { registrar := tenure.registrar
    backend := { inner := tenure.backend }
    displaced := tenure.displaced }

def plain (tenure : Tenure (Traced Deployment)) : Tenure Deployment :=
  { registrar := tenure.registrar
    backend := tenure.backend.inner
    displaced := tenure.displaced }

/-- The record changes nothing. -/
theorem plain_step (tenure : Tenure (Traced Deployment)) (step : Step) :
    (tenure.step Traced.stir step).plain = tenure.plain.step Stir.apply step := by
  cases step with
  | load =>
      obtain ⟨effects, _, load⟩ := tenure.registrar.roster.load_traced tenure.backend
      simp only [Tenure.step, Registrar.load, load]
      rfl
  | decide event =>
      simp only [Tenure.step, Registrar.decide_traced]
      rfl
  | stir happening =>
      simp only [Tenure.step, plain, Traced.stir_inner]

theorem plain_run (tenure : Tenure (Traced Deployment)) (steps : List Step) :
    (tenure.run Traced.stir steps).plain = tenure.plain.run Stir.apply steps := by
  induction steps generalizing tenure with
  | nil => rfl
  | cons step rest induction =>
      have next := induction (tenure.step Traced.stir step)
      rw [plain_step] at next
      exact next

/-! ## What holds at every moment -/

variable {streamKey : String} {tenure : Tenure (Traced Deployment)}

/-- Everything that was done, and everything that the writer has still to do, is in order. -/
structure Orderly (streamKey : String) (tenure : Tenure (Traced Deployment)) : Prop where
    reachable : tenure.registrar.Reachable
    stream : tenure.registrar.streamKey = streamKey
    serves : tenure.backend.inner.crew.Serves tenure.registrar.roster.writer
    order : InOrder streamKey tenure.displaced tenure.backend.outlook

theorem begun_orderly {registrar : Registrar} (reachable : registrar.Reachable) (memory : Memory)
    (clock : ManualClock) (limit : Option Millis) :
    (begun registrar memory clock limit).recorded.Orderly registrar.streamKey := by
  cases limit with
  | none => exact ⟨reachable, rfl, .inl rfl, in_order_nil⟩
  | some limit =>
      exact ⟨reachable.queueing 0, rfl, .inr ⟨0, { limit }, rfl, rfl, fun _ => rfl⟩, in_order_nil⟩

theorem Orderly.load (orderly : tenure.Orderly streamKey) :
    (tenure.step Traced.stir .load).Orderly streamKey := by
  obtain ⟨effects, silent, load⟩ := tenure.registrar.roster.load_traced tenure.backend
  have crew : (tenure.registrar.roster.load tenure.backend.inner).backend.crew =
      tenure.backend.inner.crew := by
    rw [Roster.load_deployment]
    rfl
  refine ⟨orderly.reachable.loaded tenure.backend, orderly.stream, ?_, ?_⟩
  · simp only [step, Registrar.load, Roster.load_writer]
    rw [load]
    simp only [Turn.recording, crew]
    exact orderly.serves
  · simp only [step, Registrar.load]
    rw [load, Traced.outlook]
    simp only [Turn.recording, crew]
    exact orderly.order.insert silent

theorem mem_displacements {event : Event} {before after : Registrar} {sender : Sender}
    (held : sender ∈ before.roster.order) (gone : sender ∉ after.roster.order) :
    ⟨event.pubkey, sender⟩ ∈ displacements event before after :=
  List.mem_map_of_mem (List.mem_filter.2 ⟨held, decide_eq_true gone⟩)

theorem Orderly.decide (orderly : tenure.Orderly streamKey) (event : Event) :
    (tenure.step Traced.stir (.decide event)).Orderly streamKey := by
  let registrar := tenure.registrar
  let turn := registrar.decide event tenure.backend
  let displaced := tenure.displaced ++ displacements event registrar turn.state
  have reachable := orderly.reachable
  have kept : InOrder streamKey displaced tenure.backend.outlook :=
    orderly.order.mono fun displacement held => List.mem_append_left _ held
  have writer : turn.state.roster.writer = registrar.roster.writer :=
    registrar.decide_writer event tenure.backend
  refine ⟨reachable.decided event tenure.backend, ?_, ?_, ?_⟩
  · exact (registrar.decide_stream_key event tenure.backend).trans orderly.stream
  · change turn.backend.inner.crew.Serves turn.state.roster.writer
    rw [writer]
    rcases registrar.decide_outlook event orderly.serves with same | ⟨adds, _⟩
    · rw [show turn.backend = _ from same]
      exact orderly.serves
    · exact adds.serves
  · change InOrder streamKey displaced turn.backend.outlook
    rcases registrar.decide_outlook event orderly.serves with same | ⟨adds, stranger, order⟩
    · rw [show turn.backend = _ from same]
      exact kept
    · obtain ⟨target, moment, now, quiet, silent, recorded, outlook⟩ := adds.outlook
      rw [show turn.backend.outlook = _ from outlook]
      rw [show registrar.streamKey = _ from orderly.stream] at recorded
      have entered := List.mem_append_left tenure.backend.inner.crew.ahead
        (List.mem_append_right tenure.backend.trace recorded)
      refine (kept.insert silent).batch rfl entered (fun sender forgotten => ?_) _
      have held := Roster.forgotten_mem reachable.room_pos forgotten
      have gone : sender ∉ turn.state.roster.order := by
        rw [order (.ofMillis now), Roster.mem_enrol_order reachable.coherent stranger]
        exact fun still => still.2 forgotten
      exact List.mem_append_right _ (mem_displacements held gone)

theorem Orderly.step (orderly : tenure.Orderly streamKey) (step : Step) :
    (tenure.step Traced.stir step).Orderly streamKey := by
  cases step with
  | load => exact orderly.load
  | decide event => exact orderly.decide event
  | stir happening =>
      obtain ⟨serves, rest, outlook⟩ := orderly.serves.stir happening
      refine ⟨orderly.reachable, orderly.stream, serves, ?_⟩
      have order := orderly.order
      rw [← outlook] at order
      exact order.of_append

theorem Orderly.run (orderly : tenure.Orderly streamKey) (steps : List Step) :
    (tenure.run Traced.stir steps).Orderly streamKey := by
  induction steps generalizing tenure with
  | nil => exact orderly
  | cons step rest induction => exact induction (orderly.step step)

/-- The effects of every decision, whatever the backend answers, and their order throughout a
tenure. -/
theorem effects_in_order {registrar : Registrar} (reachable : registrar.Reachable) :
    (∀ (event : Event) {β : Type} [Backend β] (traced : Traced β), ∃ takes effects,
      registrar.decide event traced =
        (registrar.decide event traced.inner).recording (traced.trace ++ effects) ∧
      registrar.Asks event takes effects) ∧
    (∀ (event : Event) (traced : Traced Deployment), ∃ effects,
      registrar.decide event traced =
        (registrar.decide event traced.inner).recording (traced.trace ++ effects) ∧
      registrar.Asks event traced.inner.crew.accepts effects) ∧
    ∀ (memory : Memory) (clock : ManualClock) (limit : Option Millis) (steps : List Step),
      let tenure := begun registrar memory clock limit
      let recorded := tenure.recorded.run Traced.stir steps
      recorded.plain = tenure.run Stir.apply steps ∧
        InOrder registrar.streamKey recorded.displaced recorded.backend.outlook := by
  refine ⟨fun event β _ traced => ?_, fun event traced => ?_, fun memory clock limit steps => ?_⟩
  · obtain ⟨takes, asks⟩ := reachable.asks_some event traced.inner
    exact ⟨takes, _, registrar.decide_traced event traced, asks⟩
  · exact ⟨_, registrar.decide_traced event traced, reachable.asks_deployment event traced.inner⟩
  · exact ⟨plain_run _ steps, ((begun_orderly reachable memory clock limit).run steps).order⟩

/-- With room for one, the second sender displaces the first while the writer is still behind. The
store refuses every append and every write, and each of them is tried all the same. -/
theorem effects_in_order_through_outage :
    let registrar := Registrar.forOne optOutStream
    let memory : Memory := { conditions := fun _ => { sortedSetUp := false, streamUp := false } }
    let clock : ManualClock := { shows := fun number => .ofNat (1000 * number) }
    let recorded := (begun registrar memory clock (some 500)).recorded.run Traced.stir
      [.decide (Registrar.plainRequest "alice"), .decide (Registrar.plainRequest "bob"),
        .stir (.work none none)]
    let key := registrar.roster.settings.replicaKey
    let record (sender : Sender) (moment : UInt64) : List Field :=
      (Record.ofEvent (Registrar.plainRequest sender) .everyRelay moment).fields
    let first : Write := .upsert "alice" (.ofMillis 1000)
    let second : Write := .upsert "bob" (.ofMillis 3000)
    let effects : List Effect := [.reading 0, .append optOutStream (record "alice" 0),
      .reading 1000, .offer 0 ⟨key, [first]⟩ true, .reading 2000,
      .append optOutStream (record "bob" 2), .reading 3000,
      .offer 0 ⟨key, [second, .remove "alice"]⟩ true,
      .write key first, .write key second, .write key (.remove "alice")]
    recorded.backend.outlook = effects ∧ InOrder optOutStream [⟨"bob", "alice"⟩] effects := by
  intro registrar memory clock recorded key record first second effects
  have built : Registrar.ofSettings { relayScope := "relay.example", roster := { capacity := 1 } } =
      .ok registrar := rfl
  obtain ⟨_, _, tenures⟩ := effects_in_order (.built built)
  obtain ⟨_, ordered⟩ := tenures memory clock (some 500) [.decide (Registrar.plainRequest "alice"),
    .decide (Registrar.plainRequest "bob"), .stir (.work none none)]
  have displaced : recorded.displaced = [⟨"bob", "alice"⟩] := by
    decide +kernel
  have outlook : recorded.backend.outlook = effects := by
    decide +kernel
  refine ⟨outlook, ?_⟩
  rw [← displaced, ← outlook]
  exact ordered

end Tenure

end OptOut
