import OptOut.Proofs.SetCalls
import OptOut.Proofs.Workload

/-!
# Trying all writes of a batch

A batch is best effort: each of its writes is tried once, in order, whatever became of those before
it, on any store and whether a roster writes the batch itself or a writer works it off. On a store in
memory, the writes that succeed are made in order, and the others leave no trace but a warning. For
each member, the last write of the batch settles what the replica holds of it, so that a batch that
went through in part can be applied again.
-/

namespace OptOut.Replica

/-! ## Trials -/

structure Trial where
    write : Write
    result : Except StoreFault Unit
deriving DecidableEq, Repr

namespace Trial

def failure? (trial : Trial) : Option Failure :=
  match trial.result with
  | .ok () => none
  | .error error => some ⟨trial.write, error⟩

def warning? (trial : Trial) : Option (Log.Level × String × List Field) :=
  match trial.result with
  | .ok () => none
  | .error error => some (.warn, "Durable mirror write failed; in-memory membership kept",
      [("operation", trial.write.operation.name), ("pubkey", trial.write.member),
        ("error", error.message)])

@[simp]
theorem failure_ok (write : Write) (done : Unit) : failure? ⟨write, .ok done⟩ = none :=
  rfl

@[simp]
theorem failure_error (write : Write) (error : StoreFault) :
    failure? ⟨write, .error error⟩ = some ⟨write, error⟩ :=
  rfl

end Trial

section AnyStore

variable {σ : Type} [SortedSets σ]

/-- Tries some writes one after another, each on what the one before it has left. -/
def trials (key : String) (limit : Millis) : List Write → σ → List Trial
  | [], _ => []
  | write :: rest, store =>
    ⟨write, (write.apply key limit store).1⟩ ::
      trials key limit rest (write.apply key limit store).2

variable {key : String} {limit : Millis}

theorem trials_write (writes : List Write) (store : σ) :
    (trials key limit writes store).map Trial.write = writes := by
  induction writes generalizing store with
  | nil => rfl
  | cons write rest induction => rw [trials, List.map_cons, induction]

/-- The failures that are told are those of the trials. -/
theorem apply_writes_failures (writes : List Write) (store : σ) :
    (applyWrites key limit writes store).1 =
      (trials key limit writes store).filterMap Trial.failure? := by
  induction writes generalizing store with
  | nil => rfl
  | cons write rest induction =>
      cases ended : write.apply key limit store with
      | mk result after =>
          cases result with
          | ok done =>
              simp only [applyWrites, trials, ended, induction, List.filterMap_cons, Trial.failure_ok]
          | error fault =>
              simp only [applyWrites, trials, ended, induction, List.filterMap_cons,
                Trial.failure_error]

theorem outcome_ok_iff (tried : List Trial) :
    outcome (tried.filterMap Trial.failure?) = .ok () ↔
      ∀ trial ∈ tried, trial.result = .ok () := by
  induction tried with
  | nil => simp [outcome]
  | cons trial rest induction =>
      obtain ⟨write, result⟩ := trial
      cases result with
      | ok done =>
          rw [List.filterMap_cons_none (Trial.failure_ok write done), List.forall_mem_cons,
            and_iff_right rfl, induction]
      | error fault => simp [outcome]

theorem outcome_error_iff (tried : List Trial) (error : StoreFault) :
    outcome (tried.filterMap Trial.failure?) = .error error ↔
      ∃ earlier write later, tried = earlier ++ ⟨write, .error error⟩ :: later ∧
        ∀ trial ∈ earlier, trial.result = .ok () := by
  induction tried with
  | nil => simp [outcome]
  | cons trial rest induction =>
      obtain ⟨write, result⟩ := trial
      cases result with
      | ok done =>
          rw [List.filterMap_cons_none (Trial.failure_ok write done), induction]
          constructor
          · rintro ⟨earlier, failed, later, rfl, clean⟩
            exact ⟨⟨write, .ok done⟩ :: earlier, failed, later, rfl,
              List.forall_mem_cons.2 ⟨rfl, clean⟩⟩
          · rintro ⟨earlier, failed, later, split, clean⟩
            cases earlier with
            | nil => simp at split
            | cons first earlier =>
                obtain ⟨_, rfl⟩ := List.cons.inj split
                exact ⟨earlier, failed, later, rfl, (List.forall_mem_cons.1 clean).2⟩
      | error fault =>
          rw [List.filterMap_cons_some (Trial.failure_error write fault)]
          constructor
          · intro first
            obtain rfl : fault = error := Except.error.inj first
            exact ⟨[], write, rest, rfl, by simp⟩
          · rintro ⟨earlier, failed, later, split, clean⟩
            cases earlier with
            | nil =>
                obtain ⟨same, _⟩ := List.cons.inj split
                exact congrArg Trial.result same
            | cons first earlier =>
                obtain ⟨rfl, _⟩ := List.cons.inj split
                exact absurd (List.forall_mem_cons.1 clean).1 (by simp)

theorem warnings_eq (tried : List Trial) :
    ((tried.filterMap Trial.failure?).map Log.Entry.writeFailed).map
        (fun entry => (entry.level, entry.message, entry.fields)) =
      tried.filterMap Trial.warning? := by
  rw [List.map_map, List.map_filterMap]
  refine List.filterMap_congr fun trial _ => ?_
  obtain ⟨write, result⟩ := trial
  cases result <;> rfl

/-! ## Batches that a writer works off -/

namespace Writer

/-- Some steps of a writer on a store that nothing else uses in between. -/
def steps : Nat → Writer → σ → Writer × σ × List Log.Entry
  | 0, writer, store => (writer, store, [])
  | count + 1, writer, store =>
    let (writer, store, log) := writer.step store
    let (writer, store, later) := steps count writer store
    (writer, store, log ++ later)

def tally (writer : Writer) (failures : List Failure) : Writer :=
  match outcome failures with
  | .ok () => { writer with applied := writer.applied + 1 }
  | .error _ => { writer with failed := writer.failed + 1 }

/-- The end of a wait, on the store on which it began. -/
theorem step_proceed (writer : Writer) (key : String) (flawed : Bool) (write : Write)
    (rest : List Write) (store : σ) :
    (writer.proceed key flawed store (write :: rest)).step store =
      match write.apply key writer.limit store with
      | (.ok (), after) => (writer.proceed key flawed after rest, after, [])
      | (.error error, after) =>
        (writer.proceed key true after rest, after, [.writeFailed ⟨write, error⟩]) := by
  have ended : (Underway.begin key writer.limit write rest flawed store).conclude writer.limit
      store = write.apply key writer.limit store := rfl
  simp only [proceed, step, ended]
  rfl

/-- A writer that goes on with a batch tries the rest of its writes, and is done with it then. -/
theorem steps_proceed (writer : Writer) (key : String) (flawed : Bool) (writes : List Write)
    (store : σ) :
    steps writes.length (writer.proceed key flawed store writes) store =
      let (failures, after) := applyWrites key writer.limit writes store
      (writer.proceed key (flawed || !failures.isEmpty) after [], after,
        failures.map .writeFailed) := by
  induction writes generalizing flawed store with
  | nil => simp [steps, applyWrites, proceed]
  | cons write rest induction =>
      rw [List.length_cons, steps, step_proceed]
      cases ended : write.apply key writer.limit store with
      | mk result after =>
          cases result with
          | ok done => simp only [applyWrites, ended, induction, List.nil_append]
          | error fault => simp [applyWrites, ended, induction]

/-- A batch that a writer takes up and works off is applied, and counted once. -/
theorem steps_take_up {writer : Writer} (idle : writer.underway = none) {batch : Batch}
    {queue : List Batch} (queued : writer.queue = batch :: queue) (store : σ) :
    writer.steps (batch.writes.length + 1) store =
      let (failures, after) := batch.apply writer.limit store
      ({ writer with queue }.tally failures, after, failures.map .writeFailed) := by
  -- The first step only takes the batch up; each step after it ends the wait for one write.
  have taken : writer.step store =
      ({ writer with queue }.proceed batch.key false store batch.writes, store, []) := by
    simp only [step, idle, queued]
  simp only [steps, taken, steps_proceed, Batch.apply, List.nil_append]
  cases failures : (applyWrites batch.key writer.limit batch.writes store).1 with
  | nil => simp [tally, outcome, proceed, idle]
  | cons first rest => simp [tally, outcome, proceed, idle]

end Writer

end AnyStore

/-! ## Trials on a store in memory -/

def Write.verdict (limit : Millis) (write : Write) (conditions : Conditions) :
    Except StoreFault Unit :=
  if limit < conditions.latency then .error (.timeout write.operation.name limit)
  else if conditions.sortedSetUp then .ok ()
  else .error (.unavailable "sorted set offline")

def succeeded (tried : List Trial) : List Write :=
  (tried.filter (·.result.isOk)).map Trial.write

def enactAll (key : String) (writes : List Write) (contents : Contents) : Contents :=
  writes.foldl (fun contents write => write.enact key contents) contents

section InMemory

variable {key : String} {limit : Millis}

/-- A write is made or leaves the contents as they were, as the conditions have it. -/
theorem apply_verdict (write : Write) (memory : Memory) :
    write.apply key limit memory =
      (write.verdict limit memory.current,
        match write.verdict limit memory.current with
        | .ok () => { memory.skip with contents := write.enact key memory.contents }
        | .error _ => memory.skip) := by
  have called : write.call key memory = memory.call Conditions.sortedSetRefusal
      fun contents => ((), write.enact key contents) := by
    cases write <;> rfl
  rw [Write.apply, called, Write.verdict]
  cases up : memory.current.sortedSetUp with
  | true =>
      have accepted : memory.current.sortedSetRefusal = none := by
        simp [Conditions.sortedSetRefusal, up]
      rw [Memory.call_accepted _ accepted]
      by_cases late : limit < memory.current.latency <;>
        simp [Call.within, Call.conclude, Call.expires, late]
  | false =>
      have refused : memory.current.sortedSetRefusal = some (.unavailable "sorted set offline") := by
        simp [Conditions.sortedSetRefusal, up]
      rw [Memory.call_refused _ refused]
      by_cases late : limit < memory.current.latency <;>
        simp [Call.within, Call.conclude, Call.expires, late]

theorem trials_memory (writes : List Write) (memory : Memory) :
    trials key limit writes memory = (writes.zipIdx memory.calls).map fun (write, number) =>
      ⟨write, write.verdict limit (memory.conditions number)⟩ := by
  induction writes generalizing memory with
  | nil => rfl
  | cons write rest induction =>
      obtain ⟨_, calls, conditions⟩ := wrote_one key limit write memory
      rw [trials, List.zipIdx_cons, List.map_cons, induction, calls, conditions, apply_verdict]
      rfl

/-- The writes that succeed are made, and nothing else is. -/
theorem apply_writes_contents (writes : List Write) (memory : Memory) :
    (applyWrites key limit writes memory).2.contents =
      enactAll key (succeeded (trials key limit writes memory)) memory.contents := by
  induction writes generalizing memory with
  | nil => rfl
  | cons write rest induction =>
      have ended : write.apply key limit memory = _ := apply_verdict write memory
      cases verdict : write.verdict limit memory.current with
      | ok done =>
          rw [verdict] at ended
          simp only [applyWrites, trials, ended, induction]
          rfl
      | error fault =>
          rw [verdict] at ended
          simp only [applyWrites, trials, ended, induction]
          rfl

end InMemory

/-! ## Charts -/

namespace Write

def mark : Write → Chart → Chart
  | upsert member score, chart => chart.insert member score
  | remove member, chart => chart.erase member

theorem lookup_mark_own (write : Write) (chart other : Chart) :
    (write.mark chart).lookup write.member = (write.mark other).lookup write.member := by
  cases write with
  | upsert member score => simp only [mark, Write.member, Finmap.lookup_insert]
  | remove member => simp only [mark, Write.member, Finmap.lookup_erase]

theorem lookup_mark_other {write : Write} {sender : Sender} (apart : sender ≠ write.member)
    (chart : Chart) : (write.mark chart).lookup sender = chart.lookup sender := by
  cases write with
  | upsert member score => exact Finmap.lookup_insert_of_ne _ apart
  | remove member => exact Finmap.lookup_erase_ne apart

theorem chart_enact (key : String) (write : Write) (contents : Contents) :
    (write.enact key contents).chart key = write.mark (contents.chart key) := by
  cases write with
  | upsert member score =>
      rw [enact, Contents.chart, Contents.set_upsert, SortedSet.chart_insert]
      rfl
  | remove member =>
      rw [enact, Contents.chart, Contents.set_remove, SortedSet.chart_erase]
      rfl

theorem enact_beside (key : String) (write : Write) (contents : Contents) :
    contents.Beside (write.enact key contents) key := by
  cases write with
  | upsert member score => exact contents.effect_beside key (.upsert score member)
  | remove member => exact contents.effect_beside key (.remove member)

end Write

def markAll (writes : List Write) (chart : Chart) : Chart :=
  writes.foldl (fun chart write => write.mark chart) chart

theorem chart_enact_all (key : String) (writes : List Write) (contents : Contents) :
    (enactAll key writes contents).chart key = markAll writes (contents.chart key) := by
  induction writes generalizing contents with
  | nil => rfl
  | cons write rest induction =>
      rw [enactAll, List.foldl_cons, ← enactAll, induction, write.chart_enact]
      rfl

theorem enact_all_beside (key : String) (writes : List Write) (contents : Contents) :
    contents.Beside (enactAll key writes contents) key := by
  induction writes generalizing contents with
  | nil => exact .refl contents key
  | cons write rest induction =>
      have first := write.enact_beside key contents
      exact first.trans (induction (write.enact key contents))

theorem lookup_mark_all {writes : List Write} {sender : Sender}
    (apart : sender ∉ writes.map Write.member) (chart : Chart) :
    (markAll writes chart).lookup sender = chart.lookup sender := by
  induction writes generalizing chart with
  | nil => rfl
  | cons write rest induction =>
      rw [List.map_cons, List.mem_cons, not_or] at apart
      exact (induction apart.2 _).trans (Write.lookup_mark_other apart.1 chart)

/-- Charts that differ in members which the writes touch are the same after them. -/
theorem mark_all_congr {writes : List Write} {chart other : Chart}
    (agree : ∀ sender ∉ writes.map Write.member, chart.lookup sender = other.lookup sender) :
    markAll writes chart = markAll writes other := by
  induction writes generalizing chart other with
  | nil => exact Finmap.ext_lookup fun sender => agree sender List.not_mem_nil
  | cons write rest induction =>
      -- The first write makes the charts agree in its own member, and the others are as they were.
      refine induction fun sender absent => ?_
      by_cases own : sender = write.member
      · rw [own]
        exact write.lookup_mark_own chart other
      · rw [Write.lookup_mark_other own, Write.lookup_mark_other own]
        refine agree sender ?_
        rw [List.map_cons, List.mem_cons, not_or]
        exact ⟨own, absent⟩

/-- All of some writes, after some of them were made already, come to what they come to at once. -/
theorem enact_all_again {made writes : List Write} (among : made ⊆ writes) (key : String)
    (contents : Contents) (other : String) :
    (enactAll key writes (enactAll key made contents)).set other =
      (enactAll key writes contents).set other := by
  by_cases own : other = key
  · subst own
    refine SortedSet.eq_of_chart _ ?_
    calc (enactAll other writes (enactAll other made contents)).chart other
        = markAll writes (markAll made (contents.chart other)) := by
          rw [chart_enact_all, chart_enact_all]
      _ = markAll writes (contents.chart other) := mark_all_congr fun sender absent =>
          lookup_mark_all (fun held => absent (List.map_subset _ among held)) _
      _ = (enactAll other writes contents).chart other := (chart_enact_all _ _ _).symm
  · have again := (enact_all_beside key made contents).trans (enact_all_beside key writes _)
    have once := enact_all_beside key writes contents
    rw [Contents.set_of_beside again own, Contents.set_of_beside once own]

/-! ## Batches -/

theorem succeeded_subset {key : String} {limit : Millis} (writes : List Write) (memory : Memory) :
    succeeded (trials key limit writes memory) ⊆ writes := by
  intro write made
  obtain ⟨trial, held, rfl⟩ := List.mem_map.1 made
  have written : (trials key limit writes memory).map Trial.write = writes :=
    trials_write writes memory
  rw [← written]
  exact List.mem_map_of_mem (List.mem_filter.1 held).1

/-- A batch of which no write fails is made as a whole. -/
theorem contents_of_success {batch : Batch} {limit : Millis} {memory : Memory}
    (success : outcome (batch.apply limit memory).1 = .ok ()) :
    (batch.apply limit memory).2.contents = enactAll batch.key batch.writes memory.contents := by
  have failures : (batch.apply limit memory).1 = _ := apply_writes_failures batch.writes memory
  rw [failures, outcome_ok_iff] at success
  have all : (trials batch.key limit batch.writes memory).filter (·.result.isOk) =
      trials batch.key limit batch.writes memory := by
    refine List.filter_eq_self.2 fun trial held => ?_
    rw [success trial held]
    rfl
  have contents : (batch.apply limit memory).2.contents = _ :=
    apply_writes_contents batch.writes memory
  rw [contents, succeeded, all, trials_write]

/-- What a batch does on any store. Every write is asked for once and in order, and all that failed
are told, both by a roster that writes the batch itself and by a writer that works it off. -/
structure Batch.Tried {σ : Type} [SortedSets σ] (batch : Batch) (limit : Millis) (store : σ)
    (tried : List Trial) (failures : List Failure) (after : σ) : Prop where
    asked : ∀ trace, batch.apply limit (⟨store, trace⟩ : Traced σ) =
      (failures, ⟨after, trace ++ batch.effects⟩)
    writes : tried.map Trial.write = batch.writes
    succeeds : outcome failures = .ok () ↔ ∀ trial ∈ tried, trial.result = .ok ()
    fails : ∀ error, outcome failures = .error error ↔
      ∃ earlier write later, tried = earlier ++ ⟨write, .error error⟩ :: later ∧
        ∀ trial ∈ earlier, trial.result = .ok ()
    warnings : (failures.map Log.Entry.writeFailed).map
        (fun entry => (entry.level, entry.message, entry.fields)) =
      tried.filterMap Trial.warning?
    inline : ∀ roster : Roster, roster.settings.storeTimeout = limit →
      let turn := roster.writeInline batch store
      turn.answer = (outcome failures).mapError .store ∧ turn.backend = after ∧
        turn.log = failures.map .writeFailed
    behind : ∀ (writer : Writer) (queue : List Batch), writer.limit = limit →
      writer.underway = none → writer.queue = batch :: queue →
        writer.steps (batch.writes.length + 1) store =
          ({ writer with queue }.tally failures, after, failures.map .writeFailed)

/-- What a batch does on a store in memory. The conditions that a write meets settle what comes of
it, and just the writes that succeed are made, in order. -/
structure Batch.Landed (batch : Batch) (limit : Millis) (memory : Memory) (tried : List Trial)
    (after : Memory) : Prop where
    verdicts : tried = (batch.writes.zipIdx memory.calls).map fun (write, number) =>
      ⟨write, write.verdict limit (memory.conditions number)⟩
    contents : after.contents = enactAll batch.key (succeeded tried) memory.contents
    chart : after.contents.chart batch.key =
      markAll (succeeded tried) (memory.contents.chart batch.key)
    beside : memory.contents.Beside after.contents batch.key
    calls : after.calls = memory.calls + batch.writes.length
    conditions : after.conditions = memory.conditions

theorem Batch.tried {σ : Type} [SortedSets σ] (batch : Batch) (limit : Millis) (store : σ) :
    batch.Tried limit store (trials batch.key limit batch.writes store) (batch.apply limit store).1
      (batch.apply limit store).2 := by
  have failures : (batch.apply limit store).1 = _ := apply_writes_failures batch.writes store
  constructor
  · exact fun trace => apply_writes_traced batch.key limit batch.writes ⟨store, trace⟩
  · exact trials_write batch.writes store
  · rw [failures, outcome_ok_iff]
  · intro error
    rw [failures, outcome_error_iff]
  · rw [failures, warnings_eq]
  · rintro roster rfl
    simp only [Roster.writeInline]
    split <;> rename_i ended <;> rw [ended] <;> exact ⟨rfl, rfl, rfl⟩
  · rintro writer queue rfl idle queued
    exact Writer.steps_take_up idle queued store

theorem Batch.landed (batch : Batch) (limit : Millis) (memory : Memory) :
    batch.Landed limit memory (trials batch.key limit batch.writes memory)
      (batch.apply limit memory).2 := by
  obtain ⟨⟨_, calls, conditions⟩, _⟩ := apply_writes_replay batch.key limit batch.writes memory
  have contents : (batch.apply limit memory).2.contents = _ :=
    apply_writes_contents batch.writes memory
  refine ⟨trials_memory batch.writes memory, contents, ?_, ?_, calls, conditions⟩
  · rw [contents, chart_enact_all]
  · rw [contents]
    exact enact_all_beside _ _ _

/-- Of an attempt that may have been cut short nothing is left once the whole batch succeeds. -/
theorem batch_applied_again {batch : Batch} {limit patience : Millis} {memory once again : Memory}
    {count : Nat} (fresh : once.contents = memory.contents)
    (interrupted : again.contents =
      (({ batch with writes := batch.writes.take count }).apply limit memory).2.contents)
    (success : outcome (batch.apply patience once).1 = .ok ())
    (success' : outcome (batch.apply patience again).1 = .ok ()) :
    let wanted := (batch.apply patience once).2.contents
    let held := (batch.apply patience again).2.contents
    (∀ key, held.set key = wanted.set key) ∧ held.streams = wanted.streams ∧
      held.appended = wanted.appended := by
  intro wanted held
  let made := succeeded (trials batch.key limit (batch.writes.take count) memory)
  have among : made ⊆ batch.writes :=
    List.Subset.trans (succeeded_subset _ memory) (List.take_subset count batch.writes)
  have before : again.contents = enactAll batch.key made memory.contents :=
    interrupted.trans (apply_writes_contents _ memory)
  have wanted_eq : wanted = enactAll batch.key batch.writes memory.contents := by
    rw [← fresh]
    exact contents_of_success success
  have held_eq : held =
      enactAll batch.key batch.writes (enactAll batch.key made memory.contents) := by
    rw [← before]
    exact contents_of_success success'
  have twice := (enact_all_beside batch.key made memory.contents).trans
    (enact_all_beside batch.key batch.writes _)
  have whole := enact_all_beside batch.key batch.writes memory.contents
  rw [wanted_eq, held_eq]
  refine ⟨enact_all_again among batch.key memory.contents, ?_, ?_⟩
  · rw [twice.streams, whole.streams]
  · rw [twice.appended, whole.appended]

/-- A batch is best effort but complete: every write is tried once in order, whatever became of
those before it; just those that succeed are made; each of the others is warned of; and the batch
fails as the first of them did. A batch that went through in part, and may have been cut short, can
be applied again: if all its writes succeed then, the store holds what it would hold if they had
succeeded at once. -/
theorem batch_best_effort (batch : Batch) (limit : Millis) :
    (∀ (σ : Type) [SortedSets σ] (store : σ), batch.Tried limit store
      (trials batch.key limit batch.writes store) (batch.apply limit store).1
        (batch.apply limit store).2) ∧
    (∀ memory : Memory, batch.Landed limit memory
      (trials batch.key limit batch.writes memory) (batch.apply limit memory).2) ∧
    ∀ (memory once again : Memory) (count : Nat) (patience : Millis),
      let begun : Batch := { batch with writes := batch.writes.take count }
      once.contents = memory.contents →
      again.contents = (begun.apply limit memory).2.contents →
      outcome (batch.apply patience once).1 = .ok () →
      outcome (batch.apply patience again).1 = .ok () →
        let wanted := (batch.apply patience once).2.contents
        let held := (batch.apply patience again).2.contents
        (∀ key, held.set key = wanted.set key) ∧ held.streams = wanted.streams ∧
          held.appended = wanted.appended := by
  refine ⟨fun σ _ store => batch.tried limit store, batch.landed limit, ?_⟩
  intro memory once again count patience begun fresh interrupted
  exact batch_applied_again fresh interrupted

/-- Of five writes, two of which are to the same member, one takes too long and one is refused. The
second attempt makes up for it. -/
theorem batch_best_effort_through_outage :
    let batch : Batch := ⟨"a", [.upsert "alice" (.ofMillis 5), .remove "bob",
      .upsert "alice" (.ofMillis 9), .remove "carol", .upsert "bob" (.ofMillis 7)]⟩
    let contents := (({} : Contents).seed "a" (.ofMillis 1) "bob").seed "a" (.ofMillis 2) "carol"
    let failing : Memory := { contents, conditions := fun number =>
      { latency := if number = 2 then 600 else 0, sortedSetUp := number ≠ 3 } }
    let again : Memory := { contents := (batch.apply 500 failing).2.contents }
    let once : Memory := { contents }
    outcome (batch.apply 500 failing).1 = .error (.timeout "upsert_with_score" 500) ∧
      (trials "a" 500 batch.writes failing).filterMap Trial.warning? =
        [(.warn, "Durable mirror write failed; in-memory membership kept",
          [("operation", "upsert_with_score"), ("pubkey", "alice"),
            ("error", "store operation 'upsert_with_score' timed out after 500ms")]),
        (.warn, "Durable mirror write failed; in-memory membership kept",
          [("operation", "remove_member"), ("pubkey", "carol"),
            ("error", "store unavailable: sorted set offline")])] ∧
      (again.contents.set "a").entries = [⟨.ofMillis 2, "carol"⟩, ⟨.ofMillis 5, "alice"⟩,
        ⟨.ofMillis 7, "bob"⟩] ∧
      ((batch.apply 500 once).2.contents.set "a").entries =
        [⟨.ofMillis 7, "bob"⟩, ⟨.ofMillis 9, "alice"⟩] ∧
      (batch.apply 500 again).2.contents.set "a" = (batch.apply 500 once).2.contents.set "a" := by
  intro batch contents failing again once
  obtain ⟨tried, _, replays⟩ := batch_best_effort batch 500
  have tried := tried Memory failing
  have first : (trials "a" 500 batch.writes failing) =
      [⟨.upsert "alice" (.ofMillis 5), .ok ()⟩, ⟨.remove "bob", .ok ()⟩] ++
        ⟨.upsert "alice" (.ofMillis 9), .error (.timeout "upsert_with_score" 500)⟩ ::
          [⟨.remove "carol", .error (.unavailable "sorted set offline")⟩,
            ⟨.upsert "bob" (.ofMillis 7), .ok ()⟩] := by
    decide +kernel
  have same := replays failing once again 5 500 rfl rfl (by decide +kernel) (by decide +kernel)
  refine ⟨?_, ?_, by decide +kernel, by decide +kernel, same.1 "a"⟩
  · exact (tried.fails _).2 ⟨_, _, _, first, by simp⟩
  · rw [first]
    decide +kernel

end OptOut.Replica
