import OptOut.Proofs.Provenance
import OptOut.Proofs.WriteBehind

/-!
# What failed and what may yet fail

A batch that was not written is counted as a failure, by the writer that gave up on it or by the
roster that wrote it itself. Counts of failures never go down. A batch that is queued or underway may
yet fail, and so the failures that there can ever be are bounded at each moment: the bound rises by
one when a sender is added, and never otherwise.
-/

namespace OptOut

open Replica

namespace Replica

/-! ## Writers -/

namespace Writer

def unfinished (writer : Writer) : Nat :=
  writer.underway.toList.length + writer.queue.length

/-- The batches that have failed or may yet fail. -/
def exposure (writer : Writer) : Nat :=
  writer.failed + writer.underway.toList.length + writer.queue.length

/-- A writer at a later moment, if it was not given anything in between. -/
structure Ages (before after : Writer) : Prop where
    failed : before.failed ≤ after.failed
    exposure : after.exposure ≤ before.exposure

variable {writer : Writer}

theorem Ages.refl (writer : Writer) : writer.Ages writer :=
  ⟨Nat.le_refl _, Nat.le_refl _⟩

/-- A batch that is gone on with fails, is done or stays underway. -/
theorem proceed_exposure {σ : Type} [SortedSets σ] (writer : Writer) (key : String) (flawed : Bool)
    (store : σ) (rest : List Write) :
    let after := writer.proceed key flawed store rest
    writer.failed ≤ after.failed ∧ after.exposure ≤ writer.failed + 1 + writer.queue.length := by
  cases rest with
  | cons write later => exact ⟨Nat.le_refl _, Nat.le_refl _⟩
  | nil =>
      cases flawed with
      | true => exact ⟨Nat.le_succ _, Nat.le_refl _⟩
      | false => exact ⟨Nat.le_refl _, by simp [proceed, exposure]⟩

theorem step_ages {σ : Type} [SortedSets σ] (writer : Writer) (store : σ) :
    writer.Ages (writer.step store).1 := by
  cases busy : writer.underway with
  | some underway =>
      have here : writer.exposure = writer.failed + 1 + writer.queue.length := by
        rw [exposure, busy]
        rfl
      cases ended : underway.conclude writer.limit store with
      | mk result left =>
          cases result <;> simp only [step, busy, ended] <;>
            exact ⟨(proceed_exposure writer _ _ _ _).1,
              here ▸ (proceed_exposure writer _ _ _ _).2⟩
  | none =>
      cases queued : writer.queue with
      | nil =>
          simp only [step, busy, queued]
          exact .refl writer
      | cons batch rest =>
          have here : writer.exposure = writer.failed + 1 + rest.length := by
            rw [exposure, busy, queued, List.length_cons]
            simp only [Option.toList_none, List.length_nil]
            omega
          simp only [step, busy, queued]
          exact ⟨(proceed_exposure { writer with queue := rest } _ _ _ _).1,
            here ▸ (proceed_exposure { writer with queue := rest } _ _ _ _).2⟩

theorem pass_ages (writer : Writer) (time : Nat) : writer.Ages (writer.pass time) := by
  refine ⟨Nat.le_refl _, Nat.le_of_eq ?_⟩
  cases busy : writer.underway <;> simp [exposure, pass, busy]

theorem settle_ages (writer : Writer) : writer.Ages writer.settle :=
  ⟨Nat.le_refl _, Nat.le_refl _⟩

theorem stop_ages (writer : Writer) : writer.Ages writer.stop := by
  refine ⟨Nat.le_refl _, ?_⟩
  rw [exposure, exposure]
  exact Nat.le_trans (Nat.le_add_right _ _) (Nat.le_add_right _ _)

theorem enqueue_exposure (writer : Writer) (batch : Batch) :
    (writer.enqueue batch).2.failed = writer.failed ∧
      (writer.enqueue batch).2.exposure = writer.exposure + (writer.enqueue batch).1.toNat := by
  cases running : writer.running with
  | true => simp [enqueue, running, exposure, Nat.add_assoc]
  | false => simp [enqueue, running]

end Writer

/-! ## Crews -/

namespace Crew

variable {crew between after : Crew} {id : WriterId} {writer : Writer}

theorem find_each (crew : Crew) (id : WriterId) (change : Writer → Writer) :
    Crew.find? { crew with
      writers := crew.writers.map fun (other, writer) => (other, change writer) } id =
        (crew.find? id).map change := by
  rw [find?, find?]
  induction crew.writers with
  | nil => rfl
  | cons entry rest induction =>
      obtain ⟨other, writer⟩ := entry
      rw [List.map_cons, List.lookup_cons, List.lookup_cons, induction]
      cases id == other <;> rfl

theorem find_put (crew : Crew) (id : WriterId) (writer : Writer) (other : WriterId) :
    (crew.put id writer).find? other =
      (crew.find? other).map fun old => if other = id then writer else old := by
  rw [find?, find?, put]
  induction crew.writers with
  | nil => rfl
  | cons entry rest induction =>
      obtain ⟨number, old⟩ := entry
      rw [List.map_cons, List.lookup_cons]
      by_cases own : number = id
      · simp only [own, if_true, List.lookup_cons, induction]
        by_cases same : other = id
        · simp [same]
        · simp [same, beq_false_of_ne]
      · simp only [own, if_false, List.lookup_cons, induction]
        by_cases same : other = number
        · simp [same, own]
        · simp [same, beq_false_of_ne]

theorem lookup_filter (entries : List (WriterId × Writer)) (keep : WriterId → Bool) (id : WriterId) :
    (entries.filter fun entry => keep entry.1).lookup id =
      if keep id then entries.lookup id else none := by
  induction entries with
  | nil => exact (ite_self _).symm
  | cons entry rest induction =>
      obtain ⟨other, writer⟩ := entry
      rw [List.filter_cons, List.lookup_cons]
      by_cases same : id = other
      · subst same
        cases kept : keep id <;> simp [induction, kept]
      · cases kept : keep other <;> simp [induction, List.lookup_cons, beq_false_of_ne same]

/-- The turns of writers have no part in who they are. -/
theorem find_postpone (crew : Crew) (id other : WriterId) :
    (crew.postpone id).find? other = crew.find? other := by
  have before := lookup_filter crew.writers (· ≠ id) other
  have last := lookup_filter crew.writers (· = id) other
  rw [find?, postpone, List.lookup_append, before, last, ← find?]
  by_cases own : other = id <;> simp [own]

theorem find_act {σ : Type} [SortedSets σ] (crew : Crew) (id : WriterId) (store : σ)
    (other : WriterId) :
    (crew.act id store).1.find? other =
      (crew.find? other).map fun writer => if other = id then (writer.step store).1 else writer := by
  cases found : crew.find? id with
  | none =>
      rw [act_absent found]
      by_cases own : other = id
      · rw [own, found]
        rfl
      · simp [own]
  | some writer =>
      have put : (crew.act id store).1.find? other =
          (crew.put id (writer.step store).1).find? other := by
        simp only [act, found]
        split
        · exact find_postpone _ _ _
        · rfl
      rw [put, find_put]
      by_cases own : other = id
      · simp [own, found]
      · simp [own]

theorem find_stop (crew : Crew) (id other : WriterId) :
    (crew.stop id).2.find? other =
      (crew.find? other).map fun writer => if other = id then writer.stop else writer := by
  cases found : crew.find? id with
  | none =>
      simp only [stop, found]
      by_cases own : other = id
      · rw [own, found]
        rfl
      · simp [own]
  | some writer =>
      simp only [stop, found, find_put]
      by_cases own : other = id
      · simp [own, found]
      · simp [own]

theorem find_enqueue (crew : Crew) (id : WriterId) (batch : Batch) :
    (crew.enqueue id batch).2.find? id =
      (crew.find? id).map fun writer => (writer.enqueue batch).2 := by
  cases found : crew.find? id with
  | none =>
      simp only [enqueue, found]
      rfl
  | some writer =>
      have put : (crew.enqueue id batch).2.find? id =
          (crew.put id (writer.enqueue batch).2).find? id := by
        simp only [enqueue, found]
        split
        · rfl
        · exact find_postpone _ _ _
      rw [put, find_put, found]
      simp

def failures (crew : Crew) (id : WriterId) : Nat :=
  ((crew.find? id).map (·.failed)).getD 0

def unfinished (crew : Crew) (id : WriterId) : Nat :=
  ((crew.find? id).map Writer.unfinished).getD 0

def exposure (crew : Crew) (id : WriterId) : Nat :=
  ((crew.find? id).map Writer.exposure).getD 0

theorem exposure_eq (crew : Crew) (id : WriterId) :
    crew.exposure id = crew.failures id + crew.unfinished id := by
  rw [exposure, failures, unfinished]
  cases crew.find? id with
  | none => rfl
  | some writer => exact Nat.add_assoc _ _ _

structure Ages (id : WriterId) (before after : Crew) : Prop where
    failures : before.failures id ≤ after.failures id
    exposure : after.exposure id ≤ before.exposure id

theorem Ages.refl (id : WriterId) (crew : Crew) : Ages id crew crew :=
  ⟨Nat.le_refl _, Nat.le_refl _⟩

theorem Ages.trans (first : Ages id crew between) (second : Ages id between after) :
    Ages id crew after :=
  ⟨first.failures.trans second.failures, second.exposure.trans first.exposure⟩

theorem ages_of_find {change : Writer → Writer} (ages : ∀ writer : Writer, writer.Ages (change writer))
    (found : after.find? id = (crew.find? id).map change) : Ages id crew after := by
  constructor
  · rw [failures, failures, found]
    cases crew.find? id with
    | none => exact Nat.le_refl _
    | some writer => exact (ages writer).failed
  · rw [exposure, exposure, found]
    cases crew.find? id with
    | none => exact Nat.le_refl _
    | some writer => exact (ages writer).exposure

theorem act_ages {σ : Type} [SortedSets σ] (crew : Crew) (turn : WriterId) (store : σ)
    (id : WriterId) : Ages id crew (crew.act turn store).1 := by
  refine ages_of_find (fun writer => ?_) (find_act crew turn store id)
  split
  · exact writer.step_ages store
  · exact .refl writer

theorem pass_ages (crew : Crew) (time : Nat) (id : WriterId) : Ages id crew (crew.pass time) :=
  ages_of_find (Writer.pass_ages · time) (crew.find_each id _)

theorem settle_ages (crew : Crew) (id : WriterId) : Ages id crew crew.settle :=
  ages_of_find Writer.settle_ages (crew.find_each id _)

theorem stop_ages (crew : Crew) (stopped id : WriterId) : Ages id crew (crew.stop stopped).2 := by
  refine ages_of_find (fun writer => ?_) (crew.find_stop stopped id)
  split
  · exact writer.stop_ages
  · exact .refl writer

theorem run_ages {σ : Type} [SortedSets σ] (crew : Crew) (target : Option WriterId)
    (time : Option Nat) (store : σ) (id : WriterId) :
    Ages id crew (crew.run target time store).1 := by
  let holds (later : Crew) (_ : σ) : Prop := Ages id crew later
  have act : ∀ later store turn, holds later store →
      holds (later.act turn store).1 (later.act turn store).2.1 := fun later store turn ages =>
    ages.trans (later.act_ages turn store id)
  have start : holds crew store := .refl id crew
  exact run_keeps act (fun later _ time ages => ages.trans (later.pass_ages time id))
    (fun later _ ages => ages.trans (later.settle_ages id)) target time start

theorem enqueue_exposure (crew : Crew) (id : WriterId) (batch : Batch) :
    (crew.enqueue id batch).2.failures id = crew.failures id ∧
      (crew.enqueue id batch).2.exposure id =
        crew.exposure id + (crew.enqueue id batch).1.toNat := by
  rw [failures, failures, exposure, exposure, find_enqueue]
  cases found : crew.find? id with
  | none => simp [enqueue, found]
  | some writer =>
      obtain ⟨failed, exposed⟩ := writer.enqueue_exposure batch
      have taken : (crew.enqueue id batch).1 = (writer.enqueue batch).1 := by
        simp only [enqueue, found]
      exact ⟨failed, taken ▸ exposed⟩

end Crew

end Replica

/-- Whatever happens of its own accord, writers only age. -/
theorem Stir.apply_ages (stir : Stir) (deployment : Deployment) (id : WriterId) :
    deployment.crew.Ages id (stir.apply deployment).crew := by
  cases stir with
  | act writer => exact deployment.crew.act_ages writer deployment.memory id
  | pass time => exact deployment.crew.pass_ages time id
  | settle => exact deployment.crew.settle_ages id
  | work target time => exact deployment.crew.run_ages target time deployment.memory id
  | halt writer => exact deployment.crew.stop_ages writer id
  | weather conditions => exact .refl id _
  | clock other => exact .refl id _

theorem Stir.fold_ages (stirs : List Stir) (deployment : Deployment) (id : WriterId) :
    deployment.crew.Ages id (stirs.foldl Stir.apply deployment).crew := by
  induction stirs generalizing deployment with
  | nil => exact .refl id _
  | cons stir rest induction =>
      exact (stir.apply_ages deployment id).trans (induction (stir.apply deployment))

/-! ## Rosters -/

namespace Roster

def failures (roster : Roster) (crew : Crew) : Nat :=
  roster.inlineFailures + roster.writer.elim 0 crew.failures

def unfinished (roster : Roster) (crew : Crew) : Nat :=
  roster.writer.elim 0 crew.unfinished

def exposure (roster : Roster) (crew : Crew) : Nat :=
  roster.inlineFailures + roster.writer.elim 0 crew.exposure

theorem figures_failures (roster : Roster) (deployment : Deployment) :
    (roster.figures deployment).replicaFailures = roster.failures deployment.crew := by
  cases employed : roster.writer <;> simp only [figures, failures, employed] <;> rfl

theorem exposure_eq (roster : Roster) (crew : Crew) :
    roster.exposure crew = roster.failures crew + roster.unfinished crew := by
  rw [exposure, failures, unfinished, Nat.add_assoc]
  cases roster.writer with
  | none => rfl
  | some id => exact congrArg _ (crew.exposure_eq id)

theorem failures_le_exposure (roster : Roster) (crew : Crew) :
    roster.failures crew ≤ roster.exposure crew :=
  roster.exposure_eq crew ▸ Nat.le_add_right _ _

/-- What has failed and what may yet fail do not depend on what is remembered. -/
theorem exposure_congr {roster other : Roster} (inline : other.inlineFailures = roster.inlineFailures)
    (writer : other.writer = roster.writer) (crew : Crew) :
    other.failures crew = roster.failures crew ∧ other.exposure crew = roster.exposure crew := by
  rw [failures, failures, exposure, exposure, inline, writer]
  exact ⟨rfl, rfl⟩

/-- A roster and its crew at a later moment, if it was given a number of batches in between. -/
structure Ages (more : Nat) (roster : Roster) (crew : Crew) (later : Roster) (after : Crew) :
    Prop where
    failures : roster.failures crew ≤ later.failures after
    exposure : later.exposure after ≤ roster.exposure crew + more

theorem Ages.refl (roster : Roster) (crew : Crew) : Ages 0 roster crew roster crew :=
  ⟨Nat.le_refl _, Nat.le_refl _⟩

theorem ages_of_crew (roster : Roster) {crew after : Crew} (ages : ∀ id, crew.Ages id after) :
    Ages 0 roster crew roster after := by
  constructor
  · refine Nat.add_le_add_left ?_ _
    cases roster.writer with
    | none => exact Nat.le_refl _
    | some id => exact (ages id).failures
  · refine Nat.add_le_add_left ?_ _
    cases roster.writer with
    | none => exact Nat.le_refl _
    | some id => exact (ages id).exposure

/-- A batch that is written at once is one failure at most. -/
theorem write_inline_failures (roster : Roster) (batch : Batch) (deployment : Deployment) :
    ∃ flaw : Bool, (roster.writeInline batch deployment).state =
      { roster with inlineFailures := roster.inlineFailures + flaw.toNat } :=
  ⟨_, congrArg Life.roster (roster.write_inline_life batch deployment)⟩

theorem persist_ages (roster : Roster) (batch : Batch) (deployment : Deployment) :
    let turn := roster.persist batch deployment
    Ages 1 roster deployment.crew turn.state turn.backend.crew := by
  intro turn
  have crew : turn.backend.crew = _ := roster.persist_crew batch deployment
  rw [crew]
  cases employed : roster.writer with
  | none =>
      obtain ⟨flaw, state⟩ := roster.write_inline_failures batch deployment
      have same : turn = roster.writeInline batch deployment := by
        simp only [turn, persist, employed]
      rw [same, state]
      have few := Bool.toNat_le flaw
      constructor <;> simp only [failures, exposure, employed, Option.elim_none] <;> omega
  | some id =>
      obtain ⟨failed, exposed⟩ := deployment.crew.enqueue_exposure id batch
      cases taken : (deployment.crew.enqueue id batch).1 with
      | true =>
          have state : turn.state = roster := by
            simp only [turn, persist, employed, ReplicaQueue.enqueue, taken]
          rw [taken] at exposed
          rw [state]
          constructor <;>
            simp only [failures, exposure, employed, Option.elim_some, failed, exposed,
              Bool.toNat_true] <;> omega
      | false =>
          obtain ⟨flaw, written⟩ := roster.write_inline_failures batch
            { deployment with crew := (deployment.crew.enqueue id batch).2 }
          have same : turn.state = (roster.writeInline batch
              { deployment with crew := (deployment.crew.enqueue id batch).2 }).state := by
            simp only [turn, persist, employed, ReplicaQueue.enqueue, taken]
          have few := Bool.toNat_le flaw
          rw [taken] at exposed
          rw [same, written]
          constructor <;>
            simp only [failures, exposure, employed, Option.elim_some, failed, exposed,
              Bool.toNat_false] <;> omega

theorem add_ages (roster : Roster) (sender : Sender) (deployment : Deployment) :
    let turn := roster.add sender deployment
    Ages 1 roster deployment.crew turn.state turn.backend.crew := by
  intro turn
  cases known : roster.has sender with
  | true =>
      have idle : turn = ⟨.ok (), roster, deployment, []⟩ := Roster.add_member known deployment
      rw [idle]
      exact ⟨Nat.le_refl _, Nat.le_succ _⟩
  | false =>
      let score := Score.ofMillis deployment.clock.current
      have ages := (roster.enrol sender score).1.persist_ages
        ((roster.enrolment sender score).batch roster.settings.replicaKey) deployment.ticked
      rw [← add_stranger_turn known deployment] at ages
      obtain ⟨failures, exposure⟩ := exposure_congr
        (show (roster.enrol sender score).1.inlineFailures = _ from enrol_failures) enrol_writer
        deployment.crew
      exact ⟨failures ▸ ages.failures, exposure ▸ ages.exposure⟩

end Roster

/-! ## Registrars -/

namespace Registrar

/-- A decision exposes a batch only if it records a request. -/
theorem decide_ages (registrar : Registrar) (event : Event) (deployment : Deployment) :
    let turn := registrar.decide event deployment
    Roster.Ages turn.answer.outcome.isRegistered.toNat registrar.roster deployment.crew
      turn.state.roster turn.backend.crew := by
  rcases registrar.decide_cases event deployment with ⟨_, turn⟩ | ⟨_, _, outcome, neither, turn⟩ |
    ⟨_, _, target, _, turn⟩
  · rw [turn]
    exact .refl _ _
  · rw [turn]
    rcases neither with rfl | rfl <;> exact .refl _ _
  · obtain ⟨streamId, between, recorded⟩ :=
      register_records registrar.counted event target deployment
    obtain ⟨replicated, answer⟩ := recorded.answer
    have ages := registrar.counted.roster.add_ages event.pubkey between
    rw [turn, answer, recorded.backend, recorded.state]
    rw [recorded.crew] at ages
    exact ages

theorem load_exposure (registrar : Registrar) (deployment : Deployment) :
    let turn := registrar.load deployment
    turn.state.roster.failures turn.backend.crew = registrar.roster.failures deployment.crew ∧
      turn.state.roster.exposure turn.backend.crew =
        registrar.roster.exposure deployment.crew := by
  have crew : (registrar.load deployment).backend.crew = deployment.crew := by
    rw [load, Roster.load_deployment]
    rfl
  have inline : (registrar.load deployment).state.roster.inlineFailures =
      registrar.roster.inlineFailures := by
    simp only [load, Roster.load]
    split <;> rfl
  intro turn
  rw [show turn.backend.crew = _ from crew]
  exact Roster.exposure_congr inline (Roster.load_writer _ _) _

end Registrar

end OptOut
