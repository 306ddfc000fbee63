import OptOut.Proofs.Effects
import OptOut.Proofs.Provenance

/-!
# What lies ahead of a writer

A writer does its writes in the order in which they were queued, whatever the store answers: what it
has done and what lies ahead of it make up the same list at every step. A batch that is queued comes
last; a writer that is stopped gives up what lies ahead and does nothing any more.
-/

namespace OptOut

open Replica

/-! ## Writers on a recorded store -/

namespace Replica

variable {σ : Type} [SortedSets σ]

theorem Underway.conclude_traced (underway : Underway) (limit : Millis) (traced : Traced σ) :
    underway.conclude limit traced = ((underway.conclude limit traced.inner).1,
      traced.note (.write underway.key underway.write)
        (underway.conclude limit traced.inner).2) := by
  rw [conclude, Write.call_traced, Call.conclude_embed]
  rfl

namespace Writer

theorem proceed_traced (writer : Writer) (key : String) (flawed : Bool) (traced : Traced σ)
    (rest : List Write) :
    writer.proceed key flawed traced rest = writer.proceed key flawed traced.inner rest := by
  cases rest with
  | nil => rfl
  | cons write later =>
      simp only [proceed, Underway.begin, Write.call_traced]
      rfl

def ending (writer : Writer) : List Effect :=
  writer.underway.toList.map fun underway => .write underway.key underway.write

theorem step_traced (writer : Writer) (traced : Traced σ) :
    writer.step traced = ((writer.step traced.inner).1,
      ⟨(writer.step traced.inner).2.1, traced.trace ++ writer.ending⟩,
      (writer.step traced.inner).2.2) := by
  cases busy : writer.underway with
  | some underway =>
      cases ended : underway.conclude writer.limit traced.inner with
      | mk result inner =>
          cases result <;>
            simp only [step, ending, busy, Underway.conclude_traced, ended, proceed_traced] <;> rfl
  | none =>
      cases queued : writer.queue <;>
        simp [step, ending, busy, queued, proceed_traced]

def ahead (writer : Writer) : List Effect :=
  (match writer.underway with
    | none => []
    | some underway => (underway.write :: underway.later).map (.write underway.key)) ++
  writer.queue.flatMap Batch.effects

theorem ahead_proceed (writer : Writer) (key : String) (flawed : Bool) (store : σ)
    (rest : List Write) : (writer.proceed key flawed store rest).ahead =
      rest.map (.write key) ++ writer.queue.flatMap Batch.effects := by
  cases rest with
  | cons write later => rfl
  | nil => cases flawed <;> rfl

/-- A step does the first of what is ahead, or nothing. -/
theorem ahead_step (writer : Writer) (store : σ) :
    writer.ending ++ (writer.step store).1.ahead = writer.ahead := by
  cases busy : writer.underway with
  | some underway =>
      have here : writer.ahead = .write underway.key underway.write ::
          (underway.later.map (.write underway.key) ++ writer.queue.flatMap Batch.effects) := by
        rw [ahead, busy]
        rfl
      have first : writer.ending = [.write underway.key underway.write] := by
        rw [ending, busy]
        rfl
      rw [here, first]
      cases ended : underway.conclude writer.limit store with
      | mk result left => cases result <;> simp only [step, busy, ended, ahead_proceed] <;> rfl
  | none =>
      have first : writer.ending = [] := by
        rw [ending, busy]
        rfl
      rw [first, List.nil_append]
      cases queued : writer.queue with
      | nil => simp only [step, busy, queued]
      | cons batch rest =>
          simp only [step, busy, queued, ahead_proceed]
          simp [ahead, busy, queued, Batch.effects]

theorem ahead_pass (writer : Writer) (time : Nat) : (writer.pass time).ahead = writer.ahead := by
  cases busy : writer.underway <;> simp [ahead, pass, busy]

theorem ahead_enqueue (writer : Writer) (batch : Batch) :
    (writer.enqueue batch).2.ahead =
      writer.ahead ++ if writer.running then batch.effects else [] := by
  cases running : writer.running <;> simp [ahead, enqueue, running]

end Writer

namespace Crew

theorem act_inner (crew : Crew) (id : WriterId) (traced : Traced σ) :
    (crew.act id traced).1 = (crew.act id traced.inner).1 ∧
      (crew.act id traced).2.1.inner = (crew.act id traced.inner).2.1 := by
  cases found : crew.find? id with
  | none =>
      rw [act_absent found, act_absent found]
      exact ⟨rfl, rfl⟩
  | some writer =>
      simp only [act, found, Writer.step_traced]
      exact ⟨trivial, trivial⟩

theorem run_steps_inner (target : Option WriterId) (steps : Nat) (time : Option Nat) (crew : Crew)
    (traced : Traced σ) :
    (runSteps target steps time crew traced).1 = (runSteps target steps time crew traced.inner).1 ∧
      (runSteps target steps time crew traced).2.1.inner =
        (runSteps target steps time crew traced.inner).2.1 := by
  induction steps generalizing time crew traced with
  | zero => exact ⟨rfl, rfl⟩
  | succ steps induction =>
      cases next : crew.next? with
      | none =>
          simp only [runSteps, next]
          exact ⟨trivial, trivial⟩
      | some turn =>
          obtain ⟨id, wait⟩ := turn
          simp only [runSteps, next]
          split
          · exact ⟨rfl, rfl⟩
          · cases time.filter (· ≤ wait) with
            | some time => exact ⟨rfl, rfl⟩
            | none =>
                obtain ⟨crews, stores⟩ := (crew.pass wait).act_inner id traced
                obtain ⟨after, left⟩ := induction (time.map (· - wait))
                  ((crew.pass wait).act id traced).1 ((crew.pass wait).act id traced).2.1
                exact ⟨after.trans (by rw [crews, stores]), left.trans (by rw [crews, stores])⟩

theorem run_inner (crew : Crew) (target : Option WriterId) (time : Option Nat)
    (traced : Traced σ) :
    (crew.run target time traced).1 = (crew.run target time traced.inner).1 ∧
      (crew.run target time traced).2.1.inner = (crew.run target time traced.inner).2.1 := by
  obtain ⟨crews, stores⟩ := run_steps_inner target crew.work time crew traced
  exact ⟨congrArg settle crews, stores⟩

/-! ## A crew of one, or of none -/

def ahead (crew : Crew) : List Effect :=
  crew.writers.flatMap (·.2.ahead)

/-- Nobody works but one writer at most, and if there is one, it is at the owner's service; once it
is stopped, nothing is left to do. -/
def Serves (owner : Option WriterId) (crew : Crew) : Prop :=
  crew.writers = [] ∨ ∃ id writer, owner = some id ∧ crew.writers = [(id, writer)] ∧
    (writer.running = false → writer.ahead = [])

variable {crew : Crew} {id : WriterId} {writer : Writer} {owner : Option WriterId}

theorem ahead_sole (sole : crew.writers = [(id, writer)]) : crew.ahead = writer.ahead := by
  simp [ahead, sole]

theorem ahead_nobody (nobody : crew.writers = []) : crew.ahead = [] := by
  simp [ahead, nobody]

theorem find_nobody (nobody : crew.writers = []) (id : WriterId) : crew.find? id = none := by
  simp [find?, nobody]

/-- What a writer has done and what it has still to do make up the same, at every step. -/
theorem Serves.act (serves : Serves owner crew) (id : WriterId) (traced : Traced σ) :
    Serves owner (crew.act id traced).1 ∧
      (crew.act id traced).2.1.trace ++ (crew.act id traced).1.ahead =
        traced.trace ++ crew.ahead := by
  have idle : crew.find? id = none → Serves owner (crew.act id traced).1 ∧
      (crew.act id traced).2.1.trace ++ (crew.act id traced).1.ahead =
        traced.trace ++ crew.ahead := by
    intro absent
    rw [act_absent absent]
    exact ⟨serves, rfl⟩
  rcases serves with nobody | ⟨own, writer, employed, sole, done⟩
  · exact idle (find_nobody nobody id)
  · by_cases same : id = own
    · have order := writer.ahead_step traced
      rw [same, act_sole sole, ahead_sole sole, ahead_sole rfl]
      constructor
      · refine .inr ⟨own, _, employed, rfl, fun stopped => ?_⟩
        rw [(writer.step_keeps traced).2] at stopped
        rw [done stopped] at order
        exact (List.append_eq_nil_iff.1 order).2
      · rw [← order, ← List.append_assoc, Writer.step_traced]
    · exact idle (find_other sole same)

/-- What changes no writer's work or state of running leaves all work as it is. -/
theorem Serves.each (serves : Serves owner crew) (change : Writer → Writer)
    (running : ∀ writer, (change writer).running = writer.running)
    (ahead : ∀ writer, (change writer).ahead = writer.ahead) :
    let after := { crew with writers := crew.writers.map fun (id, writer) => (id, change writer) }
    Serves owner after ∧ after.ahead = crew.ahead := by
  constructor
  · rcases serves with nobody | ⟨own, writer, employed, sole, done⟩
    · left
      simp only [nobody, List.map_nil]
    · have still : crew.writers.map (fun (id, writer) => (id, change writer)) =
          [(own, change writer)] := by
        rw [sole]
        rfl
      refine .inr ⟨own, change writer, employed, still, ?_⟩
      rw [running, ahead]
      exact done
  · simp only [Crew.ahead, List.flatMap_map, ahead]

theorem Serves.pass (serves : Serves owner crew) (time : Nat) :
    Serves owner (crew.pass time) ∧ (crew.pass time).ahead = crew.ahead :=
  serves.each (Writer.pass time) (fun _ => rfl) fun writer => writer.ahead_pass time

theorem Serves.settle (serves : Serves owner crew) :
    Serves owner crew.settle ∧ crew.settle.ahead = crew.ahead :=
  serves.each Writer.settle (fun _ => rfl) fun _ => rfl

theorem Serves.run (serves : Serves owner crew) (target : Option WriterId) (time : Option Nat)
    (traced : Traced σ) :
    Serves owner (crew.run target time traced).1 ∧
      (crew.run target time traced).2.1.trace ++ (crew.run target time traced).1.ahead =
        traced.trace ++ crew.ahead := by
  refine @run_keeps (Traced σ) _ (fun later left => Serves owner later ∧
    left.trace ++ later.ahead = traced.trace ++ crew.ahead) ?_ ?_ ?_ target time crew traced
    ⟨serves, rfl⟩
  · rintro later left id ⟨kept, order⟩
    exact ⟨(kept.act id left).1, (kept.act id left).2.trans order⟩
  · rintro later left time ⟨kept, order⟩
    exact ⟨(kept.pass time).1, (congrArg _ (kept.pass time).2).trans order⟩
  · rintro later left ⟨kept, order⟩
    exact ⟨kept.settle.1, (congrArg _ kept.settle.2).trans order⟩

/-- A writer that is stopped has nothing left to do. -/
theorem Serves.stop (serves : Serves owner crew) (id : WriterId) :
    Serves owner (crew.stop id).2 ∧
      ((crew.stop id).2.ahead = crew.ahead ∨ (crew.stop id).2.ahead = []) := by
  have idle : crew.find? id = none → Serves owner (crew.stop id).2 ∧
      ((crew.stop id).2.ahead = crew.ahead ∨ (crew.stop id).2.ahead = []) := by
    intro absent
    simp only [Crew.stop, absent]
    exact ⟨serves, .inl trivial⟩
  rcases serves with nobody | ⟨own, writer, employed, sole, done⟩
  · exact idle (find_nobody nobody id)
  · by_cases same : id = own
    · rw [same]
      simp only [Crew.stop, find_sole sole, put_sole sole]
      refine ⟨.inr ⟨own, _, employed, rfl, fun _ => rfl⟩, .inr ?_⟩
      rw [ahead_sole rfl]
      rfl
    · exact idle (find_other sole same)

def accepts (crew : Crew) (id : WriterId) : Bool :=
  (crew.find? id).any (·.running)

theorem enqueue_taken (crew : Crew) (id : WriterId) (batch : Batch) :
    (crew.enqueue id batch).1 = crew.accepts id := by
  cases found : crew.find? id with
  | none => simp only [enqueue, accepts, found, Option.any_none]
  | some writer =>
      simp only [enqueue, accepts, found, Writer.enqueue, Option.any_some]
      split <;> simp_all

theorem Serves.ahead_unserved (serves : Serves none crew) : crew.ahead = [] := by
  rcases serves with nobody | ⟨_, _, employed, _⟩
  · exact ahead_nobody nobody
  · exact nomatch employed

/-- A batch that is taken comes behind everything that is ahead; if none is taken, nothing is. -/
theorem Serves.enqueue (serves : Serves (some id) crew) (batch : Batch) :
    Serves (some id) (crew.enqueue id batch).2 ∧
      if crew.accepts id then (crew.enqueue id batch).2.ahead = crew.ahead ++ batch.effects
      else (crew.enqueue id batch).2.ahead = [] ∧ crew.ahead = [] := by
  rcases serves with nobody | ⟨own, writer, employed, sole, done⟩
  · have absent := find_nobody nobody id
    simp only [Crew.enqueue, accepts, absent, Option.any_none, Bool.false_eq_true, if_false]
    exact ⟨.inl nobody, ahead_nobody nobody, ahead_nobody nobody⟩
  · obtain rfl := Option.some.inj employed
    rw [enqueue_sole sole, accepts, find_sole sole, ahead_sole sole, ahead_sole rfl,
      Writer.ahead_enqueue, Option.any_some]
    cases running : writer.running with
    | true =>
        refine ⟨.inr ⟨id, _, rfl, rfl, fun stopped => ?_⟩, rfl⟩
        simp [Writer.enqueue, running] at stopped
    | false =>
        have nothing := done running
        simp only [Bool.false_eq_true, if_false, List.append_nil]
        refine ⟨.inr ⟨id, _, rfl, rfl, fun _ => ?_⟩, nothing, nothing⟩
        rw [Writer.ahead_enqueue, nothing, running]
        rfl

end Crew

end Replica

/-! ## Recorded deployments -/

namespace Traced

def memory (traced : Traced Deployment) : Traced Memory :=
  ⟨traced.inner.memory, traced.trace⟩

def rejoin (traced : Traced Deployment) (crew : Crew) (memory : Traced Memory) :
    Traced Deployment :=
  ⟨{ traced.inner with crew, memory := memory.inner }, memory.trace⟩

/-- What happens to a deployment of its own accord, and what its writers then ask of the store. -/
def stir (traced : Traced Deployment) : Stir → Traced Deployment
  | .act writer =>
    let (crew, memory, _) := traced.inner.crew.act writer traced.memory
    traced.rejoin crew memory
  | .work target time =>
    let (crew, memory, _) := traced.inner.crew.run target time traced.memory
    traced.rejoin crew memory
  | other => ⟨other.apply traced.inner, traced.trace⟩

theorem stir_inner (traced : Traced Deployment) (stir : Stir) :
    (traced.stir stir).inner = stir.apply traced.inner := by
  cases stir with
  | act writer =>
      obtain ⟨crew, memory⟩ := traced.inner.crew.act_inner writer traced.memory
      simp only [Traced.stir, rejoin, crew, memory]
      rfl
  | work target time =>
      obtain ⟨crew, memory⟩ := traced.inner.crew.run_inner target time traced.memory
      simp only [Traced.stir, rejoin, crew, memory]
      rfl
  | _ => rfl

def outlook (traced : Traced Deployment) : List Effect :=
  traced.trace ++ traced.inner.crew.ahead

end Traced

/-- Whatever happens of its own accord, what was done and what lies ahead stay the same, or what
lies ahead is lost. -/
theorem Replica.Crew.Serves.stir {owner : Option WriterId} {traced : Traced Deployment}
    (serves : traced.inner.crew.Serves owner) (happening : Stir) :
    (traced.stir happening).inner.crew.Serves owner ∧
      ∃ lost, (traced.stir happening).outlook ++ lost = traced.outlook := by
  have still : ∀ after : Traced Deployment, after.trace = traced.trace →
      after.inner.crew.ahead = traced.inner.crew.ahead →
        ∃ lost, after.outlook ++ lost = traced.outlook := by
    intro after trace ahead
    refine ⟨[], ?_⟩
    rw [List.append_nil, Traced.outlook, trace, ahead, Traced.outlook]
  cases happening with
  | act writer =>
      obtain ⟨serves, order⟩ := serves.act writer traced.memory
      exact ⟨serves, [], (List.append_nil _).trans order⟩
  | work target time =>
      obtain ⟨serves, order⟩ := serves.run target time traced.memory
      exact ⟨serves, [], (List.append_nil _).trans order⟩
  | pass time => exact ⟨(serves.pass time).1, still _ rfl (serves.pass time).2⟩
  | settle => exact ⟨serves.settle.1, still _ rfl serves.settle.2⟩
  | halt writer =>
      obtain ⟨serves, same | nothing⟩ := serves.stop writer
      · exact ⟨serves, still _ rfl same⟩
      · have left : (traced.stir (.halt writer)).outlook = traced.trace := by
          rw [Traced.outlook, show (traced.stir (.halt writer)).inner.crew.ahead = [] from nothing]
          exact List.append_nil _
        exact ⟨serves, traced.inner.crew.ahead, by rw [left, Traced.outlook]⟩
  | weather conditions => exact ⟨serves, still _ rfl rfl⟩
  | clock other => exact ⟨serves, still _ rfl rfl⟩

end OptOut
