import OptOut.Registrar.Settings
import OptOut.Roster
import OptOut.Reply

/-!
# The registrar

Decides on each event. A sender that is remembered is shadow-rejected. Everyone else is accepted;
and if the event asks to vanish from this relay, the request is recorded on a stream, for others to
act on, and the sender is remembered. No failure to record changes the decision.
-/

namespace OptOut

/-- What became of an event. -/
inductive Outcome where
    /-- The sender had vanished before. -/
  | alreadyVanished
    /-- No request to vanish. -/
  | noRequest
    /-- A request to vanish from other relays. -/
  | elsewhere
    /-- A request that was recorded: the id of its stream entry, unless the append failed, and
    whether the replica was written or the write queued. -/
  | registered (target : Target) (streamId : Option String) (replicated : Bool)
deriving DecidableEq, Repr

structure Ruling where
    reply : Reply
    outcome : Outcome
deriving DecidableEq, Repr

structure Registrar where
    scope : Scope
    streamKey : String
    appendTimeout : Millis
    roster : Roster
    decisions : Nat := 0
    shadowRejected : Nat := 0
    registrations : Nat := 0
    appendFailures : Nat := 0

structure RegistrarFigures where
    decisions : Nat
    shadowRejected : Nat
    registrations : Nat
    appendFailures : Nat
    roster : RosterFigures
deriving DecidableEq, Repr

namespace Registrar

def ofSettings (settings : RegistrarSettings) : Except RegistrarFault Registrar :=
  settings.check.map fun scope =>
    { scope
      streamKey := settings.streamKey
      appendTimeout := settings.appendTimeout
      roster := { settings := settings.roster } }

def withWriter (registrar : Registrar) (writer : WriterId) : Registrar :=
  { registrar with roster := { registrar.roster with writer := some writer } }

variable {β : Type}

def load [SortedSets β] (registrar : Registrar) (backend : β) :
    Turn (Except RosterFault Nat) Registrar β :=
  let turn := registrar.roster.load backend
  ⟨turn.answer, { registrar with roster := turn.state }, turn.backend, turn.log⟩

/-- The second of a moment. -/
def secondOf (moment : Millis) : UInt64 :=
  moment / 1000

def appendRecord [Streams β] (registrar : Registrar) (record : Record)
    (backend : β) : Except StoreFault String × β :=
  (Streams.append registrar.streamKey record.fields backend).within
    registrar.appendTimeout .append

/-- Records a request to vanish: first on the stream, then in the roster, each whatever became of
the other. -/
def register [Backend β] (registrar : Registrar) (event : Event) (target : Target)
    (backend : β) : Turn Outcome Registrar β :=
  let (now, backend) := Clock.now backend
  let entry := Record.ofEvent event target (secondOf now)
  let (appended, backend) := registrar.appendRecord entry backend
  let (streamId, missed, appendLog) := match appended with
    | .ok id => (some id, 0, [])
    | .error error => (none, 1, [Log.Entry.appendFailed event error])
  let added := registrar.roster.add event.pubkey backend
  let (replicated, addLog) := match added.answer with
    | .ok () => (true, [])
    | .error error => (false, [Log.Entry.rememberedInMemoryOnly event.pubkey error])
  { answer := .registered target streamId replicated
    state := { registrar with
      roster := added.state
      appendFailures := registrar.appendFailures + missed
      registrations := registrar.registrations + 1 }
    backend := added.backend
    log := appendLog ++ added.log ++ addLog }

def decide [Backend β] (registrar : Registrar) (event : Event) (backend : β) :
    Turn Ruling Registrar β :=
  let registrar := { registrar with decisions := registrar.decisions + 1 }
  if registrar.roster.has event.pubkey then
    ⟨⟨.shadowReject event.id, .alreadyVanished⟩,
      { registrar with shadowRejected := registrar.shadowRejected + 1 }, backend, []⟩
  else if event.kind ≠ optOutKind then
    ⟨⟨.accept event.id, .noRequest⟩, registrar, backend, []⟩
  else match registrar.scope.target? event with
    | none => ⟨⟨.accept event.id, .elsewhere⟩, registrar, backend, []⟩
    | some target =>
      let turn := registrar.register event target backend
      ⟨⟨.accept event.id, turn.answer⟩, turn.state, turn.backend, turn.log⟩

def figures [ReplicaQueue β] (registrar : Registrar) (backend : β) : RegistrarFigures :=
  { decisions := registrar.decisions
    shadowRejected := registrar.shadowRejected
    registrations := registrar.registrations
    appendFailures := registrar.appendFailures
    roster := registrar.roster.figures backend }

end Registrar

end OptOut
