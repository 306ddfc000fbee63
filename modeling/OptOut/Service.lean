import OptOut.Deployment
import OptOut.Policy.Chain
import OptOut.Policy.Standard
import OptOut.Settings

/-!
# The service

Puts the parts together: the registrar with its remembered senders loaded, a replica writer if one
is wanted, and the policies in order. A service that cannot load its senders does not start, unless
a cold start is allowed.
-/

namespace OptOut

inductive StartupFault where
  | settings (error : RegistrarFault)
  | load (error : RosterFault)
deriving DecidableEq, Repr

def StartupFault.message : StartupFault → String
  | settings error => "invalid policy configuration: " ++ error.message
  | load error =>
    "could not load vanished senders (set VANISH_ALLOW_COLD_START=true to serve anyway): " ++
      error.message

structure Service where
    policies : List StandardPolicy
    /-- The writer to wait for at the end, if there is one. -/
    writer : Option WriterId
    /-- How many senders were loaded; nothing after a cold start. -/
    loaded : Option Nat

/-- How long queued replica writes are waited for at the end, in seconds. -/
def drainSeconds : Nat := 5

namespace Service

/-- The policies of a service, the one on vanished senders first. -/
def policiesOf (settings : Settings) (policy : MeteredRegistrar) : List StandardPolicy :=
  .registrar policy :: if settings.admissionControl then [.admission {}] else []

/-- Starts to serve once the senders are loaded, or were allowed to be missing. Otherwise a writer
that was to work for the service is let go. -/
def assemble (settings : Settings) (writer : Option WriterId)
    (turn : Turn (Except RosterFault Nat) Registrar Deployment) (site : Site Deployment) :
    Except StartupFault Service × Site Deployment :=
  let site := { site with backend := turn.backend }.report turn.log
  let ready (loaded : Option Nat) (site : Site Deployment) :=
    let (policy, metrics) := MeteredRegistrar.start turn.state site.metrics
    (.ok ⟨policiesOf settings policy, writer, loaded⟩, { site with metrics })
  match turn.answer with
  | .ok count => ready (some count) site
  | .error error =>
    if settings.allowColdStart then ready none (site.report [.coldStart error])
    else (.error (.load error),
      { site with backend := writer.elim site.backend site.backend.dismissWriter })

def start (settings : Settings) (site : Site Deployment) :
    Except StartupFault Service × Site Deployment :=
  match Registrar.ofSettings settings.registrar with
  | .error error => (.error (.settings error), site)
  | .ok registrar =>
    if settings.writeBehind then
      let (writer, backend) := site.backend.startWriter settings.storeTimeout
      assemble settings (some writer) ((registrar.withWriter writer).load backend) site
    else assemble settings none (registrar.load site.backend) site

/-- Ends a service: waits for its queued replica writes, up to a limit. A writer that does not get
done in time stays at work on its own, and one that was stopped before is missed. -/
def shutdown (service : Service) (site : Site Deployment) :
    Option Replica.WriterTally × Site Deployment :=
  match service.writer with
  | none => (none, site)
  | some writer =>
    let (deployment, log) := site.backend.awaitWriter writer (some (1000 * drainSeconds))
    let site := { site with backend := deployment }.report log
    if deployment.crew.isIdle writer then
      match deployment.endWriter writer with
      | (some tally, deployment) => (some tally, { site with backend := deployment })
      | (none, deployment) =>
        (none, { site with backend := deployment }.report [.writerFailed writer])
    else (none, site.report [.drainGivenUp drainSeconds])

end Service

end OptOut
