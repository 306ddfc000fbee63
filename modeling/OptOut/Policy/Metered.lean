import OptOut.Registrar
import OptOut.Policy

/-!
# The policy on vanished senders

The decisions of the registrar, counted in the metrics.
-/

namespace OptOut

structure MeteredRegistrar where
    registrar : Registrar
    /-- How many failed replica batches the metrics know of. -/
    reportedFailures : Nat := 0

namespace MeteredRegistrar

def start (registrar : Registrar) (metrics : Metrics) : MeteredRegistrar × Metrics :=
  ({ registrar }, metrics.showMembers registrar.roster.order.length)

/-- Counts a recorded request, and its entry if the stream has none. -/
def countOutcome (members : Nat) (outcome : Outcome) (metrics : Metrics) : Metrics :=
  match outcome with
  | .registered target streamId _ =>
    let metrics := metrics.countRequest target.label
    let metrics := if streamId.isNone then metrics.countStoreFailures "stream_append" 1
      else metrics
    metrics.showMembers members
  | _ => metrics

/-- Counts the failed replica batches that were not counted before, those of a writer included. -/
def countFailures (policy : MeteredRegistrar) (failures : Nat) (metrics : Metrics) :
    MeteredRegistrar × Metrics :=
  if policy.reportedFailures < failures then
    ({ policy with reportedFailures := failures },
      metrics.countStoreFailures "mirror_write" (UInt64.ofNat (failures - policy.reportedFailures)))
  else (policy, metrics)

def decide {β : Type} [Backend β] (request : Request) (policy : MeteredRegistrar) (site : Site β) :
    Verdict MeteredRegistrar β :=
  let turn := policy.registrar.decide request.event site.backend
  let metrics := countOutcome turn.state.roster.order.length turn.answer.outcome site.metrics
  let failures := (turn.state.roster.figures turn.backend).replicaFailures
  let (policy, metrics) := { policy with registrar := turn.state }.countFailures failures metrics
  { reply := turn.answer.reply
    policy
    site := { backend := turn.backend, metrics, log := site.log ++ turn.log } }

end MeteredRegistrar

end OptOut
