import OptOut.Log
import OptOut.Metrics
import OptOut.Reply
import OptOut.Request

/-!
# Policies

A policy decides on requests one after another and may remember what it saw. All policies of a
process share what it is made of: the backend, the metrics and the log.
-/

namespace OptOut

structure Site (β : Type) where
    backend : β
    metrics : Metrics := {}
    log : List Log.Entry := []

def Site.report {β : Type} (site : Site β) (entries : List Log.Entry) : Site β :=
  { site with log := site.log ++ entries }

/-- A reply, with the policy and the site after it was given. -/
structure Verdict (π β : Type) where
    reply : Reply
    policy : π
    site : Site β

/-- The policies of a type `π` that work on a backend `β`. -/
class Policy (π β : Type) where
    decide (request : Request) : π → Site β → Verdict π β

end OptOut
