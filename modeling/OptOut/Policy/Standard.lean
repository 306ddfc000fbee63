import OptOut.Policy.Admission
import OptOut.Policy.Metered

/-!
# The policies at hand
-/

namespace OptOut

/-- Answers every request alike, and counts them. -/
structure ConstantPolicy where
    action : Action
    /-- The reason given where the action is to reject. -/
    message : String
    calls : Nat := 0

def ConstantPolicy.reply (policy : ConstantPolicy) (id : String) : Reply :=
  match policy.action with
  | .accept => .accept id
  | .reject => .reject id policy.message
  | .shadowReject => .shadowReject id

inductive StandardPolicy where
  | constant (policy : ConstantPolicy)
  | admission (rules : AdmissionRules)
  | registrar (policy : MeteredRegistrar)

namespace StandardPolicy

def name : StandardPolicy → String
  | constant _ => "fixed"
  | admission _ => "allow_list"
  | registrar _ => "vanish"

def decide {β : Type} [Backend β] (request : Request) (policy : StandardPolicy)
    (site : Site β) : Verdict StandardPolicy β :=
  match policy with
  | constant policy =>
    ⟨policy.reply request.event.id, constant { policy with calls := policy.calls + 1 }, site⟩
  | admission rules => ⟨rules.reply request.event, admission rules, site⟩
  | registrar policy =>
    let verdict := policy.decide request site
    ⟨verdict.reply, registrar verdict.policy, verdict.site⟩

instance {β : Type} [Backend β] : Policy StandardPolicy β where
  decide := StandardPolicy.decide

end StandardPolicy

end OptOut
