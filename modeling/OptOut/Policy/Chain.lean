import OptOut.Policy

/-!
# Policy chains

Policies in a row. The first that does not accept has the last word, and the policies behind it do
not see the request.
-/

namespace OptOut

namespace PolicyChain

variable {π β : Type} [Policy π β]

def decide (request : Request) : List π → Site β → Verdict (List π) β
  | [], site => ⟨.accept request.event.id, [], site⟩
  | policy :: rest, site =>
    let verdict := Policy.decide request policy site
    if verdict.reply.isAccept then
      let later := decide request rest verdict.site
      ⟨later.reply, verdict.policy :: later.policy, later.site⟩
    else ⟨verdict.reply, verdict.policy :: rest, verdict.site⟩

end PolicyChain

end OptOut
