import OptOut.Event
import OptOut.Reply

/-!
# Admission rules

An event passes if its sender or its kind is allowed, and nothing about it is disallowed.
-/

namespace OptOut

structure AdmissionRules where
    allowedPubkeys : List Sender :=
      ["56d4b3d6310fadb7294b7f041aab469c5ffc8991b1b1b331981b96a246f6ae65"]
    /-- Metadata, notes, contacts, direct messages, deletions, reposts, reactions, requests to
    vanish, gift wraps, mute lists, relay lists and long-form content. -/
    allowedKinds : List UInt32 := [0, 1, 3, 4, 5, 6, 7, optOutKind, 1059, 10000, 10002, 30023]
    disallowedPubkeys : List Sender := []
    /-- What the content of an event must not begin with. -/
    disallowedOpenings : List String := ["GM from ws"]
deriving DecidableEq, Repr

/-- Why an event was refused, in the words of the relay protocol. -/
def refusalText : String := "blocked: not authorized"

namespace AdmissionRules

def disallows (rules : AdmissionRules) (event : Event) : Bool :=
  rules.disallowedPubkeys.contains event.pubkey ||
    rules.disallowedOpenings.any fun opening => opening.toList.isPrefixOf event.content.toList

def permits (rules : AdmissionRules) (event : Event) : Bool :=
  !rules.disallows event &&
    (rules.allowedPubkeys.contains event.pubkey || rules.allowedKinds.contains event.kind)

def reply (rules : AdmissionRules) (event : Event) : Reply :=
  if rules.permits event then .accept event.id else .reject event.id refusalText

end AdmissionRules

end OptOut
