import OptOut.Event.Wire
import OptOut.Scope
import OptOut.Text.Numeral

/-!
# Records of requests to vanish

What is kept of a request to vanish. A record comes from an event of the sender, or an operator
writes it on behalf of someone who asked in another way; it is stored as an ordered list of named
texts.
-/

namespace OptOut

/-- A named text of a stream entry. -/
abbrev Field := String × String

inductive Record where
    /-- The record of an event, whose content is the reason given. -/
  | ofEvent (event : Event) (target : Target) (requestedAt : UInt64)
    /-- The record of a request that reached the operator of `relay` by other means. -/
  | manual (sender : Sender) (relay reason : String) (requestedAt : UInt64)
deriving DecidableEq, Repr

namespace Record

def sender : Record → Sender
  | ofEvent event _ _ => event.pubkey
  | manual sender _ _ _ => sender

def target : Record → Target
  | ofEvent _ target _ => target
  | manual _ relay _ _ => .relay relay

def reason : Record → String
  | ofEvent event _ _ => event.content
  | manual _ _ reason _ => reason

/-- In seconds. -/
def requestedAt : Record → UInt64
  | ofEvent _ _ requestedAt => requestedAt
  | manual _ _ _ requestedAt => requestedAt

/-- A record without an event counts as created when it was requested. -/
def createdAt : Record → UInt64
  | ofEvent event _ _ => event.createdAt
  | manual _ _ _ requestedAt => requestedAt

def tags : Record → List Tag
  | ofEvent event _ _ => event.tags
  | manual _ relay _ _ => [.ofPair addressTag relay]

/-- The fields that only an event has. -/
def eventFields : Record → List Field
  | ofEvent event _ _ => ("id", event.id) ::
    match event.sig with
    | some sig => [("sig", sig)]
    | none => []
  | manual _ _ _ _ => []

def fields (record : Record) : List Field :=
  [("pubkey", record.sender),
    ("kind", Text.decimal optOutKind.toNat),
    ("created_at", Text.decimal record.createdAt.toNat),
    ("tags", tagsText record.tags),
    ("content", record.reason)] ++
  record.eventFields ++
  [("requested_at", Text.decimal record.requestedAt.toNat),
    ("target", record.target.text)]

end Record

end OptOut
