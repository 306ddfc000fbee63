import OptOut.Event

/-!
# The scope of a relay

A request to vanish names the relays it is addressed to. It concerns this relay if one of the names
is the relay's own or stands for all relays.
-/

namespace OptOut

/-- The name of a relay in normal form, which is never empty. -/
structure Scope where
    name : String
deriving DecidableEq, Repr

/-- The relays that a request to vanish is recorded for. -/
inductive Target where
  | everyRelay
  | relay (name : String)
deriving DecidableEq, Repr

namespace Target

def text : Target → String
  | everyRelay => OptOut.everyRelay
  | relay name => name

/-- What the target is counted under. -/
def label : Target → String
  | everyRelay => "all_relays"
  | relay _ => "relay"

end Target

namespace Scope

/-- A blank name is no scope. -/
def ofText? (raw : String) : Option Scope :=
  let name := Text.normalize raw
  if name.isEmpty then none else some ⟨name⟩

/-- Reads the values of an event's address tags one after another. The first that stands for all
relays settles the target; until then a value that names this relay is kept in mind. -/
def seek (scope : Scope) (found : Option Target) : List String → Option Target
  | [] => found
  | value :: rest =>
    let name := Text.normalize value
    if name = everyRelay then some .everyRelay
    else if name = scope.name then scope.seek (some (.relay scope.name)) rest
    else scope.seek found rest

/-- The target of an event on this relay; a request to all relays outweighs one to this relay. -/
def target? (scope : Scope) (event : Event) : Option Target :=
  scope.seek none (event.valuesOf addressTag)

end Scope

end OptOut
