import OptOut.Text.Lowercase

/-!
# Relay events

An event as the relay hands it over for a decision: who sent it, of which kind it is, and the tags
that say what it is about.
-/

namespace OptOut

/-- A sender, named by a public key. Senders are the same if their texts are, letter case
included. -/
abbrev Sender := String

/-- A name, a value, and any further elements, which are kept but mean nothing here. -/
structure Tag where
    elements : List String
deriving DecidableEq, Repr

namespace Tag

def ofPair (name value : String) : Tag :=
  ⟨[name, value]⟩

def name (tag : Tag) : Option String :=
  tag.elements[0]?

def value (tag : Tag) : Option String :=
  tag.elements[1]?

def hasName (tag : Tag) (name : String) : Bool :=
  tag.name.any fun own => Text.normalize own = name

end Tag

structure Event where
    id : String
    pubkey : Sender
    kind : UInt32
    createdAt : UInt64
    tags : List Tag
    content : String
    sig : Option String
deriving DecidableEq, Repr

/-- The values of the tags with a name; tags without a value are passed over. -/
def Event.valuesOf (event : Event) (name : String) : List String :=
  (event.tags.filter (·.hasName name)).filterMap Tag.value

/-- The kind of an event in which its sender asks to vanish. -/
def optOutKind : UInt32 := 62

/-- The tag that names the relays a request to vanish is addressed to. -/
def addressTag : String := "relay"

/-- The value of a relay tag that addresses every relay. -/
def everyRelay : String := "all_relays"

end OptOut
