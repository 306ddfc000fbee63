import OptOut.Event
import OptOut.Json.Printer
import OptOut.Json.Record

/-!
# Events in JSON

An event is an object with its seven fields in a fixed order; a missing signature is left out.
-/

namespace OptOut

open Json

def Tag.toValue (tag : Tag) : Value :=
  .ofTexts tag.elements

def Tag.ofValue (value : Value) : Option Tag :=
  value.texts?.map Tag.mk

/-- The tags of an event as a text of their own. -/
def tagsText (tags : List Tag) : String :=
  (Value.list (tags.map Tag.toValue)).compact

namespace Event

def fieldNames : List String :=
  ["id", "pubkey", "kind", "created_at", "tags", "content", "sig"]

def toValue (event : Event) : Value :=
  .object ([
    ("id", .text event.id),
    ("pubkey", .text event.pubkey),
    ("kind", .ofNat event.kind.toNat),
    ("created_at", .ofNat event.createdAt.toNat),
    ("tags", .list (event.tags.map Tag.toValue)),
    ("content", .text event.content)] ++
    match event.sig with
    | some sig => [("sig", .text sig)]
    | none => [])

def ofValue (value : Value) : Option Event := do
  let id ← value.required "id" Value.text?
  let pubkey ← value.required "pubkey" Value.text?
  let kind ← value.required "kind" Value.halfWord?
  let createdAt ← value.required "created_at" Value.word?
  let tags ← value.fieldOr "tags" [] (Value.listOf? Tag.ofValue)
  let content ← value.fieldOr "content" "" Value.text?
  let sig ← value.optional "sig" Value.text?
  some { id, pubkey, kind, createdAt, tags, content, sig }

def text (event : Event) : String :=
  event.toValue.compact

def ofText (text : String) : Option Event :=
  (recordOfText fieldNames text).bind ofValue

end Event

end OptOut
