import OptOut.Registrar.Settings
import OptOut.Record
import OptOut.Store.Call
import OptOut.Text.Lowercase

/-!
# Submission by hand

An operator records a request to vanish that arrived by other means. The operator sees what will be
recorded, confirms it, and the record goes onto the stream that the service writes to.
-/

namespace OptOut

open Json

/-- The record in the form of an event, over several lines. -/
def Record.draft (record : Record) : String :=
  (Value.object [
    ("content", .text record.reason),
    ("created_at", .ofNat record.requestedAt.toNat),
    ("kind", .ofNat optOutKind.toNat),
    ("pubkey", .text record.sender),
    ("tags", .list [.ofTexts [addressTag, record.target.text]])]).indented

def affirms (answer : String) : Bool :=
  match Text.normalize answer with
  | "y" | "yes" => true
  | _ => false

/-- Appends the record to the stream, and waits for its id. -/
def Record.submit {σ : Type} [Streams σ] (record : Record) (store : σ) :
    Except StoreFault String × σ :=
  (Streams.append optOutStream record.fields store).await

end OptOut
