import OptOut.Line
import OptOut.Policy.Chain

/-!
# Sessions with the relay

The relay writes requests line by line and gets a reply for each that asks for a decision, in the
same order. A line that cannot be read is answered if the id of its event can be told.
-/

namespace OptOut

structure SessionReport where
    lines : Nat := 0
    replies : Nat := 0
    ignored : Nat := 0
    malformed : Nat := 0
deriving DecidableEq, Repr

/-- The state of a session: the policies and the site they share, what was answered so far, and the
counts. -/
structure Session (π β : Type) where
    policies : List π
    site : Site β
    replies : List Reply := []
    report : SessionReport := {}

/-- The answer to a line that cannot be read. -/
def unreadable : String := "error: malformed request"

/-- Splits octets after each line feed; a last line may lack it. -/
def splitLines : List UInt8 → List (List UInt8)
  | [] => []
  | octet :: rest =>
    if octet = 10 then [octet] :: splitLines rest
    else match splitLines rest with
      | [] => [[octet]]
      | line :: lines => (octet :: line) :: lines

namespace Session

variable {π β : Type}

/-- Gives a reply, and counts it by its action. -/
def answer (session : Session π β) (reply : Reply) : Session π β :=
  { session with
    replies := session.replies ++ [reply]
    site := { session.site with
      metrics := session.site.metrics.countDecision reply.action.name }
    report := { session.report with replies := session.report.replies + 1 } }

def countMalformed (session : Session π β) (entry : Log.Entry) : Session π β :=
  { session with
    site := { session.site with
      metrics := session.site.metrics.countMalformedLine
      log := session.site.log ++ [entry] }
    report := { session.report with malformed := session.report.malformed + 1 } }

def handle [Policy π β] (session : Session π β) (line : Line) : Session π β :=
  match line with
  | .blank => session
  | .ignored _ =>
    { session with report := { session.report with ignored := session.report.ignored + 1 } }
  | .request request =>
    let verdict := PolicyChain.decide request session.policies session.site
    { session with policies := verdict.policy, site := verdict.site }.answer verdict.reply
  | .malformed (some id) error =>
    (session.countMalformed (.malformedRejected id error)).answer (.reject id unreadable)
  | .malformed none error => session.countMalformed (.malformedSkipped error)

/-- Reads one line, its line end included. -/
def read [Policy π β] (session : Session π β) (octets : List UInt8) : Session π β :=
  { session with report := { session.report with lines := session.report.lines + 1 } }.handle
    (.ofOctets octets)

/-- What a session writes for its replies. -/
def outputOf (replies : List Reply) : String :=
  String.join (replies.map (·.line ++ "\n"))

def output (session : Session π β) : String :=
  outputOf session.replies

def run [Policy π β] (policies : List π) (site : Site β) (input : List UInt8) : Session π β :=
  (splitLines input).foldl read { policies, site }

end Session

end OptOut
