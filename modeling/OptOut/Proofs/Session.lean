import Mathlib.Data.List.Basic
import Mathlib.Data.List.Induction
import Mathlib.Data.String.Basic
import OptOut.Deployment
import OptOut.Policy.Standard
import OptOut.Proofs.Registrar
import OptOut.Session

/-!
# What a session writes

An input falls into lines in one way only. Each line is answered by itself: a request with the reply
of the policies as the requests before it left them, a line that cannot be read but names its event
with a rejection, any other not at all. Nothing but requests reaches the policies and what they
share, so an input that is cut at the end of a line may as well be served in two sessions.
-/

namespace OptOut

/-! ## Lines -/

/-- Lines in a row: each ends with its only line feed, which the last may lack unless it is
empty. -/
inductive Lined : List (List UInt8) → Prop where
  | nothing : Lined []
  | unended {line : List UInt8} (filled : line ≠ []) (plain : 10 ∉ line) : Lined [line]
  | ended {text : List UInt8} {rest : List (List UInt8)} (plain : 10 ∉ text) (lined : Lined rest) :
      Lined ((text ++ [10]) :: rest)

theorem flatten_split_lines (input : List UInt8) : (splitLines input).flatten = input := by
  induction input with
  | nil => rfl
  | cons octet rest induction =>
      rw [splitLines]
      split
      · rw [List.flatten_cons, induction]
        rfl
      · split
        · rename_i none
          rw [none] at induction
          rw [← induction]
          rfl
        · rename_i line lines some
          rw [some] at induction
          rw [← induction]
          rfl

theorem split_lines_ended {text : List UInt8} (plain : 10 ∉ text) (rest : List UInt8) :
    splitLines (text ++ 10 :: rest) = (text ++ [10]) :: splitLines rest := by
  induction text with
  | nil => rfl
  | cons octet text induction =>
      rw [List.mem_cons, not_or] at plain
      rw [List.cons_append, splitLines, if_neg (Ne.symm plain.1), induction plain.2]
      rfl

theorem split_lines_unended {line : List UInt8} (filled : line ≠ []) (plain : 10 ∉ line) :
    splitLines line = [line] := by
  induction line with
  | nil => exact absurd rfl filled
  | cons octet rest induction =>
      rw [List.mem_cons, not_or] at plain
      rw [splitLines, if_neg (Ne.symm plain.1)]
      by_cases none : rest = []
      · rw [none]
        rfl
      · rw [induction none plain.2]

theorem lined_cons {octet : UInt8} (other : octet ≠ 10) {line : List UInt8}
    {lines : List (List UInt8)} (lined : Lined (line :: lines)) :
    Lined ((octet :: line) :: lines) := by
  cases lined with
  | unended _ plain => exact .unended (by simp) (by simp [plain, other.symm])
  | @ended text _ plain rest =>
      rw [← List.cons_append]
      exact .ended (by simp [plain, other.symm]) rest

theorem lined_split_lines (input : List UInt8) : Lined (splitLines input) := by
  induction input with
  | nil => exact .nothing
  | cons octet rest induction =>
      rw [splitLines]
      split
      · rename_i feed
        rw [feed]
        exact @Lined.ended [] _ (by simp) induction
      · rename_i other
        split
        · exact .unended (by simp) (by simp [Ne.symm other])
        · rename_i line lines some
          rw [some] at induction
          exact lined_cons other induction

/-- There is no other way to cut an input into lines. -/
theorem split_lines_of_lined {lines : List (List UInt8)} (lined : Lined lines) :
    splitLines lines.flatten = lines := by
  induction lined with
  | nothing => rfl
  | unended filled plain =>
      rw [List.flatten_singleton]
      exact split_lines_unended filled plain
  | @ended text rest plain _ induction =>
      rw [List.flatten_cons, List.append_assoc, List.singleton_append, split_lines_ended plain,
        induction]

theorem split_lines_append {input : List UInt8} (cut : input = [] ∨ input.getLast? = some 10)
    (more : List UInt8) : splitLines (input ++ more) = splitLines input ++ splitLines more := by
  induction input with
  | nil => rfl
  | cons octet rest induction =>
      have last := cut.resolve_left (List.cons_ne_nil octet rest)
      cases rest with
      | nil =>
          obtain rfl : octet = 10 := by simpa using last
          rfl
      | cons second others =>
          rw [List.getLast?_cons_cons] at last
          -- The first line of the rest is there to be lengthened, since the rest is not empty.
          have later := induction (.inr last)
          rw [List.cons_append, splitLines, splitLines, later]
          split
          · rfl
          · cases first : splitLines (second :: others) with
            | nil =>
                have empty := flatten_split_lines (second :: others)
                rw [first] at empty
                cases empty
            | cons line lines => rfl

/-! ## Policies and what they share -/

/-- What decisions rest on: the policies, and the backend behind them. -/
structure Stance (β : Type) where
    policies : List StandardPolicy
    backend : β

namespace Stance

variable {β : Type} [Backend β]

def verdict (stance : Stance β) (request : Request) : Verdict (List StandardPolicy) β :=
  PolicyChain.decide request stance.policies { backend := stance.backend }

def reply (stance : Stance β) (request : Request) : Reply :=
  (stance.verdict request).reply

def next (stance : Stance β) (request : Request) : Stance β :=
  ⟨(stance.verdict request).policy, (stance.verdict request).site.backend⟩

def after (stance : Stance β) (requests : List Request) : Stance β :=
  requests.foldl next stance

end Stance

variable {β : Type} [Backend β]

/-- The metrics and the log are written to and never read. -/
theorem StandardPolicy.decide_blind (policy : StandardPolicy) (request : Request)
    {site other : Site β} (same : site.backend = other.backend) :
    (policy.decide request site).reply = (policy.decide request other).reply ∧
      (policy.decide request site).policy = (policy.decide request other).policy ∧
      (policy.decide request site).site.backend = (policy.decide request other).site.backend := by
  cases policy with
  | constant policy => exact ⟨rfl, rfl, same⟩
  | admission rules => exact ⟨rfl, rfl, same⟩
  | registrar policy =>
      have counted : ∀ (policy : MeteredRegistrar) (failures : Nat) (metrics other : Metrics),
          (policy.countFailures failures metrics).1 = (policy.countFailures failures other).1 := by
        intro policy failures metrics other
        simp only [MeteredRegistrar.countFailures]
        split <;> rfl
      simp only [StandardPolicy.decide, MeteredRegistrar.decide, same, true_and, and_true]
      rw [counted]

theorem PolicyChain.decide_blind (policies : List StandardPolicy) (request : Request)
    {site other : Site β} (same : site.backend = other.backend) :
    (decide request policies site).reply = (decide request policies other).reply ∧
      (decide request policies site).policy = (decide request policies other).policy ∧
      (decide request policies site).site.backend =
        (decide request policies other).site.backend := by
  induction policies generalizing site other with
  | nil => exact ⟨rfl, rfl, same⟩
  | cons policy rest induction =>
      obtain ⟨reply, next, backend⟩ := policy.decide_blind request same
      obtain ⟨lastReply, last, lastBackend⟩ := induction backend
      simp only [decide, Policy.decide]
      rw [← reply]
      split
      · exact ⟨lastReply, by rw [next, last], lastBackend⟩
      · exact ⟨rfl, by rw [next], backend⟩

/-! ## Replies to lines -/

namespace Line

def request? : Line → Option Request
  | .request asked => some asked
  | _ => none

def isIgnored : Line → Bool
  | .ignored _ => true
  | _ => false

def isMalformed : Line → Bool
  | .malformed _ _ => true
  | _ => false

def reply? (decide : Request → Reply) : Line → Option Reply
  | .request asked => some (decide asked)
  | .malformed (some id) _ => some (.reject id unreadable)
  | _ => none

end Line

def requestsOf (lines : List Line) : List Request :=
  lines.filterMap Line.request?

/-- The reply to the line at a position, decided on as the requests before it left the policies. -/
def Stance.replyAt (stance : Stance β) (lines : List Line) (position : Nat) : Option Reply :=
  lines[position]?.bind (·.reply? (stance.after (requestsOf (lines.take position))).reply)

def Stance.replies (stance : Stance β) (lines : List Line) : List Reply :=
  (List.range lines.length).filterMap (stance.replyAt lines)

theorem requests_of_append (lines more : List Line) :
    requestsOf (lines ++ more) = requestsOf lines ++ requestsOf more :=
  List.filterMap_append

theorem Stance.replies_append_one (stance : Stance β) (lines : List Line) (line : Line) :
    stance.replies (lines ++ [line]) =
      stance.replies lines ++ (line.reply? (stance.after (requestsOf lines)).reply).toList := by
  have earlier : (List.range lines.length).filterMap (stance.replyAt (lines ++ [line])) =
      stance.replies lines := by
    apply List.filterMap_congr
    intro position within
    rw [List.mem_range] at within
    rw [replyAt, List.getElem?_append_left within,
      List.take_append_of_le_length (Nat.le_of_lt within), replyAt]
  have last : stance.replyAt (lines ++ [line]) lines.length =
      line.reply? (stance.after (requestsOf lines)).reply := by
    rw [replyAt, List.getElem?_concat_length, List.take_left]
    rfl
  rw [replies, List.length_append, List.length_singleton, List.range_succ, List.filterMap_append,
    earlier]
  cases reply : line.reply? (stance.after (requestsOf lines)).reply <;> simp [last, reply]

/-! ## Sessions -/

def SessionReport.plus (report later : SessionReport) : SessionReport :=
  { lines := report.lines + later.lines
    replies := report.replies + later.replies
    ignored := report.ignored + later.ignored
    malformed := report.malformed + later.malformed }

namespace Session

section Cut

variable {π γ : Type} [Policy π γ]

def renewed (session : Session π γ) : Session π γ :=
  { policies := session.policies, site := session.site }

def onto (later earlier : Session π γ) : Session π γ :=
  { later with
    replies := earlier.replies ++ later.replies
    report := earlier.report.plus later.report }

theorem read_renewed (session : Session π γ) (octets : List UInt8) :
    session.read octets = (session.renewed.read octets).onto session := by
  simp only [read, renewed, onto, SessionReport.plus]
  cases Line.ofOctets octets with
  | blank => simp [handle]
  | ignored type => simp [handle]
  | request request => simp [handle, answer]
  | malformed id error =>
      cases id with
      | some id => simp [handle, answer, countMalformed]
      | none => simp [handle, countMalformed]

omit [Policy π γ] in
theorem onto_onto (session earlier first : Session π γ) :
    (session.onto earlier).onto first = session.onto (earlier.onto first) := by
  simp [onto, SessionReport.plus, Nat.add_assoc]

theorem foldl_read_renewed (session : Session π γ) (lines : List (List UInt8)) :
    lines.foldl read session = (lines.foldl read session.renewed).onto session := by
  induction lines generalizing session with
  | nil => simp [onto, renewed, SessionReport.plus]
  | cons octets rest induction =>
      have read := session.read_renewed octets
      have same : (session.read octets).renewed = (session.renewed.read octets).renewed := by
        rw [read]
        rfl
      -- Both sides forget what was read so far, and then count it in again.
      rw [List.foldl_cons, List.foldl_cons, induction, induction (session.renewed.read octets),
        onto_onto, same, read]

/-- Serving the rest of an input in a session of its own. -/
theorem run_append (policies : List π) (site : Site γ) {input : List UInt8}
    (cut : input = [] ∨ input.getLast? = some 10) (more : List UInt8) :
    run policies site (input ++ more) =
      (run (run policies site input).policies (run policies site input).site more).onto
        (run policies site input) := by
  rw [run, split_lines_append cut, List.foldl_append, foldl_read_renewed]
  rfl

end Cut

def stance (session : Session StandardPolicy β) : Stance β :=
  ⟨session.policies, session.site.backend⟩

theorem decide_stance (session : Session StandardPolicy β) (request : Request) :
    let verdict := PolicyChain.decide request session.policies session.site
    verdict.reply = session.stance.reply request ∧
      ⟨verdict.policy, verdict.site.backend⟩ = session.stance.next request := by
  obtain ⟨reply, policies, backend⟩ := PolicyChain.decide_blind session.policies request
    (show session.site.backend = Site.backend { backend := session.site.backend } from rfl)
  refine ⟨reply, ?_⟩
  rw [policies, backend]
  rfl

/-- A line other than a request leaves the policies and the backend alone. -/
theorem read_stance (session : Session StandardPolicy β) (octets : List UInt8) :
    (session.read octets).stance = session.stance.after (Line.ofOctets octets).request?.toList := by
  simp only [read]
  cases Line.ofOctets octets with
  | blank => rfl
  | ignored type => rfl
  | request request => exact (session.decide_stance request).2
  | malformed id error => cases id <;> rfl

theorem read_replies (session : Session StandardPolicy β) (octets : List UInt8) :
    (session.read octets).replies =
      session.replies ++ ((Line.ofOctets octets).reply? session.stance.reply).toList := by
  simp only [read]
  cases Line.ofOctets octets with
  | blank => simp [handle, Line.reply?]
  | ignored type => simp [handle, Line.reply?]
  | request request =>
      rw [Line.reply?, ← (session.decide_stance request).1]
      rfl
  | malformed id error => cases id <;> simp [handle, answer, countMalformed, Line.reply?]

theorem read_report (session : Session StandardPolicy β) (octets : List UInt8) :
    (session.read octets).report = session.report.plus
      { lines := 1
        replies := ((Line.ofOctets octets).reply? session.stance.reply).toList.length
        ignored := (Line.ofOctets octets).isIgnored.toNat
        malformed := (Line.ofOctets octets).isMalformed.toNat } := by
  simp only [read]
  cases Line.ofOctets octets with
  | blank => rfl
  | ignored type => rfl
  | request request => rfl
  | malformed id error => cases id <;> rfl

structure Served (start : Stance β) (lines : List (List UInt8))
    (session : Session StandardPolicy β) : Prop where
    replies : session.replies = start.replies (lines.map Line.ofOctets)
    stance : session.stance = start.after (requestsOf (lines.map Line.ofOctets))
    report : session.report =
      { lines := lines.length
        replies := (start.replies (lines.map Line.ofOctets)).length
        ignored := (lines.map Line.ofOctets).countP Line.isIgnored
        malformed := (lines.map Line.ofOctets).countP Line.isMalformed }

theorem Served.read {start : Stance β} {lines : List (List UInt8)}
    {session : Session StandardPolicy β} (served : session.Served start lines)
    (octets : List UInt8) : (session.read octets).Served start (lines ++ [octets]) := by
  have more : start.replies ((lines ++ [octets]).map Line.ofOctets) =
      start.replies (lines.map Line.ofOctets) ++
        ((Line.ofOctets octets).reply? session.stance.reply).toList := by
    rw [List.map_append, List.map_singleton, Stance.replies_append_one, ← served.stance]
  constructor
  · rw [session.read_replies, more, served.replies]
  · rw [session.read_stance, served.stance, List.map_append, requests_of_append, Stance.after,
      Stance.after, ← List.foldl_append]
    cases request : (Line.ofOctets octets).request? <;> simp [Stance.after, requestsOf, request]
  · have count : ∀ holds : Line → Bool, [Line.ofOctets octets].countP holds =
        (holds (Line.ofOctets octets)).toNat := by
      intro holds
      cases answer : holds (Line.ofOctets octets) <;> simp [answer]
    rw [session.read_report, more, served.report]
    simp [SessionReport.plus, List.map_append, count]

theorem served_run (policies : List StandardPolicy) (site : Site β) (input : List UInt8) :
    (run policies site input).Served ⟨policies, site.backend⟩ (splitLines input) := by
  rw [run]
  induction splitLines input using List.reverseRecOn with
  | nil => exact ⟨rfl, rfl, rfl⟩
  | append_singleton lines octets induction =>
      rw [List.foldl_append]
      exact induction.read octets

/-- The line loop: how an input is cut into lines, what is written for each of them, what the
policies and the backend have seen of it, and what is counted. Served in two parts, the first of
which ends with a line, an input comes to the same. -/
theorem served_line_by_line (policies : List StandardPolicy) (site : Site β)
    (input : List UInt8) :
    let lines := splitLines input
    let start : Stance β := ⟨policies, site.backend⟩
    let session := run policies site input
    (lines.flatten = input ∧ Lined lines ∧
      ∀ others, others.flatten = input → Lined others → others = lines) ∧
    session.Served start lines ∧
    session.output = String.join
      ((start.replies (lines.map Line.ofOctets)).map fun reply => reply.line ++ "\n") ∧
    (∀ more, input = [] ∨ input.getLast? = some 10 →
      let whole := run policies site (input ++ more)
      let next := run session.policies session.site more
      whole.output = session.output ++ next.output ∧
        whole.report = session.report.plus next.report ∧
        whole.policies = next.policies ∧ whole.site = next.site) := by
  intro lines start session
  have served := served_run policies site input
  refine ⟨⟨flatten_split_lines input, lined_split_lines input, ?_⟩, served, ?_, ?_⟩
  · intro others joined lined
    rw [← split_lines_of_lined lined, joined]
  · rw [output, outputOf, served.replies]
  · intro more cut whole next
    have parts : whole = next.onto session := run_append policies site cut more
    have joined : ∀ texts others : List String,
        String.join (texts ++ others) = String.join texts ++ String.join others := by
      intro texts others
      simp [String.join_eq]
    refine ⟨?_, ?_, ?_, ?_⟩
    · rw [output, outputOf, parts, onto, List.map_append, joined]
      rfl
    · rw [parts]
      rfl
    · rw [parts]
      rfl
    · rw [parts]
      rfl

/-- A line that names its event but is no request, and one of another type that lacks its end, each
in a session of its own. -/
theorem served_line_by_line_in_two :
    let input := "\x7b\"event\":\x7b\"id\":\"e\"\x7d\x7d\n".toUTF8.toList
    let more := "\x7b\"type\":\"other\"\x7d".toUTF8.toList
    let policies : List StandardPolicy := [.registrar ⟨Registrar.forOne optOutStream, 0⟩]
    let site : Site Deployment := { backend := { clock := .standing 0 } }
    let first := run policies site input
    let second := run first.policies first.site more
    let whole := run policies site (input ++ more)
    (input = [] ∨ input.getLast? = some 10) ∧
      whole.output = first.output ++ second.output ∧
      whole.output =
        "\x7b\"id\":\"e\",\"action\":\"reject\",\"msg\":\"error: malformed request\"\x7d\n" ∧
      whole.report = { lines := 2, replies := 1, ignored := 1, malformed := 1 } := by
  intro input more policies site first second whole
  have cut : input = [] ∨ input.getLast? = some 10 := by decide +kernel
  obtain ⟨_, _, _, parts⟩ := served_line_by_line policies site input
  exact ⟨cut, (parts more cut).1, by decide +kernel, by decide +kernel⟩

end Session

end OptOut
