import OptOut.Arguments
import OptOut.Service
import OptOut.Session
import OptOut.Submission
import OptOut.Telemetry
import Std.Time.DateTime.Timestamp

/-!
# The program

Without arguments, serves a relay on standard input and output. With the argument `submit`, records
one request by hand; the other arguments say which. Logs and the final metrics go to standard
error. The durable stores are held in memory: they are empty at first and end with the process.
-/

namespace OptOut.Program

def variableNames : List String := [
  "RELAY_URL", "REDIS_URL", "VANISH_CACHE_CAPACITY", "VANISH_STORE_TIMEOUT_MS",
  "VANISH_WRITE_BEHIND", "VANISH_ALLOW_COLD_START", "ALLOW_LIST_ENABLED", "VG_SERVICE_NAME",
  "VG_LOG_LEVEL", "RUST_LOG", "VG_JSON_LOGS", "KUBERNETES_SERVICE_HOST", "DOCKER_CONTAINER"]

def readEnvironment : IO Environment := do
  let values ← variableNames.mapM fun name => do return (name, ← IO.getEnv name)
  return fun name => (values.lookup name).join

def presentMoment : IO Millis := do
  let now ← Std.Time.Timestamp.now
  return UInt64.ofNat now.toMillisecondsSinceUnixEpoch.toInt.toNat

/-- Reads up to the next line feed, that one included, or to the end of the input. What was read of
the line so far is in reverse order. -/
partial def readLine (input : IO.FS.Stream) (soFar : List UInt8) : IO (List UInt8) := do
  match (← input.read 1).toList with
  | [octet] =>
    if octet = 10 then return (octet :: soFar).reverse else readLine input (octet :: soFar)
  | _ => return soFar.reverse

def showLog (telemetry : TelemetrySettings) (log : List Log.Entry) : IO Unit :=
  for entry in log do
    IO.eprintln (if telemetry.jsonLogs then entry.toValue.compact else entry.line)

def fail (message : String) : IO UInt32 := do
  IO.eprintln message
  return 1

/-! ## Serving -/

/-- The session at a later moment. -/
def atMoment (session : Session StandardPolicy Deployment) (moment : Millis) :
    Session StandardPolicy Deployment :=
  let deployment := session.site.backend
  { session with site := { session.site with
      backend := { deployment with clock := deployment.clock.set moment } } }

/-- The session after its replies and its log have been shown and its queued writes applied. -/
def settled (session : Session StandardPolicy Deployment) :
    List Log.Entry × Session StandardPolicy Deployment :=
  let (backend, log) := session.site.backend.drain
  (session.site.log ++ log,
    { session with replies := [], site := { session.site with backend, log := [] } })

/-- Serves line by line until the input ends. -/
partial def serveLines (telemetry : TelemetrySettings) (input output : IO.FS.Stream)
    (session : Session StandardPolicy Deployment) : IO (Session StandardPolicy Deployment) := do
  let octets ← readLine input []
  if octets.isEmpty then return session
  let session := (atMoment session (← presentMoment)).read octets
  output.putStr session.output
  output.flush
  let (log, session) := settled session
  showLog telemetry log
  serveLines telemetry input output session

def serve (telemetry : TelemetrySettings) (settings : Settings) : IO UInt32 := do
  let start : Site Deployment := { backend := { clock := .standing (← presentMoment) } }
  match Service.start settings start with
  | (.error fault, site) =>
    showLog telemetry site.log
    fail fault.message
  | (.ok service, site) =>
    showLog telemetry site.log
    let session ← serveLines telemetry (← IO.getStdin) (← IO.getStdout)
      { policies := service.policies, site := { site with log := [] } }
    let (tally, site) := service.shutdown session.site
    showLog telemetry site.log
    if let some tally := tally then
      IO.eprintln ("replica writes applied: " ++ Text.decimal tally.applied ++ ", failed: " ++
        Text.decimal tally.failed)
    IO.eprint site.metrics.text
    return 0

/-! ## Submitting -/

def confirm (draft : String) : IO Bool := do
  let output ← IO.getStdout
  output.putStr ("\nAre you sure you want to create this vanish request?\n" ++ draft ++ "\n(y/N): ")
  output.flush
  match Text.decodeOctets (← readLine (← IO.getStdin) []) with
  | .ok answer => return affirms answer
  | .error _ => return false

def submit (arguments : Arguments) : IO UInt32 := do
  let record := arguments.record (Registrar.secondOf (← presentMoment))
  if !arguments.yes && !(← confirm record.draft) then
    IO.println "\nCanceled"
    return 0
  match record.submit ({} : Memory) with
  | (.error fault, _) => fail fault.message
  | (.ok id, _) =>
    IO.println ("Vanish request pushed successfully for pubkey '" ++ record.sender ++
      "'. Stream ID: " ++ id)
    IO.println ("Event: " ++ record.draft)
    return 0

end OptOut.Program

open OptOut in
def main (words : List String) : IO UInt32 := do
  let environment ← Program.readEnvironment
  let telemetry := TelemetrySettings.ofEnvironment environment
  match words with
  | "submit" :: words =>
    match Arguments.ofWords environment words, telemetry.install false with
    | .error fault, _ => Program.fail fault.message
    | _, .error fault => Program.fail fault.message
    | .ok arguments, .ok () => Program.submit arguments
  | _ =>
    match telemetry.install false, Settings.ofEnvironment environment with
    | .error fault, _ => Program.fail fault.message
    | _, .error fault => Program.fail fault.message
    | .ok (), .ok settings => Program.serve telemetry settings
