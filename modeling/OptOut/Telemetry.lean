import OptOut.Pattern
import OptOut.Settings

/-!
# Telemetry settings

What is logged and in which form. A filter is a list of directives separated by commas, each of
which says how much is logged, and from which part of the program.
-/

namespace OptOut

inductive TelemetryFault where
  | logging (detail : String)
  | metrics (detail : String)
  | settings (detail : String)
deriving DecidableEq, Repr

def TelemetryFault.message : TelemetryFault → String
  | logging detail => "Failed to initialize logging: " ++ detail
  | metrics detail => "Failed to initialize Prometheus metrics: " ++ detail
  | settings detail => "Invalid configuration: " ++ detail

structure TelemetrySettings where
    serviceName : String
    logLevel : String
    jsonLogs : Bool
deriving DecidableEq, Repr

/-- Logs are JSON by default where the variables tell of a container. -/
def TelemetrySettings.ofEnvironment (environment : Environment) : TelemetrySettings :=
  let inContainer :=
    (environment "KUBERNETES_SERVICE_HOST").isSome || (environment "DOCKER_CONTAINER").isSome
  { serviceName := (environment "VG_SERVICE_NAME").getD "vanish-gate"
    logLevel := (environment "VG_LOG_LEVEL" <|> environment "RUST_LOG").getD "info"
    jsonLogs := match environment "VG_JSON_LOGS" with
      | some value => Text.lowercase value = "true" || value = "1"
      | none => inContainer }

namespace LogFilter

/-- A level is given by its name in any case, or by its number. -/
def isLevel (chars : List Char) : Bool :=
  match Text.digitsValue (Text.withoutPlus chars) with
  | some number => number ≤ 5
  | none => ["off", "error", "warn", "info", "debug", "trace"].contains
      (String.ofList (chars.map Char.toLower))

def beginsTarget (char : Char) : Bool :=
  ['-', ':', '_'].contains char || Text.isLetterOrNumeral char

/-- What may follow a target and its span: nothing, or a level, which can be empty. -/
def endsInLevel : List Char → Bool
  | [] => true
  | ['='] => true
  | '=' :: level => isLevel level
  | _ => false

/-- A field has a name. It may have a value behind an equals sign, a number or a pattern; a second
equals sign ends the value. -/
def isField (field : List Char) : Bool :=
  match field.dropWhile (· ≠ '=') with
  | [] => true
  | _ :: rest =>
    let value := rest.takeWhile (· ≠ '=')
    Text.isNumber value || Pattern.wellFormed value

/-- The field of a span, if it names one, and what follows the span, from what follows its opening
bracket. A span has a name and may name a field in braces. -/
def afterSpan (chars : List Char) : Option (List Char × List Char) :=
  match chars.dropWhile fun char => char ≠ ']' ∧ char ≠ '{' with
  | ']' :: rest => some ([], rest)
  | '{' :: field =>
    match field.takeWhile (· ≠ '}'), field.dropWhile (· ≠ '}') with
    | first :: others, '}' :: ']' :: rest => some (first :: others, rest)
    | _, _ => none
  | _ => none

/-- A directive is a level, or a target, a span or both, with a level if it likes. Blanks may stand
around it unless it has a level behind an equals sign. Where a field begins is counted without the
blanks, but what it says is read at that place with them. -/
def isDirective (directive : List Char) : Bool :=
  let chars := Text.trimChars directive
  let follows (rest : List Char) : Bool :=
    endsInLevel rest && (rest.isEmpty || chars = directive)
  match chars with
  | [] => false
  | first :: _ =>
    if first ≠ '[' ∧ !beginsTarget first then false
    else match chars.dropWhile fun char => char ≠ '=' ∧ char ≠ '[' with
      | '[' :: span => (afterSpan span).any fun (field, rest) =>
        let before := chars.length - (field.length + 2 + rest.length)
        isField ((directive.drop before).take field.length) && follows rest
      | rest => follows rest

def parts : List Char → List (List Char)
  | [] => [[]]
  | char :: rest =>
    if char = ',' then [] :: parts rest
    else match parts rest with
      | [] => [[char]]
      | first :: others => (char :: first) :: others

def valid (filter : String) : Bool :=
  (parts filter.toList).all fun directive => directive.isEmpty || isDirective directive

end LogFilter

/-- Sets up logging, which a process can do once. -/
def TelemetrySettings.install (settings : TelemetrySettings) (installed : Bool) :
    Except TelemetryFault Unit :=
  if !LogFilter.valid settings.logLevel then .error (.settings "invalid log level")
  else if installed then
    .error (.logging "a global default trace dispatcher has already been set")
  else .ok ()

/-- Registers the metrics, which a process can do once. -/
def registerMetrics (registered : Bool) : Except TelemetryFault Unit :=
  if registered then
    .error (.metrics "Duplicate metrics collector registration attempted")
  else .ok ()

end OptOut
