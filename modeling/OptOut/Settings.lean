import OptOut.Registrar.Settings
import OptOut.Text.Numeral
import OptOut.Text.Quoted

/-!
# Settings of the service

Read once from named variables. The relay must be named; every other setting has a default, and a
value that cannot be read is an error rather than the default.
-/

namespace OptOut

inductive SettingsFault where
  | missingRelayUrl
  | invalidValue (name value : String)
deriving DecidableEq, Repr

def SettingsFault.message : SettingsFault → String
  | missingRelayUrl => "RELAY_URL must be set to this relay's name"
  | invalidValue name value => "invalid value " ++ Text.quoted value ++ " for " ++ name

/-- Where to find the durable store if nothing else is said. -/
def fallbackStoreUrl : String := "redis://localhost:6379"

structure Settings where
    relayUrl : String
    storeUrl : String := fallbackStoreUrl
    capacity : UInt64 := 1000000
    /-- How long every call on the durable store is waited for. -/
    storeTimeout : Millis := 500
    /-- Whether replica writes are queued instead of awaited. -/
    writeBehind : Bool := true
    /-- Whether to serve with an empty roster if the replica cannot be loaded. -/
    allowColdStart : Bool := false
    admissionControl : Bool := true
deriving DecidableEq, Repr

/-- The values of the variables that are set. -/
abbrev Environment := String → Option String

namespace Settings

/-- Reads a variable, or takes the default if it is not set. -/
def read {α : Type} (environment : Environment) (name : String) (parse : String → Option α)
    (default : α) : Except SettingsFault α :=
  match environment name with
  | none => .ok default
  | some value =>
    match parse value with
    | some parsed => .ok parsed
    | none => .error (.invalidValue name value)

def numberOf (value : String) : Option UInt64 :=
  Text.wordValue (Text.trim value)

def flagOf (value : String) : Option Bool :=
  match Text.normalize value with
  | "true" | "1" | "yes" => some true
  | "false" | "0" | "no" => some false
  | _ => none

/-- A variable that is set to more than blanks. -/
def filled (environment : Environment) (name : String) : Option String :=
  (environment name).filter fun value => !Text.blank value

def ofEnvironment (environment : Environment) : Except SettingsFault Settings := do
  let relayUrl ← match filled environment "RELAY_URL" with
    | some url => .ok url
    | none => .error .missingRelayUrl
  let storeUrl := (filled environment "REDIS_URL").getD fallbackStoreUrl
  let capacity ← read environment "VANISH_CACHE_CAPACITY" numberOf 1000000
  let storeTimeout ← read environment "VANISH_STORE_TIMEOUT_MS" numberOf 500
  let writeBehind ← read environment "VANISH_WRITE_BEHIND" flagOf true
  let allowColdStart ← read environment "VANISH_ALLOW_COLD_START" flagOf false
  let admissionControl ← read environment "ALLOW_LIST_ENABLED" flagOf true
  .ok { relayUrl, storeUrl, capacity, storeTimeout, writeBehind, allowColdStart,
        admissionControl }

/-- The settings of the registrar that follow from these. -/
def registrar (settings : Settings) : RegistrarSettings :=
  { relayScope := settings.relayUrl
    roster := { capacity := settings.capacity, storeTimeout := settings.storeTimeout }
    appendTimeout := settings.storeTimeout }

end Settings

end OptOut
