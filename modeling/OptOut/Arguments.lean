import OptOut.Record
import OptOut.Settings

/-!
# Arguments of a submission

The command line of the operator who records a request by hand. An option takes its value from the
rest of its word or from the next word, which must not look like an option; options of one letter
can share a word. No option may be given twice.
-/

namespace OptOut

inductive ArgumentFault where
    /-- The sender is not given. -/
  | missingRequired
    /-- The sender is blank. -/
  | blankValue
    /-- An option is not followed by a value. -/
  | missingValue
    /-- An option is given twice. -/
  | repeated
  | unknown
    /-- An option that takes no value is given one. -/
  | unwantedValue
    /-- The help text is asked for. -/
  | help
deriving DecidableEq, Repr

def ArgumentFault.message : ArgumentFault → String
  | missingRequired => "--pubkey must be given"
  | blankValue => "--pubkey must not be empty"
  | missingValue => "an option lacks its value"
  | repeated => "an option is given twice"
  | unknown => "unknown argument"
  | unwantedValue => "an option is given a value it does not take"
  | help => "usage: -p <pubkey> [-r <reason>] [--relay <relay>] [--redis-url <url>] [-y]"

structure Arguments where
    pubkey : Sender
    reason : String
    relay : String
    yes : Bool
    storeUrl : String
deriving DecidableEq, Repr

/-- The relay that a request applies to if nothing else is said. -/
def fallbackRelay : String := "ws://localhost:7777"

namespace Arguments

inductive ValueOption where
  | pubkey
  | reason
  | relay
  | storeUrl
deriving DecidableEq, Repr

inductive Switch where
  | value (option : ValueOption)
  | yes
  | help
deriving DecidableEq, Repr

def longSwitch : String → Option Switch
  | "pubkey" => some (.value .pubkey)
  | "reason" => some (.value .reason)
  | "relay" => some (.value .relay)
  | "redis-url" => some (.value .storeUrl)
  | "yes" => some .yes
  | "help" => some .help
  | _ => none

def shortSwitch : Char → Option Switch
  | 'p' => some (.value .pubkey)
  | 'r' => some (.value .reason)
  | 'y' => some .yes
  | 'h' => some .help
  | _ => none

structure Given where
    values : List (ValueOption × String) := []
    yes : Bool := false
    /-- The last option, if its value is to come, or came as a word of its own and is not yet
    settled. -/
    pending : Option (ValueOption × Option String) := none

namespace Given

def value? (given : Given) (option : ValueOption) : Option String :=
  (given.values.find? (·.1 = option)).map (·.2)

/-- Gives an option its value. A sender is taken without padding. -/
def assign (given : Given) (option : ValueOption) (value : String) : Except ArgumentFault Given :=
  if (given.value? option).isSome then .error .repeated
  else if option = .pubkey then
    if Text.blank value then .error .blankValue
    else .ok { given with values := (option, Text.trim value) :: given.values }
  else .ok { given with values := (option, value) :: given.values }

def settle (given : Given) : Except ArgumentFault Given :=
  match given.pending with
  | none => .ok given
  | some (_, none) => .error .missingValue
  | some (option, some value) => { given with pending := none }.assign option value

/-- Takes an option, with the value that its word holds. -/
def takeValue (given : Given) (option : ValueOption) (attached : Option String) :
    Except ArgumentFault Given := do
  let given ← given.settle
  match attached with
  | some value => given.assign option value
  | none => .ok { given with pending := some (option, none) }

def takeYes (given : Given) : Except ArgumentFault Given := do
  let given ← given.settle
  if given.yes then .error .repeated else .ok { given with yes := true }

def takeHelp (given : Given) : Except ArgumentFault Given := do
  let _ ← given.settle
  .error .help

end Given

/-- A long option, from what follows its two dashes. -/
def readLong (given : Given) (chars : List Char) : Except ArgumentFault Given :=
  let name := String.ofList (chars.takeWhile (· ≠ '='))
  let attached := match chars.dropWhile (· ≠ '=') with
    | [] => none
    | _ :: value => some (String.ofList value)
  match longSwitch name, attached with
  | none, _ => .error .unknown
  | some (.value option), attached => given.takeValue option attached
  | some _, some _ => .error .unwantedValue
  | some .yes, none => given.takeYes
  | some .help, none => given.takeHelp

/-- The value in the rest of a word after an option of one letter. -/
def attachedValue : List Char → Option String
  | [] => none
  | '=' :: value => some (String.ofList value)
  | value => some (String.ofList value)

/-- Options of one letter, from what follows their dash. -/
def readShort (given : Given) : List Char → Except ArgumentFault Given
  | [] => .ok given
  | char :: rest =>
    match shortSwitch char with
    | none => .error .unknown
    | some (.value option) => given.takeValue option (attachedValue rest)
    | some .yes =>
      match given.takeYes with
      | .error error => .error error
      | .ok given => readShort given rest
    | some .help => given.takeHelp

/-- A word that is no option can only be the value of the option before it. -/
def readPlain (given : Given) (word : String) : Except ArgumentFault Given :=
  match given.pending with
  | some (option, none) => .ok { given with pending := some (option, some word) }
  | _ => .error .unknown

def readWords (given : Given) : List String → Except ArgumentFault Given
  | [] => given.settle
  | word :: rest =>
    match word.toList with
    | ['-', '-'] => if rest.isEmpty then given.settle else .error .unknown
    | '-' :: '-' :: chars => do readWords (← readLong given chars) rest
    | '-' :: char :: chars => do readWords (← readShort given (char :: chars)) rest
    | _ => do readWords (← readPlain given word) rest

/-- Reads the words of a command line. Variables stand in for options that are not given. -/
def ofWords (environment : Environment) (words : List String) : Except ArgumentFault Arguments := do
  let given ← readWords {} words
  match given.value? .pubkey with
  | none => .error .missingRequired
  | some pubkey =>
    .ok {
      pubkey
      reason := (given.value? .reason).getD ""
      relay := (given.value? .relay <|> environment "RELAY_URL").getD fallbackRelay
      yes := given.yes
      storeUrl := (given.value? .storeUrl <|> environment "REDIS_URL").getD fallbackStoreUrl }

/-- The record that the arguments ask for. -/
def record (arguments : Arguments) (now : UInt64) : Record :=
  .manual arguments.pubkey arguments.relay arguments.reason now

end Arguments

end OptOut
