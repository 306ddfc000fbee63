import OptOut.Proofs.Addressing
import OptOut.Proofs.Record
import OptOut.Settings

/-!
# Which settings are accepted

What the variables of an environment must say is given here without a word on how they are read, and
the settings are those that they say. A registrar can work under accepted settings unless a number
among them is zero: the name of the relay, the keys and the time limit of an append are never at
fault.
-/

namespace OptOut

/-! ## Numerals -/

namespace Text

theorem digits_value_iff {digits : List Char} {value : Nat} :
    digitsValue digits = some value ↔
      digits ≠ [] ∧ (∀ char ∈ digits, char.isDigit = true) ∧
        Nat.ofDigitChars 10 digits 0 = value := by
  simp [digitsValue, and_assoc]

theorem without_plus_iff {chars digits : List Char}
    (decimals : ∀ char ∈ digits, char.isDigit = true) :
    withoutPlus chars = digits ↔ chars = digits ∨ chars = '+' :: digits := by
  constructor
  · rintro rfl
    rw [withoutPlus.eq_def]
    split
    · exact .inr rfl
    · exact .inl rfl
  · rintro (rfl | rfl)
    · exact without_plus_digits decimals
    · rfl

end Text

namespace Settings

/-! ## What is written -/

/-- But for white space around them, decimal digits that stand for a number, with a plus sign in
front or without. -/
def WritesNumber (text : String) (number : UInt64) : Prop :=
  ∃ digits : List Char, digits ≠ [] ∧ (∀ char ∈ digits, char.isDigit = true) ∧
    ((Text.trim text).toList = digits ∨ (Text.trim text).toList = '+' :: digits) ∧
    Nat.ofDigitChars 10 digits 0 = number.toNat

/-- One of the words for yes or for no, in any letter case and with any white space around it. -/
def WritesFlag (text : String) (flag : Bool) : Prop :=
  if flag then Text.normalize text ∈ ["true", "1", "yes"]
  else Text.normalize text ∈ ["false", "0", "no"]

def Gives {α : Type} (environment : Environment) (name : String) (means : String → α → Prop)
    (default value : α) : Prop :=
  environment name = none ∧ value = default ∨
    ∃ text, environment name = some text ∧ means text value

def Fills (environment : Environment) (name text : String) : Prop :=
  environment name = some text ∧ Text.blank text = false

structure Written (environment : Environment) (settings : Settings) : Prop where
    relayUrl : Fills environment "RELAY_URL" settings.relayUrl
    storeUrl : Fills environment "REDIS_URL" settings.storeUrl ∨
      (∀ url, ¬Fills environment "REDIS_URL" url) ∧ settings.storeUrl = "redis://localhost:6379"
    capacity : Gives environment "VANISH_CACHE_CAPACITY" WritesNumber 1000000 settings.capacity
    storeTimeout : Gives environment "VANISH_STORE_TIMEOUT_MS" WritesNumber 500
      settings.storeTimeout
    writeBehind : Gives environment "VANISH_WRITE_BEHIND" WritesFlag true settings.writeBehind
    allowColdStart : Gives environment "VANISH_ALLOW_COLD_START" WritesFlag false
      settings.allowColdStart
    admissionControl : Gives environment "ALLOW_LIST_ENABLED" WritesFlag true
      settings.admissionControl

structure Form where
    name : String
    admits : String → Prop

def Form.ofMeaning {α : Type} (name : String) (means : String → α → Prop) : Form :=
  ⟨name, fun text => ∃ value, means text value⟩

/-- The variables whose texts may be at fault, in the order in which they are looked at. -/
def forms : List Form :=
  [.ofMeaning "VANISH_CACHE_CAPACITY" WritesNumber,
    .ofMeaning "VANISH_STORE_TIMEOUT_MS" WritesNumber,
    .ofMeaning "VANISH_WRITE_BEHIND" WritesFlag,
    .ofMeaning "VANISH_ALLOW_COLD_START" WritesFlag,
    .ofMeaning "ALLOW_LIST_ENABLED" WritesFlag]

def Form.Kept (environment : Environment) (form : Form) : Prop :=
  ∀ text, environment form.name = some text → form.admits text

/-- The first of some variables that is set to a text it may not have, and that text as it is. -/
inductive FirstOffence (environment : Environment) : List Form → SettingsFault → Prop where
  | here {form : Form} {rest : List Form} {text : String}
      (set : environment form.name = some text) (offends : ¬form.admits text) :
      FirstOffence environment (form :: rest) (.invalidValue form.name text)
  | behind {form : Form} {rest : List Form} {fault : SettingsFault}
      (kept : form.Kept environment) (later : FirstOffence environment rest fault) :
      FirstOffence environment (form :: rest) fault

inductive Faulty (environment : Environment) : SettingsFault → Prop where
  | unnamed (missing : ∀ url, ¬Fills environment "RELAY_URL" url) :
      Faulty environment .missingRelayUrl
  | offends {url : String} {fault : SettingsFault} (named : Fills environment "RELAY_URL" url)
      (offence : FirstOffence environment forms fault) : Faulty environment fault

/-! ## What is read -/

def Reads {α : Type} (parse : String → Option α) (means : String → α → Prop) : Prop :=
  ∀ text value, parse text = some value ↔ means text value

theorem reads_number : Reads numberOf WritesNumber := by
  intro text number
  have value_iff : Text.wordValue (Text.trim text) = some number ↔
      Text.digitsValue (Text.withoutPlus (Text.trim text).toList) = some number.toNat := by
    rw [Text.wordValue]
    cases Text.digitsValue (Text.withoutPlus (Text.trim text).toList) with
    | none => simp
    | some value =>
        simp only [Option.ite_none_right_eq_some, Option.some.injEq]
        constructor
        · rintro ⟨fits, rfl⟩
          exact (UInt64.toNat_ofNat_of_lt' fits).symm
        · rintro rfl
          exact ⟨number.toNat_lt, UInt64.ofNat_toNat⟩
  rw [numberOf, value_iff, Text.digits_value_iff, WritesNumber]
  constructor
  · rintro ⟨solid, decimals, value⟩
    exact ⟨_, solid, decimals, (Text.without_plus_iff decimals).1 rfl, value⟩
  · rintro ⟨digits, solid, decimals, form, value⟩
    rw [(Text.without_plus_iff decimals).2 form]
    exact ⟨solid, decimals, value⟩

theorem reads_flag : Reads flagOf WritesFlag := by
  intro text flag
  rw [flagOf, WritesFlag]
  split <;> cases flag <;> simp_all

section

variable {α : Type} {environment : Environment} {name : String} {parse : String → Option α}
  {means : String → α → Prop} {default : α}

theorem read_ok_iff (reads : Reads parse means) {value : α} :
    read environment name parse default = .ok value ↔
      Gives environment name means default value := by
  rw [read, Gives]
  cases set : environment name with
  | none => simp [eq_comm]
  | some text =>
      cases parsed : parse text with
      | none => simp [← reads text, parsed]
      | some other => simp [← reads text, parsed]

theorem read_error_iff (reads : Reads parse means) {fault : SettingsFault} :
    read environment name parse default = .error fault ↔
      ∃ text, environment name = some text ∧ (¬∃ value, means text value) ∧
        fault = .invalidValue name text := by
  rw [read]
  cases set : environment name with
  | none => simp
  | some text =>
      cases parsed : parse text with
      | none => simp [← reads text, parsed, eq_comm]
      | some other => simp [← reads text, parsed]

theorem exists_gives_iff (default : α) :
    (∃ value, Gives environment name means default value) ↔
      (Form.ofMeaning name means).Kept environment := by
  simp only [Gives, Form.Kept, Form.ofMeaning]
  cases set : environment name with
  | none => simp
  | some text => simp

end

theorem filled_eq_some_iff {environment : Environment} {name text : String} :
    filled environment name = some text ↔ Fills environment name text := by
  rw [filled, Fills, Option.filter_eq_some_iff, Bool.not_eq_true']

theorem filled_eq_none_iff {environment : Environment} {name : String} :
    filled environment name = none ↔ ∀ text, ¬Fills environment name text := by
  rw [Option.eq_none_iff_forall_ne_some]
  exact forall_congr' fun text => not_congr filled_eq_some_iff

/-! ## Variables one after another -/

section

variable {environment : Environment} {α : Type} {name : String} {parse : String → Option α}
  {means : String → α → Prop} {default : α} {next : α → Except SettingsFault Settings}

theorem read_bind_ok_iff (reads : Reads parse means) {settings : Settings} :
    read environment name parse default >>= next = .ok settings ↔
      ∃ value, Gives environment name means default value ∧ next value = .ok settings := by
  simp only [← read_ok_iff reads]
  cases read environment name parse default with
  | error fault => simp [Bind.bind, Except.bind]
  | ok value => simp [Bind.bind, Except.bind]

/-- Where what is read behind a variable is at fault in the same way whatever this one gives, the
first offence is its own or theirs. -/
theorem read_bind_error_iff (reads : Reads parse means) {rest : List Form} {fault : SettingsFault}
    (behind : ∀ value, next value = .error fault ↔ FirstOffence environment rest fault) :
    read environment name parse default >>= next = .error fault ↔
      FirstOffence environment (.ofMeaning name means :: rest) fault := by
  cases result : read environment name parse default with
  | error own =>
      obtain ⟨text, set, offends, rfl⟩ := (read_error_iff reads).1 result
      simp only [Bind.bind, Except.bind, Except.error.injEq]
      constructor
      · rintro rfl
        exact .here set offends
      · rintro (⟨set', _⟩ | ⟨kept, _⟩)
        · rw [Form.ofMeaning, set] at set'
          rw [Option.some.inj set']
          rfl
        · exact absurd (kept text set) offends
  | ok value =>
      have kept := (exists_gives_iff default).1 ⟨value, (read_ok_iff reads).1 result⟩
      simp only [Bind.bind, Except.bind, behind]
      constructor
      · exact .behind kept
      · rintro (⟨set, offends⟩ | ⟨_, later⟩)
        · exact absurd (kept _ set) offends
        · exact later

end

variable {environment : Environment}

theorem store_url_iff {url : String} :
    (filled environment "REDIS_URL").getD fallbackStoreUrl = url ↔
      Fills environment "REDIS_URL" url ∨
        (∀ other, ¬Fills environment "REDIS_URL" other) ∧ url = "redis://localhost:6379" := by
  cases given : filled environment "REDIS_URL" with
  | none =>
      have missing := filled_eq_none_iff.1 given
      simp [missing, fallbackStoreUrl, eq_comm]
  | some other =>
      have fills := filled_eq_some_iff.1 given
      constructor
      · rintro rfl
        exact .inl fills
      · rintro (same | ⟨missing, _⟩)
        · exact Option.some.inj (fills.1.symm.trans same.1)
        · exact absurd fills (missing other)

theorem of_environment_ok_iff {settings : Settings} :
    ofEnvironment environment = .ok settings ↔ Written environment settings := by
  constructor
  · intro accepted
    rw [ofEnvironment] at accepted
    cases named : filled environment "RELAY_URL" with
    | none =>
        rw [named] at accepted
        exact nomatch accepted
    | some url =>
        rw [named] at accepted
        obtain ⟨_, capacity, accepted⟩ := (read_bind_ok_iff reads_number).1 accepted
        obtain ⟨_, storeTimeout, accepted⟩ := (read_bind_ok_iff reads_number).1 accepted
        obtain ⟨_, writeBehind, accepted⟩ := (read_bind_ok_iff reads_flag).1 accepted
        obtain ⟨_, allowColdStart, accepted⟩ := (read_bind_ok_iff reads_flag).1 accepted
        obtain ⟨_, admissionControl, accepted⟩ := (read_bind_ok_iff reads_flag).1 accepted
        obtain rfl := Except.ok.inj accepted
        exact ⟨filled_eq_some_iff.1 named, store_url_iff.1 rfl, capacity, storeTimeout, writeBehind,
          allowColdStart, admissionControl⟩
  · intro written
    obtain ⟨relayUrl, storeUrl, capacity, storeTimeout, writeBehind, allowColdStart,
      admissionControl⟩ := settings
    rw [ofEnvironment, filled_eq_some_iff.2 written.relayUrl]
    refine (read_bind_ok_iff reads_number).2 ⟨capacity, written.capacity, ?_⟩
    refine (read_bind_ok_iff reads_number).2 ⟨storeTimeout, written.storeTimeout, ?_⟩
    refine (read_bind_ok_iff reads_flag).2 ⟨writeBehind, written.writeBehind, ?_⟩
    refine (read_bind_ok_iff reads_flag).2 ⟨allowColdStart, written.allowColdStart, ?_⟩
    refine (read_bind_ok_iff reads_flag).2 ⟨admissionControl, written.admissionControl, ?_⟩
    rw [store_url_iff.2 written.storeUrl]

theorem of_environment_error_iff {fault : SettingsFault} :
    ofEnvironment environment = .error fault ↔ Faulty environment fault := by
  rw [ofEnvironment]
  cases named : filled environment "RELAY_URL" with
  | none =>
      have missing := filled_eq_none_iff.1 named
      simp only [Bind.bind, Except.bind, Except.error.injEq]
      constructor
      · rintro rfl
        exact .unnamed missing
      · rintro (_ | ⟨named, _⟩)
        · rfl
        · exact absurd named (missing _)
  | some url =>
      have fills := filled_eq_some_iff.1 named
      have first : Faulty environment fault ↔ FirstOffence environment forms fault := by
        constructor
        · rintro (missing | ⟨_, offence⟩)
          · exact absurd fills (missing url)
          · exact offence
        · exact .offends fills
      rw [first]
      refine read_bind_error_iff reads_number fun _ => ?_
      refine read_bind_error_iff reads_number fun _ => ?_
      refine read_bind_error_iff reads_flag fun _ => ?_
      refine read_bind_error_iff reads_flag fun _ => ?_
      refine read_bind_error_iff reads_flag fun _ => ?_
      exact iff_of_false nofun nofun

/-! ## Settings that a registrar can work under -/

/-- The key of the replica, that of the stream and the limit of an append are in order whenever the
rest is. -/
theorem check_registrar (settings : Settings) :
    settings.registrar.check =
      if Text.blank settings.relayUrl then .error .missingRelayScope
      else if settings.capacity = 0 then .error (.roster .zeroCapacity)
      else if settings.storeTimeout = 0 then .error (.roster .zeroTimeout)
      else .ok ⟨Text.normalize settings.relayUrl⟩ := by
  have replicaKey : Text.blank "processed_pubkeys_zset" = false := by decide +kernel
  have streamKey : Text.blank optOutStream = false := by decide +kernel
  simp only [RegistrarSettings.check, RosterSettings.check, registrar, replicaKey, streamKey,
    Bool.false_eq_true, if_false]
  by_cases blank : Text.blank settings.relayUrl = true
  · rw [Scope.of_text_eq_none_iff.2 blank, if_pos blank]
  · have scope : Scope.ofText? settings.relayUrl = some ⟨Text.normalize settings.relayUrl⟩ :=
      Scope.of_text_eq_some_iff.2 ⟨mt Text.normalize_eq_empty_iff.1 blank, rfl⟩
    rw [scope, if_neg blank]
    by_cases zero : settings.capacity = 0
    · simp only [zero, if_true]
    · by_cases zero' : settings.storeTimeout = 0
      · simp only [zero, zero', if_true, if_false]
      · simp only [zero, zero', if_false]

theorem exists_written_iff : (∃ settings, Written environment settings) ↔
    (∃ url, Fills environment "RELAY_URL" url) ∧ ∀ form ∈ forms, form.Kept environment := by
  simp only [forms, List.forall_mem_cons]
  constructor
  · rintro ⟨settings, written⟩
    exact ⟨⟨_, written.relayUrl⟩, (exists_gives_iff _).1 ⟨_, written.capacity⟩,
      (exists_gives_iff _).1 ⟨_, written.storeTimeout⟩,
      (exists_gives_iff _).1 ⟨_, written.writeBehind⟩,
      (exists_gives_iff _).1 ⟨_, written.allowColdStart⟩,
      (exists_gives_iff _).1 ⟨_, written.admissionControl⟩, nofun⟩
  · rintro ⟨⟨relayUrl, named⟩, first, second, third, fourth, fifth, -⟩
    obtain ⟨capacity, givesCapacity⟩ := (exists_gives_iff 1000000).2 first
    obtain ⟨storeTimeout, givesTimeout⟩ := (exists_gives_iff 500).2 second
    obtain ⟨writeBehind, givesWriteBehind⟩ := (exists_gives_iff true).2 third
    obtain ⟨allowColdStart, givesColdStart⟩ := (exists_gives_iff false).2 fourth
    obtain ⟨admissionControl, givesControl⟩ := (exists_gives_iff true).2 fifth
    exact ⟨⟨relayUrl, _, capacity, storeTimeout, writeBehind, allowColdStart, admissionControl⟩,
      named, store_url_iff.1 rfl, givesCapacity, givesTimeout, givesWriteBehind, givesColdStart,
      givesControl⟩

/-- An environment is accepted just when it names the relay and every variable that is set has a
text it may have. The settings are then what it says, and only a zero keeps a registrar from working
under them; otherwise the fault is the first one there is. -/
theorem of_environment_accepts (environment : Environment) :
    ((∃ settings, ofEnvironment environment = .ok settings) ↔
      (∃ url, Fills environment "RELAY_URL" url) ∧ ∀ form ∈ forms, form.Kept environment) ∧
    (∀ settings, ofEnvironment environment = .ok settings ↔ Written environment settings) ∧
    (∀ fault, ofEnvironment environment = .error fault ↔ Faulty environment fault) ∧
    ∀ settings, ofEnvironment environment = .ok settings →
      settings.registrar.check =
        if settings.capacity = 0 then .error (.roster .zeroCapacity)
        else if settings.storeTimeout = 0 then .error (.roster .zeroTimeout)
        else .ok ⟨Text.normalize settings.relayUrl⟩ := by
  refine ⟨?_, fun _ => of_environment_ok_iff, fun _ => of_environment_error_iff, ?_⟩
  · rw [← exists_written_iff]
    exact exists_congr fun _ => of_environment_ok_iff
  · intro settings accepted
    have named := (of_environment_ok_iff.1 accepted).relayUrl.2
    rw [check_registrar, named, if_neg Bool.false_ne_true]

def environmentOf (texts : List (String × String)) : Environment :=
  fun name => texts.lookup name

/-- The largest capacity is accepted, behind a plus sign and leading zeros; the next one is not, and
is told as it was written, whatever is wrong with the variables behind it. -/
theorem of_environment_accepts_largest :
    let named := [("RELAY_URL", " Relay.Example"), ("REDIS_URL", "\u3000"),
      ("VANISH_STORE_TIMEOUT_MS", "0")]
    let largest := environmentOf
      (("VANISH_CACHE_CAPACITY", "\u2003+018446744073709551615\n") :: named)
    let larger := environmentOf
      (("VANISH_CACHE_CAPACITY", " 18446744073709551616") :: ("ALLOW_LIST_ENABLED", "") :: named)
    let settings : Settings :=
      { relayUrl := " Relay.Example", capacity := 18446744073709551615, storeTimeout := 0 }
    ofEnvironment largest = .ok settings ∧ Written largest settings ∧
      settings.registrar.check = .error (.roster .zeroTimeout) ∧
      Faulty larger (.invalidValue "VANISH_CACHE_CAPACITY" " 18446744073709551616") := by
  intro named largest larger settings
  have accepted : ofEnvironment largest = .ok settings := by decide +kernel
  have refused : ofEnvironment larger =
      .error (.invalidValue "VANISH_CACHE_CAPACITY" " 18446744073709551616") := by decide +kernel
  obtain ⟨_, written, _, check⟩ := of_environment_accepts largest
  obtain ⟨_, _, faulty, _⟩ := of_environment_accepts larger
  exact ⟨accepted, (written settings).1 accepted, check settings accepted,
    (faulty _).1 refused⟩

end Settings

end OptOut
