import ResourceRouting.Dispatch
import ResourceRouting.LogFilter
import ResourceRouting.SocketAddress
import ResourceRouting.Toml.Reader

/-!
# Settings

What a settings file says.  Every setting has a default, a setting of the wrong type makes the
file unreadable, and values that make no sense are all reported together.
-/

namespace ResourceRouting

/-- How log entries are written. -/
inductive LogFormat
  /-- For people. -/
  | pretty
  /-- As documents. -/
  | json
  deriving DecidableEq, Repr

namespace LogFormat

/-- The name of a format. -/
def name : LogFormat → Text
  | pretty => "pretty".toList
  | json => "json".toList

/-- The format of a name. -/
def ofName? (name : Text) : Option LogFormat :=
  [pretty, json].find? (·.name = name)

end LogFormat

/-- Where requests are expected. -/
structure ListenerSettings where
  /-- The address. -/
  address : Text := "0.0.0.0:8080".toList
  deriving DecidableEq, Repr

/-- How long requests may take. -/
structure TimeoutSettings where
  /-- The time for a request in seconds. -/
  requestSeconds : Nat := 30
  deriving DecidableEq, Repr

/-- What is told about the service. -/
structure ObservabilitySettings where
  /-- The log filter. -/
  logLevel : Text := "info".toList
  /-- How log entries are written. -/
  logFormat : LogFormat := .pretty
  /-- Whether counters are shown. -/
  showsCounters : Bool := false
  /-- The address at which counters are shown. -/
  counterAddress : Text := "0.0.0.0:9090".toList
  deriving DecidableEq, Repr

/-- All settings. -/
structure Settings where
  /-- Where requests are expected. -/
  listener : ListenerSettings := {}
  /-- How long requests may take. -/
  timeouts : TimeoutSettings := {}
  /-- How requests are dispatched. -/
  dispatch : DispatchSettings := {}
  /-- What is told about the service. -/
  observability : ObservabilitySettings := {}
  deriving DecidableEq, Repr

/-- A setting whose value makes no sense. -/
inductive SettingFault
  /-- The address is none. -/
  | listenerAddress (value : Text)
  /-- Requests are given no time. -/
  | requestTime
  /-- Entities are given no bytes. -/
  | entityLimit
  /-- The log filter is none. -/
  | logLevel (value : Text)
  /-- The address of the counters is none. -/
  | counterAddress (value : Text)
  deriving DecidableEq, Repr

namespace SettingFault

/-- The name of the setting. -/
def field : SettingFault → String
  | listenerAddress _ => "listener.bind_address"
  | requestTime => "timeouts.request_secs"
  | entityLimit => "dispatch.max_entity_bytes"
  | logLevel _ => "observability.log_level"
  | counterAddress _ => "observability.metrics_address"

/-- What is wrong with the value, in words. -/
def message : SettingFault → String
  | listenerAddress value => s!"not a socket address: {String.ofList value}"
  | requestTime => "must be greater than zero"
  | entityLimit => "must be greater than zero"
  | logLevel value => s!"not a log filter: {String.ofList value}"
  | counterAddress value => s!"not a socket address: {String.ofList value}"

end SettingFault

/-- Why there are no settings. -/
inductive SettingsError
  /-- The file is no text. -/
  | notText
  /-- The text is malformed, or a setting has the wrong type. -/
  | malformed
  /-- Values make no sense. -/
  | invalid (faults : List SettingFault)
  deriving DecidableEq, Repr

namespace SettingsError

/-- What is wrong with a settings file, in words. -/
def message : SettingsError → String
  | notText => "IO error: stream did not contain valid UTF-8"
  | malformed => "Parse error"
  | invalid faults =>
      "Validation failed: " ++
        ", ".intercalate (faults.map fun fault => s!"{fault.field}: {fault.message}")

end SettingsError

namespace Settings

/-- Reads a natural number. -/
def readNatural : Toml → Option Nat
  | .integer value => if 0 ≤ value then some value.toNat else none
  | _ => none

/-- Reads a truth value. -/
def readBool : Toml → Option Bool
  | .bool value => some value
  | _ => none

/-- Reads a string. -/
def readText : Toml → Option Text
  | .string text => some text
  | _ => none

/-- Whether a value has nothing in it. -/
def isHollow : Toml → Bool
  | .array elements => elements.isEmpty
  | .tables elements => elements.isEmpty
  | .table _ entries => entries.isEmpty
  | _ => false

/-- Reads a format: its name, or a table in which the name stands for nothing. -/
def readLogFormat : Toml → Option LogFormat
  | .string name => LogFormat.ofName? name
  | .table _ [(name, value)] => if isHollow value then LogFormat.ofName? name else none
  | _ => none

/--
What a section says of a setting.  A section is a table, or an array of its settings in order; a
date says nothing.
-/
inductive Section
  /-- Settings by name. -/
  | named (entries : Toml.Entries)
  /-- Settings in order. -/
  | listed (elements : List Toml)

/-- Reads a section. -/
def readSection : Toml → Option Section
  | .table _ entries => some (.named entries)
  | .array elements => some (.listed elements)
  | .tables elements => some (.listed elements)
  | .date => some (.named [])
  | _ => none

/-- The value of a setting, by its name or its place. -/
def Section.find? (contents : Section) (place : Nat) (name : String) : Option Toml :=
  match contents with
  | named entries => entries.lookup name.toList
  | listed elements => elements[place]?

/-- Reads a setting, which has a default. -/
def Section.read
    {α : Type}
    (contents : Section)
    (place : Nat)
    (name : String)
    (default : α)
    (reader : Toml → Option α) :
    Option α :=
  match contents.find? place name with
  | none => some default
  | some value => reader value

/-- Reads where requests are expected. -/
def readListener (value : Toml) : Option ListenerSettings := do
  let contents ← readSection value
  let address ← contents.read 0 "bind_address" (ListenerSettings.address {}) readText
  return ⟨address⟩

/-- Reads how long requests may take. -/
def readTimeouts (value : Toml) : Option TimeoutSettings := do
  let contents ← readSection value
  let seconds ← contents.read 0 "request_secs" (TimeoutSettings.requestSeconds {}) readNatural
  return ⟨seconds⟩

/-- Reads how requests are dispatched. -/
def readDispatch (value : Toml) : Option DispatchSettings := do
  let contents ← readSection value
  let decodes ← contents.read 0 "decode_path_params" true readBool
  let limit ← contents.read 1 "max_entity_bytes" (DispatchSettings.entityLimit {}) readNatural
  let head ← contents.read 2 "head_fallback" true readBool
  let options ← contents.read 3 "auto_options" true readBool
  return ⟨decodes, limit, head, options⟩

/-- Reads what is told about the service. -/
def readObservability (value : Toml) : Option ObservabilitySettings := do
  let contents ← readSection value
  let level ← contents.read 0 "log_level" (ObservabilitySettings.logLevel {}) readText
  let format ← contents.read 1 "log_format" .pretty readLogFormat
  let shown ← contents.read 2 "metrics_enabled" false readBool
  let address ← contents.read 3 "metrics_address" (ObservabilitySettings.counterAddress {}) readText
  return ⟨level, format, shown, address⟩

/-- Reads settings from the entries of a document; entries that are no settings do not matter. -/
def ofEntries (entries : Toml.Entries) : Option Settings := do
  let contents := Section.named entries
  let listener ← contents.read 0 "listener" {} readListener
  let timeouts ← contents.read 1 "timeouts" {} readTimeouts
  let dispatch ← contents.read 2 "dispatch" {} readDispatch
  let observability ← contents.read 3 "observability" {} readObservability
  return ⟨listener, timeouts, dispatch, observability⟩

/-- A fault under a condition. -/
def faultIf (condition : Bool) (fault : SettingFault) : List SettingFault :=
  if condition then [fault] else []

/-- All values that make no sense.  The address of the counters matters only where they are shown. -/
def faults (settings : Settings) : List SettingFault :=
  let address := settings.listener.address
  let level := settings.observability.logLevel
  let counters := settings.observability.counterAddress
  faultIf (!SocketAddress.isValid address) (.listenerAddress address) ++
    faultIf (settings.timeouts.requestSeconds = 0) .requestTime ++
    faultIf (settings.dispatch.entityLimit = 0) .entityLimit ++
    faultIf (!LogFilter.isValid level) (.logLevel level) ++
    faultIf (settings.observability.showsCounters && !SocketAddress.isValid counters)
      (.counterAddress counters)

/-- Reads and checks settings. -/
def ofText (text : Text) : Except SettingsError Settings :=
  match (Toml.ofText? text).bind ofEntries with
  | none => .error .malformed
  | some settings =>
      if settings.faults.isEmpty then .ok settings else .error (.invalid settings.faults)

/-- Reads and checks settings in a file of bytes. -/
def ofBytes (bytes : List UInt8) : Except SettingsError Settings :=
  match Utf8.decode? bytes with
  | none => .error .notText
  | some text => ofText text

end Settings
end ResourceRouting
