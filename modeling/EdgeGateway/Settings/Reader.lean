import EdgeGateway.Bytes
import EdgeGateway.Json.Reader
import EdgeGateway.Settings

/-!
# EdgeGateway.Settings.Reader

Settings from JSON.

* `readRecord` : a section is an object, whose unknown keys are ignored and whose known keys come
  at most once, or an array of its fields in their order, which may be cut short. What is left
  out keeps its default.
* `readChoice` : a choice is its name, or an object with the name as its only key and a null.
* `Settings.parse`, `Settings.load` : a text, and what stands at a path, read and checked.
-/

namespace EdgeGateway

namespace Settings

/-- A field: its key, and how a value changes the section. -/
abbrev Field (σ : Type) := String × (Json → σ → Option σ)

def readMembers {σ : Type} (fields : List (Field σ)) :
    List (Option String × Json) → List String → σ → Option σ
  | [], _, s => some s
  | (none, _) :: _, _, _ => none
  | (some key, v) :: rest, seen, s =>
    match fields.lookup key with
    | none => readMembers fields rest seen s
    | some store =>
      if seen.contains key then none
      else (store v s).bind (readMembers fields rest (key :: seen))

def readPositions {σ : Type} : List (Field σ) → List Json → σ → Option σ
  | _, [], s => some s
  | [], _ :: _, _ => none
  | (_, store) :: fields, v :: rest, s => (store v s).bind (readPositions fields rest)

/-- A section, starting from its defaults. -/
def readRecord {σ : Type} (fields : List (Field σ)) (defaults : σ) : Json → Option σ
  | .object members => readMembers fields members [] defaults
  | .array items => readPositions fields items defaults
  | _ => none

def readChoice {α : Type} (names : List (String × α)) : Json → Option α
  | .text (some s) => names.lookup s
  | .object [(some s, .null)] => names.lookup s
  | _ => none

def readBool : Json → Option Bool
  | .bool b => some b
  | _ => none

def readString : Json → Option String
  | .text s => s
  | _ => none

/-- A natural number below the limit. -/
def readBelow (limit : Nat) : Json → Option Nat
  | .number n => n.toNat?.bind fun v => if v < limit then some v else none
  | _ => none

def readUInt16 (v : Json) : Option UInt16 := (readBelow UInt16.size v).map UInt16.ofNat

def readUInt32 (v : Json) : Option UInt32 := (readBelow UInt32.size v).map UInt32.ofNat

def readUInt64 (v : Json) : Option UInt64 := (readBelow UInt64.size v).map UInt64.ofNat

/-- A value that may be null. -/
def readOptional {α : Type} (read : Json → Option α) : Json → Option (Option α)
  | .null => some none
  | v => (read v).map some

def linkKindNames : List (String × LinkKind) :=
  [("none", .none), ("cellular", .cellular), ("wifi", .wifi)]

def securityNames : List (String × WifiSecurity) :=
  [("open", .unsecured), ("wpa2_personal", .wpa2Personal), ("wpa3_personal", .wpa3Personal)]

def authNames : List (String × PppAuth) := [("none", .none), ("pap", .pap), ("chap", .chap)]

def qosNames : List (String × Qos) :=
  [("at_most_once", .atMostOnce), ("at_least_once", .atLeastOnce),
    ("exactly_once", .exactlyOnce)]

def featureFields : List (Field Features) :=
  [ ("wifi", fun v s => (readBool v).map ({ s with wifi := · })),
    ("cellular", fun v s => (readBool v).map ({ s with cellular := · })),
    ("mqtt", fun v s => (readBool v).map ({ s with mqtt := · })),
    ("ble_modem", fun v s => (readBool v).map ({ s with bleModem := · })),
    ("console", fun v s => (readBool v).map ({ s with console := · })) ]

def wifiFields : List (Field WifiSettings) :=
  [ ("ssid", fun v s => (readString v).map ({ s with ssid := · })),
    ("password", fun v s => (readString v).map ({ s with password := · })),
    ("security", fun v s => (readChoice securityNames v).map ({ s with security := · })),
    ("max_retries", fun v s => (readUInt32 v).map ({ s with maxRetries := · })),
    ("retry_interval_ms", fun v s => (readUInt64 v).map ({ s with retryIntervalMs := · })),
    ("connect_timeout_ms", fun v s =>
      (readOptional readUInt64 v).map ({ s with connectTimeoutMs := · })) ]

def cellularFields : List (Field CellularSettings) :=
  [ ("apn", fun v s => (readString v).map ({ s with apn := · })),
    ("username", fun v s => (readString v).map ({ s with username := · })),
    ("password", fun v s => (readString v).map ({ s with password := · })),
    ("auth", fun v s => (readChoice authNames v).map ({ s with auth := · })),
    ("max_retries", fun v s => (readUInt32 v).map ({ s with maxRetries := · })),
    ("retry_interval_ms", fun v s => (readUInt64 v).map ({ s with retryIntervalMs := · })),
    ("connect_timeout_ms", fun v s =>
      (readOptional readUInt64 v).map ({ s with connectTimeoutMs := · })),
    ("disconnect_timeout_ms", fun v s =>
      (readOptional readUInt64 v).map ({ s with disconnectTimeoutMs := · })) ]

def mqttFields : List (Field MqttSettings) :=
  [ ("broker", fun v s => (readString v).map ({ s with broker := · })),
    ("port", fun v s => (readUInt16 v).map ({ s with port := · })),
    ("client_id_prefix", fun v s => (readString v).map ({ s with clientName := · })),
    ("unique_client_id", fun v s => (readBool v).map ({ s with uniqueClientId := · })),
    ("username", fun v s => (readString v).map ({ s with username := · })),
    ("password", fun v s => (readString v).map ({ s with password := · })),
    ("keep_alive_secs", fun v s => (readUInt16 v).map ({ s with keepAliveSecs := · })),
    ("timeout_ms", fun v s => (readUInt64 v).map ({ s with timeoutMs := · })),
    ("max_retries", fun v s => (readUInt32 v).map ({ s with maxRetries := · })),
    ("retry_interval_ms", fun v s => (readUInt64 v).map ({ s with retryIntervalMs := · })),
    ("topic", fun v s => (readString v).map ({ s with topic := · })),
    ("qos", fun v s => (readChoice qosNames v).map ({ s with qos := · })),
    ("on_message", fun v s => (readString v).map ({ s with onMessage := · })),
    ("off_message", fun v s => (readString v).map ({ s with offMessage := · })),
    ("subscribe_retries", fun v s => (readUInt32 v).map ({ s with subscribeRetries := · })),
    ("subscribe_interval_ms", fun v s =>
      (readUInt64 v).map ({ s with subscribeIntervalMs := · })),
    ("root_ca", fun v s => (readOptional readString v).map ({ s with rootCa := · })),
    ("client_cert", fun v s => (readOptional readString v).map ({ s with clientCert := · })),
    ("client_key", fun v s => (readOptional readString v).map ({ s with clientKey := · })),
    ("alpn", fun v s => (readOptional readString v).map ({ s with alpn := · })),
    ("sni", fun v s => (readOptional readString v).map ({ s with sni := · })),
    ("queue_depth", fun v s => (readUInt64 v).map ({ s with queueDepth := · })) ]

def bleFields : List (Field BleSettings) :=
  [ ("device_name", fun v s => (readString v).map ({ s with deviceName := · })),
    ("acquire_timeout_ms", fun v s => (readUInt64 v).map ({ s with acquireTimeoutMs := · })),
    ("chunk_interval_ms", fun v s => (readUInt64 v).map ({ s with chunkIntervalMs := · })),
    ("reassembly_capacity", fun v s =>
      (readUInt64 v).map ({ s with reassemblyCapacity := · })),
    ("transreceive_capacity", fun v s =>
      (readUInt64 v).map ({ s with transreceiveCapacity := · })),
    ("local_mtu", fun v s => (readUInt16 v).map ({ s with localMtu := · })),
    ("queue_depth", fun v s => (readUInt64 v).map ({ s with queueDepth := · })) ]

def sectionFields : List (Field Settings) :=
  [ ("default_io", fun v s => (readChoice linkKindNames v).map ({ s with defaultLink := · })),
    ("features", fun v s => (readRecord featureFields {} v).map ({ s with features := · })),
    ("wifi", fun v s => (readRecord wifiFields {} v).map ({ s with wifi := · })),
    ("cellular", fun v s => (readRecord cellularFields {} v).map ({ s with cellular := · })),
    ("mqtt", fun v s => (readRecord mqttFields {} v).map ({ s with mqtt := · })),
    ("ble", fun v s => (readRecord bleFields {} v).map ({ s with ble := · })) ]

/-- Settings from a value, not yet checked. -/
def ofJson? (v : Json) : Option Settings := readRecord sectionFields {} v

/-- Settings from a text, not yet checked. -/
def read? (text : String) : Option Settings := (Json.parse? text.toList).bind ofJson?

/-- Why there are no settings. -/
inductive Error where
  | isDirectory
  | notText
  | unreadable
  | invalid (fault : SettingsFault)
  deriving DecidableEq

/-- The wording of a broken rule; the other causes have none of their own. -/
def Error.message : Error → String
  | .invalid fault => "invalid config: " ++ fault.message
  | .unreadable => "invalid config file"
  | .isDirectory | .notText => "failed to read config file"

def checked (s : Settings) : Except Error Settings :=
  match s.fault? with
  | some fault => .error (.invalid fault)
  | none => .ok s

def parse (text : String) : Except Error Settings :=
  match read? text with
  | some s => s.checked
  | none => .error .unreadable

/-- What stands at the path of a settings file. -/
inductive Source where
  | missing
  | directory
  | file (bytes : Bytes)

/-- Without a file the defaults hold. -/
def load : Source → Except Error Settings
  | .missing => .ok {}
  | .directory => .error .isDirectory
  | .file bytes =>
    match bytes.toText? with
    | some text => parse text
    | none => .error .notText

end Settings

end EdgeGateway
