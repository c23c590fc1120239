import EdgeGateway.Json.Writer
import EdgeGateway.Settings.Reader

/-!
# EdgeGateway.Settings.Writer

Settings as JSON, every field written, in the order of the sections. The names of choices are the
ones that are read.
-/

namespace EdgeGateway.Settings

/-- The name of a choice. -/
def nameOf {α : Type} [DecidableEq α] (names : List (String × α)) (a : α) : Json :=
  Json.text ((names.find? (·.2 = a)).map (·.1))

def optional {α : Type} (write : α → Json) : Option α → Json
  | some a => write a
  | none => .null

/-- An object with the given keys. -/
def record (members : List (String × Json)) : Json :=
  .object (members.map fun (key, v) => (some key, v))

def featuresToJson (s : Features) : Json :=
  record
    [ ("wifi", .bool s.wifi), ("cellular", .bool s.cellular), ("mqtt", .bool s.mqtt),
      ("ble_modem", .bool s.bleModem), ("console", .bool s.console) ]

def wifiToJson (s : WifiSettings) : Json :=
  record
    [ ("ssid", .ofString s.ssid), ("password", .ofString s.password),
      ("security", nameOf securityNames s.security), ("max_retries", .ofNat s.maxRetries.toNat),
      ("retry_interval_ms", .ofNat s.retryIntervalMs.toNat),
      ("connect_timeout_ms", optional (.ofNat ·.toNat) s.connectTimeoutMs) ]

def cellularToJson (s : CellularSettings) : Json :=
  record
    [ ("apn", .ofString s.apn), ("username", .ofString s.username),
      ("password", .ofString s.password), ("auth", nameOf authNames s.auth),
      ("max_retries", .ofNat s.maxRetries.toNat),
      ("retry_interval_ms", .ofNat s.retryIntervalMs.toNat),
      ("connect_timeout_ms", optional (.ofNat ·.toNat) s.connectTimeoutMs),
      ("disconnect_timeout_ms", optional (.ofNat ·.toNat) s.disconnectTimeoutMs) ]

def mqttToJson (s : MqttSettings) : Json :=
  record
    [ ("broker", .ofString s.broker), ("port", .ofNat s.port.toNat),
      ("client_id_prefix", .ofString s.clientName),
      ("unique_client_id", .bool s.uniqueClientId), ("username", .ofString s.username),
      ("password", .ofString s.password), ("keep_alive_secs", .ofNat s.keepAliveSecs.toNat),
      ("timeout_ms", .ofNat s.timeoutMs.toNat), ("max_retries", .ofNat s.maxRetries.toNat),
      ("retry_interval_ms", .ofNat s.retryIntervalMs.toNat), ("topic", .ofString s.topic),
      ("qos", nameOf qosNames s.qos), ("on_message", .ofString s.onMessage),
      ("off_message", .ofString s.offMessage),
      ("subscribe_retries", .ofNat s.subscribeRetries.toNat),
      ("subscribe_interval_ms", .ofNat s.subscribeIntervalMs.toNat),
      ("root_ca", optional .ofString s.rootCa), ("client_cert", optional .ofString s.clientCert),
      ("client_key", optional .ofString s.clientKey), ("alpn", optional .ofString s.alpn),
      ("sni", optional .ofString s.sni), ("queue_depth", .ofNat s.queueDepth.toNat) ]

def bleToJson (s : BleSettings) : Json :=
  record
    [ ("device_name", .ofString s.deviceName),
      ("acquire_timeout_ms", .ofNat s.acquireTimeoutMs.toNat),
      ("chunk_interval_ms", .ofNat s.chunkIntervalMs.toNat),
      ("reassembly_capacity", .ofNat s.reassemblyCapacity.toNat),
      ("transreceive_capacity", .ofNat s.transreceiveCapacity.toNat),
      ("local_mtu", .ofNat s.localMtu.toNat), ("queue_depth", .ofNat s.queueDepth.toNat) ]

def toJson (s : Settings) : Json :=
  record
    [ ("default_io", nameOf linkKindNames s.defaultLink), ("features", featuresToJson s.features),
      ("wifi", wifiToJson s.wifi), ("cellular", cellularToJson s.cellular),
      ("mqtt", mqttToJson s.mqtt), ("ble", bleToJson s.ble) ]

/-- The settings file that says all of it. -/
def render (s : Settings) : String := s.toJson.render

end EdgeGateway.Settings
