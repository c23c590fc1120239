import EdgeGateway.Status

/-!
# EdgeGateway.Settings

What the gateway is set up with. Every field has a default, so a partial settings file works.

* `Settings`        : one record a section, with the defaults of the shipping firmware.
* `Settings.fault?` : the first rule the settings break.
* views that tasks take of their section: `WifiSettings.retryPolicy`, `MqttSettings.tls`, …
-/

namespace EdgeGateway

inductive WifiSecurity where
  | unsecured
  | wpa2Personal
  | wpa3Personal
  deriving DecidableEq, Inhabited

def WifiSecurity.text : WifiSecurity → String
  | .unsecured => "Open"
  | .wpa2Personal => "Wpa2Personal"
  | .wpa3Personal => "Wpa3Personal"

inductive PppAuth where
  | none
  | pap
  | chap
  deriving DecidableEq, Inhabited

def PppAuth.text : PppAuth → String
  | .none => "None"
  | .pap => "Pap"
  | .chap => "Chap"

/-- Delivery guarantee of a subscription. -/
inductive Qos where
  | atMostOnce
  | atLeastOnce
  | exactlyOnce
  deriving DecidableEq, Inhabited

def Qos.text : Qos → String
  | .atMostOnce => "AtMostOnce"
  | .atLeastOnce => "AtLeastOnce"
  | .exactlyOnce => "ExactlyOnce"

/-- Which tasks run. -/
structure Features where
  wifi : Bool := true
  cellular : Bool := true
  mqtt : Bool := true
  bleModem : Bool := true
  console : Bool := true
  deriving DecidableEq, Inhabited

structure WifiSettings where
  ssid : String := "WIFI_SSID"
  password : String := "WIFI_PASSWORD"
  security : WifiSecurity := .wpa2Personal
  maxRetries : UInt32 := 10
  retryIntervalMs : UInt64 := 10000
  connectTimeoutMs : Option UInt64 := none
  deriving DecidableEq, Inhabited

structure CellularSettings where
  apn : String := "move.dataxs.mobi"
  username : String := ""
  password : String := ""
  auth : PppAuth := .pap
  maxRetries : UInt32 := 10
  retryIntervalMs : UInt64 := 10000
  connectTimeoutMs : Option UInt64 := some 180000
  disconnectTimeoutMs : Option UInt64 := some 30000
  deriving DecidableEq, Inhabited

structure MqttSettings where
  broker : String := "a1b2c3d4e5f6g7-ats.iot.us-east-1.amazonaws.com"
  port : UInt16 := 8883
  clientName : String := "psoc6-mqtt-client"
  uniqueClientId : Bool := true
  username : String := ""
  password : String := ""
  keepAliveSecs : UInt16 := 60
  timeoutMs : UInt64 := 5000
  maxRetries : UInt32 := 150
  retryIntervalMs : UInt64 := 10000
  topic : String := "ledstatus"
  qos : Qos := .atLeastOnce
  onMessage : String := "TURN ON"
  offMessage : String := "TURN OFF"
  subscribeRetries : UInt32 := 3
  subscribeIntervalMs : UInt64 := 1000
  rootCa : Option String := none
  clientCert : Option String := none
  clientKey : Option String := none
  alpn : Option String := none
  sni : Option String := none
  queueDepth : UInt64 := 10
  deriving DecidableEq, Inhabited

structure BleSettings where
  deviceName : String := "UICC-Bridge"
  acquireTimeoutMs : UInt64 := 5000
  chunkIntervalMs : UInt64 := 0
  reassemblyCapacity : UInt64 := 2048
  transreceiveCapacity : UInt64 := 512
  localMtu : UInt16 := 512
  queueDepth : UInt64 := 10
  deriving DecidableEq, Inhabited

structure Settings where
  defaultLink : LinkKind := .cellular
  features : Features := {}
  wifi : WifiSettings := {}
  cellular : CellularSettings := {}
  mqtt : MqttSettings := {}
  ble : BleSettings := {}
  deriving DecidableEq, Inhabited

/-! ## Validity -/

/-- A rule that settings can break. -/
inductive SettingsFault where
  | wifiRetries
  | cellularRetries
  | apnMissing
  | brokerMissing
  | mqttRetries
  | defaultWifiDisabled
  | defaultCellularDisabled
  | reassemblyTooSmall
  | queueDepth
  deriving DecidableEq

def SettingsFault.message : SettingsFault → String
  | .wifiRetries => "wifi.max_retries must be at least 1"
  | .cellularRetries => "cellular.max_retries must be at least 1"
  | .apnMissing => "cellular.apn must be set"
  | .brokerMissing => "mqtt.broker must be set"
  | .mqttRetries => "mqtt retry counts must be at least 1"
  | .defaultWifiDisabled => "default_io is wifi but wifi is disabled"
  | .defaultCellularDisabled => "default_io is cellular but cellular is disabled"
  | .reassemblyTooSmall => "ble.reassembly_capacity must hold at least one chunk"
  | .queueDepth => "queue depths must be at least 1"

namespace Settings

/-- The rules in the order in which they are looked at, each with the condition that breaks it.
The retry and name rules bind enabled sections only. -/
def rules (s : Settings) : List (Bool × SettingsFault) :=
  [ (s.features.wifi && s.wifi.maxRetries == 0, .wifiRetries),
    (s.features.cellular && s.cellular.maxRetries == 0, .cellularRetries),
    (s.features.cellular && s.cellular.apn == "", .apnMissing),
    (s.features.mqtt && s.mqtt.broker == "", .brokerMissing),
    (s.features.mqtt && (s.mqtt.maxRetries == 0 || s.mqtt.subscribeRetries == 0), .mqttRetries),
    (s.defaultLink == .wifi && !s.features.wifi, .defaultWifiDisabled),
    (s.defaultLink == .cellular && !s.features.cellular, .defaultCellularDisabled),
    (s.ble.reassemblyCapacity < s.ble.transreceiveCapacity, .reassemblyTooSmall),
    (s.ble.queueDepth == 0 || s.mqtt.queueDepth == 0, .queueDepth) ]

/-- The first rule that is broken. -/
def fault? (s : Settings) : Option SettingsFault :=
  (s.rules.find? (·.1)).map (·.2)

end Settings

/-! ## What tasks take from their section -/

/-- Certificates and the names that go with them, handed to the client library as they are. -/
structure TlsMaterial where
  rootCa : Option String
  clientCert : Option String
  clientKey : Option String
  alpn : Option String
  sni : Option String
  deriving DecidableEq, Inhabited

def WifiSettings.retryPolicy (s : WifiSettings) : RetryPolicy :=
  ⟨s.maxRetries.toNat, s.retryIntervalMs.toNat⟩

def CellularSettings.retryPolicy (s : CellularSettings) : RetryPolicy :=
  ⟨s.maxRetries.toNat, s.retryIntervalMs.toNat⟩

def MqttSettings.retryPolicy (s : MqttSettings) : RetryPolicy :=
  ⟨s.maxRetries.toNat, s.retryIntervalMs.toNat⟩

/-- The material, if a certificate or a key is among it. -/
def MqttSettings.tls (s : MqttSettings) : Option TlsMaterial :=
  if s.rootCa.isSome || s.clientCert.isSome || s.clientKey.isSome then
    some ⟨s.rootCa, s.clientCert, s.clientKey, s.alpn, s.sni⟩
  else none

/-- Longest port name and its terminator. -/
def portValueCapacity : Nat := 33

/-- What the modem bridge is set up with. -/
structure BridgeSettings where
  acquireTimeout : Nat
  chunkInterval : Nat
  reassemblyCapacity : Nat
  portNameMax : Nat
  deriving DecidableEq, Inhabited

def BleSettings.bridge (s : BleSettings) : BridgeSettings :=
  ⟨s.acquireTimeoutMs.toNat, s.chunkIntervalMs.toNat, s.reassemblyCapacity.toNat,
    portValueCapacity - 1⟩

end EdgeGateway
