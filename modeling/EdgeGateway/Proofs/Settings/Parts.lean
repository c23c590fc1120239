import EdgeGateway.Proofs.Json.Written
import EdgeGateway.Proofs.Settings.Records

/-!
# EdgeGateway.Proofs.Settings.Parts

Settings files of which only a part is left, and whole ones.

* `Settings.overlay`  : settings over the defaults, where the keys are kept.
* `Settings.Section`  : the sections, with what is kept of each.
* `Settings.IsPart`   : the files that hold just the kept fields, in any order, with unknown keys
  among them.
* `Settings.parse_part`   : such a file is read as the overlay, and checked as that.
* `Settings.parse_render` : a written file is read as the settings it was written for.
-/

namespace EdgeGateway

/-! ## Overlays -/

def Features.overlay (s : Features) (kept : String → Bool) : Features where
  wifi := if kept "wifi" then s.wifi else ({} : Features).wifi
  cellular := if kept "cellular" then s.cellular else ({} : Features).cellular
  mqtt := if kept "mqtt" then s.mqtt else ({} : Features).mqtt
  bleModem := if kept "ble_modem" then s.bleModem else ({} : Features).bleModem
  console := if kept "console" then s.console else ({} : Features).console

def WifiSettings.overlay (s : WifiSettings) (kept : String → Bool) : WifiSettings where
  ssid := if kept "ssid" then s.ssid else ({} : WifiSettings).ssid
  password := if kept "password" then s.password else ({} : WifiSettings).password
  security := if kept "security" then s.security else ({} : WifiSettings).security
  maxRetries := if kept "max_retries" then s.maxRetries else ({} : WifiSettings).maxRetries
  retryIntervalMs :=
    if kept "retry_interval_ms" then s.retryIntervalMs else ({} : WifiSettings).retryIntervalMs
  connectTimeoutMs :=
    if kept "connect_timeout_ms" then s.connectTimeoutMs else ({} : WifiSettings).connectTimeoutMs

def CellularSettings.overlay (s : CellularSettings) (kept : String → Bool) : CellularSettings where
  apn := if kept "apn" then s.apn else ({} : CellularSettings).apn
  username := if kept "username" then s.username else ({} : CellularSettings).username
  password := if kept "password" then s.password else ({} : CellularSettings).password
  auth := if kept "auth" then s.auth else ({} : CellularSettings).auth
  maxRetries := if kept "max_retries" then s.maxRetries else ({} : CellularSettings).maxRetries
  retryIntervalMs :=
    if kept "retry_interval_ms" then s.retryIntervalMs
    else ({} : CellularSettings).retryIntervalMs
  connectTimeoutMs :=
    if kept "connect_timeout_ms" then s.connectTimeoutMs
    else ({} : CellularSettings).connectTimeoutMs
  disconnectTimeoutMs :=
    if kept "disconnect_timeout_ms" then s.disconnectTimeoutMs
    else ({} : CellularSettings).disconnectTimeoutMs

def MqttSettings.overlay (s : MqttSettings) (kept : String → Bool) : MqttSettings where
  broker := if kept "broker" then s.broker else ({} : MqttSettings).broker
  port := if kept "port" then s.port else ({} : MqttSettings).port
  clientName := if kept "client_id_prefix" then s.clientName else ({} : MqttSettings).clientName
  uniqueClientId :=
    if kept "unique_client_id" then s.uniqueClientId else ({} : MqttSettings).uniqueClientId
  username := if kept "username" then s.username else ({} : MqttSettings).username
  password := if kept "password" then s.password else ({} : MqttSettings).password
  keepAliveSecs :=
    if kept "keep_alive_secs" then s.keepAliveSecs else ({} : MqttSettings).keepAliveSecs
  timeoutMs := if kept "timeout_ms" then s.timeoutMs else ({} : MqttSettings).timeoutMs
  maxRetries := if kept "max_retries" then s.maxRetries else ({} : MqttSettings).maxRetries
  retryIntervalMs :=
    if kept "retry_interval_ms" then s.retryIntervalMs else ({} : MqttSettings).retryIntervalMs
  topic := if kept "topic" then s.topic else ({} : MqttSettings).topic
  qos := if kept "qos" then s.qos else ({} : MqttSettings).qos
  onMessage := if kept "on_message" then s.onMessage else ({} : MqttSettings).onMessage
  offMessage := if kept "off_message" then s.offMessage else ({} : MqttSettings).offMessage
  subscribeRetries :=
    if kept "subscribe_retries" then s.subscribeRetries else ({} : MqttSettings).subscribeRetries
  subscribeIntervalMs :=
    if kept "subscribe_interval_ms" then s.subscribeIntervalMs
    else ({} : MqttSettings).subscribeIntervalMs
  rootCa := if kept "root_ca" then s.rootCa else ({} : MqttSettings).rootCa
  clientCert := if kept "client_cert" then s.clientCert else ({} : MqttSettings).clientCert
  clientKey := if kept "client_key" then s.clientKey else ({} : MqttSettings).clientKey
  alpn := if kept "alpn" then s.alpn else ({} : MqttSettings).alpn
  sni := if kept "sni" then s.sni else ({} : MqttSettings).sni
  queueDepth := if kept "queue_depth" then s.queueDepth else ({} : MqttSettings).queueDepth

def BleSettings.overlay (s : BleSettings) (kept : String → Bool) : BleSettings where
  deviceName := if kept "device_name" then s.deviceName else ({} : BleSettings).deviceName
  acquireTimeoutMs :=
    if kept "acquire_timeout_ms" then s.acquireTimeoutMs else ({} : BleSettings).acquireTimeoutMs
  chunkIntervalMs :=
    if kept "chunk_interval_ms" then s.chunkIntervalMs else ({} : BleSettings).chunkIntervalMs
  reassemblyCapacity :=
    if kept "reassembly_capacity" then s.reassemblyCapacity
    else ({} : BleSettings).reassemblyCapacity
  transreceiveCapacity :=
    if kept "transreceive_capacity" then s.transreceiveCapacity
    else ({} : BleSettings).transreceiveCapacity
  localMtu := if kept "local_mtu" then s.localMtu else ({} : BleSettings).localMtu
  queueDepth := if kept "queue_depth" then s.queueDepth else ({} : BleSettings).queueDepth

namespace Settings

/-- The settings where the section and the field in it are kept (`within` takes the key of the
section first), the defaults elsewhere. -/
def overlay (s : Settings) (within : String → String → Bool) (kept : String → Bool) :
    Settings where
  defaultLink := if kept "default_io" then s.defaultLink else ({} : Settings).defaultLink
  features := if kept "features" then s.features.overlay (within "features") else {}
  wifi := if kept "wifi" then s.wifi.overlay (within "wifi") else {}
  cellular := if kept "cellular" then s.cellular.overlay (within "cellular") else {}
  mqtt := if kept "mqtt" then s.mqtt.overlay (within "mqtt") else {}
  ble := if kept "ble" then s.ble.overlay (within "ble") else {}

/-- A file that holds the kept part of the settings: of each section that is kept the kept fields,
in both places in any order and with unknown keys among them. -/
def IsPart (s : Settings) (within : String → String → Bool) (kept : String → Bool)
    (file : Json) : Prop :=
  ∃ features wifi cellular mqtt ble : Json,
    Keeps (within "features") (featuresToJson s.features) features ∧
    Keeps (within "wifi") (wifiToJson s.wifi) wifi ∧
    Keeps (within "cellular") (cellularToJson s.cellular) cellular ∧
    Keeps (within "mqtt") (mqttToJson s.mqtt) mqtt ∧
    Keeps (within "ble") (bleToJson s.ble) ble ∧
    Keeps kept
      (record
        [ ("default_io", nameOf linkKindNames s.defaultLink), ("features", features),
          ("wifi", wifi), ("cellular", cellular), ("mqtt", mqtt), ("ble", ble) ]) file

/-! ## Sections -/

/-- The sections of a file. -/
inductive Section where
  | features
  | wifi
  | cellular
  | mqtt
  | ble

namespace Section

/-- The settings of a section. -/
abbrev Contents : Section → Type
  | features => Features
  | wifi => WifiSettings
  | cellular => CellularSettings
  | mqtt => MqttSettings
  | ble => BleSettings

def fields : (part : Section) → List (Field part.Contents)
  | features => featureFields
  | wifi => wifiFields
  | cellular => cellularFields
  | mqtt => mqttFields
  | ble => bleFields

def defaults : (part : Section) → part.Contents
  | features => {}
  | wifi => {}
  | cellular => {}
  | mqtt => {}
  | ble => {}

def toJson : (part : Section) → part.Contents → Json
  | features => featuresToJson
  | wifi => wifiToJson
  | cellular => cellularToJson
  | mqtt => mqttToJson
  | ble => bleToJson

def overlay : (part : Section) → part.Contents → (String → Bool) → part.Contents
  | features => Features.overlay
  | wifi => WifiSettings.overlay
  | cellular => CellularSettings.overlay
  | mqtt => MqttSettings.overlay
  | ble => BleSettings.overlay

/-- What is kept of a section overlays its defaults. -/
theorem readRecord (part : Section) {s : part.Contents} {kept : String → Bool} {file : Json}
    (h : Keeps kept (part.toJson s) file) :
    Settings.readRecord part.fields part.defaults file = some (part.overlay s kept) := by
  cases part
  all_goals
    refine Overlays.readRecord ?_ h
    refine ⟨by simp, rfl, ?_, ?_⟩
    · simp [fields, featureFields, wifiFields, cellularFields, mqttFields, bleFields, overlay,
        Features.overlay, WifiSettings.overlay, CellularSettings.overlay, MqttSettings.overlay,
        BleSettings.overlay]
    · intro kept kept' heq
      simp only [List.forall_mem_cons] at heq
      simp [overlay, Features.overlay, WifiSettings.overlay, CellularSettings.overlay,
        MqttSettings.overlay, BleSettings.overlay, heq]

end Section

/-! ## Files -/

theorem ofJson?_part {s : Settings} {within : String → String → Bool} {kept : String → Bool}
    {file : Json} (h : s.IsPart within kept file) :
    ofJson? file = some (s.overlay within kept) := by
  obtain ⟨features, wifi, cellular, mqtt, ble, hfeatures, hwifi, hcellular, hmqtt, hble, h⟩ := h
  refine Overlays.readRecord ?_ h
  refine ⟨by simp, rfl, ?_, ?_⟩
  · have hfeatures := Section.readRecord .features hfeatures
    have hwifi := Section.readRecord .wifi hwifi
    have hcellular := Section.readRecord .cellular hcellular
    have hmqtt := Section.readRecord .mqtt hmqtt
    have hble := Section.readRecord .ble hble
    dsimp only [Section.fields, Section.defaults, Section.overlay]
      at hfeatures hwifi hcellular hmqtt hble
    simp [sectionFields, overlay, hfeatures, hwifi, hcellular, hmqtt, hble]
  · intro kept kept' heq
    simp only [List.forall_mem_cons] at heq
    simp [overlay, heq]

/-- A file that holds a part of some settings, in whatever way it is written down, stands for these
settings over the defaults, and is taken or refused as they are. -/
theorem parse_part {s : Settings} {within : String → String → Bool} {kept : String → Bool}
    {file : Json} {text : String} (h : s.IsPart within kept file)
    (ht : Json.IsText file text.toList) :
    parse text =
      match (s.overlay within kept).fault? with
      | none => .ok (s.overlay within kept)
      | some fault => .error (.invalid fault) := by
  have hread : read? text = some (s.overlay within kept) := by
    rw [read?, Json.parse?_of_isText ht, Option.bind_some, ofJson?_part h]
  simp only [parse, hread, checked]
  cases (s.overlay within kept).fault? <;> rfl

/-- A file with the sections the other way round, a null where the default is no null, and keys
that mean nothing. -/
theorem parse_part_reordered :
    let s : Settings :=
      { defaultLink := .wifi, cellular := { apn := "internet", connectTimeoutMs := none } }
    let within : String → String → Bool := fun _ key => key == "connect_timeout_ms"
    let kept : String → Bool := fun key => key == "default_io" || key == "cellular"
    let file := record
      [ ("version", .array [.number ⟨true, 2, false⟩]),
        ("cellular", record [("roaming", .null), ("connect_timeout_ms", .null)]),
        ("default_io", .ofString "wifi") ]
    s.IsPart within kept file ∧ Json.IsText file file.render.toList ∧
      parse file.render =
        .ok { defaultLink := .wifi, cellular := { connectTimeoutMs := none } } := by
  intro s within kept file
  have hcellular : Keeps (within "cellular") (cellularToJson s.cellular)
      (record [("roaming", .null), ("connect_timeout_ms", .null)]) := by
    refine ⟨_, [("roaming", .null)], _, rfl, by simp, ?_, rfl⟩
    exact List.Perm.swap _ _ _
  have hfile : s.IsPart within kept file := by
    refine ⟨_, _, _, _, _, keeps_filter _ _, keeps_filter _ _, hcellular, keeps_filter _ _,
      keeps_filter _ _, _, [("version", .array [.number ⟨true, 2, false⟩])], _, rfl, by simp, ?_,
      rfl⟩
    exact (List.Perm.swap _ _ _).trans (.trans (.cons _ (.swap _ _ _)) (.swap _ _ _))
  have htext := Json.isText_render file
  exact ⟨hfile, htext, parse_part hfile htext⟩

theorem isPart_toJson (s : Settings) : s.IsPart (fun _ _ => true) (fun _ => true) s.toJson :=
  ⟨_, _, _, _, _, keeps_all _, keeps_all _, keeps_all _, keeps_all _, keeps_all _, keeps_all _⟩

theorem overlay_all (s : Settings) : s.overlay (fun _ _ => true) (fun _ => true) = s := rfl

/-- What is written for valid settings is read as these settings. -/
theorem parse_render {s : Settings} (h : s.fault? = none) : parse s.render = .ok s := by
  have hread : read? s.render = some s := by
    rw [read?, render, Json.parse?_of_isText (Json.isText_render s.toJson), Option.bind_some,
      ofJson?_part (isPart_toJson s), overlay_all]
  simp only [parse, hread, checked, h]

/-- Characters that need escapes and some that need none, the largest number, and a null where the
default is no null. -/
theorem parse_render_awkward :
    let s : Settings :=
      { wifi := { ssid := "caf\u00e9 \"5\\6\"\n\u0001" }, mqtt := { rootCa := some "" },
        cellular := { connectTimeoutMs := none }, ble := { queueDepth := 18446744073709551615 } }
    s.fault? = none ∧ parse s.render = .ok s :=
  ⟨by decide, parse_render (by decide)⟩

end Settings

end EdgeGateway
