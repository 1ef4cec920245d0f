import SleepySensor.Lib.CharConv
import SleepySensor.SecretsText
import SleepySensor.ThreadLink

/-!
# The transport of a boot, and the Wi-Fi link

What `app_main` takes from the secrets to reach its broker and what it refuses,
and `wifi_link.cpp` behind its `NetworkLink`, over every run of Wi-Fi and IP
events.
-/

set_option autoImplicit false

namespace SleepySensor.WifiLink

open SleepySensor.SecretsText (Text yamlGetString)
open SleepySensor.ThreadLink (looksLikeIpv6 mqttScheme bracketed)

/-! ## `app_main` -/

inductive TransportKind where
  | thread
  | wifi
  deriving DecidableEq, Repr

inductive AddressFamily where
  | ipv4
  | ipv6
  deriving DecidableEq, Repr

inductive Refusal where
  | missingOtTlv
  | missingWifiSsid
  | familyMismatch
  deriving DecidableEq, Repr

structure NetworkSettings where
  transport : TransportKind
  otTlv : Text
  wifiSsid : Text
  wifiPassword : Text
  wifiAddressFamily : AddressFamily
  mqttBrokerAddress : Text
  mqttPort : Nat
  mqttTls : Bool
  deriving DecidableEq, Repr

def uint16Mod : Nat := 65536

/-- `std::from_chars` into a port of 1883, its result not looked at. -/
def mqttPortOf (text : Text) : Nat :=
  if text = [] then 1883
  else
    let read := CharConv.fromChars uint16Mod text
    if read.ec = none then read.value else 1883

section AppMain

variable (yaml : Text)

/-- An empty or unknown name falls back to the first. -/
def transportKind : TransportKind :=
  if yamlGetString yaml "transport".toList = "wifi".toList then .wifi else .thread

def wifiAddressFamily : AddressFamily :=
  if yamlGetString yaml "wifi_address_family".toList = "ipv6".toList then .ipv6 else .ipv4

def readSettings : NetworkSettings where
  transport := transportKind yaml
  otTlv := yamlGetString yaml "ot_tlv".toList
  wifiSsid := yamlGetString yaml "wifi_ssid".toList
  wifiPassword := yamlGetString yaml "wifi_password".toList
  wifiAddressFamily := wifiAddressFamily yaml
  mqttBrokerAddress := yamlGetString yaml "mqtt_broker_address".toList
  mqttPort := mqttPortOf (yamlGetString yaml "mqtt_port".toList)
  mqttTls := yamlGetString yaml "mqtt_tls".toList = "true".toList

/-- The checks of `app_main`, in its order. -/
def networkSettings : Except Refusal NetworkSettings :=
  let settings := readSettings yaml
  if settings.transport = .thread ∧ settings.otTlv = [] then .error .missingOtTlv
  else if settings.transport = .wifi ∧ settings.wifiSsid = [] then .error .missingWifiSsid
  else if settings.transport = .wifi ∧
      looksLikeIpv6 settings.mqttBrokerAddress ≠ decide (settings.wifiAddressFamily = .ipv6) then
    .error .familyMismatch
  else .ok settings

end AppMain

/-! ## `wifi_link.cpp` -/

inductive WifiEvent where
  | staStart
  | staConnected
  | staDisconnected
  | otherWifi
  | staGotIp
  | gotIp6
  | otherIp
  deriving DecidableEq, Repr

inductive WifiCall where
  | connect
  | dhcpcStop
  | createIp6Linklocal
  deriving DecidableEq, Repr

structure AddressBits where
  gotIpv4 : Bool := false
  gotIpv6 : Bool := false
  deriving DecidableEq, Repr

/-- The statics; an event group that is not there is `none`. -/
structure Link where
  family : AddressFamily
  eg : Option AddressBits
  deriving DecidableEq, Repr

def AddressBits.clear (bits : AddressBits) : AddressFamily → AddressBits
  | .ipv4 => { bits with gotIpv4 := false }
  | .ipv6 => { bits with gotIpv6 := false }

def AddressBits.has (bits : AddressBits) : AddressFamily → Bool
  | .ipv4 => bits.gotIpv4
  | .ipv6 => bits.gotIpv6

def wifiEventHandler (event : WifiEvent) (link : Link) : List WifiCall × Link :=
  match event with
  | .staStart => ([.connect], link)
  | .staConnected =>
    match link.family with
    | .ipv6 => ([.dhcpcStop, .createIp6Linklocal], link)
    | .ipv4 => ([], link)
  | .staDisconnected =>
    ([.connect], { link with eg := link.eg.map fun bits => bits.clear link.family })
  | .staGotIp => ([], { link with eg := link.eg.map fun bits => { bits with gotIpv4 := true } })
  | .gotIp6 => ([], { link with eg := link.eg.map fun bits => { bits with gotIpv6 := true } })
  | .otherWifi | .otherIp => ([], link)

def start (settings : NetworkSettings) (group : Bool) : Link :=
  { family := settings.wifiAddressFamily, eg := if group then some {} else none }

def Link.run (link : Link) (history : List WifiEvent) : Link :=
  history.foldl (fun link event => (wifiEventHandler event link).2) link

/-- What `waitForWifiReady` answers as its wait ends. -/
def waitForWifiReady (link : Link) : Bool := link.eg.any fun bits => bits.has link.family

/-! ## What the link answers -/

def familyOf (address : Text) : AddressFamily := if looksLikeIpv6 address then .ipv6 else .ipv4

def WifiEvent.gives (event : WifiEvent) : AddressFamily → Bool
  | .ipv4 => event = .staGotIp
  | .ipv6 => event = .gotIp6

/-- What an event says of the family's address: there, or gone. -/
def WifiEvent.address? (family : AddressFamily) (event : WifiEvent) : Option Bool :=
  if event.gives family then some true
  else if event = .staDisconnected then some false else none

theorem networkSettings_ok_iff (yaml : Text) (settings : NetworkSettings) :
    networkSettings yaml = .ok settings ↔
      settings = readSettings yaml ∧
        (settings.transport = .thread → settings.otTlv ≠ []) ∧
          (settings.transport = .wifi → settings.wifiSsid ≠ [] ∧
            settings.wifiAddressFamily = familyOf settings.mqttBrokerAddress) := by
  have family : ∀ settings : NetworkSettings,
      settings.wifiAddressFamily = familyOf settings.mqttBrokerAddress ↔
        looksLikeIpv6 settings.mqttBrokerAddress = decide (settings.wifiAddressFamily = .ipv6) := by
    intro settings
    unfold familyOf
    cases settings.wifiAddressFamily <;> cases looksLikeIpv6 settings.mqttBrokerAddress <;> decide
  unfold networkSettings
  dsimp only
  constructor
  · intro goesOn
    split at goesOn
    · cases goesOn
    · split at goesOn
      · cases goesOn
      · split at goesOn
        · cases goesOn
        · obtain rfl := Except.ok.inj goesOn
          rename_i noTlv noSsid agrees
          refine ⟨rfl, fun thread none_ => noTlv ⟨thread, none_⟩, fun wifi => ⟨?_, ?_⟩⟩
          · exact fun none_ => noSsid ⟨wifi, none_⟩
          · exact (family _).mpr (not_not.mp fun other => agrees ⟨wifi, other⟩)
  · rintro ⟨rfl, thread, wifi⟩
    rw [if_neg, if_neg, if_neg]
    · rintro ⟨isWifi, other⟩
      exact other ((family _).mp (wifi isWifi).2)
    · rintro ⟨isWifi, none_⟩
      exact (wifi isWifi).1 none_
    · rintro ⟨isThread, none_⟩
      exact thread isThread none_

section Runs

variable (family : AddressFamily)

theorem handler_has (event : WifiEvent) (bits : AddressBits) :
    ∃ after, (wifiEventHandler event { family := family, eg := some bits }).2 =
        { family := family, eg := some after } ∧
      after.has family = (event.address? family).getD (bits.has family) := by
  cases family <;> cases event <;> exact ⟨_, rfl, rfl⟩

/-- The bit of the family is what the last event that speaks of it says. -/
theorem run_has (history : List WifiEvent) :
    ∃ bits, ({ family := family, eg := some {} } : Link).run history =
        { family := family, eg := some bits } ∧
      bits.has family = (latest (WifiEvent.address? family) history).getD false := by
  induction history using List.reverseRecOn with
  | nil => exact ⟨{}, rfl, by cases family <;> rfl⟩
  | append_singleton history event ih =>
    obtain ⟨bits, ran, has⟩ := ih
    obtain ⟨after, handled, told⟩ := handler_has family event bits
    refine ⟨after, ?_, ?_⟩
    · rw [Link.run, List.foldl_concat]
      exact (congrArg (fun link => (wifiEventHandler event link).2) ran).trans handled
    · rw [told, has, latest_concat]
      cases event.address? family <;> rfl

/-- An address is there when one came and no disconnect after it. -/
theorem latest_address_iff (history : List WifiEvent) :
    (latest (WifiEvent.address? family) history).getD false = true ↔
      ∃ past event later, history = past ++ event :: later ∧ event.gives family = true ∧
        .staDisconnected ∉ later := by
  have brings : ∀ event : WifiEvent,
      event.address? family = some true ↔ event.gives family = true := by
    intro event
    cases family <;> cases event <;> decide
  have gone : ∀ event : WifiEvent,
      event.address? family = some false ↔ event = .staDisconnected := by
    intro event
    cases family <;> cases event <;> decide
  rw [latest_getD_iff]
  simp only [brings, ne_eq, gone]
  constructor
  · rintro ⟨past, event, later, cut, gives, kept⟩
    exact ⟨past, event, later, cut, gives, fun listed => kept _ listed rfl⟩
  · rintro ⟨past, event, later, cut, gives, kept⟩
    exact ⟨past, event, later, cut, gives, fun next listed same => kept (same ▸ listed)⟩

end Runs

/-- On Wi-Fi, a device whose boot goes on is ready exactly while it has an address
of its broker's family: one came, and no disconnect after it. -/
theorem waitForWifiReady_iff {yaml : Text} {settings : NetworkSettings}
    (boots : networkSettings yaml = .ok settings) (wifi : settings.transport = .wifi)
    (history : List WifiEvent) :
    waitForWifiReady ((start settings true).run history) = true ↔
      ∃ past event later, history = past ++ event :: later ∧
        event.gives (familyOf settings.mqttBrokerAddress) = true ∧ .staDisconnected ∉ later := by
  obtain ⟨-, -, needs⟩ := (networkSettings_ok_iff yaml settings).mp boots
  obtain ⟨bits, ran, has⟩ := run_has settings.wifiAddressFamily history
  rw [← (needs wifi).2, ← latest_address_iff, ← has]
  show Option.any _ (Link.eg (Link.run _ history)) = true ↔ _
  rw [start, if_pos rfl, ran]
  rfl

/-- A broker with an IPv6 literal, on Wi-Fi. -/
def ipv6Yaml : Text :=
  ("transport: \"wifi\"\nwifi_ssid: \"home\"\nwifi_address_family: \"ipv6\"\n" ++
    "mqtt_broker_address: \"fd00::1\"\n").toList

theorem ipv6Yaml_reads :
    yamlGetString ipv6Yaml "transport".toList = "wifi".toList ∧
      yamlGetString ipv6Yaml "wifi_ssid".toList = "home".toList ∧
        yamlGetString ipv6Yaml "wifi_address_family".toList = "ipv6".toList ∧
          yamlGetString ipv6Yaml "mqtt_broker_address".toList = "fd00::1".toList := by
  refine ⟨?_, ?_, ?_, ?_⟩
  all_goals
    rw [SecretsText.yamlGetString_eq (by decide)]
    decide

theorem ipv6Yaml_goes_on :
    networkSettings ipv6Yaml = .ok (readSettings ipv6Yaml) ∧
      (readSettings ipv6Yaml).transport = .wifi ∧
        (readSettings ipv6Yaml).mqttBrokerAddress = "fd00::1".toList := by
  obtain ⟨transport, ssid, family, broker⟩ := ipv6Yaml_reads
  have wifi : (readSettings ipv6Yaml).transport = .wifi := if_pos transport
  have ipv6 : (readSettings ipv6Yaml).wifiAddressFamily = .ipv6 := if_pos family
  refine ⟨(networkSettings_ok_iff _ _).mpr ⟨rfl, ?_, fun _ => ⟨?_, ?_⟩⟩, wifi, broker⟩
  · intro thread
    rw [wifi] at thread
    cases thread
  · show yamlGetString ipv6Yaml "wifi_ssid".toList ≠ []
    rw [ssid]
    decide
  · rw [ipv6]
    show _ = familyOf (yamlGetString ipv6Yaml "mqtt_broker_address".toList)
    rw [broker]
    rfl

/-- An IPv4 address comes before the IPv6 one. -/
def bothAddresses : List WifiEvent := [.staStart, .staConnected, .staGotIp, .gotIp6]

theorem waitForWifiReady_iff_ipv6 :
    (waitForWifiReady ((start (readSettings ipv6Yaml) true).run bothAddresses) = true ↔
      ∃ past event later, bothAddresses = past ++ event :: later ∧
        event.gives (familyOf (readSettings ipv6Yaml).mqttBrokerAddress) = true ∧
          .staDisconnected ∉ later) ∧
      familyOf "fd00::1".toList = .ipv6 :=
  ⟨waitForWifiReady_iff ipv6Yaml_goes_on.1 ipv6Yaml_goes_on.2.1 bothAddresses, rfl⟩

end SleepySensor.WifiLink
