import SleepySensor.Ipv4
import SleepySensor.MqttSender
import SleepySensor.Lib.Latest

/-!
# The Thread link

`openthread_link.cpp` behind its `NetworkLink`: what the callbacks of OpenThread
and the calls of the tasks leave in its statics, and what it answers from them.
Each call takes effect at once; the poll period is apart, with the publish cycle.
-/

set_option autoImplicit false

namespace SleepySensor.ThreadLink

inductive Role where
  | disabled
  | detached
  | child
  | router
  | leader
  deriving DecidableEq, Repr

def Role.attached : Role → Bool
  | .disabled | .detached => false
  | .child | .router | .leader => true

/-- An external route: the 16 bytes of its prefix, and how many bits count. -/
structure Route where
  prefix16 : List UInt8
  length : Nat
  nat64 : Bool
  whole : prefix16.length = 16
  deriving DecidableEq, Repr

/-- What OpenThread reports of a signal, in dBm. -/
abbrev Rssi := { value : Int // -128 ≤ value ∧ value ≤ 127 }

def uplinkRssiNone : Int := -32768

structure PrefixBits where
  prefixKnown : Bool := false
  routeKnown : Bool := false
  deriving DecidableEq, Repr

structure CounterSnapshot where
  radioTxTimeUs : Nat := 0
  radioRxTimeUs : Nat := 0
  txRetries : Nat := 0
  txCcaFailures : Nat := 0
  txNoAckExpiry : Nat := 0
  valid : Bool := false
  deriving DecidableEq, Repr

def wellKnownPrefix : List UInt8 := [0x00, 0x64, 0xff, 0x9b, 0, 0, 0, 0, 0, 0, 0, 0]

/-- The statics; an event group that is not there is `none`. -/
structure Link where
  attachedEg : Option Bool := none
  prefixEg : Option PrefixBits := none
  nat64Prefix : List UInt8 := wellKnownPrefix
  uplinkRssiDbm : Int := uplinkRssiNone
  prevCounters : CounterSnapshot := {}
  deriving DecidableEq, Repr

/-- `start`, as far as OpenThread starts; whether the event groups are created. -/
def start (attached prefixes : Bool) : Link :=
  { attachedEg := if attached then some false else none
    prefixEg := if prefixes then some {} else none }

def setNat64Prefix (route : Route) (link : Link) : Link :=
  { link with
    nat64Prefix := route.prefix16.take 12
    prefixEg := link.prefixEg.map fun bits => { bits with prefixKnown := true } }

def Route.isNat64 (route : Route) : Bool := route.nat64 && decide (route.length = 96)

/-- The loop over the routes, in `log_thread_network_info` and `refresh_nat64_prefix` alike. -/
def scanRoutes (routes : List Route) (link : Link) : Link :=
  let link := routes.foldl
    (fun link route => if route.isNat64 then setNat64Prefix route link else link) link
  if routes = [] then link
  else { link with prefixEg := link.prefixEg.map fun bits => { bits with routeKnown := true } }

/-- `process_state_change`; the routes are those in the network data at the time. -/
def processStateChange (role : Role) (routes : List Route) (link : Link) : Link :=
  match role with
  | .disabled | .detached => { link with attachedEg := link.attachedEg.map fun _ => false }
  | .child =>
    let link := scanRoutes routes link
    { link with uplinkRssiDbm := uplinkRssiNone, attachedEg := link.attachedEg.map fun _ => true }
  | .router | .leader => { link with attachedEg := link.attachedEg.map fun _ => true }

/-- `enh_ack_report_cb`; the metrics may be absent, or be without an RSSI. -/
def enhAckReport (rssi : Option Rssi) (link : Link) : Link :=
  match rssi with
  | some value => { link with uplinkRssiDbm := value.val }
  | none => link

/-! ## `read_link_stats` -/

structure RadioTime where
  txTime : Nat
  rxTime : Nat

structure MacCounters where
  txRetry : Nat
  txErrCca : Nat
  txDirectMaxRetryExpiry : Nat

/-- What OpenThread answers to one read. -/
structure Reading where
  rssi : Option Rssi
  linkQualityOut : Option Nat
  radio : Option RadioTime
  mac : Option MacCounters

/-- The link telemetry of a Thread node. -/
structure ThreadStats extends LinkStats where
  linkQualityOut : Option Nat := none
  txNoAckExpiry : Option Nat := none
  deriving DecidableEq, Repr

def Reading.counters (reading : Reading) : CounterSnapshot :=
  { radioTxTimeUs := reading.radio.elim 0 RadioTime.txTime
    radioRxTimeUs := reading.radio.elim 0 RadioTime.rxTime
    txRetries := reading.mac.elim 0 MacCounters.txRetry
    txCcaFailures := reading.mac.elim 0 MacCounters.txErrCca
    txNoAckExpiry := reading.mac.elim 0 MacCounters.txDirectMaxRetryExpiry
    valid := true }

/-- The difference of two 64-bit counters, cut down to 32 bits. -/
def u64Delta (now before : Nat) : Nat := u32 ((now + 2 ^ 64 - before) % 2 ^ 64)

def Link.stats (link : Link) (reading : Reading) : ThreadStats :=
  let now := reading.counters
  let before := link.prevCounters
  let radio := before.valid && reading.radio.isSome
  let mac := before.valid && reading.mac.isSome
  { rssiDbm := reading.rssi.map Subtype.val
    uplinkRssiDbm := if link.uplinkRssiDbm ≠ uplinkRssiNone then some link.uplinkRssiDbm else none
    linkQualityOut := reading.linkQualityOut
    radioTxTimeUs := if radio then some (u64Delta now.radioTxTimeUs before.radioTxTimeUs) else none
    radioRxTimeUs := if radio then some (u64Delta now.radioRxTimeUs before.radioRxTimeUs) else none
    txRetries := if mac then some (u32Sub now.txRetries before.txRetries) else none
    txCcaFailures := if mac then some (u32Sub now.txCcaFailures before.txCcaFailures) else none
    txNoAckExpiry := if mac then some (u32Sub now.txNoAckExpiry before.txNoAckExpiry) else none }

def readLinkStats (reading : Reading) (link : Link) : Option ThreadStats × Link :=
  let stats := link.stats reading
  (if stats.rssiDbm.isNone && stats.linkQualityOut.isNone && stats.radioTxTimeUs.isNone then none
    else some stats,
    { link with prevCounters := reading.counters })

/-! ## Reaching the broker -/

def looksLikeIpv6 (address : List Char) : Bool := address.contains ':'

def mqttScheme (useTls : Bool) : List Char := if useTls then "mqtts".toList else "mqtt".toList

/-- What `wait_for_ot_attached` answers as its wait ends. -/
def waitForOtAttached (link : Link) : Bool := link.attachedEg.getD false

/-- What `waitForBrokerReachable` answers as its wait ends. -/
def waitForBrokerReachable (brokerAddress : List Char) (link : Link) : Bool :=
  if looksLikeIpv6 brokerAddress then link.prefixEg.any PrefixBits.routeKnown
  else link.prefixEg.any PrefixBits.prefixKnown

def bracketed (useTls : Bool) (host : List Char) (port : Nat) : List Char :=
  mqttScheme useTls ++ "://[".toList ++ host ++ "]:".toList ++ Nat.toDigits 10 port

section Uri

-- `otIp6AddressToString` of the 16 bytes of an address.
variable (ip6Text : List UInt8 → List Char)

/-- Empty where the address is no IPv4 literal. -/
def makeNat64Uri (ipv4 : List Char) (port : Nat) (useTls : Bool) (link : Link) : List Char :=
  match Ipv4.parseIpv4 ipv4 with
  | some (some octets) => bracketed useTls (ip6Text (link.nat64Prefix ++ octets)) port
  | _ => []

def brokerUri (brokerAddress : List Char) (port : Nat) (useTls : Bool) (link : Link) : List Char :=
  if looksLikeIpv6 brokerAddress then bracketed useTls brokerAddress port
  else makeNat64Uri ip6Text brokerAddress port useTls link

end Uri

/-! ## Runs -/

/-- A callback or call that reaches the statics. -/
inductive LinkEvent where
  | stateChange (role : Role) (routes : List Route)
  | enhAckReport (rssi : Option Rssi)
  | refreshNat64Prefix (routes : List Route)
  | readLinkStats (reading : Reading)

def Link.apply (link : Link) : LinkEvent → Link
  | .stateChange role routes => processStateChange role routes link
  | .enhAckReport rssi => ThreadLink.enhAckReport rssi link
  | .refreshNat64Prefix routes => scanRoutes routes link
  | .readLinkStats reading => (ThreadLink.readLinkStats reading link).2

def Link.run (link : Link) (history : List LinkEvent) : Link := history.foldl Link.apply link

/-! ## What the statics say of the past -/

def Route.prefix? (route : Route) : Option (List UInt8) :=
  if route.isNat64 then some (route.prefix16.take 12) else none

def LinkEvent.role? : LinkEvent → Option Role
  | .stateChange role _ => some role
  | _ => none

def LinkEvent.routes : LinkEvent → List Route
  | .stateChange .child routes | .refreshNat64Prefix routes => routes
  | _ => []

def LinkEvent.nat64? (event : LinkEvent) : Option (List UInt8) := latest Route.prefix? event.routes

/-- What the event says of the uplink: a report, or that there is none yet. -/
def LinkEvent.uplink? : LinkEvent → Option (Option Rssi)
  | .stateChange .child _ => some none
  | .enhAckReport (some rssi) => some (some rssi)
  | _ => none

def LinkEvent.reading? : LinkEvent → Option Reading
  | .readLinkStats reading => some reading
  | _ => none

structure Known (attached prefixes : Bool) (history : List LinkEvent) (link : Link) : Prop where
  attached_ : link.attachedEg =
    if attached then some ((latest LinkEvent.role? history).any Role.attached) else none
  nat64 : link.nat64Prefix = (latest LinkEvent.nat64? history).getD wellKnownPrefix
  bits : link.prefixEg =
    if prefixes then
      some
        { prefixKnown := (latest LinkEvent.nat64? history).isSome
          routeKnown := history.any fun event => decide (event.routes ≠ []) }
    else none
  uplink : link.uplinkRssiDbm =
    ((latest LinkEvent.uplink? history).join.map Subtype.val).getD uplinkRssiNone

theorem foldl_prefixes (routes : List Route) (link : Link) :
    routes.foldl
        (fun link route => if route.isNat64 then setNat64Prefix route link else link) link =
      { link with
        nat64Prefix := (latest Route.prefix? routes).getD link.nat64Prefix
        prefixEg := link.prefixEg.map fun bits =>
          { bits with
            prefixKnown := bits.prefixKnown || (latest Route.prefix? routes).isSome } } := by
  induction routes using List.reverseRecOn with
  | nil => cases link; simp
  | append_singleton routes route ih =>
    rw [List.foldl_concat, ih, latest_concat, Route.prefix?]
    by_cases nat64 : route.isNat64 = true
    · simp [nat64, setNat64Prefix, Function.comp_def]
    · simp [nat64]

theorem scanRoutes_eq (routes : List Route) (link : Link) :
    scanRoutes routes link =
      { link with
        nat64Prefix := (latest Route.prefix? routes).getD link.nat64Prefix
        prefixEg := link.prefixEg.map fun bits =>
          { prefixKnown := bits.prefixKnown || (latest Route.prefix? routes).isSome
            routeKnown := bits.routeKnown || decide (routes ≠ []) } } := by
  rw [scanRoutes, foldl_prefixes]
  by_cases none_ : routes = []
  · simp [none_]
  · simp [none_, Function.comp_def]

section Known

variable {attached prefixes : Bool} {history : List LinkEvent} {link : Link}

theorem known_start : Known attached prefixes [] (start attached prefixes) := by
  constructor
  · cases attached <;> rfl
  · rfl
  · cases prefixes <;> rfl
  · rfl

theorem apply_prefix (link : Link) (event : LinkEvent) :
    (link.apply event).nat64Prefix = (scanRoutes event.routes link).nat64Prefix ∧
      (link.apply event).prefixEg = (scanRoutes event.routes link).prefixEg := by
  cases event with
  | stateChange role routes => cases role <;> exact ⟨rfl, rfl⟩
  | enhAckReport rssi => cases rssi <;> exact ⟨rfl, rfl⟩
  | refreshNat64Prefix routes => exact ⟨rfl, rfl⟩
  | readLinkStats reading => exact ⟨rfl, rfl⟩

theorem apply_attached (link : Link) (event : LinkEvent) :
    (link.apply event).attachedEg =
      link.attachedEg.map fun bit => (event.role?.map Role.attached).getD bit := by
  cases event with
  | stateChange role routes =>
    cases role with
    | child =>
      show (scanRoutes routes link).attachedEg.map (fun _ => true) = _
      rw [scanRoutes_eq]
      rfl
    | disabled | detached | router | leader => rfl
  | enhAckReport rssi => cases rssi <;> exact (congrFun Option.map_id link.attachedEg).symm
  | refreshNat64Prefix routes =>
    show (scanRoutes routes link).attachedEg = _
    rw [scanRoutes_eq]
    exact (congrFun Option.map_id link.attachedEg).symm
  | readLinkStats reading => exact (congrFun Option.map_id link.attachedEg).symm

theorem apply_uplink (link : Link) (event : LinkEvent) :
    (link.apply event).uplinkRssiDbm =
      event.uplink?.elim link.uplinkRssiDbm fun said =>
        (said.map Subtype.val).getD uplinkRssiNone := by
  cases event with
  | stateChange role routes => cases role <;> rfl
  | enhAckReport rssi => cases rssi <;> rfl
  | refreshNat64Prefix routes =>
    show (scanRoutes routes link).uplinkRssiDbm = _
    rw [scanRoutes_eq]
    rfl
  | readLinkStats reading => rfl

theorem Known.apply (known : Known attached prefixes history link) (event : LinkEvent) :
    Known attached prefixes (history ++ [event]) (link.apply event) := by
  obtain ⟨scanned, bits⟩ := apply_prefix link event
  have found : event.nat64? = latest Route.prefix? event.routes := rfl
  constructor
  · rw [apply_attached, known.attached_, latest_concat]
    cases attached with
    | false => rfl
    | true => cases event.role? <;> rfl
  · rw [scanned, scanRoutes_eq, known.nat64, latest_concat, found]
    cases latest Route.prefix? event.routes <;> rfl
  · rw [bits, scanRoutes_eq, known.bits, latest_concat, found]
    cases prefixes with
    | false => rfl
    | true => cases latest Route.prefix? event.routes <;> simp
  · rw [apply_uplink, known.uplink, latest_concat]
    cases event.uplink? <;> rfl

theorem run_known (attached prefixes : Bool) (history : List LinkEvent) :
    Known attached prefixes history ((start attached prefixes).run history) := by
  induction history using List.reverseRecOn with
  | nil => exact known_start
  | append_singleton history event ih =>
    rw [Link.run, List.foldl_concat]
    exact ih.apply event

end Known

/-! ## What the link answers -/

/-- The gate of the sensor cycle opens exactly while the last role was an attached one. -/
theorem waitForOtAttached_iff (attached prefixes : Bool) (history : List LinkEvent) :
    waitForOtAttached ((start attached prefixes).run history) = true ↔
      attached = true ∧ ∃ past role routes later,
        history = past ++ .stateChange role routes :: later ∧ role.attached = true ∧
          ∀ event ∈ later, event.role? = none := by
  rw [waitForOtAttached, (run_known attached prefixes history).attached_]
  cases attached with
  | false => simp
  | true =>
    simp only [if_true, Option.getD_some, true_and]
    constructor
    · intro isAttached
      cases last : latest LinkEvent.role? history with
      | none =>
        rw [last] at isAttached
        cases isAttached
      | some role =>
        rw [last] at isAttached
        obtain ⟨past, event, later, cut, told, silent⟩ := latest_eq_some_iff.mp last
        cases event with
        | stateChange changed routes =>
          obtain rfl := Option.some.inj told
          exact ⟨past, changed, routes, later, cut, isAttached, silent⟩
        | enhAckReport | refreshNat64Prefix | readLinkStats => cases told
    · rintro ⟨past, role, routes, later, cut, attached_, silent⟩
      have last : latest LinkEvent.role? history = some role :=
        latest_eq_some_iff.mpr ⟨past, .stateChange role routes, later, cut, rfl, silent⟩
      rw [last]
      exact attached_

/-- The uplink RSSI of a read is that of the last report, and of none from before
the last registration with a parent. -/
theorem uplinkRssi_iff (attached prefixes : Bool) (history : List LinkEvent) (reading : Reading)
    {stats : ThreadStats}
    (read : (readLinkStats reading ((start attached prefixes).run history)).1 = some stats)
    (rssi : Int) :
    stats.uplinkRssiDbm = some rssi ↔
      ∃ past value later, history = past ++ .enhAckReport (some value) :: later ∧ value.val = rssi ∧
        ∀ event ∈ later, event.uplink? = none := by
  have known := (run_known attached prefixes history).uplink
  obtain ⟨link, link_⟩ : ∃ link, (start attached prefixes).run history = link := ⟨_, rfl⟩
  rw [link_] at read known
  have shown : stats.uplinkRssiDbm =
      if link.uplinkRssiDbm ≠ uplinkRssiNone then some link.uplinkRssiDbm else none := by
    unfold readLinkStats at read
    dsimp only at read
    split at read
    · cases read
    · obtain rfl := Option.some.inj read
      rfl
  have real : ∀ value : Rssi, value.val ≠ uplinkRssiNone := by
    intro value same
    have low := value.property.1
    rw [same] at low
    exact absurd low (by decide)
  rw [shown, known]
  constructor
  · intro told
    cases last : latest LinkEvent.uplink? history with
    | none => simp [last] at told
    | some said =>
      cases said with
      | none => simp [last] at told
      | some value =>
        rw [last] at told
        obtain ⟨past, event, later, cut, said, silent⟩ := latest_eq_some_iff.mp last
        have same : value.val = rssi := by
          have here : (if value.val ≠ uplinkRssiNone then some value.val else none) = some rssi :=
            told
          rw [if_pos (real value)] at here
          exact Option.some.inj here
        cases event with
        | enhAckReport reported =>
          cases reported with
          | none => cases said
          | some other =>
            obtain rfl := Option.some.inj (Option.some.inj said)
            exact ⟨past, other, later, cut, same, silent⟩
        | stateChange role routes => cases role <;> cases said
        | refreshNat64Prefix | readLinkStats => cases said
  · rintro ⟨past, value, later, cut, rfl, silent⟩
    have last : latest LinkEvent.uplink? history = some (some value) :=
      latest_eq_some_iff.mpr ⟨past, .enhAckReport (some value), later, cut, rfl, silent⟩
    rw [last]
    exact if_pos (real value)

theorem uplinkRssi_reported :
    (none : Option Int) = some (-71) ↔
      ∃ past value later,
        ([.enhAckReport (some ⟨-71, by decide⟩), .stateChange .child []] : List LinkEvent) =
          past ++ .enhAckReport (some value) :: later ∧ value.val = -71 ∧
        ∀ event ∈ later, event.uplink? = none :=
  @uplinkRssi_iff true true [.enhAckReport (some ⟨-71, by decide⟩), .stateChange .child []]
    { rssi := some ⟨-60, by decide⟩, linkQualityOut := some 3, radio := none, mac := none }
    { rssiDbm := some (-60), linkQualityOut := some 3 } (by decide) (-71)

/-! ## The broker behind NAT64 -/

theorem dotted_ipv4 {broker : List Char} {octets : List UInt8}
    (literal : Ipv4.Dotted broker octets) :
    looksLikeIpv6 broker = false ∧ Ipv4.parseIpv4 broker = some (some octets) ∧
      octets.length = 4 := by
  have fields := (Ipv4.dotted_iff broker octets).mp literal
  obtain ⟨a, b, c, d, rfl, all, denoted⟩ := literal.literal
  refine ⟨?_, ?_, ?_⟩
  · have noColon : ∀ field ∈ [a, b, c, d], ':' ∉ field := by
      intro field listed colon
      exact absurd (List.all_eq_true.mp (all field listed).1.2 ':' colon) (by decide)
    simp only [List.forall_mem_cons] at noColon
    simp [looksLikeIpv6, noColon]
  · have parsed := Ipv4.parseFields_eq
      (Ipv4.viewsSplit '.' (a ++ '.' :: (b ++ '.' :: (c ++ '.' :: d)))) [] [0, 0, 0, 0] rfl
    exact parsed.trans (congrArg some ((if_pos fields.1).trans (congrArg some fields.2.symm)))
  · have length := congrArg List.length denoted
    simpa using length

/-- Once the wait for an IPv4 broker succeeds, the address in its URI is the
broker's in the last NAT64 prefix that a scan found. -/
theorem nat64Uri_learned (ip6Text : List UInt8 → List Char) (attached prefixes : Bool)
    (history : List LinkEvent) {broker : List Char} {octets : List UInt8}
    (literal : Ipv4.Dotted broker octets) (port : Nat) (useTls : Bool)
    (reachable : waitForBrokerReachable broker ((start attached prefixes).run history) = true) :
    ∃ past event later found, history = past ++ event :: later ∧ event.nat64? = some found ∧
      (∀ next ∈ later, next.nat64? = none) ∧ (found ++ octets).length = 16 ∧
        brokerUri ip6Text broker port useTls ((start attached prefixes).run history) =
          bracketed useTls (ip6Text (found ++ octets)) port := by
  have known := run_known attached prefixes history
  obtain ⟨noIpv6, parsed, four⟩ := dotted_ipv4 literal
  rw [waitForBrokerReachable, noIpv6, if_neg (by decide), known.bits] at reachable
  cases prefixes with
  | false => cases reachable
  | true =>
    obtain ⟨found, last⟩ := Option.isSome_iff_exists.mp
      (reachable : (latest LinkEvent.nat64? history).isSome = true)
    obtain ⟨past, event, later, cut, told, silent⟩ := latest_eq_some_iff.mp last
    refine ⟨past, event, later, found, cut, told, silent, ?_, ?_⟩
    · obtain ⟨before, route, behind, -, twelve, -⟩ := latest_eq_some_iff.mp told
      unfold Route.prefix? at twelve
      split at twelve
      · obtain rfl := Option.some.inj twelve
        rw [List.length_append, List.length_take, route.whole, four]
        rfl
      · cases twelve
    · rw [brokerUri, noIpv6, if_neg (by decide), makeNat64Uri, parsed, known.nat64, last]
      rfl

/-- An attach, and then a prefix of the border router's own. -/
def ownPrefix : List LinkEvent :=
  [ .stateChange .child [],
    .refreshNat64Prefix
      [ { prefix16 := [0xfd, 0x12, 0, 0, 0, 0, 0, 0, 0, 0, 0, 0, 0, 0, 0, 0], length := 96
          nat64 := true, whole := rfl } ],
    .enhAckReport (some ⟨-71, by decide⟩) ]

theorem nat64Uri_learned_ownPrefix :
    ∃ past event later found, ownPrefix = past ++ event :: later ∧ event.nat64? = some found ∧
      (∀ next ∈ later, next.nat64? = none) ∧
        (found ++ [(192 : UInt8), 168, 1, 20]).length = 16 ∧
          brokerUri (fun _ => "fd12::c0a8:114".toList) "192.168.1.20".toList 1883 false
              ((start true true).run ownPrefix) =
            bracketed false "fd12::c0a8:114".toList 1883 :=
  @nat64Uri_learned (fun _ => "fd12::c0a8:114".toList) true true ownPrefix "192.168.1.20".toList
    [192, 168, 1, 20]
    ⟨"192".toList, "168".toList, "1".toList, "20".toList, by decide, by decide, by decide⟩
    1883 false
    (by decide)

end SleepySensor.ThreadLink
