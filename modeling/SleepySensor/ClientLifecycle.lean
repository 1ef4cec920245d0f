import SleepySensor.PollWindows

/-!
# The clients of the publish cycles

The programs of the publish cycle once more, over the handles of esp-mqtt: the
client that `s_persistentClient` keeps, the one of an OTA session, and which of
them is started and connected.  Both need the link polled at least at the
window's period whenever something is sent or waited for.
-/

set_option autoImplicit false

namespace SleepySensor.PollWindows

open Prog

/-- The poll period, `s_persistentClient`, the clients that exist, those with the
event handler, the one that `esp_mqtt_client_start` was called on and not stopped
since, and the one that has connected since that call. -/
structure Clients where
  period : Nat := pollSlowMs
  kept : ClientHandle := none
  existing : List Nat := []
  registered : List Nat := []
  started : ClientHandle := none
  connected : ClientHandle := none
  deriving DecidableEq, Repr

namespace Clients

variable (clients : Clients)

/-- This client has connected since it was started, and the link is polled fast enough. -/
def Online (client : ClientHandle) : Prop :=
  client.isSome = true ∧ clients.connected = client ∧ clients.period ≤ pollFastMs

/-- And it is not the one that is kept, whose buffer is too small for a chunk. -/
def Pulls (client : ClientHandle) : Prop := clients.Online client ∧ clients.kept ≠ client

def may : PublishOp → Prop
  | .hook hook => hook.Nests clients.period
  | .setPersistentClient client => clients.kept = none ∧ clients.existing = client.toList
  | .mqttClientInit _ => clients.started = none ∧ clients.existing = clients.kept.toList
  | .mqttClientRegisterEvent client =>
    ∀ handle ∈ client, handle ∈ clients.existing ∧ handle ∉ clients.registered
  | .mqttClientSetUri client _ =>
    client.isSome = true ∧ clients.started = none ∧ ∀ handle ∈ client, handle ∈ clients.existing
  | .mqttClientStart client =>
    clients.started = none ∧
      ∀ handle ∈ client, handle ∈ clients.existing ∧ handle ∈ clients.registered
  | .mqttClientStop client => client.isSome = true ∧ clients.started = client
  | .mqttClientDestroy client =>
    client.isSome = true ∧ clients.started = none ∧ clients.kept ≠ client ∧
      ∀ handle ∈ client, handle ∈ clients.existing
  | .waitForBrokerReachable => clients.period ≤ pollFastMs
  | .waitConnected client =>
    clients.started = client ∧ clients.connected = none ∧ clients.period ≤ pollFastMs
  | .setAbortiveClose client | .mqttSubscribeMultiple client | .mqttPublish client
  | .mqttOutboxSize client | .publishDiscovery client _ | .applyPending client
  | .waitAllAcked client | .waitAckEvent client => clients.Online client
  | .mqttSubscribe client => clients.Pulls client
  | .waitOtaBits => ∃ client, clients.Pulls client
  | _ => True

end Clients

/-- What a call leaves.  `esp_mqtt_client_init` may fail, and else answers a
handle that no other client has; starting no client starts none, and none connects. -/
def clientsAfter (setPollPeriod : Nat → Nat → Nat) (clients : Clients) :
    (op : PublishOp) → op.Res → Clients → Prop
  | .hook hook, _, after =>
    after = { clients with period := setPollPeriod hook.period clients.period }
  | .persistentClient, answer, after => answer = clients.kept ∧ after = clients
  | .setPersistentClient client, _, after => after = { clients with kept := client }
  | .mqttClientInit _, created, after =>
    (∀ handle ∈ created, handle ∉ clients.existing) ∧
      after = { clients with existing := created.toList ++ clients.existing }
  | .mqttClientRegisterEvent client, _, after =>
    after = { clients with registered := client.toList ++ clients.registered }
  | .mqttClientStart client, _, after => after = { clients with started := client }
  | .mqttClientStop _, _, after => after = { clients with started := none, connected := none }
  | .mqttClientDestroy client, _, after =>
    after = { clients with
      existing := client.elim clients.existing clients.existing.erase
      registered := client.elim clients.registered clients.registered.erase }
  | .waitConnected client, connected, after =>
    (connected = true → client.isSome = true) ∧
      after = { clients with connected := if connected then client else none }
  | _, _, after => after = clients

def lifecycle (setPollPeriod : Nat → Nat → Nat) : Contract PublishOp PublishOp.Res Clients where
  may := Clients.may
  effect := clientsAfter setPollPeriod

/-! ## What a session calls -/

/-- A call that leaves the clients and the period as they are, on this client if
it is on one; whether chunks are pulled over it. -/
def Within (client : ClientHandle) (pulls : Prop) : PublishOp → Prop
  | .hook _ | .persistentClient | .setPersistentClient _ | .mqttClientInit _
  | .mqttClientRegisterEvent _ | .mqttClientSetUri _ _ | .mqttClientStart _ | .mqttClientStop _
  | .mqttClientDestroy _ | .waitForBrokerReachable | .waitConnected _ => False
  | .setAbortiveClose other | .mqttSubscribeMultiple other | .mqttPublish other
  | .mqttOutboxSize other | .publishDiscovery other _ | .applyPending other
  | .waitAllAcked other | .waitAckEvent other => other = client
  | .mqttSubscribe other => other = client ∧ pulls
  | .waitOtaBits => pulls
  | _ => True

def Apart : PublishOp → Prop
  | .setAbortiveClose _ | .mqttSubscribeMultiple _ | .mqttPublish _ | .mqttOutboxSize _
  | .publishDiscovery _ _ | .applyPending _ | .waitAllAcked _ | .waitAckEvent _ => False
  | op => Within none False op

section Frames

variable (setPollPeriod : Nat → Nat → Nat) {op : PublishOp} {clients : Clients}
  {client : ClientHandle} {pulls : Prop}

theorem within_frame (within : Within client pulls op) (online : clients.Online client)
    (apart : pulls → clients.kept ≠ client) :
    clients.may op ∧
      ∀ answer after, clientsAfter setPollPeriod clients op answer after → after = clients := by
  cases op with
  | hook | persistentClient | setPersistentClient | mqttClientInit | mqttClientRegisterEvent
  | mqttClientSetUri | mqttClientStart | mqttClientStop | mqttClientDestroy
  | waitForBrokerReachable | waitConnected => exact within.elim
  | setAbortiveClose | mqttSubscribeMultiple | mqttPublish | mqttOutboxSize | publishDiscovery
  | applyPending | waitAllAcked | waitAckEvent =>
    obtain rfl := within
    exact ⟨online, fun _ _ same => same⟩
  | mqttSubscribe =>
    obtain ⟨rfl, pulled⟩ := within
    exact ⟨⟨online, apart pulled⟩, fun _ _ same => same⟩
  | waitOtaBits => exact ⟨⟨client, online, apart within⟩, fun _ _ same => same⟩
  | _ => exact ⟨trivial, fun _ _ same => same⟩

theorem apart_frame (clients : Clients) (apart : Apart op) :
    clients.may op ∧
      ∀ answer after, clientsAfter setPollPeriod clients op answer after → after = clients := by
  cases op with
  | hook | persistentClient | setPersistentClient | mqttClientInit | mqttClientRegisterEvent
  | mqttClientSetUri | mqttClientStart | mqttClientStop | mqttClientDestroy
  | waitForBrokerReachable | waitConnected | setAbortiveClose | mqttSubscribeMultiple
  | mqttPublish | mqttOutboxSize | publishDiscovery | applyPending | waitAllAcked | waitAckEvent
  | waitOtaBits => exact apart.elim
  | mqttSubscribe => exact apart.2.elim
  | _ => exact ⟨trivial, fun _ _ same => same⟩

end Frames

theorem within_then {α : Type} {client : ClientHandle} {pulls : Prop} {op : PublishOp}
    {rest : op.Res → PublishProg α} (here : Within client pulls op)
    (continues : ∀ answer, (rest answer).Only (Within client pulls)) :
    Prog.Only (Within client pulls) (perform op >>= rest) :=
  only_bind (only_perform here) continues

theorem apart_then {α : Type} {op : PublishOp} {rest : op.Res → PublishProg α} (here : Apart op)
    (continues : ∀ answer, (rest answer).Only Apart) :
    Prog.Only Apart (perform op >>= rest) :=
  only_bind (only_perform here) continues

section Sessions

variable (client : ClientHandle) {pulls : Prop}

theorem publishStatus_within : (publishStatus client).Only (Within client pulls) := by
  unfold publishStatus
  split
  · exact within_then rfl fun _ => trivial
  · trivial

theorem drainLoop_within (start cap turns : Nat) :
    (drainLoop client start cap turns).Only (Within client pulls) := by
  induction turns with
  | zero => exact ⟨trivial, fun never => never.elim⟩
  | succ turns ih =>
    refine within_then rfl fun size => ?_
    split
    · refine within_then trivial fun now => ?_
      split
      · exact within_then rfl fun _ => trivial
      · exact within_then rfl fun _ => ih
    · trivial

theorem tailLoop_apart (tailStart turns : Nat) (idle : Bool) :
    (tailLoop tailStart turns idle).Only Apart := by
  induction turns generalizing idle with
  | zero => exact ⟨trivial, fun never => never.elim⟩
  | succ turns ih =>
    unfold tailLoop
    split
    · trivial
    · refine apart_then trivial fun now => ?_
      split
      · exact apart_then trivial fun _ => apart_then trivial fun idle => ih idle
      · trivial

theorem replayHistory_within (batches : Nat) :
    (replayHistory client batches).Only (Within client pulls) := by
  induction batches with
  | zero => trivial
  | succ batches ih =>
    refine within_then trivial fun pending => ?_
    split
    · refine within_then trivial fun found => ?_
      split
      · refine within_then trivial fun formatted => ?_
        split
        · refine within_then trivial fun _ => within_then trivial fun _ => ?_
          refine within_then trivial fun _ => within_then rfl fun _ => ?_
          refine within_then rfl fun acked => ?_
          split
          · exact within_then trivial fun _ => ih
          · trivial
        · trivial
      · trivial
    · trivial

theorem publishDiscoveries_within (need : List DiscoveryBit) :
    (publishDiscoveries client need).Only (Within client pulls) := by
  induction need with
  | nil => trivial
  | cons bit rest ih => exact within_then rfl fun _ => ih

theorem publishState_within (subscribe : Bool) :
    (publishState client subscribe).Only (Within client pulls) := by
  refine within_then trivial fun formatted => ?_
  split
  · refine within_then rfl fun _ => within_then rfl fun ok => ?_
    split
    · exact within_then trivial fun _ => trivial
    · trivial
  · trivial

theorem subscribeTopics_within : (subscribeTopics client).Only (Within client pulls) := by
  refine within_then trivial fun present => within_then trivial fun subscribed => ?_
  split
  · trivial
  · exact within_then rfl fun _ => trivial

theorem serveBacklog_within (healthy : Bool) :
    (serveBacklog client healthy).Only (Within client pulls) := by
  unfold serveBacklog
  split
  · refine only_bind (within_then trivial fun formatted => ?_) fun _ => only_perform rfl
    split
    · exact replayHistory_within client backfillMaxBatchesPerCycle
    · trivial
  · trivial

theorem publishConnected_within (params : PublishParams) :
    (publishConnected client params).Only (Within client pulls) := by
  refine within_then rfl fun _ => only_bind (subscribeTopics_within client) fun subscribe => ?_
  refine within_then trivial fun link => within_then trivial fun sent => ?_
  refine within_then trivial fun _ => within_then trivial fun _ => within_then trivial fun _ => ?_
  refine only_bind (publishDiscoveries_within client _) fun _ => ?_
  dsimp only
  split
  · refine only_bind (publishState_within client subscribe) fun ok => ?_
    exact only_bind (serveBacklog_within client _) fun _ => trivial
  · refine only_bind trivial fun ok => ?_
    exact only_bind (serveBacklog_within client _) fun _ => trivial

theorem freshOrResume_within (manifest : Manifest) :
    (freshOrResume client manifest).Only (Within client pulls) := by
  refine only_bind (within_then trivial fun remembered => ?_) fun resumes => ?_
  · cases remembered with
    | none => trivial
    | some remembered =>
      dsimp only
      split
      · trivial
      · exact within_then trivial fun _ => trivial
  split
  · trivial
  refine within_then trivial fun slot => ?_
  split
  · exact only_bind (publishStatus_within client) fun _ => trivial
  refine within_then trivial fun begun => ?_
  split
  · exact only_bind (publishStatus_within client) fun _ => trivial
  refine within_then trivial fun hashed => ?_
  split
  · refine within_then trivial fun _ => ?_
    exact only_bind (publishStatus_within client) fun _ => trivial
  · trivial

theorem primeLoop_within (turns : Nat) : (primeLoop client turns).Only (Within client True) := by
  induction turns with
  | zero => trivial
  | succ turns ih =>
    refine within_then ⟨rfl, trivial⟩ fun subscribedOk => ?_
    split
    · exact ih
    · trivial

theorem topUpLoop_within (totalChunks chunk turns : Nat) :
    (topUpLoop client totalChunks chunk turns).Only (Within client True) := by
  induction turns generalizing chunk with
  | zero => trivial
  | succ turns ih =>
    refine only_bind ?_ fun subscribedOk => ?_
    · unfold subscribeNext
      split
      · exact only_perform ⟨rfl, trivial⟩
      · trivial
    split
    · refine only_bind ?_ fun _ => ih (chunk + 1)
      unfold reportProgress
      split
      · exact publishStatus_within client
      · trivial
    · trivial

theorem pullLoop_within (totalChunks startTick turns : Nat) (subscribedOk : Bool) (done : Nat) :
    (pullLoop client totalChunks startTick turns subscribedOk done).Only (Within client True) := by
  induction turns generalizing subscribedOk done with
  | zero => exact ⟨trivial, fun never => never.elim⟩
  | succ turns ih =>
    unfold pullLoop
    split
    · refine within_then trivial fun bits => ?_
      split
      · exact within_then trivial fun _ => trivial
      refine within_then trivial fun nowDone => ?_
      split
      · split
        · exact ih subscribedOk done
        · trivial
      refine only_bind (topUpLoop_within client totalChunks done (nowDone - done)) fun more => ?_
      refine within_then trivial fun now => ?_
      split
      · trivial
      · exact ih more nowDone
    · trivial

theorem finalizeDownload_within (manifest : Manifest) (allChunks : Bool) :
    (finalizeDownload manifest allChunks).Only (Within client pulls) := by
  unfold finalizeDownload
  split
  · refine only_bind (within_then trivial fun sha => ?_) fun ok => ?_
    · split
      · trivial
      refine within_then trivial fun ended => ?_
      split
      · trivial
      · exact only_perform trivial
    · exact within_then trivial fun _ => within_then trivial fun _ => trivial
  · exact within_then trivial fun _ => trivial

theorem download_within (turns : Nat) (manifest : Manifest) (startChunk : Nat) :
    (download turns client manifest startChunk).Only (Within client True) := by
  refine only_bind (only_perform trivial) fun _ => ?_
  refine only_bind (only_perform trivial) fun startTick => ?_
  refine only_bind (primeLoop_within client _) fun subscribedOk => ?_
  refine only_bind (pullLoop_within client _ startTick turns subscribedOk startChunk) fun done => ?_
  exact finalizeDownload_within client manifest _

theorem reportSession_within (ok : Bool) :
    (reportSession client ok).Only (Within client pulls) := by
  refine within_then trivial fun _ => only_bind (publishStatus_within client) fun _ => ?_
  split
  · refine within_then rfl fun _ => ?_
    refine within_then trivial fun _ => ?_
    exact ⟨trivial, fun never => never.elim⟩
  · trivial

theorem repeatStatus_within : (repeatStatus client).Only (Within client pulls) := by
  refine within_then trivial fun undelivered => ?_
  split
  · exact publishStatus_within client
  · trivial

theorem resumable_apart : resumable.Only Apart := by
  refine apart_then trivial fun due => ?_
  split
  · exact only_perform trivial
  · trivial

end Sessions

/-! ## Clients in hand -/

section Programs

variable {setPollPeriod : Nat → Nat → Nat} {α β : Type} {clients : Clients} {period : Nat}
  {kept client : ClientHandle} {pulls : Prop}

def Keeps (setPollPeriod : Nat → Nat → Nat) (program : PublishProg α) (clients : Clients) : Prop :=
  program.wp (lifecycle setPollPeriod) clients fun after _ => after = clients

/-- Only the kept client exists, and it is not started. -/
def idle (period : Nat) (kept : ClientHandle) : Clients where
  period := period
  kept := kept
  existing := kept.toList
  registered := kept.toList

def holding (period : Nat) (kept client connected : ClientHandle) : Clients where
  period := period
  kept := kept
  existing := client.toList ++ kept.toList
  registered := client.toList ++ kept.toList
  started := client
  connected := connected

def running (period : Nat) (client connected : ClientHandle) : Clients where
  period := period
  kept := client
  existing := client.toList
  registered := client.toList
  started := client
  connected := connected

def Fresh (kept client : ClientHandle) : Prop := ∀ handle ∈ client, handle ∉ kept.toList

theorem Fresh.ne (fresh : Fresh kept client) (there : client.isSome = true) : kept ≠ client := by
  rintro rfl
  obtain ⟨handle, same⟩ := Option.isSome_iff_exists.mp there
  exact fresh handle same (Option.mem_toList.mpr same)

theorem keeps_within {program : PublishProg α} (only : program.Only (Within client pulls))
    (online : clients.Online client) (apart : pulls → clients.kept ≠ client) :
    Keeps setPollPeriod program clients :=
  wp_of_only only (fun _ here => (within_frame setPollPeriod here online apart).1)
    fun _ answer after here => (within_frame setPollPeriod here online apart).2 answer after

theorem keeps_apart {program : PublishProg α} (only : program.Only Apart) :
    Keeps setPollPeriod program clients :=
  wp_of_only only (fun _ here => (apart_frame setPollPeriod clients here).1)
    fun _ answer after here => (apart_frame setPollPeriod clients here).2 answer after

theorem wp_keeps {first : PublishProg α} {rest : α → PublishProg β} {post : Clients → β → Prop}
    (keeps : Keeps setPollPeriod first clients)
    (continues : ∀ value, (rest value).wp (lifecycle setPollPeriod) clients post) :
    Prog.wp (lifecycle setPollPeriod) (first >>= rest) clients post :=
  wp_seq keeps fun _ value same => same ▸ continues value

theorem wp_apart {op : PublishOp} {rest : op.Res → PublishProg β} {post : Clients → β → Prop}
    (here : Apart op)
    (continues : ∀ answer, (rest answer).wp (lifecycle setPollPeriod) clients post) :
    Prog.wp (lifecycle setPollPeriod) (perform op >>= rest) clients post :=
  wp_keeps (keeps_apart (only_perform here)) continues

theorem wp_call {op : PublishOp} {rest : op.Res → PublishProg β} {post : Clients → β → Prop}
    (allowed : clients.may op)
    (continues : ∀ answer after, clientsAfter setPollPeriod clients op answer after →
      (rest answer).wp (lifecycle setPollPeriod) after post) :
    Prog.wp (lifecycle setPollPeriod) (perform op >>= rest) clients post :=
  ⟨allowed, continues⟩

theorem callHook_wp [TakesPeriods setPollPeriod] {hook : LinkHook} {post : Clients → Unit → Prop}
    (nests : hook.Nests clients.period) (holds : post { clients with period := hook.period } ()) :
    (callHook hook).wp (lifecycle setPollPeriod) clients post := by
  refine ⟨nests, fun _ after changed => ?_⟩
  have set_ : after =
      { clients with period := linkAfter setPollPeriod clients.period (.hook hook) } := changed
  rw [linkAfter_hook] at set_
  exact set_ ▸ holds

theorem wp_toPeriod [TakesPeriods setPollPeriod] {hook : LinkHook} {rest : PublishProg β}
    {post : Clients → β → Prop} (nests : hook.Nests clients.period)
    (continues : rest.wp (lifecycle setPollPeriod) { clients with period := hook.period } post) :
    Prog.wp (lifecycle setPollPeriod) (callHook hook >>= fun _ => rest) clients post :=
  wp_bind (callHook_wp nests continues)

theorem outOfTurns_wp {post : Clients → α → Prop} :
    (outOfTurns : PublishProg α).wp (lifecycle setPollPeriod) clients post :=
  ⟨trivial, fun never => never.elim⟩

/-! ## The OTA client -/

theorem startClient_wp (uri : List Char) :
    (startClient uri).wp (lifecycle setPollPeriod) (idle period kept) fun after client =>
      Fresh kept client ∧ after = holding period kept client none := by
  refine wp_apart trivial fun _ => ?_
  refine wp_call ⟨rfl, rfl⟩ ?_
  rintro client created ⟨fresh, rfl⟩
  refine wp_call ?_ fun _ registered same => ?_
  · intro handle here
    exact ⟨List.mem_append_left _ (Option.mem_toList.mpr here), fresh handle here⟩
  obtain rfl := same
  refine wp_call ⟨rfl, fun handle here => ?_⟩ fun _ started same => ?_
  · have there := List.mem_append_left kept.toList (Option.mem_toList.mpr here)
    exact ⟨there, there⟩
  obtain rfl := same
  exact ⟨fresh, rfl⟩

theorem connectOta_wp (uri : List Char) (fast : period ≤ pollFastMs) :
    (connectOta uri).wp (lifecycle setPollPeriod) (idle period kept) fun after opened =>
      Fresh kept opened.1 ∧ (opened.2 = true → opened.1.isSome = true) ∧
        after = holding period kept opened.1 (if opened.2 then opened.1 else none) := by
  apply wp_seq (startClient_wp uri)
  rintro started client ⟨fresh, rfl⟩
  refine wp_call ⟨rfl, rfl, fast⟩ fun connected after waited => ?_
  obtain ⟨answers, rfl⟩ := waited
  exact ⟨fresh, answers, rfl⟩

theorem releaseClient_wp (fresh : Fresh kept client) (connected : Bool) :
    (releaseClient client).wp (lifecycle setPollPeriod)
      (holding period kept client (if connected then client else none))
      fun after _ => after = idle period kept := by
  cases client with
  | none =>
    rw [ite_self]
    exact rfl
  | some handle =>
    refine wp_call ⟨rfl, rfl⟩ fun _ stopped same => ?_
    obtain rfl := same
    refine ⟨⟨rfl, rfl, fresh.ne rfl, ?_⟩, fun _ after destroyed => ?_⟩
    · rintro handle ⟨⟩
      exact List.mem_cons_self
    · obtain rfl := destroyed
      show Clients.mk _ _ ((handle :: kept.toList).erase handle)
        ((handle :: kept.toList).erase handle) _ _ = _
      rw [List.erase_cons_head]
      rfl

theorem holding_online (there : client.isSome = true) (fast : period ≤ pollFastMs) :
    (holding period kept client client).Online client :=
  ⟨there, rfl, fast⟩

theorem otaRunSession_keeps [TakesPeriods setPollPeriod] (turns : Nat)
    (batteryPercent : Option Flt) (fresh : Fresh kept client) (there : client.isSome = true) :
    Keeps setPollPeriod (otaRunSession turns client batteryPercent)
      (holding pollFastMs kept client client) := by
  have apart : True → kept ≠ client := fun _ => fresh.ne there
  have online : (holding pollFastMs kept client client).Online client :=
    holding_online there (le_refl pollFastMs)
  apply wp_keeps (keeps_within (repeatStatus_within client) online apart)
  intro _
  refine wp_apart trivial fun manifest => ?_
  split
  · exact keeps_within (publishStatus_within client) online apart
  apply wp_keeps (keeps_within (freshOrResume_within client manifest) online apart)
  intro goesOn
  split
  · refine wp_apart trivial fun startChunk => ?_
    apply wp_keeps (keeps_within (publishStatus_within client) online apart)
    intro _
    refine wp_apart trivial fun _ => ?_
    refine wp_toPeriod rfl ?_
    have onlineOta : (holding pollOtaMs kept client client).Online client :=
      holding_online there (by decide)
    refine wp_keeps (keeps_within (download_within client turns manifest startChunk)
      onlineOta apart) fun ok => ?_
    refine wp_toPeriod rfl ?_
    exact keeps_within (reportSession_within client ok) online apart
  · rfl

theorem reconnectLoop_wp [TakesPeriods setPollPeriod] (batteryPercent : Option Flt) (turns : Nat)
    (fresh : Fresh kept client) :
    (reconnectLoop batteryPercent turns client).wp (lifecycle setPollPeriod)
      (holding pollFastMs kept client client) fun after _ => after = idle pollFastMs kept := by
  induction turns generalizing client with
  | zero => exact outOfTurns_wp
  | succ turns ih =>
    apply wp_keeps (keeps_apart resumable_apart)
    intro again
    apply wp_seq (releaseClient_wp fresh true)
    rintro free - rfl
    split
    · refine wp_apart trivial fun uri => ?_
      split
      · rfl
      apply wp_seq (connectOta_wp uri (le_refl _))
      rintro opened ⟨client, connected⟩ ⟨fresh, answers, rfl⟩
      cases connected with
      | true =>
        apply wp_keeps (otaRunSession_keeps turns batteryPercent fresh (answers rfl))
        intro _
        exact ih fresh
      | false => exact releaseClient_wp fresh false
    · rfl

theorem runOtaIfDue_wp [TakesPeriods setPollPeriod] (turns : Nat) (uri : List Char)
    (batteryPercent : Option Flt) :
    (runOtaIfDue turns uri batteryPercent).wp (lifecycle setPollPeriod) (idle pollFastMs kept)
      fun after _ => after = idle pollFastMs kept := by
  refine wp_apart trivial fun due => ?_
  split
  · rfl
  refine wp_apart trivial fun created => ?_
  split
  · rfl
  apply wp_seq (connectOta_wp uri (le_refl _))
  rintro opened ⟨client, connected⟩ ⟨fresh, answers, rfl⟩
  cases connected with
  | true =>
    apply wp_keeps (otaRunSession_keeps turns batteryPercent fresh (answers rfl))
    intro _
    exact reconnectLoop_wp batteryPercent turns fresh
  | false => exact releaseClient_wp fresh false

/-! ## The client that is kept -/

/-- A client that is kept stays the one. -/
def Stays (kept client : ClientHandle) : Prop := kept.isSome = true → client = kept

theorem createPersistentClient_wp (uri : List Char) :
    (createPersistentClient uri).wp (lifecycle setPollPeriod) (idle period none)
      fun after client => after = idle period client := by
  refine wp_apart trivial fun created => ?_
  cases created with
  | false => exact rfl
  | true =>
    refine wp_call ⟨rfl, rfl⟩ ?_
    rintro client inited ⟨-, rfl⟩
    refine wp_call ⟨rfl, List.append_nil _⟩ fun _ stored same => ?_
    obtain rfl := same
    cases client with
    | none => exact rfl
    | some handle =>
      refine wp_call ?_ fun _ registered same => ?_
      · rintro handle ⟨⟩
        exact ⟨List.mem_cons_self, List.not_mem_nil⟩
      obtain rfl := same
      exact rfl

theorem persistentClient_wp (uri : List Char) :
    (persistentClient uri).wp (lifecycle setPollPeriod) (idle period kept) fun after client =>
      Stays kept client ∧ after = idle period client := by
  refine wp_call trivial ?_
  rintro existing asked ⟨rfl, rfl⟩
  cases existing with
  | some handle =>
    refine wp_call ⟨rfl, rfl, ?_⟩ fun _ after same => ?_
    · rintro handle ⟨⟩
      exact List.mem_cons_self
    · obtain rfl := same
      exact ⟨fun _ => rfl, rfl⟩
  | none =>
    apply wp_mono (createPersistentClient_wp uri)
    rintro after client rfl
    exact ⟨fun some_ => absurd some_ (by decide), rfl⟩

theorem startPersistentClient_wp (uri : List Char) :
    (startPersistentClient uri).wp (lifecycle setPollPeriod) (idle period kept)
      fun after client => Stays kept client ∧ after = running period client none := by
  apply wp_seq (persistentClient_wp uri)
  rintro found client ⟨stays, rfl⟩
  cases client with
  | none => exact ⟨stays, rfl⟩
  | some handle =>
    refine wp_apart trivial fun _ => ?_
    refine wp_call ⟨rfl, ?_⟩ fun _ after same => ?_
    · rintro handle ⟨⟩
      exact ⟨List.mem_cons_self, List.mem_cons_self⟩
    · obtain rfl := same
      exact ⟨stays, rfl⟩

theorem drainAndStop_wp (turns : Nat) (there : client.isSome = true) (fast : period ≤ pollFastMs) :
    (drainAndStop turns client).wp (lifecycle setPollPeriod) (running period client client)
      fun after _ => after = idle period client := by
  have online : (running period client client).Online client := ⟨there, rfl, fast⟩
  refine wp_apart trivial fun _ => ?_
  refine wp_keeps (keeps_within ?_ online False.elim) fun _ => ?_
  · exact within_then trivial fun start => drainLoop_within client start outboxDrainCapMs turns
  refine wp_apart trivial fun _ => ?_
  refine wp_call ⟨there, rfl⟩ fun _ stopped same => ?_
  obtain rfl := same
  refine wp_apart trivial fun tailStart => ?_
  refine wp_apart trivial fun tcpIdle => ?_
  refine wp_keeps (keeps_apart (tailLoop_apart tailStart turns tcpIdle)) fun _ => ?_
  refine wp_apart trivial fun _ => ?_
  exact rfl

theorem closeSession_wp [TakesPeriods setPollPeriod] (turns : Nat) {connected : ClientHandle}
    {healthy : Bool} (there : client.isSome = true) (online : healthy = true → connected = client) :
    (closeSession turns client healthy).wp (lifecycle setPollPeriod)
      (running pollFastMs client connected) fun after _ => after = idle pollFastMs client := by
  cases healthy with
  | false =>
    refine ⟨⟨there, rfl⟩, fun _ after same => ?_⟩
    obtain rfl := same
    exact rfl
  | true =>
    obtain rfl := online rfl
    refine wp_toPeriod rfl ?_
    apply wp_seq (drainAndStop_wp turns there (show pollCloseMs ≤ pollFastMs by decide))
    rintro after - rfl
    exact callHook_wp rfl rfl

theorem publishPersistent_wp [TakesPeriods setPollPeriod] (turns : Nat) (params : PublishParams)
    (uri : List Char) :
    (publishPersistent turns params uri).wp (lifecycle setPollPeriod) (idle pollFastMs kept)
      fun after _ => ∃ client, Stays kept client ∧ after = idle pollFastMs client := by
  apply wp_seq (startPersistentClient_wp uri)
  rintro opened client ⟨stays, rfl⟩
  cases client with
  | none => exact ⟨none, stays, rfl⟩
  | some handle =>
    refine wp_call ⟨rfl, rfl, le_refl _⟩ ?_
    rintro connected after ⟨-, rfl⟩
    cases connected with
    | true =>
      have online : (running pollFastMs (some handle) (some handle)).Online (some handle) :=
        ⟨rfl, rfl, le_refl _⟩
      refine wp_keeps (keeps_within (publishConnected_within (some handle) params) online
        False.elim) fun ok => ?_
      apply wp_seq (closeSession_wp turns rfl fun _ => rfl)
      rintro after - rfl
      exact ⟨some handle, stays, rfl⟩
    | false =>
      apply wp_seq (closeSession_wp turns rfl fun healthy => by cases healthy)
      rintro after - rfl
      exact ⟨some handle, stays, rfl⟩

/-! ## Cycles -/

/-- Between two cycles nothing is started, and no client exists but the kept one. -/
def AtRest (clients : Clients) : Prop := clients = idle clients.period clients.kept

theorem runPublishCycle_wp [TakesPeriods setPollPeriod] (turns : Nat) (params : PublishParams)
    (rest : AtRest clients) :
    (runPublishCycle turns params).wp (lifecycle setPollPeriod) clients fun after _ =>
      AtRest after ∧ Stays clients.kept after.kept ∧ after.period = pollSlowMs := by
  have ends : ∀ {client : ClientHandle} (value : Bool), Stays clients.kept client →
      Prog.wp (lifecycle setPollPeriod)
        (callHook .onPublishWindowEnd >>= fun _ => (pure value : PublishProg Bool))
        (idle pollFastMs client)
        fun last _ => AtRest last ∧ Stays clients.kept last.kept ∧ last.period = pollSlowMs := by
    intro client value stays
    exact wp_toPeriod rfl ⟨rfl, stays, rfl⟩
  have same : Stays clients.kept clients.kept := fun _ => rfl
  rw [rest] at ends same ⊢
  refine wp_toPeriod trivial ?_
  refine wp_call (le_refl _) fun reachable after same_ => ?_
  obtain rfl := same_
  split
  · exact ends _ same
  refine wp_apart trivial fun uri => ?_
  split
  · exact ends _ same
  have published : (publishUnlessOta turns params uri).wp (lifecycle setPollPeriod)
      (idle pollFastMs clients.kept) fun after _ =>
        ∃ client, Stays clients.kept client ∧ after = idle pollFastMs client := by
    refine wp_apart trivial fun due => ?_
    split
    · exact ⟨clients.kept, fun _ => rfl, rfl⟩
    · exact publishPersistent_wp turns params uri
  apply wp_seq published
  rintro after ok ⟨client, stays, rfl⟩
  split
  · apply wp_seq (runOtaIfDue_wp turns uri params.batteryPercent)
    rintro last - rfl
    exact ends _ stays
  · exact ends _ stays

end Programs

def runCycles (turns : Nat) : List PublishParams → PublishProg Unit
  | [] => pure ()
  | params :: rest => do
    let _ ← runPublishCycle turns params
    runCycles turns rest

/-- Over any cycles, whatever the calls answer: no client is created or started
while one is, the handler is registered once on each, a client is stopped before
it is destroyed, and the kept one never is.  Nothing is published, subscribed or
waited for but on a client that has connected since it was started and with the
link polled at the window's period or faster, chunks only on one that is not
kept, and no client but the kept one outlives its cycle. -/
theorem runCycles_clients {setPollPeriod : Nat → Nat → Nat} [TakesPeriods setPollPeriod]
    (turns : Nat) (cycles : List PublishParams) {clients : Clients} (rest : AtRest clients) :
    (runCycles turns cycles).wp (lifecycle setPollPeriod) clients fun after _ =>
      AtRest after ∧ Stays clients.kept after.kept := by
  induction cycles generalizing clients with
  | nil => exact ⟨rest, fun _ => rfl⟩
  | cons params cycles ih =>
    apply wp_seq (runPublishCycle_wp turns params rest)
    rintro after - ⟨rest, stays, -⟩
    apply wp_mono (ih rest)
    rintro last - ⟨rest, later⟩
    refine ⟨rest, fun there => ?_⟩
    have kept := stays there
    rw [← kept] at there ⊢
    exact later there

theorem runCycles_clients_boot :
    (runCycles 3 [{ batteryMillivolts := some 3700 }, {}]).wp (lifecycle clippedPeriod) {}
      fun after _ => AtRest after ∧ Stays none after.kept :=
  @runCycles_clients clippedPeriod clippedPeriod_takes 3
    [{ batteryMillivolts := some 3700 }, {}] {} rfl

end SleepySensor.PollWindows
