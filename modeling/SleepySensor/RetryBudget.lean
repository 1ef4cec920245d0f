import SleepySensor.Lib.History
import SleepySensor.Lib.Ranking
import SleepySensor.OtaIntegrity
import SleepySensor.OtaSteps

/-!
# The retry budget of the OTA updater

What is left of the no-progress budget and the chunks that are still missing,
over the sessions of one boot with one staged image.
-/

set_option autoImplicit false

namespace SleepySensor.RetryBudget

open SleepySensor.Ranking SleepySensor.OtaIntegrity

/-- The chunks still missing, and the attempts left in the no-progress budget. -/
def budget (staged : Manifest) (ota : Ota) : Nat × Nat :=
  (Ota.totalChunks staged - ota.nextChunk, otaMaxNoProgressAttempts - ota.noProgressAttempts)

/-- The budget at boot and after each failed session, the last one first; the
complete downloads; the turns of the reconnect loop. -/
structure History where
  budgets : List (Nat × Nat)
  downloads : Nat := 0
  reconnects : Nat := 0
  deriving DecidableEq, Repr

abbrev Observed := Ota × History

/-- The return of a session that has failed.  A battery deferral is none. -/
def failedSession (ota : Ota) : OtaEvent → Option Ota
  | .activate found beginOk hashSetupOk =>
    let after := ota.activate found beginOk hashSetupOk
    if after.pc = .returned then some after else none
  | .report => if ota.session.ok then none else some ota.report
  | _ => none

def record (staged : Manifest) (ota : Ota) (event : OtaEvent) (history : History) : History :=
  match failedSession ota event, event with
  | some after, _ => { history with budgets := budget staged after :: history.budgets }
  | none, .finalize _ _ _ =>
    if ota.session.done = ota.session.totalChunks then
      { history with downloads := history.downloads + 1 }
    else history
  | none, .loopCheck uriFound =>
    if ota.updateDue && ota.connLost && uriFound then
      { history with reconnects := history.reconnects + 1 }
    else history
  | none, _ => history

def start (staged : Manifest) : Observed := ({}, { budgets := [budget staged {}] })

def step (firmware : Firmware) (staged : Manifest) : Observed → OtaEvent → Option Observed :=
  Runs.observe (Ota.step firmware) (record staged)

/-- A manifest that is received is of the staged image. -/
def OneImage (firmware : Firmware) (staged : Manifest) : OtaEvent → Prop
  | .manifest (.body fields) =>
    ∀ manifest ∈ acceptManifest firmware fields, manifest.sameImage staged = true
  | _ => True

instance (firmware : Firmware) (staged : Manifest) (event : OtaEvent) :
    Decidable (OneImage firmware staged event) := by
  unfold OneImage
  split <;> infer_instance

/-- A complete download that was resumed is not discarded: its hash matches and
`esp_ota_end` and `esp_ota_set_boot_partition` succeed. -/
def ResumedInstalls (firmware : Firmware) (ota : Ota) : OtaEvent → Prop
  | .finalize hashOk endOk bootOk =>
    ota.session.done = ota.session.totalChunks → 0 < ota.session.startChunk →
      ota.shaOp.finish firmware hashOk = some ota.session.manifest.sha256 ∧
        endOk = true ∧ bootOk = true
  | _ => True

instance (firmware : Firmware) (ota : Ota) (event : OtaEvent) :
    Decidable (ResumedInstalls firmware ota event) := by
  unfold ResumedInstalls
  split <;> infer_instance

/-- Every failed session lowers the budget; the complete downloads and the turns
of the reconnect loop are bounded. -/
structure Bounded (staged : Manifest) (history : History) : Prop where
  descending : history.budgets.IsChain Below
  sessions : history.budgets.length ≤
    weight otaMaxNoProgressAttempts (budget staged {}) + 1
  downloads : history.downloads ≤ otaMaxNoProgressAttempts
  reconnects : history.reconnects < history.budgets.length

/-! ## The invariant -/

variable {firmware : Firmware} {staged : Manifest} {ota next : Ota} {history : History}

/-- Outside a session that has activated its download. -/
def resting : SessionPc → Bool
  | .idle | .connecting | .connected | .activating | .returned => true
  | _ => false

def closing : SessionPc → Bool
  | .closing | .unpinning | .reporting => true
  | _ => false

/-- No client that could deliver something to the handler. -/
def deaf : SessionPc → Bool
  | .idle | .connecting | .connected | .activating | .starting => true
  | _ => false

/-- The budget that a running session was entered with. -/
def entered (staged : Manifest) (ota : Ota) : Nat × Nat :=
  (Ota.totalChunks staged - ota.session.startChunk,
    otaMaxNoProgressAttempts - ota.noProgressAttempts)

/-- Not above the budget after the last failed session. -/
def Within (history : History) (rank : Nat × Nat) : Prop :=
  ∀ last ∈ history.budgets.head?, AtMost rank last

structure Resting (staged : Manifest) (ota : Ota) (history : History) : Prop where
  within : Within history (budget staged ota)
  downloads : history.downloads ≤ ota.noProgressAttempts ∨
    0 < ota.nextChunk ∧ history.downloads < otaMaxNoProgressAttempts

structure During (staged : Manifest) (ota : Ota) (history : History) : Prop where
  within : Within history (entered staged ota)
  downloads : history.downloads < otaMaxNoProgressAttempts
  fresh : ota.session.startChunk = 0 → history.downloads ≤ ota.noProgressAttempts

structure Failing (staged : Manifest) (ota : Ota) (history : History) : Prop where
  within : Within history (entered staged ota)
  progress : ota.session.startChunk + ota.session.progressed ≤ ota.nextChunk
  downloads : ota.session.progressed = 0 ∧ history.downloads ≤ ota.noProgressAttempts + 1 ∨
    0 < ota.nextChunk ∧ history.downloads < otaMaxNoProgressAttempts

structure Inv (firmware : Firmware) (staged : Manifest) (ota : Ota) (history : History) : Prop where
  integrity : OtaIntegrity.Inv firmware ota
  manifest : ota.manifest.valid = true → ota.manifest.sameImage staged = true
  download : ota.partialValid = true → ota.partialManifest.sameImage staged = true
  session : ota.pc = .activating ∨ activated ota.pc = true →
    ota.session.manifest.sameImage staged = true
  attempts : ota.pc ≠ .idle → ota.pc ≠ .returned → ota.pc ≠ .rebooting →
    ota.noProgressAttempts < otaMaxNoProgressAttempts
  deaf : deaf ota.pc = true → ota.handler = .idle
  resting : resting ota.pc = true → Resting staged ota history
  during : activated ota.pc = true → During staged ota history
  failing : closing ota.pc = true → ota.session.ok = false → Failing staged ota history
  descending : history.budgets.IsChain Below
  budgets : ∀ rank ∈ history.budgets, rank.2 ≤ otaMaxNoProgressAttempts
  first : history.budgets.getLast? = some (budget staged {})
  downloads : history.downloads ≤ otaMaxNoProgressAttempts
  reconnects : history.reconnects < history.budgets.length
  returned : ota.pc = .returned → history.reconnects + 1 < history.budgets.length ∨
    ota.connLost = false ∧ ota.handler = .idle

theorem inv_boot (firmware : Firmware) (staged : Manifest) :
    Inv firmware staged {} { budgets := [budget staged {}] } := by
  constructor
  · exact OtaIntegrity.inv_boot firmware
  · intro valid
    cases valid
  · intro valid
    cases valid
  · rintro (at_ | at_) <;> cases at_
  · intro notIdle
    exact absurd rfl notIdle
  · intro _
    rfl
  · intro _
    refine ⟨?_, .inl le_rfl⟩
    rintro last ⟨⟩
    exact .inl rfl
  · intro at_
    cases at_
  · intro at_
    cases at_
  · exact List.isChain_singleton _
  · intro rank member
    rw [List.mem_singleton.mp member]
    exact Nat.sub_le _ _
  · rfl
  · exact Nat.zero_le _
  · exact Nat.zero_lt_one
  · intro at_
    cases at_

theorem bounded_of_inv (inv : Inv firmware staged ota history) : Bounded staged history :=
  ⟨inv.descending, pairs_length_le inv.descending inv.budgets inv.first, inv.downloads,
    inv.reconnects⟩

/-! ## The budget at a failed session -/

theorem nextChunk_le (inv : Inv firmware staged ota history) :
    ota.nextChunk ≤ Ota.totalChunks staged := by
  cases valid : ota.partialValid with
  | true =>
    have within : ota.nextChunk ≤ chunkCount ota.partialManifest :=
      inv.integrity.sound.within valid
    have geometry : Geometry ota.partialManifest := inv.integrity.sound.geometry valid
    rw [← totalChunks_congr (inv.download valid), totalChunks_eq geometry]
    exact within
  | false =>
    have cleared : ota.nextChunk = 0 := (inv.integrity.sound.cleared valid).2.1
    rw [cleared]
    exact Nat.zero_le _

theorem nextChunk_small (inv : Inv firmware staged ota history) : ota.nextChunk < u32Mod := by
  cases valid : ota.partialValid with
  | true =>
    have within : ota.nextChunk ≤ chunkCount ota.partialManifest :=
      inv.integrity.sound.within valid
    exact lt_of_le_of_lt within (chunkCount_small (inv.integrity.sound.geometry valid))
  | false =>
    have cleared : ota.nextChunk = 0 := (inv.integrity.sound.cleared valid).2.1
    rw [cleared]
    decide

theorem Within.lowered {rank earlier : Nat × Nat} (within : Within history earlier)
    (lower : Below rank earlier) (descending : history.budgets.IsChain Below) :
    (rank :: history.budgets).IsChain Below := by
  rw [List.isChain_cons]
  exact ⟨fun last isLast => lower.trans_atMost (within last isLast), descending⟩

theorem within_new (rank : Nat × Nat) (downloads reconnects : Nat)
    (earlier : List (Nat × Nat)) :
    Within { budgets := rank :: earlier, downloads := downloads, reconnects := reconnects }
      rank := by
  rintro last ⟨⟩
  exact .inl rfl

theorem Inv.failed {rank : Nat × Nat} (inv : Inv firmware staged ota history)
    (integrity : OtaIntegrity.Inv firmware next) (within : Within history rank)
    (lower : Below (budget staged next) rank) (manifest : next.manifest = ota.manifest)
    (partialValid : next.partialValid = true → ota.partialValid = true)
    (partialManifest : next.partialManifest = ota.partialManifest) (at_ : next.pc = .returned)
    (downloads : history.downloads ≤ next.noProgressAttempts ∨
      0 < next.nextChunk ∧ history.downloads < otaMaxNoProgressAttempts) :
    Inv firmware staged next { history with budgets := budget staged next :: history.budgets } := by
  constructor
  · exact integrity
  · rw [manifest]
    exact inv.manifest
  · rw [partialManifest]
    exact fun valid => inv.download (partialValid valid)
  · rw [at_]
    rintro (absurd | absurd) <;> cases absurd
  · intro _ notReturned
    exact absurd at_ notReturned
  · rw [at_]
    intro absurd
    cases absurd
  · intro _
    exact ⟨within_new _ _ _ _, downloads⟩
  · rw [at_]
    intro absurd
    cases absurd
  · rw [at_]
    intro absurd
    cases absurd
  · exact within.lowered lower inv.descending
  · intro other member
    rcases List.mem_cons.mp member with rfl | earlier
    · exact Nat.sub_le _ _
    · exact inv.budgets other earlier
  · rw [List.getLast?_cons, inv.first]
    rfl
  · exact inv.downloads
  · exact Nat.lt_succ_of_lt inv.reconnects
  · intro _
    exact .inl (Nat.succ_lt_succ inv.reconnects)

/-! ## The client -/

theorem inv_client {pc : SessionPc} {reconnects : Nat} {subscribed : List Nat}
    (inv : Inv firmware staged ota history)
    (integrity : OtaIntegrity.Inv firmware { ota with subscribed := subscribed, pc := pc })
    (before : resting ota.pc = true) (idle : ota.handler = .idle)
    (after : pc = .idle ∨ pc = .connecting ∨ pc = .connected)
    (attempts : pc ≠ .idle → ota.noProgressAttempts < otaMaxNoProgressAttempts)
    (bounded : reconnects < history.budgets.length) :
    Inv firmware staged { ota with subscribed := subscribed, pc := pc }
      { history with reconnects := reconnects } := by
  obtain ⟨within, downloads⟩ := inv.resting before
  have apart : pc ≠ .activating ∧ activated pc = false ∧ closing pc = false ∧ pc ≠ .returned := by
    rcases after with rfl | rfl | rfl <;> exact ⟨by simp, rfl, rfl, by simp⟩
  obtain ⟨notActivating, notActivated, notClosing, notReturned⟩ := apart
  constructor
  · exact integrity
  · exact inv.manifest
  · exact inv.download
  · rintro (at_ | at_)
    · exact absurd at_ notActivating
    · exact absurd (notActivated.symm.trans at_) (by decide)
  · intro notIdle _ _
    exact attempts notIdle
  · intro _
    exact idle
  · intro _
    exact ⟨within, downloads⟩
  · intro at_
    exact absurd (notActivated.symm.trans at_) (by decide)
  · intro at_
    exact absurd (notClosing.symm.trans at_) (by decide)
  · exact inv.descending
  · exact inv.budgets
  · exact inv.first
  · exact inv.downloads
  · exact bounded
  · intro at_
    exact absurd at_ notReturned

theorem updateDue_attempts (due : ota.updateDue = true) :
    ota.noProgressAttempts < otaMaxNoProgressAttempts := by
  unfold Ota.updateDue at due
  simp only [Bool.and_eq_true, decide_eq_true_eq] at due
  exact due.1.2

theorem inv_enterSession (inv : Inv firmware staged ota history) (at_ : ota.pc = .connected)
    (battery : Option Flt) : Inv firmware staged (ota.enterSession battery) history := by
  have valid : ota.manifest.valid = true := inv.integrity.due (.inr at_)
  have idle : ota.handler = .idle := inv.deaf (by rw [at_]; rfl)
  obtain ⟨within, downloads⟩ := inv.resting (by rw [at_]; rfl)
  have few := inv.attempts (by rw [at_]; simp) (by rw [at_]; simp) (by rw [at_]; simp)
  have target : (ota.enterSession battery).pc = .returned ∨
      (ota.enterSession battery).pc = .activating := by
    unfold Ota.enterSession
    dsimp only
    split
    · exact .inl rfl
    · exact .inr rfl
  have apart : activated (ota.enterSession battery).pc = false ∧
      closing (ota.enterSession battery).pc = false := by
    rcases target with moved | moved <;> rw [moved] <;> exact ⟨rfl, rfl⟩
  constructor
  · exact OtaIntegrity.inv_enterSession inv.integrity at_ battery
  · exact inv.manifest
  · exact inv.download
  · intro _
    exact inv.manifest valid
  · intro _ _ _
    exact few
  · intro _
    exact idle
  · intro _
    exact ⟨within, downloads⟩
  · intro absurd
    rw [apart.1] at absurd
    cases absurd
  · intro absurd
    rw [apart.2] at absurd
    cases absurd
  · exact inv.descending
  · exact inv.budgets
  · exact inv.first
  · exact inv.downloads
  · exact inv.reconnects
  · intro _
    exact .inr ⟨rfl, idle⟩

/-! ## The start of a session -/

/-- What `failedStart` is reached with. -/
structure Unstarted (ota kept : Ota) : Prop where
  was : ota.partialValid = false
  manifest : kept.manifest = ota.manifest
  partialValid : kept.partialValid = false
  partialManifest : kept.partialManifest = ota.partialManifest
  nextChunk : kept.nextChunk = 0
  attempts : kept.noProgressAttempts = ota.noProgressAttempts

theorem activate_cases (found beginOk hashSetupOk : Bool)
    (same : ota.partialValid = true → ota.session.manifest.sameImage ota.partialManifest = true)
    (cleared : ota.partialValid = false → ota.nextChunk = 0) :
    (ota.partialValid = true ∧
        ota.activate found beginOk hashSetupOk = ota.startAt ota.nextChunk) ∨
      (∃ kept, Unstarted ota kept ∧ ota.activate found beginOk hashSetupOk = kept.failedStart) ∨
      ota.nextChunk = 0 ∧ ota.activate found beginOk hashSetupOk =
        { ota with
          otaHandle := some []
          shaOp := .active []
          partialManifest := ota.session.manifest
          partialValid := true
          nextChunk := 0
          received := 0
          accepted := [] }.startAt 0 := by
  unfold Ota.activate
  cases valid : ota.partialValid with
  | true =>
    refine .inl ⟨rfl, ?_⟩
    simp [same valid, valid]
  | false =>
    have none : ota.nextChunk = 0 := cleared valid
    right
    simp only [Bool.false_and, Bool.false_eq_true, if_false, valid]
    split
    · exact .inl ⟨ota, ⟨valid, rfl, valid, rfl, none, rfl⟩, rfl⟩
    · split
      · exact .inl ⟨{ ota with otaHandle := .none, partialValid := false },
          ⟨valid, rfl, rfl, rfl, none, rfl⟩, rfl⟩
      · split
        · exact .inl ⟨{ ota with otaHandle := some [] }.discardPartialLocked,
            ⟨valid, rfl, rfl, rfl, rfl, rfl⟩, rfl⟩
        · exact .inr ⟨none, rfl⟩

theorem inv_failedStart {kept : Ota} (inv : Inv firmware staged ota history)
    (at_ : ota.pc = .activating) (zero : ota.nextChunk = 0) (frame : Unstarted ota kept)
    (integrity : OtaIntegrity.Inv firmware kept.failedStart) :
    Inv firmware staged kept.failedStart
      { history with budgets := budget staged kept.failedStart :: history.budgets } := by
  obtain ⟨within, downloads⟩ := inv.resting (by rw [at_]; rfl)
  have few := inv.attempts (by rw [at_]; simp) (by rw [at_]; simp) (by rw [at_]; simp)
  have raised : kept.failedStart.noProgressAttempts = ota.noProgressAttempts + 1 :=
    congrArg (· + 1) frame.attempts
  have nextChunk : kept.failedStart.nextChunk = 0 := frame.nextChunk
  refine inv.failed integrity within ?_ frame.manifest ?_ frame.partialManifest rfl (.inl ?_)
  · rw [below_iff]
    unfold budget
    rw [raised, nextChunk, zero]
    dsimp only
    omega
  · intro valid
    exact absurd (frame.partialValid.symm.trans valid) (by decide)
  · rw [raised]
    rcases downloads with below | ⟨positive, -⟩
    · exact Nat.le_succ_of_le below
    · rw [zero] at positive
      exact absurd positive (lt_irrefl 0)

theorem inv_startAt (inv : Inv firmware staged ota history) (at_ : ota.pc = .activating)
    (integrity : OtaIntegrity.Inv firmware (next.startAt next.nextChunk))
    (manifest : next.manifest = ota.manifest) (session : next.session = ota.session)
    (download : next.partialManifest.sameImage staged = true)
    (nextChunk : next.nextChunk = ota.nextChunk)
    (attempts : next.noProgressAttempts = ota.noProgressAttempts)
    (handler : next.handler = ota.handler) :
    Inv firmware staged (next.startAt next.nextChunk) history := by
  obtain ⟨within, downloads⟩ := inv.resting (by rw [at_]; rfl)
  have few := inv.attempts (by rw [at_]; simp) (by rw [at_]; simp) (by rw [at_]; simp)
  constructor
  · exact integrity
  · show next.manifest.valid = true → next.manifest.sameImage staged = true
    rw [manifest]
    exact inv.manifest
  · intro _
    exact download
  · intro _
    show next.session.manifest.sameImage staged = true
    rw [session]
    exact inv.session (.inl at_)
  · intro _ _ _
    show next.noProgressAttempts < _
    rw [attempts]
    exact few
  · intro _
    exact handler.trans (inv.deaf (by rw [at_]; rfl))
  · intro absurd
    cases absurd
  · intro _
    refine ⟨?_, ?_, ?_⟩
    · show Within history
        (Ota.totalChunks staged - next.nextChunk,
          otaMaxNoProgressAttempts - next.noProgressAttempts)
      rw [nextChunk, attempts]
      exact within
    · rcases downloads with few' | ⟨-, few'⟩
      · exact lt_of_le_of_lt few' few
      · exact few'
    · show next.nextChunk = 0 → history.downloads ≤ next.noProgressAttempts
      rw [nextChunk, attempts]
      intro zero
      rcases downloads with below | ⟨positive, -⟩
      · exact below
      · rw [zero] at positive
        exact absurd positive (lt_irrefl 0)
  · intro absurd
    cases absurd
  · exact inv.descending
  · exact inv.budgets
  · exact inv.first
  · exact inv.downloads
  · exact inv.reconnects
  · intro absurd
    cases absurd

theorem inv_activate (inv : Inv firmware staged ota history) (at_ : ota.pc = .activating)
    (found beginOk hashSetupOk : Bool) :
    Inv firmware staged (ota.activate found beginOk hashSetupOk)
      (record staged ota (.activate found beginOk hashSetupOk) history) := by
  have integrity := OtaIntegrity.inv_activate inv.integrity at_ found beginOk hashSetupOk
  have current := inv.session (.inl at_)
  have cleared : ota.partialValid = false → ota.nextChunk = 0 := fun valid =>
    (inv.integrity.sound.cleared valid).2.1
  have same : ota.partialValid = true →
      ota.session.manifest.sameImage ota.partialManifest = true := fun valid =>
    sameImage_trans current (sameImage_symm (inv.download valid))
  have started : (ota.activate found beginOk hashSetupOk).pc = .starting →
      record staged ota (.activate found beginOk hashSetupOk) history = history := by
    intro starting
    simp [record, failedSession, starting]
  rcases activate_cases found beginOk hashSetupOk same cleared with
    ⟨valid, resumed⟩ | ⟨kept, frame, failed⟩ | ⟨zero, fresh⟩
  · rw [started (by rw [resumed]; rfl)]
    rw [resumed] at integrity ⊢
    exact inv_startAt inv at_ integrity rfl rfl (inv.download valid) rfl rfl rfl
  · have recorded : record staged ota (.activate found beginOk hashSetupOk) history =
        { history with budgets := budget staged kept.failedStart :: history.budgets } := by
      simp [record, failedSession, failed, Ota.failedStart]
    rw [recorded]
    rw [failed] at integrity ⊢
    exact inv_failedStart inv at_ (cleared frame.was) frame integrity
  · rw [started (by rw [fresh]; rfl)]
    rw [fresh] at integrity ⊢
    exact inv_startAt inv at_ integrity rfl rfl current zero.symm rfl rfl

/-! ## The window, and the end of a session -/

theorem activated_apart {pc : SessionPc} (running : activated pc = true) :
    resting pc = false ∧ closing pc = false ∧ pc ≠ .activating ∧ pc ≠ .idle ∧
      pc ≠ .returned ∧ pc ≠ .rebooting := by
  cases pc <;> first | contradiction | exact ⟨rfl, rfl, by simp, by simp, by simp, by simp⟩

theorem inv_window (inv : Inv firmware staged ota history)
    (integrity : OtaIntegrity.Inv firmware next) (frame : Ota.SessionFrame ota next)
    (before : activated ota.pc = true) (after : activated next.pc = true)
    (listening : deaf next.pc = false) : Inv firmware staged next history := by
  obtain ⟨notResting, notClosing, notActivating, notIdle, notReturned, notRebooting⟩ :=
    activated_apart after
  obtain ⟨-, -, -, wasNotIdle, wasNotReturned, wasNotRebooting⟩ := activated_apart before
  obtain ⟨within, downloads, fresh⟩ := inv.during before
  constructor
  · exact integrity
  · rw [frame.manifest]
    exact inv.manifest
  · rw [frame.partialValid, frame.partialManifest]
    exact inv.download
  · rw [frame.sessionManifest]
    exact fun _ => inv.session (.inr before)
  · rw [frame.noProgressAttempts]
    exact fun _ _ _ => inv.attempts wasNotIdle wasNotReturned wasNotRebooting
  · rw [listening]
    intro absurd
    cases absurd
  · rw [notResting]
    intro absurd
    cases absurd
  · intro _
    refine ⟨?_, downloads, ?_⟩
    · unfold entered
      rw [frame.startChunk, frame.noProgressAttempts]
      exact within
    · rw [frame.startChunk, frame.noProgressAttempts]
      exact fresh
  · rw [notClosing]
    intro absurd
    cases absurd
  · exact inv.descending
  · exact inv.budgets
  · exact inv.first
  · exact inv.downloads
  · exact inv.reconnects
  · intro at_
    exact absurd at_ notReturned

theorem activated_of_pulling {pc : SessionPc} (pulling : Ota.pullingPc pc = true) :
    activated pc = true := by
  cases pc <;> first | contradiction | rfl

theorem deaf_of_pulling {pc : SessionPc} (pulling : Ota.pullingPc pc = true) :
    deaf pc = false := by
  cases pc <;> first | contradiction | rfl

theorem finalizeImage_ok {hashOk endOk bootOk : Bool} :
    (ota.finalizeImage firmware hashOk endOk bootOk).2 = true ↔
      ota.shaOp.finish firmware hashOk = some ota.session.manifest.sha256 ∧
        endOk = true ∧ bootOk = true := by
  unfold Ota.finalizeImage
  cases ota.shaOp.finish firmware hashOk with
  | none => simp
  | some sha =>
    by_cases matching : sha = ota.session.manifest.sha256
    · cases endOk <;> simp [matching]
    · simp [matching]

theorem inv_closing {session : Session} (inv : Inv firmware staged ota history)
    (before : activated ota.pc = true) {downloads : Nat}
    (integrity : OtaIntegrity.Inv firmware next) (manifest : next.manifest = ota.manifest)
    (download : next.partialValid = true → next.partialManifest.sameImage staged = true)
    (attempts : next.noProgressAttempts = ota.noProgressAttempts)
    (at_ : next.pc = .closing) (isSession : next.session = session)
    (startChunk : session.startChunk = ota.session.startChunk)
    (bounded : downloads ≤ otaMaxNoProgressAttempts)
    (failing : session.ok = false →
      session.startChunk + session.progressed ≤ next.nextChunk ∧
        (session.progressed = 0 ∧ downloads ≤ ota.noProgressAttempts + 1 ∨
          0 < next.nextChunk ∧ downloads < otaMaxNoProgressAttempts)) :
    Inv firmware staged next { history with downloads := downloads } := by
  obtain ⟨-, -, -, wasNotIdle, wasNotReturned, wasNotRebooting⟩ := activated_apart before
  constructor
  · exact integrity
  · rw [manifest]
    exact inv.manifest
  · exact download
  · rw [at_]
    rintro (absurd | absurd) <;> cases absurd
  · rw [attempts]
    exact fun _ _ _ => inv.attempts wasNotIdle wasNotReturned wasNotRebooting
  · rw [at_]
    intro absurd
    cases absurd
  · rw [at_]
    intro absurd
    cases absurd
  · rw [at_]
    intro absurd
    cases absurd
  · rw [isSession]
    intro _ failed
    obtain ⟨progress, few⟩ := failing failed
    refine ⟨?_, by rw [isSession]; exact progress, by rw [isSession, attempts]; exact few⟩
    unfold entered
    rw [isSession, startChunk, attempts]
    exact (inv.during before).within
  · exact inv.descending
  · exact inv.budgets
  · exact inv.first
  · exact bounded
  · exact inv.reconnects
  · rw [at_]
    intro absurd
    cases absurd

/-- A complete download is discarded, whatever became of it. -/
theorem finalize_all (inv : Inv firmware staged ota history) (at_ : ota.pc = .finalizing)
    (all : ota.session.done = ota.session.totalChunks) (hashOk endOk bootOk : Bool) :
    (ota.finalize firmware hashOk endOk bootOk).manifest = ota.manifest ∧
      (ota.finalize firmware hashOk endOk bootOk).partialValid = false ∧
      (ota.finalize firmware hashOk endOk bootOk).nextChunk = 0 ∧
      (ota.finalize firmware hashOk endOk bootOk).noProgressAttempts = ota.noProgressAttempts ∧
      (ota.finalize firmware hashOk endOk bootOk).session =
        { ota.session with
          ok := (ota.finalizeImage firmware hashOk endOk bootOk).2
          progressed := u32Sub 0 ota.session.startChunk } := by
  obtain ⟨handle, calls, finished, -⟩ :=
    finalizeImage_spec inv.integrity at_ all hashOk endOk bootOk
  unfold Ota.finalize
  simp only [if_pos all, finished]
  exact ⟨rfl, rfl, rfl, rfl, rfl⟩

theorem inv_finalize (inv : Inv firmware staged ota history) (at_ : ota.pc = .finalizing)
    (hashOk endOk bootOk : Bool)
    (installs : ResumedInstalls firmware ota (.finalize hashOk endOk bootOk)) :
    Inv firmware staged (ota.finalize firmware hashOk endOk bootOk)
      (record staged ota (.finalize hashOk endOk bootOk) history) := by
  have integrity := OtaIntegrity.inv_finalize inv.integrity at_ hashOk endOk bootOk
  have running : activated ota.pc = true := by rw [at_]; rfl
  obtain ⟨within, downloads, fresh⟩ := inv.during running
  by_cases all : ota.session.done = ota.session.totalChunks
  · have recorded : record staged ota (.finalize hashOk endOk bootOk) history =
        { history with downloads := history.downloads + 1 } := if_pos all
    obtain ⟨manifest, discarded, empty, attempts, session⟩ :=
      finalize_all inv at_ all hashOk endOk bootOk
    rw [recorded]
    refine inv_closing inv running integrity manifest ?_ attempts rfl session rfl downloads ?_
    · intro valid
      exact absurd (discarded.symm.trans valid) (by decide)
    · intro failed
      have scratch : ota.session.startChunk = 0 := by
        by_contra resumed
        have installed := finalizeImage_ok.mpr (installs all (Nat.pos_of_ne_zero resumed))
        exact absurd (failed.symm.trans installed) (by decide)
      dsimp only
      rw [scratch, empty]
      exact ⟨le_rfl, .inl ⟨rfl, Nat.succ_le_succ (fresh scratch)⟩⟩
  · have recorded : record staged ota (.finalize hashOk endOk bootOk) history = history :=
      if_neg all
    have kept : ota.finalize firmware hashOk endOk bootOk =
        { ota with
          session :=
            { ota.session with
              ok := false, progressed := u32Sub ota.nextChunk ota.session.startChunk }
          pc := .closing } := by
      unfold Ota.finalize
      rw [if_neg all]
    have progress := (inv.integrity.progress running).1
    have counted : u32Sub ota.nextChunk ota.session.startChunk =
        ota.nextChunk - ota.session.startChunk :=
      u32Sub_of_le progress (nextChunk_small inv)
    rw [recorded]
    rw [kept] at integrity ⊢
    apply inv_closing inv running integrity rfl inv.download rfl rfl rfl rfl
      inv.downloads
    intro _
    dsimp only
    rw [counted]
    refine ⟨by omega, ?_⟩
    cases done : ota.nextChunk with
    | zero =>
      have scratch : ota.session.startChunk = 0 := by omega
      exact .inl ⟨by omega, Nat.le_succ_of_le (fresh scratch)⟩
    | succ chunk => exact .inr ⟨Nat.succ_pos chunk, downloads⟩

theorem inv_closes {pc : SessionPc} (inv : Inv firmware staged ota history)
    (integrity : OtaIntegrity.Inv firmware { ota with pc := pc })
    (before : closing ota.pc = true) (after : pc = .unpinning ∨ pc = .reporting) :
    Inv firmware staged { ota with pc := pc } history := by
  have apart : activated pc = false ∧ resting pc = false ∧ deaf pc = false ∧
      pc ≠ .activating ∧ pc ≠ .returned := by
    rcases after with rfl | rfl <;> exact ⟨rfl, rfl, rfl, by simp, by simp⟩
  obtain ⟨notActivated, notResting, notDeaf, notActivating, notReturned⟩ := apart
  have few : ota.noProgressAttempts < otaMaxNoProgressAttempts := by
    apply inv.attempts <;> intro at_ <;> rw [at_] at before <;> cases before
  constructor
  · exact integrity
  · exact inv.manifest
  · exact inv.download
  · rintro (at_ | at_)
    · exact absurd at_ notActivating
    · exact absurd (notActivated.symm.trans at_) (by decide)
  · exact fun _ _ _ => few
  · intro at_
    exact absurd (notDeaf.symm.trans at_) (by decide)
  · intro at_
    exact absurd (notResting.symm.trans at_) (by decide)
  · intro at_
    exact absurd (notActivated.symm.trans at_) (by decide)
  · intro _ failed
    obtain ⟨within, progress, downloads⟩ := inv.failing before failed
    exact ⟨within, progress, downloads⟩
  · exact inv.descending
  · exact inv.budgets
  · exact inv.first
  · exact inv.downloads
  · exact inv.reconnects
  · intro at_
    exact absurd at_ notReturned

/-- A failed session ends below the budget it was entered with. -/
theorem report_below (inv : Inv firmware staged ota history)
    (few : ota.noProgressAttempts < otaMaxNoProgressAttempts) {attempts : Nat}
    (progress : ota.session.startChunk + ota.session.progressed ≤ ota.nextChunk)
    (counted : attempts = if ota.session.progressed > 0 then 0 else ota.noProgressAttempts + 1) :
    Below (Ota.totalChunks staged - ota.nextChunk, otaMaxNoProgressAttempts - attempts)
      (entered staged ota) := by
  have within := nextChunk_le inv
  rw [below_iff]
  unfold entered
  dsimp only
  split at counted <;> omega

theorem inv_report (inv : Inv firmware staged ota history) (at_ : ota.pc = .reporting)
    (integrity : OtaIntegrity.Inv firmware ota.report) :
    Inv firmware staged ota.report (record staged ota .report history) := by
  have few := inv.attempts (by rw [at_]; simp) (by rw [at_]; simp) (by rw [at_]; simp)
  cases ok : ota.session.ok with
  | true =>
    have recorded : record staged ota .report history = history := by
      simp [record, failedSession, ok]
    have after : ota.report = { ota with pc := .rebooting } := by
      unfold Ota.report
      rw [if_pos ok]
    rw [recorded]
    rw [after] at integrity ⊢
    constructor
    · exact integrity
    · exact inv.manifest
    · exact inv.download
    · rintro (absurd | absurd) <;> cases absurd
    · exact fun _ _ notRebooting => absurd rfl notRebooting
    · rintro ⟨⟩
    · rintro ⟨⟩
    · rintro ⟨⟩
    · rintro ⟨⟩
    · exact inv.descending
    · exact inv.budgets
    · exact inv.first
    · exact inv.downloads
    · exact inv.reconnects
    · rintro ⟨⟩
  | false =>
    have recorded : record staged ota .report history =
        { history with budgets := budget staged ota.report :: history.budgets } := by
      simp [record, failedSession, ok]
    obtain ⟨within, progress, downloads⟩ := inv.failing (by rw [at_]; rfl) ok
    have after : ota.report =
        { ota with
          noProgressAttempts :=
            if ota.session.progressed > 0 then 0 else ota.noProgressAttempts + 1
          pc := .returned } := by
      unfold Ota.report
      rw [if_neg (by rw [ok]; decide)]
    rw [recorded]
    rw [after] at integrity ⊢
    apply inv.failed integrity within (report_below inv few progress rfl) rfl id rfl rfl
    dsimp only
    rcases downloads with ⟨none, below⟩ | positive
    · rw [if_neg (by omega)]
      exact .inl below
    · exact .inr positive

/-! ## The handler, and whole runs -/

theorem handlerStep_deaf {event : OtaEvent} (idle : ota.handler = .idle)
    (closed : ota.sessionActive = false)
    (taken : ota.handlerStep ota.handler event = some next) : next = ota := by
  cases Ota.handler_kind taken with
  | arrives message _ active => cases closed.symm.trans active
  | dropped message _ => rfl
  | error active => cases closed.symm.trans active
  | ignored _ => rfl
  | chunk message writeOk hashOk inHandler => cases idle.symm.trans inHandler
  | lost atLost => cases idle.symm.trans atLost
  | chunkBit atBit => cases idle.symm.trans atBit
  | failBit atBit => cases idle.symm.trans atBit

theorem handlerStep_nextChunk (inv : OtaIntegrity.Inv firmware ota) {event : OtaEvent}
    (taken : ota.handlerStep ota.handler event = some next) : ota.nextChunk ≤ next.nextChunk := by
  cases Ota.handler_kind taken with
  | chunk message writeOk hashOk inHandler =>
    exact (handleImageChunk_frame inv inHandler writeOk hashOk).1.nextChunk
  | _ => exact le_rfl

theorem record_handler {event : OtaEvent}
    (taken : ota.handlerStep ota.handler event = some next) :
    record staged ota event history = history := by
  cases Ota.handler_kind taken <;> rfl

theorem deaf_closed {pc : SessionPc} (isDeaf : deaf pc = true ∨ pc = .returned) :
    windowOpen pc = false := by
  rcases isDeaf with isDeaf | rfl
  · cases pc <;> first | contradiction | rfl
  · rfl

theorem inv_handler {event : OtaEvent} (inv : Inv firmware staged ota history)
    (taken : ota.handlerStep ota.handler event = some next) :
    Inv firmware staged next history := by
  by_cases unreachable : ota.handler = .idle ∧ ota.sessionActive = false
  · rw [handlerStep_deaf unreachable.1 unreachable.2 taken]
    exact inv
  have kept := Ota.handlerStep_kept taken
  have more := handlerStep_nextChunk inv.integrity taken
  have closed : deaf ota.pc = true ∨ ota.pc = .returned → ota.sessionActive = false := by
    intro shut
    rw [inv.integrity.active]
    exact deaf_closed shut
  constructor
  · exact inv_handlerStep inv.integrity taken
  · rw [kept.manifest]
    exact inv.manifest
  · rw [kept.partialValid, kept.partialManifest]
    exact inv.download
  · rw [kept.pc, kept.session]
    exact inv.session
  · rw [kept.pc, kept.noProgressAttempts]
    exact inv.attempts
  · rw [kept.pc]
    intro isDeaf
    exact absurd ⟨inv.deaf isDeaf, closed (.inl isDeaf)⟩ unreachable
  · rw [kept.pc]
    intro isResting
    obtain ⟨within, downloads⟩ := inv.resting isResting
    refine ⟨?_, ?_⟩
    · intro last isLast
      refine AtMost.trans ?_ (within last isLast)
      unfold budget AtMost
      rw [below_iff, kept.noProgressAttempts, Prod.mk.injEq]
      dsimp only
      omega
    · rw [kept.noProgressAttempts]
      exact downloads.imp_right fun positive => ⟨lt_of_lt_of_le positive.1 more, positive.2⟩
  · rw [kept.pc]
    intro running
    obtain ⟨within, downloads, fresh⟩ := inv.during running
    refine ⟨?_, downloads, ?_⟩
    · unfold entered
      rw [kept.session, kept.noProgressAttempts]
      exact within
    · rw [kept.session, kept.noProgressAttempts]
      exact fresh
  · rw [kept.pc, kept.session]
    intro isClosing failed
    obtain ⟨within, progress, downloads⟩ := inv.failing isClosing failed
    refine ⟨?_, ?_, ?_⟩
    · unfold entered
      rw [kept.session, kept.noProgressAttempts]
      exact within
    · rw [kept.session]
      exact progress.trans more
    · rw [kept.session, kept.noProgressAttempts]
      exact downloads.imp_right fun positive => ⟨lt_of_lt_of_le positive.1 more, positive.2⟩
  · exact inv.descending
  · exact inv.budgets
  · exact inv.first
  · exact inv.downloads
  · exact inv.reconnects
  · rw [kept.pc]
    intro at_
    rcases inv.returned at_ with counted | ⟨-, idle⟩
    · exact .inl counted
    · exact absurd ⟨idle, closed (.inr at_)⟩ unreachable

theorem inv_retained {manifest : Manifest} {install : Bool}
    (inv : Inv firmware staged ota history)
    (integrity : OtaIntegrity.Inv firmware
      { ota with manifest := manifest, installRequested := install })
    (same : manifest.valid = true → manifest.sameImage staged = true) :
    Inv firmware staged { ota with manifest := manifest, installRequested := install }
      history := by
  constructor
  · exact integrity
  · exact same
  · exact inv.download
  · exact inv.session
  · exact inv.attempts
  · exact inv.deaf
  · intro at_
    exact ⟨(inv.resting at_).within, (inv.resting at_).downloads⟩
  · intro at_
    exact ⟨(inv.during at_).within, (inv.during at_).downloads, (inv.during at_).fresh⟩
  · intro at_ failed
    obtain ⟨within, progress, downloads⟩ := inv.failing at_ failed
    exact ⟨within, progress, downloads⟩
  · exact inv.descending
  · exact inv.budgets
  · exact inv.first
  · exact inv.downloads
  · exact inv.reconnects
  · exact inv.returned

theorem inv_manifest {message : ManifestMessage} (inv : Inv firmware staged ota history)
    (oneImage : OneImage firmware staged (.manifest message))
    (integrity : OtaIntegrity.Inv firmware (ota.handleManifest firmware message)) :
    Inv firmware staged (ota.handleManifest firmware message) history := by
  cases message with
  | empty => exact inv_retained inv integrity fun absurd => by cases absurd
  | spansEvents => exact inv
  | body fields =>
    cases accepted : acceptManifest firmware fields with
    | none =>
      simp only [Ota.handleManifest, accepted]
      exact inv
    | some manifest =>
      simp only [Ota.handleManifest, accepted] at integrity ⊢
      exact inv_retained inv integrity fun _ => oneImage manifest accepted

theorem inv_loopCheck (inv : Inv firmware staged ota history) (at_ : ota.pc = .returned)
    (idle : ota.handler = .idle) (uriFound : Bool)
    (integrity : OtaIntegrity.Inv firmware
      (if ota.updateDue && ota.connLost && uriFound then ota.openClient else ota.closeClient)) :
    Inv firmware staged
      (if ota.updateDue && ota.connLost && uriFound then ota.openClient else ota.closeClient)
      (record staged ota (.loopCheck uriFound) history) := by
  have before : resting ota.pc = true := by rw [at_]; rfl
  unfold record failedSession
  dsimp only
  split at integrity
  case isTrue again =>
    rw [if_pos again, if_pos again]
    simp only [Bool.and_eq_true] at again
    apply inv_client inv integrity before idle (.inr (.inl rfl))
      (fun _ => updateDue_attempts again.1.1)
    rcases inv.returned at_ with counted | ⟨kept, -⟩
    · exact counted
    · exact absurd (kept.symm.trans again.1.2) (by decide)
  case isFalse over_ =>
    rw [if_neg over_, if_neg over_]
    exact inv_client inv integrity before idle (.inl rfl) (fun absurd => (absurd rfl).elim)
      inv.reconnects

theorem inv_session {event : OtaEvent} (inv : Inv firmware staged ota history)
    (installs : ResumedInstalls firmware ota event)
    (taken : ota.sessionStep firmware ota.pc event = some next) :
    Inv firmware staged next (record staged ota event history) := by
  have integrity := inv_sessionStep inv.integrity taken
  cases Ota.session_kind taken with
  | runIfDue at_ due =>
    exact inv_client inv integrity (by rw [at_]; rfl) (inv.deaf (by rw [at_]; rfl))
      (.inr (.inl rfl)) (fun _ => updateDue_attempts due) inv.reconnects
  | connected at_ =>
    have few := inv.attempts (by rw [at_]; simp) (by rw [at_]; simp) (by rw [at_]; simp)
    exact inv_client inv integrity (by rw [at_]; rfl) (inv.deaf (by rw [at_]; rfl))
      (.inr (.inr rfl)) (fun _ => few) inv.reconnects
  | unconnected at_ idle =>
    have few := inv.attempts (by rw [at_]; simp) (by rw [at_]; simp) (by rw [at_]; simp)
    exact inv_client inv integrity (by rw [at_]; rfl) idle (.inl rfl) (fun _ => few) inv.reconnects
  | enterSession battery at_ => exact inv_enterSession inv at_ battery
  | activate found beginOk hashSetupOk at_ => exact inv_activate inv at_ found beginOk hashSetupOk
  | beginWindow at_ =>
    exact inv_window inv integrity ⟨rfl, rfl, rfl, rfl, rfl, rfl, rfl, rfl, rfl⟩
      (by rw [at_]; rfl) rfl rfl
  | pin at_ =>
    exact inv_window inv integrity ⟨rfl, rfl, rfl, rfl, rfl, rfl, rfl, rfl, rfl⟩
      (by rw [at_]; rfl) rfl rfl
  | prime chunk ok at_ =>
    obtain ⟨frame, place⟩ := Ota.prime_frame ota chunk ok
    refine inv_window inv integrity frame (by rw [at_]; rfl) ?_ ?_ <;>
      rcases place with same | same <;> rw [same] <;> rfl
  | wait at_ =>
    obtain ⟨frame, place⟩ := Ota.wait_frame ota
    exact inv_window inv integrity frame (by rw [at_]; rfl) (activated_of_pulling place)
      (deaf_of_pulling place)
  | countDone chunkBit at_ =>
    obtain ⟨frame, place⟩ := Ota.countDone_frame ota chunkBit
    exact inv_window inv integrity frame (by rw [at_]; rfl) (activated_of_pulling place)
      (deaf_of_pulling place)
  | topUp chunk nowDone ok capExceeded at_ =>
    obtain ⟨frame, place⟩ := Ota.topUp_frame ota chunk nowDone ok capExceeded
    exact inv_window inv integrity frame (by rw [at_]; rfl) (activated_of_pulling place)
      (deaf_of_pulling place)
  | endSession at_ =>
    exact inv_window inv integrity ⟨rfl, rfl, rfl, rfl, rfl, rfl, rfl, rfl, rfl⟩
      (by rw [at_]; rfl) rfl rfl
  | finalize hashOk endOk bootOk at_ => exact inv_finalize inv at_ hashOk endOk bootOk installs
  | endWindow at_ => exact inv_closes inv integrity (by rw [at_]; rfl) (.inl rfl)
  | unpin at_ => exact inv_closes inv integrity (by rw [at_]; rfl) (.inr rfl)
  | report at_ => exact inv_report inv at_ integrity
  | loopCheck uriFound at_ idle => exact inv_loopCheck inv at_ idle uriFound integrity

theorem inv_step (state : Observed) (event : OtaEvent) (after : Observed)
    (inv : Inv firmware staged state.1 state.2)
    (met : OneImage firmware staged event ∧ ResumedInstalls firmware state.1 event)
    (taken : step firmware staged state event = some after) :
    Inv firmware staged after.1 after.2 := by
  obtain ⟨stepped, recorded⟩ := Runs.observe_step taken
  rw [recorded]
  obtain ⟨ota, history⟩ := state
  obtain ⟨next, _⟩ := after
  have integrity := OtaIntegrity.inv_step inv.integrity stepped
  cases Ota.step_kind stepped with
  | manifest message at_ => exact inv_manifest inv met.1 integrity
  | install set at_ => exact inv_retained inv integrity inv.manifest
  | handler handled =>
    rw [record_handler handled]
    exact inv_handler inv handled
  | session ran => exact inv_session inv met.2 ran

/-- While every complete download that was resumed installs, the sessions of one
boot with one staged image use up their budget. -/
theorem retryBudget_run (firmware : Firmware) (staged : Manifest) (events : List OtaEvent)
    (final : Observed)
    (met : Runs.Along (step firmware staged)
      (fun state event => OneImage firmware staged event ∧ ResumedInstalls firmware state.1 event)
      (start staged) events)
    (ran : Runs.run (step firmware staged) (start staged) events = some final) :
    Bounded staged final.2 :=
  bounded_of_inv (Runs.along_invariant (fun state => Inv firmware staged state.1 state.2)
    inv_step (inv_boot firmware staged) met ran)

/-! ## Two chunks whose hash never matches -/

def hashless : Firmware := { runningVersion := ['1'], sha256 := fun _ => 0 }

def twoChunks : Manifest :=
  { version := ['2'], size := 2, chunkSize := 1, sha256 := 1, valid := true
    differsFromRunning := true }

def staging : List OtaEvent :=
  [.manifest (.body
    { version := some ['2'], size := some 2, chunkSize := some 1, sha256 := some 1
      force := false }),
   .install true]

def openClient : List OtaEvent := [.runIfDue, .connectDone true]

def beginSession (primed : Nat) : List OtaEvent :=
  [.enterSession none, .activate true true true, .beginWindow, .pin] ++
    List.replicate (primed + 1) (.prime true)

def pullChunk (index : Nat) : List OtaEvent :=
  [.chunkArrives { index := index, data := [0], offset := 0, total := 1 },
   .chunkLocked true true, .setBit, .wait, .countDone, .topUp true false, .topUp true false]

def endSession : List OtaEvent :=
  [.wait, .endSession, .finalize true true true, .endWindow, .unpin, .report, .loopCheck true]

/-- A download in one session. -/
def wholeSession : List OtaEvent :=
  beginSession 2 ++ pullChunk 0 ++ pullChunk 1 ++ endSession

theorem retryBudget_wholeSessions :
    ∃ final, Runs.run (step hashless twoChunks) (start twoChunks)
        (staging ++ (List.replicate 3 (openClient ++ wholeSession)).flatten) = some final ∧
      final.2.downloads = 3 ∧ Bounded twoChunks final.2 := by
  obtain ⟨final, ran, downloads⟩ := Runs.exists_final
    (fun final : Observed => decide (final.2.downloads = 3))
    (show (Runs.run (step hashless twoChunks) (start twoChunks)
      (staging ++ (List.replicate 3 (openClient ++ wholeSession)).flatten)).any _ = true by
        decide +kernel)
  refine ⟨final, ran, of_decide_eq_true downloads, ?_⟩
  exact retryBudget_run hashless twoChunks _ final (by decide +kernel) ran

/-- The connection is lost after the first chunk, the session that resumes
completes the download. -/
def interrupted : List OtaEvent :=
  beginSession 2 ++ pullChunk 0 ++ [.mqttError, .storeConnLost, .setBit] ++ endSession ++
    [.connectDone true] ++ beginSession 1 ++ pullChunk 1 ++ endSession

/-- Each such download resets the budget, so that a fourth one is made. -/
theorem resumed_resets :
    ¬ ∀ (firmware : Firmware) (staged : Manifest) (events : List OtaEvent) (final : Observed),
      (∀ event ∈ events, OneImage firmware staged event) →
      Runs.run (step firmware staged) (start staged) events = some final →
      Bounded staged final.2 := by
  intro always
  obtain ⟨final, ran, more⟩ := Runs.exists_final
    (fun final : Observed => decide (3 < final.2.downloads))
    (show (Runs.run (step hashless twoChunks) (start twoChunks)
      (staging ++ (List.replicate 4 (openClient ++ interrupted)).flatten)).any _ = true by
        decide +kernel)
  have bounded := always hashless twoChunks _ final (by decide +kernel) ran
  exact absurd bounded.downloads (Nat.not_le.mpr (of_decide_eq_true more))

end SleepySensor.RetryBudget
