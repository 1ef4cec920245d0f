import SleepySensor.BrokerLog

/-!
# The dates of the older lines

A line of the older format holds only the time of day at which it came.  In a
recording whose lines follow each other within half a day, `parse_raw` finds the
instant of every line, the ones before the first stamp included.
-/

set_option autoImplicit false

namespace SleepySensor.BrokerLog

open SleepySensor.FixedWidth

/-! ## The date of a stamped line -/

/-- How far the broker's stamp is ahead of the second in which its line came. -/
def aheadSeconds (broker t : Int) : Int := broker / 1000 - t / 1000

theorem roundHours_near (seconds : Int) :
    -1800 ≤ seconds - 3600 * roundHours seconds ∧ seconds - 3600 * roundHours seconds ≤ 1800 := by
  unfold roundHours
  split_ifs <;> omega

theorem skew_mod (broker t : Int) :
    (timeOf broker / 1000 - timeOf t / 1000) % 86400 = aheadSeconds broker t % 86400 := by
  unfold timeOf aheadSeconds dayMs
  omega

/-- The offset leaves less than half an hour, but for whole days. -/
theorem offset_rest (broker t : Int) :
    ∃ days rest, aheadSeconds broker t - 3600 * offsetHours broker (timeOf t) =
        86400 * days + rest ∧ -1800 ≤ rest ∧ rest ≤ 1800 ∧
      (days = 0 ↔ -41400 < aheadSeconds broker t ∧ aheadSeconds broker t ≤ 45000) := by
  unfold offsetHours
  dsimp only
  rw [skew_mod]
  generalize aheadSeconds broker t = ahead
  obtain ⟨low, high⟩ := roundHours_near (ahead % 86400)
  have noon : ahead % 86400 = 45000 → roundHours (ahead % 86400) = 12 := by
    intro half
    rw [half]
    rfl
  generalize roundHours (ahead % 86400) = hours at low high noon
  refine
    ⟨(ahead - 3600 * (if 12 < hours % 24 then hours % 24 - 24 else hours % 24) + 43200) / 86400,
    (ahead - 3600 * (if 12 < hours % 24 then hours % 24 - 24 else hours % 24) + 43200) % 86400
      - 43200,
    ?_, ?_, ?_, ?_⟩
  · omega
  · split <;> omega
  · split <;> omega
  · split <;> omega

theorem nearest_eq {t est : Int} {days : Int}
    (low : -halfDay < est - (t + dayMs * days)) (high : est - (t + dayMs * days) < halfDay) :
    nearest est (timeOf t) = t + dayMs * days := by
  obtain ⟨apart, found, above, below⟩ : ∃ apart,
      combine (dateOf est) (timeOf t) = t + dayMs * apart ∧
      -dayMs < est - (t + dayMs * apart) ∧ est - (t + dayMs * apart) < dayMs := by
    unfold combine dateOf timeOf dayMs
    exact ⟨est / 86400000 - t / 86400000, by omega, by omega, by omega⟩
  unfold nearest
  rw [found]
  unfold halfDay dayMs at *
  dsimp only
  split_ifs <;> omega

/-- The date of a stamped line is right exactly where the broker's clock is more
than minus eleven and a half hours and at most twelve and a half ahead. -/
theorem anchorAt_exact_iff (broker t : Int) (whole : broker % 1000 = 0) :
    anchorAt broker (timeOf t) = t ↔
      -41400 < aheadSeconds broker t ∧ aheadSeconds broker t ≤ 45000 := by
  obtain ⟨days, rest, ahead, low, high, iff_⟩ := offset_rest broker t
  have found : anchorAt broker (timeOf t) = t + dayMs * days := by
    unfold aheadSeconds at ahead
    unfold anchorAt
    generalize offsetHours broker (timeOf t) = hours at ahead
    apply nearest_eq
    · unfold halfDay dayMs
      omega
    · unfold halfDay dayMs
      omega
  rw [← iff_, found]
  unfold dayMs
  omega

theorem anchorAt_half_past :
    anchorAt 45000000 (timeOf 0) = 0 ∧ anchorAt (-41400000) (timeOf 0) ≠ 0 := by
  refine ⟨(anchorAt_exact_iff 45000000 0 (by decide)).mpr ⟨by decide, by decide⟩, ?_⟩
  intro exact_
  have low := ((anchorAt_exact_iff (-41400000) 0 (by decide)).mp exact_).1
  exact absurd low (by decide)

/-! ## The lines of a recording -/

/-- What a line tells: the instant at which it came, and its text. -/
structure Heard where
  received : Int
  text : Text

def timeFields (t : Int) : List Nat :=
  [(timeOf t / 3600000).toNat, (timeOf t / 60000 % 60).toNat, (timeOf t / 1000 % 60).toNat,
    (timeOf t % 1000).toNat]

def dateFields (t : Int) : List Nat :=
  let date := Calendar.Date.ofNumber (dateOf t).toNat
  [date.year, date.month, date.day]

/-- `utc_now`, with the blank that `emit` puts behind it. -/
def isoStamp (t : Int) : Text := render isoLayout (dateFields t ++ timeFields t)

def Heard.isoLine (heard : Heard) : Text := isoStamp heard.received ++ heard.text ++ ['\n']

def Heard.legacyLine (heard : Heard) : Text :=
  render legacyLayout (timeFields heard.received) ++ heard.text ++ ['\n']

theorem timeOf_bounds (t : Int) : 0 ≤ timeOf t ∧ timeOf t < dayMs := by
  unfold timeOf dayMs
  omega

theorem combine_dateOf (t : Int) : combine (dateOf t) (timeOf t) = t := by
  unfold combine dateOf timeOf dayMs
  omega

theorem timeOfFields_timeFields (t : Int) : timeOfFields (timeFields t) = .ok (timeOf t) := by
  obtain ⟨low, high⟩ := timeOf_bounds t
  unfold dayMs at high
  rw [timeFields, timeOfFields, if_pos (by omega)]
  show Except.ok _ = _
  congr 1
  omega

theorem fits_timeFields (t : Int) : Fits timeLayout (timeFields t) := by
  obtain ⟨low, high⟩ := timeOf_bounds t
  unfold dayMs at high
  have hour : (timeOf t / 3600000).toNat < 10 ^ 2 := by omega
  have minute : (timeOf t / 60000 % 60).toNat < 10 ^ 2 := by omega
  have second : (timeOf t / 1000 % 60).toNat < 10 ^ 2 := by omega
  have milli : (timeOf t % 1000).toNat < 10 ^ 3 := by omega
  exact ⟨hour, minute, second, milli, rfl⟩

/-- The years that `strftime` prints in four digits. -/
def FourDigits (t : Int) : Prop := 364877 * dayMs ≤ t ∧ t < 3652059 * dayMs

theorem dateOfFields_dateFields {t : Int} (year : FourDigits t) :
    dateOfFields (dateFields t) = .ok (dateOf t) := by
  let date := Calendar.Date.ofNumber (dateOf t).toNat
  have number : date.number = (dateOf t).toNat := Calendar.Date.number_ofNumber _
  obtain ⟨low, _⟩ := year
  unfold dayMs at low
  have positive : 0 ≤ dateOf t := by
    unfold dateOf dayMs
    omega
  show dateOfFields [date.year, date.month, date.day] = _
  rw [dateOfFields, dif_pos ⟨date.year_, date.month_, date.day_⟩]
  show Except.ok _ = _
  rw [number, Int.toNat_of_nonneg positive]

theorem fits_dateFields {t : Int} (year : FourDigits t) : Fits dateLayout (dateFields t) := by
  let date := Calendar.Date.ofNumber (dateOf t).toNat
  have before : (dateOf t).toNat < Calendar.daysBeforeYear 10000 := by
    have bound : Calendar.daysBeforeYear 10000 = 3652059 := rfl
    obtain ⟨low, high⟩ := year
    unfold dayMs at low high
    unfold dateOf dayMs
    omega
  have year_ : date.year < 10 ^ 4 :=
    Calendar.Date.ofNumber_year_lt (by decide) before
  have month : date.month < 10 ^ 2 := by
    obtain ⟨_, last⟩ := date.month_
    omega
  have day : date.day < 10 ^ 2 := by
    obtain ⟨_, last⟩ := date.day_
    have short := Calendar.daysInMonth_le date.year date.month
    omega
  exact ⟨year_, month, day, rfl⟩

/-! ## Reading a line -/

theorem strip_newline {line : Text} (clean : '\n' ∉ line) :
    (line ++ ['\n']).rdropWhile (fun c => c = '\n') = line := by
  rw [List.rdropWhile_concat_pos _ _ _ (by simp), List.rdropWhile_eq_self_iff]
  intro some_ last
  exact clean (of_decide_eq_true last ▸ List.getLast_mem some_)

theorem newline_not_mem_render {layout : Layout} {values : List Nat}
    (clean : Slot.lit '\n' ∉ layout) : '\n' ∉ render layout values := by
  intro member
  rcases mem_render member with digit | literal
  · exact absurd digit (by decide)
  · exact clean literal

/-- A line of the older format does not begin with a year. -/
theorem scan_iso_legacy (t : Int) (text : Text) :
    scan isoLayout (render legacyLayout (timeFields t) ++ text) = none := by
  have hour : readNumber 4 0 (render legacyLayout (timeFields t) ++ text) = none := by
    obtain ⟨low, high⟩ := timeOf_bounds t
    exact readNumber_short 2 1 (timeOf t / 3600000).toNat 0 _ (by decide)
  show (readNumber 4 0 _).bind _ = none
  rw [hour, Option.bind_none]

theorem readLine_legacy (reader : Reader) (heard : Heard) (clean : '\n' ∉ heard.text) :
    reader.readLine heard.legacyLine = reader.legacy (timeFields heard.received) heard.text := by
  have stamp : '\n' ∉ render legacyLayout (timeFields heard.received) :=
    newline_not_mem_render (by decide)
  have fits : Fits legacyLayout (timeFields heard.received) :=
    List.append_nil (timeFields heard.received) ▸
      @Fits.append timeLayout [.lit ' '] _ [] (fits_timeFields heard.received) rfl
  rw [Reader.readLine, Heard.legacyLine, strip_newline (by simp [stamp, clean])]
  simp only [scan_iso_legacy, scan_render fits]

theorem readLine_iso (reader : Reader) (heard : Heard) (year : FourDigits heard.received)
    (clean : '\n' ∉ heard.text) :
    reader.readLine heard.isoLine =
      .ok { reader with events := reader.events ++ [(heard.received, heard.text)] } := by
  have stamp : '\n' ∉ isoStamp heard.received := newline_not_mem_render (by decide)
  have fits : Fits isoLayout (dateFields heard.received ++ timeFields heard.received) := by
    apply (fits_dateFields year).append
    exact List.append_nil (timeFields heard.received) ▸
      @Fits.append timeLayout [.lit 'Z', .lit ' '] _ [] (fits_timeFields heard.received) rfl
  have day : (dateFields heard.received ++ timeFields heard.received).take 3 =
      dateFields heard.received := rfl
  have time : (dateFields heard.received ++ timeFields heard.received).drop 3 =
      timeFields heard.received := rfl
  rw [Reader.readLine, Heard.isoLine, strip_newline (by simp [stamp, clean]), isoStamp]
  simp only [scan_render fits, fromIso, day, time, dateOfFields_dateFields year,
    timeOfFields_timeFields]
  show Except.ok _ = _
  rw [combine_dateOf]

/-! ## Recordings -/

namespace Heard

def Stamped (heard : Heard) : Prop := (logLine heard.text).isSome

/-- Where it does, from a broker whose clock is no further off than the date needs. -/
def InZone (heard : Heard) : Prop :=
  ∀ level stamp message, logLine heard.text = some (level, stamp, message) →
    ∃ broker, fromStamp stamp = .ok broker ∧ -41400 < aheadSeconds broker heard.received ∧
      aheadSeconds broker heard.received ≤ 45000

def Follows (before after : Heard) : Prop :=
  before.received ≤ after.received ∧ after.received < before.received + halfDay

/-- On a day that `datetime` holds, and the day behind it too. -/
def Dated (heard : Heard) : Prop := FourDigits heard.received ∧ FourDigits (heard.received + dayMs)

def event (heard : Heard) : Int × Text := (heard.received, heard.text)

end Heard

inductive Entry where
  | legacy (heard : Heard)
  | iso (heard : Heard)

namespace Entry

def line : Entry → Text
  | .legacy heard => heard.legacyLine
  | .iso heard => heard.isoLine

def event : Entry → Int × Text
  | .legacy heard => heard.event
  | .iso heard => heard.event

def legacy? : Entry → Option Heard
  | .legacy heard => some heard
  | .iso _ => none

def iso? : Entry → Option Heard
  | .legacy _ => none
  | .iso heard => some heard

def Unstamped : Entry → Prop
  | .legacy heard => ('\n' ∉ heard.text ∧ ¬ heard.Stamped) ∧ heard.Dated
  | .iso heard => '\n' ∉ heard.text ∧ FourDigits heard.received

end Entry

/-- The lines behind a dated one of the older format: each of that format is
stamped or comes within half a day of the one before. -/
def Continues : Heard → List Entry → Prop
  | _, [] => True
  | last, .iso heard :: rest =>
    ('\n' ∉ heard.text ∧ FourDigits heard.received) ∧ Continues last rest
  | last, .legacy heard :: rest =>
    (('\n' ∉ heard.text ∧ heard.Dated) ∧ heard.InZone ∧ (heard.Stamped ∨ last.Follows heard)) ∧
      Continues heard rest

/-- The first line with a stamp, and lines of either format in any order. -/
structure Anchored where
  first : Heard
  tail : List Entry
  stamped : first.Stamped
  clean : '\n' ∉ first.text ∧ first.Dated
  zone : first.InZone
  continues : Continues first tail

/-- A raw file: lines of either format without a stamp, up to the first with one if
there is one. -/
structure Recording where
  head : List Entry
  anchored : Option Anchored
  unstamped : ∀ entry ∈ head, entry.Unstamped
  close : ∀ anchored_ ∈ anchored,
    (head.filterMap Entry.legacy? ++ [anchored_.first]).IsChain Heard.Follows

namespace Recording

def entries (recording : Recording) : List Entry :=
  recording.head ++ recording.anchored.toList.flatMap fun anchored =>
    .legacy anchored.first :: anchored.tail

def lines (recording : Recording) : List Text := recording.entries.map Entry.line

def events (recording : Recording) : List (Int × Text) :=
  (recording.head.filterMap Entry.iso?).map Heard.event ++
    (recording.head.filterMap Entry.legacy?).map Heard.event ++
      recording.anchored.toList.flatMap fun anchored =>
        anchored.first.event :: anchored.tail.map Entry.event

/-- Lines of the older format, and no stamp to date them from. -/
def Undatable (recording : Recording) : Prop :=
  recording.anchored = none ∧ recording.head.filterMap Entry.legacy? ≠ []

instance (recording : Recording) : Decidable recording.Undatable :=
  inferInstanceAs
    (Decidable (recording.anchored = none ∧ recording.head.filterMap Entry.legacy? ≠ []))

end Recording

theorem date_before {earlier later : Heard} (follows : earlier.Follows later) :
    (if timeOf later.received < timeOf earlier.received ∧
        halfDay < combine (dateOf later.received) (timeOf earlier.received) -
          combine (dateOf later.received) (timeOf later.received) then
      dateOf later.received - 1 else dateOf later.received) = dateOf earlier.received := by
  obtain ⟨order, near⟩ := follows
  unfold combine timeOf dateOf
  unfold halfDay dayMs at *
  split <;> omega

theorem backDate_chain {later : Heard} {earlier : List Heard}
    (close : (later :: earlier).IsChain fun after before => before.Follows after) :
    backDate (dateOf later.received) (timeOf later.received)
        (earlier.map fun heard => (timeFields heard.received, heard.text)) =
      .ok (earlier.map Heard.event) := by
  induction earlier generalizing later with
  | nil => rfl
  | cons heard earlier ih =>
    obtain ⟨follows, close⟩ := List.isChain_cons_cons.mp close
    rw [List.map_cons, backDate, timeOfFields_timeFields]
    show (backDate _ _ _ >>= fun back => _) = _
    simp only [date_before follows, ih close]
    show Except.ok _ = _
    rw [combine_dateOf]
    rfl

def behind (events : List (Int × Text)) (last : Heard) : Reader :=
  { events := events, day := some (dateOf last.received), prevT := some last.received }

theorem except_bind {ε α β : Type} {first : Except ε α} {rest : α → Except ε β} {value : β}
    (done : (first >>= rest) = .ok value) :
    ∃ middle, first = .ok middle ∧ rest middle = .ok value := by
  cases first with
  | error _ => cases done
  | ok middle => exact ⟨middle, rfl, done⟩

theorem timeOfFields_whole {fields : List Nat} {time : Int}
    (read : timeOfFields (fields ++ [0]) = .ok time) : ∃ seconds, time = 1000 * seconds := by
  match fields, read with
  | [hour, minute, second], read =>
    simp only [List.cons_append, List.nil_append, timeOfFields] at read
    split at read
    case isTrue =>
      have value : ((((hour * 60 + minute) * 60 + second) * 1000 + 0 : Nat) : Int) = time :=
        Except.ok.inj read
      exact ⟨((hour * 60 + minute) * 60 + second : Nat), by omega⟩
    case isFalse => cases read
  | [_, _, _, _], read => cases read
  | _ :: _ :: _ :: _ :: _ :: _, read => cases read

theorem fromStamp_whole {stamp : List Nat} {broker : Int} (read : fromStamp stamp = .ok broker) :
    broker % 1000 = 0 := by
  obtain ⟨day, _, read⟩ := except_bind read
  obtain ⟨time, clock, read⟩ := except_bind read
  have sum : combine day time = broker := Except.ok.inj read
  obtain ⟨seconds, whole⟩ := timeOfFields_whole clock
  unfold combine dayMs at sum
  omega

theorem anchorAt_received {heard : Heard} {level stamp message} (zone : heard.InZone)
    (stamped : logLine heard.text = some (level, stamp, message)) :
    ∃ broker, fromStamp stamp = .ok broker ∧
      anchorAt broker (timeOf heard.received) = heard.received := by
  obtain ⟨broker, read, low, high⟩ := zone level stamp message stamped
  exact ⟨broker, read, (anchorAt_exact_iff broker heard.received (fromStamp_whole read)).mpr
    ⟨low, high⟩⟩

def before (events : List (Int × Text)) (kept : List Heard) : Reader :=
  { events := events, pending := kept.map fun heard => (timeFields heard.received, heard.text) }

theorem legacy_first {events : List (Int × Text)} {head : List Heard} {first : Heard}
    (stamped : first.Stamped) (zone : first.InZone)
    (close : (head ++ [first]).IsChain Heard.Follows) :
    (before events head).legacy (timeFields first.received) first.text =
      .ok (behind (events ++ head.map Heard.event ++ [first.event]) first) := by
  obtain ⟨⟨level, stamp, message⟩, found⟩ := Option.isSome_iff_exists.mp stamped
  obtain ⟨broker, read, exact_⟩ := anchorAt_received zone found
  have back : (first :: head.reverse).IsChain fun after before => before.Follows after := by
    have reversed := List.isChain_reverse.mpr close
    rwa [List.reverse_append] at reversed
  simp only [before, Reader.legacy, found, Reader.anchor, read, timeOfFields_timeFields]
  show (backDate _ _ _ >>= fun back => _) = _
  rw [exact_, ← List.map_reverse, backDate_chain back, List.map_reverse]
  show Except.ok _ = _
  simp [behind, Heard.event]

theorem legacy_next {events : List (Int × Text)} {last heard : Heard} (zone : heard.InZone)
    (near : heard.Stamped ∨ last.Follows heard) :
    (behind events last).legacy (timeFields heard.received) heard.text =
      .ok (behind (events ++ [heard.event]) heard) := by
  cases found : logLine heard.text with
  | some log =>
    obtain ⟨level, stamp, message⟩ := log
    obtain ⟨broker, read, exact_⟩ := anchorAt_received zone found
    simp only [Reader.legacy, found, Reader.anchor, read, timeOfFields_timeFields]
    show Except.ok _ = _
    rw [exact_]
    simp [behind, Heard.event]
  | none =>
    have follows := near.resolve_left (by simp [Heard.Stamped, found])
    obtain ⟨order, close⟩ := follows
    simp only [Reader.legacy, found, behind, Reader.dated, timeOfFields_timeFields]
    show Except.ok _ = _
    have date : (if halfDay < last.received - combine (dateOf last.received) (timeOf heard.received)
        then dateOf last.received + 1 else dateOf last.received) = dateOf heard.received := by
      unfold combine timeOf dateOf
      unfold halfDay dayMs at *
      split <;> omega
    have instant :
        (if halfDay < last.received - combine (dateOf last.received) (timeOf heard.received)
        then combine (dateOf last.received) (timeOf heard.received) + dayMs
        else combine (dateOf last.received) (timeOf heard.received)) = heard.received := by
      unfold combine timeOf dateOf
      unfold halfDay dayMs at *
      split <;> omega
    simp only [Option.any_some, decide_eq_true_eq, date, instant]
    rfl

theorem read_head {head : List Entry} {events : List (Int × Text)} {kept : List Heard}
    (unstamped : ∀ entry ∈ head, entry.Unstamped) :
    (head.map Entry.line).foldlM Reader.readLine (before events kept) =
      .ok (before (events ++ (head.filterMap Entry.iso?).map Heard.event)
        (kept ++ head.filterMap Entry.legacy?)) := by
  induction head generalizing events kept with
  | nil => simp [pure, Except.pure]
  | cons entry head ih =>
    obtain ⟨plain, others⟩ := List.forall_mem_cons.mp unstamped
    cases entry with
    | legacy heard =>
      obtain ⟨⟨clean, none_⟩, -⟩ := plain
      have found : logLine heard.text = none := Option.not_isSome_iff_eq_none.mp none_
      have later := @ih events (kept ++ [heard]) others
      rw [List.append_assoc, List.singleton_append] at later
      rw [List.map_cons, List.foldlM_cons, Entry.line, readLine_legacy _ _ clean, Reader.legacy,
        found]
      simpa [before, Entry.iso?, Entry.legacy?, List.filterMap_cons] using later
    | iso heard =>
      obtain ⟨clean, year⟩ := plain
      have later := @ih (events ++ [heard.event]) kept others
      rw [List.append_assoc, List.singleton_append] at later
      rw [List.map_cons, List.foldlM_cons, Entry.line, readLine_iso _ _ year clean]
      exact later

theorem read_tail {events : List (Int × Text)} {last : Heard} {tail : List Entry}
    (continues : Continues last tail) :
    ∃ final, (tail.map Entry.line).foldlM Reader.readLine (behind events last) =
      .ok (behind (events ++ tail.map Entry.event) final) := by
  induction tail generalizing events last with
  | nil => exact ⟨last, by simp [pure, Except.pure]⟩
  | cons entry tail ih =>
    cases entry with
    | iso heard =>
      obtain ⟨⟨clean, year⟩, continues⟩ := continues
      obtain ⟨final, read⟩ := @ih (events ++ [heard.event]) last continues
      refine ⟨final, ?_⟩
      rw [List.map_cons, List.foldlM_cons, Entry.line, readLine_iso _ _ year clean]
      rw [List.append_assoc, List.singleton_append] at read
      exact read
    | legacy heard =>
      obtain ⟨⟨⟨clean, -⟩, zone, near⟩, continues⟩ := continues
      obtain ⟨final, read⟩ := @ih (events ++ [heard.event]) heard continues
      refine ⟨final, ?_⟩
      rw [List.map_cons, List.foldlM_cons, Entry.line, readLine_legacy _ _ clean,
        legacy_next zone near]
      rw [List.append_assoc, List.singleton_append] at read
      exact read

theorem read_anchored {events : List (Int × Text)} {kept : List Heard} (anchored : Anchored)
    (close : (kept ++ [anchored.first]).IsChain Heard.Follows) :
    ∃ final, ((Entry.legacy anchored.first :: anchored.tail).map Entry.line).foldlM Reader.readLine
        (before events kept) =
      .ok (behind (events ++ kept.map Heard.event ++
        anchored.first.event :: anchored.tail.map Entry.event) final) := by
  obtain ⟨final, read⟩ := @read_tail (events ++ kept.map Heard.event ++ [anchored.first.event])
    anchored.first anchored.tail anchored.continues
  refine ⟨final, ?_⟩
  rw [List.map_cons, List.foldlM_cons, Entry.line, readLine_legacy _ _ anchored.clean.1,
    legacy_first anchored.stamped anchored.zone close]
  rw [List.append_assoc _ [anchored.first.event], List.singleton_append] at read
  exact read

/-- Every line of a recording is read with the instant at which it came, unless
there are lines of the older format and none of them has a stamp. -/
theorem parseRaw_recording (recording : Recording) :
    parseRaw recording.lines =
      if recording.Undatable then .error .noAnchor else .ok recording.events := by
  have kept : (recording.head.map Entry.line).foldlM Reader.readLine {} =
      .ok (before ((recording.head.filterMap Entry.iso?).map Heard.event)
        (recording.head.filterMap Entry.legacy?)) :=
    @read_head recording.head [] [] recording.unstamped
  unfold parseRaw Recording.lines Recording.entries Recording.events
  rw [List.map_append, List.foldlM_append, kept]
  rcases Option.eq_none_or_eq_some recording.anchored with anchored | ⟨found, anchored⟩
  · simp only [anchored]
    show (if (before _ _).pending = [] then _ else _) = _
    by_cases none_ : recording.head.filterMap Entry.legacy? = []
    · rw [if_pos (by simp [before, none_]), if_neg fun undatable => undatable.2 none_]
      simp [before, none_, pure, Except.pure]
    · rw [if_neg (by simpa [before] using none_), if_pos ⟨anchored, none_⟩]
      rfl
  · obtain ⟨final, read⟩ := @read_anchored ((recording.head.filterMap Entry.iso?).map Heard.event)
      (recording.head.filterMap Entry.legacy?) found (recording.close found anchored)
    have datable : ¬ recording.Undatable := fun undatable => by
      cases anchored.symm.trans undatable.1
    rw [if_neg datable]
    simp only [anchored, Option.toList_some, List.flatMap_cons, List.flatMap_nil, List.append_nil]
    show (List.foldlM Reader.readLine _ _ >>= _) = _
    rw [read]
    show Except.ok _ = _
    simp [behind]

/-- A line of the newer format and one before midnight, a stamped one behind it, one
without a stamp, and another of the newer format. -/
def overMidnight : Recording where
  head :=
    [.iso ⟨63926409500000, "# watcher".toList⟩,
      .legacy ⟨63926409599500, "- q1 state b'x'".toList⟩]
  anchored := some
    { first := ⟨63926409601250, "LOG N 2026-10-01 05:00:01: hello".toList⟩
      tail := [.legacy ⟨63926409602000, "# watcher".toList⟩, .iso ⟨63926506800001, "- q1 x".toList⟩]
      stamped := by
        unfold Heard.Stamped
        decide
      clean := by
        unfold Heard.Dated FourDigits
        decide
      zone := by
        intro level stamp message found
        have read : logLine "LOG N 2026-10-01 05:00:01: hello".toList =
            some ("N".toList, [2026, 10, 1, 5, 0, 1], "hello".toList) := by decide
        obtain ⟨rfl, rfl, rfl⟩ := Option.some.inj (read.symm.trans found)
        exact ⟨63926427601000, by rfl, by decide, by decide⟩
      continues := by
        refine ⟨⟨?_, ?_, Or.inr ⟨by decide, by decide⟩⟩, ⟨by decide, by decide, by decide⟩, trivial⟩
        · unfold Heard.Dated FourDigits
          decide
        · intro level stamp message found
          have none_ : logLine "# watcher".toList = none := by decide
          exact absurd (none_.symm.trans found) (by simp) }
  unstamped := by
    intro entry member
    rcases List.mem_pair.mp member with rfl | rfl
    · unfold Entry.Unstamped FourDigits
      decide
    · unfold Entry.Unstamped Heard.Dated FourDigits Heard.Stamped
      decide
  close := by
    rintro anchored ⟨⟩
    exact List.IsChain.cons_cons ⟨by decide, by decide⟩ (List.IsChain.singleton _)

theorem parseRaw_overMidnight :
    overMidnight.lines = ["2026-09-30T23:58:20.000Z # watcher\n".toList,
        "23:59:59.500 - q1 state b'x'\n".toList,
        "00:00:01.250 LOG N 2026-10-01 05:00:01: hello\n".toList,
        "00:00:02.000 # watcher\n".toList, "2026-10-02T03:00:00.001Z - q1 x\n".toList] ∧
      parseRaw overMidnight.lines = .ok overMidnight.events := by
  refine ⟨by decide, ?_⟩
  have read := parseRaw_recording overMidnight
  rwa [if_neg fun undatable => by cases undatable.1] at read

end SleepySensor.BrokerLog
