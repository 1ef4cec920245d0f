import SleepySensor.ClockDrift
import SleepySensor.RtcRepro

/-!
# Captures of the reproducer

A line that the reproducer prints is read with the values it was printed from,
and a capture falls into the boots it was taken of.
-/

set_option autoImplicit false

namespace SleepySensor.ClockDrift

open RtcRepro (App Report Wake decimal)

/-! ## The line of a report -/

def tokenOf (field : Text × Int) : Text := field.1 ++ '=' :: decimal field.2

theorem decimal_cases (value : Int) :
    ∃ digits, digits ≠ [] ∧ (∀ c ∈ digits, c.isDigit = true) ∧
      (decimal value = digits ∨ decimal value = '-' :: digits) := by
  refine ⟨Nat.toDigits 10 value.natAbs, Nat.toDigits_ne_nil, ?_, ?_⟩
  · intro c member
    exact Nat.isDigit_of_mem_toDigits (by decide) (by decide) member
  · unfold decimal
    split
    · exact Or.inr rfl
    · exact Or.inl rfl

theorem pyInt_decimal (value : Int) : pyInt (decimal value) = .ok value := by
  have digits : (Nat.toDigits 10 value.natAbs).all Char.isDigit = true :=
    List.all_eq_true.mpr fun c member => Nat.isDigit_of_mem_toDigits (by decide) (by decide) member
  have some_ : Nat.toDigits 10 value.natAbs ≠ [] := Nat.toDigits_ne_nil
  have read : Nat.ofDigitChars 10 (Nat.toDigits 10 value.natAbs) 0 = value.natAbs :=
    Nat.ofDigitChars_ten_toDigits
  unfold decimal
  split
  case isTrue negative =>
    rw [pyInt, if_pos ⟨some_, digits⟩, read]
    show Except.ok _ = _
    congr 1
    omega
  case isFalse positive =>
    have plain : ∀ rest, Nat.toDigits 10 value.natAbs ≠ '-' :: rest := by
      intro rest same
      have minus := List.all_eq_true.mp digits '-' (same ▸ List.mem_cons_self)
      exact absurd minus (by decide)
    rw [pyInt.eq_2 _ plain, if_pos ⟨some_, digits⟩, read]
    show Except.ok _ = _
    congr 1
    omega

theorem pyInt_natural (value : Nat) : pyInt (Nat.toDigits 10 value) = .ok (value : Int) := by
  have plain := pyInt_decimal (value : Int)
  rwa [decimal, if_neg (by omega), Int.natAbs_natCast] at plain

theorem star_run {re : RegularExpression CharClass} {run : List CharClass}
    (single : ∀ x ∈ run, re.rmatch [x] = true) : re.star.rmatch run = true := by
  rw [RegularExpression.star_rmatch_iff]
  refine ⟨run.map fun x => [x], by simp [← List.flatMap_def], ?_⟩
  intro piece member
  obtain ⟨x, inRun, rfl⟩ := List.mem_map.mp member
  exact ⟨List.cons_ne_nil _ _, single x inRun⟩

theorem plus_run {re : RegularExpression CharClass} {run : List CharClass} (some_ : run ≠ [])
    (single : ∀ x ∈ run, re.rmatch [x] = true) : (re * re.star).rmatch run = true := by
  cases run with
  | nil => exact absurd rfl some_
  | cons x rest =>
    rw [RegularExpression.mul_rmatch_iff]
    exact ⟨[x], rest, rfl, single x List.mem_cons_self,
      star_run fun y member => single y (List.mem_cons_of_mem _ member)⟩

theorem mul_rmatch {first second : RegularExpression CharClass} {left right : List CharClass}
    (one : first.rmatch left = true) (two : second.rmatch right = true) :
    (first * second).rmatch (left ++ right) = true := by
  rw [RegularExpression.mul_rmatch_iff]
  exact ⟨left, right, rfl, one, two⟩

def Named (name : Text) : Prop :=
  name ≠ [] ∧ ∀ c ∈ name, classOf c = .digit ∨ classOf c = .letter

theorem value_rmatch (value : Int) :
    valueRe.rmatch ((decimal value).map classOf) = true := by
  obtain ⟨digits, some_, isDigit, either⟩ := decimal_cases value
  have run : (digitRe * digitRe.star).rmatch (digits.map classOf) = true := by
    apply plus_run (by simpa using some_)
    intro x member
    obtain ⟨c, inDigits, rfl⟩ := List.mem_map.mp member
    rw [classOf, if_pos (isDigit c inDigits)]
    rfl
  rcases either with plain | signed
  · rw [plain]
    exact @mul_rmatch (1 + .char .minus) _ [] _ rfl run
  · rw [signed]
    exact @mul_rmatch (1 + .char .minus) _ [.minus] _ rfl run

def blankBehind (last : Bool) : Text := if last then [] else [' ']

theorem token_rmatch {field : Text × Int} (named : Named field.1) (last : Bool) :
    tokenRe.rmatch ((tokenOf field ++ blankBehind last).map classOf) = true := by
  have word : (wordRe * wordRe.star).rmatch (field.1.map classOf) = true := by
    apply plus_run (by simpa using named.1)
    intro x member
    obtain ⟨c, inName, rfl⟩ := List.mem_map.mp member
    rcases named.2 c inName with digit | letter
    · rw [digit]
      rfl
    · rw [letter]
      rfl
  have blank : (1 + .char .blank : RegularExpression CharClass).rmatch
      ((blankBehind last).map classOf) = true := by
    cases last <;> rfl
  have equals : (.char .equals : RegularExpression CharClass).rmatch [.equals] = true := rfl
  have whole := mul_rmatch (mul_rmatch (mul_rmatch word equals) (value_rmatch field.2)) blank
  have same : (tokenOf field ++ blankBehind last).map classOf =
      field.1.map classOf ++ [.equals] ++ (decimal field.2).map classOf ++
        (blankBehind last).map classOf := by
    simp [tokenOf, show classOf '=' = .equals from rfl]
  rw [same]
  exact whole

def groupOf : List (Text × Int) → Text
  | [] => []
  | [field] => tokenOf field
  | field :: next :: rest => tokenOf field ++ ' ' :: groupOf (next :: rest)

theorem group_rmatch {fields : List (Text × Int)} (some_ : fields ≠ [])
    (named : ∀ field ∈ fields, Named field.1) :
    (tokenRe * tokenRe.star).rmatch ((groupOf fields).map classOf) = true := by
  induction fields with
  | nil => exact absurd rfl some_
  | cons field rest ih =>
    obtain ⟨first, named⟩ := List.forall_mem_cons.mp named
    cases rest with
    | nil =>
      have token := token_rmatch first true
      rw [blankBehind, if_pos rfl, List.append_nil] at token
      have none_ : (tokenRe.star).rmatch [] = true := star_run fun _ member => by cases member
      have whole := mul_rmatch token none_
      rwa [List.append_nil] at whole
    | cons next rest =>
      have later := ih (List.cons_ne_nil _ _) named
      have token := token_rmatch first false
      have star : (tokenRe.star).rmatch ((groupOf (next :: rest)).map classOf) = true := by
        rw [RegularExpression.mul_rmatch_iff] at later
        obtain ⟨left, right, split, one, more⟩ := later
        rw [RegularExpression.star_rmatch_iff] at more ⊢
        obtain ⟨pieces, flat, each⟩ := more
        refine ⟨left :: pieces, by rw [split, flat, List.flatten_cons], ?_⟩
        intro piece member
        rcases List.mem_cons.mp member with rfl | later
        · refine ⟨?_, one⟩
          rintro rfl
          exact absurd one (by decide)
        · exact each piece later
      have whole := mul_rmatch token star
      rw [← List.map_append] at whole
      simpa [blankBehind, groupOf] using whole

theorem line_eq (report : Report) : report.line = 'C' :: ' ' :: groupOf report.fields := by
  have joined : ∀ field rest, ((field :: rest : List (Text × Int)).flatMap fun field =>
      ' ' :: field.1 ++ '=' :: decimal field.2) = ' ' :: groupOf (field :: rest) := by
    intro field rest
    induction rest generalizing field with
    | nil => simp [groupOf, tokenOf]
    | cons next rest ih =>
      rw [List.flatMap_cons, ih next, groupOf]
      simp [tokenOf]
  obtain ⟨field, rest, fields⟩ : ∃ field rest, report.fields = field :: rest := ⟨_, _, rfl⟩
  rw [Report.line, fields, joined field rest]

/-! ## The fields of a report -/

theorem groupOf_eq_intercalate (fields : List (Text × Int)) :
    groupOf fields = [' '].intercalate (fields.map tokenOf) := by
  induction fields with
  | nil => rfl
  | cons field rest ih =>
    cases rest with
    | nil => simp [groupOf]
    | cons next rest =>
      rw [groupOf, ih]
      simp

theorem decimal_not_mem {value : Int} {c : Char} (other : c.isDigit = false) (plus : c ≠ '-') :
    c ∉ decimal value := by
  obtain ⟨digits, _, isDigit, either⟩ := decimal_cases value
  have absent : c ∉ digits := fun member => by
    rw [isDigit c member] at other
    cases other
  rcases either with plain | signed
  · rw [plain]
    exact absent
  · rw [signed]
    exact List.not_mem_cons_of_ne_of_not_mem plus absent

theorem word_ne {c other : Char} (word : classOf c = .digit ∨ classOf c = .letter)
    (kind : classOf other ≠ .digit ∧ classOf other ≠ .letter) : c ≠ other := by
  rintro rfl
  exact word.elim kind.1 kind.2

theorem name_not_mem {name : Text} {c : Char} (named : Named name)
    (kind : classOf c ≠ .digit ∧ classOf c ≠ .letter) : c ∉ name :=
  fun member => word_ne (named.2 c member) kind rfl

theorem splitBlanks_group {fields : List (Text × Int)} (some_ : fields ≠ [])
    (named : ∀ field ∈ fields, Named field.1) :
    splitBlanks (groupOf fields) = fields.map tokenOf := by
  have clean : ∀ token ∈ fields.map tokenOf, ' ' ∉ token := by
    intro token member
    obtain ⟨field, inFields, rfl⟩ := List.mem_map.mp member
    have name := @name_not_mem _ ' ' (named field inFields) (by decide)
    have value := @decimal_not_mem field.2 ' ' (by decide) (by decide)
    simp [tokenOf, name, value]
  rw [splitBlanks, groupOf_eq_intercalate, List.splitOn_intercalate ' ' clean
    (by simpa using some_),
    List.filter_eq_self.mpr]
  intro token member
  obtain ⟨field, inFields, rfl⟩ := List.mem_map.mp member
  simp [tokenOf]

theorem keyValue_token {field : Text × Int} (named : Named field.1) :
    keyValue (tokenOf field) = (field.1, decimal field.2) := by
  have apart : ∀ c ∈ field.1, (decide (c ≠ '=')) = true := by
    intro c member
    exact decide_eq_true (word_ne (named.2 c member) (by decide))
  have take : (tokenOf field).takeWhile (fun c => c ≠ '=') = field.1 := by
    rw [tokenOf, List.takeWhile_append_of_pos apart]
    simp
  have drop : (tokenOf field).dropWhile (fun c => c ≠ '=') = '=' :: decimal field.2 := by
    rw [tokenOf, List.dropWhile_append_of_pos apart]
    simp
  rw [keyValue, take, drop]
  rfl

theorem named_letter {c : Char} (letter : classOf c = .letter) : Named [c] := by
  refine ⟨List.cons_ne_nil _ _, ?_⟩
  intro other member
  obtain rfl := List.mem_singleton.mp member
  exact Or.inr letter

def fieldNames : List Text :=
  ["n", "t", "c", "d", "r", "s", "k", "e", "w", "b", "o"].map String.toList

theorem names_sublist (report : Report) : (report.fields.map Prod.fst).Sublist fieldNames := by
  have names : report.fields.map Prod.fst =
      (["n", "t", "c"] ++ (if report.die.isSome then ["d"] else []) ++
        ["r", "s", "k", "e", "w", "b"] ++
        if 0 < report.overruns then ["o"] else []).map String.toList := by
    unfold Report.fields
    dsimp only
    cases report.die <;> split <;> rfl
  rw [names]
  by_cases some_ : 0 < report.overruns
  · rw [if_pos some_]
    cases report.die.isSome <;> decide
  · rw [if_neg some_]
    cases report.die.isSome <;> decide

theorem fields_named (report : Report) : ∀ field ∈ report.fields, Named field.1 := by
  intro field member
  have known : field.1 ∈ fieldNames := (names_sublist report).subset (List.mem_map_of_mem member)
  simp only [fieldNames, List.map_cons, List.map_nil, List.mem_cons, List.not_mem_nil,
    or_false] at known
  rcases known with name | name | name | name | name | name | name | name | name | name | name <;>
    · rw [name]
      exact named_letter rfl

theorem names_nodup (report : Report) : (report.fields.map Prod.fst).Nodup :=
  (by decide : fieldNames.Nodup).sublist (names_sublist report)

def clkOf (report : Report) : Clk :=
  { n := report.n
    devS := report.timer / 1000000
    mode := none
    cal := report.cal
    dieCold := report.die.map fun die => (die : ℚ) / 10
    dieWarm := none
    sleptUs := some report.sleptUs
    sleeps := some report.sleeps
    overruns := report.overruns
    entryCal := some report.entryCal
    wakeCal := some report.wakeCal
    busyMs := some report.busyMs }

section Fields

variable (report : Report)

def dictOfReport : List (Text × Text) := report.fields.map fun field => (field.1, decimal field.2)

theorem lookup_die : lookup "d" (dictOfReport report) = report.die.map decimal := by
  unfold dictOfReport Report.fields
  dsimp only
  cases report.die <;> split <;> rfl

theorem lookup_overruns : lookup "o" (dictOfReport report) =
    if 0 < report.overruns then some (decimal report.overruns) else none := by
  unfold dictOfReport Report.fields
  dsimp only
  cases report.die <;> split <;> rfl

theorem lookup_sleeps : lookup "s" (dictOfReport report) = some (decimal report.sleptUs) ∧
    lookup "k" (dictOfReport report) = some (decimal report.sleeps) ∧
    lookup "e" (dictOfReport report) = some (decimal report.entryCal) ∧
    lookup "w" (dictOfReport report) = some (decimal report.wakeCal) ∧
    lookup "b" (dictOfReport report) = some (decimal report.busyMs) := by
  unfold dictOfReport Report.fields
  dsimp only
  cases report.die <;> exact ⟨rfl, rfl, rfl, rfl, rfl⟩

theorem shortClk_fields : shortClk (dictOfReport report) = .ok (some (clkOf report)) := by
  obtain ⟨s, k, e, w, b⟩ := lookup_sleeps report
  have n : lookup "n" (dictOfReport report) = some (decimal report.n) := rfl
  have t : lookup "t" (dictOfReport report) = some (decimal report.timer) := rfl
  have c : lookup "c" (dictOfReport report) = some (decimal report.cal) := rfl
  have die : optional "d" (dictOfReport report) = .ok report.die := by
    rw [optional, lookup_die]
    cases report.die with
    | none => rfl
    | some die =>
      show some <$> pyInt (decimal die) = _
      rw [pyInt_decimal]
      rfl
  have overruns : ∃ o, optional "o" (dictOfReport report) = .ok o ∧ o.getD 0 = report.overruns := by
    rw [optional, lookup_overruns]
    by_cases some_ : 0 < report.overruns
    · refine ⟨some report.overruns, ?_, rfl⟩
      rw [if_pos some_]
      show some <$> pyInt (decimal report.overruns) = _
      rw [pyInt_decimal]
      rfl
    · refine ⟨none, by rw [if_neg some_]; rfl, ?_⟩
      show 0 = (report.overruns : Int)
      omega
  obtain ⟨o, overruns, value⟩ := overruns
  have optional_ : ∀ key value, lookup key (dictOfReport report) = some (decimal value) →
      optional key (dictOfReport report) = .ok (some value) := by
    intro key value found
    rw [optional, found]
    show some <$> pyInt (decimal value) = _
    rw [pyInt_decimal]
    rfl
  have required_ : ∀ key value, lookup key (dictOfReport report) = some (decimal value) →
      required key (dictOfReport report) = .ok value := by
    intro key value found
    rw [required, found]
    exact pyInt_decimal value
  rw [shortClk, if_pos ⟨by rw [n]; rfl, by rw [t]; rfl, by rw [c]; rfl⟩, die, optional_ _ _ s,
    optional_ _ _ k, optional_ _ _ e, optional_ _ _ w, optional_ _ _ b, required_ _ _ n,
    required_ _ _ t, required_ _ _ c, overruns]
  show Except.ok (some _) = _
  rw [value]
  rfl

end Fields

theorem parseClk_line (pyFloat : Text → Except PyError (Option ℚ)) (report : Report) :
    parseClk pyFloat report.line = .ok (some (clkOf report)) := by
  have some_ : report.fields ≠ [] := List.cons_ne_nil _ _
  have named := fields_named report
  have group : shortGroup report.line = some (groupOf report.fields) := by
    rw [line_eq, shortGroup, if_pos (group_rmatch some_ named)]
  have pairs : (report.fields.map tokenOf).map keyValue =
      report.fields.map fun field => (field.1, decimal field.2) := by
    rw [List.map_map]
    exact List.map_congr_left fun field member => keyValue_token (named field member)
  have dict : dictOf (splitBlanks (groupOf report.fields)) = dictOfReport report := by
    rw [splitBlanks_group some_ named, dictOf, pairs, Dict.ofEntries_of_nodup, dictOfReport]
    have keys : Dict.keys (report.fields.map fun field => (field.1, decimal field.2)) =
        report.fields.map Prod.fst := by
      simp [Dict.keys, Function.comp_def]
    rw [keys]
    exact names_nodup report
  rw [parseClk, group]
  dsimp only
  rw [dict]
  exact shortClk_fields report

/-! ## The lines of a capture -/

/-- A line as `cmd_log` writes it. -/
def captureLine (wall : Text) (mono : Nat) (text : Text) : Text :=
  wall ++ ' ' :: Nat.toDigits 10 mono ++ ' ' :: text ++ ['\n']

/-- A wall time as `isoformat` prints it, as far as the format rests on it. -/
def Wall (wall : Text) : Prop := ' ' ∉ wall ∧ '\n' ∉ wall

theorem partsOf_captureLine {wall text : Text} (mono : Nat) (wall_ : Wall wall)
    (clean : '\n' ∉ text) :
    partsOf (captureLine wall mono text) = some (wall, Nat.toDigits 10 mono, text) := by
  have digit : ∀ c ∈ Nat.toDigits 10 mono, c.isDigit = true := fun c member =>
    Nat.isDigit_of_mem_toDigits (by decide) (by decide) member
  have digits : ∀ c ∈ Nat.toDigits 10 mono, decide (c ≠ ' ') = true := by
    intro c member
    refine decide_eq_true fun same => ?_
    have blank := digit c member
    rw [same] at blank
    exact absurd blank (by decide)
  have newline : '\n' ∉ Nat.toDigits 10 mono := fun member =>
    absurd (digit _ member) (by decide)
  have first : ∀ c ∈ wall, decide (c ≠ ' ') = true :=
    fun c member => decide_eq_true fun same => wall_.1 (same ▸ member)
  have stripped : (captureLine wall mono text).rdropWhile (fun c => c = '\n') =
      wall ++ ' ' :: (Nat.toDigits 10 mono ++ ' ' :: text) := by
    have line : captureLine wall mono text =
        (wall ++ ' ' :: (Nat.toDigits 10 mono ++ ' ' :: text)) ++ ['\n'] := by
      simp [captureLine]
    rw [line, List.rdropWhile_concat_pos _ _ _ (by simp), List.rdropWhile_eq_self_iff]
    intro some_ last
    have member := List.getLast_mem some_
    rw [of_decide_eq_true last] at member
    simp [wall_.2, newline, clean] at member
  simp only [partsOf, stripped, List.dropWhile_append_of_pos first,
    List.takeWhile_append_of_pos first]
  simp only [List.dropWhile_cons, List.takeWhile_cons, ne_eq, not_true_eq_false, decide_false,
    Bool.false_eq_true, if_false, List.append_nil]
  have rest : (Nat.toDigits 10 mono ++ ' ' :: text).dropWhile (fun c => decide (c ≠ ' ')) =
      ' ' :: text := by
    rw [List.dropWhile_append_of_pos digits]
    simp
  have run : (Nat.toDigits 10 mono ++ ' ' :: text).takeWhile (fun c => decide (c ≠ ' ')) =
      Nat.toDigits 10 mono := by
    rw [List.takeWhile_append_of_pos digits]
    simp
  simp only [ne_eq] at rest run
  rw [rest, run]

theorem line_not_mem (report : Report) {c : Char} (apart : c ∉ ['C', ' ', '=', '-'])
    (other : c.isDigit = false) (names : ∀ name ∈ fieldNames, c ∉ name) : c ∉ report.line := by
  simp only [List.mem_cons, List.not_mem_nil, or_false, not_or] at apart
  obtain ⟨first, blank, equals, minus⟩ := apart
  intro member
  rcases List.mem_cons.mp member with same | member
  · exact first same
  · obtain ⟨field, inFields, member⟩ := List.mem_flatMap.mp member
    have known : field.1 ∈ fieldNames :=
      (names_sublist report).subset (List.mem_map_of_mem inFields)
    have value := @decimal_not_mem field.2 c other minus
    simp [blank, equals, names field.1 known, value] at member

theorem bannerMode_line (report : Report) : bannerMode report.line = none := by
  have absent : 'R' ∉ report.line := line_not_mem report (by decide) (by decide) (by decide)
  rw [bannerMode, if_neg]
  intro infix_
  exact absent (infix_.subset (by decide))

/-- A line that reaches the host: a report of the reproducer, or anything that is
neither a report nor a banner. -/
inductive Received (pyFloat : Text → Except PyError (Option ℚ)) where
  | report (wall : Text) (mono : Nat) (report : Report) (wall_ : Wall wall)
  | noise (wall : Text) (mono : Nat) (text : Text) (wall_ : Wall wall) (clean : '\n' ∉ text)
      (noBanner : bannerMode text = none) (noReport : parseClk pyFloat text = .ok none)

namespace Received

variable {pyFloat : Text → Except PyError (Option ℚ)}

def line : Received pyFloat → Text
  | .report wall mono shown _ => captureLine wall mono shown.line
  | .noise wall mono text _ _ _ _ => captureLine wall mono text

def hostS (baud : Int) (mono : Nat) (shown : Report) : ℚ :=
  (mono : ℚ) / 1000000000 - onWire shown.line baud

def point? (baud : Int) : Received pyFloat → Option Point
  | .report wall mono shown _ => some (Point.fromClk wall (hostS baud mono shown) (clkOf shown))
  | .noise .. => none

def report? : Received pyFloat → Option Report
  | .report _ _ shown _ => some shown
  | .noise .. => none

def item (baud : Int) : Received pyFloat → Item
  | .report wall mono shown _ => .report wall (hostS baud mono shown) (clkOf shown)
  | .noise .. => .other

theorem itemOf_line {baud : Int} (rate : baud ≠ 0) (received : Received pyFloat) :
    itemOf pyFloat baud received.line = .ok (received.item baud) := by
  cases received with
  | report wall mono shown wall_ =>
    have clean : '\n' ∉ shown.line := line_not_mem shown (by decide) (by decide) (by decide)
    simp only [line, itemOf, partsOf_captureLine mono wall_ clean, pyInt_natural, wireTimeS,
      if_neg rate, bannerMode_line, parseClk_line]
    rfl
  | noise wall mono text wall_ clean noBanner noReport =>
    simp only [line, itemOf, partsOf_captureLine mono wall_ clean, pyInt_natural, wireTimeS,
      if_neg rate, noBanner, noReport]
    rfl

end Received

/-! ## Boots -/

section Boots

variable {pyFloat : Text → Except PyError (Option ℚ)}

def Later (report next : Report) : Prop := report.n < next.n ∧ report.timer < next.timer

/-- The reports among the lines are of one boot, in order; any may be lost. -/
def OneBoot (received : List (Received pyFloat)) : Prop :=
  (received.filterMap Received.report?).IsChain Later

/-- The segment of these lines, if a report is among them. -/
def segmentOf (baud : Int) (mode : Text) (received : List (Received pyFloat)) : Option Segment :=
  if received.filterMap (Received.point? baud) = [] then none
  else some { mode := mode, points := received.filterMap (Received.point? baud) }

variable (pyFloat) in
structure Boot where
  wall : Text
  mono : Nat
  banner : Text
  mode : Text
  received : List (Received pyFloat)
  wall_ : Wall wall
  clean : '\n' ∉ banner
  names : bannerMode banner = some mode
  mode_ : mode ≠ []
  ordered : OneBoot received

variable (pyFloat) in
/-- A capture that begins within a boot and goes on over others. -/
structure Capture where
  lead : List (Received pyFloat)
  boots : List (Boot pyFloat)
  ordered : OneBoot lead

def Boot.lines (boot : Boot pyFloat) : List Text :=
  captureLine boot.wall boot.mono boot.banner :: boot.received.map Received.line

def Capture.lines (capture : Capture pyFloat) : List Text :=
  capture.lead.map Received.line ++ capture.boots.flatMap Boot.lines

def Capture.segments (baud : Int) (capture : Capture pyFloat) : List Segment :=
  (segmentOf baud "?".toList capture.lead).toList ++
    capture.boots.filterMap fun boot => segmentOf baud boot.mode boot.received

def Precedes (points : List Point) (received : List (Received pyFloat)) : Prop :=
  ∀ last ∈ points.getLast?, ∀ next ∈ (received.filterMap Received.report?).head?,
    last.n < next.n ∧ last.devS < (next.timer : ℚ) / 1000000

theorem precedes_concat {points : List Point} {received : List (Received pyFloat)}
    {wall : Text} {hostS : ℚ} {shown : Report}
    (ordered : (shown :: received.filterMap Received.report?).IsChain Later) :
    Precedes (points ++ [Point.fromClk wall hostS (clkOf shown)]) received := by
  intro last isLast next isNext
  rw [List.getLast?_concat] at isLast
  obtain rfl := Option.some.inj isLast
  cases reports : received.filterMap Received.report? with
  | nil => simp [reports] at isNext
  | cons first rest =>
    rw [reports] at isNext ordered
    obtain rfl := Option.some.inj isNext
    obtain ⟨n, timer⟩ := (List.isChain_cons_cons.mp ordered).1
    refine ⟨Int.ofNat_lt.mpr n, ?_⟩
    show (shown.timer : ℚ) / 1000000 < (first.timer : ℚ) / 1000000
    have cast : (shown.timer : ℚ) < first.timer := by exact_mod_cast timer
    linarith

theorem reports_join (baud : Int) {closed : List Segment} {mode : Text} {points : List Point}
    {received : List (Received pyFloat)} (mode_ : mode ≠ []) (starts : Precedes points received)
    (ordered : OneBoot received) :
    (received.map (Received.item baud)).foldl Cutting.item
        { closed := closed, cur := some { mode := mode, points := points } } =
      { closed := closed
        cur := some
          { mode := mode, points := points ++ received.filterMap (Received.point? baud) } } := by
  induction received generalizing points with
  | nil => simp
  | cons line received ih =>
    cases line with
    | noise wall mono text wall_ clean noBanner noReport => exact ih starts ordered
    | report wall mono shown wall_ =>
      let point := Point.fromClk wall (Received.hostS baud mono shown) (clkOf shown)
      have joins :
          ({ mode := mode, points := points } : Segment).breaks mode (clkOf shown) = false := by
        cases found : points.getLast? with
        | none => simp [Segment.breaks, found]
        | some last =>
          obtain ⟨n, timer⟩ := starts last found shown rfl
          have apart : ¬ ((clkOf shown).n ≤ last.n ∨ (clkOf shown).devS ≤ last.devS) :=
            not_or.mpr ⟨not_le.mpr n, not_le.mpr timer⟩
          simp only [Segment.breaks, found, ne_eq, not_true_eq_false, decide_false, Bool.and_false,
            Bool.false_or, Option.any_some, decide_eq_false apart]
      have later := @ih (points ++ [point]) (precedes_concat ordered) (List.IsChain.tail ordered)
      rw [List.append_assoc, List.singleton_append] at later
      rw [List.map_cons, List.foldl_cons]
      have step : Cutting.item { closed := closed, cur := some { mode := mode, points := points } }
          (@Received.item pyFloat baud (.report wall mono shown wall_)) =
          { closed := closed, cur := some { mode := mode, points := points ++ [point] } } := by
        have same : modeOf (some { mode := mode, points := points }) (clkOf shown) = mode := by
          simp [modeOf, clkOf, mode_]
        simp only [Received.item, Cutting.item, Cutting.report, same, joins, Bool.false_eq_true,
          if_false]
        rfl
      rw [step]
      exact later

theorem filter_segment (baud : Int) (mode : Text) (received : List (Received pyFloat)) :
    [({ mode := mode, points := received.filterMap (Received.point? baud) } : Segment)].filter
        (fun segment => segment.points ≠ []) = (segmentOf baud mode received).toList := by
  unfold segmentOf
  by_cases none_ : received.filterMap (Received.point? baud) = [] <;> simp [none_]

theorem filter_boots (baud : Int) (boots : List (Boot pyFloat)) :
    (boots.map fun boot => ({ mode := boot.mode
                              points :=
                                boot.received.filterMap (Received.point? baud) } : Segment)).filter
        (fun segment => segment.points ≠ []) =
      boots.filterMap fun boot => segmentOf baud boot.mode boot.received := by
  induction boots with
  | nil => rfl
  | cons boot boots ih =>
    have one := filter_segment baud boot.mode boot.received
    rw [List.map_cons, ← List.singleton_append, List.filter_append, one, ih]
    cases found : segmentOf baud boot.mode boot.received <;> simp [found]

def Boot.items (baud : Int) (boot : Boot pyFloat) : List Item :=
  .banner boot.mode :: boot.received.map (Received.item baud)

theorem boots_fold (baud : Int) (boots : List (Boot pyFloat)) (cutting : Cutting) :
    ((boots.flatMap (Boot.items baud)).foldl Cutting.item cutting).segments =
      cutting.segments ++ boots.map fun boot =>
        { mode := boot.mode, points := boot.received.filterMap (Received.point? baud) } := by
  induction boots generalizing cutting with
  | nil => simp
  | cons boot boots ih =>
    have joined := @reports_join pyFloat baud cutting.segments boot.mode [] boot.received boot.mode_
      (fun last isLast => by simp at isLast) boot.ordered
    rw [List.flatMap_cons, List.foldl_append, ih, Boot.items, List.foldl_cons]
    have opened : cutting.item (.banner boot.mode) =
        { closed := cutting.segments, cur := some { mode := boot.mode } } := rfl
    rw [opened, joined]
    simp [Cutting.segments]

theorem lead_fold (baud : Int) {lead : List (Received pyFloat)} (ordered : OneBoot lead) :
    ((lead.map (Received.item baud)).foldl Cutting.item {}).segments =
      (segmentOf baud "?".toList lead).toList := by
  induction lead with
  | nil => rfl
  | cons line lead ih =>
    cases line with
    | noise wall mono text wall_ clean noBanner noReport => exact ih ordered
    | report wall mono shown wall_ =>
      have joined := @reports_join pyFloat baud [] "?".toList
        [Point.fromClk wall (Received.hostS baud mono shown) (clkOf shown)] lead (by decide)
        (@precedes_concat pyFloat [] lead wall _ shown ordered) (List.IsChain.tail ordered)
      have opened : Cutting.item {} (@Received.item pyFloat baud (.report wall mono shown wall_)) =
          ({ closed := [], cur := some { mode := "?".toList, points :=
            [Point.fromClk wall (Received.hostS baud mono shown) (clkOf shown)] } } : Cutting) :=
        rfl
      rw [List.map_cons, List.foldl_cons, opened, joined]
      simp [segmentOf, Cutting.segments, Received.point?]

theorem mapM_received {baud : Int} (rate : baud ≠ 0) (received : List (Received pyFloat)) :
    (received.map Received.line).mapM (itemOf pyFloat baud) =
      .ok (received.map (Received.item baud)) := by
  induction received with
  | nil => rfl
  | cons line received ih =>
    rw [List.map_cons, List.mapM_cons, Received.itemOf_line rate, ih]
    rfl

theorem itemOf_banner {baud : Int} (rate : baud ≠ 0) (boot : Boot pyFloat) :
    itemOf pyFloat baud (captureLine boot.wall boot.mono boot.banner) =
      .ok (.banner boot.mode) := by
  simp only [itemOf, partsOf_captureLine boot.mono boot.wall_ boot.clean, pyInt_natural, wireTimeS,
    if_neg rate, boot.names]
  rfl

theorem mapM_boots {baud : Int} (rate : baud ≠ 0) (boots : List (Boot pyFloat)) :
    (boots.flatMap Boot.lines).mapM (itemOf pyFloat baud) =
      .ok (boots.flatMap (Boot.items baud)) := by
  induction boots with
  | nil => rfl
  | cons boot boots ih =>
    rw [List.flatMap_cons, List.mapM_append, ih, Boot.lines, List.mapM_cons,
      itemOf_banner rate, mapM_received rate]
    rfl

/-- A capture falls into the boots it was taken of, whichever of their reports
are lost on the wire. -/
theorem splitSegments_capture {baud : Int} (rate : baud ≠ 0) (capture : Capture pyFloat) :
    splitSegments pyFloat baud capture.lines = .ok (capture.segments baud) := by
  have items : capture.lines.mapM (itemOf pyFloat baud) =
      .ok (capture.lead.map (Received.item baud) ++ capture.boots.flatMap (Boot.items baud)) := by
    rw [Capture.lines, List.mapM_append, mapM_received rate, mapM_boots rate]
    rfl
  rw [splitSegments, items]
  show Except.ok (splitItems _) = _
  rw [splitItems, List.foldl_append, boots_fold, lead_fold baud capture.ordered,
    List.filter_append, filter_boots, ← filter_segment, List.filter_filter]
  simp only [Bool.and_self, filter_segment]
  rfl

end Boots

/-! ## The lines of one boot -/

theorem wake_n (reportEvery : Nat) {app : App} (number : app.n + 1 < u32Mod) (wake : Wake) :
    (app.wake reportEvery wake).2.n = app.n + 1 := by
  have same : u32 (app.n + 1) = app.n + 1 := Nat.mod_eq_of_lt number
  unfold App.wake
  dsimp only
  split <;> exact same

theorem wake_shows {reportEvery : Nat} {app : App} {wake : Wake} {shown : Report}
    (printed : shown ∈ (app.wake reportEvery wake).1.toList) :
    shown.n = app.n ∧ shown.timer = wake.timer := by
  unfold App.wake at printed
  dsimp only at printed
  split at printed
  · obtain rfl := Option.some.inj (Option.mem_toList.mp printed)
    exact ⟨rfl, rfl⟩
  · cases printed

theorem run_bounds (reportEvery : Nat) {wakes : List Wake} {app : App}
    (numbers : app.n + wakes.length < u32Mod) : ∀ shown ∈ app.run reportEvery wakes,
      app.n ≤ shown.n ∧ ∃ wake ∈ wakes, shown.timer = wake.timer := by
  induction wakes generalizing app with
  | nil => simp [App.run]
  | cons wake wakes ih =>
    rw [List.length_cons] at numbers
    have next := @wake_n reportEvery app (by omega) wake
    intro shown listed
    rw [App.run] at listed
    rcases List.mem_append.mp listed with here | later
    · have own := wake_shows here
      exact ⟨own.1.ge, wake, List.mem_cons_self, own.2⟩
    · obtain ⟨n, wake', among, timer⟩ := ih (by rw [next]; omega) shown later
      exact ⟨by omega, wake', List.mem_cons_of_mem _ among, timer⟩

theorem run_pairwise (reportEvery : Nat) {wakes : List Wake} {app : App}
    (numbers : app.n + wakes.length < u32Mod)
    (timers : (wakes.map Wake.timer).Pairwise fun earlier later => earlier < later) :
    (app.run reportEvery wakes).Pairwise Later := by
  induction wakes generalizing app with
  | nil => exact List.Pairwise.nil
  | cons wake wakes ih =>
    rw [List.length_cons] at numbers
    obtain ⟨ahead, timers⟩ := List.pairwise_cons.mp timers
    have next := @wake_n reportEvery app (by omega) wake
    have numbers' : (app.wake reportEvery wake).2.n + wakes.length < u32Mod := by omega
    rw [App.run, List.pairwise_append]
    refine ⟨?_, ih numbers' timers, ?_⟩
    · cases (app.wake reportEvery wake).1 with
      | none => exact List.Pairwise.nil
      | some shown => exact List.pairwise_singleton _ shown
    · intro shown here later listed
      have own := wake_shows here
      obtain ⟨n, wake', among, timer⟩ := run_bounds reportEvery numbers' later listed
      refine ⟨by omega, ?_⟩
      rw [own.2, timer]
      exact ahead _ (List.mem_map_of_mem among)

section Runs

variable (pyFloat : Text → Except PyError (Option ℚ))

/-- What reaches the host of a boot: other lines, and those of its reports that no
sleep of the console cut off. -/
structure Sent where
  reportEvery : Nat
  wakes : List Wake
  received : List (Received pyFloat)
  numbers : wakes.length + 1 < u32Mod
  timers : (wakes.map Wake.timer).Pairwise fun earlier later => earlier < later
  arrived : (received.filterMap Received.report?).Sublist (({} : App).run reportEvery wakes)

/-- A boot with the banner before it. -/
structure Booted where
  sent : Sent pyFloat
  wall : Text
  mono : Nat
  banner : Text
  mode : Text
  wall_ : Wall wall
  clean : '\n' ∉ banner
  names : bannerMode banner = some mode
  mode_ : mode ≠ []

variable {pyFloat}

theorem Sent.oneBoot (sent : Sent pyFloat) : OneBoot sent.received := by
  have starts : ({} : App).n + sent.wakes.length < u32Mod := by
    have numbers := sent.numbers
    show 1 + sent.wakes.length < u32Mod
    omega
  exact ((run_pairwise sent.reportEvery starts sent.timers).sublist sent.arrived).isChain

def Booted.boot (booted : Booted pyFloat) : Boot pyFloat :=
  { wall := booted.wall
    mono := booted.mono
    banner := booted.banner
    mode := booted.mode
    received := booted.sent.received
    wall_ := booted.wall_
    clean := booted.clean
    names := booted.names
    mode_ := booted.mode_
    ordered := booted.sent.oneBoot }

/-- A capture over boots of the reproducer, begun within one of them, is cut at
their banners and nowhere else.  The banner of the first is not in it. -/
theorem splitSegments_runs {baud : Int} (rate : baud ≠ 0) (lead : Sent pyFloat)
    (boots : List (Booted pyFloat)) :
    splitSegments pyFloat baud
        (lead.received.map Received.line ++ boots.flatMap fun booted => booted.boot.lines) =
      .ok ((segmentOf baud "?".toList lead.received).toList ++
        boots.filterMap fun booted => segmentOf baud booted.mode booted.sent.received) := by
  have cut := splitSegments_capture rate
    { lead := lead.received, boots := boots.map Booted.boot, ordered := lead.oneBoot }
  simp only [Capture.lines, Capture.segments, List.flatMap_map, List.filterMap_map] at cut
  exact cut

def noFloat : Text → Except PyError (Option ℚ) := fun _ => .error .valueError

def shortWake (timer : Int) : Wake :=
  { sleepMs := 1000, attempts := [⟨3000000, 990000, 3000100⟩], die := some 251, timer := timer
    cal := 3000000, inTime := true }

theorem wall_w : Wall "w".toList := ⟨by decide, by decide⟩

/-- The second of two lines, and a line of another kind. -/
def endOfBoot : List (Received noFloat) :=
  ((({} : App).run 1 [shortWake 1000000, shortWake 2000000]).drop 1).map (fun shown =>
    .report "w".toList 5000000000 shown wall_w) ++
  [.noise "w".toList 6000000000 "I (31) boot".toList wall_w (by decide) (by decide +kernel)
    (by rfl)]

def twoWakes : Sent noFloat where
  reportEvery := 1
  wakes := [shortWake 1000000, shortWake 2000000]
  received := endOfBoot
  numbers := by decide
  timers := by decide
  arrived := by decide

def stockBoot : Booted noFloat where
  sent := twoWakes
  wall := "w".toList
  mono := 4000000000
  banner := "REPRO idf=v6.0 mode=stock sleep_ms=1..10000".toList
  mode := "stock".toList
  wall_ := wall_w
  clean := by decide
  names := by decide +kernel
  mode_ := by decide

theorem splitSegments_runs_twoBoots :
    splitSegments noFloat 115200
        (twoWakes.received.map Received.line ++ [stockBoot].flatMap fun booted =>
          booted.boot.lines) =
      .ok [{ mode := "?".toList, points := twoWakes.received.filterMap (Received.point? 115200) },
        { mode := "stock".toList
          points := twoWakes.received.filterMap (Received.point? 115200) }] :=
  splitSegments_runs (by decide) twoWakes [stockBoot]

end Runs

end SleepySensor.ClockDrift
