import Mathlib.Computability.RegularExpressions
import Mathlib.Data.Rat.Floor
import SleepySensor.Lib.Dict
import SleepySensor.SecretsText

/-!
# Clock drift of a capture

`tools/rtc_slow_cal_repro/clock_drift.py`: the lines of a capture and its
segments.  Words, digits and blanks are those of ASCII, and floats are exact; a
value that is not finite is `none`.
-/

set_option autoImplicit false

namespace SleepySensor.ClockDrift

abbrev Text := List Char

inductive PyError where
  | valueError
  | keyError
  | zeroDivision
  deriving DecidableEq, Repr

/-! ## Report lines -/

/-- One report line; the mode is absent in the short format. -/
structure Clk where
  n : Int
  devS : ℚ
  mode : Option Text
  cal : Int
  dieCold : Option ℚ
  dieWarm : Option ℚ
  sleptUs : Option Int := none
  sleeps : Option Int := none
  overruns : Int := 0
  entryCal : Option Int := none
  wakeCal : Option Int := none
  busyMs : Option Int := none
  deriving DecidableEq, Repr

inductive CharClass where
  | digit
  | letter
  | equals
  | minus
  | blank
  | other
  deriving DecidableEq, Repr

def classOf (c : Char) : CharClass :=
  if c.isDigit then .digit
  else if SecretsText.isWord c then .letter
  else if c = '=' then .equals
  else if c = '-' then .minus
  else if c = ' ' then .blank
  else .other

def wordRe : RegularExpression CharClass := .char .digit + .char .letter

def digitRe : RegularExpression CharClass := .char .digit

def valueRe : RegularExpression CharClass := (1 + .char .minus) * (digitRe * digitRe.star)

def tokenRe : RegularExpression CharClass :=
  wordRe * wordRe.star * .char .equals * valueRe * (1 + .char .blank)

/-- `SHORT_RE`, with the group behind the `C`. -/
def shortGroup : Text → Option Text
  | 'C' :: ' ' :: group =>
    if (tokenRe * tokenRe.star).rmatch (group.map classOf) then some group else none
  | _ => none

/-- `int` of a text without blanks, underscores and a plus sign. -/
def pyInt : Text → Except PyError Int
  | '-' :: digits =>
    if digits ≠ [] ∧ digits.all Char.isDigit = true then
      pure (-(Nat.ofDigitChars 10 digits 0 : Int))
    else throw .valueError
  | digits =>
    if digits ≠ [] ∧ digits.all Char.isDigit = true then pure (Nat.ofDigitChars 10 digits 0 : Int)
    else throw .valueError

/-- `text.split()`, for a text whose blanks are spaces. -/
def splitBlanks (text : Text) : List Text := (text.splitOn ' ').filter fun token => token ≠ []

def keyValue (token : Text) : Text × Text :=
  (token.takeWhile fun c => c ≠ '=', (token.dropWhile fun c => c ≠ '=').drop 1)

def dictOf (tokens : List Text) : List (Text × Text) := Dict.ofEntries (tokens.map keyValue)

def lookup (key : String) (f : List (Text × Text)) : Option Text := f.lookup key.toList

def required (key : String) (f : List (Text × Text)) : Except PyError Int :=
  match lookup key f with
  | some text => pyInt text
  | none => throw .keyError

def optional (key : String) (f : List (Text × Text)) : Except PyError (Option Int) :=
  match lookup key f with
  | some text => some <$> pyInt text
  | none => pure none

def shortClk (f : List (Text × Text)) : Except PyError (Option Clk) :=
  if (lookup "n" f).isSome ∧ (lookup "t" f).isSome ∧ (lookup "c" f).isSome then do
    let die ← optional "d" f
    let sleptUs ← optional "s" f
    let sleeps ← optional "k" f
    let entryCal ← optional "e" f
    let wakeCal ← optional "w" f
    let busyMs ← optional "b" f
    let n ← required "n" f
    let t ← required "t" f
    let c ← required "c" f
    let o ← optional "o" f
    pure (some
      { n := n
        devS := t / 1000000
        mode := none
        cal := c
        dieCold := die.map fun die => (die : ℚ) / 10
        dieWarm := none
        sleptUs := sleptUs
        sleeps := sleeps
        overruns := o.getD 0
        entryCal := entryCal
        wakeCal := wakeCal
        busyMs := busyMs })
  else pure none

/-- `CLK_RE`: the groups of the first match. -/
structure ClkGroups where
  n : Text
  timeUs : Text
  mode : Text
  cal : Text
  die : Option (Text × Text)

/-- A literal, and then the longest run of a kind of characters, which is not empty. -/
def behindRun (literal : String) (kind : Char → Bool) (text : Text) : Option (Text × Text) :=
  match literal.toList.isPrefixOf? text with
  | none => none
  | some rest =>
    if rest.takeWhile kind = [] then none else some (rest.takeWhile kind, rest.dropWhile kind)

def isPrinted (c : Char) : Bool := !SecretsText.isSpace c

/-- `-?\d+` behind a literal. -/
def behindInt (literal : String) (text : Text) : Option (Text × Text) :=
  match literal.toList.isPrefixOf? text with
  | none => none
  | some ('-' :: rest) =>
    (behindRun "" Char.isDigit rest).map fun found => ('-' :: found.1, found.2)
  | some rest => behindRun "" Char.isDigit rest

def matchClk (text : Text) : Option ClkGroups := do
  let (n, text) ← behindRun "CLK n=" Char.isDigit text
  let (timeUs, text) ← behindInt " t_us=" text
  let (mode, text) ← behindRun " mode=" isPrinted text
  let (cal, text) ← behindRun " cal=" Char.isDigit text
  let die := do
    let (cold, text) ← behindRun " die_cold=" isPrinted text
    let (warm, _) ← behindRun " die_warm=" isPrinted text
    pure (cold, warm)
  pure { n := n, timeUs := timeUs, mode := mode, cal := cal, die := die }

def search {α : Type} (at_ : Text → Option α) : Text → Option α
  | [] => at_ []
  | c :: rest => (at_ (c :: rest)).orElse fun _ => search at_ rest

section Capture

-- `float` of a text.
variable (pyFloat : Text → Except PyError (Option ℚ))

def olderClk (groups : ClkGroups) : Except PyError Clk := do
  let cold ← match groups.die with
    | some die => pyFloat die.1
    | none => pure none
  let warm ← match groups.die with
    | some die => pyFloat die.2
    | none => pure none
  let n ← pyInt groups.n
  let timeUs ← pyInt groups.timeUs
  let cal ← pyInt groups.cal
  pure
    { n := n, devS := timeUs / 1000000, mode := some groups.mode, cal := cal
      dieCold := cold, dieWarm := warm }

def parseClk (text : Text) : Except PyError (Option Clk) :=
  match shortGroup text with
  | some group => shortClk (dictOf (splitBlanks group))
  | none =>
    match search matchClk text with
    | some groups => some <$> olderClk pyFloat groups
    | none => pure none

end Capture

/-! ## Segments -/

structure Point where
  wall : Text
  hostS : ℚ
  devS : ℚ
  n : Int
  cal : Int
  dieCold : Option ℚ
  dieWarm : Option ℚ
  sleptUs : Option Int
  sleeps : Option Int
  overruns : Int
  entryCal : Option Int
  wakeCal : Option Int
  busyMs : Option Int
  deriving DecidableEq, Repr

def Point.fromClk (wall : Text) (hostS : ℚ) (clk : Clk) : Point :=
  { wall := wall
    hostS := hostS
    devS := clk.devS
    n := clk.n
    cal := clk.cal
    dieCold := clk.dieCold
    dieWarm := clk.dieWarm
    sleptUs := clk.sleptUs
    sleeps := clk.sleeps
    overruns := clk.overruns
    entryCal := clk.entryCal
    wakeCal := clk.wakeCal
    busyMs := clk.busyMs }

structure Segment where
  mode : Text
  points : List Point := []
  deriving DecidableEq, Repr

/-- `BANNER_MODE_RE.search`; whether the character before belongs to a word. -/
def searchMode : Bool → Text → Option Text
  | _, [] => none
  | inWord, c :: rest =>
    match if inWord then none else behindRun "mode=" isPrinted (c :: rest) with
    | some found => some found.1
    | none => searchMode (SecretsText.isWord c) rest

/-- The mode of a boot banner, empty if it names none. -/
def bannerMode (text : Text) : Option Text :=
  if "REPRO ".toList <:+: text then some ((searchMode false text).getD []) else none

/-- The seconds of a line on the wire, at a rate that is not 0. -/
def onWire (text : Text) (baud : Int) : ℚ :=
  ((text.map fun c => c.utf8Size).sum + 2 : Nat) * 10 / baud

def wireTimeS (text : Text) (baud : Int) : Except PyError ℚ :=
  if baud = 0 then throw .zeroDivision else pure (onWire text baud)

def partsOf (raw : Text) : Option (Text × Text × Text) :=
  let line := raw.rdropWhile fun c => c = '\n'
  match line.dropWhile fun c => c ≠ ' ' with
  | [] => none
  | _ :: behind =>
    match behind.dropWhile fun c => c ≠ ' ' with
    | [] => none
    | _ :: text =>
      some (line.takeWhile fun c => c ≠ ' ', behind.takeWhile fun c => c ≠ ' ', text)

inductive Item where
  | banner (mode : Text)
  | report (wall : Text) (hostS : ℚ) (clk : Clk)
  | other
  deriving DecidableEq, Repr

/-- The segments so far: those before the last one, and that one. -/
structure Cutting where
  closed : List Segment := []
  cur : Option Segment := none

def Cutting.segments (cutting : Cutting) : List Segment := cutting.closed ++ cutting.cur.toList

/-- Whether the line cannot belong to the segment. -/
def Segment.breaks (segment : Segment) (mode : Text) (clk : Clk) : Bool :=
  (segment.mode ≠ [] && segment.mode ≠ mode) ||
    segment.points.getLast?.any fun last => decide (clk.n ≤ last.n ∨ clk.devS ≤ last.devS)

/-- The mode of a line: its own, the segment's, or a question mark. -/
def modeOf (cur : Option Segment) (clk : Clk) : Text :=
  match clk.mode, cur with
  | some mode, _ => mode
  | none, some segment => if segment.mode ≠ [] then segment.mode else "?".toList
  | none, none => "?".toList

def Cutting.report (cutting : Cutting) (wall : Text) (hostS : ℚ) (clk : Clk) : Cutting :=
  let mode := modeOf cutting.cur clk
  let point := Point.fromClk wall hostS clk
  match cutting.cur with
  | none => { cutting with cur := some { mode := mode, points := [point] } }
  | some segment =>
    if segment.breaks mode clk then
      { closed := cutting.closed ++ [segment], cur := some { mode := mode, points := [point] } }
    else { cutting with cur := some { mode := mode, points := segment.points ++ [point] } }

def Cutting.item (cutting : Cutting) : Item → Cutting
  | .banner mode => { closed := cutting.segments, cur := some { mode := mode } }
  | .report wall hostS clk => cutting.report wall hostS clk
  | .other => cutting

def splitItems (items : List Item) : List Segment :=
  (items.foldl Cutting.item {}).segments.filter fun segment => segment.points ≠ []

section Split

-- `float` of a text.
variable (pyFloat : Text → Except PyError (Option ℚ))

def itemOf (baud : Int) (raw : Text) : Except PyError Item :=
  match partsOf raw with
  | none => pure .other
  | some (wall, mono, text) => do
    let ns ← pyInt mono
    let wire ← wireTimeS text baud
    match bannerMode text with
    | some mode => pure (.banner mode)
    | none =>
      let clk ← parseClk pyFloat text
      match clk with
      | some clk => pure (.report wall (ns / 1000000000 - wire) clk)
      | none => pure .other

def splitSegments (baud : Int) (lines : List Text) : Except PyError (List Segment) := do
  let items ← lines.mapM (itemOf pyFloat baud)
  pure (splitItems items)

end Split

end SleepySensor.ClockDrift
