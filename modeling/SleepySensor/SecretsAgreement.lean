import SleepySensor.SecretsText

/-!
# Two readers of the secrets

When the firmware and the tool read the same value for a key.
-/

set_option autoImplicit false

namespace SleepySensor.SecretsAgreement

open SleepySensor.LineSearch SleepySensor.SecretsText

/-! ## Files -/

def isPrintable (c : Char) : Bool := decide (32 ≤ c.toNat) && decide (c.toNat ≤ 126)

structure Printable where
  text : Text
  printable : ∀ c ∈ text, isPrintable c = true

structure Key where
  text : Text
  some_ : text ≠ []
  word : ∀ c ∈ text, isWord c = true

structure Value extends Printable where
  unquoted : '"' ∉ text

/-- A line; spaces stand before the comment of an assignment. -/
inductive Line where
  | blank (spaces : Nat)
  | comment (note : Printable)
  | assign (key : Key) (value : Value) (spaces : Nat) (note : Option Printable)

def spaces_ (count : Nat) : Text := List.replicate count ' '

/-- What stands behind the closing quote. -/
def trailing (spaces : Nat) (note : Option Printable) : Text :=
  spaces_ spaces ++ note.elim [] fun note => '#' :: note.text

def Line.text : Line → Text
  | .blank spaces => spaces_ spaces
  | .comment note => '#' :: note.text
  | .assign key value spaces note =>
    key.text ++ [':', ' '] ++ '"' :: (value.text ++ '"' :: trailing spaces note)

def Line.entry? : Line → Option (Text × Text)
  | .assign key value _ _ => some (key.text, value.text)
  | _ => none

structure SecretsFile where
  lines : List Line
  distinct : (Dict.keys (lines.filterMap Line.entry?)).Nodup

/-- A file that ends with a newline has a blank line at its end. -/
def contentOf (lines : List Line) : Text := Quoted.joined '\n' (lines.map Line.text)

/-- The value of the line whose key is exactly that key, or the empty string. -/
def valueOf (lines : List Line) (key : Key) : Text :=
  ((lines.filterMap Line.entry?).lookup key.text).getD []

/-! ## Shadows -/

def rest_ : List Line → Text
  | [] => []
  | line :: lines => '\n' :: contentOf (line :: lines)

/-- What a line of another key gives for a key: its own value, if its key ends
with the key, or what stands behind its value, if the value ends like the start
of an assignment. -/
def shadowOf (key : Key) (behind_ : Text) : Line → Option Text
  | .assign other value spaces note =>
    if key.text <:+ other.text then some value.text
    else if key.text ++ [':', ' '] <:+ value.text ∧ '#' ∉ value.text then
      some (upToQuote (trailing spaces note ++ behind_))
    else none
  | _ => none

/-- The first shadow above the line of a key. -/
def firstShadow (key : Key) : List Line → Option Text
  | [] => none
  | line :: lines =>
    if line.entry?.any fun entry => entry.1 == key.text then none
    else (shadowOf key (rest_ lines) line).or (firstShadow key lines)

/-- No shadow, or one that happens to be the value. -/
def Unshadowed (file : SecretsFile) (key : Key) : Prop :=
  ∀ text, firstShadow key file.lines = some text → text = valueOf file.lines key

def Agree (file : SecretsFile) (key : Key) : Prop :=
  yamlGetString (contentOf file.lines) key.text = valueOf file.lines key ∧
    ((readSecrets (contentOf file.lines)).lookup key.text).getD [] = valueOf file.lines key

/-! ## The firmware -/

section Characters

theorem isWord_range {c : Char} (word : isWord c = true) : 48 ≤ c.toNat ∧ c.toNat ≤ 122 := by
  rcases Bool.or_eq_true_iff.mp word with alphanum | underscore
  · rcases Bool.or_eq_true_iff.mp alphanum with alpha | digit
    · rcases Bool.or_eq_true_iff.mp alpha with upper | lower
      · obtain ⟨above, below⟩ := of_decide_eq_true upper
        exact ⟨(by decide : 48 ≤ 65).trans above, le_trans below (by decide)⟩
      · obtain ⟨above, below⟩ := Bool.and_eq_true_iff.mp lower
        exact ⟨(by decide : 48 ≤ 97).trans (of_decide_eq_true above), of_decide_eq_true below⟩
    · obtain ⟨above, below⟩ := Bool.and_eq_true_iff.mp digit
      exact ⟨of_decide_eq_true above, le_trans (of_decide_eq_true below) (by decide)⟩
  · rw [eq_of_beq underscore]
    decide

theorem not_mem_of_word {text : Text} (word : ∀ c ∈ text, isWord c = true) {c : Char}
    (other : isWord c = false) : c ∉ text := by
  intro member
  rw [word c member] at other
  cases other

theorem not_mem_of_printable {text : Text} (printable : ∀ c ∈ text, isPrintable c = true) {c : Char}
    (other : isPrintable c = false) : c ∉ text := by
  intro member
  rw [printable c member] at other
  cases other

theorem not_mem_spaces {count : Nat} {c : Char} (other : c ≠ ' ') : c ∉ spaces_ count := by
  intro member
  exact other (List.eq_of_mem_replicate member)

end Characters

theorem contentOf_cons (line : Line) (lines : List Line) :
    contentOf (line :: lines) = line.text ++ rest_ lines := by
  cases lines with
  | nil => simp [contentOf, Quoted.joined, rest_]
  | cons next lines => rfl

theorem upToQuote_value (value : Value) (rest : Text) :
    upToQuote (value.text ++ '"' :: rest) = value.text := by
  have all : ∀ c ∈ value.text, decide (c ≠ '"') = true := by
    intro c member
    exact decide_eq_true fun same => value.unquoted (same ▸ member)
  rw [upToQuote, if_pos (by simp), List.takeWhile_append_of_pos all]
  simp

section Lines

variable (key : Key) {tail : Text} {next : Option Text}
  (ends : ∀ commented, behind '\n' '#' (search key.text) commented tail = next)

theorem exists_start : ∃ start others, search key.text = start :: others ∧ isWord start = true := by
  obtain ⟨start, others, cons⟩ := List.exists_cons_of_ne_nil key.some_
  refine ⟨start, others ++ [':', ' '] ++ ['"'], by rw [search, cons]; rfl, key.word start ?_⟩
  rw [cons]
  exact List.mem_cons_self

include ends

theorem behind_spaces (count : Nat) (commented : Bool) :
    behind '\n' '#' (search key.text) commented (spaces_ count ++ tail) = next := by
  obtain ⟨start, others, cons, word⟩ := exists_start key
  have other : start ≠ ' ' := by
    rintro rfl
    exact absurd word (by decide)
  rw [← ends commented, cons]
  exact behind_skip commented (not_mem_spaces other) (not_mem_spaces (by decide))
    (not_mem_spaces (by decide))

theorem behind_note (note : Printable) (commented : Bool) :
    behind '\n' '#' (search key.text) commented ('#' :: note.text ++ tail) = next := by
  obtain ⟨start, others, cons, word⟩ := exists_start key
  have other : start ≠ '#' := by
    rintro rfl
    exact absurd word (by decide)
  have open_ : inComment '\n' '#' commented '#' = true := by simp [inComment]
  rw [List.cons_append, behind, cons, if_neg (by simp [List.isPrefixOf, other]), open_, ← cons,
    behind_commented (not_mem_of_printable note.printable (by decide)), ends]

theorem behind_trailing (count : Nat) (note : Option Printable) (commented : Bool) :
    behind '\n' '#' (search key.text) commented (trailing count note ++ tail) = next := by
  rw [trailing, List.append_assoc]
  refine behind_spaces key ?_ count commented
  intro commented
  cases note with
  | none => exact ends commented
  | some note => exact behind_note key ends note commented

theorem behind_assign (other : Key) (value : Value) (count : Nat) (note : Option Printable) :
    behind '\n' '#' (search key.text) false ((Line.assign other value count note).text ++ tail) =
      if key.text <:+ other.text then some (value.text ++ '"' :: (trailing count note ++ tail))
      else if key.text ++ [':', ' '] <:+ value.text ∧ '#' ∉ value.text then
        some (trailing count note ++ tail)
      else next := by
  have keyUnquoted : '"' ∉ key.text ++ [':', ' '] := by
    simp [not_mem_of_word key.word (show isWord '"' = false from rfl)]
  have keyUnhashed : '#' ∉ key.text ++ [':', ' '] := by
    simp [not_mem_of_word key.word (show isWord '#' = false from rfl)]
  have unquoted : '"' ∉ other.text ++ [':', ' '] := by
    simp [not_mem_of_word other.word (show isWord '"' = false from rfl)]
  have unhashed : '#' ∉ other.text ++ [':', ' '] := by
    simp [not_mem_of_word other.word (show isWord '#' = false from rfl)]
  have oneLine : '\n' ∉ other.text ++ [':', ' '] := by
    simp [not_mem_of_word other.word (show isWord '\n' = false from rfl)]
  have valueLine : '\n' ∉ value.text := not_mem_of_printable value.printable (by decide)
  have shape : (Line.assign other value count note).text ++ tail =
      (other.text ++ [':', ' ']) ++ '"' :: (value.text ++ '"' ::
        (trailing count note ++ tail)) := by
    simp [Line.text]
  have first := @behind_segment _ _ '\n' '#' '"' _ _
    (value.text ++ '"' :: (trailing count note ++ tail)) false keyUnquoted keyUnhashed unquoted
    oneLine (by decide) (by decide)
  have second :=
    @behind_segment _ _ '\n' '#' '"' _ _ (trailing count note ++ tail) false keyUnquoted
    keyUnhashed value.unquoted valueLine (by decide) (by decide)
  rw [shape, search, first]
  by_cases longer : key.text <:+ other.text
  · rw [if_pos longer, if_pos ⟨List.suffix_append_self_iff.mpr longer, rfl, unhashed⟩]
  · rw [if_neg longer, if_neg fun both => longer (List.suffix_append_self_iff.mp both.1)]
    have plain : (false || decide ('#' ∈ other.text ++ [':', ' '])) = false := by simp [unhashed]
    rw [plain, second]
    by_cases inValue : key.text ++ [':', ' '] <:+ value.text ∧ '#' ∉ value.text
    · rw [if_pos inValue, if_pos ⟨inValue.1, rfl, inValue.2⟩]
    · rw [if_neg inValue, if_neg fun all => inValue ⟨all.1, all.2.2⟩]
      exact behind_trailing key ends count note _

/-- A line without a shadow is passed over. -/
theorem behind_line (line : Line) (none_ : shadowOf key tail line = none) :
    behind '\n' '#' (search key.text) false (line.text ++ tail) = next := by
  cases line with
  | blank count => exact behind_spaces key ends count false
  | comment note => exact behind_note key ends note false
  | assign other value count note =>
    rw [behind_assign key ends]
    rw [shadowOf] at none_
    split at none_
    · cases none_
    · next shorter =>
      split at none_
      · cases none_
      · next outside => rw [if_neg shorter, if_neg outside]

theorem quotedOf_line (line : Line) {text : Text} (shadow : shadowOf key tail line = some text) :
    quotedOf (behind '\n' '#' (search key.text) false (line.text ++ tail)) = text := by
  cases line with
  | blank count => cases shadow
  | comment note => cases shadow
  | assign other value count note =>
    rw [behind_assign key ends]
    rw [shadowOf] at shadow
    split at shadow
    · next longer =>
      cases shadow
      rw [if_pos longer]
      exact upToQuote_value value _
    · next shorter =>
      split at shadow
      · next inside =>
        cases shadow
        rw [if_neg shorter, if_pos inside]
        rfl
      · cases shadow

end Lines

theorem shadowOf_own {key : Key} {line : Line} (tail : Text) {value : Text}
    (own : line.entry? = some (key.text, value)) : shadowOf key tail line = some value := by
  cases line with
  | blank count => cases own
  | comment note => cases own
  | assign other content count note =>
    obtain ⟨same, rfl⟩ := Prod.mk.inj (Option.some.inj own)
    rw [shadowOf, if_pos (same ▸ List.suffix_rfl)]

theorem valueOf_cons (line : Line) (lines : List Line) (key : Key) :
    valueOf (line :: lines) key =
      if line.entry?.any fun entry => entry.1 == key.text then
        (line.entry?.map Prod.snd).getD []
      else valueOf lines key := by
  unfold valueOf
  cases entry : line.entry? with
  | none => simp [entry]
  | some pair =>
    rw [List.filterMap_cons_some entry, List.lookup_cons]
    by_cases same : pair.1 = key.text
    · simp [same]
    · have differs : (key.text == pair.1) = false := by simpa using Ne.symm same
      simp [same, differs]

theorem behind_rest (key : Key) (lines : List Line) (commented : Bool) :
    behind '\n' '#' (search key.text) commented (rest_ lines) =
      behind '\n' '#' (search key.text) false (contentOf lines) := by
  cases lines with
  | nil => rfl
  | cons line lines =>
    obtain ⟨start, others, cons, word⟩ := exists_start key
    have other : start ≠ '\n' := by
      rintro rfl
      exact absurd word (by decide)
    rw [rest_, behind, cons, if_neg (by simp [List.isPrefixOf, other])]
    rfl

/-- The firmware gives the first shadow above the key's own line, or the value. -/
theorem yamlGetString_contentOf (lines : List Line) (key : Key) :
    yamlGetString (contentOf lines) key.text =
      (firstShadow key lines).getD (valueOf lines key) := by
  rw [yamlGetString_eq (not_mem_of_word key.word (by decide))]
  induction lines with
  | nil => rfl
  | cons line lines ih =>
    have ends : ∀ commented, behind '\n' '#' (search key.text) commented (rest_ lines) =
        behind '\n' '#' (search key.text) false (contentOf lines) := behind_rest key lines
    rw [contentOf_cons, firstShadow, valueOf_cons]
    by_cases own : (line.entry?.any fun entry => entry.1 == key.text) = true
    · rw [if_pos own, if_pos own]
      obtain ⟨⟨name, value⟩, found, same⟩ := (Option.any_eq_true _ _).mp own
      obtain rfl : name = key.text := by simpa using same
      rw [quotedOf_line key ends line (shadowOf_own _ found), found]
      rfl
    · rw [if_neg own, if_neg own]
      cases shadow : shadowOf key (rest_ lines) line with
      | none =>
        rw [behind_line key ends line shadow, ih]
        rfl
      | some text => exact quotedOf_line key ends line shadow

/-! ## The tool -/

section Tool

theorem isPrintable_of_word {c : Char} (word : isWord c = true) : isPrintable c = true := by
  obtain ⟨low, high⟩ := isWord_range word
  simp only [isPrintable, Bool.and_eq_true, decide_eq_true_eq]
  omega

theorem not_boundary {c : Char} (printable : isPrintable c = true) : isBoundary c = false := by
  simp only [isPrintable, Bool.and_eq_true, decide_eq_true_eq] at printable
  simp only [isBoundary, List.mem_cons, List.not_mem_nil, or_false, decide_eq_false_iff_not]
  omega

theorem not_space {c : Char} (word : isWord c = true) : isSpace c = false := by
  obtain ⟨low, high⟩ := isWord_range word
  simp only [isSpace, List.mem_cons, List.not_mem_nil, or_false, decide_eq_false_iff_not]
  omega

theorem printable_line (line : Line) : ∀ c ∈ line.text, isPrintable c = true := by
  have spaces : ∀ count, ∀ c ∈ spaces_ count, isPrintable c = true := by
    intro count c member
    rw [List.eq_of_mem_replicate member]
    rfl
  intro c member
  cases line with
  | blank count => exact spaces count c member
  | comment note =>
    rcases List.mem_cons.mp member with rfl | member
    · rfl
    · exact note.printable c member
  | assign key value count note =>
    simp only [Line.text, trailing, List.append_assoc, List.mem_append, List.mem_cons,
      List.not_mem_nil, or_false] at member
    rcases member with inKey | (rfl | rfl) | rfl | inValue | rfl | inSpaces | inNote
    · exact isPrintable_of_word (key.word c inKey)
    · rfl
    · rfl
    · rfl
    · exact value.printable c inValue
    · rfl
    · exact spaces count c inSpaces
    · cases note with
      | none => cases inNote
      | some note =>
        rcases List.mem_cons.mp inNote with rfl | member
        · rfl
        · exact note.printable c member

theorem splitlines_line {line : Text} (clean : ∀ c ∈ line, isBoundary c = false) :
    splitlines line = if line = [] then [] else [line] := by
  induction line with
  | nil => rfl
  | cons c rest ih =>
    rw [splitlines, if_neg (by simp [clean c List.mem_cons_self]),
      ih fun other member => clean other (List.mem_cons_of_mem c member)]
    by_cases empty_ : rest = []
    · simp [empty_]
    · simp [empty_]

theorem splitlines_append {line : Text} (clean : ∀ c ∈ line, isBoundary c = false) (rest : Text) :
    splitlines (line ++ '\n' :: rest) = line :: splitlines rest := by
  induction line with
  | nil => rfl
  | cons c line ih =>
    rw [List.cons_append, splitlines, if_neg (by simp [clean c List.mem_cons_self]),
      ih fun other member => clean other (List.mem_cons_of_mem c member)]

theorem matchLine_text (line : Line) : matchLine line.text = line.entry? := by
  cases line with
  | blank count =>
    have gone : (spaces_ count).dropWhile isSpace = [] := by
      rw [List.dropWhile_eq_nil_iff]
      intro c member
      rw [List.eq_of_mem_replicate member]
      rfl
    rw [Line.text, matchLine, gone]
    rfl
  | comment note => rfl
  | assign key value count note =>
    obtain ⟨start, others, cons⟩ := List.exists_cons_of_ne_nil key.some_
    have first : isSpace start = false :=
      not_space (key.word start (by rw [cons]; exact List.mem_cons_self))
    have body : (Line.assign key value count note).text.dropWhile isSpace =
        key.text ++ (':' :: ' ' :: '"' :: (value.text ++ '"' :: trailing count note)) := by
      simp [Line.text, cons, first]
    have name :
        (key.text ++ (':' :: ' ' :: '"' :: (value.text ++ '"' :: trailing count note))).takeWhile
        isWord = key.text := by
      rw [List.takeWhile_append_of_pos key.word]
      exact List.append_nil _
    have behind_ :
        (key.text ++ (':' :: ' ' :: '"' :: (value.text ++ '"' :: trailing count note))).dropWhile
        isWord = ':' :: ' ' :: '"' :: (value.text ++ '"' :: trailing count note) := by
      rw [List.dropWhile_append_of_pos key.word]
      rfl
    have quoted := upToQuote_value value (trailing count note)
    rw [upToQuote, if_pos (by simp)] at quoted
    rw [matchLine, body, name, behind_, if_neg key.some_]
    simp only [List.dropWhile_cons, show isSpace ':' = false from rfl,
      show isSpace ' ' = true from rfl,
      show isSpace '"' = false from rfl, if_true, Bool.false_eq_true, if_false]
    rw [if_pos (by simp), quoted]
    rfl

theorem filterMap_matchLine (lines : List Line) :
    (splitlines (contentOf lines)).filterMap matchLine = lines.filterMap Line.entry? := by
  induction lines with
  | nil => rfl
  | cons line lines ih =>
    have clean : ∀ c ∈ line.text, isBoundary c = false := fun c member =>
      not_boundary (printable_line line c member)
    rw [contentOf_cons, List.filterMap_cons, ← matchLine_text]
    cases lines with
    | nil =>
      rw [rest_, List.append_nil, splitlines_line clean]
      by_cases empty_ : line.text = []
      · simp [empty_, matchLine]
      · simp [empty_, List.filterMap_cons]
    | cons next lines =>
      rw [rest_, splitlines_append clean, List.filterMap_cons, ih]

end Tool

theorem readSecrets_contentOf (file : SecretsFile) (key : Key) :
    ((readSecrets (contentOf file.lines)).lookup key.text).getD [] = valueOf file.lines key := by
  rw [readSecrets, filterMap_matchLine, Dict.ofEntries_of_nodup file.distinct, valueOf]

/-- Both give the value of a key exactly where no shadow of another text stands
above it. -/
theorem agree_iff (file : SecretsFile) (key : Key) : Agree file key ↔ Unshadowed file key := by
  unfold Agree Unshadowed
  rw [yamlGetString_contentOf, readSecrets_contentOf, and_iff_left rfl]
  cases firstShadow key file.lines with
  | none => simp
  | some text => simp

/-! ## A key that ends with another one -/

def mqttPort : Key where
  text := "mqtt_port".toList
  some_ := by decide
  word := List.all_eq_true.mp (by decide)

def otaMqttPort : Key where
  text := "ota_mqtt_port".toList
  some_ := by decide
  word := List.all_eq_true.mp (by decide)

def portOne : Value where
  text := ['1']
  printable := List.all_eq_true.mp (by decide)
  unquoted := by decide

def port1883 : Value where
  text := "1883".toList
  printable := List.all_eq_true.mp (by decide)
  unquoted := by decide

/-- `ota_mqtt_port: "1"` stands above `mqtt_port: "1883"`. -/
def portsFile : SecretsFile where
  lines := [.assign otaMqttPort portOne 0 none, .assign mqttPort port1883 0 none]
  distinct := by decide

theorem longer_key_read : ¬∀ (file : SecretsFile) (key : Key), Agree file key := by
  intro always
  obtain ⟨firmware, -⟩ := always portsFile mqttPort
  rw [yamlGetString_contentOf] at firmware
  exact absurd firmware (by decide)

end SleepySensor.SecretsAgreement
