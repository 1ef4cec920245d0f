import SleepySensor.Lib.Dict
import SleepySensor.Lib.LineSearch

/-!
# The text of the secrets

`yaml_get_string` of `secrets.h` searches the whole text for a key, and
`read_secrets` of `ota_push.py` matches line by line.
-/

set_option autoImplicit false

namespace SleepySensor.SecretsText

open SleepySensor.LineSearch

abbrev Text := List Char

/-! ## `yaml_get_string` -/

def search (key : Text) : Text := key ++ [':', ' '] ++ ['"']

theorem search_length (key : Text) : (search key).length = key.length + 3 := by simp [search]

/-- The loop, from `search_from` on. -/
def yamlScan (content key : Text) (searchFrom : Nat) : Text :=
  match _found : find (search key) content searchFrom with
  | none => []
  | some pos =>
    let lineBegin := (rfind '\n' content pos).elim 0 (· + 1)
    if (find ['#'] content lineBegin).any fun hashPos => decide (hashPos < pos) then
      yamlScan content key (pos + (search key).length)
    else
      let valStart := pos + (search key).length
      match find ['"'] content valStart with
      | none => []
      | some valEnd => (content.drop valStart).take (valEnd - valStart)
termination_by content.length - searchFrom
decreasing_by
  have bounds := find_bounds (by simp [search]) _found
  have long := search_length key
  omega

def yamlGetString (content key : Text) : Text := yamlScan content key 0

/-- The text up to the next quote, or none of it. -/
def upToQuote (text : Text) : Text :=
  if '"' ∈ text then text.takeWhile fun c => decide (c ≠ '"') else []

/-- What the text behind the first match makes. -/
def quotedOf (rest : Option Text) : Text := rest.elim [] upToQuote

theorem find_quote (content : Text) (start : Nat) :
    (find ['"'] content start).elim [] (fun valEnd => (content.drop start).take (valEnd - start)) =
      upToQuote (content.drop start) := by
  rw [find, first_mark, upToQuote]
  by_cases quoted : '"' ∈ content.drop start
  · have whole := List.prefix_iff_eq_take.mp (List.takeWhile_prefix (l := content.drop start)
      fun c => decide (c ≠ '"'))
    rw [if_pos quoted, if_pos quoted, whole]
    simp
  · rw [if_neg quoted, if_neg quoted]
    rfl

section Loop

variable {content key : Text} {searchFrom pos : Nat}

theorem prefix_find (found : find (search key) content searchFrom = some pos) :
    search key <+: content.drop pos := by
  obtain ⟨offset, here, rfl⟩ := Option.map_eq_some_iff.mp found
  have starts := prefix_drop_first here
  rwa [List.drop_drop, Nat.add_comm] at starts

theorem behind_find (found : find (search key) content searchFrom = some pos) :
    behind '\n' '#' (search key) ((content.take searchFrom).foldl (inComment '\n' '#') false)
        (content.drop searchFrom) =
      behind '\n' '#' (search key) (decide ('#' ∈ lineOf '\n' (content.take pos)))
        (content.drop pos) := by
  obtain ⟨offset, here, rfl⟩ := Option.map_eq_some_iff.mp found
  rw [behind_first _ here, ← List.foldl_append, ← List.take_add, List.drop_drop,
    foldl_inComment _ (by decide), Nat.add_comm]

/-- The loop's test for a comment, where a key starts. -/
theorem hash_before (starts : search key <+: content.drop pos) (oneLine : '\n' ∉ search key) :
    ((find ['#'] content ((rfind '\n' content pos).elim 0 (· + 1))).any fun hashPos =>
      decide (hashPos < pos)) = decide ('#' ∈ lineOf '\n' (content.take pos)) := by
  obtain ⟨c, others, drops⟩ : ∃ c others, content.drop pos = c :: others := by
    rcases rest : content.drop pos with _ | ⟨c, others⟩
    · rw [rest] at starts
      simp [search] at starts
    · exact ⟨c, others, rfl⟩
  have inside : pos < content.length := by
    by_contra beyond
    rw [List.drop_eq_nil_of_le (not_lt.mp beyond)] at drops
    cases drops
  have apart : c ≠ '\n' := by
    rintro rfl
    rw [drops] at starts
    obtain ⟨first, rest, cons⟩ := List.exists_cons_of_ne_nil (l := search key) (by simp [search])
    rw [cons] at starts oneLine
    exact oneLine ((List.cons_prefix_cons.mp starts).1 ▸ List.mem_cons_self)
  have upTo : content.take (pos + 1) = content.take pos ++ [c] := by
    rw [List.take_add, drops]
    rfl
  have line : rfind '\n' content pos = last '\n' (content.take pos) := by
    rw [rfind, upTo, last_concat, if_neg apart]
  obtain ⟨from_, length⟩ := lineStart '\n' (content.take pos)
  rw [List.length_take, Nat.min_eq_left inside.le] at length
  rw [line]
  generalize (last '\n' (content.take pos)).elim 0 (· + 1) = start at from_ length
  have split_ : content.drop start = lineOf '\n' (content.take pos) ++ content.drop pos := by
    rw [← from_, ← List.drop_append_of_le_length (by rw [List.length_take]; omega),
      List.take_append_drop]
  have before := mark_before '#' (lineOf '\n' (content.take pos)) (content.drop pos) start
  rwa [length, ← split_] at before

/-- The loop reads the text once, and skips the comments. -/
theorem yamlScan_eq (oneLine : '\n' ∉ key) :
    yamlScan content key searchFrom =
      quotedOf (behind '\n' '#' (search key)
        ((content.take searchFrom).foldl (inComment '\n' '#') false)
        (content.drop searchFrom)) := by
  have oneLine' : '\n' ∉ search key := by simp [search, oneLine]
  have hit : ∀ pos, search key <+: content.drop pos →
      behind '\n' '#' (search key) false (content.drop pos) =
        some (content.drop (pos + (search key).length)) := by
    intro pos starts
    rcases rest : content.drop pos with _ | ⟨c, others⟩
    · rw [rest] at starts
      simp [search] at starts
    · rw [rest] at starts
      rw [behind, if_pos (by simpa using starts), ← rest, List.drop_drop]
  fun_induction yamlScan content key searchFrom with
  | case1 searchFrom none_ =>
    rw [find, Option.map_eq_none_iff] at none_
    rw [behind_none _ none_]
    rfl
  | case2 searchFrom pos found lineBegin commented ih =>
    have starts := prefix_find found
    have hashed := (hash_before starts oneLine').symm.trans commented
    obtain ⟨rest, split_⟩ := starts
    have drops : content.drop (pos + (search key).length) = rest := by
      rw [← List.drop_drop, ← split_, List.drop_left]
    have state : (content.take (pos + (search key).length)).foldl (inComment '\n' '#') false =
        true := by
      rw [List.take_add, List.foldl_append, foldl_inComment _ (by decide), hashed, ← split_,
        List.take_left, foldl_commented oneLine']
    rw [ih, behind_find found, hashed, state, drops, ← split_, behind_commented oneLine']
  | case3 searchFrom pos found lineBegin open_ valStart none_ =>
    have starts := prefix_find found
    have plain := (hash_before starts oneLine').symm.trans (Bool.eq_false_iff.mpr open_)
    have quote := find_quote content valStart
    rw [none_] at quote
    rw [behind_find found, plain, hit pos starts]
    exact quote
  | case4 searchFrom pos found lineBegin open_ valStart valEnd ends =>
    have starts := prefix_find found
    have plain := (hash_before starts oneLine').symm.trans (Bool.eq_false_iff.mpr open_)
    have quote := find_quote content valStart
    rw [ends] at quote
    rw [behind_find found, plain, hit pos starts]
    exact quote

theorem yamlGetString_eq (oneLine : '\n' ∉ key) :
    yamlGetString content key = quotedOf (behind '\n' '#' (search key) false content) :=
  yamlScan_eq oneLine

end Loop

/-! ## `read_secrets` -/

/-- The characters that `str.splitlines` ends a line at; `read_text` has made
line feeds of carriage returns. -/
def isBoundary (c : Char) : Bool :=
  c.toNat ∈ [10, 11, 12, 13, 28, 29, 30, 133, 8232, 8233]

def splitlines : Text → List Text
  | [] => []
  | c :: rest =>
    if isBoundary c then [] :: splitlines rest
    else
      match splitlines rest with
      | [] => [[c]]
      | line :: lines => (c :: line) :: lines

/-- `\s`, as far as it is ASCII. -/
def isSpace (c : Char) : Bool := c.toNat ∈ [9, 10, 11, 12, 13, 28, 29, 30, 31, 32]

def isWord (c : Char) : Bool := c.isAlphanum || c == '_'

/-- `re.match(r'^\s*([A-Za-z0-9_]+)\s*:\s*"([^"]*)"', line)` with its groups: no
run of the pattern can end before a character of its own class. -/
def matchLine (line : Text) : Option (Text × Text) :=
  let body := line.dropWhile isSpace
  let name := body.takeWhile isWord
  if name = [] then none
  else
    match (body.dropWhile isWord).dropWhile isSpace with
    | ':' :: rest =>
      match rest.dropWhile isSpace with
      | '"' :: quoted =>
        if '"' ∈ quoted then some (name, quoted.takeWhile fun c => decide (c ≠ '"')) else none
      | _ => none
    | _ => none

def readSecrets (text : Text) : List (Text × Text) :=
  Dict.ofEntries ((splitlines text).filterMap matchLine)

end SleepySensor.SecretsText
