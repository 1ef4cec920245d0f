import Mathlib.Data.List.TakeWhile
import SleepySensor.Lib.Quoted
import SleepySensor.Staging

/-!
# The text of a manifest

`ota_push.py` writes the manifest with `json.dumps`, and `handle_manifest` looks each
field up as a quoted word in the text.  The version is the first value in it.
-/

set_option autoImplicit false

namespace SleepySensor.ManifestText

open Staging

/-! ## `json.dumps` -/

/-- One character each byte on the wire. -/
abbrev Text : Type := List Char

def unicodeEscape (unit : Nat) : Text :=
  ['\\', 'u'] ++ (Nat.toDigits 16 unit).leftpad 4 '0'

/-- `py_encode_basestring_ascii`, one character. -/
def escape (c : Char) : Text :=
  if c = '"' then ['\\', '"']
  else if c = '\\' then ['\\', '\\']
  else if c = '\n' then ['\\', 'n']
  else if c = '\r' then ['\\', 'r']
  else if c = '\t' then ['\\', 't']
  else if c.toNat = 12 then ['\\', 'f']
  else if c.toNat = 8 then ['\\', 'b']
  else if 32 ≤ c.toNat ∧ c.toNat ≤ 126 then [c]
  else if c.toNat < 65536 then unicodeEscape c.toNat
  else
    let rest := c.toNat - 65536
    unicodeEscape (55296 + rest / 1024 % 1024) ++ unicodeEscape (56320 + rest % 1024)

def jsonString (text : Text) : Text := '"' :: text.flatMap escape ++ ['"']

inductive JsonValue where
  | str (text : Text)
  | int (value : Nat)
  | bool (value : Bool)

def JsonValue.text : JsonValue → Text
  | .str text => jsonString text
  | .int value => Nat.toDigits 10 value
  | .bool true => "true".toList
  | .bool false => "false".toList

/-- An object, with the default separators. -/
def dumps (items : List (Text × JsonValue)) : Text :=
  '{' :: List.intercalate [',', ' ']
    (items.map fun item => jsonString item.1 ++ [':', ' '] ++ item.2.text) ++ ['}']

/-- The last `count` bytes of a number, the highest first. -/
def bigEndian : Nat → Nat → Bytes
  | 0, _ => []
  | count + 1, value => bigEndian count (value / 256) ++ [UInt8.ofNat (value % 256)]

def hexByte (byte : UInt8) : Text :=
  [Nat.digitChar (byte.toNat / 16), Nat.digitChar (byte.toNat % 16)]

/-- `hashlib.sha256(..).hexdigest()`. -/
def hexdigest (digest : Digest) : Text := (bigEndian 32 digest.toNat).flatMap hexByte

def manifestText (fields : StagedManifest) : Text :=
  dumps
    [("version".toList, .str fields.version), ("size".toList, .int fields.size),
      ("sha256".toList, .str (hexdigest fields.sha256)),
      ("chunk_size".toList, .int fields.chunkSize), ("force".toList, .bool fields.force)]

/-! ## `handle_manifest` -/

def nibble (c : Char) : Option Nat :=
  if 48 ≤ c.toNat ∧ c.toNat ≤ 57 then some (c.toNat - 48)
  else if 97 ≤ c.toNat ∧ c.toNat ≤ 102 then some (c.toNat - 97 + 10)
  else if 65 ≤ c.toNat ∧ c.toNat ≤ 70 then some (c.toNat - 65 + 10)
  else none

def parseHexBytes : Text → Option Bytes
  | hi :: lo :: rest =>
    match nibble hi, nibble lo with
    | some high, some low =>
      (parseHexBytes rest).map fun bytes => UInt8.ofNat ((high <<< 4) ||| low) :: bytes
    | _, _ => none
  | _ => some []

/-- 32 bytes as the number they write. -/
def digestOf (bytes : Bytes) : Digest :=
  BitVec.ofNat 256 (bytes.foldl (fun value byte => value * 256 + byte.toNat) 0)

def parseSha256Hex (hex : Text) : Option Digest :=
  if hex.length = 64 then (parseHexBytes hex).map digestOf else none

/-- The token of the value behind the colon. -/
def valueToken (rest : Text) : Option Text :=
  match rest.dropWhile fun c => c == ':' || c == ' ' with
  | [] => none
  | first :: text =>
    if first = '"' then
      if '"' ∈ text then some (text.takeWhile fun c => c != '"') else none
    else some ((first :: text).takeWhile fun c => c != ',' && c != '}' && c != ' ')

def manifestField (json key : Text) : Option Text :=
  (Quoted.after (Quoted.quoted '"' key) json).bind valueToken

/-- What `std::from_chars` reads into a `size_t`: the digits that the token begins with. -/
def leadingNumber (token : Text) : Option Nat :=
  let digits := token.takeWhile Char.isDigit
  if digits = [] then none else some (Nat.ofDigitChars 10 digits 0)

def manifestFields (body : Text) : ManifestFields where
  version := manifestField body "version".toList
  size := (manifestField body "size".toList).bind leadingNumber
  chunkSize := (manifestField body "chunk_size".toList).bind leadingNumber
  sha256 := (manifestField body "sha256".toList).bind parseSha256Hex
  force := decide (manifestField body "force".toList = some "true".toList)

def manifestMessage (body : Text) (total : Nat) : ManifestMessage :=
  if total = 0 then .empty
  else if body.length ≠ total then .spansEvents
  else .body (manifestFields body)

/-! ## The digest -/

theorem nibble_digitChar {digit : Nat} (small : digit < 16) :
    nibble (Nat.digitChar digit) = some digit := by
  revert digit
  decide

theorem byte_lt (byte : UInt8) : byte.toNat < 256 := byte.toNat_lt

theorem high_or_low (byte : UInt8) :
    UInt8.ofNat ((byte.toNat / 16) <<< 4 ||| byte.toNat % 16) = byte := by
  have low : byte.toNat % 16 < 2 ^ 4 := Nat.mod_lt _ (by decide)
  have whole : 2 ^ 4 * (byte.toNat / 16) + byte.toNat % 16 = byte.toNat := Nat.div_add_mod _ 16
  rw [Nat.shiftLeft_eq, Nat.mul_comm, ← Nat.two_pow_add_eq_or_of_lt low, whole]
  exact UInt8.ofNat_toNat

theorem parseHexBytes_hexByte (bytes : Bytes) :
    parseHexBytes (bytes.flatMap hexByte) = some bytes := by
  induction bytes with
  | nil => rfl
  | cons byte rest ih =>
    have high : byte.toNat / 16 < 16 := by
      have := byte_lt byte
      omega
    have low : byte.toNat % 16 < 16 := Nat.mod_lt _ (by decide)
    rw [List.flatMap_cons, hexByte, List.cons_append, List.cons_append, List.nil_append,
      parseHexBytes, nibble_digitChar high, nibble_digitChar low, ih]
    simp only [Option.map_some, high_or_low]

theorem bigEndian_length (count value : Nat) : (bigEndian count value).length = count := by
  induction count generalizing value with
  | zero => rfl
  | succ count ih => rw [bigEndian, List.length_append, ih, List.length_singleton]

theorem foldl_bigEndian (count value : Nat) :
    (bigEndian count value).foldl (fun value byte => value * 256 + byte.toNat) 0 =
      value % 256 ^ count := by
  induction count generalizing value with
  | zero => simp [bigEndian, Nat.mod_one]
  | succ count ih =>
    have last : (UInt8.ofNat (value % 256)).toNat = value % 256 :=
      UInt8.toNat_ofNat_of_lt (Nat.mod_lt _ (by decide))
    rw [bigEndian, List.foldl_append, ih, List.foldl_cons, List.foldl_nil, last, Nat.pow_succ',
      Nat.mod_mul]
    omega

theorem digestOf_bigEndian (digest : Digest) : digestOf (bigEndian 32 digest.toNat) = digest := by
  have small : digest.toNat < 256 ^ 32 := digest.isLt
  rw [digestOf, foldl_bigEndian, Nat.mod_eq_of_lt small]
  exact BitVec.eq_of_toNat_eq (Nat.mod_eq_of_lt digest.isLt)

theorem hexdigest_length (digest : Digest) : (hexdigest digest).length = 64 := by
  have two : ∀ byte ∈ bigEndian 32 digest.toNat, (hexByte byte).length = 2 := fun _ _ => rfl
  rw [hexdigest, List.length_flatMap, List.map_congr_left two, List.map_const',
    List.sum_replicate, bigEndian_length, smul_eq_mul]

theorem parseSha256Hex_hexdigest (digest : Digest) :
    parseSha256Hex (hexdigest digest) = some digest := by
  rw [parseSha256Hex, if_pos (hexdigest_length digest), hexdigest, parseHexBytes_hexByte,
    Option.map_some, digestOf_bigEndian]

/-! ## Plain characters -/

/-- Printable ASCII without the quote and the backslash. -/
def plain (c : Char) : Bool :=
  decide (32 ≤ c.toNat) && decide (c.toNat ≤ 126) && c != '"' && c != '\\'

theorem escape_plain {c : Char} (isPlain : plain c = true) : escape c = [c] := by
  simp only [plain, Bool.and_eq_true, decide_eq_true_eq, bne_iff_ne] at isPlain
  obtain ⟨⟨⟨low, high⟩, notQuote⟩, notSlash⟩ := isPlain
  have apart : ∀ other : Char, other.toNat < 32 → c ≠ other := by
    rintro other below rfl
    omega
  rw [escape, if_neg notQuote, if_neg notSlash, if_neg (apart _ (by decide)),
    if_neg (apart _ (by decide)), if_neg (apart _ (by decide)), if_neg (by omega),
    if_neg (by omega), if_pos ⟨low, high⟩]

theorem jsonString_plain {text : Text} (isPlain : text.all plain = true) :
    jsonString text = '"' :: text ++ ['"'] := by
  have same : text.flatMap escape = text := by
    induction text with
    | nil => rfl
    | cons first rest ih =>
      rw [List.all_cons, Bool.and_eq_true] at isPlain
      rw [List.flatMap_cons, escape_plain isPlain.1, ih isPlain.2]
      rfl
  rw [jsonString, same]

theorem plain_clean {text : Text} (isPlain : text.all plain = true) : '"' ∉ text := by
  intro member
  have contradiction := List.all_eq_true.mp isPlain _ member
  simp [plain] at contradiction

theorem hexdigest_plain (digest : Digest) : (hexdigest digest).all plain = true := by
  have digits : ∀ digit, digit < 16 → plain (Nat.digitChar digit) = true := by decide
  rw [List.all_eq_true]
  intro c member
  obtain ⟨byte, -, written⟩ := List.mem_flatMap.mp member
  have small := byte_lt byte
  rcases List.mem_pair.mp written with rfl | rfl
  · exact digits _ (by omega)
  · exact digits _ (by omega)

theorem toDigits_plain (value : Nat) : (Nat.toDigits 10 value).all plain = true := by
  rw [List.all_eq_true]
  intro c member
  have digit := Nat.isDigit_of_mem_toDigits (by decide) (by decide) member
  simp only [Char.isDigit, Bool.and_eq_true, decide_eq_true_eq] at digit
  have low : 48 ≤ c.toNat := UInt32.le_iff_toNat_le.mp digit.1
  have high : c.toNat ≤ 57 := UInt32.le_iff_toNat_le.mp digit.2
  have apart : ∀ other : Char, ¬ (48 ≤ other.toNat ∧ other.toNat ≤ 57) → c ≠ other := by
    rintro other outside rfl
    exact outside ⟨low, high⟩
  simp only [plain, Bool.and_eq_true, decide_eq_true_eq, bne_iff_ne]
  exact ⟨⟨⟨by omega, by omega⟩, apart _ (by decide)⟩, apart _ (by decide)⟩

/-! ## The segments of a manifest -/

def segmentsOf (version size hash chunkSize force : Text) : List Text :=
  [['{'], "version".toList, [':', ' '], version, [',', ' '], "size".toList,
    [':', ' '] ++ size ++ [',', ' '], "sha256".toList, [':', ' '], hash, [',', ' '],
    "chunk_size".toList, [':', ' '] ++ chunkSize ++ [',', ' '], "force".toList,
    [':', ' '] ++ force ++ ['}']]

def segments (fields : StagedManifest) : List Text :=
  segmentsOf fields.version (Nat.toDigits 10 fields.size) (hexdigest fields.sha256)
    (Nat.toDigits 10 fields.chunkSize) (JsonValue.bool fields.force).text

variable {fields : StagedManifest}

theorem manifestText_segments (isPlain : fields.version.all plain = true) :
    manifestText fields = Quoted.joined '"' (segments fields) := by
  have version : jsonString "version".toList = _ := jsonString_plain (by decide)
  have size : jsonString "size".toList = _ := jsonString_plain (by decide)
  have sha256 : jsonString "sha256".toList = _ := jsonString_plain (by decide)
  have chunkSize : jsonString "chunk_size".toList = _ := jsonString_plain (by decide)
  have force : jsonString "force".toList = _ := jsonString_plain (by decide)
  unfold manifestText dumps
  simp only [List.map_cons, List.map_nil, JsonValue.text, version, size, sha256, chunkSize, force,
    jsonString_plain isPlain, jsonString_plain (hexdigest_plain _), segments, segmentsOf,
    Quoted.joined,
    List.intercalate_cons_cons, List.intercalate_singleton]
  simp

theorem segments_clean (isPlain : fields.version.all plain = true) :
    ∀ segment ∈ segments fields, '"' ∉ segment := by
  have size := plain_clean (toDigits_plain fields.size)
  have chunkSize := plain_clean (toDigits_plain fields.chunkSize)
  have hex := plain_clean (hexdigest_plain fields.sha256)
  have version := plain_clean isPlain
  have force : '"' ∉ (JsonValue.bool fields.force).text := by
    cases fields.force <;> decide
  simp only [segments, segmentsOf, List.forall_mem_cons]
  simp [size, chunkSize, hex, version, force]

/-! ## Looking the fields up -/

theorem valueToken_string {text next : Text} {rest : List Text} (clean : '"' ∉ text) :
    valueToken (Quoted.joined '"' ([':', ' '] :: text :: next :: rest)) = some text := by
  have whole : ∀ c ∈ text, (c != '"') = true := by
    intro c member
    rw [bne_iff_ne]
    rintro rfl
    exact clean member
  simp [valueToken, Quoted.joined_cons, List.takeWhile_append_of_pos whole]

theorem valueToken_number {digits next : Text} {rest : List Text} (some_ : digits ≠ [])
    (isNumber : digits.all Char.isDigit = true) :
    valueToken (Quoted.joined '"' (([':', ' '] ++ digits ++ [',', ' ']) :: next :: rest)) =
      some digits := by
  have apart : ∀ c ∈ digits, ∀ other : Char, other.isDigit = false → c ≠ other := by
    rintro c member other noDigit rfl
    rw [List.all_eq_true.mp isNumber _ member] at noDigit
    cases noDigit
  have whole : ∀ c ∈ digits, (c != ',' && c != '}' && c != ' ') = true := by
    intro c member
    have comma := apart c member ',' (by decide)
    have brace := apart c member '}' (by decide)
    have blank := apart c member ' ' (by decide)
    simp [comma, brace, blank]
  cases digits with
  | nil => exact (some_ rfl).elim
  | cons first digits =>
    have colon := apart first List.mem_cons_self ':' (by decide)
    have blank := apart first List.mem_cons_self ' ' (by decide)
    have mark := apart first List.mem_cons_self '"' (by decide)
    have kept :
        (first :: (digits ++ ',' :: ' ' :: '"' :: Quoted.joined '"' (next :: rest))).takeWhile
          (fun c => c != ',' && c != '}' && c != ' ') = first :: digits := by
      rw [← List.cons_append, List.takeWhile_append_of_pos whole]
      simp
    simp [valueToken, Quoted.joined_cons, colon, blank, mark, kept]

theorem valueToken_comma (next : Text) (rest : List Text) :
    valueToken (Quoted.joined '"' ([',', ' '] :: next :: rest)) = some [] := by
  simp [valueToken, Quoted.joined_cons]

theorem valueToken_bool (value : Bool) :
    valueToken (Quoted.joined '"' [[':', ' '] ++ (JsonValue.bool value).text ++ ['}']]) =
      some (JsonValue.bool value).text := by
  cases value <;> decide

theorem hexdigest_ne {key : Text} (short : key.length < 64) (digest : Digest) :
    hexdigest digest ≠ key := by
  rintro rfl
  rw [hexdigest_length] at short
  omega

section Lookup

variable {version size hash chunkSize force : Text}

/-- The value of a key, looked up among the segments. -/
def lookup (key : Text) (segments : List Text) : Option Text :=
  ((Quoted.afterSegment key segments).map (Quoted.joined '"')).bind valueToken

/-- The version may be taken for the key. -/
theorem lookup_version {key : Text} (apart : "version".toList ≠ key) (noColon : [':', ' '] ≠ key) :
    lookup key (segmentsOf version size hash chunkSize force) =
      if version = key then some []
      else lookup key ((segmentsOf version size hash chunkSize force).drop 3) := by
  rw [lookup, segmentsOf, Quoted.afterSegment, if_neg apart, Quoted.afterSegment, if_neg noColon,
    Quoted.afterSegment]
  split
  · exact valueToken_comma _ _
  · rfl

theorem lookup_size (some_ : size ≠ []) (isNumber : size.all Char.isDigit = true) :
    lookup "size".toList ((segmentsOf version size hash chunkSize force).drop 3) = some size := by
  have found : Quoted.afterSegment "size".toList
      ((segmentsOf version size hash chunkSize force).drop 3) =
        some ((segmentsOf version size hash chunkSize force).drop 6) := rfl
  rw [lookup, found]
  exact valueToken_number some_ isNumber

theorem lookup_sha256 (clean : '"' ∉ hash) :
    lookup "sha256".toList ((segmentsOf version size hash chunkSize force).drop 3) = some hash := by
  have found : Quoted.afterSegment "sha256".toList
      ((segmentsOf version size hash chunkSize force).drop 3) =
        some ((segmentsOf version size hash chunkSize force).drop 8) := rfl
  rw [lookup, found]
  exact valueToken_string clean

theorem lookup_chunkSize (noHash : hash ≠ "chunk_size".toList) (some_ : chunkSize ≠ [])
    (isNumber : chunkSize.all Char.isDigit = true) :
    lookup "chunk_size".toList ((segmentsOf version size hash chunkSize force).drop 3) =
      some chunkSize := by
  have found : Quoted.afterSegment "chunk_size".toList
      ((segmentsOf version size hash chunkSize force).drop 3) =
        if hash = "chunk_size".toList then
          some ((segmentsOf version size hash chunkSize force).drop 10)
        else some ((segmentsOf version size hash chunkSize force).drop 12) := rfl
  rw [lookup, found, if_neg noHash]
  exact valueToken_number some_ isNumber

theorem lookup_force (noHash : hash ≠ "force".toList) (value : Bool) :
    lookup "force".toList
        ((segmentsOf version size hash chunkSize (JsonValue.bool value).text).drop 3) =
      some (JsonValue.bool value).text := by
  have found : Quoted.afterSegment "force".toList
      ((segmentsOf version size hash chunkSize (JsonValue.bool value).text).drop 3) =
        if hash = "force".toList then
          some ((segmentsOf version size hash chunkSize (JsonValue.bool value).text).drop 10)
        else
          some ((segmentsOf version size hash chunkSize (JsonValue.bool value).text).drop 14) := rfl
  rw [lookup, found, if_neg noHash]
  exact valueToken_bool value

end Lookup

theorem manifestField_text (isPlain : fields.version.all plain = true) {key : Text}
    (clean : '"' ∉ key) :
    manifestField (manifestText fields) key = lookup key (segments fields) := by
  rw [manifestField, manifestText_segments isPlain,
    Quoted.after_joined clean _ (segments_clean isPlain)]
  rfl

theorem field_version (isPlain : fields.version.all plain = true) :
    manifestField (manifestText fields) "version".toList = some fields.version := by
  rw [manifestField_text isPlain (by decide), lookup, segments, segmentsOf, Quoted.afterSegment,
    if_pos rfl]
  exact valueToken_string (plain_clean isPlain)

theorem number_digits (value : Nat) : (Nat.toDigits 10 value).all Char.isDigit = true :=
  List.all_eq_true.mpr fun _ member => Nat.isDigit_of_mem_toDigits (by decide) (by decide) member

theorem field_size (isPlain : fields.version.all plain = true) :
    manifestField (manifestText fields) "size".toList =
      if fields.version = "size".toList then some []
      else some (Nat.toDigits 10 fields.size) := by
  rw [manifestField_text isPlain (by decide), segments, lookup_version (by decide) (by decide),
    lookup_size Nat.toDigits_ne_nil (number_digits _)]

theorem field_sha256 (isPlain : fields.version.all plain = true) :
    manifestField (manifestText fields) "sha256".toList =
      if fields.version = "sha256".toList then some []
      else some (hexdigest fields.sha256) := by
  rw [manifestField_text isPlain (by decide), segments, lookup_version (by decide) (by decide),
    lookup_sha256 (plain_clean (hexdigest_plain _))]

theorem field_chunkSize (isPlain : fields.version.all plain = true) :
    manifestField (manifestText fields) "chunk_size".toList =
      if fields.version = "chunk_size".toList then some []
      else some (Nat.toDigits 10 fields.chunkSize) := by
  rw [manifestField_text isPlain (by decide), segments, lookup_version (by decide) (by decide),
    lookup_chunkSize (hexdigest_ne (by decide) _) Nat.toDigits_ne_nil (number_digits _)]

theorem field_force (isPlain : fields.version.all plain = true) :
    manifestField (manifestText fields) "force".toList =
      if fields.version = "force".toList then some []
      else some (JsonValue.bool fields.force).text := by
  rw [manifestField_text isPlain (by decide), segments, lookup_version (by decide) (by decide),
    lookup_force (hexdigest_ne (by decide) _)]

theorem leadingNumber_toDigits (value : Nat) :
    leadingNumber (Nat.toDigits 10 value) = some value := by
  have whole : (Nat.toDigits 10 value).takeWhile Char.isDigit = Nat.toDigits 10 value :=
    List.takeWhile_eq_self_iff.mpr (List.all_eq_true.mp (number_digits value))
  unfold leadingNumber
  dsimp only
  rw [whole, if_neg Nat.toDigits_ne_nil]
  exact congrArg some Nat.ofDigitChars_ten_toDigits

theorem bind_token {T : Type} {taken : Prop} [Decidable taken] {read : Text → Option T}
    {token : Text} {value : T} (empty : read [] = none) (found : read token = some value) :
    (if taken then some [] else some token).bind read = if taken then none else some value := by
  split
  · exact empty
  · exact found

theorem manifestFields_text (isPlain : fields.version.all plain = true) :
    manifestFields (manifestText fields) =
      { version := some fields.version
        size := if fields.version = "size".toList then none else some fields.size
        chunkSize := if fields.version = "chunk_size".toList then none else some fields.chunkSize
        sha256 := if fields.version = "sha256".toList then none else some fields.sha256
        force := decide (fields.version ≠ "force".toList) && fields.force } := by
  have force : decide ((if fields.version = "force".toList then some []
      else some (JsonValue.bool fields.force).text) = some "true".toList) =
        (decide (fields.version ≠ "force".toList) && fields.force) := by
    by_cases same : fields.version = "force".toList
    · simp [same]
    · rw [if_neg same, decide_eq_true same, Bool.true_and]
      cases fields.force <;> decide
  unfold manifestFields
  rw [field_version isPlain, field_size isPlain, field_sha256 isPlain, field_chunkSize isPlain,
    field_force isPlain, force, bind_token rfl (leadingNumber_toDigits fields.size),
    bind_token rfl (leadingNumber_toDigits fields.chunkSize),
    bind_token rfl (parseSha256Hex_hexdigest fields.sha256)]

/-! ## The round trip -/

def deviceManifest (firmware : Firmware) (fields : StagedManifest) : Manifest where
  version := fields.version
  size := fields.size
  chunkSize := fields.chunkSize
  sha256 := fields.sha256
  force := fields.force
  valid := true
  differsFromRunning := fields.version != firmware.runningVersion

/-- What the claim's stagings have in common. -/
structure Stageable (push : Push) : Prop where
  image : 0 < push.image.length ∧ push.image.length < 2 ^ 31
  chunkSize : 0 < push.chunkSize ∧ push.chunkSize ≤ otaMaxChunkSize
  version : push.version ≠ [] ∧ push.version.length ≤ 31
  printable : push.version.all plain = true

structure RoundTrip (firmware : Firmware) (sha256 : Bytes → Digest) (push : Push) : Prop where
  accepted : ∀ ota : Ota,
    ota.handleManifest firmware
        (manifestMessage (manifestText (push.manifest sha256))
          (manifestText (push.manifest sha256)).length) =
      { ota with manifest := deviceManifest firmware (push.manifest sha256) }
  count : (chunkMessages push).length =
    Ota.totalChunks (deviceManifest firmware (push.manifest sha256))
  lengths : ∀ n < (chunkMessages push).length, ∀ ota : Ota,
    ota.partialManifest = deviceManifest firmware (push.manifest sha256) → ota.nextChunk = n →
      ∃ data, (chunkMessages push)[n]? = some (chunkTopic n, .bytes data) ∧
        data.length = ota.expectedLen

/-- The version is the name of a field that follows, other than `force` when that is false. -/
def Confused (push : Push) : Prop :=
  push.version = "size".toList ∨ push.version = "sha256".toList ∨
    push.version = "chunk_size".toList ∨ (push.version = "force".toList ∧ push.force = true)

variable {firmware : Firmware} {sha256 : Bytes → Digest} {push : Push}

theorem chunks_count (stageable : Stageable push) :
    (chunkMessages push).length =
      Ota.totalChunks (deviceManifest firmware (push.manifest sha256)) := by
  obtain ⟨⟨positive, small⟩, ⟨chunked, inBuffer⟩, -, -⟩ := stageable
  rw [chunkMessages, List.length_map, List.length_range]
  show Chunks.count push.image.length push.chunkSize =
    u32Sub (u32 (push.image.length + push.chunkSize)) 1 / push.chunkSize
  have fits : push.image.length + push.chunkSize < u32Mod := by
    simp only [otaMaxChunkSize, u32Mod] at *
    omega
  rw [u32_of_lt fits, u32Sub_of_le (by omega) fits, Chunks.count]

theorem chunks_lengths (stageable : Stageable push) {n : Nat}
    (staged : n < (chunkMessages push).length)
    {ota : Ota} (same : ota.partialManifest = deviceManifest firmware (push.manifest sha256))
    (next : ota.nextChunk = n) :
    (chunkMessages push)[n]? =
        some (chunkTopic n, .bytes (chunkAt push.image push.chunkSize n)) ∧
      (chunkAt push.image push.chunkSize n).length = ota.expectedLen := by
  obtain ⟨⟨positive, small⟩, ⟨chunked, inBuffer⟩, -, -⟩ := stageable
  rw [chunkMessages, List.length_map, List.length_range] at staged
  have before : n * push.chunkSize < push.image.length := (Chunks.lt_count_iff chunked).mp staged
  refine ⟨?_, ?_⟩
  · rw [chunkMessages, List.getElem?_map, List.getElem?_range staged]
    rfl
  · have fits : n * push.chunkSize < u32Mod := by
      simp only [u32Mod]
      omega
    have inWord : push.image.length < u32Mod := by
      simp only [u32Mod]
      omega
    rw [Ota.expectedLen, same, next]
    show _ = min push.chunkSize (u32Sub push.image.length (u32 (n * push.chunkSize)))
    rw [u32_of_lt fits, u32Sub_of_le before.le inWord, chunkAt, List.length_take, List.length_drop]

def Refused (push : Push) : Prop :=
  push.version = "size".toList ∨ push.version = "sha256".toList ∨
    push.version = "chunk_size".toList

theorem accept_refused (stageable : Stageable push) (refused : Refused push) :
    acceptManifest firmware (manifestFields (manifestText (push.manifest sha256))) = none := by
  have isPlain : (push.manifest sha256).version.all plain = true := stageable.printable
  rw [manifestFields_text isPlain]
  rcases refused with same | same | same
  · simp [acceptManifest, Push.manifest, same, parseSizeField]
  · simp [acceptManifest, Push.manifest, same]
  · simp [acceptManifest, Push.manifest, same, parseSizeField]

theorem accept_taken (stageable : Stageable push) (taken : ¬ Refused push) :
    acceptManifest firmware (manifestFields (manifestText (push.manifest sha256))) =
      some
        { deviceManifest firmware (push.manifest sha256) with
          force := decide (push.version ≠ "force".toList) && push.force } := by
  obtain ⟨⟨positive, small⟩, ⟨chunked, inBuffer⟩, ⟨named, -⟩, printable⟩ := stageable
  have isPlain : (push.manifest sha256).version.all plain = true := printable
  have size : (push.manifest sha256).version ≠ "size".toList := fun same => taken (.inl same)
  have hash : (push.manifest sha256).version ≠ "sha256".toList :=
    fun same => taken (.inr (.inl same))
  have chunkSize : (push.manifest sha256).version ≠ "chunk_size".toList :=
    fun same => taken (.inr (.inr same))
  have sizeFits : parseSizeField (some push.image.length) = some push.image.length :=
    if_pos (by simp only [u32Mod]; omega)
  have chunkFits : parseSizeField (some push.chunkSize) = some push.chunkSize :=
    if_pos (by simp only [otaMaxChunkSize, u32Mod] at *; omega)
  have sane : ¬ (push.version = [] ∨ push.image.length = 0 ∨ push.chunkSize = 0 ∨
      otaMaxChunkSize < push.chunkSize) := by
    simp only [named, false_or]
    omega
  rw [manifestFields_text isPlain, if_neg size, if_neg hash, if_neg chunkSize]
  simp only [acceptManifest, Push.manifest, sizeFits, chunkFits, if_neg sane]
  rfl

theorem handleManifest_text (push : Push) (ota : Ota) :
    ota.handleManifest firmware
        (manifestMessage (manifestText (push.manifest sha256))
          (manifestText (push.manifest sha256)).length) =
      match acceptManifest firmware (manifestFields (manifestText (push.manifest sha256))) with
      | some manifest => { ota with manifest := manifest }
      | none => ota := by
  have some_ : (manifestText (push.manifest sha256)).length ≠ 0 := by
    simp [manifestText, dumps]
  rw [manifestMessage, if_neg some_, if_neg (not_not.mpr rfl)]
  rfl

/-- A stageable push makes the round trip unless its version is the name of a field
that follows it. -/
theorem roundTrip_iff (firmware : Firmware) (sha256 : Bytes → Digest) (push : Push)
    (stageable : Stageable push) : RoundTrip firmware sha256 push ↔ ¬ Confused push := by
  constructor
  · intro trip confused
    have arrived := trip.accepted {}
    rw [handleManifest_text] at arrived
    by_cases refused : Refused push
    · rw [accept_refused stageable refused] at arrived
      have valid := congrArg (fun ota : Ota => ota.manifest.valid) arrived
      cases valid
    · rw [accept_taken stageable refused] at arrived
      have force := congrArg (fun ota : Ota => ota.manifest.force) arrived
      obtain ⟨size, hash, chunkSize⟩ : push.version ≠ _ ∧ push.version ≠ _ ∧ push.version ≠ _ :=
        ⟨fun same => refused (.inl same), fun same => refused (.inr (.inl same)),
          fun same => refused (.inr (.inr same))⟩
      rcases confused with same | same | same | ⟨same, forced⟩
      · exact size same
      · exact hash same
      · exact chunkSize same
      · simp [same, forced, deviceManifest, Push.manifest] at force
  · intro clear
    have taken : ¬ Refused push := by
      rintro (same | same | same)
      · exact clear (.inl same)
      · exact clear (.inr (.inl same))
      · exact clear (.inr (.inr (.inl same)))
    have force : (decide (push.version ≠ "force".toList) && push.force) = push.force := by
      cases forced : push.force with
      | false => exact Bool.and_false _
      | true =>
        have apart : push.version ≠ "force".toList := fun same =>
          clear (.inr (.inr (.inr ⟨same, forced⟩)))
        rw [decide_eq_true apart]
        rfl
    refine ⟨fun ota => ?_, chunks_count stageable, ?_⟩
    · rw [handleManifest_text, accept_taken stageable taken, force]
      rfl
    · intro n staged ota same next
      exact ⟨_, chunks_lengths stageable staged same next⟩

def smallPush (version : Text) : Push where
  image := appImage (version.map fun c => c.toUInt8)
  version := version
  chunkSize := 64
  force := true
  install := false

example : readAppVersion (smallPush "size".toList).image = some "size".toList := by
  decide +kernel

def bareFirmware : Firmware where
  runningVersion := "v1".toList
  sha256 := fun _ => 0

theorem roundTrip_twoChunks : RoundTrip bareFirmware (fun _ => 1) (smallPush "v2".toList) := by
  refine (roundTrip_iff bareFirmware (fun _ => 1) (smallPush "v2".toList) ?_).mpr ?_
  · exact ⟨by decide, by decide, by decide, by decide⟩
  · unfold Confused
    decide

/-- The `"size"` that is found first is the version. -/
theorem sizeVersion_refused : Stageable (smallPush "size".toList) ∧
    ¬ RoundTrip bareFirmware (fun _ => 1) (smallPush "size".toList) := by
  refine ⟨⟨by decide, by decide, by decide, by decide⟩, fun trip => ?_⟩
  have valid := congrArg (fun ota : Ota => ota.manifest.valid) (trip.accepted {})
  have refused : (Ota.handleManifest {} bareFirmware
      (manifestMessage (manifestText ((smallPush "size".toList).manifest fun _ => 1))
        (manifestText ((smallPush "size".toList).manifest fun _ => 1)).length)).manifest.valid =
      false := by decide +kernel
  exact Bool.false_ne_true (refused.symm.trans valid)

end SleepySensor.ManifestText
