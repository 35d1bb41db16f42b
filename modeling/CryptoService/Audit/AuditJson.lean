import CryptoService.Audit.AuditLogger
import CryptoService.Audit.JsonReader

/-!
# The JSON form of an audit entry

`AuditEntry::toJson` of `crypto/audit/audit_logger.cpp` writes an entry as one JSON object, its
texts passed through `escapeJson`. A `std::string` is a string of bytes (each character below
256), UTF-8 for text. `escapeJson` escapes the quote, the backslash and the five control
characters with short escapes, and writes any other `char` below 0x20 as `\u` and the `int`
value of the `char` in hexadecimal, padded to four digits. `char` is signed (x86-64), so every
byte from 0x80 on, which is every byte of a non-ASCII character in UTF-8, is negative, below
0x20, and is written as `\u` and eight hexadecimal digits, `ffffff` and the byte.

* `stringReads_escapeJson`: whatever the bytes, a JSON reader reads the escaped text back as
  `readBack s`: each ASCII byte as itself, and each byte from 0x80 on as the escape `￿`
  (U+FFFF) followed by the four characters `ff` and the byte's two digits.
* `toJson_reads_back`: the JSON of every entry is one JSON object, with one member per field;
  each text member reads back as `readBack` of the field, which is the field exactly when it is
  ASCII and a longer text, so not the field's characters, when it is not.
-/

namespace CryptoService

/-- `auditOperationToString`. Every operation has its case, so `"UNKNOWN"` is never returned. -/
def auditOperationToString : AuditOperation → List Char
  | .ENCRYPT => "ENCRYPT".toList
  | .DECRYPT => "DECRYPT".toList
  | .RSA_ENCRYPT => "RSA_ENCRYPT".toList
  | .RSA_DECRYPT => "RSA_DECRYPT".toList
  | .SIGN => "SIGN".toList
  | .VERIFY => "VERIFY".toList
  | .KEY_GENERATE => "KEY_GENERATE".toList
  | .KEY_ROTATE => "KEY_ROTATE".toList
  | .KEY_DELETE => "KEY_DELETE".toList
  | .KEY_ACCESS => "KEY_ACCESS".toList
  | .FILE_ENCRYPT => "FILE_ENCRYPT".toList
  | .FILE_DECRYPT => "FILE_DECRYPT".toList

/-! ## `escapeJson` -/

/-- A `char` as `static_cast<int>` reads it: `char` is signed, so the bytes from 0x80 on are
negative. -/
def charToInt (c : Char) : ℤ := if c.toNat < 0x80 then c.toNat else (c.toNat : ℤ) - 0x100

/-- `oss << std::hex << std::setw(4) << std::setfill('0') << v` for an `int` `v`: the lower-case
hexadecimal digits of `v` as an `unsigned int`, zeros in front up to four digits. -/
def hexInt (v : ℤ) : List Char :=
  let ds := Nat.toDigits 16 (v % 2 ^ 32).toNat
  List.replicate (4 - ds.length) '0' ++ ds

/-- What `escapeJson` writes for one `char`: the cases of its `switch`. -/
def escapeChar : Char → List Char
  | '"' => ['\\', '"']
  | '\\' => ['\\', '\\']
  | '\x08' => ['\\', 'b']
  | '\x0c' => ['\\', 'f']
  | '\n' => ['\\', 'n']
  | '\r' => ['\\', 'r']
  | '\t' => ['\\', 't']
  | c => if charToInt c < 0x20 then '\\' :: 'u' :: hexInt (charToInt c) else [c]

/-- `escapeJson`. -/
def escapeJson (str : List Char) : List Char := str.flatMap escapeChar

/-! ## Timestamps -/

/-- The date of a day counted from 1970-01-01, in the proleptic Gregorian calendar, as
`std::gmtime` gives it: year, month and day of the month. Days are counted in 400-year eras from
0000-03-01, so that a leap day ends its year. -/
def civilFromDays (days : ℤ) : ℤ × ℕ × ℕ :=
  let z := days + 719468
  let era := z / 146097
  let doe := z - era * 146097
  let yoe := (doe - doe / 1460 + doe / 36524 - doe / 146096) / 365
  let doy := doe - (365 * yoe + yoe / 4 - yoe / 100)
  let mp := (5 * doy + 2) / 153
  let d := doy - (153 * mp + 2) / 5 + 1
  let m := if mp < 10 then mp + 3 else mp - 9
  (yoe + era * 400 + if m ≤ 2 then 1 else 0, m.toNat, d.toNat)

/-- `%Y`: the year in decimal, a minus sign before a year before 0. -/
def yearText (y : ℤ) : List Char := (if y < 0 then ['-'] else []) ++ toDecimal y.natAbs

/-- Two decimal digits, as `%m`, `%d`, `%H`, `%M` and `%S` write them. -/
def twoDigits (n : ℕ) : List Char := [Nat.digitChar (n / 10 % 10), Nat.digitChar (n % 10)]

/-- `timePointToIso8601`: `to_time_t` (whole seconds, truncated towards zero), `gmtime`, and
`std::put_time` with `"%Y-%m-%dT%H:%M:%SZ"`. A `system_clock` time point lies between the years
1677 and 2262, where `%Y` writes four digits. -/
def timePointToIso8601 (tp : ℤ) : List Char :=
  let t := tp.tdiv ticksPerSecond
  let date := civilFromDays (t / 86400)
  let s := (t % 86400).toNat
  yearText date.1 ++ '-' :: twoDigits date.2.1 ++ '-' :: twoDigits date.2.2 ++
    'T' :: twoDigits (s / 3600) ++ ':' :: twoDigits (s % 3600 / 60) ++ ':' :: twoDigits (s % 60) ++
    ['Z']

/-! ## `toJson` -/

/-- `"\"name\":\"" << text << "\","`: a text member of `toJson`, with its comma. -/
def stringMember (name text : List Char) : List Char :=
  '"' :: (name ++ '"' :: ':' :: '"' :: (text ++ ['"', ',']))

/-- The loop over the metadata in `toJson`: a comma before every entry but the first. -/
def metadataMembers (first : Bool) : StdMap (List Char) → List Char
  | [] => []
  | (key, value) :: m =>
    (if first then [] else [',']) ++
      '"' :: (escapeJson key ++ '"' :: ':' :: '"' :: (escapeJson value ++ '"' :: metadataMembers false m))

/-- The `error_code` member, written when the entry has one. -/
def errorCodeMember : Option (List Char) → List Char
  | some error_code => stringMember "error_code".toList (escapeJson error_code)
  | none => []

/-- `AuditEntry::toJson`. -/
def AuditEntry.toJson (e : AuditEntry) : List Char :=
  '\x7b' :: (stringMember "correlation_id".toList (escapeJson e.correlation_id) ++
    stringMember "timestamp".toList (timePointToIso8601 e.timestamp) ++
    stringMember "operation".toList (auditOperationToString e.operation) ++
    stringMember "key_id".toList (escapeJson e.key_id.toString) ++
    stringMember "caller_identity".toList (escapeJson e.caller_identity) ++
    stringMember "caller_service".toList (escapeJson e.caller_service) ++
    ("\"success\":".toList ++ (if e.success then "true".toList else "false".toList) ++ [',']) ++
    errorCodeMember e.error_code ++
    stringMember "source_ip".toList (escapeJson e.source_ip) ++
    ("\"metadata\":\x7b".toList ++ metadataMembers true e.metadata ++ ['\x7d']) ++ ['\x7d'])

/-! ## Reading the JSON back -/

/-- What a JSON reader takes back from one escaped byte: an ASCII byte itself; from 0x80 on,
U+FFFF, `ff` and the byte's two hexadecimal digits. -/
def readBackChar (c : Char) : List Char :=
  if c.toNat < 0x80 then [c]
  else [Char.ofNat 0xFFFF, 'f', 'f', Nat.digitChar (c.toNat / 16), Nat.digitChar (c.toNat % 16)]

/-- What a JSON reader takes back from an escaped text. -/
def readBack (s : List Char) : List Char := s.flatMap readBackChar

/-- The texts of an entry that `toJson` escapes. -/
def AuditEntry.texts (e : AuditEntry) : List (List Char) :=
  [e.correlation_id, e.key_id.toString, e.caller_identity, e.caller_service, e.source_ip] ++
    e.error_code.toList ++ e.metadata.flatMap fun p => [p.1, p.2]

/-- The members of the JSON object of an entry, in order, each text field `s` as `text s`:
`text = id` is the entry itself. -/
def AuditEntry.jsonMembers (text : List Char → List Char) (e : AuditEntry) :
    List (List Char × JsonValue) :=
  [("correlation_id".toList, .str (text e.correlation_id)),
    ("timestamp".toList, .str (timePointToIso8601 e.timestamp)),
    ("operation".toList, .str (auditOperationToString e.operation)),
    ("key_id".toList, .str (text e.key_id.toString)),
    ("caller_identity".toList, .str (text e.caller_identity)),
    ("caller_service".toList, .str (text e.caller_service)),
    ("success".toList, .bool e.success)] ++
  (e.error_code.map fun error_code => ("error_code".toList, .str (text error_code))).toList ++
  [("source_ip".toList, .str (text e.source_ip)),
    ("metadata".toList, .obj (e.metadata.map fun p => (text p.1, .str (text p.2))))]

/-! ### Escapes -/

theorem hexInt_of_lt {n : ℕ} (h : n < 256) :
    hexInt n = ['0', '0', Nat.digitChar (n / 16), Nat.digitChar (n % 16)] := by
  have hm : ((n : ℤ) % 2 ^ 32).toNat = n := by omega
  simp only [hexInt, hm]
  rcases Nat.lt_or_ge n 16 with h16 | h16
  · rw [toDigits_of_lt h16, Nat.div_eq_of_lt h16, Nat.mod_eq_of_lt h16]
    rfl
  · rw [toDigits_of_le (by norm_num) h16, toDigits_of_lt (by omega : n / 16 < 16)]
    rfl

theorem hexInt_of_ge {n : ℕ} (h₁ : 128 ≤ n) (h₂ : n < 256) :
    hexInt ((n : ℤ) - 0x100) =
      ['f', 'f', 'f', 'f', 'f', 'f', Nat.digitChar (n / 16), Nat.digitChar (n % 16)] := by
  have hm : (((n : ℤ) - 0x100) % 2 ^ 32).toNat = 4294967040 + n := by omega
  have hd : Nat.toDigits 16 (4294967040 + n) =
      "ffffff".toList ++ [Nat.digitChar (n / 16), Nat.digitChar (n % 16)] := by
    rw [toDigits_of_le (by norm_num) (by omega), toDigits_of_le (by norm_num) (by omega),
      show (4294967040 + n) / 16 / 16 = 16777215 by omega,
      show (4294967040 + n) / 16 % 16 = n / 16 by omega,
      show (4294967040 + n) % 16 = n % 16 by omega]
    rfl
  simp only [hexInt, hm, hd]
  rfl

theorem isPlain_digitChar {k : ℕ} (h : k < 16) : isPlain (Nat.digitChar k) = true := by
  interval_cases k <;> rfl

theorem hex4_digitChar {n : ℕ} (h : n < 256) :
    hex4 '0' '0' (Nat.digitChar (n / 16)) (Nat.digitChar (n % 16)) = some n := by
  have h0 : hexValue '0' = some 0 := rfl
  simp only [hex4, h0, hexValue_digitChar (by omega : n / 16 < 16),
    hexValue_digitChar (Nat.mod_lt n (by norm_num : 16 > 0)), Option.pure_def, Option.bind_eq_bind,
    Option.some_bind, Option.some.injEq]
  omega

/-- **One escaped byte reads back as `readBackChar`.** The seven short escapes read as their
characters, a control character's `\u00XY` as itself, a byte from 0x80 on as U+FFFF and four
plain characters, and any other ASCII character stands for itself. -/
theorem readJsonString_escapeChar {c : Char} (hc : c.toNat < 256) (t : List Char) :
    readJsonString (escapeChar c ++ t) = prependRead (readBackChar c) (readJsonString t) := by
  unfold escapeChar
  split <;> try exact readJsonString_escape (by rfl) t
  rename_i h₁ h₂ _ _ _ _ _
  split_ifs with hlt
  · by_cases h80 : c.toNat < 0x80
    · have hci : charToInt c = c.toNat := if_pos h80
      rw [hci] at hlt
      rw [hci, hexInt_of_lt hc, readBackChar, if_pos h80]
      simp only [List.cons_append, List.nil_append]
      rw [readJsonString_unicode (hex4_digitChar hc) (.inl (by omega)), Char.ofNat_toNat]
    · have hci : charToInt c = (c.toNat : ℤ) - 0x100 := if_neg h80
      rw [hci, hexInt_of_ge (by omega) hc, readBackChar, if_neg h80]
      simp only [List.cons_append, List.nil_append]
      rw [readJsonString_unicode (show hex4 'f' 'f' 'f' 'f' = some 0xFFFF from rfl)
          (.inr (by norm_num)),
        readJsonString_plain (by rfl), readJsonString_plain (by rfl),
        readJsonString_plain (isPlain_digitChar (by omega)),
        readJsonString_plain (isPlain_digitChar (Nat.mod_lt _ (by norm_num))),
        prependRead_prependRead, prependRead_prependRead, prependRead_prependRead,
        prependRead_prependRead]
      rfl
  · have h80 : c.toNat < 0x80 := by
      by_contra h80
      exact hlt (by rw [charToInt, if_neg h80]; omega)
    have hci : charToInt c = c.toNat := if_pos h80
    rw [hci] at hlt
    rw [List.singleton_append, readJsonString_plain, readBackChar, if_pos h80]
    simp only [isPlain, Bool.and_eq_true, bne_iff_ne, ne_eq, decide_eq_true_eq]
    exact ⟨⟨h₁, h₂⟩, by omega⟩

/-- **An escaped byte string reads back as `readBack`.** -/
theorem stringReads_escapeJson {s : List Char} (hs : ∀ c ∈ s, c.toNat < 256) :
    StringReads (escapeJson s) (readBack s) := by
  intro r
  induction s with
  | nil => exact readJsonString_cons (by decide) r
  | cons c s ih =>
    rw [escapeJson, List.flatMap_cons, List.append_assoc,
      readJsonString_escapeChar (hs c (List.mem_cons_self _ _)), ← escapeJson,
      ih fun c hc => hs c (List.mem_cons_of_mem _ hc)]
    rfl

theorem readBack_of_ascii {s : List Char} (h : ∀ c ∈ s, c.toNat < 0x80) : readBack s = s := by
  induction s with
  | nil => rfl
  | cons c s ih =>
    rw [readBack, List.flatMap_cons, ← readBack, ih fun c hc => h c (List.mem_cons_of_mem _ hc),
      readBackChar, if_pos (h c (List.mem_cons_self _ _))]
    rfl

theorem length_readBack (s : List Char) :
    (readBack s).length = s.length + 4 * s.countP fun c => 0x80 ≤ c.toNat := by
  induction s with
  | nil => rfl
  | cons c s ih =>
    rw [readBack, List.flatMap_cons, ← readBack, List.length_append, ih, List.countP_cons,
      List.length_cons, readBackChar]
    by_cases h : c.toNat < 0x80
    · simp only [if_pos h, decide_eq_true_eq, if_neg (show ¬ 0x80 ≤ c.toNat by omega),
        List.length_singleton]
      omega
    · simp only [if_neg h, decide_eq_true_eq, if_pos (show 0x80 ≤ c.toNat by omega),
        List.length_cons, List.length_nil]
      omega

/-- A text reads back as itself exactly when it is ASCII. -/
theorem readBack_eq_self_iff {s : List Char} : readBack s = s ↔ ∀ c ∈ s, c.toNat < 0x80 := by
  refine ⟨fun h c hc => ?_, readBack_of_ascii⟩
  have hlen := congrArg List.length h
  rw [length_readBack] at hlen
  have h0 : s.countP (fun c => 0x80 ≤ c.toNat) = 0 := by omega
  have := List.countP_eq_zero.1 h0 c hc
  simpa using this

/-! ### Texts written as they are -/

theorem isPlain_of_isDigit {c : Char} (h : c.isDigit = true) : isPlain c = true := by
  have h48 : 48 ≤ c.toNat := by simp [Char.isDigit, Char.le_def] at h; exact h.1
  have h57 := isDigit_toNat h
  have h₁ : c ≠ '"' := by rintro rfl; exact absurd h48 (by decide)
  have h₂ : c ≠ '\\' := by rintro rfl; exact absurd h57 (by decide)
  simp only [isPlain, Bool.and_eq_true, bne_iff_ne, ne_eq, decide_eq_true_eq]
  exact ⟨⟨h₁, h₂⟩, by omega⟩

theorem isPlain_timePointToIso8601 (tp : ℤ) : ∀ c ∈ timePointToIso8601 tp, isPlain c = true := by
  have hd : ∀ n, ∀ c ∈ twoDigits n, isPlain c = true := fun n c hc => by
    simp only [twoDigits, List.mem_cons, List.mem_singleton, List.not_mem_nil, or_false] at hc
    rcases hc with rfl | rfl
    · exact isPlain_of_isDigit (digitChar_isDigit (Nat.mod_lt _ (by norm_num)))
    · exact isPlain_of_isDigit (digitChar_isDigit (Nat.mod_lt _ (by norm_num)))
  have hy : ∀ y, ∀ c ∈ yearText y, isPlain c = true := fun y c hc => by
    simp only [yearText, List.mem_append] at hc
    rcases hc with hc | hc
    · split_ifs at hc
      · rw [List.mem_singleton.1 hc]; rfl
      · simp at hc
    · exact isPlain_of_isDigit (isDigit_of_mem_toDecimal _ c hc)
  intro c hc
  simp only [timePointToIso8601, List.mem_append, List.mem_cons, List.mem_singleton,
    List.not_mem_nil, or_false] at hc
  rcases hc with (((((hc | rfl | hc) | rfl | hc) | rfl | hc) | rfl | hc) | rfl | hc) | rfl
  all_goals first | rfl | exact hd _ c hc | exact hy _ c hc

theorem isPlain_auditOperationToString (op : AuditOperation) :
    ∀ c ∈ auditOperationToString op, isPlain c = true := by
  cases op <;> decide

/-! ### Members -/

theorem readMembers_zero (t : List Char) : readMembers 0 t = none := rfl

/-- A text member, in front of members a reader reads with fuel `f`. -/
theorem readMembers_stringMember (name : List Char) {text v : List Char}
    (hn : ∀ c ∈ name, isPlain c = true) (ht : StringReads text v) {f : ℕ} {rest r : List Char} {ms : List (List Char × JsonValue)}
    (h : readMembers f rest = some (ms, r)) :
    readMembers (f + 1) (stringMember name text ++ rest) = some ((name, .str v) :: ms, r) := by
  obtain ⟨f, rfl⟩ : ∃ g, f = g + 1 := ⟨f - 1, by cases f <;> simp_all [readMembers_zero]⟩
  have hv : readValue (f + 1) ('"' :: (text ++ '"' :: ',' :: rest)) = some (.str v, ',' :: rest) := by
    rw [readValue_string, ht]
    rfl
  simp only [stringMember, List.cons_append, List.append_assoc, List.nil_append]
  rw [readMembers_comma (readJsonString_plain_append hn _) hv, h]
  rfl

theorem metadataMembers_true_cons (p : List Char × List Char) (m : StdMap (List Char)) :
    metadataMembers true (p :: m) =
      '"' :: (escapeJson p.1 ++ '"' :: ':' :: '"' :: (escapeJson p.2 ++ '"' :: metadataMembers false m)) :=
  rfl

theorem metadataMembers_false_cons (p : List Char × List Char) (m : StdMap (List Char)) :
    metadataMembers false (p :: m) = ',' :: metadataMembers true (p :: m) := rfl

/-- A text that reads back, as the value of a member followed by `d`. -/
theorem readValue_escapeJson {s : List Char} (hs : ∀ c ∈ s, c.toNat < 256) (f : ℕ) (d : Char)
    (rest : List Char) :
    readValue (f + 1) ('"' :: (escapeJson s ++ '"' :: d :: rest)) =
      some (.str (readBack s), d :: rest) := by
  rw [readValue_string, stringReads_escapeJson hs]
  rfl

/-- The members of a nonempty metadata map, then the closing brace. -/
theorem readMembers_metadataMembers (p : List Char × List Char) (m : StdMap (List Char))
    (hm : ∀ q ∈ p :: m, (∀ c ∈ q.1, c.toNat < 256) ∧ ∀ c ∈ q.2, c.toNat < 256) (f : ℕ)
    (rest : List Char) :
    readMembers (f + 2 + m.length) (metadataMembers true (p :: m) ++ '\x7d' :: rest) =
      some ((p :: m).map fun q => (readBack q.1, .str (readBack q.2)), rest) := by
  induction m generalizing p with
  | nil =>
    obtain ⟨hk, hv⟩ := hm p (List.mem_cons_self _ _)
    simp only [metadataMembers_true_cons, metadataMembers, List.nil_append, List.cons_append,
      List.append_assoc]
    exact readMembers_close (stringReads_escapeJson hk _) (readValue_escapeJson hv _ _ _)
  | cons q m ih =>
    obtain ⟨hk, hv⟩ := hm p (List.mem_cons_self _ _)
    have hfuel : f + 2 + (q :: m).length = f + 1 + m.length + 1 + 1 := by simp; omega
    rw [hfuel, metadataMembers_true_cons, metadataMembers_false_cons]
    simp only [List.cons_append, List.append_assoc]
    rw [readMembers_comma (stringReads_escapeJson hk _) (readValue_escapeJson hv _ _ _),
      show f + 1 + m.length + 1 = f + 2 + m.length by omega,
      ih q fun r hr => hm r (List.mem_cons_of_mem _ hr)]
    rfl

/-- The metadata object, then the rest. -/
theorem readValue_metadata (m : StdMap (List Char))
    (hm : ∀ q ∈ m, (∀ c ∈ q.1, c.toNat < 256) ∧ ∀ c ∈ q.2, c.toNat < 256) (f : ℕ)
    (rest : List Char) :
    readValue (f + 3 + m.length) ('\x7b' :: (metadataMembers true m ++ '\x7d' :: rest)) =
      some (.obj (m.map fun q => (readBack q.1, .str (readBack q.2))), rest) := by
  cases m with
  | nil => rfl
  | cons p m =>
    rw [show f + 3 + (p :: m).length = f + 1 + 2 + m.length + 1 by simp; omega,
      metadataMembers_true_cons, List.cons_append, readValue_object, ← List.cons_append,
      ← metadataMembers_true_cons, readMembers_metadataMembers p m hm]
    rfl

theorem readMembers_success (b : Bool) {f : ℕ} {rest r : List Char}
    {ms : List (List Char × JsonValue)} (h : readMembers f rest = some (ms, r)) :
    readMembers (f + 1)
        ("\"success\":".toList ++ ((if b then "true".toList else "false".toList) ++ ([','] ++ rest))) =
      some (("success".toList, .bool b) :: ms, r) := by
  obtain ⟨f, rfl⟩ : ∃ g, f = g + 1 := ⟨f - 1, by cases f <;> simp_all [readMembers_zero]⟩
  have hv : readValue (f + 1) ((if b then "true".toList else "false".toList) ++ ',' :: rest) =
      some (.bool b, ',' :: rest) := by
    cases b
    · exact readValue_false f _
    · exact readValue_true f _
  rw [show "\"success\":".toList ++ ((if b then "true".toList else "false".toList) ++ ([','] ++ rest)) =
    '"' :: ("success".toList ++ '"' :: ':' :: ((if b then "true".toList else "false".toList) ++
      ',' :: rest)) by simp, readMembers_comma (readJsonString_plain_append (by decide) _) hv, h]
  rfl

theorem readMembers_errorCode (error_code : Option (List Char))
    (hec : ∀ s ∈ error_code.toList, ∀ c ∈ s, c.toNat < 256) {f : ℕ} {rest r : List Char}
    {ms : List (List Char × JsonValue)} (h : readMembers f rest = some (ms, r)) :
    readMembers (f + error_code.toList.length) (errorCodeMember error_code ++ rest) =
      some ((error_code.map fun s => ("error_code".toList, .str (readBack s))).toList ++ ms, r) := by
  cases error_code with
  | none => exact h
  | some s => exact readMembers_stringMember _ (by decide) (stringReads_escapeJson (hec s (by simp))) h

theorem readMembers_metadata (m : StdMap (List Char))
    (hm : ∀ q ∈ m, (∀ c ∈ q.1, c.toNat < 256) ∧ ∀ c ∈ q.2, c.toNat < 256) (f : ℕ) :
    readMembers (f + 3 + m.length + 1)
        ("\"metadata\":\x7b".toList ++ (metadataMembers true m ++ (['\x7d'] ++ ['\x7d']))) =
      some ([("metadata".toList, .obj (m.map fun q => (readBack q.1, .str (readBack q.2))))], []) := by
  rw [show "\"metadata\":\x7b".toList ++ (metadataMembers true m ++ (['\x7d'] ++ ['\x7d'])) =
    '"' :: ("metadata".toList ++ '"' :: ':' :: ('\x7b' :: (metadataMembers true m ++ ['\x7d', '\x7d'])))
    by simp]
  exact readMembers_close (readJsonString_plain_append (by decide) _) (readValue_metadata m hm f _)

theorem length_metadataMembers (b : Bool) (m : StdMap (List Char)) :
    m.length ≤ (metadataMembers b m).length := by
  induction m generalizing b with
  | nil => exact le_refl 0
  | cons p m ih =>
    have := ih false
    simp only [metadataMembers, List.length_append, List.length_cons]
    omega

theorem readValue_object_stringMember (n : ℕ) (name text rest : List Char) :
    readValue (n + 1) ('\x7b' :: (stringMember name text ++ rest)) =
      (readMembers n (stringMember name text ++ rest)).map fun p => (.obj p.1, p.2) := rfl

/-- The JSON of an entry of byte texts, read with enough fuel. -/
theorem readValue_toJson (e : AuditEntry) (he : ∀ s ∈ e.texts, ∀ c ∈ s, c.toNat < 256) (f : ℕ) :
    readValue (f + 3 + e.metadata.length + 1 + 1 + e.error_code.toList.length + 1 + 6 + 1)
      e.toJson = some (.obj (e.jsonMembers readBack), []) := by
  have hfield : ∀ s ∈ [e.correlation_id, e.key_id.toString, e.caller_identity, e.caller_service,
      e.source_ip], StringReads (escapeJson s) (readBack s) := fun s hs =>
    stringReads_escapeJson (he s (by rw [AuditEntry.texts, List.append_assoc]; exact List.mem_append_left _ hs))
  have hec : ∀ s ∈ e.error_code.toList, ∀ c ∈ s, c.toNat < 256 := fun s hs =>
    he s (by rw [AuditEntry.texts]; exact List.mem_append_left _ (List.mem_append_right _ hs))
  have hm : ∀ q ∈ e.metadata, (∀ c ∈ q.1, c.toNat < 256) ∧ ∀ c ∈ q.2, c.toNat < 256 := fun q hq =>
    ⟨he q.1 (by rw [AuditEntry.texts]; exact List.mem_append_right _ (List.mem_flatMap.2 ⟨q, hq, by simp⟩)),
      he q.2 (by rw [AuditEntry.texts]; exact List.mem_append_right _ (List.mem_flatMap.2 ⟨q, hq, by simp⟩))⟩
  have h := readMembers_stringMember "correlation_id".toList (by decide)
      (hfield e.correlation_id (by simp))
    (readMembers_stringMember "timestamp".toList (by decide)
      (stringReads_plain (isPlain_timePointToIso8601 e.timestamp))
    (readMembers_stringMember "operation".toList (by decide)
      (stringReads_plain (isPlain_auditOperationToString e.operation))
    (readMembers_stringMember "key_id".toList (by decide) (hfield e.key_id.toString (by simp))
    (readMembers_stringMember "caller_identity".toList (by decide) (hfield e.caller_identity (by simp))
    (readMembers_stringMember "caller_service".toList (by decide) (hfield e.caller_service (by simp))
    (readMembers_success e.success
    (readMembers_errorCode e.error_code hec
    (readMembers_stringMember "source_ip".toList (by decide) (hfield e.source_ip (by simp))
    (readMembers_metadata e.metadata hm f)))))))))
  simp only [AuditEntry.toJson, List.append_assoc]
  rw [readValue_object_stringMember]
  exact congrArg (Option.map _) h

theorem length_toJson (e : AuditEntry) :
    13 + e.metadata.length + e.error_code.toList.length ≤ e.toJson.length := by
  have := length_metadataMembers true e.metadata
  have hk : e.error_code.toList.length ≤ 1 := by cases e.error_code <;> simp
  simp only [AuditEntry.toJson, stringMember, List.length_cons, List.length_append]
  omega

/-- **The JSON of an audit entry.** For every entry whose texts are byte strings, `toJson` is
read as one JSON object whose members are the entry's fields in order, each text field `s` as
`readBack s`; and `readBack s` is `s` exactly when `s` is ASCII, while every byte from 0x80 on
makes it four characters longer. The members decode to the fields exactly when the texts are
ASCII. -/
theorem toJson_reads_back (e : AuditEntry) (he : ∀ s ∈ e.texts, ∀ c ∈ s, c.toNat < 256) :
    readJson e.toJson = some (.obj (e.jsonMembers readBack)) ∧
      ∀ s ∈ e.texts, (readBack s = s ↔ ∀ c ∈ s, c.toNat < 0x80) ∧
        (readBack s).length = s.length + 4 * s.countP fun c => 0x80 ≤ c.toNat := by
  refine ⟨?_, fun s _ => ⟨readBack_eq_self_iff, length_readBack s⟩⟩
  obtain ⟨f, hf⟩ : ∃ f, e.toJson.length =
      f + 3 + e.metadata.length + 1 + 1 + e.error_code.toList.length + 1 + 6 + 1 :=
    ⟨e.toJson.length - (13 + e.metadata.length + e.error_code.toList.length), by
      have := length_toJson e; omega⟩
  rw [readJson, hf, readValue_toJson e he f]

/-- The caller `é`, the two UTF-8 bytes C3 A9: its member reads back as ten characters, U+FFFF,
`ffc3`, U+FFFF and `ffa9`. -/
theorem toJson_reads_back_e_acute :
    String.utf8EncodeChar 'é' = [0xC3, 0xA9] ∧
      readJson (AuditEntry.toJson ⟨[], 0, .ENCRYPT, default, ['\xC3', '\xA9'], [], true, none, [], []⟩) =
        some (.obj ((⟨[], 0, .ENCRYPT, default, ['\xC3', '\xA9'], [], true, none, [], []⟩ :
          AuditEntry).jsonMembers readBack)) ∧
      readBack ['\xC3', '\xA9'] =
        [Char.ofNat 0xFFFF, 'f', 'f', 'c', '3', Char.ofNat 0xFFFF, 'f', 'f', 'a', '9'] :=
  ⟨by decide, (toJson_reads_back _ (by decide)).1, rfl⟩

end CryptoService
