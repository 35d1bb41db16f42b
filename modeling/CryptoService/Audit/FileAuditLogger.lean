import CryptoService.Audit.AuditJson
import CryptoService.Engine.AesGcm
import CryptoService.Services.FileEnvelope

/-!
# The audit log on disk

`FileAuditLogger` of `crypto/audit/audit_logger.cpp` appends every entry it is given to the file
of the current day, `<log_path>/audit_YYYYMMDD.log`, the date that of `system_clock::now()` in
UTC. When `encrypt_logs_` is set and the key is not empty, an entry is the JSON of
`AuditEntry::toJson` sealed by `AESEngine::encryptGCM`, written as three fields that are each a
`uint32_t` length and its bytes: the IV, the tag and the ciphertext. Otherwise it is the JSON and
a newline. `logOperation` drops the `Result` of `writeEntry`: an entry that cannot be sealed, or
whose file does not open, is lost without a word. `query` returns no entries, so `exportToJson`
writes an empty array whatever was logged.

Each call takes from its environment the time, the IV that `RAND_bytes` draws and whether the
`std::ofstream` opens (`WriteDraw`); a write to an opened stream completes.

* `run_appends`: whatever the configuration and the draws, a run only appends to each file, and
  leaves as it is every file that was not the current one at any of its calls;
* `plain_log_lines`: without encryption, a file of lines stays one, and reads back line by line
  as its old lines followed by the JSON of each entry logged into it, in order;
* `encrypted_log_records`: with a key of 16 or 32 bytes, what a run appends to a file reads as
  records that the key opens to the JSON of each entry logged into it, in order, except the
  entries whose IV was not drawn or whose JSON passes the engine's 64 MiB limit, which are lost;
* `run_bad_key`: with encryption on and a key of any other non-zero length, no run changes any
  file: every entry is lost.
-/

namespace CryptoService

open FileEncryptionHeader

/-! ## The characters of the JSON

For byte texts, `toJson` writes printable ASCII only: every control character and every byte
from 0x80 on goes out escaped. In particular a JSON line holds no newline. -/

/-- A printable ASCII character, from the space to the tilde. -/
def isPrintableAscii (c : Char) : Bool := 0x20 ≤ c.toNat && c.toNat < 0x80

theorem exists_digitChar_of_mem_toDigits {b n : ℕ} (hb : 1 < b) {x : Char}
    (hx : x ∈ Nat.toDigits b n) : ∃ k < b, x = Nat.digitChar k := by
  induction n using Nat.strong_induction_on with
  | _ n ih =>
    rcases Nat.lt_or_ge n b with h | h
    · rw [toDigits_of_lt h, List.mem_singleton] at hx
      exact ⟨n, h, hx⟩
    · rw [toDigits_of_le hb h, List.mem_append, List.mem_singleton] at hx
      rcases hx with hx | rfl
      · exact ih _ (Nat.div_lt_self (by omega) hb) hx
      · exact ⟨_, Nat.mod_lt _ (by omega), rfl⟩

theorem isPrintableAscii_digitChar {k : ℕ} (h : k < 16) :
    isPrintableAscii (Nat.digitChar k) = true := by
  interval_cases k <;> rfl

theorem isPrintableAscii_of_mem_toDigits {b n : ℕ} (hb : 1 < b) (hb16 : b ≤ 16) {x : Char}
    (hx : x ∈ Nat.toDigits b n) : isPrintableAscii x = true := by
  obtain ⟨k, hk, rfl⟩ := exists_digitChar_of_mem_toDigits hb hx
  exact isPrintableAscii_digitChar (by omega)

/-- An escaped byte is printable: the short escapes and `\u` with hexadecimal digits, or the
byte itself when it is printable already. -/
theorem isPrintableAscii_escapeChar {c : Char} (hc : c.toNat < 256) :
    ∀ x ∈ escapeChar c, isPrintableAscii x = true := by
  unfold escapeChar
  split <;> try decide
  split_ifs with h
  · intro x hx
    simp only [hexInt, List.mem_cons, List.mem_append] at hx
    rcases hx with rfl | rfl | hx | hx
    · rfl
    · rfl
    · rw [List.eq_of_mem_replicate hx]; rfl
    · exact isPrintableAscii_of_mem_toDigits (by norm_num) le_rfl hx
  · have : 0x20 ≤ c.toNat ∧ c.toNat < 0x80 := by
      unfold charToInt at h; split_ifs at h <;> omega
    simpa [isPrintableAscii] using this

theorem all_isPrintableAscii_escapeJson {s : List Char} (hs : ∀ c ∈ s, c.toNat < 256) :
    (escapeJson s).all isPrintableAscii = true :=
  List.all_eq_true.2 fun x hx => by
    obtain ⟨c, hc, hx⟩ := List.mem_flatMap.1 hx
    exact isPrintableAscii_escapeChar (hs c hc) x hx

theorem all_isPrintableAscii_timePointToIso8601 (tp : ℤ) :
    (timePointToIso8601 tp).all isPrintableAscii = true := by
  have hd : ∀ n, (twoDigits n).all isPrintableAscii = true := fun n => by
    simp only [twoDigits, List.all_cons, List.all_nil, Bool.and_true,
      isPrintableAscii_digitChar (Nat.mod_lt _ (by norm_num : 10 > 0) |>.trans (by norm_num))]
  have hy : ∀ y, (yearText y).all isPrintableAscii = true := fun y => by
    rw [yearText, List.all_append, List.all_eq_true.2 fun x (hx : x ∈ toDecimal y.natAbs) =>
      isPrintableAscii_of_mem_toDigits (by norm_num) (by norm_num) hx, Bool.and_true]
    split <;> rfl
  simp only [timePointToIso8601, List.all_append, List.all_cons, hd, hy]
  rfl

theorem all_isPrintableAscii_metadataMembers (first : Bool) {m : StdMap (List Char)}
    (hm : ∀ q ∈ m, (∀ c ∈ q.1, c.toNat < 256) ∧ ∀ c ∈ q.2, c.toNat < 256) :
    (metadataMembers first m).all isPrintableAscii = true := by
  induction m generalizing first with
  | nil => rfl
  | cons q m ih =>
    obtain ⟨h₁, h₂⟩ := hm q (List.mem_cons_self _ _)
    simp only [metadataMembers, List.all_append, List.all_cons,
      all_isPrintableAscii_escapeJson h₁, all_isPrintableAscii_escapeJson h₂,
      ih false fun q' hq' => hm q' (List.mem_cons_of_mem _ hq')]
    split <;> rfl

/-- **The JSON of an entry of byte texts is printable ASCII.** -/
theorem all_isPrintableAscii_toJson {e : AuditEntry}
    (he : ∀ s ∈ e.texts, ∀ c ∈ s, c.toNat < 256) : e.toJson.all isPrintableAscii = true := by
  have hesc : ∀ s ∈ e.texts, (escapeJson s).all isPrintableAscii = true :=
    fun s hs => all_isPrintableAscii_escapeJson (he s hs)
  have hm : ∀ q ∈ e.metadata, (∀ c ∈ q.1, c.toNat < 256) ∧ ∀ c ∈ q.2, c.toNat < 256 := fun q hq =>
    have hq : ∀ s ∈ [q.1, q.2], s ∈ e.texts := fun s hs => by
      rw [AuditEntry.texts]; exact List.mem_append_right _ (List.mem_flatMap.2 ⟨q, hq, hs⟩)
    ⟨he q.1 (hq _ (by simp)), he q.2 (hq _ (by simp))⟩
  have hec : (errorCodeMember e.error_code).all isPrintableAscii = true := by
    cases hc : e.error_code with
    | none => rfl
    | some code =>
      simp only [errorCodeMember, stringMember, List.all_cons, List.all_append,
        hesc code (by simp [AuditEntry.texts, hc])]
      rfl
  have hop : (auditOperationToString e.operation).all isPrintableAscii = true := by
    cases e.operation <;> rfl
  have hsucc : (if e.success then "true".toList else "false".toList).all isPrintableAscii = true := by
    split <;> rfl
  simp only [AuditEntry.toJson, stringMember, List.all_cons, List.all_append,
    hesc _ (by simp [AuditEntry.texts] : e.correlation_id ∈ e.texts),
    hesc _ (by simp [AuditEntry.texts] : e.key_id.toString ∈ e.texts),
    hesc _ (by simp [AuditEntry.texts] : e.caller_identity ∈ e.texts),
    hesc _ (by simp [AuditEntry.texts] : e.caller_service ∈ e.texts),
    hesc _ (by simp [AuditEntry.texts] : e.source_ip ∈ e.texts),
    all_isPrintableAscii_timePointToIso8601, hop, hsucc, hec,
    all_isPrintableAscii_metadataMembers true hm]
  rfl

theorem newline_not_mem_toJson {e : AuditEntry} (he : ∀ s ∈ e.texts, ∀ c ∈ s, c.toNat < 256) :
    '\n' ∉ e.toJson := fun h =>
  absurd (List.all_eq_true.1 (all_isPrintableAscii_toJson he) _ h) (by decide)

/-- The files of the audit directory, each as its bytes; a file not written yet is empty. -/
abbrev Files := List Char → Bytes

/-- `std::ofstream(path, std::ios::app | std::ios::binary)` and `file.write(data)`: the bytes go
at the end of the file. -/
def appendFile (files : Files) (path : List Char) (data : Bytes) : Files :=
  fun q => if q = path then files q ++ data else files q

/-- What the environment gives one `logOperation`: `system_clock::now()`, the IV that
`RAND_bytes` draws for `encryptGCM` (`none` when it fails), and whether the log file opens. -/
structure WriteDraw where
  now : ℤ
  iv : Option (Fixed 12)
  opened : Bool

/-- The loop of `exportToJson`: `,` and a newline before every entry but the first, then two
spaces and the entry's JSON. -/
def exportEntries (first : Bool) : List AuditEntry → List Char
  | [] => []
  | entry :: entries =>
    (if first then [] else [',', '\n']) ++ ' ' :: ' ' :: entry.toJson ++ exportEntries false entries

/-- What the two `exportToJson`s, of the file and of the in-memory logger, do after their
`query`: the entries between `[` and `]` in the file at `path`, which `std::ofstream` empties
first; `opened` is whether it opens. -/
def writeExport (entries_result : Result (List AuditEntry)) (files : Files) (path : List Char)
    (opened : Bool) : Result Unit × Files :=
  match entries_result with
  | .error e => (.error e, files)
  | .ok entries =>
    if opened then
      (.ok (), fun p => if p = path then
        stringBytes (['[', '\n'] ++ exportEntries true entries ++ ['\n', ']']) else files p)
    else (err .INTERNAL_ERROR "Failed to open file for writing".toList, files)

/-- `crypto::FileAuditLogger`. -/
structure FileAuditLogger where
  log_path_ : List Char
  encryption_key_ : Bytes
  encrypt_logs_ : Bool

namespace FileAuditLogger

/-- `getCurrentLogFile`: `log_path_`, `/audit_`, the UTC date of `now` as `%Y%m%d`, `.log`. -/
def getCurrentLogFile (l : FileAuditLogger) (now : ℤ) : List Char :=
  let date := civilFromDays (now.tdiv ticksPerSecond / 86400)
  l.log_path_ ++ "/audit_".toList ++ yearText date.1 ++ twoDigits date.2.1 ++ twoDigits date.2.2 ++
    ".log".toList

example : getCurrentLogFile ⟨"logs".toList, [], false⟩ (1709164800 * 1000000000) =
    "logs/audit_20240229.log".toList := by
  decide

/-- `oss.write(&len, sizeof(len))` and `oss.write(data, len)`, with `len` the size cast to
`uint32_t`. -/
def writeField (data : Bytes) : Bytes :=
  let len := UInt32.ofNat data.length
  writeU32 len ++ data.take len.toNat

/-- The record of a sealed entry: `[iv_len][iv][tag_len][tag][data_len][data]`. -/
def recordBytes (r : EncryptResult) : Bytes :=
  writeField r.iv ++ writeField r.tag ++ writeField r.ciphertext

variable (A : Aead)

/-- The `data_to_write` of `writeEntry`: the sealed record when `encrypt_logs_` is set and the
key is not empty, otherwise the JSON and a newline. -/
def dataToWrite (l : FileAuditLogger) (json : List Char) (iv : Option (Fixed 12)) : Result Bytes :=
  if l.encrypt_logs_ ∧ l.encryption_key_ ≠ [] then
    (encryptGCM A (stringBytes json) l.encryption_key_ [] iv).map recordBytes
  else .ok (stringBytes (json ++ ['\n']))

/-- `writeEntry`. -/
def writeEntry (l : FileAuditLogger) (files : Files) (entry : AuditEntry) (d : WriteDraw) :
    Result Unit × Files :=
  match dataToWrite A l entry.toJson d.iv with
  | .error e => (.error e, files)
  | .ok data =>
    if d.opened then (.ok (), appendFile files (l.getCurrentLogFile d.now) data)
    else (err .AUDIT_LOG_FAILED "Failed to open audit log file".toList, files)

/-- `logOperation`: `writeEntry` under the lock, its `Result` dropped. -/
def logOperation (l : FileAuditLogger) (files : Files) (entry : AuditEntry) (d : WriteDraw) :
    Files :=
  (writeEntry A l files entry d).2

/-- The files after a sequence of `logOperation`s, which the lock puts one after another. -/
def run (l : FileAuditLogger) (files : Files) (ops : List (AuditEntry × WriteDraw)) : Files :=
  ops.foldl (fun files op => logOperation A l files op.1 op.2) files

/-- `query`: no entries, whatever the query. -/
def query (_query : AuditQuery) : Result (List AuditEntry) := .ok []

/-- `exportToJson`: the entries of `query`, which are none, written by `writeExport`. -/
def exportToJson (files : Files) (path : List Char) (q : AuditQuery) (opened : Bool) :
    Result Unit × Files :=
  writeExport (query q) files path opened

/-- `exportToJson` writes an empty array, whatever was logged, since `query` returns no entries. -/
theorem exportToJson_opened (files : Files) (path : List Char) (q : AuditQuery) :
    exportToJson files path q true =
      (.ok (), fun p => if p = path then stringBytes "[\n\n]".toList else files p) := rfl

/-! ## Readers

The source declares `readEntries` and defines it nowhere. A reader of the plain log cuts the
text at each newline (`getlineFields`); `readLog` reads the records of the encrypted log. -/

/-- One record of the encrypted log: the IV, the tag and the ciphertext, each a `uint32_t`
length and its bytes. -/
def readRecord (data : Bytes) : Option (EncryptResult × Bytes) := do
  let (iv, rest) ← readBytes data
  let (tag, rest) ← readBytes rest
  let (ciphertext, rest) ← readBytes rest
  pure (⟨ciphertext, iv, tag⟩, rest)

/-- The records of an encrypted log, one after another up to its end, for at most `fuel`
records. -/
def readRecords (fuel : ℕ) (data : Bytes) : Option (List EncryptResult) :=
  if data = [] then some []
  else match fuel with
    | 0 => none
    | n + 1 => do
      let (r, rest) ← readRecord data
      let rs ← readRecords n rest
      pure (r :: rs)

/-- The records of an encrypted log; each takes twelve bytes or more, so the length is enough
fuel. -/
def readLog (data : Bytes) : Option (List EncryptResult) := readRecords data.length data

/-! ## What a run appends -/

@[simp] theorem appendFile_nil (files : Files) (path : List Char) :
    appendFile files path [] = files := by
  funext q; simp [appendFile]

/-- The bytes `writeEntry` appends to the current file: the record or the line when it is made
and the file opens, nothing otherwise. -/
def appended (l : FileAuditLogger) (entry : AuditEntry) (d : WriteDraw) : Bytes :=
  match dataToWrite A l entry.toJson d.iv with
  | .ok data => if d.opened then data else []
  | .error _ => []

/-- One `logOperation` appends `appended` to the current file, and leaves the others. -/
theorem logOperation_eq (l : FileAuditLogger) (files : Files) (entry : AuditEntry)
    (d : WriteDraw) :
    logOperation A l files entry d =
      appendFile files (l.getCurrentLogFile d.now) (appended A l entry d) := by
  unfold logOperation writeEntry appended
  cases dataToWrite A l entry.toJson d.iv with
  | error e => simp
  | ok data => cases d.opened <;> simp

/-- **What a run leaves in a file**: its old bytes, then what each call appended while it was
the current file, in order. -/
theorem run_apply (l : FileAuditLogger) (files : Files) (ops : List (AuditEntry × WriteDraw))
    (p : List Char) :
    run A l files ops p = files p ++ ops.flatMap fun op =>
      if l.getCurrentLogFile op.2.now = p then appended A l op.1 op.2 else [] := by
  induction ops generalizing files with
  | nil => simp [run]
  | cons op ops ih =>
    rw [run, List.foldl_cons, ← run, ih, logOperation_eq, List.flatMap_cons]
    by_cases h : l.getCurrentLogFile op.2.now = p
    · subst h; simp [appendFile]
    · simp [appendFile, h, Ne.symm h]

/-- **The audit log is append-only.** Whatever the configuration, the draws and the failures, a
run keeps every file's bytes as a prefix, and leaves as it is a file that was never the current
one. -/
theorem run_appends (l : FileAuditLogger) (files : Files) (ops : List (AuditEntry × WriteDraw))
    (p : List Char) :
    files p <+: run A l files ops p ∧
      ((∀ op ∈ ops, l.getCurrentLogFile op.2.now ≠ p) → run A l files ops p = files p) := by
  rw [run_apply]
  refine ⟨List.prefix_append _ _, fun h => ?_⟩
  rw [List.flatMap_eq_nil_iff.2 fun op hop => if_neg (h op hop), List.append_nil]

/-- A run's appends to a file as the records of the calls that made one. -/
theorem flatMap_getD_map {α β γ : Type} (g : α → Option β) (f : β → List γ) (xs : List α) :
    (xs.flatMap fun a => ((g a).map f).getD []) = (xs.filterMap g).flatMap f := by
  induction xs with
  | nil => rfl
  | cons a xs ih => cases h : g a <;> simp [List.filterMap_cons, h, ih]

/-! ### A key the engine refuses -/

/-- With encryption on and a key of a length `validateAESKeySize` refuses, nothing is ever
appended. -/
theorem appended_bad_key {l : FileAuditLogger} (hl : l.encrypt_logs_ = true)
    (hk : l.encryption_key_ ≠ [] ∧ l.encryption_key_.length ≠ 16 ∧ l.encryption_key_.length ≠ 32)
    (entry : AuditEntry) (d : WriteDraw) : appended A l entry d = [] := by
  cases h : encryptGCM A (stringBytes entry.toJson) l.encryption_key_ [] d.iv with
  | error e => simp [appended, dataToWrite, hl, hk.1, h, Except.map]
  | ok r =>
    obtain ⟨iv, -, h⟩ := encryptGCM_eq_ok A h
    have := ((encryptGCMWithIV_eq_ok A).1 h).1.2.2.1
    omega

/-- **A key of another size silently turns the audit log off.** With encryption on and a
non-empty key of a length other than 16 and 32 bytes (a 24-byte AES-192 key, say), no run
changes any file: every entry fails to be sealed and `logOperation` drops the error. -/
theorem run_bad_key {l : FileAuditLogger} (hl : l.encrypt_logs_ = true)
    (hk : l.encryption_key_ ≠ [] ∧ l.encryption_key_.length ≠ 16 ∧ l.encryption_key_.length ≠ 32)
    (files : Files) (ops : List (AuditEntry × WriteDraw)) : run A l files ops = files := by
  funext p
  simp [run_apply, appended_bad_key A hl hk]

theorem run_bad_key_aes192 :
    let l : FileAuditLogger := ⟨"logs".toList, List.replicate 24 0, true⟩
    l.encrypt_logs_ = true ∧
      (l.encryption_key_ ≠ [] ∧ l.encryption_key_.length ≠ 16 ∧ l.encryption_key_.length ≠ 32) ∧
      run checksumAead l (fun _ => []) [(⟨[], 0, .ENCRYPT, default, [], [], true, none, [], []⟩,
        ⟨0, some ⟨List.replicate 12 0, rfl⟩, true⟩)] = fun _ => [] :=
  ⟨rfl, by decide, run_bad_key checksumAead rfl (by decide) _ _⟩

/-! ### The plain log -/

theorem appended_plain {l : FileAuditLogger} (hl : l.encrypt_logs_ = false ∨ l.encryption_key_ = [])
    (entry : AuditEntry) (d : WriteDraw) :
    appended A l entry d = if d.opened then stringBytes (entry.toJson ++ ['\n']) else [] := by
  have h : ¬(l.encrypt_logs_ = true ∧ l.encryption_key_ ≠ []) := by
    rcases hl with h | h <;> simp [h]
  simp only [appended, dataToWrite, if_neg h]

/-- Lines without a newline, each followed by one, are cut back into those lines. -/
theorem getlineFields_lines {d : Char} {xs : List (List Char)} (h : ∀ x ∈ xs, d ∉ x) :
    getlineFields d [] (xs.flatMap (· ++ [d])) = xs := by
  induction xs with
  | nil => rfl
  | cons x xs ih =>
    rw [List.flatMap_cons, List.append_assoc, List.singleton_append,
      getlineFields_sep (h x (List.mem_cons_self _ _)),
      ih fun y hy => h y (List.mem_cons_of_mem _ hy)]
    rfl

/-- **The plain log reads back line by line.** Without encryption (the flag off, or the key
empty), a file made of lines stays one through every run: cut at its newlines, it gives its old
lines, then the JSON of each entry logged while it was the current file and opened, in the
order of the calls. -/
theorem plain_log_lines {l : FileAuditLogger} (hl : l.encrypt_logs_ = false ∨ l.encryption_key_ = [])
    {files : Files} {p : List Char} {olds : List (List Char)}
    (hfile : files p = stringBytes (olds.flatMap (· ++ ['\n'])))
    (holds : ∀ x ∈ olds, '\n' ∉ x ∧ ∀ c ∈ x, c.toNat < 256)
    {ops : List (AuditEntry × WriteDraw)}
    (hops : ∀ op ∈ ops, ∀ s ∈ op.1.texts, ∀ c ∈ s, c.toNat < 256) :
    getlineFields '\n' [] (bytesString (run A l files ops p)) =
      olds ++ ops.filterMap fun op =>
        if l.getCurrentLogFile op.2.now = p ∧ op.2.opened = true then some op.1.toJson else none := by
  set g := fun op : AuditEntry × WriteDraw =>
    if l.getCurrentLogFile op.2.now = p ∧ op.2.opened = true then some op.1.toJson else none
  have hg : ∀ op, (if l.getCurrentLogFile op.2.now = p then appended A l op.1 op.2 else []) =
      ((g op).map fun json => stringBytes (json ++ ['\n'])).getD [] := fun op => by
    rw [appended_plain A hl]
    by_cases h₁ : l.getCurrentLogFile op.2.now = p <;> cases h₂ : op.2.opened <;> simp [g, h₁, h₂]
  have hnew : ∀ x ∈ ops.filterMap g, '\n' ∉ x ∧ ∀ c ∈ x, c.toNat < 256 := fun x hx => by
    obtain ⟨op, hop, hx⟩ := List.mem_filterMap.1 hx
    have he := hops op hop
    simp only [g, Option.ite_none_right_eq_some, Option.some.injEq] at hx
    rw [← hx.2]
    exact ⟨newline_not_mem_toJson he, fun c hc => by
      have := List.all_eq_true.1 (all_isPrintableAscii_toJson he) c hc
      simp only [isPrintableAscii, Bool.and_eq_true, decide_eq_true_eq] at this
      omega⟩
  have hall : ∀ x ∈ olds ++ ops.filterMap g, '\n' ∉ x ∧ ∀ c ∈ x, c.toNat < 256 := fun x hx =>
    (List.mem_append.1 hx).elim (holds x) (hnew x)
  have hbytes : files p ++ (ops.filterMap g).flatMap (fun json => stringBytes (json ++ ['\n'])) =
      stringBytes ((olds ++ ops.filterMap g).flatMap (· ++ ['\n'])) := by
    simp only [hfile, stringBytes, List.map_flatMap, List.flatMap_append, List.map_append]
  rw [run_apply, List.flatMap_congr fun op _ => hg op, flatMap_getD_map, hbytes,
    bytesString_stringBytes fun c hc => ?_, getlineFields_lines fun x hx => (hall x hx).1]
  obtain ⟨x, hx, hc⟩ := List.mem_flatMap.1 hc
  rcases List.mem_append.1 hc with hc | hc
  · exact (hall x hx).2 c hc
  · rw [List.mem_singleton.1 hc]; decide

/-- A logger with encryption asked for but an empty key writes the plain JSON lines. -/
theorem plain_log_lines_empty_key :
    let l : FileAuditLogger := ⟨"logs".toList, [], true⟩
    let p := l.getCurrentLogFile 0
    let ops : List (AuditEntry × WriteDraw) :=
      [(⟨[], 0, .ENCRYPT, default, ['\n'], [], true, none, [], []⟩, ⟨0, none, true⟩)]
    (l.encrypt_logs_ = false ∨ l.encryption_key_ = []) ∧
      (fun _ => []) p = stringBytes (([] : List (List Char)).flatMap (· ++ ['\n'])) ∧
      (∀ x ∈ ([] : List (List Char)), '\n' ∉ x ∧ ∀ c ∈ x, c.toNat < 256) ∧
      (∀ op ∈ ops, ∀ s ∈ op.1.texts, ∀ c ∈ s, c.toNat < 256) ∧
      getlineFields '\n' [] (bytesString (run checksumAead l (fun _ => []) ops p)) =
        [] ++ ops.filterMap fun op =>
          if l.getCurrentLogFile op.2.now = p ∧ op.2.opened = true then some op.1.toJson else none := by
  intro l p ops
  have hops : ∀ op ∈ ops, ∀ s ∈ op.1.texts, ∀ c ∈ s, c.toNat < 256 := by decide
  exact ⟨.inr rfl, rfl, by simp, hops,
    @plain_log_lines checksumAead l (.inr rfl) (fun _ => []) p [] rfl (by simp) ops hops⟩

/-! ### The encrypted log -/

/-- A field shorter than `2 ^ 32` bytes is written whole, as `write_bytes` writes it. -/
theorem writeField_of_lt {data : Bytes} (h : data.length < 2 ^ 32) :
    writeField data = writeBytes data := by
  rw [writeField, writeBytes, UInt32.toNat_ofNat_of_lt h, List.take_of_length_le le_rfl]

/-- The fields of a record fit their `uint32_t` lengths. -/
def FieldsFit (r : EncryptResult) : Prop :=
  r.iv.length < 2 ^ 32 ∧ r.tag.length < 2 ^ 32 ∧ r.ciphertext.length < 2 ^ 32

theorem readRecord_recordBytes {r : EncryptResult} (h : FieldsFit r) (rest : Bytes) :
    readRecord (recordBytes r ++ rest) = some (r, rest) := by
  obtain ⟨h₁, h₂, h₃⟩ := h
  rw [recordBytes, writeField_of_lt h₁, writeField_of_lt h₂, writeField_of_lt h₃]
  simp only [readRecord, List.append_assoc, readBytes_append _ h₁, readBytes_append _ h₂,
    readBytes_append _ h₃, Option.bind_eq_bind, Option.some_bind, Option.pure_def]

theorem length_recordBytes (r : EncryptResult) : 12 ≤ (recordBytes r).length := by
  simp only [recordBytes, writeField, List.length_append, length_writeU32]
  omega

/-- Records written one after another read back, given one unit of fuel per record. -/
theorem readRecords_flatMap {rs : List EncryptResult} (hr : ∀ r ∈ rs, FieldsFit r) {n : ℕ}
    (hn : rs.length ≤ n) : readRecords n (rs.flatMap recordBytes) = some rs := by
  induction rs generalizing n with
  | nil => unfold readRecords; rfl
  | cons r rs ih =>
    obtain ⟨m, rfl⟩ : ∃ m, n = m + 1 := ⟨n - 1, by simp at hn; omega⟩
    have hne : recordBytes r ++ rs.flatMap recordBytes ≠ [] := fun h => by
      have := congrArg List.length h
      simp only [List.length_append, List.length_nil] at this
      have := length_recordBytes r
      omega
    rw [List.flatMap_cons]
    unfold readRecords
    rw [if_neg hne]
    simp only [readRecord_recordBytes (hr r (List.mem_cons_self _ _)),
      ih (fun r' h => hr r' (List.mem_cons_of_mem _ h)) (by simpa using hn), Option.bind_eq_bind,
      Option.some_bind, Option.pure_def]

theorem readLog_flatMap {rs : List EncryptResult} (hr : ∀ r ∈ rs, FieldsFit r) :
    readLog (rs.flatMap recordBytes) = some rs := by
  refine readRecords_flatMap hr ?_
  induction rs with
  | nil => exact le_rfl
  | cons r rs ih =>
    have := length_recordBytes r
    simp only [List.length_cons, List.flatMap_cons, List.length_append]
    have := ih fun r' h => hr r' (List.mem_cons_of_mem _ h)
    omega

theorem toOption_eq_some {x : Result EncryptResult} {r : EncryptResult} :
    x.toOption = some r ↔ x = .ok r := by
  cases x <;> simp [Except.toOption]

/-- What `encryptGCM` seals fits the record's fields. -/
theorem fieldsFit_of_encryptGCM {p k a : Bytes} {d : Option (Fixed 12)} {r : EncryptResult}
    (h : encryptGCM A p k a d = .ok r) : FieldsFit r := by
  obtain ⟨iv, -, h⟩ := encryptGCM_eq_ok A h
  obtain ⟨⟨hp, -, -, hiv⟩, rfl⟩ := (encryptGCMWithIV_eq_ok A).1 h
  simp only [limits.MAX_PLAINTEXT_SIZE] at hp
  refine ⟨?_, ?_, ?_⟩ <;> simp only [A.length_tag, A.length_ciphertext, iv.2] <;> omega

/-- Sealing with a good key, then opening: the plaintext back when the IV was drawn and the
plaintext is within the engine's limit, and no record otherwise. -/
theorem decryptGCM_toOption_encryptGCM {k : Bytes} (hk : k.length = 16 ∨ k.length = 32)
    (p : Bytes) (d : Option (Fixed 12)) :
    (encryptGCM A p k [] d).toOption.map (fun r => decryptGCM A r.ciphertext k r.iv r.tag []) =
      if d.isSome = true ∧ p.length ≤ limits.MAX_PLAINTEXT_SIZE then some (.ok p) else none := by
  cases d with
  | none => rfl
  | some iv =>
    by_cases hp : p.length ≤ limits.MAX_PLAINTEXT_SIZE
    · rw [encryptGCM_of_valid A iv hp (by simp) hk, if_pos ⟨rfl, hp⟩]
      exact congrArg some (decryptGCM_encrypt A hp (by simp) hk iv.2)
    · have he : validatePlaintextSize p.length =
          err .SIZE_LIMIT_EXCEEDED "Input exceeds maximum allowed size".toList :=
        if_pos (not_le.1 hp)
      rw [if_neg fun h => hp h.2, encryptGCM, generateIV, ok_bind, encryptGCMWithIV, he]
      rfl

theorem appended_encrypted {l : FileAuditLogger} (hl : l.encrypt_logs_ = true)
    (hk : l.encryption_key_.length = 16 ∨ l.encryption_key_.length = 32) (entry : AuditEntry)
    (d : WriteDraw) :
    appended A l entry d =
      if d.opened then
        (((encryptGCM A (stringBytes entry.toJson) l.encryption_key_ [] d.iv).toOption).map
          recordBytes).getD []
      else [] := by
  have hne : l.encryption_key_ ≠ [] := fun h => by simp [h] at hk
  cases h : encryptGCM A (stringBytes entry.toJson) l.encryption_key_ [] d.iv <;>
    cases ho : d.opened <;> simp [appended, dataToWrite, hl, hne, h, ho, Except.map, Except.toOption]

/-- **The encrypted log reads back record by record.** With encryption on and a key of 16 or 32
bytes, what a run appends to a file reads as records, and the key opens them, with no
associated data, to the JSON of each entry logged while the file was current and opened, in the
order of the calls; an entry whose IV was not drawn, or whose JSON passes the engine's 64 MiB
limit, leaves no record. -/
theorem encrypted_log_records {l : FileAuditLogger} (hl : l.encrypt_logs_ = true)
    (hk : l.encryption_key_.length = 16 ∨ l.encryption_key_.length = 32) (files : Files)
    (ops : List (AuditEntry × WriteDraw)) (p : List Char) :
    ∃ suffix rs, run A l files ops p = files p ++ suffix ∧ readLog suffix = some rs ∧
      rs.map (fun r => decryptGCM A r.ciphertext l.encryption_key_ r.iv r.tag []) =
        ops.filterMap fun op =>
          if l.getCurrentLogFile op.2.now = p ∧ op.2.opened = true ∧ op.2.iv.isSome = true ∧
              op.1.toJson.length ≤ limits.MAX_PLAINTEXT_SIZE
          then some (.ok (stringBytes op.1.toJson)) else none := by
  set g := fun op : AuditEntry × WriteDraw =>
    if l.getCurrentLogFile op.2.now = p ∧ op.2.opened = true then
      (encryptGCM A (stringBytes op.1.toJson) l.encryption_key_ [] op.2.iv).toOption
    else none
  have hg : ∀ op, (if l.getCurrentLogFile op.2.now = p then appended A l op.1 op.2 else []) =
      ((g op).map recordBytes).getD [] := fun op => by
    rw [appended_encrypted A hl hk]
    by_cases h₁ : l.getCurrentLogFile op.2.now = p <;> cases h₂ : op.2.opened <;> simp [g, h₁, h₂]
  have hfit : ∀ r ∈ ops.filterMap g, FieldsFit r := fun r hr => by
    obtain ⟨op, -, hr⟩ := List.mem_filterMap.1 hr
    simp only [g, Option.ite_none_right_eq_some, toOption_eq_some] at hr
    exact fieldsFit_of_encryptGCM A hr.2
  refine ⟨_, _, by rw [run_apply, List.flatMap_congr fun op _ => hg op, flatMap_getD_map],
    readLog_flatMap hfit, ?_⟩
  rw [List.map_filterMap]
  refine List.filterMap_congr fun op _ => ?_
  simp only [g]
  by_cases h : l.getCurrentLogFile op.2.now = p ∧ op.2.opened = true
  · rw [if_pos h, decryptGCM_toOption_encryptGCM A hk, length_stringBytes]
    simp only [h, true_and]
  · rw [if_neg h, if_neg fun h' => h ⟨h'.1, h'.2.1⟩]
    rfl

theorem encrypted_log_records_aes128 :
    let l : FileAuditLogger := ⟨"logs".toList, List.replicate 16 7, true⟩
    let ops : List (AuditEntry × WriteDraw) :=
      [(⟨[], 0, .ENCRYPT, default, [], [], true, none, [], []⟩, ⟨0, some ⟨List.replicate 12 0, rfl⟩, true⟩),
        (⟨[], 0, .DECRYPT, default, [], [], false, none, [], []⟩, ⟨0, none, true⟩)]
    l.encrypt_logs_ = true ∧ (l.encryption_key_.length = 16 ∨ l.encryption_key_.length = 32) ∧
      ∃ suffix rs, run checksumAead l (fun _ => []) ops (l.getCurrentLogFile 0) = [] ++ suffix ∧
        readLog suffix = some rs ∧
        rs.map (fun r => decryptGCM checksumAead r.ciphertext l.encryption_key_ r.iv r.tag []) =
          ops.filterMap fun op =>
            if l.getCurrentLogFile op.2.now = l.getCurrentLogFile 0 ∧ op.2.opened = true ∧
                op.2.iv.isSome = true ∧ op.1.toJson.length ≤ limits.MAX_PLAINTEXT_SIZE
            then some (.ok (stringBytes op.1.toJson)) else none := by
  intro l ops
  exact ⟨rfl, .inl rfl,
    @encrypted_log_records checksumAead l rfl (.inl rfl) (fun _ => []) ops (l.getCurrentLogFile 0)⟩

end FileAuditLogger

end CryptoService
