import CryptoService.Audit.FileAuditLogger

/-!
# The JSON export of the in-memory audit log

`InMemoryAuditLogger::exportToJson` of `crypto/audit/audit_logger.cpp` writes the page that
`query` returns as a JSON array, one entry to a line: `[` and a newline, each entry's JSON after
two spaces, a comma and a newline between two entries, then a newline and `]`. It shares this
writing with the file logger's `exportToJson` (`writeExport`). Where `query` is undefined, because
`offset + limit` wraps, so is the export.

A JSON array is read as RFC 8259 reads it, white space allowed around its brackets and commas
(`readJsonArray`), its elements by `readValue`.

* `readValue_readMembers_append`: the reader never looks past what it reads: a text extended
  after a value reads as the same value, the extension left over;
* `exportToJson_reads_back`: whenever `query` returns a page of entries whose texts are byte
  strings, the exported file reads as a JSON array of the page's objects, in order, each text
  member read back as `readBack` of the field; no other file changes.
-/

namespace CryptoService

/-! ## Reading never looks past a value -/

theorem prependRead_eq_some {cs v r : List Char} {x : Option (List Char × List Char)} :
    prependRead cs x = some (v, r) ↔ ∃ v', x = some (v', r) ∧ v = cs ++ v' := by
  cases x with
  | none => simp [prependRead]
  | some p =>
    obtain ⟨a, b⟩ := p
    simp only [prependRead, Option.map_some', Option.some.injEq, Prod.mk.injEq]
    exact ⟨fun ⟨h₁, h₂⟩ => ⟨a, ⟨rfl, h₂⟩, h₁.symm⟩, fun ⟨_, ⟨h₁, h₂⟩, h₃⟩ => ⟨by rw [h₃, h₁], h₂⟩⟩

theorem readJsonString_append {s v r : List Char} (h : readJsonString s = some (v, r))
    (t : List Char) : readJsonString (s ++ t) = some (v, r ++ t) := by
  induction s using readJsonString.induct generalizing v r with
  | case1 => simp [readJsonString] at h
  | case2 r₀ =>
    rw [readJsonString_cons (by decide), if_pos rfl] at h
    obtain ⟨rfl, rfl⟩ := Prod.mk.inj (Option.some.inj h)
    exact readJsonString_cons (by decide) _
  | case3 a b d e r' v' hv hs _ =>
    rw [readJsonString.eq_def] at h
    simp [hv, hs] at h
  | case4 a b d e r' v' hv hs _ ih =>
    have hs' : v' < 0xD800 ∨ 0xDFFF < v' := by omega
    rw [readJsonString_unicode hv hs', prependRead_eq_some] at h
    obtain ⟨v₀, h₀, rfl⟩ := h
    simp only [List.cons_append]
    rw [readJsonString_unicode hv hs', ih h₀]
    rfl
  | case5 a b d e r' hv _ =>
    rw [readJsonString.eq_def] at h
    simp [hv] at h
  | case6 e r' _ c' hc _ ih =>
    rw [readJsonString_escape hc, prependRead_eq_some] at h
    obtain ⟨v₀, h₀, rfl⟩ := h
    simp only [List.cons_append]
    rw [readJsonString_escape hc, ih h₀]
    rfl
  | case7 e r' _ hc _ =>
    rw [readJsonString.eq_def] at h
    simp only [if_neg (by decide : '\\' ≠ '"'), if_true] at h
    split at h
    · rename_i heq; rw [hc] at heq; cases heq
    · cases h
  | case8 =>
    rw [readJsonString.eq_def] at h
    simp at h
  | case9 c r₀ _ hb hp ih =>
    rw [readJsonString_plain hp, prependRead_eq_some] at h
    obtain ⟨v₀, h₀, rfl⟩ := h
    rw [List.cons_append, readJsonString_plain hp, ih h₀]
    rfl
  | case10 c r₀ hq hb hp =>
    rw [readJsonString_cons hb, if_neg hq, if_neg hp] at h
    cases h


theorem readMembers_nil (n : ℕ) : readMembers n [] = none := by
  cases n <;> rfl

/-- **The reader never looks past what it reads.** A value read from a text, and the members of
an object, are read the same from the text extended at its end, the extension left over. -/
theorem readValue_readMembers_append (n : ℕ) :
    (∀ {s r : List Char} {v : JsonValue}, readValue n s = some (v, r) →
      ∀ t, readValue n (s ++ t) = some (v, r ++ t)) ∧
    (∀ {s r : List Char} {ms : List (List Char × JsonValue)}, readMembers n s = some (ms, r) →
      ∀ t, readMembers n (s ++ t) = some (ms, r ++ t)) := by
  induction n with
  | zero =>
    exact ⟨fun h => (by simp only [readValue.eq_1] at h; cases h),
      fun h => (by simp only [readMembers.eq_1] at h; cases h)⟩
  | succ n ih =>
    obtain ⟨ihv, ihm⟩ := ih
    refine ⟨fun {s r v} h t => ?_, fun {s r ms} h t => ?_⟩
    · rw [readValue.eq_def] at h
      split at h
      next => cases h
      next _ _ _ r₀ hn =>
        obtain rfl := Nat.succ_injective hn
        obtain ⟨⟨x, r'⟩, hx, he⟩ := Option.map_eq_some'.1 h
        cases he
        rw [List.cons_append, readValue_string, readJsonString_append hx]
        rfl
      next => cases h; rfl
      next => cases h; rfl
      next => cases h; rfl
      next _ _ _ r₀ hne hn =>
        obtain rfl := Nat.succ_injective hn
        obtain ⟨⟨ms, r'⟩, hm, he⟩ := Option.map_eq_some'.1 h
        cases he
        obtain ⟨c, r₁, rfl⟩ : ∃ c r₁, r₀ = c :: r₁ := by
          cases r₀ with
          | nil => rw [readMembers_nil] at hm; cases hm
          | cons c r₁ => exact ⟨c, r₁, rfl⟩
        rw [List.cons_append, List.cons_append, readValue.eq_6 _ _ fun r₂ h₂ =>
          hne r₁ (by rw [(List.cons.inj h₂).1]), ← List.cons_append, ihm hm]
        rfl
      next => cases h
    · rw [readMembers.eq_def] at h
      split at h
      next => cases h
      next _ _ _ r₀ hn =>
        obtain rfl := Nat.succ_injective hn
        split at h
        next key r₁ hk =>
          split at h
          next v r₂ hv =>
            obtain ⟨⟨ms', r'⟩, hm, he⟩ := Option.map_eq_some'.1 h
            cases he
            rw [List.cons_append, readMembers_comma (readJsonString_append hk t) (ihv hv t)]
            exact congrArg (Option.map _) (ihm hm t)
          next v r₂ hv =>
            cases h
            exact readMembers_close (readJsonString_append hk t) (ihv hv t)
          next => cases h
        next => cases h
      next => cases h

/-! ## JSON arrays -/

/-- JSON white space (RFC 8259, section 2): space, tab, line feed and carriage return. -/
def isJsonWs (c : Char) : Bool := c == ' ' || c == '\t' || c == '\n' || c == '\r'

/-- The elements of an array, from its first element on: a value, white space, then a comma and
white space before the next element, or the closing bracket after the last; with the text after
the bracket. The fuel bounds the number of elements, and the length of the text is enough. -/
def readElements : ℕ → List Char → Option (List JsonValue × List Char)
  | 0, _ => none
  | n + 1, s =>
    match readValue s.length s with
    | some (v, r) =>
      let r := r.dropWhile isJsonWs
      if r.head? = some ',' then
        (readElements n (r.tail.dropWhile isJsonWs)).map fun p => (v :: p.1, p.2)
      else if r.head? = some ']' then some ([v], r.tail)
      else none
    | none => none

/-- A whole text read as one JSON array, with white space around its tokens. -/
def readJsonArray (text : List Char) : Option (List JsonValue) :=
  let text := text.dropWhile isJsonWs
  if text.head? = some '[' then
    let r := text.tail.dropWhile isJsonWs
    let items := if r.head? = some ']' then some ([], r.tail) else readElements r.length r
    match items with
    | some (vs, rest) => if rest.dropWhile isJsonWs = [] then some vs else none
    | none => none
  else none

/-! ## The export -/

namespace InMemoryAuditLogger

/-- `exportToJson(path, query)`: `query`, then `writeExport`; `opened` is whether the file at
`path` opens. -/
def exportToJson (l : InMemoryAuditLogger) (files : Files) (path : List Char) (q : AuditQuery)
    (opened : Bool) : Option (Result Unit × Files) :=
  (l.query q).map fun entries_result => writeExport entries_result files path opened

end InMemoryAuditLogger

/-- The JSON object of an entry, as a reader takes it back. -/
def AuditEntry.readBackJson (e : AuditEntry) : JsonValue := .obj (e.jsonMembers readBack)

/-- The JSON of an entry of byte texts reads back whatever follows it, with the text's length
as fuel. -/
theorem readValue_toJson_append {e : AuditEntry} (he : ∀ s ∈ e.texts, ∀ c ∈ s, c.toNat < 256)
    (t : List Char) :
    readValue (e.toJson ++ t).length (e.toJson ++ t) = some (e.readBackJson, t) := by
  obtain ⟨f, hf⟩ : ∃ f, (e.toJson ++ t).length =
      f + 3 + e.metadata.length + 1 + 1 + e.error_code.toList.length + 1 + 6 + 1 :=
    ⟨(e.toJson ++ t).length - (13 + e.metadata.length + e.error_code.toList.length), by
      have := length_toJson e; simp only [List.length_append]; omega⟩
  rw [hf]
  exact (readValue_readMembers_append _).1 (readValue_toJson e he f) t

theorem toJson_eq_cons (e : AuditEntry) : ∃ y, e.toJson = '\x7b' :: y := ⟨_, rfl⟩

/-- White space before an entry's JSON is skipped up to its opening brace. -/
theorem dropWhile_toJson (e : AuditEntry) {w : List Char} (hw : ∀ c ∈ w, isJsonWs c = true)
    (x : List Char) : (w ++ (e.toJson ++ x)).dropWhile isJsonWs = e.toJson ++ x := by
  induction w with
  | nil => obtain ⟨y, hy⟩ := toJson_eq_cons e; rw [hy]; rfl
  | cons c w ih =>
    rw [List.cons_append, List.dropWhile_cons_of_pos (hw c (List.mem_cons_self _ _)),
      ih fun c hc => hw c (List.mem_cons_of_mem _ hc)]

theorem length_le_exportEntries (first : Bool) (es : List AuditEntry) :
    es.length ≤ (exportEntries first es).length := by
  induction es generalizing first with
  | nil => exact le_rfl
  | cons e es ih =>
    have := ih false
    simp only [exportEntries, List.length_append, List.length_cons]
    omega

/-- The export's text from its first entry on: that entry's JSON, then the others, each after a
comma, a newline and two spaces, then a newline and `]`. -/
theorem exportEntries_false_cons (e : AuditEntry) (es : List AuditEntry) (x : List Char) :
    exportEntries false (e :: es) ++ x =
      ',' :: (['\n', ' ', ' '] ++ (e.toJson ++ (exportEntries false es ++ x))) := by
  simp [exportEntries]

/-- The elements the export writes from its first entry on read back, with one unit of fuel per
entry. -/
theorem readElements_exportEntries {e : AuditEntry} {es : List AuditEntry}
    (he : ∀ e' ∈ e :: es, ∀ s ∈ e'.texts, ∀ c ∈ s, c.toNat < 256) {n : ℕ}
    (hn : (e :: es).length ≤ n) :
    readElements n (e.toJson ++ (exportEntries false es ++ ['\n', ']'])) =
      some ((e :: es).map AuditEntry.readBackJson, []) := by
  obtain ⟨m, rfl⟩ : ∃ m, n = m + 1 := ⟨n - 1, by simp at hn; omega⟩
  rw [readElements, readValue_toJson_append (he e (List.mem_cons_self _ _))]
  cases es with
  | nil => rfl
  | cons e' es =>
    have hrest := readElements_exportEntries (fun e'' h => he e'' (List.mem_cons_of_mem _ h))
      (n := m) (by simpa using hn)
    simp only [exportEntries_false_cons, List.dropWhile_cons_of_neg (by decide : ¬isJsonWs ',' = true),
      List.head?_cons, List.tail_cons, if_pos, dropWhile_toJson e' (by decide : ∀ c ∈ ['\n', ' ', ' '], isJsonWs c = true), hrest]
    rfl

/-- The text the export writes reads as the array of its entries' objects. -/
theorem readJsonArray_export {entries : List AuditEntry}
    (he : ∀ e ∈ entries, ∀ s ∈ e.texts, ∀ c ∈ s, c.toNat < 256) :
    readJsonArray (['[', '\n'] ++ exportEntries true entries ++ ['\n', ']']) =
      some (entries.map AuditEntry.readBackJson) := by
  cases entries with
  | nil => rfl
  | cons e es =>
    obtain ⟨y, hy⟩ := toJson_eq_cons e
    have htext : ['[', '\n'] ++ exportEntries true (e :: es) ++ ['\n', ']'] =
        '[' :: (['\n', ' ', ' '] ++ (e.toJson ++ (exportEntries false es ++ ['\n', ']']))) := by
      simp [exportEntries]
    have hn : (e :: es).length ≤ (e.toJson ++ (exportEntries false es ++ ['\n', ']'])).length := by
      have := length_le_exportEntries false es
      simp only [hy, List.length_cons, List.length_append]
      omega
    have hne : (e.toJson ++ (exportEntries false es ++ ['\n', ']'])).head? ≠ some ']' := by
      rw [hy, List.cons_append, List.head?_cons]; decide
    rw [readJsonArray, htext, List.dropWhile_cons_of_neg (by decide)]
    dsimp only [List.head?_cons, List.tail_cons]
    rw [if_pos rfl, dropWhile_toJson e (by decide : ∀ c ∈ ['\n', ' ', ' '], isJsonWs c = true),
      if_neg hne, readElements_exportEntries he hn]
    rfl

theorem toNat_lt_of_mem_exportEntries (first : Bool) {entries : List AuditEntry}
    (he : ∀ e ∈ entries, ∀ s ∈ e.texts, ∀ c ∈ s, c.toNat < 256) :
    ∀ c ∈ exportEntries first entries, c.toNat < 256 := by
  induction entries generalizing first with
  | nil => simp [exportEntries]
  | cons e es ih =>
    have hj := List.all_eq_true.1 (all_isPrintableAscii_toJson (he e (List.mem_cons_self _ _)))
    have hrest := ih false fun e' h => he e' (List.mem_cons_of_mem _ h)
    intro c hc
    simp only [exportEntries, List.mem_append, List.mem_cons] at hc
    rcases hc with (hc | rfl | rfl | hc) | hc
    · split at hc
      · simp at hc
      · simp only [List.mem_cons, List.mem_singleton, List.not_mem_nil, or_false] at hc
        rcases hc with rfl | rfl <;> decide
    · decide
    · decide
    · have := hj c hc
      simp only [isPrintableAscii, Bool.and_eq_true, decide_eq_true_eq] at this
      omega
    · exact hrest c hc

/-- **The export reads back as a JSON array of the page.** Whenever `query` returns a page of
entries whose texts are byte strings, `exportToJson` succeeds on a file that opens, and the file
then reads as one JSON array whose elements are the page's entries as JSON objects, in order,
each text member read back as `readBack` of the field. No other file changes. -/
theorem exportToJson_reads_back {l : InMemoryAuditLogger} {q : AuditQuery}
    {page : List AuditEntry} (hq : l.query q = some (.ok page))
    (he : ∀ e ∈ page, ∀ s ∈ e.texts, ∀ c ∈ s, c.toNat < 256) (files : Files) (path : List Char) :
    ∃ files', l.exportToJson files path q true = some (.ok (), files') ∧
      readJsonArray (bytesString (files' path)) = some (page.map AuditEntry.readBackJson) ∧
      ∀ p, p ≠ path → files' p = files p := by
  refine ⟨_, by rw [InMemoryAuditLogger.exportToJson, hq]; rfl, ?_, fun p hp => if_neg hp⟩
  have hc : ∀ c ∈ ['[', '\n'] ++ exportEntries true page ++ ['\n', ']'], c.toNat < 256 := by
    intro c hc
    simp only [List.mem_append, List.mem_cons, List.mem_singleton, List.not_mem_nil,
      or_false] at hc
    rcases hc with ((rfl | rfl) | hc) | rfl | rfl
    · decide
    · decide
    · exact toNat_lt_of_mem_exportEntries true he c hc
    · decide
    · decide
  show readJsonArray (bytesString (if path = path then _ else _)) = _
  rw [if_pos rfl, bytesString_stringBytes hc, readJsonArray_export he]

theorem exportToJson_reads_back_one :
    let e : AuditEntry := ⟨"c1".toList, 0, .ENCRYPT, default, "alice".toList, [], true, none, [], []⟩
    let l : InMemoryAuditLogger := ⟨[e]⟩
    l.query {} = some (.ok [e]) ∧ (∀ e' ∈ [e], ∀ s ∈ e'.texts, ∀ c ∈ s, c.toNat < 256) ∧
      ∃ written, l.exportToJson (fun _ => []) "out.json".toList {} true = some (.ok (), written) ∧
        readJsonArray (bytesString (written "out.json".toList)) =
          some ([e].map AuditEntry.readBackJson) ∧
        ∀ p, p ≠ "out.json".toList → written p = [] := by
  intro e l
  have hq : l.query {} = some (.ok [e]) := rfl
  have he : ∀ e' ∈ [e], ∀ s ∈ e'.texts, ∀ c ∈ s, c.toNat < 256 := by decide
  exact ⟨hq, he, exportToJson_reads_back hq he _ _⟩

end CryptoService
