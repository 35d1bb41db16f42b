import CryptoService.Common.Strings

/-!
# Reading JSON

What a JSON reader takes from a text, following RFC 8259, to check the JSON the service writes
against. The text is a list of Unicode characters; a text of ASCII bytes, which is all the
service's encoder writes, is the same list read as UTF-8.

* `readJsonString` reads a string literal after its opening quote (§7): a quote ends it, a
  backslash starts one of the two-character escapes or a `\uXXXX` escape of four hexadecimal
  digits, and any other character from U+0020 on stands for itself. Escapes of UTF-16
  surrogates are not read.
* `readValue` reads the values the audit log uses: strings, `true`, `false` and objects,
  without white space; `readJson` reads a whole text as one value. The fuel bounds the nesting
  and the number of members, and the length of the text is always enough.

The reader accepts only JSON texts, so a text it reads is valid JSON, and what it returns is the
value the text stands for.
-/

namespace CryptoService

/-! ## String literals -/

/-- The value of a hexadecimal digit. -/
def hexValue (c : Char) : Option ℕ :=
  if c.isDigit then some (c.toNat - '0'.toNat)
  else if 'a' ≤ c ∧ c ≤ 'f' then some (c.toNat - 'a'.toNat + 10)
  else if 'A' ≤ c ∧ c ≤ 'F' then some (c.toNat - 'A'.toNat + 10)
  else none

/-- The code unit four hexadecimal digits stand for. -/
def hex4 (a b c d : Char) : Option ℕ := do
  let a ← hexValue a
  let b ← hexValue b
  let c ← hexValue c
  let d ← hexValue d
  pure (((a * 16 + b) * 16 + c) * 16 + d)

/-- The character a two-character escape `\e` stands for. -/
def unescape : Char → Option Char
  | '"' => some '"'
  | '\\' => some '\\'
  | '/' => some '/'
  | 'b' => some '\x08'
  | 'f' => some '\x0c'
  | 'n' => some '\n'
  | 'r' => some '\r'
  | 't' => some '\t'
  | _ => none

/-- A character that stands for itself in a string literal. -/
def isPlain (c : Char) : Bool := c != '"' && c != '\\' && 0x20 ≤ c.toNat

/-- `cs` in front of what a read returns. -/
def prependRead (cs : List Char) : Option (List Char × List Char) → Option (List Char × List Char) :=
  Option.map fun p => (cs ++ p.1, p.2)

/-- The characters of a string literal after its opening quote, and the text after its closing
quote. -/
def readJsonString : List Char → Option (List Char × List Char)
  | [] => none
  | c :: r =>
    if c = '"' then some ([], r)
    else if c = '\\' then
      match r with
      | 'u' :: a :: b :: d :: e :: r' =>
        match hex4 a b d e with
        | some v =>
          if 0xD800 ≤ v ∧ v ≤ 0xDFFF then none else prependRead [Char.ofNat v] (readJsonString r')
        | none => none
      | e :: r' =>
        match unescape e with
        | some c' => prependRead [c'] (readJsonString r')
        | none => none
      | [] => none
    else if isPlain c then prependRead [c] (readJsonString r)
    else none

@[simp] theorem prependRead_nil (x : Option (List Char × List Char)) : prependRead [] x = x := by
  cases x <;> rfl

theorem prependRead_prependRead (cs ds : List Char) (x : Option (List Char × List Char)) :
    prependRead cs (prependRead ds x) = prependRead (cs ++ ds) x := by
  cases x <;> simp [prependRead]

theorem hexValue_digitChar {k : ℕ} (h : k < 16) : hexValue (Nat.digitChar k) = some k := by
  interval_cases k <;> rfl

/-- Away from a backslash, one character is read at a time. -/
theorem readJsonString_cons {c : Char} (hc : c ≠ '\\') (r : List Char) :
    readJsonString (c :: r) =
      if c = '"' then some ([], r) else if isPlain c then prependRead [c] (readJsonString r)
      else none := by
  rw [readJsonString.eq_def]
  simp only [if_neg hc]

theorem readJsonString_plain {c : Char} (hc : isPlain c = true) (r : List Char) :
    readJsonString (c :: r) = prependRead [c] (readJsonString r) := by
  have h₁ : c ≠ '"' := by rintro rfl; exact absurd hc (by decide)
  have h₂ : c ≠ '\\' := by rintro rfl; exact absurd hc (by decide)
  rw [readJsonString_cons h₂, if_neg h₁, if_pos hc]

/-- Characters that stand for themselves, then a quote, read as those characters. -/
theorem readJsonString_plain_append {s : List Char} (hs : ∀ c ∈ s, isPlain c = true)
    (r : List Char) : readJsonString (s ++ '"' :: r) = some (s, r) := by
  induction s with
  | nil => exact readJsonString_cons (by decide) r
  | cons c s ih =>
    rw [List.cons_append, readJsonString_plain (hs c (List.mem_cons_self _ _)),
      ih fun c hc => hs c (List.mem_cons_of_mem _ hc)]
    rfl

/-- `text`, then a closing quote, reads as the string `s`, whatever follows. -/
def StringReads (text s : List Char) : Prop := ∀ r, readJsonString (text ++ '"' :: r) = some (s, r)

theorem stringReads_plain {s : List Char} (hs : ∀ c ∈ s, isPlain c = true) : StringReads s s :=
  readJsonString_plain_append hs

theorem readJsonString_escape {e c' : Char} (h : unescape e = some c') (r : List Char) :
    readJsonString ('\\' :: e :: r) = prependRead [c'] (readJsonString r) := by
  have hu : e ≠ 'u' := by rintro rfl; exact Option.noConfusion h
  rw [readJsonString.eq_def]
  simp only [if_neg (by decide : '\\' ≠ '"'), eq_self_iff_true, if_true]
  split
  · rename_i heq; exact absurd (List.cons.inj heq).1 hu
  · rename_i heq; obtain ⟨rfl, rfl⟩ := List.cons.inj heq; rw [h]
  · rename_i heq; cases heq

theorem readJsonString_unicode {a b d e : Char} {v : ℕ} (h : hex4 a b d e = some v)
    (hv : v < 0xD800 ∨ 0xDFFF < v) (r : List Char) :
    readJsonString ('\\' :: 'u' :: a :: b :: d :: e :: r) =
      prependRead [Char.ofNat v] (readJsonString r) := by
  rw [readJsonString.eq_def]
  simp only [if_neg (by decide : '\\' ≠ '"'), eq_self_iff_true, if_true, h]
  rw [if_neg (by omega)]

/-! ## Values -/

/-- A JSON value of the kinds the audit log writes. -/
inductive JsonValue
  | str (s : List Char)
  | bool (b : Bool)
  | obj (members : List (List Char × JsonValue))

mutual

/-- The value at the head of a text, and the text after it. -/
def readValue : ℕ → List Char → Option (JsonValue × List Char)
  | 0, _ => none
  | _ + 1, '"' :: r => (readJsonString r).map fun p => (.str p.1, p.2)
  | _ + 1, 't' :: 'r' :: 'u' :: 'e' :: r => some (.bool true, r)
  | _ + 1, 'f' :: 'a' :: 'l' :: 's' :: 'e' :: r => some (.bool false, r)
  | _ + 1, '\x7b' :: '\x7d' :: r => some (.obj [], r)
  | n + 1, '\x7b' :: r => (readMembers n r).map fun p => (.obj p.1, p.2)
  | _ + 1, _ => none

/-- The members of an object after its opening brace, and the text after its closing brace. -/
def readMembers : ℕ → List Char → Option (List (List Char × JsonValue) × List Char)
  | 0, _ => none
  | n + 1, '"' :: r =>
    match readJsonString r with
    | some (key, ':' :: r) =>
      match readValue n r with
      | some (v, ',' :: r) => (readMembers n r).map fun p => ((key, v) :: p.1, p.2)
      | some (v, '\x7d' :: r) => some ([(key, v)], r)
      | _ => none
    | _ => none
  | _ + 1, _ => none

end

/-- A whole text read as one JSON value. -/
def readJson (text : List Char) : Option JsonValue :=
  match readValue text.length text with
  | some (v, []) => some v
  | _ => none

theorem readValue_string (n : ℕ) (r : List Char) :
    readValue (n + 1) ('"' :: r) = (readJsonString r).map fun p => (.str p.1, p.2) := rfl

theorem readValue_true (n : ℕ) (r : List Char) :
    readValue (n + 1) ("true".toList ++ r) = some (.bool true, r) := rfl

theorem readValue_false (n : ℕ) (r : List Char) :
    readValue (n + 1) ("false".toList ++ r) = some (.bool false, r) := rfl

theorem readValue_object (n : ℕ) (r : List Char) :
    readValue (n + 1) ('\x7b' :: '"' :: r) =
      (readMembers n ('"' :: r)).map fun p => (.obj p.1, p.2) := rfl

/-- After the quote that opens a member: its key, a colon and its value, then a comma or the
closing brace. Stated once, so that the member lemmas do not unfold the mutual definition. -/
theorem readMembers_quote (n : ℕ) (t : List Char) :
    readMembers (n + 1) ('"' :: t) = match readJsonString t with
      | some (key, ':' :: r) =>
        match readValue n r with
        | some (v, ',' :: r) => (readMembers n r).map
            fun p : List (List Char × JsonValue) × List Char => ((key, v) :: p.1, p.2)
        | some (v, '\x7d' :: r) => some ([(key, v)], r)
        | _ => none
      | _ => none := rfl

/-- A member followed by a comma: the reader goes on to the next. -/
theorem readMembers_comma {n : ℕ} {t t' r key : List Char} {v : JsonValue}
    (hk : readJsonString t = some (key, ':' :: t')) (hv : readValue n t' = some (v, ',' :: r)) :
    readMembers (n + 1) ('"' :: t) = (readMembers n r).map fun p => ((key, v) :: p.1, p.2) := by
  rw [readMembers_quote, hk]
  simp only [hv]

/-- The last member, followed by the closing brace. -/
theorem readMembers_close {n : ℕ} {t t' r key : List Char} {v : JsonValue}
    (hk : readJsonString t = some (key, ':' :: t')) (hv : readValue n t' = some (v, '\x7d' :: r)) :
    readMembers (n + 1) ('"' :: t) = some ([(key, v)], r) := by
  rw [readMembers_quote, hk]
  simp only [hv]

end CryptoService
