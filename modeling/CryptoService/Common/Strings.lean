import CryptoService.Common.Result
import Mathlib.Tactic.IntervalCases

/-!
# Text: decimal numbers, field splitting and UUIDs

The standard-library text functions the core relies on, as the C++ library computes them:

* `toDecimal` is `std::to_string` of an unsigned value and `stoul` is `std::stoul` in base 10;
  `stoul_of_isDigit` reads a string of digits, leading zeros included, and `stoul_toDecimal` is
  the round trip;
* `getlineFields` is the sequence of fields that repeated `std::getline(iss, part, ':')`
  extracts, and `getlineFields_sep` / `getlineFields_single` cut a text at a separator;
* `UUID.toString` renders the sixteen bytes of `crypto/common/uuid.h` in the hyphenated
  lower-case hexadecimal form, which never contains a colon (`colon_not_mem_toString`).

`append_sep_inj` is the fact behind every injectivity argument about separated text: a
separator that occurs in neither first part fixes where the parts end.
-/

namespace CryptoService

/-! ## Decimal numbers -/

/-- `std::to_string` of an unsigned value. -/
def toDecimal (n : ℕ) : List Char := Nat.toDigits 10 n

/-- The value of a string of decimal digits, most significant first. -/
def decimalValue (s : List Char) : ℕ := s.foldl (fun v c => 10 * v + (c.toNat - '0'.toNat)) 0

theorem toDigitsCore_append (b f n : ℕ) (ds es : List Char) :
    Nat.toDigitsCore b f n (ds ++ es) = Nat.toDigitsCore b f n ds ++ es := by
  induction f generalizing n ds with
  | zero => rfl
  | succ f ih =>
    simp only [Nat.toDigitsCore]
    split
    · rfl
    · exact ih _ (_ :: ds)

/-- Past the value itself, more fuel does not change the digits. -/
theorem toDigitsCore_fuel {b : ℕ} (hb : 1 < b) (f : ℕ) : ∀ n ds, n < f →
    Nat.toDigitsCore b f n ds = Nat.toDigitsCore b (n + 1) n ds := by
  induction f using Nat.strong_induction_on with
  | _ f ih =>
    intro n ds hn
    obtain ⟨g, rfl⟩ : ∃ g, f = g + 1 := ⟨f - 1, by omega⟩
    simp only [Nat.toDigitsCore]
    split
    · rfl
    · rename_i h
      have hn0 : 0 < n := Nat.pos_of_ne_zero fun h0 => h (by simp [h0])
      rw [ih g (by omega) _ _ ((Nat.div_lt_self hn0 hb).trans_le (by omega))]
      cases n with
      | zero => simp at h
      | succ m => rw [ih (m + 1) (by omega) _ _ (Nat.div_lt_self (by omega) hb)]

theorem toDigits_of_lt {b n : ℕ} (h : n < b) : Nat.toDigits b n = [Nat.digitChar n] := by
  simp [Nat.toDigits, Nat.toDigitsCore, Nat.div_eq_of_lt h, Nat.mod_eq_of_lt h]

/-- The digits of a number of two digits or more: those of its quotient, then its last. -/
theorem toDigits_of_le {b n : ℕ} (hb : 1 < b) (h : b ≤ n) :
    Nat.toDigits b n = Nat.toDigits b (n / b) ++ [Nat.digitChar (n % b)] := by
  have h0 : n / b ≠ 0 := by
    rw [Ne, Nat.div_eq_zero_iff (by omega)]
    omega
  rw [Nat.toDigits, Nat.toDigitsCore, if_neg h0,
    toDigitsCore_fuel hb n _ _ (Nat.div_lt_self (by omega) hb),
    ← List.nil_append [_], toDigitsCore_append]
  rfl

theorem toDecimal_of_lt {n : ℕ} (h : n < 10) : toDecimal n = [Nat.digitChar n] :=
  toDigits_of_lt h

theorem toDecimal_of_le {n : ℕ} (h : 10 ≤ n) :
    toDecimal n = toDecimal (n / 10) ++ [Nat.digitChar (n % 10)] :=
  toDigits_of_le (by norm_num) h

theorem digitChar_value {k : ℕ} (h : k < 10) : (Nat.digitChar k).toNat - '0'.toNat = k := by
  interval_cases k <;> rfl

theorem digitChar_isDigit {k : ℕ} (h : k < 10) : (Nat.digitChar k).isDigit = true := by
  interval_cases k <;> rfl

theorem decimalValue_append_digit (s : List Char) (c : Char) :
    decimalValue (s ++ [c]) = 10 * decimalValue s + (c.toNat - '0'.toNat) := by
  simp [decimalValue, List.foldl_append]

theorem decimalValue_toDecimal (n : ℕ) : decimalValue (toDecimal n) = n := by
  induction n using Nat.strong_induction_on with
  | _ n ih =>
    rcases Nat.lt_or_ge n 10 with h | h
    · rw [toDecimal_of_lt h, ← List.nil_append [_], decimalValue_append_digit, digitChar_value h]
      simp [decimalValue]
    · rw [toDecimal_of_le h, decimalValue_append_digit,
        ih _ (Nat.div_lt_self (by omega) (by norm_num)),
        digitChar_value (Nat.mod_lt _ (by norm_num))]
      omega

theorem isDigit_of_mem_toDecimal (n : ℕ) : ∀ c ∈ toDecimal n, c.isDigit = true := by
  induction n using Nat.strong_induction_on with
  | _ n ih =>
    rcases Nat.lt_or_ge n 10 with h | h
    · rw [toDecimal_of_lt h]; simpa using digitChar_isDigit h
    · rw [toDecimal_of_le h]
      intro c hc
      simp only [List.mem_append, List.mem_singleton] at hc
      rcases hc with hc | rfl
      · exact ih _ (Nat.div_lt_self (by omega) (by norm_num)) c hc
      · exact digitChar_isDigit (Nat.mod_lt _ (by norm_num))

theorem isDigit_toNat {c : Char} (h : c.isDigit = true) : c.toNat ≤ 57 := by
  simp [Char.isDigit, Char.le_def] at h
  exact h.2

theorem toDecimal_ne_nil (n : ℕ) : toDecimal n ≠ [] := by
  rcases Nat.lt_or_ge n 10 with h | h
  · simp [toDecimal_of_lt h]
  · simp [toDecimal_of_le h]

theorem toDecimal_injective : Function.Injective toDecimal := fun m n h => by
  rw [← decimalValue_toDecimal m, h, decimalValue_toDecimal]

/-- A character that is not a digit does not occur in a decimal number. -/
theorem not_mem_toDecimal {c : Char} (hc : c.isDigit = false) (n : ℕ) : c ∉ toDecimal n :=
  fun h => by simp [isDigit_of_mem_toDecimal n c h] at hc

/-! ## `std::stoul` -/

/-- `isspace` in the C locale. -/
def isSpace (c : Char) : Bool :=
  c = ' ' || c = '\t' || c = '\n' || c = Char.ofNat 11 || c = Char.ofNat 12 || c = '\r'

/-- The sign `strtoul` reads, and the text after it. -/
def readSign : List Char → Bool × List Char
  | '-' :: u => (true, u)
  | '+' :: u => (false, u)
  | u => (false, u)

/-- `std::stoul(s)` in base 10, as `strtoul`: leading white space is skipped, then an optional
sign and the longest run of digits, of which there must be one; what follows is ignored.
`none` is where `std::stoul` throws: `invalid_argument` without a digit, `out_of_range` past
`ULONG_MAX`. A minus sign negates the value modulo `2^64`. -/
def stoul (s : List Char) : Option ℕ :=
  let (neg, u) := readSign (s.dropWhile isSpace)
  let ds := u.takeWhile Char.isDigit
  if ds = [] then none
  else if 2 ^ 64 ≤ decimalValue ds then none
  else some (if neg then (2 ^ 64 - decimalValue ds) % 2 ^ 64 else decimalValue ds)

theorem isSpace_of_isDigit {c : Char} (h : c.isDigit = true) : isSpace c = false := by
  cases hs : isSpace c
  · rfl
  · simp only [isSpace, Bool.or_eq_true, decide_eq_true_eq] at hs
    rcases hs with (((((rfl | rfl) | rfl) | rfl) | rfl) | rfl) <;> exact absurd h (by decide)

/-- A text that starts with a digit has neither leading white space nor a sign. -/
theorem readSign_dropWhile_of_isDigit {c : Char} (s : List Char) (h : c.isDigit = true) :
    readSign ((c :: s).dropWhile isSpace) = (false, c :: s) := by
  rw [List.dropWhile_cons_of_neg (by simp [isSpace_of_isDigit h])]
  have h₁ : c ≠ '-' := by rintro rfl; exact absurd h (by decide)
  have h₂ : c ≠ '+' := by rintro rfl; exact absurd h (by decide)
  unfold readSign; split <;> simp_all

/-- **`std::stoul` of a string of digits** is its value, when that is below `2 ^ 64`. -/
theorem stoul_of_isDigit {ds : List Char} (hne : ds ≠ []) (hd : ∀ c ∈ ds, c.isDigit = true)
    (h : decimalValue ds < 2 ^ 64) : stoul ds = some (decimalValue ds) := by
  obtain ⟨c, s, rfl⟩ := List.exists_cons_of_ne_nil hne
  have h' : decimalValue (c :: s) < 18446744073709551616 := h
  simp [stoul, readSign_dropWhile_of_isDigit s (hd c (List.mem_cons_self _ _)),
    List.takeWhile_eq_self_iff.2 hd, h']

/-- **`std::stoul` reads back `std::to_string`.** -/
theorem stoul_toDecimal {n : ℕ} (h : n < 2 ^ 64) : stoul (toDecimal n) = some n := by
  rw [stoul_of_isDigit (toDecimal_ne_nil n) (isDigit_of_mem_toDecimal n)
    (by rwa [decimalValue_toDecimal]), decimalValue_toDecimal]

/-- Leading zeros do not change the value of a string of digits. -/
theorem decimalValue_zeros_append (z : ℕ) (s : List Char) :
    decimalValue (List.replicate z '0' ++ s) = decimalValue s := by
  have hz : ∀ z, (List.replicate z '0').foldl (fun v c => 10 * v + (c.toNat - '0'.toNat)) 0 = 0 := by
    intro z
    induction z with
    | zero => rfl
    | succ z ih => rw [List.replicate_succ', List.foldl_append, ih]; rfl
  rw [decimalValue, List.foldl_append, hz]; rfl

/-! ## Fields of a text -/

/-- The fields that repeated `std::getline(iss, part, delim)` extracts from a text, `cur` being
the reversed part of the field already read: the text between separators, where nothing is
extracted after a final separator. -/
def getlineFields (delim : Char) (cur : List Char) : List Char → List (List Char)
  | [] => if cur = [] then [] else [cur.reverse]
  | c :: s => if c = delim then cur.reverse :: getlineFields delim [] s
    else getlineFields delim (c :: cur) s

theorem getlineFields_sep {d : Char} {a : List Char} (ha : d ∉ a) (cur t : List Char) :
    getlineFields d cur (a ++ d :: t) = (cur.reverse ++ a) :: getlineFields d [] t := by
  induction a generalizing cur with
  | nil => simp [getlineFields]
  | cons c a ih =>
    simp only [List.mem_cons, not_or] at ha
    simp [getlineFields, Ne.symm ha.1, ih ha.2]

theorem getlineFields_single {d : Char} {a : List Char} (ha : d ∉ a) (h : a ≠ []) :
    getlineFields d [] a = [a] := by
  suffices ∀ cur, cur.reverse ++ a ≠ [] → getlineFields d cur a = [cur.reverse ++ a] by
    simpa using this [] (by simpa using h)
  induction a with
  | nil => intro cur hc; simp_all [getlineFields]
  | cons c a ih =>
    intro cur _
    simp only [List.mem_cons, not_or] at ha
    by_cases ha' : a = []
    · subst ha'; simp [getlineFields, Ne.symm ha.1]
    · simp [getlineFields, Ne.symm ha.1, ih ha.2 ha' (c :: cur) (by simp)]

/-- Up to a separator, a text gives one field more than it holds separators. -/
theorem getlineFields_append_sep (d : Char) (x t cur : List Char) :
    ∃ F : List (List Char), F.length = x.count d + 1 ∧
      getlineFields d cur (x ++ d :: t) = F ++ getlineFields d [] t := by
  induction x generalizing cur with
  | nil => exact ⟨[cur.reverse], rfl, by simp [getlineFields]⟩
  | cons c x ih =>
    by_cases hc : c = d
    · subst hc
      obtain ⟨F, hF, he⟩ := ih []
      exact ⟨cur.reverse :: F, by simp [hF], by simp [getlineFields, he]⟩
    · obtain ⟨F, hF, he⟩ := ih (c :: cur)
      exact ⟨F, by simp [List.count_cons, hc, hF], by simp [getlineFields, hc, he]⟩

/-- `std::replace(s.begin(), s.end(), a, b)`. -/
def replaceChar (a b : Char) (s : List Char) : List Char := s.map fun c => if c = a then b else c

/-- Replacing back undoes a replacement when the new character was not there before. -/
theorem replaceChar_replaceChar {a b : Char} {s : List Char} (hb : b ∉ s) :
    replaceChar b a (replaceChar a b s) = s := by
  induction s with
  | nil => rfl
  | cons c s ih =>
    have hc : c ≠ b := fun h => hb (h ▸ List.mem_cons_self _ _)
    simp only [replaceChar, List.map_cons] at ih ⊢
    rw [ih (fun h => hb (List.mem_cons_of_mem _ h))]
    by_cases h : c = a <;> simp [h, hc]

/-- **A separator missing from both first parts fixes where they end.** -/
theorem append_sep_inj {α : Type} {c : α} {a a' b b' : List α} (ha : c ∉ a) (ha' : c ∉ a')
    (h : a ++ c :: b = a' ++ c :: b') : a = a' ∧ b = b' := by
  induction a generalizing a' with
  | nil =>
    cases a' with
    | nil => simpa using h
    | cons x a' => simp only [List.nil_append, List.cons_append, List.cons.injEq] at h
                   exact absurd (h.1 ▸ List.mem_cons_self _ _) ha'
  | cons x a ih =>
    cases a' with
    | nil =>
      simp only [List.nil_append, List.cons_append, List.cons.injEq] at h
      exact absurd (h.1 ▸ List.mem_cons_self _ _) ha
    | cons y a' =>
      simp only [List.cons_append, List.cons.injEq] at h
      obtain ⟨rfl, h⟩ := h
      obtain ⟨rfl, rfl⟩ := ih (fun hm => ha (List.mem_cons_of_mem _ hm))
        (fun hm => ha' (List.mem_cons_of_mem _ hm)) h
      exact ⟨rfl, rfl⟩

/-- A hexadecimal digit, of either case. -/
def isHexDigit (c : Char) : Bool := c.isDigit || ('a' ≤ c && c ≤ 'f') || ('A' ≤ c && c ≤ 'F')

/-! ## UUIDs -/

/-- A byte as two lower-case hexadecimal digits (`std::hex`, `std::setw(2)`, fill `'0'`). -/
def hexByte (b : UInt8) : List Char :=
  [Nat.digitChar (b.toNat / 16), Nat.digitChar (b.toNat % 16)]

namespace UUID

/-- `UUID::generate`: the sixteen random bytes, with the version nibble set to 4 and the
RFC 4122 variant bits set. -/
def generate (r : Bytes) : Bytes :=
  (r.set 6 ((r.getD 6 0 &&& 0x0F) ||| 0x40)).set 8 ((r.getD 8 0 &&& 0x3F) ||| 0x80)

/-- `UUID::to_string`: the bytes in hexadecimal, a hyphen before bytes 4, 6, 8 and 10. -/
def toString (u : Bytes) : List Char :=
  (List.range 16).flatMap fun i =>
    (if i = 4 ∨ i = 6 ∨ i = 8 ∨ i = 10 then ['-'] else []) ++ hexByte (u.getD i 0)

/-- Every character of a rendered UUID is a hyphen or a hexadecimal digit. -/
theorem mem_toString {u : Bytes} {c : Char} (h : c ∈ toString u) :
    c = '-' ∨ ∃ k < 16, c = Nat.digitChar k := by
  simp only [toString, List.mem_flatMap, List.mem_range, List.mem_append, hexByte,
    List.mem_cons, List.mem_singleton, List.not_mem_nil, or_false] at h
  obtain ⟨i, -, h⟩ := h
  have hb := (u.getD i 0).toNat_lt_size
  rcases h with h | h | h
  · split at h <;> simp_all
  · exact .inr ⟨_, by simp only [UInt8.size] at hb; omega, h⟩
  · exact .inr ⟨_, Nat.mod_lt _ (by norm_num), h⟩

/-- A character that is neither a hyphen nor a hexadecimal digit is not in a rendered UUID. -/
theorem not_mem_toString {c : Char} (h₁ : c ≠ '-') (h₂ : ∀ k < 16, Nat.digitChar k ≠ c)
    (u : Bytes) : c ∉ toString u := fun h => by
  rcases mem_toString h with h | ⟨k, hk, rfl⟩
  · exact h₁ h
  · exact h₂ k hk rfl

theorem colon_not_mem_toString (u : Bytes) : ':' ∉ toString u :=
  not_mem_toString (by decide) (by decide) u

theorem toString_ne_nil (u : Bytes) : toString u ≠ [] := by
  simpa [toString, List.flatMap_eq_nil_iff, hexByte] using ⟨0, by norm_num⟩

end UUID

end CryptoService
