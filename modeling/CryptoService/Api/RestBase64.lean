import CryptoService.Common.Base64
import CryptoService.Common.Bytes

/-!
# The base64 codec of the REST server

`base64Encode` and `base64Decode` of `crypto/api/rest_server.cpp` run a bit accumulator through
the input: the encoder shifts each byte into an `int` `val` and writes a character whenever six
bits are ready, the decoder shifts each character's six bits in and writes a byte whenever eight
are. `val` is never masked, so its high bits are shifted out of the `int`: C++20 makes `<<` the
product modulo 2^32 and `>>` an arithmetic shift, but an addition that leaves the range of `int`
is undefined (`none`). The decoder's `lookup` table has 128 entries and is indexed by the byte,
so a byte from 0x80 on reads past it (`none`).

* `base64Encode_eq`: for every byte string the encoder's behaviour is defined and it writes the
  RFC 4648 encoding, padded with `=`, of `4 * ⌈n / 3⌉` characters;
* `base64Decode_encodeBase64`: the decoder reads that encoding back to the bytes;
* `base64_round_trip`: the two together.
-/

namespace CryptoService

/-! ## `int` arithmetic -/

/-- `v << k` on `int`: the product by 2^k, modulo 2^32. -/
def shiftLeftInt (v : ℤ) (k : ℕ) : ℤ := toInt32 (v * 2 ^ k)

/-- `v >> k` on `int`: an arithmetic shift, rounding towards −∞. -/
def shiftRightInt (v : ℤ) (k : ℕ) : ℤ := v / 2 ^ k

/-- `a + b` on `int`: undefined (`none`) when the sum leaves the range of `int`. -/
def addInt (a b : ℤ) : Option ℤ :=
  if -2 ^ 31 ≤ a + b ∧ a + b < 2 ^ 31 then some (a + b) else none

namespace RestServer

/-! ## `base64Encode` -/

/-- `chars` of `base64Encode`. -/
def chars : List Char := "ABCDEFGHIJKLMNOPQRSTUVWXYZabcdefghijklmnopqrstuvwxyz0123456789+/".toList

/-- `while (valb >= 0) { result.push_back(chars[(val >> valb) & 0x3F]); valb -= 6; }`. -/
def emitSextets (val valb : ℤ) (result : List Char) : List Char × ℤ :=
  if 0 ≤ valb then
    emitSextets val (valb - 6) (result ++ [chars.getD (shiftRightInt val valb.toNat % 0x40).toNat '='])
  else (result, valb)
termination_by (valb + 6).toNat

/-- One round of the `for` loop of `base64Encode`, on `(result, val, valb)`: `val = (val << 8) + c`,
`valb += 8`, then the characters that are ready. -/
def encodeByte (st : Option (List Char × ℤ × ℤ)) (c : UInt8) : Option (List Char × ℤ × ℤ) := do
  let (result, val, valb) ← st
  let val ← addInt (shiftLeftInt val 8) c.toNat
  let (result, valb) := emitSextets val (valb + 8) result
  pure (result, val, valb)

/-- What `base64Encode` does after its loop: the character of the bits left over, then `=` until
the length is a multiple of four. -/
def encodeFinish (st : List Char × ℤ × ℤ) : Option (List Char) :=
  let (result, val, valb) := st
  let result := if valb > -6 then
      result ++ [chars.getD (shiftRightInt (shiftLeftInt val 8) (valb + 8).toNat % 0x40).toNat '=']
    else result
  some (result ++ List.replicate ((4 - result.length % 4) % 4) '=')

/-- `base64Encode`. -/
def base64Encode (data : Bytes) : Option (List Char) :=
  (data.foldl encodeByte (some ([], 0, -6))).bind encodeFinish

/-! ### The encoder's loop -/

theorem emitSextets_of_neg {val valb : ℤ} (h : valb < 0) (result : List Char) :
    emitSextets val valb result = (result, valb) := by
  rw [emitSextets, if_neg (by omega)]

theorem emitSextets_of_nonneg {val valb : ℤ} (h : 0 ≤ valb) (result : List Char) :
    emitSextets val valb result = emitSextets val (valb - 6)
      (result ++ [chars.getD (shiftRightInt val valb.toNat % 0x40).toNat '=']) := by
  rw [emitSextets, if_pos h]

/-- `(val << k) + c` stays in range for `0 ≤ c < 2^k`: the shift leaves the low `k` bits zero. -/
theorem addInt_shiftLeftInt (v : ℤ) (k : ℕ) (hk : k = 6 ∨ k = 8) {c : ℤ} (h₀ : 0 ≤ c)
    (hc : c < 2 ^ k) : addInt (shiftLeftInt v k) c = some (shiftLeftInt v k + c) := by
  rw [addInt, if_pos]
  rcases hk with rfl | rfl <;> simp only [shiftLeftInt, toInt32] at * <;> omega

/-- The bits of `val` from `valb` on, six of them, as an index into `chars`. -/
theorem sextet_index (val : ℤ) (valb : ℕ) :
    (shiftRightInt val (valb : ℤ).toNat % 0x40).toNat = ((val / 2 ^ valb) % 64).toNat := rfl

theorem encodeByte_first (r : List Char) (v : ℤ) (a : UInt8) :
    encodeByte (some (r, v, -6)) a =
      some (r ++ [chars.getD (a.toNat / 4) '='], shiftLeftInt v 8 + a.toNat, -4) := by
  have ha : a.toNat < 2 ^ 8 := a.toNat_lt_size
  simp only [encodeByte,
    addInt_shiftLeftInt v 8 (.inr rfl) (Int.ofNat_nonneg _) (by exact_mod_cast ha),
    Option.bind_eq_bind, Option.some_bind]
  rw [show (-6 : ℤ) + 8 = (2 : ℕ) by norm_num, emitSextets_of_nonneg (by norm_num),
    emitSextets_of_neg (by norm_num), sextet_index]
  have hi : (((shiftLeftInt v 8 + a.toNat) / 2 ^ 2) % 64).toNat = a.toNat / 4 := by
    simp only [shiftLeftInt, toInt32]; omega
  rw [hi]
  rfl

theorem encodeByte_second (r : List Char) (w : ℤ) (a b : UInt8) :
    encodeByte (some (r, shiftLeftInt w 8 + a.toNat, -4)) b =
      some (r ++ [chars.getD (a.toNat % 4 * 16 + b.toNat / 16) '='],
        shiftLeftInt (shiftLeftInt w 8 + a.toNat) 8 + b.toNat, -2) := by
  have ha : a.toNat < 2 ^ 8 := a.toNat_lt_size
  have hb : b.toNat < 2 ^ 8 := b.toNat_lt_size
  simp only [encodeByte,
    addInt_shiftLeftInt _ 8 (.inr rfl) (Int.ofNat_nonneg _) (by exact_mod_cast hb),
    Option.bind_eq_bind, Option.some_bind]
  rw [show (-4 : ℤ) + 8 = (4 : ℕ) by norm_num, emitSextets_of_nonneg (by norm_num),
    emitSextets_of_neg (by norm_num), sextet_index]
  have hi : (((shiftLeftInt (shiftLeftInt w 8 + a.toNat) 8 + b.toNat) / 2 ^ 4) % 64).toNat =
      a.toNat % 4 * 16 + b.toNat / 16 := by
    simp only [shiftLeftInt, toInt32]; omega
  rw [hi]
  rfl

theorem encodeByte_third (r : List Char) (w : ℤ) (b c : UInt8) :
    encodeByte (some (r, shiftLeftInt w 8 + b.toNat, -2)) c =
      some (r ++ [chars.getD (b.toNat % 16 * 4 + c.toNat / 64) '=', chars.getD (c.toNat % 64) '='],
        shiftLeftInt (shiftLeftInt w 8 + b.toNat) 8 + c.toNat, -6) := by
  have hb : b.toNat < 2 ^ 8 := b.toNat_lt_size
  have hc : c.toNat < 2 ^ 8 := c.toNat_lt_size
  simp only [encodeByte,
    addInt_shiftLeftInt _ 8 (.inr rfl) (Int.ofNat_nonneg _) (by exact_mod_cast hc),
    Option.bind_eq_bind, Option.some_bind]
  rw [show (-2 : ℤ) + 8 = (6 : ℕ) by norm_num, emitSextets_of_nonneg (by norm_num),
    show ((6 : ℕ) : ℤ) - 6 = (0 : ℕ) by norm_num, emitSextets_of_nonneg (by norm_num),
    emitSextets_of_neg (by norm_num), sextet_index, sextet_index]
  have hi : (((shiftLeftInt (shiftLeftInt w 8 + b.toNat) 8 + c.toNat) / 2 ^ 6) % 64).toNat =
      b.toNat % 16 * 4 + c.toNat / 64 := by
    simp only [shiftLeftInt, toInt32]; omega
  have hj : (((shiftLeftInt (shiftLeftInt w 8 + b.toNat) 8 + c.toNat) / 2 ^ 0) % 64).toNat =
      c.toNat % 64 := by
    simp only [shiftLeftInt, toInt32]; omega
  rw [hi, hj, List.append_assoc]
  rfl

theorem chars_eq : chars = base64Alphabet := rfl

/-- The loop of `base64Encode` over whole groups of three bytes, then its end: from a result of
whole quads and `valb = -6` (no bits left over), the encoder appends the RFC 4648 encoding. -/
theorem encodeFinish_foldl (d : Bytes) (r : List Char) (v : ℤ) (hr : r.length % 4 = 0) :
    (d.foldl encodeByte (some (r, v, -6))).bind encodeFinish =
      some (r ++ encodeBase64 base64Alphabet true d) := by
  induction d using encodeBase64.induct base64Alphabet true generalizing r v with
  | case1 a b c rest ih =>
    rw [List.foldl_cons, encodeByte_first, List.foldl_cons, encodeByte_second, List.foldl_cons,
      encodeByte_third, ih _ _ (by simp; omega)]
    simp [encodeBase64, chars_eq]
  | case2 a b =>
    rw [List.foldl_cons, encodeByte_first, List.foldl_cons, encodeByte_second, List.foldl_nil,
      Option.some_bind]
    have hb : b.toNat < 2 ^ 8 := b.toNat_lt_size
    have hi : (shiftRightInt
        (shiftLeftInt (shiftLeftInt (shiftLeftInt v 8 + a.toNat) 8 + b.toNat) 8)
        ((-2 : ℤ) + 8).toNat % 0x40).toNat = b.toNat % 16 * 4 := by
      simp only [shiftRightInt, shiftLeftInt, toInt32, Int.reduceAdd, Int.reduceToNat]; omega
    simp only [encodeFinish, if_pos (show (-2 : ℤ) > -6 by norm_num), hi]
    simp [encodeBase64, chars_eq, List.length_append]
    rw [show (4 - (r.length + 3) % 4) % 4 = 1 by omega]
    rfl
  | case3 a =>
    rw [List.foldl_cons, encodeByte_first, List.foldl_nil, Option.some_bind]
    have ha : a.toNat < 2 ^ 8 := a.toNat_lt_size
    have hi : (shiftRightInt (shiftLeftInt (shiftLeftInt v 8 + a.toNat) 8)
        ((-4 : ℤ) + 8).toNat % 0x40).toNat = a.toNat % 4 * 16 := by
      simp only [shiftRightInt, shiftLeftInt, toInt32, Int.reduceAdd, Int.reduceToNat]; omega
    simp only [encodeFinish, if_pos (show (-4 : ℤ) > -6 by norm_num), hi]
    simp [encodeBase64, chars_eq, List.length_append]
    rw [show (4 - (r.length + 2) % 4) % 4 = 2 by omega]
    rfl
  | case4 => simp [encodeFinish, hr, encodeBase64]

/-! ## `base64Decode` -/

/-- `lookup` of `base64Decode`: the value of each of the first 128 characters, `-1` for one that
is not a base64 digit. -/
def lookup : List ℤ :=
  [-1, -1, -1, -1, -1, -1, -1, -1, -1, -1, -1, -1, -1, -1, -1, -1,
    -1, -1, -1, -1, -1, -1, -1, -1, -1, -1, -1, -1, -1, -1, -1, -1,
    -1, -1, -1, -1, -1, -1, -1, -1, -1, -1, -1, 62, -1, -1, -1, 63,
    52, 53, 54, 55, 56, 57, 58, 59, 60, 61, -1, -1, -1, -1, -1, -1,
    -1, 0, 1, 2, 3, 4, 5, 6, 7, 8, 9, 10, 11, 12, 13, 14,
    15, 16, 17, 18, 19, 20, 21, 22, 23, 24, 25, -1, -1, -1, -1, -1,
    -1, 26, 27, 28, 29, 30, 31, 32, 33, 34, 35, 36, 37, 38, 39, 40,
    41, 42, 43, 44, 45, 46, 47, 48, 49, 50, 51, -1, -1, -1, -1, -1]

/-- The `for` loop of `base64Decode` over the rest of the input, from `(result, val, valb)`:
`=` ends it, a character that is not a base64 digit is skipped, and a byte is written whenever
eight bits are ready. -/
def decodeChars : List Char → Bytes → ℤ → ℤ → Option Bytes
  | [], result, _, _ => some result
  | c :: input, result, val, valb =>
    if c = '=' then some result
    else match lookup[c.toNat]? with
      | none => none
      | some v =>
        if v = -1 then decodeChars input result val valb
        else match addInt (shiftLeftInt val 6) v with
          | none => none
          | some val =>
            if 0 ≤ valb + 6 then
              decodeChars input
                (result ++ [UInt8.ofNat (shiftRightInt val (valb + 6).toNat % 0x100).toNat]) val
                (valb + 6 - 8)
            else decodeChars input result val (valb + 6)

/-- `base64Decode`. -/
def base64Decode (input : List Char) : Option Bytes := decodeChars input [] 0 (-8)

/-! ### The decoder's loop -/

set_option maxRecDepth 4000 in
theorem lookup_base64Alphabet :
    ∀ i : Fin 64, lookup[(base64Alphabet.getD i '=').toNat]? = some (i : ℤ) := by
  decide

theorem base64Alphabet_ne_equals : ∀ i : Fin 64, base64Alphabet.getD i '=' ≠ '=' := by
  decide

/-- One base64 digit: its six bits go into `val`, and a byte comes out when eight are ready. -/
theorem decodeChars_digit {i : ℕ} (hi : i < 64) (input : List Char) (r : Bytes) (v valb : ℤ) :
    decodeChars (base64Alphabet.getD i '=' :: input) r v valb =
      if 0 ≤ valb + 6 then
        decodeChars input
          (r ++ [UInt8.ofNat (shiftRightInt (shiftLeftInt v 6 + i) (valb + 6).toNat % 0x100).toNat])
          (shiftLeftInt v 6 + i) (valb + 6 - 8)
      else decodeChars input r (shiftLeftInt v 6 + i) (valb + 6) := by
  have hl := lookup_base64Alphabet ⟨i, hi⟩
  simp only at hl
  rw [decodeChars, if_neg (base64Alphabet_ne_equals ⟨i, hi⟩), hl]
  simp only
  rw [if_neg (by omega), addInt_shiftLeftInt v 6 (.inl rfl) (by omega) (by norm_num; omega)]

theorem uint8_ofNat_toNat_of_eq {x : ℤ} {a : UInt8} (h : x = a.toNat) : UInt8.ofNat x.toNat = a := by
  subst h
  exact UInt8.toNat.inj (UInt8.toNat_ofNat_of_lt a.toNat_lt_size)

/-- `=` ends the decoding. -/
theorem decodeChars_equals (input : List Char) (r : Bytes) (v valb : ℤ) :
    decodeChars ('=' :: input) r v valb = some r := rfl

/-- The loop of `base64Decode` over an RFC 4648 encoding, from `valb = -8` (no bits left over):
each quad gives back its three bytes, and a padded last group its one or two. -/
theorem decodeChars_encodeBase64 (d : Bytes) (r : Bytes) (v : ℤ) :
    decodeChars (encodeBase64 base64Alphabet true d) r v (-8) = some (r ++ d) := by
  induction d using encodeBase64.induct base64Alphabet true generalizing r v with
  | case1 a b c rest ih =>
    have ha : a.toNat < 2 ^ 8 := a.toNat_lt_size
    have hb : b.toNat < 2 ^ 8 := b.toNat_lt_size
    have hc : c.toNat < 2 ^ 8 := c.toNat_lt_size
    simp only [encodeBase64, List.cons_append, List.nil_append,
      decodeChars_digit (show a.toNat / 4 < 64 by omega),
      decodeChars_digit (show a.toNat % 4 * 16 + b.toNat / 16 < 64 by omega),
      decodeChars_digit (show b.toNat % 16 * 4 + c.toNat / 64 < 64 by omega),
      decodeChars_digit (show c.toNat % 64 < 64 by omega),
      Int.reduceAdd, Int.reduceSub, Int.reduceLE, Int.reduceToNat, ↓reduceIte, ih]
    rw [uint8_ofNat_toNat_of_eq (a := a) ?_, uint8_ofNat_toNat_of_eq (a := b) ?_,
      uint8_ofNat_toNat_of_eq (a := c) ?_]
    · simp
    all_goals simp only [shiftRightInt, shiftLeftInt, toInt32]; omega
  | case2 a b =>
    have ha : a.toNat < 2 ^ 8 := a.toNat_lt_size
    have hb : b.toNat < 2 ^ 8 := b.toNat_lt_size
    simp only [encodeBase64, List.cons_append, List.nil_append, if_true,
      decodeChars_digit (show a.toNat / 4 < 64 by omega),
      decodeChars_digit (show a.toNat % 4 * 16 + b.toNat / 16 < 64 by omega),
      decodeChars_digit (show b.toNat % 16 * 4 < 64 by omega),
      Int.reduceAdd, Int.reduceSub, Int.reduceLE, Int.reduceToNat, ↓reduceIte, decodeChars_equals]
    rw [uint8_ofNat_toNat_of_eq (a := a) ?_, uint8_ofNat_toNat_of_eq (a := b) ?_]
    · simp
    all_goals simp only [shiftRightInt, shiftLeftInt, toInt32]; omega
  | case3 a =>
    have ha : a.toNat < 2 ^ 8 := a.toNat_lt_size
    simp only [encodeBase64, List.cons_append, List.nil_append, if_true,
      decodeChars_digit (show a.toNat / 4 < 64 by omega),
      decodeChars_digit (show a.toNat % 4 * 16 < 64 by omega),
      Int.reduceAdd, Int.reduceSub, Int.reduceLE, Int.reduceToNat, ↓reduceIte, decodeChars_equals]
    rw [uint8_ofNat_toNat_of_eq (a := a) ?_]
    simp only [shiftRightInt, shiftLeftInt, toInt32]; omega
  | case4 => simp [encodeBase64, decodeChars]

/-! ## The round trip -/

theorem base64Encode_eq (d : Bytes) : base64Encode d = some (encodeBase64 base64Alphabet true d) :=
  encodeFinish_foldl d [] 0 rfl

theorem base64Decode_encodeBase64 (d : Bytes) :
    base64Decode (encodeBase64 base64Alphabet true d) = some d :=
  decodeChars_encodeBase64 d [] 0

/-- **The REST codec round trip.** For every byte string, `base64Encode` is defined under C++20
`int` semantics and writes the padded RFC 4648 encoding, of `4 * ⌈n / 3⌉` characters, and
`base64Decode` reads it back to the bytes. -/
theorem base64_round_trip (d : Bytes) :
    base64Encode d = some (encodeBase64 base64Alphabet true d) ∧
      (encodeBase64 base64Alphabet true d).length = 4 * ((d.length + 2) / 3) ∧
      base64Decode (encodeBase64 base64Alphabet true d) = some d :=
  ⟨base64Encode_eq d, length_encodeBase64_pad _ d, base64Decode_encodeBase64 d⟩

/-- RFC 4648's own example: `fo` is `Zm8=`. -/
theorem base64_round_trip_fo :
    base64Encode [0x66, 0x6F] = some "Zm8=".toList ∧ base64Decode "Zm8=".toList = some [0x66, 0x6F] :=
  ⟨(base64_round_trip _).1, (base64_round_trip [0x66, 0x6F]).2.2⟩

end RestServer

end CryptoService
