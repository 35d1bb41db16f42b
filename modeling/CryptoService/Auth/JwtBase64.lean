import CryptoService.Common.Base64
import CryptoService.Common.Bytes
import CryptoService.Common.Strings
import Mathlib.Data.List.DropRight

/-!
# The base64url decoder of the JWT validator

`base64UrlDecode` of `crypto/auth/jwt_validator.cpp` turns base64url digits into base64 ones,
pads the text with `=` to whole blocks of four and hands it to OpenSSL's `EVP_DecodeBlock`,
which decodes every block to three bytes, `=` to zero bits. The bytes that `=` decoded to are
then removed by popping every trailing zero byte of the output, so the zero bytes the data ends
with go as well.

* `base64UrlDecode_encodeBase64`: on the unpadded base64url encoding of any bytes whose padded
  encoding fits an `int`, the decoder gives the bytes without their trailing zeros;
* `getLast?_base64UrlDecode`: whatever its input, what the decoder returns does not end in zero.
-/

namespace CryptoService

/-! ## OpenSSL's `EVP_DecodeBlock` -/

/-- `conv_ascii2bin` over `data_ascii2bin` of OpenSSL's `crypto/evp/encode.c`: the value of a
base64 digit, `0` for `=`, and the marks `B64_WS` (0xE0: space, tab), `B64_EOLN` (0xF0: line
feed), `B64_CR` (0xF1), `B64_EOF` (0xF2: `-`) and `B64_ERROR` (0xFF: any other character, and
every byte from 0x80). -/
def convAscii2bin (c : Char) : ℕ :=
  if 'A' ≤ c ∧ c ≤ 'Z' then c.toNat - 'A'.toNat
  else if 'a' ≤ c ∧ c ≤ 'z' then c.toNat - 'a'.toNat + 26
  else if '0' ≤ c ∧ c ≤ '9' then c.toNat - '0'.toNat + 52
  else if c = '+' then 0x3E
  else if c = '/' then 0x3F
  else if c = '=' then 0
  else if c = ' ' ∨ c = '\t' then 0xE0
  else if c = '\n' then 0xF0
  else if c = '\r' then 0xF1
  else if c = '-' then 0xF2
  else 0xFF

/-- `B64_WS`. -/
def isWs (c : Char) : Bool := convAscii2bin c == 0xE0

/-- `B64_NOT_BASE64`: white space, an end of line or the EOF mark. -/
def isNotBase64 (a : ℕ) : Bool := a ||| 0x13 == 0xF3

/-- The trailing trim of `evp_decodeblock_int`, on the reversed text:
`while ((n > 3) && (B64_NOT_BASE64(conv_ascii2bin(f[n - 1], table)))) n--;`. -/
def trimEnd : List Char → List Char
  | c :: r => if 3 < r.length + 1 ∧ isNotBase64 (convAscii2bin c) then trimEnd r else c :: r
  | [] => []

/-- The blocks of four characters of `evp_decodeblock_int`: each gives three bytes, the high bits
first, `=` counting as zero bits; a character that is not a digit or `=` (`& 0x80`) fails. -/
def decodeQuads : List Char → Option Bytes
  | a :: b :: c :: d :: f =>
    let (a, b, c, d) := (convAscii2bin a, convAscii2bin b, convAscii2bin c, convAscii2bin d)
    if (a ||| b ||| c ||| d) &&& 0x80 ≠ 0 then none
    else
      let l := a <<< 18 ||| b <<< 12 ||| c <<< 6 ||| d
      (decodeQuads f).map fun t =>
        UInt8.ofNat (l >>> 16) :: UInt8.ofNat (l >>> 8) :: UInt8.ofNat l :: t
  | _ => some []

/-- `EVP_DecodeBlock(t, f, n)` of OpenSSL 3: the bytes it writes, `none` where it returns `-1`.
Leading white space and trailing white space, ends of line and EOF marks are trimmed, and what
is left must be whole blocks. A negative `n` skips the trims and the loop over all blocks but
the last, so the last block is read from the first four characters. -/
def EVP_DecodeBlock (f : List Char) (n : ℤ) : Option Bytes :=
  if 0 ≤ n then
    let f := (trimEnd ((f.take n.toNat).dropWhile isWs).reverse).reverse
    if f.length % 4 ≠ 0 then none else decodeQuads f
  else if n.tmod 4 ≠ 0 then none
  else decodeQuads (f.take 4)

/-! ### On an RFC 4648 encoding -/

theorem convAscii2bin_base64Alphabet :
    ∀ i : Fin 64, convAscii2bin (base64Alphabet.getD i '=') = i := by
  decide

theorem convAscii2bin_getD {i : ℕ} (hi : i < 64) : convAscii2bin (base64Alphabet.getD i '=') = i :=
  convAscii2bin_base64Alphabet ⟨i, hi⟩

/-- The characters of a standard encoding are digits or `=`: values below 64. -/
theorem convAscii2bin_lt_of_mem {pad : Bool} {d : Bytes} {c : Char}
    (h : c ∈ encodeBase64 base64Alphabet pad d) : convAscii2bin c < 64 := by
  rcases mem_encodeBase64 h with rfl | ⟨i, hi, rfl⟩
  · decide
  · rw [convAscii2bin_base64Alphabet ⟨i, hi⟩]; exact hi

theorem trimEnd_of_lt {r : List Char} (h : ∀ c ∈ r, convAscii2bin c < 64) : trimEnd r = r := by
  cases r with
  | nil => rfl
  | cons c r =>
    have hc : isNotBase64 (convAscii2bin c) = false := by
      have : ∀ a < 64, isNotBase64 a = false := by decide
      exact this _ (h c (List.mem_cons_self _ _))
    simp [trimEnd, hc]

theorem dropWhile_isWs_of_lt {r : List Char} (h : ∀ c ∈ r, convAscii2bin c < 64) :
    r.dropWhile isWs = r := by
  cases r with
  | nil => rfl
  | cons c r =>
    have hc : isWs c = false := by
      have := h c (List.mem_cons_self _ _)
      simp only [isWs, beq_eq_false_iff_ne]; omega
    simp [List.dropWhile_cons, hc]

/-- The bits of four sextets, which the `|` of `evp_decodeblock_int` puts side by side. -/
theorem sextets_or {a b c d : ℕ} (hb : b < 64) (hc : c < 64) (hd : d < 64) :
    a <<< 18 ||| b <<< 12 ||| c <<< 6 ||| d = a * 2 ^ 18 + b * 2 ^ 12 + c * 2 ^ 6 + d := by
  have hor : ∀ {x y k : ℕ}, 2 ^ k ∣ x → y < 2 ^ k → x ||| y = x + y := by
    rintro x y k ⟨q, rfl⟩ hy
    exact (Nat.mul_add_lt_is_or hy q).symm
  simp only [Nat.shiftLeft_eq]
  rw [hor (y := b * 2 ^ 12) (k := 18) (Dvd.intro_left _ rfl) (by omega),
    hor (y := c * 2 ^ 6) (k := 12) (by omega) (by omega), hor (y := d) (k := 6) (by omega) hd]

/-- One block of four digits or `=`: three bytes, from the 24 bits of its sextets. -/
theorem decodeQuads_block {a b c d : Char} (ha : convAscii2bin a < 64)
    (hb : convAscii2bin b < 64) (hc : convAscii2bin c < 64) (hd : convAscii2bin d < 64)
    (f : List Char) :
    decodeQuads (a :: b :: c :: d :: f) = (decodeQuads f).map fun t =>
      let l := convAscii2bin a * 2 ^ 18 + convAscii2bin b * 2 ^ 12 + convAscii2bin c * 2 ^ 6 +
        convAscii2bin d
      UInt8.ofNat (l / 2 ^ 16) :: UInt8.ofNat (l / 2 ^ 8) :: UInt8.ofNat l :: t := by
  have hm : ∀ x < 64, x &&& 0x80 = 0 := by decide
  have h₀ := hm _ (Nat.or_lt_two_pow (n := 6) (Nat.or_lt_two_pow (Nat.or_lt_two_pow ha hb) hc) hd)
  simp only [decodeQuads, h₀, ne_eq, not_true_eq_false, if_false, sextets_or hb hc hd,
    Nat.shiftRight_eq_div_pow]

theorem uint8_ofNat_of_mod {n : ℕ} {x : UInt8} (h : n % 256 = x.toNat) : UInt8.ofNat n = x :=
  UInt8.toNat.inj h

/-- A block whose sextets are those of three bytes decodes to the three bytes. -/
theorem decodeQuads_sextets {a b c d : Char} {x y z : UInt8} (ha : convAscii2bin a = x.toNat / 4)
    (hb : convAscii2bin b = x.toNat % 4 * 16 + y.toNat / 16)
    (hc : convAscii2bin c = y.toNat % 16 * 4 + z.toNat / 64) (hd : convAscii2bin d = z.toNat % 64)
    (f : List Char) :
    decodeQuads (a :: b :: c :: d :: f) = (decodeQuads f).map (x :: y :: z :: ·) := by
  have hx := x.toNat_lt_size; have hy := y.toNat_lt_size; have hz := z.toNat_lt_size
  simp only [UInt8.size] at hx hy hz
  rw [decodeQuads_block (by omega) (by omega) (by omega) (by omega), ha, hb, hc, hd]
  dsimp only
  rw [uint8_ofNat_of_mod (x := x) (by omega), uint8_ofNat_of_mod (x := y) (by omega),
    uint8_ofNat_of_mod (x := z) (by omega)]

/-- `evp_decodeblock_int` reads an RFC 4648 encoding back, with a zero byte for each `=`. -/
theorem decodeQuads_encodeBase64 (d : Bytes) :
    decodeQuads (encodeBase64 base64Alphabet true d) =
      some (d ++ List.replicate ((3 - d.length % 3) % 3) 0) := by
  have hA := @convAscii2bin_getD
  induction d using encodeBase64.induct base64Alphabet true with
  | case1 a b c rest ih =>
    have ha := a.toNat_lt_size; have hb := b.toNat_lt_size; have hc := c.toNat_lt_size
    simp only [UInt8.size] at ha hb hc
    rw [encodeBase64, List.cons_append, List.cons_append, List.cons_append, List.cons_append,
      List.nil_append, decodeQuads_sextets (hA (by omega)) (hA (by omega)) (hA (by omega))
        (hA (by omega)), ih]
    simp only [Option.map_some', List.cons_append, List.length_cons]
    rw [show (rest.length + 1 + 1 + 1) % 3 = rest.length % 3 by omega]
  | case2 a b =>
    have ha := a.toNat_lt_size; have hb := b.toNat_lt_size
    simp only [UInt8.size] at ha hb
    have hc : convAscii2bin (base64Alphabet.getD (b.toNat % 16 * 4) '=') =
        b.toNat % 16 * 4 + (0 : UInt8).toNat / 64 := hA (by omega)
    rw [encodeBase64, if_pos rfl, List.cons_append, List.cons_append, List.cons_append,
      List.nil_append, decodeQuads_sextets (hA (by omega)) (hA (by omega)) hc
        (rfl : convAscii2bin '=' = (0 : UInt8).toNat % 64)]
    rfl
  | case3 a =>
    have ha := a.toNat_lt_size
    simp only [UInt8.size] at ha
    have hb : convAscii2bin (base64Alphabet.getD (a.toNat % 4 * 16) '=') =
        a.toNat % 4 * 16 + (0 : UInt8).toNat / 16 := hA (by omega)
    rw [encodeBase64, if_pos rfl, List.cons_append, List.cons_append, List.nil_append,
      decodeQuads_sextets (z := 0) (hA (by omega)) hb
        (rfl : convAscii2bin '=' = (0 : UInt8).toNat % 16 * 4 + (0 : UInt8).toNat / 64)
        (rfl : convAscii2bin '=' = (0 : UInt8).toNat % 64)]
    rfl
  | case4 => rfl

/-! ## `base64UrlDecode` -/

/-- The padding loop of `base64UrlDecode`: `=` until the length is a multiple of four. -/
def padBase64 (s : List Char) : List Char := s ++ List.replicate ((4 - s.length % 4) % 4) '='

/-- The end of `base64UrlDecode`, from what `EVP_DecodeBlock` wrote into a zeroed vector of
`size` bytes: nothing where it returned `-1`, else the vector with every trailing zero byte
popped, the ones `=` decoded to and any the data ended with. -/
def removePaddingBytes (size : ℕ) : Option Bytes → Bytes
  | none => []
  | some t => (t ++ List.replicate (size - t.length) 0).rdropWhile (· == 0)

/-- `base64UrlDecode` of `crypto/auth/jwt_validator.cpp`: the base64url digits become base64
ones, the text is padded, and `EVP_DecodeBlock` decodes it, its length given as an `int`. -/
def base64UrlDecode (input : List Char) : Bytes :=
  let base64 := padBase64 (replaceChar '_' '/' (replaceChar '-' '+' input))
  removePaddingBytes base64.length (EVP_DecodeBlock base64 (toInt32 base64.length))

theorem getLast?_removePaddingBytes (size : ℕ) (o : Option Bytes) :
    (removePaddingBytes size o).getLast? ≠ some 0 := by
  cases o with
  | none => simp [removePaddingBytes]
  | some t =>
    intro h
    have hne : (t ++ List.replicate (size - t.length) 0).rdropWhile (· == 0) ≠ [] := by
      rintro h'
      simp [removePaddingBytes, h'] at h
    have hl := List.rdropWhile_last_not (· == 0) _ hne
    rw [removePaddingBytes, List.getLast?_eq_getLast _ hne, Option.some.injEq] at h
    simp [h] at hl

/-- **The decoder never returns bytes that end in zero**, whatever its input. -/
theorem getLast?_base64UrlDecode (input : List Char) : (base64UrlDecode input).getLast? ≠ some 0 := by
  rw [base64UrlDecode]
  exact getLast?_removePaddingBytes _ _

theorem padBase64_encodeBase64 (alphabet : List Char) (d : Bytes) :
    padBase64 (encodeBase64 alphabet false d) = encodeBase64 alphabet true d := by
  induction d using encodeBase64.induct alphabet false with
  | case1 a b c rest ih =>
    simp only [encodeBase64]
    rw [← ih]
    simp only [padBase64, List.length_append, List.append_assoc]
    congr 4
    simp only [List.length_cons, List.length_nil]
    omega
  | case2 a b | case3 a => rfl
  | case4 => simp [padBase64, encodeBase64]

/-- The base64url digits made standard ones: the standard encoding. -/
theorem replaceChar_encodeBase64 (d : Bytes) :
    replaceChar '_' '/' (replaceChar '-' '+' (encodeBase64 base64UrlAlphabet false d)) =
      encodeBase64 base64Alphabet false d := by
  rw [replaceChar, replaceChar, map_encodeBase64 rfl, map_encodeBase64 rfl]
  congr 1

/-- Popping the zeros off the back pops those that were appended first. -/
theorem rdropWhile_append_replicate (l : Bytes) (k : ℕ) :
    (l ++ List.replicate k 0).rdropWhile (· == 0) = l.rdropWhile (· == 0) := by
  induction k with
  | zero => simp
  | succ k ih =>
    rw [List.replicate_succ', ← List.append_assoc, List.rdropWhile_concat_pos _ _ _ rfl, ih]

theorem EVP_DecodeBlock_encodeBase64 (d : Bytes) (h : 4 * ((d.length + 2) / 3) < 2 ^ 31) :
    EVP_DecodeBlock (encodeBase64 base64Alphabet true d)
        (toInt32 (encodeBase64 base64Alphabet true d).length) =
      some (d ++ List.replicate ((3 - d.length % 3) % 3) 0) := by
  have hl := length_encodeBase64_pad base64Alphabet d
  have hc : ∀ c ∈ encodeBase64 base64Alphabet true d, convAscii2bin c < 64 :=
    fun _ => convAscii2bin_lt_of_mem
  rw [toInt32_of_lt (by omega) (by omega), EVP_DecodeBlock, if_pos (by omega)]
  simp only [Int.toNat_ofNat, List.take_length, dropWhile_isWs_of_lt hc,
    trimEnd_of_lt (fun c h => hc c (List.mem_reverse.1 h)), List.reverse_reverse]
  rw [if_neg (by omega), decodeQuads_encodeBase64]

/-- **`base64UrlDecode` on a base64url encoding.** For every byte string whose padded encoding
fits an `int`, decoding the unpadded base64url encoding gives back the bytes without their
trailing zero bytes. -/
theorem base64UrlDecode_encodeBase64 (d : Bytes) (h : 4 * ((d.length + 2) / 3) < 2 ^ 31) :
    base64UrlDecode (encodeBase64 base64UrlAlphabet false d) = d.rdropWhile (· == 0) := by
  rw [base64UrlDecode, replaceChar_encodeBase64, padBase64_encodeBase64,
    EVP_DecodeBlock_encodeBase64 d h, removePaddingBytes, List.append_assoc,
    List.append_replicate_replicate, rdropWhile_append_replicate]

/-- **The JWT decoder drops the data's trailing zero bytes.** For every byte string whose padded
encoding fits an `int`, `base64UrlDecode` of its unpadded base64url encoding is the bytes
without their trailing zeros; and for every byte string at all, it gives the bytes back only if
they do not end in a zero byte. -/
theorem base64UrlDecode_drops_trailing_zeros (d : Bytes) :
    (4 * ((d.length + 2) / 3) < 2 ^ 31 →
      base64UrlDecode (encodeBase64 base64UrlAlphabet false d) = d.rdropWhile (· == 0)) ∧
    (base64UrlDecode (encodeBase64 base64UrlAlphabet false d) = d → d.getLast? ≠ some 0) :=
  ⟨base64UrlDecode_encodeBase64 d, fun h => h ▸ getLast?_base64UrlDecode _⟩

/-- `A` then a zero byte is `QQA`, which decodes to `A` alone. -/
theorem base64UrlDecode_drops_trailing_zeros_QQA :
    encodeBase64 base64UrlAlphabet false [0x41, 0] = "QQA".toList ∧
      4 * ((([0x41, 0] : Bytes).length + 2) / 3) < 2 ^ 31 ∧
      base64UrlDecode "QQA".toList = [0x41] :=
  ⟨rfl, by decide, (base64UrlDecode_drops_trailing_zeros [0x41, 0]).1 (by decide)⟩

end CryptoService
