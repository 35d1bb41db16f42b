import CryptoService.Common.Result
import Mathlib.Data.List.Basic

/-!
# Little-endian integers in byte strings

The key files and the file envelope write fixed-width unsigned integers byte by byte, least
significant first (`reinterpret_cast` of a `uint32_t` on a little-endian machine, and the
explicit shifts of the envelope header). `encodeLE w n` is that layout of `n` on `w` bytes and
`decodeLE` reads it back.

* `decodeLE_encodeLE`: a value below `256 ^ w` reads back, and `encodeLE_decodeLE`: so do
  the bytes;
* `decodeLE_lt`: what is read from `w` bytes is below `256 ^ w`.

`toInt32` is the conversion of an integer to `int`, modulo 2^32 as C++20 defines it.
-/

namespace CryptoService

/-- The `w` low bytes of `n`, least significant first. -/
def encodeLE : ℕ → ℕ → Bytes
  | 0, _ => []
  | w + 1, n => UInt8.ofNat (n % 256) :: encodeLE w (n / 256)

/-- The value of a little-endian byte string. -/
def decodeLE : Bytes → ℕ
  | [] => 0
  | b :: bs => b.toNat + 256 * decodeLE bs

@[simp] theorem length_encodeLE (w n : ℕ) : (encodeLE w n).length = w := by
  induction w generalizing n with
  | zero => rfl
  | succ w ih => simp [encodeLE, ih]

theorem decodeLE_encodeLE {w n : ℕ} (h : n < 256 ^ w) : decodeLE (encodeLE w n) = n := by
  induction w generalizing n with
  | zero => simp at h; simp [h, encodeLE, decodeLE]
  | succ w ih =>
    have hd : n / 256 < 256 ^ w := by
      rw [Nat.div_lt_iff_lt_mul (by decide)]; simpa [Nat.pow_succ] using h
    have hb : (UInt8.ofNat (n % 256)).toNat = n % 256 := by
      simp [UInt8.toNat, UInt8.ofNat, Fin.ofNat, Nat.mod_mod_of_dvd n (by decide : 256 ∣ 256)]
    simp only [encodeLE, decodeLE, ih hd, hb]
    omega

/-- A byte string is the encoding, on its length, of its value. -/
theorem encodeLE_decodeLE (bs : Bytes) : encodeLE bs.length (decodeLE bs) = bs := by
  induction bs with
  | nil => rfl
  | cons b bs ih =>
    have hb := b.toNat_lt_size
    simp only [UInt8.size] at hb
    simp only [List.length_cons, encodeLE, decodeLE]
    rw [show (b.toNat + 256 * decodeLE bs) % 256 = b.toNat by omega,
      show (b.toNat + 256 * decodeLE bs) / 256 = decodeLE bs by omega, ih]
    exact congrArg (· :: bs) (UInt8.toNat.inj (UInt8.toNat_ofNat_of_lt hb))

/-- Only the `w` low bytes of a value are written. -/
theorem encodeLE_mod (w n : ℕ) : encodeLE w (n % 256 ^ w) = encodeLE w n := by
  induction w generalizing n with
  | zero => rfl
  | succ w ih =>
    simp only [encodeLE]
    rw [Nat.pow_succ', Nat.mod_mul_right_mod, Nat.mod_mul_right_div_self, ih]

theorem decodeLE_lt (bs : Bytes) : decodeLE bs < 256 ^ bs.length := by
  induction bs with
  | nil => simp [decodeLE]
  | cons b bs ih =>
    have : b.toNat < 256 := b.val.isLt
    simp only [decodeLE, List.length_cons, Nat.pow_succ]
    omega

/-! ## `int` -/

/-- The `int` C++20 gives an integer: the one congruent to it modulo 2^32 in `[-2^31, 2^31)`. -/
def toInt32 (x : ℤ) : ℤ := (x + 2 ^ 31) % 2 ^ 32 - 2 ^ 31

theorem toInt32_of_lt {x : ℤ} (h₀ : 0 ≤ x) (h : x < 2 ^ 31) : toInt32 x = x := by
  unfold toInt32; omega

end CryptoService
