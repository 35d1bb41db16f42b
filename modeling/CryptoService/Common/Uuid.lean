import CryptoService.Audit.JsonReader

/-!
# Parsing UUIDs

`UUID::parse` of `crypto/common/uuid.h` reads a UUID from a text of 36 characters. From the
start it skips each hyphen, and reads any other character with the next one as two hexadecimal
digits of either case, until it holds sixteen bytes. The hyphens may stand anywhere between the
pairs, and what follows the sixteenth byte is not read. The texts the service writes come from
`UUID::to_string` (`Common/Strings`).

`HexPairs` says which texts spell which bytes, the digits read as the JSON reader reads them
(`hexValue`).

* `UUID.parse_eq_some_iff`: a text parses exactly when it has 36 characters and begins with
  pairs that spell sixteen bytes; those bytes are the UUID;
* `UUID.parse_of_toString`: `parse` reads back every UUID that `to_string` writes.
-/

namespace CryptoService

namespace UUID

/-- `hex_to_int` of `UUID::parse`: the value of a hexadecimal digit, `-1` for any other
character. -/
def hexToInt (c : Char) : ℤ :=
  if c ≥ '0' ∧ c ≤ '9' then (c.toNat : ℤ) - '0'.toNat
  else if c ≥ 'a' ∧ c ≤ 'f' then (c.toNat : ℤ) - 'a'.toNat + 10
  else if c ≥ 'A' ∧ c ≤ 'F' then (c.toNat : ℤ) - 'A'.toNat + 10
  else -1

/-- The loop of `UUID::parse` over the text from position `i` on, with the bytes read so far:
a hyphen is skipped, and any other character starts a pair of hexadecimal digits. -/
def parseLoop : List Char → Bytes → Option Bytes
  | [], bytes => some bytes
  | c :: s, bytes =>
    if bytes.length < 16 then
      if c = '-' then parseLoop s bytes
      else match s with
        | [] => none
        | low :: rest =>
          let h := hexToInt c
          let l := hexToInt low
          if h < 0 ∨ l < 0 then none
          else parseLoop rest (bytes ++ [UInt8.ofNat ((h.toNat <<< 4) ||| l.toNat)])
    else some bytes

/-- `UUID::parse(str)`: the sixteen bytes, for a text of 36 characters. -/
def parse (str : List Char) : Option Bytes :=
  if str.length ≠ 36 then none
  else match parseLoop str [] with
    | some bytes => if bytes.length = 16 then some bytes else none
    | none => none

/-- Texts that spell the bytes `bs`: pairs of hexadecimal digits, of either case, with hyphens
anywhere between the pairs. -/
inductive HexPairs : List Char → Bytes → Prop
  | nil : HexPairs [] []
  | hyphen {s : List Char} {bs : Bytes} : HexPairs s bs → HexPairs ('-' :: s) bs
  | pair {h l : Char} {s : List Char} {bs : Bytes} {x y : ℕ} (hx : hexValue h = some x)
      (hy : hexValue l = some y) : HexPairs s bs →
      HexPairs (h :: l :: s) (UInt8.ofNat (16 * x + y) :: bs)

theorem le_val_iff {c : Char} {n : UInt32} : n ≤ c.val ↔ n.toNat ≤ c.toNat := Iff.rfl

theorem val_le_iff {c : Char} {n : UInt32} : c.val ≤ n ↔ c.toNat ≤ n.toNat := Iff.rfl

/-- The tests of `hexValue` and `hex_to_int` as bounds on the character's code. -/
theorem hexValue_eq (c : Char) :
    hexValue c =
      if 48 ≤ c.toNat ∧ c.toNat ≤ 57 then some (c.toNat - 48)
      else if 97 ≤ c.toNat ∧ c.toNat ≤ 102 then some (c.toNat - 97 + 10)
      else if 65 ≤ c.toNat ∧ c.toNat ≤ 70 then some (c.toNat - 65 + 10) else none := by
  simp [hexValue, Char.isDigit, Char.le_def, le_val_iff, val_le_iff, UInt32.size]

theorem hexToInt_eq_ite (c : Char) :
    hexToInt c =
      if 48 ≤ c.toNat ∧ c.toNat ≤ 57 then (c.toNat : ℤ) - 48
      else if 97 ≤ c.toNat ∧ c.toNat ≤ 102 then (c.toNat : ℤ) - 97 + 10
      else if 65 ≤ c.toNat ∧ c.toNat ≤ 70 then (c.toNat : ℤ) - 65 + 10 else -1 := by
  simp [hexToInt, Char.le_def, le_val_iff, val_le_iff, UInt32.size]

theorem hexValue_lt {c : Char} {x : ℕ} (h : hexValue c = some x) : x < 16 := by
  rw [hexValue_eq] at h
  split_ifs at h <;> cases h <;> omega

/-- `hex_to_int` is the value of a hexadecimal digit, as the JSON reader reads one. -/
theorem hexToInt_eq (c : Char) :
    hexToInt c = ((hexValue c).map fun x : ℕ => (x : ℤ)).getD (-1) := by
  rw [hexValue_eq, hexToInt_eq_ite]
  split_ifs <;> simp <;> omega

/-! ## The loop -/

theorem shiftLeft_or_of_lt {x y : ℕ} (hx : x < 16) (hy : y < 16) :
    (x <<< 4) ||| y = 16 * x + y := by
  have h : ∀ x < 16, ∀ y < 16, (x <<< 4) ||| y = 16 * x + y := by decide
  exact h x hx y hy

theorem parseLoop_of_full {bytes : Bytes} (hb : 16 ≤ bytes.length) (s : List Char) :
    parseLoop s bytes = some bytes := by
  cases s with
  | nil => rfl
  | cons c s => rw [parseLoop.eq_def]; exact if_neg (by omega)

theorem parseLoop_hyphen {bytes : Bytes} (hb : bytes.length < 16) (s : List Char) :
    parseLoop ('-' :: s) bytes = parseLoop s bytes := by
  rw [parseLoop.eq_def]; dsimp only; rw [if_pos hb, if_pos rfl]

/-- Two characters that do not start with a hyphen are read as a pair of digits. -/
theorem parseLoop_digits {c low : Char} (hc : c ≠ '-') {bytes : Bytes} (hb : bytes.length < 16)
    (s : List Char) :
    parseLoop (c :: low :: s) bytes =
      match hexValue c, hexValue low with
      | some x, some y => parseLoop s (bytes ++ [UInt8.ofNat (16 * x + y)])
      | _, _ => none := by
  rw [parseLoop.eq_def]
  dsimp only
  rw [if_pos hb, if_neg hc, hexToInt_eq, hexToInt_eq]
  cases hx : hexValue c with
  | none => simp
  | some x =>
    cases hy : hexValue low with
    | none => simp
    | some y =>
      simp only [Option.map_some', Option.getD_some, Int.toNat_ofNat]
      rw [if_neg (by omega), shiftLeft_or_of_lt (hexValue_lt hx) (hexValue_lt hy)]

/-- The loop reads the bytes a text spells, and stops after the sixteenth. -/
theorem parseLoop_hexPairs {pre : List Char} {bs : Bytes} (h : HexPairs pre bs)
    (rest : List Char) {acc : Bytes} (hl : acc.length + bs.length = 16) :
    parseLoop (pre ++ rest) acc = some (acc ++ bs) := by
  induction h generalizing acc with
  | nil => rw [List.nil_append, List.append_nil, parseLoop_of_full (by simpa using hl.ge)]
  | @hyphen s bs _ ih =>
    by_cases hb : acc.length < 16
    · rw [List.cons_append, parseLoop_hyphen hb]; exact ih hl
    · obtain rfl : bs = [] := List.eq_nil_of_length_eq_zero (by omega)
      rw [parseLoop_of_full (by omega), List.append_nil]
  | @pair h l s bs x y hx hy _ ih =>
    have hc : h ≠ '-' := by rintro rfl; cases hx
    simp only [List.length_cons] at hl
    rw [List.cons_append, List.cons_append, parseLoop_digits hc (by omega), hx, hy]
    dsimp only
    rw [ih (by simp only [List.length_append, List.length_singleton]; omega)]
    simp

/-- What the loop returns is read from the text it was given. -/
theorem parseLoop_eq_some : ∀ {s : List Char} {acc u : Bytes}, parseLoop s acc = some u →
    ∃ pre rest bs, s = pre ++ rest ∧ HexPairs pre bs ∧ u = acc ++ bs ∧
      (16 ≤ u.length ∨ rest = [])
  | [], acc, u, h => by
    cases h
    exact ⟨[], [], [], rfl, .nil, by simp, .inr rfl⟩
  | c :: s, acc, u, h => by
    by_cases hb : acc.length < 16
    · by_cases hc : c = '-'
      · subst hc
        rw [parseLoop_hyphen hb] at h
        obtain ⟨pre, rest, bs, rfl, hp, rfl, hr⟩ := parseLoop_eq_some h
        exact ⟨'-' :: pre, rest, bs, rfl, .hyphen hp, rfl, hr⟩
      · cases s with
        | nil => rw [parseLoop.eq_def] at h; dsimp only at h; rw [if_pos hb, if_neg hc] at h; cases h
        | cons low s =>
          rw [parseLoop_digits hc hb] at h
          cases hx : hexValue c with
          | none => rw [hx] at h; cases h
          | some x =>
            cases hy : hexValue low with
            | none => rw [hx, hy] at h; cases h
            | some y =>
              rw [hx, hy] at h
              obtain ⟨pre, rest, bs, rfl, hp, rfl, hr⟩ := parseLoop_eq_some h
              exact ⟨c :: low :: pre, rest, _ :: bs, rfl, .pair hx hy hp, by simp, hr⟩
    · rw [parseLoop_of_full (by omega)] at h
      cases h
      exact ⟨[], c :: s, [], rfl, .nil, by simp, .inl (by omega)⟩

/-! ## `UUID::parse` -/

/-- **What `UUID::parse` accepts.** A text parses exactly when it has 36 characters and begins
with pairs of hexadecimal digits, of either case and with hyphens anywhere between them, that
spell sixteen bytes; those bytes are the UUID, and what follows them is not read. -/
theorem parse_eq_some_iff {str : List Char} {u : Bytes} :
    parse str = some u ↔
      str.length = 36 ∧ u.length = 16 ∧ ∃ pre rest, str = pre ++ rest ∧ HexPairs pre u := by
  constructor
  · intro h
    unfold parse at h
    split_ifs at h with hl
    split at h
    · rename_i bytes hp
      split_ifs at h with h16
      cases h
      obtain ⟨pre, rest, bs, hs, hpre, hu, -⟩ := parseLoop_eq_some hp
      rw [List.nil_append] at hu
      subst hu
      exact ⟨not_not.1 hl, h16, pre, rest, hs, hpre⟩
    · cases h
  · rintro ⟨hl, hu, pre, rest, rfl, hp⟩
    rw [parse, if_neg (not_not.2 hl), parseLoop_hexPairs hp rest (by simpa using hu),
      List.nil_append]
    simp [hu]

example : parse "00112233445566778899aabbccddeeffXXXX".toList =
    some [0x00, 0x11, 0x22, 0x33, 0x44, 0x55, 0x66, 0x77, 0x88, 0x99, 0xaa, 0xbb, 0xcc, 0xdd,
      0xee, 0xff] := by
  rfl

/-! ## Reading back `to_string` -/

theorem hexPairs_hexByte (b : UInt8) {s : List Char} {bs : Bytes} (h : HexPairs s bs) :
    HexPairs (hexByte b ++ s) (b :: bs) := by
  have hb : b.toNat < 256 := b.toNat_lt_size
  have hp := HexPairs.pair (hexValue_digitChar (by omega : b.toNat / 16 < 16))
    (hexValue_digitChar (Nat.mod_lt b.toNat (by norm_num))) h
  rwa [Nat.div_add_mod, UInt8.toNat.inj (UInt8.toNat_ofNat_of_lt b.toNat_lt_size)] at hp

theorem hexPairs_flatMap (u : Bytes) (l : List ℕ) :
    HexPairs (l.flatMap fun i =>
        (if i = 4 ∨ i = 6 ∨ i = 8 ∨ i = 10 then ['-'] else []) ++ hexByte (u.getD i 0))
      (l.map (u.getD · 0)) := by
  induction l with
  | nil => exact .nil
  | cons i l ih =>
    rw [List.flatMap_cons, List.map_cons, List.append_assoc]
    split
    · exact .hyphen (hexPairs_hexByte _ ih)
    · exact hexPairs_hexByte _ ih

theorem map_getD_range {u : Bytes} {n : ℕ} (h : u.length = n) :
    (List.range n).map (u.getD · 0) = u := by
  subst h
  apply List.ext_getElem (by simp)
  intro i h₁ h₂
  simp [List.getD_eq_getElem?_getD, h₂]

theorem length_toString (u : Bytes) : (toString u).length = 36 := by
  simp only [toString, List.length_flatMap, Function.comp_def, List.length_append, hexByte,
    List.length_cons, List.length_nil]
  decide

/-- **`UUID::parse` reads back `to_string`.** -/
theorem parse_of_toString (u : Fixed 16) : parse (toString u.1) = some u.1 := by
  have hp := hexPairs_flatMap u.1 (List.range 16)
  rw [map_getD_range u.2] at hp
  have h := parseLoop_hexPairs hp [] (by simp [u.2] : ([] : Bytes).length + u.1.length = 16)
  rw [List.append_nil, List.nil_append] at h
  rw [parse, if_neg (by rw [length_toString]; decide), toString, h]
  simp [u.2]

end UUID

end CryptoService
