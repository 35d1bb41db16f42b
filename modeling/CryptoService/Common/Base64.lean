import CryptoService.Common.Result

/-!
# Base64 and base64url, as RFC 4648 defines them

The reference encodings the service's codecs are held to: every three bytes become four
characters, each standing for six bits, most significant first; a last group of one or two
bytes becomes two or three characters, the unused low bits zero. The standard encoding (§4)
uses `+` and `/` and pads a last group with `=` to four characters; base64url (§5) uses `-` and
`_`, and JWT (RFC 7515) leaves the padding out.

* `length_encodeBase64_pad`: a padded encoding has `4 * ⌈n / 3⌉` characters;
* `length_encodeBase64`: an unpadded one has `⌈4 n / 3⌉`;
* `mem_encodeBase64`: its characters are digits of the alphabet or `=`.
-/

namespace CryptoService

/-- The alphabet of RFC 4648 §4. -/
def base64Alphabet : List Char :=
  "ABCDEFGHIJKLMNOPQRSTUVWXYZabcdefghijklmnopqrstuvwxyz0123456789+/".toList

/-- The alphabet of RFC 4648 §5. -/
def base64UrlAlphabet : List Char :=
  "ABCDEFGHIJKLMNOPQRSTUVWXYZabcdefghijklmnopqrstuvwxyz0123456789-_".toList

/-- The encoding of RFC 4648 with `alphabet`, padded with `=` when `pad`. -/
def encodeBase64 (alphabet : List Char) (pad : Bool) : Bytes → List Char
  | a :: b :: c :: rest =>
    [alphabet.getD (a.toNat / 4) '=', alphabet.getD (a.toNat % 4 * 16 + b.toNat / 16) '=',
      alphabet.getD (b.toNat % 16 * 4 + c.toNat / 64) '=', alphabet.getD (c.toNat % 64) '='] ++
      encodeBase64 alphabet pad rest
  | [a, b] =>
    [alphabet.getD (a.toNat / 4) '=', alphabet.getD (a.toNat % 4 * 16 + b.toNat / 16) '=',
      alphabet.getD (b.toNat % 16 * 4) '='] ++ if pad then ['='] else []
  | [a] =>
    [alphabet.getD (a.toNat / 4) '=', alphabet.getD (a.toNat % 4 * 16) '='] ++
      if pad then ['=', '='] else []
  | [] => []

theorem length_encodeBase64_pad (alphabet : List Char) (d : Bytes) :
    (encodeBase64 alphabet true d).length = 4 * ((d.length + 2) / 3) := by
  induction d using encodeBase64.induct alphabet true with
  | case1 a b c rest ih => simp only [encodeBase64, List.length_append, ih]; simp; omega
  | case2 a b | case3 a | case4 => simp [encodeBase64]

theorem length_encodeBase64 (alphabet : List Char) (d : Bytes) :
    (encodeBase64 alphabet false d).length = (4 * d.length + 2) / 3 := by
  induction d using encodeBase64.induct alphabet false with
  | case1 a b c rest ih => simp only [encodeBase64, List.length_append, ih]; simp; omega
  | case2 a b | case3 a | case4 => simp [encodeBase64]

/-- A map that fixes `=` takes an encoding to the encoding with the mapped alphabet. -/
theorem map_encodeBase64 {f : Char → Char} (hf : f '=' = '=') (alphabet : List Char) (pad : Bool)
    (d : Bytes) : (encodeBase64 alphabet pad d).map f = encodeBase64 (alphabet.map f) pad d := by
  have hg : ∀ o : Option Char, f (o.getD '=') = (o.map f).getD '=' := fun o => by
    cases o <;> simp [hf]
  induction d using encodeBase64.induct alphabet pad with
  | case1 a b c rest ih => simp [encodeBase64, ih, hg]
  | case2 a b | case3 a => cases pad <;> simp [encodeBase64, hg, hf]
  | case4 => rfl

/-- Every character of an encoding is a digit of the alphabet or `=`. -/
theorem mem_encodeBase64 {alphabet : List Char} {pad : Bool} {d : Bytes} {c : Char}
    (h : c ∈ encodeBase64 alphabet pad d) : c = '=' ∨ ∃ i < 64, c = alphabet.getD i '=' := by
  induction d using encodeBase64.induct alphabet pad with
  | case1 a b c' rest ih =>
    have ha := a.toNat_lt_size; have hb := b.toNat_lt_size; have hc := c'.toNat_lt_size
    simp only [encodeBase64, List.cons_append, List.nil_append, List.mem_cons] at h
    rcases h with rfl | rfl | rfl | rfl | h
    · exact .inr ⟨_, by simp only [UInt8.size] at ha; omega, rfl⟩
    · exact .inr ⟨_, by simp only [UInt8.size] at ha hb; omega, rfl⟩
    · exact .inr ⟨_, by simp only [UInt8.size] at hb hc; omega, rfl⟩
    · exact .inr ⟨_, by omega, rfl⟩
    · exact ih h
  | case2 a b =>
    have ha := a.toNat_lt_size; have hb := b.toNat_lt_size
    simp only [encodeBase64, List.cons_append, List.nil_append, List.mem_cons, List.mem_append] at h
    rcases h with rfl | rfl | rfl | h
    · exact .inr ⟨_, by simp only [UInt8.size] at ha; omega, rfl⟩
    · exact .inr ⟨_, by simp only [UInt8.size] at ha hb; omega, rfl⟩
    · exact .inr ⟨_, by simp only [UInt8.size] at hb; omega, rfl⟩
    · cases pad <;> simp_all
  | case3 a =>
    have ha := a.toNat_lt_size
    simp only [encodeBase64, List.cons_append, List.nil_append, List.mem_cons, List.mem_append] at h
    rcases h with rfl | rfl | h
    · exact .inr ⟨_, by simp only [UInt8.size] at ha; omega, rfl⟩
    · exact .inr ⟨_, by omega, rfl⟩
    · cases pad <;> simp_all
  | case4 => simp [encodeBase64] at h

end CryptoService
