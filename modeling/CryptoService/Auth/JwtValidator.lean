import CryptoService.Auth.JwtBase64
import CryptoService.Keys.KeyTypes

/-!
# The JWT validator

`JWTValidator::validate` of `crypto/auth/jwt_validator.cpp` parses the token, then verifies its
signature, then checks its claims. `parseToken` splits the token at `.`, decodes the payload and
reads the claims out of its text by searching for each key: a string claim is cut out between
quotes, a time claim is read with `std::stoll` and made a time point with
`system_clock::from_time_t`. Nothing catches what these throw, so a token whose `exp` or `iat` is
not a number, or is out of the range of `long long`, escapes from `validate` as an exception, and
one whose time overflows the clock's nanoseconds is undefined (`Escape`). The searches are
`std::string::find` on `size_t` positions, `npos` included. OpenSSL's RS256 verification is
abstract (`digestVerify`).

* `stringClaim_ok`: a string claim never escapes, since its text starts inside the payload;
* `parseClaims_eq_error`, `parseToken_eq_error`, `validate_eq_error`: where each escapes;
* `verifySignature_of_valid`: a result that says valid comes after the signature was verified;
* `validate_escapes`: the two together.
-/

namespace CryptoService

/-! ## The standard library -/

/-- The exceptions of the standard library that the calls of `parseToken` throw. -/
inductive StdException
  | invalid_argument | out_of_range
  deriving DecidableEq, Repr

/-- How a call ends without returning: an exception escapes it, or its behaviour is undefined. -/
inductive Escape
  | thrown (e : StdException)
  | undefined
  deriving DecidableEq, Repr

/-- `std::string::npos`, the largest `size_t`. -/
def npos : UInt64 := 0xFFFFFFFFFFFFFFFF

/-- The first index from `i` on at which `pat` starts, in the text `s` that begins at index `i`. -/
def findFrom (pat : List Char) : List Char → ℕ → Option ℕ
  | [], i => if pat = [] then some i else none
  | c :: s, i => if pat.isPrefixOf (c :: s) then some i else findFrom pat s (i + 1)

/-- `s.find(pat, pos)`: `npos` where `pat` does not occur from `pos` on. -/
def find (s pat : List Char) (pos : UInt64) : UInt64 :=
  if s.length < pos.toNat then npos
  else match findFrom pat (s.drop pos.toNat) pos.toNat with
    | some i => UInt64.ofNat i
    | none => npos

/-- `s.find_first_of(chars, pos)`. -/
def findFirstOf (s chars : List Char) (pos : UInt64) : UInt64 :=
  match (s.drop pos.toNat).findIdx? (chars.contains ·) with
  | some i => UInt64.ofNat (pos.toNat + i)
  | none => npos

/-- `s.substr(pos, count)`: `out_of_range` from a position past the end. -/
def substr (s : List Char) (pos count : UInt64) : Except Escape (List Char) :=
  if s.length < pos.toNat then throw (.thrown .out_of_range)
  else pure ((s.drop pos.toNat).take count.toNat)

/-- `std::stoll(s)`, as `strtoll` in base 10: leading white space is skipped, then an optional
sign and the longest run of digits, of which there must be one (else `invalid_argument`); a
value outside `long long` is `out_of_range`. -/
def stoll (s : List Char) : Except Escape ℤ :=
  let (neg, u) := readSign (s.dropWhile isSpace)
  let ds := u.takeWhile Char.isDigit
  if ds = [] then throw (.thrown .invalid_argument)
  else
    let v : ℤ := if neg then -(decimalValue ds : ℤ) else decimalValue ds
    if v < -2 ^ 63 ∨ 2 ^ 63 ≤ v then throw (.thrown .out_of_range) else pure v

/-- `system_clock::from_time_t(t)`: the seconds made nanoseconds in a `long`, where an overflow
is undefined. -/
def fromTimeT (t : ℤ) : Except Escape ℤ :=
  if t * ticksPerSecond < -2 ^ 63 ∨ 2 ^ 63 ≤ t * ticksPerSecond then throw .undefined
  else pure (t * ticksPerSecond)

theorem findFrom_lt {pat : List Char} (hpat : pat ≠ []) {t : List Char} {i j : ℕ}
    (h : findFrom pat t i = some j) : j < i + t.length := by
  induction t generalizing i with
  | nil => simp [findFrom, hpat] at h
  | cons c t ih =>
    rw [findFrom] at h
    split at h
    · cases h; simp
    · have := ih h; simp only [List.length_cons]; omega

/-- A found pattern starts inside the text. -/
theorem find_toNat_lt {s pat : List Char} (hpat : pat ≠ []) {pos : UInt64}
    (h : find s pat pos ≠ npos) : (find s pat pos).toNat < s.length := by
  rw [find] at h ⊢
  by_cases h₁ : s.length < pos.toNat
  · rw [if_pos h₁] at h; exact absurd rfl h
  rw [if_neg h₁] at h ⊢
  cases hi : findFrom pat (s.drop pos.toNat) pos.toNat with
  | none => rw [hi] at h; exact absurd rfl h
  | some i =>
    have := findFrom_lt hpat hi
    simp only [List.length_drop] at this
    show i % 2 ^ 64 < s.length
    omega

/-- One past a found character, or `npos + 1 = 0`, is a position of the text. -/
theorem find_add_one_toNat_le (s : List Char) (c : Char) (pos : UInt64) :
    (find s [c] pos + 1).toNat ≤ s.length := by
  by_cases h : find s [c] pos = npos
  · rw [h]; exact Nat.zero_le _
  · have hlt := find_toNat_lt (List.cons_ne_nil c []) h
    have hne : (find s [c] pos).toNat ≠ 2 ^ 64 - 1 := fun he => h (UInt64.toNat.inj he)
    have := (find s [c] pos).toNat_lt_size
    simp only [UInt64.size] at this
    show ((find s [c] pos).toNat + 1) % 2 ^ 64 ≤ s.length
    omega

theorem substr_of_le {s : List Char} {pos : UInt64} (h : pos.toNat ≤ s.length) (count : UInt64) :
    substr s pos count = .ok ((s.drop pos.toNat).take count.toNat) := by
  rw [substr, if_neg (by omega)]; rfl

/-! ## `parseToken` -/

/-- `crypto::JWTClaims`, with the fields `parseToken` sets and `RBACEngine::canAccessKey` reads
(`parseToken` leaves `roles` empty); the clock readings are nanoseconds since the epoch, which a
default `time_point` holds. -/
structure JWTClaims where
  subject : List Char := []
  issuer : List Char := []
  roles : List (List Char) := []
  service_name : List Char := []
  issued_at : ℤ := 0
  expires_at : ℤ := 0
  deriving DecidableEq, Repr

/-- A string claim of `parseToken`: where the payload holds `key`, the text between the first
two `"` from `offset` characters past it. -/
def stringClaim (payload key : List Char) (offset : UInt64) : Except Escape (Option (List Char)) :=
  let pos := find payload key 0
  if pos = npos then pure none
  else
    let start := find payload ['"'] (pos + offset) + 1
    let end_ := find payload ['"'] start
    some <$> substr payload start (end_ - start)

/-- A time claim of `parseToken`: where the payload holds `key`, `std::stoll` of the text from
the `:` after it to the next `,` or closing brace, made a time point. -/
def timeClaim (payload key : List Char) : Except Escape (Option ℤ) :=
  let pos := find payload key 0
  if pos = npos then pure none
  else do
    let start := find payload [':'] pos + 1
    let end_ := findFirstOf payload [',', '\x7d'] start
    let v ← stoll (← substr payload start (end_ - start))
    some <$> fromTimeT v

/-- The claims `parseToken` reads out of the payload's text, in the order of the code. -/
def parseClaims (payload : List Char) : Except Escape (Result JWTClaims) := do
  let subject ← stringClaim payload "\"sub\"".toList 5
  let issuer ← stringClaim payload "\"iss\"".toList 5
  let expires_at ← timeClaim payload "\"exp\"".toList
  let issued_at ← timeClaim payload "\"iat\"".toList
  let service_name ← stringClaim payload "\"service\"".toList 9
  pure (.ok ⟨subject.getD [], issuer.getD [], [], service_name.getD [], issued_at.getD 0,
    expires_at.getD 0⟩)

/-- A string claim never escapes: its text starts inside the payload. -/
theorem stringClaim_ok (payload key : List Char) (offset : UInt64) :
    ∃ r, stringClaim payload key offset = .ok r := by
  simp only [stringClaim]
  split
  · exact ⟨_, rfl⟩
  · rw [substr_of_le (find_add_one_toNat_le _ _ _)]
    exact ⟨_, rfl⟩

theorem bind_eq_error {ε α β : Type} {x : Except ε α} {f : α → Except ε β} {e : ε} :
    x >>= f = .error e ↔ x = .error e ∨ ∃ a, x = .ok a ∧ f a = .error e := by
  cases x <;> simp [bind, Except.bind]

/-- **Only the time claims escape.** Reading the claims escapes exactly where `exp` does, or
where `exp` is read and `iat` escapes. -/
theorem parseClaims_eq_error (payload : List Char) (e : Escape) :
    parseClaims payload = .error e ↔ timeClaim payload "\"exp\"".toList = .error e ∨
      (∃ t, timeClaim payload "\"exp\"".toList = .ok t) ∧
        timeClaim payload "\"iat\"".toList = .error e := by
  obtain ⟨s₁, h₁⟩ := stringClaim_ok payload "\"sub\"".toList 5
  obtain ⟨s₂, h₂⟩ := stringClaim_ok payload "\"iss\"".toList 5
  obtain ⟨s₃, h₃⟩ := stringClaim_ok payload "\"service\"".toList 9
  simp only [parseClaims, h₁, h₂, h₃, ok_bind]
  cases timeClaim payload "\"exp\"".toList <;> cases timeClaim payload "\"iat\"".toList <;>
    simp [bind, Except.bind, pure, Except.pure]

/-- The text of a decoded payload: `std::string(payload_bytes.begin(), payload_bytes.end())`. -/
def payloadText (payload_bytes : Bytes) : List Char := payload_bytes.map fun b => Char.ofNat b.toNat

/-- `JWTValidator::parseToken`. -/
def parseToken (token : List Char) : Except Escape (Result JWTClaims) :=
  match getlineFields '.' [] token with
  | [_, payload, _] =>
    let payload_bytes := base64UrlDecode payload
    if payload_bytes = [] then pure (err .INVALID_INPUT "Invalid payload encoding".toList)
    else parseClaims (payloadText payload_bytes)
  | _ => pure (err .INVALID_INPUT "Invalid JWT format".toList)

/-- `parseToken` escapes exactly where the token has three parts, the payload decodes to some
bytes, and reading the claims out of them escapes. -/
theorem parseToken_eq_error (token : List Char) (e : Escape) :
    parseToken token = .error e ↔ ∃ header payload signature,
      getlineFields '.' [] token = [header, payload, signature] ∧ base64UrlDecode payload ≠ [] ∧
        parseClaims (payloadText (base64UrlDecode payload)) = .error e := by
  unfold parseToken
  split
  · rename_i header payload signature hs
    rw [hs]
    dsimp only
    constructor
    · intro h
      split at h
      · cases h
      · exact ⟨_, _, _, rfl, ‹_›, h⟩
    · rintro ⟨_, _, _, he, hne, hc⟩
      obtain ⟨rfl, rfl, rfl⟩ : _ ∧ _ ∧ _ := by simpa using he
      rw [if_neg hne]
      exact hc
  · rename_i hs
    simp only [pure, Except.pure, reduceCtorEq, false_iff, not_exists, not_and]
    exact fun h p s he => absurd he (hs h p s)

/-! ## `validate` -/

/-- `crypto::JWTValidatorConfig`, with the fields `validateClaims` reads; `clock_skew` in seconds. -/
structure JWTValidatorConfig where
  expected_issuer : List Char := []
  clock_skew : ℤ := 60
  require_exp : Bool := true
  require_iat : Bool := true
  deriving DecidableEq, Repr

/-- `crypto::JWTValidationResult`. -/
structure JWTValidationResult where
  valid : Bool
  claims : Option JWTClaims
  error : Option (List Char)
  deriving DecidableEq, Repr

/-- `crypto::JWTValidator`: its configuration and the PEM text of its public key. -/
structure JWTValidator where
  config_ : JWTValidatorConfig
  public_key_ : List Char
  deriving DecidableEq, Repr

namespace JWTValidator

/- What the OpenSSL calls of `verifySignature` decide, from the key's PEM text, the signed data
and the signature: that the key is read and the RS256 signature verifies. -/
variable (digestVerify : List Char → List Char → Bytes → Bool)

/-- `JWTValidator::verifySignature`. -/
def verifySignature (v : JWTValidator) (token : List Char) : Bool :=
  if v.public_key_.isEmpty then false
  else match getlineFields '.' [] token with
    | [header, payload, signature] =>
      digestVerify v.public_key_ (header ++ '.' :: payload) (base64UrlDecode signature)
    | _ => false

/-- `JWTValidator::validateClaims` at clock reading `now`. -/
def validateClaims (v : JWTValidator) (now : ℤ) (claims : JWTClaims) : Bool :=
  if v.config_.require_exp ∧ claims.expires_at < now - v.config_.clock_skew * ticksPerSecond then
    false
  else if v.config_.require_iat ∧ claims.issued_at > now + v.config_.clock_skew * ticksPerSecond then
    false
  else if v.config_.expected_issuer ≠ [] ∧ claims.issuer ≠ v.config_.expected_issuer then false
  else true

/-- `JWTValidator::validate` at clock reading `now`. -/
def validate (v : JWTValidator) (now : ℤ) (token : List Char) : Except Escape JWTValidationResult := do
  match ← parseToken token with
  | .error e => pure ⟨false, none, some e.message⟩
  | .ok claims =>
    if !v.verifySignature digestVerify token then pure ⟨false, none, some "Invalid signature".toList⟩
    else if !v.validateClaims now claims then pure ⟨false, none, some "Invalid claims".toList⟩
    else pure ⟨true, some claims, none⟩

/-- `validate` escapes exactly where `parseToken` does: nothing after it throws. -/
theorem validate_eq_error (v : JWTValidator) (now : ℤ) (token : List Char) (e : Escape) :
    v.validate digestVerify now token = .error e ↔ parseToken token = .error e := by
  unfold validate
  cases parseToken token with
  | error e' => simp only [bind, Except.bind, Except.error.injEq]
  | ok r =>
    simp only [bind, Except.bind, reduceCtorEq, iff_false]
    cases r with
    | error e' => simp [pure, Except.pure]
    | ok claims =>
      simp only [pure, Except.pure]
      repeat' split
      all_goals simp only [reduceCtorEq, not_false_eq_true]

/-- `validate` says a token is valid only after its signature has been verified. -/
theorem verifySignature_of_valid {v : JWTValidator} {now : ℤ} {token : List Char}
    {r : JWTValidationResult} (h : v.validate digestVerify now token = .ok r)
    (hr : r.valid = true) : v.verifySignature digestVerify token = true := by
  unfold validate at h
  cases hp : parseToken token with
  | error e' => simp [hp, bind, Except.bind] at h
  | ok r =>
    simp only [hp, bind, Except.bind, pure, Except.pure] at h
    cases r with
    | error e' => cases h; cases hr
    | ok claims =>
      cases hv : v.verifySignature digestVerify token
      · simp only [hv, Bool.not_false, if_true, Except.ok.injEq] at h
        rw [← h] at hr
        cases hr
      · rfl

/-- **`validate` is signature-gated, but the time claims throw through it.** For every
validator, clock reading and token: a result that says valid comes after the signature was
verified; and `validate` escapes, by an exception or undefined behaviour, exactly where the
token has three parts, its payload decodes to some bytes, and reading the payload's `exp`
escapes, or `exp` is read and `iat` escapes. -/
theorem validate_escapes (v : JWTValidator) (now : ℤ) (token : List Char) :
    (∀ r, v.validate digestVerify now token = .ok r → r.valid = true →
      v.verifySignature digestVerify token = true) ∧
    ∀ e, v.validate digestVerify now token = .error e ↔ ∃ header payload signature,
      getlineFields '.' [] token = [header, payload, signature] ∧ base64UrlDecode payload ≠ [] ∧
        (timeClaim (payloadText (base64UrlDecode payload)) "\"exp\"".toList = .error e ∨
          (∃ t, timeClaim (payloadText (base64UrlDecode payload)) "\"exp\"".toList = .ok t) ∧
            timeClaim (payloadText (base64UrlDecode payload)) "\"iat\"".toList = .error e) := by
  refine ⟨fun r h hr => verifySignature_of_valid digestVerify h hr, fun e => ?_⟩
  rw [validate_eq_error, parseToken_eq_error]
  simp only [parseClaims_eq_error]

/-- A token whose payload is `{"exp":x}`: `std::stoll` throws `std::invalid_argument` out of
`validate`, whatever the key and the signature. -/
theorem validate_escapes_exp_x :
    (JWTValidator.mk {} "k".toList).validate (fun _ _ _ => true) 0 "a.eyJleHAiOnh9.b".toList =
      .error (.thrown .invalid_argument) :=
  ((validate_escapes _ _ _ _).2 _).2 ⟨"a".toList, "eyJleHAiOnh9".toList, "b".toList, by decide,
    by decide, .inl (by decide)⟩

end JWTValidator

end CryptoService
