import Mathlib.Data.Nat.Digits

/-!
# Results, errors and byte strings

`Result<T>` of `crypto/common/result.h` is `std::expected<T, Error>`; here it is
`Except Error T`. An `Error` carries its code and its message: the correlation id stays empty
on every path of the core, so it is left out.

Byte strings (`std::vector<uint8_t>`, `std::span<const uint8_t>`) are lists of bytes and a
`std::string` is a list of characters, so that lengths, appends and splits are the list ones.
A buffer that `RAND_bytes` fills has its length in its type (`Fixed n`).
-/

namespace CryptoService

/-- `std::vector<uint8_t>`. -/
abbrev Bytes := List UInt8

/-- A byte string of `n` bytes: what `RAND_bytes` writes into a buffer of that size. -/
abbrev Fixed (n : ℕ) := {b : Bytes // b.length = n}

/-- `crypto::ErrorCode`. -/
inductive ErrorCode
  | OK
  | UNKNOWN_ERROR | INVALID_INPUT | INTERNAL_ERROR
  | CRYPTO_ERROR | INVALID_KEY_SIZE | INVALID_IV_SIZE | INVALID_TAG_SIZE | INTEGRITY_ERROR
  | PADDING_ERROR | KEY_GENERATION_FAILED | INVALID_KEY_TYPE | SIZE_LIMIT_EXCEEDED
  | SIGNATURE_INVALID | ENCRYPTION_FAILED | DECRYPTION_FAILED
  | KEY_NOT_FOUND | KEY_DEPRECATED | KEY_ROTATION_FAILED | KEY_EXPIRED | KEY_INVALID_STATE
  | AUTHENTICATION_FAILED | AUTHORIZATION_FAILED | PERMISSION_DENIED
  | SERVICE_UNAVAILABLE | TIMEOUT | NOT_FOUND | KMS_UNAVAILABLE
  | CACHE_MISS | CACHE_ERROR | CACHE_UNAVAILABLE
  | LOGGING_ERROR | LOGGING_UNAVAILABLE
  | CONFIG_ERROR | CONFIG_MISSING | CONFIG_INVALID
  | AUDIT_LOG_FAILED
  deriving DecidableEq, Repr

/-- `crypto::Error`, without its correlation id. -/
structure Error where
  code : ErrorCode
  message : List Char
  deriving DecidableEq, Repr

/-- `crypto::Result<T>`. -/
abbrev Result (α : Type) := Except Error α

instance decidableEqExcept {ε α : Type} [DecidableEq ε] [DecidableEq α] :
    DecidableEq (Except ε α)
  | .error a, .error b => decidable_of_iff (a = b) (by simp)
  | .ok a, .ok b => decidable_of_iff (a = b) (by simp)
  | .error _, .ok _ => isFalse (by simp)
  | .ok _, .error _ => isFalse (by simp)

/-- `Err<T>(code, message)`. -/
def err {α : Type} (code : ErrorCode) (message : List Char) : Result α :=
  .error ⟨code, message⟩

/-- The code of a failed result. -/
def Result.code? {α : Type} : Result α → Option ErrorCode
  | .error e => some e.code
  | .ok _ => none

@[simp] theorem bind_eq_ok {ε α β : Type} {x : Except ε α} {f : α → Except ε β} {b : β} :
    x >>= f = .ok b ↔ ∃ a, x = .ok a ∧ f a = .ok b := by
  cases x <;> simp [bind, Except.bind]

@[simp] theorem exists_unit {p : Unit → Prop} : (∃ u, p u) ↔ p () :=
  ⟨fun ⟨(), h⟩ => h, fun h => ⟨(), h⟩⟩

@[simp] theorem map_eq_ok {ε α β : Type} {x : Except ε α} {f : α → β} {b : β} :
    f <$> x = .ok b ↔ ∃ a, x = .ok a ∧ f a = b := by
  cases x <;> simp [Functor.map, Except.map]

@[simp] theorem ok_bind {ε α β : Type} (a : α) (f : α → Except ε β) :
    (Except.ok a : Except ε α) >>= f = f a := rfl

@[simp] theorem some_bind_eq {α β : Type} (a : α) (f : α → Option β) : (some a >>= f) = f a :=
  rfl

@[simp] theorem err_bind {α β : Type} (c : ErrorCode) (m : List Char) (f : α → Result β) :
    err c m >>= f = err c m := rfl

@[simp] theorem pure_eq_ok {ε α : Type} {a b : α} : (pure a : Except ε α) = .ok b ↔ a = b := by
  simp [pure, Except.pure]

@[simp] theorem err_ne_ok {α : Type} {c : ErrorCode} {m : List Char} {a : α} :
    err c m ≠ .ok a := by simp [err]

@[simp] theorem code?_err {α : Type} (c : ErrorCode) (m : List Char) :
    (err c m : Result α).code? = some c := rfl

end CryptoService
