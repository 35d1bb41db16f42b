import CryptoService.Auth.JwtValidator
import CryptoService.Clients.LoggingClient
import CryptoService.Clients.CacheClient

/-!
# Configuration loading

`ConfigLoader` of `crypto/config/config_loader.cpp` reads the service's configuration from the
process environment (`loadFromEnvironment`), each setting from its variable or a default text,
numbers through `std::stoi` and `std::stoul`, then checks it (`validate`). `loadFromFile` first
copies a `KEY=VALUE` file into the environment with `setenv`, one line at a time, and then
loads from the environment. Nothing catches what `std::stoi` and `std::stoul` throw, so a
number text they refuse escapes from both loaders (`Escape`); `std::isspace` of a byte from
`0x80`, a negative `char`, is undefined. The source names `ErrorCode::CONFIGURATION_ERROR`,
which `result.h` does not declare; the model uses `CONFIG_ERROR`.

* `loadFromFile_renderFile`: a file written line by line from comments, lines without `=` and
  assignments sets every assigned name to the value it is assigned last, leaves every other
  variable as it was, and then loads from that environment;
* `loadFromFile_crlf`: written with CRLF line ends, every value keeps the carriage return, so a
  file that sets the KMS provider never loads and one that sets a fallback flag turns that
  fallback off whatever it says;
* `loadFromEnvironment_ports`: a port is its text's value modulo `2 ^ 16`, and a text past
  `INT_MAX` escapes as the `out_of_range` that `std::stoi` throws.
-/

namespace CryptoService

/-! ## The process environment -/

/-- The process environment as `std::getenv` reads it: the value of each name that is set. -/
abbrev Environ := List Char → Option (List Char)

/-- `s.c_str()` as a C function reads it: the characters before the first NUL. -/
def cStr (s : List Char) : List Char := s.takeWhile (· ≠ Char.ofNat 0)

/-- POSIX `setenv(name, value, 1)`: an empty name or one with `=` is refused (`EINVAL`) and
leaves the environment as it is; any other name is set to the value. -/
def setenv (env : Environ) (name value : List Char) : Environ :=
  if name = [] ∨ '=' ∈ name then env else fun n => if n = name then some value else env n

/-- `std::isspace(c)` of a `char`: a `char` from `0x80` on is negative, and `isspace` of a
negative value other than `EOF` is undefined (`none`). -/
def isspaceChar (c : Char) : Option Bool := if c.toNat < 0x80 then some (isSpace c) else none

/-- `while (!s.empty() && std::isspace(s.front())) s.erase(0, 1);`. -/
def dropSpaces : List Char → Option (List Char)
  | [] => some []
  | c :: s => (isspaceChar c).bind fun space => if space then dropSpaces s else some (c :: s)

/-! ## Numbers -/

/-- `std::stoi(s)`: `strtol` in base 10 over a 64-bit `long`, read as `std::stoll` reads, then
`out_of_range` for a value outside `int`. -/
def stoi (s : List Char) : Except Escape ℤ := do
  let v ← stoll s
  if v < -2 ^ 31 ∨ 2 ^ 31 ≤ v then throw (.thrown .out_of_range) else pure v

/-- `std::stoul(s)` with its exceptions: the value `stoul` reads, else `invalid_argument` where
there is no digit and `out_of_range` where the value is past `ULONG_MAX`. -/
def stoulOrThrow (s : List Char) : Except Escape ℕ :=
  match stoul s with
  | some n => pure n
  | none => throw (.thrown
      (if (readSign (s.dropWhile isSpace)).2.takeWhile Char.isDigit = [] then .invalid_argument
      else .out_of_range))

/-- `static_cast<uint16_t>(v)` of an `int`: the value modulo `2 ^ 16`. -/
def toUInt16 (v : ℤ) : UInt16 := UInt16.ofNat (v % 2 ^ 16).toNat

/-! ## The configuration -/

/-- `CryptoServiceConfig::Server`, with its defaults. -/
structure CryptoServiceConfig.Server where
  grpc_port : UInt16 := 50051
  rest_port : UInt16 := 8080
  tls_cert_path : List Char := []
  tls_key_path : List Char := []
  tls_ca_path : List Char := []
  thread_pool_size : ℕ := 4

/-- `CryptoServiceConfig::Keys`, with its defaults; the cache TTL in seconds. -/
structure CryptoServiceConfig.Keys where
  kms_provider : List Char := "local".toList
  hsm_slot_id : List Char := []
  aws_kms_key_arn : List Char := []
  aws_region : List Char := []
  azure_kv_url : List Char := []
  local_key_path : List Char := "/var/lib/crypto-service/keys".toList
  key_cache_ttl : ℤ := 300
  key_cache_max_size : ℕ := 1000

/-- `CryptoServiceConfig::Performance`, which nothing loads: its defaults. -/
structure CryptoServiceConfig.Performance where
  file_chunk_size : ℕ := 65536
  max_file_size : ℕ := 10737418240
  connection_pool_size : ℕ := 10

/-- `CryptoServiceConfig::JWT`. -/
structure CryptoServiceConfig.JWT where
  public_key_path : List Char := []
  jwks_url : List Char := []
  expected_issuer : List Char := []
  expected_audience : List Char := []

/-- `LoggingClientConfig` of `logging_client.h` as the loader writes it: the fields the client
reads, and the address, service id and flush interval (milliseconds) that only the loader
writes and `validate` reads. -/
structure LoggingClientSettings extends LoggingClientConfig where
  address : List Char := "localhost:5001".toList
  service_id : List Char := "crypto-service".toList
  flush_interval : ℤ := 5000

/-- `CacheClientConfig` of `cache_client.h` as the loader writes it: the fields the client reads,
and the address and default TTL (seconds) that only the loader writes and `validate` reads. -/
structure CacheClientSettings extends CacheClientConfig where
  address : List Char := "localhost:50051".toList
  default_ttl : ℤ := 300

/-- `crypto::CryptoServiceConfig`. -/
structure CryptoServiceConfig where
  server : CryptoServiceConfig.Server := {}
  keys : CryptoServiceConfig.Keys := {}
  logging_client : LoggingClientSettings := {}
  cache_client : CacheClientSettings := {}
  performance : CryptoServiceConfig.Performance := {}
  jwt : CryptoServiceConfig.JWT := {}

/-! ### The variable names of `EnvVars` -/

namespace EnvVars

def GRPC_PORT : List Char := "CRYPTO_GRPC_PORT".toList
def REST_PORT : List Char := "CRYPTO_REST_PORT".toList
def TLS_CERT_PATH : List Char := "CRYPTO_TLS_CERT_PATH".toList
def TLS_KEY_PATH : List Char := "CRYPTO_TLS_KEY_PATH".toList
def TLS_CA_PATH : List Char := "CRYPTO_TLS_CA_PATH".toList
def THREAD_POOL_SIZE : List Char := "CRYPTO_THREAD_POOL_SIZE".toList
def KMS_PROVIDER : List Char := "CRYPTO_KMS_PROVIDER".toList
def HSM_SLOT_ID : List Char := "CRYPTO_HSM_SLOT_ID".toList
def AWS_KMS_KEY_ARN : List Char := "CRYPTO_AWS_KMS_KEY_ARN".toList
def AWS_REGION : List Char := "AWS_REGION".toList
def AZURE_KV_URL : List Char := "CRYPTO_AZURE_KV_URL".toList
def LOCAL_KEY_PATH : List Char := "CRYPTO_LOCAL_KEY_PATH".toList
def KEY_CACHE_TTL : List Char := "CRYPTO_KEY_CACHE_TTL".toList
def KEY_CACHE_MAX_SIZE : List Char := "CRYPTO_KEY_CACHE_MAX_SIZE".toList
def LOGGING_SERVICE_ADDRESS : List Char := "LOGGING_SERVICE_ADDRESS".toList
def LOGGING_BATCH_SIZE : List Char := "LOGGING_BATCH_SIZE".toList
def LOGGING_FLUSH_INTERVAL_MS : List Char := "LOGGING_FLUSH_INTERVAL_MS".toList
def LOGGING_MIN_LEVEL : List Char := "LOGGING_MIN_LEVEL".toList
def LOGGING_FALLBACK_ENABLED : List Char := "LOGGING_FALLBACK_ENABLED".toList
def CACHE_SERVICE_ADDRESS : List Char := "CACHE_SERVICE_ADDRESS".toList
def CACHE_NAMESPACE : List Char := "CACHE_NAMESPACE".toList
def CACHE_DEFAULT_TTL : List Char := "CACHE_DEFAULT_TTL".toList
def CACHE_LOCAL_FALLBACK : List Char := "CACHE_LOCAL_FALLBACK".toList
def CACHE_LOCAL_SIZE : List Char := "CACHE_LOCAL_SIZE".toList
def JWT_PUBLIC_KEY_PATH : List Char := "CRYPTO_JWT_PUBLIC_KEY_PATH".toList
def JWT_JWKS_URL : List Char := "CRYPTO_JWT_JWKS_URL".toList
def JWT_ISSUER : List Char := "CRYPTO_JWT_ISSUER".toList
def JWT_AUDIENCE : List Char := "CRYPTO_JWT_AUDIENCE".toList

end EnvVars

namespace ConfigLoader

/-- `ConfigLoader::getEnv(name, default_value)`. -/
def getEnv (env : Environ) (name default_value : List Char) : List Char :=
  (env name).getD default_value

/-- `ConfigLoader::getRequiredEnv(name)`. -/
def getRequiredEnv (env : Environ) (name : List Char) : Result (List Char) :=
  match env name with
  | some value =>
    if value = [] then err .CONFIG_ERROR ("Required environment variable not set: ".toList ++ name)
    else .ok value
  | none => err .CONFIG_ERROR ("Required environment variable not set: ".toList ++ name)

/-- `ConfigLoader::loadServerConfig`: every field is written. -/
def loadServerConfig (env : Environ) : Except Escape CryptoServiceConfig.Server := do
  let grpc_port ← stoi (getEnv env EnvVars.GRPC_PORT "50051".toList)
  let rest_port ← stoi (getEnv env EnvVars.REST_PORT "8080".toList)
  let thread_pool_size ← stoulOrThrow (getEnv env EnvVars.THREAD_POOL_SIZE "4".toList)
  pure ⟨toUInt16 grpc_port, toUInt16 rest_port, getEnv env EnvVars.TLS_CERT_PATH [],
    getEnv env EnvVars.TLS_KEY_PATH [], getEnv env EnvVars.TLS_CA_PATH [], thread_pool_size⟩

/-- `ConfigLoader::loadKeysConfig`: every field is written. -/
def loadKeysConfig (env : Environ) : Except Escape CryptoServiceConfig.Keys := do
  let key_cache_ttl ← stoi (getEnv env EnvVars.KEY_CACHE_TTL "300".toList)
  let key_cache_max_size ← stoulOrThrow (getEnv env EnvVars.KEY_CACHE_MAX_SIZE "1000".toList)
  pure ⟨getEnv env EnvVars.KMS_PROVIDER "local".toList, getEnv env EnvVars.HSM_SLOT_ID [],
    getEnv env EnvVars.AWS_KMS_KEY_ARN [], getEnv env EnvVars.AWS_REGION "us-east-1".toList,
    getEnv env EnvVars.AZURE_KV_URL [],
    getEnv env EnvVars.LOCAL_KEY_PATH "/var/lib/crypto-service/keys".toList, key_cache_ttl,
    key_cache_max_size⟩

/-- The level `LOGGING_MIN_LEVEL` names, if it names one. -/
def minLevel (text : List Char) : Option LogLevel :=
  if text = "DEBUG".toList then some .DEBUG
  else if text = "INFO".toList then some .INFO
  else if text = "WARN".toList then some .WARN
  else if text = "ERROR".toList then some .ERROR
  else if text = "FATAL".toList then some .FATAL
  else none

/-- A flag of the loader: on exactly for the texts `true` and `1`. -/
def flag (text : List Char) : Bool := text = "true".toList || text = "1".toList

/-- `ConfigLoader::loadLoggingClientConfig`: an unknown level leaves `min_level` as it was. -/
def loadLoggingClientConfig (env : Environ) (config : LoggingClientSettings) :
    Except Escape LoggingClientSettings := do
  let batch_size ← stoulOrThrow (getEnv env EnvVars.LOGGING_BATCH_SIZE "100".toList)
  let flush_interval ← stoi (getEnv env EnvVars.LOGGING_FLUSH_INTERVAL_MS "5000".toList)
  let min_level := (minLevel (getEnv env EnvVars.LOGGING_MIN_LEVEL "INFO".toList)).getD
    config.min_level
  pure { config with
    address := getEnv env EnvVars.LOGGING_SERVICE_ADDRESS "localhost:5001".toList
    service_id := "crypto-service".toList
    batch_size := batch_size
    flush_interval := flush_interval
    min_level := min_level
    fallback_enabled := flag (getEnv env EnvVars.LOGGING_FALLBACK_ENABLED "true".toList) }

/-- `ConfigLoader::loadCacheClientConfig`: the encryption key is left as it was. -/
def loadCacheClientConfig (env : Environ) (config : CacheClientSettings) :
    Except Escape CacheClientSettings := do
  let default_ttl ← stoi (getEnv env EnvVars.CACHE_DEFAULT_TTL "300".toList)
  let local_cache_size ← stoulOrThrow (getEnv env EnvVars.CACHE_LOCAL_SIZE "1000".toList)
  pure { config with
    address := getEnv env EnvVars.CACHE_SERVICE_ADDRESS "localhost:50051".toList
    namespace_prefix := getEnv env EnvVars.CACHE_NAMESPACE "crypto".toList
    default_ttl := default_ttl
    local_fallback_enabled := flag (getEnv env EnvVars.CACHE_LOCAL_FALLBACK "true".toList)
    local_cache_size := local_cache_size }

/-- `ConfigLoader::loadJWTConfig`. -/
def loadJWTConfig (env : Environ) : CryptoServiceConfig.JWT :=
  ⟨getEnv env EnvVars.JWT_PUBLIC_KEY_PATH [], getEnv env EnvVars.JWT_JWKS_URL [],
    getEnv env EnvVars.JWT_ISSUER [], getEnv env EnvVars.JWT_AUDIENCE []⟩

/-- `ConfigLoader::validate`: the first check that fails gives the error. -/
def validate (config : CryptoServiceConfig) : Result Unit :=
  let kms := config.keys.kms_provider
  if config.server.grpc_port = 0 then err .CONFIG_ERROR "Invalid gRPC port".toList
  else if config.server.rest_port = 0 then err .CONFIG_ERROR "Invalid REST port".toList
  else if config.server.grpc_port = config.server.rest_port then
    err .CONFIG_ERROR "gRPC and REST ports must be different".toList
  else if kms ≠ "local".toList ∧ kms ≠ "hsm".toList ∧ kms ≠ "aws_kms".toList ∧
      kms ≠ "azure_kv".toList then
    err .CONFIG_ERROR ("Invalid KMS provider: ".toList ++ kms)
  else if kms = "hsm".toList ∧ config.keys.hsm_slot_id = [] then
    err .CONFIG_ERROR "HSM slot ID required for HSM provider".toList
  else if kms = "aws_kms".toList ∧ config.keys.aws_kms_key_arn = [] then
    err .CONFIG_ERROR "AWS KMS key ARN required for AWS KMS provider".toList
  else if kms = "azure_kv".toList ∧ config.keys.azure_kv_url = [] then
    err .CONFIG_ERROR "Azure Key Vault URL required for Azure KV provider".toList
  else if config.logging_client.address = [] then
    err .CONFIG_ERROR "Logging service address is required".toList
  else if config.logging_client.batch_size = 0 then
    err .CONFIG_ERROR "Logging batch size must be > 0".toList
  else if config.cache_client.address = [] then
    err .CONFIG_ERROR "Cache service address is required".toList
  else .ok ()

/-- `ConfigLoader::loadFromEnvironment`: the sections in order, from a default configuration,
then `validate`. -/
def loadFromEnvironment (env : Environ) : Except Escape (Result CryptoServiceConfig) := do
  let server ← loadServerConfig env
  let keys ← loadKeysConfig env
  let logging_client ← loadLoggingClientConfig env {}
  let cache_client ← loadCacheClientConfig env {}
  let config : CryptoServiceConfig := ⟨server, keys, logging_client, cache_client, {},
    loadJWTConfig env⟩
  pure (match validate config with
    | .error e => .error e
    | .ok () => .ok config)

/-- The assignment of `loadFromFile`'s loop, on a line cut at its first `=`: the key, trailing
white space removed, is set to the value, leading white space removed, both as C strings. -/
def assignLine (env : Environ) (key value : List Char) : Option Environ := do
  let key ← (dropSpaces key.reverse).map List.reverse
  let value ← dropSpaces value
  pure (setenv env (cStr key) (cStr value))

/-- One line of `loadFromFile`'s loop: an empty line, a comment and a line without `=` are
skipped; any other line is an assignment. -/
def readLine (env : Environ) (line : List Char) : Option Environ :=
  match line with
  | [] => some env
  | '#' :: _ => some env
  | _ =>
    match line.span (· ≠ '=') with
    | (_, []) => some env
    | (key, _ :: value) => assignLine env key value

/-- The loop of `loadFromFile`: `std::getline` over the file, one `readLine` per line. -/
def readConfigFile (env : Environ) (text : List Char) : Option Environ :=
  (getlineFields '\n' [] text).foldlM readLine env

/-- `ConfigLoader::loadFromFile(path)`, with the file's contents (`none` where it cannot be
opened): the environment it leaves, which keeps what the loop set whatever the loading then
does, and the outcome. -/
def loadFromFile (env : Environ) (path : List Char) (file : Option (List Char)) :
    Environ × Except Escape (Result CryptoServiceConfig) :=
  match file with
  | none => (env, pure (err .CONFIG_ERROR ("Cannot open config file: ".toList ++ path)))
  | some text =>
    match readConfigFile env text with
    | none => (env, throw .undefined)
    | some env' => (env', loadFromEnvironment env')

end ConfigLoader

/-! ## Reading a line -/

theorem dropSpaces_cons_of_not {c : Char} (h : isspaceChar c = some false) (s : List Char) :
    dropSpaces (c :: s) = some (c :: s) := by
  simp [dropSpaces, h]

theorem dropSpaces_cons_of_space {c : Char} (h : isspaceChar c = some true) (s : List Char) :
    dropSpaces (c :: s) = dropSpaces s := by
  simp [dropSpaces, h]

theorem cStr_of_not_mem {s : List Char} (h : Char.ofNat 0 ∉ s) : cStr s = s :=
  List.takeWhile_eq_self_iff.2 fun c hc => by
    simp only [ne_eq, decide_eq_true_eq]; rintro rfl; exact h hc

theorem setenv_of {name : List Char} (h₁ : name ≠ []) (h₂ : '=' ∉ name) (env : Environ)
    (value : List Char) :
    setenv env name value = fun n => if n = name then some value else env n := by
  simp [setenv, h₁, h₂]

/-- The first `=` of a line that follows a name without `=` is the one after the name. -/
theorem span_assign {name : List Char} (h : '=' ∉ name) (value : List Char) :
    (name ++ '=' :: value).span (· ≠ '=') = (name, '=' :: value) := by
  have hn : ∀ c ∈ name, decide (c ≠ '=') = true := fun c hc => by
    simp only [ne_eq, decide_eq_true_eq]; rintro rfl; exact h hc
  rw [List.span_eq_take_drop, List.takeWhile_append_of_pos hn, List.dropWhile_append_of_pos hn]
  simp

/-- A line that is neither empty nor a comment is split at its first `=`. -/
theorem readLine_of_ne {line : List Char} (h₁ : line ≠ []) (h₂ : line.head? ≠ some '#')
    (env : Environ) :
    ConfigLoader.readLine env line = match line.span (· ≠ '=') with
      | (_, []) => some env
      | (key, _ :: value) => ConfigLoader.assignLine env key value := by
  unfold ConfigLoader.readLine
  split
  · exact absurd rfl h₁
  · exact absurd rfl h₂
  · rfl

theorem readLine_comment (env : Environ) (text : List Char) :
    ConfigLoader.readLine env ('#' :: text) = some env := rfl

/-- A line without `=` leaves the environment as it is. -/
theorem readLine_of_not_mem {line : List Char} (h : '=' ∉ line) (env : Environ) :
    ConfigLoader.readLine env line = some env := by
  rcases line with _ | ⟨c, t⟩
  · rfl
  by_cases hc : c = '#'
  · subst hc; rfl
  rw [readLine_of_ne (List.cons_ne_nil _ _) (by simpa using hc)]
  have hw : ∀ x ∈ c :: t, decide (x ≠ '=') = true := fun x hx => by
    simp only [ne_eq, decide_eq_true_eq]; rintro rfl; exact h hx
  rw [List.span_eq_take_drop, List.takeWhile_eq_self_iff.2 hw, List.dropWhile_eq_nil_iff.2 hw]


/-! ## Config files as they are written

A file written for `loadFromFile` is a sequence of lines, each ended by `eol` and a newline:
comments, lines without `=`, and assignments of a name to a value. Names and values carry what
makes them read back as written (`ConfigName`, `ConfigValue`). -/

/-- A name a config file sets as it is written: not a comment, without `=`, a newline or a NUL,
and ending in a character that is neither white space nor past ASCII, so not empty. -/
structure ConfigName where
  text : List Char
  head_ne : text.head? ≠ some '#'
  eq_not_mem : '=' ∉ text
  newline_not_mem : '\n' ∉ text
  nul_not_mem : Char.ofNat 0 ∉ text
  last_not_space : ∃ c, text.getLast? = some c ∧ isspaceChar c = some false

/-- A value a config file sets as it is written: without a newline or a NUL, and starting, if it
is not empty, with a character that is neither white space nor past ASCII. -/
structure ConfigValue where
  text : List Char
  newline_not_mem : '\n' ∉ text
  nul_not_mem : Char.ofNat 0 ∉ text
  head_not_space : ∀ c, text.head? = some c → isspaceChar c = some false

/-- A line of a config file: a comment, a line without `=` (a blank line is one), or an
assignment. -/
inductive ConfigLine
  | comment (text : List Char) (newline_not_mem : '\n' ∉ text)
  | note (text : List Char) (eq_not_mem : '=' ∉ text) (newline_not_mem : '\n' ∉ text)
  | assign (name : ConfigName) (value : ConfigValue)

namespace ConfigLine

/-- The text of a line. -/
def render : ConfigLine → List Char
  | comment text _ => '#' :: text
  | note text _ _ => text
  | assign name value => name.text ++ '=' :: value.text

/-- The value a line assigns to `n`, if it assigns one. -/
def valueOf (n : List Char) : ConfigLine → Option (List Char)
  | assign name value => if name.text = n then some value.text else none
  | _ => none

end ConfigLine

/-- A file of lines, each ended by `eol` and a newline. -/
def renderFile (eol : List Char) (lines : List ConfigLine) : List Char :=
  lines.flatMap (·.render ++ eol ++ ['\n'])

/-- The value the last line that assigns `n` assigns it. -/
def lastValue (n : List Char) : List ConfigLine → Option (List Char)
  | [] => none
  | l :: ls => (lastValue n ls).or (l.valueOf n)

/-- A value as a line ended by `eol` reads it: an empty value stays empty, `eol` being white
space, and any other keeps `eol` at its end. -/
def endValue (eol v : List Char) : List Char := if v = [] then [] else v ++ eol

/-- A line end a reader keeps in the line: white space without `=`, a newline or a NUL. -/
def LineEnd (eol : List Char) : Prop :=
  ∀ c ∈ eol, isspaceChar c = some true ∧ c ≠ '=' ∧ c ≠ '\n' ∧ c ≠ Char.ofNat 0

theorem lineEnd_nil : LineEnd [] := by simp [LineEnd]

theorem lineEnd_cr : LineEnd ['\r'] := by
  simp only [LineEnd, List.mem_singleton, forall_eq]; decide

section LineEnd

variable {eol : List Char} (heol : LineEnd eol)
include heol

theorem dropSpaces_of_lineEnd : dropSpaces eol = some [] := by
  induction eol with
  | nil => rfl
  | cons c e ih =>
    rw [dropSpaces_cons_of_space (heol c (List.mem_cons_self _ _)).1]
    exact ih fun x hx => heol x (List.mem_cons_of_mem _ hx)

theorem dropSpaces_value_append (v : ConfigValue) :
    dropSpaces (v.text ++ eol) = some (endValue eol v.text) := by
  unfold endValue
  rcases hv : v.text with _ | ⟨c, t⟩
  · exact dropSpaces_of_lineEnd heol
  · rw [if_neg (List.cons_ne_nil _ _), List.cons_append,
      dropSpaces_cons_of_not (v.head_not_space c (by simp [hv]))]

theorem nul_not_mem_endValue (v : ConfigValue) : Char.ofNat 0 ∉ endValue eol v.text := by
  unfold endValue
  split
  · simp
  · simp only [List.mem_append, not_or]
    exact ⟨v.nul_not_mem, fun h => (heol _ h).2.2.2 rfl⟩

/-- **One written line, read.** A comment and a line without `=` leave the environment as it
is; an assignment sets its name to its value, as the line end leaves it. -/
theorem readLine_render (l : ConfigLine) (env : Environ) :
    ConfigLoader.readLine env (l.render ++ eol) =
      some fun n => ((l.valueOf n).map (endValue eol)).or (env n) := by
  cases l with
  | comment text _ => exact readLine_comment env _
  | note text heq _ =>
    refine readLine_of_not_mem (fun h => ?_) env
    rcases List.mem_append.1 h with h | h
    · exact heq h
    · exact (heol _ h).2.1 rfl
  | assign name value =>
    obtain ⟨c, hc, hcs⟩ := name.last_not_space
    have hne : name.text ≠ [] := fun h => by simp [h] at hc
    have hkey : (dropSpaces name.text.reverse).map List.reverse = some name.text := by
      obtain ⟨r, hr⟩ : ∃ r, name.text.reverse = c :: r :=
        ⟨_, List.eq_cons_of_mem_head? (by rw [List.head?_reverse, hc]; rfl)⟩
      rw [hr, dropSpaces_cons_of_not hcs, Option.map_some', ← hr, List.reverse_reverse]
    have hhead : (name.text ++ '=' :: (value.text ++ eol)).head? ≠ some '#' := by
      rw [List.head?_append_of_ne_nil _ hne]; exact name.head_ne
    rw [ConfigLine.render, List.append_assoc, List.cons_append,
      readLine_of_ne (by simp [hne]) hhead, span_assign name.eq_not_mem]
    simp only [ConfigLoader.assignLine, hkey, dropSpaces_value_append heol, Option.bind_eq_bind,
      Option.some_bind, Option.pure_def,
      cStr_of_not_mem name.nul_not_mem, cStr_of_not_mem (nul_not_mem_endValue heol value),
      setenv_of hne name.eq_not_mem]
    congr 1
    funext n
    by_cases h : n = name.text
    · simp [ConfigLine.valueOf, h]
    · simp [ConfigLine.valueOf, h, Ne.symm h]

/-- A written file is cut by `std::getline` into its lines, each with its line end. -/
theorem getlineFields_renderFile (lines : List ConfigLine) :
    getlineFields '\n' [] (renderFile eol lines) = lines.map (·.render ++ eol) := by
  induction lines with
  | nil => rfl
  | cons l ls ih =>
    have hnl : '\n' ∉ l.render ++ eol := by
      simp only [List.mem_append, not_or]
      refine ⟨?_, fun h => (heol _ h).2.2.1 rfl⟩
      cases l with
      | comment text h => simpa [ConfigLine.render] using h
      | note text _ h => exact h
      | assign name value =>
        simp only [ConfigLine.render, List.mem_append, List.mem_cons, not_or]
        exact ⟨name.newline_not_mem, by decide, value.newline_not_mem⟩
    rw [renderFile, List.flatMap_cons, List.append_assoc, List.singleton_append,
      getlineFields_sep hnl, ← renderFile, ih]
    simp

/-- **A written config file, read.** Every name takes the value it is assigned last, as the
line end leaves it, and every variable the file does not assign keeps its value. -/
theorem readConfigFile_renderFile_eol (lines : List ConfigLine) (env : Environ) :
    ConfigLoader.readConfigFile env (renderFile eol lines) =
      some fun n => ((lastValue n lines).map (endValue eol)).or (env n) := by
  rw [ConfigLoader.readConfigFile, getlineFields_renderFile heol]
  induction lines generalizing env with
  | nil => rfl
  | cons l ls ih =>
    rw [List.map_cons, List.foldlM_cons, readLine_render heol, Option.bind_eq_bind,
      Option.some_bind, ih]
    congr 1
    funext n
    simp only [lastValue]
    cases lastValue n ls <;> cases l.valueOf n <;> rfl

end LineEnd

theorem endValue_nil : endValue [] = id := by
  funext v; unfold endValue; split <;> simp_all

theorem readConfigFile_renderFile (env : Environ) (lines : List ConfigLine) :
    ConfigLoader.readConfigFile env (renderFile [] lines) =
      some fun n => (lastValue n lines).or (env n) := by
  simp only [readConfigFile_renderFile_eol lineEnd_nil, endValue_nil, Option.map_id, id]

/-- **A written config file, loaded.** -/
theorem loadFromFile_renderFile (env : Environ) (path : List Char) (lines : List ConfigLine) :
    ConfigLoader.loadFromFile env path (some (renderFile [] lines)) =
      (fun n => (lastValue n lines).or (env n),
        ConfigLoader.loadFromEnvironment fun n => (lastValue n lines).or (env n)) := by
  simp only [ConfigLoader.loadFromFile, readConfigFile_renderFile]

/-- A variable a read file sets has the value the file gives it. -/
theorem getEnv_of_lastValue {lines : List ConfigLine} {n : List Char} {v : List Char}
    (h : lastValue n lines = some v) (f : List Char → List Char) (env : Environ)
    (d : List Char) :
    ConfigLoader.getEnv (fun n => ((lastValue n lines).map f).or (env n)) n d = f v := by
  simp [ConfigLoader.getEnv, h]

/-! ## Numbers as `std::to_string` writes them -/

theorem stoll_toDecimal (n : ℕ) :
    stoll (toDecimal n) = if 2 ^ 63 ≤ n then throw (.thrown .out_of_range) else pure (n : ℤ) := by
  obtain ⟨c, s, hcs⟩ := List.exists_cons_of_ne_nil (toDecimal_ne_nil n)
  have hd := isDigit_of_mem_toDecimal n
  have hc : c.isDigit = true := hd c (by rw [hcs]; exact List.mem_cons_self _ _)
  rw [stoll, hcs, readSign_dropWhile_of_isDigit s hc, ← hcs]
  simp only [List.takeWhile_eq_self_iff.2 hd, toDecimal_ne_nil, decimalValue_toDecimal, if_false,
    Bool.false_eq_true]
  congr 1
  apply propext; omega

/-- **`std::stoi` of a number** is the number, or `out_of_range` past `INT_MAX`. -/
theorem stoi_toDecimal (n : ℕ) :
    stoi (toDecimal n) = if 2 ^ 31 ≤ n then throw (.thrown .out_of_range) else pure (n : ℤ) := by
  rw [stoi, stoll_toDecimal]
  by_cases h : 2 ^ 63 ≤ n
  · rw [if_pos h, if_pos (by omega)]; rfl
  · rw [if_neg h, pure_bind]
    congr 1
    apply propext; omega

theorem eq_of_stoi_toDecimal {n : ℕ} {v : ℤ} (h : stoi (toDecimal n) = .ok v) :
    n < 2 ^ 31 ∧ v = n := by
  rw [stoi_toDecimal] at h
  split at h
  · cases h
  · cases h; exact ⟨by omega, rfl⟩

theorem toUInt16_natCast (n : ℕ) : (toUInt16 n).toNat = n % 2 ^ 16 := by
  rw [toUInt16, UInt16.toNat_ofNat_of_lt (by simp [UInt16.size]; omega)]
  omega

/-! ## What a loaded configuration is made of -/

theorem ite_err_eq_ok {α : Type} {p : Prop} [Decidable p] {c : ErrorCode} {m : List Char}
    {x : Result α} {a : α} : (if p then err c m else x) = .ok a ↔ ¬p ∧ x = .ok a := by
  by_cases hp : p <;> simp [hp]

/-- A configuration that passes `validate` has two nonzero, different ports and one of the four
KMS providers. -/
theorem validate_eq_ok {c : CryptoServiceConfig} (h : ConfigLoader.validate c = .ok ()) :
    c.server.grpc_port ≠ 0 ∧ c.server.rest_port ≠ 0 ∧ c.server.grpc_port ≠ c.server.rest_port ∧
      c.keys.kms_provider ∈ ["local".toList, "hsm".toList, "aws_kms".toList, "azure_kv".toList] := by
  simp only [ConfigLoader.validate, ite_err_eq_ok] at h
  obtain ⟨h₁, h₂, h₃, h₄, -⟩ := h
  refine ⟨h₁, h₂, h₃, ?_⟩
  by_contra hn
  simp only [List.mem_cons, List.mem_singleton, List.not_mem_nil, or_false, not_or] at hn
  exact h₄ hn

/-- A configuration `loadFromEnvironment` returns is valid and made of the sections it loads. -/
theorem loadFromEnvironment_eq_ok {env : Environ} {c : CryptoServiceConfig}
    (h : ConfigLoader.loadFromEnvironment env = .ok (.ok c)) :
    ConfigLoader.validate c = .ok () ∧ ConfigLoader.loadServerConfig env = .ok c.server ∧
      ConfigLoader.loadKeysConfig env = .ok c.keys ∧
      ConfigLoader.loadLoggingClientConfig env {} = .ok c.logging_client ∧
      ConfigLoader.loadCacheClientConfig env {} = .ok c.cache_client := by
  simp only [ConfigLoader.loadFromEnvironment, bind_eq_ok, pure_eq_ok] at h
  obtain ⟨server, hs, keys, hk, logging, hl, cache, hc, h⟩ := h
  split at h
  · cases h
  · cases h; exact ⟨by assumption, hs, hk, hl, hc⟩

theorem loadServerConfig_ports {env : Environ} {g r : ℕ}
    (hg : env EnvVars.GRPC_PORT = some (toDecimal g))
    (hr : env EnvVars.REST_PORT = some (toDecimal r)) {s : CryptoServiceConfig.Server}
    (h : ConfigLoader.loadServerConfig env = .ok s) :
    s.grpc_port.toNat = g % 2 ^ 16 ∧ s.rest_port.toNat = r % 2 ^ 16 := by
  simp only [ConfigLoader.loadServerConfig, ConfigLoader.getEnv, hg, hr, Option.getD_some,
    bind_eq_ok, pure_eq_ok] at h
  obtain ⟨gv, hgv, rv, hrv, -, -, rfl⟩ := h
  rw [(eq_of_stoi_toDecimal hgv).2, (eq_of_stoi_toDecimal hrv).2]
  exact ⟨toUInt16_natCast g, toUInt16_natCast r⟩

theorem loadServerConfig_out_of_range {env : Environ} {g r : ℕ}
    (hg : env EnvVars.GRPC_PORT = some (toDecimal g))
    (hr : env EnvVars.REST_PORT = some (toDecimal r)) (h : 2 ^ 31 ≤ g ∨ 2 ^ 31 ≤ r) :
    ConfigLoader.loadServerConfig env = .error (.thrown .out_of_range) := by
  simp only [ConfigLoader.loadServerConfig, ConfigLoader.getEnv, hg, hr, Option.getD_some,
    stoi_toDecimal]
  by_cases hg' : 2 ^ 31 ≤ g
  · rw [if_pos hg']; rfl
  · rw [if_neg hg', if_pos (h.resolve_left hg')]; rfl

/-- **The ports.** Each port is the value of its text modulo `2 ^ 16`, as `static_cast<uint16_t>`
leaves it: a configuration loads only where these are nonzero and different. A port text past
`INT_MAX` escapes as the `out_of_range` of `std::stoi`. -/
theorem loadFromEnvironment_ports {env : Environ} {g r : ℕ}
    (hg : env EnvVars.GRPC_PORT = some (toDecimal g))
    (hr : env EnvVars.REST_PORT = some (toDecimal r)) :
    (2 ^ 31 ≤ g ∨ 2 ^ 31 ≤ r →
      ConfigLoader.loadFromEnvironment env = .error (.thrown .out_of_range)) ∧
    ∀ c, ConfigLoader.loadFromEnvironment env = .ok (.ok c) →
      c.server.grpc_port.toNat = g % 2 ^ 16 ∧ c.server.rest_port.toNat = r % 2 ^ 16 ∧
      g % 2 ^ 16 ≠ 0 ∧ r % 2 ^ 16 ≠ 0 ∧ g % 2 ^ 16 ≠ r % 2 ^ 16 := by
  refine ⟨fun h => ?_, fun c h => ?_⟩
  · simp only [ConfigLoader.loadFromEnvironment, loadServerConfig_out_of_range hg hr h]; rfl
  · obtain ⟨hv, hs, -⟩ := loadFromEnvironment_eq_ok h
    obtain ⟨h₁, h₂, h₃, -⟩ := validate_eq_ok hv
    obtain ⟨hgp, hrp⟩ := loadServerConfig_ports hg hr hs
    refine ⟨hgp, hrp, fun h0 => h₁ (UInt16.toNat.inj ?_), fun h0 => h₂ (UInt16.toNat.inj ?_),
      fun h0 => h₃ (UInt16.toNat.inj ?_)⟩ <;> simp only [hgp, hrp, h0, UInt16.toNat_zero]

theorem loadFromEnvironment_ports_wrap :
    let env : Environ := fun n =>
      if n = EnvVars.GRPC_PORT then some (toDecimal 115587)
      else if n = EnvVars.REST_PORT then some (toDecimal 8080) else none
    env EnvVars.GRPC_PORT = some (toDecimal 115587) ∧
      env EnvVars.REST_PORT = some (toDecimal 8080) ∧
      ((2 ^ 31 ≤ 115587 ∨ 2 ^ 31 ≤ 8080 →
        ConfigLoader.loadFromEnvironment env = .error (.thrown .out_of_range)) ∧
      ∀ c, ConfigLoader.loadFromEnvironment env = .ok (.ok c) →
        c.server.grpc_port.toNat = 115587 % 2 ^ 16 ∧ c.server.rest_port.toNat = 8080 % 2 ^ 16 ∧
        115587 % 2 ^ 16 ≠ 0 ∧ 8080 % 2 ^ 16 ≠ 0 ∧ 115587 % 2 ^ 16 ≠ 8080 % 2 ^ 16) :=
  ⟨rfl, rfl, loadFromEnvironment_ports rfl rfl⟩

/-! ## Files with CRLF line ends -/

theorem append_cr_ne {w : List Char} (hw : w.getLast? ≠ some '\r') (v : List Char) :
    v ++ ['\r'] ≠ w := fun h => hw (h ▸ List.getLast?_concat v)

/-- A value read from a CRLF line is never a flag's `true` or `1`. -/
theorem flag_endValue_cr (v : List Char) : ConfigLoader.flag (endValue ['\r'] v) = false := by
  unfold endValue
  split
  · rfl
  · simp only [ConfigLoader.flag, append_cr_ne (w := "true".toList) (by decide),
      append_cr_ne (w := "1".toList) (by decide), decide_False, Bool.or_false]

/-- A value read from a CRLF line is never one of the KMS providers. -/
theorem endValue_cr_not_mem (v : List Char) : endValue ['\r'] v ∉
    ["local".toList, "hsm".toList, "aws_kms".toList, "azure_kv".toList] := by
  unfold endValue
  split
  · decide
  · simp only [List.mem_cons, List.mem_singleton, List.not_mem_nil, or_false, not_or]
    exact ⟨append_cr_ne (by decide) v, append_cr_ne (by decide) v, append_cr_ne (by decide) v,
      append_cr_ne (by decide) v⟩

theorem loadKeysConfig_kms {env : Environ} {k : CryptoServiceConfig.Keys}
    (h : ConfigLoader.loadKeysConfig env = .ok k) :
    k.kms_provider = ConfigLoader.getEnv env EnvVars.KMS_PROVIDER "local".toList := by
  simp only [ConfigLoader.loadKeysConfig, bind_eq_ok, pure_eq_ok] at h
  obtain ⟨-, -, -, -, rfl⟩ := h; rfl

theorem loadLoggingClientConfig_fallback {env : Environ} {config l : LoggingClientSettings}
    (h : ConfigLoader.loadLoggingClientConfig env config = .ok l) :
    l.fallback_enabled =
      ConfigLoader.flag (ConfigLoader.getEnv env EnvVars.LOGGING_FALLBACK_ENABLED "true".toList) := by
  simp only [ConfigLoader.loadLoggingClientConfig, bind_eq_ok, pure_eq_ok] at h
  obtain ⟨-, -, -, -, rfl⟩ := h; rfl

theorem loadCacheClientConfig_fallback {env : Environ} {config l : CacheClientSettings}
    (h : ConfigLoader.loadCacheClientConfig env config = .ok l) :
    l.local_fallback_enabled =
      ConfigLoader.flag (ConfigLoader.getEnv env EnvVars.CACHE_LOCAL_FALLBACK "true".toList) := by
  simp only [ConfigLoader.loadCacheClientConfig, bind_eq_ok, pure_eq_ok] at h
  obtain ⟨-, -, -, -, rfl⟩ := h; rfl

/-- **A config file with CRLF line ends.** `std::getline` keeps the carriage return in the line
and the loader trims only the key's end and the value's start, so every value a CRLF file sets
ends in `\r`: a file that sets the KMS provider never loads, and one that sets a fallback flag
turns that fallback off, whatever the line says. -/
theorem loadFromFile_crlf {env : Environ} {path : List Char} {lines : List ConfigLine}
    {c : CryptoServiceConfig}
    (h : (ConfigLoader.loadFromFile env path (some (renderFile ['\r'] lines))).2 = .ok (.ok c)) :
    lastValue EnvVars.KMS_PROVIDER lines = none ∧
      ((lastValue EnvVars.LOGGING_FALLBACK_ENABLED lines).isSome →
        c.logging_client.fallback_enabled = false) ∧
      ((lastValue EnvVars.CACHE_LOCAL_FALLBACK lines).isSome →
        c.cache_client.local_fallback_enabled = false) := by
  simp only [ConfigLoader.loadFromFile, readConfigFile_renderFile_eol lineEnd_cr] at h
  obtain ⟨hv, -, hk, hl, hc⟩ := loadFromEnvironment_eq_ok h
  refine ⟨?_, fun hs => ?_, fun hs => ?_⟩
  · cases hkms : lastValue EnvVars.KMS_PROVIDER lines with
    | none => rfl
    | some v =>
      have hmem := (validate_eq_ok hv).2.2.2
      rw [loadKeysConfig_kms hk, getEnv_of_lastValue hkms] at hmem
      exact absurd hmem (endValue_cr_not_mem v)
  · obtain ⟨v, hlv⟩ := Option.isSome_iff_exists.1 hs
    rw [loadLoggingClientConfig_fallback hl, getEnv_of_lastValue hlv, flag_endValue_cr]
  · obtain ⟨v, hlv⟩ := Option.isSome_iff_exists.1 hs
    rw [loadCacheClientConfig_fallback hc, getEnv_of_lastValue hlv, flag_endValue_cr]

/-- The line `CRYPTO_LOGGING_FALLBACK_ENABLED=true`. -/
def fallbackOnLine : ConfigLine :=
  .assign ⟨EnvVars.LOGGING_FALLBACK_ENABLED, by decide, by decide, by decide, by decide,
      ⟨'D', rfl, rfl⟩⟩
    ⟨"true".toList, by decide, by decide, fun _ h => by cases h; rfl⟩

theorem loadFromFile_crlf_fallbackOn :
    let c : CryptoServiceConfig :=
      { keys := { aws_region := "us-east-1".toList }
        logging_client := { fallback_enabled := false } }
    (ConfigLoader.loadFromFile (fun _ => none) "crypto-service.conf".toList
        (some (renderFile ['\r'] [fallbackOnLine]))).2 = .ok (.ok c) ∧
      lastValue EnvVars.KMS_PROVIDER [fallbackOnLine] = none ∧
      ((lastValue EnvVars.LOGGING_FALLBACK_ENABLED [fallbackOnLine]).isSome →
        c.logging_client.fallback_enabled = false) ∧
      ((lastValue EnvVars.CACHE_LOCAL_FALLBACK [fallbackOnLine]).isSome →
        c.cache_client.local_fallback_enabled = false) :=
  have h : (ConfigLoader.loadFromFile (fun _ => none) "crypto-service.conf".toList
      (some (renderFile ['\r'] [fallbackOnLine]))).2 =
      .ok (.ok { keys := { aws_region := "us-east-1".toList }
                 logging_client := { fallback_enabled := false } }) := rfl
  ⟨h, loadFromFile_crlf h⟩

end CryptoService
