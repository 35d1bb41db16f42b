import CryptoService.Auth.JwtValidator
import CryptoService.Common.StdMap

/-!
# Role-based access control

`RBACEngine::authorize` of `crypto/auth/rbac_engine.cpp` goes through the roles of a request in
order: a role that is not configured is skipped, an admin role authorizes, a role without the
operation is skipped and, with namespace isolation on and a target namespace that is not empty,
so is a role that does not reach the namespace (`hasNamespaceAccess`); the first role left
authorizes. `canAccessKey` asks for the key's namespace, which `KeyId::parse` lets be empty, and
an empty target namespace skips the isolation check. `hasNamespaceAccess` reads `allowed.back()`
of each pattern it tries, which is undefined for an empty pattern (`none`).

* `namespaceLoop_eq_some`, `hasNamespaceAccess_eq_some`: where it is defined, the check is the
  spec's namespace law (`GrantsNamespace`);
* `authorizeLoop_eq_some`, `nil_mem_of_authorizeLoop_eq_none`: what `authorize` decides, and that
  it is undefined only at an empty pattern;
* `canAccessKey_namespace_isolation`: for tokens without admin roles, `canAccessKey` authorizes
  exactly by the law, except that an empty namespace is not isolated;
* `authorize_isSome_defaultRoles`: along any run of role updates from the default roles that adds
  no empty pattern, `authorize` is defined.
-/

namespace CryptoService

/-- `crypto::Operation`. -/
inductive Operation
  | ENCRYPT | DECRYPT | SIGN | VERIFY | KEY_GENERATE | KEY_ROTATE | KEY_DELETE | KEY_READ
  | FILE_ENCRYPT | FILE_DECRYPT
  deriving DecidableEq, Repr

/-- `operationToString`. -/
def operationToString : Operation → List Char
  | .ENCRYPT => "ENCRYPT".toList
  | .DECRYPT => "DECRYPT".toList
  | .SIGN => "SIGN".toList
  | .VERIFY => "VERIFY".toList
  | .KEY_GENERATE => "KEY_GENERATE".toList
  | .KEY_ROTATE => "KEY_ROTATE".toList
  | .KEY_DELETE => "KEY_DELETE".toList
  | .KEY_READ => "KEY_READ".toList
  | .FILE_ENCRYPT => "FILE_ENCRYPT".toList
  | .FILE_DECRYPT => "FILE_DECRYPT".toList

/-- `crypto::Role`; the `unordered_set` of operations is the list of its elements. -/
structure Role where
  name : List Char
  allowed_operations : List Operation
  allowed_namespaces : List (List Char) := []
  is_admin : Bool := false
  deriving DecidableEq, Repr

/-- `crypto::AuthorizationRequest`, with the fields `authorize` reads and `canAccessKey` sets. -/
structure AuthorizationRequest where
  subject : List Char
  roles : List (List Char)
  operation : Operation
  key_id : Option KeyId
  target_namespace : List Char
  deriving DecidableEq, Repr

/-- `crypto::AuthorizationResult`. -/
structure AuthorizationResult where
  authorized : Bool
  reason : Option (List Char)
  deriving DecidableEq, Repr

/-- `crypto::RBACConfig`: the `unordered_map` of roles is its list of entries, one per name, in
any order; `default_deny` is read by nothing. -/
structure RBACConfig where
  roles : StdMap Role
  enable_namespace_isolation : Bool := true
  deriving DecidableEq, Repr

/-- `crypto::RBACEngine`. -/
structure RBACEngine where
  config_ : RBACConfig
  deriving DecidableEq, Repr

namespace RBACEngine

/-- `RBACEngine::hasOperation`. -/
def hasOperation (role : Role) (op : Operation) : Bool := role.allowed_operations.contains op

/-- The loop of `hasNamespaceAccess` over the patterns left: an exact match or `*` grants, and
so does a pattern ending in `*` whose stem starts the namespace. `allowed.back()` of an empty
pattern is undefined (`none`). -/
def namespaceLoop (ns : List Char) : List (List Char) → Option Bool
  | [] => some false
  | allowed :: rest =>
    if allowed = ns ∨ allowed = "*".toList then some true
    else match allowed.getLast? with
      | none => none
      | some back =>
        if back = '*' ∧ ns.take (allowed.length - 1) = allowed.take (allowed.length - 1) then some true
        else namespaceLoop ns rest

/-- `RBACEngine::hasNamespaceAccess`: a role without patterns reaches every namespace. -/
def hasNamespaceAccess (role : Role) (ns : List Char) : Option Bool :=
  if role.allowed_namespaces = [] then some true else namespaceLoop ns role.allowed_namespaces

/-- The loop of `authorize` over the request's roles left: a role that is not configured, lacks
the operation or (with isolation, for a named namespace) does not reach the namespace is
skipped; an admin role, or one that passes, authorizes. -/
def authorizeLoop (config_ : RBACConfig) (request : AuthorizationRequest) :
    List (List Char) → Option AuthorizationResult
  | [] => some ⟨false, some ("No role grants permission for ".toList ++
      operationToString request.operation)⟩
  | role_name :: rest =>
    match config_.roles.lookup role_name with
    | none => authorizeLoop config_ request rest
    | some role =>
      if role.is_admin then some ⟨true, none⟩
      else if !hasOperation role request.operation then authorizeLoop config_ request rest
      else if config_.enable_namespace_isolation ∧ request.target_namespace ≠ [] then
        match hasNamespaceAccess role request.target_namespace with
        | none => none
        | some false => authorizeLoop config_ request rest
        | some true => some ⟨true, none⟩
      else some ⟨true, none⟩

/-- `RBACEngine::authorize`. -/
def authorize (e : RBACEngine) (request : AuthorizationRequest) : Option AuthorizationResult :=
  authorizeLoop e.config_ request request.roles

/-- `RBACEngine::canAccessKey`: the request for the key's namespace. -/
def canAccessKey (e : RBACEngine) (claims : JWTClaims) (key_id : KeyId) (operation : Operation) :
    Option AuthorizationResult :=
  e.authorize ⟨claims.subject, claims.roles, operation, some key_id, key_id.namespace_prefix⟩

/-- `RBACEngine::addRole`: `config_.roles[role.name] = role`, which replaces a role of that name. -/
def addRole (e : RBACEngine) (role : Role) : RBACEngine :=
  ⟨{ e.config_ with roles := (role.name, role) :: e.config_.roles.filter (·.1 != role.name) }⟩

/-- `RBACEngine::removeRole`. -/
def removeRole (e : RBACEngine) (role_name : List Char) : RBACEngine :=
  ⟨{ e.config_ with roles := e.config_.roles.filter (·.1 != role_name) }⟩

/-- `RBACEngine::getRole`. -/
def getRole (e : RBACEngine) (role_name : List Char) : Option Role :=
  e.config_.roles.lookup role_name

end RBACEngine

namespace DefaultRoles

/-- `DefaultRoles::admin`. -/
def admin : Role :=
  ⟨"admin".toList, [.ENCRYPT, .DECRYPT, .SIGN, .VERIFY, .KEY_GENERATE, .KEY_ROTATE, .KEY_DELETE,
    .KEY_READ, .FILE_ENCRYPT, .FILE_DECRYPT], [], true⟩

/-- `DefaultRoles::keyManager`. -/
def keyManager : Role :=
  ⟨"key-manager".toList, [.KEY_GENERATE, .KEY_ROTATE, .KEY_DELETE, .KEY_READ], [], false⟩

/-- `DefaultRoles::encryptor`. -/
def encryptor : Role :=
  ⟨"encryptor".toList, [.ENCRYPT, .DECRYPT, .KEY_READ, .FILE_ENCRYPT, .FILE_DECRYPT], [], false⟩

/-- `DefaultRoles::signer`. -/
def signer : Role := ⟨"signer".toList, [.SIGN, .VERIFY, .KEY_READ], [], false⟩

/-- `DefaultRoles::reader`. -/
def reader : Role := ⟨"reader".toList, [.KEY_READ, .VERIFY], [], false⟩

end DefaultRoles

namespace RBACEngine

/-! ## The namespace law -/

/-- A pattern grants a namespace, in the words of the spec: it is `*`, the namespace itself, or
`p*` with `p` a prefix of the namespace. -/
def PatternGrants (allowed ns : List Char) : Prop :=
  allowed = "*".toList ∨ allowed = ns ∨ ∃ p, allowed = p ++ ['*'] ∧ p <+: ns

/-- A pattern `p*` in the form the code tests it: its last character, and the rest against the
namespace's start. -/
theorem exists_star_iff (allowed ns : List Char) :
    (∃ p, allowed = p ++ ['*'] ∧ p <+: ns) ↔
      allowed.getLast? = some '*' ∧ ns.take (allowed.length - 1) = allowed.take (allowed.length - 1) := by
  constructor
  · rintro ⟨p, rfl, hp⟩
    exact ⟨by simp, by simpa using (List.prefix_iff_eq_take.1 hp).symm⟩
  · rintro ⟨hl, ht⟩
    obtain ⟨p, rfl⟩ : ∃ p, allowed = p ++ ['*'] := ⟨allowed.dropLast, by
      rw [List.dropLast_append_getLast? _ hl]⟩
    refine ⟨p, rfl, List.prefix_iff_eq_take.2 ?_⟩
    simpa using ht.symm

instance (allowed ns : List Char) : Decidable (PatternGrants allowed ns) :=
  decidable_of_iff (allowed = "*".toList ∨ allowed = ns ∨ (allowed.getLast? = some '*' ∧
      ns.take (allowed.length - 1) = allowed.take (allowed.length - 1)))
    (by rw [PatternGrants, exists_star_iff])

/-- The namespace law: a role reaches a namespace when it lists no pattern, or one that grants
it. -/
def GrantsNamespace (role : Role) (ns : List Char) : Prop :=
  role.allowed_namespaces = [] ∨ ∃ allowed ∈ role.allowed_namespaces, PatternGrants allowed ns

instance (role : Role) (ns : List Char) : Decidable (GrantsNamespace role ns) :=
  inferInstanceAs (Decidable (_ ∨ _))

/-- One non-empty pattern: it grants, or the loop goes on. -/
theorem namespaceLoop_cons {allowed : List Char} (hne : allowed ≠ []) (ns : List Char)
    (rest : List (List Char)) : namespaceLoop ns (allowed :: rest) =
      if PatternGrants allowed ns then some true else namespaceLoop ns rest := by
  obtain ⟨back, hb⟩ : ∃ back, allowed.getLast? = some back :=
    ⟨_, List.getLast?_eq_getLast allowed hne⟩
  have hp := exists_star_iff allowed ns
  rw [hb] at hp
  rw [namespaceLoop, hb]
  by_cases h₁ : allowed = ns ∨ allowed = "*".toList
  · rw [if_pos h₁, if_pos (by unfold PatternGrants; tauto)]
  · rw [if_neg h₁]
    dsimp only
    by_cases h₂ : back = '*' ∧ ns.take (allowed.length - 1) = allowed.take (allowed.length - 1)
    · rw [if_pos h₂, if_pos (.inr (.inr (hp.2 ⟨by rw [h₂.1], h₂.2⟩)))]
    · rw [if_neg h₂, if_neg]
      rintro (h | h | h)
      · exact h₁ (.inr h)
      · exact h₁ (.inl h)
      · exact h₂ ((Option.some.inj (hp.1 h).1) ▸ ⟨rfl, (hp.1 h).2⟩)

/-- An empty pattern: `back()` is undefined unless it matches an empty namespace first. -/
theorem namespaceLoop_nil_cons (ns : List Char) (rest : List (List Char)) :
    namespaceLoop ns ([] :: rest) = if ns = [] then some true else none := by
  rw [namespaceLoop]
  by_cases h : ns = []
  · simp [h]
  · rw [if_neg (by rintro (h' | h'); exacts [h h'.symm, absurd h' (by decide)]), if_neg h]
    rfl

/-- Where it is defined, the loop of `hasNamespaceAccess` decides whether some pattern left grants
the namespace. -/
theorem namespaceLoop_eq_some {ns : List Char} {L : List (List Char)} {b : Bool}
    (h : namespaceLoop ns L = some b) : (b = true ↔ ∃ allowed ∈ L, PatternGrants allowed ns) := by
  induction L with
  | nil => cases h; simp
  | cons allowed rest ih =>
    by_cases hne : allowed = []
    · subst hne
      rw [namespaceLoop_nil_cons] at h
      split_ifs at h with hns
      cases h
      exact iff_of_true rfl ⟨[], List.mem_cons_self _ _, .inr (.inl hns.symm)⟩
    · rw [namespaceLoop_cons hne] at h
      split_ifs at h with hg
      · cases h
        exact iff_of_true rfl ⟨allowed, List.mem_cons_self _ _, hg⟩
      · rw [ih h, List.exists_mem_cons_iff, or_iff_right hg]

/-- The loop of `hasNamespaceAccess` is undefined only at an empty pattern. -/
theorem nil_mem_of_namespaceLoop_eq_none {ns : List Char} {L : List (List Char)}
    (h : namespaceLoop ns L = none) : [] ∈ L := by
  induction L with
  | nil => cases h
  | cons allowed rest ih =>
    by_cases hne : allowed = []
    · exact hne ▸ List.mem_cons_self _ _
    · rw [namespaceLoop_cons hne] at h
      split_ifs at h
      exact List.mem_cons_of_mem _ (ih h)

theorem hasNamespaceAccess_eq_some {role : Role} {ns : List Char} {b : Bool}
    (h : hasNamespaceAccess role ns = some b) : (b = true ↔ GrantsNamespace role ns) := by
  unfold hasNamespaceAccess at h
  split_ifs at h with hr
  · cases h; exact iff_of_true rfl (.inl hr)
  · rw [namespaceLoop_eq_some h, GrantsNamespace, or_iff_right hr]

theorem nil_mem_of_hasNamespaceAccess_eq_none {role : Role} {ns : List Char}
    (h : hasNamespaceAccess role ns = none) : [] ∈ role.allowed_namespaces := by
  unfold hasNamespaceAccess at h
  split_ifs at h
  exact nil_mem_of_namespaceLoop_eq_none h

/-! ## `authorize` -/

/-- What lets a role through `authorize`: it is an admin, or it has the operation and, under
isolation, reaches a named target namespace. -/
def RoleGrants (config_ : RBACConfig) (request : AuthorizationRequest) (role : Role) : Prop :=
  role.is_admin = true ∨ (hasOperation role request.operation = true ∧
    (config_.enable_namespace_isolation = true → request.target_namespace ≠ [] →
      GrantsNamespace role request.target_namespace))

section AuthorizeLoop

variable {config_ : RBACConfig} {request : AuthorizationRequest}

/-- Where it is defined, `authorize`'s loop authorizes exactly when some configured role left
lets the request through. -/
theorem authorizeLoop_eq_some {L : List (List Char)} {r : AuthorizationResult}
    (h : authorizeLoop config_ request L = some r) : r.authorized = true ↔
      ∃ name ∈ L, ∃ role, config_.roles.lookup name = some role ∧ RoleGrants config_ request role := by
  induction L with
  | nil => cases h; simp
  | cons name rest ih =>
    rw [List.exists_mem_cons_iff]
    rw [authorizeLoop] at h
    cases hl : config_.roles.lookup name with
    | none =>
      rw [hl] at h
      simp only [reduceCtorEq, false_and, exists_false, false_or, ih h]
    | some role =>
      rw [hl] at h
      dsimp only at h
      simp only [Option.some.injEq, exists_eq_left']
      split_ifs at h with had hop hiso
      · cases h
        exact iff_of_true rfl (.inl (.inl had))
      · have hr : ¬ RoleGrants config_ request role := by
          rintro (h' | ⟨h', -⟩) <;> simp_all
        rw [ih h, or_iff_right hr]
      · have hop : hasOperation role request.operation = true := by simpa using hop
        cases hn : hasNamespaceAccess role request.target_namespace with
        | none => rw [hn] at h; cases h
        | some b =>
          rw [hn] at h
          have hg := hasNamespaceAccess_eq_some hn
          cases b with
          | false =>
            have hr : ¬ RoleGrants config_ request role := by
              rintro (h' | ⟨-, h'⟩)
              · simp_all
              · exact absurd (hg.2 (h' hiso.1 hiso.2)) (by decide)
            rw [ih h, or_iff_right hr]
          | true =>
            cases h
            exact iff_of_true rfl (.inl (.inr ⟨hop, fun _ _ => hg.1 rfl⟩))
      · cases h
        have hop : hasOperation role request.operation = true := by simpa using hop
        exact iff_of_true rfl (.inl (.inr ⟨hop, fun hi hn => absurd ⟨hi, hn⟩ hiso⟩))

/-- `authorize`'s loop is undefined only where it reaches a configured role with an empty
pattern. -/
theorem nil_mem_of_authorizeLoop_eq_none {L : List (List Char)}
    (h : authorizeLoop config_ request L = none) :
    ∃ name ∈ L, ∃ role, config_.roles.lookup name = some role ∧ [] ∈ role.allowed_namespaces := by
  induction L with
  | nil => cases h
  | cons name rest ih =>
    rw [List.exists_mem_cons_iff]
    rw [authorizeLoop] at h
    cases hl : config_.roles.lookup name with
    | none => rw [hl] at h; exact .inr (ih h)
    | some role =>
      rw [hl] at h
      dsimp only at h
      split_ifs at h
      · exact .inr (ih h)
      · cases hn : hasNamespaceAccess role request.target_namespace with
        | none => exact .inl ⟨role, rfl, nil_mem_of_hasNamespaceAccess_eq_none hn⟩
        | some b =>
          rw [hn] at h
          cases b
          · exact .inr (ih h)
          · cases h

end AuthorizeLoop

/-- **Namespace isolation, and where it fails.** For every engine with namespace isolation, every
JWT whose roles include no admin role, every key and every operation: `canAccessKey` is defined
when none of the configured roles it reaches lists an empty pattern; and where it is defined it
authorizes exactly when some configured role of the token has the operation and either the
key's namespace is empty (isolation is skipped) or the role reaches the namespace by the law. -/
theorem canAccessKey_namespace_isolation (e : RBACEngine) (claims : JWTClaims) (k : KeyId)
    (op : Operation) (hiso : e.config_.enable_namespace_isolation = true)
    (hadmin : ∀ name ∈ claims.roles, ∀ role, e.config_.roles.lookup name = some role →
      role.is_admin = false) :
    ((∀ name ∈ claims.roles, ∀ role, e.config_.roles.lookup name = some role →
      [] ∉ role.allowed_namespaces) → ∃ r, e.canAccessKey claims k op = some r) ∧
    ∀ r, e.canAccessKey claims k op = some r → (r.authorized = true ↔
      ∃ name ∈ claims.roles, ∃ role, e.config_.roles.lookup name = some role ∧
        op ∈ role.allowed_operations ∧
        (k.namespace_prefix = [] ∨ GrantsNamespace role k.namespace_prefix)) := by
  refine ⟨fun hne => ?_, fun r h => ?_⟩
  · cases h : e.canAccessKey claims k op with
    | some r => exact ⟨r, rfl⟩
    | none =>
      obtain ⟨name, hn, role, hl, hr⟩ := nil_mem_of_authorizeLoop_eq_none h
      exact absurd hr (hne name hn role hl)
  · rw [authorizeLoop_eq_some h]
    refine exists_congr fun name => and_congr_right fun hn => exists_congr fun role =>
      and_congr_right fun hl => ?_
    simp only [RoleGrants, hadmin name hn role hl, hiso, hasOperation, List.elem_iff,
      List.contains, Bool.false_eq_true, false_or, true_implies, ne_eq, imp_iff_not_or, not_not,
      not_true_eq_false]

/-! ## Runs of role updates -/

/-- A call that changes an engine's roles. -/
inductive RoleUpdate
  | addRole (role : Role)
  | removeRole (role_name : List Char)
  deriving DecidableEq, Repr

/-- The engine after one call. -/
def applyUpdate (e : RBACEngine) : RoleUpdate → RBACEngine
  | .addRole role => e.addRole role
  | .removeRole role_name => e.removeRole role_name

/-- A call that adds no empty pattern. -/
def RoleUpdate.Clean : RoleUpdate → Prop
  | .addRole role => [] ∉ role.allowed_namespaces
  | .removeRole _ => True

/-- No configured role lists an empty pattern. -/
def NoEmptyPattern (e : RBACEngine) : Prop :=
  ∀ entry ∈ e.config_.roles, [] ∉ entry.2.allowed_namespaces

theorem noEmptyPattern_applyUpdate {e : RBACEngine} (h : NoEmptyPattern e) {u : RoleUpdate}
    (hu : u.Clean) : NoEmptyPattern (applyUpdate e u) := by
  cases u with
  | addRole role =>
    intro entry hm
    rcases List.mem_cons.1 hm with rfl | hm
    · exact hu
    · exact h entry (List.mem_of_mem_filter hm)
  | removeRole role_name => exact fun entry hm => h entry (List.mem_of_mem_filter hm)

/-- Calls that add no empty pattern keep the invariant along the whole run. -/
theorem noEmptyPattern_foldl {e : RBACEngine} (h : NoEmptyPattern e) {us : List RoleUpdate}
    (hus : ∀ u ∈ us, u.Clean) : NoEmptyPattern (us.foldl applyUpdate e) := by
  induction us generalizing e with
  | nil => exact h
  | cons u us ih =>
    exact ih (noEmptyPattern_applyUpdate h (hus u (List.mem_cons_self _ _)))
      fun u' hu' => hus u' (List.mem_cons_of_mem _ hu')

/-- Without empty patterns, `authorize` is defined on every request. -/
theorem authorize_isSome {e : RBACEngine} (h : NoEmptyPattern e) (request : AuthorizationRequest) :
    ∃ r, e.authorize request = some r := by
  cases ha : e.authorize request with
  | some r => exact ⟨r, rfl⟩
  | none =>
    obtain ⟨name, -, role, hl, hr⟩ := nil_mem_of_authorizeLoop_eq_none ha
    exact absurd hr (h _ (StdMap.mem_of_lookup hl))

/-- **An engine set up with the default roles stays defined.** From an empty configuration, add
the default roles, then make any calls that add no empty pattern: `authorize` is defined on every
request. -/
theorem authorize_isSome_defaultRoles (config_ : RBACConfig) (hc : config_.roles = [])
    (us : List RoleUpdate) (hus : ∀ u ∈ us, u.Clean) (request : AuthorizationRequest) :
    ∃ r, (([DefaultRoles.admin, DefaultRoles.keyManager, DefaultRoles.encryptor,
      DefaultRoles.signer, DefaultRoles.reader].map RoleUpdate.addRole ++ us).foldl applyUpdate
        ⟨config_⟩).authorize request = some r := by
  refine authorize_isSome (noEmptyPattern_foldl (fun entry hm => ?_) ?_) request
  · simp [hc] at hm
  · simp only [List.mem_append, List.mem_map, List.mem_cons, List.not_mem_nil, or_false]
    rintro u (⟨role, hr, rfl⟩ | hu)
    · rcases hr with rfl | rfl | rfl | rfl | rfl <;> exact List.not_mem_nil _
    · exact hus u hu

/-- A reader of `tenant-a` reads the key `:k:1`, whose namespace (empty, as `KeyId::parse`
accepts it) its pattern does not grant; and a reader that lists an empty pattern makes a request
for `tenant-b` undefined. -/
theorem canAccessKey_namespace_isolation_empty :
    KeyId.parse ":k:1".toList = .ok ⟨[], "k".toList, 1⟩ ∧
      ¬ GrantsNamespace ⟨"reader".toList, [.KEY_READ], ["tenant-a".toList], false⟩ [] ∧
      (∃ r, (RBACEngine.mk ⟨[("reader".toList,
          ⟨"reader".toList, [.KEY_READ], ["tenant-a".toList], false⟩)], true⟩).canAccessKey
        { roles := ["reader".toList] } ⟨[], "k".toList, 1⟩ .KEY_READ = some r ∧
        r.authorized = true) ∧
      (RBACEngine.mk ⟨[("reader".toList, ⟨"reader".toList, [.KEY_READ], [[]], false⟩)], true⟩).canAccessKey
        { roles := ["reader".toList] } ⟨"tenant-b".toList, "k".toList, 1⟩ .KEY_READ = none := by
  have h := canAccessKey_namespace_isolation
    (RBACEngine.mk ⟨[("reader".toList, ⟨"reader".toList, [.KEY_READ], ["tenant-a".toList], false⟩)],
      true⟩) { roles := ["reader".toList] } ⟨[], "k".toList, 1⟩ .KEY_READ rfl
    (fun name hn role hl => by
      rw [List.mem_singleton.1 hn] at hl
      cases hl
      rfl)
  obtain ⟨r, hr⟩ := h.1 fun name hn role hl => by
    rw [List.mem_singleton.1 hn] at hl
    cases hl
    decide
  exact ⟨by decide, by decide, ⟨r, hr, (h.2 r hr).2 ⟨_, List.mem_singleton_self _, _, rfl,
    List.mem_singleton_self _, .inl rfl⟩⟩, by decide⟩

end RBACEngine

end CryptoService
