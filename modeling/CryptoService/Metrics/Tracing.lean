import CryptoService.Common.Strings
import CryptoService.Common.StdMap

/-!
# W3C trace context

`TraceContext` of `crypto/metrics/tracing.h`: the `traceparent` header
`00-<trace id>-<span id>-<flags>` (`parse`, `toTraceparent`), the `tracestate` header
`key=value,…` kept in a `std::map` (`parseTracestate`, `toTracestate`), and the spans a `Tracer`
starts from them. The random ids of `generateTraceId` and `generateSpanId` are the
environment's draws; the span's clock readings are left out.

* `traceparent_accepted`: every header of the W3C version-00 grammar is accepted, with its two
  ids and `sampled` read from its second flag character, and written back by `toTraceparent`
  when its flags are `00` or `01`. But `parse` checks only the length, the `00-` prefix and that
  neither id is all zeros: any separators, any characters and any trailing text pass.
* `tracestate_sorted_round_trip`: a header of members with distinct keys is parsed into the map
  of its members, sorted by key; it is written back, and carried by a child span, in key order,
  so it comes back unchanged exactly when its keys were sorted already.
-/

namespace CryptoService

/-- `SpanKind`. -/
inductive SpanKind
  | INTERNAL | SERVER | CLIENT | PRODUCER | CONSUMER
  deriving DecidableEq, Repr

/-- `TraceContext`, with the defaults of its members. -/
structure TraceContext where
  trace_id : List Char := []
  span_id : List Char := []
  parent_span_id : List Char := []
  sampled : Bool := true
  tracestate : StdMap (List Char) := []
  deriving DecidableEq, Repr

namespace TraceContext

/-- `TraceContext::parse`. `substr(pos, n)` is `(s.drop pos).take n`; the header is at least 55
characters long wherever it is indexed. -/
def parse (traceparent : List Char) : Option TraceContext :=
  if traceparent.length < 55 then none
  else if traceparent.getD 0 ' ' ≠ '0' ∨ traceparent.getD 1 ' ' ≠ '0' ∨
      traceparent.getD 2 ' ' ≠ '-' then none
  else
    let trace_id := (traceparent.drop 3).take 32
    if trace_id.length ≠ 32 then none
    else if trace_id.all (· = '0') then none
    else
      let span_id := (traceparent.drop (3 + 33)).take 16
      if span_id.length ≠ 16 then none
      else if span_id.all (· = '0') then none
      else
        let sampled :=
          if 3 + 33 + 17 + 2 ≤ traceparent.length then
            decide (((traceparent.drop (3 + 33 + 17)).take 2).getD 1 ' ' = '1')
          else true
        some { trace_id, span_id, sampled }

/-- `TraceContext::toTraceparent`. -/
def toTraceparent (ctx : TraceContext) : List Char :=
  "00-".toList ++ ctx.trace_id ++ '-' :: ctx.span_id ++ '-' ::
    (if ctx.sampled then "01" else "00").toList

/-- The blanks that `find_first_not_of(" \t")` and `find_last_not_of(" \t")` skip. -/
def isBlank (c : Char) : Bool := c = ' ' || c = '\t'

/-- The two `erase` calls that trim a key or a value of `tracestate`. -/
def trimBlanks (s : List Char) : List Char :=
  ((s.dropWhile isBlank).reverse.dropWhile isBlank).reverse

/-- `pair.find('=')`, and the two `substr` before and after it. -/
def splitAtEq : List Char → Option (List Char × List Char)
  | [] => none
  | c :: s => if c = '=' then some ([], s) else (splitAtEq s).map fun p => (c :: p.1, p.2)

/-- One member of a `tracestate` header, assigned into the map when it has an `=`. -/
def addMember (m : StdMap (List Char)) (pair : List Char) : StdMap (List Char) :=
  match splitAtEq pair with
  | some (key, value) => StdMap.assign (trimBlanks key) (trimBlanks value) m
  | none => m

/-- `TraceContext::parseTracestate`: the members between commas, read with `std::getline`. -/
def parseTracestate (tracestate_header : List Char) (ctx : TraceContext) : TraceContext :=
  if tracestate_header = [] then ctx
  else { ctx with tracestate := (getlineFields ',' [] tracestate_header).foldl addMember ctx.tracestate }

/-- The loop of `toTracestate`: `key=value` for each entry, a comma before all but the first. -/
def joinMembers : StdMap (List Char) → List Char
  | [] => []
  | [e] => e.1 ++ '=' :: e.2
  | e :: es => e.1 ++ '=' :: e.2 ++ ',' :: joinMembers es

/-- `TraceContext::toTracestate`. -/
def toTracestate (ctx : TraceContext) : List Char :=
  if ctx.tracestate = [] then [] else joinMembers ctx.tracestate

/-- `TraceContext::correlationId`. -/
def correlationId (ctx : TraceContext) : List Char :=
  if ctx.trace_id = [] then [] else ctx.trace_id.take 16

end TraceContext

/-- `Span`: its name, kind, context and attributes. -/
structure Span where
  name : List Char
  kind : SpanKind
  context : TraceContext
  attributes : StdMap (List Char)

/-- `Span(name, kind, context)`: a context with a trace id sets the `correlation_id` attribute. -/
def Span.create (name : List Char) (kind : SpanKind) (context : TraceContext) : Span :=
  ⟨name, kind, context,
    if context.trace_id = [] then []
    else StdMap.assign "correlation_id".toList context.correlationId []⟩

/-- `Tracer`. -/
structure Tracer where
  service_name : List Char

namespace Tracer

/-- The `service.name` attribute every started span gets. -/
def withServiceName (t : Tracer) (s : Span) : Span :=
  { s with attributes := StdMap.assign "service.name".toList t.service_name s.attributes }

/-- `Tracer::startSpan(name, kind)`: a new trace, sampled, with the drawn ids. -/
def startSpan (t : Tracer) (name : List Char) (kind : SpanKind) (traceId spanId : List Char) :
    Span :=
  t.withServiceName (Span.create name kind { trace_id := traceId, span_id := spanId, sampled := true })

/-- `Tracer::startSpan(name, parent, kind)`: a child of `parent`, with the drawn span id; it
keeps the parent's trace id, sampling and `tracestate`. -/
def startSpanOfParent (t : Tracer) (name : List Char) (parent : TraceContext) (kind : SpanKind)
    (spanId : List Char) : Span :=
  t.withServiceName (Span.create name kind
    { trace_id := parent.trace_id, span_id := spanId, parent_span_id := parent.span_id,
      sampled := parent.sampled, tracestate := parent.tracestate })

/-- `Tracer::startSpanFromHeaders`: a child of an accepted `traceparent`, carrying the parsed
`tracestate`, or else a new trace. -/
def startSpanFromHeaders (t : Tracer) (name traceparent tracestate : List Char) (kind : SpanKind)
    (traceId spanId : List Char) : Span :=
  match TraceContext.parse traceparent with
  | some parent =>
    t.startSpanOfParent name
      (if tracestate = [] then parent else parent.parseTracestate tracestate) kind spanId
  | none => t.startSpan name kind traceId spanId

end Tracer

/-! ## The `traceparent` grammar -/

/-- A lower-case hexadecimal digit. -/
def isLowerHexDigit (c : Char) : Bool := c.isDigit || ('a' ≤ c && c ≤ 'f')

/-- The spec's W3C version-00 `traceparent` header: `00-`, 32 lower-case hexadecimal digits
not all `0`, `-`, 16 such digits not all `0`, `-`, and two hexadecimal digits. -/
def IsTraceparentText (s : List Char) : Prop :=
  ∃ t p f, s = "00-".toList ++ (t ++ '-' :: (p ++ '-' :: f)) ∧ t.length = 32 ∧
    t.all isLowerHexDigit ∧ ¬ t.all (· = '0') ∧ p.length = 16 ∧ p.all isLowerHexDigit ∧
    ¬ p.all (· = '0') ∧ f.length = 2 ∧ f.all isHexDigit

namespace TraceContext

/-- A header laid out as the grammar lays it out is accepted with its two ids, and with
`sampled` read from the second flag character; the characters themselves are not checked. -/
theorem parse_layout {t p f : List Char} (ht : t.length = 32) (hp : p.length = 16)
    (hf : f.length = 2) (ht0 : ¬ t.all (· = '0')) (hp0 : ¬ p.all (· = '0')) :
    parse ("00-".toList ++ (t ++ '-' :: (p ++ '-' :: f))) =
      some { trace_id := t, span_id := p, sampled := decide (f.getD 1 ' ' = '1') } := by
  have hd3 : ("00-".toList ++ (t ++ '-' :: (p ++ '-' :: f))).drop 3 = t ++ '-' :: (p ++ '-' :: f) :=
    List.drop_left' rfl
  have hd36 : ("00-".toList ++ (t ++ '-' :: (p ++ '-' :: f))).drop (3 + 33) = p ++ '-' :: f := by
    rw [← List.drop_drop, hd3, List.drop_append_eq_append_drop, List.drop_eq_nil_of_le (by omega),
      ht]
    rfl
  have hd53 : ("00-".toList ++ (t ++ '-' :: (p ++ '-' :: f))).drop (3 + 33 + 17) = f := by
    rw [← List.drop_drop, hd36, List.drop_append_eq_append_drop, List.drop_eq_nil_of_le (by omega),
      hp]
    rfl
  have hlen : ("00-".toList ++ (t ++ '-' :: (p ++ '-' :: f))).length = 55 := by
    simp only [List.length_append, List.length_cons, ht, hp, hf]; rfl
  unfold parse
  rw [hd3, List.take_left' ht, hd36, List.take_left' hp, hd53, List.take_of_length_le hf.le, hlen]
  simp only [ht, hp, ht0, hp0, if_false, ne_eq, not_true_eq_false, le_refl, if_true]
  rfl

/-- `toTraceparent` writes the flags back as `01` or `00`. -/
theorem toTraceparent_layout {t p f : List Char} (hf : f = "00".toList ∨ f = "01".toList) :
    toTraceparent { trace_id := t, span_id := p, sampled := decide (f.getD 1 ' ' = '1') } =
      "00-".toList ++ (t ++ '-' :: (p ++ '-' :: f)) := by
  rcases hf with rfl | rfl <;> simp [toTraceparent]

/-- What `parse` accepts: a header of at least 55 characters that starts with `00-` and whose
two id fields are not all `0`. -/
theorem parse_isSome_iff (s : List Char) :
    (parse s).isSome ↔ 55 ≤ s.length ∧ s.getD 0 ' ' = '0' ∧ s.getD 1 ' ' = '0' ∧
      s.getD 2 ' ' = '-' ∧ ¬ ((s.drop 3).take 32).all (· = '0') ∧
      ¬ ((s.drop (3 + 33)).take 16).all (· = '0') := by
  simp only [Option.isSome_iff_exists, parse, Option.ite_none_left_eq_some, Option.some.injEq,
    exists_and_left, exists_eq', and_true, List.length_take, List.length_drop, not_lt, ne_eq,
    not_or, not_not]
  constructor
  · rintro ⟨hl, ⟨h0, h1, h2⟩, -, h32, -, h16⟩
    exact ⟨hl, h0, h1, h2, h32, h16⟩
  · rintro ⟨hl, h0, h1, h2, h32, h16⟩
    exact ⟨hl, ⟨h0, h1, h2⟩, by omega, h32, by omega, h16⟩

/-- **What `TraceContext::parse` accepts.** A header laid out as the grammar lays it out is
accepted, with its two ids, `sampled` read from the second flag character, and written back by
`toTraceparent` when its flags are `00` or `01`. Beyond that, `parse` checks only that the header
has at least 55 characters, starts with `00-`, and that neither id field is all `0`: the
characters of the ids and flags, the two separators and any trailing text are not checked. -/
theorem traceparent_accepted :
    (∀ t p f : List Char, t.length = 32 → p.length = 16 → f.length = 2 →
      ¬ t.all (· = '0') → ¬ p.all (· = '0') →
      parse ("00-".toList ++ (t ++ '-' :: (p ++ '-' :: f))) =
        some { trace_id := t, span_id := p, sampled := decide (f.getD 1 ' ' = '1') } ∧
      (f = "00".toList ∨ f = "01".toList →
        toTraceparent { trace_id := t, span_id := p, sampled := decide (f.getD 1 ' ' = '1') } =
          "00-".toList ++ (t ++ '-' :: (p ++ '-' :: f)))) ∧
    ∀ s, (parse s).isSome ↔ 55 ≤ s.length ∧ s.getD 0 ' ' = '0' ∧ s.getD 1 ' ' = '0' ∧
      s.getD 2 ' ' = '-' ∧ ¬ ((s.drop 3).take 32).all (· = '0') ∧
      ¬ ((s.drop (3 + 33)).take 16).all (· = '0') :=
  ⟨fun _ _ _ ht hp hf ht0 hp0 => ⟨parse_layout ht hp hf ht0 hp0, toTraceparent_layout⟩,
    parse_isSome_iff⟩

/-- The W3C example header with a trailing `x` is outside the grammar and accepted; with flags
`03`, whose low bit is set, `sampled` is false. -/
theorem traceparent_accepted_trailing :
    ¬ IsTraceparentText "00-0af7651916cd43dd8448eb211c80319c-b7ad6b7169203331-01x".toList ∧
    (parse "00-0af7651916cd43dd8448eb211c80319c-b7ad6b7169203331-01x".toList).isSome ∧
    parse ("00-".toList ++ ("0af7651916cd43dd8448eb211c80319c".toList ++ '-' ::
        ("b7ad6b7169203331".toList ++ '-' :: "03".toList))) =
      some { trace_id := "0af7651916cd43dd8448eb211c80319c".toList,
             span_id := "b7ad6b7169203331".toList, sampled := false } := by
  refine ⟨?_, (traceparent_accepted.2 _).2 (by decide),
    (traceparent_accepted.1 _ _ _ (by rfl) (by rfl) (by rfl) (by decide) (by decide)).1⟩
  rintro ⟨t, p, f, hs, ht, -, -, hp, -, -, hf, -⟩
  have := congrArg List.length hs
  simp only [List.length_append, List.length_cons, ht, hp, hf] at this
  exact absurd this (by decide)

/-! ## The `tracestate` header -/

/-- A text with no white space at either end. -/
def noSurroundingSpace (s : List Char) : Bool :=
  (s.head?.all fun c => !isSpace c) && (s.getLast?.all fun c => !isSpace c)

/-- The spec's member of a `tracestate` header: a key without `,`, `=` or surrounding white
space, and a value without `,` or surrounding white space. -/
def isMember (e : List Char × List Char) : Bool :=
  decide (',' ∉ e.1) && decide ('=' ∉ e.1) && noSurroundingSpace e.1 && decide (',' ∉ e.2) &&
    noSurroundingSpace e.2

theorem isBlank_eq_false {c : Char} (h : isSpace c = false) : isBlank c = false := by
  simp only [isSpace, isBlank, Bool.or_eq_false_iff] at h ⊢
  exact h.1.1.1.1

theorem dropWhile_isBlank {s : List Char} (h : s.head?.all (fun c => !isSpace c) = true) :
    s.dropWhile isBlank = s := by
  cases s with
  | nil => rfl
  | cons c s =>
    simp only [List.head?_cons, Option.all_some, Bool.not_eq_true'] at h
    exact List.dropWhile_cons_of_neg (by simp [isBlank_eq_false h])

theorem trimBlanks_eq_self {s : List Char} (h : noSurroundingSpace s = true) : trimBlanks s = s := by
  simp only [noSurroundingSpace, Bool.and_eq_true] at h
  rw [trimBlanks, dropWhile_isBlank h.1, dropWhile_isBlank (by rw [List.head?_reverse]; exact h.2),
    List.reverse_reverse]

theorem splitAtEq_append {k : List Char} (hk : '=' ∉ k) (v : List Char) :
    splitAtEq (k ++ '=' :: v) = some (k, v) := by
  induction k with
  | nil => simp [splitAtEq]
  | cons c k ih =>
    simp only [List.mem_cons, not_or] at hk
    simp [splitAtEq, Ne.symm hk.1, ih hk.2]

/-- The text of a member, `key=value`. -/
theorem addMember_member {e : List Char × List Char} (he : isMember e = true) (m : StdMap (List Char)) :
    addMember m (e.1 ++ '=' :: e.2) = StdMap.assign e.1 e.2 m := by
  simp only [isMember, Bool.and_eq_true, decide_eq_true_eq] at he
  simp only [addMember, splitAtEq_append he.1.1.1.2, trimBlanks_eq_self he.1.1.2,
    trimBlanks_eq_self he.2]

/-- `std::getline` on `,` gives back the members of a header. -/
theorem getlineFields_joinMembers {es : List (List Char × List Char)}
    (hm : ∀ e ∈ es, isMember e = true) (hne : es ≠ []) :
    getlineFields ',' [] (joinMembers es) = es.map fun e => e.1 ++ '=' :: e.2 := by
  have hc : ∀ e ∈ es, ',' ∉ e.1 ++ '=' :: e.2 := fun e he => by
    have := hm e he
    simp only [isMember, Bool.and_eq_true, decide_eq_true_eq] at this
    simp [this.1.1.1.1, this.1.2]
  induction es with
  | nil => exact absurd rfl hne
  | cons e es ih =>
    cases es with
    | nil => exact getlineFields_single (hc e (List.mem_singleton_self _)) (by simp [joinMembers])
    | cons e' es =>
      show getlineFields ',' [] (e.1 ++ '=' :: e.2 ++ ',' :: joinMembers (e' :: es)) = _
      rw [getlineFields_sep (hc e (List.mem_cons_self _ _)), List.map_cons,
        ih (fun x hx => hm x (List.mem_cons_of_mem _ hx)) (by simp)
          (fun x hx => hc x (List.mem_cons_of_mem _ hx))]
      rfl

theorem joinMembers_eq_nil {es : List (List Char × List Char)} (h : joinMembers es = []) :
    es = [] := by
  match es, h with
  | [], _ => rfl
  | [e], h => simp [joinMembers] at h
  | _ :: _ :: _, h => simp [joinMembers] at h

/-- Headers of members are equal only for equal lists of members. -/
theorem joinMembers_inj {es es' : List (List Char × List Char)} (hm : ∀ e ∈ es, isMember e = true)
    (hm' : ∀ e ∈ es', isMember e = true) (h : joinMembers es = joinMembers es') : es = es' := by
  rcases eq_or_ne es [] with rfl | hne
  · exact (joinMembers_eq_nil h.symm).symm
  rcases eq_or_ne es' [] with rfl | hne'
  · exact joinMembers_eq_nil h
  have h₁ := congrArg (getlineFields ',' []) h
  rw [getlineFields_joinMembers hm hne, getlineFields_joinMembers hm' hne'] at h₁
  have h₂ := congrArg (List.map splitAtEq) h₁
  rw [List.map_map, List.map_map, List.map_congr_left (fun e he => by
      have := hm e he
      simp only [isMember, Bool.and_eq_true, decide_eq_true_eq] at this
      exact splitAtEq_append this.1.1.1.2 e.2),
    List.map_congr_left (l := es') (fun e he => by
      have := hm' e he
      simp only [isMember, Bool.and_eq_true, decide_eq_true_eq] at this
      exact splitAtEq_append this.1.1.1.2 e.2)] at h₂
  exact List.map_injective_iff.2 (Option.some_injective _) h₂

theorem toTracestate_eq (ctx : TraceContext) : ctx.toTracestate = joinMembers ctx.tracestate := by
  unfold toTracestate
  split <;> simp_all [joinMembers]

/-- A header of members, parsed into a context without a `tracestate`, is the assignment of its
members, one after the other. -/
theorem parseTracestate_joinMembers {es : List (List Char × List Char)}
    (hm : ∀ e ∈ es, isMember e = true) {ctx : TraceContext} (hctx : ctx.tracestate = []) :
    (ctx.parseTracestate (joinMembers es)).tracestate =
      es.foldl (fun m e => StdMap.assign e.1 e.2 m) [] := by
  rcases eq_or_ne es [] with rfl | hne
  · simp [parseTracestate, joinMembers, hctx]
  · have hj : joinMembers es ≠ [] := fun h => hne (joinMembers_eq_nil h)
    rw [parseTracestate, if_neg hj, getlineFields_joinMembers hm hne, List.foldl_map, hctx]
    exact List.foldl_ext _ _ _ fun m e he => addMember_member (hm e he) m

/-- The map of a header of members with distinct keys: its members, sorted by key. -/
theorem foldl_assign_members {es : List (List Char × List Char)} (hd : (es.map Prod.fst).Nodup) :
    (es.foldl (fun m e => StdMap.assign e.1 e.2 m) []).Perm es ∧
      StdMap.Sorted (es.foldl (fun m e => StdMap.assign e.1 e.2 m) []) := by
  have hs := StdMap.sorted_foldl_assign es (List.Pairwise.nil : StdMap.Sorted ([] : StdMap (List Char)))
  refine ⟨(List.perm_ext_iff_of_nodup ((StdMap.keys_nodup hs).of_map _) (hd.of_map _)).2 ?_, hs⟩
  rintro ⟨k, v⟩
  rw [StdMap.mem_iff_lookup (StdMap.keys_nodup hs), StdMap.mem_iff_lookup hd,
    StdMap.lookup_foldl_assign hd List.Pairwise.nil]
  cases StdMap.lookup k es <;> rfl

/-- What a header of members with distinct keys becomes in a context without a `tracestate`:
its members sorted by key, written back unchanged exactly when they were sorted already. -/
theorem parseTracestate_members {es : List (List Char × List Char)}
    (hm : ∀ e ∈ es, isMember e = true) (hd : (es.map Prod.fst).Nodup) {ctx : TraceContext}
    (hctx : ctx.tracestate = []) :
    (ctx.parseTracestate (joinMembers es)).tracestate.Perm es ∧
      StdMap.Sorted (ctx.parseTracestate (joinMembers es)).tracestate ∧
      ((ctx.parseTracestate (joinMembers es)).toTracestate = joinMembers es ↔ StdMap.Sorted es) := by
  rw [toTracestate_eq, parseTracestate_joinMembers hm hctx]
  obtain ⟨hp, hs⟩ := foldl_assign_members hd
  refine ⟨hp, hs, ⟨fun h => ?_, fun h => by rw [StdMap.eq_of_perm hp hs h]⟩⟩
  rw [← joinMembers_inj (fun e he => hm e (hp.subset he)) hm h]
  exact hs

theorem tracestate_parse {s : List Char} {ctx : TraceContext} (h : parse s = some ctx) :
    ctx.tracestate = [] := by
  simp only [parse, Option.ite_none_left_eq_some, Option.some.injEq] at h
  obtain ⟨-, -, -, -, -, -, rfl⟩ := h
  rfl

end TraceContext

/-- The child of an accepted `traceparent` carries the `tracestate` parsed into it. -/
theorem Tracer.startSpanFromHeaders_tracestate (t : Tracer) {name traceparent : List Char}
    (tracestate : List Char) (kind : SpanKind) (traceId spanId : List Char) {parent : TraceContext}
    (h : TraceContext.parse traceparent = some parent) :
    (t.startSpanFromHeaders name traceparent tracestate kind traceId spanId).context.tracestate =
      (parent.parseTracestate tracestate).tracestate := by
  simp only [startSpanFromHeaders, h, startSpanOfParent, withServiceName, Span.create]
  split_ifs with ht
  · subst ht; rfl
  · rfl

/-- **`tracestate` comes back in key order.** A header of members with distinct keys (keys
without `,`, `=` or surrounding white space, values without `,` or surrounding white space) is
parsed into the map of its members, sorted by key, and written back by `toTracestate` in that
order, so it comes back unchanged exactly when its keys were sorted already. The child span that
`startSpanFromHeaders` starts from an accepted `traceparent` carries that same map. -/
theorem tracestate_sorted_round_trip {es : List (List Char × List Char)}
    (hm : ∀ e ∈ es, TraceContext.isMember e = true) (hd : (es.map Prod.fst).Nodup) :
    (∀ ctx : TraceContext, ctx.tracestate = [] →
      (ctx.parseTracestate (TraceContext.joinMembers es)).tracestate.Perm es ∧
      StdMap.Sorted (ctx.parseTracestate (TraceContext.joinMembers es)).tracestate ∧
      ((ctx.parseTracestate (TraceContext.joinMembers es)).toTracestate =
        TraceContext.joinMembers es ↔ StdMap.Sorted es)) ∧
    ∀ (t : Tracer) (name traceparent : List Char) (kind : SpanKind) (traceId spanId : List Char),
      (TraceContext.parse traceparent).isSome →
      (t.startSpanFromHeaders name traceparent (TraceContext.joinMembers es) kind traceId
        spanId).context.tracestate.Perm es ∧
      StdMap.Sorted (t.startSpanFromHeaders name traceparent (TraceContext.joinMembers es) kind
        traceId spanId).context.tracestate ∧
      ((t.startSpanFromHeaders name traceparent (TraceContext.joinMembers es) kind traceId
        spanId).context.toTracestate = TraceContext.joinMembers es ↔ StdMap.Sorted es) := by
  refine ⟨fun ctx hctx => TraceContext.parseTracestate_members hm hd hctx,
    fun t name traceparent kind traceId spanId hp => ?_⟩
  obtain ⟨parent, hparent⟩ := Option.isSome_iff_exists.1 hp
  rw [TraceContext.toTracestate_eq, t.startSpanFromHeaders_tracestate _ kind traceId spanId hparent,
    ← TraceContext.toTracestate_eq]
  exact TraceContext.parseTracestate_members hm hd (TraceContext.tracestate_parse hparent)

/-- Members `b=1,a=2`, out of key order, come back as `a=2,b=1`. -/
theorem tracestate_sorted_round_trip_unsorted :
    (({} : TraceContext).parseTracestate "b=1,a=2".toList).toTracestate = "a=2,b=1".toList ∧
    (({} : TraceContext).parseTracestate "b=1,a=2".toList).toTracestate ≠ "b=1,a=2".toList := by
  have hj : "b=1,a=2".toList =
      TraceContext.joinMembers [("b".toList, "1".toList), ("a".toList, "2".toList)] := by decide
  refine ⟨by decide, fun h => ?_⟩
  rw [hj] at h
  exact absurd (((tracestate_sorted_round_trip (by decide) (by decide)).1 {} rfl).2.2.1 h)
    (by decide)

end CryptoService
