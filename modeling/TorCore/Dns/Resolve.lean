import TorCore.Relay.Resolved

/-!
# `TorCore.Dns.Resolve` — cached resolves and the RESOLVED encoder of `dns.c`

A `cached_resolve_t` records, per query type (A, AAAA, PTR), a status and either a result or an
error code. `cached_resolve_add_answer` folds one DNS answer into it; `send_resolved_cell` and
`send_resolved_hostname_cell` turn a finished resolve into the RELAY_RESOLVED payload an exit hands
to `connection_edge_send_command`.

The second half of the module closes the loop with the client's decoder of
`TorCore.Relay.Resolved`: every payload `send_resolved_cell` builds parses, to the answers it
encoded, in order (`resolvedCellParse_sendResolvedCell`), and so does every hostname payload with a
nonempty name (`resolvedCellParse_sendResolvedHostnameCell`). The empty name is the exception:
the exit accepts it and the client rejects the record (`resolvedCellParse_emptyHostname`).
-/

namespace TorCore

/-! ## Data model -/

/-- `RES_STATUS_INFLIGHT`, `RES_STATUS_DONE_OK`, `RES_STATUS_DONE_ERR`, and the `0` a fresh
    resolve (or a launch that failed) leaves in the field. -/
inductive ResStatus where
  | unset
  | inflight
  | doneOk
  | doneErr
  deriving DecidableEq, Repr

/-- `CACHE_STATE_PENDING`, `CACHE_STATE_CACHED`, `CACHE_STATE_DONE`. -/
inductive CacheState where
  | pending
  | cached
  | done
  deriving DecidableEq, Repr

/-- The all-zero IPv6 address `tor_malloc_zero` leaves in a fresh resolve. -/
def In6Addr.zero : In6Addr := ⟨List.replicate 16 0, rfl⟩

/-- `cached_resolve_t`. The unions `result_ipv4`, `result_ipv6` and `result_ptr` are split into
    their two members; the code reads the address member only under `RES_STATUS_DONE_OK` and the
    error member only otherwise. Pending connections are edge-connection identifiers. -/
structure CachedResolve where
  address : String
  state : CacheState
  pendingConnections : List Nat
  resStatusIpv4 : ResStatus
  resStatusIpv6 : ResStatus
  resStatusHostname : ResStatus
  addrIpv4 : UInt32
  errIpv4 : Int
  addrIpv6 : In6Addr
  errIpv6 : Int
  hostname : List UInt8
  errHostname : Int
  ttlIpv4 : UInt32
  ttlIpv6 : UInt32
  ttlHostname : UInt32
  expire : Int

/-- `DNS_IPv4_A`, `DNS_IPv6_AAAA`, `DNS_PTR`: the query type of an answer. -/
inductive QueryType where
  | ipv4A
  | ipv6AAAA
  | ptr
  deriving DecidableEq, Repr

/-- `DNS_ERR_NONE`. -/
def DNS_ERR_NONE : Int := 0

/-- `cached_resolve_add_answer`: an answer for a query type whose status is still in flight
    settles that status (`DONE_OK` when the answer is usable, else `DONE_ERR`) and its TTL; an
    answer for any other status changes nothing. -/
def cachedResolveAddAnswer (r : CachedResolve) (queryType : QueryType) (dnsResult : Int)
    (answerAddr : Option TorAddr) (answerHostname : Option (List UInt8)) (ttl : UInt32) :
    CachedResolve :=
  match queryType with
  | .ptr =>
    if r.resStatusHostname ≠ .inflight then r
    else match if dnsResult = DNS_ERR_NONE then answerHostname else none with
      | some h => { r with hostname := h, resStatusHostname := .doneOk, ttlHostname := ttl }
      | none =>
        { r with errHostname := dnsResult, resStatusHostname := .doneErr, ttlHostname := ttl }
  | .ipv4A =>
    if r.resStatusIpv4 ≠ .inflight then r
    else match if dnsResult = DNS_ERR_NONE then answerAddr else none with
      | some (.ipv4 a) => { r with addrIpv4 := a, resStatusIpv4 := .doneOk, ttlIpv4 := ttl }
      | _ => { r with errIpv4 := dnsResult, resStatusIpv4 := .doneErr, ttlIpv4 := ttl }
  | .ipv6AAAA =>
    if r.resStatusIpv6 ≠ .inflight then r
    else match if dnsResult = DNS_ERR_NONE then answerAddr else none with
      | some (.ipv6 a) => { r with addrIpv6 := a, resStatusIpv6 := .doneOk, ttlIpv6 := ttl }
      | _ => { r with errIpv6 := dnsResult, resStatusIpv6 := .doneErr, ttlIpv6 := ttl }

/-- `cached_resolve_have_all_answers`: no query of the resolve is still in flight. -/
def cachedResolveHaveAllAnswers (r : CachedResolve) : Bool :=
  r.resStatusIpv4 != .inflight && r.resStatusIpv6 != .inflight &&
    r.resStatusHostname != .inflight

/-! ## The RESOLVED encoder -/

/-- `RESOLVED_TYPE_AUTO`: "answer with whatever address families the resolve found". -/
def RESOLVED_TYPE_AUTO : UInt8 := 0xff

/-- The bytes of `"Error resolving hostname"`, the text of every error answer. -/
def resolveErrmsg : List UInt8 := "Error resolving hostname".data.map fun c => UInt8.ofNat c.toNat

@[simp] theorem resolveErrmsg_length : resolveErrmsg.length = 24 := rfl

/-- The error answer of `send_resolved_cell`: `type`, `msglen`, the text, the TTL. -/
def resolvedErrorPayload (answerType : UInt8) (ttl : UInt32) : List UInt8 :=
  [answerType, UInt8.ofNat resolveErrmsg.length] ++ resolveErrmsg ++ setUint32 ttl

/-- `send_resolved_cell`: the payload handed to `connection_edge_send_command`, built from
    `conn->address_ttl`, the requested answer type and the resolve (`NULL` is `none`); `none` at
    the `tor_assert(0)` an unknown answer type reaches. -/
def sendResolvedCell (addressTtl : UInt32) (answerType : UInt8)
    (resolved : Option CachedResolve) : Option (List UInt8) :=
  let ttl := addressTtl
  if answerType = RESOLVED_TYPE_AUTO then
    let v4 := match resolved with
      | some r => if r.resStatusIpv4 = .doneOk then
          [RESOLVED_TYPE_IPV4, 4] ++ setUint32 r.addrIpv4 ++ setUint32 ttl else []
      | none => []
    let v6 := match resolved with
      | some r => if r.resStatusIpv6 = .doneOk then
          [RESOLVED_TYPE_IPV6, 16] ++ r.addrIpv6.bytes ++ setUint32 ttl else []
      | none => []
    if v4 ++ v6 ≠ [] then some (v4 ++ v6)
    else some (resolvedErrorPayload RESOLVED_TYPE_ERROR ttl)
  else if answerType = RESOLVED_TYPE_ERROR_TRANSIENT ∨ answerType = RESOLVED_TYPE_ERROR then
    some (resolvedErrorPayload answerType ttl)
  else none

/-- `send_resolved_hostname_cell`: the payload for a reverse answer, or `none` where the source
    returns early (`BUG(!hostname)`, `BUG(namelen >= 256)`). -/
def sendResolvedHostnameCell (addressTtl : UInt32) (hostname : Option CString) :
    Option (List UInt8) :=
  match hostname with
  | none => none
  | some name =>
    let namelen := name.bytes.length
    if namelen ≥ 256 then none
    else some ([RESOLVED_TYPE_HOSTNAME, UInt8.ofNat namelen] ++ name.bytes ++ setUint32 addressTtl)

/-! ## The encoder against the decoder -/

/-- The answers an AUTO reply carries: the IPv4 answer, then the IPv6 answer, each when its
    lookup succeeded, each with the connection's TTL. -/
def resolvedAnswers (r : CachedResolve) (ttl : UInt32) : List AddressTtl :=
  (if r.resStatusIpv4 = .doneOk then [⟨.ipv4 r.addrIpv4, none, ttl⟩] else []) ++
    (if r.resStatusIpv6 = .doneOk then [⟨.ipv6 r.addrIpv6, none, ttl⟩] else [])

/-- What the client should read back from a reply of type `answerType`: the encoded answers with
    no error code, or no answer and the error type that was emitted. -/
def resolvedReply (r : CachedResolve) (ttl : UInt32) (answerType : UInt8) :
    List AddressTtl × UInt8 :=
  if answerType = RESOLVED_TYPE_AUTO ∧ resolvedAnswers r ttl ≠ [] then (resolvedAnswers r ttl, 0)
  else ([], if answerType = RESOLVED_TYPE_AUTO then RESOLVED_TYPE_ERROR else answerType)

/-- A payload short enough for one cell parses exactly as its records do. -/
theorem resolvedCellParse_ofPayload {p : List UInt8} (command : UInt8) (streamId : UInt16)
    (pad : List UInt8) (hp : p.length ≤ RELAY_PAYLOAD_SIZE_MAX) :
    resolvedCellParse (RelayMsg.ofPayload command streamId p pad) =
      (resolvedCellParseLoop (p ++ pad) p.length [] 0).map reportErrcode := by
  simp [resolvedCellParse, RelayMsg.ofPayload, show ¬ RELAY_PAYLOAD_SIZE_MAX < p.length by omega]

theorem resolvedErrorPayload_eq (t : UInt8) (ttl : UInt32) :
    resolvedErrorPayload t ttl = answerRecord t resolveErrmsg ttl := by
  simp [resolvedErrorPayload, answerRecord]

/-- An error reply parses to no answer and its own type. -/
theorem parse_resolvedErrorPayload {t : UInt8} (ttl : UInt32) (command : UInt8)
    (streamId : UInt16) (pad : List UInt8)
    (ht : t = RESOLVED_TYPE_ERROR_TRANSIENT ∨ t = RESOLVED_TYPE_ERROR) :
    resolvedCellParse (RelayMsg.ofPayload command streamId (resolvedErrorPayload t ttl) pad) =
      .ok ([], t) := by
  have hne : t ≠ 0 := by rcases ht with rfl | rfl <;> decide
  rw [resolvedCellParse_ofPayload _ _ _ (by simp [resolvedErrorPayload_eq, RELAY_PAYLOAD_SIZE_MAX]),
    resolvedErrorPayload_eq, answerRecord_length, resolveErrmsg_length,
    show 24 + 6 = resolveErrmsg.length + 6 + 0 from rfl,
    loop_errorRecord ttl pad 0 [] 0 ht (by simp), loop_zero]
  simp [Except.map, reportErrcode, hne]

/-- The records of an AUTO reply: the IPv4 record, then the IPv6 record, each when its lookup
    succeeded. -/
def autoRecords (r : CachedResolve) (ttl : UInt32) : List UInt8 :=
  (if r.resStatusIpv4 = .doneOk then answerRecord RESOLVED_TYPE_IPV4 (setUint32 r.addrIpv4) ttl
    else []) ++
  (if r.resStatusIpv6 = .doneOk then answerRecord RESOLVED_TYPE_IPV6 r.addrIpv6.bytes ttl else [])

/-- `send_resolved_cell` with `RESOLVED_TYPE_AUTO` sends the records of the resolve, or an
    error reply when there are none. -/
theorem sendResolvedCell_auto (r : CachedResolve) (ttl : UInt32) :
    sendResolvedCell ttl RESOLVED_TYPE_AUTO (some r) =
      some (if autoRecords r ttl ≠ [] then autoRecords r ttl
        else resolvedErrorPayload RESOLVED_TYPE_ERROR ttl) := by
  have h4 : [RESOLVED_TYPE_IPV4, 4] ++ setUint32 r.addrIpv4 ++ setUint32 ttl =
      answerRecord RESOLVED_TYPE_IPV4 (setUint32 r.addrIpv4) ttl := rfl
  have h6 : [RESOLVED_TYPE_IPV6, 16] ++ r.addrIpv6.bytes ++ setUint32 ttl =
      answerRecord RESOLVED_TYPE_IPV6 r.addrIpv6.bytes ttl := by
    simp [answerRecord, r.addrIpv6.length_eq]
  simp only [sendResolvedCell, autoRecords, h4, h6, if_true]
  split_ifs <;> rfl

theorem autoRecords_eq_nil (r : CachedResolve) (ttl : UInt32) :
    autoRecords r ttl = [] ↔ resolvedAnswers r ttl = [] := by
  unfold autoRecords resolvedAnswers answerRecord
  split_ifs <;> simp

/-- The records of an AUTO reply parse back to the answers they encode, with no error code. -/
theorem loop_autoRecords (r : CachedResolve) (ttl : UInt32) (pad : List UInt8) :
    resolvedCellParseLoop (autoRecords r ttl ++ pad) (autoRecords r ttl).length [] 0 =
      .ok (resolvedAnswers r ttl, 0) := by
  unfold autoRecords resolvedAnswers
  have l6 : (answerRecord RESOLVED_TYPE_IPV6 r.addrIpv6.bytes ttl).length = 22 := by
    simp [r.addrIpv6.length_eq]
  split_ifs
  · rw [List.append_assoc, List.length_append, answerRecord_length, setUint32_length, l6,
      show 4 + 6 + 22 = 10 + (22 + 0) from rfl, loop_ipv4Record, loop_ipv6Record, loop_zero]
    rfl
  · rw [List.append_nil, answerRecord_length, setUint32_length,
      show 4 + 6 = 10 + 0 from rfl, loop_ipv4Record, loop_zero]
    rfl
  · rw [List.nil_append, l6, show 22 = 22 + 0 from rfl, loop_ipv6Record, loop_zero]
  · exact loop_zero _ _ _

/-- **The exit's RESOLVED reply and the client's parser agree.** For every resolve, TTL and type,
    the payload parses to the answers encoded (IPv4 before IPv6, with the TTL), or to no answer and
    the emitted error type when none was encoded or an error was asked for. -/
theorem resolvedCellParse_sendResolvedCell (r : CachedResolve) (addressTtl : UInt32)
    (answerType : UInt8)
    (hType : answerType = RESOLVED_TYPE_AUTO ∨ answerType = RESOLVED_TYPE_ERROR ∨
      answerType = RESOLVED_TYPE_ERROR_TRANSIENT) :
    ∃ p, sendResolvedCell addressTtl answerType (some r) = some p ∧
      ∀ command streamId pad, resolvedCellParse (RelayMsg.ofPayload command streamId p pad) =
        .ok (resolvedReply r addressTtl answerType) := by
  rcases hType with rfl | rfl | rfl
  · refine ⟨_, sendResolvedCell_auto r addressTtl, fun command streamId pad => ?_⟩
    by_cases h : autoRecords r addressTtl = []
    · have hA := (autoRecords_eq_nil r addressTtl).mp h
      simp only [h, ne_eq, not_true_eq_false, if_false]
      rw [parse_resolvedErrorPayload _ _ _ _ (.inr rfl)]
      simp [resolvedReply, hA]
    · have hA : resolvedAnswers r addressTtl ≠ [] := fun h' => h ((autoRecords_eq_nil r _).mpr h')
      have hlen : (autoRecords r addressTtl).length ≤ RELAY_PAYLOAD_SIZE_MAX := by
        unfold autoRecords; split_ifs <;> simp [r.addrIpv6.length_eq, RELAY_PAYLOAD_SIZE_MAX]
      simp only [h, ne_eq, not_false_eq_true, if_true]
      rw [resolvedCellParse_ofPayload _ _ _ hlen, loop_autoRecords]
      simp [Except.map, reportErrcode, resolvedReply, hA]
  · exact ⟨_, rfl, fun command streamId pad => by
      rw [parse_resolvedErrorPayload _ _ _ _ (.inr rfl)]; rfl⟩
  · exact ⟨_, rfl, fun command streamId pad => by
      rw [parse_resolvedErrorPayload _ _ _ _ (.inl rfl)]; rfl⟩

theorem sendResolvedHostnameCell_some (addressTtl : UInt32) (name : CString)
    (hlt : name.bytes.length < 256) :
    sendResolvedHostnameCell addressTtl (some name) =
      some (answerRecord RESOLVED_TYPE_HOSTNAME name.bytes addressTtl) := by
  simp [sendResolvedHostnameCell, answerRecord, show ¬ 256 ≤ name.bytes.length by omega]

/-- **A reverse answer with a nonempty name parses back to that name**, as the one answer of the
    reply, with the connection's TTL. -/
theorem resolvedCellParse_sendResolvedHostnameCell (addressTtl : UInt32) (name : CString)
    (hpos : 0 < name.bytes.length) (hlt : name.bytes.length < 256) :
    ∃ p, sendResolvedHostnameCell addressTtl (some name) = some p ∧
      ∀ command streamId pad, resolvedCellParse (RelayMsg.ofPayload command streamId p pad) =
        .ok ([⟨.unspec, some name.bytes, addressTtl⟩], 0) := by
  refine ⟨_, sendResolvedHostnameCell_some addressTtl name hlt, fun command streamId pad => ?_⟩
  rw [resolvedCellParse_ofPayload _ _ _ (by simp [RELAY_PAYLOAD_SIZE_MAX]; omega),
    answerRecord_length, ← Nat.add_zero (name.bytes.length + 6),
    loop_hostnameRecord addressTtl pad 0 [] 0 hpos hlt, loop_zero]
  rfl

/-- The empty hostname: `send_resolved_hostname_cell` sends a zero-length HOSTNAME record, and
    `resolved_cell_parse` rejects the whole reply. -/
theorem resolvedCellParse_emptyHostname (addressTtl : UInt32) (command : UInt8)
    (streamId : UInt16) (pad : List UInt8) :
    sendResolvedHostnameCell addressTtl (some ⟨[], List.not_mem_nil 0⟩) =
        some (answerRecord RESOLVED_TYPE_HOSTNAME [] addressTtl) ∧
      resolvedCellParse
        (RelayMsg.ofPayload command streamId (answerRecord RESOLVED_TYPE_HOSTNAME [] addressTtl) pad)
        = .error .malformed := by
  refine ⟨sendResolvedHostnameCell_some addressTtl _ (by decide), ?_⟩
  rw [resolvedCellParse_ofPayload _ _ _ (by simp [RELAY_PAYLOAD_SIZE_MAX]), answerRecord_length,
    List.length_nil, Nat.zero_add, ← Nat.add_zero 6, loop_emptyHostnameRecord]
  rfl

end TorCore
