import TorCore.Relay.Resolved

/-!
# `TorCore.Relay.ClientAnswer` — what a client does with an exit's address

An exit names the address it resolved or connected to in three messages: RESOLVED, CONNECTED,
and an END with reason EXITPOLICY. On an origin circuit the AP stream hands such an address on
through three calls: the SOCKS reply `connection_ap_handshake_socks_resolved_addr`,
`client_dns_set_addressmap`, and the REMAP control event. With `ClientDNSRejectInternalAddresses`
set, each path must turn an internal address away before any of them.

Each path is transcribed as the list of calls it makes on the stream, in order (`ClientEffect`).
`tor_addr_is_internal (addr, 0)` and `tor_addr_is_null` are parameters (`isInternal`, `isNull`),
as is the decoding of an END reason byte; `smartlist_del` is a parameter too, with the two laws
the filter loop of `connection_edge_process_resolved_cell` relies on (`SmartlistDel`). None of
them is part of the sources.

## Contents
- **Effects.** `ClientEffect`, `handsOnInternal`.
- **The filter loop.** `smartlistFilterDel` keeps, in some order, exactly the answers the filter
  keeps (`smartlistFilterDel_perm`).
- **RESOLVED.** `socksGotResolvedCell`, `connectionEdgeProcessResolvedCell`.
- **CONNECTED.** `processConnectedCell`.
- **END.** `connectionApProcessEndNotOpen`.
- **Agreement.** `RejectsInternal` and `clientRejectInternal_agree`.
-/

namespace TorCore

/-! ## Effects -/

/-- The reason an AP stream is marked with. -/
inductive StreamCloseReason where
  | torprotocol
  | done
  deriving DecidableEq, Repr

/-- The calls an answer path makes on an AP stream. -/
inductive ClientEffect where
  /-- `connection_ap_handshake_socks_resolved` with an error type and no answer. -/
  | socksResolvedError (answerType : UInt8)
  /-- `connection_ap_handshake_socks_resolved` with `RESOLVED_TYPE_NOERROR` and no answer. -/
  | socksResolvedNoError
  /-- `connection_ap_handshake_socks_resolved` with a `RESOLVED_TYPE_HOSTNAME` answer. -/
  | socksResolvedHostname (hostname : List UInt8) (ttl : UInt32)
  /-- `connection_ap_handshake_socks_resolved_addr`. -/
  | socksResolvedAddr (addr : TorAddr) (ttl : UInt32)
  /-- `client_dns_set_addressmap`. -/
  | setAddressmap (addr : TorAddr) (ttl : Int)
  /-- `remap_event_helper`, or the END path's own REMAP event. -/
  | remap (addr : TorAddr)
  /-- `connection_ap_handshake_socks_reply` with no address. -/
  | socksReply
  /-- `connection_edge_end`: an END goes back to the exit. -/
  | edgeEnd
  /-- `connection_mark_unattached_ap`. -/
  | markClosed (reason : StreamCloseReason)
  deriving DecidableEq

/-- The address an effect hands on, if any. -/
def ClientEffect.addr : ClientEffect → Option TorAddr
  | .socksResolvedAddr a _ | .setAddressmap a _ | .remap a => some a
  | _ => none

/-- Whether some effect hands on an address `isInternal` holds of. -/
def handsOnInternal (isInternal : TorAddr → Bool) (effects : List ClientEffect) : Bool :=
  effects.any fun e => (e.addr.map isInternal).getD false

@[simp] theorem handsOnInternal_nil (isInternal : TorAddr → Bool) :
    handsOnInternal isInternal [] = false := rfl

@[simp] theorem handsOnInternal_append (isInternal : TorAddr → Bool) (l l' : List ClientEffect) :
    handsOnInternal isInternal (l ++ l') =
      (handsOnInternal isInternal l || handsOnInternal isInternal l') :=
  List.any_append

@[simp] theorem handsOnInternal_cons (isInternal : TorAddr → Bool) (e : ClientEffect)
    (l : List ClientEffect) :
    handsOnInternal isInternal (e :: l) =
      ((e.addr.map isInternal).getD false || handsOnInternal isInternal l) :=
  List.any_cons

/-- The options and `entry_cfg` flags the answer paths read. -/
structure ClientConfig where
  /-- `ClientDNSRejectInternalAddresses`. -/
  rejectInternal : Bool
  ipv4Traffic : Bool
  ipv6Traffic : Bool
  preferIpv6 : Bool

/-- An address of a family the stream does not accept. -/
def familyRefused (cfg : ClientConfig) : TorAddr → Bool
  | .ipv4 _ => !cfg.ipv4Traffic
  | .ipv6 _ => !cfg.ipv6Traffic
  | .unspec => false

/-! ## The filter loop -/

/-- `smartlist_del (sl, idx)`: it removes the element at `idx`, possibly moving later ones, and
    leaves the slots before `idx` alone. -/
structure SmartlistDel where
  del : List AddressTtl → Nat → List AddressTtl
  perm_eraseIdx : ∀ l i, i < l.length → (del l i).Perm (l.eraseIdx i)
  take_eq : ∀ l i, i < l.length → (del l i).take i = l.take i

/-- A deletion in which the last element takes the freed slot. -/
def swapLastDel (l : List AddressTtl) (i : Nat) : List AddressTtl :=
  match (l.drop (i + 1)).reverse with
  | [] => l.take i
  | last :: rest => l.take i ++ last :: rest.reverse

/-- `swapLastDel` satisfies the laws of `smartlist_del`. -/
def SmartlistDel.swapLast : SmartlistDel where
  del := swapLastDel
  perm_eraseIdx l i _ := by
    rw [List.eraseIdx_eq_take_drop_succ, swapLastDel]
    split
    · next h => simp [List.reverse_eq_nil_iff.mp h]
    · next last rest h =>
      rw [← List.reverse_reverse (l.drop (i + 1)), h, List.reverse_cons]
      exact List.Perm.append_left _ (List.perm_append_singleton _ _).symm
  take_eq l i hi := by
    rw [swapLastDel]
    split <;> simp [List.take_left', Nat.le_of_lt hi]

/-- `SMARTLIST_FOREACH` over `l` from index `i`, with `SMARTLIST_DEL_CURRENT` on every element
    `drop` holds of: after a deletion the same slot is looked at again. -/
def smartlistFilterDel (D : SmartlistDel) (drop : AddressTtl → Bool) (l : List AddressTtl)
    (i : Nat) : List AddressTtl :=
  if h : i < l.length then
    if drop l[i] then smartlistFilterDel D drop (D.del l i) i
    else smartlistFilterDel D drop l (i + 1)
  else l
termination_by l.length - i
decreasing_by
  all_goals simp_wf
  · have := (D.perm_eraseIdx l i h).length_eq
    rw [List.length_eraseIdx, if_pos h] at this
    omega
  · omega

/-- **The loop keeps exactly the answers the filter keeps**, the slots it has passed untouched. -/
theorem smartlistFilterDel_perm (D : SmartlistDel) (drop : AddressTtl → Bool)
    (l : List AddressTtl) (i : Nat) :
    (smartlistFilterDel D drop l i).Perm (l.take i ++ (l.drop i).filter fun a => !drop a) := by
  induction l, i using smartlistFilterDel.induct D drop with
  | case1 l i h hd ih =>
    rw [smartlistFilterDel, dif_pos h, if_pos hd]
    have hsplit := List.take_append_drop i (D.del l i)
    have hrest : ((D.del l i).drop i).Perm (l.drop (i + 1)) := by
      rw [← List.perm_append_left_iff (l.take i), ← D.take_eq l i h, hsplit, D.take_eq l i h,
        ← List.eraseIdx_eq_take_drop_succ]
      exact D.perm_eraseIdx l i h
    refine ih.trans ?_
    rw [D.take_eq l i h, List.drop_eq_getElem_cons h, List.filter_cons_of_neg (by simp [hd])]
    exact (hrest.filter _).append_left _
  | case2 l i h hd ih =>
    rw [smartlistFilterDel, dif_pos h, if_neg hd]
    have htake : l.take (i + 1) = l.take i ++ [l[i]] := by
      rw [List.take_succ, List.getElem?_eq_getElem h]
      rfl
    rw [List.drop_eq_getElem_cons h, List.filter_cons_of_pos (by simpa using hd),
      ← List.singleton_append, ← List.append_assoc, ← htake]
    exact ih
  | case3 l i h =>
    rw [smartlistFilterDel, dif_neg h, List.take_of_length_le (by omega),
      List.drop_of_length_le (by omega)]
    simp

/-- What the filter loop of `connection_edge_process_resolved_cell` deletes: an address answer
    (no hostname) that is internal. -/
def dropInternal (isInternal : TorAddr → Bool) (a : AddressTtl) : Bool :=
  a.hostname.isNone && isInternal a.addr

/-- An answer the loop keeps is one of the list that the filter keeps. -/
theorem mem_smartlistFilterDel {D : SmartlistDel} {drop : AddressTtl → Bool}
    {l : List AddressTtl} {a : AddressTtl} :
    a ∈ smartlistFilterDel D drop l 0 ↔ a ∈ l ∧ drop a = false := by
  simpa using (smartlistFilterDel_perm D drop l 0).mem_iff

/-- The loop deletes every answer exactly when the filter drops every answer. -/
theorem smartlistFilterDel_eq_nil {D : SmartlistDel} {drop : AddressTtl → Bool}
    {l : List AddressTtl} :
    smartlistFilterDel D drop l 0 = [] ↔ ∀ a ∈ l, drop a = true := by
  simp [List.eq_nil_iff_forall_not_mem, mem_smartlistFilterDel]

theorem handsOnInternal_eq_false {isInternal : TorAddr → Bool} {effects : List ClientEffect} :
    handsOnInternal isInternal effects = false ↔
      ∀ e ∈ effects, ∀ a, e.addr = some a → isInternal a = false := by
  simp only [handsOnInternal, List.any_eq_false]
  refine forall₂_congr fun e _ => ?_
  cases e.addr <;> simp

/-! ## RESOLVED -/

/-- The first answer of each kind the selection loop of
    `connection_ap_handshake_socks_got_resolved_cell` has kept so far. -/
structure FirstAnswers where
  ipv4 : Option AddressTtl
  ipv6 : Option AddressTtl
  hostname : Option AddressTtl

/-- One iteration of the selection loop. -/
def FirstAnswers.step (cfg : ClientConfig) (acc : FirstAnswers) (addr : AddressTtl) :
    FirstAnswers :=
  match addr.hostname, addr.addr with
  | some _, _ => if acc.hostname.isNone then { acc with hostname := some addr } else acc
  | none, .ipv4 _ =>
    if acc.ipv4.isNone ∧ cfg.ipv4Traffic then { acc with ipv4 := some addr } else acc
  | none, .ipv6 _ =>
    if acc.ipv6.isNone ∧ cfg.ipv6Traffic then { acc with ipv6 := some addr } else acc
  | none, .unspec => acc

/-- The address answer `connection_ap_handshake_socks_got_resolved_cell` delivers: the preferred
    family's first, else the other's. -/
def FirstAnswers.best (first : FirstAnswers) (cfg : ClientConfig) : Option AddressTtl :=
  if cfg.preferIpv6 then first.ipv6.or first.ipv4 else first.ipv4.or first.ipv6

/-- `connection_ap_handshake_socks_got_resolved_cell`; `isPtr`: the request was
    `SOCKS_COMMAND_RESOLVE_PTR`. -/
def socksGotResolvedCell (cfg : ClientConfig) (isPtr : Bool) (errorCode : UInt8)
    (results : List AddressTtl) : List ClientEffect :=
  if errorCode ≠ 0 then [.socksResolvedError errorCode]
  else
    let first := results.foldl (FirstAnswers.step cfg) ⟨none, none, none⟩
    if isPtr then
      match first.hostname with
      | some h => [.socksResolvedHostname (h.hostname.getD []) h.ttl]
      | none => [.socksResolvedError RESOLVED_TYPE_ERROR]
    else
      match first.best cfg with
      | none => [.socksResolvedNoError]
      | some best => [.socksResolvedAddr best.addr best.ttl, .remap best.addr]

/-- `connection_edge_process_resolved_cell` on an AP stream; `resolveWait`: the stream is in
    `AP_CONN_STATE_RESOLVE_WAIT`. -/
def connectionEdgeProcessResolvedCell (D : SmartlistDel) (isInternal : TorAddr → Bool)
    (cfg : ClientConfig) (resolveWait isPtr : Bool) (msg : RelayMsg) : List ClientEffect :=
  if !resolveWait then []
  else match resolvedCellParse msg with
    | .error _ => [.markClosed .torprotocol]
    | .ok (addrs, errcode) =>
      if cfg.rejectInternal then
        let kept := smartlistFilterDel D (dropInternal isInternal) addrs 0
        if addrs ≠ [] ∧ kept = [] then
          [.socksResolvedError RESOLVED_TYPE_ERROR_TRANSIENT, .markClosed .torprotocol]
        else socksGotResolvedCell cfg isPtr errcode kept ++ [.markClosed .done]
      else socksGotResolvedCell cfg isPtr errcode addrs ++ [.markClosed .done]

/-- The selection has kept `a` as its IPv4 or its IPv6 answer. -/
def FirstAnswers.HasAddr (acc : FirstAnswers) (a : AddressTtl) : Prop :=
  acc.ipv4 = some a ∨ acc.ipv6 = some a

/-- A selection step changes the IPv4 choice only to the answer looked at, with no hostname. -/
theorem FirstAnswers.step_ipv4 (cfg : ClientConfig) (acc : FirstAnswers) (x : AddressTtl) :
    (acc.step cfg x).ipv4 = acc.ipv4 ∨ ((acc.step cfg x).ipv4 = some x ∧ x.hostname = none) := by
  unfold FirstAnswers.step
  split
  · split_ifs <;> simp
  · split_ifs <;> simp_all
  · split_ifs <;> simp_all
  · simp

/-- A selection step changes the IPv6 choice only to the answer looked at, with no hostname. -/
theorem FirstAnswers.step_ipv6 (cfg : ClientConfig) (acc : FirstAnswers) (x : AddressTtl) :
    (acc.step cfg x).ipv6 = acc.ipv6 ∨ ((acc.step cfg x).ipv6 = some x ∧ x.hostname = none) := by
  unfold FirstAnswers.step
  split
  · split_ifs <;> simp
  · split_ifs <;> simp_all
  · split_ifs <;> simp_all
  · simp

/-- A selection step keeps a new address answer only if it is the one looked at, and it has no
    hostname. -/
theorem FirstAnswers.hasAddr_step {cfg : ClientConfig} {acc : FirstAnswers} {x a : AddressTtl}
    (h : (acc.step cfg x).HasAddr a) : acc.HasAddr a ∨ (a = x ∧ x.hostname = none) := by
  rcases h with h | h
  · rcases step_ipv4 cfg acc x with h' | ⟨h', hn⟩ <;> rw [h'] at h
    · exact .inl (.inl h)
    · exact .inr ⟨(Option.some.inj h).symm, hn⟩
  · rcases step_ipv6 cfg acc x with h' | ⟨h', hn⟩ <;> rw [h'] at h
    · exact .inl (.inr h)
    · exact .inr ⟨(Option.some.inj h).symm, hn⟩

/-- **The selection loop keeps only address answers of the list with no hostname.** -/
theorem FirstAnswers.hasAddr_foldl {cfg : ClientConfig} {a : AddressTtl} :
    ∀ (results : List AddressTtl) (acc : FirstAnswers),
      (results.foldl (FirstAnswers.step cfg) acc).HasAddr a →
        acc.HasAddr a ∨ (a ∈ results ∧ a.hostname = none)
  | [], _, h => .inl h
  | x :: xs, acc, h => by
    rcases hasAddr_foldl xs (acc.step cfg x) h with h | ⟨hm, hn⟩
    · rcases hasAddr_step h with h | ⟨rfl, hn⟩
      · exact .inl h
      · exact .inr ⟨List.mem_cons_self _ _, hn⟩
    · exact .inr ⟨List.mem_cons_of_mem _ hm, hn⟩

/-- The preferred answer is one the selection kept. -/
theorem FirstAnswers.best_hasAddr {first : FirstAnswers} {cfg : ClientConfig} {b : AddressTtl}
    (h : first.best cfg = some b) : first.HasAddr b := by
  unfold best at h
  unfold HasAddr
  split_ifs at h <;> simp only [Option.or_eq_some] at h <;> tauto

/-- The address `connection_ap_handshake_socks_got_resolved_cell` hands on is that of an answer
    of the list with no hostname. -/
theorem socksGotResolvedCell_addr {cfg : ClientConfig} {isPtr : Bool} {errorCode : UInt8}
    {results : List AddressTtl} {e : ClientEffect} {a : TorAddr}
    (he : e ∈ socksGotResolvedCell cfg isPtr errorCode results) (ha : e.addr = some a) :
    ∃ r ∈ results, r.hostname = none ∧ r.addr = a := by
  unfold socksGotResolvedCell at he
  split_ifs at he with herr hptr
  · obtain rfl := List.mem_singleton.1 he; cases ha
  · dsimp only at he
    split at he <;> (obtain rfl := List.mem_singleton.1 he; cases ha)
  · dsimp only at he
    split at he
    · obtain rfl := List.mem_singleton.1 he; cases ha
    · next best hbest =>
      rcases FirstAnswers.hasAddr_foldl results _ (FirstAnswers.best_hasAddr hbest) with
        h | ⟨hm, hn⟩
      · simp [FirstAnswers.HasAddr] at h
      · simp only [List.mem_cons, List.mem_singleton, List.not_mem_nil, or_false] at he
        rcases he with rfl | rfl <;> simp only [ClientEffect.addr, Option.some.injEq] at ha <;>
          exact ⟨best, hm, hn, ha⟩

/-! ## CONNECTED -/

/-- The CONNECTED branch of `connection_edge_process_relay_cell_not_open` on an AP stream;
    `connectWait`: the stream is in `AP_CONN_STATE_CONNECT_WAIT`, `hasFinished`: its SOCKS
    request was already answered. -/
def processConnectedCell (isInternal isNull : TorAddr → Bool) (cfg : ClientConfig)
    (connectWait hasFinished : Bool) (msg : RelayMsg) : List ClientEffect :=
  if !connectWait then []
  else match connectedCellParse msg with
    | none => [.edgeEnd, .markClosed .torprotocol]
    | some (addr, ttl) =>
      let reply : List ClientEffect := if hasFinished then [] else [.socksReply]
      if addr = .unspec then reply
      else if isNull addr ∨ (cfg.rejectInternal ∧ isInternal addr) then
        [.edgeEnd, .markClosed .torprotocol]
      else if familyRefused cfg addr then [.edgeEnd, .markClosed .torprotocol]
      else [.setAddressmap addr ttl, .remap addr] ++ reply

/-! ## END -/

/-- The `END_STREAM_REASON_*` values `connection_ap_process_end_not_open` tells apart. -/
inductive EndStreamReason where
  | misc | resolvefailed | connectrefused | exitpolicy | destroy | timeout | noroute
  | hibernating | internal | resourcelimit | torprotocol | other
  deriving DecidableEq, Repr

/-- `edge_reason_is_retriable`. -/
def edgeReasonIsRetriable : EndStreamReason → Bool
  | .hibernating | .resourcelimit | .exitpolicy | .resolvefailed | .misc | .noroute => true
  | _ => false

/-- `(int) v` for a `uint32_t` `v`, read as two's complement. -/
def int32OfUInt32 (v : UInt32) : Int :=
  if v.toNat ≤ INT32_MAX then v.toNat else (v.toNat : Int) - 2 ^ 32

/-- The address and TTL an EXITPOLICY END carries after its reason byte. -/
def endExitPolicyAddr (msg : RelayMsg) : TorAddr × Int :=
  if msg.length = 5 ∨ msg.length = 9 then
    (.ipv4 (getUint32 msg.body 1),
      if msg.length = 9 then int32OfUInt32 (getUint32 msg.body 5) else -1)
  else if msg.length = 17 ∨ msg.length = 21 then
    (.ipv6 (In6Addr.ofBytes msg.body 1),
      if msg.length = 21 then int32OfUInt32 (getUint32 msg.body 17) else -1)
  else (.unspec, -1)

/-- `connection_ap_process_end_not_open`, as far as an address goes. `reason` is the first body
    byte decoded, `rendezvous` is `connection_edge_is_rendezvous_stream`, and `addrDiffers` says
    whether an address's text differs from the stream's requested address. -/
def connectionApProcessEndNotOpen (isInternal isNull : TorAddr → Bool) (cfg : ClientConfig)
    (reason : EndStreamReason) (rendezvous : Bool) (addrDiffers : TorAddr → Bool)
    (msg : RelayMsg) : List ClientEffect :=
  if msg.length > 0 ∧ (reason = .torprotocol ∨ reason = .destroy) then []
  else
    let reason := if msg.length = 0 then .misc else reason
    if edgeReasonIsRetriable reason ∧ !rendezvous ∧ reason = .exitpolicy ∧ msg.length ≥ 5 then
      let (addr, ttl) := endExitPolicyAddr msg
      if isNull addr then [.markClosed .torprotocol]
      else if familyRefused cfg addr then [.markClosed .torprotocol]
      else if cfg.rejectInternal ∧ isInternal addr then [.markClosed .torprotocol]
      else .setAddressmap addr ttl :: if addrDiffers addr then [.remap addr] else []
    else []

/-! ## Agreement -/

section Agreement

variable (D : SmartlistDel) (isInternal isNull : TorAddr → Bool) (cfg : ClientConfig)

/-- What the three answer paths promise for one configuration, one `smartlist_del` and one
    classification of addresses. -/
structure RejectsInternal : Prop where
  /-- RESOLVED hands on no internal address. -/
  resolved_safe : ∀ resolveWait isPtr msg, handsOnInternal isInternal
    (connectionEdgeProcessResolvedCell D isInternal cfg resolveWait isPtr msg) = false
  /-- CONNECTED hands on no internal address. -/
  connected_safe : ∀ connectWait hasFinished msg, handsOnInternal isInternal
    (processConnectedCell isInternal isNull cfg connectWait hasFinished msg) = false
  /-- END hands on no internal address. -/
  end_safe : ∀ reason rendezvous addrDiffers msg, handsOnInternal isInternal
    (connectionApProcessEndNotOpen isInternal isNull cfg reason rendezvous addrDiffers msg) = false
  /-- A RESOLVED whose answers are all internal addresses fails the request. -/
  resolved_fails : ∀ isPtr msg addrs errcode, resolvedCellParse msg = .ok (addrs, errcode) →
    addrs ≠ [] → (∀ a ∈ addrs, a.hostname = none ∧ isInternal a.addr = true) →
    connectionEdgeProcessResolvedCell D isInternal cfg true isPtr msg =
      [.socksResolvedError RESOLVED_TYPE_ERROR_TRANSIENT, .markClosed .torprotocol]
  /-- A CONNECTED naming an internal address closes the stream. -/
  connected_closes : ∀ hasFinished msg addr ttl, connectedCellParse msg = some (addr, ttl) →
    addr ≠ .unspec → isInternal addr = true →
    processConnectedCell isInternal isNull cfg true hasFinished msg =
      [.edgeEnd, .markClosed .torprotocol]
  /-- An EXITPOLICY END naming an internal address closes the stream. -/
  end_closes : ∀ addrDiffers msg, 5 ≤ msg.length → isInternal (endExitPolicyAddr msg).1 = true →
    connectionApProcessEndNotOpen isInternal isNull cfg .exitpolicy false addrDiffers msg =
      [.markClosed .torprotocol]

variable {D isInternal isNull cfg}

theorem connectionEdgeProcessResolvedCell_safe (hcfg : cfg.rejectInternal = true)
    (resolveWait isPtr : Bool) (msg : RelayMsg) :
    handsOnInternal isInternal
      (connectionEdgeProcessResolvedCell D isInternal cfg resolveWait isPtr msg) = false := by
  unfold connectionEdgeProcessResolvedCell
  split_ifs
  · rfl
  split
  · rfl
  · next addrs errcode _ =>
    simp only [hcfg, if_true]
    split_ifs
    · simp [ClientEffect.addr]
    · simp only [handsOnInternal_append, Bool.or_eq_false_iff]
      refine ⟨handsOnInternal_eq_false.mpr fun e he a ha => ?_, by simp [ClientEffect.addr]⟩
      obtain ⟨r, hr, hn, rfl⟩ := socksGotResolvedCell_addr he ha
      simpa [dropInternal, hn] using (mem_smartlistFilterDel.mp hr).2

theorem processConnectedCell_safe (hcfg : cfg.rejectInternal = true)
    (connectWait hasFinished : Bool) (msg : RelayMsg) :
    handsOnInternal isInternal
      (processConnectedCell isInternal isNull cfg connectWait hasFinished msg) = false := by
  unfold processConnectedCell
  cases connectWait
  · rfl
  rw [if_neg (by decide)]
  rcases connectedCellParse msg with _ | ⟨addr, ttl⟩
  · rfl
  dsimp only
  by_cases h₁ : addr = .unspec
  · rw [if_pos h₁]; cases hasFinished <;> rfl
  rw [if_neg h₁]
  by_cases h₂ : isNull addr = true ∨ cfg.rejectInternal = true ∧ isInternal addr = true
  · rw [if_pos h₂]; rfl
  rw [if_neg h₂]
  by_cases h₃ : familyRefused cfg addr = true
  · rw [if_pos h₃]; rfl
  rw [if_neg h₃]
  have hext : isInternal addr = false := by simpa [hcfg] using (not_or.1 h₂).2
  cases hasFinished <;> simp [ClientEffect.addr, hext]

theorem connectionApProcessEndNotOpen_safe (hcfg : cfg.rejectInternal = true)
    (reason : EndStreamReason) (rendezvous : Bool) (addrDiffers : TorAddr → Bool)
    (msg : RelayMsg) :
    handsOnInternal isInternal
      (connectionApProcessEndNotOpen isInternal isNull cfg reason rendezvous addrDiffers msg) =
        false := by
  unfold connectionApProcessEndNotOpen
  by_cases h₁ : msg.length > 0 ∧ (reason = .torprotocol ∨ reason = .destroy)
  · rw [if_pos h₁]; rfl
  rw [if_neg h₁]
  dsimp only
  generalize (if msg.length = 0 then EndStreamReason.misc else reason) = r
  by_cases h₂ : edgeReasonIsRetriable r = true ∧ (!rendezvous) = true ∧ r = .exitpolicy ∧
    msg.length ≥ 5
  swap
  · rw [if_neg h₂]; rfl
  rw [if_pos h₂]
  rcases endExitPolicyAddr msg with ⟨addr, ttl⟩
  by_cases h₃ : isNull addr = true
  · rw [if_pos h₃]; rfl
  rw [if_neg h₃]
  by_cases h₄ : familyRefused cfg addr = true
  · rw [if_pos h₄]; rfl
  rw [if_neg h₄]
  by_cases h₅ : cfg.rejectInternal = true ∧ isInternal addr = true
  · rw [if_pos h₅]; rfl
  rw [if_neg h₅]
  have hext : isInternal addr = false := by simpa [hcfg] using h₅
  cases addrDiffers addr <;> simp [ClientEffect.addr, hext]

/-- **With `ClientDNSRejectInternalAddresses`, the three answer paths agree**: no internal address
    reaches the SOCKS reply, the address map or a REMAP event; an all-internal RESOLVED fails the
    request, and a CONNECTED or EXITPOLICY END naming one closes the stream. -/
theorem clientRejectInternal_agree (hcfg : cfg.rejectInternal = true) :
    RejectsInternal D isInternal isNull cfg where
  resolved_safe := connectionEdgeProcessResolvedCell_safe hcfg
  connected_safe := processConnectedCell_safe hcfg
  end_safe := connectionApProcessEndNotOpen_safe hcfg
  resolved_fails isPtr msg addrs errcode hparse hne hall := by
    have hdrop : ∀ a ∈ addrs, dropInternal isInternal a = true := fun a ha => by
      simp [dropInternal, (hall a ha).1, (hall a ha).2]
    simp [connectionEdgeProcessResolvedCell, hparse, hcfg, hne, smartlistFilterDel_eq_nil.mpr hdrop]
  connected_closes hasFinished msg addr ttl hparse hspec hint := by
    simp [processConnectedCell, hparse, hspec, hint, hcfg]
  end_closes addrDiffers msg hlen hint := by
    rcases hpair : endExitPolicyAddr msg with ⟨addr, ttl⟩
    rw [hpair] at hint
    simp [connectionApProcessEndNotOpen, hpair, hint, hcfg, edgeReasonIsRetriable,
      show msg.length ≠ 0 by omega, hlen]

end Agreement

/-- Internal-address rejection holds for the swap-last deletion, with every address internal. -/
theorem clientRejectInternal_agree_swapLast :
    RejectsInternal SmartlistDel.swapLast (fun _ => true) (fun a => a = .unspec)
      ⟨true, true, true, false⟩ :=
  clientRejectInternal_agree rfl

end TorCore
