import TorCore.Dns.CacheRun

/-!
# `TorCore.Dns.Discipline` — the DNS cache in every reachable state

The two results of the DNS development, read off the run lemma `reachable_dnsInv` and the step
lemma `dnsStep_post` over every sequence of requests, answers (in any order, duplicated, late or
unasked for), cancellations, purges, memory-pressure passes, and the marking and freeing of
connections.

- `dnsCache_consistent`: `cache_map` has one entry per address, each PENDING or CACHED and in the
  heap; a heap entry out of the map is DONE; only PENDING resolves have pending connections;
  `set_expiry` ran once per resolve; every call returns, so no assertion of `dns.c` fails; and a
  request launches a lookup only for an address with no unexpired entry, so that concurrent
  requests for one address share one launch.
- `dnsPending_discipline`: a connection not freed is on a pending list exactly while it is
  RESOLVING, then on one list, once, and is never freed while on it; it comes off once for every
  time it was put on (and is put on at most once); statuses only settle, and an answer no PENDING
  resolve awaits changes nothing.
-/

namespace TorCore

/-- What `dnsCache_consistent` says of a state. -/
structure DnsCacheConsistent (st : DnsState) : Prop where
  /-- `cache_map` holds at most one entry per address. -/
  one_per_address : (st.cacheMap.map Prod.fst).Nodup
  /-- Every entry of `cache_map` is a PENDING or CACHED resolve of its address that is also in
      `cached_resolve_pqueue`. -/
  mapped_live : ∀ a id, (a, id) ∈ st.cacheMap → ∃ r, st.resolves id = some r ∧ r.address = a ∧
    (r.state = .pending ∨ r.state = .cached) ∧ (r.expire, id) ∈ st.pqueue
  /-- Every heap entry absent from `cache_map` is DONE. -/
  unmapped_done : ∀ e id r, (e, id) ∈ st.pqueue → st.resolves id = some r →
    (r.address, id) ∉ st.cacheMap → r.state = .done
  /-- Only PENDING resolves have pending connections. -/
  pending_only : ∀ id r, st.resolves id = some r → r.pendingConnections ≠ [] →
    r.state = .pending
  /-- `set_expiry` ran at most once on any resolve, and once on every live one. -/
  expiry_once : ∀ id, st.expirySets id ≤ 1 ∧ ∀ r, st.resolves id = some r → st.expirySets id = 1
  /-- Every allowed call returns (none of the assertions it reaches fails), and launches lookups
      only as `DnsCall.MayLaunch` allows. -/
  calls_return : ∀ call, call.allowed st = true → ∃ st', dnsStep st call = some st' ∧
    ∃ l, st'.launched = st.launched ++ l ∧ ∀ a ∈ l, call.MayLaunch st a

/-- **DNS cache consistency and coalescing.** -/
theorem dnsCache_consistent {st : DnsState} (h : DnsReachable st) : DnsCacheConsistent st := by
  have hi := reachable_dnsInv h
  refine ⟨hi.cache.map_nodup, fun a id hm => ?_, fun e id r _ hr hm => ?_,
    fun id r hr hp => hi.cache.pending_state hr hp, fun id => ?_, fun call ha => ?_⟩
  · obtain ⟨r, hr, ha, hs⟩ := hi.cache.map_entry hm
    refine ⟨r, hr, ha, ?_, hi.cache.heap_complete hr⟩
    cases hst : r.state
    exacts [.inl rfl, .inr rfl, absurd hst hs]
  · by_contra hs
    exact hm (hi.cache.undone_mapped hr hs)
  · rw [hi.cache.expiry_once id]
    exact ⟨by split <;> omega, fun r hr => by simp [hi.cache.lt_next hr]⟩
  · obtain ⟨st', h', hp⟩ := dnsStep_post hi call ha
    exact ⟨st', h', hp.launched⟩

/-- A first request: connection `0` asks to CONNECT to `example.com` at time `10`, and the launch
    succeeds. -/
def exampleRequest : DnsCall :=
  .resolve 0 "example.com" .connect ⟨none, false, false, 0, false, true⟩
    ⟨false, true, false, fun _ => true⟩ 10

/-- The state after `exampleRequest`: one PENDING resolve, with the connection waiting on it. -/
def afterExampleRequest : DnsState :=
  (dnsStep DnsState.init exampleRequest).getD DnsState.init

theorem afterExampleRequest_reachable : DnsReachable afterExampleRequest :=
  .step exampleRequest .init rfl rfl

theorem dnsCache_consistent_afterExampleRequest :
    DnsReachable afterExampleRequest ∧ DnsCacheConsistent afterExampleRequest :=
  ⟨afterExampleRequest_reachable, dnsCache_consistent afterExampleRequest_reachable⟩

/-- What `dnsPending_discipline` says of a state. -/
structure DnsPendingDiscipline (st : DnsState) : Prop where
  /-- A connection not freed is on a pending list exactly while it is RESOLVING. -/
  listed_iff_resolving : ∀ c, (st.conns c).freed = false →
    ((st.conns c).state = .resolving ↔ ∃ id r, st.resolves id = some r ∧ c ∈ r.pendingConnections)
  /-- A connection is on one list, once. -/
  one_list_once : ∀ c id₁ id₂ r₁ r₂, st.resolves id₁ = some r₁ → st.resolves id₂ = some r₂ →
    c ∈ r₁.pendingConnections → c ∈ r₂.pendingConnections →
      id₁ = id₂ ∧ r₁.pendingConnections.count c = 1
  /-- A connection on a list is not freed, was put on a list once, and has not come off one. -/
  listed_fresh : ∀ id r c, st.resolves id = some r → c ∈ r.pendingConnections →
    (st.conns c).freed = false ∧ (st.conns c).placed = 1 ∧ (st.conns c).takenOff = []
  /-- A connection is put on a list at most once, and one on no list came off as often as it was
      put on: once, in one of the four ways `TakenOff` names. -/
  taken_off_once : ∀ c, (st.conns c).placed ≤ 1 ∧
    ((∀ id r, st.resolves id = some r → c ∉ r.pendingConnections) →
      (st.conns c).takenOff.length = (st.conns c).placed)
  /-- Over any allowed call, each status of a resolve that lives through it stays or goes from
      `RES_STATUS_INFLIGHT` to `DONE_OK` or `DONE_ERR`. -/
  statuses_settle : ∀ call st', call.allowed st = true → dnsStep st call = some st' →
    ∀ id r r', st.resolves id = some r → st'.resolves id = some r' →
      ∀ qt, (r.status qt).SettlesTo (r'.status qt)
  /-- An answer that no PENDING resolve awaits (late, duplicated or unasked for) changes
      nothing. -/
  unawaited_answer : ∀ infoOk now address queryType dnsAnswer addr hostname ttl,
    (∀ id r, htFind st.cacheMap address = some id → st.resolves id = some r →
      r.state = .pending → r.status queryType ≠ .inflight) →
    dnsStep st (.foundAnswer infoOk now address queryType dnsAnswer addr hostname ttl) = some st

/-- **DNS pending-connection discipline: no lost or duplicated wake-up.** -/
theorem dnsPending_discipline {st : DnsState} (h : DnsReachable st) : DnsPendingDiscipline st := by
  have hi := reachable_dnsInv h
  refine ⟨fun c hf => ⟨hi.conn.resolving c hf, fun ⟨_, _, hr, hm⟩ => (hi.conn.listed hr hm).2.1⟩,
    fun c id₁ id₂ r₁ r₂ h₁ h₂ m₁ m₂ =>
      ⟨hi.conn.unique h₁ h₂ m₁ m₂, List.count_eq_one_of_mem (hi.conn.nodup h₁) m₁⟩,
    fun id r c hr hm => ?_, fun c => ⟨hi.conn.placed_le c, fun hn => ?_⟩,
    fun call st' ha hs => ?_,
    fun infoOk now address queryType dnsAnswer addr hostname ttl hn =>
      dnsFoundAnswer_unawaited hi infoOk now address queryType dnsAnswer addr hostname ttl hn⟩
  · obtain ⟨-, -, hf, hp⟩ := hi.conn.listed hr hm
    have hle := hi.conn.placed_le c
    exact ⟨hf, by omega, List.length_eq_zero.1 (by omega)⟩
  · exact (hi.conn.unlisted c fun ⟨id, r, hr, hm⟩ => hn id r hr hm).symm
  · obtain ⟨st'', h', hp⟩ := dnsStep_post hi call ha
    rw [hs] at h'
    cases h'
    exact fun id r r' hr hr' => hp.settle hr hr'

theorem dnsPending_discipline_afterExampleRequest :
    DnsReachable afterExampleRequest ∧ DnsPendingDiscipline afterExampleRequest :=
  ⟨afterExampleRequest_reachable, dnsPending_discipline afterExampleRequest_reachable⟩

end TorCore
