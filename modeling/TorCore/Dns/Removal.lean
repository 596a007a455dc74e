import TorCore.Dns.Discipline

/-!
# `TorCore.Dns.Removal` — who takes a waiting connection off its list

`Dns.Discipline` shows that a connection comes off a pending list once, in one of four ways. This
module looks at two of the callers that take connections off: the expiry purge, with the
memory-pressure loop built on it, and the failure branch of `dns_resolve`.

- `dnsExpiry_relief`: from an invariant state, `purge_expired_resolves(now)` does exactly what
  `PurgePost` says: it pops the heap entries with `expire <= now` and no other, frees their
  resolves, takes them out of `cache_map`, and fails every connection waiting on one of them with
  `expired`. `dns_cache_handle_oom` returns, with at most the allocation it found, and with less
  than `min_remove_bytes` only when `cache_map` is empty.
- `refusedReverseBegin_cancels`: a BEGIN for a reverse name is refused (`-1`, not made pending)
  once lower-cased, and `dns_resolve` then cancels the PENDING resolve that a RESOLVE for the
  same name started: every connection waiting on it fails, though the entry has not expired.
-/

namespace TorCore

/-! ## Expiry and memory pressure -/

/-- What `dnsExpiry_relief` says of a state and a time `now`. -/
structure ExpiryRelief (st : DnsState) (now : Int) : Prop where
  /-- `purge_expired_resolves(now)` returns and does exactly what `PurgePost` says; a connection
      that waited on an expired resolve waits on none afterwards. -/
  purge : ∃ st', purgeExpiredResolves now st = some st' ∧ PurgePost now st st' ∧
    ∀ id r c, st.resolves id = some r → r.expire ≤ now → c ∈ r.pendingConnections →
      ∀ id' r', st'.resolves id' = some r' → c ∉ r'.pendingConnections
  /-- For every `min_remove_bytes`, and `MAX_DNS_TTL / 4` positive, `dns_cache_handle_oom`
      returns. It frees at most the allocation it found, so that the caller's `alloc -= removed`
      does not wrap for any `alloc` that counts that allocation, and it frees fewer than
      `min_remove_bytes` only by emptying `cache_map`. -/
  oom : ∀ entrySize htMemUsage maxDnsTtl minRemoveBytes, 0 < maxDnsTtl / 4 →
    ∃ removed st', dnsCacheHandleOom entrySize htMemUsage maxDnsTtl now minRemoveBytes st =
        some (removed, st') ∧
      removed ≤ dnsCacheTotalAllocation entrySize htMemUsage st ∧
      (∀ alloc, dnsCacheTotalAllocation entrySize htMemUsage st ≤ alloc →
        sizeSub alloc removed = alloc - removed) ∧
      (removed < minRemoveBytes → st'.cacheMap = [])

/-- **Expiry purge and memory-pressure relief.** -/
theorem dnsExpiry_relief {st : DnsState} (hi : DnsInv st) (now : Int) : ExpiryRelief st now := by
  obtain ⟨st', h, hp⟩ := purgeExpiredResolves_post hi now
  refine ⟨⟨st', h, hp, fun _ _ _ hr he hc _ _ hr' => hp.expired_unlisted hi hr he hc hr'⟩,
    fun entrySize htMemUsage maxDnsTtl minRemoveBytes hq => ?_⟩
  obtain ⟨removed, st', h, heq, hmin, -⟩ :=
    @dnsCacheHandleOom_post entrySize htMemUsage maxDnsTtl now minRemoveBytes st hq hi fun _ => True
  exact ⟨removed, st', h, by omega, fun _ ha => sizeSub_of_le (by omega), hmin⟩

theorem dnsExpiry_relief_afterExampleRequest :
    DnsInv afterExampleRequest ∧ ExpiryRelief afterExampleRequest 400 :=
  have hi := reachable_dnsInv afterExampleRequest_reachable
  ⟨hi, dnsExpiry_relief hi 400⟩

/-! ## A refused request -/

section Refused

variable {st : DnsState} {c c₀ id : Nat} {r : CachedResolve} {now : Int} {address : String}

/-- A connection on a list is not the unused identifier a new request takes. -/
theorem listed_ne_unentered (hi : DnsInv st) (hc : (st.conns c).entered = false)
    (hr : st.resolves id = some r) (hc₀ : c₀ ∈ r.pendingConnections) : c₀ ≠ c := by
  rintro rfl
  have := (hi.conn.listed hr hc₀).2.1
  rw [hi.conn.unborn _ hc] at this
  cases this

/-- The purge a request starts with keeps an unexpired resolve, and the connections waiting on
    it. -/
theorem PurgePost.keeps_unexpired {st' : DnsState} (h : PurgePost now st st') (hi : DnsInv st)
    (hr : st.resolves id = some r) (hexp : now < r.expire) (hc₀ : c₀ ∈ r.pendingConnections) :
    st'.resolves id = some r ∧ st'.conns c₀ = st.conns c₀ := by
  refine ⟨by rw [h.resolves_eq, hr, Option.filter_some, if_pos (by simpa using hexp)],
    h.other_conn c₀ fun h₁ he hm => ?_⟩
  obtain rfl := hi.conn.unique h₁ hr hm hc₀
  rw [hr] at h₁
  cases h₁
  exact absurd hexp (not_lt.2 he)

/-- **A refused reverse-name BEGIN cancels another client's lookup.** A CONNECT for a reverse
    name that is not internal is refused with `-1`; if a resolve of that name has `c₀` waiting and
    `expire > now`, `dns_resolve` then cancels `c₀` and leaves it on no list. -/
theorem refusedReverseBegin_cancels (hi : DnsInv st) (hc : (st.conns c).entered = false)
    (hr : st.resolves id = some r) (hc₀ : c₀ ∈ r.pendingConnections) (hexp : now < r.expire)
    (ha : address.toLower = r.address) (cachedInfoOk : Bool) (lenv : LaunchEnv) :
    (∃ st₁, dnsResolveImpl ⟨none, false, false, 1, false, cachedInfoOk⟩ lenv now
        { st with conns := Function.update st.conns c (.request address .connect) } c false =
        some (-1, false, st₁)) ∧
    ∃ st', dnsStep st (.resolve c address .connect ⟨none, false, false, 1, false, cachedInfoOk⟩
        lenv now) = some st' ∧
      st'.conns c₀ = failPending .cancelled (st.conns c₀) ∧
      ∀ id' r', st'.resolves id' = some r' → c₀ ∉ r'.pendingConnections := by
  set st₀ : DnsState := { st with conns := Function.update st.conns c (.request address .connect) }
  have hi₀ : DnsInv st₀ :=
    (StepPost.request hi hc address .connect : StepPost st st₀ fun _ => True).inv
  have hne := listed_ne_unentered hi hc hr hc₀
  -- the purge keeps `r` and `c₀`, and does not touch `c`
  obtain ⟨s₁, hpu, hpp⟩ := purgeExpiredResolves_post hi₀ now
  obtain ⟨hr₁, hc₀₁⟩ := hpp.keeps_unexpired hi₀ hr hexp hc₀
  have hc₁ : s₁.conns c = .request address .connect :=
    (hpp.conns hi₀ c (by simp [st₀, ExitConn.request, ExitConn.unborn])).trans (by simp [st₀])
  -- `dns_resolve_impl` lower-cases the address and refuses it
  set s₂ : DnsState := { s₁ with
    conns := Function.update s₁.conns c
      { s₁.conns c with address := (s₁.conns c).address.toLower } }
  have himpl : dnsResolveImpl ⟨none, false, false, 1, false, cachedInfoOk⟩ lenv now st₀ c false =
      some (-1, false, s₂) := by
    simp [dnsResolveImpl, hpu, ptrRefused, s₂]
  have hi₂ : DnsInv s₂ := hpp.inv.setConn_other (by simp [hc₁, ExitConn.request, ExitConn.unborn])
    (by simp [hc₁, ExitConn.request, ExitConn.unborn]) rfl rfl (by simp [hc₁, ExitConn.request])
  have ha₂ : (s₂.conns c).address = r.address := by simp [s₂, hc₁, ExitConn.request, ha]
  -- the cancellation fails every connection waiting on `r`
  have hp : r.pendingConnections ≠ [] := List.ne_nil_of_mem hc₀
  have hw := wakeAll_apply (fun _ => failPending .cancelled) (hi₂.conn.nodup hr₁) s₂.conns
  refine ⟨⟨s₂, himpl⟩, ?_⟩
  have hpur : ((ExitConn.request address .connect).purpose == .resolve) = false := rfl
  simp only [dnsStep, dnsResolve, Function.update_same, hpur]
  rw [himpl]
  dsimp only
  rw [if_neg (by decide), if_neg (by decide), ha₂, dnsCancelPendingResolve_pending hi₂ hr₁ hp,
    Option.map_some']
  refine ⟨_, rfl, ?_, fun id' r' h' hm => ?_⟩
  · split <;> simp [hw, hc₀, hne, hc₀₁, st₀, s₂]
  · have h₁ : Function.update s₁.resolves id
        (some { r with pendingConnections := [], state := .done }) id' = some r' := by
      split at h' <;> exact h'
    rcases update_eq_some.1 h₁ with ⟨-, h₁⟩ | ⟨hid, h₁⟩
    · cases h₁; cases hm
    · exact hid (hpp.inv.conn.unique h₁ hr₁ hm hc₀)

/-- A RESOLVE for the reverse name of `1.2.3.4` from connection `0` at time `10`: its PTR lookup
    launches, and the connection waits on the new resolve. -/
def reverseRequest : DnsCall :=
  .resolve 0 "4.3.2.1.in-addr.arpa" .resolve ⟨none, false, false, 1, false, true⟩
    ⟨false, true, false, fun _ => true⟩ 10

/-- The state after `reverseRequest`: one PENDING resolve, expiring at `310`. -/
def afterReverseRequest : DnsState :=
  (dnsStep DnsState.init reverseRequest).getD DnsState.init

theorem afterReverseRequest_reachable : DnsReachable afterReverseRequest :=
  .step reverseRequest .init rfl rfl

/-- At time `20` connection `1` asks to CONNECT to the same name, and connection `0` is
    cancelled. -/
theorem refusedReverseBegin_cancels_afterReverseRequest :
    (∃ st₁, dnsResolveImpl ⟨none, false, false, 1, false, true⟩
        ⟨false, true, false, fun _ => true⟩ 20
        { afterReverseRequest with
          conns := Function.update afterReverseRequest.conns 1
            (.request "4.3.2.1.in-addr.arpa" .connect) } 1 false = some (-1, false, st₁)) ∧
    ∃ st', dnsStep afterReverseRequest (.resolve 1 "4.3.2.1.in-addr.arpa" .connect
        ⟨none, false, false, 1, false, true⟩ ⟨false, true, false, fun _ => true⟩ 20) = some st' ∧
      st'.conns 0 = failPending .cancelled (afterReverseRequest.conns 0) ∧
      ∀ id' r', st'.resolves id' = some r' → 0 ∉ r'.pendingConnections :=
  refusedReverseBegin_cancels (reachable_dnsInv afterReverseRequest_reachable) (c := 1) rfl
    (show afterReverseRequest.resolves 0 = some _ from rfl) (by decide) (by decide) rfl true _

end Refused

end TorCore
