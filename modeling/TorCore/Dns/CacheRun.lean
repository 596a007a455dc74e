import Mathlib.Tactic.Linarith
import TorCore.Dns.CacheInv

/-!
# `TorCore.Dns.CacheRun` — every call keeps the cache consistent and returns

`DnsInv` joins the consistency of the tables (`CacheInv`) and the pending-list discipline
(`ConnInv`). `StepPost st st' may` is what a call from `st` to `st'` guarantees: the invariant
after it, the statuses of every resolve that lives through it only settle (`RES_STATUS_INFLIGHT`
to `DONE_OK` or `DONE_ERR`), resolves it allocates are new, and it launches lookups only for
addresses `may` allows.

For each function of `dns.c` one lemma says that from an invariant state it returns (so none of
its assertions fails) and that `StepPost` holds: `purgeExpiredResolves_post`,
`dnsCancelPendingResolve_post`, `dnsFoundAnswer_post`, `dnsResolve_post`, `connectionFree_post`,
`dnsCacheHandleOom_post`. `dnsStep_post` gathers them, and `reachable_dnsInv` is the run lemma.

## Contents
- **Statuses.** `CachedResolve.status`, `ResStatus.SettlesTo`, `StatusesSettle`.
- **Posts.** `DnsInv`, `StepPost`, `StepPost.refl`, `StepPost.trans`.
- **Expiry.** `PurgePost`, exactly what a purge does; `purgeOne_eq`, `purgeLoop_post`,
  `purgeExpiredResolves_post`.
- **Memory pressure.** `dnsCacheHandleOomLoop_pass` is one pass of the loop and
  `dnsCacheHandleOomLoop_post` the loop, by induction on its fuel; `dnsCacheHandleOom_post`
  shows the fuel `oomFuel` enough.
-/

namespace TorCore

/-! ## Statuses -/

/-- The status of one query type of a resolve. -/
def CachedResolve.status (r : CachedResolve) : QueryType → ResStatus
  | .ipv4A => r.resStatusIpv4
  | .ipv6AAAA => r.resStatusIpv6
  | .ptr => r.resStatusHostname

/-- A status stays, or an in-flight one is settled. -/
def ResStatus.SettlesTo (s s' : ResStatus) : Prop :=
  s' = s ∨ (s = .inflight ∧ (s' = .doneOk ∨ s' = .doneErr))

theorem ResStatus.SettlesTo.refl (s : ResStatus) : s.SettlesTo s := .inl rfl

theorem ResStatus.SettlesTo.trans {s₁ s₂ s₃ : ResStatus} (h₁ : s₁.SettlesTo s₂)
    (h₂ : s₂.SettlesTo s₃) : s₁.SettlesTo s₃ := by
  rcases h₁ with rfl | ⟨rfl, h₁⟩
  · exact h₂
  · rcases h₂ with rfl | ⟨rfl, -⟩
    · exact .inr ⟨rfl, h₁⟩
    · rcases h₁ with h | h <;> cases h

/-- An answer for a status not in flight changes nothing. -/
theorem cachedResolveAddAnswer_of_not_inflight {r : CachedResolve} {queryType : QueryType}
    (h : r.status queryType ≠ .inflight) (dnsResult : Int) (answerAddr : Option TorAddr)
    (answerHostname : Option (List UInt8)) (ttl : UInt32) :
    cachedResolveAddAnswer r queryType dnsResult answerAddr answerHostname ttl = r := by
  cases queryType <;> exact if_pos h

/-- `cached_resolve_add_answer` settles at most the status of the answer's query type, and only
    an in-flight one. -/
theorem cachedResolveAddAnswer_settles (r : CachedResolve) (queryType : QueryType)
    (dnsResult : Int) (answerAddr : Option TorAddr) (answerHostname : Option (List UInt8))
    (ttl : UInt32) (qt : QueryType) :
    (r.status qt).SettlesTo
      ((cachedResolveAddAnswer r queryType dnsResult answerAddr answerHostname ttl).status qt) := by
  by_cases h : r.status queryType = .inflight
  · cases queryType <;> simp only [CachedResolve.status] at h <;>
      simp only [cachedResolveAddAnswer, h, ne_eq, not_true_eq_false, if_false] <;> split <;>
      cases qt <;> first | exact .refl _ | exact .inr ⟨h, .inl rfl⟩ | exact .inr ⟨h, .inr rfl⟩
  · rw [cachedResolveAddAnswer_of_not_inflight h]
    exact .refl _

/-- What `cached_resolve_add_answer` leaves alone. -/
theorem cachedResolveAddAnswer_frame (r : CachedResolve) (queryType : QueryType)
    (dnsResult : Int) (answerAddr : Option TorAddr) (answerHostname : Option (List UInt8))
    (ttl : UInt32) :
    let r' := cachedResolveAddAnswer r queryType dnsResult answerAddr answerHostname ttl
    r'.address = r.address ∧ r'.state = r.state ∧ r'.expire = r.expire ∧
      r'.pendingConnections = r.pendingConnections := by
  by_cases h : r.status queryType = .inflight
  · cases queryType <;> simp only [CachedResolve.status] at h <;>
      simp only [cachedResolveAddAnswer, h, ne_eq, not_true_eq_false, if_false] <;> split <;>
      exact ⟨rfl, rfl, rfl, rfl⟩
  · dsimp only
    rw [cachedResolveAddAnswer_of_not_inflight h]
    exact ⟨rfl, rfl, rfl, rfl⟩

/-- The statuses of every resolve that lives from `st` to `st'` only settle. -/
def StatusesSettle (st st' : DnsState) : Prop :=
  ∀ {id r r'}, st.resolves id = some r → st'.resolves id = some r' →
    ∀ qt, (r.status qt).SettlesTo (r'.status qt)

/-! ## Posts -/

/-- The invariant of the DNS cache: consistent tables and the pending-list discipline. -/
structure DnsInv (st : DnsState) : Prop where
  cache : CacheInv st
  conn : ConnInv st.resolves st.conns

theorem dnsInv_init : DnsInv DnsState.init := ⟨cacheInv_init, connInv_init⟩

/-- What a call from `st` that returns `st'` guarantees; `may` says which addresses it may
    launch lookups for. -/
structure StepPost (st st' : DnsState) (may : String → Prop) : Prop where
  inv : DnsInv st'
  settle : StatusesSettle st st'
  born : ∀ {id r'}, st'.resolves id = some r' → st.resolves id = none → st.nextResolve ≤ id
  next_le : st.nextResolve ≤ st'.nextResolve
  launched : ∃ l, st'.launched = st.launched ++ l ∧ ∀ a ∈ l, may a

section Posts

variable {st mid st' : DnsState} {may : String → Prop}

theorem StepPost.refl (hi : DnsInv st) : StepPost st st may :=
  ⟨hi, fun h h' qt => by rw [h] at h'; cases h'; exact .refl _, fun h h' => by simp [h'] at h,
    le_rfl, [], by simp, by simp⟩

theorem StepPost.trans (hi : DnsInv st) (h₁ : StepPost st mid may) (h₂ : StepPost mid st' may) :
    StepPost st st' may := by
  refine ⟨h₂.inv, ?_, ?_, h₁.next_le.trans h₂.next_le, ?_⟩
  · intro id r r' hr hr' qt
    cases hm : mid.resolves id with
    | none =>
      have := h₂.born hr' hm
      have := hi.cache.lt_next hr
      have := h₁.next_le
      omega
    | some rm => exact (h₁.settle hr hm qt).trans (h₂.settle hm hr' qt)
  · intro id r' hr' hr
    cases hm : mid.resolves id with
    | none => exact h₁.next_le.trans (h₂.born hr' hm)
    | some rm => exact h₁.born hm hr
  · obtain ⟨l₁, e₁, m₁⟩ := h₁.launched
    obtain ⟨l₂, e₂, m₂⟩ := h₂.launched
    refine ⟨l₁ ++ l₂, by rw [e₂, e₁, List.append_assoc], fun a ha => ?_⟩
    rcases List.mem_append.1 ha with ha | ha
    · exact m₁ a ha
    · exact m₂ a ha

/-- A call that only frees resolves and changes connections, keeping the invariant. -/
theorem StepPost.of_sub (hi' : DnsInv st') (hsub : ∀ {id r}, st'.resolves id = some r →
    st.resolves id = some r) (hnext : st'.nextResolve = st.nextResolve)
    (hl : st'.launched = st.launched) : StepPost st st' may := by
  refine ⟨hi', fun hr hr' qt => ?_, fun hr' hr => by simp [hsub hr'] at hr, hnext.ge,
    [], by simp [hl], by simp⟩
  rw [hsub hr'] at hr
  cases hr
  exact .refl _

/-- A call that rewrites one live resolve, its statuses only settling. -/
theorem StepPost.of_update (hi' : DnsInv st') {id : Nat} {r r' : CachedResolve}
    (hr : st.resolves id = some r) (hres : st'.resolves = Function.update st.resolves id (some r'))
    (hs : ∀ qt, (r.status qt).SettlesTo (r'.status qt)) (hnext : st'.nextResolve = st.nextResolve)
    (hl : st'.launched = st.launched) : StepPost st st' may := by
  refine ⟨hi', @fun id' r₀ r₁ h₀ h₁ qt => ?_, @fun id' r₁ h₁ h₀ => ?_, hnext.ge, [], by simp [hl],
    by simp⟩
  · rw [hres, update_eq_some] at h₁
    rcases h₁ with ⟨rfl, h₁⟩ | ⟨-, h₁⟩
    · rw [hr] at h₀; cases h₀; cases h₁; exact hs qt
    · rw [h₀] at h₁; cases h₁; exact .refl _
  · rw [hres, update_eq_some] at h₁
    rcases h₁ with ⟨rfl, -⟩ | ⟨-, h₁⟩ <;> simp_all

/-- A call that allocates one resolve at `nextResolve`. -/
theorem StepPost.of_alloc (hi : DnsInv st) (hi' : DnsInv st') {r' : CachedResolve}
    (hres : st'.resolves = Function.update st.resolves st.nextResolve (some r'))
    (hnext : st'.nextResolve = st.nextResolve + 1)
    (hl : ∃ l, st'.launched = st.launched ++ l ∧ ∀ a ∈ l, may a) : StepPost st st' may := by
  refine ⟨hi', @fun id' r₀ r₁ h₀ h₁ qt => ?_, @fun id' r₁ h₁ h₀ => ?_, by omega, hl⟩
  · rw [hres, update_eq_some] at h₁
    rcases h₁ with ⟨rfl, -⟩ | ⟨-, h₁⟩
    · simp [hi.cache.fresh le_rfl] at h₀
    · rw [h₀] at h₁; cases h₁; exact .refl _
  · rw [hres, update_eq_some] at h₁
    rcases h₁ with ⟨rfl, -⟩ | ⟨-, h₁⟩
    · exact le_rfl
    · simp [h₀] at h₁

theorem StepPost.mono (h : StepPost st st' may) {may' : String → Prop}
    (hm : ∀ a, may a → may' a) : StepPost st st' may' := by
  obtain ⟨l, hl, hl'⟩ := h.launched
  exact ⟨h.inv, h.settle, h.born, h.next_le, l, hl, fun a ha => hm a (hl' a ha)⟩

end Posts

/-! ## Expiry -/

section Expiry

variable {st : DnsState} {now : Int}

/-- What a purge at `now` does to an invariant state, exactly: the heap keeps its entries with
    `expire > now`; the resolves of the others are freed and leave `cache_map`, and every
    connection waiting on one of them fails with `expired`; nothing else changes. -/
structure PurgePost (now : Int) (st st' : DnsState) : Prop where
  inv : DnsInv st'
  pqueue_eq : st'.pqueue = st.pqueue.filter fun x => now < x.1
  resolves_eq : ∀ id, st'.resolves id = (st.resolves id).filter fun r => now < r.expire
  mem_map : ∀ {x}, x ∈ st'.cacheMap ↔
    x ∈ st.cacheMap ∧ ∃ r, st.resolves x.2 = some r ∧ now < r.expire
  map_sublist : st'.cacheMap.Sublist st.cacheMap
  expired_conn : ∀ {id r c}, st.resolves id = some r → r.expire ≤ now →
    c ∈ r.pendingConnections → st'.conns c = failPending .expired (st.conns c)
  other_conn : ∀ c, (∀ {id r}, st.resolves id = some r → r.expire ≤ now →
    c ∉ r.pendingConnections) → st'.conns c = st.conns c
  next : st'.nextResolve = st.nextResolve
  launched : st'.launched = st.launched

section Post

variable {st' : DnsState} (h : PurgePost now st st')
include h

theorem PurgePost.unexpired : ∀ x ∈ st'.pqueue, now < x.1 := by
  rw [h.pqueue_eq]
  exact fun x hx => by simpa using (List.mem_filter.1 hx).2

theorem PurgePost.sub {id : Nat} {r : CachedResolve} (h' : st'.resolves id = some r) :
    st.resolves id = some r := by
  rw [h.resolves_eq, Option.filter_eq_some] at h'
  exact h'.1

theorem PurgePost.keep {a : String} {id : Nat} {r : CachedResolve} (hm : (a, id) ∈ st.cacheMap)
    (hr : st.resolves id = some r) (hexp : now < r.expire) : (a, id) ∈ st'.cacheMap :=
  h.mem_map.2 ⟨hm, r, hr, hexp⟩

/-- A connection that is not RESOLVING waits on no list, so a purge leaves it alone. -/
theorem PurgePost.conns (hi : DnsInv st) (c : Nat) (hc : (st.conns c).state ≠ .resolving) :
    st'.conns c = st.conns c :=
  h.other_conn c fun hr _ hm => hc (hi.conn.listed hr hm).2.1

/-- A connection that waited on an expired resolve waits on none after the purge. -/
theorem PurgePost.expired_unlisted (hi : DnsInv st) {id c : Nat} {r : CachedResolve}
    (hr : st.resolves id = some r) (hexp : r.expire ≤ now) (hc : c ∈ r.pendingConnections)
    {id' : Nat} {r' : CachedResolve} (hr' : st'.resolves id' = some r') :
    c ∉ r'.pendingConnections := fun hc' => by
  obtain rfl := hi.conn.unique (h.sub hr') hr hc' hc
  rw [h.resolves_eq, hr, Option.filter_some, if_neg (by simpa using hexp)] at hr'
  cases hr'

theorem PurgePost.stepPost {may : String → Prop} : StepPost st st' may :=
  .of_sub h.inv h.sub h.next h.launched

end Post

/-- A purge that finds no expired resolve changes nothing. -/
theorem PurgePost.of_unexpired (hi : DnsInv st)
    (h : ∀ {id r}, st.resolves id = some r → now < r.expire) : PurgePost now st st := by
  refine ⟨hi, ?_, fun id => ?_, ⟨fun hm => ⟨hm, ?_⟩, And.left⟩, .refl _,
    fun hr he _ => absurd (h hr) (not_lt.2 he), fun _ _ => rfl, rfl, rfl⟩
  · refine (List.filter_eq_self.2 fun ⟨e, id⟩ hx => ?_).symm
    obtain ⟨r, hr, rfl⟩ := hi.cache.heap_entry hx
    simpa using h hr
  · cases hr : st.resolves id with
    | none => rfl
    | some r => rw [Option.filter_some, if_pos (by simpa using h hr)]
  · obtain ⟨r, hr, -⟩ := hi.cache.map_entry hm
    exact ⟨r, hr, h hr⟩

/-- `purge_expired_resolves` pops the resolve at the head of the heap; none of its assertions
    fails. -/
theorem purgeOne_eq (hi : DnsInv st) {id : Nat} (pq : List (Int × Nat)) {r : CachedResolve}
    (hr : st.resolves id = some r) :
    purgeOne { st with pqueue := pq } id = some { st with
      pqueue := pq
      conns := wakeAll (fun _ => failPending .expired) r.pendingConnections st.conns
      cacheMap := if r.state = .done then st.cacheMap
        else st.cacheMap.eraseP (·.1 == r.address)
      resolves := Function.update st.resolves id none } := by
  have hnp : ¬ (r.state ≠ .pending ∧ r.pendingConnections ≠ []) :=
    fun h => h.1 (hi.cache.pending_state hr h.2)
  simp only [purgeOne, hr, if_neg hnp]
  by_cases hd : r.state = .done
  · have hf : htFind st.cacheMap r.address ≠ some id := by
      intro hm
      rw [hi.cache.htFind_iff] at hm
      obtain ⟨r₀, h₀, -, hs₀⟩ := hi.cache.map_entry hm
      rw [hr] at h₀; cases h₀; exact hs₀ hd
    simp [hd, hf]
  · have hf : htFind st.cacheMap r.address = some id :=
      hi.cache.htFind_iff.2 (hi.cache.undone_mapped hr hd)
    simp [hd, htRemove, hf]

/-- The loop of `purge_expired_resolves` from an invariant state returns, and does what
    `PurgePost` says: by induction on the heap, each pass popping its first entry. -/
theorem purgeLoop_post (now : Int) : ∀ (pq : List (Int × Nat)) (st : DnsState), DnsInv st →
    st.pqueue = pq → ∃ st', purgeLoop now pq st = some st' ∧ PurgePost now st st'
  | [], st, hi, hpq =>
    ⟨st, by simp [purgeLoop, ← hpq],
      .of_unexpired hi fun hr => by simp [hi.cache.resolves_eq_none hpq] at hr⟩
  | (e, id) :: pq, st, hi, hpq => by
    by_cases hlt : now < e
    · refine ⟨st, by simp [purgeLoop, hlt, ← hpq], .of_unexpired hi fun hr => ?_⟩
      have hso := hi.cache.heap_sorted
      have hm := hi.cache.heap_complete hr
      rw [hpq] at hm hso
      rcases List.mem_cons.1 hm with h | hm
      · exact (Prod.mk.inj h).1 ▸ hlt
      · exact lt_of_lt_of_le hlt (List.rel_of_sorted_cons hso _ hm)
    obtain ⟨r, hr, he⟩ := hi.cache.heap_entry (hpq ▸ List.mem_cons_self _ _)
    have hexp : r.expire ≤ now := he ▸ not_lt.1 hlt
    have hw := wakeAll_apply (fun _ => failPending .expired) (hi.conn.nodup hr) st.conns
    set st₁ : DnsState := { st with
      pqueue := pq
      conns := wakeAll (fun _ => failPending .expired) r.pendingConnections st.conns
      cacheMap := if r.state = .done then st.cacheMap
        else st.cacheMap.eraseP (·.1 == r.address)
      resolves := Function.update st.resolves id none } with hst₁
    have hi₁ : DnsInv st₁ :=
      ⟨hi.cache.popped hpq hr rfl rfl rfl rfl rfl,
        hi.conn.wake hr (fun _ => wakes_failPending _) (by simp)⟩
    -- the resolves of `st₁` are those of `st` but `id`
    have hres₁ : ∀ {id' r'}, st₁.resolves id' = some r' → id' ≠ id ∧ st.resolves id' = some r' :=
      fun h => (update_eq_some.1 h).resolve_left (by simp)
    obtain ⟨st', h', hp⟩ := purgeLoop_post now pq st₁ hi₁ rfl
    refine ⟨st', ?_, hp.inv, ?_, fun id' => ?_, fun {x} => ?_,
      hp.map_sublist.trans ?_, fun {id' r' c} hr' he' hc => ?_, fun c hc => ?_, hp.next,
      hp.launched⟩
    · simp only [purgeLoop, if_neg hlt]
      rw [purgeOne_eq hi pq hr]
      exact h'
    · rw [hp.pqueue_eq, hpq, List.filter_cons_of_neg (by simpa using hlt)]
    · rw [hp.resolves_eq]
      by_cases hid : id' = id
      · subst hid
        rw [hr, Option.filter_some, if_neg (by simpa using hexp)]
        simp [st₁]
      · simp [st₁, hid]
    · rw [hp.mem_map, hi.cache.mem_popped_map hr]
      by_cases hid : x.2 = id
      · simp [hid, hr, hexp]
      · simp [st₁, hid]
    · dsimp only [st₁]
      split_ifs
      exacts [.refl _, List.eraseP_sublist _]
    · by_cases hid : id' = id
      · subst hid
        rw [hr] at hr'; cases hr'
        rw [hp.other_conn c fun h₂ _ hc₂ => (hres₁ h₂).1 (hi.conn.unique (hres₁ h₂).2 hr hc₂ hc)]
        simp [st₁, hw, hc]
      · have hcr : c ∉ r.pendingConnections := fun hc' => hid (hi.conn.unique hr' hr hc hc')
        have h₁ : st₁.resolves id' = some r' := by simpa [st₁, hid] using hr'
        rw [hp.expired_conn h₁ he' hc]
        simp [st₁, hw, hcr]
    · rw [hp.other_conn c fun h₂ he₂ => hc (hres₁ h₂).2 he₂]
      simp [st₁, hw, hc hr hexp]
theorem purgeExpiredResolves_post (hi : DnsInv st) (now : Int) :
    ∃ st', purgeExpiredResolves now st = some st' ∧ PurgePost now st st' :=
  purgeLoop_post now st.pqueue st hi rfl

end Expiry

/-! ## Cancellation and answers -/

section Answers

variable {st : DnsState}

/-- `dns_cancel_pending_resolve` on the address of a resolve with waiting connections (so a
    PENDING one) fails them all, and the resolve leaves `cache_map` as DONE. -/
theorem dnsCancelPendingResolve_pending (hi : DnsInv st) {id : Nat} {r : CachedResolve}
    (hr : st.resolves id = some r) (hp : r.pendingConnections ≠ []) :
    dnsCancelPendingResolve st r.address = some { st with
      conns := wakeAll (fun _ => failPending .cancelled) r.pendingConnections st.conns
      cacheMap := st.cacheMap.eraseP (·.1 == r.address)
      resolves := Function.update st.resolves id
        (some { r with pendingConnections := [], state := .done }) } := by
  have hs := hi.cache.pending_state hr hp
  have hf : htFind st.cacheMap r.address = some id :=
    hi.cache.htFind_iff.2 (hi.cache.undone_mapped hr (by simp [hs]))
  simp [dnsCancelPendingResolve, hf, hr, hs, hp, htRemove]

/-- `dns_cancel_pending_resolve` from an invariant state returns, and touches no connection that
    is not RESOLVING. -/
theorem dnsCancelPendingResolve_post (hi : DnsInv st) (address : String) {may : String → Prop} :
    ∃ st', dnsCancelPendingResolve st address = some st' ∧ StepPost st st' may ∧
      ∀ c, (st.conns c).state ≠ .resolving → st'.conns c = st.conns c := by
  cases hf : htFind st.cacheMap address with
  | none => exact ⟨st, by simp [dnsCancelPendingResolve, hf], .refl hi, fun _ _ => rfl⟩
  | some id =>
    obtain ⟨r, hr, rfl, hnd⟩ := hi.cache.map_entry (hi.cache.htFind_iff.1 hf)
    by_cases hp : r.pendingConnections = []
    · exact ⟨st, by simp [dnsCancelPendingResolve, hf, hr, hp], .refl hi, fun _ _ => rfl⟩
    rw [dnsCancelPendingResolve_pending hi hr hp]
    refine ⟨_, rfl, ?_, fun c hc => ?_⟩
    · exact .of_update ⟨hi.cache.retire hr hnd rfl rfl rfl rfl rfl rfl rfl rfl,
        hi.conn.wake hr (fun _ => wakes_failPending _) (by simp)⟩ hr rfl
        (fun qt => by cases qt <;> exact .refl _) rfl rfl
    have hcr : c ∉ r.pendingConnections := fun hm => hc (hi.conn.listed hr hm).2.1
    simp [wakeAll_apply _ (hi.conn.nodup hr), hcr]

/-- `dns_found_answer` from an invariant state returns: it folds the answer into the PENDING
    resolve of the address, and once no lookup is in flight, informs the waiting connections and
    caches the resolve. -/
theorem dnsFoundAnswer_post (hi : DnsInv st) (infoOk : Nat → Bool) (now : Int) (address : String)
    (queryType : QueryType) (dnsAnswer : Int) (addr : Option TorAddr)
    (hostname : Option (List UInt8)) (ttl : UInt32) {may : String → Prop} :
    ∃ st', dnsFoundAnswer infoOk now st address queryType dnsAnswer addr hostname ttl = some st' ∧
      StepPost st st' may := by
  unfold dnsFoundAnswer
  cases hf : htFind st.cacheMap address with
  | none => exact ⟨st, rfl, .refl hi⟩
  | some id =>
    obtain ⟨r, hr, ha, hnd⟩ := hi.cache.map_entry (hi.cache.htFind_iff.1 hf)
    simp only [hr]
    by_cases hs : r.state = .pending
    swap
    · have hp : r.pendingConnections = [] := by_contra fun h => hs (hi.cache.pending_state hr h)
      exact ⟨st, by simp [hs, hp], .refl hi⟩
    obtain ⟨hfa, hfs, hfe, hfp⟩ :=
      cachedResolveAddAnswer_frame r queryType dnsAnswer addr hostname ttl
    have hset := cachedResolveAddAnswer_settles r queryType dnsAnswer addr hostname ttl
    have hc₁ := hi.conn.setResolve_same hr hfp hfa
    simp only [hs, ne_eq, not_true_eq_false, if_false]
    by_cases hall : cachedResolveHaveAllAnswers
      (cachedResolveAddAnswer r queryType dnsAnswer addr hostname ttl)
    swap
    · simp only [hall, if_false]
      exact ⟨_, rfl, .of_update ⟨hi.cache.setResolve_same hr rfl rfl rfl rfl rfl hfa hfs hfe
        (fun _ => hfs.trans hs) (fun _ => by simpa using hall), hc₁⟩ hr rfl hset rfl rfl⟩
    simp only [hall, if_true, makePendingResolveCached, informPendingConnections, setExpiry]
    refine ⟨_, rfl, ⟨⟨?_, ?_⟩, ?_, ?_, Nat.le_succ _, [], by simp, by simp⟩⟩
    · have hcr : CacheInv { st with
          resolves := Function.update st.resolves id (some { cachedResolveAddAnswer r queryType
            dnsAnswer addr hostname ttl with pendingConnections := [], state := .done })
          cacheMap := st.cacheMap.eraseP (·.1 == r.address) } :=
        hi.cache.retire hr hnd rfl rfl rfl rfl rfl hfe rfl rfl
      refine hcr.alloc (by simp only [Function.update_idem]; rfl) (by simp [htRemove, hfa])
        rfl rfl rfl
        (fun _ id' hm => ((mem_eraseP_key hi.cache.map_nodup).1 hm).2 (by exact hfa)) (by simp)
        (by simp)
    · have hn : st.resolves st.nextResolve = none := hi.cache.fresh le_rfl
      have hne : st.nextResolve ≠ id := (hi.cache.lt_next hr).ne'
      refine ConnInv.setResolve_empty (ConnInv.setResolve_empty (ConnInv.setResolve_empty
        (hc₁.wake (by simp) (fun c => wakes_informOne (infoOk c)) (by simp)) (by simp) rfl)
        (by simp [hne, hn]) rfl) (by simp) rfl
    · intro id' r₀ r₀' h₀ h₀' qt
      simp only [Function.update_idem, Function.update_apply] at h₀'
      split_ifs at h₀' with h₁ h₂
      · subst h₁; simp [hi.cache.fresh le_rfl] at h₀
      · subst h₂; rw [hr] at h₀; cases h₀; cases h₀'
        exact hset qt
      · rw [h₀] at h₀'; cases h₀'; exact .refl _
    · intro id' r₀' h₀' h₀
      simp only [Function.update_idem, Function.update_apply] at h₀'
      split_ifs at h₀' with h₁ h₂
      · exact h₁.ge
      · subst h₂; simp [hr] at h₀
      · simp [h₀] at h₀'

/-- An answer that no PENDING resolve awaits, for an address without one or for a query type not
    in flight, changes nothing. -/
theorem dnsFoundAnswer_unawaited (hi : DnsInv st) (infoOk : Nat → Bool) (now : Int)
    (address : String) (queryType : QueryType) (dnsAnswer : Int) (addr : Option TorAddr)
    (hostname : Option (List UInt8)) (ttl : UInt32)
    (h : ∀ id r, htFind st.cacheMap address = some id → st.resolves id = some r →
      r.state = .pending → r.status queryType ≠ .inflight) :
    dnsFoundAnswer infoOk now st address queryType dnsAnswer addr hostname ttl = some st := by
  unfold dnsFoundAnswer
  cases hf : htFind st.cacheMap address with
  | none => rfl
  | some id =>
    obtain ⟨r, hr, -, -⟩ := hi.cache.map_entry (hi.cache.htFind_iff.1 hf)
    simp only [hr]
    by_cases hs : r.state = .pending
    · rw [cachedResolveAddAnswer_of_not_inflight (h id r hf hr hs)]
      simp [hs, hi.cache.pending_inflight hr hs, ← hr]
    · have hp : r.pendingConnections = [] := by_contra fun h' => hs (hi.cache.pending_state hr h')
      simp [hs, hp]

end Answers

/-! ## Connections -/

section Connections

variable {st : DnsState} {c : Nat} {may : String → Prop}

/-- Changing a connection that is not RESOLVING, and stays so, in fields the discipline does not
    count. -/
theorem DnsInv.setConn_other (hi : DnsInv st) (hc : (st.conns c).state ≠ .resolving)
    {x : ExitConn} (hxs : x.freed = false → x.state ≠ .resolving)
    (hxp : x.placed = (st.conns c).placed) (hxt : x.takenOff = (st.conns c).takenOff)
    (hxe : x.entered = true) :
    DnsInv { st with conns := Function.update st.conns c x } :=
  ⟨hi.cache.of_frame rfl rfl rfl rfl rfl, hi.conn.setConn_unlisted (hi.conn.not_listed hc)
    (by rw [hxp, hxt]; exact hi.conn.unlisted c (hi.conn.not_listed hc))
    (hxp ▸ hi.conn.placed_le c) hxs (by simp [hxe])⟩

/-- Freeing a connection returns; a RESOLVING one is first taken off its list, whose resolve
    `connection_dns_remove` finds and whose list it finds the connection on. -/
theorem connectionFree_post (hi : DnsInv st) (he : (st.conns c).entered = true)
    (hfr : (st.conns c).freed = false) :
    ∃ st', connectionFree st c = some st' ∧ StepPost st st' may := by
  unfold connectionFree
  by_cases hres : (st.conns c).state = .resolving
  · obtain ⟨id, r, hr, hm⟩ := hi.conn.resolving c hfr hres
    obtain ⟨ha, -, -, -⟩ := hi.conn.listed hr hm
    have hp : r.pendingConnections ≠ [] := List.ne_nil_of_mem hm
    have hs := hi.cache.pending_state hr hp
    have hf : htFind st.cacheMap (st.conns c).address = some id :=
      hi.cache.htFind_iff.2 (ha ▸ hi.cache.undone_mapped hr (by simp [hs]))
    simp only [hres, if_true, connectionDnsRemove, ne_eq, not_true_eq_false, if_false, hf, hr,
      if_neg hp, if_pos hm, Option.map_some', Function.update_same, Function.update_idem]
    refine ⟨_, rfl, .of_update ⟨hi.cache.setResolve_same hr rfl rfl rfl rfl rfl rfl rfl rfl
      (fun _ => hs) (fun _ => by simpa [cachedResolveHaveAllAnswers] using
        hi.cache.pending_inflight hr hs),
      hi.conn.remove hr hm rfl rfl rfl he⟩ hr rfl (fun qt => by cases qt <;> exact .refl _) rfl rfl⟩
  · simp only [hres, if_false, Option.map_some']
    exact ⟨_, rfl, .of_sub (hi.setConn_other hres (by simp) rfl rfl he) id rfl rfl⟩

/-- Marking a connection for close. -/
theorem mark_post (hi : DnsInv st) (he : (st.conns c).entered = true) :
    ∃ st', dnsStep st (.mark c) = some st' ∧ StepPost st st' may :=
  ⟨_, rfl, .of_sub
    ⟨hi.cache.of_frame rfl rfl rfl rfl rfl, hi.conn.setConn_same rfl rfl rfl rfl rfl he⟩ id rfl rfl⟩

end Connections

/-! ## Requests -/

/-- What `launch_resolve` can do: set the three statuses, and return `-1`, or `0` with a lookup in
    flight. -/
theorem launchResolve_cases (env : LaunchEnv) (ptr : Int) (r : CachedResolve) :
    ∃ s₄ s₆ sₕ, (launchResolve env ptr r).2 =
      { r with resStatusIpv4 := s₄, resStatusIpv6 := s₆, resStatusHostname := sₕ } ∧
      ((launchResolve env ptr r).1 = -1 ∨
        (launchResolve env ptr r).1 = 0 ∧ (s₄ = .inflight ∨ sₕ = .inflight)) := by
  dsimp only [launchResolve]
  by_cases h₁ : (env.netDisabled || !env.nameserversReady) = true
  · rw [if_pos h₁]; exact ⟨_, _, _, rfl, .inl rfl⟩
  rw [if_neg h₁]
  by_cases h₂ : ptr = 0
  · rw [if_pos h₂]
    by_cases h₃ : (!env.launchOneResolveOk .ipv4A) = true
    · rw [if_pos h₃]; exact ⟨_, _, _, rfl, .inl rfl⟩
    rw [if_neg h₃]
    by_cases h₄ : (env.ipv6Exit && !env.launchOneResolveOk .ipv6AAAA) = true
    · rw [if_pos h₄]; exact ⟨_, _, _, rfl, .inl rfl⟩
    rw [if_neg h₄]; exact ⟨_, _, _, rfl, .inr ⟨rfl, .inl rfl⟩⟩
  rw [if_neg h₂]
  by_cases h₅ : ptr = 1
  · rw [if_pos h₅]
    by_cases h₆ : env.launchOneResolveOk .ptr = true
    · rw [if_pos h₆]; exact ⟨_, _, _, rfl, .inr ⟨rfl, .inr rfl⟩⟩
    rw [if_neg h₆]; exact ⟨_, _, _, rfl, .inl rfl⟩
  rw [if_neg h₅]; exact ⟨_, _, _, rfl, .inl rfl⟩

/-- What `launch_resolve` leaves alone. -/
theorem launchResolve_frame (env : LaunchEnv) (ptr : Int) (r : CachedResolve) :
    let r' := (launchResolve env ptr r).2
    r'.address = r.address ∧ r'.state = r.state ∧ r'.expire = r.expire ∧
      r'.pendingConnections = r.pendingConnections := by
  obtain ⟨_, _, _, he, -⟩ := launchResolve_cases env ptr r
  dsimp only
  rw [he]
  exact ⟨rfl, rfl, rfl, rfl⟩

/-- `launch_resolve` returns `0` or `-1`. -/
theorem launchResolve_ret (env : LaunchEnv) (ptr : Int) (r : CachedResolve) :
    (launchResolve env ptr r).1 = 0 ∨ (launchResolve env ptr r).1 = -1 := by
  obtain ⟨_, _, _, -, h | ⟨h, -⟩⟩ := launchResolve_cases env ptr r
  exacts [.inr h, .inl h]

/-- A launch that succeeds leaves a lookup in flight. -/
theorem launchResolve_inflight {env : LaunchEnv} {ptr : Int} {r : CachedResolve}
    (h : (launchResolve env ptr r).1 = 0) :
    cachedResolveHaveAllAnswers (launchResolve env ptr r).2 = false := by
  obtain ⟨s₄, s₆, sₕ, he, hr | ⟨-, rfl | rfl⟩⟩ := launchResolve_cases env ptr r
  · exact absurd (h.symm.trans hr) (by decide)
  all_goals simp [he, cachedResolveHaveAllAnswers]

/-- `dns_cancel_pending_resolve` on the PENDING resolve at the head of `cache_map`, the one a failed
    launch leaves. -/
theorem dnsCancelPendingResolve_head {st : DnsState} {a : String} {n : Nat}
    {m : List (String × Nat)} {r : CachedResolve} (hm : st.cacheMap = (a, n) :: m)
    (hr : st.resolves n = some r) (hs : r.state = .pending) (hp : r.pendingConnections ≠ [])
    (ha : r.address = a) :
    dnsCancelPendingResolve st a = some { st with
      conns := wakeAll (fun _ => failPending .cancelled) r.pendingConnections st.conns
      cacheMap := m
      resolves := Function.update st.resolves n
        (some { r with pendingConnections := [], state := .done }) } := by
  simp [dnsCancelPendingResolve, hm, htFind_cons, hr, hs, hp, htRemove, ha]

/-- No entry of `cache_map` for `a` outlives `now`. -/
def NoLiveEntry (st : DnsState) (now : Int) (a : String) : Prop :=
  ∀ id r, (a, id) ∈ st.cacheMap → st.resolves id = some r → r.expire ≤ now


section Requests

variable {st : DnsState} {c : Nat}

/-- What a request at `now` may launch: a lookup for the connection's lower-cased address, when
    `cache_map` has no unexpired entry for it. -/
def RequestMay (st : DnsState) (c : Nat) (now : Int) (a : String) : Prop :=
  a = (st.conns c).address.toLower ∧ NoLiveEntry st now a

/-- Changing a connection that is not RESOLVING in fields the discipline does not count. -/
theorem StepPost.setConn_other (hi : DnsInv st) (hc : (st.conns c).state ≠ .resolving)
    {x : ExitConn} {may : String → Prop} (hxs : x.state = (st.conns c).state)
    (hxp : x.placed = (st.conns c).placed) (hxt : x.takenOff = (st.conns c).takenOff)
    (hxe : x.entered = true) :
    StepPost st { st with conns := Function.update st.conns c x } may :=
  .of_sub (hi.setConn_other hc (fun _ => hxs ▸ hc) hxp hxt hxe) id rfl rfl

/-- A new request's connection takes an identifier not yet handed to `dns_resolve`. -/
theorem StepPost.request (hi : DnsInv st) (hc : (st.conns c).entered = false) (address : String)
    (purpose : ExitPurpose) {may : String → Prop} :
    StepPost st { st with conns := Function.update st.conns c (.request address purpose) } may := by
  have hu := hi.conn.unborn c hc
  exact .setConn_other hi (by simp [hu, ExitConn.unborn])
    (by simp [hu, ExitConn.unborn, ExitConn.request])
    (by simp [hu, ExitConn.unborn, ExitConn.request])
    (by simp [hu, ExitConn.unborn, ExitConn.request]) rfl

/-- `dns_resolve_impl` on a connection just handed over returns: not made pending, made pending
    with the RESOLVING state consistent, or a failed launch, after whose cancellation in
    `dns_resolve` the state is consistent again. -/
theorem dnsResolveImpl_post (hi : DnsInv st) (env : ResolveEnv) (lenv : LaunchEnv) (now : Int)
    (isResolve : Bool) (hs : (st.conns c).state = .other) (hp : (st.conns c).placed = 0)
    (ht : (st.conns c).takenOff = []) (he : (st.conns c).entered = true)
    (hf : (st.conns c).freed = false) :
    ∃ r made st₁, dnsResolveImpl env lenv now st c isResolve = some (r, made, st₁) ∧
      ((r ≠ 0 ∧ made = false ∧ StepPost st st₁ (RequestMay st c now) ∧
          (st₁.conns c).state ≠ .resolving ∧ (st₁.conns c).entered = true) ∨
        (r = 0 ∧ StepPost st
          { st₁ with conns := Function.update st₁.conns c { st₁.conns c with state := .resolving } }
          (RequestMay st c now)) ∨
        (r ≠ 0 ∧ r ≠ 1 ∧ made = true ∧ ∃ st₂, dnsCancelPendingResolve st₁ (st₁.conns c).address =
          some st₂ ∧ StepPost st st₂ (RequestMay st c now))) := by
  have hnr : (st.conns c).state ≠ .resolving := by simp [hs]
  unfold dnsResolveImpl
  cases haf : env.addrFamily with
  | some inet =>
    exact ⟨_, _, _, rfl, .inl ⟨by cases inet <;> decide, rfl, .refl hi, hnr, he⟩⟩
  | none =>
  by_cases hrs : env.rejectStar = true
  · simp only [hrs, if_true]
    exact ⟨_, _, _, rfl, .inl ⟨by decide, rfl, .refl hi, hnr, he⟩⟩
  by_cases hid : env.invalidDestination = true
  · simp only [hrs, hid, if_true, Bool.false_eq_true, if_false]
    exact ⟨_, _, _, rfl, .inl ⟨by decide, rfl, .refl hi, hnr, he⟩⟩
  obtain ⟨s₁, hpu, hpp⟩ := purgeExpiredResolves_post hi now
  have hc₁ : s₁.conns c = st.conns c := hpp.conns hi c hnr
  have hpost₁ : StepPost st s₁ (RequestMay st c now) := hpp.stepPost
  have hnr₁ : (s₁.conns c).state ≠ .resolving := hc₁ ▸ hnr
  simp only [hrs, hid, hpu, hc₁, Bool.false_eq_true, if_false]
  by_cases hptr : ptrRefused env.ptr env.ptrInternal isResolve = true
  · rw [if_pos hptr]
    exact ⟨_, _, _, rfl, .inl ⟨by decide, rfl, hpost₁.trans hi
      (.setConn_other hpp.inv hnr₁ (by rw [hc₁]) (by rw [hc₁]) (by rw [hc₁]) he), by simp [hs],
      by simp [he]⟩⟩
  rw [if_neg hptr]
  cases hfd : htFind s₁.cacheMap (st.conns c).address.toLower with
  | some id =>
    obtain ⟨r, hr, ha, hnd⟩ := hpp.inv.cache.map_entry (hpp.inv.cache.htFind_iff.1 hfd)
    have hexp : now < r.expire := hpp.unexpired _ (hpp.inv.cache.heap_complete hr)
    simp only [hr, if_pos hexp]
    cases hst : r.state with
    | done => exact absurd hst hnd
    | pending =>
      refine ⟨_, _, _, rfl, .inr (.inl ⟨rfl, hpost₁.trans hi ?_⟩)⟩
      simp only [Function.update_same, Function.update_idem]
      refine .of_update ⟨hpp.inv.cache.setResolve_same hr rfl rfl rfl rfl rfl rfl hst.symm rfl
        (fun _ => rfl) (fun _ => by simpa [cachedResolveHaveAllAnswers] using
          hpp.inv.cache.pending_inflight hr hst),
        hpp.inv.conn.place (hpp.inv.conn.not_listed hnr₁)
          (fun r₀ h₀ => by rw [hr] at h₀; cases h₀; exact ⟨rfl, rfl⟩) (fun h => by simp [hr] at h)
          rfl ha.symm rfl hf (by simp [hp]) ht he⟩ hr rfl
        (fun qt => by cases qt <;> exact .refl _) rfl rfl
    | cached =>
      exact ⟨_, _, _, rfl, .inl ⟨by split <;> decide, rfl, hpost₁.trans hi
        (.setConn_other hpp.inv hnr₁ (by rw [hc₁]) (by rw [hc₁]) (by rw [hc₁]) he), by simp [hs],
        by simp [he]⟩⟩
  | none =>
  have hmay : RequestMay st c now (st.conns c).address.toLower :=
    ⟨rfl, fun id' r' hm hr' => le_of_not_lt fun hlt =>
      htFind_eq_none_iff.1 hfd id' (hpp.keep hm hr' hlt)⟩
  have hn : s₁.resolves s₁.nextResolve = none := hpp.inv.cache.fresh le_rfl
  simp only [setExpiry, CachedResolve.fresh_expire, if_true, Option.map_some']
  have hfr := launchResolve_frame lenv env.ptr
    ((CachedResolve.fresh (st.conns c).address.toLower c).setExpire (now + RESOLVE_MAX_TIMEOUT))
  have hin := @launchResolve_inflight lenv env.ptr
    ((CachedResolve.fresh (st.conns c).address.toLower c).setExpire (now + RESOLVE_MAX_TIMEOUT))
  simp only [CachedResolve.setExpire_address, CachedResolve.setExpire_state,
    CachedResolve.setExpire_pendingConnections, CachedResolve.setExpire_expire,
    CachedResolve.fresh_address, CachedResolve.fresh_state,
    CachedResolve.fresh_pendingConnections] at hfr
  obtain ⟨hla, hls, hle, hlp⟩ := hfr
  have hlaunched : ∀ a ∈ [(st.conns c).address.toLower], RequestMay st c now a :=
    fun a ha => (List.mem_singleton.1 ha) ▸ hmay
  rcases launchResolve_ret lenv env.ptr
    ((CachedResolve.fresh (st.conns c).address.toLower c).setExpire (now + RESOLVE_MAX_TIMEOUT))
    with h0 | h1
  · refine ⟨_, _, _, rfl, .inr (.inl ⟨h0, hpost₁.trans hi (.of_alloc hpp.inv ⟨?_, ?_⟩
      (by simp only [Function.update_idem]; rfl) rfl ⟨_, rfl, hlaunched⟩)⟩)⟩
    · exact hpp.inv.cache.alloc (by simp only [Function.update_idem]) (by simp [hls, hla])
        (by simp [hle]) rfl rfl
        (fun _ id' hm => htFind_eq_none_iff.1 hfd id' (by rwa [hla] at hm)) (fun _ => hls)
        (fun _ => hin h0)
    · simp only [Function.update_same, Function.update_idem]
      exact hpp.inv.conn.place (hpp.inv.conn.not_listed hnr₁) (fun r h => by simp [hn] at h)
        (fun _ => rfl) hlp (by simp [hla]) rfl hf (by simp [hp]) ht he
  · refine ⟨_, _, _, rfl, .inr (.inr ⟨by rw [h1]; decide, by rw [h1]; decide, rfl, ?_⟩)⟩
    simp only [Function.update_same]
    refine ⟨_, dnsCancelPendingResolve_head rfl (by simp) hls (by simp [hlp]) hla,
      hpost₁.trans hi (.of_alloc hpp.inv ⟨?_, ?_⟩ (by simp only [Function.update_idem]; rfl) rfl
        ⟨_, rfl, hlaunched⟩)⟩
    · exact hpp.inv.cache.alloc (by simp only [Function.update_idem]; rfl) (by simp)
        (by simp [hle]) rfl rfl (fun h => absurd rfl h) (fun h => absurd rfl h)
        (fun h => by cases h)
    · simp only [hlp, wakeAll, Function.update_same, Function.update_idem]
      refine (hpp.inv.conn.setResolve_empty (fun r h => by simp [hn] at h) rfl).setConn_unlisted
        ?_ (by simp [failPending, hp, ht]) (by simp [failPending, hp]) (by simp [failPending])
        (by simp [failPending, he])
      rintro ⟨id', r', h, hm⟩
      rw [update_eq_some] at h
      rcases h with ⟨-, h⟩ | ⟨-, h⟩
      · cases h; simp at hm
      · exact hpp.inv.conn.not_listed hnr₁ ⟨id', r', h, hm⟩

/-- `dns_resolve` for a connection just handed over returns, from any outcome of
    `dns_resolve_impl`. -/
theorem dnsResolve_post (hi : DnsInv st) (env : ResolveEnv) (lenv : LaunchEnv) (now : Int)
    (hs : (st.conns c).state = .other) (hp : (st.conns c).placed = 0)
    (ht : (st.conns c).takenOff = []) (he : (st.conns c).entered = true)
    (hf : (st.conns c).freed = false) :
    ∃ st', dnsResolve env lenv now st c = some st' ∧ StepPost st st' (RequestMay st c now) := by
  obtain ⟨r, made, st₁, himpl, hcase⟩ :=
    dnsResolveImpl_post hi env lenv now ((st.conns c).purpose == .resolve) hs hp ht he hf
  unfold dnsResolve
  rw [himpl]
  rcases hcase with ⟨hr0, rfl, hpost, hnr, he₁⟩ | ⟨rfl, hpost⟩ | ⟨hr0, hr1, rfl, st₂, hcan, hpost⟩
  · by_cases hr1 : r = 1
    · exact ⟨st₁, by simp [hr1], hpost⟩
    obtain ⟨st₂, hcan, hpost₂, hconns⟩ :=
      dnsCancelPendingResolve_post hpost.inv (st₁.conns c).address
    have hc₂ : st₂.conns c = st₁.conns c := hconns c hnr
    simp only [if_neg hr1, if_neg hr0, hcan, Option.map_some', hc₂]
    split
    · exact ⟨_, rfl, hpost.trans hi (hpost₂.trans hpost.inv
        (.setConn_other hpost₂.inv (hc₂ ▸ hnr) (by rw [hc₂]) (by rw [hc₂]) (by rw [hc₂]) he₁))⟩
    · exact ⟨_, rfl, hpost.trans hi hpost₂⟩
  · exact ⟨_, by simp, hpost⟩
  · exact ⟨st₂, by simp [hr0, hr1, hcan], hpost⟩

end Requests

/-! ## Memory pressure -/

theorem le_foldr_max_fst {x : Int × Nat} {l : List (Int × Nat)} (hx : x ∈ l) (m : Int) :
    x.1 ≤ l.foldr (fun x m => max x.1 m) m := by
  induction l with
  | nil => cases hx
  | cons y l ih =>
    rcases List.mem_cons.1 hx with rfl | hx
    · exact le_max_left _ _
    · exact (ih hx).trans (le_max_right _ _)

section Oom

variable (entrySize htMemUsage : Nat) (maxDnsTtl now : Int) (minRemoveBytes : Nat)
  {st : DnsState}

/-- A pass that finds `cache_map` empty ends the loop. -/
theorem dnsCacheHandleOomLoop_of_nil (h : st.cacheMap = []) (fuel : Nat) (timeInc : Int)
    (currentSize total : Nat) :
    dnsCacheHandleOomLoop entrySize htMemUsage maxDnsTtl now minRemoveBytes (fuel + 1) timeInc
      currentSize total st = some (total, st) := by
  simp [dnsCacheHandleOomLoop, h]

/-- Any other pass from an invariant state, `current_size` its allocation, purges at
    `now + timeInc`; what it frees is what the allocation lost, and the loop stops there once
    `minRemoveBytes` are freed in all. -/
theorem dnsCacheHandleOomLoop_pass (hi : DnsInv st) (hm : st.cacheMap ≠ []) (fuel : Nat)
    (timeInc : Int) (total : Nat) :
    ∃ st₁ removed, PurgePost (now + timeInc) st st₁ ∧
      removed + dnsCacheTotalAllocation entrySize htMemUsage st₁ =
        dnsCacheTotalAllocation entrySize htMemUsage st ∧
      dnsCacheHandleOomLoop entrySize htMemUsage maxDnsTtl now minRemoveBytes (fuel + 1) timeInc
          (dnsCacheTotalAllocation entrySize htMemUsage st) total st =
        if total + removed < minRemoveBytes then
          dnsCacheHandleOomLoop entrySize htMemUsage maxDnsTtl now minRemoveBytes fuel
            (timeInc + maxDnsTtl / 4) (dnsCacheTotalAllocation entrySize htMemUsage st₁)
            (total + removed) st₁
        else some (total + removed, st₁) := by
  obtain ⟨st₁, hpu, hpp⟩ := purgeExpiredResolves_post hi (now + timeInc)
  have hle : dnsCacheTotalAllocation entrySize htMemUsage st₁ ≤
      dnsCacheTotalAllocation entrySize htMemUsage st :=
    Nat.add_le_add_right (Nat.mul_le_mul_left _ hpp.map_sublist.length_le) _
  refine ⟨st₁, _, hpp, Nat.sub_add_cancel hle, ?_⟩
  rw [dnsCacheHandleOomLoop, if_neg (by simpa using hm), hpu, Option.some_bind]
  simp only [sizeSub_of_le hle, sizeSub_of_le (Nat.sub_le _ _), Nat.sub_sub_self hle]

/-- With fuel to pass every expiry in the heap, the loop returns from an invariant state: freed
    bytes plus the allocation left make the starting allocation, and it stops short of
    `minRemoveBytes` only with `cache_map` empty. -/
theorem dnsCacheHandleOomLoop_post {may : String → Prop} (fuel : Nat) :
    ∀ (timeInc : Int) (total : Nat) (st : DnsState), DnsInv st →
      (st.cacheMap = [] ∨ 0 < fuel ∧
        ∀ x ∈ st.pqueue, x.1 ≤ now + timeInc + ((fuel : Int) - 1) * (maxDnsTtl / 4)) →
      ∃ total' st', dnsCacheHandleOomLoop entrySize htMemUsage maxDnsTtl now minRemoveBytes
          (fuel + 1) timeInc (dnsCacheTotalAllocation entrySize htMemUsage st) total st =
          some (total', st') ∧
        total' + dnsCacheTotalAllocation entrySize htMemUsage st' =
          total + dnsCacheTotalAllocation entrySize htMemUsage st ∧
        (total' < minRemoveBytes → st'.cacheMap = []) ∧ StepPost st st' may := by
  induction fuel with
  | zero =>
    rintro timeInc total st hi (hm | ⟨h0, -⟩)
    · exact ⟨total, st, dnsCacheHandleOomLoop_of_nil _ _ _ _ _ hm _ _ _ _, rfl, fun _ => hm,
        .refl hi⟩
    · cases h0
  | succ fuel ih =>
    intro timeInc total st hi hc
    by_cases hm : st.cacheMap = []
    · exact ⟨total, st, dnsCacheHandleOomLoop_of_nil _ _ _ _ _ hm _ _ _ _, rfl, fun _ => hm,
        .refl hi⟩
    obtain ⟨-, hb⟩ := hc.resolve_left hm
    obtain ⟨st₁, removed, hpp, hrem, h⟩ :=
      dnsCacheHandleOomLoop_pass entrySize htMemUsage maxDnsTtl now minRemoveBytes hi hm
        (fuel + 1) timeInc total
    rw [h]
    by_cases hlt : total + removed < minRemoveBytes
    swap
    · exact ⟨_, _, if_neg hlt, by omega, fun h => absurd h hlt, hpp.stepPost⟩
    rw [if_pos hlt]
    -- what the pass left in the heap expires after `now + timeInc`, and by the old bound
    have hb₁ : ∀ x ∈ st₁.pqueue, now + timeInc < x.1 ∧
        x.1 ≤ now + timeInc + (fuel : Int) * (maxDnsTtl / 4) := fun x hx => by
      have hx₀ := (List.mem_filter.1 (hpp.pqueue_eq ▸ hx)).1
      exact ⟨hpp.unexpired x hx, by simpa using hb x hx₀⟩
    have hc₁ : st₁.cacheMap = [] ∨ 0 < fuel ∧ ∀ x ∈ st₁.pqueue,
        x.1 ≤ now + (timeInc + maxDnsTtl / 4) + ((fuel : Int) - 1) * (maxDnsTtl / 4) := by
      rcases Nat.eq_zero_or_pos fuel with rfl | hf
      · refine .inl (hpp.inv.cache.map_eq_nil (List.eq_nil_iff_forall_not_mem.2 fun x hx => ?_))
        have := hb₁ x hx
        simp only [Nat.cast_zero, zero_mul, add_zero] at this
        exact absurd this.2 (not_le.2 this.1)
      · exact .inr ⟨hf, fun x hx => by linarith [(hb₁ x hx).2]⟩
    obtain ⟨total', st', h', heq, hmin, hpost⟩ := ih _ _ st₁ hpp.inv hc₁
    exact ⟨total', st', h', by omega, hmin, hpp.stepPost.trans hi hpost⟩

/-- `dns_cache_handle_oom` from an invariant state returns when `MAX_DNS_TTL / 4` is positive:
    what it frees and the allocation left make the allocation it found, and it frees fewer than
    `minRemoveBytes` only by emptying `cache_map`. -/
theorem dnsCacheHandleOom_post (hq : 0 < maxDnsTtl / 4) (hi : DnsInv st) {may : String → Prop} :
    ∃ removed st', dnsCacheHandleOom entrySize htMemUsage maxDnsTtl now minRemoveBytes st =
        some (removed, st') ∧
      removed + dnsCacheTotalAllocation entrySize htMemUsage st' =
        dnsCacheTotalAllocation entrySize htMemUsage st ∧
      (removed < minRemoveBytes → st'.cacheMap = []) ∧ StepPost st st' may := by
  set q := maxDnsTtl / 4
  set K := ((lastExpiry now st - now) / q).toNat
  -- the fuel lasts until the cutoff passes `lastExpiry`
  have hK : lastExpiry now st - now < ((K : Int) + 1) * q := calc
    lastExpiry now st - now < ((lastExpiry now st - now) / q + 1) * q :=
      Int.lt_ediv_add_one_mul_self _ hq
    _ ≤ ((K : Int) + 1) * q :=
      mul_le_mul_of_nonneg_right (by linarith [Int.self_le_toNat ((lastExpiry now st - now) / q)])
        hq.le
  have hb : ∀ x ∈ st.pqueue, x.1 ≤ now + 0 + (((K + 2 : Nat) : Int) - 1) * q := fun x hx => by
    have : x.1 ≤ lastExpiry now st := le_foldr_max_fst hx now
    push_cast
    linarith
  obtain ⟨removed, st', h, heq, hmin, hpost⟩ :=
    dnsCacheHandleOomLoop_post entrySize htMemUsage maxDnsTtl now minRemoveBytes (K + 2) 0 0 st hi
      (.inr ⟨by omega, hb⟩)
  exact ⟨removed, st', h, by simpa using heq, hmin, hpost⟩

end Oom

/-! ## Runs -/

/-- What a call may launch: a request, for its own lower-cased address, when `cache_map` has no
    unexpired entry for it; no other call launches anything. -/
def DnsCall.MayLaunch (st : DnsState) : DnsCall → String → Prop
  | .resolve _ address _ _ _ now, a => a = address.toLower ∧ NoLiveEntry st now a
  | _, _ => False

/-- **Every allowed call from an invariant state returns**, so that no assertion of `dns.c`
    fails, and guarantees `StepPost`. -/
theorem dnsStep_post {st : DnsState} (hi : DnsInv st) (call : DnsCall)
    (ha : call.allowed st = true) :
    ∃ st', dnsStep st call = some st' ∧ StepPost st st' (call.MayLaunch st) := by
  cases call with
  | resolve c address purpose env lenv now =>
    set st₀ : DnsState := { st with conns := Function.update st.conns c (.request address purpose) }
    have h₀ : StepPost st st₀ (RequestMay st₀ c now) :=
      .request hi (by simpa [DnsCall.allowed] using ha) address purpose
    obtain ⟨st', h', hp⟩ := @dnsResolve_post st₀ c h₀.inv env lenv now
      (by simp [st₀, ExitConn.request, ExitConn.unborn])
      (by simp [st₀, ExitConn.request, ExitConn.unborn])
      (by simp [st₀, ExitConn.request, ExitConn.unborn]) (by simp [st₀, ExitConn.request])
      (by simp [st₀, ExitConn.request, ExitConn.unborn])
    refine ⟨st', h', (h₀.trans hi hp).mono fun a h => ⟨?_, h.2⟩⟩
    simpa [st₀, RequestMay, ExitConn.request] using h.1
  | foundAnswer infoOk now address queryType dnsAnswer addr hostname ttl =>
    exact dnsFoundAnswer_post hi infoOk now address queryType dnsAnswer addr hostname ttl
  | cancel address =>
    obtain ⟨st', h', hp, -⟩ := dnsCancelPendingResolve_post hi address
    exact ⟨st', h', hp⟩
  | purge now =>
    obtain ⟨st', h', hp⟩ := purgeExpiredResolves_post hi now
    exact ⟨st', h', hp.stepPost⟩
  | oom entrySize htMemUsage maxDnsTtl now minRemoveBytes =>
    obtain ⟨removed, st', h', -, -, hp⟩ := dnsCacheHandleOom_post entrySize htMemUsage maxDnsTtl now
      minRemoveBytes (by simpa [DnsCall.allowed] using ha) hi
    exact ⟨st', by simp [dnsStep, h'], hp⟩
  | mark c =>
    simp only [DnsCall.allowed, Bool.and_eq_true, Bool.not_eq_true'] at ha
    exact mark_post hi ha.1
  | free c =>
    simp only [DnsCall.allowed, Bool.and_eq_true, Bool.not_eq_true'] at ha
    exact connectionFree_post hi ha.1 ha.2

/-- The run lemma: every reachable state satisfies the invariant. -/
theorem reachable_dnsInv {st : DnsState} (h : DnsReachable st) : DnsInv st := by
  induction h with
  | init => exact dnsInv_init
  | step call _ ha hs ih =>
    obtain ⟨st', h', hp⟩ := dnsStep_post ih call ha
    rw [hs] at h'
    cases h'
    exact hp.inv


end TorCore
