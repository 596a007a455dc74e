import TorCore.Dns.Pending

/-!
# `TorCore.Dns.CacheInv` — the consistency of `cache_map` and `cached_resolve_pqueue`

`CacheInv` is what `assert_cache_ok_` checks and more: `cache_map` has one entry per address,
each a PENDING or CACHED resolve that is also in the heap; the heap holds every live resolve once,
in expiry order; a resolve that is not DONE is in `cache_map`; only PENDING resolves have pending
connections, and a PENDING resolve still waits for an answer; `set_expiry` ran once on every
resolve allocated.

The code changes the two tables in five ways, and each is one lemma: a resolve is rewritten in
place (`CacheInv.setResolve_same`), leaves `cache_map` as DONE (`CacheInv.retire`), is popped
from the heap and freed (`CacheInv.popped`), or is allocated, into both tables
(`CacheInv.admit`) or, already DONE, into the heap only (`CacheInv.admitDone`). Each lemma
takes the new state through equations for its fields, so that a caller discharges them by `rfl`.

## Contents
- `CacheInv`, `cacheInv_init`, and what follows from it about `HT_FIND`.
- One lemma per kind of change.
-/

namespace TorCore

/-- The consistency of the resolve table, `cache_map` and `cached_resolve_pqueue`. -/
structure CacheInv (st : DnsState) : Prop where
  /-- `cache_map` has at most one entry per address. -/
  map_nodup : (st.cacheMap.map Prod.fst).Nodup
  /-- An entry of `cache_map` is a live resolve of its address, not DONE. -/
  map_entry : ∀ {a id}, (a, id) ∈ st.cacheMap →
    ∃ r, st.resolves id = some r ∧ r.address = a ∧ r.state ≠ .done
  /-- An entry of the heap is a live resolve, under its expiry time. -/
  heap_entry : ∀ {e id}, (e, id) ∈ st.pqueue → ∃ r, st.resolves id = some r ∧ r.expire = e
  /-- Every live resolve is in the heap. -/
  heap_complete : ∀ {id r}, st.resolves id = some r → (r.expire, id) ∈ st.pqueue
  heap_nodup : (st.pqueue.map Prod.snd).Nodup
  heap_sorted : st.pqueue.Sorted expiresFirst
  /-- A live resolve that is not DONE is in `cache_map`. -/
  undone_mapped : ∀ {id r}, st.resolves id = some r → r.state ≠ .done →
    (r.address, id) ∈ st.cacheMap
  /-- Only PENDING resolves have pending connections. -/
  pending_state : ∀ {id r}, st.resolves id = some r → r.pendingConnections ≠ [] →
    r.state = .pending
  /-- A PENDING resolve still has a lookup in flight. -/
  pending_inflight : ∀ {id r}, st.resolves id = some r → r.state = .pending →
    cachedResolveHaveAllAnswers r = false
  fresh : ∀ {id}, st.nextResolve ≤ id → st.resolves id = none
  /-- `set_expiry` ran once on every resolve allocated so far, and on no other. -/
  expiry_once : ∀ id, st.expirySets id = if id < st.nextResolve then 1 else 0

theorem cacheInv_init : CacheInv DnsState.init := by
  refine ⟨?_, ?_, ?_, ?_, ?_, List.sorted_nil, ?_, ?_, ?_, ?_, ?_⟩ <;> simp [DnsState.init]

section Lemmas

variable {st st' : DnsState} {id : Nat} {r r' : CachedResolve}

/-- In a consistent cache `HT_FIND` finds exactly the entry of the address. -/
theorem CacheInv.htFind_iff (hi : CacheInv st) {a : String} :
    htFind st.cacheMap a = some id ↔ (a, id) ∈ st.cacheMap :=
  htFind_eq_some_iff hi.map_nodup

/-- A resolve has one entry in `cache_map`, under its own address. -/
theorem CacheInv.mapped_eq (hi : CacheInv st) (hr : st.resolves id = some r) {a : String}
    (hm : (a, id) ∈ st.cacheMap) : a = r.address := by
  obtain ⟨r₀, h₀, ha, -⟩ := hi.map_entry hm
  rw [hr] at h₀
  cases h₀
  exact ha.symm

/-- Two entries of one address are the same entry. -/
theorem CacheInv.map_unique (hi : CacheInv st) {a : String} {id₁ id₂ : Nat}
    (h₁ : (a, id₁) ∈ st.cacheMap) (h₂ : (a, id₂) ∈ st.cacheMap) : id₁ = id₂ := by
  rw [← hi.htFind_iff] at h₁ h₂
  exact Option.some.inj (h₁.symm.trans h₂)

theorem CacheInv.lt_next (hi : CacheInv st) (hr : st.resolves id = some r) :
    id < st.nextResolve := by
  by_contra h
  simp [hi.fresh (Nat.le_of_not_lt h)] at hr

/-- With the heap empty no resolve is live, so `cache_map` is empty too. -/
theorem CacheInv.resolves_eq_none (hi : CacheInv st) (h : st.pqueue = []) (id : Nat) :
    st.resolves id = none :=
  Option.eq_none_iff_forall_not_mem.2 fun _ hr => by simpa [h] using hi.heap_complete hr

theorem CacheInv.map_eq_nil (hi : CacheInv st) (h : st.pqueue = []) : st.cacheMap = [] :=
  List.eq_nil_iff_forall_not_mem.2 fun _ hm => by
    obtain ⟨r, hr, -⟩ := hi.map_entry hm
    simp [hi.resolves_eq_none h] at hr

/-- The consistency reads only the resolves, the two tables, the allocation counter and the
    ghost count of `set_expiry`. -/
theorem CacheInv.of_frame (hi : CacheInv st) (hres : st'.resolves = st.resolves)
    (hmap : st'.cacheMap = st.cacheMap) (hpq : st'.pqueue = st.pqueue)
    (hnext : st'.nextResolve = st.nextResolve) (hes : st'.expirySets = st.expirySets) :
    CacheInv st' := by
  obtain ⟨res', next', map', pq', cs', es', l'⟩ := st'
  dsimp only at hres hmap hpq hnext hes
  subst hres hmap hpq hnext hes
  exact ⟨hi.1, hi.2, hi.3, hi.4, hi.5, hi.6, hi.7, hi.8, hi.9, hi.10, hi.11⟩

/-- Rewriting a live resolve with its expiry time keeps the heap an index of the live
    resolves. -/
theorem CacheInv.heap_entry_update (hi : CacheInv st) (hr : st.resolves id = some r)
    (he : r'.expire = r.expire) {e : Int} {id' : Nat} (hm : (e, id') ∈ st.pqueue) :
    ∃ r₀, Function.update st.resolves id (some r') id' = some r₀ ∧ r₀.expire = e := by
  obtain ⟨r₀, h₀, he₀⟩ := hi.heap_entry hm
  by_cases hid : id' = id
  · subst hid; rw [hr] at h₀; cases h₀
    exact ⟨r', by simp, he.trans he₀⟩
  · exact ⟨r₀, by simp [hid, h₀], he₀⟩

theorem CacheInv.fresh_update (hi : CacheInv st) (hr : st.resolves id = some r)
    {o : Option CachedResolve} {id' : Nat} (h : st.nextResolve ≤ id') :
    Function.update st.resolves id o id' = none := by
  have hid : id' ≠ id := by rintro rfl; simp [hi.fresh h] at hr
  rw [Function.update_noteq hid]
  exact hi.fresh h

/-- A resolve rewritten in place, with its address, state and expiry time. -/
theorem CacheInv.setResolve_same (hi : CacheInv st) (hr : st.resolves id = some r)
    (hres : st'.resolves = Function.update st.resolves id (some r'))
    (hmap : st'.cacheMap = st.cacheMap) (hpq : st'.pqueue = st.pqueue)
    (hnext : st'.nextResolve = st.nextResolve) (hes : st'.expirySets = st.expirySets)
    (ha : r'.address = r.address) (hs : r'.state = r.state) (he : r'.expire = r.expire)
    (hp : r'.pendingConnections ≠ [] → r'.state = .pending)
    (hf : r'.state = .pending → cachedResolveHaveAllAnswers r' = false) :
    CacheInv st' := by
  obtain ⟨res', next', map', pq', cs', es', l'⟩ := st'
  dsimp only at hres hmap hpq hnext hes
  subst hres hmap hpq hnext hes
  refine ⟨hi.map_nodup, ?_, fun hm => hi.heap_entry_update hr he hm, ?_, hi.heap_nodup,
    hi.heap_sorted, ?_, ?_, ?_, fun h => hi.fresh_update hr h, hi.expiry_once⟩
  · intro a id' hm
    obtain ⟨r₀, h₀, ha₀, hs₀⟩ := hi.map_entry hm
    by_cases hid : id' = id
    · subst hid; rw [hr] at h₀; cases h₀
      exact ⟨r', by simp, ha.trans ha₀, hs ▸ hs₀⟩
    · exact ⟨r₀, by simp [hid, h₀], ha₀, hs₀⟩
  all_goals intro id' r₀ h₀; rw [update_eq_some] at h₀
  all_goals rcases h₀ with ⟨rfl, h₀⟩ | ⟨-, h₀⟩ <;> [cases h₀; skip]
  · rw [he]; exact hi.heap_complete hr
  · exact hi.heap_complete h₀
  · intro hs'; rw [ha]; exact hi.undone_mapped hr (hs ▸ hs')
  · exact hi.undone_mapped h₀
  · exact hp
  · exact hi.pending_state h₀
  · exact hf
  · exact hi.pending_inflight h₀

/-- A resolve leaves `cache_map` as DONE, its list emptied. -/
theorem CacheInv.retire (hi : CacheInv st) (hr : st.resolves id = some r)
    (hnd : r.state ≠ .done) (hres : st'.resolves = Function.update st.resolves id (some r'))
    (hmap : st'.cacheMap = st.cacheMap.eraseP (·.1 == r.address))
    (hpq : st'.pqueue = st.pqueue) (hnext : st'.nextResolve = st.nextResolve)
    (hes : st'.expirySets = st.expirySets) (he : r'.expire = r.expire) (hs : r'.state = .done)
    (hp : r'.pendingConnections = []) : CacheInv st' := by
  obtain ⟨res', next', map', pq', cs', es', l'⟩ := st'
  dsimp only at hres hmap hpq hnext hes
  subst hres hmap hpq hnext hes
  have hmem := fun {x} => mem_eraseP_key (a := r.address) (x := x) hi.map_nodup
  have hself := hi.undone_mapped hr hnd
  refine ⟨nodup_eraseP_key hi.map_nodup, ?_, fun hm => hi.heap_entry_update hr he hm, ?_,
    hi.heap_nodup, hi.heap_sorted, ?_, ?_, ?_, fun h => hi.fresh_update hr h, hi.expiry_once⟩
  · intro a id' hm
    obtain ⟨hm, hne⟩ := hmem.1 hm
    obtain ⟨r₀, h₀, ha₀, hs₀⟩ := hi.map_entry hm
    have hid : id' ≠ id := by rintro rfl; rw [hr] at h₀; cases h₀; exact hne ha₀.symm
    exact ⟨r₀, by simp [hid, h₀], ha₀, hs₀⟩
  all_goals intro id' r₀ h₀; rw [update_eq_some] at h₀
  all_goals rcases h₀ with ⟨rfl, h₀⟩ | ⟨hid, h₀⟩ <;> [cases h₀; skip]
  · rw [he]; exact hi.heap_complete hr
  · exact hi.heap_complete h₀
  · exact fun h => absurd hs h
  · intro hs'
    have hm := hi.undone_mapped h₀ hs'
    exact hmem.2 ⟨hm, fun h => hid (hi.map_unique (h ▸ hm) hself)⟩
  · exact fun h => absurd hp h
  · exact hi.pending_state h₀
  · intro h; rw [hs] at h; cases h
  · exact hi.pending_inflight h₀

/-- Popping a resolve from `cache_map` (a DONE one is not there) leaves the entries of the other
    resolves. -/
theorem CacheInv.mem_popped_map (hi : CacheInv st) (hr : st.resolves id = some r)
    {x : String × Nat} :
    x ∈ (if r.state = .done then st.cacheMap else st.cacheMap.eraseP (·.1 == r.address)) ↔
      x ∈ st.cacheMap ∧ x.2 ≠ id := by
  obtain ⟨a, id'⟩ := x
  split_ifs with hd
  · refine ⟨fun hm => ⟨hm, ?_⟩, And.left⟩
    rintro rfl
    obtain ⟨r₀, h₀, -, hs₀⟩ := hi.map_entry hm
    rw [hr] at h₀; cases h₀; exact hs₀ hd
  · rw [mem_eraseP_key hi.map_nodup]
    refine and_congr_right fun hm => ⟨fun ha hid => ha ?_, fun hid ha => hid ?_⟩
    · obtain rfl : id' = id := hid
      exact hi.mapped_eq hr hm
    · exact hi.map_unique hm ((show a = r.address from ha) ▸ hi.undone_mapped hr hd)

/-- The first resolve of the heap is popped and freed: a DONE one was out of `cache_map`, any
    other leaves it. -/
theorem CacheInv.popped (hi : CacheInv st) {e : Int} {pq : List (Int × Nat)}
    (hpq : st.pqueue = (e, id) :: pq) (hr : st.resolves id = some r)
    (hres : st'.resolves = Function.update st.resolves id none)
    (hmap : st'.cacheMap =
      if r.state = .done then st.cacheMap else st.cacheMap.eraseP (·.1 == r.address))
    (hpq' : st'.pqueue = pq) (hnext : st'.nextResolve = st.nextResolve)
    (hes : st'.expirySets = st.expirySets) : CacheInv st' := by
  obtain ⟨res', next', map', pq', cs', es', l'⟩ := st'
  dsimp only at hres hmap hpq' hnext hes
  subst res' map' pq' next' es'
  have hnd := hi.heap_nodup
  have hso := hi.heap_sorted
  rw [hpq, List.map_cons, List.nodup_cons] at hnd
  rw [hpq] at hso
  have hne : ∀ {e' id'}, (e', id') ∈ pq → id' ≠ id :=
    fun {e' id'} hm h => hnd.1 (List.mem_map.2 ⟨(e', id'), hm, h⟩)
  refine ⟨?_, ?_, ?_, ?_, hnd.2, hso.of_cons, ?_, ?_, ?_, ?_, hi.expiry_once⟩
  · dsimp only
    split_ifs
    · exact hi.map_nodup
    · exact nodup_eraseP_key hi.map_nodup
  · intro a id' hm
    obtain ⟨hm, hid⟩ := (hi.mem_popped_map hr).1 hm
    simpa [Function.update_noteq hid] using hi.map_entry hm
  · intro e' id' hm
    simpa [Function.update_noteq (hne hm)] using hi.heap_entry (hpq ▸ .tail _ hm)
  all_goals first
    | (intro id' r₀ h₀; rw [update_eq_some] at h₀
       obtain ⟨hid, h₀⟩ := h₀.resolve_left (by simp))
    | skip
  · have hm := hi.heap_complete h₀
    rw [hpq, List.mem_cons] at hm
    exact hm.resolve_left fun h => hid (Prod.mk.inj h).2
  · exact fun hs' => (hi.mem_popped_map hr).2 ⟨hi.undone_mapped h₀ hs', hid⟩
  · exact hi.pending_state h₀
  · exact hi.pending_inflight h₀
  · intro id' h
    by_cases hid : id' = id
    · subst hid; simp
    · simpa [Function.update_noteq hid] using hi.fresh h

/-- A new resolve is allocated at `nextResolve` and enters the heap, and `cache_map` too unless
    it is already DONE (where its address had no entry). -/
theorem CacheInv.alloc (hi : CacheInv st)
    (hres : st'.resolves = Function.update st.resolves st.nextResolve (some r))
    (hmap : st'.cacheMap = if r.state = .done then st.cacheMap
      else (r.address, st.nextResolve) :: st.cacheMap)
    (hpq : st'.pqueue = st.pqueue.orderedInsert expiresFirst (r.expire, st.nextResolve))
    (hnext : st'.nextResolve = st.nextResolve + 1)
    (hes : st'.expirySets =
      Function.update st.expirySets st.nextResolve (st.expirySets st.nextResolve + 1))
    (hnew : r.state ≠ .done → ∀ id', (r.address, id') ∉ st.cacheMap)
    (hp : r.pendingConnections ≠ [] → r.state = .pending)
    (hf : r.state = .pending → cachedResolveHaveAllAnswers r = false) :
    CacheInv st' := by
  obtain ⟨res', next', map', pq', cs', es', l'⟩ := st'
  dsimp only at hres hmap hpq hnext hes
  subst hres hmap hpq hnext hes
  have hold : ∀ {id' r₀}, st.resolves id' = some r₀ → id' ≠ st.nextResolve :=
    fun h₀ h => by simp [h ▸ hi.fresh le_rfl] at h₀
  have hmap : ∀ {a id'}, (a, id') ∈ (if r.state = .done then st.cacheMap
      else (r.address, st.nextResolve) :: st.cacheMap) →
      (a, id') ∈ st.cacheMap ∨ (r.state ≠ .done ∧ a = r.address ∧ id' = st.nextResolve) := by
    intro a id' hm
    split_ifs at hm with hd
    · exact .inl hm
    · rcases List.mem_cons.1 hm with h | h
      · cases h; exact .inr ⟨hd, rfl, rfl⟩
      · exact .inl h
  refine ⟨?_, ?_, ?_, ?_, ?_, hi.heap_sorted.orderedInsert _ _, ?_, ?_, ?_, ?_, ?_⟩
  · dsimp only
    split_ifs with hd
    · exact hi.map_nodup
    · refine List.nodup_cons.2 ⟨fun hm => ?_, hi.map_nodup⟩
      obtain ⟨⟨a, id'⟩, hm, rfl⟩ := List.mem_map.1 hm
      exact hnew hd id' hm
  · intro a id' hm
    rcases hmap hm with hm | ⟨hd, rfl, rfl⟩
    · obtain ⟨r₀, h₀, ha₀, hs₀⟩ := hi.map_entry hm
      exact ⟨r₀, by simp [hold h₀, h₀], ha₀, hs₀⟩
    · exact ⟨r, by simp, rfl, hd⟩
  · intro e id' hm
    rcases (List.mem_orderedInsert expiresFirst).1 hm with h | hm
    · cases h; exact ⟨r, by simp, rfl⟩
    · obtain ⟨r₀, h₀, he₀⟩ := hi.heap_entry hm
      exact ⟨r₀, by simp [hold h₀, h₀], he₀⟩
  all_goals first
    | (intro id' r₀ h₀; rw [update_eq_some] at h₀
       rcases h₀ with ⟨rfl, h₀⟩ | ⟨hid, h₀⟩ <;> [cases h₀; skip])
    | skip
  · exact (List.mem_orderedInsert expiresFirst).2 (.inl rfl)
  · exact (List.mem_orderedInsert expiresFirst).2 (.inr (hi.heap_complete h₀))
  · dsimp only
    rw [((List.perm_orderedInsert _ _ _).map Prod.snd).nodup_iff, List.map_cons, List.nodup_cons]
    refine ⟨fun hm => ?_, hi.heap_nodup⟩
    obtain ⟨⟨e, id'⟩, hm, rfl⟩ := List.mem_map.1 hm
    obtain ⟨r₀, h₀, -⟩ := hi.heap_entry hm
    exact hold h₀ rfl
  · intro hd; dsimp only; rw [if_neg hd]; exact .head _
  · intro hs'
    have hm := hi.undone_mapped h₀ hs'
    dsimp only
    split_ifs
    · exact hm
    · exact .tail _ hm
  · exact hp
  · exact hi.pending_state h₀
  · exact hf
  · exact hi.pending_inflight h₀
  · intro id' h
    dsimp only at h ⊢
    rw [Function.update_noteq (by omega)]
    exact hi.fresh (by omega)
  · intro id'
    dsimp only
    by_cases hid : id' = st.nextResolve
    · subst hid; simp [hi.expiry_once]
    · rw [Function.update_noteq hid, hi.expiry_once]
      by_cases hlt : id' < st.nextResolve
      · simp [hlt, Nat.lt_succ_of_lt hlt]
      · simp [hlt, show ¬ id' < st.nextResolve + 1 by omega]

end Lemmas

end TorCore
