import TorCore.Dns.Cache

/-!
# `TorCore.Dns.Pending` — the pending-list discipline over the tables

`ConnInv res cs` is the discipline of `pending_connections` over the table of resolves and the
table of connections: a connection is on at most one list, once; it is on a list exactly while it
is RESOLVING and not freed; and its ghost counts say it came off a list once for every time it was
put on one, apart from the list it is on now.

The code changes a pending list in four ways, and each is one lemma here: a walk empties a list
(`ConnInv.wake`: `inform_pending_connections`, `dns_cancel_pending_resolve`,
`purge_expired_resolves`), a request is put on a list (`ConnInv.place`), `connection_dns_remove`
takes one connection off (`ConnInv.remove`), and a resolve is rewritten without touching its
list (`ConnInv.setResolve_same`, `ConnInv.setResolve_empty`). Connections that are on no list
change freely (`ConnInv.setConn_unlisted`), and marking one changes nothing the discipline reads
(`ConnInv.setConn_same`).

## Contents
- **Tables.** `htFind_eq_some_iff`, `htFind_eq_none_iff`, `mem_eraseP_key`, `wakeAll_apply`.
- **Walkers.** `Wakes`, `wakes_failPending`, `wakes_informOne`.
- **The discipline.** `Listed`, `ConnInv`, and its lemmas, one per kind of change.
-/

namespace TorCore

/-! ## Tables -/

section Keys

variable {m : List (String × Nat)} {a : String} {id : Nat}

theorem htFind_cons (b : String) (j : Nat) :
    htFind ((b, j) :: m) a = if b = a then some j else htFind m a := by
  by_cases h : b = a <;> simp [htFind, List.find?_cons, h]

/-- `HT_FIND` finds an entry of the address, if there is one. -/
theorem htFind_eq_none_iff : htFind m a = none ↔ ∀ id, (a, id) ∉ m := by
  simp only [htFind, Option.map_eq_none', List.find?_eq_none, beq_iff_eq, Prod.forall]
  exact ⟨fun h id hm => h a id hm rfl, fun h b id hm hb => h id (hb ▸ hm)⟩

/-- In a table with one entry per address, `HT_FIND` finds exactly the entry of the address. -/
theorem htFind_eq_some_iff (hm : (m.map Prod.fst).Nodup) : htFind m a = some id ↔ (a, id) ∈ m := by
  induction m with
  | nil => simp [htFind]
  | cons x m ih =>
    obtain ⟨b, j⟩ := x
    simp only [List.map_cons, List.nodup_cons, List.mem_map] at hm
    rw [htFind_cons, List.mem_cons]
    by_cases hb : b = a
    · subst hb
      rw [if_pos rfl]
      simp only [Option.some.injEq, Prod.mk.injEq, true_and]
      exact ⟨fun h => .inl h.symm, fun h => h.elim Eq.symm fun h => (hm.1 ⟨_, h, rfl⟩).elim⟩
    · simp [hb, ih hm.2, Ne.symm hb]

/-- Removing the entry of `a` from a table with one entry per address keeps the others. -/
theorem mem_eraseP_key (hm : (m.map Prod.fst).Nodup) {x : String × Nat} :
    x ∈ m.eraseP (·.1 == a) ↔ x ∈ m ∧ x.1 ≠ a := by
  induction m with
  | nil => simp
  | cons y m ih =>
    simp only [List.map_cons, List.nodup_cons, List.mem_map] at hm
    by_cases hy : y.1 = a
    · rw [List.eraseP_cons_of_pos (by simpa using hy), List.mem_cons]
      constructor
      · intro hx
        exact ⟨.inr hx, fun h => hm.1 ⟨x, hx, h.trans hy.symm⟩⟩
      · rintro ⟨rfl | hx, hne⟩
        · exact absurd hy hne
        · exact hx
    · rw [List.eraseP_cons_of_neg (by simpa using hy), List.mem_cons, List.mem_cons, ih hm.2]
      constructor
      · rintro (rfl | h)
        · exact ⟨.inl rfl, hy⟩
        · exact ⟨.inr h.1, h.2⟩
      · rintro ⟨rfl | h, hne⟩
        · exact .inl rfl
        · exact .inr ⟨h, hne⟩

theorem nodup_eraseP_key (hm : (m.map Prod.fst).Nodup) :
    ((m.eraseP (·.1 == a)).map Prod.fst).Nodup :=
  ((List.eraseP_sublist m).map _).nodup hm

end Keys

/-- The walk over a list without repetition does its work once on each connection of the list. -/
theorem wakeAll_apply (f : Nat → ExitConn → ExitConn) {l : List Nat} (hl : l.Nodup)
    (cs : Nat → ExitConn) (c : Nat) :
    wakeAll f l cs c = if c ∈ l then f c (cs c) else cs c := by
  induction l generalizing cs with
  | nil => simp [wakeAll]
  | cons d l ih =>
    rw [List.nodup_cons] at hl
    rw [wakeAll, ih hl.2]
    by_cases hc : c = d
    · subst hc
      simp [hl.1]
    · by_cases hcl : c ∈ l <;> simp [hc, hcl, Function.update_noteq hc]

/-! ## Walkers -/

/-- What every walk does to a connection it takes off a list: it leaves RESOLVING, records one
    more way off, and keeps its other ghost fields. -/
structure Wakes (g : ExitConn → ExitConn) : Prop where
  state : ∀ x, (g x).state ≠ .resolving
  takenOff : ∀ x, (g x).takenOff.length = x.takenOff.length + 1
  placed : ∀ x, (g x).placed = x.placed
  entered : ∀ x, (g x).entered = x.entered

theorem wakes_failPending (why : TakenOff) : Wakes (failPending why) :=
  ⟨fun _ => by simp [failPending], fun _ => by simp [failPending], fun _ => rfl, fun _ => rfl⟩

theorem wakes_informOne (ok : Bool) : Wakes (informOne ok) := by
  constructor <;> intro x <;>
    cases hp : x.purpose <;> cases hm : x.markedForClose <;> cases ok <;> simp [informOne, hp, hm]

/-! ## The discipline -/

/-- Connection `c` is on the pending list of some resolve. -/
def Listed (res : Nat → Option CachedResolve) (c : Nat) : Prop :=
  ∃ id r, res id = some r ∧ c ∈ r.pendingConnections

/-- The pending-list discipline over the table of resolves and the table of connections. -/
structure ConnInv (res : Nat → Option CachedResolve) (cs : Nat → ExitConn) : Prop where
  /-- No connection is twice on one list. -/
  nodup : ∀ {id r}, res id = some r → r.pendingConnections.Nodup
  /-- No connection is on two lists. -/
  unique : ∀ {c id₁ id₂ r₁ r₂}, res id₁ = some r₁ → res id₂ = some r₂ →
    c ∈ r₁.pendingConnections → c ∈ r₂.pendingConnections → id₁ = id₂
  /-- A connection on a list waits for the list's address, is RESOLVING and not freed, and was
      put on a list once more often than it came off one. -/
  listed : ∀ {id r c}, res id = some r → c ∈ r.pendingConnections →
    (cs c).address = r.address ∧ (cs c).state = .resolving ∧ (cs c).freed = false ∧
      (cs c).placed = (cs c).takenOff.length + 1
  /-- A RESOLVING connection not yet freed is on a list. -/
  resolving : ∀ c, (cs c).freed = false → (cs c).state = .resolving → Listed res c
  /-- A connection on no list came off a list as often as it was put on one. -/
  unlisted : ∀ c, ¬ Listed res c → (cs c).placed = (cs c).takenOff.length
  placed_le : ∀ c, (cs c).placed ≤ 1
  unborn : ∀ c, (cs c).entered = false → cs c = ExitConn.unborn

theorem connInv_init : ConnInv DnsState.init.resolves DnsState.init.conns := by
  refine ⟨?_, ?_, ?_, ?_, ?_, ?_, ?_⟩ <;> simp [DnsState.init, Listed, ExitConn.unborn]

section Changes

variable {res : Nat → Option CachedResolve} {cs : Nat → ExitConn} {id c : Nat}
  {r r' : CachedResolve}

theorem update_eq_some {o : Option CachedResolve} {id' : Nat} :
    Function.update res id o id' = some r' ↔
      (id' = id ∧ o = some r') ∨ (id' ≠ id ∧ res id' = some r') := by
  by_cases h : id' = id
  · subst h; simp
  · simp [h]

/-- A connection not RESOLVING is on no list. -/
theorem ConnInv.not_listed (hi : ConnInv res cs) (hc : (cs c).state ≠ .resolving) :
    ¬ Listed res c :=
  fun ⟨_, _, hr, hm⟩ => hc (hi.listed hr hm).2.1

/-- A walk over the list of the resolve at `id`, which is then emptied or freed. -/
theorem ConnInv.wake (hi : ConnInv res cs) (hr : res id = some r) {f : Nat → ExitConn → ExitConn}
    (hf : ∀ c, Wakes (f c)) {o : Option CachedResolve}
    (ho : ∀ r', o = some r' → r'.pendingConnections = []) :
    ConnInv (Function.update res id o) (wakeAll f r.pendingConnections cs) := by
  have hw := wakeAll_apply f (hi.nodup hr) cs
  have hnot : ∀ {c id' r'}, res id' = some r' → c ∈ r'.pendingConnections → id' ≠ id →
      c ∉ r.pendingConnections :=
    fun h' hc hne hcr => hne (hi.unique h' hr hc hcr)
  have hmem : ∀ {c id' r'}, Function.update res id o id' = some r' →
      c ∈ r'.pendingConnections → id' ≠ id ∧ res id' = some r' := by
    intro c id' r' h hc
    rcases update_eq_some.1 h with ⟨-, ho'⟩ | h
    · simp [ho r' ho'] at hc
    · exact h
  have hlisted : ∀ c, Listed (Function.update res id o) c ↔
      Listed res c ∧ c ∉ r.pendingConnections := by
    intro c
    constructor
    · rintro ⟨id', r', h, hc⟩
      obtain ⟨hne, h⟩ := hmem h hc
      exact ⟨⟨id', r', h, hc⟩, hnot h hc hne⟩
    · rintro ⟨⟨id', r', h, hc⟩, hcr⟩
      have hne : id' ≠ id := by rintro rfl; rw [hr] at h; cases h; exact hcr hc
      exact ⟨id', r', by simp [hne, h], hc⟩
  refine ⟨?_, ?_, ?_, ?_, ?_, ?_, ?_⟩
  · intro id' r' h
    rcases update_eq_some.1 h with ⟨-, ho'⟩ | ⟨-, h⟩
    · simp [ho r' ho']
    · exact hi.nodup h
  · intro c id₁ id₂ r₁ r₂ h₁ h₂ hc₁ hc₂
    exact hi.unique (hmem h₁ hc₁).2 (hmem h₂ hc₂).2 hc₁ hc₂
  · intro id' r' c h hc
    obtain ⟨hne, h⟩ := hmem h hc
    rw [hw, if_neg (hnot h hc hne)]
    exact hi.listed h hc
  · intro c hfree hres
    rw [hw] at hfree hres
    split_ifs at hfree hres with hcr
    · exact absurd hres ((hf c).state _)
    · exact (hlisted c).2 ⟨hi.resolving c hfree hres, hcr⟩
  · intro c hc
    rw [hw]
    split_ifs with hcr
    · rw [(hf c).placed, (hf c).takenOff, (hi.listed hr hcr).2.2.2]
    · exact hi.unlisted c fun hl => hc ((hlisted c).2 ⟨hl, hcr⟩)
  · intro c
    rw [hw]
    split_ifs
    · rw [(hf c).placed]; exact hi.placed_le c
    · exact hi.placed_le c
  · intro c he
    rw [hw] at he ⊢
    split_ifs at he ⊢ with hcr
    · have := hi.unborn c (by rwa [(hf c).entered] at he)
      have hres := (hi.listed hr hcr).2.1
      simp [this, ExitConn.unborn] at hres
    · exact hi.unborn c he

/-- Lists that are kept or emptied, with every connection that was on a list still on one. -/
theorem ConnInv.of_lists (hi : ConnInv res cs) {res' : Nat → Option CachedResolve}
    (hsub : ∀ {id' r'}, res' id' = some r' → r'.pendingConnections = [] ∨
      ∃ r, res id' = some r ∧ r'.pendingConnections = r.pendingConnections ∧
        r'.address = r.address)
    (hl : ∀ c, Listed res c → Listed res' c) : ConnInv res' cs := by
  have hsame : ∀ {id' r' c}, res' id' = some r' → c ∈ r'.pendingConnections →
      ∃ r, res id' = some r ∧ r'.pendingConnections = r.pendingConnections ∧
        r'.address = r.address := by
    intro id' r' c h hc
    rcases hsub h with hp | h
    · simp [hp] at hc
    · exact h
  refine ⟨?_, ?_, ?_, fun c h₁ h₂ => hl c (hi.resolving c h₁ h₂),
    fun c h => hi.unlisted c fun h' => h (hl c h'), hi.placed_le, hi.unborn⟩
  · intro id' r' h
    rcases hsub h with hp | ⟨r, hr, hp, -⟩
    · simp [hp]
    · exact hp ▸ hi.nodup hr
  · intro c id₁ id₂ r₁ r₂ h₁ h₂ hc₁ hc₂
    obtain ⟨s₁, hs₁, hp₁, -⟩ := hsame h₁ hc₁
    obtain ⟨s₂, hs₂, hp₂, -⟩ := hsame h₂ hc₂
    exact hi.unique hs₁ hs₂ (hp₁ ▸ hc₁) (hp₂ ▸ hc₂)
  · intro id' r' c h hc
    obtain ⟨r, hr, hp, ha⟩ := hsame h hc
    rw [ha]
    exact hi.listed hr (hp ▸ hc)

/-- Rewriting a resolve without touching its list or its address. -/
theorem ConnInv.setResolve_same (hi : ConnInv res cs) (hr : res id = some r)
    (hp : r'.pendingConnections = r.pendingConnections) (ha : r'.address = r.address) :
    ConnInv (Function.update res id (some r')) cs := by
  refine hi.of_lists (fun h => .inr ?_) ?_
  · rcases update_eq_some.1 h with ⟨rfl, h'⟩ | ⟨-, h'⟩
    · cases h'; exact ⟨r, hr, hp, ha⟩
    · exact ⟨_, h', rfl, rfl⟩
  · rintro c ⟨id', r₀, h₀, hc⟩
    by_cases hid : id' = id
    · subst hid
      rw [hr] at h₀
      cases h₀
      exact ⟨id', r', by simp, hp ▸ hc⟩
    · exact ⟨id', r₀, by simp [hid, h₀], hc⟩

/-- Storing a resolve with an empty list where no connection waited. -/
theorem ConnInv.setResolve_empty (hi : ConnInv res cs)
    (hr : ∀ r, res id = some r → r.pendingConnections = [])
    (hp : r'.pendingConnections = []) :
    ConnInv (Function.update res id (some r')) cs := by
  refine hi.of_lists (fun h => ?_) ?_
  · rcases update_eq_some.1 h with ⟨-, h'⟩ | ⟨-, h'⟩
    · cases h'; exact .inl hp
    · exact .inr ⟨_, h', rfl, rfl⟩
  · rintro c ⟨id', r₀, h₀, hc⟩
    have hid : id' ≠ id := by rintro rfl; simp [hr r₀ h₀] at hc
    exact ⟨id', r₀, by simp [hid, h₀], hc⟩

/-- Changing a connection that is on no list into one that need not be on a list. -/
theorem ConnInv.setConn_unlisted (hi : ConnInv res cs) (hc : ¬ Listed res c) {x : ExitConn}
    (hx : x.placed = x.takenOff.length) (hle : x.placed ≤ 1)
    (hres : x.freed = false → x.state ≠ .resolving)
    (hun : x.entered = false → x = ExitConn.unborn) :
    ConnInv res (Function.update cs c x) := by
  refine ⟨hi.nodup, hi.unique, ?_, ?_, ?_, ?_, ?_⟩
  · intro id r c' h hc'
    have hne : c' ≠ c := by rintro rfl; exact hc ⟨id, r, h, hc'⟩
    rw [Function.update_noteq hne]
    exact hi.listed h hc'
  all_goals intro c'; by_cases hne : c' = c
  all_goals first
    | (subst hne; simp only [Function.update_same])
    | simp only [Function.update_noteq hne]
  · exact fun h₁ h₂ => absurd h₂ (hres h₁)
  · exact hi.resolving c'
  · exact fun _ => hx
  · exact hi.unlisted c'
  · exact hle
  · exact hi.placed_le c'
  · exact hun
  · exact hi.unborn c'

/-- Changing a connection in nothing the discipline reads (marking it for close). -/
theorem ConnInv.setConn_same (hi : ConnInv res cs) {x : ExitConn}
    (ha : x.address = (cs c).address) (hs : x.state = (cs c).state)
    (hf : x.freed = (cs c).freed) (hp : x.placed = (cs c).placed)
    (ht : x.takenOff = (cs c).takenOff) (he : x.entered = true) :
    ConnInv res (Function.update cs c x) := by
  refine ⟨hi.nodup, hi.unique, ?_, ?_, ?_, ?_, ?_⟩
  · intro id r c' h hm
    by_cases hne : c' = c
    · subst hne
      rw [Function.update_same, ha, hs, hf, hp, ht]
      exact hi.listed h hm
    · rw [Function.update_noteq hne]
      exact hi.listed h hm
  all_goals intro c'; by_cases hne : c' = c
  all_goals first
    | (subst hne; simp only [Function.update_same])
    | simp only [Function.update_noteq hne]
  · rw [hf, hs]; exact hi.resolving c'
  · exact hi.resolving c'
  · rw [hp, ht]; exact hi.unlisted c'
  · exact hi.unlisted c'
  · rw [hp]; exact hi.placed_le c'
  · exact hi.placed_le c'
  · simp [he]
  · exact hi.unborn c'

/-- Putting a connection that is on no list at the head of the list of the resolve at `id`: an
    existing one for the connection's address, or a new one. -/
theorem ConnInv.place (hi : ConnInv res cs) (hc : ¬ Listed res c) {p : List Nat} {x : ExitConn}
    (hprev : ∀ r, res id = some r → r.pendingConnections = p ∧ r.address = r'.address)
    (hnone : res id = none → p = []) (hr' : r'.pendingConnections = c :: p)
    (hxa : x.address = r'.address) (hxs : x.state = .resolving) (hxf : x.freed = false)
    (hxp : x.placed = 1) (hxt : x.takenOff = []) (hxe : x.entered = true) :
    ConnInv (Function.update res id (some r')) (Function.update cs c x) := by
  have hp : ∀ {c'}, c' ∈ p → ∃ r, res id = some r ∧ c' ∈ r.pendingConnections ∧
      r.address = r'.address := by
    intro c' hm
    cases h : res id with
    | none => simp [hnone h] at hm
    | some r => exact ⟨r, rfl, (hprev r h).1 ▸ hm, (hprev r h).2⟩
  have hmem : ∀ {c' id' r''}, Function.update res id (some r') id' = some r'' →
      c' ∈ r''.pendingConnections → (c' = c ∧ id' = id ∧ r'' = r') ∨
        (c' ≠ c ∧ ∃ r₀, res id' = some r₀ ∧ c' ∈ r₀.pendingConnections ∧
          r''.address = r₀.address) := by
    intro c' id' r'' h hm
    rcases update_eq_some.1 h with ⟨rfl, h'⟩ | ⟨hne, h'⟩
    · cases h'
      rw [hr', List.mem_cons] at hm
      rcases hm with rfl | hm
      · exact .inl ⟨rfl, rfl, rfl⟩
      · obtain ⟨r, hr, hm, ha⟩ := hp hm
        exact .inr ⟨fun h => hc (h ▸ ⟨_, r, hr, hm⟩), r, hr, hm, ha.symm⟩
    · exact .inr ⟨fun h => hc (h ▸ ⟨id', r'', h', hm⟩), r'', h', hm, rfl⟩
  have hlisted : ∀ {c'}, Listed res c' → Listed (Function.update res id (some r')) c' := by
    rintro c' ⟨id', r₀, h₀, hm⟩
    by_cases hid : id' = id
    · subst hid
      refine ⟨id', r', by simp, ?_⟩
      rw [hr', (hprev r₀ h₀).1.symm]
      exact .tail _ hm
    · exact ⟨id', r₀, by simp [hid, h₀], hm⟩
  have hself : Listed (Function.update res id (some r')) c := ⟨id, r', by simp, by simp [hr']⟩
  refine ⟨?_, ?_, ?_, ?_, ?_, ?_, ?_⟩
  · intro id' r'' h
    rcases update_eq_some.1 h with ⟨-, h'⟩ | ⟨-, h'⟩
    · cases h'
      rw [hr', List.nodup_cons]
      refine ⟨fun hm => ?_, ?_⟩
      · obtain ⟨r, hr, hm, -⟩ := hp hm
        exact hc ⟨id, r, hr, hm⟩
      · cases h : res id with
        | none => simp [hnone h]
        | some r => exact (hprev r h).1 ▸ hi.nodup h
    · exact hi.nodup h'
  · intro c' id₁ id₂ r₁ r₂ h₁ h₂ hm₁ hm₂
    rcases hmem h₁ hm₁ with ⟨hc₁, rfl, -⟩ | ⟨hne₁, s₁, hs₁, hn₁, -⟩ <;>
      rcases hmem h₂ hm₂ with ⟨hc₂, rfl, -⟩ | ⟨hne₂, s₂, hs₂, hn₂, -⟩
    · rfl
    · exact absurd hc₁ hne₂
    · exact absurd hc₂ hne₁
    · exact hi.unique hs₁ hs₂ hn₁ hn₂
  · intro id' r'' c' h hm
    rcases hmem h hm with ⟨rfl, -, rfl⟩ | ⟨hne, r₀, h₀, hm₀, ha⟩
    · simp [hxa, hxs, hxf, hxp, hxt]
    · rw [Function.update_noteq hne, ha]
      exact hi.listed h₀ hm₀
  all_goals intro c'; by_cases hne : c' = c
  all_goals first
    | (subst hne; simp only [Function.update_same])
    | simp only [Function.update_noteq hne]
  · exact fun _ _ => hself
  · exact fun h₁ h₂ => hlisted (hi.resolving c' h₁ h₂)
  · exact fun h => absurd hself h
  · exact fun h => hi.unlisted c' fun h' => h (hlisted h')
  · exact hxp.le
  · exact hi.placed_le c'
  · simp [hxe]
  · exact hi.unborn c'

/-- `connection_dns_remove` takes a connection off its list, and the connection is freed. -/
theorem ConnInv.remove (hi : ConnInv res cs) (hr : res id = some r)
    (hc : c ∈ r.pendingConnections) {x : ExitConn} (hxp : x.placed = (cs c).placed)
    (hxt : x.takenOff = (cs c).takenOff ++ [.removed]) (hxf : x.freed = true)
    (hxe : x.entered = true) :
    ConnInv
      (Function.update res id (some { r with pendingConnections := r.pendingConnections.erase c }))
      (Function.update cs c x) := by
  have herase := fun {c'} => (hi.nodup hr).mem_erase_iff (a := c') (b := c)
  have hmem : ∀ {c' id' r''}, Function.update res id
      (some { r with pendingConnections := r.pendingConnections.erase c }) id' = some r'' →
      c' ∈ r''.pendingConnections → c' ≠ c ∧ ∃ r₀, res id' = some r₀ ∧
        c' ∈ r₀.pendingConnections ∧ r''.address = r₀.address := by
    intro c' id' r'' h hm
    rcases update_eq_some.1 h with ⟨rfl, h'⟩ | ⟨hne, h'⟩
    · cases h'
      obtain ⟨hne, hm⟩ := herase.1 hm
      exact ⟨hne, r, hr, hm, rfl⟩
    · exact ⟨fun h => hne (hi.unique h' hr (h ▸ hm) hc), r'', h', hm, rfl⟩
  have hlisted : ∀ {c'}, c' ≠ c → Listed res c' → Listed (Function.update res id
      (some { r with pendingConnections := r.pendingConnections.erase c })) c' := by
    rintro c' hne ⟨id', r₀, h₀, hm⟩
    by_cases hid : id' = id
    · subst hid
      rw [hr] at h₀
      cases h₀
      exact ⟨id', { r with pendingConnections := r.pendingConnections.erase c }, by simp,
        herase.2 ⟨hne, hm⟩⟩
    · exact ⟨id', r₀, by simp [hid, h₀], hm⟩
  refine ⟨?_, ?_, ?_, ?_, ?_, ?_, ?_⟩
  · intro id' r'' h
    rcases update_eq_some.1 h with ⟨-, h'⟩ | ⟨-, h'⟩
    · cases h'
      exact (hi.nodup hr).erase c
    · exact hi.nodup h'
  · intro c' id₁ id₂ r₁ r₂ h₁ h₂ hm₁ hm₂
    obtain ⟨-, s₁, hs₁, hn₁, -⟩ := hmem h₁ hm₁
    obtain ⟨-, s₂, hs₂, hn₂, -⟩ := hmem h₂ hm₂
    exact hi.unique hs₁ hs₂ hn₁ hn₂
  · intro id' r'' c' h hm
    obtain ⟨hne, r₀, h₀, hm₀, ha⟩ := hmem h hm
    rw [Function.update_noteq hne, ha]
    exact hi.listed h₀ hm₀
  all_goals intro c'; by_cases hne : c' = c
  all_goals first
    | (subst hne; simp only [Function.update_same])
    | simp only [Function.update_noteq hne]
  · simp [hxf]
  · exact fun h₁ h₂ => hlisted hne (hi.resolving c' h₁ h₂)
  · exact fun _ => by rw [hxp, hxt, (hi.listed hr hc).2.2.2]; simp
  · exact fun h => hi.unlisted c' fun h' => h (hlisted hne h')
  · exact hxp ▸ hi.placed_le c'
  · exact hi.placed_le c'
  · simp [hxe]
  · exact hi.unborn c'

end Changes

end TorCore
