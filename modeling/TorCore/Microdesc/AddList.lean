import TorCore.Microdesc.Rebuild
import TorCore.Wire
import Mathlib.Data.List.Nodup

/-!
# `TorCore.Microdesc.AddList` — adding descriptors to the microdescriptor cache

`microdescs_add_list_to_cache` walks a list of descriptors. For each it looks the digest up in
`microdesc_map`. A known digest only raises the `last_listed` of the descriptor already in the
map, and the new one is freed. An unknown one is appended to the journal when the descriptors
came from the network (`SAVED_NOWHERE`) and may be saved, and is then inserted into the map and
into the returned list.

The map is a list in insertion order (`HT_INSERT` adds, nothing here removes), each entry with its
digest. A pointer to a descriptor of the map is its position in that list: the returned list holds
positions and is read in the final map, where a descriptor added early may have had its
`last_listed` raised by a later repeat. The journal's file operations are the oracle `FileOps` of
`Microdesc.Rebuild`; `nodelist_add_microdesc` and `router_dir_info_changed`, which tell other
subsystems, are not modelled.

- `microdescsAddListToCache_unique`: from a map with one descriptor per digest, and unless
  `finish_writing_to_file` of the journal fails, the map ends with one descriptor per digest of
  the map and the list. The old descriptors stay in place with `last_listed` raised to the
  greatest of the list's entries for their digest. After them comes the first occurrence of each
  new digest, in list order, which is also the returned list. `n_seen` and `total_len_seen` count
  those.
- `microdescsAddListToCache_bytesDropped`: `bytes_dropped` never changes. For a duplicate read from
  the cache file or the journal the code adds `size`, the size of the last journal dump, and that
  is `0` there, since the journal is only open for `SAVED_NOWHERE`.
-/

namespace TorCore

/-! ## The code -/

/-- A `microdesc_t` in `microdesc_map`: its digest (the map's key), the fields of `Microdesc`, and
    `held_in_map`. -/
structure KeyedMd where
  digest : List UInt8
  md : Microdesc
  heldInMap : Bool
  deriving DecidableEq, Repr

/-- `microdesc_cache_t` as `microdescs_add_list_to_cache` uses it. -/
structure MdStore where
  map : List KeyedMd
  journalLen : Nat
  bytesDropped : Nat
  nSeen : Nat
  totalLenSeen : Nat
  deriving DecidableEq, Repr

/-- `HT_FIND (microdesc_map, &cache->map, md)`: the entry with digest `d`. -/
def htFindMd (map : List KeyedMd) (d : List UInt8) : Option KeyedMd := map.find? (·.digest = d)

/-- `if (md2->last_listed < t) md2->last_listed = t;` -/
def raiseLastListed (t : Int) (e : KeyedMd) : KeyedMd :=
  if e.md.lastListed < t then { e with md := { e.md with lastListed := t } } else e

/-- The state of the loop: the cache; the journal while it is open (`fd >= 0`) and the writes made
    to it; `size`; and the positions in the map of the descriptors in `added`. -/
structure AddPass where
  cache : MdStore
  journal : Option OpenFile
  writes : Nat
  size : Int
  added : List Nat

/-- The journal part of the loop for a new descriptor, `where` being `location`: with the journal
    open, `dump_microdescriptor` to it, then `SAVED_IN_JOURNAL` and `journal_len += size`, or on
    failure `abort_writing_to_file` and `fd = -1`; with no journal, `saved_location = where`. -/
def journalNew (write : Nat → WriteOutcome) (location : SavedLocation) (s : AddPass)
    (md : Microdesc) : AddPass × Microdesc :=
  match s.journal with
  | some f =>
    let d := dumpMicrodescriptor write s.writes f md
    match d.size with
    | none => ({ s with journal := none, writes := d.writes, size := -1 }, d.md)
    | some n =>
      ({ s with
          journal := some d.file
          writes := d.writes
          size := n
          cache := { s.cache with journalLen := s.cache.journalLen + n } },
        { d.md with savedLocation := .inJournal })
  | none => (s, { md with savedLocation := location })

/-- One pass of the loop on `md`. -/
def addOne (write : Nat → WriteOutcome) (location : SavedLocation) (noSave : Bool) (s : AddPass)
    (md : KeyedMd) : AddPass :=
  match htFindMd s.cache.map md.digest with
  | some _ =>
    -- we already had this one
    { s with cache := { s.cache with
        map := s.cache.map.map fun e =>
          if e.digest = md.digest then raiseLastListed md.md.lastListed e else e
        bytesDropped := if location ≠ .nowhere then sizeAddSigned s.cache.bytesDropped s.size
          else s.cache.bytesDropped } }
  | none =>
    let j := journalNew write location s md.md
    let md2 : KeyedMd := ⟨md.digest, { j.2 with noSave := noSave }, true⟩
    { j.1 with
      cache := { j.1.cache with
        map := j.1.cache.map ++ [md2]
        nSeen := j.1.cache.nSeen + 1
        totalLenSeen := j.1.cache.totalLenSeen + md2.md.bodylen }
      added := j.1.added ++ [j.1.cache.map.length] }

/-- The pass the loop starts from: the journal is opened for appending (at its end) for descriptors
    from the network (`SAVED_NOWHERE`) that may be saved; `size = 0` and `added` is empty. -/
def addStart (ops : FileOps) (cache : MdStore) (location : SavedLocation) (noSave : Bool) :
    AddPass :=
  let journal : Option OpenFile :=
    if location = .nowhere ∧ noSave = false ∧ ops.startWriting = true then
      some ⟨cache.journalLen, cache.journalLen⟩
    else none
  ⟨cache, journal, 0, 0, []⟩

/-- `microdescs_add_list_to_cache (cache, descriptors, where, no_save)`, `where` being `location`:
    the list it returns and the cache after. -/
def microdescsAddListToCache (ops : FileOps) (cache : MdStore) (descriptors : List KeyedMd)
    (location : SavedLocation) (noSave : Bool) : List KeyedMd × MdStore :=
  let s := descriptors.foldl (addOne ops.write location noSave) (addStart ops cache location noSave)
  if s.journal.isSome ∧ ops.finishWriting = false then ([], s.cache)
  else (s.added.filterMap (s.cache.map[·]?), s.cache)

/-! ## One pass -/

/-- `dump_microdescriptor` changes nothing of the descriptor but `off`. -/
theorem dumpMicrodescriptor_md (write : Nat → WriteOutcome) (k : Nat) (f : OpenFile)
    (md : Microdesc) :
    (dumpMicrodescriptor write k f md).md = { md with off := (dumpMicrodescriptor write k f md).md.off } := by
  by_cases hb : md.body = .null
  · simp only [dumpMicrodescriptor, if_pos hb]
  · exact (dumpMicrodescriptor_spec write k f hb).2.1

section Pass

variable (write : Nat → WriteOutcome) (location : SavedLocation) (noSave : Bool)

/-- The journal part leaves the map, the counts, `bytes_dropped` and `added` alone, and changes
    only `saved_location` and `off` of the descriptor. -/
theorem journalNew_spec (s : AddPass) (md : Microdesc) :
    (journalNew write location s md).1.cache.map = s.cache.map ∧
      (journalNew write location s md).1.cache.nSeen = s.cache.nSeen ∧
      (journalNew write location s md).1.cache.totalLenSeen = s.cache.totalLenSeen ∧
      (journalNew write location s md).1.cache.bytesDropped = s.cache.bytesDropped ∧
      (journalNew write location s md).1.added = s.added ∧
      ∃ sl o, (journalNew write location s md).2 = { md with savedLocation := sl, off := o } := by
  unfold journalNew
  rcases s.journal with _ | f
  · exact ⟨rfl, rfl, rfl, rfl, rfl, _, _, rfl⟩
  · have hmd := dumpMicrodescriptor_md write s.writes f md
    dsimp only
    cases (dumpMicrodescriptor write s.writes f md).size with
    | none => exact ⟨rfl, rfl, rfl, rfl, rfl, _, _, hmd.trans rfl⟩
    | some n =>
      exact ⟨rfl, rfl, rfl, rfl, rfl, .inJournal, (dumpMicrodescriptor write s.writes f md).md.off,
        by rw [hmd]⟩

theorem htFindMd_eq_none {map : List KeyedMd} {d : List UInt8} :
    htFindMd map d = none ↔ d ∉ map.map (·.digest) := by
  simp [htFindMd, List.find?_eq_none]

/-- **What one pass can do.** A known digest raises the `last_listed` of the map's entry for it;
    an unknown one is appended to the map and to `added`, held in the map, with `no_save` as asked
    and only `saved_location` and `off` left to the journal, and is counted. -/
theorem addOne_cases (s : AddPass) (md : KeyedMd) :
    (md.digest ∈ s.cache.map.map (·.digest) ∧
      (addOne write location noSave s md).cache.map = s.cache.map.map (fun e =>
        if e.digest = md.digest then raiseLastListed md.md.lastListed e else e) ∧
      (addOne write location noSave s md).added = s.added ∧
      (addOne write location noSave s md).cache.nSeen = s.cache.nSeen ∧
      (addOne write location noSave s md).cache.totalLenSeen = s.cache.totalLenSeen) ∨
    (md.digest ∉ s.cache.map.map (·.digest) ∧ ∃ sl o,
      (addOne write location noSave s md).cache.map =
        s.cache.map ++ [⟨md.digest, { md.md with noSave := noSave, savedLocation := sl, off := o },
          true⟩] ∧
      (addOne write location noSave s md).added = s.added ++ [s.cache.map.length] ∧
      (addOne write location noSave s md).cache.nSeen = s.cache.nSeen + 1 ∧
      (addOne write location noSave s md).cache.totalLenSeen =
        s.cache.totalLenSeen + md.md.bodylen) := by
  unfold addOne
  cases hf : htFindMd s.cache.map md.digest with
  | some _ =>
    have hmem : md.digest ∈ s.cache.map.map (·.digest) := by
      by_contra h
      rw [htFindMd_eq_none.2 h] at hf
      cases hf
    exact .inl ⟨hmem, rfl, rfl, rfl, rfl⟩
  | none =>
    obtain ⟨hmap, hn, ht, -, hadd, sl, o, hmd⟩ := journalNew_spec write location s md.md
    refine .inr ⟨htFindMd_eq_none.1 hf, sl, o, ?_⟩
    dsimp only
    rw [hmap, hn, ht, hadd, hmd]
    exact ⟨rfl, rfl, rfl, rfl⟩

/-- With the journal closed and `size` zero, a pass leaves them so and does not move
    `bytes_dropped`; from `SAVED_NOWHERE` it never moves it. -/
theorem addOne_bytesDropped {s : AddPass}
    (h : location = .nowhere ∨ s.journal = none ∧ s.size = 0) (md : KeyedMd) :
    (addOne write location noSave s md).cache.bytesDropped = s.cache.bytesDropped ∧
      (location = .nowhere ∨ (addOne write location noSave s md).journal = none ∧
        (addOne write location noSave s md).size = 0) := by
  unfold addOne
  cases htFindMd s.cache.map md.digest with
  | some _ =>
    refine ⟨?_, h⟩
    rcases h with rfl | ⟨-, hs⟩
    · simp
    · simp [hs]
  | none =>
    refine ⟨(journalNew_spec write location s md.md).2.2.2.1, ?_⟩
    rcases h with rfl | ⟨hj, hs⟩
    · exact .inl rfl
    · simp [journalNew, hj, hs]

end Pass

/-! ## What the loop does -/

/-- The greatest of `t` and the `last_listed` of the entries of `ds` with digest `d`. -/
def maxListed (ds : List KeyedMd) (d : List UInt8) (t : Int) : Int :=
  ds.foldl (fun t x => if x.digest = d then max t x.md.lastListed else t) t

/-- `e` with `last_listed` raised by the entries of `ds` with its digest. -/
def raiseWith (ds : List KeyedMd) (e : KeyedMd) : KeyedMd :=
  { e with md := { e.md with lastListed := maxListed ds e.digest e.md.lastListed } }

/-- The digests of `ds` not in `known`, each at its first occurrence, in list order. -/
def newDigests (known : List (List UInt8)) : List KeyedMd → List (List UInt8)
  | [] => []
  | x :: xs =>
    if x.digest ∈ known then newDigests known xs else x.digest :: newDigests (known ++ [x.digest]) xs

/-- A descriptor the loop inserted: the first entry of `ds` with its digest, held in the map, with
    `no_save` as asked and the greatest `last_listed` of its digest's entries; only
    `saved_location` and `off` are the journal's. -/
def Inserted (ds : List KeyedMd) (noSave : Bool) (e : KeyedMd) : Prop :=
  ∃ x, ds.find? (·.digest = e.digest) = some x ∧ e.heldInMap = true ∧ ∃ sl o,
    e.md = { x.md with
      lastListed := maxListed ds e.digest x.md.lastListed
      noSave := noSave
      savedLocation := sl
      off := o }

theorem maxListed_cons (x : KeyedMd) (xs : List KeyedMd) (d : List UInt8) (t : Int) :
    maxListed (x :: xs) d t = maxListed xs d (if x.digest = d then max t x.md.lastListed else t) :=
  rfl

@[simp] theorem raiseWith_nil : raiseWith [] = id := rfl

@[simp] theorem raiseWith_digest (ds : List KeyedMd) (e : KeyedMd) :
    (raiseWith ds e).digest = e.digest := rfl

@[simp] theorem raiseLastListed_digest (t : Int) (e : KeyedMd) :
    (raiseLastListed t e).digest = e.digest := by
  unfold raiseLastListed; split <;> rfl

/-- Raising the map's entry for `x` keeps the digests. -/
@[simp] theorem map_digest_raiseIf (x : KeyedMd) (map : List KeyedMd) :
    (map.map fun e => if e.digest = x.digest then raiseLastListed x.md.lastListed e else e).map
      (·.digest) = map.map (·.digest) := by
  simp only [List.map_map]
  congr 1
  funext e
  by_cases h : e.digest = x.digest <;> simp [h]

/-- An entry of another digest does not raise `e`. -/
theorem raiseWith_cons_of_ne {x e : KeyedMd} (xs : List KeyedMd) (h : x.digest ≠ e.digest) :
    raiseWith (x :: xs) e = raiseWith xs e := by
  simp [raiseWith, maxListed_cons, h]

/-- Raising by `x` in the map and then by the rest of the list is raising by the whole list. -/
theorem raiseWith_raiseLastListed (x e : KeyedMd) (xs : List KeyedMd) :
    raiseWith xs (if e.digest = x.digest then raiseLastListed x.md.lastListed e else e) =
      raiseWith (x :: xs) e := by
  by_cases h : e.digest = x.digest
  · rw [if_pos h]
    unfold raiseLastListed
    split_ifs with hlt
    · simp [raiseWith, maxListed_cons, h, max_eq_right hlt.le]
    · simp [raiseWith, maxListed_cons, h, max_eq_left (not_lt.1 hlt)]
  · rw [if_neg h, raiseWith_cons_of_ne xs (Ne.symm h)]

theorem mem_newDigests {d : List UInt8} : ∀ {known : List (List UInt8)} {ds : List KeyedMd},
    d ∈ newDigests known ds ↔ d ∉ known ∧ d ∈ ds.map (·.digest)
  | _, [] => by simp [newDigests]
  | known, x :: xs => by
    unfold newDigests
    split_ifs with h
    · rw [mem_newDigests]
      by_cases hd : d = x.digest <;> simp_all
    · rw [List.mem_cons, mem_newDigests]
      by_cases hd : d = x.digest <;> simp_all

theorem nodup_newDigests : ∀ (known : List (List UInt8)) (ds : List KeyedMd),
    (newDigests known ds).Nodup
  | _, [] => List.nodup_nil
  | known, x :: xs => by
    unfold newDigests
    split_ifs
    · exact nodup_newDigests known xs
    · exact List.nodup_cons.2 ⟨fun h => (mem_newDigests.1 h).1 (by simp),
        nodup_newDigests _ xs⟩

/-- An entry whose digest is among `newDigests known ds` has a digest outside `known`. -/
theorem digest_not_mem_of_newDigests {A : List KeyedMd} {known : List (List UInt8)}
    {ds : List KeyedMd} (h : A.map (·.digest) = newDigests known ds) {e : KeyedMd} (he : e ∈ A) :
    e.digest ∉ known :=
  (mem_newDigests.1 (h ▸ List.mem_map_of_mem _ he)).1

/-- An inserted descriptor stays so when the list gains, in front, an entry of another digest. -/
theorem Inserted.cons {xs : List KeyedMd} {noSave : Bool} {e : KeyedMd}
    (h : Inserted xs noSave e) {x : KeyedMd} (hne : x.digest ≠ e.digest) :
    Inserted (x :: xs) noSave e := by
  obtain ⟨y, hy, hheld, sl, o, hmd⟩ := h
  exact ⟨y, by simp [List.find?_cons, hne, hy], hheld, sl, o, by simp [hmd, maxListed_cons, hne]⟩

/-- The positions `[L.length, L.length + A.length)` of `L ++ A` hold `A`. -/
theorem filterMap_range'_getElem? {α : Type} (A : List α) :
    ∀ L : List α, (List.range' L.length A.length).filterMap ((L ++ A)[·]?) = A := by
  induction A with
  | nil => simp
  | cons a A ih =>
    intro L
    have := ih (L ++ [a])
    simp only [List.length_append, List.length_singleton, List.append_assoc,
      List.singleton_append] at this
    simp [List.range'_succ, this, List.getElem_append_right (le_refl _)]

section Run

variable (write : Nat → WriteOutcome) (location : SavedLocation) (noSave : Bool)

/-- **The loop, from any pass.** The map's entries stay in place with `last_listed` raised by the
    list; after them come the inserted descriptors `A`, one per new digest in list order, which
    `added` points to and the counts count. -/
theorem addLoop_spec : ∀ (ds : List KeyedMd) (s : AddPass), ∃ A : List KeyedMd,
    (ds.foldl (addOne write location noSave) s).cache.map = s.cache.map.map (raiseWith ds) ++ A ∧
    A.map (·.digest) = newDigests (s.cache.map.map (·.digest)) ds ∧
    (∀ e ∈ A, Inserted ds noSave e) ∧
    (ds.foldl (addOne write location noSave) s).added =
      s.added ++ List.range' s.cache.map.length A.length ∧
    (ds.foldl (addOne write location noSave) s).cache.nSeen = s.cache.nSeen + A.length ∧
    (ds.foldl (addOne write location noSave) s).cache.totalLenSeen =
      s.cache.totalLenSeen + (A.map (·.md.bodylen)).sum
  | [], s => ⟨[], by simp, rfl, by simp, by simp, rfl, rfl⟩
  | x :: xs, s => by
    obtain ⟨A, h₁, h₂, h₃, h₄, h₅, h₆⟩ := addLoop_spec xs (addOne write location noSave s x)
    simp only [List.foldl_cons]
    rcases addOne_cases write location noSave s x with
      ⟨hmem, hmap, hadd, hn, ht⟩ | ⟨hmem, sl, o, hmap, hadd, hn, ht⟩
    · -- a known digest: the map's entry for it is raised
      rw [hmap, map_digest_raiseIf] at h₂
      rw [hmap, hadd] at h₄
      refine ⟨A, ?_, by simpa [newDigests, hmem, Function.comp_def] using h₂,
        fun e he => (h₃ e he).cons fun hx => digest_not_mem_of_newDigests h₂ he (hx ▸ hmem),
        by simpa using h₄, by rw [h₅, hn], by rw [h₆, ht]⟩
      rw [h₁, hmap, List.map_map]
      exact congrArg (· ++ A) (List.map_congr_left fun e _ => raiseWith_raiseLastListed x e xs)
    · -- a new digest: inserted at the end
      rw [hmap] at h₁ h₂ h₄
      rw [hadd] at h₄
      set x' : KeyedMd := ⟨x.digest, { x.md with noSave := noSave, savedLocation := sl, off := o },
        true⟩
      have hne : ∀ e ∈ s.cache.map, x.digest ≠ e.digest := fun e he h =>
        hmem (h ▸ List.mem_map_of_mem _ he)
      refine ⟨raiseWith xs x' :: A, ?_, by simpa [newDigests, hmem, x'] using h₂, ?_,
        by simp [h₄, List.range'_succ], by simp [h₅, hn]; omega, ?_⟩
      · simp only [h₁, List.map_append, List.map_singleton, List.append_assoc,
          List.singleton_append]
        congr 1
        exact List.map_congr_left fun e he => (raiseWith_cons_of_ne xs (hne e he)).symm
      · rintro e (_ | ⟨_, he⟩)
        · exact ⟨x, by simp, rfl, sl, o, by simp [x', raiseWith, maxListed_cons]⟩
        · exact (h₃ e he).cons fun hx => digest_not_mem_of_newDigests h₂ he (by simp [← hx, x'])
      · rw [h₆, ht]
        simp [x', raiseWith]
        omega

/-- The loop moves `bytes_dropped` from no pass with the journal closed and `size` zero, nor from
    any pass of a `SAVED_NOWHERE` run. -/
theorem addLoop_bytesDropped : ∀ (ds : List KeyedMd) (s : AddPass),
    (location = .nowhere ∨ s.journal = none ∧ s.size = 0) →
    (ds.foldl (addOne write location noSave) s).cache.bytesDropped = s.cache.bytesDropped
  | [], _, _ => rfl
  | x :: xs, s, h => by
    obtain ⟨h₁, h₂⟩ := addOne_bytesDropped write location noSave h x
    rw [List.foldl_cons, addLoop_bytesDropped xs _ h₂, h₁]

end Run

/-! ## The result -/

/-- What `microdescsAddListToCache_unique` says of adding `descriptors` to `cache` with `no_save`
    as given, returning `added` and leaving `cache'`. -/
structure AddListSpec (cache : MdStore) (descriptors : List KeyedMd) (noSave : Bool)
    (added : List KeyedMd) (cache' : MdStore) : Prop where
  /-- One descriptor per digest, -/
  unique : (cache'.map.map (·.digest)).Nodup
  /-- for the digests of the map and of the list. -/
  digests : ∀ d, d ∈ cache'.map.map (·.digest) ↔
    d ∈ cache.map.map (·.digest) ∨ d ∈ descriptors.map (·.digest)
  /-- The old descriptors in place with `last_listed` raised, then the returned ones; -/
  map_eq : cache'.map = cache.map.map (raiseWith descriptors) ++ added
  /-- these have the new digests, each once, in list order, -/
  added_digests : added.map (·.digest) = newDigests (cache.map.map (·.digest)) descriptors
  /-- and each is the first occurrence of its digest, raised by the repeats. -/
  inserted : ∀ e ∈ added, Inserted descriptors noSave e
  nSeen : cache'.nSeen = cache.nSeen + added.length
  totalLenSeen : cache'.totalLenSeen = cache.totalLenSeen + (added.map (·.md.bodylen)).sum

/-- **One descriptor per digest.** From a map with one descriptor per digest, whatever the list
    and however the journal writes go, unless `finish_writing_to_file` fails. -/
theorem microdescsAddListToCache_unique (ops : FileOps) (cache : MdStore)
    (descriptors : List KeyedMd) (location : SavedLocation) (noSave : Bool)
    (hu : (cache.map.map (·.digest)).Nodup) (hfin : ops.finishWriting = true) :
    AddListSpec cache descriptors noSave
      (microdescsAddListToCache ops cache descriptors location noSave).1
      (microdescsAddListToCache ops cache descriptors location noSave).2 := by
  obtain ⟨A, h₁, h₂, h₃, h₄, h₅, h₆⟩ :=
    addLoop_spec ops.write location noSave descriptors (addStart ops cache location noSave)
  unfold microdescsAddListToCache
  dsimp only
  rw [if_neg (by simp [hfin])]
  set s := descriptors.foldl (addOne ops.write location noSave) (addStart ops cache location noSave)
  have hret : s.added.filterMap (s.cache.map[·]?) = A := by
    rw [h₁, h₄]
    simpa using filterMap_range'_getElem? A (cache.map.map (raiseWith descriptors))
  have hdig : s.cache.map.map (·.digest) =
      cache.map.map (·.digest) ++ newDigests (cache.map.map (·.digest)) descriptors := by
    rw [h₁, List.map_append, List.map_map]
    exact congrArg₂ _ rfl h₂
  dsimp only
  rw [hret]
  refine ⟨?_, fun d => ?_, h₁, h₂, h₃, h₅, h₆⟩
  · rw [hdig]
    exact List.nodup_append.2 ⟨hu, nodup_newDigests _ _, fun _ h h' => (mem_newDigests.1 h').1 h⟩
  · rw [hdig, List.mem_append, mem_newDigests]
    tauto

/-- A cache holding one descriptor, of digest `[1]`, listed at time `5`. -/
def oneMdStore : MdStore := ⟨[⟨[1], ⟨.heap, 3, 0, .inCache, false, 5, 0⟩, true⟩], 0, 0, 1, 3⟩

/-- A list that repeats the cached digest (listed at `9`), then a new digest twice (listed at `3`,
    then `7`). -/
def repeatedDescriptors : List KeyedMd :=
  [⟨[1], ⟨.heap, 3, 0, .nowhere, false, 9, 0⟩, false⟩,
    ⟨[2], ⟨.heap, 4, 0, .nowhere, false, 3, 0⟩, false⟩,
    ⟨[2], ⟨.heap, 4, 0, .nowhere, false, 7, 0⟩, false⟩]

/-- Reloading `repeatedDescriptors` from the cache file into `oneMdStore`. -/
theorem microdescsAddListToCache_unique_repeated :
    AddListSpec oneMdStore repeatedDescriptors false
      (microdescsAddListToCache ⟨true, fun _ => .ok, true, true⟩ oneMdStore repeatedDescriptors
        .inCache false).1
      (microdescsAddListToCache ⟨true, fun _ => .ok, true, true⟩ oneMdStore repeatedDescriptors
        .inCache false).2 :=
  microdescsAddListToCache_unique ⟨true, fun _ => .ok, true, true⟩ oneMdStore repeatedDescriptors
    .inCache false (by decide) rfl

example : (microdescsAddListToCache ⟨true, fun _ => .ok, true, true⟩ oneMdStore
    repeatedDescriptors .inCache false).2.map.map (fun e => (e.digest, e.md.lastListed)) =
      [([1], 9), ([2], 7)] := by
  decide

/-- **`bytes_dropped` never moves**, whatever the list and `where`: a duplicate read from the
    cache file or the journal adds `size`, which is `0` since the journal is not open then. -/
theorem microdescsAddListToCache_bytesDropped (ops : FileOps) (cache : MdStore)
    (descriptors : List KeyedMd) (location : SavedLocation) (noSave : Bool) :
    (microdescsAddListToCache ops cache descriptors location noSave).2.bytesDropped =
      cache.bytesDropped := by
  have h := addLoop_bytesDropped ops.write location noSave descriptors
    (addStart ops cache location noSave) (by
      by_cases hl : location = .nowhere
      · exact .inl hl
      · exact .inr ⟨by simp [addStart, hl], rfl⟩)
  unfold microdescsAddListToCache
  dsimp only
  split <;> exact h

example : (microdescsAddListToCache ⟨true, fun _ => .ok, true, true⟩ oneMdStore
    repeatedDescriptors .inCache false).2.bytesDropped = 0 := by
  decide

end TorCore
