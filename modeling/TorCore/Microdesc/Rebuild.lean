import Mathlib.Data.List.Basic
import Mathlib.Algebra.Order.Ring.Nat

/-!
# `TorCore.Microdesc.Rebuild` — rebuilding the microdescriptor cache file

`microdesc_cache_rebuild` writes every microdescriptor body it keeps to a new cache file, unmaps
the old file, renames the new one into place (`finish_writing_to_file`), maps it
(`tor_mmap_file`), and points each written descriptor's `body` into the new mapping. A
descriptor's body is one of three things: nothing, memory it owns (`saved_location` other than
`SAVED_IN_CACHE`), or bytes `[off, off + bodylen)` of the mapped cache file.

Pointers are modelled by what they point to: `BodyPtr.mapped gen pos` is byte `pos` of the
mapping numbered `gen`; every `tor_mmap_file` makes a new number, so a pointer whose number is not
that of `cache_content` points into an unmapped file. The file operations are an oracle
(`FileOps`): whether `start_writing_to_file`, each `write_all_to_fd`, `finish_writing_to_file`
and `tor_mmap_file` succeed. `tor_fd_setpos` is taken to succeed. What the new mapping holds is
read once, by the check that each written body starts with `"onion-key"`; `onionKeyAt off` says
whether it does at `off`, and a failed `tor_assert` there is the result `none`.

## Contents
- **The code.** `microdescCacheClean`, `shouldRebuildMdCache`, `microdescWipeBody`,
  `dumpMicrodescriptor`, the loop `rebuildLoop`, and `microdescCacheRebuild`.
- **The invariant.** `Microdesc.BodyOk`: the three cases a body may be in; `CacheOk`.
- **Every path but one keeps it.** `microdescCacheRebuild_cacheOk`: from a cache satisfying
  `CacheOk`, a rebuild that returns leaves one satisfying it, unless `finish_writing_to_file`
  succeeded and `tor_mmap_file` then failed, where it returns -1.
- **That path.** `microdescCacheRebuild_mmapFails`: there the descriptors written keep a body
  pointer into the unmapped old file, or a `NULL` body with their old `bodylen`.
-/

namespace TorCore

/-! ## Descriptors and the cache -/

/-- `saved_location_t`: where a descriptor's body was last saved. -/
inductive SavedLocation where
  | nowhere
  | inCache
  | inJournal
  deriving DecidableEq, Repr

/-- What `md->body` points to: `NULL`, memory the descriptor owns, or byte `pos` of the mapping
    numbered `gen`. -/
inductive BodyPtr where
  | null
  | heap
  | mapped (gen pos : Nat)
  deriving DecidableEq, Repr

/-- The fields of `microdesc_t` the cache code reads and writes. -/
structure Microdesc where
  body : BodyPtr
  bodylen : Nat
  off : Nat
  savedLocation : SavedLocation
  noSave : Bool
  lastListed : Int
  heldByNodes : Nat
  deriving DecidableEq, Repr

/-- `tor_mmap_t`: a mapping (by number) and its size. -/
structure TorMmap where
  gen : Nat
  size : Nat
  deriving DecidableEq, Repr

/-- `microdesc_cache_t` as far as the rebuild uses it; `nextGen` numbers the next mapping. -/
structure MdCache where
  map : List Microdesc
  cacheContent : Option TorMmap
  journalLen : Nat
  bytesDropped : Nat
  nextGen : Nat
  deriving DecidableEq, Repr

/-! ## The code -/

/-- `TOLERATE_MICRODESC_AGE`: a week, in seconds. -/
def TOLERATE_MICRODESC_AGE : Int := 7 * 24 * 60 * 60

/-- Whether `microdesc_cache_clean` frees `md`: listed before the cutoff and held by no node. -/
def isDropped (cutoff : Int) (md : Microdesc) : Bool :=
  md.lastListed < cutoff && md.heldByNodes == 0

/-- `microdesc_cache_clean (cache, 0, 0)` at time `now`: nothing without a reasonably live
    consensus; otherwise the old descriptors no node holds are freed, and the old ones a node
    still holds are marked listed now. -/
def microdescCacheClean (liveConsensus : Bool) (now : Int) (c : MdCache) : MdCache :=
  if !liveConsensus then c
  else
    let cutoff := now - TOLERATE_MICRODESC_AGE
    { c with
      map := (c.map.filter fun md => !isDropped cutoff md).map fun md =>
        if md.lastListed < cutoff then { md with lastListed := now } else md
      bytesDropped :=
        c.bytesDropped + ((c.map.filter (isDropped cutoff)).map Microdesc.bodylen).sum }

/-- `should_rebuild_md_cache`. -/
def shouldRebuildMdCache (c : MdCache) : Bool :=
  let oldLen := match c.cacheContent with
    | some m => m.size
    | none => 0
  if c.journalLen < 16384 then false
  else if (c.journalLen + oldLen) / 3 < c.bytesDropped then true
  else oldLen / 2 < c.journalLen

/-- `microdesc_wipe_body`: no body, no length, saved nowhere, never to be saved. -/
def microdescWipeBody (md : Microdesc) : Microdesc :=
  { md with off := 0, savedLocation := .nowhere, body := .null, bodylen := 0, noSave := true }

/-- The file `start_writing_to_file` opened: the position of its descriptor and its length. -/
structure OpenFile where
  pos : Nat
  size : Nat
  deriving DecidableEq, Repr

/-- What one `write_all_to_fd` does: write everything, or fail after `k` bytes. -/
inductive WriteOutcome where
  | ok
  | fail (k : Nat)
  deriving DecidableEq, Repr

/-- `write_all_to_fd (fd, buf, len)`: whether all of it was written, and the file after. -/
def writeAllToFd (o : WriteOutcome) (f : OpenFile) (len : Nat) : Bool × OpenFile :=
  match o with
  | .ok => (true, ⟨f.pos + len, max f.size (f.pos + len)⟩)
  | .fail k => (false, ⟨f.pos + min k len, max f.size (f.pos + min k len)⟩)

/-- `ISO_TIME_LEN`. -/
def ISO_TIME_LEN : Nat := 19

/-- `strlen` of the `"@last-listed %s\n"` annotation, with an ISO time. -/
def lastListedAnnotationLen : Nat := "@last-listed ".length + ISO_TIME_LEN + 1

/-- What `dump_microdescriptor` returns and leaves: the bytes written (`none` for -1), the
    annotation length, the descriptor, the file, and the number of writes made so far. -/
structure Dump where
  size : Option Nat
  annotationLen : Nat
  md : Microdesc
  file : OpenFile
  writes : Nat

/-- The body write of `dump_microdescriptor`, after `annLen` bytes of annotation:
    `md->off = tor_fd_getpos (fd)`, then `write_all_to_fd` of the body. -/
def dumpBody (write : Nat → WriteOutcome) (k : Nat) (f : OpenFile) (annLen : Nat)
    (md : Microdesc) : Dump :=
  let b := writeAllToFd (write k) f md.bodylen
  ⟨if b.1 then some (annLen + md.bodylen) else none, annLen, { md with off := f.pos }, b.2, k + 1⟩

/-- `dump_microdescriptor (fd, md, &annotation_len)`; `write k` is the outcome of the `k`-th
    write of the rebuild. -/
def dumpMicrodescriptor (write : Nat → WriteOutcome) (k : Nat) (f : OpenFile) (md : Microdesc) :
    Dump :=
  if md.body = .null then ⟨some 0, 0, md, f, k⟩
  else if md.lastListed ≠ 0 then
    let a := writeAllToFd (write k) f lastListedAnnotationLen
    if a.1 then dumpBody write (k + 1) a.2 lastListedAnnotationLen md
    else ⟨none, 0, md, a.2, k + 1⟩
  else dumpBody write k f 0 md

/-- The state of the `HT_FOREACH` loop: the new file, `off`, and the writes made. -/
structure RebuildPass where
  file : OpenFile
  off : Nat
  writes : Nat
  deriving DecidableEq, Repr

/-- One pass of the loop on `md`: the loop state after, the descriptor after, and whether it was
    added to `wrote`. -/
def rebuildOne (write : Nat → WriteOutcome) (s : RebuildPass) (md : Microdesc) :
    RebuildPass × Microdesc × Bool :=
  if md.noSave || md.body == .null then (s, md, false)
  else
    let d := dumpMicrodescriptor write s.writes s.file md
    match d.size with
    | none =>
      -- wipe the body and rewind, in case it was a partial write
      (⟨{ d.file with pos := s.off }, s.off, d.writes⟩, microdescWipeBody d.md, false)
    | some size =>
      let md1 := { d.md with off := s.off + d.annotationLen }
      let off := if d.file.pos ≠ s.off + size then d.file.pos else s.off + size
      let md2 := if md1.savedLocation ≠ .inCache then
          { md1 with body := .null, savedLocation := .inCache }
        else md1
      (⟨d.file, off, d.writes⟩, md2, true)

/-- The `HT_FOREACH` loop over the map, in its iteration order. -/
def rebuildLoop (write : Nat → WriteOutcome) : RebuildPass → List Microdesc →
    RebuildPass × List (Microdesc × Bool)
  | s, [] => (s, [])
  | s, md :: mds =>
    let r := rebuildOne write s md
    let rest := rebuildLoop write r.1 mds
    (rest.1, (r.2.1, r.2.2) :: rest.2)

/-- The outcomes of the file operations of one rebuild. -/
structure FileOps where
  startWriting : Bool
  write : Nat → WriteOutcome
  finishWriting : Bool
  mmap : Bool

/-- `tor_mmap_file` of the new file: a new mapping of all its bytes, or `NULL`. -/
def torMmapFile (ok : Bool) (gen size : Nat) : Option TorMmap :=
  if ok then some ⟨gen, size⟩ else none

/-- `md->body = cache_content->data + md->off` for a descriptor in `wrote`. -/
def attachBody (content : Option TorMmap) (md : Microdesc) : Microdesc :=
  match content with
  | some m => { md with body := .mapped m.gen md.off }
  | none => md

@[simp] theorem attachBody_savedLocation (content : Option TorMmap) (md : Microdesc) :
    (attachBody content md).savedLocation = md.savedLocation := by
  cases content <;> rfl

@[simp] theorem attachBody_noSave (content : Option TorMmap) (md : Microdesc) :
    (attachBody content md).noSave = md.noSave := by
  cases content <;> rfl

@[simp] theorem attachBody_off (content : Option TorMmap) (md : Microdesc) :
    (attachBody content md).off = md.off := by
  cases content <;> rfl

@[simp] theorem attachBody_bodylen (content : Option TorMmap) (md : Microdesc) :
    (attachBody content md).bodylen = md.bodylen := by
  cases content <;> rfl

/-- `microdesc_cache_rebuild (cache, force)`, with `microdesc_cache_clean` run at time `now`;
    `onionKeyAt off` is `fast_memeq (cache_content->data + off, "onion-key", 9)` in the new
    mapping, and `none` is the failed `tor_assert` after it. -/
def microdescCacheRebuild (ops : FileOps) (onionKeyAt : Nat → Bool) (force liveConsensus : Bool)
    (now : Int) (cache : MdCache) : Option (Int × MdCache) :=
  let c := microdescCacheClean liveConsensus now cache
  if !force && !shouldRebuildMdCache c then some (0, c)
  else if !ops.startWriting then some (-1, c)
  else
    let r := rebuildLoop ops.write ⟨⟨0, 0⟩, 0, 0⟩ c.map
    -- the old file is unmapped before `finish_writing_to_file`
    let c1 := { c with map := r.2.map Prod.fst, cacheContent := none }
    if !ops.finishWriting then
      some (-1, { c1 with map := c1.map.map fun md =>
        if md.savedLocation = .inCache then microdescWipeBody md else md })
    else
      let content := torMmapFile ops.mmap c.nextGen r.1.file.size
      let c2 := { c1 with cacheContent := content, nextGen := c.nextGen + 1 }
      if content.isNone && r.2.any (·.2) then some (-1, c2)
      -- a descriptor in `wrote` whose body does not start with `"onion-key"`
      else if r.2.any fun p => p.2 && (decide (p.1.bodylen < 9) || !onionKeyAt p.1.off) then none
      else some (0, { c2 with
        map := r.2.map fun p => if p.2 then attachBody content p.1 else p.1
        journalLen := 0
        bytesDropped := 0 })

/-! ## The invariant -/

/-- A body that is not in a mapping: (a) none and no length, or (b) one the descriptor owns,
    not saved in the cache file. -/
def Microdesc.Unmapped (md : Microdesc) : Prop :=
  (md.body = .null ∧ md.bodylen = 0) ∨ (md.savedLocation ≠ .inCache ∧ md.body = .heap)

/-- The three cases a descriptor may be in: (a) or (b) of `Unmapped`, or (c) saved in the cache
    file, with `body` at byte `off` of the current mapping and `[off, off + bodylen)` inside
    it. -/
def Microdesc.BodyOk (content : Option TorMmap) (md : Microdesc) : Prop :=
  md.Unmapped ∨ (md.savedLocation = .inCache ∧ ∃ m, content = some m ∧
    md.body = .mapped m.gen md.off ∧ md.off + md.bodylen ≤ m.size)

/-- A consistent cache: every descriptor satisfies `BodyOk`, none saved in the cache file is
    marked not to be saved, and the mapping's number is below `nextGen`. -/
structure CacheOk (c : MdCache) : Prop where
  bodies : ∀ md ∈ c.map, md.BodyOk c.cacheContent
  noSave_of_inCache : ∀ md ∈ c.map, md.savedLocation = .inCache → md.noSave = false
  gen_lt : ∀ m, c.cacheContent = some m → m.gen < c.nextGen

theorem Microdesc.Unmapped.bodyOk {md : Microdesc} (h : md.Unmapped) (content : Option TorMmap) :
    md.BodyOk content :=
  .inl h

/-- A body at `NULL` is in case (a). -/
theorem Microdesc.BodyOk.unmapped_of_null {md : Microdesc} {content : Option TorMmap}
    (h : md.BodyOk content) (hn : md.body = .null) : md.Unmapped := by
  rcases h with h | ⟨-, m, -, hb, -⟩
  · exact h
  · rw [hn] at hb; cases hb

theorem microdescWipeBody_unmapped (md : Microdesc) : (microdescWipeBody md).Unmapped :=
  .inl ⟨rfl, rfl⟩

/-- Cleaning only drops descriptors and changes `last_listed`. -/
theorem cacheOk_clean {c : MdCache} (h : CacheOk c) (liveConsensus : Bool) (now : Int) :
    CacheOk (microdescCacheClean liveConsensus now c) := by
  unfold microdescCacheClean
  split
  · exact h
  refine ⟨fun md hmd => ?_, fun md hmd => ?_, h.gen_lt⟩ <;>
  · simp only [List.mem_map, List.mem_filter] at hmd
    obtain ⟨md, ⟨hmd, -⟩, rfl⟩ := hmd
    split
    · first | exact h.bodies md hmd | exact h.noSave_of_inCache md hmd
    · first | exact h.bodies md hmd | exact h.noSave_of_inCache md hmd

/-! ## Writing the new file -/

/-- A write never shortens the file; a complete one moves the position by its length. -/
theorem writeAllToFd_spec (o : WriteOutcome) (f : OpenFile) (len : Nat) :
    f.size ≤ (writeAllToFd o f len).2.size ∧ ((writeAllToFd o f len).1 = true →
      (writeAllToFd o f len).2.pos = f.pos + len ∧
        f.pos + len ≤ (writeAllToFd o f len).2.size) := by
  cases o with
  | ok => exact ⟨Nat.le_max_left _ _, fun _ => ⟨rfl, Nat.le_max_right _ _⟩⟩
  | fail k => exact ⟨Nat.le_max_left _ _, fun h => absurd h Bool.false_ne_true⟩

/-- **What `dump_microdescriptor` does to a descriptor with a body**: only `off` changes; the
    file only grows; on success the bytes written are the annotation and the body, just written
    at the old position. -/
theorem dumpMicrodescriptor_spec (write : Nat → WriteOutcome) (k : Nat) (f : OpenFile)
    {md : Microdesc} (hb : md.body ≠ .null) :
    let d := dumpMicrodescriptor write k f md
    f.size ≤ d.file.size ∧ d.md = { md with off := d.md.off } ∧
      ∀ n, d.size = some n → n = d.annotationLen + md.bodylen ∧ d.file.pos = f.pos + n ∧
        f.pos + n ≤ d.file.size := by
  have body : ∀ k f a,
      f.size ≤ (dumpBody write k f a md).file.size ∧
        (dumpBody write k f a md).md = { md with off := (dumpBody write k f a md).md.off } ∧
        ∀ n, (dumpBody write k f a md).size = some n → n = a + md.bodylen ∧
          (dumpBody write k f a md).file.pos = f.pos + md.bodylen ∧
          f.pos + md.bodylen ≤ (dumpBody write k f a md).file.size := by
    intro k f a
    obtain ⟨hsize, hok⟩ := writeAllToFd_spec (write k) f md.bodylen
    refine ⟨hsize, rfl, fun n hn => ?_⟩
    simp only [dumpBody] at hn ⊢
    split_ifs at hn with h
    exact ⟨(Option.some.inj hn).symm, hok h⟩
  dsimp only
  simp only [dumpMicrodescriptor, if_neg hb]
  split_ifs with hl ha
  · -- the annotation, then the body
    obtain ⟨hs1, hok1⟩ := writeAllToFd_spec (write k) f lastListedAnnotationLen
    obtain ⟨hs2, hmd, hn⟩ :=
      body (k + 1) (writeAllToFd (write k) f lastListedAnnotationLen).2 lastListedAnnotationLen
    refine ⟨hs1.trans hs2, hmd, fun n h => ?_⟩
    obtain ⟨rfl, hp, hle⟩ := hn n h
    have hp1 := (hok1 ha).1
    simp only [dumpBody] at hp hle ⊢
    exact ⟨trivial, by omega, by omega⟩
  · exact ⟨(writeAllToFd_spec _ _ _).1, rfl, fun n h => by cases h⟩
  · obtain ⟨hs, hmd, hn⟩ := body k f 0
    refine ⟨hs, hmd, fun n h => ?_⟩
    obtain ⟨rfl, hp, hle⟩ := hn n h
    simp only [dumpBody] at hp hle ⊢
    exact ⟨trivial, by omega, by omega⟩

/-! ## The rebuild keeps the invariant, but on one path -/

/-- What the loop leaves of a descriptor, given the final length `S` of the new file: one added
    to `wrote` is saved in the cache file within the file's first `S` bytes, any other has no
    mapped body. -/
structure RebuildPost (S : Nat) (md : Microdesc) (wrote : Bool) : Prop where
  written : wrote = true → md.savedLocation = .inCache ∧ md.off + md.bodylen ≤ S
  unwritten : wrote = false → md.Unmapped
  noSave_of_inCache : md.savedLocation = .inCache → md.noSave = false

theorem RebuildPost.mono {S S' : Nat} {md : Microdesc} {w : Bool} (h : RebuildPost S md w)
    (hS : S ≤ S') : RebuildPost S' md w :=
  ⟨fun hw => ⟨(h.written hw).1, (h.written hw).2.trans hS⟩, h.unwritten, h.noSave_of_inCache⟩

/-- **One pass of the loop.** With the file's position at `off` and a descriptor in one of the
    three cases: the position stays at `off` (so no discontinuity is found), the file only grows,
    and the descriptor is left as `RebuildPost` says. -/
theorem rebuildOne_spec (write : Nat → WriteOutcome) (s : RebuildPass) {md : Microdesc}
    {content : Option TorMmap} (hs : s.file.pos = s.off) (hmd : md.BodyOk content)
    (hns : md.savedLocation = .inCache → md.noSave = false) :
    (rebuildOne write s md).1.file.pos = (rebuildOne write s md).1.off ∧
      s.file.size ≤ (rebuildOne write s md).1.file.size ∧
      RebuildPost (rebuildOne write s md).1.file.size (rebuildOne write s md).2.1
        (rebuildOne write s md).2.2 := by
  unfold rebuildOne
  split
  · -- not to be saved, or no body: left as it is
    rename_i hskip
    refine ⟨hs, Nat.le_refl _, fun h => absurd h Bool.false_ne_true, fun _ => ?_, hns⟩
    simp only [Bool.or_eq_true, beq_iff_eq] at hskip
    rcases hskip with hno | hnull
    · rcases hmd with hu | ⟨hin, -⟩
      · exact hu
      · exact absurd (hns hin) (by simp [hno])
    · exact hmd.unmapped_of_null hnull
  rename_i hskip
  simp only [Bool.or_eq_true, beq_iff_eq, not_or, Bool.not_eq_true] at hskip
  obtain ⟨hno, hnull⟩ := hskip
  obtain ⟨hsize, hmdeq, hn⟩ := dumpMicrodescriptor_spec write s.writes s.file hnull
  dsimp only at hsize hmdeq hn ⊢
  split
  · -- the dump failed: the body is wiped and the file rewound
    exact ⟨rfl, hsize, fun h => absurd h Bool.false_ne_true,
      fun _ => microdescWipeBody_unmapped _, fun h => by simp [microdescWipeBody] at h⟩
  · rename_i size hd
    obtain ⟨hsz, hpos, hle⟩ := hn size hd
    have hlen : (dumpMicrodescriptor write s.writes s.file md).md.bodylen = md.bodylen := by
      rw [hmdeq]
    have hnoSave : (dumpMicrodescriptor write s.writes s.file md).md.noSave = md.noSave := by
      rw [hmdeq]
    split_ifs <;> dsimp only <;>
      exact ⟨by omega, hsize, fun _ => ⟨by first | rfl | exact not_not.1 ‹_›, by dsimp only; omega⟩,
        fun h => absurd h (by simp), fun _ => by simp [hnoSave, hno]⟩

/-- **The loop.** From a map of descriptors in the three cases, starting at offset 0, every
    descriptor is left as `RebuildPost` says for the final length of the new file. -/
theorem rebuildLoop_spec (write : Nat → WriteOutcome) (content : Option TorMmap) :
    ∀ (s : RebuildPass) (mds : List Microdesc), s.file.pos = s.off →
      (∀ md ∈ mds, md.BodyOk content ∧ (md.savedLocation = .inCache → md.noSave = false)) →
      (rebuildLoop write s mds).1.file.pos = (rebuildLoop write s mds).1.off ∧
        s.file.size ≤ (rebuildLoop write s mds).1.file.size ∧
        ∀ p ∈ (rebuildLoop write s mds).2, RebuildPost (rebuildLoop write s mds).1.file.size p.1 p.2
  | s, [], hs, _ => ⟨hs, Nat.le_refl _, by simp [rebuildLoop]⟩
  | s, md :: mds, hs, h => by
    have hmd := h md (List.mem_cons_self _ _)
    obtain ⟨hpos, hsize, hpost⟩ := rebuildOne_spec write s hs hmd.1 hmd.2
    obtain ⟨hpos', hsize', hpost'⟩ := rebuildLoop_spec write content _ mds hpos
      fun md' hm => h md' (List.mem_cons_of_mem _ hm)
    refine ⟨hpos', hsize.trans hsize', ?_⟩
    simp only [rebuildLoop, List.mem_cons]
    rintro p (rfl | hp)
    · exact hpost.mono hsize'
    · exact hpost' p hp

/-- **Every path of the rebuild but one leaves a consistent cache.** From a consistent cache, a
    rebuild that returns leaves every descriptor in one of the three cases, unless
    `finish_writing_to_file` succeeded and `tor_mmap_file` failed, where it returns -1. -/
theorem microdescCacheRebuild_cacheOk (ops : FileOps) (onionKeyAt : Nat → Bool)
    (force liveConsensus : Bool) (now : Int) {cache : MdCache} (h : CacheOk cache)
    {r : Int × MdCache}
    (hr : microdescCacheRebuild ops onionKeyAt force liveConsensus now cache = some r) :
    CacheOk r.2 ∨
      (ops.startWriting = true ∧ ops.finishWriting = true ∧ ops.mmap = false ∧ r.1 = -1) := by
  have hc := cacheOk_clean h liveConsensus now
  have hloop :=
    rebuildLoop_spec ops.write (microdescCacheClean liveConsensus now cache).cacheContent
      ⟨⟨0, 0⟩, 0, 0⟩ (microdescCacheClean liveConsensus now cache).map rfl
      fun md hmd => ⟨hc.bodies md hmd, hc.noSave_of_inCache md hmd⟩
  obtain ⟨-, -, hpost⟩ := hloop
  unfold microdescCacheRebuild at hr
  dsimp only at hr
  by_cases hskip : (!force && !shouldRebuildMdCache (microdescCacheClean liveConsensus now cache))
  · rw [if_pos hskip, Option.some.injEq] at hr; exact hr ▸ .inl hc
  rw [if_neg hskip] at hr
  by_cases hstart : (!ops.startWriting) = true
  · rw [if_pos hstart, Option.some.injEq] at hr; exact hr ▸ .inl hc
  rw [if_neg hstart] at hr
  by_cases hfinish : (!ops.finishWriting) = true
  · -- `finish_writing_to_file` failed: every body saved in the cache is wiped
    rw [if_pos hfinish, Option.some.injEq] at hr
    subst hr
    refine .inl ⟨fun md hmd => ?_, fun md hmd hin => ?_, fun m hm => by cases hm⟩
    · simp only [List.map_map, List.mem_map, Function.comp] at hmd
      obtain ⟨p, hp, rfl⟩ := hmd
      split_ifs with hin
      · exact (microdescWipeBody_unmapped _).bodyOk _
      · cases hw : p.2
        · exact ((hpost p hp).unwritten hw).bodyOk _
        · exact absurd ((hpost p hp).written hw).1 hin
    · simp only [List.map_map, List.mem_map, Function.comp] at hmd
      obtain ⟨p, hp, rfl⟩ := hmd
      split_ifs at hin ⊢ with hin'
      · simp [microdescWipeBody] at hin
      · exact (hpost p hp).noSave_of_inCache hin
  rw [if_neg hfinish] at hr
  split at hr
  next hfail =>
    -- `tor_mmap_file` failed after something was written
    rw [Option.some.injEq] at hr
    subst hr
    cases hm : ops.mmap
    · exact .inr ⟨by simpa using hstart, by simpa using hfinish, rfl, rfl⟩
    · simp [hm, torMmapFile] at hfail
  next hfail =>
    -- the new file is mapped, or nothing was written; the onion-key check passed
    split at hr
    · cases hr
    rw [Option.some.injEq] at hr
    subst hr
    refine .inl ⟨fun md hmd => ?_, fun md hmd hin => ?_, fun m hm => ?_⟩
    · simp only [List.mem_map] at hmd
      obtain ⟨p, hp, rfl⟩ := hmd
      have hpp := hpost p hp
      cases hw : p.2
      · simpa [hw] using (hpp.unwritten hw).bodyOk _
      · cases hm : ops.mmap
        · simp only [hm, torMmapFile, Bool.false_eq_true, if_false, Option.isNone_none,
            Bool.true_and, List.any_eq_true, not_exists, not_and] at hfail
          exact absurd hw (hfail p hp)
        · obtain ⟨hin, hle⟩ := hpp.written hw
          simp only [hw, if_true, hm, torMmapFile, attachBody]
          exact .inr ⟨hin, _, rfl, rfl, hle⟩
    · simp only [List.mem_map] at hmd
      obtain ⟨p, hp, rfl⟩ := hmd
      have hsame : ∀ c : Option TorMmap,
          (if p.2 then attachBody c p.1 else p.1).savedLocation = p.1.savedLocation ∧
          (if p.2 then attachBody c p.1 else p.1).noSave = p.1.noSave := fun c => by
        split <;> simp
      rw [(hsame _).1] at hin
      rw [(hsame _).2]
      exact (hpost p hp).noSave_of_inCache hin
    · simp only [torMmapFile] at hm
      split_ifs at hm
      cases hm
      exact Nat.lt_succ_self _

/-- **When `tor_mmap_file` fails after the new file was written, the rebuild returns -1 with
    dangling bodies**: a mapped descriptor keeps its pointer into the unmapped mapping 0, and a
    journal one has a `NULL` body with five bytes of length, neither in one of the three cases. -/
theorem microdescCacheRebuild_mmapFails (onionKeyAt : Nat → Bool) :
    CacheOk ⟨[⟨.mapped 0 0, 10, 0, .inCache, false, 0, 1⟩, ⟨.heap, 5, 0, .inJournal, false, 0, 1⟩],
      some ⟨0, 10⟩, 0, 0, 1⟩ ∧
    microdescCacheRebuild ⟨true, fun _ => .ok, true, false⟩ onionKeyAt true false 0
        ⟨[⟨.mapped 0 0, 10, 0, .inCache, false, 0, 1⟩, ⟨.heap, 5, 0, .inJournal, false, 0, 1⟩],
          some ⟨0, 10⟩, 0, 0, 1⟩ =
      some (-1, ⟨[⟨.mapped 0 0, 10, 0, .inCache, false, 0, 1⟩, ⟨.null, 5, 10, .inCache, false, 0, 1⟩],
        none, 0, 0, 2⟩) ∧
    ¬ (⟨.mapped 0 0, 10, 0, .inCache, false, 0, 1⟩ : Microdesc).BodyOk none ∧
    ¬ (⟨.null, 5, 10, .inCache, false, 0, 1⟩ : Microdesc).BodyOk none :=
  ⟨⟨by simp [Microdesc.BodyOk, Microdesc.Unmapped], by simp, by simp⟩, rfl,
    by simp [Microdesc.BodyOk, Microdesc.Unmapped], by simp [Microdesc.BodyOk, Microdesc.Unmapped]⟩

end TorCore
