import TorCore.Microdesc.Rebuild
import Mathlib.Data.List.Forall2

/-!
# `TorCore.Microdesc.Layout` — the bytes of the rebuilt cache file

`Microdesc.Rebuild` follows the positions and the length of the new cache file. This module
follows its bytes: `writeAllToFdBytes` writes them, `dumpMicrodescriptorBytes` writes the
`@last-listed` annotation and the body of one descriptor, and `layoutLoop` is the `HT_FOREACH`
loop of `microdesc_cache_rebuild` on them. `layoutLoop_refines` shows that the size-only loop of
`Microdesc.Rebuild` is what this one does to positions and lengths, so every result there holds of
it.

`microdescCacheRebuild_layout`: when `start_writing_to_file`, `finish_writing_to_file` and
`tor_mmap_file` succeed and every body it may write starts with `"onion-key"`, the `tor_assert`
after `tor_mmap_file` holds, the rebuild returns 0 and, if it wrote a new file, every descriptor it
wrote is saved in the cache with its body at `off` in the new mapping, where the file holds its
body; every descriptor whose dump failed is wiped; the written descriptors' segments (annotation
and body) lie end to end from offset 0 in iteration order; and with no failed dump the file is
exactly those segments.

`format_iso_time` is not among the sources: `IsoTimeFormat` is any function giving
`ISO_TIME_LEN` bytes.
-/

namespace TorCore

/-! ## Writing bytes -/

/-- `format_iso_time`: the `ISO_TIME_LEN` bytes of a time. -/
structure IsoTimeFormat where
  format : Int → List UInt8
  length_format : ∀ t, (format t).length = ISO_TIME_LEN

/-- The bytes of an ASCII string. -/
def asciiBytes (s : String) : List UInt8 := s.toList.map Char.toUInt8

/-- The annotation `dump_microdescriptor` writes for `last_listed = t`: `"@last-listed %s\n"`. -/
def lastListedAnnotationBytes (fmt : IsoTimeFormat) (t : Int) : List UInt8 :=
  asciiBytes "@last-listed " ++ fmt.format t ++ asciiBytes "\n"

theorem lastListedAnnotationBytes_length (fmt : IsoTimeFormat) (t : Int) :
    (lastListedAnnotationBytes fmt t).length = lastListedAnnotationLen := by
  simp only [lastListedAnnotationBytes, List.length_append, fmt.length_format, asciiBytes,
    List.length_map, lastListedAnnotationLen]
  rfl

/-- The new file with its bytes, and the position of its descriptor. -/
structure FileBytes where
  bytes : List UInt8
  pos : Nat

/-- What `Microdesc.Rebuild` keeps of it: the position and the length. -/
def FileBytes.toOpenFile (f : FileBytes) : OpenFile := ⟨f.pos, f.bytes.length⟩

/-- Writing `data` at `pos`: the bytes before `pos` stay, `data` replaces what follows, and the
    file grows as needed. -/
def writeAt (bytes : List UInt8) (pos : Nat) (data : List UInt8) : List UInt8 :=
  bytes.take pos ++ data ++ bytes.drop (pos + data.length)

/-- `write_all_to_fd (fd, data, len)`: all of `data` is written, or the first `k` bytes. -/
def writeAllToFdBytes (o : WriteOutcome) (f : FileBytes) (data : List UInt8) :
    Bool × FileBytes :=
  match o with
  | .ok => (true, ⟨writeAt f.bytes f.pos data, f.pos + data.length⟩)
  | .fail k => (false, ⟨writeAt f.bytes f.pos (data.take k), f.pos + min k data.length⟩)

section WriteAt

variable {bytes data : List UInt8} {pos : Nat}

theorem writeAt_length (h : pos ≤ bytes.length) :
    (writeAt bytes pos data).length = max bytes.length (pos + data.length) := by
  simp only [writeAt, List.length_append, List.length_take, List.length_drop]
  omega

/-- Up to the end of the write, the file is its old bytes before `pos` and then `data`. -/
theorem take_writeAt (h : pos ≤ bytes.length) :
    (writeAt bytes pos data).take (pos + data.length) = bytes.take pos ++ data := by
  have hl : (bytes.take pos ++ data).length = pos + data.length := by simp; omega
  rw [writeAt, ← hl, List.take_left]

/-- A write leaves the bytes before its position. -/
theorem take_writeAt_of_le {n : Nat} (h : pos ≤ bytes.length) (hn : n ≤ pos) :
    (writeAt bytes pos data).take n = bytes.take n := by
  rw [writeAt, List.append_assoc, List.take_append_of_le_length (by simp; omega),
    List.take_take, min_eq_left hn]

/-- Bytes `[m, m + k)` of two files that agree up to `n ≥ m + k` agree. -/
theorem take_drop_congr {F G : List UInt8} {m k n : Nat} (h : G.take n = F.take n)
    (hk : m + k ≤ n) : (G.drop m).take k = (F.drop m).take k := by
  rw [List.take_drop, List.take_drop, ← min_eq_left hk, ← List.take_take, h, List.take_take]

/-- A file that begins with `P ++ l` holds `l` at `P.length`. -/
theorem take_drop_of_take_eq {F P l : List UInt8} (h : F.take (P.length + l.length) = P ++ l) :
    (F.drop P.length).take l.length = l := by
  rw [List.take_drop, h, List.drop_left]

end WriteAt

/-- The two outcomes of a write, as `Microdesc.Rebuild` sees them and in bytes: the bytes before
    the position stay, and a complete write puts `data` there and moves past it. -/
theorem writeAllToFdBytes_spec (o : WriteOutcome) {f : FileBytes} (h : f.pos ≤ f.bytes.length)
    (data : List UInt8) :
    (writeAllToFdBytes o f data).1 = (writeAllToFd o f.toOpenFile data.length).1 ∧
      (writeAllToFdBytes o f data).2.toOpenFile = (writeAllToFd o f.toOpenFile data.length).2 ∧
      (writeAllToFdBytes o f data).2.pos ≤ (writeAllToFdBytes o f data).2.bytes.length ∧
      (writeAllToFdBytes o f data).2.bytes.take f.pos = f.bytes.take f.pos ∧
      ((writeAllToFdBytes o f data).1 = true →
        (writeAllToFdBytes o f data).2.pos = f.pos + data.length ∧
        (writeAllToFdBytes o f data).2.bytes.length = max f.bytes.length (f.pos + data.length) ∧
        (writeAllToFdBytes o f data).2.bytes.take (f.pos + data.length) =
          f.bytes.take f.pos ++ data) := by
  cases o with
  | ok =>
    refine ⟨rfl, ?_, ?_, take_writeAt_of_le h le_rfl, fun _ => ⟨rfl, writeAt_length h,
      take_writeAt h⟩⟩
    · simp only [writeAllToFdBytes, writeAllToFd, FileBytes.toOpenFile, writeAt_length h]
    · simp only [writeAllToFdBytes, writeAt_length h]; omega
  | fail k =>
    refine ⟨rfl, ?_, ?_, take_writeAt_of_le h le_rfl, fun h => by cases h⟩
    · simp only [writeAllToFdBytes, writeAllToFd, FileBytes.toOpenFile, writeAt_length h,
        List.length_take]
    · simp only [writeAllToFdBytes, writeAt_length h, List.length_take]; omega

/-! ## One descriptor -/

/-- What `dump_microdescriptor` returns and leaves, with the bytes of the file. -/
structure DumpBytes where
  size : Option Nat
  annotationLen : Nat
  md : Microdesc
  file : FileBytes
  writes : Nat

/-- What `Microdesc.Rebuild` keeps of it. -/
def DumpBytes.toDump (d : DumpBytes) : Dump :=
  ⟨d.size, d.annotationLen, d.md, d.file.toOpenFile, d.writes⟩

/-- The body write of `dump_microdescriptor`: `md->off = tor_fd_getpos (fd)`, then
    `write_all_to_fd (fd, md->body, md->bodylen)`; `body` is what `md->body` points to. -/
def dumpBodyBytes (write : Nat → WriteOutcome) (k : Nat) (f : FileBytes) (annLen : Nat)
    (md : Microdesc) (body : List UInt8) : DumpBytes :=
  let b := writeAllToFdBytes (write k) f body
  ⟨if b.1 then some (annLen + md.bodylen) else none, annLen, { md with off := f.pos }, b.2, k + 1⟩

/-- `dump_microdescriptor (fd, md, &annotation_len)` with the bytes it writes. -/
def dumpMicrodescriptorBytes (fmt : IsoTimeFormat) (write : Nat → WriteOutcome) (k : Nat)
    (f : FileBytes) (md : Microdesc) (body : List UInt8) : DumpBytes :=
  if md.body = .null then ⟨some 0, 0, md, f, k⟩
  else if md.lastListed ≠ 0 then
    let a := writeAllToFdBytes (write k) f (lastListedAnnotationBytes fmt md.lastListed)
    if a.1 then
      dumpBodyBytes write (k + 1) a.2 (lastListedAnnotationBytes fmt md.lastListed).length md body
    else ⟨none, 0, md, a.2, k + 1⟩
  else dumpBodyBytes write k f 0 md body

/-- What the file holds for a written descriptor: its annotation when `last_listed` is set, then
    its body. -/
def annotationBytes (fmt : IsoTimeFormat) (md : Microdesc) : List UInt8 :=
  if md.lastListed ≠ 0 then lastListedAnnotationBytes fmt md.lastListed else []

def segment (fmt : IsoTimeFormat) (md : Microdesc) (body : List UInt8) : List UInt8 :=
  annotationBytes fmt md ++ body

section Dump

variable (fmt : IsoTimeFormat) (write : Nat → WriteOutcome) (k : Nat) {f : FileBytes}
  {md : Microdesc} {body : List UInt8}

theorem dumpBodyBytes_spec (h : f.pos ≤ f.bytes.length) (hb : body.length = md.bodylen)
    (annLen : Nat) :
    (dumpBodyBytes write k f annLen md body).toDump = dumpBody write k f.toOpenFile annLen md ∧
      (dumpBodyBytes write k f annLen md body).file.pos ≤
        (dumpBodyBytes write k f annLen md body).file.bytes.length ∧
      (dumpBodyBytes write k f annLen md body).file.bytes.take f.pos = f.bytes.take f.pos ∧
      ((dumpBodyBytes write k f annLen md body).size.isSome →
        (dumpBodyBytes write k f annLen md body).annotationLen = annLen ∧
        (dumpBodyBytes write k f annLen md body).file.pos = f.pos + body.length ∧
        (dumpBodyBytes write k f annLen md body).file.bytes.length =
          max f.bytes.length (f.pos + body.length) ∧
        (dumpBodyBytes write k f annLen md body).file.bytes.take (f.pos + body.length) =
          f.bytes.take f.pos ++ body) := by
  obtain ⟨h1, h2, h3, h4, h5⟩ := writeAllToFdBytes_spec (write k) h body
  refine ⟨?_, h3, h4, fun hs => ⟨rfl, h5 ?_⟩⟩
  · simp only [DumpBytes.toDump, dumpBodyBytes, dumpBody, h1, h2, hb]
    rfl
  · simp only [dumpBodyBytes] at hs
    split_ifs at hs with hw
    · exact hw
    · cases hs

/-- **`dump_microdescriptor` on a descriptor with a body**: what `Microdesc.Rebuild` says it does
    to positions and lengths; the bytes before the position stay; on success its segment is
    written there and the position moves past it. -/
theorem dumpMicrodescriptorBytes_spec (h : f.pos ≤ f.bytes.length)
    (hb : body.length = md.bodylen) (hn : md.body ≠ .null) :
    (dumpMicrodescriptorBytes fmt write k f md body).toDump =
        dumpMicrodescriptor write k f.toOpenFile md ∧
      (dumpMicrodescriptorBytes fmt write k f md body).file.pos ≤
        (dumpMicrodescriptorBytes fmt write k f md body).file.bytes.length ∧
      (dumpMicrodescriptorBytes fmt write k f md body).file.bytes.take f.pos =
        f.bytes.take f.pos ∧
      ((dumpMicrodescriptorBytes fmt write k f md body).size.isSome →
        (dumpMicrodescriptorBytes fmt write k f md body).annotationLen =
          (annotationBytes fmt md).length ∧
        (dumpMicrodescriptorBytes fmt write k f md body).file.pos =
          f.pos + (segment fmt md body).length ∧
        (dumpMicrodescriptorBytes fmt write k f md body).file.bytes.length =
          max f.bytes.length (f.pos + (segment fmt md body).length) ∧
        (dumpMicrodescriptorBytes fmt write k f md body).file.bytes.take
          (f.pos + (segment fmt md body).length) = f.bytes.take f.pos ++ segment fmt md body) := by
  simp only [dumpMicrodescriptorBytes, dumpMicrodescriptor, if_neg hn]
  by_cases hl : md.lastListed ≠ 0
  · simp only [if_pos hl]
    set ann := lastListedAnnotationBytes fmt md.lastListed
    obtain ⟨a1, a2, a3, a4, a5⟩ := writeAllToFdBytes_spec (write k) h ann
    rw [lastListedAnnotationBytes_length] at a1 a2
    by_cases ha : (writeAllToFdBytes (write k) f ann).1
    · simp only [if_pos ha, if_pos (a1 ▸ ha)]
      obtain ⟨p1, pl, p2⟩ := a5 ha
      obtain ⟨b1, b2, b3, b4⟩ := dumpBodyBytes_spec write (k + 1) a3 hb ann.length
      refine ⟨by rw [b1, a2, lastListedAnnotationBytes_length], b2, ?_, fun hs => ?_⟩
      · have e := congrArg (List.take f.pos) b3
        rwa [List.take_take, List.take_take, min_eq_left (by rw [p1]; omega), a4] at e
      · obtain ⟨c1, c2, cl, c3⟩ := b4 hs
        have hann : annotationBytes fmt md = ann := if_pos hl
        rw [segment, hann, List.length_append, ← Nat.add_assoc, ← p1]
        refine ⟨c1, c2, ?_, by rw [c3, p1, p2, List.append_assoc]⟩
        -- the annotation's end is before the body's
        rw [cl, pl, max_assoc, p1, max_eq_right (Nat.le_add_right _ _)]
    · have ha' : (writeAllToFd (write k) f.toOpenFile lastListedAnnotationLen).1 = false := by
        rw [← a1]; simpa using ha
      simp only [if_neg ha, ha', Bool.false_eq_true, if_false]
      exact ⟨by rw [DumpBytes.toDump, a2], a3, a4, fun hs => by cases hs⟩
  · simp only [if_neg hl]
    obtain ⟨b1, b2, b3, b4⟩ := dumpBodyBytes_spec write k h hb 0
    refine ⟨b1, b2, b3, fun hs => ?_⟩
    have hann : annotationBytes fmt md = [] := if_neg hl
    rw [segment, hann, List.nil_append]
    exact b4 hs

end Dump

/-! ## The loop -/

/-- How the loop leaves a descriptor: passed over (`no_save` set or no body), wiped after its dump
    failed, or written and added to `wrote`. -/
inductive DumpOutcome where
  | skipped
  | failed
  | written
  deriving DecidableEq, Repr

/-- Whether the descriptor was added to `wrote`. -/
def DumpOutcome.wrote : DumpOutcome → Bool
  | .written => true
  | _ => false

/-- The state of the `HT_FOREACH` loop, with the bytes of the new file. -/
structure LayoutPass where
  file : FileBytes
  off : Nat
  writes : Nat

/-- What `Microdesc.Rebuild` keeps of it. -/
def LayoutPass.toRebuildPass (s : LayoutPass) : RebuildPass := ⟨s.file.toOpenFile, s.off, s.writes⟩

/-- One pass of the loop on `md`, whose body holds `body`. -/
def layoutOne (fmt : IsoTimeFormat) (write : Nat → WriteOutcome) (s : LayoutPass) (md : Microdesc)
    (body : List UInt8) : LayoutPass × Microdesc × DumpOutcome :=
  if md.noSave || md.body == .null then (s, md, .skipped)
  else
    let d := dumpMicrodescriptorBytes fmt write s.writes s.file md body
    match d.size with
    | none =>
      -- wipe the body and rewind, in case it was a partial write
      (⟨{ d.file with pos := s.off }, s.off, d.writes⟩, microdescWipeBody d.md, .failed)
    | some size =>
      let md1 := { d.md with off := s.off + d.annotationLen }
      let off := if d.file.pos ≠ s.off + size then d.file.pos else s.off + size
      let md2 := if md1.savedLocation ≠ .inCache then
          { md1 with body := .null, savedLocation := .inCache }
        else md1
      (⟨d.file, off, d.writes⟩, md2, .written)

/-- The `HT_FOREACH` loop over the map with the bytes of each body, in iteration order. -/
def layoutLoop (fmt : IsoTimeFormat) (write : Nat → WriteOutcome) :
    LayoutPass → List (Microdesc × List UInt8) → LayoutPass × List (Microdesc × DumpOutcome)
  | s, [] => (s, [])
  | s, (md, body) :: mds =>
    let r := layoutOne fmt write s md body
    let rest := layoutLoop fmt write r.1 mds
    (rest.1, (r.2.1, r.2.2) :: rest.2)

/-- How far a descriptor moves the loop's offset: its segment's length if it was written. -/
def advance (fmt : IsoTimeFormat) (x : Microdesc × List UInt8) (o : DumpOutcome) : Nat :=
  if o = .written then (segment fmt x.1 x.2).length else 0

/-- The segments of the written descriptors, end to end in iteration order. -/
def laidOutBytes (fmt : IsoTimeFormat) :
    List (Microdesc × List UInt8) → List DumpOutcome → List UInt8
  | (md, body) :: ins, o :: outs =>
    (if o = .written then segment fmt md body else []) ++ laidOutBytes fmt ins outs
  | _, _ => []

/-- What the loop did to one descriptor whose segment would start at `start` in `F`: a skipped
    one is unchanged, a failed one is wiped, and a written one is saved in the cache at `start`
    plus its annotation, with its body at `off`. -/
def DescLaidOut (fmt : IsoTimeFormat) (F : List UInt8) (start : Nat) :
    Microdesc × List UInt8 → Microdesc × DumpOutcome → Prop
  | (md, _), (md', .skipped) => md' = md ∧ (md.noSave = true ∨ md.body = .null)
  | (md, _), (md', .failed) => md' = microdescWipeBody md
  | (md, body), (md', .written) =>
    md.noSave = false ∧ md.body ≠ .null ∧ md'.savedLocation = .inCache ∧ md'.bodylen = md.bodylen ∧
      md'.off = start + (annotationBytes fmt md).length ∧
      (F.drop start).take (segment fmt md body).length = segment fmt md body ∧
      (F.drop md'.off).take md'.bodylen = body

/-- `DescLaidOut` for each descriptor in turn, each segment right after the one before. -/
def LaidOut (fmt : IsoTimeFormat) (F : List UInt8) :
    Nat → List (Microdesc × List UInt8) → List (Microdesc × DumpOutcome) → Prop
  | _, [], [] => True
  | start, x :: ins, y :: outs =>
    DescLaidOut fmt F start x y ∧ LaidOut fmt F (start + advance fmt x y.2) ins outs
  | _, _, _ => False

section Loop

variable (fmt : IsoTimeFormat) (write : Nat → WriteOutcome) {s : LayoutPass} {md : Microdesc}
  {body : List UInt8}

/-- **One pass refines `rebuildOne`**: the same positions, lengths, descriptor and decision. -/
theorem layoutOne_refines (hs : s.file.pos = s.off) (h : s.off ≤ s.file.bytes.length)
    (hb : body.length = md.bodylen) :
    ((layoutOne fmt write s md body).1.toRebuildPass, (layoutOne fmt write s md body).2.1,
        (layoutOne fmt write s md body).2.2.wrote) = rebuildOne write s.toRebuildPass md ∧
      (layoutOne fmt write s md body).1.file.pos ≤
        (layoutOne fmt write s md body).1.file.bytes.length := by
  unfold layoutOne rebuildOne
  by_cases hskip : (md.noSave || md.body == .null) = true
  · simp only [if_pos hskip]
    exact ⟨rfl, hs ▸ h⟩
  simp only [if_neg hskip]
  have hn : md.body ≠ .null := fun hn => hskip (by simp [hn])
  obtain ⟨e, hpos, hkeep, -⟩ := dumpMicrodescriptorBytes_spec fmt write s.writes (hs ▸ h) hb hn
  rw [show dumpMicrodescriptor write s.toRebuildPass.writes s.toRebuildPass.file md =
    (dumpMicrodescriptorBytes fmt write s.writes s.file md body).toDump from e.symm]
  cases hd : (dumpMicrodescriptorBytes fmt write s.writes s.file md body).size with
  | none =>
    have hl := congrArg List.length hkeep
    simp only [List.length_take] at hl
    refine ⟨by simp [DumpBytes.toDump, hd, LayoutPass.toRebuildPass, FileBytes.toOpenFile,
      DumpOutcome.wrote], ?_⟩
    dsimp only
    omega
  | some size =>
    exact ⟨by simp [DumpBytes.toDump, hd, LayoutPass.toRebuildPass, FileBytes.toOpenFile,
      DumpOutcome.wrote], hpos⟩

/-- **One pass, in bytes.** The bytes before `off` stay, a written descriptor's segment goes at
    `off` and the pass moves past it, the descriptor is as `DescLaidOut` says, and a file that
    ended at `off` ends at the new `off` unless the dump failed. -/
theorem layoutOne_spec (hs : s.file.pos = s.off) (h : s.off ≤ s.file.bytes.length)
    (hb : body.length = md.bodylen) :
    (layoutOne fmt write s md body).1.file.pos = (layoutOne fmt write s md body).1.off ∧
      (layoutOne fmt write s md body).1.off =
        s.off + advance fmt (md, body) (layoutOne fmt write s md body).2.2 ∧
      (layoutOne fmt write s md body).1.file.bytes.take (layoutOne fmt write s md body).1.off =
        s.file.bytes.take s.off ++
          (if (layoutOne fmt write s md body).2.2 = .written then segment fmt md body else []) ∧
      ((layoutOne fmt write s md body).2.2 ≠ .failed → s.file.bytes.length = s.off →
        (layoutOne fmt write s md body).1.file.bytes.length =
          (layoutOne fmt write s md body).1.off) ∧
      DescLaidOut fmt (layoutOne fmt write s md body).1.file.bytes s.off (md, body)
        (layoutOne fmt write s md body).2 := by
  unfold layoutOne
  by_cases hskip : (md.noSave || md.body == .null) = true
  · simp only [if_pos hskip]
    refine ⟨hs, by simp [advance], by simp, fun _ h => h, rfl, ?_⟩
    simpa using hskip
  simp only [if_neg hskip]
  have hn : md.body ≠ .null := fun hn => hskip (by simp [hn])
  obtain ⟨e, -, hkeep, hok⟩ := dumpMicrodescriptorBytes_spec fmt write s.writes (hs ▸ h) hb hn
  have hmd := (dumpMicrodescriptor_spec write s.writes s.file.toOpenFile hn).2.1
  rw [← e] at hmd
  set d := dumpMicrodescriptorBytes fmt write s.writes s.file md body
  have hmd' : d.md = { md with off := d.md.off } := hmd
  cases hd : d.size with
  | none =>
    refine ⟨rfl, by simp [advance], by simpa [hs] using hkeep, fun h => absurd rfl h, ?_⟩
    show microdescWipeBody d.md = microdescWipeBody md
    rw [hmd']
    rfl
  | some size =>
    obtain ⟨ha, hpos, hlen, htake⟩ := hok (by simp [hd])
    have hsize : size = (segment fmt md body).length := by
      have := (dumpMicrodescriptor_spec write s.writes s.file.toOpenFile hn).2.2 size
        (by rw [← e]; exact hd)
      rw [← e] at this
      rw [this.1]
      simp [DumpBytes.toDump, ha, segment, hb]
    have hoff : (if d.file.pos ≠ s.off + size then d.file.pos else s.off + size) =
        s.off + (segment fmt md body).length := by
      split_ifs <;> omega
    have hP : (s.file.bytes.take s.off).length = s.off := by simp; omega
    rw [hs] at hpos hlen htake
    have hseg := take_drop_of_take_eq (F := d.file.bytes) (P := s.file.bytes.take s.off)
      (l := segment fmt md body) (by rw [hP]; exact htake)
    have hbody := take_drop_of_take_eq (F := d.file.bytes)
      (P := s.file.bytes.take s.off ++ annotationBytes fmt md) (l := body) (by
        rw [List.length_append, hP, List.append_assoc, ← segment, ← htake, Nat.add_assoc]
        simp [segment])
    rw [hP] at hseg
    rw [List.length_append, hP, hb] at hbody
    dsimp only
    rw [hoff, hmd', ha]
    refine ⟨by omega, by simp [advance], by simpa using htake, fun _ h => by omega, ?_⟩
    obtain ⟨hno, -⟩ : md.noSave = false ∧ _ := by simpa using hskip
    split_ifs with hsl
    · exact ⟨hno, hn, rfl, rfl, rfl, hseg, hbody⟩
    · exact ⟨hno, hn, not_not.1 hsl, rfl, rfl, hseg, hbody⟩

/-- `DescLaidOut` reads no byte past the end of the descriptor's segment. -/
theorem DescLaidOut.of_take {F G : List UInt8} {start n : Nat} {x : Microdesc × List UInt8}
    {y : Microdesc × DumpOutcome} (hd : DescLaidOut fmt G start x y) (hb : x.2.length = x.1.bodylen)
    (h : G.take n = F.take n) (hn : start + advance fmt x y.2 ≤ n) : DescLaidOut fmt F start x y := by
  obtain ⟨md, body⟩ := x
  obtain ⟨md', _ | _ | _⟩ := y
  · exact hd
  · exact hd
  · obtain ⟨h₀, h₀', h₁, h₂, h₃, h₄, h₅⟩ := hd
    have hn : start + (segment fmt md body).length ≤ n := hn
    have hk : md'.off + md'.bodylen ≤ n := by
      rw [h₃, h₂, ← hb]
      simpa [segment, Nat.add_assoc] using hn
    exact ⟨h₀, h₀', h₁, h₂, h₃, (take_drop_congr h hn).symm.trans h₄,
      (take_drop_congr h hk).symm.trans h₅⟩

theorem length_segment_if (x : Microdesc × List UInt8) (o : DumpOutcome) :
    (if o = .written then segment fmt x.1 x.2 else []).length = advance fmt x o := by
  unfold advance
  split <;> rfl

/-- **The loop refines `rebuildLoop`**: the same final positions and length, and the same
    descriptors and decisions. -/
theorem layoutLoop_refines : ∀ (s : LayoutPass) (ins : List (Microdesc × List UInt8)),
    s.file.pos = s.off → s.off ≤ s.file.bytes.length → (∀ x ∈ ins, x.2.length = x.1.bodylen) →
    ((layoutLoop fmt write s ins).1.toRebuildPass,
        (layoutLoop fmt write s ins).2.map fun y => (y.1, y.2.wrote)) =
      rebuildLoop write s.toRebuildPass (ins.map Prod.fst)
  | _, [], _, _, _ => rfl
  | s, (md, body) :: ins, hs, h, hb => by
    have hb₀ := hb _ (List.mem_cons_self _ _)
    obtain ⟨e, hle⟩ := layoutOne_refines fmt write hs h hb₀
    have hs₁ := (layoutOne_spec fmt write hs h hb₀).1
    have ih := layoutLoop_refines (layoutOne fmt write s md body).1 ins hs₁ (hs₁ ▸ hle)
      fun x hx => hb x (List.mem_cons_of_mem _ hx)
    simp only [layoutLoop, rebuildLoop, List.map_cons, ← e, ← ih]

/-- **The loop, in bytes.** The file keeps its bytes before `off`, then the written segments end
    to end; each descriptor is as `DescLaidOut` says, and a file that ended at `off` ends after
    the last segment unless a dump failed. -/
theorem layoutLoop_spec : ∀ (s : LayoutPass) (ins : List (Microdesc × List UInt8)),
    s.file.pos = s.off → s.off ≤ s.file.bytes.length → (∀ x ∈ ins, x.2.length = x.1.bodylen) →
    (layoutLoop fmt write s ins).1.file.bytes.take
        (s.off + (laidOutBytes fmt ins ((layoutLoop fmt write s ins).2.map Prod.snd)).length) =
      s.file.bytes.take s.off ++ laidOutBytes fmt ins ((layoutLoop fmt write s ins).2.map Prod.snd) ∧
    LaidOut fmt (layoutLoop fmt write s ins).1.file.bytes s.off ins (layoutLoop fmt write s ins).2 ∧
    (DumpOutcome.failed ∉ (layoutLoop fmt write s ins).2.map Prod.snd →
      s.file.bytes.length = s.off →
      (layoutLoop fmt write s ins).1.file.bytes.length =
        s.off + (laidOutBytes fmt ins ((layoutLoop fmt write s ins).2.map Prod.snd)).length)
  | _, [], _, _, _ => ⟨by simp [layoutLoop, laidOutBytes], trivial, fun _ h => by simp [h, layoutLoop, laidOutBytes]⟩
  | s, (md, body) :: ins, hs, h, hb => by
    have hb₀ := hb _ (List.mem_cons_self _ _)
    have hle := (layoutOne_refines fmt write hs h hb₀).2
    obtain ⟨hs₁, hoff, htake, hlen, hd⟩ := layoutOne_spec fmt write hs h hb₀
    set r := layoutOne fmt write s md body
    obtain ⟨ih₁, ih₂, ih₃⟩ := layoutLoop_spec r.1 ins hs₁ (hs₁ ▸ hle)
      fun x hx => hb x (List.mem_cons_of_mem _ hx)
    set F := (layoutLoop fmt write r.1 ins).1.file.bytes
    set L := laidOutBytes fmt ins ((layoutLoop fmt write r.1 ins).2.map Prod.snd)
    have hadv := length_segment_if fmt (md, body) r.2.2
    -- the bytes before the next position are those of the pass
    have hframe : r.1.file.bytes.take r.1.off = F.take r.1.off := by
      have := congrArg (List.take r.1.off) ih₁
      rw [List.take_take, min_eq_left (Nat.le_add_right _ _),
        List.take_left' (by simp; omega)] at this
      exact this.symm
    simp only [layoutLoop, List.map_cons, laidOutBytes, LaidOut, List.mem_cons, not_or]
    refine ⟨?_, ⟨hd.of_take fmt hb₀ hframe (by omega), hoff ▸ ih₂⟩, fun ⟨ho, hos⟩ hl => ?_⟩
    · rw [List.length_append, hadv, ← Nat.add_assoc, ← hoff, ih₁, htake, List.append_assoc]
    · rw [ih₃ hos (hlen (Ne.symm ho) hl), hoff, List.length_append, hadv, Nat.add_assoc]

/-- Pointing the written descriptors' bodies into the new mapping keeps the layout. -/
theorem LaidOut.attach {F : List UInt8} (content : Option TorMmap) :
    ∀ {start ins outs}, LaidOut fmt F start ins outs →
      LaidOut fmt F start ins
        (outs.map fun y => (if y.2 = .written then attachBody content y.1 else y.1, y.2))
  | _, [], [], _ => trivial
  | _, (_, _) :: _, (_, o) :: _, ⟨hd, hl⟩ => by
    refine ⟨?_, by simpa using LaidOut.attach content hl⟩
    cases o with
    | written =>
      obtain ⟨h₀, h₀', h₁, h₂, h₃, h₄, h₅⟩ := hd
      exact ⟨h₀, h₀', by simpa using h₁, by simpa using h₂, by simpa using h₃, h₄,
        by simpa using h₅⟩
    | _ => exact hd

/-- Each written descriptor had a body to save, and the file holds that body at its `off`. -/
theorem LaidOut.written {F : List UInt8} :
    ∀ {start ins outs}, LaidOut fmt F start ins outs → ∀ y ∈ outs, y.2 = .written →
      ∃ x ∈ ins, x.1.noSave = false ∧ x.1.body ≠ .null ∧ y.1.bodylen = x.1.bodylen ∧
        (F.drop y.1.off).take y.1.bodylen = x.2
  | _, [], [], _, _, hy, _ => by cases hy
  | _, x :: _, (_, o) :: _, ⟨hd, hl⟩, y, hy, hw => by
    rcases List.mem_cons.1 hy with rfl | hy
    · cases hw
      obtain ⟨h₀, h₀', -, h₂, -, -, h₅⟩ := hd
      exact ⟨x, List.mem_cons_self _ _, h₀, h₀', h₂, h₅⟩
    · obtain ⟨x', hx', h⟩ := LaidOut.written hl y hy hw
      exact ⟨x', List.mem_cons_of_mem _ hx', h⟩

end Loop

/-! ## The rebuilt cache -/

/-- A body that starts with `"onion-key"`, found in the file at `off`, passes the check made
    after `tor_mmap_file`: it is at least 9 bytes long and the file has `"onion-key"` there. -/
theorem onionKey_of_body {F body : List UInt8} {off len : Nat} (h : (F.drop off).take len = body)
    (hp : asciiBytes "onion-key" <+: body) :
    9 ≤ len ∧ (F.drop off).take 9 = asciiBytes "onion-key" := by
  have hk : (asciiBytes "onion-key").length = 9 := rfl
  have h9 : 9 ≤ len := by
    have := hp.length_le
    rw [← h, List.length_take, hk] at this
    omega
  refine ⟨h9, ?_⟩
  calc (F.drop off).take 9 = ((F.drop off).take len).take 9 := by
        rw [List.take_take, min_eq_left h9]
    _ = asciiBytes "onion-key" := by rw [h, ← hk]; exact (List.prefix_iff_eq_take.1 hp).symm

/-- The bytes of the file `microdesc_cache_rebuild` writes, when it writes one: the loop run on a
    new empty file over the cleaned map, each descriptor with the bytes of its body. -/
def microdescRebuildFile (fmt : IsoTimeFormat) (ops : FileOps) (force liveConsensus : Bool)
    (now : Int) (cache : MdCache) (bodies : List (List UInt8)) : Option (List UInt8) :=
  let c := microdescCacheClean liveConsensus now cache
  if !force && !shouldRebuildMdCache c then none
  else if !ops.startWriting || !ops.finishWriting then none
  else some (layoutLoop fmt ops.write ⟨⟨[], 0⟩, 0, 0⟩ (c.map.zip bodies)).1.file.bytes

/-- What `microdescCacheRebuild_layout` says of a rebuild of the cleaned cache `c`, whose
    descriptors have the body bytes `bodies`, that wrote the file `F` and left the cache `c'`. -/
structure RebuildLayout (fmt : IsoTimeFormat) (c : MdCache) (bodies : List (List UInt8))
    (F : List UInt8) (c' : MdCache) : Prop where
  /-- The new file is mapped, as generation `next_gen`. -/
  content : c'.cacheContent = some ⟨c.nextGen, F.length⟩
  /-- Each descriptor of `c'`, in iteration order, with what the loop did to it: the layout of
      `LaidOut` from offset 0, every written one's body in the new mapping at its `off`, the
      written segments end to end at the start of the file, and with no failed dump nothing
      else. -/
  outcomes : ∃ outs : List (Microdesc × DumpOutcome), c'.map = outs.map Prod.fst ∧
    LaidOut fmt F 0 (c.map.zip bodies) outs ∧
    (∀ y ∈ outs, y.2 = .written → y.1.body = .mapped c.nextGen y.1.off) ∧
    F.take (laidOutBytes fmt (c.map.zip bodies) (outs.map Prod.snd)).length =
      laidOutBytes fmt (c.map.zip bodies) (outs.map Prod.snd) ∧
    (DumpOutcome.failed ∉ outs.map Prod.snd →
      F = laidOutBytes fmt (c.map.zip bodies) (outs.map Prod.snd))

/-- **The layout of the rebuilt cache.** When the file operations succeed and every body written
    starts with `"onion-key"`, `microdesc_cache_rebuild` returns 0 whatever the writes do, writes
    a file exactly when it does not skip, and leaves file and cache as `RebuildLayout` says. -/
theorem microdescCacheRebuild_layout (fmt : IsoTimeFormat) {ops : FileOps}
    {onionKeyAt : Nat → Bool} (hst : ops.startWriting = true) (hfin : ops.finishWriting = true)
    (hmm : ops.mmap = true) (force liveConsensus : Bool) (now : Int) (cache : MdCache)
    (bodies : List (List UInt8))
    (hb : List.Forall₂ (fun md body => body.length = md.bodylen)
      (microdescCacheClean liveConsensus now cache).map bodies)
    (honion : ∀ x ∈ (microdescCacheClean liveConsensus now cache).map.zip bodies,
      x.1.noSave = false → x.1.body ≠ .null → asciiBytes "onion-key" <+: x.2)
    (hkey : ∀ F, microdescRebuildFile fmt ops force liveConsensus now cache bodies = some F →
      ∀ off, onionKeyAt off = decide ((F.drop off).take 9 = asciiBytes "onion-key")) :
    ∃ c', microdescCacheRebuild ops onionKeyAt force liveConsensus now cache = some (0, c') ∧
      ((microdescRebuildFile fmt ops force liveConsensus now cache bodies).isSome =
        (force || shouldRebuildMdCache (microdescCacheClean liveConsensus now cache))) ∧
      ∀ F, microdescRebuildFile fmt ops force liveConsensus now cache bodies = some F →
        RebuildLayout fmt (microdescCacheClean liveConsensus now cache) bodies F c' := by
  unfold microdescRebuildFile at hkey ⊢
  unfold microdescCacheRebuild
  set c := microdescCacheClean liveConsensus now cache
  obtain ⟨hlen, hzip⟩ := List.forall₂_iff_zip.1 hb
  by_cases hskip : (!force && !shouldRebuildMdCache c) = true
  · simp only [if_pos hskip, Option.isSome_none]
    refine ⟨c, rfl, ?_, fun _ h => by cases h⟩
    revert hskip
    cases force <;> simp
  have hforce : (force || shouldRebuildMdCache c) = true := by
    revert hskip
    cases force <;> simp
  simp only [if_neg hskip, hst, hfin, hmm, hforce, Bool.not_true, Bool.false_or, if_false]
    at hkey ⊢
  have hins : ∀ x ∈ c.map.zip bodies, x.2.length = x.1.bodylen := fun _ hx => hzip hx
  have e : _ = rebuildLoop ops.write ⟨⟨0, 0⟩, 0, 0⟩ c.map :=
    (layoutLoop_refines fmt ops.write ⟨⟨[], 0⟩, 0, 0⟩ _ rfl le_rfl hins).trans
      (by rw [List.map_fst_zip _ _ hlen.le]; rfl)
  obtain ⟨h₁, h₂, h₃⟩ := layoutLoop_spec fmt ops.write ⟨⟨[], 0⟩, 0, 0⟩ _ rfl le_rfl hins
  set l := layoutLoop fmt ops.write ⟨⟨[], 0⟩, 0, 0⟩ (c.map.zip bodies)
  -- every written body passes the onion-key check
  have hpass : ((l.2.map fun y => (y.1, y.2.wrote)).any fun p =>
      p.2 && (decide (p.1.bodylen < 9) || !onionKeyAt p.1.off)) = false := by
    rw [List.any_eq_false]
    rintro _ hp
    obtain ⟨⟨md, o⟩, hy, rfl⟩ := List.mem_map.1 hp
    cases o with
    | written =>
      obtain ⟨x, hx, h₀, h₀', -, hbody⟩ := h₂.written fmt _ hy rfl
      obtain ⟨h9, hk⟩ := onionKey_of_body hbody (honion x hx h₀ h₀')
      simp [DumpOutcome.wrote, hkey _ rfl, hk, Nat.not_lt.2 h9]
    | _ => simp [DumpOutcome.wrote]
  rw [← e]
  simp only [torMmapFile, ↓reduceIte, Option.isNone_some, Bool.false_and, Bool.false_eq_true,
    hpass, Option.isSome_some, true_and]
  refine ⟨_, rfl, fun F hF => ?_⟩
  cases hF
  set outs := l.2.map fun y =>
    (if y.2 = .written then attachBody (some ⟨c.nextGen, l.1.file.bytes.length⟩) y.1 else y.1, y.2)
  have hsnd : outs.map Prod.snd = l.2.map Prod.snd := by simp [outs]
  simp only [Nat.zero_add, List.take_zero, List.nil_append] at h₁ h₃
  refine ⟨rfl, outs, ?_, h₂.attach fmt _, fun y hy hw => ?_, by rw [hsnd]; exact h₁,
    fun hf => ?_⟩
  · simp only [List.map_map, outs]
    congr 1
    funext y
    rcases y with ⟨_, _ | _ | _⟩ <;> rfl
  · simp only [outs, List.mem_map] at hy
    obtain ⟨y, -, rfl⟩ := hy
    simp only at hw
    simp [hw, attachBody]
  · rw [hsnd] at hf ⊢
    rw [← h₁, List.take_of_length_le (h₃ hf rfl).le]

/-- A time format writing `ISO_TIME_LEN` zero digits. -/
def zeroTimeFormat : IsoTimeFormat :=
  ⟨fun _ => List.replicate ISO_TIME_LEN 48, fun _ => List.length_replicate _ _⟩

/-- A body that starts as `microdesc_cache_rebuild` expects. -/
def onionKeyBody : List UInt8 := asciiBytes "onion-key\n"

/-- Three descriptors with such bodies: two read from the journal, the second listed at time
    `5`, and one in the old cache file. -/
def threeMdCache : MdCache :=
  ⟨[⟨.heap, 10, 0, .inJournal, false, 0, 1⟩, ⟨.heap, 10, 0, .inJournal, false, 5, 1⟩,
    ⟨.mapped 0 0, 10, 0, .inCache, false, 0, 1⟩], some ⟨0, 10⟩, 0, 0, 1⟩

/-- File operations where the third write, the second descriptor's body after its annotation,
    stops after four bytes. -/
def thirdWriteFails : FileOps := ⟨true, fun k => if k = 2 then .fail 4 else .ok, true, true⟩

/-- The file that rebuild writes: the first and third bodies end to end, then what the third
    left of the second descriptor's annotation, and the four bytes of its body. -/
def threeMdFile : List UInt8 :=
  onionKeyBody ++ onionKeyBody ++ (lastListedAnnotationBytes zeroTimeFormat 5).drop 10 ++
    onionKeyBody.take 4

/-- `fast_memeq (cache_content->data + off, "onion-key", 9)` on that file. -/
def threeMdOnionKeyAt (off : Nat) : Bool :=
  decide ((threeMdFile.drop off).take 9 = asciiBytes "onion-key")

/-- A forced rebuild of `threeMdCache` whose second descriptor's body write fails. -/
theorem microdescCacheRebuild_layout_threeMd :
    ∃ c', microdescCacheRebuild thirdWriteFails threeMdOnionKeyAt true false 0 threeMdCache =
        some (0, c') ∧
      ((microdescRebuildFile zeroTimeFormat thirdWriteFails true false 0 threeMdCache
          (List.replicate 3 onionKeyBody)).isSome =
        (true || shouldRebuildMdCache (microdescCacheClean false 0 threeMdCache))) ∧
      ∀ F, microdescRebuildFile zeroTimeFormat thirdWriteFails true false 0 threeMdCache
          (List.replicate 3 onionKeyBody) = some F →
        RebuildLayout zeroTimeFormat (microdescCacheClean false 0 threeMdCache)
          (List.replicate 3 onionKeyBody) F c' :=
  microdescCacheRebuild_layout zeroTimeFormat rfl rfl rfl true false 0 threeMdCache _
    (.cons rfl (.cons rfl (.cons rfl .nil)))
    (fun x hx _ _ => List.eq_of_mem_replicate (List.of_mem_zip hx).2 ▸ ⟨asciiBytes "\n", rfl⟩)
    (fun F hF _ => by
      obtain rfl : F = threeMdFile := Option.some.inj (hF.symm.trans (by decide))
      rfl)

end TorCore
