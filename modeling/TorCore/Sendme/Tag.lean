import TorCore.Wire

/-!
# `TorCore.Sendme.Tag` — authenticated SENDMEs: recording tags and checking them

At every cell after which a SENDME is due, the sender records its current sendme tag on the
circuit (`record_cell_digest_on_circ`, which stores a CGO tag zero-padded to the TOR1 length).
`sendme_is_valid` checks an arriving SENDME: it parses the payload, checks the version against
the consensus minimum, determines the tag length the hop expects, then pops the oldest recorded
tag (FIFO) and, for a version-1 SENDME, compares the tag the SENDME carries with it.

The trunnel codec of `sendme_cell_t` is not part of the sources: it is a parameter
(`SendmeCodec`) with the round trip the code relies on, as is the tag length the hop's relay
crypto reports.

## Contents
- **Recording.** `storedTag`, `recordCellDigestOnCirc`.
- **Checking.** `cellVersionCanBeHandled`, `cellV1IsValid`, `sendmePreCheck`, `sendmeIsValid`,
  and `buildCellPayloadV1`.
- **Runs.** `tagStep` over any interleaving of recordings and SENDMEs, with the logs of every
  tag recorded and popped; `reachable_tagInv` says the popped log followed by the pending tags
  is the recorded log.
- **FIFO.** `TagFifo` and `sendmeTag_fifo`.
-/

namespace TorCore

/-! ## Recording -/

/-- Modelled from the spec: `SENDME_TAG_LEN_TOR1`, the legacy tag length ("20 bytes legacy"). -/
def SENDME_TAG_LEN_TOR1 : Nat := 20
/-- Modelled from the spec: `SENDME_TAG_LEN_CGO` ("16 bytes CGO"). -/
def SENDME_TAG_LEN_CGO : Nat := 16

/-- `tag_len_ok`. -/
def tagLenOk (tagLen : Nat) : Bool :=
  tagLen = SENDME_TAG_LEN_CGO ∨ tagLen = SENDME_TAG_LEN_TOR1

/-- The tag `record_cell_digest_on_circ` allocates for the `tag_len` bytes at `sendme_tag`: a CGO
    tag copied into `SENDME_TAG_LEN_TOR1` zeroed bytes, a TOR1 tag duplicated, and `none` where
    the source reaches `tor_assert_unreached`. -/
def storedTag (sendmeTag : List UInt8) : Option (List UInt8) :=
  if sendmeTag.length = SENDME_TAG_LEN_CGO then
    some (sendmeTag ++ List.replicate (SENDME_TAG_LEN_TOR1 - SENDME_TAG_LEN_CGO) 0)
  else if sendmeTag.length = SENDME_TAG_LEN_TOR1 then some sendmeTag
  else none

/-- `record_cell_digest_on_circ`: the stored tag goes at the end of `sendme_last_digests`. -/
def recordCellDigestOnCirc (digests : List (List UInt8)) (sendmeTag : List UInt8) :
    Option (List (List UInt8)) :=
  (storedTag sendmeTag).map fun tag => digests ++ [tag]

/-- A stored tag is the recorded one followed by zeros, `SENDME_TAG_LEN_TOR1` bytes long. -/
theorem storedTag_eq {sendmeTag tag : List UInt8} (h : storedTag sendmeTag = some tag) :
    tag = sendmeTag ++ List.replicate (SENDME_TAG_LEN_TOR1 - sendmeTag.length) 0 ∧
      tag.length = SENDME_TAG_LEN_TOR1 := by
  unfold storedTag at h
  split_ifs at h with hc ht <;> simp only [Option.some.injEq] at h <;> subst h
  · simp [hc, SENDME_TAG_LEN_TOR1, SENDME_TAG_LEN_CGO]
  · simp [ht]

/-! ## Checking -/

/-- Modelled from the spec: `SENDME_MAX_SUPPORTED_VERSION` (versions 0 and 1 exist). -/
def SENDME_MAX_SUPPORTED_VERSION : Nat := 1

/-- A decoded `sendme_cell_t`: its version, its `data_len` field and its `v1_digest` bytes. -/
structure SendmeCell where
  version : UInt8
  dataLen : Nat
  v1Digest : List UInt8
  deriving DecidableEq

/-- The trunnel codec of `sendme_cell_t`: `sendme_cell_parse`, and `sendme_cell_encode` into
    `RELAY_PAYLOAD_SIZE_MAX` bytes. An encoding is never empty and parses back. -/
structure SendmeCodec where
  parse : List UInt8 → Option SendmeCell
  encode : SendmeCell → Option (List UInt8)
  parse_encode : ∀ c p, encode c = some p → p ≠ [] ∧ parse p = some c

/-- `cell_version_can_be_handled`, for the consensus's `sendme_accept_min_version`. -/
def cellVersionCanBeHandled (acceptMin : Nat) (cellVersion : UInt8) : Bool :=
  if acceptMin > SENDME_MAX_SUPPORTED_VERSION then false
  else if cellVersion.toNat < acceptMin then false
  else if cellVersion.toNat > SENDME_MAX_SUPPORTED_VERSION then false
  else true

/-- `v1_tag_matches`: `tor_memneq` over the first `tagLen` bytes. -/
def v1TagMatches (circDigest cellTag : List UInt8) (tagLen : Nat) : Bool :=
  circDigest.take tagLen = cellTag.take tagLen

/-- `cell_v1_is_valid`. -/
def cellV1IsValid (cell : SendmeCell) (circDigest : List UInt8) (circDigestLen : Nat) : Bool :=
  let tagLen := cell.dataLen
  if !tagLenOk tagLen then false
  else if cell.v1Digest.length < tagLen then false
  else if tagLen ≠ circDigestLen then false
  else v1TagMatches circDigest cell.v1Digest tagLen

/-- The part of `sendme_is_valid` before the pop: the parsed cell (`none` for an empty version-0
    payload) and the tag length expected, or `none` where it goes to `invalid`; `expected` is
    `relay_crypto_sendme_tag_len` of the hop, `none` when there is none. -/
def sendmePreCheck (codec : SendmeCodec) (acceptMin : Nat) (expected : Option Nat)
    (payload : List UInt8) : Option (Option SendmeCell × Nat) :=
  let parsed : Option (Option SendmeCell) :=
    if payload = [] then some none else (codec.parse payload).map some
  match parsed with
  | none => none
  | some cell =>
    if !cellVersionCanBeHandled acceptMin ((cell.map (·.version)).getD 0) then none
    else expected.map fun expLen => (cell, expLen)

/-- How `sendme_is_valid` ends. -/
inductive SendmeVerdict where
  /-- Invalid before the pop: unparseable, unhandled version, or no expected tag length. -/
  | rejectedBeforePop
  /-- Invalid: there was no recorded tag to pop. -/
  | noDigest
  /-- The oldest recorded tag was popped; the SENDME is valid or not. -/
  | popped (digest : List UInt8) (valid : Bool)
  deriving DecidableEq

/-- What `sendme_is_valid` returns. -/
def SendmeVerdict.accepted : SendmeVerdict → Bool
  | .popped _ valid => valid
  | _ => false

/-- The tag a verdict popped, if any. -/
def SendmeVerdict.poppedDigest : SendmeVerdict → Option (List UInt8)
  | .popped digest _ => some digest
  | _ => none

/-- The check after the pop: by version. -/
def sendmeVersionCheck (cell : Option SendmeCell) (circDigest : List UInt8) (expLen : Nat) :
    Bool :=
  match cell with
  | some c => if c.version = 1 then cellV1IsValid c circDigest expLen else true
  | none => true

/-- `sendme_is_valid`, with the circuit's `sendme_last_digests` afterwards. -/
def sendmeIsValid (codec : SendmeCodec) (acceptMin : Nat) (digests : List (List UInt8))
    (expected : Option Nat) (payload : List UInt8) : SendmeVerdict × List (List UInt8) :=
  match sendmePreCheck codec acceptMin expected payload with
  | none => (.rejectedBeforePop, digests)
  | some (cell, expLen) =>
    match digests with
    | [] => (.noDigest, [])
    | circDigest :: rest => (.popped circDigest (sendmeVersionCheck cell circDigest expLen), rest)

/-- `build_cell_payload_v1`: a version-1 cell carrying the first `tagLen` bytes at `cellTag`. -/
def buildCellPayloadV1 (codec : SendmeCodec) (cellTag : List UInt8) (tagLen : Nat) :
    Option (List UInt8) :=
  codec.encode ⟨1, tagLen, cellTag.take tagLen⟩

/-- **A SENDME that arrives with no tag outstanding is rejected.** -/
theorem sendmeIsValid_nil (codec : SendmeCodec) (acceptMin : Nat) (expected : Option Nat)
    (payload : List UInt8) :
    (sendmeIsValid codec acceptMin [] expected payload).1.accepted = false := by
  unfold sendmeIsValid
  split <;> rfl

/-- **A built version-1 SENDME is accepted exactly when its length is the expected one and its
    tag agrees with the popped tag on that many bytes.** -/
theorem sendmeIsValid_buildCellPayloadV1 {codec : SendmeCodec} {acceptMin : Nat}
    (hmin : acceptMin ≤ SENDME_MAX_SUPPORTED_VERSION) {cellTag : List UInt8} {tagLen : Nat}
    (hlen : tagLenOk tagLen) (htag : tagLen ≤ cellTag.length) {payload : List UInt8}
    (hbuild : buildCellPayloadV1 codec cellTag tagLen = some payload) (expLen : Nat)
    (circDigest : List UInt8) (rest : List (List UInt8)) :
    sendmeIsValid codec acceptMin (circDigest :: rest) (some expLen) payload =
      (.popped circDigest (decide (tagLen = expLen ∧ circDigest.take tagLen = cellTag.take tagLen)),
        rest) := by
  obtain ⟨hne, hparse⟩ := codec.parse_encode _ _ hbuild
  have hv : cellVersionCanBeHandled acceptMin 1 = true := by
    simp only [cellVersionCanBeHandled, SENDME_MAX_SUPPORTED_VERSION] at hmin ⊢
    rw [if_neg (by omega), if_neg (by simp; omega), if_neg (by simp)]
  simp [sendmeIsValid, sendmePreCheck, hne, hparse, hv, sendmeVersionCheck, cellV1IsValid, hlen,
    htag, v1TagMatches, List.take_take]

/-- A SENDME stopped before the pop leaves the tags alone. -/
theorem sendmeIsValid_of_preCheck_none {codec : SendmeCodec} {acceptMin : Nat}
    {expected : Option Nat} {payload : List UInt8}
    (h : sendmePreCheck codec acceptMin expected payload = none) (digests : List (List UInt8)) :
    sendmeIsValid codec acceptMin digests expected payload = (.rejectedBeforePop, digests) := by
  simp [sendmeIsValid, h]

/-- A SENDME past the checks pops the oldest tag and is checked against it. -/
theorem sendmeIsValid_of_preCheck_some {codec : SendmeCodec} {acceptMin : Nat}
    {expected : Option Nat} {payload : List UInt8} {cell : Option SendmeCell} {expLen : Nat}
    (h : sendmePreCheck codec acceptMin expected payload = some (cell, expLen))
    (circDigest : List UInt8) (rest : List (List UInt8)) :
    sendmeIsValid codec acceptMin (circDigest :: rest) expected payload =
      (.popped circDigest (sendmeVersionCheck cell circDigest expLen), rest) := by
  simp [sendmeIsValid, h]

/-- **Nothing is lost or duplicated by a check**: the tag it popped, followed by the tags left, are
    the tags there were. -/
theorem sendmeIsValid_log (codec : SendmeCodec) (acceptMin : Nat) (digests : List (List UInt8))
    (expected : Option Nat) (payload : List UInt8) :
    (sendmeIsValid codec acceptMin digests expected payload).1.poppedDigest.toList ++
      (sendmeIsValid codec acceptMin digests expected payload).2 = digests := by
  unfold sendmeIsValid
  split
  · rfl
  · split <;> rfl

/-! ## Runs -/

/-- A circuit's `sendme_last_digests`, with the logs of every tag stored on it and of every tag
    popped from it. -/
structure TagState where
  digests : List (List UInt8)
  recorded : List (List UInt8)
  popped : List (List UInt8)

/-- An event on the circuit: a tag recorded, or a SENDME checked by `sendme_is_valid`. -/
inductive TagEvent where
  | record (sendmeTag : List UInt8)
  | sendme (expected : Option Nat) (payload : List UInt8)

/-- One event, with the verdict of a SENDME; `none` where a recording fails its assertion. -/
def tagStep (codec : SendmeCodec) (acceptMin : Nat) (s : TagState) :
    TagEvent → Option (TagState × Option SendmeVerdict)
  | .record sendmeTag =>
    (recordCellDigestOnCirc s.digests sendmeTag).map fun digests =>
      (⟨digests, s.recorded ++ (storedTag sendmeTag).toList, s.popped⟩, none)
  | .sendme expected payload =>
    let r := sendmeIsValid codec acceptMin s.digests expected payload
    some (⟨r.2, s.recorded, s.popped ++ r.1.poppedDigest.toList⟩, some r.1)

/-- The states of a circuit's tags over every interleaving of recordings and SENDMEs. -/
inductive TagReachable (codec : SendmeCodec) (acceptMin : Nat) : TagState → Prop where
  | init : TagReachable codec acceptMin ⟨[], [], []⟩
  | step {s s' : TagState} {e : TagEvent} {v : Option SendmeVerdict} :
      TagReachable codec acceptMin s → tagStep codec acceptMin s e = some (s', v) →
        TagReachable codec acceptMin s'

/-- The invariant of the tags. -/
structure TagInv (s : TagState) : Prop where
  /-- The popped tags followed by the pending ones are the recorded ones. -/
  log : s.recorded = s.popped ++ s.digests
  /-- Every pending tag has the TOR1 length. -/
  padded : ∀ t ∈ s.digests, t.length = SENDME_TAG_LEN_TOR1

theorem tagStep_inv {codec : SendmeCodec} {acceptMin : Nat} {s s' : TagState} {e : TagEvent}
    {v : Option SendmeVerdict} (hi : TagInv s) (h : tagStep codec acceptMin s e = some (s', v)) :
    TagInv s' := by
  cases e with
  | record sendmeTag =>
    rcases ht : storedTag sendmeTag with _ | tag <;>
      simp only [tagStep, recordCellDigestOnCirc, ht, Option.map_none', Option.map_some',
        reduceCtorEq, Option.some.injEq, Prod.mk.injEq] at h
    obtain ⟨rfl, -⟩ := h
    have := (storedTag_eq ht).2
    refine ⟨by simp [hi.log], fun t ht => ?_⟩
    rcases List.mem_append.mp ht with ht | ht
    · exact hi.padded t ht
    · rwa [List.mem_singleton.mp ht]
  | sendme expected payload =>
    simp only [tagStep, Option.some.injEq, Prod.mk.injEq] at h
    obtain ⟨rfl, -⟩ := h
    have hlog := sendmeIsValid_log codec acceptMin s.digests expected payload
    refine ⟨by dsimp only; rw [List.append_assoc, hlog, hi.log], fun t ht => hi.padded t ?_⟩
    rw [← hlog]
    exact List.mem_append_right _ ht

theorem reachable_tagInv {codec : SendmeCodec} {acceptMin : Nat} {s : TagState}
    (h : TagReachable codec acceptMin s) : TagInv s := by
  induction h with
  | init => exact ⟨rfl, by simp⟩
  | step _ hs ih => exact tagStep_inv ih hs

/-! ## FIFO -/

/-- What the tag discipline of one circuit promises, for one codec and one consensus minimum. -/
structure TagFifo (codec : SendmeCodec) (acceptMin : Nat) : Prop where
  /-- Tags leave in the order they were recorded, each at most once: the popped tags followed by
      the pending ones are the recorded ones. -/
  log : ∀ s, TagReachable codec acceptMin s → s.recorded = s.popped ++ s.digests
  /-- A recorded tag is stored at the TOR1 length, a CGO tag followed by zeros. -/
  stored : ∀ sendmeTag tag, storedTag sendmeTag = some tag →
    tag = sendmeTag ++ List.replicate (SENDME_TAG_LEN_TOR1 - sendmeTag.length) 0 ∧
      tag.length = SENDME_TAG_LEN_TOR1
  /-- A SENDME past the parse, the version check and the tag length, version 0 included, pops
      the next recorded tag and is checked against it. -/
  pops_next : ∀ s, TagReachable codec acceptMin s → ∀ expected payload cell expLen,
    sendmePreCheck codec acceptMin expected payload = some (cell, expLen) →
    ∀ d, s.recorded[s.popped.length]? = some d →
      tagStep codec acceptMin s (.sendme expected payload) =
        some (⟨s.digests.tail, s.recorded, s.popped ++ [d]⟩,
          some (.popped d (sendmeVersionCheck cell d expLen)))
  /-- A SENDME stopped before the pop consumes nothing. -/
  keeps_rejected : ∀ s expected payload, sendmePreCheck codec acceptMin expected payload = none →
    tagStep codec acceptMin s (.sendme expected payload) = some (s, some .rejectedBeforePop)
  /-- A SENDME with no tag outstanding is rejected. -/
  no_tag_rejected : ∀ expected payload,
    (sendmeIsValid codec acceptMin [] expected payload).1.accepted = false
  /-- A payload from `build_cell_payload_v1` is accepted exactly when its length is the one the hop
      expects and its tag agrees with the popped tag on that many bytes. -/
  v1_iff : ∀ cellTag tagLen payload expLen d rest, tagLenOk tagLen → tagLen ≤ cellTag.length →
    buildCellPayloadV1 codec cellTag tagLen = some payload →
    sendmeIsValid codec acceptMin (d :: rest) (some expLen) payload =
      (.popped d (decide (tagLen = expLen ∧ d.take tagLen = cellTag.take tagLen)), rest)

/-- **SENDME tag matching is FIFO and authenticating**, for every codec and every consensus
    minimum this code supports. -/
theorem sendmeTag_fifo (codec : SendmeCodec) (acceptMin : Nat)
    (hmin : acceptMin ≤ SENDME_MAX_SUPPORTED_VERSION) : TagFifo codec acceptMin where
  log _ h := (reachable_tagInv h).log
  stored _ _ := storedTag_eq
  pops_next s h expected payload cell expLen hpre d hd := by
    have hlog := (reachable_tagInv h).log
    rw [hlog, List.getElem?_append_right (Nat.le_refl _), Nat.sub_self] at hd
    obtain ⟨rest, hrest⟩ : ∃ rest, s.digests = d :: rest := by
      cases hds : s.digests <;> simp_all
    simp [tagStep, hrest, sendmeIsValid_of_preCheck_some hpre, SendmeVerdict.poppedDigest]
  keeps_rejected s expected payload hpre := by
    simp [tagStep, sendmeIsValid_of_preCheck_none hpre, SendmeVerdict.poppedDigest]
  no_tag_rejected := sendmeIsValid_nil codec acceptMin
  v1_iff _ _ _ expLen d rest hlen htag hbuild :=
    sendmeIsValid_buildCellPayloadV1 hmin hlen htag hbuild expLen d rest

/-- A codec laying a cell out as its version byte, a two-byte `data_len` and the digest bytes. -/
def SendmeCodec.plain : SendmeCodec where
  parse
    | v :: hi :: lo :: rest => some ⟨v, hi.toNat * 256 + lo.toNat, rest⟩
    | _ => none
  encode c := if c.dataLen < 65536 then
      some (c.version :: UInt8.ofNat (c.dataLen / 256) :: UInt8.ofNat c.dataLen :: c.v1Digest)
    else none
  parse_encode c p h := by
    dsimp only at h ⊢
    split_ifs at h with hlt
    simp only [Option.some.injEq] at h
    subst h
    refine ⟨List.cons_ne_nil _ _, ?_⟩
    simp only [Option.some.injEq, UInt8.toNat, UInt8.ofNat, BitVec.toNat_ofNat]
    congr 1
    omega

/-- The FIFO discipline holds with the plain codec and a consensus accepting version 1. -/
theorem sendmeTag_fifo_plain :
    1 ≤ SENDME_MAX_SUPPORTED_VERSION ∧ TagFifo SendmeCodec.plain 1 :=
  ⟨Nat.le_refl 1, sendmeTag_fifo SendmeCodec.plain 1 (Nat.le_refl 1)⟩

end TorCore
