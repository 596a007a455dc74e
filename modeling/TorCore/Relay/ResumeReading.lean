import TorCore.Relay.PackageInbuf
import TorCore.Sendme.Window
import TorCore.Client.PathBias
import Mathlib.Algebra.BigOperators.Group.List

/-!
# `TorCore.Relay.ResumeReading` — sharing the package window among a circuit's streams

When a circuit-level SENDME opens the package window, `process_sendme_cell` calls
`circuit_resume_edge_reading`, whose helper lets the circuit's streams package again. It counts
the streams with bytes on their inbuf, shares the smaller of the package window and the room left
below the cell queue's high-water mark among them (`CEIL_DIV`), and calls
`connection_edge_package_raw_inbuf` on each stream with that share as `*max_cells`; it goes round
again (`goto again`) while a round packaged something, stayed below its budget, and left streams
with data. A stream-level SENDME packages its own stream, with no budget.

The rounds are `resumeRoundLoop` (one round over the list) and `resumeRounds` (the `goto`), whose
fuel, the bytes waiting on all the streams plus one, always suffices: a round that goes on has
packaged a cell, and every cell takes at least one byte (`Relay.PackageInbuf`'s `Takes`).

The helper draws a stream at random and starts reading from it, so that the streams late in the
list are not starved; the packaging rounds still start at the first stream, and the draw changes
only the order in which `connection_start_reading` is called. Those calls are kept, by position
in the list (`circuitResumeEdgeReadingHelperStarts`); what reading then does, and
`connection_stop_reading`, are left out, as in `Relay.PackageInbuf`, and so is conflux. What the
helper learns from elsewhere is an argument (`ResumeEnv`, and the draws of
`crypto_fast_rng_one_in_n`).

## Contents
- **The code.** `ResumeStream`, `ResumeEnv`, `ceilDiv`, `chooseStream`, `startReadingLoops`,
  `resumeRoundLoop`, `resumeRounds`, `circuitResumeEdgeReadingHelper` and its
  `connection_start_reading` calls, `circuitResumeEdgeReading`, `processSendmeCell`.
- **What a run keeps.** `Keeps`: the circuit's congestion-control flag, its fixed window at zero
  or more and never growing, the bytes waiting never growing, the stream windows within any
  bounds; `resumeRoundLoop_spec` for one round, `resumeRounds_spec` for the rounds.
- **The helper.** `circuitResumeEdgeReadingHelper_keeps`: it returns from every state, and keeps
  what `Keeps` says; `circuitResumeEdgeReadingHelper_draws`: the random draw changes nothing but
  the order of the `connection_start_reading` calls, one on each stream that can read.
- **SENDMEs.** `PackageBounds`; `processSendmeCell_windows`: every SENDME cell returns, and from
  windows within `[0, START_MAX]`, with all the packaging it starts, leaves them there.
-/

namespace TorCore

/-! ## The streams of a circuit, and what the helper learns from elsewhere -/

/-- An edge stream on the circuit's list (`p_streams` at the origin, `n_streams` at the exit),
    with whether `edge_uses_cpath (conn, layer_hint)` holds. -/
structure ResumeStream where
  stream : EdgeStream
  usesCpath : Bool
  deriving DecidableEq, Repr

/-- The bytes waiting on all the streams of a list. -/
def totalWaiting (xs : List ResumeStream) : Nat := (xs.map fun x => x.stream.waiting).sum

/-- Every stream's package window in `[0, hi]`. -/
def StreamWindowsOk (hi : Int) (xs : List ResumeStream) : Prop :=
  ∀ x ∈ xs, 0 ≤ x.stream.packageWindow ∧ x.stream.packageWindow ≤ hi

/-- What the rounds learn from elsewhere: `call r j`, the environment of the packaging call on
    the stream at position `j` in round `r` (whose windows the helper also reads around it), the
    high watermark, and the cells queued towards the channel at the start of each round. -/
structure ResumeEnv where
  call : Nat → Nat → PackageEnv
  highwatermark : Int
  cellsOnQueue : Nat → Int

/-! ## The code -/

/-- `CEIL_DIV (a, b)` of `lib/intmath`, on C `int`s: `(a + (b - 1)) / b`, rounding towards
    zero. -/
def ceilDiv (a b : Int) : Int := (a + (b - 1)).tdiv b

/-- The `continue` of the helper's loops: a stream marked for close, or with its package window
    at zero or below. -/
def ResumeStream.skipped (x : ResumeStream) : Bool :=
  x.stream.markedForClose || decide (x.stream.packageWindow ≤ 0)

/-- Whether the loops that start reading call `connection_start_reading` on a stream: one they
    do not skip, on the hop, with no XOFF received. -/
def ResumeStream.startsReading (x : ResumeStream) : Bool :=
  !x.skipped && x.usesCpath && !x.stream.xoffReceived

/-- Whether they count it in `n_packaging_streams`: one they do not skip, on the hop, with bytes on
    its inbuf. -/
def ResumeStream.packaging (x : ResumeStream) : Bool :=
  !x.skipped && x.usesCpath && decide (0 < x.stream.inbuf)

/-- One loop that starts reading, over the streams `xs` numbered from `k`: the positions it calls
    `connection_start_reading` on, in order, and how many streams it counts. -/
def startReadingLoop : Nat → List ResumeStream → List Nat × Nat
  | _, [] => ([], 0)
  | k, x :: xs =>
    let r := startReadingLoop (k + 1) xs
    ((if x.startsReading then [k] else []) ++ r.1, (if x.packaging then 1 else 0) + r.2)

/-- The choice of `chosen_stream`: the stream at position `k` replaces it when its draw of
    `crypto_fast_rng_one_in_n (rng, k + 1)` succeeds; `none` is `NULL`. -/
def chooseStream (oneInN : Nat → Bool) : Nat → List ResumeStream → Option Nat → Option Nat
  | _, [], chosen => chosen
  | k, _ :: xs, chosen => chooseStream oneInN (k + 1) xs (if oneInN k then some k else chosen)

/-- The two loops that start reading: from `chosen_stream` to the end, then from the first stream
    up to `chosen_stream`, which is all of them when it is `NULL`. The `connection_start_reading`
    calls, by position, and `n_packaging_streams`. -/
def startReadingLoops (chosen : Option Nat) (xs : List ResumeStream) : List Nat × Nat :=
  match chosen with
  | some i =>
    let a := startReadingLoop i (xs.drop i)
    let b := startReadingLoop 0 (xs.take i)
    (a.1 ++ b.1, a.2 + b.2)
  | none => startReadingLoop 0 xs

/-- Where one round of the packaging loop leaves things: the circuit and the streams,
    `packaged_this_round`, `n_streams_left`, and whether `circuit_consider_stop_edge_reading` made
    the helper return `-1`. -/
structure ResumeRound where
  circ : EdgeCirc
  streams : List ResumeStream
  packaged : Int
  left : Nat
  stopped : Bool

/-- The packaging loop of round `r` from the stream at position `j`, each stream given
    `cells_per_conn` as `*max_cells`; `none` only if a call runs out of fuel. -/
def resumeRoundLoop (env : ResumeEnv) (r : Nat) (cellsPerConn : Int) :
    Nat → EdgeCirc → List ResumeStream → Option ResumeRound
  | _, circ, [] => some ⟨circ, [], 0, 0, false⟩
  | j, circ, x :: xs =>
    if x.skipped then
      (resumeRoundLoop env r cellsPerConn (j + 1) circ xs).map fun rr =>
        { rr with streams := x :: rr.streams }
    else if x.usesCpath then
      match connectionEdgePackageRawInbuf (env.call r j) circ x.stream true
          (some cellsPerConn) with
      | none => none
      | some res =>
        let packaged := cellsPerConn - res.maxCells.getD cellsPerConn
        if res.ret < 0 then
          -- connection_mark_for_close, and on to the next stream
          (resumeRoundLoop env r cellsPerConn (j + 1) res.circ xs).map fun rr =>
            { rr with
              streams := { x with stream := { res.stream with markedForClose := true } } ::
                rr.streams
              packaged := packaged + rr.packaged }
        else
          let left := if 0 < res.stream.inbuf then 1 else 0
          if circuitConsiderStopEdgeReading (env.call r j) res.cells.length res.circ then
            some ⟨res.circ, { x with stream := res.stream } :: xs, packaged, left, true⟩
          else
            (resumeRoundLoop env r cellsPerConn (j + 1) res.circ xs).map fun rr =>
              { rr with
                streams := { x with stream := res.stream } :: rr.streams
                packaged := packaged + rr.packaged
                left := left + rr.left }
    else
      (resumeRoundLoop env r cellsPerConn (j + 1) circ xs).map fun rr =>
        { rr with streams := x :: rr.streams }

/-- The rounds from the label `again`: round `r`, with `n_packaging_streams` given, while the fuel
    lasts. `max_to_package` is the smaller of `congestion_control_get_package_window` and the room
    below the high-water mark. -/
def resumeRounds (env : ResumeEnv) :
    Nat → Nat → Nat → EdgeCirc → List ResumeStream → Option (Int × EdgeCirc × List ResumeStream)
  | 0, _, _, _, _ => none
  | fuel + 1, r, nPackaging, circ, xs =>
    let window := circuitGetPackageWindow (env.call r 0) 0 circ
    let room := env.highwatermark - env.cellsOnQueue r
    let maxToPackage := if room < window then room else window
    match resumeRoundLoop env r (ceilDiv maxToPackage nPackaging) 0 circ xs with
    | none => none
    | some rr =>
      if rr.stopped then some (-1, rr.circ, rr.streams)
      else if rr.packaged ≠ 0 ∧ rr.packaged < maxToPackage ∧ rr.left ≠ 0 then
        resumeRounds env fuel (r + 1) rr.left rr.circ rr.streams
      else some (0, rr.circ, rr.streams)

/-- `circuit_resume_edge_reading_helper (first_conn, circ, layer_hint)` on the streams `xs`, with
    the draws `oneInN`: its return value, and the circuit and the streams afterwards. -/
def circuitResumeEdgeReadingHelper (env : ResumeEnv) (oneInN : Nat → Bool) (circ : EdgeCirc)
    (xs : List ResumeStream) : Option (Int × EdgeCirc × List ResumeStream) :=
  if xs.isEmpty then some (0, circ, xs)
  else
    let n := (startReadingLoops (chooseStream oneInN 0 xs none) xs).2
    if n = 0 then some (0, circ, xs)
    else resumeRounds env (totalWaiting xs + 1) 0 n circ xs

/-- The `connection_start_reading` calls of `circuit_resume_edge_reading_helper`, by position in
    the list, in the order it makes them. -/
def circuitResumeEdgeReadingHelperStarts (oneInN : Nat → Bool) (xs : List ResumeStream) :
    List Nat :=
  (startReadingLoops (chooseStream oneInN 0 xs none) xs).1

/-- `circuit_resume_edge_reading (circ, layer_hint)`: nothing while the circuit's queue blocks
    its streams (`circuit_queue_streams_are_blocked`), else the helper on the circuit's list. -/
def circuitResumeEdgeReading (env : ResumeEnv) (oneInN : Nat → Bool) (blocked : Bool)
    (circ : EdgeCirc) (xs : List ResumeStream) : Option (EdgeCirc × List ResumeStream) :=
  if blocked then some (circ, xs)
  else (circuitResumeEdgeReadingHelper env oneInN circ xs).map fun r => (r.2.1, r.2.2)

/-- The stream a SENDME names: none (`stream_id` 0, a circuit-level SENDME), the stream at a
    position of the circuit's list, or a stream id with no connection. -/
inductive SendmeCellStream where
  | circuit
  | stream (pos : Nat)
  | unknown

/-- `process_sendme_cell`. A circuit-level SENDME is processed (`valid` from `sendme_is_valid`,
    `ccResult` from the congestion algorithm), then reading resumes; a stream-level one, unless the
    queue blocks, packages the stream's inbuf with no budget, closing the stream on failure. -/
def processSendmeCell (circP strmP : WindowParams) (env : ResumeEnv) (oneInN : Nat → Bool)
    (call : PackageEnv) (valid : Bool) (ccResult : Int) (blocked : Bool)
    (target : SendmeCellStream) (circ : EdgeCirc) (xs : List ResumeStream) :
    Option (Int × EdgeCirc × List ResumeStream) :=
  match target with
  | .circuit =>
    if !valid then some (-END_CIRC_REASON_TORPROTOCOL, circ, xs)
    else if circ.ccontrol then
      if ccResult < 0 then some (ccResult, circ, xs)
      else (circuitResumeEdgeReading env oneInN blocked circ xs).map fun r => (0, r.1, r.2)
    else
      match sendmeProcessCircuitLevelImpl circP circ.packageWindow with
      | none => some (-END_CIRC_REASON_TORPROTOCOL, circ, xs)
      | some w =>
        (circuitResumeEdgeReading env oneInN blocked { circ with packageWindow := w } xs).map
          fun r => (0, r.1, r.2)
  | .stream pos =>
    match xs[pos]? with
    | none => some (0, circ, xs)
    | some x =>
      if x.stream.usesFlowControl then some (-END_CIRC_REASON_TORPROTOCOL, circ, xs)
      else
        match sendmeProcessStreamLevel strmP x.stream.packageWindow with
        | none => some (-END_CIRC_REASON_TORPROTOCOL, circ, xs)
        | some w =>
          let x := { x with stream := { x.stream with packageWindow := w } }
          if blocked then some (0, circ, xs.set pos x)
          else
            match connectionEdgePackageRawInbuf call circ x.stream true none with
            | none => none
            | some res =>
              let s := if res.ret < 0 then { res.stream with markedForClose := true }
                else res.stream
              some (0, res.circ, xs.set pos { x with stream := s })
  | .unknown => some (0, circ, xs)

/-! ## What a run keeps -/

@[simp] theorem totalWaiting_nil : totalWaiting [] = 0 := rfl

@[simp] theorem totalWaiting_cons (x : ResumeStream) (xs : List ResumeStream) :
    totalWaiting (x :: xs) = x.stream.waiting + totalWaiting xs := rfl

theorem streamWindowsOk_cons {hi : Int} {x : ResumeStream} {xs : List ResumeStream} :
    StreamWindowsOk hi (x :: xs) ↔
      (0 ≤ x.stream.packageWindow ∧ x.stream.packageWindow ≤ hi) ∧ StreamWindowsOk hi xs :=
  List.forall_mem_cons

/-- Replacing a stream by one whose window is in bounds keeps every window in bounds. -/
theorem StreamWindowsOk.set {hi : Int} {xs : List ResumeStream} (h : StreamWindowsOk hi xs)
    (pos : Nat) {y : ResumeStream} (hy : 0 ≤ y.stream.packageWindow ∧ y.stream.packageWindow ≤ hi) :
    StreamWindowsOk hi (xs.set pos y) := fun z hz =>
  (List.mem_or_eq_of_mem_set hz).elim (h z) fun e => e ▸ hy

/-- What the helper keeps from `circ`, `xs` to `circ'`, `xs'`: the congestion-control flag; a
    package window that does not grow, and stays at zero or more when fixed; the bytes waiting,
    not growing; and each stream's window within any bounds it was within. -/
structure Keeps (circ : EdgeCirc) (xs : List ResumeStream) (circ' : EdgeCirc)
    (xs' : List ResumeStream) : Prop where
  ccontrol_eq : circ'.ccontrol = circ.ccontrol
  window_le : circ'.packageWindow ≤ circ.packageWindow
  window_nonneg : circ.ccontrol = false → 0 ≤ circ.packageWindow → 0 ≤ circ'.packageWindow
  waiting_le : totalWaiting xs' ≤ totalWaiting xs
  streams_ok : ∀ hi, StreamWindowsOk hi xs → StreamWindowsOk hi xs'

section Keeps

variable {circ circ' circ'' : EdgeCirc} {xs xs' xs'' : List ResumeStream}

theorem Keeps.refl (circ : EdgeCirc) (xs : List ResumeStream) : Keeps circ xs circ xs :=
  ⟨rfl, le_rfl, fun _ h => h, le_rfl, fun _ h => h⟩

theorem Keeps.trans (h₁ : Keeps circ xs circ' xs') (h₂ : Keeps circ' xs' circ'' xs'') :
    Keeps circ xs circ'' xs'' :=
  ⟨h₂.ccontrol_eq.trans h₁.ccontrol_eq, h₂.window_le.trans h₁.window_le,
    fun hc hw => h₂.window_nonneg (h₁.ccontrol_eq.trans hc) (h₁.window_nonneg hc hw),
    h₂.waiting_le.trans h₁.waiting_le, fun hi h => h₂.streams_ok hi (h₁.streams_ok hi h)⟩

/-- A stream left alone at the head of the list. -/
theorem Keeps.cons (x : ResumeStream) (h : Keeps circ xs circ' xs') :
    Keeps circ (x :: xs) circ' (x :: xs') :=
  ⟨h.ccontrol_eq, h.window_le, h.window_nonneg, by simpa using h.waiting_le,
    fun hi hx => streamWindowsOk_cons.2
      ⟨(streamWindowsOk_cons.1 hx).1, h.streams_ok hi (streamWindowsOk_cons.1 hx).2⟩⟩

/-- A call of `connection_edge_package_raw_inbuf` on the stream at the head of the list, which
    becomes `s'`: the stream the call left, marked for close or not. -/
theorem Keeps.call {x : ResumeStream} {maxCells : Option Int} {new : List Nat}
    {res : RawInbufResult} (ht : Takes circ x.stream maxCells new res) (s' : EdgeStream)
    (hw : s'.waiting = res.stream.waiting) (hp : s'.packageWindow = res.stream.packageWindow) :
    Keeps circ (x :: xs) res.circ ({ x with stream := s' } :: xs) where
  ccontrol_eq := ht.ccontrol_eq
  window_le := ht.circ_window_le
  window_nonneg := ht.circ_window_nonneg
  waiting_le := by have := ht.waiting_add; simp only [totalWaiting_cons]; omega
  streams_ok hi h := by
    obtain ⟨⟨h₀, h₁⟩, hxs⟩ := streamWindowsOk_cons.1 h
    exact streamWindowsOk_cons.2 ⟨⟨hp ▸ ht.stream_window_nonneg h₀,
      hp ▸ ht.stream_window_le.trans h₁⟩, hxs⟩

end Keeps

/-- `packaged_this_round` of a call: `*max_cells` before, less what the call left in it. At zero
    or more, and no more than the cells handed over. -/
theorem Takes.packaged_le {circ : EdgeCirc} {s : EdgeStream} {m : Int} {new : List Nat}
    {res : RawInbufResult} (ht : Takes circ s (some m) new res) :
    0 ≤ m - res.maxCells.getD m ∧ m - res.maxCells.getD m ≤ new.sum := by
  obtain ⟨m', hm', h₁, h₂⟩ := ht.budget m rfl
  have := List.length_le_sum_of_one_le new ht.cells_pos
  rw [hm', Option.getD_some]
  omega

/-! ## One round -/

/-- **One round of the packaging loop** returns, its `packaged_this_round` at zero or more and
    paid for in bytes taken off the streams, and keeps what `Keeps` says. -/
theorem resumeRoundLoop_spec (env : ResumeEnv) (r : Nat) (cellsPerConn : Int) :
    ∀ (j : Nat) (circ : EdgeCirc) (xs : List ResumeStream), ∃ rr,
      resumeRoundLoop env r cellsPerConn j circ xs = some rr ∧ 0 ≤ rr.packaged ∧
      (totalWaiting rr.streams : Int) + rr.packaged ≤ totalWaiting xs ∧
      Keeps circ xs rr.circ rr.streams
  | _, circ, [] => ⟨_, rfl, le_rfl, by simp, .refl circ []⟩
  | j, circ, x :: xs => by
    -- a stream the loop passes over
    have pass : ∃ rr, ((resumeRoundLoop env r cellsPerConn (j + 1) circ xs).map fun rr =>
        { rr with streams := x :: rr.streams }) = some rr ∧ 0 ≤ rr.packaged ∧
        (totalWaiting rr.streams : Int) + rr.packaged ≤ totalWaiting (x :: xs) ∧
        Keeps circ (x :: xs) rr.circ rr.streams := by
      obtain ⟨rr, h, h₀, hw, hk⟩ := resumeRoundLoop_spec env r cellsPerConn (j + 1) circ xs
      exact ⟨{ rr with streams := x :: rr.streams }, by rw [h]; rfl, h₀,
        by push_cast [totalWaiting_cons]; omega, hk.cons x⟩
    rw [resumeRoundLoop]
    split_ifs with hsk hcp
    · exact pass
    swap
    · exact pass
    obtain ⟨res, hres, ht⟩ :=
      connectionEdgePackageRawInbuf_takes (env.call r j) circ x.stream true (some cellsPerConn)
    obtain ⟨hp₀, hp₁⟩ := ht.packaged_le
    have hw := ht.waiting_add
    rw [hres]
    dsimp only
    by_cases hret : res.ret < 0
    · -- the call failed: the stream is marked for close
      rw [if_pos hret]
      obtain ⟨rr, h, h₀, hw', hk⟩ := resumeRoundLoop_spec env r cellsPerConn (j + 1) res.circ xs
      have hs : ({ res.stream with markedForClose := true } : EdgeStream).waiting =
          res.stream.waiting := rfl
      refine ⟨{ rr with
          streams := { x with stream := { res.stream with markedForClose := true } } :: rr.streams
          packaged := cellsPerConn - res.maxCells.getD cellsPerConn + rr.packaged },
        by rw [h]; rfl, by dsimp only; omega, ?_,
        (Keeps.call ht { res.stream with markedForClose := true } hs rfl).trans (hk.cons _)⟩
      dsimp only
      push_cast [totalWaiting_cons, hs]
      omega
    rw [if_neg hret]
    by_cases hstop : circuitConsiderStopEdgeReading (env.call r j) res.cells.length res.circ
    · -- the circuit's window is empty: the helper returns
      rw [if_pos hstop]
      exact ⟨_, rfl, hp₀, by push_cast [totalWaiting_cons]; omega, Keeps.call ht _ rfl rfl⟩
    · rw [if_neg hstop]
      obtain ⟨rr, h, h₀, hw', hk⟩ := resumeRoundLoop_spec env r cellsPerConn (j + 1) res.circ xs
      refine ⟨{ rr with
          streams := { x with stream := res.stream } :: rr.streams
          packaged := cellsPerConn - res.maxCells.getD cellsPerConn + rr.packaged
          left := (if 0 < res.stream.inbuf then 1 else 0) + rr.left },
        by rw [h]; rfl, by dsimp only; omega, ?_, (Keeps.call ht _ rfl rfl).trans (hk.cons _)⟩
      dsimp only
      push_cast [totalWaiting_cons]
      omega

/-! ## The rounds and the helper -/

/-- **Some fuel always suffices for the rounds**: more rounds than bytes waiting on all the
    streams. The helper returns `0` or `-1`, and keeps what `Keeps` says. -/
theorem resumeRounds_spec (env : ResumeEnv) : ∀ (fuel r n : Nat) (circ : EdgeCirc)
    (xs : List ResumeStream), totalWaiting xs < fuel → ∃ res,
      resumeRounds env fuel r n circ xs = some res ∧ (res.1 = 0 ∨ res.1 = -1) ∧
      Keeps circ xs res.2.1 res.2.2
  | 0, _, _, _, _, hf => absurd hf (Nat.not_lt_zero _)
  | fuel + 1, r, n, circ, xs, hf => by
    simp only [resumeRounds]
    set maxToPackage := if env.highwatermark - env.cellsOnQueue r <
        circuitGetPackageWindow (env.call r 0) 0 circ then env.highwatermark - env.cellsOnQueue r
      else circuitGetPackageWindow (env.call r 0) 0 circ
    obtain ⟨rr, hrr, h₀, hw, hk⟩ := resumeRoundLoop_spec env r (ceilDiv maxToPackage n) 0 circ xs
    rw [hrr]
    dsimp only
    split_ifs with hs hgo
    · exact ⟨_, rfl, .inr rfl, hk⟩
    · -- a round that goes on packaged a cell, so took a byte
      obtain ⟨hp, -, -⟩ := hgo
      obtain ⟨res, h, hret, hk'⟩ :=
        resumeRounds_spec env fuel (r + 1) rr.left rr.circ rr.streams (by omega)
      exact ⟨res, h, hret, hk.trans hk'⟩
    · exact ⟨_, rfl, .inl rfl, hk⟩

/-- **`circuit_resume_edge_reading_helper` returns**, from every circuit and list of streams and
    whatever it learns from elsewhere, with `0` or `-1`, keeping what `Keeps` says. -/
theorem circuitResumeEdgeReadingHelper_keeps (env : ResumeEnv) (oneInN : Nat → Bool)
    (circ : EdgeCirc) (xs : List ResumeStream) :
    ∃ res, circuitResumeEdgeReadingHelper env oneInN circ xs = some res ∧
      (res.1 = 0 ∨ res.1 = -1) ∧ Keeps circ xs res.2.1 res.2.2 := by
  unfold circuitResumeEdgeReadingHelper
  dsimp only
  split_ifs
  · exact ⟨_, rfl, .inl rfl, .refl circ xs⟩
  · exact ⟨_, rfl, .inl rfl, .refl circ xs⟩
  · exact resumeRounds_spec env _ 0 _ circ xs (Nat.lt_succ_self _)

/-- An exit circuit without congestion control, its package window at 900, with two streams:
    one with 1000 bytes on its inbuf and its window at 450, one with nothing to send. -/
def exitCirc : EdgeCirc := ⟨false, false, 900, ⟨50, false⟩⟩

/-- The streams of `exitCirc`. -/
def exitStreams : List ResumeStream :=
  [⟨⟨false, true, 450, false, false, 1000, none, none⟩, true⟩,
    ⟨⟨false, true, 500, false, false, 0, none, none⟩, true⟩]

/-- Cells of up to 498 bytes, all queued, and room for 256 cells on an empty queue. -/
def exitResumeEnv : ResumeEnv :=
  ⟨fun _ _ => ⟨false, true, 498, fun _ => 0, fun _ => .queued, fun _ => 0⟩, 256, fun _ => 0⟩

/-- The SENDME's packaging on `exitCirc`: three cells off the first stream's 1000 bytes (498,
    498, then the last 4), the second stream's empty inbuf left as it is. -/
example : (circuitResumeEdgeReadingHelper exitResumeEnv (fun _ => true) exitCirc exitStreams).map
    (fun r => (r.1, r.2.1.packageWindow, r.2.2.map fun x => x.stream.inbuf)) =
      some (0, 897, [0, 0]) := by decide

/-! ## Where reading starts -/

/-- A loop over two lists is the loop over the first, then over the second numbered on. -/
theorem startReadingLoop_append : ∀ (k : Nat) (xs ys : List ResumeStream),
    startReadingLoop k (xs ++ ys) = ((startReadingLoop k xs).1 ++
      (startReadingLoop (k + xs.length) ys).1,
      (startReadingLoop k xs).2 + (startReadingLoop (k + xs.length) ys).2)
  | k, [], ys => by simp [startReadingLoop]
  | k, x :: xs, ys => by
    rw [List.cons_append, startReadingLoop, startReadingLoop_append (k + 1) xs ys, startReadingLoop]
    simp only [List.length_cons, List.append_assoc, Nat.add_assoc, Nat.add_comm 1]

/-- The positions a loop from `k` starts reading on are those of the streams that can read. -/
theorem mem_startReadingLoop : ∀ {k : Nat} {xs : List ResumeStream} {i : Nat},
    i ∈ (startReadingLoop k xs).1 ↔ k ≤ i ∧ ∃ x, xs[i - k]? = some x ∧ x.startsReading = true
  | _, [], _ => by simp [startReadingLoop]
  | k, x :: xs, i => by
    simp only [startReadingLoop, List.mem_append, mem_startReadingLoop]
    rcases Nat.lt_trichotomy i k with hi | rfl | hi
    · simp [Nat.not_le.2 hi, Nat.not_le.2 (Nat.lt_succ_of_lt hi), Nat.ne_of_lt hi]
    · simp
    · obtain ⟨d, rfl⟩ := Nat.exists_eq_add_of_lt hi
      simp [Nat.ne_of_gt hi, hi.le, show k + d + 1 - k = d + 1 by omega,
        show k + d + 1 - (k + 1) = d by omega]

/-- A loop calls `connection_start_reading` once on each stream it starts. -/
theorem startReadingLoop_nodup : ∀ (k : Nat) (xs : List ResumeStream),
    (startReadingLoop k xs).1.Nodup
  | _, [] => List.nodup_nil
  | k, x :: xs => by
    simp only [startReadingLoop]
    split
    · exact List.nodup_cons.2 ⟨fun h => by have := (mem_startReadingLoop.1 h).1; omega,
        startReadingLoop_nodup (k + 1) xs⟩
    · exact startReadingLoop_nodup (k + 1) xs

/-- **The two loops are the loop from the first stream, rotated**: the same calls, in another
    order, and the same count, wherever they begin. -/
theorem startReadingLoops_perm (chosen : Option Nat) (xs : List ResumeStream) :
    (startReadingLoops chosen xs).1.Perm (startReadingLoop 0 xs).1 ∧
      (startReadingLoops chosen xs).2 = (startReadingLoop 0 xs).2 := by
  cases chosen with
  | none => exact ⟨List.Perm.refl _, rfl⟩
  | some i =>
    -- the second loop ends where the first began
    have hstart : startReadingLoop i (xs.drop i) =
        startReadingLoop (0 + (xs.take i).length) (xs.drop i) := by
      rcases Nat.lt_or_ge xs.length i with h | h
      · rw [List.drop_eq_nil_of_le h.le]; rfl
      · rw [List.length_take, Nat.zero_add, min_eq_left h]
    rw [show startReadingLoop 0 xs = startReadingLoop 0 (xs.take i ++ xs.drop i) by
      rw [List.take_append_drop], startReadingLoop_append, startReadingLoops, ← hstart]
    dsimp only
    exact ⟨List.perm_append_comm, Nat.add_comm _ _⟩

/-- **The random start changes nothing but the order in which reading starts.** Whatever the
    draw, the helper leaves the same circuit and streams, and calls `connection_start_reading`
    once on each stream it does not skip, on the hop, with no XOFF received. -/
theorem circuitResumeEdgeReadingHelper_draws (env : ResumeEnv) (oneInN oneInN' : Nat → Bool)
    (circ : EdgeCirc) (xs : List ResumeStream) :
    circuitResumeEdgeReadingHelper env oneInN circ xs =
        circuitResumeEdgeReadingHelper env oneInN' circ xs ∧
      (circuitResumeEdgeReadingHelperStarts oneInN xs).Perm
        (circuitResumeEdgeReadingHelperStarts oneInN' xs) ∧
      (circuitResumeEdgeReadingHelperStarts oneInN xs).Nodup ∧
      ∀ i, i ∈ circuitResumeEdgeReadingHelperStarts oneInN xs ↔
        ∃ x, xs[i]? = some x ∧ x.startsReading = true := by
  have h := startReadingLoops_perm (chooseStream oneInN 0 xs none) xs
  have h' := startReadingLoops_perm (chooseStream oneInN' 0 xs none) xs
  refine ⟨by simp only [circuitResumeEdgeReadingHelper, h.2, h'.2], h.1.trans h'.1.symm,
    h.1.nodup_iff.2 (startReadingLoop_nodup 0 xs), fun i => ?_⟩
  rw [circuitResumeEdgeReadingHelperStarts, h.1.mem_iff, mem_startReadingLoop]
  simp

/-- On `exitCirc`, draws that all succeed choose the second stream, so reading starts there. -/
example : circuitResumeEdgeReadingHelperStarts (fun _ => true) exitStreams = [1, 0] := by decide

theorem circuitResumeEdgeReading_keeps (env : ResumeEnv) (oneInN : Nat → Bool) (blocked : Bool)
    (circ : EdgeCirc) (xs : List ResumeStream) :
    ∃ res, circuitResumeEdgeReading env oneInN blocked circ xs = some res ∧
      Keeps circ xs res.1 res.2 := by
  unfold circuitResumeEdgeReading
  split_ifs
  · exact ⟨_, rfl, .refl circ xs⟩
  · obtain ⟨res, h, -, hk⟩ := circuitResumeEdgeReadingHelper_keeps env oneInN circ xs
    exact ⟨_, by rw [h]; rfl, hk⟩

/-! ## SENDMEs -/

/-- The packaging side in bounds: no congestion control, the circuit's package window in
    `[0, START_MAX]` of `circP`, and every stream's in `[0, START_MAX]` of `strmP`. -/
structure PackageBounds (circP strmP : WindowParams) (circ : EdgeCirc) (xs : List ResumeStream) :
    Prop where
  ccontrol : circ.ccontrol = false
  window_nonneg : 0 ≤ circ.packageWindow
  window_le : circ.packageWindow ≤ circP.startMax
  streams : StreamWindowsOk strmP.startMax xs

/-- **Every SENDME returns and keeps the package windows in bounds.** `process_sendme_cell`
    returns on every SENDME cell; from a circuit without congestion control whose windows are in
    bounds, it leaves them in bounds, after all the packaging the SENDME lets the streams do. -/
theorem processSendmeCell_windows (circP strmP : WindowParams) (env : ResumeEnv)
    (oneInN : Nat → Bool) (call : PackageEnv) (valid : Bool) (ccResult : Int) (blocked : Bool)
    (target : SendmeCellStream) (circ : EdgeCirc) (xs : List ResumeStream) :
    ∃ res, processSendmeCell circP strmP env oneInN call valid ccResult blocked target circ xs =
        some res ∧
      (PackageBounds circP strmP circ xs → PackageBounds circP strmP res.2.1 res.2.2) := by
  have same : ∀ r : Int, ∃ res, some (r, circ, xs) = some res ∧
      (PackageBounds circP strmP circ xs → PackageBounds circP strmP res.2.1 res.2.2) :=
    fun _ => ⟨_, rfl, id⟩
  unfold processSendmeCell
  cases target with
  | circuit =>
    dsimp only
    split_ifs with hv hc hr
    · exact same _
    · exact same _
    · -- congestion control: the bounds do not apply
      obtain ⟨res, h, -⟩ := circuitResumeEdgeReading_keeps env oneInN blocked circ xs
      exact ⟨_, by rw [h]; rfl, fun hb => absurd hb.ccontrol (by simp [hc])⟩
    cases hp : sendmeProcessCircuitLevelImpl circP circ.packageWindow with
    | none => exact same _
    | some w =>
      obtain ⟨hw₁, hw₂⟩ := processSendme_eq_some hp
      have := circP.increment_pos
      obtain ⟨res, h, hk⟩ := circuitResumeEdgeReading_keeps env oneInN blocked
        { circ with packageWindow := w } xs
      dsimp only
      rw [h]
      exact ⟨_, rfl, fun hb => ⟨hk.ccontrol_eq.trans hb.ccontrol,
        hk.window_nonneg hb.ccontrol (by have := hb.window_nonneg; dsimp only; omega),
        hk.window_le.trans hw₂,
        hk.streams_ok _ hb.streams⟩⟩
  | stream pos =>
    dsimp only
    cases hx : xs[pos]? with
    | none => exact same _
    | some x =>
      dsimp only
      by_cases hfc : x.stream.usesFlowControl = true
      · rw [if_pos hfc]
        exact same _
      rw [if_neg hfc]
      cases hp : sendmeProcessStreamLevel strmP x.stream.packageWindow with
      | none => exact same _
      | some w =>
        obtain ⟨hw₁, hw₂⟩ := processSendme_eq_some hp
        have := strmP.increment_pos
        have hw : ∀ hb : PackageBounds circP strmP circ xs, 0 ≤ w :=
          fun hb => by have := (hb.streams x (List.getElem?_mem hx)).1; omega
        dsimp only
        by_cases hb : blocked = true
        · rw [if_pos hb]
          exact ⟨_, rfl, fun hbd => ⟨hbd.ccontrol, hbd.window_nonneg, hbd.window_le,
            hbd.streams.set pos ⟨hw hbd, hw₂⟩⟩⟩
        rw [if_neg hb]
        obtain ⟨res, hres, ht⟩ := connectionEdgePackageRawInbuf_takes call circ
          { x.stream with packageWindow := w } true none
        rw [hres]
        refine ⟨_, rfl, fun hbd => ⟨ht.ccontrol_eq.trans hbd.ccontrol,
          ht.circ_window_nonneg hbd.ccontrol hbd.window_nonneg,
          ht.circ_window_le.trans hbd.window_le, hbd.streams.set pos ?_⟩⟩
        have hsw : 0 ≤ res.stream.packageWindow ∧ res.stream.packageWindow ≤ strmP.startMax :=
          ⟨ht.stream_window_nonneg (hw hbd), ht.stream_window_le.trans hw₂⟩
        split_ifs <;> exact hsw
  | unknown => exact same _

end TorCore
