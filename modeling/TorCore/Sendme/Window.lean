import Mathlib.Data.List.Basic
import Mathlib.Logic.Function.Basic
import Mathlib.Tactic.Ring

/-!
# `TorCore.Sendme.Window` — fixed-window flow control between two endpoints

With no congestion-control object and no XON/XOFF, each hop of a circuit and each stream on it
runs the original fixed-window protocol. The endpoint that packages DATA decrements its package
windows and stops at zero; the endpoint that delivers DATA decrements its deliver windows and,
whenever one has fallen to `START - INCREMENT` or below, raises it by `INCREMENT` and sends a
SENDME back; the packaging endpoint raises its window by `INCREMENT` on each SENDME, closing the
circuit if that would pass `START_MAX`.

The faithful layer transcribes the window arithmetic of `sendme.c`: the `consider_sending` loops
(`considerSending`, one definition for the circuit and the stream level), the SENDME checks of
`sendme_process_circuit_level_impl` and `sendme_process_stream_level` (`processSendme`), and the
one-cell updates. Over it, `windowStep` is the two endpoints joined by a FIFO link in each
direction, streams indexed by number, stream SENDMEs deferred arbitrarily. `WindowInv` balances
each window against the cells in flight; `sendmeWindow_safe` concludes that no window check
ever closes the circuit and every window stays in bounds.

## Contents
- **Windows.** `WindowParams`, `considerSending`, `processSendme`.
- **The two endpoints.** `WindowState`, `windowStep`, `WindowReachable`.
- **Safety.** `WindowInv`, `windowStep_inv`, `reachable_windowInv`, `sendmeWindow_safe`.
-/

namespace TorCore

/-! ## Windows -/

/-- Modelled from the spec: `CIRCWINDOW_START` = 1000. -/
def CIRCWINDOW_START : Int := 1000
/-- Modelled from the spec: `CIRCWINDOW_INCREMENT` = 100. -/
def CIRCWINDOW_INCREMENT : Int := 100
/-- Modelled from the spec: `STREAMWINDOW_START` = 500. -/
def STREAMWINDOW_START : Int := 500
/-- Modelled from the spec: `STREAMWINDOW_INCREMENT` = 50. -/
def STREAMWINDOW_INCREMENT : Int := 50

/-- The constants of one window level: `*WINDOW_START`, `*WINDOW_INCREMENT` (also the receiver's
    sendme increment) and `*WINDOW_START_MAX`, which is at least the start. -/
structure WindowParams where
  start : Int
  increment : Int
  startMax : Int
  start_nonneg : 0 ≤ start
  increment_pos : 0 < increment
  start_le_max : start ≤ startMax

/-- The loop of `sendme_circuit_consider_sending` and `sendme_connection_edge_consider_sending`:
    while the deliver window is at most `start - increment`, raise it by `increment` and send a
    SENDME. Returns the window afterwards and the number of SENDMEs sent. -/
def considerSending (p : WindowParams) (deliverWindow : Int) : Int × Nat :=
  if deliverWindow ≤ p.start - p.increment then
    let r := considerSending p (deliverWindow + p.increment)
    (r.1, r.2 + 1)
  else (deliverWindow, 0)
termination_by (p.start - deliverWindow).toNat
decreasing_by have := p.increment_pos; omega

/-- `sendme_circuit_consider_sending`, with the receiver's `sendme_inc` the circuit's increment. -/
def sendmeCircuitConsiderSending (circ : WindowParams) (deliverWindow : Int) : Int × Nat :=
  considerSending circ deliverWindow

/-- The loop of `sendme_connection_edge_consider_sending`. -/
def sendmeConnectionEdgeConsiderSending (strm : WindowParams) (deliverWindow : Int) :
    Int × Nat :=
  considerSending strm deliverWindow

/-- A received SENDME under the fixed algorithm: the package window raised by the increment, or
    `none` (`-END_CIRC_REASON_TORPROTOCOL`) when that would pass `START_MAX`. -/
def processSendme (p : WindowParams) (packageWindow : Int) : Option Int :=
  if packageWindow + p.increment > p.startMax then none else some (packageWindow + p.increment)

/-- A SENDME the window takes raises it by the increment, to `START_MAX` at most. -/
theorem processSendme_eq_some {p : WindowParams} {w w' : Int} (h : processSendme p w = some w') :
    w' = w + p.increment ∧ w' ≤ p.startMax := by
  unfold processSendme at h
  split_ifs at h with hw
  cases h
  exact ⟨rfl, not_lt.1 hw⟩

/-- `sendme_process_circuit_level_impl`. -/
def sendmeProcessCircuitLevelImpl (circ : WindowParams) (packageWindow : Int) : Option Int :=
  processSendme circ packageWindow

/-- `sendme_process_stream_level`. -/
def sendmeProcessStreamLevel (strm : WindowParams) (packageWindow : Int) : Option Int :=
  processSendme strm packageWindow

/-- `sendme_note_circuit_data_packaged` and `sendme_note_stream_data_packaged`: the package window
    after one DATA cell. -/
def sendmeNoteDataPackaged (packageWindow : Int) : Int := packageWindow - 1

/-- `sendme_circuit_data_received` and `sendme_stream_data_received`: the deliver window after one
    DATA cell. -/
def sendmeDataReceived (deliverWindow : Int) : Int := deliverWindow - 1

/-- **What the loop does**: it sends `k` SENDMEs for `k` increments, and it never raises a window
    past the start. -/
theorem considerSending_spec (p : WindowParams) (deliverWindow : Int) :
    (considerSending p deliverWindow).1 =
        deliverWindow + (considerSending p deliverWindow).2 * p.increment ∧
      (deliverWindow ≤ p.start → (considerSending p deliverWindow).1 ≤ p.start) := by
  induction deliverWindow using considerSending.induct p with
  | case1 d h ih =>
    rw [considerSending, if_pos h]
    dsimp only
    refine ⟨by rw [ih.1]; push_cast; ring, fun _ => ih.2 (by omega)⟩
  | case2 d h =>
    rw [considerSending, if_neg h]
    simp

/-! ## The two endpoints -/

/-- A SENDME on its way back to the packaging endpoint. -/
inductive SendmeMsg where
  /-- A circuit-level SENDME (stream id 0). -/
  | circuit
  /-- A stream-level SENDME for stream `id`. -/
  | stream (id : Nat)
  deriving DecidableEq

/-- The windows of one hop at both endpoints, and the two links between them: the DATA cells in
    flight (by stream) and the SENDMEs in flight, each in order. -/
structure WindowState where
  circPackage : Int
  streamPackage : Nat → Int
  circDeliver : Int
  streamDeliver : Nat → Int
  dataInFlight : List Nat
  sendmesInFlight : List SendmeMsg

/-- Every window at its start, nothing in flight. -/
def WindowState.init (circ strm : WindowParams) : WindowState :=
  ⟨circ.start, fun _ => strm.start, circ.start, fun _ => strm.start, [], []⟩

/-- What can happen next. -/
inductive WindowAction where
  /-- One round of `connection_edge_package_raw_inbuf` on stream `id`. -/
  | package (id : Nat)
  /-- The oldest DATA cell in flight reaches `connection_edge_process_relay_cell`. -/
  | deliverData
  /-- A (deferred) `sendme_connection_edge_consider_sending` on stream `id`. -/
  | considerStream (id : Nat)
  /-- The oldest SENDME in flight is processed. -/
  | deliverSendme

/-- The result of one action: the next state, or a window check closing the circuit. -/
inductive WindowStep where
  | ok (s : WindowState)
  | protocolError

/-- One action of the two endpoints. -/
def windowStep (circ strm : WindowParams) (s : WindowState) : WindowAction → WindowStep
  | .package id =>
    -- `circuit_consider_stop_edge_reading`, then the stream's own window
    if s.circPackage ≤ 0 then .ok s
    else if s.streamPackage id ≤ 0 then .ok s
    else
      let circPackage := sendmeNoteDataPackaged s.circPackage
      if circPackage < 0 then .protocolError
      else .ok { s with
        circPackage := circPackage
        streamPackage := Function.update s.streamPackage id
          (sendmeNoteDataPackaged (s.streamPackage id))
        dataInFlight := s.dataInFlight ++ [id] }
  | .deliverData =>
    match s.dataInFlight with
    | [] => .ok s
    | id :: rest =>
      let circDeliver := sendmeDataReceived s.circDeliver
      if circDeliver < 0 then .protocolError
      else
        let sent := sendmeCircuitConsiderSending circ circDeliver
        let streamDeliver := sendmeDataReceived (s.streamDeliver id)
        if streamDeliver < 0 then .protocolError
        else .ok { s with
          circDeliver := sent.1
          streamDeliver := Function.update s.streamDeliver id streamDeliver
          dataInFlight := rest
          sendmesInFlight := s.sendmesInFlight ++ List.replicate sent.2 .circuit }
  | .considerStream id =>
    let sent := sendmeConnectionEdgeConsiderSending strm (s.streamDeliver id)
    .ok { s with
      streamDeliver := Function.update s.streamDeliver id sent.1
      sendmesInFlight := s.sendmesInFlight ++ List.replicate sent.2 (.stream id) }
  | .deliverSendme =>
    match s.sendmesInFlight with
    | [] => .ok s
    | .circuit :: rest =>
      match sendmeProcessCircuitLevelImpl circ s.circPackage with
      | none => .protocolError
      | some p => .ok { s with circPackage := p, sendmesInFlight := rest }
    | .stream id :: rest =>
      match sendmeProcessStreamLevel strm (s.streamPackage id) with
      | none => .protocolError
      | some p => .ok { s with
          streamPackage := Function.update s.streamPackage id p, sendmesInFlight := rest }

/-- The states the two endpoints reach from fresh windows, over every interleaving. -/
inductive WindowReachable (circ strm : WindowParams) : WindowState → Prop where
  | init : WindowReachable circ strm (WindowState.init circ strm)
  | step {s s' : WindowState} {a : WindowAction} :
      WindowReachable circ strm s → windowStep circ strm s a = .ok s' →
        WindowReachable circ strm s'

/-! ## Safety -/

/-- The invariant of the two endpoints: each package window, plus the DATA cells in flight, plus
    an increment for each SENDME in flight, is the matching deliver window; package windows are
    never negative and deliver windows never above the start. -/
structure WindowInv (circ strm : WindowParams) (s : WindowState) : Prop where
  circ_balance : s.circPackage + s.dataInFlight.length +
    (s.sendmesInFlight.count .circuit : Int) * circ.increment = s.circDeliver
  circ_package_nonneg : 0 ≤ s.circPackage
  circ_deliver_le : s.circDeliver ≤ circ.start
  stream_balance : ∀ id, s.streamPackage id + s.dataInFlight.count id +
    (s.sendmesInFlight.count (.stream id) : Int) * strm.increment = s.streamDeliver id
  stream_package_nonneg : ∀ id, 0 ≤ s.streamPackage id
  stream_deliver_le : ∀ id, s.streamDeliver id ≤ strm.start

theorem windowInv_init (circ strm : WindowParams) :
    WindowInv circ strm (WindowState.init circ strm) where
  circ_balance := by simp [WindowState.init]
  circ_package_nonneg := circ.start_nonneg
  circ_deliver_le := le_refl _
  stream_balance _ := by simp [WindowState.init]
  stream_package_nonneg _ := strm.start_nonneg
  stream_deliver_le _ := le_refl _

section Step

variable {circ strm : WindowParams} {s : WindowState}

/-- Packaging never drives a package window below zero. -/
theorem windowStep_package (hi : WindowInv circ strm s) (id : Nat) :
    ∃ s', windowStep circ strm s (.package id) = .ok s' ∧ WindowInv circ strm s' := by
  by_cases hc : s.circPackage ≤ 0
  · exact ⟨s, by simp [windowStep, hc], hi⟩
  by_cases hst : s.streamPackage id ≤ 0
  · exact ⟨s, by simp [windowStep, hc, hst], hi⟩
  refine ⟨_, by simp only [windowStep, if_neg hc, if_neg hst, sendmeNoteDataPackaged,
    if_neg (show ¬ s.circPackage - 1 < 0 by omega)]; rfl, ?_⟩
  have hb := hi.circ_balance
  exact {
    circ_balance := by simp only [List.length_append, List.length_singleton]; push_cast; omega
    circ_package_nonneg := by dsimp only; omega
    circ_deliver_le := hi.circ_deliver_le
    stream_balance := fun j => by
      have := hi.stream_balance j
      by_cases hj : j = id
      · subst hj; simp only [Function.update_same, List.count_append, List.count_singleton_self]
        push_cast; omega
      · simpa [Function.update_noteq hj, List.count_singleton', Ne.symm hj] using this
    stream_package_nonneg := fun j => by
      by_cases hj : j = id
      · subst hj; simp only [Function.update_same, sendmeNoteDataPackaged]; omega
      · simp only [Function.update_noteq hj]; exact hi.stream_package_nonneg j
    stream_deliver_le := hi.stream_deliver_le }

/-- Delivering a DATA cell never drives a deliver window below zero, and the SENDMEs the
    circuit-level loop sends keep the balance. -/
theorem windowStep_deliverData (hi : WindowInv circ strm s) :
    ∃ s', windowStep circ strm s .deliverData = .ok s' ∧ WindowInv circ strm s' := by
  rcases hd : s.dataInFlight with _ | ⟨id, rest⟩
  · exact ⟨s, by simp [windowStep, hd], hi⟩
  have hb := hi.circ_balance
  have hsb := hi.stream_balance id
  rw [hd] at hb hsb
  simp only [List.length_cons, List.count_cons_self] at hb hsb
  push_cast at hb hsb
  have hB : 0 ≤ (s.sendmesInFlight.count .circuit : Int) * circ.increment :=
    Int.mul_nonneg (Int.natCast_nonneg _) circ.increment_pos.le
  have hsB : 0 ≤ (s.sendmesInFlight.count (.stream id) : Int) * strm.increment :=
    Int.mul_nonneg (Int.natCast_nonneg _) strm.increment_pos.le
  have := hi.circ_package_nonneg
  have := hi.stream_package_nonneg id
  obtain ⟨hcs, hle⟩ := considerSending_spec circ (sendmeDataReceived s.circDeliver)
  refine ⟨_, by simp only [windowStep, hd, sendmeDataReceived,
    if_neg (show ¬ s.circDeliver - 1 < 0 by omega),
    if_neg (show ¬ s.streamDeliver id - 1 < 0 by omega)]; rfl, ?_⟩
  exact {
    circ_balance := by
      simp only [sendmeDataReceived] at hcs
      simp only [sendmeCircuitConsiderSending, List.count_append, List.count_replicate_self]
      rw [hcs]
      push_cast
      rw [add_mul]
      omega
    circ_package_nonneg := hi.circ_package_nonneg
    circ_deliver_le := hle (by have := hi.circ_deliver_le; simp only [sendmeDataReceived]; omega)
    stream_balance := fun j => by
      have hj' := hi.stream_balance j
      simp only [List.count_append, List.count_replicate, beq_iff_eq, reduceCtorEq, if_false,
        add_zero]
      by_cases hj : j = id
      · subst hj
        simp only [Function.update_same, sendmeDataReceived]
        omega
      · rw [hd] at hj'
        simpa [Function.update_noteq hj, List.count_cons, Ne.symm hj] using hj'
    stream_package_nonneg := hi.stream_package_nonneg
    stream_deliver_le := fun j => by
      by_cases hj : j = id
      · subst hj
        have := hi.stream_deliver_le j
        simp only [Function.update_same, sendmeDataReceived]
        omega
      · simp only [Function.update_noteq hj]
        exact hi.stream_deliver_le j }

/-- A deferred stream-level loop keeps the balance. -/
theorem windowStep_considerStream (hi : WindowInv circ strm s) (id : Nat) :
    ∃ s', windowStep circ strm s (.considerStream id) = .ok s' ∧ WindowInv circ strm s' := by
  obtain ⟨hcs, hle⟩ := considerSending_spec strm (s.streamDeliver id)
  refine ⟨_, rfl, ?_⟩
  exact {
    circ_balance := by simpa [List.count_replicate] using hi.circ_balance
    circ_package_nonneg := hi.circ_package_nonneg
    circ_deliver_le := hi.circ_deliver_le
    stream_balance := fun j => by
      have hj' := hi.stream_balance j
      simp only [List.count_append, List.count_replicate, beq_iff_eq, SendmeMsg.stream.injEq]
      by_cases hj : j = id
      · subst hj
        simp only [Function.update_same, if_true, sendmeConnectionEdgeConsiderSending, hcs]
        push_cast
        rw [add_mul]
        omega
      · simpa [Function.update_noteq hj, Ne.symm hj] using hj'
    stream_package_nonneg := hi.stream_package_nonneg
    stream_deliver_le := fun j => by
      by_cases hj : j = id
      · subst hj
        simpa [sendmeConnectionEdgeConsiderSending] using hle (hi.stream_deliver_le j)
      · simpa [Function.update_noteq hj] using hi.stream_deliver_le j }

/-- A SENDME never pushes a package window past `START_MAX`: the window it raises was at least
    an increment short of its deliver window. -/
theorem windowStep_deliverSendme (hi : WindowInv circ strm s) :
    ∃ s', windowStep circ strm s .deliverSendme = .ok s' ∧ WindowInv circ strm s' := by
  rcases hm : s.sendmesInFlight with _ | ⟨_ | id, rest⟩
  · exact ⟨s, by simp [windowStep, hm], hi⟩
  · have hb := hi.circ_balance
    rw [hm, List.count_cons_self] at hb
    push_cast at hb
    rw [add_mul] at hb
    have : 0 ≤ (rest.count .circuit : Int) * circ.increment :=
      Int.mul_nonneg (Int.natCast_nonneg _) circ.increment_pos.le
    have := hi.circ_deliver_le
    have := circ.start_le_max
    refine ⟨_, by simp only [windowStep, hm, sendmeProcessCircuitLevelImpl, processSendme,
      if_neg (show ¬ s.circPackage + circ.increment > circ.startMax by omega)]; rfl, ?_⟩
    exact {
      circ_balance := by dsimp only; omega
      circ_package_nonneg := by
        have := hi.circ_package_nonneg
        have := circ.increment_pos
        dsimp only
        omega
      circ_deliver_le := hi.circ_deliver_le
      stream_balance := fun j => by
        have hj := hi.stream_balance j
        rw [hm] at hj
        simpa [List.count_cons] using hj
      stream_package_nonneg := hi.stream_package_nonneg
      stream_deliver_le := hi.stream_deliver_le }
  · have hb := hi.stream_balance id
    rw [hm, List.count_cons_self] at hb
    push_cast at hb
    rw [add_mul] at hb
    have : 0 ≤ (rest.count (.stream id) : Int) * strm.increment :=
      Int.mul_nonneg (Int.natCast_nonneg _) strm.increment_pos.le
    have := hi.stream_deliver_le id
    have := strm.start_le_max
    refine ⟨_, by simp only [windowStep, hm, sendmeProcessStreamLevel, processSendme,
      if_neg (show ¬ s.streamPackage id + strm.increment > strm.startMax by omega)]; rfl, ?_⟩
    exact {
      circ_balance := by
        have hc := hi.circ_balance
        rw [hm] at hc
        simpa [List.count_cons] using hc
      circ_package_nonneg := hi.circ_package_nonneg
      circ_deliver_le := hi.circ_deliver_le
      stream_balance := fun j => by
        have hj' := hi.stream_balance j
        by_cases hj : j = id
        · subst hj
          simp only [Function.update_same]
          omega
        · rw [hm] at hj'
          simpa [Function.update_noteq hj, List.count_cons, Ne.symm hj] using hj'
      stream_package_nonneg := fun j => by
        by_cases hj : j = id
        · subst hj
          have := hi.stream_package_nonneg j
          have := strm.increment_pos
          simp only [Function.update_same]
          omega
        · simpa [Function.update_noteq hj] using hi.stream_package_nonneg j
      stream_deliver_le := hi.stream_deliver_le }

/-- **From a state satisfying the invariant, every action succeeds and keeps it.** -/
theorem windowStep_inv (hi : WindowInv circ strm s) :
    ∀ a, ∃ s', windowStep circ strm s a = .ok s' ∧ WindowInv circ strm s'
  | .package id => windowStep_package hi id
  | .deliverData => windowStep_deliverData hi
  | .considerStream id => windowStep_considerStream hi id
  | .deliverSendme => windowStep_deliverSendme hi

end Step

/-- The invariant holds in every reachable state. -/
theorem reachable_windowInv {circ strm : WindowParams} {s : WindowState}
    (h : WindowReachable circ strm s) : WindowInv circ strm s := by
  induction h with
  | init => exact windowInv_init circ strm
  | @step s s' a _ hs ih =>
    obtain ⟨s'', hs'', hi⟩ := windowStep_inv ih a
    obtain rfl : s' = s'' := WindowStep.ok.inj (hs.symm.trans hs'')
    exact hi

/-- **Fixed-window flow control is safe under every interleaving.** From fresh windows no window
    check ever closes the circuit; each package window plus the DATA and SENDMEs in flight is its
    deliver window; package windows stay in `[0, START_MAX]`, deliver windows in `[0, START]`. -/
theorem sendmeWindow_safe {circ strm : WindowParams} {s : WindowState}
    (h : WindowReachable circ strm s) :
    (∀ a, windowStep circ strm s a ≠ .protocolError) ∧
      s.circPackage + s.dataInFlight.length +
          (s.sendmesInFlight.count .circuit : Int) * circ.increment = s.circDeliver ∧
      (∀ id, s.streamPackage id + s.dataInFlight.count id +
          (s.sendmesInFlight.count (.stream id) : Int) * strm.increment = s.streamDeliver id) ∧
      (0 ≤ s.circPackage ∧ s.circPackage ≤ circ.startMax) ∧
      (0 ≤ s.circDeliver ∧ s.circDeliver ≤ circ.start) ∧
      (∀ id, 0 ≤ s.streamPackage id ∧ s.streamPackage id ≤ strm.startMax) ∧
      (∀ id, 0 ≤ s.streamDeliver id ∧ s.streamDeliver id ≤ strm.start) := by
  have hi := reachable_windowInv h
  have hB : 0 ≤ (s.sendmesInFlight.count .circuit : Int) * circ.increment :=
    Int.mul_nonneg (Int.natCast_nonneg _) circ.increment_pos.le
  have := hi.circ_balance
  have := hi.circ_package_nonneg
  have := hi.circ_deliver_le
  have := circ.start_le_max
  refine ⟨fun a => ?_, hi.circ_balance, hi.stream_balance, ⟨by omega, by omega⟩,
    ⟨by omega, by omega⟩, fun id => ?_, fun id => ?_⟩
  · obtain ⟨s', hs, -⟩ := windowStep_inv hi a
    simp [hs]
  all_goals
    have : 0 ≤ (s.sendmesInFlight.count (.stream id) : Int) * strm.increment :=
      Int.mul_nonneg (Int.natCast_nonneg _) strm.increment_pos.le
    have := hi.stream_balance id
    have := hi.stream_package_nonneg id
    have := hi.stream_deliver_le id
    have := strm.start_le_max
    omega

/-- Windows of two cells with an increment of one: a SENDME after every cell. -/
def tinyWindow : WindowParams := ⟨2, 1, 2, by decide, by decide, Int.le_refl _⟩

theorem considerSending_tinyWindow : considerSending tinyWindow (2 - 1) = (2, 1) := by
  rw [considerSending, if_pos (by decide), considerSending, if_neg (by decide)]
  rfl

/-- The windows of `tinyWindow` once stream 1 has packaged a cell and the other end has delivered
    it and run the stream-level loop: a circuit-level SENDME and one for stream 1 in flight. -/
def tinySendmes : WindowState where
  circPackage := 1
  streamPackage := Function.update (fun _ => 2) 1 1
  circDeliver := 2
  streamDeliver := Function.update (Function.update (fun _ => 2) 1 1) 1 2
  dataInFlight := []
  sendmesInFlight := [.circuit, .stream 1]

theorem tinySendmes_reachable : WindowReachable tinyWindow tinyWindow tinySendmes := by
  have h₁ : windowStep tinyWindow tinyWindow (WindowState.init tinyWindow tinyWindow)
      (.package 1) = .ok ⟨1, Function.update (fun _ => 2) 1 1, 2, fun _ => 2, [1], []⟩ := rfl
  have h₂ : windowStep tinyWindow tinyWindow ⟨1, Function.update (fun _ => 2) 1 1, 2, fun _ => 2,
      [1], []⟩ .deliverData = .ok ⟨1, Function.update (fun _ => 2) 1 1, 2,
        Function.update (fun _ => 2) 1 1, [], [.circuit]⟩ := by
    simp only [windowStep, sendmeDataReceived, sendmeCircuitConsiderSending,
      considerSending_tinyWindow]
    rfl
  have h₃ : windowStep tinyWindow tinyWindow ⟨1, Function.update (fun _ => 2) 1 1, 2,
      Function.update (fun _ => 2) 1 1, [], [.circuit]⟩ (.considerStream 1) = .ok tinySendmes := by
    simp only [windowStep, sendmeConnectionEdgeConsiderSending, Function.update_same]
    rw [show considerSending tinyWindow 1 = (2, 1) from considerSending_tinyWindow]
    rfl
  exact .step (.step (.step .init h₁) h₂) h₃

/-- `tinySendmes` once stream 1 has packaged a second cell: both package windows at zero, a DATA
    cell on one link and two SENDMEs on the other. -/
def tinyInFlight : WindowState :=
  { tinySendmes with
    circPackage := 0
    streamPackage := Function.update tinySendmes.streamPackage 1 0
    dataInFlight := [1] }

/-- With a DATA cell and two SENDMEs in flight under `tinyWindow`, the windows are safe and
    balanced. -/
theorem sendmeWindow_safe_tinyInFlight :
    WindowReachable tinyWindow tinyWindow tinyInFlight ∧ tinyInFlight.dataInFlight = [1] ∧
      tinyInFlight.sendmesInFlight = [.circuit, .stream 1] ∧
      ((∀ a, windowStep tinyWindow tinyWindow tinyInFlight a ≠ .protocolError) ∧
        tinyInFlight.circPackage + tinyInFlight.dataInFlight.length +
            (tinyInFlight.sendmesInFlight.count .circuit : Int) * tinyWindow.increment =
          tinyInFlight.circDeliver ∧
        (∀ id, tinyInFlight.streamPackage id + tinyInFlight.dataInFlight.count id +
            (tinyInFlight.sendmesInFlight.count (.stream id) : Int) * tinyWindow.increment =
          tinyInFlight.streamDeliver id) ∧
        (0 ≤ tinyInFlight.circPackage ∧ tinyInFlight.circPackage ≤ tinyWindow.startMax) ∧
        (0 ≤ tinyInFlight.circDeliver ∧ tinyInFlight.circDeliver ≤ tinyWindow.start) ∧
        (∀ id, 0 ≤ tinyInFlight.streamPackage id ∧
          tinyInFlight.streamPackage id ≤ tinyWindow.startMax) ∧
        (∀ id, 0 ≤ tinyInFlight.streamDeliver id ∧
          tinyInFlight.streamDeliver id ≤ tinyWindow.start)) :=
  have h : WindowReachable tinyWindow tinyWindow tinyInFlight := .step tinySendmes_reachable
    (a := .package 1) (by simp only [windowStep, tinySendmes, tinyInFlight, sendmeNoteDataPackaged]; rfl)
  ⟨h, rfl, rfl, sendmeWindow_safe h⟩

/-- The spec's window sizes, with `START_MAX` at the start. -/
def specCircWindow : WindowParams :=
  ⟨CIRCWINDOW_START, CIRCWINDOW_INCREMENT, CIRCWINDOW_START, by decide, by decide,
    Int.le_refl _⟩

/-- The spec's stream window sizes, with `START_MAX` at the start. -/
def specStreamWindow : WindowParams :=
  ⟨STREAMWINDOW_START, STREAMWINDOW_INCREMENT, STREAMWINDOW_START, by decide, by decide,
    Int.le_refl _⟩

end TorCore
