import TorCore.Relay.CellQueue

/-!
# `TorCore.Relay.Backpressure` — queue limits and the `circuit_blocked_on_*_chan` flags

`append_cell_to_circuit_queue` refuses a cell when the queue of its direction already holds
`max_queue_size` cells, and blocks the circuit on the channel (`set_circuit_blocked_on_chan (circ,
chan, 1)`) when the queue reaches `cell_queue_highwatermark ()`. The flush loop of
`channel_flush_from_first_active_circuit` unblocks it when a written cell brings the queue to
`cell_queue_lowwatermark ()` or below. Between the two watermarks the flag keeps its value: a
hysteresis.

This module follows one circuit with everything those functions read and write of it: per
direction, the counter `n` of the queue, the flag of that direction's channel and the count that
channel's circuitmux last recorded (`QueueSide`), and the circuit's mark. The streams that
`set_block_state_for_streams` then starts or stops are not modelled. Every caller appends a cell
for the channel of its direction (`n_chan` outward, `p_chan` inward), and the two channels of a
circuit differ, so `circ->n_chan == chan` holds exactly for the outward channel. The watermarks
are consensus values, fixed for a run.

Every step keeps `SideInv` on both sides of an unmarked circuit: the counter is within the limit,
the flag is set from the high watermark on, the flag is set only above the low watermark, and the
circuitmux records `n`. One lemma per branch of each function says what the branch does; the step
lemmas `bpInv_append` and `bpInv_flush` are case analyses over them, and `reachable_bpInv` an
induction over the run.

## Contents
- **Circuits.** `QueueSide`, `BpCircuit` with `side` and `setSide`.
- **The code.** `setCircuitBlockedOnChan`, `updateCircuitOnCmuxBp`, `oomKillBp`,
  `appendCellToCircuitQueueBp`, `flushPopBp`, each with its branch lemmas.
- **Runs.** `Watermarks`, `BpReachable`, `SideInv`; `bpInv_append`, `bpInv_flush`,
  `reachable_bpInv`, `backpressure_hysteresis`.
- **The queue model.** `Agrees` relates a circuit of `TorCore.Relay.CellQueue` to one here;
  `appendBp_simulates` and `flushPopBp_simulates`: both models of `append_cell_to_circuit_queue`
  return the same value, a flush pass counts a cell in both or in neither, and the circuits after
  agree.
-/

namespace TorCore

/-! ## Circuits -/

/-- One direction of a circuit: the counter `n` of its cell queue, the
    `circuit_blocked_on_*_chan` flag of that direction's channel, and the cell count that
    channel's circuitmux last recorded for the circuit. -/
structure QueueSide where
  n : Nat
  blocked : Bool
  cmuxCells : Nat
  deriving DecidableEq, Repr

/-- A circuit as the queue-limit and back-pressure code sees it: the side toward `n_chan`
    (outward), the side toward `p_chan` (inward), and whether it is marked for close. -/
structure BpCircuit where
  nChanSide : QueueSide
  pChanSide : QueueSide
  markedForClose : Bool
  deriving DecidableEq, Repr

namespace BpCircuit

/-- A new circuit: empty queues, no flag, nothing recorded, not marked. -/
def fresh : BpCircuit := ⟨⟨0, false, 0⟩, ⟨0, false, 0⟩, false⟩

/-- The side of direction `d`. -/
def side (c : BpCircuit) : CellDirection → QueueSide
  | .outward => c.nChanSide
  | .inward => c.pChanSide

/-- Replace the side of direction `d`. -/
def setSide (c : BpCircuit) : CellDirection → QueueSide → BpCircuit
  | .outward, s => { c with nChanSide := s }
  | .inward, s => { c with pChanSide := s }

@[simp] theorem side_setSide_self (c : BpCircuit) (d : CellDirection) (s : QueueSide) :
    (c.setSide d s).side d = s := by
  cases d <;> rfl

@[simp] theorem side_setSide_of_ne (c : BpCircuit) {d e : CellDirection} (s : QueueSide)
    (h : e ≠ d) : (c.setSide d s).side e = c.side e := by
  cases d <;> cases e <;> first | rfl | exact absurd rfl h

@[simp] theorem setSide_markedForClose (c : BpCircuit) (d : CellDirection) (s : QueueSide) :
    (c.setSide d s).markedForClose = c.markedForClose := by
  cases d <;> rfl

@[simp] theorem setSide_side (c : BpCircuit) (d : CellDirection) : c.setSide d (c.side d) = c := by
  cases d <;> rfl

@[simp] theorem side_markedForClose (c : BpCircuit) (b : Bool) (e : CellDirection) :
    { c with markedForClose := b }.side e = c.side e := by
  cases e <;> rfl

@[simp] theorem setSide_setSide (c : BpCircuit) (d : CellDirection) (s s' : QueueSide) :
    (c.setSide d s).setSide d s' = c.setSide d s' := by
  cases d <;> rfl

end BpCircuit

/-! ## The code -/

/-- `set_circuit_blocked_on_chan (circ, chan, block)` for `chan` the channel of direction
    `chanDir`: `circ->n_chan == chan` exactly when `chanDir` is outward. -/
def setCircuitBlockedOnChan (c : BpCircuit) (chanDir : CellDirection) (block : Bool) :
    BpCircuit :=
  if chanDir = .outward then { c with nChanSide := { c.nChanSide with blocked := block } }
  else { c with pChanSide := { c.pChanSide with blocked := block } }

theorem setCircuitBlockedOnChan_eq (c : BpCircuit) (d : CellDirection) (block : Bool) :
    setCircuitBlockedOnChan c d block = c.setSide d { c.side d with blocked := block } := by
  cases d <;> rfl

/-- `update_circuit_on_cmux (circ, direction)`: the circuitmux of the direction's channel records
    the queue's `n`. -/
def updateCircuitOnCmuxBp (c : BpCircuit) (d : CellDirection) : BpCircuit :=
  c.setSide d { c.side d with cmuxCells := (c.side d).n }

/-- The OOM handler on this circuit: marked for close, both queues cleared, the circuitmux left
    alone (as `oomKill` in `TorCore.Relay.CellQueue`). -/
def oomKillBp (c : BpCircuit) : BpCircuit :=
  ⟨{ c.nChanSide with n := 0 }, { c.pChanSide with n := 0 }, true⟩

/-- `append_cell_to_circuit_queue` with `chan` the channel of `direction`: the return value and
    the circuit after. `maxQueueSize d` is the direction's queue limit, `high` the high watermark,
    and `oomMarks` whether the OOM handler of `cell_queues_check_size` marked this circuit. -/
def appendCellToCircuitQueueBp (high : Nat) (maxQueueSize : CellDirection → Nat)
    (oomMarks : Bool) (c : BpCircuit) (d : CellDirection) : Int × BpCircuit :=
  if c.markedForClose then (0, c)
  else
    let circBlocked := (c.side d).blocked
    if maxQueueSize d ≤ (c.side d).n then (-1, c)
    else
      let c1 := c.setSide d { c.side d with n := (c.side d).n + 1 }
      if oomMarks then (0, oomKillBp c1)
      else
        let c2 := if !circBlocked && high ≤ (c1.side d).n then setCircuitBlockedOnChan c1 d true
          else c1
        (1, updateCircuitOnCmuxBp c2 d)

/-- One pass of `channel_flush_from_first_active_circuit` that picked this circuit: whether it
    counted a cell (`++n_flushed`), and the circuit after. `low` is the low watermark and
    `writeOk` whether `channel_write_packed_cell` succeeded. -/
def flushPopBp (low : Nat) (writeOk : Bool) (c : BpCircuit) (chanDir : CellDirection) :
    Bool × BpCircuit :=
  let circBlocked := (c.side chanDir).blocked
  if (c.side chanDir).n = 0 then
    (false, { c.setSide chanDir { c.side chanDir with cmuxCells := 0 } with markedForClose := true })
  else
    let c1 := c.setSide chanDir { c.side chanDir with n := (c.side chanDir).n - 1 }
    if !writeOk then (false, c1)
    else
      let c2 := c1.setSide chanDir { c1.side chanDir with cmuxCells := (c1.side chanDir).n }
      (true, if circBlocked && (c2.side chanDir).n ≤ low then setCircuitBlockedOnChan c2 chanDir false
        else c2)

/-! ### What each branch does -/

section Branches

variable {high low : Nat} {maxQueueSize : CellDirection → Nat} {oomMarks : Bool} {c : BpCircuit}
  {d : CellDirection}

theorem appendBp_of_marked (h : c.markedForClose = true) :
    appendCellToCircuitQueueBp high maxQueueSize oomMarks c d = (0, c) := by
  simp [appendCellToCircuitQueueBp, h]

/-- A full queue refuses the cell and changes nothing. -/
theorem appendBp_of_full (hm : c.markedForClose = false) (h : maxQueueSize d ≤ (c.side d).n) :
    appendCellToCircuitQueueBp high maxQueueSize oomMarks c d = (-1, c) := by
  simp [appendCellToCircuitQueueBp, hm, h]

theorem appendBp_of_oom (hm : c.markedForClose = false) (h : (c.side d).n < maxQueueSize d) :
    appendCellToCircuitQueueBp high maxQueueSize true c d =
      (0, oomKillBp (c.setSide d { c.side d with n := (c.side d).n + 1 })) := by
  simp [appendCellToCircuitQueueBp, hm, not_le.2 h]

/-- An accepted cell: the counter grows, the flag is set from the high watermark on, and the
    circuitmux records the new counter. -/
theorem appendBp_of_ok (hm : c.markedForClose = false) (h : (c.side d).n < maxQueueSize d) :
    appendCellToCircuitQueueBp high maxQueueSize false c d =
      (1, c.setSide d ⟨(c.side d).n + 1, (c.side d).blocked || decide (high ≤ (c.side d).n + 1),
        (c.side d).n + 1⟩) := by
  simp only [appendCellToCircuitQueueBp, hm, Bool.false_eq_true, if_false, not_le.2 h,
    BpCircuit.side_setSide_self]
  cases hb : (c.side d).blocked <;> by_cases hh : high ≤ (c.side d).n + 1 <;>
    simp [hb, hh, setCircuitBlockedOnChan_eq, updateCircuitOnCmuxBp]

/-- An empty queue: the circuitmux records no cell and the circuit is marked for close. -/
theorem flushPopBp_of_zero (h : (c.side d).n = 0) (writeOk : Bool) :
    flushPopBp low writeOk c d =
      (false, { c.setSide d { c.side d with cmuxCells := 0 } with markedForClose := true }) := by
  simp [flushPopBp, h]

/-- A written cell: the counter drops, the circuitmux records it, and the flag is cleared at the
    low watermark or below. -/
theorem flushPopBp_of_pos (h : (c.side d).n ≠ 0) :
    flushPopBp low true c d =
      (true, c.setSide d ⟨(c.side d).n - 1, (c.side d).blocked && !decide ((c.side d).n - 1 ≤ low),
        (c.side d).n - 1⟩) := by
  simp only [flushPopBp, h, if_false, Bool.not_true, Bool.false_eq_true,
    BpCircuit.side_setSide_self, BpCircuit.setSide_setSide]
  cases hb : (c.side d).blocked <;> by_cases hl : (c.side d).n - 1 ≤ low <;>
    simp [hb, hl, setCircuitBlockedOnChan_eq]

/-- A failed write pops the cell and leaves the flag and the circuitmux as they were. -/
theorem flushPopBp_of_failedWrite (h : (c.side d).n ≠ 0) :
    flushPopBp low false c d = (false, c.setSide d { c.side d with n := (c.side d).n - 1 }) := by
  simp [flushPopBp, h]

end Branches

/-! ## Runs -/

/-- `cell_queue_lowwatermark ()` and `cell_queue_highwatermark ()` of a run, the low one below
    the high one. -/
structure Watermarks where
  low : Nat
  high : Nat
  low_lt_high : low < high

/-- The circuits reached from a new one by appends in either direction (any OOM outcome) and
    flush passes that pick it on either channel and whose writes succeed. -/
inductive BpReachable (w : Watermarks) (maxQueueSize : CellDirection → Nat) : BpCircuit → Prop
  | fresh : BpReachable w maxQueueSize .fresh
  | append {c : BpCircuit} (oomMarks : Bool) (d : CellDirection) :
      BpReachable w maxQueueSize c →
        BpReachable w maxQueueSize (appendCellToCircuitQueueBp w.high maxQueueSize oomMarks c d).2
  | flush {c : BpCircuit} (d : CellDirection) :
      BpReachable w maxQueueSize c → BpReachable w maxQueueSize (flushPopBp w.low true c d).2

/-- What holds of each side of an unmarked circuit. -/
structure SideInv (w : Watermarks) (maxQueueSize : Nat) (s : QueueSide) : Prop where
  n_le_max : s.n ≤ maxQueueSize
  blocked_of_high : w.high ≤ s.n → s.blocked = true
  low_lt_of_blocked : s.blocked = true → w.low < s.n
  cmux_eq : s.cmuxCells = s.n

/-- The invariant of a circuit: while it is not marked, both sides keep `SideInv`. -/
def BpInv (w : Watermarks) (maxQueueSize : CellDirection → Nat) (c : BpCircuit) : Prop :=
  c.markedForClose = false → ∀ d, SideInv w (maxQueueSize d) (c.side d)

section Invariant

variable {w : Watermarks} {maxQueueSize : CellDirection → Nat} {c : BpCircuit}

theorem bpInv_setSide (h : BpInv w maxQueueSize c) (hm : c.markedForClose = false)
    {d : CellDirection} {s : QueueSide} (hs : SideInv w (maxQueueSize d) s) :
    BpInv w maxQueueSize (c.setSide d s) := fun _ e => by
  by_cases he : e = d
  · subst he; simpa using hs
  · simpa [he] using h hm e

theorem sideInv_append {s : QueueSide} {m : Nat} (h : SideInv w m s) (hlt : s.n < m) :
    SideInv w m ⟨s.n + 1, s.blocked || decide (w.high ≤ s.n + 1), s.n + 1⟩ where
  n_le_max := hlt
  blocked_of_high := by simp +contextual
  low_lt_of_blocked := by
    have := w.low_lt_high
    cases hb : s.blocked
    · simp; omega
    · have := h.low_lt_of_blocked hb; simp; omega
  cmux_eq := rfl

theorem sideInv_flush {s : QueueSide} {m : Nat} (h : SideInv w m s) :
    SideInv w m ⟨s.n - 1, s.blocked && !decide (s.n - 1 ≤ w.low), s.n - 1⟩ where
  n_le_max := by have := h.n_le_max; show s.n - 1 ≤ m; omega
  blocked_of_high hh := by
    change w.high ≤ s.n - 1 at hh
    have := w.low_lt_high
    simp [h.blocked_of_high (by omega)]; omega
  low_lt_of_blocked hb := by simp at hb; show w.low < s.n - 1; omega
  cmux_eq := rfl

theorem sideInv_zero {m : Nat} : SideInv w m ⟨0, false, 0⟩ where
  n_le_max := Nat.zero_le _
  blocked_of_high h := absurd (show w.high ≤ 0 from h) (by have := w.low_lt_high; omega)
  low_lt_of_blocked h := nomatch h
  cmux_eq := rfl

/-- **One step keeps the invariant**: an append in either direction, whatever the OOM handler
    does, and a flush pass on either channel whose write succeeds. -/
theorem bpInv_append (h : BpInv w maxQueueSize c) (oomMarks : Bool) (d : CellDirection) :
    BpInv w maxQueueSize (appendCellToCircuitQueueBp w.high maxQueueSize oomMarks c d).2 := by
  cases hm : c.markedForClose
  · by_cases hfull : maxQueueSize d ≤ (c.side d).n
    · rwa [appendBp_of_full hm hfull]
    cases oomMarks
    · rw [appendBp_of_ok hm (not_le.1 hfull)]
      exact bpInv_setSide h hm (sideInv_append (h hm d) (not_le.1 hfull))
    · rw [appendBp_of_oom hm (not_le.1 hfull)]
      intro h'; cases h'
  · rw [appendBp_of_marked hm]; intro h'; simp [hm] at h'

theorem bpInv_flush (h : BpInv w maxQueueSize c) (d : CellDirection) :
    BpInv w maxQueueSize (flushPopBp w.low true c d).2 := by
  by_cases hn : (c.side d).n = 0
  · intro h'; simp [flushPopBp_of_zero hn] at h'
  · rw [flushPopBp_of_pos hn]
    intro hm'
    have hm : c.markedForClose = false := by simpa using hm'
    exact bpInv_setSide h hm (sideInv_flush (h hm d)) hm'

theorem bpInv_fresh : BpInv w maxQueueSize .fresh := fun _ d => by
  cases d <;> exact sideInv_zero

/-- **Every reachable circuit keeps the invariant.** -/
theorem reachable_bpInv (h : BpReachable w maxQueueSize c) : BpInv w maxQueueSize c := by
  induction h with
  | fresh => exact bpInv_fresh
  | append oomMarks d _ ih => exact bpInv_append ih oomMarks d
  | flush d _ ih => exact bpInv_flush ih d

/-- **Queue bound and back-pressure hysteresis.** On an unmarked circuit, each queue holds at most
    `max_queue_size` cells (a full one refuses with -1); the circuit is blocked from the high
    watermark on and only above the low one, and a write down to the low one unblocks it. -/
theorem backpressure_hysteresis (w : Watermarks) (maxQueueSize : CellDirection → Nat)
    {c : BpCircuit} (h : BpReachable w maxQueueSize c) (hm : c.markedForClose = false)
    (d : CellDirection) :
    (c.side d).n ≤ maxQueueSize d ∧
    (maxQueueSize d ≤ (c.side d).n → ∀ oomMarks : Bool,
      appendCellToCircuitQueueBp w.high maxQueueSize oomMarks c d = (-1, c)) ∧
    (w.high ≤ (c.side d).n → (c.side d).blocked = true) ∧
    ((c.side d).blocked = true → w.low < (c.side d).n ∧ 0 < (c.side d).n) ∧
    (0 < (c.side d).n → (c.side d).n - 1 ≤ w.low →
      ((flushPopBp w.low true c d).2.side d).blocked = false) := by
  have hinv := reachable_bpInv h hm d
  refine ⟨hinv.n_le_max, fun hf _ => appendBp_of_full hm hf, hinv.blocked_of_high,
    fun hb => ⟨hinv.low_lt_of_blocked hb, by have := hinv.low_lt_of_blocked hb; omega⟩,
    fun hpos hlow => ?_⟩
  rw [flushPopBp_of_pos (Nat.pos_iff_ne_zero.1 hpos)]
  simp [hlow]

/-- Watermarks 2 and 3, with a queue limit of 3 cells in each direction. -/
def tightWatermarks : Watermarks := ⟨2, 3, by decide⟩

/-- A new circuit after three outward appends: its outward queue full, at the high watermark and
    one cell above the low one, and blocked on `n_chan`. -/
def threeQueued : BpCircuit := ⟨⟨3, true, 3⟩, ⟨0, false, 0⟩, false⟩

/-- At `threeQueued` every part of the law is exercised: a fourth cell is refused, the circuit is
    blocked, and the next written cell unblocks it. -/
theorem backpressure_hysteresis_threeQueued :
    BpReachable tightWatermarks (fun _ => 3) threeQueued ∧
    (threeQueued.side .outward).n ≤ 3 ∧
    (3 ≤ (threeQueued.side .outward).n → ∀ oomMarks : Bool,
      appendCellToCircuitQueueBp 3 (fun _ => 3) oomMarks threeQueued .outward =
        (-1, threeQueued)) ∧
    (3 ≤ (threeQueued.side .outward).n → (threeQueued.side .outward).blocked = true) ∧
    ((threeQueued.side .outward).blocked = true →
      2 < (threeQueued.side .outward).n ∧ 0 < (threeQueued.side .outward).n) ∧
    (0 < (threeQueued.side .outward).n → (threeQueued.side .outward).n - 1 ≤ 2 →
      ((flushPopBp 2 true threeQueued .outward).2.side .outward).blocked = false) :=
  have h : BpReachable tightWatermarks (fun _ => 3) threeQueued :=
    .append false .outward (.append false .outward (.append false .outward .fresh))
  ⟨h, backpressure_hysteresis tightWatermarks (fun _ => 3) h rfl .outward⟩

end Invariant

/-! ## The queue model

The queue model of `TorCore.Relay.CellQueue` follows the cells and the modelled channel's
circuitmux, without the flags; this one follows the flags and both circuitmuxes, without the
cells. On what both record of a circuit they agree, call by call. -/

/-- What the queue model and this one both record of a circuit: its mark, the counters of its two
    queues, and the count of the modelled channel's circuitmux. -/
structure Agrees (qc : QCircuit) (bc : BpCircuit) : Prop where
  marked : qc.markedForClose.isSome = bc.markedForClose
  n_eq : ∀ e, (qc.queue e).queue.n = (bc.side e).n
  cmux_eq : qc.cmuxCells = (bc.side qc.chanDir).cmuxCells

/-- Whether the OOM handler ran and its victims include circuit `i`. -/
def oomMarksCircuit (oom : Option (List Nat)) (i : Nat) : Bool :=
  match oom with
  | none => false
  | some victims => decide (i ∈ victims)

theorem cellQueuesCheckSize_getElem?_eq (oom : Option (List Nat)) (st : QState) (j : Nat) :
    (cellQueuesCheckSize oom st).circuits[j]? =
      st.circuits[j]?.map fun c => if oomMarksCircuit oom j then oomKill c else c := by
  cases oom with
  | none => simp [cellQueuesCheckSize, oomMarksCircuit]
  | some victims => simp [cellQueuesCheckSize, circuitsHandleOom, oomMarksCircuit,
      List.getElem?_mapIdx]

@[simp] theorem oomKillBp_side (c : BpCircuit) (e : CellDirection) :
    (oomKillBp c).side e = { c.side e with n := 0 } := by
  cases e <;> rfl

@[simp] theorem oomKill_markedForClose_isSome (c : QCircuit) :
    (oomKill c).markedForClose.isSome = true := by
  simp [oomKill]

section Simulation

variable {qc : QCircuit} {bc : BpCircuit}

/-- Replacing a queue and the side of the same direction, with the same counter. -/
theorem Agrees.setQueue (ha : Agrees qc bc) {d : CellDirection} {q : TracedQueue}
    {s : QueueSide} (hn : q.queue.n = s.n)
    (hcm : d = qc.chanDir → s.cmuxCells = (bc.side d).cmuxCells) :
    Agrees (qc.setQueue d q) (bc.setSide d s) where
  marked := by simpa using ha.marked
  n_eq e := by
    by_cases he : e = d
    · subst he; simpa using hn
    · simpa [he] using ha.n_eq e
  cmux_eq := by
    by_cases hd : qc.chanDir = d
    · subst hd
      simp only [QCircuit.setQueue_cmuxCells, QCircuit.setQueue_chanDir,
        BpCircuit.side_setSide_self, hcm rfl, ha.cmux_eq]
    · simp [hd, ha.cmux_eq]

/-- The circuitmux records `k` cells in both models. -/
theorem Agrees.setCmux (ha : Agrees qc bc) (k : Nat) :
    Agrees (circuitmuxSetNumCells qc k)
      (bc.setSide qc.chanDir { bc.side qc.chanDir with cmuxCells := k }) where
  marked := by simpa using ha.marked
  n_eq e := by
    by_cases he : e = qc.chanDir
    · subst he; simp [ha.n_eq]
    · simp [he, ha.n_eq]
  cmux_eq := by simp

theorem Agrees.kill (ha : Agrees qc bc) : Agrees (oomKill qc) (oomKillBp bc) where
  marked := by simp [oomKillBp]
  n_eq e := by simp [TracedQueue.clear, cellQueueClear]
  cmux_eq := by simpa [oomKill] using ha.cmux_eq

theorem Agrees.updateCmux (ha : Agrees qc bc) (d : CellDirection) :
    Agrees (updateCircuitOnCmux qc d) (updateCircuitOnCmuxBp bc d) := by
  unfold TorCore.updateCircuitOnCmux updateCircuitOnCmuxBp
  by_cases hd : d = qc.chanDir
  · subst hd
    rw [if_pos rfl]
    refine ⟨by simpa using ha.marked, fun e => ?_, by simp [ha.n_eq]⟩
    by_cases he : e = qc.chanDir
    · subst he; simp [ha.n_eq]
    · simp [he, ha.n_eq]
  · rw [if_neg hd]
    refine ⟨by simpa using ha.marked, fun e => ?_, by simp [Ne.symm hd, ha.cmux_eq]⟩
    by_cases he : e = d
    · subst he; simp [ha.n_eq]
    · simp [he, ha.n_eq]

@[simp] theorem cellQueuesCheckSize_circuits_length (oom : Option (List Nat)) (st : QState) :
    (cellQueuesCheckSize oom st).circuits.length = st.circuits.length := by
  cases oom <;> simp [cellQueuesCheckSize, circuitsHandleOom]

/-- **`append_cell_to_circuit_queue` in both models**: the same return value, and the circuit
    after agrees, the OOM handler's victims in the queue model being `oomMarksCircuit` here. -/
theorem appendBp_simulates (high : Nat) (maxQueueSize : CellDirection → Nat)
    (oom : Option (List Nat)) {st : QState} {i : Nat} (hc : st.circuits[i]? = some qc)
    (ha : Agrees qc bc) (d : CellDirection) :
    (appendCellToCircuitQueue maxQueueSize oom st i d).1 =
        (appendCellToCircuitQueueBp high maxQueueSize (oomMarksCircuit oom i) bc d).1 ∧
      ∃ qc', (appendCellToCircuitQueue maxQueueSize oom st i d).2.circuits[i]? = some qc' ∧
        Agrees qc' (appendCellToCircuitQueueBp high maxQueueSize (oomMarksCircuit oom i) bc d).2 := by
  cases hm : bc.markedForClose with
  | true =>
    have hq : qc.markedForClose.isSome = true := ha.marked.trans hm
    have : appendCellToCircuitQueue maxQueueSize oom st i d = (0, st) := by
      simp [appendCellToCircuitQueue, hc, hq]
    rw [appendBp_of_marked hm, this]
    exact ⟨rfl, qc, hc, ha⟩
  | false =>
  have hq : qc.markedForClose = none := Option.not_isSome_iff_eq_none.1 (by simp [ha.marked, hm])
  have hn := ha.n_eq d
  by_cases hfull : maxQueueSize d ≤ (bc.side d).n
  · have : appendCellToCircuitQueue maxQueueSize oom st i d = (-1, st) := by
      simp [appendCellToCircuitQueue, hc, hq, hn, hfull]
    rw [appendBp_of_full hm hfull, this]
    exact ⟨rfl, qc, hc, ha⟩
  -- the cell is queued, then the OOM check runs
  have hi : i < st.circuits.length := (List.getElem?_eq_some_iff.1 hc).1
  set c1 := qc.setQueue d ((qc.queue d).push st.nextCell) with hc1
  have ha1 : ∀ b, Agrees c1 (bc.setSide d ⟨(bc.side d).n + 1, b, (bc.side d).cmuxCells⟩) :=
    fun _ => ha.setQueue (by simp [TracedQueue.push, cellQueueAppend, hn]) fun _ => rfl
  simp only [appendCellToCircuitQueue, hc, hq, Option.isSome_none, Bool.false_eq_true, if_false,
    hn, if_neg hfull, ← hc1]
  cases ho : oomMarksCircuit oom i with
  | true =>
    rw [appendBp_of_oom hm (not_le.1 hfull)]
    simp only [QState.isMarked, cellQueuesCheckSize_getElem?_eq, QState.setCircuit,
      List.getElem?_set_self hi, ho, if_true, Option.map_some', Option.some_bind,
      oomKill_markedForClose_isSome]
    exact ⟨trivial, _, rfl, (ha1 _).kill⟩
  | false =>
    rw [appendBp_of_ok hm (not_le.1 hfull)]
    have hc1m : c1.markedForClose = none := by simp [hc1, hq]
    simp only [QState.isMarked, cellQueuesCheckSize_getElem?_eq, QState.setCircuit,
      List.getElem?_set_self hi, ho, Bool.false_eq_true, if_false, Option.map_some',
      Option.some_bind, hc1m, Option.isSome_none, Option.getD_some]
    refine ⟨trivial, _, List.getElem?_set_self (by simp [hi]), ?_⟩
    simpa [updateCircuitOnCmuxBp] using (ha1 _).updateCmux d

/-- **A flush pass that picks the circuit, in both models**: the queue model's pass counts a
    cell exactly when this one does, and the circuit after agrees. -/
theorem flushPopBp_simulates (low : Nat) (w : Bool) {st : QState} {i : Nat}
    (hc : st.circuits[i]? = some qc) (ha : Agrees qc bc) (hwf : qc.chanQueue.Wf) :
    ∃ st' qc', flushOne st (.circuit i) w =
        (if (flushPopBp low w bc qc.chanDir).1 then .flushed st' else .skipped st') ∧
      st'.circuits[i]? = some qc' ∧ Agrees qc' (flushPopBp low w bc qc.chanDir).2 := by
  have hi : i < st.circuits.length := (List.getElem?_eq_some_iff.1 hc).1
  have hn : qc.chanQueue.queue.n = (bc.side qc.chanDir).n := ha.n_eq qc.chanDir
  by_cases h0 : qc.chanQueue.queue.n = 0
  · -- an empty queue: recorded as empty, and the circuit closed
    have hb0 : (bc.side qc.chanDir).n = 0 := hn ▸ h0
    rw [flushPopBp_of_zero hb0]
    refine ⟨st.setCircuit i ((circuitmuxSetNumCells qc 0).markForClose .internal), _,
      by simp [flushOne, hc, h0], List.getElem?_set_self hi, by simp,
      fun e => ?_, by simp⟩
    by_cases he : e = qc.chanDir
    · subst he; simp [ha.n_eq]
    · simp [he, ha.n_eq]
  cases w with
  | true =>
    obtain ⟨⟨cell, q⟩, hq⟩ := Option.isSome_iff_exists.1 (hwf.popAs_isSome h0 .written)
    have hqn : q.queue.n = (bc.side qc.chanDir).n - 1 := by
      rw [(TracedQueue.popAs_spec hq).2.1, hn]
    rw [flushPopBp_of_pos (hn ▸ h0)]
    refine ⟨st.setCircuit i (circuitmuxSetNumCells (qc.setQueue qc.chanDir q) q.queue.n), _,
      by simp [flushOne, hc, h0, hq], List.getElem?_set_self hi, ?_⟩
    simpa [hqn] using (ha.setQueue (s := ⟨(bc.side qc.chanDir).n - 1,
      (bc.side qc.chanDir).blocked && !decide ((bc.side qc.chanDir).n - 1 ≤ low),
      (bc.side qc.chanDir).cmuxCells⟩) hqn fun _ => rfl).setCmux q.queue.n
  | false =>
    obtain ⟨⟨cell, q⟩, hq⟩ := Option.isSome_iff_exists.1 (hwf.popAs_isSome h0 .dropped)
    have hqn : q.queue.n = (bc.side qc.chanDir).n - 1 := by
      rw [(TracedQueue.popAs_spec hq).2.1, hn]
    rw [flushPopBp_of_failedWrite (hn ▸ h0)]
    refine ⟨{ st.setCircuit i (qc.setQueue qc.chanDir q) with chanMarked := true }, _,
      by simp [flushOne, hc, h0, hq], List.getElem?_set_self hi, ?_⟩
    exact ha.setQueue hqn fun _ => rfl

end Simulation

end TorCore
