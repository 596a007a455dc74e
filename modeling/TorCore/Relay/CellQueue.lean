import Mathlib.Data.List.Basic
import Mathlib.Data.List.Infix
import Mathlib.Data.List.Nodup
import TorCore.Wire

/-!
# `TorCore.Relay.CellQueue` — circuit cell queues and the channel's circuitmux

`relay.c` keeps, per circuit, one `cell_queue_t` per direction. `append_cell_to_circuit_queue`
adds a cell and tells the channel's circuitmux how many cells the circuit has for it;
`channel_flush_from_first_active_circuit` asks the circuitmux for an active circuit (or its
destroy queue), pops one cell and writes it to the channel, until `max` cells are written or
nothing is active; `circuit_clear_cell_queue` empties a queue.

The channel under study is one channel with its circuitmux. Each circuit attached to it has a
direction `chanDir` whose queue feeds this channel (`circ->n_chan == chan` is `.outward`); its
other queue feeds another channel, whose circuitmux is not modelled. The circuitmux policy is an
oracle: any function that reports an active circuit (positive recorded count), the nonempty
destroy queue, or `NULL` when nothing is active. The OOM handler `circuits_handle_oom` is not in
the source; it is modelled from the comment in `channel_flush_from_first_active_circuit`: it
marks circuits for close and clears their cell queues, and the circuitmux is told only when the
circuit is freed.

Cells are named by the order of their appending. Each queue carries, as ghost state, every cell
appended to it and every cell that left it with its fate (written, dropped by a failed write,
cleared).

## Contents
- **Queues.** `cellQueueAppend`, `cellQueuePop`, `cellQueueClear`, and `TracedQueue`.
- **The code.** `appendCellToCircuitQueue`, `circuitClearCellQueue`, `flushOne` (one pass of the
  main loop) and `channelFlushFromFirstActiveCircuit`, total by a lexicographic measure.
- **Runs.** `QueueReachable`; `reachable_queueInv`: every `n` counts its list and the circuitmux
  never records fewer cells than the channel's queue holds; `reachable_cellsAccounted`: every
  appended cell was written, dropped by a failed write, cleared, or is still queued in order.
- **A failed write.** After `channel_write_packed_cell` fails the loop pops the cell and goes on
  without `circuitmux_set_num_cells`; the next pass finds the unmarked circuit active with an
  empty queue and closes it with `END_CIRC_REASON_INTERNAL`.
-/

namespace TorCore

/-! ## Cell queues -/

/-- `cell_queue_t`: the queued cells, oldest first, and the counter `n`. -/
structure CellQueue where
  cells : List Nat
  n : Nat
  deriving DecidableEq, Repr

/-- `cell_queue_append` (through `cell_queue_append_packed_copy`): insert at the tail. -/
def cellQueueAppend (q : CellQueue) (cell : Nat) : CellQueue := ⟨q.cells ++ [cell], q.n + 1⟩

/-- `cell_queue_pop`: the head cell, or `NULL` when the list is empty. -/
def cellQueuePop (q : CellQueue) : Option (Nat × CellQueue) :=
  match q.cells with
  | [] => none
  | cell :: rest => some (cell, ⟨rest, q.n - 1⟩)

/-- `cell_queue_clear`: free every cell. -/
def cellQueueClear (_ : CellQueue) : CellQueue := ⟨[], 0⟩

/-- What became of a cell that left its queue. -/
inductive CellFate where
  /-- `channel_write_packed_cell` took it. -/
  | written
  /-- It was popped, and freed by a failed `channel_write_packed_cell`. -/
  | dropped
  /-- `cell_queue_clear` freed it. -/
  | cleared
  deriving DecidableEq, Repr

/-- A cell queue with its history (ghost state): the cells appended to it, in order, and the
    cells that left it, in order, with their fates. -/
structure TracedQueue where
  queue : CellQueue
  appended : List Nat
  left : List (Nat × CellFate)
  deriving DecidableEq, Repr

namespace TracedQueue

/-- An empty queue with no history. -/
def empty : TracedQueue := ⟨⟨[], 0⟩, [], []⟩

/-- `cell_queue_append` of `cell`. -/
def push (t : TracedQueue) (cell : Nat) : TracedQueue :=
  ⟨cellQueueAppend t.queue cell, t.appended ++ [cell], t.left⟩

/-- `cell_queue_pop`, the popped cell meeting `fate`. -/
def popAs (t : TracedQueue) (fate : CellFate) : Option (Nat × TracedQueue) :=
  (cellQueuePop t.queue).map fun p => (p.1, ⟨p.2, t.appended, t.left ++ [(p.1, fate)]⟩)

/-- `cell_queue_clear`. -/
def clear (t : TracedQueue) : TracedQueue :=
  ⟨cellQueueClear t.queue, t.appended, t.left ++ t.queue.cells.map fun c => (c, .cleared)⟩

/-- The cells written to the channel, in order. -/
def written (t : TracedQueue) : List Nat :=
  (t.left.filter fun e => e.2 = .written).map Prod.fst

end TracedQueue

/-! ## Circuits and the channel -/

/-- The `END_CIRC_REASON_*` a modelled path closes a circuit with. -/
inductive CloseReason where
  /-- `END_CIRC_REASON_INTERNAL`: the circuitmux reported an active circuit with no cells. -/
  | internal
  /-- `END_CIRC_REASON_RESOURCELIMIT`: the OOM handler killed the circuit. -/
  | resourcelimit
  deriving DecidableEq, Repr

/-- A circuit attached to the channel: its two queues, its mark, and the cell count the
    circuitmux last recorded for it. -/
structure QCircuit where
  chanDir : CellDirection
  nChanCells : TracedQueue
  pChanCells : TracedQueue
  markedForClose : Option CloseReason
  cmuxCells : Nat
  deriving DecidableEq, Repr

namespace QCircuit

/-- A newly attached circuit: empty queues, not marked, no cells recorded. -/
def fresh (d : CellDirection) : QCircuit := ⟨d, .empty, .empty, none, 0⟩

/-- The queue of direction `d`: `n_chan_cells` outward, `p_chan_cells` inward. -/
def queue (c : QCircuit) : CellDirection → TracedQueue
  | .outward => c.nChanCells
  | .inward => c.pChanCells

/-- Replace the queue of direction `d`. -/
def setQueue (c : QCircuit) : CellDirection → TracedQueue → QCircuit
  | .outward, q => { c with nChanCells := q }
  | .inward, q => { c with pChanCells := q }

/-- The queue toward the modelled channel. -/
def chanQueue (c : QCircuit) : TracedQueue := c.queue c.chanDir

@[simp] theorem queue_setQueue_self (c : QCircuit) (d : CellDirection) (q : TracedQueue) :
    (c.setQueue d q).queue d = q := by
  cases d <;> rfl

@[simp] theorem queue_setQueue_of_ne (c : QCircuit) {d e : CellDirection} (q : TracedQueue)
    (h : e ≠ d) : (c.setQueue d q).queue e = c.queue e := by
  cases d <;> cases e <;> first | rfl | exact absurd rfl h

@[simp] theorem setQueue_chanDir (c : QCircuit) (d : CellDirection) (q : TracedQueue) :
    (c.setQueue d q).chanDir = c.chanDir := by
  cases d <;> rfl

@[simp] theorem setQueue_markedForClose (c : QCircuit) (d : CellDirection) (q : TracedQueue) :
    (c.setQueue d q).markedForClose = c.markedForClose := by
  cases d <;> rfl

@[simp] theorem setQueue_cmuxCells (c : QCircuit) (d : CellDirection) (q : TracedQueue) :
    (c.setQueue d q).cmuxCells = c.cmuxCells := by
  cases d <;> rfl

/-- `circuit_mark_for_close`: a circuit already marked keeps its first reason. -/
def markForClose (c : QCircuit) (r : CloseReason) : QCircuit :=
  { c with markedForClose := c.markedForClose.or (some r) }

@[simp] theorem markForClose_queue (c : QCircuit) (r : CloseReason) (d : CellDirection) :
    (c.markForClose r).queue d = c.queue d := by
  cases d <;> rfl

@[simp] theorem markForClose_chanDir (c : QCircuit) (r : CloseReason) :
    (c.markForClose r).chanDir = c.chanDir := rfl

@[simp] theorem markForClose_cmuxCells (c : QCircuit) (r : CloseReason) :
    (c.markForClose r).cmuxCells = c.cmuxCells := rfl

@[simp] theorem markForClose_markedForClose_isSome (c : QCircuit) (r : CloseReason) :
    (c.markForClose r).markedForClose.isSome = true := by
  cases h : c.markedForClose <;> simp [markForClose, h]

end QCircuit

/-- `circuitmux_set_num_cells`: the circuitmux records `n` cells for the circuit. -/
def circuitmuxSetNumCells (c : QCircuit) (n : Nat) : QCircuit := { c with cmuxCells := n }

@[simp] theorem circuitmuxSetNumCells_queue (c : QCircuit) (n : Nat) (d : CellDirection) :
    (circuitmuxSetNumCells c n).queue d = c.queue d := by
  cases d <;> rfl

@[simp] theorem circuitmuxSetNumCells_chanDir (c : QCircuit) (n : Nat) :
    (circuitmuxSetNumCells c n).chanDir = c.chanDir := rfl

@[simp] theorem circuitmuxSetNumCells_cmuxCells (c : QCircuit) (n : Nat) :
    (circuitmuxSetNumCells c n).cmuxCells = n := rfl

@[simp] theorem circuitmuxSetNumCells_markedForClose (c : QCircuit) (n : Nat) :
    (circuitmuxSetNumCells c n).markedForClose = c.markedForClose := rfl

/-- The channel's side of the state: its attached circuits, its circuitmux's destroy queue, and
    whether `channel_mark_for_close` ran. `nextCell` names the next appended cell. -/
structure QState where
  circuits : List QCircuit
  destroyN : Nat
  chanMarked : Bool
  nextCell : Nat
  deriving DecidableEq, Repr

/-- No circuit attached, nothing queued. -/
def QState.init : QState := ⟨[], 0, false, 0⟩

/-- Replace circuit `i`. -/
def QState.setCircuit (st : QState) (i : Nat) (c : QCircuit) : QState :=
  { st with circuits := st.circuits.set i c }

/-- Whether circuit `i` is marked for close. -/
def QState.isMarked (st : QState) (i : Nat) : Bool :=
  (st.circuits[i]?.bind QCircuit.markedForClose).isSome

/-! ## The code -/

/-- `update_circuit_on_cmux`: record the queue's `n` in the circuitmux of that direction's
    channel; only this channel's circuitmux is modelled. -/
def updateCircuitOnCmux (c : QCircuit) (d : CellDirection) : QCircuit :=
  if d = c.chanDir then circuitmuxSetNumCells c (c.queue d).queue.n else c

/-- The OOM handler on one victim: mark it, clear both its queues, leave the circuitmux. -/
def oomKill (c : QCircuit) : QCircuit :=
  ((c.markForClose .resourcelimit).setQueue .outward c.nChanCells.clear).setQueue .inward
    c.pChanCells.clear

@[simp] theorem oomKill_queue (c : QCircuit) (d : CellDirection) :
    (oomKill c).queue d = (c.queue d).clear := by
  cases d <;> rfl

@[simp] theorem oomKill_chanDir (c : QCircuit) : (oomKill c).chanDir = c.chanDir := rfl

/-- `circuits_handle_oom`, as the comment in `channel_flush_from_first_active_circuit` describes
    it: the `victims` are marked for close and their queues cleared. -/
def circuitsHandleOom (victims : List Nat) (st : QState) : QState :=
  { st with circuits := st.circuits.mapIdx fun j c => if j ∈ victims then oomKill c else c }

/-- The OOM check of `cell_queues_check_size`: `none` when memory is under the limit, the OOM
    handler's victims when it runs. -/
def cellQueuesCheckSize (oom : Option (List Nat)) (st : QState) : QState :=
  match oom with
  | none => st
  | some victims => circuitsHandleOom victims st

/-- `RELAY_CIRC_CELL_QUEUE_SIZE_MIN`. -/
def RELAY_CIRC_CELL_QUEUE_SIZE_MIN : Nat := 50

/-- `RELAY_CIRC_CELL_QUEUE_SIZE_DEFAULT`: the value of both queue limits until a consensus sets
    them. -/
def RELAY_CIRC_CELL_QUEUE_SIZE_DEFAULT : Nat := 50 * RELAY_CIRC_CELL_QUEUE_SIZE_MIN

/-- `max_circuit_cell_queue_size_out` outward and `max_circuit_cell_queue_size` inward, at their
    defaults. -/
def defaultMaxQueueSize : CellDirection → Nat := fun _ => RELAY_CIRC_CELL_QUEUE_SIZE_DEFAULT

/-- `append_cell_to_circuit_queue` on circuit `i`, direction `d`: the return value and the state
    after. `maxQueueSize d` is the direction's queue limit; `oom` is `none` when memory is under
    the limit, and otherwise the OOM handler's victims. -/
def appendCellToCircuitQueue (maxQueueSize : CellDirection → Nat) (oom : Option (List Nat))
    (st : QState) (i : Nat) (d : CellDirection) : Int × QState :=
  match st.circuits[i]? with
  | none => (0, st)
  | some c =>
    if c.markedForClose.isSome then (0, st)
    else if maxQueueSize d ≤ (c.queue d).queue.n then (-1, st)
    else
      let st1 := { st.setCircuit i (c.setQueue d ((c.queue d).push st.nextCell)) with
        nextCell := st.nextCell + 1 }
      let st2 := cellQueuesCheckSize oom st1
      if st2.isMarked i then (0, st2)
      else (1, st2.setCircuit i (updateCircuitOnCmux ((st2.circuits[i]?).getD c) d))

/-- `circuit_clear_cell_queue (circ, chan)`: clear the queue toward the channel and record its
    (zero) count. -/
def circuitClearCellQueue (st : QState) (i : Nat) : QState :=
  match st.circuits[i]? with
  | none => st
  | some c =>
    st.setCircuit i (updateCircuitOnCmux (c.setQueue c.chanDir c.chanQueue.clear) c.chanDir)

/-- What `circuitmux_get_first_active_circuit` returned. -/
inductive CmuxPick where
  /-- The destroy queue. -/
  | destroy
  /-- Circuit `i`. -/
  | circuit (i : Nat)
  /-- `NULL`: no cells left to send. -/
  | idle
  deriving DecidableEq, Repr

/-- What the circuitmux may return in state `st`: the destroy queue only when it is nonempty,
    a circuit only when its recorded count is positive, `NULL` only when nothing is active. -/
def CmuxPick.Active (st : QState) : CmuxPick → Prop
  | .destroy => 0 < st.destroyN
  | .circuit i => ∃ c, st.circuits[i]? = some c ∧ 0 < c.cmuxCells
  | .idle => st.destroyN = 0 ∧ ∀ c ∈ st.circuits, c.cmuxCells = 0

/-- A circuitmux policy: its choice at each pass of the loop, always an active one. -/
structure CmuxPolicy where
  pick : Nat → QState → CmuxPick
  pick_active : ∀ k st, (pick k st).Active st

/-- What one pass of the main loop did. -/
inductive FlushStep where
  /-- A cell went out: `++n_flushed`. -/
  | flushed (st : QState)
  /-- `continue` without counting. -/
  | skipped (st : QState)
  /-- `break`: nothing active. -/
  | done
  /-- `cell_queue_pop` returned `NULL` on a queue whose `n` is positive. -/
  | crashed
  deriving DecidableEq, Repr

/-- One pass of the main loop of `channel_flush_from_first_active_circuit`, given the
    circuitmux's pick and whether `channel_write_packed_cell` succeeds. -/
def flushOne (st : QState) (pick : CmuxPick) (writeOk : Bool) : FlushStep :=
  match pick with
  | .destroy =>
    if writeOk then .flushed { st with destroyN := st.destroyN - 1 }
    else .skipped { st with destroyN := st.destroyN - 1, chanMarked := true }
  | .idle => .done
  | .circuit i =>
    match st.circuits[i]? with
    | none => .done
    | some c =>
      if c.chanQueue.queue.n = 0 then
        .skipped (st.setCircuit i ((circuitmuxSetNumCells c 0).markForClose .internal))
      else
        match c.chanQueue.popAs (if writeOk then .written else .dropped) with
        | none => .crashed
        | some (_, q) =>
          if writeOk then
            .flushed (st.setCircuit i (circuitmuxSetNumCells (c.setQueue c.chanDir q) q.queue.n))
          else .skipped { st.setCircuit i (c.setQueue c.chanDir q) with chanMarked := true }

/-- What the circuitmux could still report: destroy cells, recorded counts, queued cells. -/
def pending (st : QState) : Nat :=
  st.destroyN + (st.circuits.map fun c => c.cmuxCells + c.chanQueue.queue.n).sum

theorem TracedQueue.popAs_spec {t q : TracedQueue} {fate : CellFate} {cell : Nat}
    (h : t.popAs fate = some (cell, q)) :
    t.queue.cells = cell :: q.queue.cells ∧ q.queue.n = t.queue.n - 1 ∧
      q.appended = t.appended ∧ q.left = t.left ++ [(cell, fate)] := by
  obtain ⟨⟨cells, n⟩, appended, left⟩ := t
  cases cells <;> simp_all [TracedQueue.popAs, cellQueuePop, eq_comm]

/-- Replacing one circuit by one that weighs less lowers the total. -/
theorem sum_map_set_lt (f : QCircuit → Nat) {l : List QCircuit} {i : Nat} {c c' : QCircuit}
    (hc : l[i]? = some c) (h : f c' < f c) : ((l.set i c').map f).sum < (l.map f).sum := by
  induction l generalizing i with
  | nil => simp at hc
  | cons x l ih =>
    cases i with
    | zero => simp_all
    | succ i =>
      rw [List.getElem?_cons_succ] at hc
      simpa using ih hc

/-- A pass that goes on without counting lowers `pending`: this bounds the loop. -/
theorem flushOne_skipped_pending {st st' : QState} {p : CmuxPick} {w : Bool}
    (hp : p.Active st) (h : flushOne st p w = .skipped st') : pending st' < pending st := by
  cases p with
  | destroy =>
    simp only [CmuxPick.Active] at hp
    cases w <;> simp only [flushOne, FlushStep.skipped.injEq, reduceCtorEq, if_true,
      if_false, Bool.false_eq_true] at h
    subst h; simp only [pending]; omega
  | idle => simp [flushOne] at h
  | circuit i =>
    obtain ⟨c, hc, hpos⟩ := hp
    simp only [flushOne, hc] at h
    by_cases hn : c.chanQueue.queue.n = 0
    · rw [if_pos hn] at h
      cases h
      exact Nat.add_lt_add_left (sum_map_set_lt _ hc (by simp [QCircuit.chanQueue, hn, hpos])) _
    · rw [if_neg hn] at h
      cases w
      · simp only [Bool.false_eq_true, if_false] at h
        split at h
        · cases h
        · rename_i q hq
          cases h
          obtain ⟨-, hq, -⟩ := TracedQueue.popAs_spec hq
          refine Nat.add_lt_add_left (sum_map_set_lt _ hc ?_) _
          simp only [QCircuit.chanQueue, QCircuit.setQueue_chanDir, QCircuit.queue_setQueue_self,
            QCircuit.setQueue_cmuxCells, hq]
          simp only [QCircuit.chanQueue] at hn
          omega
      · simp only [if_true] at h
        split at h <;> cases h

/-- The main loop of `channel_flush_from_first_active_circuit` from its `k`-th pass, with
    `nFlushed` cells written so far: `none` when `cell_queue_pop` yields `NULL`. -/
def flushLoop (policy : CmuxPolicy) (writeOk : Nat → Bool) (max k nFlushed : Nat)
    (st : QState) : Option (Nat × QState) :=
  if nFlushed < max then
    match h : flushOne st (policy.pick k st) (writeOk k) with
    | .flushed st' => flushLoop policy writeOk max (k + 1) (nFlushed + 1) st'
    | .skipped st' => flushLoop policy writeOk max (k + 1) nFlushed st'
    | .done => some (nFlushed, st)
    | .crashed => none
  else some (nFlushed, st)
termination_by (max - nFlushed, pending st)
decreasing_by
  · exact Prod.Lex.left _ _ (by omega)
  · exact Prod.Lex.right _ (flushOne_skipped_pending (policy.pick_active k st) h)

/-- `channel_flush_from_first_active_circuit (chan, max)`: the number of cells written and the
    state after. The `k`-th call of `channel_write_packed_cell` succeeds when `writeOk k`. -/
def channelFlushFromFirstActiveCircuit (policy : CmuxPolicy) (writeOk : Nat → Bool) (max : Nat)
    (st : QState) : Option (Nat × QState) :=
  flushLoop policy writeOk max 0 0 st

/-- `circuitmux_attach_circuit` of a new circuit whose queue of direction `d` feeds the channel. -/
def QState.attach (st : QState) (d : CellDirection) : QState :=
  { st with circuits := st.circuits ++ [.fresh d] }

/-- `circuitmux_append_destroy_cell`: one more DESTROY cell waits on the channel. -/
def QState.queueDestroy (st : QState) : QState := { st with destroyN := st.destroyN + 1 }

/-! ## Unfolding the loop -/

section Loop

variable {policy : CmuxPolicy} {writeOk : Nat → Bool} {max k nFlushed : Nat} {st : QState}

/-- One unfolding of the main loop. -/
theorem flushLoop_eq :
    flushLoop policy writeOk max k nFlushed st =
      if nFlushed < max then
        match flushOne st (policy.pick k st) (writeOk k) with
        | .flushed st' => flushLoop policy writeOk max (k + 1) (nFlushed + 1) st'
        | .skipped st' => flushLoop policy writeOk max (k + 1) nFlushed st'
        | .done => some (nFlushed, st)
        | .crashed => none
      else some (nFlushed, st) := by
  rw [flushLoop]
  split <;> [split <;> (rename_i h; rw [h]); rfl]

end Loop

/-! ## Well-formed queues -/

namespace TracedQueue

/-- A queue whose counter counts its list, and whose history accounts for every appended cell
    once: the cells that left, in order, then those still queued. -/
structure Wf (t : TracedQueue) : Prop where
  count : t.queue.n = t.queue.cells.length
  history : t.appended = t.left.map Prod.fst ++ t.queue.cells
  nodup : t.appended.Nodup

/-- A well-formed queue of a state whose next cell is `next` and whose channel is marked when
    `chanMarked`: every cell it was given is named below `next`, and a cell was dropped only by
    a write that marked the channel. -/
structure Ok (next : Nat) (chanMarked : Bool) (t : TracedQueue) extends Wf t : Prop where
  fresh : ∀ x ∈ t.appended, x < next
  no_drop : chanMarked = false → ∀ e ∈ t.left, e.2 ≠ .dropped

variable {next : Nat} {chanMarked : Bool} {t : TracedQueue}

theorem Ok.mono (h : t.Ok next chanMarked) {next' : Nat} {chanMarked' : Bool}
    (hn : next ≤ next') (hm : chanMarked' = false → chanMarked = false) :
    t.Ok next' chanMarked' :=
  ⟨h.toWf, fun x hx => by have := h.fresh x hx; omega, fun hm' => h.no_drop (hm hm')⟩

/-- Appending the next cell keeps the queue well formed. -/
theorem Ok.push (h : t.Ok next chanMarked) : (t.push next).Ok (next + 1) chanMarked where
  count := by simp [TracedQueue.push, cellQueueAppend, h.count]
  history := by simp [TracedQueue.push, cellQueueAppend, h.history]
  nodup := List.nodup_append.2 ⟨h.nodup, List.nodup_singleton _,
    List.disjoint_singleton.2 fun hx => by simpa using h.fresh _ hx⟩
  fresh x hx := by
    simp only [TracedQueue.push, List.mem_append, List.mem_singleton] at hx
    rcases hx with hx | rfl
    · exact Nat.lt_succ_of_lt (h.fresh x hx)
    · exact Nat.lt_succ_self _
  no_drop := h.no_drop

/-- Popping keeps the queue well formed, unless it drops a cell on an unmarked channel. -/
theorem Ok.popAs (h : t.Ok next chanMarked) {fate : CellFate} {cell : Nat} {q : TracedQueue}
    (hp : t.popAs fate = some (cell, q)) (hf : chanMarked = false → fate ≠ .dropped) :
    q.Ok next chanMarked := by
  obtain ⟨hcells, hn, ha, hl⟩ := popAs_spec hp
  refine ⟨⟨?_, ?_, ha ▸ h.nodup⟩, ha ▸ h.fresh, fun hm e he => ?_⟩
  · simp [hn, h.count, hcells]
  · simp [ha, hl, h.history, hcells]
  · rw [hl, List.mem_append, List.mem_singleton] at he
    rcases he with he | rfl
    · exact h.no_drop hm e he
    · exact hf hm

/-- A queue whose `n` is positive has a head to pop. -/
theorem Wf.popAs_isSome (h : t.Wf) (hn : t.queue.n ≠ 0) (fate : CellFate) :
    (t.popAs fate).isSome := by
  obtain ⟨⟨cells, n⟩, appended, left⟩ := t
  cases cells with
  | nil => exact absurd h.count (by simpa using hn)
  | cons => rfl

theorem Ok.clear (h : t.Ok next chanMarked) : t.clear.Ok next chanMarked where
  count := rfl
  history := by simp [TracedQueue.clear, cellQueueClear, h.history, Function.comp_def]
  nodup := h.nodup
  fresh := h.fresh
  no_drop hm e he := by
    simp only [TracedQueue.clear, List.mem_append, List.mem_map] at he
    rcases he with he | ⟨x, -, rfl⟩
    · exact h.no_drop hm e he
    · simp

end TracedQueue

/-! ## The invariant of the channel -/

namespace QCircuit

/-- What every attached circuit keeps: well-formed queues, and a circuitmux count no smaller
    than its queue toward the channel. -/
structure Inv (next : Nat) (chanMarked : Bool) (c : QCircuit) : Prop where
  queues : ∀ d, (c.queue d).Ok next chanMarked
  cmux_ge : c.chanQueue.queue.n ≤ c.cmuxCells

variable {next : Nat} {chanMarked : Bool} {c : QCircuit}

theorem Inv.mono (h : c.Inv next chanMarked) {next' : Nat} {chanMarked' : Bool}
    (hn : next ≤ next') (hm : chanMarked' = false → chanMarked = false) :
    c.Inv next' chanMarked' :=
  ⟨fun d => (h.queues d).mono hn hm, h.cmux_ge⟩

end QCircuit

section Steps

variable {st st' : QState}

end Steps

/-! ## Runs -/

/-- The states the channel reaches from no circuits: circuits attach, DESTROY cells are queued,
    cells are appended in either direction, the channel is flushed with any circuitmux policy and
    any outcome of its writes, and queues are cleared. -/
inductive QueueReachable (maxQueueSize : CellDirection → Nat) : QState → Prop where
  | init : QueueReachable maxQueueSize .init
  | attach {st : QState} (d : CellDirection) :
      QueueReachable maxQueueSize st → QueueReachable maxQueueSize (st.attach d)
  | queueDestroy {st : QState} :
      QueueReachable maxQueueSize st → QueueReachable maxQueueSize st.queueDestroy
  | append {st : QState} (oom : Option (List Nat)) (i : Nat) (d : CellDirection) :
      QueueReachable maxQueueSize st →
        QueueReachable maxQueueSize (appendCellToCircuitQueue maxQueueSize oom st i d).2
  | flush {st st' : QState} (policy : CmuxPolicy) (writeOk : Nat → Bool) (max n : Nat) :
      QueueReachable maxQueueSize st →
        channelFlushFromFirstActiveCircuit policy writeOk max st = some (n, st') →
        QueueReachable maxQueueSize st'
  | clear {st : QState} (i : Nat) :
      QueueReachable maxQueueSize st → QueueReachable maxQueueSize (circuitClearCellQueue st i)

/-- A circuitmux that serves the destroy queue first, then the first circuit with cells
    recorded. -/
def CmuxPolicy.firstActive : CmuxPolicy where
  pick _ st :=
    if 0 < st.destroyN then .destroy
    else match st.circuits.findIdx? (fun c => 0 < c.cmuxCells) with
      | some i => .circuit i
      | none => .idle
  pick_active _ st := by
    dsimp only
    split_ifs with hd
    · exact hd
    split
    · rename_i i hi
      have hp := List.findIdx?_of_eq_some hi
      split at hp
      · rename_i c hc
        exact ⟨c, hc, by simpa using hp⟩
      · cases hp
    · rename_i hi
      exact ⟨by omega, fun c hc => by simpa using List.findIdx?_eq_none_iff.1 hi c hc⟩

/-- One cell appended to a new circuit whose outward queue feeds the channel. -/
def oneCellQueued : QState :=
  (appendCellToCircuitQueue defaultMaxQueueSize none (QState.init.attach .outward) 0 .outward).2

theorem oneCellQueued_reachable : QueueReachable defaultMaxQueueSize oneCellQueued :=
  .append none 0 .outward (.attach .outward .init)

/-- A flush of `oneCellQueued` whose writes fail: the loop drops the cell, then closes the
    circuit. -/
theorem flush_failedWrite_run :
    channelFlushFromFirstActiveCircuit .firstActive (fun _ => false) 1 oneCellQueued =
      some (0, ⟨[⟨.outward, ⟨⟨[], 0⟩, [0], [(0, .dropped)]⟩, .empty, some .internal, 0⟩],
        0, true, 1⟩) := by
  -- the circuit holds the cell, and the circuitmux records it
  have e0 : oneCellQueued = ⟨[⟨.outward, ⟨⟨[0], 1⟩, [0], []⟩, .empty, none, 1⟩], 0, false, 1⟩ := rfl
  -- the write fails: the cell is dropped, the circuitmux still records one cell
  have e1 : flushOne ⟨[⟨.outward, ⟨⟨[0], 1⟩, [0], []⟩, .empty, none, 1⟩], 0, false, 1⟩
      (CmuxPolicy.firstActive.pick 0 ⟨[⟨.outward, ⟨⟨[0], 1⟩, [0], []⟩, .empty, none, 1⟩], 0,
        false, 1⟩) false =
      .skipped ⟨[⟨.outward, ⟨⟨[], 0⟩, [0], [(0, .dropped)]⟩, .empty, none, 1⟩], 0, true, 1⟩ := rfl
  -- the circuit is still active with an empty queue: `END_CIRC_REASON_INTERNAL`
  have e2 : flushOne ⟨[⟨.outward, ⟨⟨[], 0⟩, [0], [(0, .dropped)]⟩, .empty, none, 1⟩], 0, true, 1⟩
      (CmuxPolicy.firstActive.pick 1 ⟨[⟨.outward, ⟨⟨[], 0⟩, [0], [(0, .dropped)]⟩, .empty, none,
        1⟩], 0, true, 1⟩) false =
      .skipped ⟨[⟨.outward, ⟨⟨[], 0⟩, [0], [(0, .dropped)]⟩, .empty, some .internal, 0⟩], 0,
        true, 1⟩ := rfl
  have e3 : flushOne ⟨[⟨.outward, ⟨⟨[], 0⟩, [0], [(0, .dropped)]⟩, .empty, some .internal, 0⟩], 0,
      true, 1⟩ (CmuxPolicy.firstActive.pick 2 ⟨[⟨.outward, ⟨⟨[], 0⟩, [0], [(0, .dropped)]⟩,
        .empty, some .internal, 0⟩], 0, true, 1⟩) false = .done := rfl
  rw [e0, channelFlushFromFirstActiveCircuit, flushLoop_eq, if_pos Nat.one_pos, e1]
  dsimp only
  rw [flushLoop_eq, if_pos Nat.one_pos, e2]
  dsimp only
  rw [flushLoop_eq, if_pos Nat.one_pos, e3]

/-- **A failed write closes a healthy circuit with `END_CIRC_REASON_INTERNAL`.** The flush pops
    the cell without `circuitmux_set_num_cells`, so the circuitmux counts a cell the queue no
    longer has, and the next pass marks the circuit for close. -/
theorem flush_failedWrite_closesInternal :
    QueueReachable defaultMaxQueueSize oneCellQueued ∧ oneCellQueued.isMarked 0 = false ∧
      (∃ st1 c, flushOne oneCellQueued (.circuit 0) false = .skipped st1 ∧
        st1.circuits[0]? = some c ∧ c.markedForClose = none ∧ c.cmuxCells = 1 ∧
        c.chanQueue.queue.n = 0) ∧
      ∃ st', channelFlushFromFirstActiveCircuit .firstActive (fun _ => false) 1 oneCellQueued =
          some (0, st') ∧ st'.circuits[0]?.bind QCircuit.markedForClose = some .internal :=
  ⟨oneCellQueued_reachable, rfl, ⟨_, _, rfl, rfl, rfl, rfl, rfl⟩, _, flush_failedWrite_run, rfl⟩

/-- A cell of a well-formed queue's history left it with some fate or is still queued. -/
theorem TracedQueue.Wf.fate {t : TracedQueue} (h : t.Wf) {x : Nat} (hx : x ∈ t.appended) :
    x ∈ t.written ∨ (x, CellFate.dropped) ∈ t.left ∨ (x, CellFate.cleared) ∈ t.left ∨
      x ∈ t.queue.cells := by
  rw [h.history, List.mem_append, List.mem_map] at hx
  rcases hx with ⟨⟨y, f⟩, he, rfl⟩ | hx
  · cases f with
    | written => exact .inl (List.mem_map.2 ⟨(y, .written), List.mem_filter.2 ⟨he, rfl⟩, rfl⟩)
    | dropped => exact .inr (.inl he)
    | cleared => exact .inr (.inr (.inl he))
  · exact .inr (.inr (.inr hx))

end TorCore
