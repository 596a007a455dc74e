import TorCore.Wire

/-!
# `TorCore.Relay.RelayEarly` — the RELAY_EARLY budget along a circuit's path

An origin may send at most `MAX_RELAY_EARLY_CELLS_PER_CIRCUIT` cells as `CELL_RELAY_EARLY`, and
every relay on its path counts the outbound RELAY_EARLY cells it sees down from the same maximum,
closing the circuit when the count is exhausted or when a RELAY_EARLY cell arrives inbound
(`command_process_relay_cell`).

The faithful layer transcribes the three places that decide a cell's command:
`relay_send_command_from_edge_` (`relaySendCommandFromEdge`, with the write into the
`relay_early_commands` array made explicit so that an out-of-bounds index is an outcome),
the RELAY_EARLY checks of `command_process_relay_cell` (`commandProcessRelayEarly`), and the
forwarding of unrecognized cells in `circuit_receive_relay_cell`
(`circuitReceiveRelayCellForward`).

Over them, `pathStep` is the whole path as a transition system: the origin sends any relay
command to any hop, relays originate inbound cells, and in-flight cells are processed by the next
hop in any order. `PathInv` is the invariant that makes it safe: the origin's budget plus what it
has sent is the maximum, and each hop's counter covers the origin's remaining budget plus the
RELAY_EARLY cells still on their way to it. `reachable_pathInv` gives it in every reachable state,
and `relayEarly_budget_safe` draws the consequences.
-/

namespace TorCore

/-! ## The origin's choice of command -/

/-- Modelled from the spec: `MAX_RELAY_EARLY_CELLS_PER_CIRCUIT` ("at most 8 are ever sent"). -/
def MAX_RELAY_EARLY_CELLS_PER_CIRCUIT : Nat := 8

/-- `RELAY_COMMAND_EXTEND`. -/
def RELAY_COMMAND_EXTEND : UInt8 := 6
/-- `RELAY_COMMAND_EXTEND2`. -/
def RELAY_COMMAND_EXTEND2 : UInt8 := 14

/-- The RELAY_EARLY bookkeeping of an `origin_circuit_t`; `relayEarlyCommands` is the fixed-size
    array `relay_early_commands[MAX_RELAY_EARLY_CELLS_PER_CIRCUIT]`. -/
structure OriginEarly where
  remainingRelayEarlyCells : Nat
  relayEarlyCellsSent : Nat
  relayEarlyCommands : List UInt8

/-- A fresh origin circuit: the whole budget left, nothing sent, a zeroed array. -/
def OriginEarly.init : OriginEarly :=
  ⟨MAX_RELAY_EARLY_CELLS_PER_CIRCUIT, 0, List.replicate MAX_RELAY_EARLY_CELLS_PER_CIRCUIT 0⟩

/-- `relay_early_commands[relay_early_cells_sent++] = relay_command`; `none` when the index is
    outside the array. -/
def OriginEarly.recordCommand (c : OriginEarly) (relayCommand : UInt8) : Option OriginEarly :=
  if c.relayEarlyCellsSent < c.relayEarlyCommands.length then
    some { c with
      relayEarlyCommands := c.relayEarlyCommands.set c.relayEarlyCellsSent relayCommand
      relayEarlyCellsSent := c.relayEarlyCellsSent + 1 }
  else none

/-- The circuit `relay_send_command_from_edge_` sends on: an origin circuit with its RELAY_EARLY
    bookkeeping, or a relay's `or_circuit_t`. -/
inductive SendingCircuit where
  | origin (early : OriginEarly)
  | orCircuit

/-- The direction and command `relay_send_command_from_edge_` gives its cell, with the sending
    circuit after the choice; `none` for an out-of-bounds write into `relay_early_commands`.
    `toFirstHop` is `cpath_layer == origin_circ->cpath`. -/
def relaySendCellCommand (circ : SendingCircuit) (relayCommand : UInt8) (toFirstHop : Bool) :
    Option (CellDirection × CellCommand × SendingCircuit) :=
  match circ with
  | .orCircuit => some (.inward, .relay, .orCircuit)
  | .origin c =>
    if c.remainingRelayEarlyCells > 0 ∧ (relayCommand = RELAY_COMMAND_EXTEND ∨
        relayCommand = RELAY_COMMAND_EXTEND2 ∨ toFirstHop = false) then
      ({ c with remainingRelayEarlyCells := c.remainingRelayEarlyCells - 1 }.recordCommand
        relayCommand).map fun c' => (.outward, .relayEarly, .origin c')
    else some (.outward, .relay, .origin c)

/-- What `circuit_package_relay_cell` did with the cell: queued it (1), dropped it (0), or
    failed (-1). -/
inductive PackageResult where
  | queued
  | dropped
  | failed
  deriving DecidableEq

/-- `relay_send_command_from_edge_`, as far as the command goes: an oversized payload or failed
    encoding returns first; otherwise the cell gets its direction and command and leaves when
    queued. Returns the circuit after and the cell that left, `none` for an out-of-bounds write. -/
def relaySendCommandFromEdge (circ : SendingCircuit) (relayCommand : UInt8) (toFirstHop : Bool)
    (payloadLen maxPayload : Nat) (encodeOk : Bool) (pkg : PackageResult) :
    Option (SendingCircuit × Option (CellDirection × CellCommand)) :=
  if payloadLen > maxPayload ∨ encodeOk = false then some (circ, none)
  else match relaySendCellCommand circ relayCommand toFirstHop with
    | none => none
    | some (dir, cmd, circ') => some (circ', if pkg = .queued then some (dir, cmd) else none)

/-! ## The relays' checks and forwarding -/

/-- How the RELAY_EARLY part of `command_process_relay_cell` ends. -/
inductive EarlyCheck where
  /-- "Received an inbound RELAY_EARLY cell": the circuit is closed. -/
  | closedInbound
  /-- "Received too many RELAY_EARLY cells": the circuit is closed. -/
  | closedTooMany
  /-- The cell goes on to `circuit_receive_relay_cell`; the circuit's counter afterwards. -/
  | passed (remaining : Nat)
  deriving DecidableEq

/-- The RELAY_EARLY checks of `command_process_relay_cell`, for a circuit whose
    `remaining_relay_early_cells` is `remaining`. -/
def commandProcessRelayEarly (remaining : Nat) (command : CellCommand)
    (direction : CellDirection) : EarlyCheck :=
  match command, direction with
  | .relayEarly, .inward => .closedInbound
  | .relayEarly, .outward => if remaining = 0 then .closedTooMany else .passed (remaining - 1)
  | .relay, _ => .passed remaining

/-- Where `circuit_receive_relay_cell` sends a cell it did not recognize. -/
inductive Forwarding where
  /-- Switched onto the next channel (`n_chan` outward, `p_chan` inward). -/
  | toChannel (command : CellCommand)
  /-- Handed to the rendezvous splice, inward. -/
  | toSplice (command : CellCommand)
  /-- Dropped: an unrecognized inbound cell at the origin. -/
  | dropped
  /-- No next hop and no splice: the circuit is closed with TORPROTOCOL. -/
  | deadEnd
  deriving DecidableEq

/-- The unrecognized-cell path of `circuit_receive_relay_cell`: `hasChan` says whether the
    circuit has a channel in the cell's direction, `spliced` whether it has a `rend_splice`. -/
def circuitReceiveRelayCellForward (isOrigin : Bool) (direction : CellDirection)
    (hasChan spliced : Bool) (command : CellCommand) : Forwarding :=
  match direction, isOrigin with
  | .inward, true => .dropped
  | _, _ =>
    if hasChan then .toChannel command
    else if isOrigin = false ∧ spliced ∧ direction = .outward then .toSplice .relay
    else .deadEnd

/-- Only a relay circuit's cell goes inward, and it is a `CELL_RELAY`. -/
theorem relaySendCellCommand_inward {circ circ' : SendingCircuit} {relayCommand : UInt8}
    {toFirstHop : Bool} {cmd : CellCommand}
    (h : relaySendCellCommand circ relayCommand toFirstHop = some (.inward, cmd, circ')) :
    circ = .orCircuit ∧ cmd = .relay := by
  cases circ with
  | orCircuit => simp only [relaySendCellCommand, Option.some.injEq, Prod.mk.injEq] at h; simp [h]
  | origin c =>
    simp only [relaySendCellCommand] at h
    split_ifs at h
    · obtain ⟨_, -, h⟩ := Option.map_eq_some'.mp h
      cases h
    · cases h

/-- What one `relay_send_command_from_edge_` call can do: return before choosing a command, or
    choose one, and then either send the cell with it or not. -/
theorem relaySendCommandFromEdge_cases {circ circ' : SendingCircuit} {relayCommand : UInt8}
    {toFirstHop encodeOk : Bool} {payloadLen maxPayload : Nat} {pkg : PackageResult}
    {cell : Option (CellDirection × CellCommand)}
    (h : relaySendCommandFromEdge circ relayCommand toFirstHop payloadLen maxPayload encodeOk pkg =
      some (circ', cell)) :
    (circ' = circ ∧ cell = none) ∨ ∃ dir cmd,
      relaySendCellCommand circ relayCommand toFirstHop = some (dir, cmd, circ') ∧
        (cell = none ∨ cell = some (dir, cmd)) := by
  unfold relaySendCommandFromEdge at h
  split at h
  · simp only [Option.some.injEq, Prod.mk.injEq] at h
    exact .inl ⟨h.1.symm, h.2.symm⟩
  · rcases hs : relaySendCellCommand circ relayCommand toFirstHop with _ | ⟨dir, cmd, c⟩ <;>
      simp only [hs, Option.some.injEq, Prod.mk.injEq, reduceCtorEq] at h
    obtain ⟨rfl, rfl⟩ := h
    exact .inr ⟨dir, cmd, rfl, by split_ifs <;> simp⟩

/-- **`relay_send_command_from_edge_` never sends an inbound cell as RELAY_EARLY.** -/
theorem relaySendCommandFromEdge_inward {circ circ' : SendingCircuit} {relayCommand : UInt8}
    {toFirstHop encodeOk : Bool} {payloadLen maxPayload : Nat} {pkg : PackageResult}
    {cmd : CellCommand}
    (h : relaySendCommandFromEdge circ relayCommand toFirstHop payloadLen maxPayload encodeOk pkg =
      some (circ', some (.inward, cmd))) : cmd = .relay := by
  obtain ⟨-, h⟩ | ⟨dir, cmd', hs, h | h⟩ := relaySendCommandFromEdge_cases h <;>
    simp only [reduceCtorEq, Option.some.injEq, Prod.mk.injEq] at h
  obtain ⟨rfl, rfl⟩ := h
  exact (relaySendCellCommand_inward hs).2

/-- **What a call on an origin circuit does to its bookkeeping**: it moves at most one unit from
    `remaining_relay_early_cells` to `relay_early_cells_sent`, pays one for a RELAY_EARLY cell it
    sends, keeps the array's size, and sends outbound only. -/
theorem relaySendCommandFromEdge_origin {o : OriginEarly} {circ' : SendingCircuit}
    {relayCommand : UInt8} {toFirstHop encodeOk : Bool} {payloadLen maxPayload : Nat}
    {pkg : PackageResult} {cell : Option (CellDirection × CellCommand)}
    (h : relaySendCommandFromEdge (.origin o) relayCommand toFirstHop payloadLen maxPayload
      encodeOk pkg = some (circ', cell)) :
    ∃ o', circ' = .origin o' ∧ (∀ dir cmd, cell = some (dir, cmd) → dir = .outward) ∧
      o'.relayEarlyCommands.length = o.relayEarlyCommands.length ∧
      o'.remainingRelayEarlyCells + o'.relayEarlyCellsSent =
        o.remainingRelayEarlyCells + o.relayEarlyCellsSent ∧
      o'.relayEarlyCellsSent ≤ o.relayEarlyCellsSent + 1 ∧
      (if cell = some (.outward, .relayEarly) then 1 else 0) + o.relayEarlyCellsSent ≤
        o'.relayEarlyCellsSent := by
  obtain ⟨rfl, rfl⟩ | ⟨dir, cmd, hs, hcell⟩ := relaySendCommandFromEdge_cases h
  · exact ⟨o, rfl, by simp, rfl, rfl, by omega, by simp⟩
  simp only [relaySendCellCommand] at hs
  split_ifs at hs with hspend
  · obtain ⟨o', ho', hs⟩ := Option.map_eq_some'.mp hs
    simp only [OriginEarly.recordCommand] at ho'
    split_ifs at ho' with hlen
    simp only [Option.some.injEq, Prod.mk.injEq] at hs ho'
    obtain ⟨rfl, rfl, rfl⟩ := hs
    subst ho'
    refine ⟨_, rfl, ?_, by simp, by simp; omega, by simp, ?_⟩ <;> rcases hcell with rfl | rfl <;>
      simp [Nat.add_comm]
  · simp only [Option.some.injEq, Prod.mk.injEq] at hs
    obtain ⟨rfl, rfl, rfl⟩ := hs
    refine ⟨o, rfl, ?_, rfl, rfl, by omega, ?_⟩ <;> rcases hcell with rfl | rfl <;> simp

/-- **The write into `relay_early_commands` stays inside the array** while the budget plus what
    was sent is the array's size. -/
theorem relaySendCommandFromEdge_origin_ne_none {o : OriginEarly} {relayCommand : UInt8}
    {toFirstHop encodeOk : Bool} {payloadLen maxPayload : Nat} {pkg : PackageResult}
    (hb : o.remainingRelayEarlyCells + o.relayEarlyCellsSent = MAX_RELAY_EARLY_CELLS_PER_CIRCUIT)
    (ha : o.relayEarlyCommands.length = MAX_RELAY_EARLY_CELLS_PER_CIRCUIT) :
    relaySendCommandFromEdge (.origin o) relayCommand toFirstHop payloadLen maxPayload encodeOk
      pkg ≠ none := by
  obtain ⟨⟨dir, cmd, circ'⟩, hs⟩ :
      ∃ x, relaySendCellCommand (.origin o) relayCommand toFirstHop = some x := by
    simp only [relaySendCellCommand]
    split_ifs
    · rw [OriginEarly.recordCommand,
        if_pos (show o.relayEarlyCellsSent < o.relayEarlyCommands.length by omega)]
      exact ⟨_, rfl⟩
    · exact ⟨_, rfl⟩
  unfold relaySendCommandFromEdge
  split <;> simp [hs]

/-- **Forwarding keeps a cell's command, except into a rendezvous splice, which gets
    `CELL_RELAY`.** -/
theorem circuitReceiveRelayCellForward_command (isOrigin : Bool) (direction : CellDirection)
    (hasChan spliced : Bool) (command : CellCommand) :
    (∀ c, circuitReceiveRelayCellForward isOrigin direction hasChan spliced command = .toChannel c →
        c = command) ∧
      ∀ c, circuitReceiveRelayCellForward isOrigin direction hasChan spliced command = .toSplice c →
        c = .relay := by
  unfold circuitReceiveRelayCellForward
  split
  · simp
  · split_ifs <;> simp

/-! ## The path as a transition system -/

/-- A cell travelling away from the origin: its command, the hop that recognizes it, and the hop
    that processes it next. -/
structure OutCell where
  command : CellCommand
  target : Nat
  next : Nat
  deriving DecidableEq

/-- A cell travelling toward the origin: its command and how many relays it still crosses
    (`0`: the origin processes it next). -/
structure InCell where
  command : CellCommand
  hopsLeft : Nat
  deriving DecidableEq

/-- A circuit along its whole path: the origin's bookkeeping, each hop's
    `remaining_relay_early_cells`, the cells in flight, those handed to a rendezvous splice, and
    (a ghost) how many RELAY_EARLY cells have left the origin. -/
structure PathState where
  origin : OriginEarly
  relays : List Nat
  outbound : List OutCell
  inbound : List InCell
  spliced : List CellCommand
  earlyLeft : Nat

/-- A fresh circuit of `n` relays: every counter at the maximum, nothing in flight. -/
def PathState.init (n : Nat) : PathState :=
  ⟨OriginEarly.init, List.replicate n MAX_RELAY_EARLY_CELLS_PER_CIRCUIT, [], [], [], 0⟩

/-- What can happen next on the path. -/
inductive PathAction where
  /-- The origin calls `relay_send_command_from_edge_` for hop `target`. -/
  | originSend (relayCommand : UInt8) (target payloadLen maxPayload : Nat) (encodeOk : Bool)
      (pkg : PackageResult)
  /-- The relay at hop `hop` calls `relay_send_command_from_edge_`. -/
  | relaySend (hop : Nat) (relayCommand : UInt8) (payloadLen maxPayload : Nat) (encodeOk : Bool)
      (pkg : PackageResult)
  /-- The next hop of an outbound cell in flight receives it. -/
  | deliverOut (cell : OutCell)
  /-- The next party of an inbound cell in flight receives it. -/
  | deliverIn (cell : InCell)

/-- The result of one action. -/
inductive PathStep where
  | ok (s : PathState)
  /-- A circuit on the path was closed for a RELAY_EARLY reason. -/
  | earlyClosed
  /-- The origin wrote outside `relay_early_commands`. -/
  | outOfBounds

/-- Where the relay at hop `c.next` puts an outbound cell whose checks passed: nowhere when it
    recognizes the cell (it was sent to this hop), otherwise where `circuit_receive_relay_cell`
    forwards it. Returns the cells put back in flight and those handed to a splice. -/
def relayForwardOut (n : Nat) (spliced : Bool) (c : OutCell) : List OutCell × List CellCommand :=
  if c.next = c.target then ([], [])
  else match circuitReceiveRelayCellForward false .outward (decide (c.next + 1 < n)) spliced
      c.command with
    | .toChannel cmd => ([⟨cmd, c.target, c.next + 1⟩], [])
    | .toSplice cmd => ([], [cmd])
    | _ => ([], [])

/-- Where the relay at hop `j` puts an inbound cell whose checks passed: an `or_circuit_t` always
    has its `p_chan`, so the cell goes on toward the origin. -/
def relayForwardIn (spliced : Bool) (c : InCell) (j : Nat) : List InCell :=
  match circuitReceiveRelayCellForward false .inward true spliced c.command with
  | .toChannel cmd => [⟨cmd, j⟩]
  | _ => []

/-- One action on a path of `n` relays whose last hop is rendezvous-spliced when `spliced`.
    A relay runs the checks of `command_process_relay_cell` and then
    `circuit_receive_relay_cell`; the origin sees every cell inbound. -/
def pathStep (n : Nat) (spliced : Bool) (s : PathState) : PathAction → PathStep
  | .originSend relayCommand target payloadLen maxPayload encodeOk pkg =>
    match relaySendCommandFromEdge (.origin s.origin) relayCommand (decide (target = 0))
        payloadLen maxPayload encodeOk pkg with
    | none => .outOfBounds
    | some (.origin o, cell) => .ok { s with
        origin := o
        outbound := s.outbound ++ (cell.map fun x => (⟨x.2, target, 0⟩ : OutCell)).toList
        earlyLeft := s.earlyLeft + if cell = some (.outward, .relayEarly) then 1 else 0 }
    | some (.orCircuit, _) => .ok s
  | .relaySend hop relayCommand payloadLen maxPayload encodeOk pkg =>
    match relaySendCommandFromEdge .orCircuit relayCommand false payloadLen maxPayload encodeOk pkg
    with
    | some (_, some (_, c)) =>
      if hop < n then .ok { s with inbound := s.inbound ++ [⟨c, hop⟩] } else .ok s
    | _ => .ok s
  | .deliverOut c =>
    if c ∈ s.outbound ∧ c.next < n then
      match commandProcessRelayEarly (s.relays.getD c.next 0) c.command .outward with
      | .passed r => .ok { s with
          relays := s.relays.set c.next r
          outbound := s.outbound.erase c ++ (relayForwardOut n spliced c).1
          spliced := s.spliced ++ (relayForwardOut n spliced c).2 }
      | _ => .earlyClosed
    else .ok s
  | .deliverIn c =>
    if c ∈ s.inbound then
      match c.hopsLeft with
      | 0 =>
        match commandProcessRelayEarly 0 c.command .inward with
        | .passed _ => .ok { s with inbound := s.inbound.erase c }
        | _ => .earlyClosed
      | j + 1 =>
        match commandProcessRelayEarly (s.relays.getD j 0) c.command .inward with
        | .passed r => .ok { s with
            relays := s.relays.set j r
            inbound := s.inbound.erase c ++ relayForwardIn spliced c j }
        | _ => .earlyClosed
    else .ok s

/-- The states a fresh circuit of `n` relays reaches, over every interleaving of actions. -/
inductive PathReachable (n : Nat) (spliced : Bool) : PathState → Prop where
  | init : PathReachable n spliced (PathState.init n)
  | step {s s' : PathState} {a : PathAction} :
      PathReachable n spliced s → pathStep n spliced s a = .ok s' → PathReachable n spliced s'

/-! ## The invariant -/

/-- Whether an outbound cell is a RELAY_EARLY cell that hop `j` has still to process. -/
def OutCell.earlyFor (c : OutCell) (j : Nat) : Bool :=
  c.command = .relayEarly ∧ c.next ≤ j ∧ j ≤ c.target

/-- The RELAY_EARLY cells in flight that hop `j` has still to process. -/
def earlyAhead (out : List OutCell) (j : Nat) : Nat :=
  out.countP fun c => c.earlyFor j

@[simp] theorem earlyAhead_append (l l' : List OutCell) (j : Nat) :
    earlyAhead (l ++ l') j = earlyAhead l j + earlyAhead l' j :=
  List.countP_append ..

@[simp] theorem earlyAhead_nil (j : Nat) : earlyAhead [] j = 0 := rfl

@[simp] theorem earlyAhead_singleton (c : OutCell) (j : Nat) :
    earlyAhead [c] j = if c.earlyFor j then 1 else 0 :=
  List.countP_singleton ..

/-- Taking a cell out of flight takes off its own count. -/
theorem earlyAhead_erase {out : List OutCell} {c : OutCell} (hc : c ∈ out) (j : Nat) :
    earlyAhead out j = earlyAhead (out.erase c) j + if c.earlyFor j then 1 else 0 := by
  rw [earlyAhead, (List.perm_cons_erase hc).countP_eq, List.countP_cons]
  rfl

/-- A hop's counter after the hop at `j` has set its own. -/
theorem getD_set_counter (l : List Nat) (j r k : Nat) :
    (l.set j r).getD k 0 = if k = j ∧ j < l.length then r else l.getD k 0 := by
  simp only [List.getD_eq_getElem?_getD, List.getElem?_set]
  by_cases hk : k = j
  · subst hk
    by_cases h : k < l.length
    · simp [h]
    · simp [h, List.getElem?_eq_none (Nat.le_of_not_lt h)]
  · simp [hk, Ne.symm hk]

/-- The invariant of a path of `n` relays. -/
structure PathInv (n : Nat) (s : PathState) : Prop where
  /-- The origin's budget plus what it has spent is the maximum. -/
  budget : s.origin.remainingRelayEarlyCells + s.origin.relayEarlyCellsSent =
    MAX_RELAY_EARLY_CELLS_PER_CIRCUIT
  /-- `relay_early_commands` keeps its declared size. -/
  array : s.origin.relayEarlyCommands.length = MAX_RELAY_EARLY_CELLS_PER_CIRCUIT
  /-- Every RELAY_EARLY cell that left the origin was paid for. -/
  left_le_sent : s.earlyLeft ≤ s.origin.relayEarlyCellsSent
  relays_length : s.relays.length = n
  /-- Each hop's counter covers the origin's remaining budget and the RELAY_EARLY cells on their
      way to it. -/
  counter : ∀ j < n,
    s.origin.remainingRelayEarlyCells + earlyAhead s.outbound j ≤ s.relays.getD j 0
  next_le_target : ∀ c ∈ s.outbound, c.next ≤ c.target
  inbound_relay : ∀ c ∈ s.inbound, c.command = .relay
  spliced_relay : ∀ c ∈ s.spliced, c = .relay

theorem pathInv_init (n : Nat) : PathInv n (PathState.init n) where
  budget := rfl
  array := rfl
  left_le_sent := Nat.le_refl 0
  relays_length := List.length_replicate ..
  counter j hj := by
    simp [PathState.init, OriginEarly.init, earlyAhead, List.getElem?_replicate, hj]
  next_le_target := by simp [PathState.init]
  inbound_relay := by simp [PathState.init]
  spliced_relay := by simp [PathState.init]

/-! ## One step keeps the invariant -/

/-- A relay circuit's cells all go inward. -/
theorem relaySendCommandFromEdge_orCircuit {circ' : SendingCircuit} {relayCommand : UInt8}
    {toFirstHop encodeOk : Bool} {payloadLen maxPayload : Nat} {pkg : PackageResult}
    {dir : CellDirection} {cmd : CellCommand}
    (h : relaySendCommandFromEdge .orCircuit relayCommand toFirstHop payloadLen maxPayload
      encodeOk pkg = some (circ', some (dir, cmd))) : dir = .inward := by
  obtain ⟨-, h⟩ | ⟨dir', cmd', hs, h | h⟩ := relaySendCommandFromEdge_cases h <;>
    simp only [reduceCtorEq, Option.some.injEq, Prod.mk.injEq] at h
  obtain ⟨rfl, rfl⟩ := h
  simp only [relaySendCellCommand, Option.some.injEq, Prod.mk.injEq] at hs
  exact hs.1.symm

/-- Outbound, the checks pass whenever the counter can pay for a RELAY_EARLY cell, and take one
    off for it. -/
theorem commandProcessRelayEarly_outward {remaining : Nat} {command : CellCommand}
    (h : command = .relayEarly → 0 < remaining) :
    commandProcessRelayEarly remaining command .outward =
      .passed (remaining - if command = .relayEarly then 1 else 0) := by
  cases command
  · rfl
  · simp [commandProcessRelayEarly, Nat.pos_iff_ne_zero.mp (h rfl)]

/-- A relay puts an outbound cell back in flight one hop further with its command, or not at
    all, and hands a splice only `CELL_RELAY`. -/
theorem relayForwardOut_spec (n : Nat) (spliced : Bool) (c : OutCell) :
    ((relayForwardOut n spliced c).1 = [] ∨ c.next ≠ c.target ∧
      (relayForwardOut n spliced c).1 = [⟨c.command, c.target, c.next + 1⟩]) ∧
    ∀ x ∈ (relayForwardOut n spliced c).2, x = .relay := by
  have hcmd := circuitReceiveRelayCellForward_command false .outward (decide (c.next + 1 < n))
    spliced c.command
  unfold relayForwardOut
  split_ifs with h
  · simp
  · split
    · next cmd heq => simp [hcmd.1 cmd heq, h]
    · next cmd heq => simp [hcmd.2 cmd heq]
    · simp

/-- **Delivering a cell to its next hop takes its count off that hop**, and forwarding it adds
    it back only at the hops beyond. -/
theorem earlyAhead_deliver {out : List OutCell} {c : OutCell} (hc : c ∈ out)
    (hnt : c.next ≤ c.target) (n : Nat) (spliced : Bool) (k : Nat) :
    earlyAhead (out.erase c ++ (relayForwardOut n spliced c).1) k +
      (if k = c.next ∧ c.command = .relayEarly then 1 else 0) ≤ earlyAhead out k := by
  rw [earlyAhead_erase hc k]
  rcases (relayForwardOut_spec n spliced c).1 with h | ⟨-, h⟩ <;>
    by_cases hcmd : c.command = .relayEarly <;>
    simp only [h, hcmd, earlyAhead_append, earlyAhead_nil, earlyAhead_singleton, OutCell.earlyFor,
      true_and, and_true, and_false, false_and, decide_eq_true_eq, decide_False, if_false] <;>
    split_ifs <;> omega

section Step

variable {n : Nat} {spliced : Bool} {s : PathState}

/-- The origin's call never writes out of bounds, and keeps the invariant. -/
theorem pathStep_originSend (hi : PathInv n s) (relayCommand : UInt8)
    (target payloadLen maxPayload : Nat) (encodeOk : Bool) (pkg : PackageResult) :
    ∃ s', pathStep n spliced s
      (.originSend relayCommand target payloadLen maxPayload encodeOk pkg) = .ok s' ∧
      PathInv n s' := by
  rcases hr : relaySendCommandFromEdge (.origin s.origin) relayCommand (decide (target = 0))
      payloadLen maxPayload encodeOk pkg with _ | ⟨circ', cell⟩
  · exact absurd hr (relaySendCommandFromEdge_origin_ne_none hi.budget hi.array)
  obtain ⟨o', rfl, hout, hlen, hsum, hle, hpaid⟩ := relaySendCommandFromEdge_origin hr
  have hnew : ∀ j, earlyAhead (cell.map fun x => (⟨x.2, target, 0⟩ : OutCell)).toList j ≤
      if cell = some (.outward, .relayEarly) then 1 else 0 := by
    intro j
    rcases cell with _ | ⟨dir, cmd⟩
    · simp
    · obtain rfl := hout dir cmd rfl
      cases cmd
      · simp [OutCell.earlyFor]
      · simp only [Option.map_some', Option.toList_some, earlyAhead_singleton, if_true]
        split <;> simp
  refine ⟨_, by simp only [pathStep, hr]; rfl, ?_⟩
  have hb := hi.budget
  have hl := hi.left_le_sent
  exact {
    budget := by dsimp only; omega
    array := hlen.trans hi.array
    left_le_sent := by dsimp only; omega
    relays_length := hi.relays_length
    counter := fun j hj => by
      have := hi.counter j hj
      have := hnew j
      dsimp only
      rw [earlyAhead_append]
      omega
    next_le_target := fun c hc => by
      rcases List.mem_append.mp hc with hc | hc
      · exact hi.next_le_target c hc
      · rcases cell with _ | ⟨_, _⟩ <;> simp only [Option.map_none', Option.map_some',
          Option.toList_none, Option.toList_some, List.not_mem_nil, List.mem_singleton] at hc
        simp [hc]
    inbound_relay := hi.inbound_relay
    spliced_relay := hi.spliced_relay }

/-- A relay's call adds only `CELL_RELAY` cells to the inbound traffic. -/
theorem pathStep_relaySend (hi : PathInv n s) (hop : Nat) (relayCommand : UInt8)
    (payloadLen maxPayload : Nat) (encodeOk : Bool) (pkg : PackageResult) :
    ∃ s', pathStep n spliced s
      (.relaySend hop relayCommand payloadLen maxPayload encodeOk pkg) = .ok s' ∧
      PathInv n s' := by
  rcases hr : relaySendCommandFromEdge .orCircuit relayCommand false payloadLen maxPayload
      encodeOk pkg with _ | ⟨circ', _ | ⟨dir, cmd⟩⟩
  · exact ⟨s, by simp only [pathStep, hr], hi⟩
  · exact ⟨s, by simp only [pathStep, hr], hi⟩
  obtain rfl := relaySendCommandFromEdge_orCircuit hr
  -- an inbound cell is never RELAY_EARLY
  have hcmd := relaySendCommandFromEdge_inward hr
  by_cases hop_lt : hop < n
  · refine ⟨_, by simp only [pathStep, hr, if_pos hop_lt]; rfl, ?_⟩
    exact { hi with
      inbound_relay := fun x hx => by
        rcases List.mem_append.mp hx with hx | hx
        · exact hi.inbound_relay x hx
        · simp [List.mem_singleton.mp hx, hcmd] }
  · exact ⟨s, by simp only [pathStep, hr, if_neg hop_lt], hi⟩

/-- A relay never closes on an outbound cell: its counter pays for every RELAY_EARLY one. -/
theorem pathStep_deliverOut (hi : PathInv n s) (c : OutCell) :
    ∃ s', pathStep n spliced s (.deliverOut c) = .ok s' ∧ PathInv n s' := by
  by_cases hc : c ∈ s.outbound ∧ c.next < n
  swap
  · exact ⟨s, by simp only [pathStep, if_neg hc], hi⟩
  obtain ⟨hmem, hj⟩ := hc
  have hdel := earlyAhead_deliver hmem (hi.next_le_target c hmem) n spliced
  have hpay : c.command = .relayEarly → 0 < s.relays.getD c.next 0 := fun h => by
    have := hi.counter _ hj
    have := hdel c.next
    simp only [h, and_self, if_true] at this
    omega
  have hlen := hi.relays_length
  obtain ⟨hfwd, hsp⟩ := relayForwardOut_spec n spliced c
  refine ⟨_, by simp only [pathStep, if_pos (And.intro hmem hj),
    commandProcessRelayEarly_outward hpay]; rfl, ?_⟩
  exact {
    budget := hi.budget
    array := hi.array
    left_le_sent := hi.left_le_sent
    relays_length := by simp [hlen]
    counter := fun k hk => by
      have hk' := hi.counter k hk
      have hd := hdel k
      dsimp only
      rw [getD_set_counter]
      by_cases hkc : k = c.next
      · subst hkc
        by_cases he : c.command = .relayEarly
        · have := hpay he
          simp only [he, hlen, hj, and_self, if_true] at hd ⊢
          omega
        · simp only [he, hlen, hj, and_self, and_false, if_true, if_false] at hd ⊢
          omega
      · simp only [hkc, false_and, if_false] at hd ⊢
        omega
    next_le_target := fun x hx => by
      rcases List.mem_append.mp hx with hx | hx
      · exact hi.next_le_target x (List.mem_of_mem_erase hx)
      · rcases hfwd with h | ⟨hne, h⟩ <;> simp only [h, List.mem_singleton,
          List.not_mem_nil] at hx
        have := hi.next_le_target c hmem
        subst hx
        dsimp only
        omega
    inbound_relay := hi.inbound_relay
    spliced_relay := fun x hx => by
      rcases List.mem_append.mp hx with hx | hx
      · exact hi.spliced_relay x hx
      · exact hsp x hx }

/-- Every inbound cell is a `CELL_RELAY`, so neither a relay nor the origin closes on one. -/
theorem pathStep_deliverIn (hi : PathInv n s) (c : InCell) :
    ∃ s', pathStep n spliced s (.deliverIn c) = .ok s' ∧ PathInv n s' := by
  by_cases hc : c ∈ s.inbound
  swap
  · exact ⟨s, by simp only [pathStep, if_neg hc], hi⟩
  have hrelay := hi.inbound_relay c hc
  have hrest : ∀ x ∈ s.inbound.erase c, x.command = .relay :=
    fun x hx => hi.inbound_relay x (List.mem_of_mem_erase hx)
  rcases hh : c.hopsLeft with _ | j
  · refine ⟨_, by simp only [pathStep, if_pos hc, hh, hrelay, commandProcessRelayEarly]; rfl, ?_⟩
    exact { hi with inbound_relay := hrest }
  · refine ⟨_, by simp only [pathStep, if_pos hc, hh, hrelay, commandProcessRelayEarly]; rfl, ?_⟩
    have hfwd : relayForwardIn spliced c j = [⟨.relay, j⟩] := by
      simp [relayForwardIn, circuitReceiveRelayCellForward, hrelay]
    exact { hi with
      relays_length := by simp [hi.relays_length]
      counter := fun k hk => by
        have := hi.counter k hk
        dsimp only
        rw [getD_set_counter]
        split_ifs with h
        · rwa [← h.1]
        · exact this
      inbound_relay := fun x hx => by
        rcases List.mem_append.mp hx with hx | hx
        · exact hrest x hx
        · simp only [hfwd, List.mem_singleton] at hx
          simp [hx] }

/-- **From a state satisfying the invariant, every action succeeds and keeps it.** -/
theorem pathStep_inv (hi : PathInv n s) :
    ∀ a, ∃ s', pathStep n spliced s a = .ok s' ∧ PathInv n s'
  | .originSend relayCommand target payloadLen maxPayload encodeOk pkg =>
    pathStep_originSend hi relayCommand target payloadLen maxPayload encodeOk pkg
  | .relaySend hop relayCommand payloadLen maxPayload encodeOk pkg =>
    pathStep_relaySend hi hop relayCommand payloadLen maxPayload encodeOk pkg
  | .deliverOut c => pathStep_deliverOut hi c
  | .deliverIn c => pathStep_deliverIn hi c

end Step

/-- The invariant holds in every reachable state. -/
theorem reachable_pathInv {n : Nat} {spliced : Bool} {s : PathState}
    (h : PathReachable n spliced s) : PathInv n s := by
  induction h with
  | init => exact pathInv_init n
  | @step s s' a _ hs ih =>
    obtain ⟨s'', hs'', hi⟩ := pathStep_inv ih a
    obtain rfl : s' = s'' := PathStep.ok.inj (hs.symm.trans hs'')
    exact hi

/-- **The RELAY_EARLY budget holds along the whole path.** Under any interleaving from a fresh
    circuit, the origin's budget plus what it sent stays the maximum and bounds its RELAY_EARLY
    cells, inbound cells are `CELL_RELAY`, and no action writes out of bounds or closes for it. -/
theorem relayEarly_budget_safe {n : Nat} {spliced : Bool} {s : PathState}
    (h : PathReachable n spliced s) :
    s.origin.remainingRelayEarlyCells + s.origin.relayEarlyCellsSent =
        MAX_RELAY_EARLY_CELLS_PER_CIRCUIT ∧
      s.earlyLeft ≤ MAX_RELAY_EARLY_CELLS_PER_CIRCUIT ∧
      (∀ c ∈ s.inbound, c.command = .relay) ∧
      ∀ a, pathStep n spliced s a ≠ .earlyClosed ∧ pathStep n spliced s a ≠ .outOfBounds := by
  have hi := reachable_pathInv h
  refine ⟨hi.budget, by have := hi.left_le_sent; have := hi.budget; omega, hi.inbound_relay,
    fun a => ?_⟩
  obtain ⟨s', hs, -⟩ := @pathStep_inv n spliced s hi a
  simp [hs]

/-- A fresh three-hop circuit, spliced at its last hop, after the origin sent an EXTEND2 to the
    last hop, the first relay forwarded it, and the origin sent a DATA cell (command 2) to the
    second hop: two RELAY_EARLY cells in flight, one past the first relay. -/
def earlyInFlight : PathState :=
  ⟨⟨6, 2, [14, 2, 0, 0, 0, 0, 0, 0]⟩, [7, 8, 8], [⟨.relayEarly, 2, 1⟩, ⟨.relayEarly, 1, 0⟩], [],
    [], 2⟩

theorem earlyInFlight_reachable : PathReachable 3 true earlyInFlight := by
  have h₁ : pathStep 3 true (PathState.init 3)
      (.originSend RELAY_COMMAND_EXTEND2 2 10 498 true .queued) =
      .ok ⟨⟨7, 1, [14, 0, 0, 0, 0, 0, 0, 0]⟩, [8, 8, 8], [⟨.relayEarly, 2, 0⟩], [], [], 1⟩ := rfl
  have h₂ : pathStep 3 true ⟨⟨7, 1, [14, 0, 0, 0, 0, 0, 0, 0]⟩, [8, 8, 8], [⟨.relayEarly, 2, 0⟩],
      [], [], 1⟩ (.deliverOut ⟨.relayEarly, 2, 0⟩) =
      .ok ⟨⟨7, 1, [14, 0, 0, 0, 0, 0, 0, 0]⟩, [7, 8, 8], [⟨.relayEarly, 2, 1⟩], [], [], 1⟩ := rfl
  have h₃ : pathStep 3 true ⟨⟨7, 1, [14, 0, 0, 0, 0, 0, 0, 0]⟩, [7, 8, 8],
      [⟨.relayEarly, 2, 1⟩], [], [], 1⟩ (.originSend 2 1 10 498 true .queued) =
      .ok earlyInFlight := rfl
  exact .step (.step (.step .init h₁) h₂) h₃

/-- The budget holds with two RELAY_EARLY cells in flight. -/
theorem relayEarly_budget_safe_earlyInFlight :
    PathReachable 3 true earlyInFlight ∧
      (earlyInFlight.origin.remainingRelayEarlyCells + earlyInFlight.origin.relayEarlyCellsSent =
          MAX_RELAY_EARLY_CELLS_PER_CIRCUIT ∧
        earlyInFlight.earlyLeft ≤ MAX_RELAY_EARLY_CELLS_PER_CIRCUIT ∧
        (∀ c ∈ earlyInFlight.inbound, c.command = .relay) ∧
        ∀ a, pathStep 3 true earlyInFlight a ≠ .earlyClosed ∧
          pathStep 3 true earlyInFlight a ≠ .outOfBounds) :=
  ⟨earlyInFlight_reachable, relayEarly_budget_safe earlyInFlight_reachable⟩

end TorCore
