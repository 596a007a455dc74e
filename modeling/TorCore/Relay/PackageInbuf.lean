import TorCore.Relay.RelayEarly
import TorCore.Sendme.Randomness

/-!
# `TorCore.Relay.PackageInbuf` — packaging a stream's bytes into DATA cells

`connection_edge_package_raw_inbuf` takes bytes from a stream, out of the optimistic buffer of an
AP connection that is replaying data or else off the inbuf, and sends them as RELAY_DATA cells
until something stops it: no circuit, a circuit or stream package window at zero, no full cell's
worth of bytes, a failed send (a circuit already marked for close refuses the first cell), a
stream window note below zero (under flow control, an XOFF), or the `*max_cells` budget. The loop is a `goto`; here one pass is `packageOne` and the loop is
`packageLoop`, whose fuel, the bytes waiting plus one, always suffices (each pass that goes on
takes at least one byte).

What the code learns from elsewhere is an argument of the call (`PackageEnv`): whether the stream
is an AP connection and open, the maximum DATA payload, the RNG draws of the padding schedule,
the outcome of `circuit_package_relay_cell` for each cell, and, on a circuit with congestion
control, the package window, whose code is not in the sources. Each cell handed to
`connection_edge_send_command` is recorded by its length in the result.

## Contents
- **The code.** `EdgeCirc`, `EdgeStream`, `PackageEnv`; `connectionEdgeSendCommand`,
  `sendmeNoteStreamDataPackaged`, `packageOne`, `packageLoop`, `connectionEdgePackageRawInbuf`.
- **One pass.** `packageOne_cases` and `packageSend_cases` say what a pass can do;
  `packageSend_sent` when it goes on, `packageSend_xoff` when an XOFF stops it.
- **The budget.** `packageLoop_maxCells`, over the rest of a run, and
  `connectionEdgePackageRawInbuf_maxCells`: the call returns with at most `*max_cells` cells, and
  `*max_cells` falls by the number of cells or by one less; by exactly the number on a circuit
  not marked for close, with no XOFF under flow control and no failed send; not at all after an
  XOFF under flow control, though a cell can be sent.
- **What a call takes.** `Takes`, `packageLoop_takes`, `packageLoop_returns`,
  `connectionEdgePackageRawInbuf_takes`: under every `*max_cells`, `NULL` included, the call
  returns; its cells, of a byte or more each, come off the bytes waiting; no window grows, and
  none falls below zero from zero or more; `*max_cells` falls by at most the number of cells.
-/

namespace TorCore

/-! ## The stream, its circuit, and what the call learns from elsewhere -/

/-- The circuit a stream packages onto, at the stream's layer: whether it is marked for close,
    whether it has a congestion-control object, its fixed package window
    (`layer_hint->package_window` or `circ->package_window`), and its padding schedule. -/
structure EdgeCirc where
  markedForClose : Bool
  ccontrol : Bool
  packageWindow : Int
  randomness : SendmeRandomness
  deriving DecidableEq, Repr

/-- An edge stream: its mark, whether its circuit is found, `package_window`, flow control and
    `xoff_received`, the inbuf's length, and the lengths of `sending_optimistic_data` and
    `pending_optimistic_data` (`none` for `NULL`). -/
structure EdgeStream where
  markedForClose : Bool
  onCircuit : Bool
  packageWindow : Int
  usesFlowControl : Bool
  xoffReceived : Bool
  inbuf : Nat
  sendingOptimisticData : Option Nat
  pendingOptimisticData : Option Nat
  deriving DecidableEq, Repr

/-- The bytes waiting to be packaged: on the inbuf and in the optimistic buffer. -/
def EdgeStream.waiting (s : EdgeStream) : Nat := s.inbuf + s.sendingOptimisticData.getD 0

/-- What a call learns from elsewhere: whether the stream is an open AP connection, the maximum
    DATA payload, and for the `k`-th cell the padding draw, the outcome of
    `circuit_package_relay_cell` (`failed` also for a failed encode) and the congestion window. -/
structure PackageEnv where
  isAp : Bool
  apOpen : Bool
  maxPayload : Nat
  draw : Nat → Nat
  packageRelayCell : Nat → PackageResult
  ccPackageWindow : Nat → Int

/-! ## The code -/

section Code

variable (env : PackageEnv)

/-- `circuit_get_package_window` and `congestion_control_get_package_window`, which are not in
    the sources: the fixed window, or under congestion control the window the call is given. -/
def circuitGetPackageWindow (k : Nat) (circ : EdgeCirc) : Int :=
  if circ.ccontrol then env.ccPackageWindow k else circ.packageWindow

/-- `circuit_consider_stop_edge_reading`: whether the circuit's package window is empty. -/
def circuitConsiderStopEdgeReading (k : Nat) (circ : EdgeCirc) : Bool :=
  decide (circuitGetPackageWindow env k circ ≤ 0)

/-- `sendme_note_circuit_data_packaged` after the `k`-th cell: the fixed window loses one; under
    congestion control `congestion_control_note_cell_sent` counts it. The window is returned. -/
def sendmeNoteCircuitDataPackaged (k : Nat) (circ : EdgeCirc) : Int × EdgeCirc :=
  let circ := if circ.ccontrol then circ else { circ with packageWindow := circ.packageWindow - 1 }
  (circuitGetPackageWindow env (k + 1) circ, circ)

/-- `relay_send_command_from_edge` for the `k`-th DATA cell, of `length` bytes: `-1`, with the
    circuit marked for close, for a payload past the maximum, a failure to package, or a circuit
    window below zero after the cell; `0` otherwise, also for a dropped cell. -/
def relaySendCommandFromEdgeData (k length : Nat) (circ : EdgeCirc) : Int × EdgeCirc :=
  if length > env.maxPayload then (-1, { circ with markedForClose := true })
  else match env.packageRelayCell k with
    | .failed => (-1, { circ with markedForClose := true })
    | .dropped => (0, circ)
    | .queued =>
      let r := sendmeNoteCircuitDataPackaged env k circ
      if r.1 < 0 then (-1, { r.2 with markedForClose := true }) else (0, r.2)

/-- `connection_edge_send_command (conn, RELAY_COMMAND_DATA, payload, length)`: `0` from a stream
    marked for close, `-1` (marking it) from one without a circuit, and `-1` on a circuit already
    marked for close, which marks the stream when it is freed. -/
def connectionEdgeSendCommand (k length : Nat) (circ : EdgeCirc) (s : EdgeStream) :
    Int × EdgeCirc × EdgeStream :=
  if s.markedForClose then (0, circ, s)
  else if s.onCircuit = false then (-1, circ, { s with markedForClose := true })
  else if circ.markedForClose then (-1, circ, s)
  else
    let r := relaySendCommandFromEdgeData env k length circ
    (r.1, r.2, s)

/-- `sendme_note_stream_data_packaged`: under flow control `-1` after an XOFF and `1` otherwise;
    without it, the package window after losing one. -/
def sendmeNoteStreamDataPackaged (s : EdgeStream) : Int × EdgeStream :=
  if s.usesFlowControl then (if s.xoffReceived then -1 else 1, s)
  else (s.packageWindow - 1, { s with packageWindow := s.packageWindow - 1 })

/-- How one pass of the loop ends: returning `ret` with no cell packaged, returning `0` after
    packaging a cell of `length` bytes, or going on after one. -/
inductive PackageStep where
  | stop (ret : Int) (circ : EdgeCirc) (s : EdgeStream)
  | sentStop (length : Nat) (circ : EdgeCirc) (s : EdgeStream)
  | sent (length : Nat) (circ : EdgeCirc) (s : EdgeStream)

/-- `length` bytes taken from the optimistic buffer (`buf_get_bytes`, the buffer freed once
    empty) or off the inbuf (`connection_buf_get_bytes`), and, for new data an AP connection
    sends before it is open, added to `pending_optimistic_data`. -/
def takeBytes (fromOptimistic : Bool) (length : Nat) (s : EdgeStream) : EdgeStream :=
  let s := if fromOptimistic then
      { s with sendingOptimisticData :=
          if s.sendingOptimisticData.getD 0 - length = 0 then none
          else some (s.sendingOptimisticData.getD 0 - length) }
    else { s with inbuf := s.inbuf - length }
  if env.isAp && !env.apOpen && !fromOptimistic then
    { s with pendingOptimisticData := some (s.pendingOptimisticData.getD 0 + length) }
  else s

/-- The end of a pass once the bytes are taken: the cell is sent, then the stream window
    noted. -/
def packageSend (k length : Nat) (circ : EdgeCirc) (s : EdgeStream) : PackageStep :=
  let sent := connectionEdgeSendCommand env k length circ s
  if sent.1 < 0 then .sentStop length sent.2.1 sent.2.2
  else
    let noted := sendmeNoteStreamDataPackaged sent.2.2
    if noted.1 < 0 then .sentStop length sent.2.1 noted.2
    else .sent length sent.2.1 noted.2

/-- One pass of `connection_edge_package_raw_inbuf` from `repeat_connection_edge_package_raw_inbuf`
    to the `*max_cells` update, `k` cells having been packaged. -/
def packageOne (packagePartial : Bool) (k : Nat) (circ : EdgeCirc) (s : EdgeStream) :
    PackageStep :=
  if s.onCircuit = false then .stop (-1) circ s
  else if circuitConsiderStopEdgeReading env k circ then .stop 0 circ s
  else if s.packageWindow ≤ 0 then .stop 0 circ s
  else
    let fromOptimistic := env.isAp && s.sendingOptimisticData.getD 0 != 0
    let bytesToProcess := if fromOptimistic then s.sendingOptimisticData.getD 0 else s.inbuf
    let pkg := connectionEdgeGetInbufBytesToPackage
      ⟨bytesToProcess, packagePartial, env.maxPayload, env.draw k⟩ circ.randomness
    let circ := { circ with randomness := pkg.circ }
    if pkg.packageLength = 0 then .stop 0 circ s
    else packageSend env k pkg.packageLength circ (takeBytes env fromOptimistic pkg.packageLength s)

/-- What a call returns: its return value, the circuit and the stream afterwards, `*max_cells`
    (`none` for a `NULL` pointer), and the lengths of the DATA cells it handed to
    `connection_edge_send_command`, in order. -/
structure RawInbufResult where
  ret : Int
  circ : EdgeCirc
  stream : EdgeStream
  maxCells : Option Int
  cells : List Nat
  deriving DecidableEq, Repr

/-- The `goto` loop, `cells` having been packaged so far. -/
def packageLoop (packagePartial : Bool) :
    Nat → List Nat → EdgeCirc → EdgeStream → Option Int → Option RawInbufResult
  | 0, _, _, _, _ => none
  | fuel + 1, cells, circ, s, maxCells =>
    match packageOne env packagePartial cells.length circ s with
    | .stop r circ s => some ⟨r, circ, s, maxCells, cells⟩
    | .sentStop length circ s => some ⟨0, circ, s, maxCells, cells ++ [length]⟩
    | .sent length circ s =>
      match maxCells with
      | none => packageLoop packagePartial fuel (cells ++ [length]) circ s none
      | some m =>
        if m - 1 ≤ 0 then some ⟨0, circ, s, some (m - 1), cells ++ [length]⟩
        else packageLoop packagePartial fuel (cells ++ [length]) circ s (some (m - 1))

/-- `connection_edge_package_raw_inbuf (conn, package_partial, max_cells)`. -/
def connectionEdgePackageRawInbuf (circ : EdgeCirc) (s : EdgeStream) (packagePartial : Bool)
    (maxCells : Option Int) : Option RawInbufResult :=
  if s.markedForClose then some ⟨0, circ, s, maxCells, []⟩
  else match maxCells with
    | some m =>
      if m ≤ 0 then some ⟨0, circ, s, maxCells, []⟩
      else packageLoop env packagePartial (s.waiting + 1) [] circ s maxCells
    | none => packageLoop env packagePartial (s.waiting + 1) [] circ s none

end Code

/-! ## One pass -/

section Pass

variable (env : PackageEnv)

@[simp] theorem packageTail_packageLength (p w draw : Nat) (c : SendmeRandomness) :
    (packageTail p w draw c).packageLength = p := rfl

/-- `connection_edge_get_inbuf_bytes_to_package` takes no more than is available. -/
theorem connectionEdgeGetInbufBytesToPackage_le (n : Nat) (packagePartial : Bool) (t draw : Nat)
    (c : SendmeRandomness) :
    (connectionEdgeGetInbufBytesToPackage ⟨n, packagePartial, t, draw⟩ c).packageLength ≤ n := by
  simp only [connectionEdgeGetInbufBytesToPackage]
  split_ifs <;> simp <;> omega

/-- With a maximum payload `t` of at least `RELAY_CELL_PADDING_GAP + 16` bytes, it takes no more
    than `t`. -/
theorem connectionEdgeGetInbufBytesToPackage_le_target (n : Nat) (packagePartial : Bool)
    {t : Nat} (draw : Nat) (c : SendmeRandomness) (h : RELAY_CELL_PADDING_GAP + 16 ≤ t) :
    (connectionEdgeGetInbufBytesToPackage ⟨n, packagePartial, t, draw⟩ c).packageLength ≤ t := by
  simp only [connectionEdgeGetInbufBytesToPackage,
    sizeSub_of_le (show RELAY_CELL_PADDING_GAP ≤ t by omega),
    sizeSub_of_le (show 16 ≤ t - RELAY_CELL_PADDING_GAP by omega)]
  split_ifs <;> simp <;> omega

/-- Taking bytes moves them out of the stream and touches neither its circuit nor its windows
    and flags. -/
theorem takeBytes_waiting {f : Bool} {length : Nat} {s : EdgeStream}
    (h : length ≤ if f then s.sendingOptimisticData.getD 0 else s.inbuf) :
    (takeBytes env f length s).waiting + length = s.waiting ∧
      (takeBytes env f length s).onCircuit = s.onCircuit ∧
      (takeBytes env f length s).packageWindow = s.packageWindow ∧
      (takeBytes env f length s).usesFlowControl = s.usesFlowControl ∧
      (takeBytes env f length s).xoffReceived = s.xoffReceived := by
  cases f <;> simp only [takeBytes, Bool.false_eq_true, ↓reduceIte, Bool.not_true,
    Bool.not_false, Bool.and_false, Bool.and_true] at h ⊢ <;> split_ifs <;>
    simp [EdgeStream.waiting] at * <;> omega

/-- `connection_edge_send_command` moves no byte of the stream and touches neither its
    flow-control flags nor its window. -/
theorem connectionEdgeSendCommand_stream (k length : Nat) (circ : EdgeCirc) (s : EdgeStream) :
    (connectionEdgeSendCommand env k length circ s).2.2.waiting = s.waiting ∧
      (connectionEdgeSendCommand env k length circ s).2.2.usesFlowControl = s.usesFlowControl ∧
      (connectionEdgeSendCommand env k length circ s).2.2.xoffReceived = s.xoffReceived ∧
      (connectionEdgeSendCommand env k length circ s).2.2.packageWindow = s.packageWindow := by
  unfold connectionEdgeSendCommand
  split_ifs <;> exact ⟨rfl, rfl, rfl, rfl⟩

/-- Noting a packaged cell leaves the circuit's congestion-control flag, and takes one off its
    fixed window unless it has congestion control. -/
theorem sendmeNoteCircuitDataPackaged_circ (k : Nat) (circ : EdgeCirc) :
    (sendmeNoteCircuitDataPackaged env k circ).2.ccontrol = circ.ccontrol ∧
      circ.packageWindow - 1 ≤ (sendmeNoteCircuitDataPackaged env k circ).2.packageWindow ∧
      (sendmeNoteCircuitDataPackaged env k circ).2.packageWindow ≤ circ.packageWindow := by
  unfold sendmeNoteCircuitDataPackaged
  cases hc : circ.ccontrol <;> simp [hc]

/-- A DATA cell leaves the circuit's congestion-control flag, and takes at most one off its fixed
    window. -/
theorem relaySendCommandFromEdgeData_circ (k length : Nat) (circ : EdgeCirc) :
    (relaySendCommandFromEdgeData env k length circ).2.ccontrol = circ.ccontrol ∧
      circ.packageWindow - 1 ≤ (relaySendCommandFromEdgeData env k length circ).2.packageWindow ∧
      (relaySendCommandFromEdgeData env k length circ).2.packageWindow ≤ circ.packageWindow := by
  have hw : circ.packageWindow - 1 ≤ circ.packageWindow := by omega
  unfold relaySendCommandFromEdgeData
  by_cases h : length > env.maxPayload
  · exact if_pos h ▸ ⟨rfl, hw, le_rfl⟩
  rw [if_neg h]
  cases env.packageRelayCell k with
  | failed => exact ⟨rfl, hw, le_rfl⟩
  | dropped => exact ⟨rfl, hw, le_rfl⟩
  | queued =>
    dsimp only
    split_ifs <;> exact sendmeNoteCircuitDataPackaged_circ env k circ

theorem connectionEdgeSendCommand_circ (k length : Nat) (circ : EdgeCirc) (s : EdgeStream) :
    (connectionEdgeSendCommand env k length circ s).2.1.ccontrol = circ.ccontrol ∧
      circ.packageWindow - 1 ≤ (connectionEdgeSendCommand env k length circ s).2.1.packageWindow ∧
      (connectionEdgeSendCommand env k length circ s).2.1.packageWindow ≤ circ.packageWindow := by
  have hw : circ.packageWindow - 1 ≤ circ.packageWindow := by omega
  unfold connectionEdgeSendCommand
  split_ifs
  · exact ⟨rfl, hw, le_rfl⟩
  · exact ⟨rfl, hw, le_rfl⟩
  · exact ⟨rfl, hw, le_rfl⟩
  · exact relaySendCommandFromEdgeData_circ env k length circ

/-- `relay_send_command_from_edge` marks the circuit exactly when it fails. -/
theorem relaySendCommandFromEdgeData_marked {k length : Nat} {circ : EdgeCirc}
    (h : ¬ (relaySendCommandFromEdgeData env k length circ).1 < 0) :
    (relaySendCommandFromEdgeData env k length circ).2.markedForClose = circ.markedForClose := by
  unfold relaySendCommandFromEdgeData at h ⊢
  by_cases hl : length > env.maxPayload
  · rw [if_pos hl] at h
    exact (h (by decide : (-1 : Int) < 0)).elim
  rw [if_neg hl] at h ⊢
  cases hp : env.packageRelayCell k with
  | failed => rw [hp] at h; exact (h (by decide : (-1 : Int) < 0)).elim
  | dropped => rfl
  | queued =>
    simp only [hp] at h ⊢
    split_ifs at h ⊢
    · exact (h (by decide : (-1 : Int) < 0)).elim
    · unfold sendmeNoteCircuitDataPackaged
      split <;> rfl

/-- A send that does not fail leaves the circuit's mark as it was. -/
theorem connectionEdgeSendCommand_marked {k length : Nat} {circ : EdgeCirc} {s : EdgeStream}
    (h : ¬ (connectionEdgeSendCommand env k length circ s).1 < 0) :
    (connectionEdgeSendCommand env k length circ s).2.1.markedForClose = circ.markedForClose := by
  unfold connectionEdgeSendCommand at h ⊢
  split_ifs at h ⊢
  · rfl
  · exact (h (by decide : (-1 : Int) < 0)).elim
  · exact (h (by decide : (-1 : Int) < 0)).elim
  · exact relaySendCommandFromEdgeData_marked env h

theorem sendmeNoteStreamDataPackaged_stream (s : EdgeStream) :
    (sendmeNoteStreamDataPackaged s).2.waiting = s.waiting ∧
      (sendmeNoteStreamDataPackaged s).2.usesFlowControl = s.usesFlowControl ∧
      (sendmeNoteStreamDataPackaged s).2.xoffReceived = s.xoffReceived ∧
      s.packageWindow - 1 ≤ (sendmeNoteStreamDataPackaged s).2.packageWindow ∧
      (sendmeNoteStreamDataPackaged s).2.packageWindow ≤ s.packageWindow := by
  unfold sendmeNoteStreamDataPackaged
  split_ifs <;> exact ⟨rfl, rfl, rfl, by dsimp only; omega, by dsimp only; omega⟩

/-- The end of a pass hands its cell over, and the pass stops or goes on; each of the circuit's
    and the stream's windows loses at most the one cell. -/
theorem packageSend_cases (k length : Nat) (circ : EdgeCirc) (s : EdgeStream) :
    ∃ circ' s', (packageSend env k length circ s = .sentStop length circ' s' ∨
        packageSend env k length circ s = .sent length circ' s') ∧
      s'.waiting = s.waiting ∧ s'.usesFlowControl = s.usesFlowControl ∧
      s'.xoffReceived = s.xoffReceived ∧ circ'.ccontrol = circ.ccontrol ∧
      circ.packageWindow - 1 ≤ circ'.packageWindow ∧ circ'.packageWindow ≤ circ.packageWindow ∧
      s.packageWindow - 1 ≤ s'.packageWindow ∧ s'.packageWindow ≤ s.packageWindow := by
  obtain ⟨h₁, h₂, h₃, h₇⟩ := connectionEdgeSendCommand_stream env k length circ s
  obtain ⟨c₁, c₂, c₃⟩ := connectionEdgeSendCommand_circ env k length circ s
  obtain ⟨h₄, h₅, h₆, h₈, h₉⟩ :=
    sendmeNoteStreamDataPackaged_stream (connectionEdgeSendCommand env k length circ s).2.2
  rw [h₇] at h₈ h₉
  simp only [packageSend]
  split_ifs
  · exact ⟨_, _, .inl rfl, h₁, h₂, h₃, c₁, c₂, c₃, by omega, h₇.le⟩
  · exact ⟨_, _, .inl rfl, h₄.trans h₁, h₅.trans h₂, h₆.trans h₃, c₁, c₂, c₃, h₈, h₉⟩
  · exact ⟨_, _, .inr rfl, h₄.trans h₁, h₅.trans h₂, h₆.trans h₃, c₁, c₂, c₃, h₈, h₉⟩

/-- After an XOFF under flow control, the pass stops once its cell is handed over. -/
theorem packageSend_xoff {s : EdgeStream} (hfc : s.usesFlowControl = true)
    (hx : s.xoffReceived = true) (k length : Nat) (circ : EdgeCirc) :
    ∃ circ' s', packageSend env k length circ s = .sentStop length circ' s' := by
  obtain ⟨-, h₂, h₃, -⟩ := connectionEdgeSendCommand_stream env k length circ s
  have hn : (sendmeNoteStreamDataPackaged
      (connectionEdgeSendCommand env k length circ s).2.2).1 = -1 := by
    simp [sendmeNoteStreamDataPackaged, h₂, h₃, hfc, hx]
  simp only [packageSend]
  split_ifs with _ h
  · exact ⟨_, _, rfl⟩
  · exact ⟨_, _, rfl⟩
  · exact absurd (hn ▸ (by decide : (-1 : Int) < 0)) h

/-- A cell within the maximum payload, on a circuit whose package window it leaves at zero or
    more, is sent (`0`) unless `circuit_package_relay_cell` fails. -/
theorem relaySendCommandFromEdgeData_ok {k length : Nat} {circ : EdgeCirc}
    (hlen : length ≤ env.maxPayload) (hq : env.packageRelayCell k ≠ .failed)
    (hcw : if circ.ccontrol then 0 ≤ env.ccPackageWindow (k + 1) else 0 < circ.packageWindow) :
    (relaySendCommandFromEdgeData env k length circ).1 = 0 := by
  unfold relaySendCommandFromEdgeData
  rw [if_neg (by omega)]
  cases h : env.packageRelayCell k with
  | failed => exact absurd h hq
  | dropped => rfl
  | queued =>
    cases hc : circ.ccontrol <;>
      simp only [hc, sendmeNoteCircuitDataPackaged, circuitGetPackageWindow, ↓reduceIte,
        Bool.false_eq_true] at hcw ⊢ <;>
      rw [if_neg (by omega)]

/-- Such a cell, from a stream on its circuit, on a circuit not marked for close, goes on unless
    the stream window note is below zero. -/
theorem packageSend_sent (k length : Nat) (circ : EdgeCirc) (s : EdgeStream)
    (hon : s.onCircuit = true) (hmk : circ.markedForClose = false) (hlen : length ≤ env.maxPayload)
    (hq : env.packageRelayCell k ≠ .failed)
    (hcw : if circ.ccontrol then 0 ≤ env.ccPackageWindow (k + 1) else 0 < circ.packageWindow)
    (hsw : if s.usesFlowControl then s.xoffReceived = false else 0 < s.packageWindow) :
    ∃ circ' s', packageSend env k length circ s = .sent length circ' s' := by
  have hsend : (connectionEdgeSendCommand env k length circ s).1 = 0 ∧
      (connectionEdgeSendCommand env k length circ s).2.2 = s := by
    unfold connectionEdgeSendCommand
    split_ifs
    · exact ⟨rfl, rfl⟩
    · simp_all
    · simp_all
    · exact ⟨relaySendCommandFromEdgeData_ok env hlen hq hcw, rfl⟩
  have hnote : ¬ (sendmeNoteStreamDataPackaged s).1 < 0 := by
    unfold sendmeNoteStreamDataPackaged
    split_ifs at hsw ⊢ <;> simp_all
    omega
  simp only [packageSend, hsend.1, hsend.2, lt_irrefl, ↓reduceIte, hnote]
  exact ⟨_, _, rfl⟩

/-- A pass that goes on leaves the circuit's mark as it was. -/
theorem packageSend_sent_marked {k length : Nat} {circ circ' : EdgeCirc} {s s' : EdgeStream}
    (h : packageSend env k length circ s = .sent length circ' s') :
    circ'.markedForClose = circ.markedForClose := by
  unfold packageSend at h
  dsimp only at h
  split_ifs at h with h₁
  cases h
  exact connectionEdgeSendCommand_marked env h₁

/-- **One pass.** A pass stops with the stream as it was, or, with its circuit and both windows
    open, hands `length > 0` waiting bytes to `packageSend`; either way the circuit keeps its
    congestion-control flag, its window and its mark. -/
theorem packageOne_cases (packagePartial : Bool) (k : Nat) (circ : EdgeCirc) (s : EdgeStream) :
    (∃ r circ', packageOne env packagePartial k circ s = .stop r circ' s ∧
      circ'.ccontrol = circ.ccontrol ∧ circ'.packageWindow = circ.packageWindow) ∨
    ∃ f length circ₁, 0 < length ∧
      (length ≤ if f then s.sendingOptimisticData.getD 0 else s.inbuf) ∧
      (RELAY_CELL_PADDING_GAP + 16 ≤ env.maxPayload → length ≤ env.maxPayload) ∧
      s.onCircuit = true ∧ 0 < s.packageWindow ∧
      (circ₁.ccontrol = false → 0 < circ₁.packageWindow) ∧
      packageOne env packagePartial k circ s =
        packageSend env k length circ₁ (takeBytes env f length s) ∧
      circ₁.ccontrol = circ.ccontrol ∧ circ₁.packageWindow = circ.packageWindow ∧
      circ₁.markedForClose = circ.markedForClose := by
  unfold packageOne
  by_cases h₁ : s.onCircuit = false
  · exact .inl ⟨_, _, if_pos h₁, rfl, rfl⟩
  rw [if_neg h₁]
  by_cases h₂ : circuitConsiderStopEdgeReading env k circ = true
  · exact .inl ⟨_, _, if_pos h₂, rfl, rfl⟩
  rw [if_neg h₂]
  by_cases h₃ : s.packageWindow ≤ 0
  · exact .inl ⟨_, _, if_pos h₃, rfl, rfl⟩
  rw [if_neg h₃]
  dsimp only
  set pkg := connectionEdgeGetInbufBytesToPackage ⟨if (env.isAp &&
    s.sendingOptimisticData.getD 0 != 0) = true then s.sendingOptimisticData.getD 0 else s.inbuf,
    packagePartial, env.maxPayload, env.draw k⟩ circ.randomness
  by_cases h₄ : pkg.packageLength = 0
  · exact .inl ⟨_, _, if_pos h₄, rfl, rfl⟩
  rw [if_neg h₄]
  refine .inr ⟨_, _, _, Nat.pos_of_ne_zero h₄,
    connectionEdgeGetInbufBytesToPackage_le _ _ _ _ _,
    connectionEdgeGetInbufBytesToPackage_le_target _ _ _ _, by simpa using h₁, by omega,
    fun hc => ?_, rfl, rfl, rfl, rfl⟩
  have hc' : circ.ccontrol = false := hc
  simpa [circuitConsiderStopEdgeReading, circuitGetPackageWindow, hc'] using h₂

end Pass

/-! ## The loop -/

section Loop

variable (env : PackageEnv) (packagePartial : Bool)

/-- **The budget over the rest of a run.** With `m > 0` cells of budget and enough fuel, the loop
    packages at most `m` cells, losing one of budget per cell save a last one after which the pass
    stops; on an unmarked circuit with no XOFF, failure or negative window, none stops so. -/
theorem packageLoop_maxCells : ∀ (fuel : Nat) (cells : List Nat) (circ : EdgeCirc)
    (s : EdgeStream) (m : Int), s.waiting < fuel → 0 < m →
    ∃ res, packageLoop env packagePartial fuel cells circ s (some m) = some res ∧
      ∃ new m', res.cells = cells ++ new ∧ res.maxCells = some m' ∧ 0 ≤ m' ∧
        (new.length : Int) ≤ m ∧ (m - m' = new.length ∨ m - m' + 1 = new.length ∧ 0 < m') ∧
        (circ.markedForClose = false →
          (∀ j, env.packageRelayCell j ≠ .failed ∧ 0 ≤ env.ccPackageWindow j) →
          RELAY_CELL_PADDING_GAP + 16 ≤ env.maxPayload →
          (s.usesFlowControl = false ∨ s.xoffReceived = false) → m - m' = new.length)
  | 0, _, _, _, _, hf, _ => absurd hf (Nat.not_lt_zero _)
  | fuel + 1, cells, circ, s, m, hf, hm => by
    rcases packageOne_cases env packagePartial cells.length circ s with
      ⟨r, circ', h, -⟩ | ⟨f, len, circ₁, hpos, hle, hmax, hon, hpw, hcw, h, -, -, hmk₁⟩
    · -- the pass returns before packaging a cell
      exact ⟨⟨r, circ', s, some m, cells⟩, by simp only [packageLoop, h], [], m, by simp, rfl,
        hm.le, by simp; omega, .inl (by simp), fun _ _ _ _ => by simp⟩
    obtain ⟨hw, hon₁, hpw₁, hfc₁, hx₁⟩ := takeBytes_waiting env hle
    rcases packageSend_cases env cells.length len circ₁ (takeBytes env f len s) with
      ⟨circ', s', hs | hs, hw', hfc', hx', -⟩
    · -- the pass returns after handing its cell over
      refine ⟨⟨0, circ', s', some m, cells ++ [len]⟩, by simp only [packageLoop, h, hs], [len],
        m, rfl, rfl, hm.le, by simp; omega, .inr ⟨by simp, hm⟩, fun hmk hj hmx hflow => ?_⟩
      obtain ⟨_, _, hs'⟩ := packageSend_sent env cells.length len circ₁ _ (hon₁.trans hon)
        (hmk₁.trans hmk) (hmax hmx) (hj _).1 (by cases hc : circ₁.ccontrol <;> simp [hc, (hj _).2, hcw])
        (by rw [hfc₁, hx₁, hpw₁]; split_ifs with hfc
            exacts [hflow.resolve_left (by simp [hfc]), hpw])
      cases hs.symm.trans hs'
    · -- the pass goes on
      by_cases hm₁ : m - 1 ≤ 0
      · exact ⟨⟨0, circ', s', some (m - 1), cells ++ [len]⟩,
          by simp only [packageLoop, h, hs, if_pos hm₁], [len], m - 1, rfl, rfl, by omega,
          by simp; omega, .inl (by simp), fun _ _ _ _ => by simp⟩
      obtain ⟨res, hres, new, m', hcells, hmc, hm', hlen, hdec, hexact⟩ :=
        packageLoop_maxCells fuel (cells ++ [len]) circ' s' (m - 1) (by omega) (by omega)
      refine ⟨res, by simp only [packageLoop, h, hs, if_neg hm₁]; exact hres, len :: new, m',
        by simp [hcells], hmc, hm', by simp; omega, by simp; omega, fun hmk hj hmx hflow => ?_⟩
      have := hexact ((packageSend_sent_marked env hs).trans (hmk₁.trans hmk)) hj hmx
        (by rwa [hfc', hfc₁, hx', hx₁])
      simp
      omega

/-- After an XOFF under flow control, the first pass that packages a cell is the last: the
    budget is left as it was. -/
theorem packageLoop_xoff (fuel : Nat) (cells : List Nat) (circ : EdgeCirc) {s : EdgeStream}
    (hfc : s.usesFlowControl = true) (hx : s.xoffReceived = true) (m : Int) :
    ∃ res, packageLoop env packagePartial (fuel + 1) cells circ s (some m) = some res ∧
      res.maxCells = some m ∧ ∃ new, res.cells = cells ++ new ∧ new.length ≤ 1 := by
  rcases packageOne_cases env packagePartial cells.length circ s with
    ⟨r, circ', h, -⟩ | ⟨f, len, circ₁, -, hle, -, -, -, -, h, -⟩
  · exact ⟨⟨r, circ', s, some m, cells⟩, by simp only [packageLoop, h], rfl, [], by simp,
      by simp⟩
  obtain ⟨-, -, -, hfc₁, hx₁⟩ := takeBytes_waiting env hle
  obtain ⟨circ', s', hs⟩ := packageSend_xoff env (hfc₁.trans hfc) (hx₁.trans hx)
    cells.length len circ₁
  exact ⟨⟨0, circ', s', some m, cells ++ [len]⟩, by simp only [packageLoop, h, hs], rfl,
    [len], rfl, by simp⟩

end Loop

/-! ## The budget -/

/-- **`connection_edge_package_raw_inbuf` and `*max_cells`.** For every `*max_cells = m > 0` the
    call returns having sent at most `m` DATA cells, one off `*max_cells` each save a last one it
    returns right after; under the side conditions exactly one each; after an XOFF, none. -/
theorem connectionEdgePackageRawInbuf_maxCells (env : PackageEnv) (circ : EdgeCirc)
    (s : EdgeStream) (packagePartial : Bool) (m : Int) (hm : 0 < m) :
    ∃ res, connectionEdgePackageRawInbuf env circ s packagePartial (some m) = some res ∧
      ∃ m', res.maxCells = some m' ∧ 0 ≤ m' ∧ (res.cells.length : Int) ≤ m ∧
        (m - m' = res.cells.length ∨ m - m' + 1 = res.cells.length ∧ 0 < m') ∧
        (circ.markedForClose = false →
          (∀ j, env.packageRelayCell j ≠ .failed ∧ 0 ≤ env.ccPackageWindow j) →
          RELAY_CELL_PADDING_GAP + 16 ≤ env.maxPayload →
          (s.usesFlowControl = false ∨ s.xoffReceived = false) → m - m' = res.cells.length) ∧
        (s.usesFlowControl = true → s.xoffReceived = true → m' = m ∧ res.cells.length ≤ 1) := by
  unfold connectionEdgePackageRawInbuf
  by_cases hc : s.markedForClose = true
  · exact ⟨⟨0, circ, s, some m, []⟩, if_pos hc, m, rfl, hm.le, by simp; omega,
      .inl (by simp), fun _ _ _ _ => by simp, fun _ _ => ⟨rfl, by simp⟩⟩
  simp only [hc, Bool.false_eq_true, ↓reduceIte, not_le.2 hm]
  obtain ⟨res, hres, new, m', hcells, hmc, hm', hlen, hdec, hexact⟩ :=
    packageLoop_maxCells env packagePartial (s.waiting + 1) [] circ s
      m (Nat.lt_succ_self _) hm
  simp only [List.nil_append] at hcells
  subst hcells
  refine ⟨res, hres, m', hmc, hm', hlen, hdec, hexact, fun hfc hx => ?_⟩
  obtain ⟨res', hres', hmc', new', hcells', hlen'⟩ :=
    packageLoop_xoff env packagePartial s.waiting [] circ hfc hx m
  obtain rfl := Option.some.inj (hres.symm.trans hres')
  rw [hcells', List.nil_append]
  exact ⟨Option.some.inj (hmc.symm.trans hmc'), hlen'⟩

/-- An exit stream with 1000 bytes on its inbuf, its window open, and an XOFF received under flow
    control, on a circuit with congestion control and room for 100 cells. -/
def xoffStream : EdgeStream := ⟨false, true, 500, true, true, 1000, none, none⟩

/-- The circuit of `xoffStream`, with its padding counter at 50. -/
def xoffCirc : EdgeCirc := ⟨false, true, 0, ⟨50, false⟩⟩

/-- Cells of up to 498 bytes, every one queued, congestion-control windows of 100. -/
def xoffEnv : PackageEnv := ⟨false, true, 498, fun _ => 0, fun _ => .queued, fun _ => 100⟩

/-- With `*max_cells = 5`, one cell of 498 bytes is sent, and `*max_cells` stays 5. -/
theorem connectionEdgePackageRawInbuf_maxCells_xoff :
    (∃ res, connectionEdgePackageRawInbuf xoffEnv xoffCirc xoffStream true (some 5) = some res ∧
      ∃ m', res.maxCells = some m' ∧ 0 ≤ m' ∧ (res.cells.length : Int) ≤ 5 ∧
        (5 - m' = res.cells.length ∨ 5 - m' + 1 = res.cells.length ∧ 0 < m') ∧
        (xoffCirc.markedForClose = false →
          (∀ j, xoffEnv.packageRelayCell j ≠ .failed ∧ 0 ≤ xoffEnv.ccPackageWindow j) →
          RELAY_CELL_PADDING_GAP + 16 ≤ xoffEnv.maxPayload →
          (xoffStream.usesFlowControl = false ∨ xoffStream.xoffReceived = false) →
            5 - m' = res.cells.length) ∧
        (xoffStream.usesFlowControl = true → xoffStream.xoffReceived = true →
          m' = 5 ∧ res.cells.length ≤ 1)) ∧
    connectionEdgePackageRawInbuf xoffEnv xoffCirc xoffStream true (some 5) =
      some ⟨0, { xoffCirc with randomness := ⟨49, false⟩ }, { xoffStream with inbuf := 502 },
        some 5, [498]⟩ :=
  ⟨connectionEdgePackageRawInbuf_maxCells xoffEnv xoffCirc xoffStream true 5 (by decide),
    by decide⟩

/-! ## What a call takes -/

/-- What a run from `circ` and `s`, with `*max_cells = maxCells`, did by `res` with the cells
    `new`: each of one byte or more, off the bytes waiting; the congestion-control flag kept; no
    window grown or sent below zero; `*max_cells` down by at most the number of cells. -/
structure Takes (circ : EdgeCirc) (s : EdgeStream) (maxCells : Option Int) (new : List Nat)
    (res : RawInbufResult) : Prop where
  cells_pos : ∀ x ∈ new, 0 < x
  waiting_add : res.stream.waiting + new.sum = s.waiting
  ccontrol_eq : res.circ.ccontrol = circ.ccontrol
  circ_window_le : res.circ.packageWindow ≤ circ.packageWindow
  circ_window_nonneg : circ.ccontrol = false → 0 ≤ circ.packageWindow →
    0 ≤ res.circ.packageWindow
  stream_window_le : res.stream.packageWindow ≤ s.packageWindow
  stream_window_nonneg : 0 ≤ s.packageWindow → 0 ≤ res.stream.packageWindow
  budget : ∀ m, maxCells = some m →
    ∃ m', res.maxCells = some m' ∧ m' ≤ m ∧ m - m' ≤ new.length

/-- A run that returns without a cell, with the circuit's flag and window as they were. -/
theorem Takes.stop {circ circ' : EdgeCirc} {s : EdgeStream} {maxCells : Option Int} (r : Int)
    (cells : List Nat) (hc : circ'.ccontrol = circ.ccontrol)
    (hw : circ'.packageWindow = circ.packageWindow) :
    Takes circ s maxCells [] ⟨r, circ', s, maxCells, cells⟩ :=
  ⟨by simp, by simp, hc, hw.le, fun _ h => hw ▸ h, le_rfl, id,
    fun m hm => ⟨m, hm, le_rfl, by simp⟩⟩

/-- A pass that takes a cell of `len` bytes from `circ` and `s` to `circ'` and `s'`, each window
    open and losing at most the cell, followed by a run from there. -/
theorem Takes.cons {circ circ' : EdgeCirc} {s s' : EdgeStream} {maxCells maxCells' : Option Int}
    {len : Nat} {new : List Nat} {res : RawInbufResult} (hpos : 0 < len)
    (hw : s'.waiting + len = s.waiting) (hcc : circ'.ccontrol = circ.ccontrol)
    (hc₁ : circ.packageWindow - 1 ≤ circ'.packageWindow)
    (hc₂ : circ'.packageWindow ≤ circ.packageWindow)
    (hcw : circ.ccontrol = false → 0 < circ.packageWindow)
    (hs₁ : s.packageWindow - 1 ≤ s'.packageWindow) (hs₂ : s'.packageWindow ≤ s.packageWindow)
    (hsw : 0 < s.packageWindow)
    (hmc : ∀ m, maxCells = some m → ∃ m₁, maxCells' = some m₁ ∧ m - 1 ≤ m₁ ∧ m₁ ≤ m)
    (ht : Takes circ' s' maxCells' new res) : Takes circ s maxCells (len :: new) res where
  cells_pos x hx := by
    rcases List.mem_cons.1 hx with rfl | hx
    exacts [hpos, ht.cells_pos x hx]
  waiting_add := by rw [List.sum_cons, ← hw, ← ht.waiting_add]; omega
  ccontrol_eq := ht.ccontrol_eq.trans hcc
  circ_window_le := ht.circ_window_le.trans hc₂
  circ_window_nonneg hc _ := ht.circ_window_nonneg (hcc.trans hc) (by have := hcw hc; omega)
  stream_window_le := ht.stream_window_le.trans hs₂
  stream_window_nonneg _ := ht.stream_window_nonneg (by omega)
  budget m hm := by
    obtain ⟨m₁, hm₁, h₁, h₂⟩ := hmc m hm
    obtain ⟨m', hm', h₃, h₄⟩ := ht.budget m₁ hm₁
    exact ⟨m', hm', by omega, by simp only [List.length_cons, Nat.cast_add]; omega⟩

section Take

variable (env : PackageEnv) (packagePartial : Bool)

/-- **What a run of passes takes**, pass after pass. -/
theorem packageLoop_takes : ∀ (fuel : Nat) (cells : List Nat) (circ : EdgeCirc)
    (s : EdgeStream) (maxCells : Option Int) (res : RawInbufResult),
    packageLoop env packagePartial fuel cells circ s maxCells = some res →
    ∃ new, res.cells = cells ++ new ∧ Takes circ s maxCells new res
  | 0, _, _, _, _, _, h => nomatch h
  | fuel + 1, cells, circ, s, maxCells, res, h => by
    rcases packageOne_cases env packagePartial cells.length circ s with
      ⟨r, circ', hp, hc, hw⟩ | ⟨f, len, circ₁, hpos, hle, -, -, hpw, hcw, hp, hc₁, hw₁, -⟩
    · -- the pass returns before packaging a cell
      simp only [packageLoop, hp, Option.some.injEq] at h
      subst h
      exact ⟨[], by simp, .stop r cells hc hw⟩
    obtain ⟨hwt, -, hpwt, -, -⟩ := takeBytes_waiting env hle
    rcases packageSend_cases env cells.length len circ₁ (takeBytes env f len s) with
      ⟨circ', s', hs | hs, hw', -, -, hcc, hcl, hcu, hsl, hsu⟩
    all_goals
      rw [hpwt] at hsl hsu
      rw [hw₁] at hcl hcu
      have cons : ∀ {mc' new}, (∀ m, maxCells = some m → ∃ m₁, mc' = some m₁ ∧ m - 1 ≤ m₁ ∧
          m₁ ≤ m) → Takes circ' s' mc' new res → Takes circ s maxCells (len :: new) res :=
        Takes.cons hpos (by omega) (hcc.trans hc₁) hcl hcu (fun h => hw₁ ▸ hcw (hc₁.trans h)) hsl
          hsu hpw
    · -- the pass returns after handing its cell over
      simp only [packageLoop, hp, hs, Option.some.injEq] at h
      subst h
      exact ⟨[len], rfl, cons (fun m hm => ⟨m, hm, by omega, le_rfl⟩) (.stop 0 _ rfl rfl)⟩
    · -- the pass goes on, within the budget
      have go : ∀ mc', (∀ m, maxCells = some m → ∃ m₁, mc' = some m₁ ∧ m - 1 ≤ m₁ ∧ m₁ ≤ m) →
          packageLoop env packagePartial fuel (cells ++ [len]) circ' s' mc' = some res →
          ∃ new, res.cells = cells ++ new ∧ Takes circ s maxCells new res := fun mc' hmc hr => by
        obtain ⟨new, hcells, ht⟩ := packageLoop_takes fuel (cells ++ [len]) circ' s' mc' res hr
        exact ⟨len :: new, by simp [hcells], cons hmc ht⟩
      cases maxCells with
      | none => exact go none (fun _ h => nomatch h) (by simpa only [packageLoop, hp, hs] using h)
      | some m =>
        have hmc : ∀ m₀, some m = some m₀ → ∃ m₁, some (m - 1) = some m₁ ∧ m₀ - 1 ≤ m₁ ∧
            m₁ ≤ m₀ := fun _ h => ⟨m - 1, rfl, by cases h; omega, by cases h; omega⟩
        simp only [packageLoop, hp, hs] at h
        split_ifs at h
        · cases h
          exact ⟨[len], rfl, cons hmc (.stop 0 _ rfl rfl)⟩
        · exact go _ hmc h

/-- **Some fuel always suffices**: more passes than bytes waiting, whatever `*max_cells`. -/
theorem packageLoop_returns : ∀ (fuel : Nat) (cells : List Nat) (circ : EdgeCirc)
    (s : EdgeStream) (maxCells : Option Int), s.waiting < fuel →
    ∃ res, packageLoop env packagePartial fuel cells circ s maxCells = some res
  | 0, _, _, _, _, hf => absurd hf (Nat.not_lt_zero _)
  | fuel + 1, cells, circ, s, maxCells, hf => by
    rcases packageOne_cases env packagePartial cells.length circ s with
      ⟨r, circ', hp, -⟩ | ⟨f, len, circ₁, hpos, hle, -, -, -, -, hp, -⟩
    · exact ⟨_, by simp only [packageLoop, hp]; rfl⟩
    obtain ⟨hwt, -⟩ := takeBytes_waiting env hle
    rcases packageSend_cases env cells.length len circ₁ (takeBytes env f len s) with
      ⟨circ', s', hs | hs, hw', -⟩
    · exact ⟨_, by simp only [packageLoop, hp, hs]; rfl⟩
    have ih := fun mc => packageLoop_returns fuel (cells ++ [len]) circ' s' mc (by omega)
    cases maxCells with
    | none => simpa only [packageLoop, hp, hs] using ih none
    | some m =>
      simp only [packageLoop, hp, hs]
      split_ifs
      · exact ⟨_, rfl⟩
      · exact ih _

end Take

/-- **What a call takes.** `connection_edge_package_raw_inbuf` returns, from every stream and
    circuit and under every `*max_cells`, and its cells are taken as `Takes` says. -/
theorem connectionEdgePackageRawInbuf_takes (env : PackageEnv) (circ : EdgeCirc)
    (s : EdgeStream) (packagePartial : Bool) (maxCells : Option Int) :
    ∃ res, connectionEdgePackageRawInbuf env circ s packagePartial maxCells = some res ∧
      Takes circ s maxCells res.cells res := by
  have loop : ∀ mc, ∃ res, packageLoop env packagePartial (s.waiting + 1) [] circ s mc =
      some res ∧ Takes circ s mc res.cells res := fun mc => by
    obtain ⟨res, hres⟩ :=
      packageLoop_returns env packagePartial (s.waiting + 1) [] circ s mc (by omega)
    obtain ⟨new, hcells, ht⟩ := packageLoop_takes env packagePartial _ _ _ _ _ _ hres
    rw [List.nil_append] at hcells
    exact ⟨res, hres, hcells ▸ ht⟩
  unfold connectionEdgePackageRawInbuf
  split_ifs
  · exact ⟨_, rfl, .stop 0 [] rfl rfl⟩
  cases maxCells with
  | none => exact loop none
  | some m =>
    dsimp only
    split_ifs
    · exact ⟨_, rfl, .stop 0 [] rfl rfl⟩
    · exact loop _

end TorCore
