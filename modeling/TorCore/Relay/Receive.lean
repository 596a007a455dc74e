import TorCore.Relay.ResumeReading
import TorCore.Relay.ClientAnswer

/-!
# `TorCore.Relay.Receive` — the receiving endpoint of a hop

A relay cell that `circuit_receive_relay_cell` recognizes is for this endpoint: it looks up the
stream the cell names (`relay_lookup_conn`) and hands both to
`connection_edge_process_relay_cell`. A DATA cell is first counted against the hop's deliver
window, which may send circuit-level SENDMEs back; the cell then reaches a stream that is not open
(`connection_edge_process_relay_cell_not_open`) or `handle_relay_msg`, which dispatches on the
relay command: a DATA cell is counted against the stream's deliver window and may send a
stream-level SENDME; a SENDME raises a package window and lets the streams package again
(`process_sendme_cell`, modelled in `Relay.ResumeReading`); an END marks its stream; the
CONNECTED and RESOLVED answers on a stream waiting for them go through the client's answer paths
of `Relay.ClientAnswer`.

The state is one hop of a circuit as its endpoint sees it: the circuit at that hop (the package
window and congestion control of `Relay.PackageInbuf`, the deliver window) and the circuit's
streams. What the endpoint learns from elsewhere, for one cell, is an argument (`RecvEnv`): the
outcomes of the handlers whose code is not in the sources (`connection_exit_begin_conn`,
`circuit_extend`, the EXTENDED handshake, `connection_exit_begin_resolve`, conflux), the padding
machines, flow control, the consensus parameter `AllowNonearlyExtend`, and what the SENDME and
answer paths learn. Their effects on state the model does not hold (new streams, the hop list, the
cell queues, control events, statistics) are left out. A negative return value is an
`END_CIRC_REASON_*` the caller closes the circuit with.

`receiveRun` delivers cells one after another until one closes the circuit. Whatever the other
end sends, the endpoint defends its windows: every DATA cell is counted against the hop's deliver
window, and a cell that would push a window out of bounds closes the circuit.

## Contents
- **The code.** `RecvStream`, `RecvCirc`, `RecvEnv`, `relayLookupConn`, `handleRelayMsg` and its
  branches, `connectionEdgeProcessRelayCellNotOpen`, `connectionEdgeProcessOrderedRelayCell`,
  `connectionEdgeProcessRelayCell`, `relayReceive`, `receiveRun`.
- **Bounds.** `RecvBounds`, and how replacing, dropping or repackaging a stream keeps it.
- **One cell.** `DispatchOk` says what the dispatch after the hop's window does; one lemma per
  branch, then `handleRelayMsg_spec`, the not-open and ordered paths, and
  `connectionEdgeProcessRelayCell_spec`.
- **Runs.** `receiveRun_deliverWindow`: the hop's deliver window plus the DATA cells received is
  the start plus an increment per circuit-level SENDME sent back; `receiveRun_bounds`: until the
  circuit closes, every window stays in bounds.
-/

namespace TorCore

/-! ## Relay commands and reasons -/

def RELAY_COMMAND_BEGIN : UInt8 := 1
def RELAY_COMMAND_DATA : UInt8 := 2
def RELAY_COMMAND_END : UInt8 := 3
def RELAY_COMMAND_CONNECTED : UInt8 := 4
def RELAY_COMMAND_SENDME : UInt8 := 5
def RELAY_COMMAND_EXTENDED : UInt8 := 7
def RELAY_COMMAND_RESOLVE : UInt8 := 11
def RELAY_COMMAND_RESOLVED : UInt8 := 12
def RELAY_COMMAND_BEGIN_DIR : UInt8 := 13
def RELAY_COMMAND_EXTENDED2 : UInt8 := 15
def RELAY_COMMAND_CONFLUX_SWITCH : UInt8 := 22

def END_STREAM_REASON_MISC : Nat := 1
def END_STREAM_REASON_DESTROY : Nat := 5
def END_STREAM_REASON_TORPROTOCOL : Nat := 13
def END_STREAM_REASON_FLAG_REMOTE : Nat := 512

/-! ## The endpoint -/

/-- `conn->base_.state`, as far as the receiving path tells states apart: open, an exit stream
    connecting or resolving, an AP stream in `CONNECT_WAIT` or `RESOLVE_WAIT`, or another. -/
inductive EdgeConnState where
  | open
  | exitConnecting
  | apConnectWait
  | apResolveWait
  | other
  deriving DecidableEq, Repr

/-- An edge stream at the receiving endpoint: the packaging side of `Relay.ResumeReading`,
    `stream_id`, whether it is an AP connection (else an exit connection), its state,
    `deliver_window`, `edge_has_sent_end` and `end_reason`. -/
structure RecvStream where
  edge : ResumeStream
  streamId : UInt16
  isAp : Bool
  state : EdgeConnState
  deliverWindow : Int
  edgeHasSentEnd : Bool
  endReason : Nat
  deriving DecidableEq, Repr

/-- `connection_mark_for_close`, `connection_mark_and_flush`, `connection_mark_unattached_ap`:
    the stream is marked for close. -/
def RecvStream.markForClose (s : RecvStream) : RecvStream :=
  { s with edge := { s.edge with stream := { s.edge.stream with markedForClose := true } } }

/-- The circuit at one hop, as its endpoint sees it. -/
structure RecvCirc where
  /-- The circuit as `Relay.PackageInbuf` packages onto it. -/
  circ : EdgeCirc
  /-- `layer_hint->deliver_window` at the origin, `circ->deliver_window` at the exit. -/
  deliverWindow : Int
  isOrigin : Bool
  /-- The purpose is `CIRCUIT_PURPOSE_S_REND_JOINED`. -/
  purposeRendJoined : Bool
  /-- The purpose is `CIRCUIT_PURPOSE_OR`. -/
  purposeOr : Bool
  /-- `circuit_queue_streams_are_blocked`. -/
  streamsBlocked : Bool
  /-- `p_streams` at the origin, `n_streams` at the exit. -/
  streams : List RecvStream
  deriving DecidableEq, Repr

/-- The stream at position `i` replaced. -/
def RecvCirc.setStream (st : RecvCirc) (i : Nat) (s : RecvStream) : RecvCirc :=
  { st with streams := st.streams.set i s }

/-- What the endpoint learns from elsewhere for one cell; for SENDMEs, also what
    `process_sendme_cell` learns (`Relay.ResumeReading`), and for the answers what the paths of
    `Relay.ClientAnswer` learn. -/
structure RecvEnv where
  /-- `circpad_check_received_cell` handled the cell as padding. -/
  padding : Bool
  /-- What the handler outside the sources that the command reaches returns
      (`connection_exit_begin_conn`, `circuit_extend`, the EXTENDED handshake, ...). -/
  external : Int
  /-- `layer_hint == cpath->prev`. -/
  fromLastHop : Bool
  isRelayEarly : Bool
  /-- The consensus parameter `AllowNonearlyExtend`. -/
  allowNonearlyExtend : Bool
  /-- `flow_control_decide_xoff`. -/
  decideXoff : Int
  /-- `connection_outbuf_too_full`. -/
  outbufTooFull : Bool
  /-- What `circuit_package_relay_cell` does with the `k`-th circuit-level SENDME. -/
  circSendme : Nat → PackageResult
  /-- And with the `k`-th stream-level one. -/
  streamSendme : Nat → PackageResult
  resume : ResumeEnv
  oneInN : Nat → Bool
  call : PackageEnv
  sendmeValid : Bool
  ccResult : Int
  smartlistDel : SmartlistDel
  isInternal : TorAddr → Bool
  isNull : TorAddr → Bool
  cfg : ClientConfig
  hasFinished : Bool
  isPtr : Bool
  /-- `connection_ap_process_end_not_open` handed the stream to another circuit. -/
  detached : Bool

/-- The result of a cell: the return value, the hop afterwards, and the SENDMEs sent back, in
    order. -/
structure RecvResult where
  ret : Int
  st : RecvCirc
  sent : List SendmeMsg

/-! ## The code -/

/-- `relay_lookup_conn` at the origin, or at an exit for `CELL_DIRECTION_OUT`: the first stream
    with the cell's stream id, not marked for close and, at the origin, on the cell's hop; none
    for stream id 0. -/
def relayLookupConn (isOrigin : Bool) (streamId : UInt16) (streams : List RecvStream) :
    Option Nat :=
  if streamId = 0 then none
  else streams.findIdx? fun s =>
    s.streamId == streamId && !s.edge.stream.markedForClose && (!isOrigin || s.edge.usesCpath)

section Code

variable (circP strmP : WindowParams) (env : RecvEnv)

/-- `sendme_stream_data_received`: under flow control `flow_control_decide_xoff`, else the
    stream's deliver window after one DATA cell. -/
def sendmeStreamDataReceived (s : RecvStream) : Int × RecvStream :=
  if s.edge.stream.usesFlowControl then (env.decideXoff, s)
  else (sendmeDataReceived s.deliverWindow, { s with deliverWindow := sendmeDataReceived s.deliverWindow })

/-- The loop of `sendme_circuit_consider_sending` and `sendme_connection_edge_consider_sending`,
    the `k`-th send ending as `send k`, each after the window is raised: the window, the SENDMEs
    queued, and whether a send failed, which ends the loop. -/
def considerSendingWith (p : WindowParams) (send : Nat → PackageResult) (k : Nat)
    (deliverWindow : Int) : Int × Nat × Bool :=
  if deliverWindow ≤ p.start - p.increment then
    match send k with
    | .failed => (deliverWindow + p.increment, 0, true)
    | .dropped => considerSendingWith p send (k + 1) (deliverWindow + p.increment)
    | .queued =>
      let r := considerSendingWith p send (k + 1) (deliverWindow + p.increment)
      (r.1, r.2.1 + 1, r.2.2)
  else (deliverWindow, 0, false)
termination_by (p.start - deliverWindow).toNat
decreasing_by all_goals have := p.increment_pos; omega

/-- `circuit_mark_for_close` after a failed send, when there was one. -/
def RecvCirc.markIf (failed : Bool) (st : RecvCirc) : RecvCirc :=
  if failed then { st with circ := { st.circ with markedForClose := true } } else st

/-- `sendme_circuit_consider_sending`, with `circP`'s increment as `sendme_inc`: the hop with its
    deliver window raised, marked for close if a send failed, and the SENDMEs queued. -/
def sendmeCircuitConsiderSendingCirc (st : RecvCirc) : RecvCirc × Nat :=
  let r := considerSendingWith circP env.circSendme 0 st.deliverWindow
  (RecvCirc.markIf r.2.2 { st with deliverWindow := r.1 }, r.2.1)

/-- `sendme_connection_edge_consider_sending`: nothing under flow control, with a full outbuf, or
    with no circuit; else its loop, where `connection_edge_send_command` fails at once on a circuit
    marked for close. The stream afterwards, the SENDMEs queued, and whether a send failed. -/
def sendmeConnectionEdgeConsiderSendingConn (circMarked : Bool) (s : RecvStream) :
    RecvStream × Nat × Bool :=
  if s.edge.stream.usesFlowControl || env.outbufTooFull || !s.edge.stream.onCircuit then
    (s, 0, false)
  else
    let r := considerSendingWith strmP
      (fun k => if circMarked then .failed else env.streamSendme k) 0 s.deliverWindow
    ({ s with deliverWindow := r.1 }, r.2)

/-- The streams after `process_sendme_cell`, whose packaging side it returns. -/
def RecvCirc.withEdges (st : RecvCirc) (circ : EdgeCirc) (edges : List ResumeStream) : RecvCirc :=
  { st with circ := circ, streams := List.zipWith (fun s e => { s with edge := e }) st.streams edges }

/-- The stream at the position `conn` with that position, when there is one. -/
def RecvCirc.found (st : RecvCirc) (conn : Option Nat) : Option (Nat × RecvStream) :=
  conn.bind fun i => st.streams[i]?.map fun s => (i, s)

/-- The BEGIN and BEGIN_DIR branch of `handle_relay_msg`: dropped at the origin unless the
    circuit is a joined rendezvous one, from a hop other than the last one there, or for a known
    stream; else `connection_exit_begin_conn`. -/
def handleRelayBegin (found : Bool) (st : RecvCirc) : Int :=
  if st.isOrigin ∧ !st.purposeRendJoined then 0
  else if st.purposeRendJoined ∧ !env.fromLastHop then 0
  else if found then 0
  else env.external

/-- The DATA branch of `handle_relay_msg`: dropped with stream id 0 or no stream; else counted
    against the stream's deliver window, closing the circuit below zero, then, unless it is
    optimistic data, `sendme_connection_edge_consider_sending`. -/
def handleRelayData (msg : RelayMsg) (found : Option (Nat × RecvStream)) (optimisticData : Bool)
    (st : RecvCirc) : Option RecvResult :=
  if msg.streamId = 0 then some ⟨0, st, []⟩
  else match found with
    | some (i, s) =>
      let r := sendmeStreamDataReceived env s
      if r.1 < 0 then
        -- connection_edge_end_close; the circuit is closed
        some ⟨-END_CIRC_REASON_TORPROTOCOL, st.setStream i r.2, []⟩
      else if optimisticData then some ⟨0, st.setStream i r.2, []⟩
      else
        let c := sendmeConnectionEdgeConsiderSendingConn strmP env st.circ.markedForClose r.2
        some ⟨0, (st.setStream i c.1).markIf c.2.2,
          List.replicate c.2.1 (.stream msg.streamId.toNat)⟩
    | none => some ⟨0, st, []⟩

/-- The END branch of `handle_relay_msg`: the stream, when there is one, has had an END
    (`edge_has_sent_end`), keeps a first `end_reason` or takes the cell's, and is marked. -/
def handleRelayEnd (msg : RelayMsg) (found : Option (Nat × RecvStream)) (st : RecvCirc) :
    RecvCirc :=
  match found with
  | some (i, s) =>
    let reason := if msg.length > 0 then (getUint8 msg.body 0).toNat else END_STREAM_REASON_MISC
    -- we just got an END; no reason to send one
    let s := { s with
      edgeHasSentEnd := true
      endReason := if s.endReason = 0 then reason ||| END_STREAM_REASON_FLAG_REMOTE
        else s.endReason }
    st.setStream i (if s.edge.stream.markedForClose then s else s.markForClose)
  | none => st

/-- The EXTEND and EXTEND2 branch of `handle_relay_msg`: dropped for a stream, or when it did not
    come as RELAY_EARLY and the consensus does not allow that; else `circuit_extend`. -/
def handleRelayExtend (msg : RelayMsg) : Int :=
  if msg.streamId ≠ 0 then 0
  else if !env.isRelayEarly ∧ !env.allowNonearlyExtend then 0
  else env.external

/-- The SENDME branch of `handle_relay_msg`: `process_sendme_cell` for the circuit (stream id 0),
    the stream found, or an unknown stream. -/
def handleRelaySendme (msg : RelayMsg) (found : Option (Nat × RecvStream)) (st : RecvCirc) :
    Option RecvResult :=
  let target : SendmeCellStream := if msg.streamId = 0 then .circuit
    else match found with
      | some (i, _) => .stream i
      | none => .unknown
  (processSendmeCell circP strmP env.resume env.oneInN env.call env.sendmeValid env.ccResult
      st.streamsBlocked target st.circ (st.streams.map (·.edge))).map fun r =>
    ⟨r.1, st.withEdges r.2.1 r.2.2, []⟩

/-- The RESOLVE branch of `handle_relay_msg`: dropped at the origin, for a known stream, or on a
    circuit whose purpose is not `CIRCUIT_PURPOSE_OR`; else `connection_exit_begin_resolve`. -/
def handleRelayResolve (found : Bool) (st : RecvCirc) : Int :=
  if st.isOrigin then 0
  else if found then 0
  else if !st.purposeOr then 0
  else env.external

/-- `handle_relay_msg`, `conn` being the position of the stream `relay_lookup_conn` found. The
    commands with no branch here (conflux LINK, XOFF, XON, TRUNCATE, TRUNCATED, onion services,
    unknown ones) return `0` and touch no state the model holds. -/
def handleRelayMsg (msg : RelayMsg) (conn : Option Nat) (optimisticData : Bool) (st : RecvCirc) :
    Option RecvResult :=
  let found := st.found conn
  if env.padding then some ⟨0, st, []⟩
  else if msg.command = RELAY_COMMAND_CONFLUX_SWITCH then some ⟨env.external, st, []⟩
  else if msg.command = RELAY_COMMAND_BEGIN ∨ msg.command = RELAY_COMMAND_BEGIN_DIR then
    some ⟨handleRelayBegin env found.isSome st, st, []⟩
  else if msg.command = RELAY_COMMAND_DATA then
    handleRelayData strmP env msg found optimisticData st
  else if msg.command = RELAY_COMMAND_END then some ⟨0, handleRelayEnd msg found st, []⟩
  else if msg.command = RELAY_COMMAND_EXTEND ∨ msg.command = RELAY_COMMAND_EXTEND2 then
    some ⟨handleRelayExtend env msg, st, []⟩
  else if msg.command = RELAY_COMMAND_EXTENDED ∨ msg.command = RELAY_COMMAND_EXTENDED2 then
    some ⟨if st.isOrigin then env.external else 0, st, []⟩
  else if msg.command = RELAY_COMMAND_CONNECTED then
    -- a CONNECTED for an open stream
    some ⟨if found.isSome then -END_CIRC_REASON_TORPROTOCOL else 0, st, []⟩
  else if msg.command = RELAY_COMMAND_SENDME then handleRelaySendme circP strmP env msg found st
  else if msg.command = RELAY_COMMAND_RESOLVE then
    some ⟨handleRelayResolve env found.isSome st, st, []⟩
  else if msg.command = RELAY_COMMAND_RESOLVED then
    -- a RESOLVED for an open stream
    some ⟨if found.isSome then -END_CIRC_REASON_TORPROTOCOL else 0, st, []⟩
  else some ⟨0, st, []⟩

/-- Whether an answer path marked its AP stream (`connection_mark_unattached_ap`). -/
def marksClosed (effects : List ClientEffect) : Bool :=
  effects.any fun | .markClosed _ => true | _ => false

/-- The end of the CONNECTED branch of `connection_edge_process_relay_cell_not_open` on the stream
    `s` at `i`: `connection_edge_package_raw_inbuf (conn, 1, NULL)`, marking it if that fails. -/
def packageAfterConnected (i : Nat) (s : RecvStream) (st : RecvCirc) : Option RecvResult :=
  (connectionEdgePackageRawInbuf env.call st.circ s.edge.stream true none).map fun res =>
    let s := { s with edge := { s.edge with stream := res.stream } }
    ⟨0, { st.setStream i (if res.ret < 0 then s.markForClose else s) with circ := res.circ }, []⟩

/-- `connection_edge_process_relay_cell_not_open` on the stream `s` at position `i`. -/
def connectionEdgeProcessRelayCellNotOpen (msg : RelayMsg) (i : Nat) (s : RecvStream)
    (st : RecvCirc) : Option RecvResult :=
  if msg.command = RELAY_COMMAND_END then
    let reason := (getUint8 msg.body 0).toNat
    if st.isOrigin ∧ s.isAp then
      -- connection_ap_process_end_not_open
      if msg.length > 0 ∧
          (reason = END_STREAM_REASON_TORPROTOCOL ∨ reason = END_STREAM_REASON_DESTROY) then
        some ⟨-END_CIRC_REASON_TORPROTOCOL, st, []⟩
      else if env.detached then some ⟨0, { st with streams := st.streams.eraseIdx i }, []⟩
      else some ⟨0, st.setStream i s.markForClose, []⟩
    else
      -- we just got an END; no need to send one
      some ⟨0, st.setStream i { s.markForClose with
        edgeHasSentEnd := true, endReason := reason ||| END_STREAM_REASON_FLAG_REMOTE }, []⟩
  else if s.isAp ∧ msg.command = RELAY_COMMAND_CONNECTED then
    if s.state ≠ .apConnectWait then some ⟨0, st, []⟩
    else
      let s := { s with state := .open }
      if marksClosed (processConnectedCell env.isInternal env.isNull env.cfg true env.hasFinished msg)
      then some ⟨0, st.setStream i s.markForClose, []⟩
      else
        -- the pending optimistic data is forgotten
        packageAfterConnected env i { s with edge := { s.edge with stream :=
          { s.edge.stream with pendingOptimisticData := none } } } st
  else if s.isAp ∧ msg.command = RELAY_COMMAND_RESOLVED then
    if marksClosed (connectionEdgeProcessResolvedCell env.smartlistDel env.isInternal env.cfg
        (s.state = .apResolveWait) env.isPtr msg)
    then some ⟨0, st.setStream i s.markForClose, []⟩
    else some ⟨0, st, []⟩
  else some ⟨0, st, []⟩

/-- `connection_edge_process_ordered_relay_cell`: a stream that is not open takes the not-open
    path, except DATA on an exit stream still connecting, which is optimistic data. -/
def connectionEdgeProcessOrderedRelayCell (msg : RelayMsg) (conn : Option Nat) (st : RecvCirc) :
    Option RecvResult :=
  match st.found conn with
  | some (i, s) =>
    if s.state ≠ .open then
      if !s.isAp ∧ s.state = .exitConnecting ∧ msg.command = RELAY_COMMAND_DATA then
        handleRelayMsg circP strmP env msg conn true st
      else if msg.streamId = 0 ∧ msg.command = RELAY_COMMAND_DATA then
        handleRelayMsg circP strmP env msg conn false st
      else connectionEdgeProcessRelayCellNotOpen env msg i s st
    else handleRelayMsg circP strmP env msg conn false st
  | none => handleRelayMsg circP strmP env msg conn false st

/-- `connection_edge_process_relay_cell` with no conflux: the commands that need a stream are
    dropped with stream id 0; a DATA cell is counted against the hop's deliver window, closing the
    circuit below zero, and may send circuit-level SENDMEs before it goes on. -/
def connectionEdgeProcessRelayCell (msg : RelayMsg) (conn : Option Nat) (st : RecvCirc) :
    Option RecvResult :=
  if msg.streamId = 0 ∧ (msg.command = RELAY_COMMAND_BEGIN ∨
      msg.command = RELAY_COMMAND_CONNECTED ∨ msg.command = RELAY_COMMAND_END ∨
      msg.command = RELAY_COMMAND_RESOLVE ∨ msg.command = RELAY_COMMAND_RESOLVED ∨
      msg.command = RELAY_COMMAND_BEGIN_DIR) then some ⟨0, st, []⟩
  else if msg.command = RELAY_COMMAND_DATA then
    let d := sendmeDataReceived st.deliverWindow
    if d < 0 then some ⟨-END_CIRC_REASON_TORPROTOCOL, { st with deliverWindow := d }, []⟩
    else
      let c := sendmeCircuitConsiderSendingCirc circP env { st with deliverWindow := d }
      (connectionEdgeProcessOrderedRelayCell circP strmP env msg conn c.1).map fun r =>
        { r with sent := List.replicate c.2 .circuit ++ r.sent }
  else connectionEdgeProcessOrderedRelayCell circP strmP env msg conn st

/-- A recognized cell at the endpoint: `relay_lookup_conn`, then
    `connection_edge_process_relay_cell`. -/
def relayReceive (msg : RelayMsg) (st : RecvCirc) : Option RecvResult :=
  connectionEdgeProcessRelayCell circP strmP env msg (relayLookupConn st.isOrigin msg.streamId st.streams) st

end Code

/-- Where a run of cells ends: the hop, the SENDMEs sent back, how many cells were processed, and
    whether the last one closed the circuit. -/
structure RunResult where
  st : RecvCirc
  sent : List SendmeMsg
  processed : Nat
  closed : Bool

/-- The cells a hop delivers to its endpoint, each with what the endpoint learns, until one returns
    a negative reason. A hop a failed send marked still takes the later cells here, which the code
    would not deliver, so every run of the code is one of these. -/
def receiveRun (circP strmP : WindowParams) :
    List (RelayMsg × RecvEnv) → RecvCirc → Option RunResult
  | [], st => some ⟨st, [], 0, false⟩
  | (msg, env) :: rest, st =>
    match relayReceive circP strmP env msg st with
    | none => none
    | some r =>
      if r.ret < 0 then some ⟨r.st, r.sent, 1, true⟩
      else (receiveRun circP strmP rest r.st).map fun run =>
        { run with sent := r.sent ++ run.sent, processed := run.processed + 1 }

/-! ## The state a step leaves -/

@[simp] theorem RecvStream.markForClose_deliverWindow (s : RecvStream) :
    s.markForClose.deliverWindow = s.deliverWindow := rfl

@[simp] theorem RecvStream.markForClose_packageWindow (s : RecvStream) :
    s.markForClose.edge.stream.packageWindow = s.edge.stream.packageWindow := rfl

@[simp] theorem RecvCirc.setStream_deliverWindow (st : RecvCirc) (i : Nat) (s : RecvStream) :
    (st.setStream i s).deliverWindow = st.deliverWindow := rfl

@[simp] theorem RecvCirc.setStream_circ (st : RecvCirc) (i : Nat) (s : RecvStream) :
    (st.setStream i s).circ = st.circ := rfl

@[simp] theorem RecvCirc.markIf_false (st : RecvCirc) : st.markIf false = st := rfl

@[simp] theorem RecvCirc.markIf_deliverWindow (b : Bool) (st : RecvCirc) :
    (st.markIf b).deliverWindow = st.deliverWindow := by
  cases b <;> rfl

theorem torprotocol_neg : ¬ (0 ≤ -END_CIRC_REASON_TORPROTOCOL) := by decide

/-- A stream of `withEdges` keeps the deliver window of a stream it replaces and takes its
    packaging side from the list it is given. -/
theorem mem_zipWith_edge : ∀ {l : List RecvStream} {edges : List ResumeStream} {x : RecvStream},
    x ∈ List.zipWith (fun s e => { s with edge := e }) l edges →
      (∃ s ∈ l, x.deliverWindow = s.deliverWindow) ∧ x.edge ∈ edges
  | [], _, _, h => by simp at h
  | _ :: _, [], _, h => by simp at h
  | s :: l, e :: edges, x, h => by
    rw [List.zipWith_cons_cons, List.mem_cons] at h
    rcases h with rfl | h
    · exact ⟨⟨s, List.mem_cons_self _ _, rfl⟩, List.mem_cons_self _ _⟩
    · obtain ⟨⟨s', hs', hd⟩, he⟩ := mem_zipWith_edge h
      exact ⟨⟨s', List.mem_cons_of_mem _ hs', hd⟩, List.mem_cons_of_mem _ he⟩

/-- A case split on an `if` both of whose branches return. -/
theorem exists_ite {α : Type} {c : Prop} [Decidable c] {a b : Option α} {P : α → Prop}
    (ha : c → ∃ r, a = some r ∧ P r) (hb : ¬c → ∃ r, b = some r ∧ P r) :
    ∃ r, (if c then a else b) = some r ∧ P r := by
  by_cases h : c
  · rw [if_pos h]
    exact ha h
  · rw [if_neg h]
    exact hb h

/-! ## Bounds -/

section Bounds

variable (circP strmP : WindowParams)

/-- The windows of a hop in bounds, with no congestion control: the packaging side as
    `PackageBounds` says, the hop's deliver window in `[0, CIRCWINDOW_START]` and every stream's in
    `[0, STREAMWINDOW_START]`. -/
structure RecvBounds (st : RecvCirc) : Prop where
  package : PackageBounds circP strmP st.circ (st.streams.map (·.edge))
  deliver_nonneg : 0 ≤ st.deliverWindow
  deliver_le : st.deliverWindow ≤ circP.start
  streams_deliver : ∀ s ∈ st.streams, 0 ≤ s.deliverWindow ∧ s.deliverWindow ≤ strmP.start

variable {circP strmP} {st : RecvCirc}

/-- A stream of a hop in bounds has its windows in bounds. -/
theorem RecvBounds.get (h : RecvBounds circP strmP st) {i : Nat} {s : RecvStream}
    (hs : st.streams[i]? = some s) :
    (0 ≤ s.edge.stream.packageWindow ∧ s.edge.stream.packageWindow ≤ strmP.startMax) ∧
      (0 ≤ s.deliverWindow ∧ s.deliverWindow ≤ strmP.start) :=
  have hm := List.getElem?_mem hs
  ⟨h.package.streams _ (List.mem_map_of_mem _ hm), h.streams_deliver s hm⟩

/-- Replacing a stream by one whose windows are in bounds keeps the hop in bounds. -/
theorem RecvBounds.setStream (h : RecvBounds circP strmP st) (i : Nat) {s : RecvStream}
    (hp : 0 ≤ s.edge.stream.packageWindow ∧ s.edge.stream.packageWindow ≤ strmP.startMax)
    (hd : 0 ≤ s.deliverWindow ∧ s.deliverWindow ≤ strmP.start) :
    RecvBounds circP strmP (st.setStream i s) where
  package := ⟨h.package.ccontrol, h.package.window_nonneg, h.package.window_le, by
    simpa only [RecvCirc.setStream, List.map_set] using h.package.streams.set i hp⟩
  deliver_nonneg := h.deliver_nonneg
  deliver_le := h.deliver_le
  streams_deliver x hx := (List.mem_or_eq_of_mem_set hx).elim (h.streams_deliver x) fun e => e ▸ hd

/-- Replacing a stream by one with the same windows keeps the hop in bounds. -/
theorem RecvBounds.setStream_same (h : RecvBounds circP strmP st) {i : Nat} {s s' : RecvStream}
    (hs : st.streams[i]? = some s) (hp : s'.edge.stream.packageWindow = s.edge.stream.packageWindow)
    (hd : s'.deliverWindow = s.deliverWindow) : RecvBounds circP strmP (st.setStream i s') :=
  h.setStream i (hp ▸ (h.get hs).1) (hd ▸ (h.get hs).2)

/-- Dropping a stream keeps the hop in bounds. -/
theorem RecvBounds.eraseIdx (h : RecvBounds circP strmP st) (i : Nat) :
    RecvBounds circP strmP { st with streams := st.streams.eraseIdx i } where
  package := ⟨h.package.ccontrol, h.package.window_nonneg, h.package.window_le, fun x hx => by
    obtain ⟨y, hy, rfl⟩ := List.mem_map.1 hx
    exact h.package.streams _ (List.mem_map_of_mem _ (List.mem_of_mem_eraseIdx hy))⟩
  deliver_nonneg := h.deliver_nonneg
  deliver_le := h.deliver_le
  streams_deliver x hx := h.streams_deliver x (List.mem_of_mem_eraseIdx hx)

/-- Giving the hop a circuit with no congestion control and its package window in bounds keeps it
    in bounds. -/
theorem RecvBounds.setCirc (h : RecvBounds circP strmP st) {circ : EdgeCirc}
    (hc : circ.ccontrol = false) (h₀ : 0 ≤ circ.packageWindow)
    (h₁ : circ.packageWindow ≤ circP.startMax) : RecvBounds circP strmP { st with circ := circ } :=
  ⟨⟨hc, h₀, h₁, h.package.streams⟩, h.deliver_nonneg, h.deliver_le, h.streams_deliver⟩

/-- Marking the circuit for close changes no window. -/
theorem RecvBounds.markIf (h : RecvBounds circP strmP st) (b : Bool) :
    RecvBounds circP strmP (st.markIf b) := by
  cases b
  · exact h
  · exact ⟨⟨h.package.ccontrol, h.package.window_nonneg, h.package.window_le, h.package.streams⟩,
      h.deliver_nonneg, h.deliver_le, h.streams_deliver⟩

/-- The hop after `process_sendme_cell`: in bounds when its packaging side is. -/
theorem RecvBounds.withEdges (h : RecvBounds circP strmP st) {circ : EdgeCirc}
    {edges : List ResumeStream} (hp : PackageBounds circP strmP circ edges) :
    RecvBounds circP strmP (st.withEdges circ edges) where
  package := ⟨hp.ccontrol, hp.window_nonneg, hp.window_le, fun x hx => by
    obtain ⟨y, hy, rfl⟩ := List.mem_map.1 hx
    exact hp.streams _ (mem_zipWith_edge hy).2⟩
  deliver_nonneg := h.deliver_nonneg
  deliver_le := h.deliver_le
  streams_deliver x hx := by
    obtain ⟨⟨s, hs, hd⟩, -⟩ := mem_zipWith_edge hx
    exact hd ▸ h.streams_deliver s hs

end Bounds

/-! ## One cell -/

section Step

variable (circP strmP : WindowParams) (env : RecvEnv)

/-- What the dispatch after the hop's own window does: it leaves the hop's deliver window alone,
    sends no circuit-level SENDME, and, unless it closes the circuit, keeps a hop in bounds. -/
structure DispatchOk (st : RecvCirc) (r : RecvResult) : Prop where
  deliver_eq : r.st.deliverWindow = st.deliverWindow
  no_circuit_sendme : r.sent.count .circuit = 0
  bounds : RecvBounds circP strmP st → 0 ≤ r.ret → RecvBounds circP strmP r.st

theorem DispatchOk.same (st : RecvCirc) (ret : Int) : DispatchOk circP strmP st ⟨ret, st, []⟩ :=
  ⟨rfl, rfl, fun h _ => h⟩

/-- `sendme_stream_data_received` touches only the stream's deliver window, which does not grow,
    and returns zero or more only with a window at zero or more. -/
theorem sendmeStreamDataReceived_spec (s : RecvStream) :
    (sendmeStreamDataReceived env s).2.edge = s.edge ∧
      (sendmeStreamDataReceived env s).2.deliverWindow ≤ s.deliverWindow ∧
      (0 ≤ s.deliverWindow → 0 ≤ (sendmeStreamDataReceived env s).1 →
        0 ≤ (sendmeStreamDataReceived env s).2.deliverWindow) := by
  unfold sendmeStreamDataReceived sendmeDataReceived
  split_ifs
  · exact ⟨rfl, le_rfl, fun h _ => h⟩
  · simp

/-- **What the loop does, whatever the sends do**: it raises the window by an increment for each
    of the `n` SENDMEs it tries to send, never past the start, and queues at most `n` of them, all
    `n` when every send is queued. -/
theorem considerSendingWith_spec (p : WindowParams) (send : Nat → PackageResult) (k : Nat)
    (w : Int) : ∃ n, (considerSendingWith p send k w).2.1 ≤ n ∧
      ((∀ j, send j = .queued) → (considerSendingWith p send k w).2.1 = n) ∧
      (considerSendingWith p send k w).1 = w + n * p.increment ∧
      (w ≤ p.start → (considerSendingWith p send k w).1 ≤ p.start) := by
  induction k, w using considerSendingWith.induct p send with
  | case1 k w hw hs =>
    rw [considerSendingWith, if_pos hw, hs]
    dsimp only
    exact ⟨1, Nat.zero_le _, fun h => PackageResult.noConfusion (hs.symm.trans (h k)), by simp,
      fun _ => by omega⟩
  | case2 k w hw hs ih =>
    rw [considerSendingWith, if_pos hw, hs]
    dsimp only
    obtain ⟨n, hn, -, he, hle⟩ := ih
    exact ⟨n + 1, hn.trans (Nat.le_succ n), fun h => PackageResult.noConfusion (hs.symm.trans (h k)),
      by rw [he]; push_cast; ring, fun _ => hle (by omega)⟩
  | case3 k w hw hs ih =>
    rw [considerSendingWith, if_pos hw, hs]
    dsimp only
    obtain ⟨n, hn, hq, he, hle⟩ := ih
    exact ⟨n + 1, Nat.succ_le_succ hn, fun h => congrArg (· + 1) (hq h),
      by rw [he]; push_cast; ring, fun _ => hle (by omega)⟩
  | case4 k w hw =>
    rw [considerSendingWith, if_neg hw]
    exact ⟨0, le_rfl, fun _ => rfl, by simp, id⟩

/-- With every send queued, the loop is the protocol's `considerSending`. -/
theorem considerSendingWith_queued {p : WindowParams} {send : Nat → PackageResult}
    (h : ∀ k, send k = .queued) (w : Int) :
    ∀ k, considerSendingWith p send k w = ((considerSending p w).1, (considerSending p w).2, false) := by
  induction w using considerSending.induct p with
  | case1 w hw ih =>
    intro k
    rw [considerSendingWith, if_pos hw, h k, considerSending, if_pos hw]
    simp only [ih (k + 1)]
  | case2 w hw =>
    intro k
    rw [considerSendingWith, if_neg hw, considerSending, if_neg hw]

/-- `sendme_connection_edge_consider_sending` touches only the stream's deliver window, which does
    not fall, nor rise past the start. -/
theorem sendmeConnectionEdgeConsiderSendingConn_spec (circMarked : Bool) (s : RecvStream) :
    (sendmeConnectionEdgeConsiderSendingConn strmP env circMarked s).1.edge = s.edge ∧
      s.deliverWindow ≤ (sendmeConnectionEdgeConsiderSendingConn strmP env circMarked s).1.deliverWindow ∧
      (s.deliverWindow ≤ strmP.start →
        (sendmeConnectionEdgeConsiderSendingConn strmP env circMarked s).1.deliverWindow ≤
          strmP.start) := by
  unfold sendmeConnectionEdgeConsiderSendingConn
  split
  · exact ⟨rfl, le_rfl, id⟩
  · obtain ⟨n, -, -, h₁, h₂⟩ := considerSendingWith_spec strmP
      (fun k => if circMarked then .failed else env.streamSendme k) 0 s.deliverWindow
    refine ⟨rfl, ?_, h₂⟩
    dsimp only
    rw [h₁]
    exact le_add_of_nonneg_right (mul_nonneg (Int.ofNat_nonneg _) strmP.increment_pos.le)

theorem RecvCirc.get_of_found {st : RecvCirc} {conn : Option Nat} {i : Nat} {s : RecvStream}
    (h : st.found conn = some (i, s)) : st.streams[i]? = some s := by
  rcases conn with _ | j
  · cases h
  · simp only [RecvCirc.found, Option.some_bind, Option.map_eq_some'] at h
    obtain ⟨s', hs', hh⟩ := h
    cases hh
    exact hs'

/-- The SENDME branch keeps what `process_sendme_cell` keeps, whatever stream it names. -/
theorem handleRelaySendme_spec (msg : RelayMsg) (found : Option (Nat × RecvStream))
    (st : RecvCirc) :
    ∃ r, handleRelaySendme circP strmP env msg found st = some r ∧ DispatchOk circP strmP st r := by
  suffices ∀ target, ∃ r, ((processSendmeCell circP strmP env.resume env.oneInN env.call
      env.sendmeValid env.ccResult st.streamsBlocked target st.circ (st.streams.map (·.edge))).map
        fun r => (⟨r.1, st.withEdges r.2.1 r.2.2, []⟩ : RecvResult)) = some r ∧
      DispatchOk circP strmP st r from this _
  intro target
  obtain ⟨res, h, hp⟩ := processSendmeCell_windows circP strmP env.resume env.oneInN env.call
    env.sendmeValid env.ccResult st.streamsBlocked target st.circ (st.streams.map (·.edge))
  rw [h]
  exact ⟨_, rfl, rfl, rfl, fun hb _ => hb.withEdges (hp hb.package)⟩

/-- The DATA branch: a stream's deliver window stays in bounds unless the circuit closes, and
    only stream-level SENDMEs are sent. -/
theorem handleRelayData_spec (msg : RelayMsg) (found : Option (Nat × RecvStream))
    (optimisticData : Bool) (st : RecvCirc)
    (hf : ∀ i s, found = some (i, s) → st.streams[i]? = some s) :
    ∃ r, handleRelayData strmP env msg found optimisticData st = some r ∧
      DispatchOk circP strmP st r := by
  unfold handleRelayData
  refine exists_ite (fun _ => ⟨_, rfl, .same circP strmP st _⟩) fun _ => ?_
  rcases found with _ | ⟨i, s⟩
  · exact ⟨_, rfl, .same circP strmP st _⟩
  have hs := hf i s rfl
  obtain ⟨he, hle, hpos⟩ := sendmeStreamDataReceived_spec env s
  dsimp only
  split_ifs with hr
  · exact ⟨_, rfl, rfl, rfl, fun _ h => absurd h torprotocol_neg⟩
  · refine ⟨_, rfl, rfl, rfl, fun hb _ => hb.setStream i (by rw [he]; exact (hb.get hs).1) ?_⟩
    exact ⟨hpos (hb.get hs).2.1 (not_lt.1 hr), hle.trans (hb.get hs).2.2⟩
  · obtain ⟨he', hle', hst'⟩ := sendmeConnectionEdgeConsiderSendingConn_spec strmP env
      st.circ.markedForClose (sendmeStreamDataReceived env s).2
    refine ⟨_, rfl, by simp, List.count_eq_zero.2 (fun h => nomatch (List.mem_replicate.1 h).2),
      fun hb _ => (hb.setStream i (by rw [he', he]; exact (hb.get hs).1) ?_).markIf _⟩
    have := hpos (hb.get hs).2.1 (not_lt.1 hr)
    exact ⟨by omega, hst' (hle.trans (hb.get hs).2.2)⟩

/-- The END branch changes no window. -/
theorem handleRelayEnd_spec (msg : RelayMsg) (found : Option (Nat × RecvStream)) (st : RecvCirc)
    (hf : ∀ i s, found = some (i, s) → st.streams[i]? = some s) :
    DispatchOk circP strmP st ⟨0, handleRelayEnd msg found st, []⟩ := by
  unfold handleRelayEnd
  rcases found with _ | ⟨i, s⟩
  · exact .same circP strmP st _
  exact ⟨rfl, rfl, fun hb _ => hb.setStream_same (hf i s rfl) (by split_ifs <;> rfl)
    (by split_ifs <;> rfl)⟩

theorem handleRelayMsg_spec (msg : RelayMsg) (conn : Option Nat) (optimisticData : Bool)
    (st : RecvCirc) :
    ∃ r, handleRelayMsg circP strmP env msg conn optimisticData st = some r ∧
      DispatchOk circP strmP st r := by
  have hf : ∀ i s, st.found conn = some (i, s) → st.streams[i]? = some s :=
    fun _ _ => RecvCirc.get_of_found
  have same : ∀ ret, ∃ r, some ⟨ret, st, []⟩ = some r ∧ DispatchOk circP strmP st r :=
    fun _ => ⟨_, rfl, .same circP strmP st _⟩
  unfold handleRelayMsg
  exact exists_ite (fun _ => same _) fun _ =>                                   -- padding
    exists_ite (fun _ => same _) fun _ =>                                       -- CONFLUX_SWITCH
    exists_ite (fun _ => same _) fun _ =>                                       -- BEGIN
    exists_ite (fun _ => handleRelayData_spec circP strmP env msg _ optimisticData st hf)
      fun _ =>
    exists_ite (fun _ => ⟨_, rfl, handleRelayEnd_spec circP strmP msg _ st hf⟩) fun _ =>
    exists_ite (fun _ => same _) fun _ =>                                       -- EXTEND
    exists_ite (fun _ => same _) fun _ =>                                       -- EXTENDED
    exists_ite (fun _ => same _) fun _ =>                                       -- CONNECTED
    exists_ite (fun _ => handleRelaySendme_spec circP strmP env msg _ st) fun _ =>
    exists_ite (fun _ => same _) fun _ =>                                       -- RESOLVE
    exists_ite (fun _ => same _) fun _ => same _                               -- RESOLVED

/-- The CONNECTED answer's packaging keeps the windows in bounds, as
    `connection_edge_package_raw_inbuf` does. -/
theorem packageAfterConnected_spec (i : Nat) (s : RecvStream) (st : RecvCirc) {s₀ : RecvStream}
    (hs : st.streams[i]? = some s₀)
    (hp : s.edge.stream.packageWindow = s₀.edge.stream.packageWindow)
    (hd : s.deliverWindow = s₀.deliverWindow) :
    ∃ r, packageAfterConnected env i s st = some r ∧ DispatchOk circP strmP st r := by
  obtain ⟨res, hres, ht⟩ :=
    connectionEdgePackageRawInbuf_takes env.call st.circ s.edge.stream true none
  unfold packageAfterConnected
  rw [hres]
  refine ⟨_, rfl, rfl, rfl, fun hb _ => ?_⟩
  obtain ⟨⟨hp₀, hp₁⟩, hd'⟩ := hb.get hs
  have hw : 0 ≤ res.stream.packageWindow ∧ res.stream.packageWindow ≤ strmP.startMax :=
    ⟨ht.stream_window_nonneg (hp ▸ hp₀), ht.stream_window_le.trans (hp ▸ hp₁)⟩
  exact (hb.setStream i (by split_ifs <;> exact hw) (by split_ifs <;> exact hd ▸ hd')).setCirc
    (ht.ccontrol_eq.trans hb.package.ccontrol)
    (ht.circ_window_nonneg hb.package.ccontrol hb.package.window_nonneg)
    (ht.circ_window_le.trans hb.package.window_le)

theorem connectionEdgeProcessRelayCellNotOpen_spec (msg : RelayMsg) (i : Nat) (s : RecvStream)
    (st : RecvCirc) (hs : st.streams[i]? = some s) :
    ∃ r, connectionEdgeProcessRelayCellNotOpen env msg i s st = some r ∧
      DispatchOk circP strmP st r := by
  have same : ∀ ret, ∃ r, some ⟨ret, st, []⟩ = some r ∧ DispatchOk circP strmP st r :=
    fun _ => ⟨_, rfl, .same circP strmP st _⟩
  have marked : ∀ s' : RecvStream, s'.edge.stream.packageWindow = s.edge.stream.packageWindow →
      s'.deliverWindow = s.deliverWindow →
      ∃ r, some ⟨0, st.setStream i s', []⟩ = some r ∧ DispatchOk circP strmP st r :=
    fun _ hp hd => ⟨_, rfl, rfl, rfl, fun hb _ => hb.setStream_same hs hp hd⟩
  unfold connectionEdgeProcessRelayCellNotOpen
  exact exists_ite
    (fun _ => exists_ite                                                      -- END
      (fun _ =>                                                               -- on an AP stream
        exists_ite (fun _ => same _) fun _ =>
        exists_ite (fun _ => ⟨_, rfl, rfl, rfl, fun hb _ => hb.eraseIdx i⟩) fun _ =>
        marked _ rfl rfl)
      fun _ => marked _ rfl rfl) fun _ =>
    exists_ite                                                                -- CONNECTED
      (fun _ => exists_ite (fun _ => same _) fun _ =>
        exists_ite (fun _ => marked _ rfl rfl) fun _ =>
        packageAfterConnected_spec circP strmP env i _ st hs rfl rfl) fun _ =>
    exists_ite                                                                -- RESOLVED
      (fun _ => exists_ite (fun _ => marked _ rfl rfl) fun _ => same _) fun _ =>
    same _

theorem connectionEdgeProcessOrderedRelayCell_spec (msg : RelayMsg) (conn : Option Nat)
    (st : RecvCirc) :
    ∃ r, connectionEdgeProcessOrderedRelayCell circP strmP env msg conn st = some r ∧
      DispatchOk circP strmP st r := by
  have handle := fun optimisticData => handleRelayMsg_spec circP strmP env msg conn optimisticData st
  unfold connectionEdgeProcessOrderedRelayCell
  rcases h : st.found conn with _ | ⟨i, s⟩
  · exact handle false
  · exact exists_ite
      (fun _ => exists_ite (fun _ => handle true) fun _ =>
        exists_ite (fun _ => handle false) fun _ =>
        connectionEdgeProcessRelayCellNotOpen_spec circP strmP env msg i s st
          (RecvCirc.get_of_found h))
      fun _ => handle false

/-- **One recognized cell.** `connection_edge_process_relay_cell` returns; a DATA cell costs the
    hop's deliver window one, each circuit-level SENDME it tries to send gives an increment back,
    and a hop in bounds stays in bounds unless the circuit closes. -/
theorem connectionEdgeProcessRelayCell_spec (msg : RelayMsg) (conn : Option Nat) (st : RecvCirc) :
    ∃ r, connectionEdgeProcessRelayCell circP strmP env msg conn st = some r ∧
      (∃ n, r.sent.count .circuit ≤ n ∧
        ((∀ k, env.circSendme k = .queued) → r.sent.count .circuit = n) ∧
        r.st.deliverWindow + (if msg.command = RELAY_COMMAND_DATA then 1 else 0) =
          st.deliverWindow + (n : Int) * circP.increment) ∧
      (RecvBounds circP strmP st → 0 ≤ r.ret → RecvBounds circP strmP r.st) := by
  obtain ⟨r, hr, hok⟩ := connectionEdgeProcessOrderedRelayCell_spec circP strmP env msg conn st
  have none_sent : ∀ r : RecvResult, r.sent.count .circuit = 0 → r.st.deliverWindow = st.deliverWindow →
      msg.command ≠ RELAY_COMMAND_DATA → ∃ n, r.sent.count .circuit ≤ n ∧
        ((∀ k, env.circSendme k = .queued) → r.sent.count .circuit = n) ∧
        r.st.deliverWindow + (if msg.command = RELAY_COMMAND_DATA then 1 else 0) =
          st.deliverWindow + (n : Int) * circP.increment := fun r h0 hd hc =>
    ⟨0, by rw [h0], fun _ => h0, by simp [hd, hc]⟩
  unfold connectionEdgeProcessRelayCell
  refine exists_ite (fun hz => ⟨_, rfl, none_sent _ rfl rfl ?_, fun h _ => h⟩) fun _ =>
    exists_ite (fun hd => ?_) fun hd =>
      ⟨r, hr, none_sent _ hok.no_circuit_sendme hok.deliver_eq hd, hok.bounds⟩
  · -- a command that needs a stream, with stream id 0
    rcases hz.2 with h | h | h | h | h | h <;> rw [h] <;> decide
  · -- DATA
    refine exists_ite (fun hneg => ⟨_, rfl, ⟨0, le_rfl, fun _ => rfl, by
      simp [hd, sendmeDataReceived]⟩, fun _ h => absurd h torprotocol_neg⟩) fun hneg => ?_
    simp only [sendmeCircuitConsiderSendingCirc, sendmeDataReceived] at hneg ⊢
    obtain ⟨n, hn, hq, h₁, h₂⟩ :=
      considerSendingWith_spec circP env.circSendme 0 (st.deliverWindow - 1)
    obtain ⟨r', hr', hok'⟩ := connectionEdgeProcessOrderedRelayCell_spec circP strmP env msg conn
      (RecvCirc.markIf (considerSendingWith circP env.circSendme 0 (st.deliverWindow - 1)).2.2
        { st with deliverWindow := (considerSendingWith circP env.circSendme 0
          (st.deliverWindow - 1)).1 })
    rw [hr']
    have hk := mul_nonneg (Int.ofNat_nonneg n) circP.increment_pos.le
    have hb₁ : RecvBounds circP strmP st → RecvBounds circP strmP { st with deliverWindow :=
        (considerSendingWith circP env.circSendme 0 (st.deliverWindow - 1)).1 } := fun hb =>
      have := hb.deliver_le
      ⟨hb.package, by dsimp only; omega, h₂ (by omega), hb.streams_deliver⟩
    refine ⟨_, rfl, ⟨n, ?_, fun h => ?_, ?_⟩, fun hb h0 => hok'.bounds ((hb₁ hb).markIf _) h0⟩
    · simpa only [List.count_append, List.count_replicate_self, hok'.no_circuit_sendme,
        add_zero] using hn
    · simpa only [List.count_append, List.count_replicate_self, hok'.no_circuit_sendme,
        add_zero] using hq h
    · simp only [hd, if_true, hok'.deliver_eq, RecvCirc.markIf_deliverWindow, h₁]
      ring

end Step

/-! ## Runs -/

/-- A run returns; its deliver window plus the DATA cells received is the start plus an increment
    per circuit-level SENDME it tried to send, at least those sent and as many when all were
    queued; and a hop in bounds stays in bounds unless the circuit closed. -/
theorem receiveRun_spec (circP strmP : WindowParams) :
    ∀ (cells : List (RelayMsg × RecvEnv)) (st : RecvCirc), ∃ run,
      receiveRun circP strmP cells st = some run ∧
      (∃ n, run.sent.count .circuit ≤ n ∧
        ((∀ c ∈ cells, ∀ k, c.2.circSendme k = .queued) → run.sent.count .circuit = n) ∧
        run.st.deliverWindow +
            ((cells.take run.processed).countP fun c => c.1.command == RELAY_COMMAND_DATA : Int) =
          st.deliverWindow + (n : Int) * circP.increment) ∧
      (RecvBounds circP strmP st → run.closed = false → RecvBounds circP strmP run.st)
  | [], st => ⟨_, rfl, ⟨0, le_rfl, fun _ => rfl, by simp⟩, fun h _ => h⟩
  | (msg, env) :: rest, st => by
    obtain ⟨r, hr, ⟨n, hn, hq, hacc⟩, hb⟩ := connectionEdgeProcessRelayCell_spec circP strmP env msg
      (relayLookupConn st.isOrigin msg.streamId st.streams) st
    have hdata : ((msg.command == RELAY_COMMAND_DATA) = true) = (msg.command = RELAY_COMMAND_DATA) :=
      propext beq_iff_eq
    rw [receiveRun, relayReceive, hr]
    dsimp only
    by_cases hneg : r.ret < 0
    · rw [if_pos hneg]
      refine ⟨_, rfl, ⟨n, hn, fun h => hq (h _ (List.mem_cons_self _ _)), ?_⟩, fun _ h => by cases h⟩
      simp only [show List.take 1 ((msg, env) :: rest) = [(msg, env)] from rfl, List.countP_cons,
        List.countP_nil, hdata, zero_add]
      push_cast
      exact hacc
    rw [if_neg hneg]
    obtain ⟨run, hrun, ⟨m, hm, hq', hacc'⟩, hb'⟩ := receiveRun_spec circP strmP rest r.st
    rw [hrun]
    refine ⟨_, rfl, ⟨n + m, ?_, fun h => ?_, ?_⟩, fun h hc => hb' (hb h (not_lt.1 hneg)) hc⟩
    · simp only [List.count_append]
      omega
    · simp only [List.count_append, hq (h _ (List.mem_cons_self _ _)),
        hq' fun c hc => h c (List.mem_cons_of_mem _ hc)]
    · simp only [List.take_succ_cons, List.countP_cons, hdata]
      push_cast
      rw [add_mul]
      split_ifs at hacc ⊢ <;> omega

/-- **The deliver window counts every DATA cell**, even one for no stream or taken as padding:
    over any run, the window plus the DATA cells received is at least the start plus `sendme_inc`
    per circuit-level SENDME sent back, and exactly that when every such SENDME was queued. -/
theorem receiveRun_deliverWindow (circP strmP : WindowParams) (cells : List (RelayMsg × RecvEnv))
    (st : RecvCirc) :
    ∃ run, receiveRun circP strmP cells st = some run ∧
      st.deliverWindow + (run.sent.count .circuit : Int) * circP.increment ≤
        run.st.deliverWindow +
          ((cells.take run.processed).countP fun c => c.1.command == RELAY_COMMAND_DATA : Int) ∧
      ((∀ c ∈ cells, ∀ k, c.2.circSendme k = .queued) →
        run.st.deliverWindow +
            ((cells.take run.processed).countP fun c => c.1.command == RELAY_COMMAND_DATA : Int) =
          st.deliverWindow + (run.sent.count .circuit : Int) * circP.increment) :=
  by
  obtain ⟨run, h, ⟨n, hn, hq, hacc⟩, -⟩ := receiveRun_spec circP strmP cells st
  refine ⟨run, h, ?_, fun hc => (hq hc).symm ▸ hacc⟩
  rw [hacc]
  exact Int.add_le_add_left
    (Int.mul_le_mul_of_nonneg_right (Int.ofNat_le.2 hn) circP.increment_pos.le) _

/-- **A peer cannot push the windows out of bounds.** From a hop without congestion control whose
    windows are in bounds, whatever cells the other end sends, the run returns and, unless a cell
    closed the circuit (as one that would push a window out does), every window is in bounds. -/
theorem receiveRun_bounds (circP strmP : WindowParams) (cells : List (RelayMsg × RecvEnv))
    (st : RecvCirc) (h : RecvBounds circP strmP st) :
    ∃ run, receiveRun circP strmP cells st = some run ∧
      (run.closed = false → RecvBounds circP strmP run.st) :=
  let ⟨run, hr, _, hb⟩ := receiveRun_spec circP strmP cells st
  ⟨run, hr, hb h⟩

/-- The exit hop of `exitCirc`: its deliver window at the start, and the streams of `exitStreams`
    open with ids 1 and 2, their deliver windows at the start. -/
def exitHop : RecvCirc :=
  ⟨exitCirc, 1000, false, false, true, false,
    [⟨⟨⟨false, true, 450, false, false, 1000, none, none⟩, true⟩, 1, false, .open, 500, false, 0⟩,
      ⟨⟨⟨false, true, 500, false, false, 0, none, none⟩, true⟩, 2, false, .open, 500, false, 0⟩]⟩

/-- What the exit learns for each cell: no padding, valid SENDMEs, every SENDME it sends queued,
    the environment of `exitResumeEnv`. -/
def exitRecvEnv : RecvEnv where
  padding := false
  external := 0
  fromLastHop := true
  isRelayEarly := false
  allowNonearlyExtend := false
  decideXoff := 0
  outbufTooFull := false
  circSendme := fun _ => .queued
  streamSendme := fun _ => .queued
  resume := exitResumeEnv
  oneInN := fun _ => true
  call := exitResumeEnv.call 0 0
  sendmeValid := true
  ccResult := 0
  smartlistDel := .swapLast
  isInternal := fun _ => false
  isNull := fun _ => false
  cfg := ⟨true, true, true, false⟩
  hasFinished := false
  isPtr := false
  detached := false

/-- A DATA cell for stream 1, a circuit-level SENDME and a SENDME for stream 1, in that order, at
    the exit hop, with the spec's windows. -/
theorem receiveRun_bounds_exitHop :
    RecvBounds specCircWindow specStreamWindow exitHop ∧
      ∃ run, receiveRun specCircWindow specStreamWindow
          [(RelayMsg.ofPayload RELAY_COMMAND_DATA 1 [0x61] [], exitRecvEnv),
            (RelayMsg.ofPayload RELAY_COMMAND_SENDME 0 [] [], exitRecvEnv),
            (RelayMsg.ofPayload RELAY_COMMAND_SENDME 1 [] [], exitRecvEnv)] exitHop = some run ∧
        (run.closed = false → RecvBounds specCircWindow specStreamWindow run.st) :=
  have hb : RecvBounds specCircWindow specStreamWindow exitHop :=
    ⟨⟨rfl, by decide, by decide, by unfold StreamWindowsOk; decide⟩, by decide, by decide,
      by decide⟩
  ⟨hb, receiveRun_bounds specCircWindow specStreamWindow _ exitHop hb⟩

end TorCore
