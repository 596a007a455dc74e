import TorCore.Relay.Receive
import TorCore.Relay.PackageSim

/-!
# `TorCore.Relay.WindowSim` — the endpoints refine the window protocol

Bridges two layers:
* **the protocol** (`Sendme.Window`): the two endpoints of a hop joined by FIFO links, where
  `windowStep … (.package id)` puts one DATA cell for stream `id` on the link,
  `windowStep … .deliverData` takes the oldest one off, counts it against the circuit's and then
  the stream's deliver window and lets the circuit-level loop send SENDMEs, and
  `windowStep … (.considerStream id)` is the stream-level loop, run at any later time;
  `reachable_windowInv` keeps the two endpoints' windows balanced under every interleaving;
* **the code** at a hop: `relayReceive`, which is `relay_lookup_conn` and then
  `connection_edge_process_relay_cell`, down to `handle_relay_msg`'s DATA branch at the receiving
  endpoint and its SENDME branch at the packaging one (`Relay.Receive`).

`DeliverRel` says which abstract states a receiving hop stands for: the hop's deliver window is
the abstract circuit's, and the stream `relay_lookup_conn` finds for a stream id has that id's
abstract deliver window; the packaging side and the links are not constrained.
`relayReceive_data_refines` is the refinement at the receiving endpoint: a DATA cell for a stream
on the window path (open, or an exit stream still connecting, with no flow control) closes the
circuit exactly when the abstract steps fail a window check; otherwise it returns zero, sends
back exactly the SENDMEs the abstract steps put in flight, in order, and leaves a hop that stands
for the abstract state afterwards. The abstract steps are `.deliverData` and then, when the code
runs `sendme_connection_edge_consider_sending` at once, `.considerStream`. A DATA cell changes
nothing but deliver windows (`SameButDeliver`), so a whole run of them stays on the window path,
and `receiveRun_data_safe` carries the protocol's invariant over to the code: from a hop that
stands for a reachable state, DATA cells that arrive in the order they were sent never close the
circuit. At the packaging endpoint `HopPackRel` is `Relay.PackageSim`'s `PackRel` on the hop's
circuit and streams, and `receiveRun_sendme_safe` is the other half: SENDMEs that arrive in the
order they were sent, for the circuit or for open streams attached to it, never close the circuit,
whatever packaging they let the streams do.

## Contents
- **DATA changes only deliver windows.** `RecvStream.eraseDeliver`, `SameButDeliver`,
  `DataReady`, and the lookup under them.
- **The simulation relation.** `DeliverRel`, `deliverDataThen`, `ResultRel`.
- **One DATA cell.** The code's DATA path function by function, then `relayReceive_data_refines`.
- **Runs.** `receiveRun_data_safe`.
- **SENDMEs at the packaging endpoint.** `HopPackRel`, `SendmeReady`, `HopKeeps`,
  `relayReceive_sendme_sim`, then `receiveRun_sendme_safe`.
-/

namespace TorCore

/-! ## DATA changes only deliver windows -/

/-- The stream with its deliver window forgotten. -/
def RecvStream.eraseDeliver (x : RecvStream) : RecvStream := { x with deliverWindow := 0 }

/-- `st'` is `st` with other deliver windows: the same origin flag and circuit, and the same
    streams in the same order, each with every field but its deliver window the same. -/
structure SameButDeliver (st st' : RecvCirc) : Prop where
  isOrigin : st'.isOrigin = st.isOrigin
  circ : st'.circ = st.circ
  streams : st'.streams.map RecvStream.eraseDeliver = st.streams.map RecvStream.eraseDeliver

/-- The stream `relay_lookup_conn` finds for `id` takes DATA through the window path of
    `handle_relay_msg`: it is open, or an exit stream still connecting (optimistic data), and
    it does not use flow control. -/
def DataReady (st : RecvCirc) (id : UInt16) : Prop :=
  ∃ i x, relayLookupConn st.isOrigin id st.streams = some i ∧ st.streams[i]? = some x ∧
    (x.state = .open ∨ (x.isAp = false ∧ x.state = .exitConnecting)) ∧
    x.edge.stream.usesFlowControl = false

theorem relayLookupConn_eraseDeliver (isOrigin : Bool) (id : UInt16) (xs : List RecvStream) :
    relayLookupConn isOrigin id (xs.map RecvStream.eraseDeliver) =
      relayLookupConn isOrigin id xs := by
  unfold relayLookupConn
  rw [List.findIdx?_map]
  rfl

/-- The lookup finds a stream of the id it is given, and nothing for id 0. -/
theorem relayLookupConn_spec {isOrigin : Bool} {id : UInt16} {xs : List RecvStream} {i : Nat}
    (h : relayLookupConn isOrigin id xs = some i) :
    id ≠ 0 ∧ ∃ x, xs[i]? = some x ∧ x.streamId = id := by
  unfold relayLookupConn at h
  split_ifs at h with h0
  obtain ⟨hi, hp, -⟩ := List.findIdx?_eq_some_iff_getElem.1 h
  simp only [Bool.and_eq_true, beq_iff_eq] at hp
  exact ⟨h0, _, List.getElem?_eq_getElem hi, hp.1.1⟩

theorem relayLookupConn_inj {isOrigin : Bool} {id id' : UInt16} {xs : List RecvStream} {i : Nat}
    (h : relayLookupConn isOrigin id xs = some i) (h' : relayLookupConn isOrigin id' xs = some i) :
    id = id' := by
  obtain ⟨-, x, hx, rfl⟩ := relayLookupConn_spec h
  obtain ⟨-, x', hx', rfl⟩ := relayLookupConn_spec h'
  rw [hx] at hx'
  cases hx'
  rfl

theorem set_self_of_getElem? {α : Type} : ∀ {xs : List α} {i : Nat} {x : α},
    xs[i]? = some x → xs.set i x = xs
  | _ :: _, 0, _, h => by simp_all
  | _ :: _, _ + 1, _, h => by simp [set_self_of_getElem? (by simpa using h)]

namespace SameButDeliver

variable {st st' st'' : RecvCirc}

theorem trans (h₁ : SameButDeliver st st') (h₂ : SameButDeliver st' st'') :
    SameButDeliver st st'' :=
  ⟨h₂.isOrigin.trans h₁.isOrigin, h₂.circ.trans h₁.circ, h₂.streams.trans h₁.streams⟩

theorem lookup (h : SameButDeliver st st') (id : UInt16) :
    relayLookupConn st'.isOrigin id st'.streams = relayLookupConn st.isOrigin id st.streams := by
  rw [← relayLookupConn_eraseDeliver, h.streams, relayLookupConn_eraseDeliver, h.isOrigin]

theorem get (h : SameButDeliver st st') {i : Nat} {x : RecvStream}
    (hx : st.streams[i]? = some x) :
    ∃ y, st'.streams[i]? = some y ∧ y.eraseDeliver = x.eraseDeliver := by
  have := congrArg (·[i]?) h.streams
  simp only [List.getElem?_map, hx, Option.map_some'] at this
  exact Option.map_eq_some'.1 this

/-- Setting the hop's deliver window and one stream's changes nothing else. -/
theorem setDeliver {i : Nat} {x : RecvStream} (hx : st.streams[i]? = some x) (c w : Int) :
    SameButDeliver st ({ st with deliverWindow := c }.setStream i { x with deliverWindow := w }) :=
  ⟨rfl, rfl, by
    rw [RecvCirc.setStream, List.map_set]
    exact set_self_of_getElem? (by rw [List.getElem?_map, hx]; rfl)⟩

end SameButDeliver

theorem DataReady.of_same {st st' : RecvCirc} {id : UInt16} (h : DataReady st id)
    (hs : SameButDeliver st st') : DataReady st' id := by
  obtain ⟨i, x, hl, hx, hst, hfc⟩ := h
  obtain ⟨y, hy, he⟩ := hs.get hx
  have hst' : y.state = x.state := congrArg (·.state) he
  have hap : y.isAp = x.isAp := congrArg (·.isAp) he
  have hedge : y.edge = x.edge := congrArg (·.edge) he
  exact ⟨i, y, (hs.lookup id).trans hl, hy, hst' ▸ hap ▸ hst, hedge ▸ hfc⟩

/-! ## The simulation relation -/

/-- **The simulation relation.** The hop `st` is the receiving side of `s`: its deliver window is
    the abstract circuit's, and the stream `relay_lookup_conn` finds for an id has that id's
    abstract deliver window. Nothing else is constrained. -/
def DeliverRel (s : WindowState) (st : RecvCirc) : Prop :=
  s.circDeliver = st.deliverWindow ∧
    ∀ id i x, relayLookupConn st.isOrigin id st.streams = some i → st.streams[i]? = some x →
      s.streamDeliver id.toNat = x.deliverWindow

/-- Setting the hop's deliver window and the found stream's as the abstract state sets them keeps
    the relation. -/
theorem DeliverRel.setDeliver {s s' : WindowState} {st : RecvCirc} {id : UInt16} {i : Nat}
    {x : RecvStream} {c w : Int} (h : DeliverRel s st)
    (hl : relayLookupConn st.isOrigin id st.streams = some i) (hx : st.streams[i]? = some x)
    (hc : s'.circDeliver = c) (hs : s'.streamDeliver = Function.update s.streamDeliver id.toNat w) :
    DeliverRel s' ({ st with deliverWindow := c }.setStream i { x with deliverWindow := w }) := by
  refine ⟨hc, fun id' i' y hl' hy => ?_⟩
  rw [(SameButDeliver.setDeliver hx c w).lookup] at hl'
  rw [hs]
  by_cases hi : i' = i
  · subst hi
    obtain rfl := relayLookupConn_inj hl hl'
    simp only [RecvCirc.setStream, List.getElem?_set_self (List.getElem?_eq_some_iff.1 hx).1,
      Option.some.injEq] at hy
    subst hy
    exact Function.update_same _ _ _
  · simp only [RecvCirc.setStream, List.getElem?_set_ne (Ne.symm hi)] at hy
    have hne : id'.toNat ≠ id.toNat := fun e =>
      hi (Option.some.inj ((UInt16.toNat.inj e ▸ hl').symm.trans hl))
    rw [Function.update_noteq hne]
    exact h.2 id' i' y hl' hy

/-- The window protocol with the spec's windows once the other end has packaged a DATA cell on
    stream 1 and then one on stream 2: the state `exitHop` is the receiving side of. -/
def twoCellsInFlight : WindowState where
  circPackage := CIRCWINDOW_START - 2
  streamPackage := Function.update
    (Function.update (fun _ => STREAMWINDOW_START) 1 (STREAMWINDOW_START - 1)) 2
    (STREAMWINDOW_START - 1)
  circDeliver := CIRCWINDOW_START
  streamDeliver := fun _ => STREAMWINDOW_START
  dataInFlight := [1, 2]
  sendmesInFlight := []

theorem twoCellsInFlight_reachable :
    WindowReachable specCircWindow specStreamWindow twoCellsInFlight :=
  .step (a := .package 2) (.step (a := .package 1) .init rfl) rfl

theorem twoCellsInFlight_deliverRel : DeliverRel twoCellsInFlight exitHop := by
  refine ⟨rfl, fun _ _ x _ hx => ?_⟩
  have hx := List.getElem?_mem hx
  simp only [exitHop, List.mem_cons, List.mem_singleton, List.not_mem_nil, or_false] at hx
  rcases hx with rfl | rfl <;> rfl

/-- The abstract steps of a DATA cell for stream `id`: `.deliverData`, then `.considerStream id`
    when the code runs `sendme_connection_edge_consider_sending` at once (`consider`). -/
def deliverDataThen (circ strm : WindowParams) (s : WindowState) (id : Nat) (consider : Bool) :
    WindowStep :=
  match windowStep circ strm s .deliverData with
  | .ok s₁ => if consider then windowStep circ strm s₁ (.considerStream id) else .ok s₁
  | .protocolError => .protocolError

/-- The code's result of a cell against the abstract outcome from `s`: the circuit closes exactly
    when a window check failed; otherwise the cell returns zero, sent the SENDMEs the steps put in
    flight, in order, and the hop is the receiving side of the state after. -/
def ResultRel (s : WindowState) : WindowStep → RecvResult → Prop
  | .protocolError, r => r.ret < 0
  | .ok s', r => r.ret = 0 ∧ s'.sendmesInFlight = s.sendmesInFlight ++ r.sent ∧ DeliverRel s' r.st

/-! ## One DATA cell -/

/-- Every SENDME the cell's loops send is queued, as `PackageEnv.Queues` asks of DATA cells. -/
def RecvEnv.SendmesQueued (env : RecvEnv) : Prop :=
  ∀ k, env.circSendme k = .queued ∧ env.streamSendme k = .queued

section Data

variable (circP strmP : WindowParams) (env : RecvEnv)

/-- With every circuit-level SENDME queued, `sendme_circuit_consider_sending` is the protocol's
    loop. -/
theorem sendmeCircuitConsiderSendingCirc_queued (hq : ∀ k, env.circSendme k = .queued)
    (st : RecvCirc) :
    sendmeCircuitConsiderSendingCirc circP env st =
      ({ st with deliverWindow := (sendmeCircuitConsiderSending circP st.deliverWindow).1 },
        (sendmeCircuitConsiderSending circP st.deliverWindow).2) := by
  simp only [sendmeCircuitConsiderSendingCirc, considerSendingWith_queued hq,
    RecvCirc.markIf_false, sendmeCircuitConsiderSending]

/-- With no padding machine taking it, a DATA cell reaches `handle_relay_msg`'s DATA branch. -/
theorem handleRelayMsg_data (msg : RelayMsg) (conn : Option Nat) (optimisticData : Bool)
    (st : RecvCirc) (hpad : env.padding = false) (hdata : msg.command = RELAY_COMMAND_DATA) :
    handleRelayMsg circP strmP env msg conn optimisticData st =
      handleRelayData strmP env msg (st.found conn) optimisticData st := by
  have h22 : msg.command ≠ RELAY_COMMAND_CONFLUX_SWITCH := by rw [hdata]; decide
  have hb : ¬ (msg.command = RELAY_COMMAND_BEGIN ∨ msg.command = RELAY_COMMAND_BEGIN_DIR) := by
    rw [hdata]; decide
  rw [handleRelayMsg, if_neg (by simp [hpad]), if_neg h22, if_neg hb, if_pos hdata]

/-- A DATA cell for an open stream reaches `handle_relay_msg`, and one for an exit stream still
    connecting reaches it as optimistic data. -/
theorem connectionEdgeProcessOrderedRelayCell_data (msg : RelayMsg) (st : RecvCirc) {i : Nat}
    {x : RecvStream} (hx : st.streams[i]? = some x)
    (hstate : x.state = .open ∨ (x.isAp = false ∧ x.state = .exitConnecting))
    (hdata : msg.command = RELAY_COMMAND_DATA) :
    connectionEdgeProcessOrderedRelayCell circP strmP env msg (some i) st =
      handleRelayMsg circP strmP env msg (some i) (x.state ≠ .open) st := by
  have hf : st.found (some i) = some (i, x) := by simp [RecvCirc.found, hx]
  rw [connectionEdgeProcessOrderedRelayCell, hf]
  dsimp only
  rcases hstate with ho | ⟨hap, hc⟩
  · simp [ho]
  · rw [if_pos (by rw [hc]; decide), if_pos ⟨by simp [hap], hc, hdata⟩, hc]
    rfl

/-- The DATA branch on a stream with no flow control, its SENDMEs queued on an unmarked circuit:
    the window loses one, closing the circuit below zero; then the stream-level loop runs unless
    the data is optimistic, the outbuf is full or the stream has no circuit. -/
theorem handleRelayData_window (msg : RelayMsg) (optimisticData : Bool) (st : RecvCirc)
    {i : Nat} {x : RecvStream} (hq : ∀ k, env.streamSendme k = .queued)
    (hmk : st.circ.markedForClose = false) (h0 : msg.streamId ≠ 0) (hx : st.streams[i]? = some x)
    (hfc : x.edge.stream.usesFlowControl = false) :
    handleRelayData strmP env msg (st.found (some i)) optimisticData st =
      if x.deliverWindow - 1 < 0 then
        some ⟨-END_CIRC_REASON_TORPROTOCOL,
          st.setStream i { x with deliverWindow := x.deliverWindow - 1 }, []⟩
      else
        let k := if optimisticData || env.outbufTooFull || !x.edge.stream.onCircuit then
            (x.deliverWindow - 1, 0)
          else sendmeConnectionEdgeConsiderSending strmP (x.deliverWindow - 1)
        some ⟨0, st.setStream i { x with deliverWindow := k.1 },
          List.replicate k.2 (.stream msg.streamId.toNat)⟩ := by
  simp only [handleRelayData, if_neg h0, RecvCirc.found, Option.some_bind, hx, Option.map_some',
    sendmeStreamDataReceived, hfc, sendmeDataReceived, sendmeConnectionEdgeConsiderSendingConn,
    Bool.false_eq_true, ↓reduceIte, Bool.false_or, hmk, considerSendingWith_queued hq,
    sendmeConnectionEdgeConsiderSending]
  cases optimisticData <;>
    simp only [Bool.true_or, Bool.false_or, Bool.true_eq_false, Bool.false_eq_true, ↓reduceIte] <;>
    split_ifs <;> rfl

/-- The abstract steps of the oldest DATA cell in flight, window check by window check. -/
theorem deliverDataThen_cons (s : WindowState) {id : Nat} {rest : List Nat} (consider : Bool)
    (hhead : s.dataInFlight = id :: rest) :
    deliverDataThen circP strmP s id consider =
      if s.circDeliver - 1 < 0 then .protocolError
      else if s.streamDeliver id - 1 < 0 then .protocolError
      else
        let c := sendmeCircuitConsiderSending circP (s.circDeliver - 1)
        let k := if consider then sendmeConnectionEdgeConsiderSending strmP (s.streamDeliver id - 1)
          else (s.streamDeliver id - 1, 0)
        .ok { s with
          circDeliver := c.1
          streamDeliver := Function.update s.streamDeliver id k.1
          dataInFlight := rest
          sendmesInFlight := s.sendmesInFlight ++ List.replicate c.2 .circuit ++
            List.replicate k.2 (.stream id) } := by
  simp only [deliverDataThen, windowStep, hhead, sendmeDataReceived]
  split_ifs <;> simp_all

/-- One DATA cell on the window path, with what the runs need besides the refinement: it changes
    nothing but deliver windows. -/
theorem relayReceive_data_sim (msg : RelayMsg) (st : RecvCirc) (s : WindowState) {i : Nat}
    {x : RecvStream} {rest : List Nat} (hdata : msg.command = RELAY_COMMAND_DATA)
    (hpad : env.padding = false) (hq : env.SendmesQueued) (hmk : st.circ.markedForClose = false)
    (hconn : relayLookupConn st.isOrigin msg.streamId st.streams = some i)
    (hx : st.streams[i]? = some x)
    (hstate : x.state = .open ∨ (x.isAp = false ∧ x.state = .exitConnecting))
    (hfc : x.edge.stream.usesFlowControl = false) (hrel : DeliverRel s st)
    (hhead : s.dataInFlight = msg.streamId.toNat :: rest) :
    ∃ r, relayReceive circP strmP env msg st = some r ∧
      ResultRel s (deliverDataThen circP strmP s msg.streamId.toNat
        (x.state = .open && !env.outbufTooFull && x.edge.stream.onCircuit)) r ∧
      SameButDeliver st r.st := by
  obtain ⟨h0, -⟩ := relayLookupConn_spec hconn
  have hsd : s.streamDeliver msg.streamId.toNat = x.deliverWindow := hrel.2 _ _ _ hconn hx
  have hopt : (decide (x.state ≠ .open) || env.outbufTooFull || !x.edge.stream.onCircuit) =
      !(x.state = .open && !env.outbufTooFull && x.edge.stream.onCircuit) := by
    by_cases ho : x.state = .open <;> simp [ho]
  rw [relayReceive, hconn, connectionEdgeProcessRelayCell, if_neg (fun h => h0 h.1), if_pos hdata,
    deliverDataThen_cons circP strmP s _ hhead, hrel.1, hsd]
  simp only [sendmeDataReceived]
  -- the hop's deliver window
  by_cases hc : st.deliverWindow - 1 < 0
  · simp only [if_pos hc]
    exact ⟨_, rfl, Int.not_le.1 torprotocol_neg, rfl, rfl, rfl⟩
  simp only [if_neg hc, sendmeCircuitConsiderSendingCirc_queued circP env (fun k => (hq k).1)]
  generalize sendmeCircuitConsiderSending circP (st.deliverWindow - 1) = c
  rw [connectionEdgeProcessOrderedRelayCell_data circP strmP env msg
      { st with deliverWindow := c.1 } hx hstate hdata,
    handleRelayMsg_data circP strmP env _ _ _ _ hpad hdata,
    handleRelayData_window strmP env msg _ { st with deliverWindow := c.1 } (fun k => (hq k).2) hmk
      h0 hx hfc, hopt]
  -- the stream's deliver window
  by_cases hs : x.deliverWindow - 1 < 0
  · simp only [if_pos hs]
    exact ⟨_, rfl, Int.not_le.1 torprotocol_neg, SameButDeliver.setDeliver hx _ _⟩
  simp only [if_neg hs]
  generalize (x.state = .open && !env.outbufTooFull && x.edge.stream.onCircuit) = b
  refine ⟨_, rfl, ⟨rfl, ?_, hrel.setDeliver hconn hx rfl ?_⟩, SameButDeliver.setDeliver hx _ _⟩
  · cases b <;> simp
  · cases b <;> rfl

/-- **The receiving endpoint refines the window protocol.** The oldest DATA cell in flight, for a
    stream on the window path, its SENDMEs queued on an unmarked circuit, gives the abstract outcome
    of `.deliverData` and, when the code runs the stream-level loop at once, `.considerStream`. -/
theorem relayReceive_data_refines (msg : RelayMsg) (st : RecvCirc) (s : WindowState) {i : Nat}
    {x : RecvStream} {rest : List Nat} (hdata : msg.command = RELAY_COMMAND_DATA)
    (hpad : env.padding = false) (hq : env.SendmesQueued) (hmk : st.circ.markedForClose = false)
    (hconn : relayLookupConn st.isOrigin msg.streamId st.streams = some i)
    (hx : st.streams[i]? = some x)
    (hstate : x.state = .open ∨ (x.isAp = false ∧ x.state = .exitConnecting))
    (hfc : x.edge.stream.usesFlowControl = false) (hrel : DeliverRel s st)
    (hhead : s.dataInFlight = msg.streamId.toNat :: rest) :
    ∃ r, relayReceive circP strmP env msg st = some r ∧
      ResultRel s (deliverDataThen circP strmP s msg.streamId.toNat
        (x.state = .open && !env.outbufTooFull && x.edge.stream.onCircuit)) r :=
  let ⟨r, h, hr, _⟩ :=
    relayReceive_data_sim circP strmP env msg st s hdata hpad hq hmk hconn hx hstate hfc hrel hhead
  ⟨r, h, hr⟩

/-- The DATA cell for stream 1 at the exit hop, the oldest of the two in flight. -/
theorem relayReceive_data_refines_exitHop :
    exitRecvEnv.SendmesQueued ∧ DeliverRel twoCellsInFlight exitHop ∧
      ∃ r, relayReceive specCircWindow specStreamWindow exitRecvEnv
          (RelayMsg.ofPayload RELAY_COMMAND_DATA 1 [0x61] []) exitHop = some r ∧
        ResultRel twoCellsInFlight
          (deliverDataThen specCircWindow specStreamWindow twoCellsInFlight 1 true) r :=
  ⟨fun _ => ⟨rfl, rfl⟩, twoCellsInFlight_deliverRel,
    relayReceive_data_refines specCircWindow specStreamWindow exitRecvEnv
      (RelayMsg.ofPayload RELAY_COMMAND_DATA 1 [0x61] []) exitHop twoCellsInFlight (i := 0)
      rfl rfl (fun _ => ⟨rfl, rfl⟩) rfl rfl rfl (.inl rfl) rfl
      twoCellsInFlight_deliverRel rfl⟩

end Data

/-! ## Runs -/

section Runs

variable (circP strmP : WindowParams)

/-- From a reachable state, the abstract steps of the oldest DATA cell in flight succeed, reach a
    reachable state, and take the cell off its link. -/
theorem deliverDataThen_reachable {s : WindowState} {id : Nat} {rest : List Nat} (consider : Bool)
    (h : WindowReachable circP strmP s) (hhead : s.dataInFlight = id :: rest) :
    ∃ s', deliverDataThen circP strmP s id consider = .ok s' ∧ WindowReachable circP strmP s' ∧
      s'.dataInFlight = rest := by
  obtain ⟨s₁, h₁, -⟩ := windowStep_inv (reachable_windowInv h) .deliverData
  have hr₁ : WindowReachable circP strmP s₁ := .step h h₁
  obtain ⟨s', hs', hr'⟩ : ∃ s', deliverDataThen circP strmP s id consider = .ok s' ∧
      WindowReachable circP strmP s' := by
    unfold deliverDataThen
    rw [h₁]
    cases consider
    · exact ⟨s₁, rfl, hr₁⟩
    · exact ⟨_, rfl, .step (a := .considerStream id) hr₁ rfl⟩
  refine ⟨s', hs', hr', ?_⟩
  rw [deliverDataThen_cons circP strmP s consider hhead] at hs'
  split_ifs at hs' <;> cases hs' <;> rfl

/-- **DATA cells in the order they were sent never close the circuit.** From the receiving side of
    a reachable state, the oldest DATA cells in flight, for streams on the window path, their
    SENDMEs queued, all go through and end at the receiving side of a reachable state. -/
theorem receiveRun_data_safe : ∀ (cells : List (RelayMsg × RecvEnv)) (st : RecvCirc)
    (s : WindowState) (more : List Nat),
    WindowReachable circP strmP s → DeliverRel s st → st.circ.markedForClose = false →
    s.dataInFlight = cells.map (fun c => c.1.streamId.toNat) ++ more →
    (∀ c ∈ cells, c.1.command = RELAY_COMMAND_DATA ∧ c.2.padding = false ∧ c.2.SendmesQueued ∧
      DataReady st c.1.streamId) →
    ∃ run, receiveRun circP strmP cells st = some run ∧ run.closed = false ∧
      run.processed = cells.length ∧
      ∃ s', WindowReachable circP strmP s' ∧ s'.dataInFlight = more ∧
        s'.sendmesInFlight = s.sendmesInFlight ++ run.sent ∧ DeliverRel s' run.st
  | [], _, s, _, hr, hrel, _, hf, _ =>
    ⟨_, rfl, rfl, rfl, s, hr, by simpa using hf, by simp, hrel⟩
  | (msg, env) :: cells, st, s, more, hr, hrel, hmk, hf, hc => by
    obtain ⟨hdata, hpad, hq, i, x, hconn, hx, hstate, hfc⟩ := hc _ (List.mem_cons_self _ _)
    obtain ⟨r, hrecv, hres, hsame⟩ :=
      relayReceive_data_sim circP strmP env msg st s hdata hpad hq hmk hconn hx hstate hfc hrel hf
    obtain ⟨s₁, hs₁, hr₁, hd₁⟩ := deliverDataThen_reachable circP strmP _ hr hf
    rw [hs₁] at hres
    obtain ⟨hret, hsent, hrel₁⟩ := hres
    obtain ⟨run, hrun, hclosed, hproc, s', hr', hd', hsent', hrel'⟩ :=
      receiveRun_data_safe cells r.st s₁ more hr₁ hrel₁ (hsame.circ ▸ hmk) hd₁ fun c hc' =>
        let ⟨h₁, h₂, h₃, h₄⟩ := hc c (List.mem_cons_of_mem _ hc')
        ⟨h₁, h₂, h₃, h₄.of_same hsame⟩
    have hrun' : receiveRun circP strmP ((msg, env) :: cells) st =
        some { run with sent := r.sent ++ run.sent, processed := run.processed + 1 } := by
      rw [receiveRun, hrecv]
      simp only [hret, lt_irrefl, if_false, hrun]
      rfl
    exact ⟨_, hrun', hclosed, by simp [hproc], s', hr', hd',
      by rw [hsent', hsent, List.append_assoc], hrel'⟩

/-- The two DATA cells in flight, for streams 1 and 2, at the exit hop. -/
theorem receiveRun_data_safe_exitHop :
    WindowReachable specCircWindow specStreamWindow twoCellsInFlight ∧
      DeliverRel twoCellsInFlight exitHop ∧ exitRecvEnv.SendmesQueued ∧
      ∃ run, receiveRun specCircWindow specStreamWindow
          [(RelayMsg.ofPayload RELAY_COMMAND_DATA 1 [0x61] [], exitRecvEnv),
            (RelayMsg.ofPayload RELAY_COMMAND_DATA 2 [0x62] [], exitRecvEnv)] exitHop = some run ∧
        run.closed = false ∧ run.processed = 2 ∧
        ∃ s', WindowReachable specCircWindow specStreamWindow s' ∧ s'.dataInFlight = [] ∧
          s'.sendmesInFlight = twoCellsInFlight.sendmesInFlight ++ run.sent ∧ DeliverRel s' run.st :=
  ⟨twoCellsInFlight_reachable, twoCellsInFlight_deliverRel, fun _ => ⟨rfl, rfl⟩,
    receiveRun_data_safe specCircWindow specStreamWindow _ exitHop twoCellsInFlight []
      twoCellsInFlight_reachable twoCellsInFlight_deliverRel rfl rfl fun c hc => by
        simp only [List.mem_cons, List.mem_singleton, List.not_mem_nil, or_false] at hc
        rcases hc with rfl | rfl
        · exact ⟨rfl, rfl, fun _ => ⟨rfl, rfl⟩, 0, _, rfl, rfl, .inl rfl, rfl⟩
        · exact ⟨rfl, rfl, fun _ => ⟨rfl, rfl⟩, 1, _, rfl, rfl, .inl rfl, rfl⟩⟩

end Runs

/-! ## SENDMEs at the packaging endpoint -/

/-- The packaging side of the hop `st` stands for `a`: its circuit and its streams' packaging
    sides, related to the streams' ids. -/
def HopPackRel (a : WindowState) (st : RecvCirc) : Prop :=
  PackRel a st.circ (st.streams.map (·.edge)) (st.streams.map (·.streamId.toNat))

/-- The abstract SENDME a SENDME cell stands for: circuit-level for stream id 0, else for its
    stream id. -/
def sendmeMsgOf (msg : RelayMsg) : SendmeMsg :=
  if msg.streamId = 0 then .circuit else .stream msg.streamId.toNat

/-- A stream that a SENDME for its id reaches: open, attached to its circuit and not marked for
    close, and, at the origin, on the cell's hop. -/
def StreamReady (isOrigin : Bool) (x : RecvStream) : Prop :=
  x.state = .open ∧ x.edge.stream.Attached ∧ (isOrigin = true → x.edge.usesCpath = true)

/-- The SENDME cell `msg` is for the circuit, or for a stream of the hop, every stream with its
    id being ready for it. -/
def SendmeReady (st : RecvCirc) (msg : RelayMsg) : Prop :=
  msg.streamId = 0 ∨ ((∃ x ∈ st.streams, x.streamId = msg.streamId) ∧
    ∀ x ∈ st.streams, x.streamId = msg.streamId → StreamReady st.isOrigin x)

/-- The stream `x'` is `x` with another packaging side, which keeps what `EdgeKeeps` says. -/
def StreamKeeps (x x' : RecvStream) : Prop :=
  x' = { x with edge := x'.edge } ∧ EdgeKeeps x.edge x'.edge

/-- What a SENDME keeps of the hop: the origin flag, and every stream as `StreamKeeps` says. -/
structure HopKeeps (st st' : RecvCirc) : Prop where
  isOrigin : st'.isOrigin = st.isOrigin
  streams : List.Forall₂ StreamKeeps st.streams st'.streams

theorem forall₂_exists_of_mem_left {α β : Type} {R : α → β → Prop} :
    ∀ {l₁ : List α} {l₂ : List β}, List.Forall₂ R l₁ l₂ → ∀ {a}, a ∈ l₁ → ∃ b ∈ l₂, R a b
  | _, _, .cons h hs, _, ha => (List.mem_cons.1 ha).elim (fun e => ⟨_, List.mem_cons_self _ _, e ▸ h⟩)
      fun ha => let ⟨b, hb, hr⟩ := forall₂_exists_of_mem_left hs ha
        ⟨b, List.mem_cons_of_mem _ hb, hr⟩

theorem forall₂_exists_of_mem_right {α β : Type} {R : α → β → Prop} :
    ∀ {l₁ : List α} {l₂ : List β}, List.Forall₂ R l₁ l₂ → ∀ {b}, b ∈ l₂ → ∃ a ∈ l₁, R a b
  | _, _, .cons h hs, _, hb => (List.mem_cons.1 hb).elim (fun e => ⟨_, List.mem_cons_self _ _, e ▸ h⟩)
      fun hb => let ⟨a, ha, hr⟩ := forall₂_exists_of_mem_right hs hb
        ⟨a, List.mem_cons_of_mem _ ha, hr⟩

theorem StreamKeeps.ready {isOrigin : Bool} {x x' : RecvStream} (h : StreamKeeps x x')
    (hx : StreamReady isOrigin x) : StreamReady isOrigin x' := by
  obtain ⟨he, hu, ha⟩ := h
  rw [he]
  exact ⟨hx.1, ha hx.2.1, fun ho => hu.trans (hx.2.2 ho)⟩

theorem StreamKeeps.streamId {x x' : RecvStream} (h : StreamKeeps x x') :
    x'.streamId = x.streamId := by
  rw [h.1]

/-- A SENDME for the circuit or a ready stream stays so after a cell that keeps the hop. -/
theorem SendmeReady.of_keeps {st st' : RecvCirc} {msg : RelayMsg} (h : SendmeReady st msg)
    (hk : HopKeeps st st') : SendmeReady st' msg := by
  refine h.imp id fun ⟨⟨x, hx, hid⟩, hall⟩ => ⟨?_, fun x' hx' hid' => ?_⟩
  · obtain ⟨x', hx', hkx⟩ := forall₂_exists_of_mem_left hk.streams hx
    exact ⟨x', hx', hkx.streamId.trans hid⟩
  · obtain ⟨x, hx, hkx⟩ := forall₂_exists_of_mem_right hk.streams hx'
    rw [hk.isOrigin]
    exact hkx.ready (hall x hx (hkx.streamId.symm.trans hid'))

theorem zipWith_edge_keeps {l : List RecvStream} {e : List ResumeStream}
    (h : List.Forall₂ EdgeKeeps (l.map (·.edge)) e) :
    List.Forall₂ StreamKeeps l (List.zipWith (fun s e => { s with edge := e }) l e) ∧
      (List.zipWith (fun s e => { s with edge := e }) l e).map (·.edge) = e := by
  induction l generalizing e with
  | nil =>
    cases h
    exact ⟨.nil, rfl⟩
  | cons x l ih =>
    cases h with
    | cons h hs =>
      obtain ⟨h₁, h₂⟩ := ih hs
      exact ⟨.cons ⟨rfl, h⟩ h₁, by rw [List.zipWith_cons_cons, List.map_cons, h₂]⟩

theorem forall₂_streamKeeps_ids : ∀ {l l' : List RecvStream}, List.Forall₂ StreamKeeps l l' →
    l'.map (·.streamId.toNat) = l.map (·.streamId.toNat)
  | _, _, .nil => rfl
  | _, _, .cons h hs => by
    rw [List.map_cons, List.map_cons, h.streamId, forall₂_streamKeeps_ids hs]

theorem withEdges_keeps {st : RecvCirc} {circ : EdgeCirc} {e : List ResumeStream}
    (h : List.Forall₂ EdgeKeeps (st.streams.map (·.edge)) e) :
    HopKeeps st (st.withEdges circ e) ∧ (st.withEdges circ e).streams.map (·.edge) = e ∧
      (st.withEdges circ e).streams.map (·.streamId.toNat) = st.streams.map (·.streamId.toNat) := by
  obtain ⟨h₁, h₂⟩ := zipWith_edge_keeps h
  exact ⟨⟨rfl, h₁⟩, h₂, forall₂_streamKeeps_ids h₁⟩

theorem SendmeReady.lookup {st : RecvCirc} {msg : RelayMsg} (h : SendmeReady st msg)
    (h0 : msg.streamId ≠ 0) : ∃ i x, relayLookupConn st.isOrigin msg.streamId st.streams = some i ∧
      st.streams[i]? = some x ∧ x.streamId = msg.streamId ∧ x.state = .open := by
  obtain ⟨⟨x, hx, hid⟩, hall⟩ := h.resolve_left h0
  have hfound : (relayLookupConn st.isOrigin msg.streamId st.streams).isSome := by
    obtain ⟨-, ⟨-, hnm⟩, hcp⟩ := hall x hx hid
    rw [relayLookupConn, if_neg h0, List.findIdx?_isSome, List.any_eq_true]
    refine ⟨x, hx, ?_⟩
    cases ho : st.isOrigin <;> simp_all
  obtain ⟨i, hi⟩ := Option.isSome_iff_exists.1 hfound
  obtain ⟨-, y, hy, hyid⟩ := relayLookupConn_spec hi
  exact ⟨i, y, hi, hy, hyid, (hall y (List.getElem?_mem hy) hyid).1⟩

section Sendme

variable (circP strmP : WindowParams) (env : RecvEnv)

/-- With no padding machine taking it, a SENDME reaches `handle_relay_msg`'s SENDME branch. -/
theorem handleRelayMsg_sendme (msg : RelayMsg) (conn : Option Nat) (optimisticData : Bool)
    (st : RecvCirc) (hpad : env.padding = false) (hcmd : msg.command = RELAY_COMMAND_SENDME) :
    handleRelayMsg circP strmP env msg conn optimisticData st =
      handleRelaySendme circP strmP env msg (st.found conn) st := by
  simp +decide only [handleRelayMsg, hpad, hcmd, RELAY_COMMAND_SENDME, RELAY_COMMAND_CONFLUX_SWITCH,
    RELAY_COMMAND_BEGIN, RELAY_COMMAND_BEGIN_DIR, RELAY_COMMAND_DATA, RELAY_COMMAND_END,
    RELAY_COMMAND_EXTEND, RELAY_COMMAND_EXTEND2, RELAY_COMMAND_EXTENDED, RELAY_COMMAND_EXTENDED2,
    RELAY_COMMAND_CONNECTED, Bool.false_eq_true, if_false, if_true]

/-- A SENDME for the circuit, or for a stream the lookup finds open, reaches
    `handle_relay_msg`. -/
theorem relayReceive_sendme (msg : RelayMsg) (st : RecvCirc) (hpad : env.padding = false)
    (hcmd : msg.command = RELAY_COMMAND_SENDME)
    (hopen : ∀ i x, st.found (relayLookupConn st.isOrigin msg.streamId st.streams) = some (i, x) →
      x.state = .open) :
    relayReceive circP strmP env msg st = handleRelaySendme circP strmP env msg
      (st.found (relayLookupConn st.isOrigin msg.streamId st.streams)) st := by
  have hd : msg.command ≠ RELAY_COMMAND_DATA := by rw [hcmd]; decide
  have hb : ¬ (msg.streamId = 0 ∧ (msg.command = RELAY_COMMAND_BEGIN ∨
      msg.command = RELAY_COMMAND_CONNECTED ∨ msg.command = RELAY_COMMAND_END ∨
      msg.command = RELAY_COMMAND_RESOLVE ∨ msg.command = RELAY_COMMAND_RESOLVED ∨
      msg.command = RELAY_COMMAND_BEGIN_DIR)) := fun h => by rw [hcmd] at h; exact absurd h.2 (by decide)
  rw [relayReceive, connectionEdgeProcessRelayCell, if_neg hb, if_neg hd,
    connectionEdgeProcessOrderedRelayCell]
  split
  · rename_i i x hf
    rw [if_neg (not_not.2 (hopen i x hf)), handleRelayMsg_sendme circP strmP env _ _ _ _ hpad hcmd,
      hf]
  · rename_i hf
    rw [handleRelayMsg_sendme circP strmP env _ _ _ _ hpad hcmd, hf]

/-- **One SENDME at the packaging endpoint**, the oldest in flight, valid and for the circuit or a
    ready stream: it sends nothing back, closes the circuit exactly when `.deliverSendme` fails, and
    otherwise leaves a hop standing for a state reached from the step's by packaging. -/
theorem relayReceive_sendme_sim (msg : RelayMsg) (st : RecvCirc) (a : WindowState)
    (rest : List SendmeMsg) (hcmd : msg.command = RELAY_COMMAND_SENDME)
    (hpad : env.padding = false) (hvalid : env.sendmeValid = true) (hq : env.resume.Queues)
    (hcall : env.call.Queues) (hrel : HopPackRel a st) (hready : SendmeReady st msg)
    (hhead : a.sendmesInFlight = sendmeMsgOf msg :: rest) :
    ∃ r, relayReceive circP strmP env msg st = some r ∧ r.sent = [] ∧ HopKeeps st r.st ∧
      r.st.streams.map (·.streamId.toNat) = st.streams.map (·.streamId.toNat) ∧
      SendmeResultRel circP strmP (st.streams.map (·.streamId.toNat))
        (windowStep circP strmP a .deliverSendme) (r.ret, r.st.circ, r.st.streams.map (·.edge)) := by
  -- the code's answer is `process_sendme_cell`'s, handed back to the hop
  have finish : ∀ target out, relayReceive circP strmP env msg st =
      (processSendmeCell circP strmP env.resume env.oneInN env.call true env.ccResult
        st.streamsBlocked target st.circ (st.streams.map (·.edge))).map
          (fun r => ⟨r.1, st.withEdges r.2.1 r.2.2, []⟩) →
      processSendmeCell circP strmP env.resume env.oneInN env.call true env.ccResult
        st.streamsBlocked target st.circ (st.streams.map (·.edge)) = some out →
      SendmeResultRel circP strmP (st.streams.map (·.streamId.toNat))
        (windowStep circP strmP a .deliverSendme) out →
      ∃ r, relayReceive circP strmP env msg st = some r ∧ r.sent = [] ∧ HopKeeps st r.st ∧
        r.st.streams.map (·.streamId.toNat) = st.streams.map (·.streamId.toNat) ∧
        SendmeResultRel circP strmP (st.streams.map (·.streamId.toNat))
          (windowStep circP strmP a .deliverSendme) (r.ret, r.st.circ, r.st.streams.map (·.edge)) := by
    intro target out hrecv hout hres
    obtain ⟨hk, hedges, hids⟩ := withEdges_keeps (processSendmeCell_edges hout)
    refine ⟨_, by rw [hrecv, hout]; rfl, rfl, hk, hids, ?_⟩
    dsimp only
    rw [hedges]
    exact hres
  by_cases h0 : msg.streamId = 0
  · -- a circuit-level SENDME
    have hl : relayLookupConn st.isOrigin msg.streamId st.streams = none := by
      simp [relayLookupConn, h0]
    obtain ⟨out, hout, hres⟩ := processSendmeCell_circuit_sim circP strmP env.resume env.oneInN
      env.call env.ccResult st.streamsBlocked st.circ _ _ a rest hq hrel
      (by rw [hhead, sendmeMsgOf, if_pos h0])
    refine finish .circuit out ?_ hout hres
    rw [relayReceive_sendme circP strmP env msg st hpad hcmd (by simp [hl, RecvCirc.found]), hl]
    unfold handleRelaySendme
    rw [hvalid, if_pos h0]
  · -- a stream-level SENDME, for the stream the lookup finds
    obtain ⟨i, x, hl, hx, hid, hopen⟩ := hready.lookup h0
    have hf : st.found (some i) = some (i, x) := by simp [RecvCirc.found, hx]
    obtain ⟨out, hout, hres⟩ := processSendmeCell_stream_sim circP strmP env.resume env.oneInN
      env.call env.ccResult st.streamsBlocked st.circ _ _ a i msg.streamId.toNat rest hcall hrel
      (by simp [hx, hid]) (by rw [hhead, sendmeMsgOf, if_neg h0])
    refine finish (.stream i) out ?_ hout hres
    rw [relayReceive_sendme circP strmP env msg st hpad hcmd
      (by rw [hl, hf]; rintro _ _ ⟨⟩; exact hopen), hl, hf]
    unfold handleRelaySendme
    rw [hvalid, if_neg h0]

end Sendme

section SendmeRuns

variable (circP strmP : WindowParams)

/-- From a reachable state, the abstract SENDME step succeeds, reaches a reachable state, and
    takes the SENDME off its link. -/
theorem deliverSendme_reachable {a : WindowState} {m : SendmeMsg} {rest : List SendmeMsg}
    (h : WindowReachable circP strmP a) (hhead : a.sendmesInFlight = m :: rest) :
    ∃ a₁, windowStep circP strmP a .deliverSendme = .ok a₁ ∧ WindowReachable circP strmP a₁ ∧
      a₁.sendmesInFlight = rest := by
  obtain ⟨a₁, h₁, -⟩ := windowStep_inv (reachable_windowInv h) .deliverSendme
  refine ⟨a₁, h₁, .step h h₁, ?_⟩
  simp only [windowStep, hhead] at h₁
  cases m <;> dsimp only at h₁ <;> split at h₁ <;> cases h₁ <;> rfl

/-- **SENDMEs in the order they were sent never close the circuit.** From a hop standing for a
    reachable state, the oldest valid SENDMEs in flight, with packaging calls that queue every
    cell, all go through, send nothing back, and end at a hop standing for a reachable state. -/
theorem receiveRun_sendme_safe : ∀ (cells : List (RelayMsg × RecvEnv)) (st : RecvCirc)
    (a : WindowState) (more : List SendmeMsg),
    WindowReachable circP strmP a → HopPackRel a st →
    a.sendmesInFlight = cells.map (fun c => sendmeMsgOf c.1) ++ more →
    (∀ c ∈ cells, c.1.command = RELAY_COMMAND_SENDME ∧ c.2.padding = false ∧
      c.2.sendmeValid = true ∧ c.2.resume.Queues ∧ c.2.call.Queues ∧ SendmeReady st c.1) →
    ∃ run, receiveRun circP strmP cells st = some run ∧ run.closed = false ∧
      run.processed = cells.length ∧ run.sent = [] ∧
      ∃ a', WindowReachable circP strmP a' ∧ a'.sendmesInFlight = more ∧ HopPackRel a' run.st
  | [], _, a, _, hr, hrel, hf, _ => ⟨_, rfl, rfl, rfl, rfl, a, hr, by simpa using hf, hrel⟩
  | (msg, env) :: cells, st, a, more, hr, hrel, hf, hc => by
    obtain ⟨hcmd, hpad, hvalid, hq, hcall, hready⟩ := hc _ (List.mem_cons_self _ _)
    obtain ⟨r, hrecv, hsent, hk, hids, hres⟩ := relayReceive_sendme_sim circP strmP env msg st a _
      hcmd hpad hvalid hq hcall hrel hready hf
    obtain ⟨a₁, h₁, hr₁, hs₁⟩ := deliverSendme_reachable circP strmP hr hf
    rw [h₁] at hres
    obtain ⟨hret, sent, a₂, -, hp, hrel₂⟩ := hres
    have hrel₂' : HopPackRel a₂ r.st := by
      unfold HopPackRel
      rw [hids]
      exact hrel₂
    obtain ⟨run, hrun, hclosed, hproc, hsent', a', hr', hs', hrel'⟩ :=
      receiveRun_sendme_safe cells r.st a₂ more (hr₁.windowRun hp.run) hrel₂'
        (hp.frame.2.2.1.trans hs₁) fun c hc' =>
          let ⟨h₁, h₂, h₃, h₄, h₅, h₆⟩ := hc c (List.mem_cons_of_mem _ hc')
          ⟨h₁, h₂, h₃, h₄, h₅, h₆.of_keeps hk⟩
    have hrun' : receiveRun circP strmP ((msg, env) :: cells) st =
        some { run with sent := r.sent ++ run.sent, processed := run.processed + 1 } := by
      rw [receiveRun, hrecv]
      simp only [show r.ret = 0 from hret, lt_irrefl, if_false, hrun]
      rfl
    exact ⟨_, hrun', hclosed, by simp [hproc], by simp [hsent, hsent'], a', hr', hs', hrel'⟩

/-- A hop of a circuit with `tinyWindow`'s windows, with one open stream, id 1, with 1000 bytes
    waiting: both its package windows at one, as in `tinySendmes`. -/
def tinyHop : RecvCirc :=
  ⟨⟨false, false, 1, ⟨50, false⟩⟩, 2, false, false, true, false,
    [⟨⟨⟨false, true, 1, false, false, 1000, none, none⟩, true⟩, 1, false, .open, 2, false, 0⟩]⟩

/-- The circuit-level SENDME and the one for stream 1 at `tinyHop`, each letting the stream
    package a cell. -/
theorem receiveRun_sendme_safe_tinyHop :
    WindowReachable tinyWindow tinyWindow tinySendmes ∧ HopPackRel tinySendmes tinyHop ∧
      ∃ run, receiveRun tinyWindow tinyWindow
          [(RelayMsg.ofPayload RELAY_COMMAND_SENDME 0 [] [], exitRecvEnv),
            (RelayMsg.ofPayload RELAY_COMMAND_SENDME 1 [] [], exitRecvEnv)] tinyHop = some run ∧
        run.closed = false ∧ run.processed = 2 ∧ run.sent = [] ∧
        ∃ a', WindowReachable tinyWindow tinyWindow a' ∧ a'.sendmesInFlight = [] ∧
          HopPackRel a' run.st :=
  have hrel : HopPackRel tinySendmes tinyHop := ⟨rfl, rfl, .cons ⟨rfl, rfl⟩ .nil, by decide⟩
  have hq : exitResumeEnv.Queues := fun _ _ =>
    ⟨fun _ => rfl, (by decide : RELAY_CELL_PADDING_GAP + 16 ≤ 498)⟩
  ⟨tinySendmes_reachable, hrel, receiveRun_sendme_safe tinyWindow tinyWindow _ tinyHop tinySendmes
    [] tinySendmes_reachable hrel rfl fun c hc => by
      simp only [List.mem_cons, List.mem_singleton, List.not_mem_nil, or_false] at hc
      rcases hc with rfl | rfl
      · exact ⟨rfl, rfl, rfl, hq, hq 0 0, .inl rfl⟩
      · refine ⟨rfl, rfl, rfl, hq, hq 0 0, .inr ⟨⟨_, List.mem_singleton_self _, rfl⟩, ?_⟩⟩
        intro x hx _
        rw [List.mem_singleton.1 hx]
        exact ⟨rfl, ⟨rfl, rfl⟩, fun _ => rfl⟩⟩

end SendmeRuns

end TorCore
