import TorCore.Relay.WindowSim

/-!
# `TorCore.Relay.HopSafety` — both endpoints of a hop, in any interleaving

`Relay.WindowSim` refines the window protocol at each endpoint of a hop alone: a run of DATA
cells at the receiving endpoint, a run of SENDMEs at the packaging one. This module puts the two
endpoints together. The packaging endpoint `P` and the receiving endpoint `R` are two hops of the
code; between them the network carries DATA cells one way and SENDMEs the other, each link in
order. The network is the ghost abstract state `a` of `Sendme.Window`: its links are the cells in
flight, and its windows are the endpoints' (`HopPackRel a P`, `DeliverRel a R`).

`HopsInv` is the invariant of the pair: `a` is reachable, it stands for both endpoints, every
stream of `P` is open and attached to its circuit and has an open stream of the same id at `R`,
the cells in flight are all for those streams, and `R`'s circuit is not marked for close. `hopStep_safe` says that it is an inductive
invariant of the code: whichever event comes next (the oldest DATA cell in flight reaching `R`,
the oldest SENDME reaching `P`, or a call of `connection_edge_package_raw_inbuf` on a stream of
`P`), the code returns `0` and the endpoints stand for a reachable state again. So under any
interleaving of the two endpoints, no window check ever closes the circuit.

## Contents
- **The two endpoints.** `HopEvent`, `hopStep`, `HopEvent.Allowed`, `HopsInv`.
- **Frames.** What each abstract step leaves of the other endpoint's windows.
- **One event.** `hopsInv_deliverData`, `hopsInv_deliverSendme`, `hopsInv_package`, then
  `hopStep_safe`.
-/

namespace TorCore

/-! ## The two endpoints -/

/-- What can happen next at the two endpoints of a hop. -/
inductive HopEvent where
  /-- The oldest DATA cell in flight reaches the receiving endpoint. -/
  | deliverData (msg : RelayMsg) (env : RecvEnv)
  /-- The oldest SENDME in flight reaches the packaging endpoint. -/
  | deliverSendme (msg : RelayMsg) (env : RecvEnv)
  /-- `connection_edge_package_raw_inbuf` on the packaging endpoint's stream at `pos`. -/
  | package (pos : Nat) (env : PackageEnv) (packagePartial : Bool) (maxCells : Option Int)

/-- An event at the packaging endpoint `P` and the receiving endpoint `R`: the return value, and
    both endpoints afterwards. A packaging call is made as `process_sendme_cell` makes it, the
    stream marked for close when the call fails. -/
def hopStep (circP strmP : WindowParams) :
    HopEvent → RecvCirc → RecvCirc → Option (Int × RecvCirc × RecvCirc)
  | .deliverData msg env, P, R => (relayReceive circP strmP env msg R).map fun r => (r.ret, P, r.st)
  | .deliverSendme msg env, P, R =>
    (relayReceive circP strmP env msg P).map fun r => (r.ret, r.st, R)
  | .package pos env packagePartial maxCells, P, R =>
    match P.streams[pos]? with
    | none => some (0, P, R)
    | some x =>
      (connectionEdgePackageRawInbuf env P.circ x.edge.stream packagePartial maxCells).map
        fun res =>
          let s := if res.ret < 0 then { res.stream with markedForClose := true } else res.stream
          (res.ret, { P with
            circ := res.circ
            streams := P.streams.set pos { x with edge := { x.edge with stream := s } } }, R)

/-- The event is one the network allows next from the ghost state `a`: the oldest DATA cell in
    flight, unpadded, with every SENDME it sends queued; the SENDME the oldest one in flight stands
    for; or a packaging call; each with calls that queue every cell. -/
def HopEvent.Allowed (a : WindowState) : HopEvent → Prop
  | .deliverData msg env => msg.command = RELAY_COMMAND_DATA ∧ env.padding = false ∧
      env.SendmesQueued ∧ a.dataInFlight.head? = some msg.streamId.toNat
  | .deliverSendme msg env => msg.command = RELAY_COMMAND_SENDME ∧ env.padding = false ∧
      env.sendmeValid = true ∧ env.resume.Queues ∧ env.call.Queues ∧
      a.sendmesInFlight.head? = some (sendmeMsgOf msg)
  | .package _ env _ _ => env.Queues

/-- **The invariant of the two endpoints of a hop**, with the network `a` between them. -/
structure HopsInv (circP strmP : WindowParams) (P R : RecvCirc) (a : WindowState) : Prop where
  reachable : WindowReachable circP strmP a
  pack : HopPackRel a P
  deliver : DeliverRel a R
  /-- Every stream of the packaging endpoint takes SENDMEs, and its id has a stream at the
      receiving endpoint that takes DATA. -/
  ready : ∀ x ∈ P.streams, StreamReady P.isOrigin x ∧ DataReady R x.streamId
  /-- The DATA cells in flight are for the packaging endpoint's streams. -/
  data_ids : ∀ id ∈ a.dataInFlight, id ∈ P.streams.map (·.streamId.toNat)
  /-- So are the stream-level SENDMEs in flight. -/
  sendme_ids : ∀ m ∈ a.sendmesInFlight,
    m = .circuit ∨ ∃ id ∈ P.streams.map (·.streamId.toNat), m = .stream id
  /-- The receiving endpoint's circuit is not marked for close, so its SENDMEs can be sent. -/
  unmarked : R.circ.markedForClose = false

/-! ## Frames -/

section Frames

variable {circP strmP : WindowParams} {a a' : WindowState}

/-- The packaging side's relation reads only the package windows. -/
theorem PackRel.of_package_eq {circ : EdgeCirc} {xs : List ResumeStream} {ids : List Nat}
    (h : PackRel a circ xs ids) (hc : a'.circPackage = a.circPackage)
    (hs : a'.streamPackage = a.streamPackage) : PackRel a' circ xs ids :=
  ⟨h.ccontrol, hc.trans h.circ_eq, StreamRel.congr h.streams fun id _ => congrFun hs id, h.nodup⟩

/-- The receiving side's relation reads only the deliver windows. -/
theorem DeliverRel.of_deliver_eq {R : RecvCirc} (h : DeliverRel a R)
    (hc : a'.circDeliver = a.circDeliver) (hs : a'.streamDeliver = a.streamDeliver) :
    DeliverRel a' R :=
  ⟨hc.trans h.1, fun id i x hl hx => (congrFun hs id.toNat).trans (h.2 id i x hl hx)⟩

theorem mem_sendmes_append {ms : List SendmeMsg} {m : SendmeMsg} {c k id : Nat}
    (h : m ∈ ms ++ List.replicate c .circuit ++ List.replicate k (.stream id)) :
    m ∈ ms ∨ m = .circuit ∨ m = .stream id := by
  simp only [List.mem_append, List.mem_replicate] at h
  rcases h with (h | ⟨-, h⟩) | ⟨-, h⟩
  exacts [.inl h, .inr (.inl h), .inr (.inr h)]

/-- The abstract steps of a DATA cell leave the package windows, take the cell off its link, and
    put only circuit-level SENDMEs and SENDMEs for its stream in flight. -/
theorem deliverDataThen_frame {id : Nat} {rest : List Nat} {consider : Bool}
    (hhead : a.dataInFlight = id :: rest)
    (h : deliverDataThen circP strmP a id consider = .ok a') :
    a'.circPackage = a.circPackage ∧ a'.streamPackage = a.streamPackage ∧
      a'.dataInFlight = rest ∧
      ∀ m ∈ a'.sendmesInFlight, m ∈ a.sendmesInFlight ∨ m = .circuit ∨ m = .stream id := by
  rw [deliverDataThen_cons circP strmP a consider hhead] at h
  split_ifs at h <;> cases h <;> exact ⟨rfl, rfl, rfl, fun m hm => mem_sendmes_append hm⟩

/-- A SENDME leaves the deliver windows and the DATA cells in flight. -/
theorem windowStep_deliverSendme_frame (h : windowStep circP strmP a .deliverSendme = .ok a') :
    a'.circDeliver = a.circDeliver ∧ a'.streamDeliver = a.streamDeliver ∧
      a'.dataInFlight = a.dataInFlight := by
  simp only [windowStep] at h
  split at h
  · cases h; exact ⟨rfl, rfl, rfl⟩
  all_goals
    split at h
    · cases h
    · cases h; exact ⟨rfl, rfl, rfl⟩

end Frames

/-! ## One event -/

section Events

variable {circP strmP : WindowParams} {P R : RecvCirc} {a : WindowState}

/-- The ids of a list of streams, read off the membership of one of them. -/
theorem mem_streamIds {xs : List RecvStream} {x : RecvStream} (hx : x ∈ xs) :
    x.streamId.toNat ∈ xs.map (·.streamId.toNat) :=
  List.mem_map_of_mem _ hx

/-- **A DATA cell at the receiving endpoint** keeps the invariant and closes nothing. -/
theorem hopsInv_deliverData (h : HopsInv circP strmP P R a) (msg : RelayMsg) (env : RecvEnv)
    (hev : (HopEvent.deliverData msg env).Allowed a) :
    ∃ P' R', hopStep circP strmP (.deliverData msg env) P R = some (0, P', R') ∧
      ∃ a', HopsInv circP strmP P' R' a' := by
  obtain ⟨hdata, hpad, hq, hhead⟩ := hev
  obtain ⟨rest, hhead⟩ := List.head?_eq_some_iff.1 hhead
  -- the cell is for a stream of the packaging endpoint, which is open at the receiving one
  obtain ⟨x, hx, hid⟩ := List.mem_map.1 (h.data_ids _ (hhead ▸ List.mem_cons_self _ _))
  have hxid : x.streamId = msg.streamId := UInt16.toNat.inj hid
  obtain ⟨i, y, hconn, hy, hstate, hfc⟩ := hxid ▸ (h.ready x hx).2
  obtain ⟨r, hrecv, hres, hsame⟩ := relayReceive_data_sim circP strmP env msg R a hdata hpad hq
    h.unmarked hconn hy hstate hfc h.deliver hhead
  obtain ⟨a₁, h₁, hr₁, hd₁⟩ := deliverDataThen_reachable circP strmP
    (y.state = .open && !env.outbufTooFull && y.edge.stream.onCircuit) h.reachable hhead
  obtain ⟨hc₁, hs₁, -, hm₁⟩ := deliverDataThen_frame hhead h₁
  rw [h₁] at hres
  obtain ⟨hret, -, hrel₁⟩ := hres
  refine ⟨P, r.st, by rw [hopStep, hrecv, Option.map_some', hret], a₁, hr₁, h.pack.of_package_eq hc₁ hs₁,
    hrel₁, fun z hz => ⟨(h.ready z hz).1, (h.ready z hz).2.of_same hsame⟩,
    fun id hid' => h.data_ids id (hhead ▸ List.mem_cons_of_mem _ (hd₁ ▸ hid')), ?_,
    hsame.circ ▸ h.unmarked⟩
  intro m hm
  rcases hm₁ m hm with hm | rfl | rfl
  · exact h.sendme_ids m hm
  · exact .inl rfl
  · exact .inr ⟨_, hid ▸ mem_streamIds hx, rfl⟩

/-- **A SENDME at the packaging endpoint** keeps the invariant and closes nothing, whatever
    packaging it lets the streams do. -/
theorem hopsInv_deliverSendme (h : HopsInv circP strmP P R a) (msg : RelayMsg) (env : RecvEnv)
    (hev : (HopEvent.deliverSendme msg env).Allowed a) :
    ∃ P' R', hopStep circP strmP (.deliverSendme msg env) P R = some (0, P', R') ∧
      ∃ a', HopsInv circP strmP P' R' a' := by
  obtain ⟨hcmd, hpad, hvalid, hq, hcall, hhead⟩ := hev
  obtain ⟨rest, hhead⟩ := List.head?_eq_some_iff.1 hhead
  -- the SENDME is for the circuit or for a stream of the packaging endpoint, which is ready
  have hready : SendmeReady P msg := by
    rcases h.sendme_ids _ (hhead ▸ List.mem_cons_self _ _) with hm | ⟨id, hid, hm⟩
    · unfold sendmeMsgOf at hm
      split_ifs at hm with h0
      exact .inl h0
    · unfold sendmeMsgOf at hm
      split_ifs at hm with h0
      obtain ⟨x, hx, rfl⟩ := List.mem_map.1 hid
      have hxid : x.streamId = msg.streamId := UInt16.toNat.inj (SendmeMsg.stream.inj hm).symm
      exact .inr ⟨⟨x, hx, hxid⟩, fun y hy _ => (h.ready y hy).1⟩
  obtain ⟨r, hrecv, -, hk, hids, hres⟩ := relayReceive_sendme_sim circP strmP env msg P a rest
    hcmd hpad hvalid hq hcall h.pack hready hhead
  obtain ⟨a₁, h₁, hr₁, hs₁⟩ := deliverSendme_reachable circP strmP h.reachable hhead
  obtain ⟨hcd₁, hsd₁, hdata₁⟩ := windowStep_deliverSendme_frame h₁
  rw [h₁] at hres
  obtain ⟨hret, sent, a₂, hsent, hp, hrel₂⟩ := hres
  obtain ⟨hcd₂, hsd₂, hs₂, -⟩ := hp.frame
  refine ⟨r.st, R, by rw [hopStep, hrecv, Option.map_some', show r.ret = 0 from hret], a₂,
    hr₁.windowRun hp.run, by unfold HopPackRel; rw [hids]; exact hrel₂,
    h.deliver.of_deliver_eq (hcd₂.trans hcd₁) (hsd₂.trans hsd₁), fun z hz => ?_, ?_, ?_,
    h.unmarked⟩
  · -- a stream of the packaging endpoint keeps what `StreamKeeps` says
    obtain ⟨x, hx, hkx⟩ := forall₂_exists_of_mem_right hk.streams hz
    rw [hk.isOrigin, hkx.streamId]
    exact ⟨hkx.ready (h.ready x hx).1, (h.ready x hx).2⟩
  · -- the DATA cells in flight, and those the SENDME let the streams package
    intro id hid
    rw [hp.data, hdata₁, List.mem_append] at hid
    rw [hids]
    exact hid.elim (h.data_ids id) (hsent id)
  · intro m hm
    rw [hs₂, hs₁] at hm
    rw [hids]
    exact h.sendme_ids m (hhead ▸ List.mem_cons_of_mem _ hm)

/-- **A packaging call at the packaging endpoint** keeps the invariant and does not fail: its
    cells are `.package` steps on the stream's id. -/
theorem hopsInv_package (h : HopsInv circP strmP P R a) (pos : Nat) (env : PackageEnv)
    (packagePartial : Bool) (maxCells : Option Int)
    (hev : (HopEvent.package pos env packagePartial maxCells).Allowed a) :
    ∃ P' R', hopStep circP strmP (.package pos env packagePartial maxCells) P R =
        some (0, P', R') ∧ ∃ a', HopsInv circP strmP P' R' a' := by
  cases hx : P.streams[pos]? with
  | none => exact ⟨P, R, by rw [hopStep, hx], a, h⟩
  | some x =>
  have hxm : x ∈ P.streams := List.getElem?_mem hx
  have hid : (P.streams.map (·.streamId.toNat))[pos]? = some x.streamId.toNat := by
    rw [List.getElem?_map, hx]; rfl
  obtain ⟨e, he, hrel⟩ := StreamRel.get h.pack.streams hid
  obtain rfl : e = x.edge := by rw [List.getElem?_map, hx] at he; exact (Option.some.inj he).symm
  obtain ⟨res, hres, -⟩ := connectionEdgePackageRawInbuf_takes env P.circ x.edge.stream
    packagePartial maxCells
  obtain ⟨hret, hatt⟩ := connectionEdgePackageRawInbuf_attached env hres (h.ready x hxm).1.2.1
  obtain ⟨a₁, hp, hcc₁, hc₁, he₁, hyrel⟩ :=
    @connectionEdgePackageRawInbuf_packages circP strmP _ _ _ _ _ _ _ _ hev h.pack.ccontrol hrel
      h.pack.circ_eq hres
  -- the stream the call leaves, which keeps its id
  obtain ⟨y, hy⟩ : ∃ y : RecvStream, y = { x with edge := { x.edge with stream := res.stream } } :=
    ⟨_, rfl⟩
  have hys : (P.streams.set pos y).map (·.streamId.toNat) = P.streams.map (·.streamId.toNat) := by
    rw [List.map_set, hy]
    exact set_self_of_getElem? hid
  obtain ⟨hcd, hsd, hs, -⟩ := hp.frame
  refine ⟨{ P with circ := res.circ, streams := P.streams.set pos y }, R,
    by rw [hopStep, hx]; simp [hres, hret, hy], a₁, h.reachable.windowRun hp.run,
    ⟨hcc₁, hc₁, ?_, hys ▸ h.pack.nodup⟩, h.deliver.of_deliver_eq hcd hsd, fun z hz => ?_, ?_, ?_,
    h.unmarked⟩
  · show List.Forall₂ (StreamRel a₁) (List.map _ _) (List.map _ _)
    rw [hys, List.map_set]
    exact StreamRel.set h.pack.streams h.pack.nodup hid he₁ (hyrel y.edge (by rw [hy]) (by rw [hy]))
  · rcases List.mem_or_eq_of_mem_set hz with hz | rfl
    · exact h.ready z hz
    · obtain ⟨⟨hopen, -, hcp⟩, hdr⟩ := h.ready x hxm
      subst hy
      exact ⟨⟨hopen, hatt, hcp⟩, hdr⟩
  · intro id hid'
    rw [hp.data, List.mem_append] at hid'
    show id ∈ List.map _ _
    rw [hys]
    exact hid'.elim (h.data_ids id) fun hi =>
      List.eq_of_mem_replicate hi ▸ mem_streamIds hxm
  · intro m hm
    show _ ∨ ∃ id ∈ List.map _ _, _
    rw [hys]
    exact h.sendme_ids m (hs ▸ hm)

/-- **The two endpoints of a hop never close the circuit, in any interleaving.** From endpoints
    that stand for a reachable window state, with the links holding the cells in flight and every
    stream open at both ends, each allowed event returns `0` and leads to such a state again. -/
theorem hopStep_safe (ev : HopEvent) (h : HopsInv circP strmP P R a) (hev : ev.Allowed a) :
    ∃ P' R', hopStep circP strmP ev P R = some (0, P', R') ∧ ∃ a', HopsInv circP strmP P' R' a' :=
  match ev, hev with
  | .deliverData msg env, hev => hopsInv_deliverData h msg env hev
  | .deliverSendme msg env, hev => hopsInv_deliverSendme h msg env hev
  | .package pos env packagePartial maxCells, hev =>
    hopsInv_package h pos env packagePartial maxCells hev

/-- Both ends of a circuit of `tinyWindow`'s windows, each one as `tinyHop`, with a SENDME for
    the circuit and one for stream 1 in flight: the circuit-level SENDME arrives. -/
theorem hopStep_safe_tinyHop :
    HopsInv tinyWindow tinyWindow tinyHop tinyHop tinySendmes ∧
      (HopEvent.deliverSendme (RelayMsg.ofPayload RELAY_COMMAND_SENDME 0 [] []) exitRecvEnv).Allowed
        tinySendmes ∧
      ∃ P' R', hopStep tinyWindow tinyWindow
          (.deliverSendme (RelayMsg.ofPayload RELAY_COMMAND_SENDME 0 [] []) exitRecvEnv) tinyHop
          tinyHop = some (0, P', R') ∧ ∃ a', HopsInv tinyWindow tinyWindow P' R' a' :=
  have hinv : HopsInv tinyWindow tinyWindow tinyHop tinyHop tinySendmes :=
    ⟨tinySendmes_reachable, ⟨rfl, rfl, .cons ⟨rfl, rfl⟩ .nil, by decide⟩, ⟨rfl, fun _ i x hl hx => by
      obtain ⟨-, y, hy, rfl⟩ := relayLookupConn_spec hl
      cases i with
      | zero =>
        simp only [tinyHop, List.getElem?_cons_zero, Option.some.injEq] at hx hy
        subst hx hy
        rfl
      | succ i => simp [tinyHop] at hx⟩,
      fun x hx => by
        rw [List.mem_singleton.1 hx]
        exact ⟨⟨rfl, ⟨rfl, rfl⟩, fun _ => rfl⟩, 0, _, rfl, rfl, .inl rfl, rfl⟩,
      by simp [tinySendmes], by simp [tinySendmes, tinyHop], rfl⟩
  have hq : exitResumeEnv.Queues := fun _ _ =>
    ⟨fun _ => rfl, (by decide : RELAY_CELL_PADDING_GAP + 16 ≤ 498)⟩
  have hev : (HopEvent.deliverSendme (RelayMsg.ofPayload RELAY_COMMAND_SENDME 0 [] [])
      exitRecvEnv).Allowed tinySendmes := ⟨rfl, rfl, rfl, hq, hq 0 0, rfl⟩
  ⟨hinv, hev, hopStep_safe _ hinv hev⟩

end Events

end TorCore
