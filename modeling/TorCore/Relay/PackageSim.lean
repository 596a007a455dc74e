import TorCore.Relay.ResumeReading
import Mathlib.Data.List.Forall2

/-!
# `TorCore.Relay.PackageSim` — the packaging endpoint refines the window protocol

Bridges two layers:
* **the protocol** (`Sendme.Window`), where `windowStep … (.package id)` takes one off the
  circuit's and stream `id`'s package windows and puts a DATA cell for stream `id` on the link,
  and `windowStep … .deliverSendme` processes the oldest SENDME in flight;
* **the code** at the packaging endpoint: `connection_edge_package_raw_inbuf`
  (`Relay.PackageInbuf`), the rounds of `circuit_resume_edge_reading_helper` and
  `process_sendme_cell` (`Relay.ResumeReading`).

With no congestion control and no flow control, and with every cell queued by
`circuit_package_relay_cell` (`PackageEnv.Queues`), each DATA cell the code hands over is one
`.package id` step that puts its cell on the link (`Packages`). `PackRel` says which abstract
states a packaging endpoint stands for: the circuit's package window is the abstract one, and the
streams of the circuit's list have the abstract package windows of a list of distinct stream ids,
position by position. `PackagedTo` says the code reached a circuit and streams that stand for a
state the abstract endpoint reaches by packaging on those ids. A call, a round of the helper, the
rounds, the helper and `circuit_resume_edge_reading` all end in `PackagedTo`;
`processSendmeCell_refines` is the refinement of a SENDME: the code closes the circuit exactly
when the abstract `.deliverSendme` step fails a window check, and otherwise ends where
`.deliverSendme` and then the packaging it lets the streams do take the abstract state.
A dropped cell (`circuit_package_relay_cell` returning `0` without queueing it) is left out: it
takes one off the stream's window with no cell on the link, which no abstract step does.

## Contents
- **Runs of packaging.** `windowRun`, `Packages`, and the frame of `.package` steps.
- **A call.** `PackageEnv.Queues`, `connectionEdgePackageRawInbuf_refines`.
- **The simulation relation.** `StreamRel`, `PackRel`, `PackagedTo`.
- **The helper.** `resumeRoundLoop_sim`, `resumeRounds_sim`, `circuitResumeEdgeReading_sim`.
- **SENDMEs.** `SendmeTarget`, `SendmeResultRel`, `processSendmeCell_refines`.
- **What SENDMEs keep of the streams.** `EdgeKeeps`: a call never fails on a stream attached to
  its circuit (`connectionEdgePackageRawInbuf_attached`), so `process_sendme_cell` marks no
  attached stream for close (`processSendmeCell_edges`).
-/

namespace TorCore

/-! ## Runs of packaging -/

section Run

variable (circP strmP : WindowParams)

/-- The actions `acts` one after another, each succeeding. -/
def windowRun (circ strm : WindowParams) : List WindowAction → WindowState → Option WindowState
  | [], s => some s
  | a :: acts, s =>
    match windowStep circ strm s a with
    | .ok s' => windowRun circ strm acts s'
    | .protocolError => none

theorem windowRun_append (acts acts' : List WindowAction) (a : WindowState) :
    windowRun circP strmP (acts ++ acts') a =
      (windowRun circP strmP acts a).bind (windowRun circP strmP acts') := by
  induction acts generalizing a with
  | nil => rfl
  | cons act acts ih =>
    simp only [List.cons_append, windowRun]
    cases windowStep circP strmP a act with
    | ok s' => exact ih s'
    | protocolError => rfl

/-- A package step with both windows open takes one off each and puts a cell on the link. -/
theorem windowStep_package_open (s : WindowState) (id : Nat) (hc : 0 < s.circPackage)
    (hs : 0 < s.streamPackage id) :
    windowStep circP strmP s (.package id) = .ok { s with
      circPackage := s.circPackage - 1
      streamPackage := Function.update s.streamPackage id (s.streamPackage id - 1)
      dataInFlight := s.dataInFlight ++ [id] } := by
  simp only [windowStep, sendmeNoteDataPackaged, if_neg (not_le.2 hc), if_neg (not_le.2 hs),
    if_neg (show ¬ s.circPackage - 1 < 0 by omega)]

theorem windowRun_zero {a : WindowState} {id : Nat} {c w : Int} (hc : a.circPackage = c)
    (hs : a.streamPackage id = w) :
    windowRun circP strmP (List.replicate 0 (.package id)) a = some { a with
      circPackage := c
      streamPackage := Function.update a.streamPackage id w
      dataInFlight := a.dataInFlight ++ List.replicate 0 id } := by
  subst hc hs
  simp [windowRun, Function.update_eq_self]

/-- One more cell packaged on stream `id` is one `.package id` step first. -/
theorem windowRun_package_succ {a : WindowState} {id : Nat} (n : Nat) (hc : 0 < a.circPackage)
    (hs : 0 < a.streamPackage id) :
    windowRun circP strmP (List.replicate (n + 1) (.package id)) a =
      windowRun circP strmP (List.replicate n (.package id)) { a with
        circPackage := a.circPackage - 1
        streamPackage := Function.update a.streamPackage id (a.streamPackage id - 1)
        dataInFlight := a.dataInFlight ++ [id] } := by
  rw [List.replicate_succ, windowRun, windowStep_package_open circP strmP a id hc hs]

/-- `a'` is `a` after one `.package` step for each id of `sent`, in order, each putting its cell
    on the link. -/
structure Packages (sent : List Nat) (a a' : WindowState) : Prop where
  run : windowRun circP strmP (sent.map .package) a = some a'
  data : a'.dataInFlight = a.dataInFlight ++ sent

theorem Packages.refl (a : WindowState) : Packages circP strmP [] a a := ⟨rfl, by simp⟩

variable {circP strmP}

theorem WindowReachable.windowRun {a a' : WindowState} (h : WindowReachable circP strmP a) :
    ∀ {acts : List WindowAction}, windowRun circP strmP acts a = some a' →
      WindowReachable circP strmP a'
  | [], hr => Option.some.inj hr ▸ h
  | act :: acts, hr => by
    simp only [TorCore.windowRun] at hr
    split at hr
    · exact WindowReachable.windowRun (.step h ‹_›) hr
    · cases hr

theorem Packages.trans {sent sent' : List Nat} {a a₁ a' : WindowState}
    (h₁ : Packages circP strmP sent a a₁) (h₂ : Packages circP strmP sent' a₁ a') :
    Packages circP strmP (sent ++ sent') a a' :=
  ⟨by rw [List.map_append, windowRun_append, h₁.run]; exact h₂.run,
    by rw [h₂.data, h₁.data, List.append_assoc]⟩

/-- What a `.package` step leaves alone: the deliver side, the SENDMEs in flight, and every
    other stream's package window. -/
theorem windowStep_package_frame {s s' : WindowState} {id : Nat}
    (h : windowStep circP strmP s (.package id) = .ok s') :
    s'.circDeliver = s.circDeliver ∧ s'.streamDeliver = s.streamDeliver ∧
      s'.sendmesInFlight = s.sendmesInFlight ∧
      ∀ j, j ≠ id → s'.streamPackage j = s.streamPackage j := by
  simp only [windowStep] at h
  split_ifs at h <;> cases h <;> simp +contextual [Function.update_noteq]

/-- The same for a run of them: only the package windows of the ids packaged on change. -/
theorem Packages.frame {sent : List Nat} {a a' : WindowState} (h : Packages circP strmP sent a a') :
    a'.circDeliver = a.circDeliver ∧ a'.streamDeliver = a.streamDeliver ∧
      a'.sendmesInFlight = a.sendmesInFlight ∧
      ∀ j, j ∉ sent → a'.streamPackage j = a.streamPackage j := by
  obtain ⟨hr, -⟩ := h
  induction sent generalizing a with
  | nil => cases hr; exact ⟨rfl, rfl, rfl, fun _ _ => rfl⟩
  | cons id sent ih =>
    simp only [List.map_cons, TorCore.windowRun] at hr
    split at hr
    · obtain ⟨h₁, h₂, h₃, h₄⟩ := ih hr
      obtain ⟨g₁, g₂, g₃, g₄⟩ := windowStep_package_frame ‹_›
      exact ⟨h₁.trans g₁, h₂.trans g₂, h₃.trans g₃, fun j hj =>
        (h₄ j fun h => hj (List.mem_cons_of_mem _ h)).trans (g₄ j (List.ne_of_not_mem_cons hj))⟩
    · cases hr

end Run

/-! ## A call -/

/-- Every cell queued by `circuit_package_relay_cell`, and a maximum payload of at least
    `RELAY_CELL_PADDING_GAP + 16` bytes. -/
def PackageEnv.Queues (env : PackageEnv) : Prop :=
  (∀ k, env.packageRelayCell k = .queued) ∧ RELAY_CELL_PADDING_GAP + 16 ≤ env.maxPayload

/-- Every call of the helper's rounds queues its cells. -/
def ResumeEnv.Queues (env : ResumeEnv) : Prop := ∀ r j, (env.call r j).Queues

section Package

variable (circP strmP : WindowParams) (env : PackageEnv)

/-- The end of a pass on a stream with no flow control, its circuit without congestion control
    and not marked for close, both windows open, when the cell is queued: one off each window. -/
theorem packageSend_queued {k length : Nat} {circ : EdgeCirc} {s : EdgeStream}
    (hon : s.onCircuit = true) (hnm : s.markedForClose = false) (hcm : circ.markedForClose = false)
    (hlen : length ≤ env.maxPayload)
    (hq : env.packageRelayCell k = .queued) (hcc : circ.ccontrol = false)
    (hcw : 0 < circ.packageWindow) (hfc : s.usesFlowControl = false) (hsw : 0 < s.packageWindow) :
    packageSend env k length circ s = .sent length
      { circ with packageWindow := circ.packageWindow - 1 }
      { s with packageWindow := s.packageWindow - 1 } := by
  simp only [packageSend, connectionEdgeSendCommand, relaySendCommandFromEdgeData,
    sendmeNoteCircuitDataPackaged, circuitGetPackageWindow, sendmeNoteStreamDataPackaged, hon, hnm,
    hcm, hq, hcc, hfc, if_neg (not_lt.2 hlen), if_neg (show ¬ circ.packageWindow - 1 < 0 by omega),
    if_neg (show ¬ s.packageWindow - 1 < 0 by omega), Bool.false_eq_true, Bool.true_eq_false,
    if_false, lt_irrefl]

theorem takeBytes_markedForClose (f : Bool) (length : Nat) (s : EdgeStream) :
    (takeBytes env f length s).markedForClose = s.markedForClose := by
  unfold takeBytes
  split_ifs <;> rfl

/-- On a circuit already marked for close, `connection_edge_send_command` refuses the cell, and
    the pass stops with the circuit and the stream as they were. -/
theorem packageSend_marked {k length : Nat} {circ : EdgeCirc} {s : EdgeStream}
    (hon : s.onCircuit = true) (hnm : s.markedForClose = false) (hcm : circ.markedForClose = true) :
    packageSend env k length circ s = .sentStop length circ s := by
  simp [packageSend, connectionEdgeSendCommand, hon, hnm, hcm]

/-- So a call on such a circuit ends after its first cell, with no window changed. -/
theorem packageLoop_marked (packagePartial : Bool) :
    ∀ (fuel : Nat) (cells : List Nat) (circ : EdgeCirc) (s : EdgeStream) (maxCells : Option Int)
    (res : RawInbufResult),
    packageLoop env packagePartial fuel cells circ s maxCells = some res →
    circ.markedForClose = true → s.markedForClose = false →
    res.circ.ccontrol = circ.ccontrol ∧ res.circ.packageWindow = circ.packageWindow ∧
      res.stream.usesFlowControl = s.usesFlowControl ∧ res.stream.packageWindow = s.packageWindow
  | 0, _, _, _, _, _, h, _, _ => nomatch h
  | fuel + 1, cells, circ, s, maxCells, res, h, hcm, hnm => by
    rcases packageOne_cases env packagePartial cells.length circ s with
      ⟨r, circ', hp, hc, hw⟩ | ⟨f, len, circ₁, -, hle, -, hon, -, -, hp, hc₁, hw₁, hm₁⟩
    · simp only [packageLoop, hp, Option.some.injEq] at h
      subst h
      exact ⟨hc, hw, rfl, rfl⟩
    obtain ⟨-, hon', hpw', hfc', -⟩ := takeBytes_waiting env hle
    rw [packageSend_marked env (hon'.trans hon) ((takeBytes_markedForClose env f len s).trans hnm)
      (hm₁.trans hcm)] at hp
    simp only [packageLoop, hp, Option.some.injEq] at h
    subst h
    exact ⟨hc₁, hw₁, hfc', hpw'⟩

/-- The `goto` loop, pass after pass: its cells are as many `.package id` steps, and the circuit
    and the stream keep congestion control and flow control off. -/
theorem packageLoop_refines (packagePartial : Bool) (id : Nat)
    (hq : ∀ k, env.packageRelayCell k = .queued) (hmax : RELAY_CELL_PADDING_GAP + 16 ≤ env.maxPayload) :
    ∀ (fuel : Nat) (cells : List Nat) (circ : EdgeCirc) (s : EdgeStream) (maxCells : Option Int)
    (res : RawInbufResult),
    packageLoop env packagePartial fuel cells circ s maxCells = some res →
    circ.ccontrol = false → circ.markedForClose = false → s.markedForClose = false →
    s.usesFlowControl = false → res.circ.ccontrol = false ∧ res.stream.usesFlowControl = false ∧
    ∃ new, res.cells = cells ++ new ∧ ∀ a : WindowState, a.circPackage = circ.packageWindow →
      a.streamPackage id = s.packageWindow →
      windowRun circP strmP (List.replicate new.length (.package id)) a = some { a with
        circPackage := res.circ.packageWindow
        streamPackage := Function.update a.streamPackage id res.stream.packageWindow
        dataInFlight := a.dataInFlight ++ List.replicate new.length id }
  | 0, _, _, _, _, _, h, _, _, _, _ => nomatch h
  | fuel + 1, cells, circ, s, maxCells, res, h, hcc, hcm, hnm, hfc => by
    rcases packageOne_cases env packagePartial cells.length circ s with
      ⟨r, circ', hp, hc, hw⟩ | ⟨f, len, circ₁, -, hle, hlen, hon, hpw, hcw, hp, hc₁, hw₁, hm₁⟩
    · -- the pass stops before packaging a cell
      simp only [packageLoop, hp, Option.some.injEq] at h
      subst h
      exact ⟨hc.trans hcc, hfc, [], by simp, fun a hc hs =>
        windowRun_zero circP strmP (hc.trans hw.symm) hs⟩
    obtain ⟨-, hon', hpw', hfc', -⟩ := takeBytes_waiting env hle
    have hcc₁ : circ₁.ccontrol = false := hc₁.trans hcc
    rw [packageSend_queued env (hon'.trans hon) ((takeBytes_markedForClose env f len s).trans hnm)
      (hm₁.trans hcm) (hlen hmax) (hq _) hcc₁ (hcw hcc₁) (hfc'.trans hfc) (hpw'.symm ▸ hpw)] at hp
    -- the cell is one `.package id` step
    have cons : ∀ (new : List Nat) (c w : Int), (∀ a : WindowState,
        a.circPackage = circ.packageWindow - 1 → a.streamPackage id = s.packageWindow - 1 →
        windowRun circP strmP (List.replicate new.length (.package id)) a = some { a with
          circPackage := c
          streamPackage := Function.update a.streamPackage id w
          dataInFlight := a.dataInFlight ++ List.replicate new.length id }) →
        ∀ a : WindowState, a.circPackage = circ.packageWindow →
        a.streamPackage id = s.packageWindow →
        windowRun circP strmP (List.replicate (len :: new).length (.package id)) a = some { a with
          circPackage := c
          streamPackage := Function.update a.streamPackage id w
          dataInFlight := a.dataInFlight ++ List.replicate (len :: new).length id } := by
      intro new c w ih a hc hs
      rw [List.length_cons, windowRun_package_succ circP strmP _ (by rw [hc, ← hw₁]; exact hcw hcc₁)
        (by rw [hs]; exact hpw), ih _ (by simp [hc]) (by simp [hs])]
      simp [Function.update_idem, List.replicate_succ]
    have go : ∀ mc, packageLoop env packagePartial fuel (cells ++ [len])
        { circ₁ with packageWindow := circ₁.packageWindow - 1 }
        { takeBytes env f len s with packageWindow := (takeBytes env f len s).packageWindow - 1 }
        mc = some res →
        res.circ.ccontrol = false ∧ res.stream.usesFlowControl = false ∧
        ∃ new, res.cells = cells ++ new ∧ ∀ a : WindowState, a.circPackage = circ.packageWindow →
          a.streamPackage id = s.packageWindow →
          windowRun circP strmP (List.replicate new.length (.package id)) a = some { a with
            circPackage := res.circ.packageWindow
            streamPackage := Function.update a.streamPackage id res.stream.packageWindow
            dataInFlight := a.dataInFlight ++ List.replicate new.length id } := fun mc hr => by
      obtain ⟨hcc', hfc'', new, hcells, hrun⟩ := packageLoop_refines packagePartial id hq hmax
        fuel _ _ _ mc res hr hcc₁ (hm₁.trans hcm) ((takeBytes_markedForClose env f len s).trans hnm)
        (hfc'.trans hfc)
      exact ⟨hcc', hfc'', len :: new, by simp [hcells], cons new _ _ fun a hc hs =>
        hrun a (by simp only [hw₁, hc]) (by simp only [hpw', hs])⟩
    cases maxCells with
    | none => exact go none (by simpa only [packageLoop, hp] using h)
    | some m =>
      simp only [packageLoop, hp] at h
      split_ifs at h
      · cases h
        exact ⟨hcc₁, hfc'.trans hfc, [len], rfl, cons [] _ _ fun a hc hs =>
          windowRun_zero circP strmP (by simp only [hw₁, hc]) (by simp only [hpw', hs])⟩
      · exact go _ h

/-- The cells a call packaged: those it handed over, but none on a circuit already marked for
    close, where `connection_edge_send_command` refuses the first. -/
def RawInbufResult.packaged (circ : EdgeCirc) (res : RawInbufResult) : Nat :=
  if circ.markedForClose then 0 else res.cells.length

theorem RawInbufResult.packaged_of_nil {circ : EdgeCirc} {res : RawInbufResult}
    (h : res.cells = []) : res.packaged circ = 0 := by
  unfold RawInbufResult.packaged
  split <;> simp [h]

/-- **A call of `connection_edge_package_raw_inbuf` is packaging on its stream**: the cells it
    packaged are as many `.package id` steps, ending at the call's package windows, and the circuit
    and stream keep congestion control and flow control off. -/
theorem connectionEdgePackageRawInbuf_sim {circ : EdgeCirc} {s : EdgeStream}
    {packagePartial : Bool} {maxCells : Option Int} {res : RawInbufResult} (id : Nat)
    (a : WindowState) (hq : env.Queues) (hcc : circ.ccontrol = false)
    (hfc : s.usesFlowControl = false) (hc : a.circPackage = circ.packageWindow)
    (hs : a.streamPackage id = s.packageWindow)
    (h : connectionEdgePackageRawInbuf env circ s packagePartial maxCells = some res) :
    res.circ.ccontrol = false ∧ res.stream.usesFlowControl = false ∧
      windowRun circP strmP (List.replicate (res.packaged circ) (.package id)) a = some { a with
        circPackage := res.circ.packageWindow
        streamPackage := Function.update a.streamPackage id res.stream.packageWindow
        dataInFlight := a.dataInFlight ++ List.replicate (res.packaged circ) id } := by
  unfold connectionEdgePackageRawInbuf at h
  split_ifs at h with hm
  · cases h
    rw [RawInbufResult.packaged_of_nil rfl]
    exact ⟨hcc, hfc, windowRun_zero circP strmP hc hs⟩
  have loop : ∀ mc, packageLoop env packagePartial (s.waiting + 1) [] circ s mc = some res →
      res.circ.ccontrol = false ∧ res.stream.usesFlowControl = false ∧
      windowRun circP strmP (List.replicate (res.packaged circ) (.package id)) a = some { a with
        circPackage := res.circ.packageWindow
        streamPackage := Function.update a.streamPackage id res.stream.packageWindow
        dataInFlight := a.dataInFlight ++ List.replicate (res.packaged circ) id } := fun mc h => by
    unfold RawInbufResult.packaged
    cases hcm : circ.markedForClose
    · obtain ⟨hcc', hfc', new, hcells, hrun⟩ := packageLoop_refines circP strmP env packagePartial
        id hq.1 hq.2 _ _ _ _ _ _ h hcc hcm (Bool.eq_false_iff.2 hm) hfc
      rw [if_neg Bool.false_ne_true, hcells, List.nil_append]
      exact ⟨hcc', hfc', hrun a hc hs⟩
    · -- the circuit refuses the first cell
      obtain ⟨hcc', hpw, hfc', hsw⟩ :=
        packageLoop_marked env packagePartial _ _ _ _ _ _ h hcm (Bool.eq_false_iff.2 hm)
      rw [if_pos rfl]
      exact ⟨hcc'.trans hcc, hfc'.trans hfc,
        windowRun_zero circP strmP (hc.trans hpw.symm) (hs.trans hsw.symm)⟩
  cases maxCells with
  | none => exact loop none h
  | some m =>
    dsimp only at h
    split_ifs at h
    · cases h
      rw [RawInbufResult.packaged_of_nil rfl]
      exact ⟨hcc, hfc, windowRun_zero circP strmP hc hs⟩
    · exact loop _ h

/-- **The packaging endpoint refines the window protocol.** With every cell queued and payloads of
    at least `RELAY_CELL_PADDING_GAP + 16` bytes, a call returns, and the cells it packaged are as
    many successful `.package id` steps from the abstract windows to the call's. -/
theorem connectionEdgePackageRawInbuf_refines (circ : EdgeCirc) (s : EdgeStream)
    (packagePartial : Bool) (maxCells : Option Int) (id : Nat) (a : WindowState)
    (hq : ∀ k, env.packageRelayCell k = .queued)
    (hmax : RELAY_CELL_PADDING_GAP + 16 ≤ env.maxPayload) (hcc : circ.ccontrol = false)
    (hfc : s.usesFlowControl = false) (hc : a.circPackage = circ.packageWindow)
    (hs : a.streamPackage id = s.packageWindow) :
    ∃ res, connectionEdgePackageRawInbuf env circ s packagePartial maxCells = some res ∧
      windowRun circP strmP (List.replicate (res.packaged circ) (.package id)) a = some { a with
        circPackage := res.circ.packageWindow
        streamPackage := Function.update a.streamPackage id res.stream.packageWindow
        dataInFlight := a.dataInFlight ++ List.replicate (res.packaged circ) id } := by
  obtain ⟨res, hres, -⟩ := connectionEdgePackageRawInbuf_takes env circ s packagePartial maxCells
  exact ⟨res, hres,
    (connectionEdgePackageRawInbuf_sim circP strmP env id a ⟨hq, hmax⟩ hcc hfc hc hs hres).2.2⟩

/-- A call with no budget on the first stream of `exitCirc`, whose 1000 bytes make three cells. -/
theorem connectionEdgePackageRawInbuf_refines_exit :
    (∀ k, (exitResumeEnv.call 0 0).packageRelayCell k = .queued) ∧
      ∃ res, connectionEdgePackageRawInbuf (exitResumeEnv.call 0 0) exitCirc
          ⟨false, true, 450, false, false, 1000, none, none⟩ true none = some res ∧
        windowRun specCircWindow specStreamWindow
            (List.replicate (res.packaged exitCirc) (.package 1))
            { WindowState.init specCircWindow specStreamWindow with
              circPackage := 900, streamPackage := fun _ => 450 } =
          some { WindowState.init specCircWindow specStreamWindow with
            circPackage := res.circ.packageWindow
            streamPackage := Function.update (fun _ => 450) 1 res.stream.packageWindow
            dataInFlight := List.replicate (res.packaged exitCirc) 1 } :=
  ⟨fun _ => rfl, connectionEdgePackageRawInbuf_refines specCircWindow specStreamWindow
    (exitResumeEnv.call 0 0) exitCirc _ true none 1 _ (fun _ => rfl) (by decide) rfl rfl rfl rfl⟩

end Package

/-! ## The simulation relation -/

/-- The stream `x` of the circuit's list is on the window path (no flow control), and its package
    window is the abstract one of stream `id`. -/
def StreamRel (a : WindowState) (x : ResumeStream) (id : Nat) : Prop :=
  x.stream.usesFlowControl = false ∧ a.streamPackage id = x.stream.packageWindow

/-- **The simulation relation at the packaging endpoint.** `a` stands for the circuit `circ`,
    without congestion control, and its streams `xs`, each related by `StreamRel` to the distinct
    id at its position in `ids`; the deliver side and the links are not constrained. -/
structure PackRel (a : WindowState) (circ : EdgeCirc) (xs : List ResumeStream) (ids : List Nat) :
    Prop where
  ccontrol : circ.ccontrol = false
  circ_eq : a.circPackage = circ.packageWindow
  streams : List.Forall₂ (StreamRel a) xs ids
  nodup : ids.Nodup

section Rel

variable {a a' : WindowState}

theorem StreamRel.congr :
    ∀ {xs : List ResumeStream} {ids : List Nat}, List.Forall₂ (StreamRel a) xs ids →
      (∀ id ∈ ids, a'.streamPackage id = a.streamPackage id) → List.Forall₂ (StreamRel a') xs ids
  | _, _, .nil, _ => .nil
  | _, _, .cons h hs, he => .cons ⟨h.1, (he _ (List.mem_cons_self _ _)).trans h.2⟩
      (StreamRel.congr hs fun id hid => he id (List.mem_cons_of_mem _ hid))

theorem StreamRel.get : ∀ {xs : List ResumeStream} {ids : List Nat}, List.Forall₂ (StreamRel a) xs ids →
    ∀ {pos : Nat} {id : Nat}, ids[pos]? = some id →
      ∃ x, xs[pos]? = some x ∧ StreamRel a x id
  | _, _, .nil, _, _, h => by simp at h
  | x :: _, _, .cons hx _, 0, _, h => by
    rw [List.getElem?_cons_zero, Option.some.injEq] at h
    exact ⟨x, List.getElem?_cons_zero, h ▸ hx⟩
  | _, _, .cons _ hs, pos + 1, _, h => by
    rw [List.getElem?_cons_succ] at h ⊢
    exact StreamRel.get hs h

/-- Replacing the stream at the position of `id` by one related to `a'`, which differs from `a`
    only at `id`, keeps the list related. -/
theorem StreamRel.set : ∀ {xs : List ResumeStream} {ids : List Nat}, List.Forall₂ (StreamRel a) xs ids →
    ids.Nodup → ∀ {pos : Nat} {id : Nat} {y : ResumeStream}, ids[pos]? = some id →
      (∀ j, j ≠ id → a'.streamPackage j = a.streamPackage j) → StreamRel a' y id →
      List.Forall₂ (StreamRel a') (xs.set pos y) ids
  | _, _, .nil, _, _, _, _, h, _, _ => by simp at h
  | _, _, .cons _ hs, hn, 0, _, _, h, he, hy => by
    rw [List.getElem?_cons_zero, Option.some.injEq] at h
    subst h
    exact .cons hy (StreamRel.congr hs fun j hj =>
      he j fun e => (List.nodup_cons.1 hn).1 (e ▸ hj))
  | _, id₀ :: _, .cons hx hs, hn, pos + 1, id, _, h, he, hy => by
    rw [List.getElem?_cons_succ] at h
    have hne : id₀ ≠ id := fun e => (List.nodup_cons.1 hn).1 (e ▸ List.getElem?_mem h)
    exact .cons ⟨hx.1, (he id₀ hne).trans hx.2⟩ (StreamRel.set hs (List.nodup_cons.1 hn).2 h he hy)

end Rel

section Sim

variable (circP strmP : WindowParams)

/-- The code reached the circuit `circ` and the streams `xs`, which stand for a state that the
    abstract endpoint reaches from `a` by `.package` steps on the ids `ids` of the streams. -/
def PackagedTo (ids : List Nat) (a : WindowState) (circ : EdgeCirc) (xs : List ResumeStream) :
    Prop :=
  ∃ sent a', (∀ i ∈ sent, i ∈ ids) ∧ Packages circP strmP sent a a' ∧ PackRel a' circ xs ids

variable {circP strmP}

theorem PackRel.packagedTo {a : WindowState} {circ : EdgeCirc} {xs : List ResumeStream}
    {ids : List Nat} (h : PackRel a circ xs ids) : PackagedTo circP strmP ids a circ xs :=
  ⟨[], a, by simp, .refl circP strmP a, h⟩

theorem PackagedTo.trans {ids : List Nat} {a : WindowState} {circ circ' : EdgeCirc}
    {xs xs' : List ResumeStream} (h : PackagedTo circP strmP ids a circ xs)
    (h' : ∀ a₁, PackRel a₁ circ xs ids → PackagedTo circP strmP ids a₁ circ' xs') :
    PackagedTo circP strmP ids a circ' xs' := by
  obtain ⟨sent, a₁, hs, hp, hr⟩ := h
  obtain ⟨sent', a', hs', hp', hr'⟩ := h' a₁ hr
  exact ⟨sent ++ sent', a', by simpa using fun i => Or.rec (hs i) (hs' i), hp.trans hp', hr'⟩

/-- Packaging on stream `id` and then on the rest of the list, whose ids do not include `id`:
    the stream `x` at the head stays related. -/
theorem PackagedTo.cons {ids : List Nat} {a a₁ : WindowState} {circ' : EdgeCirc}
    {xs' : List ResumeStream} {x : ResumeStream} {id : Nat} {n : Nat}
    (hp : Packages circP strmP (List.replicate n id) a a₁)
    (h : PackagedTo circP strmP ids a₁ circ' xs') (hx : StreamRel a₁ x id) (hid : id ∉ ids) :
    PackagedTo circP strmP (id :: ids) a circ' (x :: xs') := by
  obtain ⟨sent, a', hs, hp', hr⟩ := h
  have hx' : StreamRel a' x id :=
    ⟨hx.1, ((hp'.frame).2.2.2 id fun h => hid (hs id h)).trans hx.2⟩
  refine ⟨List.replicate n id ++ sent, a', fun i hi => ?_, hp.trans hp',
    ⟨hr.ccontrol, hr.circ_eq, .cons hx' hr.streams, List.nodup_cons.2 ⟨hid, hr.nodup⟩⟩⟩
  rcases List.mem_append.1 hi with hi | hi
  · exact List.eq_of_mem_replicate hi ▸ List.mem_cons_self _ _
  · exact List.mem_cons_of_mem _ (hs i hi)

/-- A call on the stream `x` related to `id` ends in a state related to the stream `y` the code
    keeps, with the call's stream's package window and flow control. -/
theorem connectionEdgePackageRawInbuf_packages {env : PackageEnv} {circ : EdgeCirc}
    {x : ResumeStream} {packagePartial : Bool} {maxCells : Option Int} {res : RawInbufResult}
    {a : WindowState} {id : Nat} (hq : env.Queues) (hcc : circ.ccontrol = false)
    (hx : StreamRel a x id) (hc : a.circPackage = circ.packageWindow)
    (h : connectionEdgePackageRawInbuf env circ x.stream packagePartial maxCells = some res) :
    ∃ a₁, Packages circP strmP (List.replicate (res.packaged circ) id) a a₁ ∧
      res.circ.ccontrol = false ∧ a₁.circPackage = res.circ.packageWindow ∧
      (∀ j, j ≠ id → a₁.streamPackage j = a.streamPackage j) ∧
      ∀ y : ResumeStream, y.stream.usesFlowControl = res.stream.usesFlowControl →
        y.stream.packageWindow = res.stream.packageWindow → StreamRel a₁ y id := by
  obtain ⟨hcc', hfc', hrun⟩ :=
    connectionEdgePackageRawInbuf_sim circP strmP env id a hq hcc hx.1 hc hx.2 h
  refine ⟨_, ⟨by rw [List.map_replicate]; exact hrun, rfl⟩, hcc', rfl,
    fun j hj => Function.update_noteq hj _ _, fun y hf hw => ⟨hf.trans hfc', ?_⟩⟩
  simp only [Function.update_same, hw]

end Sim

/-! ## The helper -/

section Helper

variable {circP strmP : WindowParams} {env : ResumeEnv}

/-- **One round of the packaging loop is packaging on the circuit's streams.** -/
theorem resumeRoundLoop_sim (hq : env.Queues) (r : Nat) (cellsPerConn : Int) :
    ∀ (j : Nat) (circ : EdgeCirc) (xs : List ResumeStream) (ids : List Nat) (a : WindowState)
    (rr : ResumeRound), resumeRoundLoop env r cellsPerConn j circ xs = some rr →
    PackRel a circ xs ids → PackagedTo circP strmP ids a rr.circ rr.streams
  | _, circ, [], ids, a, rr, h, hr => by
    cases h
    exact hr.packagedTo
  | j, circ, x :: xs, ids, a, rr, h, hr => by
    obtain ⟨hcc, hc, hs, hn⟩ := hr
    obtain ⟨id, ids, rfl⟩ : ∃ id ids', ids = id :: ids' := by
      cases hs with | cons _ _ => exact ⟨_, _, rfl⟩
    obtain ⟨hx, hs⟩ := List.forall₂_cons.1 hs
    obtain ⟨hid, hn⟩ := List.nodup_cons.1 hn
    -- a stream the loop passes over
    have pass : ∀ rr', resumeRoundLoop env r cellsPerConn (j + 1) circ xs = some rr' →
        PackagedTo circP strmP (id :: ids) a rr'.circ (x :: rr'.streams) := fun rr' h' =>
      PackagedTo.cons (n := 0) (.refl circP strmP a) (resumeRoundLoop_sim hq r cellsPerConn _ _ _ _ _ _ h'
        ⟨hcc, hc, hs, hn⟩) hx hid
    rw [resumeRoundLoop] at h
    split_ifs at h with hsk hcp
    · obtain ⟨rr', h', rfl⟩ := Option.map_eq_some'.1 h
      exact pass rr' h'
    swap
    · obtain ⟨rr', h', rfl⟩ := Option.map_eq_some'.1 h
      exact pass rr' h'
    cases hres : connectionEdgePackageRawInbuf (env.call r j) circ x.stream true
      (some cellsPerConn) with
    | none => rw [hres] at h; cases h
    | some res =>
    rw [hres] at h
    obtain ⟨a₁, hp, hcc₁, hc₁, he, hy⟩ := connectionEdgePackageRawInbuf_packages (hq r j) hcc hx hc hres
    have hs₁ : List.Forall₂ (StreamRel a₁) xs ids :=
      StreamRel.congr hs fun i hi => he i fun e => hid (e ▸ hi)
    have rest : ∀ rr', resumeRoundLoop env r cellsPerConn (j + 1) res.circ xs = some rr' →
        PackagedTo circP strmP ids a₁ rr'.circ rr'.streams := fun rr' h' =>
      resumeRoundLoop_sim hq r cellsPerConn _ _ _ _ _ _ h' ⟨hcc₁, hc₁, hs₁, hn⟩
    dsimp only at h
    by_cases hret : res.ret < 0
    · -- the call failed: the stream is marked for close
      rw [if_pos hret] at h
      obtain ⟨rr', h', rfl⟩ := Option.map_eq_some'.1 h
      exact PackagedTo.cons hp (rest rr' h') (hy _ rfl rfl) hid
    rw [if_neg hret] at h
    by_cases hstop : circuitConsiderStopEdgeReading (env.call r j) res.cells.length res.circ
    · -- the circuit's window is empty: the helper returns
      rw [if_pos hstop] at h
      cases h
      exact PackagedTo.cons hp (PackRel.packagedTo ⟨hcc₁, hc₁, hs₁, hn⟩) (hy _ rfl rfl) hid
    · rw [if_neg hstop] at h
      obtain ⟨rr', h', rfl⟩ := Option.map_eq_some'.1 h
      exact PackagedTo.cons hp (rest rr' h') (hy _ rfl rfl) hid

theorem resumeRounds_sim (hq : env.Queues) :
    ∀ (fuel r n : Nat) (circ : EdgeCirc) (xs : List ResumeStream) (ids : List Nat)
    (a : WindowState) (res : Int × EdgeCirc × List ResumeStream),
    resumeRounds env fuel r n circ xs = some res → PackRel a circ xs ids →
    PackagedTo circP strmP ids a res.2.1 res.2.2
  | 0, _, _, _, _, _, _, _, h, _ => nomatch h
  | fuel + 1, r, n, circ, xs, ids, a, res, h, hr => by
    simp only [resumeRounds] at h
    generalize (if env.highwatermark - env.cellsOnQueue r <
        circuitGetPackageWindow (env.call r 0) 0 circ then env.highwatermark - env.cellsOnQueue r
      else circuitGetPackageWindow (env.call r 0) 0 circ) = maxToPackage at h
    split at h
    · cases h
    rename_i rr hrr
    have hround : PackagedTo circP strmP ids a rr.circ rr.streams :=
      resumeRoundLoop_sim hq r _ 0 circ xs ids a rr hrr hr
    split_ifs at h
    · cases h
      exact hround
    · exact hround.trans fun a₁ hr₁ => resumeRounds_sim hq fuel _ _ _ _ ids a₁ res h hr₁
    · cases h
      exact hround

/-- **`circuit_resume_edge_reading` is packaging on the circuit's streams**: from a circuit and
    streams that stand for `a`, whatever it draws, it ends in a circuit and streams that stand for
    a state the abstract endpoint reaches from `a` by packaging on the streams' ids. -/
theorem circuitResumeEdgeReading_sim (hq : env.Queues) {oneInN : Nat → Bool} {blocked : Bool}
    {circ circ' : EdgeCirc} {xs xs' : List ResumeStream} {ids : List Nat} {a : WindowState}
    (h : circuitResumeEdgeReading env oneInN blocked circ xs = some (circ', xs'))
    (hr : PackRel a circ xs ids) : PackagedTo circP strmP ids a circ' xs' := by
  unfold circuitResumeEdgeReading at h
  split_ifs at h
  · cases h
    exact hr.packagedTo
  obtain ⟨res, h', he⟩ := Option.map_eq_some'.1 h
  obtain ⟨rfl, rfl⟩ := Prod.mk.inj he
  unfold circuitResumeEdgeReadingHelper at h'
  dsimp only at h'
  split_ifs at h'
  · cases h'
    exact hr.packagedTo
  · cases h'
    exact hr.packagedTo
  · exact resumeRounds_sim hq _ _ _ _ _ ids a res h' hr

end Helper

/-! ## SENDMEs -/

/-- The abstract SENDME a SENDME cell stands for, the streams of the circuit's list having the ids
    `ids`: a circuit-level one, or one for the id of the stream at its position. A SENDME for a
    stream the circuit does not have stands for none. -/
def SendmeTarget (ids : List Nat) : SendmeCellStream → SendmeMsg → Prop
  | .circuit, m => m = .circuit
  | .stream pos, m => ∃ id, ids[pos]? = some id ∧ m = .stream id
  | .unknown, _ => False

/-- How the code's answer to a SENDME matches the abstract `.deliverSendme` step: a window check
    failing is a negative return; a step that succeeds is `0`, and the circuit and the streams
    stand for a state the abstract endpoint reaches from the step's by packaging. -/
def SendmeResultRel (circP strmP : WindowParams) (ids : List Nat) :
    WindowStep → Int × EdgeCirc × List ResumeStream → Prop
  | .protocolError, out => out.1 < 0
  | .ok a₁, out => out.1 = 0 ∧ PackagedTo circP strmP ids a₁ out.2.1 out.2.2

section Sendme

variable (circP strmP : WindowParams) (env : ResumeEnv) (oneInN : Nat → Bool) (call : PackageEnv)

/-- The circuit-level SENDME: the window check of both sides, then the helper. -/
theorem processSendmeCell_circuit_sim (ccResult : Int) (blocked : Bool) (circ : EdgeCirc)
    (xs : List ResumeStream) (ids : List Nat) (a : WindowState) (rest : List SendmeMsg)
    (hq : env.Queues) (hr : PackRel a circ xs ids) (hm : a.sendmesInFlight = .circuit :: rest) :
    ∃ out, processSendmeCell circP strmP env oneInN call true ccResult blocked .circuit circ xs =
        some out ∧ SendmeResultRel circP strmP ids (windowStep circP strmP a .deliverSendme) out := by
  simp only [processSendmeCell, windowStep, hm, hr.ccontrol, hr.circ_eq, Bool.not_true,
    Bool.false_eq_true, if_false]
  cases sendmeProcessCircuitLevelImpl circP circ.packageWindow with
  | none => exact ⟨_, rfl, (by decide : -END_CIRC_REASON_TORPROTOCOL < 0)⟩
  | some w =>
    obtain ⟨res, h, -⟩ := circuitResumeEdgeReading_keeps env oneInN blocked
      { circ with ccontrol := false, packageWindow := w } xs
    exact ⟨(0, res.1, res.2), by dsimp only; rw [h]; rfl, rfl,
      circuitResumeEdgeReading_sim hq h ⟨rfl, rfl, hr.streams, hr.nodup⟩⟩

/-- The SENDME for the stream at position `pos`: the window check of both sides, then a call on
    the stream unless the queue blocks it. -/
theorem processSendmeCell_stream_sim (ccResult : Int) (blocked : Bool) (circ : EdgeCirc)
    (xs : List ResumeStream) (ids : List Nat) (a : WindowState) (pos id : Nat)
    (rest : List SendmeMsg) (hcall : call.Queues) (hr : PackRel a circ xs ids)
    (hid : ids[pos]? = some id) (hm : a.sendmesInFlight = .stream id :: rest) :
    ∃ out, processSendmeCell circP strmP env oneInN call true ccResult blocked (.stream pos) circ
        xs = some out ∧
      SendmeResultRel circP strmP ids (windowStep circP strmP a .deliverSendme) out := by
  obtain ⟨x, hx, hfc, hpw⟩ := StreamRel.get hr.streams hid
  have hfc' : (x.stream.usesFlowControl = true) = False := by simp [hfc]
  simp only [processSendmeCell, windowStep, hm, hx, hfc', hpw, if_false]
  cases sendmeProcessStreamLevel strmP x.stream.packageWindow with
  | none => exact ⟨_, rfl, (by decide : -END_CIRC_REASON_TORPROTOCOL < 0)⟩
  | some w =>
    -- the stream with its window raised, and the abstract state after the SENDME
    set x₁ : ResumeStream := { x with stream := { x.stream with packageWindow := w } }
    set a₁ : WindowState := { a with
      streamPackage := Function.update a.streamPackage id w, sendmesInFlight := rest }
    have he₁ : ∀ j, j ≠ id → a₁.streamPackage j = a.streamPackage j :=
      fun j hj => Function.update_noteq hj _ _
    dsimp only
    split_ifs
    · exact ⟨_, rfl, rfl, PackRel.packagedTo ⟨hr.ccontrol, hr.circ_eq,
        StreamRel.set hr.streams hr.nodup hid he₁ ⟨hfc, Function.update_same _ _ _⟩, hr.nodup⟩⟩
    obtain ⟨res, hres, -⟩ := connectionEdgePackageRawInbuf_takes call circ x₁.stream true none
    obtain ⟨a₂, hp, hcc₂, hc₂, he₂, hy⟩ := connectionEdgePackageRawInbuf_packages
      (x := x₁) (a := a₁) hcall hr.ccontrol
      ⟨hfc, Function.update_same _ _ _⟩ hr.circ_eq hres
    refine ⟨_, by rw [hres], rfl, _, a₂, fun i hi => List.eq_of_mem_replicate hi ▸
      List.getElem?_mem hid, hp, hcc₂, hc₂, StreamRel.set hr.streams hr.nodup hid
      (fun j hj => (he₂ j hj).trans (he₁ j hj)) (hy _ ?_ ?_), hr.nodup⟩
    all_goals split_ifs <;> rfl

/-- **`process_sendme_cell` refines the abstract SENDME.** For the oldest SENDME in flight, valid,
    with calls that queue every cell, it closes the circuit exactly when `.deliverSendme` fails,
    and otherwise leaves a state reached from the step's by `.package` steps. -/
theorem processSendmeCell_refines (ccResult : Int) (blocked : Bool) (target : SendmeCellStream)
    (circ : EdgeCirc) (xs : List ResumeStream) (ids : List Nat) (a : WindowState)
    (m : SendmeMsg) (rest : List SendmeMsg) (hq : env.Queues) (hcall : call.Queues)
    (hr : PackRel a circ xs ids) (hm : a.sendmesInFlight = m :: rest)
    (ht : SendmeTarget ids target m) :
    ∃ out, processSendmeCell circP strmP env oneInN call true ccResult blocked target circ xs =
        some out ∧ SendmeResultRel circP strmP ids (windowStep circP strmP a .deliverSendme) out := by
  cases target with
  | circuit =>
    cases ht
    exact processSendmeCell_circuit_sim circP strmP env oneInN call ccResult blocked circ xs ids a
      rest hq hr hm
  | stream pos =>
    obtain ⟨id, hid, rfl⟩ := ht
    exact processSendmeCell_stream_sim circP strmP env oneInN call ccResult blocked circ xs ids a
      pos id rest hcall hr hid hm
  | unknown => exact ht.elim

/-- `exitCirc` after a circuit-level SENDME, its streams 1 and 2 as the abstract ones. -/
def exitPackState : WindowState :=
  { WindowState.init specCircWindow specStreamWindow with
    circPackage := 900
    streamPackage := Function.update (fun _ => STREAMWINDOW_START) 1 450
    sendmesInFlight := [.circuit] }

/-- The circuit-level SENDME that lets `exitCirc`'s first stream package its 1000 bytes. -/
theorem processSendmeCell_refines_exitCirc :
    exitResumeEnv.Queues ∧ (exitResumeEnv.call 0 0).Queues ∧
      PackRel exitPackState exitCirc exitStreams [1, 2] ∧
      ∃ out, processSendmeCell specCircWindow specStreamWindow exitResumeEnv (fun _ => true)
          (exitResumeEnv.call 0 0) true 0 false .circuit exitCirc exitStreams = some out ∧
        SendmeResultRel specCircWindow specStreamWindow [1, 2]
          (windowStep specCircWindow specStreamWindow exitPackState .deliverSendme) out :=
  have hq : exitResumeEnv.Queues := fun _ _ =>
    ⟨fun _ => rfl, (by decide : RELAY_CELL_PADDING_GAP + 16 ≤ 498)⟩
  have hr : PackRel exitPackState exitCirc exitStreams [1, 2] :=
    ⟨rfl, rfl, .cons ⟨rfl, rfl⟩ (.cons ⟨rfl, rfl⟩ .nil), by decide⟩
  ⟨hq, hq 0 0, hr, processSendmeCell_refines specCircWindow specStreamWindow exitResumeEnv
    (fun _ => true) (exitResumeEnv.call 0 0) 0 false .circuit exitCirc exitStreams [1, 2]
    exitPackState .circuit [] hq (hq 0 0) hr rfl rfl⟩

end Sendme

/-! ## What SENDMEs keep of the streams -/

/-- A stream attached to its circuit and not marked for close. -/
def EdgeStream.Attached (s : EdgeStream) : Prop :=
  s.onCircuit = true ∧ s.markedForClose = false

/-- What the packaging side `x'` keeps of `x`: whether it is on the cell's hop, and, when `x` is
    attached, that it is. -/
def EdgeKeeps (x x' : ResumeStream) : Prop :=
  x'.usesCpath = x.usesCpath ∧ (x.stream.Attached → x'.stream.Attached)

theorem EdgeKeeps.refl (x : ResumeStream) : EdgeKeeps x x := ⟨rfl, id⟩

theorem EdgeKeeps.trans {x y z : ResumeStream} (h₁ : EdgeKeeps x y) (h₂ : EdgeKeeps y z) :
    EdgeKeeps x z :=
  ⟨h₂.1.trans h₁.1, h₂.2 ∘ h₁.2⟩

theorem edgeKeeps_forall₂_trans : ∀ {xs ys zs : List ResumeStream},
    List.Forall₂ EdgeKeeps xs ys → List.Forall₂ EdgeKeeps ys zs → List.Forall₂ EdgeKeeps xs zs
  | _, _, _, .nil, .nil => .nil
  | _, _, _, .cons h hs, .cons h' hs' => .cons (h.trans h') (edgeKeeps_forall₂_trans hs hs')

theorem edgeKeeps_forall₂_set : ∀ {xs : List ResumeStream} {pos : Nat} {x y : ResumeStream},
    xs[pos]? = some x → EdgeKeeps x y → List.Forall₂ EdgeKeeps xs (xs.set pos y)
  | [], _, _, _, h, _ => by simp at h
  | _ :: xs, 0, _, _, h, hy => by
    rw [List.getElem?_cons_zero, Option.some.injEq] at h
    subst h
    exact .cons hy (List.forall₂_same.2 fun x _ => .refl x)
  | z :: _, pos + 1, _, _, h, hy => by
    rw [List.getElem?_cons_succ] at h
    exact .cons (.refl z) (edgeKeeps_forall₂_set h hy)

section Attached

variable (env : PackageEnv)

/-- A pass stops with `-1` only on a stream off its circuit. -/
theorem packageOne_stop_ret {packagePartial : Bool} {k : Nat} {circ circ' : EdgeCirc}
    {s s' : EdgeStream} {r : Int} (h : packageOne env packagePartial k circ s = .stop r circ' s')
    (hon : s.onCircuit = true) : r = 0 := by
  unfold packageOne at h
  rw [if_neg (by simp [hon])] at h
  dsimp only at h
  split_ifs at h <;> first
    | (cases h; rfl)
    | (obtain ⟨c, s'', h' | h', -⟩ := packageSend_cases env k _ _ _ <;> rw [h'] at h <;> cases h)

/-- A send leaves a stream that is on its circuit as it was. -/
theorem connectionEdgeSendCommand_onCircuit {k length : Nat} {circ : EdgeCirc} {s : EdgeStream}
    (hon : s.onCircuit = true) : (connectionEdgeSendCommand env k length circ s).2.2 = s := by
  unfold connectionEdgeSendCommand
  split_ifs <;> simp_all

/-- Handing a cell over from an attached stream leaves it attached. -/
theorem packageSend_attached {k length : Nat} {circ circ' : EdgeCirc} {s s' : EdgeStream}
    (h : packageSend env k length circ s = .sentStop length circ' s' ∨
      packageSend env k length circ s = .sent length circ' s') (hs : s.Attached) :
    s'.Attached := by
  simp only [packageSend, connectionEdgeSendCommand_onCircuit env hs.1,
    sendmeNoteStreamDataPackaged] at h
  split_ifs at h <;> rcases h with h | h <;> cases h <;> exact hs

/-- **An attached stream stays attached, and its call does not fail.** -/
theorem packageLoop_attached (packagePartial : Bool) : ∀ (fuel : Nat) (cells : List Nat)
    (circ : EdgeCirc) (s : EdgeStream) (maxCells : Option Int) (res : RawInbufResult),
    packageLoop env packagePartial fuel cells circ s maxCells = some res → s.Attached →
    res.ret = 0 ∧ res.stream.Attached
  | 0, _, _, _, _, _, h, _ => nomatch h
  | fuel + 1, cells, circ, s, maxCells, res, h, hs => by
    rcases packageOne_cases env packagePartial cells.length circ s with
      ⟨r, circ', hp, -⟩ | ⟨f, len, circ₁, -, hle, -, -, -, -, hp, -⟩
    · simp only [packageLoop, hp, Option.some.injEq] at h
      subst h
      exact ⟨packageOne_stop_ret env hp hs.1, hs⟩
    obtain ⟨-, hon, -⟩ := takeBytes_waiting env hle
    have hts : (takeBytes env f len s).Attached :=
      ⟨hon.trans hs.1, (takeBytes_markedForClose env f len s).trans hs.2⟩
    rcases packageSend_cases env cells.length len circ₁ (takeBytes env f len s) with
      ⟨circ', s', hsend, -⟩
    have hs' := packageSend_attached env hsend hts
    rw [← hp] at hsend
    rcases hsend with hsend | hsend
    · simp only [packageLoop, hsend, Option.some.injEq] at h
      subst h
      exact ⟨rfl, hs'⟩
    cases maxCells with
    | none =>
      exact packageLoop_attached packagePartial fuel _ _ _ _ _
        (by simpa only [packageLoop, hsend] using h) hs'
    | some m =>
      simp only [packageLoop, hsend] at h
      split_ifs at h
      · cases h
        exact ⟨rfl, hs'⟩
      · exact packageLoop_attached packagePartial fuel _ _ _ _ _ h hs'

theorem connectionEdgePackageRawInbuf_attached {circ : EdgeCirc} {s : EdgeStream}
    {packagePartial : Bool} {maxCells : Option Int} {res : RawInbufResult}
    (h : connectionEdgePackageRawInbuf env circ s packagePartial maxCells = some res)
    (hs : s.Attached) : res.ret = 0 ∧ res.stream.Attached := by
  unfold connectionEdgePackageRawInbuf at h
  split_ifs at h with hm
  · cases h
    exact ⟨rfl, hs⟩
  cases maxCells with
  | none => exact packageLoop_attached env packagePartial _ _ _ _ _ _ h hs
  | some m =>
    dsimp only at h
    split_ifs at h
    · cases h
      exact ⟨rfl, hs⟩
    · exact packageLoop_attached env packagePartial _ _ _ _ _ _ h hs

/-- The stream a call leaves, marked for close when the call failed, keeps what `EdgeKeeps`
    says. -/
theorem edgeKeeps_call {circ : EdgeCirc} {x : ResumeStream} {packagePartial : Bool}
    {maxCells : Option Int} {res : RawInbufResult}
    (h : connectionEdgePackageRawInbuf env circ x.stream packagePartial maxCells = some res) :
    EdgeKeeps x { x with stream := if res.ret < 0 then { res.stream with markedForClose := true }
      else res.stream } := by
  refine ⟨rfl, fun hx => ?_⟩
  obtain ⟨hret, hs⟩ := connectionEdgePackageRawInbuf_attached env h hx
  simpa [hret] using hs

end Attached

section Edges

variable {env : ResumeEnv}

/-- One round of the packaging loop keeps what `EdgeKeeps` says of every stream. -/
theorem resumeRoundLoop_edges (r : Nat) (cellsPerConn : Int) : ∀ (j : Nat) (circ : EdgeCirc)
    (xs : List ResumeStream) (rr : ResumeRound),
    resumeRoundLoop env r cellsPerConn j circ xs = some rr → List.Forall₂ EdgeKeeps xs rr.streams
  | _, _, [], rr, h => by
    cases h
    exact .nil
  | j, circ, x :: xs, rr, h => by
    have rest : ∀ {circ'} {rr'}, resumeRoundLoop env r cellsPerConn (j + 1) circ' xs = some rr' →
        List.Forall₂ EdgeKeeps xs rr'.streams := fun h' =>
      resumeRoundLoop_edges r cellsPerConn _ _ _ _ h'
    rw [resumeRoundLoop] at h
    split_ifs at h with hsk hcp
    · obtain ⟨rr', h', rfl⟩ := Option.map_eq_some'.1 h
      exact .cons (.refl x) (rest h')
    swap
    · obtain ⟨rr', h', rfl⟩ := Option.map_eq_some'.1 h
      exact .cons (.refl x) (rest h')
    cases hres : connectionEdgePackageRawInbuf (env.call r j) circ x.stream true
      (some cellsPerConn) with
    | none => rw [hres] at h; cases h
    | some res =>
    rw [hres] at h
    have hk := edgeKeeps_call (env.call r j) hres
    dsimp only at h
    by_cases hret : res.ret < 0
    · rw [if_pos hret] at h
      obtain ⟨rr', h', rfl⟩ := Option.map_eq_some'.1 h
      exact .cons (by simpa only [hret, if_true] using hk) (rest h')
    rw [if_neg hret] at h
    replace hk : EdgeKeeps x { x with stream := res.stream } := by
      simpa only [hret, if_false] using hk
    by_cases hstop : circuitConsiderStopEdgeReading (env.call r j) res.cells.length res.circ
    · rw [if_pos hstop] at h
      cases h
      exact .cons hk (List.forall₂_same.2 fun x _ => .refl x)
    · rw [if_neg hstop] at h
      obtain ⟨rr', h', rfl⟩ := Option.map_eq_some'.1 h
      exact .cons hk (rest h')

theorem resumeRounds_edges : ∀ (fuel r n : Nat) (circ : EdgeCirc) (xs : List ResumeStream)
    (res : Int × EdgeCirc × List ResumeStream),
    resumeRounds env fuel r n circ xs = some res → List.Forall₂ EdgeKeeps xs res.2.2
  | 0, _, _, _, _, _, h => nomatch h
  | fuel + 1, r, n, circ, xs, res, h => by
    simp only [resumeRounds] at h
    generalize (if env.highwatermark - env.cellsOnQueue r <
        circuitGetPackageWindow (env.call r 0) 0 circ then env.highwatermark - env.cellsOnQueue r
      else circuitGetPackageWindow (env.call r 0) 0 circ) = maxToPackage at h
    split at h
    · cases h
    rename_i rr hrr
    have hround := resumeRoundLoop_edges r _ 0 circ xs rr hrr
    split_ifs at h
    · cases h
      exact hround
    · exact edgeKeeps_forall₂_trans hround (resumeRounds_edges fuel _ _ _ _ res h)
    · cases h
      exact hround

theorem circuitResumeEdgeReading_edges {oneInN : Nat → Bool} {blocked : Bool}
    {circ circ' : EdgeCirc} {xs xs' : List ResumeStream}
    (h : circuitResumeEdgeReading env oneInN blocked circ xs = some (circ', xs')) :
    List.Forall₂ EdgeKeeps xs xs' := by
  have same := List.forall₂_same.2 fun x (_ : x ∈ xs) => EdgeKeeps.refl x
  unfold circuitResumeEdgeReading at h
  split_ifs at h
  · cases h
    exact same
  obtain ⟨res, h', he⟩ := Option.map_eq_some'.1 h
  obtain ⟨-, rfl⟩ := Prod.mk.inj he
  unfold circuitResumeEdgeReadingHelper at h'
  dsimp only at h'
  split_ifs at h'
  · cases h'
    exact same
  · cases h'
    exact same
  · exact resumeRounds_edges _ _ _ _ _ res h'

/-- **`process_sendme_cell` keeps what `EdgeKeeps` says of every stream**: an attached stream is
    never marked for close, and no stream changes hop. -/
theorem processSendmeCell_edges {circP strmP : WindowParams} {oneInN : Nat → Bool}
    {call : PackageEnv} {valid : Bool} {ccResult : Int} {blocked : Bool}
    {target : SendmeCellStream} {circ : EdgeCirc} {xs : List ResumeStream}
    {out : Int × EdgeCirc × List ResumeStream}
    (h : processSendmeCell circP strmP env oneInN call valid ccResult blocked target circ xs =
      some out) : List.Forall₂ EdgeKeeps xs out.2.2 := by
  have same := List.forall₂_same.2 fun x (_ : x ∈ xs) => EdgeKeeps.refl x
  have resume : ∀ {circ₁ : EdgeCirc},
      (circuitResumeEdgeReading env oneInN blocked circ₁ xs).map (fun r => (0, r.1, r.2)) =
        some out → List.Forall₂ EdgeKeeps xs out.2.2 := fun h => by
    obtain ⟨r, h', rfl⟩ := Option.map_eq_some'.1 h
    exact circuitResumeEdgeReading_edges h'
  unfold processSendmeCell at h
  cases target with
  | circuit =>
    dsimp only at h
    split_ifs at h
    · cases h; exact same
    · cases h; exact same
    · exact resume h
    split at h
    · cases h; exact same
    · exact resume h
  | stream pos =>
    dsimp only at h
    split at h
    · cases h; exact same
    rename_i x hx
    by_cases hfc : x.stream.usesFlowControl = true
    · rw [if_pos hfc] at h
      cases h
      exact same
    rw [if_neg hfc] at h
    split at h
    · cases h; exact same
    rename_i w _
    have hk₁ : EdgeKeeps x { x with stream := { x.stream with packageWindow := w } } :=
      ⟨rfl, id⟩
    by_cases hb : blocked = true
    · rw [if_pos hb] at h
      cases h
      exact edgeKeeps_forall₂_set hx hk₁
    rw [if_neg hb] at h
    split at h
    · cases h
    rename_i res hres
    cases h
    exact edgeKeeps_forall₂_set hx (hk₁.trans (edgeKeeps_call call hres))
  | unknown => cases h; exact same

end Edges

end TorCore
