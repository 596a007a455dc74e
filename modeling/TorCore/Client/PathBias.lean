import Mathlib.Algebra.Order.Field.Rat
import Mathlib.Tactic.NormNum
import Mathlib.Tactic.Ring

/-!
# `TorCore.Client.PathBias` — path-bias accounting of a guard's circuits

`circpathbias.c` counts, per entry guard, how many circuits through it were attempted, built,
used and closed in each way (`guard_pathbias_t`), to notice a guard that fails circuits on
purpose. Each origin circuit carries a `path_state` that its events move forward, and each event
counts at the guard that `entry_guard_get_by_id_digest` returns for the circuit's first hop.

The model holds every origin circuit (`circuit_get_global_list`, which the scaling steps read) and
the counters of every guard, as exact rationals. What the code learns from elsewhere is an
argument of the event: whether each guard lookup finds the guard (`entry_guard_get_by_id_digest`
may return `NULL` at one call and the guard at another), whether `pathbias_is_new_circ_attempt`
holds, how a circuit was closed, and how sending a probe went. `PathbiasParams` are the consensus
parameters. The `path_bias_noticed`, `warned` and `extreme` flags only silence repeated logs and
are left out; `path_bias_disabled` is kept.

- `useSuccess_without_useAttempt`: from any state, on a counted circuit that has been built, a use
  attempt whose guard lookup fails, a successful use, and a close whose lookups succeed count one
  use success at the guard and no use attempt, so `use_successes` passes `use_attempts`.
- `pathbiasScaleCloseRates_countsNewAttempt`: the scaling inside a build attempt runs after the
  circuit has entered `BUILD_ATTEMPTED` and before its attempt is counted, so it keeps one
  attempt more than the open circuits have counted out of scaling.
-/

namespace TorCore

/-! ## Circuits and guards -/

/-- `path_state_t`. -/
inductive PbPathState where
  | newCirc
  | buildAttempted
  | buildSucceeded
  | useAttempted
  | useSucceeded
  | useFailed
  | alreadyCounted
  deriving DecidableEq, Repr

/-- The value of a `path_state_t`, which `circpathbias.c` compares with `<`. -/
def PbPathState.toNat : PbPathState → Nat
  | .newCirc => 0
  | .buildAttempted => 1
  | .buildSucceeded => 2
  | .useAttempted => 3
  | .useSucceeded => 4
  | .useFailed => 5
  | .alreadyCounted => 6

/-- `guard_pathbias_t`: the counters, as exact rationals, and `path_bias_disabled`. -/
structure GuardPathbias where
  circAttempts : ℚ
  circSuccesses : ℚ
  successfulCircuitsClosed : ℚ
  collapsedCircuits : ℚ
  unusableCircuits : ℚ
  timeouts : ℚ
  useAttempts : ℚ
  useSuccesses : ℚ
  pathBiasDisabled : Bool

/-- An origin circuit as path bias sees it: the identity digest of its first hop, `path_state`,
    `has_opened`, `marked_for_close`, whether `pathbias_should_count` counts it, and whether a
    probe is outstanding (purpose `PATH_BIAS_TESTING` with a `pathbias_probe_id`). -/
structure PbCirc where
  guard : Nat
  pathState : PbPathState
  hasOpened : Bool
  markedForClose : Bool
  shouldCount : Bool
  probeSent : Bool
  deriving DecidableEq, Repr

/-- The consensus parameters and options that change what path bias stores
    (`pathbias_get_min_circs` and the others). -/
structure PathbiasParams where
  minCircs : ℚ
  extremeRate : ℚ
  minUse : ℚ
  extremeUseRate : ℚ
  dropguards : Bool
  scaleThreshold : ℚ
  scaleUseThreshold : ℚ
  scaleRatio : ℚ

/-- The counters of every guard, by identity digest, and the origin circuits. -/
structure PbState where
  guards : Nat → GuardPathbias
  circs : List PbCirc

/-- The guard `g` with new counters. -/
def PbState.setGuard (st : PbState) (g : Nat) (pb : GuardPathbias) : PbState :=
  { st with guards := Function.update st.guards g pb }

/-- `circ->path_state = s` for circuit `i`. -/
def PbState.setPathState (st : PbState) (i : Nat) (s : PbPathState) : PbState :=
  { st with circs := st.circs.modify (fun c => { c with pathState := s }) i }

@[simp] theorem PbState.setGuard_circs (st : PbState) (g : Nat) (pb : GuardPathbias) :
    (st.setGuard g pb).circs = st.circs := rfl

@[simp] theorem PbState.setGuard_guards_self (st : PbState) (g : Nat) (pb : GuardPathbias) :
    (st.setGuard g pb).guards g = pb := Function.update_same _ _ _

@[simp] theorem PbState.setPathState_guards (st : PbState) (i : Nat) (s : PbPathState) :
    (st.setPathState i s).guards = st.guards := rfl

theorem PbState.setPathState_circ {st : PbState} {i : Nat} {c : PbCirc}
    (hc : st.circs[i]? = some c) (s : PbPathState) :
    (st.setPathState i s).circs[i]? = some { c with pathState := s } := by
  simp [PbState.setPathState, List.getElem?_modify, hc]

/-! ## At the guard -/

section Guard

variable (p : PathbiasParams)

/-- `pathbias_count_circs_in_states (guard, from, to)`: the open circuits through `g` that are
    counted and whose state is in `[from, to]`. -/
def countCircsInStates (st : PbState) (g : Nat) (lo hi : PbPathState) : ℚ :=
  (st.circs.filter fun c => !c.markedForClose && decide (lo.toNat ≤ c.pathState.toNat) &&
    decide (c.pathState.toNat ≤ hi.toNat) && c.shouldCount && c.guard == g).length

/-- `pathbias_get_close_success_count (guard)`. -/
def pathbiasGetCloseSuccessCount (st : PbState) (g : Nat) : ℚ :=
  (st.guards g).successfulCircuitsClosed + countCircsInStates st g .buildSucceeded .useSucceeded

/-- `pathbias_get_use_success_count (guard)`. -/
def pathbiasGetUseSuccessCount (st : PbState) (g : Nat) : ℚ :=
  (st.guards g).useSuccesses + countCircsInStates st g .useAttempted .useSucceeded

/-- `pathbias_measure_close_rate (guard)`: with `dropguards`, a guard whose close success rate
    is below the extreme rate is disabled; the other branches only log. -/
def pathbiasMeasureCloseRate (st : PbState) (g : Nat) : PbState :=
  let pb := st.guards g
  if pb.circAttempts > p.minCircs ∧
      pathbiasGetCloseSuccessCount st g / pb.circAttempts < p.extremeRate ∧
      p.dropguards = true ∧ pb.pathBiasDisabled = false then
    st.setGuard g { pb with pathBiasDisabled := true }
  else st

/-- `pathbias_measure_use_rate (guard)`, likewise for the use success rate. -/
def pathbiasMeasureUseRate (st : PbState) (g : Nat) : PbState :=
  let pb := st.guards g
  if pb.useAttempts > p.minUse ∧
      pathbiasGetUseSuccessCount st g / pb.useAttempts < p.extremeUseRate ∧
      p.dropguards = true ∧ pb.pathBiasDisabled = false then
    st.setGuard g { pb with pathBiasDisabled := true }
  else st

/-- `pathbias_scale_close_rates (guard)`: past the threshold, the counts scale by the ratio,
    those of the circuits still open through the guard excepted. -/
def pathbiasScaleCloseRates (st : PbState) (g : Nat) : PbState :=
  let pb := st.guards g
  if pb.circAttempts > p.scaleThreshold then
    let openedAttempts := countCircsInStates st g .buildAttempted .buildAttempted
    let openedBuilt := countCircsInStates st g .buildSucceeded .useFailed
    st.setGuard g { pb with
      circAttempts := (pb.circAttempts - (openedAttempts + openedBuilt)) * p.scaleRatio +
        (openedAttempts + openedBuilt)
      circSuccesses := (pb.circSuccesses - openedBuilt) * p.scaleRatio + openedBuilt
      timeouts := pb.timeouts * p.scaleRatio
      successfulCircuitsClosed := pb.successfulCircuitsClosed * p.scaleRatio
      collapsedCircuits := pb.collapsedCircuits * p.scaleRatio
      unusableCircuits := pb.unusableCircuits * p.scaleRatio }
  else st

/-- `pathbias_scale_use_rates (guard)`. -/
def pathbiasScaleUseRates (st : PbState) (g : Nat) : PbState :=
  let pb := st.guards g
  if pb.useAttempts > p.scaleUseThreshold then
    let openedAttempts := countCircsInStates st g .useAttempted .useSucceeded
    st.setGuard g { pb with
      useAttempts := (pb.useAttempts - openedAttempts) * p.scaleRatio + openedAttempts
      useSuccesses := pb.useSuccesses * p.scaleRatio }
  else st

/-- `entry_guard_inc_circ_attempt_count (guard)`: `-1` for a disabled guard, before counting. -/
def entryGuardIncCircAttemptCount (st : PbState) (g : Nat) : Int × PbState :=
  let st := pathbiasMeasureCloseRate p st g
  if (st.guards g).pathBiasDisabled then (-1, st)
  else
    let st := pathbiasScaleCloseRates p st g
    (0, st.setGuard g { st.guards g with circAttempts := (st.guards g).circAttempts + 1 })

end Guard

/-! ## The events of a circuit -/

section Events

variable (p : PathbiasParams)

/-- `END_CIRC_REASON_TORPROTOCOL`. -/
def END_CIRC_REASON_TORPROTOCOL : Int := 1

/-- `pathbias_count_build_attempt (circ)`, `newAttempt` being `pathbias_is_new_circ_attempt` and
    `found` whether the guard lookup finds the guard. -/
def pathbiasCountBuildAttempt (st : PbState) (i : Nat) (newAttempt found : Bool) :
    Int × PbState :=
  match st.circs[i]? with
  | none => (0, st)
  | some c =>
    if c.shouldCount ∧ newAttempt ∧ c.hasOpened = false ∧ found ∧ c.pathState = .newCirc then
      let r := entryGuardIncCircAttemptCount p (st.setPathState i .buildAttempted) c.guard
      -- a bogus guard
      if r.1 < 0 then (-END_CIRC_REASON_TORPROTOCOL, r.2) else (0, r.2)
    else (0, st)

/-- `pathbias_count_build_success (circ)`. -/
def pathbiasCountBuildSuccess (st : PbState) (i : Nat) (found : Bool) : PbState :=
  match st.circs[i]? with
  | none => st
  | some c =>
    if c.shouldCount ∧ c.hasOpened = false ∧ found ∧ c.pathState = .buildAttempted then
      (st.setPathState i .buildSucceeded).setGuard c.guard
        { st.guards c.guard with circSuccesses := (st.guards c.guard).circSuccesses + 1 }
    else st

/-- `pathbias_count_use_attempt (circ)`: a built circuit becomes `USE_ATTEMPTED`, and its guard,
    when found, counts a use attempt. -/
def pathbiasCountUseAttempt (st : PbState) (i : Nat) (found : Bool) : PbState :=
  match st.circs[i]? with
  | none => st
  | some c =>
    if c.shouldCount = false then st
    else if c.pathState.toNat < PbPathState.buildSucceeded.toNat then st
    else if c.pathState.toNat < PbPathState.useAttempted.toNat then
      let st := if found then
          let st := pathbiasScaleUseRates p (pathbiasMeasureUseRate p st c.guard) c.guard
          st.setGuard c.guard
            { st.guards c.guard with useAttempts := (st.guards c.guard).useAttempts + 1 }
        else st
      st.setPathState i .useAttempted
    else st

/-- `pathbias_mark_use_success (circ)`: counting waits for the close. -/
def pathbiasMarkUseSuccess (st : PbState) (i : Nat) (found : Bool) : PbState :=
  match st.circs[i]? with
  | none => st
  | some c =>
    if c.shouldCount = false then st
    else
      let st := if c.pathState.toNat < PbPathState.useAttempted.toNat then
          pathbiasCountUseAttempt p st i found
        else st
      st.setPathState i .useSucceeded

/-- `pathbias_mark_use_rollback (circ)`. -/
def pathbiasMarkUseRollback (st : PbState) (i : Nat) : PbState :=
  match st.circs[i]? with
  | some c => if c.pathState = .useSucceeded then st.setPathState i .useAttempted else st
  | none => st

/-- `pathbias_count_use_success (circ)`. -/
def pathbiasCountUseSuccess (st : PbState) (i : Nat) (found : Bool) : PbState :=
  match st.circs[i]? with
  | some c =>
    if c.shouldCount ∧ c.pathState = .useSucceeded ∧ found then
      st.setGuard c.guard
        { st.guards c.guard with useSuccesses := (st.guards c.guard).useSuccesses + 1 }
    else st
  | none => st

/-- The three counters of a closed circuit's fate: one more at its guard, when found. -/
def countAtGuard (bump : GuardPathbias → GuardPathbias) (st : PbState) (i : Nat) (found : Bool) :
    PbState :=
  match st.circs[i]? with
  | some c => if c.shouldCount ∧ found then st.setGuard c.guard (bump (st.guards c.guard)) else st
  | none => st

/-- `pathbias_count_successful_close (circ)`. -/
def pathbiasCountSuccessfulClose : PbState → Nat → Bool → PbState :=
  countAtGuard fun pb => { pb with successfulCircuitsClosed := pb.successfulCircuitsClosed + 1 }

/-- `pathbias_count_collapse (circ)`. -/
def pathbiasCountCollapse : PbState → Nat → Bool → PbState :=
  countAtGuard fun pb => { pb with collapsedCircuits := pb.collapsedCircuits + 1 }

/-- `pathbias_count_use_failed (circ)`. -/
def pathbiasCountUseFailed : PbState → Nat → Bool → PbState :=
  countAtGuard fun pb => { pb with unusableCircuits := pb.unusableCircuits + 1 }

/-- How `pathbias_send_usable_probe` goes when no probe is outstanding: refused before a probe
    stream id is taken (the last hop or the channel not open, no nonce, no stream id), the BEGIN
    cell not sent, or sent. -/
inductive ProbeOutcome where
  | refused
  | sendFailed
  | sent
  deriving DecidableEq, Repr

/-- `pathbias_send_usable_probe (circ)`: `-1` with a probe already outstanding. -/
def pathbiasSendUsableProbe (c : PbCirc) (o : ProbeOutcome) : Int × PbCirc :=
  if c.probeSent then (-1, c)
  else match o with
    | .refused => (-1, c)
    | .sendFailed => (-1, { c with probeSent := true })
    | .sent => (0, { c with probeSent := true })

/-- `pathbias_check_close (ocirc, reason)`: `collapsed` says whether the close was remote, or
    the channel closed without our asking; `-1` defers the close for a probe. -/
def pathbiasCheckClose (st : PbState) (i : Nat) (collapsed : Bool) (probe : ProbeOutcome)
    (foundClose foundUse : Bool) : Int × PbState :=
  match st.circs[i]? with
  | none => (0, st)
  | some c =>
    if c.shouldCount = false then (0, st)
    else match c.pathState with
      | .buildSucceeded =>
        let st := if collapsed then pathbiasCountCollapse st i foundClose
          else pathbiasCountSuccessfulClose st i foundClose
        (0, st.setPathState i .alreadyCounted)
      | .useAttempted =>
        let r := pathbiasSendUsableProbe c probe
        let st := { st with circs := st.circs.set i r.2 }
        if r.1 = 0 then (-1, st)
        else (0, (pathbiasCountUseFailed st i foundClose).setPathState i .alreadyCounted)
      | .useSucceeded =>
        let st := pathbiasCountUseSuccess (pathbiasCountSuccessfulClose st i foundClose) i foundUse
        (0, st.setPathState i .alreadyCounted)
      | .useFailed => (0, (pathbiasCountUseFailed st i foundClose).setPathState i .alreadyCounted)
      | _ => (0, st.setPathState i .alreadyCounted)

/-- The path-bias events of a circuit's life, from its first build attempt to its close, each
    on circuit `i` with what it learns from elsewhere. -/
inductive PbEvent where
  | buildAttempt (i : Nat) (newAttempt found : Bool)
  | buildSuccess (i : Nat) (found : Bool)
  | useAttempt (i : Nat) (found : Bool)
  | markUseSuccess (i : Nat) (found : Bool)
  | markUseRollback (i : Nat)
  | checkClose (i : Nat) (collapsed : Bool) (probe : ProbeOutcome) (foundClose foundUse : Bool)

/-- One event. -/
def pbStep (st : PbState) : PbEvent → PbState
  | .buildAttempt i newAttempt found => (pathbiasCountBuildAttempt p st i newAttempt found).2
  | .buildSuccess i found => pathbiasCountBuildSuccess st i found
  | .useAttempt i found => pathbiasCountUseAttempt p st i found
  | .markUseSuccess i found => pathbiasMarkUseSuccess p st i found
  | .markUseRollback i => pathbiasMarkUseRollback st i
  | .checkClose i collapsed probe foundClose foundUse =>
    (pathbiasCheckClose st i collapsed probe foundClose foundUse).2

/-- A run of events. -/
def pbRun (st : PbState) (evs : List PbEvent) : PbState := evs.foldl (pbStep p) st

end Events

/-- The parameters when neither the consensus nor the options set them (`DFLT_PATH_BIAS_*`, and
    `pb_multfactor / pb_scalefactor = 1/2`). -/
def defaultPathbiasParams : PathbiasParams := ⟨150, 3 / 10, 20, 3 / 5, false, 300, 100, 1 / 2⟩

/-! ## A use success with no use attempt -/

section Shortcut

variable (p : PathbiasParams) {st : PbState} {i : Nat} {c : PbCirc}

/-- A built circuit whose guard is not found becomes `USE_ATTEMPTED`, and no guard counts it. -/
theorem pathbiasCountUseAttempt_notFound (hc : st.circs[i]? = some c)
    (hs : c.shouldCount = true) (hb : c.pathState = .buildSucceeded) :
    pathbiasCountUseAttempt p st i false = st.setPathState i .useAttempted := by
  simp [pathbiasCountUseAttempt, hc, hs, hb, PbPathState.toNat]

/-- A successful use of a circuit in `USE_ATTEMPTED` only moves it on. -/
theorem pathbiasMarkUseSuccess_of_useAttempted (hc : st.circs[i]? = some c)
    (hs : c.shouldCount = true) (hu : c.pathState = .useAttempted) (found : Bool) :
    pathbiasMarkUseSuccess p st i found = st.setPathState i .useSucceeded := by
  simp [pathbiasMarkUseSuccess, hc, hs, hu, PbPathState.toNat]

/-- Closing a circuit in `USE_SUCCEEDED` counts a successful close, then a use success. -/
theorem pathbiasCheckClose_useSucceeded (hc : st.circs[i]? = some c)
    (hs : c.shouldCount = true) (hu : c.pathState = .useSucceeded) (collapsed : Bool)
    (probe : ProbeOutcome) (foundClose foundUse : Bool) :
    pathbiasCheckClose st i collapsed probe foundClose foundUse =
      (0, (pathbiasCountUseSuccess (pathbiasCountSuccessfulClose st i foundClose) i
        foundUse).setPathState i .alreadyCounted) := by
  simp [pathbiasCheckClose, hc, hs, hu]

theorem pathbiasCountSuccessfulClose_found (hc : st.circs[i]? = some c)
    (hs : c.shouldCount = true) :
    pathbiasCountSuccessfulClose st i true = st.setGuard c.guard { st.guards c.guard with
      successfulCircuitsClosed := (st.guards c.guard).successfulCircuitsClosed + 1 } := by
  simp [pathbiasCountSuccessfulClose, countAtGuard, hc, hs]

theorem pathbiasCountUseSuccess_found (hc : st.circs[i]? = some c)
    (hs : c.shouldCount = true) (hu : c.pathState = .useSucceeded) :
    pathbiasCountUseSuccess st i true = st.setGuard c.guard
      { st.guards c.guard with useSuccesses := (st.guards c.guard).useSuccesses + 1 } := by
  simp [pathbiasCountUseSuccess, hc, hs, hu]

end Shortcut

/-- **A use success with no use attempt.** On a built, counted circuit through guard `g`, a use
    attempt whose guard lookup fails still leads, through `USE_SUCCEEDED`, to a close that counts
    a use success for `g`, while `use_attempts` stays. -/
theorem useSuccess_without_useAttempt (p : PathbiasParams) (st : PbState) (i : Nat) (c : PbCirc)
    (hc : st.circs[i]? = some c) (hs : c.shouldCount = true)
    (hb : c.pathState = .buildSucceeded) (found collapsed : Bool) (probe : ProbeOutcome) :
    ((pbRun p st [.useAttempt i false, .markUseSuccess i found,
        .checkClose i collapsed probe true true]).guards c.guard).useSuccesses =
      (st.guards c.guard).useSuccesses + 1 ∧
    ((pbRun p st [.useAttempt i false, .markUseSuccess i found,
        .checkClose i collapsed probe true true]).guards c.guard).useAttempts =
      (st.guards c.guard).useAttempts := by
  have h₁ := PbState.setPathState_circ hc .useAttempted
  have h₂ := PbState.setPathState_circ h₁ .useSucceeded
  have hrun : pbRun p st [.useAttempt i false, .markUseSuccess i found,
      .checkClose i collapsed probe true true] =
      (pathbiasCountUseSuccess (pathbiasCountSuccessfulClose
        ((st.setPathState i .useAttempted).setPathState i .useSucceeded) i true) i true).setPathState
        i .alreadyCounted := by
    simp only [pbRun, List.foldl, pbStep, pathbiasCountUseAttempt_notFound p hc hs hb,
      pathbiasMarkUseSuccess_of_useAttempted p h₁ hs rfl found,
      pathbiasCheckClose_useSucceeded h₂ hs rfl]
  rw [hrun, PbState.setPathState_guards, pathbiasCountSuccessfulClose_found h₂ hs,
    pathbiasCountUseSuccess_found (c := { c with pathState := .useSucceeded }) (by simpa using h₂)
      hs rfl]
  simp

/-- A guard with one circuit through it, built: one attempt and one success counted. -/
def builtCircuitState : PbState :=
  ⟨fun _ => ⟨1, 1, 0, 0, 0, 0, 0, 0, false⟩, [⟨0, .buildSucceeded, true, false, true, false⟩]⟩

/-- From `builtCircuitState`, with the default parameters: `use_successes` becomes `1` and
    `use_attempts` stays `0`. -/
theorem useSuccess_without_useAttempt_built :
    ((pbRun defaultPathbiasParams builtCircuitState [.useAttempt 0 false, .markUseSuccess 0 true,
        .checkClose 0 false .refused true true]).guards 0).useSuccesses =
      (builtCircuitState.guards 0).useSuccesses + 1 ∧
    ((pbRun defaultPathbiasParams builtCircuitState [.useAttempt 0 false, .markUseSuccess 0 true,
        .checkClose 0 false .refused true true]).guards 0).useAttempts =
      (builtCircuitState.guards 0).useAttempts :=
  useSuccess_without_useAttempt defaultPathbiasParams builtCircuitState 0 _ rfl rfl rfl true false
    .refused

/-! ## Counting open circuits -/

/-- Changing one element of a list changes the length of a filter by what that element adds. -/
theorem length_filter_modify {α : Type} (P : α → Bool) (f : α → α) :
    ∀ (l : List α) (i : Nat) {x : α}, l[i]? = some x →
      ((l.modify f i).filter P).length + (if P x then 1 else 0) =
        (l.filter P).length + (if P (f x) then 1 else 0)
  | [], _, _, h => by simp at h
  | a :: l, 0, x, h => by
    obtain rfl : a = x := by simpa using h
    simp only [List.modify_zero_cons, List.filter_cons]
    cases P a <;> cases P (f a) <;> simp
  | a :: l, i + 1, x, h => by
    have ih := length_filter_modify P f l i (by simpa using h)
    simp only [List.modify_succ_cons, List.filter_cons]
    cases P a <;> simp <;> omega

/-- Filters whose counts add up element by element add up. -/
theorem length_filter_eq_add {α : Type} (p q r : α → Bool)
    (h : ∀ x, (if p x then 1 else 0) = (if q x then 1 else 0) + (if r x then 1 else 0)) :
    ∀ l : List α, (l.filter p).length = (l.filter q).length + (l.filter r).length
  | [] => rfl
  | a :: l => by
    have ha := h a
    have ih := length_filter_eq_add p q r h l
    simp only [List.filter_cons]
    split_ifs at ha ⊢ <;> simp only [List.length_cons, ih] <;> omega

/-- The open circuits past `BUILD_ATTEMPTED` and before `ALREADY_COUNTED` are those of
    `BUILD_ATTEMPTED` and those from `BUILD_SUCCEEDED` to `USE_FAILED`. -/
theorem countCircsInStates_attempted (st : PbState) (g : Nat) :
    countCircsInStates st g .buildAttempted .useFailed =
      countCircsInStates st g .buildAttempted .buildAttempted +
        countCircsInStates st g .buildSucceeded .useFailed := by
  unfold countCircsInStates
  rw [← Nat.cast_add, length_filter_eq_add _ _ _ fun x => ?_]
  generalize x.pathState.toNat = n
  cases x.markedForClose <;> cases x.shouldCount <;> cases x.guard == g <;>
    simp only [PbPathState.toNat, Bool.not_false, Bool.not_true, Bool.true_and, Bool.false_and,
      Bool.and_true, Bool.and_false, Bool.and_eq_true, decide_eq_true_eq, Bool.false_eq_true,
      and_false, and_true, ↓reduceIte]
  all_goals split_ifs <;> omega

section Counting

variable {st : PbState} {i : Nat} {c : PbCirc}

/-- Setting the state of circuit `i`, open and counted, changes a count of its guard's circuits
    by what the circuit adds there before and after. -/
theorem countCircsInStates_setPathState (hc : st.circs[i]? = some c)
    (hm : c.markedForClose = false) (hs : c.shouldCount = true) (s lo hi : PbPathState) :
    countCircsInStates (st.setPathState i s) c.guard lo hi +
        (if lo.toNat ≤ c.pathState.toNat ∧ c.pathState.toNat ≤ hi.toNat then 1 else 0) =
      countCircsInStates st c.guard lo hi +
        (if lo.toNat ≤ s.toNat ∧ s.toNat ≤ hi.toNat then 1 else 0) := by
  have h := length_filter_modify (fun c' : PbCirc => !c'.markedForClose &&
    decide (lo.toNat ≤ c'.pathState.toNat) && decide (c'.pathState.toNat ≤ hi.toNat) &&
    c'.shouldCount && c'.guard == c.guard) (fun c' => { c' with pathState := s }) st.circs i hc
  simp only [hm, hs, Bool.not_false, Bool.true_and, Bool.and_true, beq_self_eq_true,
    Bool.and_eq_true, decide_eq_true_eq] at h
  unfold countCircsInStates PbState.setPathState
  split_ifs at h ⊢ <;> exact_mod_cast h

end Counting

/-- `pathbias_measure_close_rate` that leaves the guard enabled changes nothing. -/
theorem pathbiasMeasureCloseRate_of_enabled (p : PathbiasParams) {st : PbState} {g : Nat}
    (h : ((pathbiasMeasureCloseRate p st g).guards g).pathBiasDisabled = false) :
    pathbiasMeasureCloseRate p st g = st := by
  unfold pathbiasMeasureCloseRate at h ⊢
  dsimp only at h ⊢
  split_ifs at h ⊢
  · simp [PbState.setGuard] at h
  · rfl

/-! ## Scaling at a build attempt -/

/-- **The circuit being counted is scaled as open.** It is `BUILD_ATTEMPTED` before
    `pathbias_scale_close_rates` runs, so the scaling counts `A + 1` open attempts, its own among
    them, though `circ_attempts++` only follows it; `circ_successes` scales around `S` built. -/
theorem pathbiasScaleCloseRates_countsNewAttempt (p : PathbiasParams) (st : PbState) (i : Nat)
    (c : PbCirc) (hc : st.circs[i]? = some c) (hs : c.shouldCount = true)
    (ho : c.hasOpened = false) (hn : c.pathState = .newCirc) (hm : c.markedForClose = false)
    (hen : ((pathbiasMeasureCloseRate p (st.setPathState i .buildAttempted) c.guard).guards
      c.guard).pathBiasDisabled = false)
    (ht : (st.guards c.guard).circAttempts > p.scaleThreshold) :
    ((pathbiasCountBuildAttempt p st i true true).2.guards c.guard).circAttempts =
        ((st.guards c.guard).circAttempts -
            (countCircsInStates st c.guard .buildAttempted .useFailed + 1)) * p.scaleRatio +
          (countCircsInStates st c.guard .buildAttempted .useFailed + 1) + 1 ∧
      ((pathbiasCountBuildAttempt p st i true true).2.guards c.guard).circSuccesses =
        ((st.guards c.guard).circSuccesses -
            countCircsInStates st c.guard .buildSucceeded .useFailed) * p.scaleRatio +
          countCircsInStates st c.guard .buildSucceeded .useFailed := by
  have hme := pathbiasMeasureCloseRate_of_enabled p hen
  rw [hme, PbState.setPathState_guards] at hen
  -- the circuit is now among the open attempts, and not among the built
  have ha := countCircsInStates_setPathState hc hm hs .buildAttempted .buildAttempted
    .buildAttempted
  have hb := countCircsInStates_setPathState hc hm hs .buildAttempted .buildSucceeded .useFailed
  simp [hn, PbPathState.toNat] at ha hb
  have hrun : (pathbiasCountBuildAttempt p st i true true).2 =
      (entryGuardIncCircAttemptCount p (st.setPathState i .buildAttempted) c.guard).2 := by
    simp only [pathbiasCountBuildAttempt, hc, hs, ho, hn, and_self, if_true]
    split <;> rfl
  rw [hrun, entryGuardIncCircAttemptCount]
  simp only [hme, PbState.setPathState_guards, hen, Bool.false_eq_true, ↓reduceIte,
    pathbiasScaleCloseRates, gt_iff_lt, if_pos ht, PbState.setGuard_guards_self]
  rw [ha, hb, countCircsInStates_attempted]
  constructor <;> ring

/-- A guard past the scaling threshold, with 301 attempts and 200 successes, and one circuit
    through it, new. -/
def newCircState : PbState :=
  ⟨fun _ => ⟨301, 200, 0, 0, 0, 0, 0, 0, false⟩, [⟨0, .newCirc, false, false, true, false⟩]⟩

/-- Its build attempt, with the default ratio `1/2`, leaves `circ_attempts` at `152`: scaling
    only what closed circuits counted would give `301/2 + 1`. -/
theorem pathbiasScaleCloseRates_countsNewAttempt_newCirc :
    ((pathbiasCountBuildAttempt defaultPathbiasParams newCircState 0 true true).2.guards
        0).circAttempts = 152 ∧
      ((pathbiasCountBuildAttempt defaultPathbiasParams newCircState 0 true true).2.guards
        0).circSuccesses = 100 := by
  obtain ⟨h₁, h₂⟩ := pathbiasScaleCloseRates_countsNewAttempt defaultPathbiasParams newCircState 0
    _ rfl rfl rfl rfl rfl
    (by simp [pathbiasMeasureCloseRate, defaultPathbiasParams, newCircState, PbState.setPathState])
    (by norm_num [newCircState, defaultPathbiasParams])
  refine ⟨h₁.trans ?_, h₂.trans ?_⟩ <;>
    norm_num [countCircsInStates, newCircState, defaultPathbiasParams, PbPathState.toNat]

end TorCore
