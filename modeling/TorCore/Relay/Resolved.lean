import TorCore.Wire

/-!
# `TorCore.Relay.Resolved` — the client-side answer decoders of `relay.c`

`resolved_cell_parse` walks a RELAY_RESOLVED body as a sequence of records
`type(1) length(1) value(length) ttl(4)`; `connected_cell_parse` reads the optional address and
TTL of a RELAY_CONNECTED body. Both are transcribed with their cursor arithmetic: the record loop
keeps the source's `remaining` counter next to the byte cursor, checks `remaining` before every
read, and checks the `tor_assert` at the bottom of the loop as an explicit outcome
(`ParseFault.assertion`), so that what the code reads and what it accepts can both be stated.

## Contents
- **Messages.** `RelayMsg` carries `length ≤ body.length` (a decoded message never points past
  its cell); `AddressTtl` is `address_ttl_t`.
- **`resolved_cell_parse`.** `resolvedCellParseLoop` (one iteration per record) and
  `resolvedCellParse`; `answerRecord` is the record layout, with one unfolding lemma per record
  kind (`loop_ipv4Record`, `loop_ipv6Record`, `loop_hostnameRecord`, `loop_errorRecord`).
- **`connected_cell_parse`.** `connectedCellParse`.
- **Addresses in payloads.** `appendAddressToPayload` and `decodeAddressFromPayload`, inverse in
  both directions (`addressPayload_inverse`).
-/

namespace TorCore

/-! ## Constants and messages -/

/-- `RESOLVED_TYPE_HOSTNAME`. -/
def RESOLVED_TYPE_HOSTNAME : UInt8 := 0
/-- `RESOLVED_TYPE_IPV4`. -/
def RESOLVED_TYPE_IPV4 : UInt8 := 4
/-- `RESOLVED_TYPE_IPV6`. -/
def RESOLVED_TYPE_IPV6 : UInt8 := 6
/-- `RESOLVED_TYPE_ERROR_TRANSIENT`. -/
def RESOLVED_TYPE_ERROR_TRANSIENT : UInt8 := 0xF0
/-- `RESOLVED_TYPE_ERROR`. -/
def RESOLVED_TYPE_ERROR : UInt8 := 0xF1

/-- Modelled from the spec: `RELAY_PAYLOAD_SIZE_MAX`, the V0 relay body size
    (`body(498)` in the relay cell layout; the header defining it is not in the sources). -/
def RELAY_PAYLOAD_SIZE_MAX : Nat := 498

/-- `relay_msg_t`: a relay message decoded in place over a cell. `body` is the payload
    from the message's first byte to the end of its cell, so it holds at least `length` bytes. -/
structure RelayMsg where
  command : UInt8
  streamId : UInt16
  length : Nat
  body : List UInt8
  length_le : length ≤ body.length

/-- The message a cell carrying `payload`, followed by the rest of the cell `pad`, decodes to. -/
def RelayMsg.ofPayload (command : UInt8) (streamId : UInt16) (payload pad : List UInt8) :
    RelayMsg :=
  ⟨command, streamId, payload.length, payload ++ pad, by simp⟩

/-- `address_ttl_t`: an address answer (`hostname = none`) or a hostname answer
    (`addr = unspec`, as `tor_malloc_zero` leaves it), with the TTL word as read. -/
structure AddressTtl where
  addr : TorAddr
  hostname : Option (List UInt8)
  ttl : UInt32
  deriving DecidableEq

/-- Why `resolved_cell_parse` did not return 0: `goto err` (it returns -1), or its
    `tor_assert` failed (the process aborts). -/
inductive ParseFault where
  | malformed
  | assertion
  deriving DecidableEq

/-! ## `resolved_cell_parse` -/

/-- One iteration of the `while (remaining)` loop of `resolved_cell_parse` per call, over the
    cursor `cp`, the bytes `remaining`, the answers `addrs` and the last error type `errcode`;
    the `tor_assert(remaining >= cp - cp_orig)` becomes `ParseFault.assertion`. -/
def resolvedCellParseLoop (cp : List UInt8) (remaining : Nat) (addrs : List AddressTtl)
    (errcode : UInt8) : Except ParseFault (List AddressTtl × UInt8) :=
  if h0 : remaining = 0 then .ok (addrs, errcode)
  else if remaining < 2 then .error .malformed
  else
    let answerType := getUint8 cp 0
    let answerLen := (getUint8 cp 1).toNat
    if remaining < 2 + answerLen + 4 then .error .malformed
    else if answerType = RESOLVED_TYPE_IPV4 then
      if answerLen ≠ 4 then .error .malformed
      else if remaining < 2 + 4 + 4 then .error .assertion
      else resolvedCellParseLoop (cp.drop 10) (remaining - 10)
        (addrs ++ [⟨.ipv4 (getUint32 cp 2), none, getUint32 cp 6⟩]) errcode
    else if answerType = RESOLVED_TYPE_IPV6 then
      if answerLen ≠ 16 then .error .malformed
      else if remaining < 2 + 16 + 4 then .error .assertion
      else resolvedCellParseLoop (cp.drop 22) (remaining - 22)
        (addrs ++ [⟨.ipv6 (In6Addr.ofBytes cp 2), none, getUint32 cp 18⟩]) errcode
    else if answerType = RESOLVED_TYPE_HOSTNAME then
      if answerLen = 0 then .error .malformed
      else if remaining < 2 + answerLen + 4 then .error .assertion
      else resolvedCellParseLoop (cp.drop (2 + answerLen + 4)) (remaining - (2 + answerLen + 4))
        (addrs ++ [⟨.unspec, some (bytesAt cp 2 answerLen), getUint32 cp (2 + answerLen)⟩])
        errcode
    else if answerType = RESOLVED_TYPE_ERROR_TRANSIENT ∨ answerType = RESOLVED_TYPE_ERROR then
      if remaining < 2 + answerLen + 4 then .error .assertion
      else resolvedCellParseLoop (cp.drop (2 + answerLen + 4)) (remaining - (2 + answerLen + 4))
        addrs answerType
    else
      if remaining < 2 + answerLen + 4 then .error .assertion
      else resolvedCellParseLoop (cp.drop (2 + answerLen + 4)) (remaining - (2 + answerLen + 4))
        addrs errcode
termination_by remaining
decreasing_by all_goals omega

/-- The end of `resolved_cell_parse`: `*errcode_out` gets the last error type only when no
    answer was kept. -/
def reportErrcode (result : List AddressTtl × UInt8) : List AddressTtl × UInt8 :=
  (result.1, if result.2 ≠ 0 ∧ result.1 = [] then result.2 else 0)

/-- `resolved_cell_parse`: on success, the answers it appends to `addresses_out` and the value it
    leaves in `*errcode_out` (the last error type, reported only when no answer was kept). -/
def resolvedCellParse (msg : RelayMsg) : Except ParseFault (List AddressTtl × UInt8) :=
  if msg.length > RELAY_PAYLOAD_SIZE_MAX then .error .malformed
  else (resolvedCellParseLoop msg.body msg.length [] 0).map reportErrcode

/-- The layout of one RESOLVED record: `type`, `length`, the value, the TTL in network order. -/
def answerRecord (answerType : UInt8) (value : List UInt8) (ttl : UInt32) : List UInt8 :=
  answerType :: UInt8.ofNat value.length :: (value ++ setUint32 ttl)

@[simp] theorem answerRecord_length (t : UInt8) (v : List UInt8) (ttl : UInt32) :
    (answerRecord t v ttl).length = v.length + 6 := by
  simp [answerRecord]

theorem loop_zero (cp : List UInt8) (addrs : List AddressTtl) (e : UInt8) :
    resolvedCellParseLoop cp 0 addrs e = .ok (addrs, e) := by
  rw [resolvedCellParseLoop]; rfl

/-- The header bytes of a record with a value shorter than 256 bytes. -/
theorem answerRecord_header {t : UInt8} {v : List UInt8} (ttl : UInt32) (rest : List UInt8)
    (hv : v.length < 256) :
    getUint8 (answerRecord t v ttl ++ rest) 0 = t ∧
      (getUint8 (answerRecord t v ttl ++ rest) 1).toNat = v.length := by
  refine ⟨rfl, ?_⟩
  show (UInt8.ofNat v.length).toNat = v.length
  simp only [UInt8.toNat, UInt8.ofNat, BitVec.toNat_ofNat]
  omega

/-- The value bytes and TTL of a record read back at their offsets. -/
theorem answerRecord_fields (t : UInt8) (v : List UInt8) (ttl : UInt32) (rest : List UInt8) :
    bytesAt (answerRecord t v ttl ++ rest) 2 v.length = v ∧
      getUint32 (answerRecord t v ttl ++ rest) (2 + v.length) = ttl := by
  have hv : answerRecord t v ttl ++ rest =
      [t, UInt8.ofNat v.length] ++ (v ++ (setUint32 ttl ++ rest)) := by
    simp [answerRecord]
  have ht : answerRecord t v ttl ++ rest =
      ([t, UInt8.ofNat v.length] ++ v) ++ (setUint32 ttl ++ rest) := by
    simp [answerRecord]
  have hl : ([t, UInt8.ofNat v.length] ++ v).length = 2 + v.length := by simp; omega
  exact ⟨hv ▸ bytesAt_append _ v _, by rw [ht, ← hl, getUint32_setUint32_at]⟩

theorem answerRecord_drop (t : UInt8) (v : List UInt8) (ttl : UInt32) (rest : List UInt8) :
    (answerRecord t v ttl ++ rest).drop (2 + v.length + 4) = rest :=
  List.drop_left' (by simp; omega)

/-- An IPv4 record is kept as an IPv4 answer, and the loop goes on after it. -/
theorem loop_ipv4Record (a ttl : UInt32) (rest : List UInt8) (r : Nat)
    (addrs : List AddressTtl) (e : UInt8) :
    resolvedCellParseLoop (answerRecord RESOLVED_TYPE_IPV4 (setUint32 a) ttl ++ rest) (10 + r)
      addrs e = resolvedCellParseLoop rest r (addrs ++ [⟨.ipv4 a, none, ttl⟩]) e := by
  obtain ⟨h0, h1⟩ := answerRecord_header (t := RESOLVED_TYPE_IPV4) ttl rest
    (show (setUint32 a).length < 256 by simp)
  have hfields := (answerRecord_fields RESOLVED_TYPE_IPV4 (setUint32 a) ttl rest).2
  have ha : getUint32 (answerRecord RESOLVED_TYPE_IPV4 (setUint32 a) ttl ++ rest) 2 = a :=
    getUint32_setUint32_at [_, _] a (setUint32 ttl ++ rest)
  have hd := answerRecord_drop RESOLVED_TYPE_IPV4 (setUint32 a) ttl rest
  simp only [setUint32_length] at h1 hfields hd
  rw [resolvedCellParseLoop]
  simp only [h0, h1, ha, hfields, hd]
  simp [RESOLVED_TYPE_IPV4, show ¬ 10 + r < 2 by omega]

/-- An IPv6 record is kept as an IPv6 answer, and the loop goes on after it. -/
theorem loop_ipv6Record (a : In6Addr) (ttl : UInt32) (rest : List UInt8) (r : Nat)
    (addrs : List AddressTtl) (e : UInt8) :
    resolvedCellParseLoop (answerRecord RESOLVED_TYPE_IPV6 a.bytes ttl ++ rest) (22 + r)
      addrs e = resolvedCellParseLoop rest r (addrs ++ [⟨.ipv6 a, none, ttl⟩]) e := by
  obtain ⟨h0, h1⟩ := answerRecord_header (t := RESOLVED_TYPE_IPV6) ttl rest
    (show a.bytes.length < 256 by simp [a.length_eq])
  have hfields := (answerRecord_fields RESOLVED_TYPE_IPV6 a.bytes ttl rest).2
  have ha : In6Addr.ofBytes (answerRecord RESOLVED_TYPE_IPV6 a.bytes ttl ++ rest) 2 = a := by
    simpa [answerRecord] using In6Addr.ofBytes_append [_, _] a (setUint32 ttl ++ rest)
  have hd := answerRecord_drop RESOLVED_TYPE_IPV6 a.bytes ttl rest
  simp only [a.length_eq] at h1 hfields hd
  rw [resolvedCellParseLoop]
  simp only [h0, h1, ha, hfields, hd]
  simp [RESOLVED_TYPE_IPV4, RESOLVED_TYPE_IPV6, show ¬ 22 + r < 2 by omega]

/-- A hostname record with a nonempty name is kept as a hostname answer. -/
theorem loop_hostnameRecord {v : List UInt8} (ttl : UInt32) (rest : List UInt8) (r : Nat)
    (addrs : List AddressTtl) (e : UInt8) (hpos : 0 < v.length) (hlt : v.length < 256) :
    resolvedCellParseLoop (answerRecord RESOLVED_TYPE_HOSTNAME v ttl ++ rest) (v.length + 6 + r)
      addrs e = resolvedCellParseLoop rest r (addrs ++ [⟨.unspec, some v, ttl⟩]) e := by
  obtain ⟨h0, h1⟩ := answerRecord_header (t := RESOLVED_TYPE_HOSTNAME) ttl rest hlt
  obtain ⟨hv, httl⟩ := answerRecord_fields RESOLVED_TYPE_HOSTNAME v ttl rest
  have hd := answerRecord_drop RESOLVED_TYPE_HOSTNAME v ttl rest
  rw [resolvedCellParseLoop]
  simp only [h0, h1, hv, httl, hd]
  simp [RESOLVED_TYPE_IPV4, RESOLVED_TYPE_IPV6, RESOLVED_TYPE_HOSTNAME,
    show ¬ v.length + 6 + r < 2 by omega, show ¬ v.length = 0 by omega,
    show ¬ v.length + 6 + r < 2 + v.length + 4 by omega,
    show v.length + 6 + r - (2 + v.length + 4) = r by omega]

/-- A hostname record with an empty name makes the whole parse fail. -/
theorem loop_emptyHostnameRecord (ttl : UInt32) (rest : List UInt8) (r : Nat)
    (addrs : List AddressTtl) (e : UInt8) :
    resolvedCellParseLoop (answerRecord RESOLVED_TYPE_HOSTNAME [] ttl ++ rest) (6 + r) addrs e =
      .error .malformed := by
  obtain ⟨h0, h1⟩ := answerRecord_header (t := RESOLVED_TYPE_HOSTNAME) (v := []) ttl rest
    (by simp)
  rw [resolvedCellParseLoop]
  simp only [h0, h1]
  simp [RESOLVED_TYPE_IPV4, RESOLVED_TYPE_IPV6, RESOLVED_TYPE_HOSTNAME,
    show ¬ 6 + r < 2 by omega]

/-- An error record keeps no answer and records its type as the error code. -/
theorem loop_errorRecord {t : UInt8} {v : List UInt8} (ttl : UInt32) (rest : List UInt8)
    (r : Nat) (addrs : List AddressTtl) (e : UInt8)
    (ht : t = RESOLVED_TYPE_ERROR_TRANSIENT ∨ t = RESOLVED_TYPE_ERROR) (hlt : v.length < 256) :
    resolvedCellParseLoop (answerRecord t v ttl ++ rest) (v.length + 6 + r) addrs e =
      resolvedCellParseLoop rest r addrs t := by
  obtain ⟨h0, h1⟩ := answerRecord_header (t := t) ttl rest hlt
  have hd := answerRecord_drop t v ttl rest
  have hne :
      t ≠ RESOLVED_TYPE_IPV4 ∧ t ≠ RESOLVED_TYPE_IPV6 ∧ t ≠ RESOLVED_TYPE_HOSTNAME := by
    rcases ht with rfl | rfl <;> decide
  rw [resolvedCellParseLoop]
  simp only [h0, h1, hd, hne, ht, if_false, if_true]
  simp [show ¬ v.length + 6 + r < 2 by omega, show ¬ v.length + 6 + r < 2 + v.length + 4 by omega,
    show v.length + 6 + r - (2 + v.length + 4) = r by omega]

/-! ## `connected_cell_parse` -/

/-- `INT32_MAX`. -/
def INT32_MAX : Nat := 2 ^ 31 - 1

/-- `connected_cell_parse`: the address (`unspec` when the body has none) and the TTL (`-1` when
    absent or above `INT32_MAX`), or `none` where the source returns -1. -/
def connectedCellParse (msg : RelayMsg) : Option (TorAddr × Int) :=
  if msg.length = 0 then some (.unspec, -1)
  else if msg.length < 4 then none
  else
    let bytes := getUint32 msg.body 0
    if bytes ≠ 0 then
      let ttlBytes := getUint32 msg.body 4
      some (.ipv4 bytes,
        if msg.length ≥ 8 ∧ ttlBytes.toNat ≤ INT32_MAX then (ttlBytes.toNat : Int) else -1)
    else if msg.length < 25 then none
    else if getUint8 msg.body 4 ≠ 6 then none
    else
      let ttlBytes := getUint32 msg.body 21
      some (.ipv6 (In6Addr.ofBytes msg.body 5),
        if ttlBytes.toNat ≤ INT32_MAX then (ttlBytes.toNat : Int) else -1)

/-! ## Addresses in payloads -/

/-- `append_address_to_payload`: the bytes it writes at `payload_out` and what it returns, `-1`
    with nothing written for an address of neither family. The IPv4 word goes out in network
    order (`tor_addr_to_ipv4n`), an IPv6 address as its sixteen bytes. -/
def appendAddressToPayload : TorAddr → List UInt8 × Int
  | .ipv4 a => ([RESOLVED_TYPE_IPV4, 4] ++ setUint32 a, 6)
  | .ipv6 a => ([RESOLVED_TYPE_IPV6, 16] ++ a.bytes, 18)
  | .unspec => ([], -1)

/-- `decode_address_from_payload`: the address it stores at `addr_out` and the offset of the byte
    after it that it returns, or `none` for `NULL` (with `addr_out` untouched). A record of
    another type decodes as `AF_UNSPEC` and is skipped. -/
def decodeAddressFromPayload (payload : List UInt8) (payloadLen : Int) :
    Option (TorAddr × Nat) :=
  if payloadLen < 2 then none
  else if payloadLen < 2 + (getUint8 payload 1).toNat then none
  else if getUint8 payload 0 = RESOLVED_TYPE_IPV4 then
    if getUint8 payload 1 ≠ 4 then none
    else some (.ipv4 (getUint32 payload 2), 2 + (getUint8 payload 1).toNat)
  else if getUint8 payload 0 = RESOLVED_TYPE_IPV6 then
    if getUint8 payload 1 ≠ 16 then none
    else some (.ipv6 (In6Addr.ofBytes payload 2), 2 + (getUint8 payload 1).toNat)
  else some (.unspec, 2 + (getUint8 payload 1).toNat)

/-- The first `2 + n` bytes of a buffer that holds them: its type and length bytes, then `n`
    bytes from offset 2. -/
theorem take_two_add {p : List UInt8} {n : Nat} (h : 2 + n ≤ p.length) :
    p.take (2 + n) = [getUint8 p 0, getUint8 p 1] ++ bytesAt p 2 n := by
  rcases p with _ | ⟨b₀, _ | ⟨b₁, rest⟩⟩
  · simp at h
  · simp at h; omega
  · simp only [List.length_cons] at h
    rw [bytesAt_eq_take_drop _ (by simp; omega), Nat.add_comm]
    rfl

/-- **Encoding, then decoding.** The bytes `append_address_to_payload` writes for an IPv4 or IPv6
    address, followed by anything, decode to that address under every `payload_len` of at least
    the returned length, and the decoder returns the byte after them. -/
theorem decodeAddressFromPayload_append {a : TorAddr} (ha : a ≠ .unspec) (rest : List UInt8)
    {payloadLen : Int} (hlen : (appendAddressToPayload a).2 ≤ payloadLen) :
    decodeAddressFromPayload ((appendAddressToPayload a).1 ++ rest) payloadLen =
      some (a, (appendAddressToPayload a).2.toNat) := by
  cases a with
  | unspec => exact absurd rfl ha
  | ipv4 a =>
    simp only [appendAddressToPayload] at hlen ⊢
    have h0 : getUint8 ([RESOLVED_TYPE_IPV4, 4] ++ setUint32 a ++ rest) 0 = RESOLVED_TYPE_IPV4 :=
      rfl
    have h1 : getUint8 ([RESOLVED_TYPE_IPV4, 4] ++ setUint32 a ++ rest) 1 = 4 := rfl
    rw [decodeAddressFromPayload, if_neg (by omega), h1, if_neg (by exact not_lt.2 hlen),
      if_pos h0, if_neg (not_not.2 rfl),
      show getUint32 ([RESOLVED_TYPE_IPV4, 4] ++ setUint32 a ++ rest) 2 = a from
        getUint32_setUint32_at [RESOLVED_TYPE_IPV4, 4] a rest]
    rfl
  | ipv6 a =>
    simp only [appendAddressToPayload] at hlen ⊢
    have h0 : getUint8 ([RESOLVED_TYPE_IPV6, 16] ++ a.bytes ++ rest) 0 = RESOLVED_TYPE_IPV6 :=
      rfl
    have h1 : getUint8 ([RESOLVED_TYPE_IPV6, 16] ++ a.bytes ++ rest) 1 = 16 := rfl
    rw [decodeAddressFromPayload, if_neg (by omega), h1, if_neg (by exact not_lt.2 hlen),
      if_neg (by rw [h0]; decide), if_pos h0, if_neg (not_not.2 rfl),
      show In6Addr.ofBytes ([RESOLVED_TYPE_IPV6, 16] ++ a.bytes ++ rest) 2 = a from
        In6Addr.ofBytes_append [RESOLVED_TYPE_IPV6, 16] a rest]
    rfl

/-- **Decoding, then encoding.** A buffer of `payload_len` bytes that starts with an IPv4 record
    of length 4 or an IPv6 record of length 16 decodes, and encoding the address writes the
    record's `2 + length` bytes back. -/
theorem appendAddressToPayload_decode {p : List UInt8} {payloadLen : Int}
    (hp : payloadLen ≤ p.length) (hlen : 2 + (getUint8 p 1).toNat ≤ payloadLen)
    (ht : getUint8 p 0 = RESOLVED_TYPE_IPV4 ∧ getUint8 p 1 = 4 ∨
      getUint8 p 0 = RESOLVED_TYPE_IPV6 ∧ getUint8 p 1 = 16) :
    ∃ a, decodeAddressFromPayload p payloadLen = some (a, 2 + (getUint8 p 1).toNat) ∧
      appendAddressToPayload a =
        (p.take (2 + (getUint8 p 1).toNat), ((2 + (getUint8 p 1).toNat : Nat) : Int)) := by
  have htake := take_two_add (p := p) (n := (getUint8 p 1).toNat) (by omega)
  rw [decodeAddressFromPayload, if_neg (by omega), if_neg (by omega), htake]
  rcases ht with ⟨h0, h1⟩ | ⟨h0, h1⟩
  · refine ⟨.ipv4 (getUint32 p 2), by rw [if_pos h0, if_neg (not_not.2 h1)], ?_⟩
    rw [h0, h1, appendAddressToPayload, setUint32_getUint32]
    rfl
  · refine ⟨.ipv6 (In6Addr.ofBytes p 2),
      by rw [if_neg (by rw [h0]; decide), if_pos h0, if_neg (not_not.2 h1)], ?_⟩
    rw [h0, h1]
    rfl

/-- **`append_address_to_payload` and `decode_address_from_payload` are inverse**, in both
    directions: on every IPv4 and IPv6 address, and on every IPv4 or IPv6 record of the right
    length. -/
theorem addressPayload_inverse :
    (∀ a : TorAddr, a ≠ .unspec → ∀ (rest : List UInt8) (payloadLen : Int),
      (appendAddressToPayload a).2 ≤ payloadLen →
      decodeAddressFromPayload ((appendAddressToPayload a).1 ++ rest) payloadLen =
        some (a, (appendAddressToPayload a).2.toNat)) ∧
    ∀ (p : List UInt8) (payloadLen : Int), payloadLen ≤ p.length →
      2 + (getUint8 p 1).toNat ≤ payloadLen →
      (getUint8 p 0 = RESOLVED_TYPE_IPV4 ∧ getUint8 p 1 = 4 ∨
        getUint8 p 0 = RESOLVED_TYPE_IPV6 ∧ getUint8 p 1 = 16) →
      ∃ a, decodeAddressFromPayload p payloadLen = some (a, 2 + (getUint8 p 1).toNat) ∧
        appendAddressToPayload a =
          (p.take (2 + (getUint8 p 1).toNat), ((2 + (getUint8 p 1).toNat : Nat) : Int)) :=
  ⟨fun _ ha rest _ hlen => decodeAddressFromPayload_append ha rest hlen,
    fun _ _ hp hlen ht => appendAddressToPayload_decode hp hlen ht⟩

/-- `127.0.0.1` goes out most significant byte first. -/
example : appendAddressToPayload (.ipv4 0x7f000001) = ([4, 4, 127, 0, 0, 1], 6) := by decide

end TorCore
