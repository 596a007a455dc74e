import TorCore.Relay.Resolved

/-!
# `TorCore.Relay.ResolvedGrammar` — the bodies `resolved_cell_parse` accepts

The RESOLVED grammar of the spec, as data: a body is a sequence of records
`type(1) len(1) value(len) ttl(4)`, in which an IPv4 record has four bytes of value, an IPv6 record
sixteen and a hostname record at least one. Its answers are its address and hostname records in
order, and its error code is the type of its last error record when it has no answer.

`resolvedCellParseLoop` is compared with the grammar through one lemma about one iteration,
`loop_step`: whatever branch the loop takes, the two `tor_assert` outcomes included, it either
rejects the record `recordAt cp` its header announces or consumes exactly that record. The loop
lemmas are then inductions on `remaining` or on the list of records.

## Contents
- **The grammar.** `ResolvedRecord`, its `bytes`, `Valid`, `answer`; `recordAnswers`,
  `recordsErrcode`.
- **One iteration.** `recordAt`, `recordAt_append`, `loop_step`.
- **The loop.** `loop_take` (it reads only the first `remaining` bytes), `loop_ne_assertion`,
  `loop_sound`, `loop_complete`.
- **`resolved_cell_parse`.** `resolvedCellParseOut` with its out-parameters, and
  `resolvedCellParse_grammar`.
-/

namespace TorCore

/-! ## The grammar -/

/-- One record of a RESOLVED body: `type(1) len(1) value(len) ttl(4)`. -/
@[ext] structure ResolvedRecord where
  type : UInt8
  value : List UInt8
  ttl : List UInt8
  value_lt : value.length < 256
  ttl_length : ttl.length = 4

namespace ResolvedRecord

/-- The bytes of a record. -/
def bytes (r : ResolvedRecord) : List UInt8 :=
  r.type :: UInt8.ofNat r.value.length :: (r.value ++ r.ttl)

@[simp] theorem bytes_length (r : ResolvedRecord) : r.bytes.length = r.value.length + 6 := by
  simp [bytes, r.ttl_length]

/-- The length constraints of the grammar: four bytes for IPv4, sixteen for IPv6, at least one
    for a hostname; any length for the other types. -/
def Valid (r : ResolvedRecord) : Prop :=
  (r.type = RESOLVED_TYPE_IPV4 → r.value.length = 4) ∧
    (r.type = RESOLVED_TYPE_IPV6 → r.value.length = 16) ∧
    (r.type = RESOLVED_TYPE_HOSTNAME → r.value.length ≠ 0)

instance (r : ResolvedRecord) : Decidable r.Valid := inferInstanceAs (Decidable (_ ∧ _ ∧ _))

/-- An `ERROR` or `ERROR_TRANSIENT` record. -/
def IsError (r : ResolvedRecord) : Prop :=
  r.type = RESOLVED_TYPE_ERROR_TRANSIENT ∨ r.type = RESOLVED_TYPE_ERROR

instance (r : ResolvedRecord) : Decidable r.IsError := inferInstanceAs (Decidable (_ ∨ _))

/-- The answer a record gives: an IPv4 or IPv6 address, or a hostname, each with its TTL. -/
def answer (r : ResolvedRecord) : Option AddressTtl :=
  if r.type = RESOLVED_TYPE_IPV4 then some ⟨.ipv4 (getUint32 r.value 0), none, getUint32 r.ttl 0⟩
  else if r.type = RESOLVED_TYPE_IPV6 then
    some ⟨.ipv6 (In6Addr.ofBytes r.value 0), none, getUint32 r.ttl 0⟩
  else if r.type = RESOLVED_TYPE_HOSTNAME then some ⟨.unspec, some r.value, getUint32 r.ttl 0⟩
  else none

end ResolvedRecord

/-- The answers of a sequence of records, in order. -/
def recordAnswers (recs : List ResolvedRecord) : List AddressTtl :=
  recs.filterMap ResolvedRecord.answer

/-- The type of the last error record of `recs`, or `e` when there is none. -/
def lastErrorType (e : UInt8) : List ResolvedRecord → UInt8
  | [] => e
  | r :: recs => lastErrorType (if r.IsError then r.type else e) recs

/-- The error code a sequence of records reports: the type of its last error record if it has
    no answer, `0` otherwise. -/
def recordsErrcode (recs : List ResolvedRecord) : UInt8 :=
  if recordAnswers recs = [] then lastErrorType 0 recs else 0

/-! ## One iteration -/

/-- The record the header at the start of `cp` announces: its type, the `len` bytes after the
    header and the four bytes after them. -/
def recordAt (cp : List UInt8) : ResolvedRecord :=
  ⟨getUint8 cp 0, bytesAt cp 2 (getUint8 cp 1).toNat, bytesAt cp (2 + (getUint8 cp 1).toNat) 4,
    by simpa using UInt8.toNat_lt_size (getUint8 cp 1), bytesAt_length _ _ _⟩

@[simp] theorem recordAt_type (cp : List UInt8) : (recordAt cp).type = getUint8 cp 0 := rfl
@[simp] theorem recordAt_value (cp : List UInt8) :
    (recordAt cp).value = bytesAt cp 2 (getUint8 cp 1).toNat := rfl
@[simp] theorem recordAt_ttl (cp : List UInt8) :
    (recordAt cp).ttl = bytesAt cp (2 + (getUint8 cp 1).toNat) 4 := rfl

theorem recordAt_bytes_length (cp : List UInt8) :
    (recordAt cp).bytes.length = 2 + (getUint8 cp 1).toNat + 4 := by
  simp; omega

theorem uint8_ofNat_toNat (x : UInt8) : UInt8.ofNat x.toNat = x := by
  apply UInt8.toNat.inj
  have := UInt8.toNat_lt_size x
  simp only [UInt8.toNat, UInt8.ofNat, BitVec.toNat_ofNat] at *
  omega

/-- A record's header announces the record. -/
theorem recordAt_append (r : ResolvedRecord) (rest : List UInt8) :
    recordAt (r.bytes ++ rest) = r := by
  have hlen : (getUint8 (r.bytes ++ rest) 1).toNat = r.value.length := by
    show (UInt8.ofNat r.value.length).toNat = r.value.length
    simp only [UInt8.toNat, UInt8.ofNat, BitVec.toNat_ofNat]
    have := r.value_lt
    omega
  have hb : r.bytes ++ rest =
      ([r.type, UInt8.ofNat r.value.length] ++ r.value) ++ (r.ttl ++ rest) := by
    simp [ResolvedRecord.bytes]
  have hl : ([r.type, UInt8.ofNat r.value.length] ++ r.value).length = 2 + r.value.length := by
    simp; omega
  ext1
  · rfl
  · rw [recordAt_value, hlen, hb, List.append_assoc]; exact bytesAt_append _ _ _
  · rw [recordAt_ttl, hlen, hb, bytesAt_eq_take_drop _ (by simp [r.ttl_length]; omega), ← hl,
      List.drop_left, List.take_left' r.ttl_length]

/-- **One iteration of the loop**: a record running past `remaining` or breaking the length
    constraints is rejected; otherwise the loop goes on after it, having kept its answer and, for
    an error record, its type. No `tor_assert` branch is taken. -/
theorem loop_step (cp : List UInt8) {remaining : Nat} (h0 : remaining ≠ 0)
    (addrs : List AddressTtl) (e : UInt8) :
    resolvedCellParseLoop cp remaining addrs e =
      if remaining < (recordAt cp).bytes.length ∨ ¬(recordAt cp).Valid then .error .malformed
      else resolvedCellParseLoop (cp.drop (recordAt cp).bytes.length)
        (remaining - (recordAt cp).bytes.length) (addrs ++ (recordAt cp).answer.toList)
        (if (recordAt cp).IsError then (recordAt cp).type else e) := by
  have hlen := recordAt_bytes_length cp
  rw [resolvedCellParseLoop, dif_neg h0]
  by_cases hr : remaining < 2 + (getUint8 cp 1).toNat + 4
  · rw [if_pos (Or.inl (hlen ▸ hr))]
    by_cases h2 : remaining < 2
    · rw [if_pos h2]
    · rw [if_neg h2]; exact if_pos hr
  rw [if_neg (show ¬remaining < 2 by omega)]
  simp only [if_neg hr, hlen, hr, false_or, ResolvedRecord.Valid, ResolvedRecord.IsError,
    ResolvedRecord.answer, recordAt_type, recordAt_value, recordAt_ttl, bytesAt_length,
    if_false]
  by_cases h4 : getUint8 cp 0 = RESOLVED_TYPE_IPV4
  · by_cases hl : (getUint8 cp 1).toNat = 4
    · simp +decide [h4, hl, getUint32_bytesAt, show ¬remaining < 10 by omega]
    · simp [h4, hl]
  by_cases h6 : getUint8 cp 0 = RESOLVED_TYPE_IPV6
  · by_cases hl : (getUint8 cp 1).toNat = 16
    · simp +decide [h6, hl, getUint32_bytesAt, In6Addr.ofBytes, bytesAt_bytesAt,
        show ¬remaining < 22 by omega]
    · simp +decide [h6, hl]
  by_cases h0 : getUint8 cp 0 = RESOLVED_TYPE_HOSTNAME
  · by_cases hl : (getUint8 cp 1).toNat = 0
    · simp +decide [h0, hl]
    · simp +decide [h0, hl, getUint32_bytesAt]
  simp only [h4, h6, h0, if_false, false_implies, and_self, not_true_eq_false,
    Option.toList_none, List.append_nil]
  by_cases he : getUint8 cp 0 = RESOLVED_TYPE_ERROR_TRANSIENT ∨ getUint8 cp 0 = RESOLVED_TYPE_ERROR
  · rw [if_pos he, if_pos he]
  · rw [if_neg he, if_neg he]

/-! ## The loop -/

@[simp] theorem recordAnswers_nil : recordAnswers [] = [] := rfl

theorem recordAnswers_cons (r : ResolvedRecord) (recs : List ResolvedRecord) :
    recordAnswers (r :: recs) = r.answer.toList ++ recordAnswers recs := by
  simp only [recordAnswers, List.filterMap_cons]
  cases r.answer <;> rfl

/-- Past its first two bytes, the record read from a prefix of at least its length is the record
    read from the whole buffer; below them, both are longer than the prefix. -/
theorem recordAt_take {cp : List UInt8} {n : Nat} (h : (recordAt cp).bytes.length ≤ n) :
    recordAt (cp.take n) = recordAt cp := by
  rw [recordAt_bytes_length] at h
  have h1 : getUint8 (cp.take n) 1 = getUint8 cp 1 := getUint8_take cp (by omega)
  ext1
  · exact getUint8_take cp (by omega)
  · rw [recordAt_value, recordAt_value, h1, bytesAt_take cp (by omega)]
  · rw [recordAt_ttl, recordAt_ttl, h1, bytesAt_take cp (by omega)]

theorem lt_recordAt_take_iff (cp : List UInt8) (n : Nat) :
    n < (recordAt (cp.take n)).bytes.length ↔ n < (recordAt cp).bytes.length := by
  rw [recordAt_bytes_length, recordAt_bytes_length]
  by_cases h : n < 2
  · omega
  · rw [getUint8_take cp (show 1 < n by omega)]

/-- **The loop reads only the first `remaining` bytes.** -/
theorem loop_take (cp : List UInt8) (remaining : Nat) (addrs : List AddressTtl) (e : UInt8) :
    resolvedCellParseLoop (cp.take remaining) remaining addrs e =
      resolvedCellParseLoop cp remaining addrs e := by
  induction remaining using Nat.strong_induction_on generalizing cp addrs e with
  | _ n ih =>
  rcases Nat.eq_zero_or_pos n with rfl | hpos
  · simp only [loop_zero]
  rw [loop_step _ hpos.ne', loop_step _ hpos.ne']
  by_cases hlt : n < (recordAt cp).bytes.length
  · rw [if_pos (Or.inl hlt), if_pos (Or.inl ((lt_recordAt_take_iff cp n).2 hlt))]
  have hlen := recordAt_bytes_length cp
  rw [recordAt_take (not_lt.1 hlt), List.drop_take, ih _ (by omega)]

/-- The `tor_assert` at the bottom of the loop never fails. -/
theorem loop_ne_assertion (cp : List UInt8) (remaining : Nat) (addrs : List AddressTtl)
    (e : UInt8) : resolvedCellParseLoop cp remaining addrs e ≠ .error .assertion := by
  induction remaining using Nat.strong_induction_on generalizing cp addrs e with
  | _ n ih =>
  rcases Nat.eq_zero_or_pos n with rfl | hpos
  · simp [loop_zero]
  have hlen := recordAt_bytes_length cp
  rw [loop_step _ hpos.ne']
  by_cases hc : n < (recordAt cp).bytes.length ∨ ¬(recordAt cp).Valid
  · rw [if_pos hc]; intro h; cases h
  · rw [if_neg hc]; exact ih _ (by omega) _ _ _

/-- A record that fits in the buffer is the buffer's first bytes. -/
theorem recordAt_bytes_eq_take {cp : List UInt8} (h : (recordAt cp).bytes.length ≤ cp.length) :
    (recordAt cp).bytes = cp.take (recordAt cp).bytes.length := by
  rw [recordAt_bytes_length] at h ⊢
  match cp, h with
  | a :: b :: tl, h =>
    have h0 : getUint8 (a :: b :: tl) 0 = a := rfl
    have h1 : getUint8 (a :: b :: tl) 1 = b := rfl
    simp only [List.length_cons, h1] at h
    simp only [ResolvedRecord.bytes, recordAt_type, recordAt_value, recordAt_ttl, h0, h1,
      bytesAt_length]
    rw [bytesAt_eq_take_drop _ (by simp; omega), bytesAt_eq_take_drop _ (by simp; omega),
      uint8_ofNat_toNat, show 2 + b.toNat = b.toNat + 1 + 1 by omega]
    simp [List.take_add]

/-- **Soundness of the loop**: a body it consumes to the end with no error is a sequence of
    records that meet the grammar's constraints, and the loop keeps their answers and last error
    type. -/
theorem loop_sound (cp : List UInt8) (addrs : List AddressTtl) (e : UInt8)
    {a : List AddressTtl} {e' : UInt8} (h : resolvedCellParseLoop cp cp.length addrs e = .ok (a, e')) :
    ∃ recs : List ResolvedRecord, cp = (recs.map ResolvedRecord.bytes).flatten ∧
      (∀ r ∈ recs, r.Valid) ∧ a = addrs ++ recordAnswers recs ∧ e' = lastErrorType e recs := by
  obtain ⟨n, hn⟩ : ∃ n, cp.length = n := ⟨_, rfl⟩
  induction n using Nat.strong_induction_on generalizing cp addrs e with
  | _ n ih =>
  rw [hn] at h
  rcases Nat.eq_zero_or_pos n with rfl | hpos
  · rw [loop_zero] at h
    cases h
    exact ⟨[], List.eq_nil_of_length_eq_zero hn, by simp, by simp, rfl⟩
  have hlen := recordAt_bytes_length cp
  rw [loop_step _ hpos.ne'] at h
  by_cases hc : n < (recordAt cp).bytes.length ∨ ¬(recordAt cp).Valid
  · rw [if_pos hc] at h; cases h
  rw [if_neg hc] at h
  obtain ⟨hle, hv⟩ := not_or.1 hc
  have hd : (cp.drop (recordAt cp).bytes.length).length = n - (recordAt cp).bytes.length := by
    simp [hn]
  obtain ⟨recs, hcp, hvs, ha, he⟩ :=
    ih (n - (recordAt cp).bytes.length) (by omega) _ _ _ (by rw [hd]; exact h) hd
  refine ⟨recordAt cp :: recs, ?_, ?_, ?_, he⟩
  · rw [List.map_cons, List.flatten_cons, ← hcp]
    calc cp = cp.take (recordAt cp).bytes.length ++ cp.drop (recordAt cp).bytes.length :=
          (List.take_append_drop _ _).symm
      _ = _ := by rw [← recordAt_bytes_eq_take (by omega)]
  · exact List.forall_mem_cons.2 ⟨not_not.1 hv, hvs⟩
  · rw [ha, recordAnswers_cons, List.append_assoc]

/-- **Completeness of the loop**: a sequence of records that meet the grammar's constraints is
    consumed record by record, whatever follows it. -/
theorem loop_complete (recs : List ResolvedRecord) (hv : ∀ r ∈ recs, r.Valid)
    (rest : List UInt8) (addrs : List AddressTtl) (e : UInt8) :
    resolvedCellParseLoop ((recs.map ResolvedRecord.bytes).flatten ++ rest)
        (recs.map ResolvedRecord.bytes).flatten.length addrs e =
      .ok (addrs ++ recordAnswers recs, lastErrorType e recs) := by
  induction recs generalizing addrs e with
  | nil => simp [loop_zero, lastErrorType]
  | cons r recs ih =>
    have hr : recordAt (((r :: recs).map ResolvedRecord.bytes).flatten ++ rest) = r := by
      rw [List.map_cons, List.flatten_cons, List.append_assoc, recordAt_append]
    rw [loop_step _ (by simp), hr, if_neg (by simp [hv r (by simp)]),
      List.map_cons, List.flatten_cons, List.append_assoc, List.drop_left, List.length_append,
      Nat.add_sub_cancel_left, ih (fun r' h' => hv r' (by simp [h'])), recordAnswers_cons, List.append_assoc]
    simp [lastErrorType]

/-! ## `resolved_cell_parse` -/

/-- `resolved_cell_parse` with its out-parameters: what it returns, what `addresses_out` holds
    after the call (`smartlist_add_all` on success only) and `*errcode_out` (zeroed on entry);
    `none` when its `tor_assert` aborts. -/
def resolvedCellParseOut (msg : RelayMsg) (addressesOut : List AddressTtl) :
    Option (Int × List AddressTtl × UInt8) :=
  match resolvedCellParse msg with
  | .ok (addrs, errcode) => some (0, addressesOut ++ addrs, errcode)
  | .error .malformed => some (-1, addressesOut, 0)
  | .error .assertion => none

theorem reportErrcode_records (recs : List ResolvedRecord) :
    reportErrcode (recordAnswers recs, lastErrorType 0 recs) =
      (recordAnswers recs, recordsErrcode recs) := by
  simp only [reportErrcode, recordsErrcode, Prod.mk.injEq, true_and]
  by_cases h : recordAnswers recs = [] <;> by_cases h0 : lastErrorType 0 recs = 0 <;> simp [h, h0]

/-- Within the size limit, the parse runs the loop on the first `msg.length` bytes alone. -/
theorem resolvedCellParse_take {msg : RelayMsg} (h : msg.length ≤ RELAY_PAYLOAD_SIZE_MAX) :
    resolvedCellParse msg =
      (resolvedCellParseLoop (msg.body.take msg.length) msg.length [] 0).map reportErrcode := by
  rw [resolvedCellParse, if_neg (not_lt.2 h), loop_take]

theorem take_length (msg : RelayMsg) : (msg.body.take msg.length).length = msg.length := by
  simp [msg.length_le]

/-- **`resolved_cell_parse` accepts exactly the RESOLVED grammar.** Within the size limit the
    result depends only on the first `msg.length` bytes: well-formed records are accepted with
    their answers in order, and anything else is refused with `*errcode_out = 0`. -/
theorem resolvedCellParse_grammar (msg : RelayMsg) (out : List AddressTtl) :
    (RELAY_PAYLOAD_SIZE_MAX < msg.length → resolvedCellParseOut msg out = some (-1, out, 0)) ∧
    resolvedCellParse msg ≠ .error .assertion ∧
    (∀ msg' : RelayMsg, msg'.length = msg.length →
      msg'.body.take msg'.length = msg.body.take msg.length →
      resolvedCellParseOut msg' out = resolvedCellParseOut msg out) ∧
    (∀ recs : List ResolvedRecord, msg.length ≤ RELAY_PAYLOAD_SIZE_MAX →
      msg.body.take msg.length = (recs.map ResolvedRecord.bytes).flatten →
      (∀ r ∈ recs, r.Valid) →
      resolvedCellParseOut msg out = some (0, out ++ recordAnswers recs, recordsErrcode recs)) ∧
    (msg.length ≤ RELAY_PAYLOAD_SIZE_MAX →
      (¬∃ recs : List ResolvedRecord, msg.body.take msg.length =
        (recs.map ResolvedRecord.bytes).flatten ∧ ∀ r ∈ recs, r.Valid) →
      resolvedCellParseOut msg out = some (-1, out, 0)) := by
  refine ⟨fun h => by simp [resolvedCellParseOut, resolvedCellParse, h], ?_, ?_, ?_, ?_⟩
  · -- the assertion
    by_cases h : msg.length ≤ RELAY_PAYLOAD_SIZE_MAX
    · rw [resolvedCellParse_take h]
      cases hl : resolvedCellParseLoop (msg.body.take msg.length) msg.length [] 0 with
      | ok r => intro h'; cases h'
      | error f =>
        cases f
        · intro h'; cases h'
        · exact absurd hl (loop_ne_assertion _ _ _ _)
    · simp [resolvedCellParse, not_le.1 h]
  · -- reads below `msg.length` only
    intro msg' hl ht
    have : resolvedCellParse msg' = resolvedCellParse msg := by
      rw [resolvedCellParse, resolvedCellParse, ← loop_take msg'.body, ← loop_take msg.body, ht,
        hl]
    simp only [resolvedCellParseOut, this]
  · -- acceptance
    intro recs h hb hv
    have := loop_complete recs hv [] [] 0
    rw [List.append_nil, ← hb, take_length] at this
    simp [resolvedCellParseOut, resolvedCellParse_take h, this, Except.map,
      reportErrcode_records]
  · -- rejection
    intro h hno
    rw [resolvedCellParseOut, resolvedCellParse_take h]
    cases hl : resolvedCellParseLoop (msg.body.take msg.length) msg.length [] 0 with
    | ok r =>
      obtain ⟨recs, hcp, hv, -⟩ := loop_sound _ [] 0 (by rw [take_length, hl])
      exact absurd ⟨recs, hcp, hv⟩ hno
    | error f =>
      cases f
      · rfl
      · exact absurd hl (loop_ne_assertion _ _ _ _)

end TorCore
