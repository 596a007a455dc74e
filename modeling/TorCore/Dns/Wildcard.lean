import TorCore.Dns.Resolve

/-!
# `TorCore.Dns.Wildcard` — detecting a nameserver that hijacks failures

To learn whether its nameserver answers for names that do not exist, `dns.c` resolves random names
(`launch_wildcard_check`). `evdns_wildcard_check_callback` counts every answer of a successful A or
AAAA response in `dns_wildcard_response_count`. `wildcard_increment_answer` puts an answer on
`dns_wildcard_list` when, at that count, it has been counted more than 5 times and more than 10
callbacks have run. `evdns_callback` then treats a resolve whose first address is on the list as a
failure.

An answer is the string `tor_inet_ntoa` (A) or `tor_inet_ntop` (AAAA) prints for it; printing a
valid address does not fail, and `evdns_callback` prints the first address the same way. The log
lines and the control events change nothing the checks read.

- `wildcardList_threshold`: from the state `dns_reset_correctness_checks` leaves, after any run of
  callbacks, an answer is on the list iff `Wildcarded`: some callback, preceded by at least 10
  others, counted it, and by the end of that callback it had been counted more than 5 times. Then
  `evdns_callback` turns a successful A or AAAA answer whose first address it is into
  `DNS_ERR_NOTEXIST`.
- `wildcardList_counterexample`: ten callbacks each answering one address leave the list empty;
  one callback answering an address six times, after ten failed ones, puts it on the list.
-/

namespace TorCore

/-! ## The code -/

/-- The wildcard-check state of `dns.c`: `n_wildcard_requests`, `dns_wildcard_response_count` (an
    answer not in the map counts `0`), and `dns_wildcard_list`. -/
structure WildcardState where
  nWildcardRequests : Nat
  responseCount : String → Nat
  wildcardList : List String

/-- The state `dns_reset_correctness_checks` leaves. -/
def WildcardState.reset : WildcardState := ⟨0, fun _ => 0, []⟩

/-- `wildcard_increment_answer (id)`. -/
def wildcardIncrementAnswer (st : WildcardState) (id : String) : WildcardState :=
  let ip := st.responseCount id + 1
  let st := { st with responseCount := Function.update st.responseCount id ip }
  if ip > 5 ∧ st.nWildcardRequests > 10 then
    if id ∈ st.wildcardList then st else { st with wildcardList := st.wildcardList ++ [id] }
  else st

/-- The arguments of `evdns_wildcard_check_callback`: `result`, `type`, and the `count` addresses,
    as `tor_inet_ntoa` or `tor_inet_ntop` prints them. -/
structure WildcardAnswer where
  result : Int
  type : QueryType
  answers : List String

/-- `evdns_wildcard_check_callback (result, type, count, ttl, addresses, arg)`. -/
def evdnsWildcardCheckCallback (st : WildcardState) (a : WildcardAnswer) : WildcardState :=
  let st := { st with nWildcardRequests := st.nWildcardRequests + 1 }
  if a.result = DNS_ERR_NONE ∧ a.answers ≠ [] then
    match a.type with
    | .ipv4A | .ipv6AAAA => a.answers.foldl wildcardIncrementAnswer st
    | .ptr => st
  else st

/-- A run of callbacks from the state `dns_reset_correctness_checks` leaves. -/
def wildcardRun (cs : List WildcardAnswer) : WildcardState :=
  cs.foldl evdnsWildcardCheckCallback .reset

/-- `answer_is_wildcarded (ip)`. -/
def answerIsWildcarded (st : WildcardState) (ip : String) : Bool := ip ∈ st.wildcardList

/-- `DNS_ERR_NOTEXIST` of `evdns.h`. -/
def DNS_ERR_NOTEXIST : Int := 3

/-- The `result` `evdns_callback` passes on to `dns_found_answer`: a successful A or AAAA answer
    whose first address is wildcarded becomes `DNS_ERR_NOTEXIST`. -/
def evdnsCallbackResult (st : WildcardState) (result : Int) (type : QueryType)
    (answers : List String) : Int :=
  if result = DNS_ERR_NONE then
    match type, answers with
    | .ipv4A, a :: _ | .ipv6AAAA, a :: _ =>
      if answerIsWildcarded st a then DNS_ERR_NOTEXIST else result
    | _, _ => result
  else result

/-! ## What a callback counts -/

/-- The answers a callback counts: all of them, for a successful A or AAAA response. -/
def countedAnswers (a : WildcardAnswer) : List String :=
  if a.result = DNS_ERR_NONE ∧ a.type ≠ .ptr then a.answers else []

/-- An answer put on the list by a run: some callback, preceded by at least 10 others, counted
    `X`, and by the end of that callback `X` had been counted more than 5 times. -/
def Wildcarded (cs : List WildcardAnswer) (X : String) : Prop :=
  ∃ pre c post, cs = pre ++ c :: post ∧ 10 ≤ pre.length ∧ X ∈ countedAnswers c ∧
    5 < ((pre ++ [c]).flatMap countedAnswers).count X

/-- One increment counts `id` once more, and puts `X` on the list iff `X` is `id` counted more
    than 5 times after more than 10 callbacks. -/
theorem wildcardIncrementAnswer_spec (st : WildcardState) (id X : String) :
    (wildcardIncrementAnswer st id).nWildcardRequests = st.nWildcardRequests ∧
      (wildcardIncrementAnswer st id).responseCount X = st.responseCount X + [id].count X ∧
      (X ∈ (wildcardIncrementAnswer st id).wildcardList ↔ X ∈ st.wildcardList ∨
        (X = id ∧ 5 < st.responseCount X + 1 ∧ 10 < st.nWildcardRequests)) := by
  have hc : Function.update st.responseCount id (st.responseCount id + 1) X =
      st.responseCount X + [id].count X := by
    by_cases h : X = id
    · subst h; simp
    · simp [Function.update_noteq h, List.count_singleton, Ne.symm h]
  unfold wildcardIncrementAnswer
  dsimp only
  split_ifs with h₁ h₂
  · refine ⟨rfl, hc, ⟨Or.inl, ?_⟩⟩
    rintro (h | ⟨rfl, -⟩) <;> assumption
  · refine ⟨rfl, hc, ?_⟩
    simp only [List.mem_append, List.mem_singleton]
    constructor
    · rintro (h | rfl) <;> [exact .inl h; exact .inr ⟨rfl, by omega, h₁.2⟩]
    · rintro (h | ⟨rfl, -⟩) <;> [exact .inl h; exact .inr rfl]
  · refine ⟨rfl, hc, ⟨Or.inl, ?_⟩⟩
    rintro (h | ⟨rfl, h₂, h₃⟩)
    · exact h
    · exact absurd ⟨h₂, h₃⟩ h₁

/-- The increments of one callback, in turn. -/
theorem foldl_wildcardIncrementAnswer (X : String) : ∀ (answers : List String)
    (st : WildcardState),
    (answers.foldl wildcardIncrementAnswer st).nWildcardRequests = st.nWildcardRequests ∧
      (answers.foldl wildcardIncrementAnswer st).responseCount X =
        st.responseCount X + answers.count X ∧
      (X ∈ (answers.foldl wildcardIncrementAnswer st).wildcardList ↔ X ∈ st.wildcardList ∨
        (X ∈ answers ∧ 5 < st.responseCount X + answers.count X ∧ 10 < st.nWildcardRequests))
  | [], st => ⟨rfl, rfl, by simp⟩
  | a :: as, st => by
    obtain ⟨hn₁, hc₁, hm₁⟩ := wildcardIncrementAnswer_spec st a X
    obtain ⟨hn, hc, hm⟩ := foldl_wildcardIncrementAnswer X as (wildcardIncrementAnswer st a)
    have hcount : (a :: as).count X = [a].count X + as.count X := by
      simp only [List.count_cons, List.count_singleton, List.count_nil]
      omega
    simp only [List.foldl_cons]
    refine ⟨hn.trans hn₁, by rw [hc, hc₁, hcount]; omega, ?_⟩
    rw [hm, hm₁, hc₁, hn₁, hcount]
    by_cases h : X = a
    · -- the increment of `X` itself: the last one of the callback counts
      subst h
      have h1 : [X].count X = 1 := by simp
      have hpos := @List.count_pos_iff _ _ _ X as
      rw [h1]
      constructor
      · rintro ((h | h) | h)
        · exact .inl h
        all_goals exact .inr ⟨List.mem_cons_self _ _, by omega, h.2.2⟩
      · rintro (h | ⟨-, h₅, h₁₀⟩)
        · exact .inl (.inl h)
        · by_cases hz : as.count X = 0
          · exact .inl (.inr ⟨rfl, by omega, h₁₀⟩)
          · exact .inr ⟨hpos.1 (by omega), by omega, h₁₀⟩
    · have h0 : [a].count X = 0 := by simp [List.count_singleton, Ne.symm h]
      rw [h0]
      simp [h]

/-- A callback counts its counted answers and runs the increments after counting itself. -/
theorem evdnsWildcardCheckCallback_spec (st : WildcardState) (a : WildcardAnswer) (X : String) :
    (evdnsWildcardCheckCallback st a).nWildcardRequests = st.nWildcardRequests + 1 ∧
      (evdnsWildcardCheckCallback st a).responseCount X =
        st.responseCount X + (countedAnswers a).count X ∧
      (X ∈ (evdnsWildcardCheckCallback st a).wildcardList ↔ X ∈ st.wildcardList ∨
        (X ∈ countedAnswers a ∧ 5 < st.responseCount X + (countedAnswers a).count X ∧
          10 < st.nWildcardRequests + 1)) := by
  unfold evdnsWildcardCheckCallback countedAnswers
  by_cases h : a.result = DNS_ERR_NONE ∧ a.answers ≠ []
  · rw [if_pos h]
    cases ht : a.type with
    | ptr => simp
    | _ =>
      simpa [h.1] using foldl_wildcardIncrementAnswer X a.answers
        { st with nWildcardRequests := st.nWildcardRequests + 1 }
  · rw [if_neg h]
    by_cases hr : a.result = DNS_ERR_NONE
    · have : a.answers = [] := by simpa [hr] using h
      simp [this]
    · simp [hr]

/-! ## Runs -/

/-- A callback added at the end puts `X` on the list iff it is the callback `Wildcarded` asks
    for. -/
theorem wildcarded_append_singleton (cs : List WildcardAnswer) (c : WildcardAnswer) (X : String) :
    Wildcarded (cs ++ [c]) X ↔ Wildcarded cs X ∨ (10 ≤ cs.length ∧ X ∈ countedAnswers c ∧
      5 < ((cs ++ [c]).flatMap countedAnswers).count X) := by
  constructor
  · rintro ⟨pre, c₀, post, he, h⟩
    rcases List.eq_nil_or_concat post with rfl | ⟨post, d, rfl⟩
    · -- `c` itself is the callback
      obtain ⟨rfl, hc⟩ := List.append_inj' he rfl
      obtain rfl : c = c₀ := List.singleton_inj.1 hc
      exact .inr h
    · have he' : cs ++ [c] = (pre ++ c₀ :: post) ++ [d] := by rw [he]; simp
      exact .inl ⟨pre, c₀, post, (List.append_inj' he' rfl).1, h⟩
  · rintro (⟨pre, c₀, post, rfl, h⟩ | h)
    · exact ⟨pre, c₀, post ++ [c], by simp, h⟩
    · exact ⟨cs, c, [], rfl, h⟩

/-- **The run lemma.** After a run: one request per callback, each answer counted as often as the
    callbacks counted it, and `X` on the list iff `Wildcarded`. -/
theorem wildcardRun_spec (X : String) (cs : List WildcardAnswer) :
    (wildcardRun cs).nWildcardRequests = cs.length ∧
      (wildcardRun cs).responseCount X = (cs.flatMap countedAnswers).count X ∧
      (X ∈ (wildcardRun cs).wildcardList ↔ Wildcarded cs X) := by
  induction cs using List.reverseRecOn with
  | nil => exact ⟨rfl, rfl, by simp [wildcardRun, WildcardState.reset, Wildcarded]⟩
  | append_singleton cs c ih =>
    obtain ⟨hn, hc, hm⟩ := ih
    obtain ⟨hn', hc', hm'⟩ := evdnsWildcardCheckCallback_spec (wildcardRun cs) c X
    have hrun : wildcardRun (cs ++ [c]) = evdnsWildcardCheckCallback (wildcardRun cs) c := by
      simp [wildcardRun]
    have hcount : ((cs ++ [c]).flatMap countedAnswers).count X =
        (cs.flatMap countedAnswers).count X + (countedAnswers c).count X := by
      simp
    rw [hrun, hn', hc', hm', hn, hc, hm, wildcarded_append_singleton, hcount, Nat.lt_succ_iff]
    exact ⟨by simp, rfl, or_congr_right and_rotate.symm⟩

/-! ## The threshold -/

/-- **The wildcard list.** After any run of callbacks from the reset state, an answer is on
    `dns_wildcard_list` iff `Wildcarded`; and then `evdns_callback` turns a successful A or AAAA
    answer whose first address it is into `DNS_ERR_NOTEXIST`. -/
theorem wildcardList_threshold (cs : List WildcardAnswer) (X : String) :
    (X ∈ (wildcardRun cs).wildcardList ↔ Wildcarded cs X) ∧
      (X ∈ (wildcardRun cs).wildcardList → ∀ (type : QueryType) (answers : List String),
        type ≠ .ptr → answers.head? = some X →
        evdnsCallbackResult (wildcardRun cs) DNS_ERR_NONE type answers = DNS_ERR_NOTEXIST) := by
  refine ⟨(wildcardRun_spec X cs).2.2, fun hX type answers ht ha => ?_⟩
  cases answers with
  | nil => cases ha
  | cons a as =>
    cases ha
    cases type <;> simp_all [evdnsCallbackResult, answerIsWildcarded]

/-- A successful A answer with one address. -/
def answerOnce : WildcardAnswer := ⟨DNS_ERR_NONE, .ipv4A, ["10.0.0.1"]⟩

/-- A successful A answer giving the same address six times. -/
def answerSixTimes : WildcardAnswer := ⟨DNS_ERR_NONE, .ipv4A, List.replicate 6 "10.0.0.1"⟩

/-- A failed check: the name does not exist. -/
def failedCheck : WildcardAnswer := ⟨DNS_ERR_NOTEXIST, .ipv4A, []⟩

/-- Ten failed checks, then `answerSixTimes`. -/
theorem wildcardList_threshold_sixTimes :
    ("10.0.0.1" ∈ (wildcardRun (List.replicate 10 failedCheck ++ [answerSixTimes])).wildcardList ↔
        Wildcarded (List.replicate 10 failedCheck ++ [answerSixTimes]) "10.0.0.1") ∧
      ("10.0.0.1" ∈ (wildcardRun (List.replicate 10 failedCheck ++ [answerSixTimes])).wildcardList →
        ∀ (type : QueryType) (answers : List String), type ≠ .ptr →
          answers.head? = some "10.0.0.1" →
          evdnsCallbackResult (wildcardRun (List.replicate 10 failedCheck ++ [answerSixTimes]))
            DNS_ERR_NONE type answers = DNS_ERR_NOTEXIST) :=
  wildcardList_threshold _ _

/-- Ten callbacks, each answering one address, leave it off the list; one callback answering an
    address six times, after ten failed checks, puts it on. -/
theorem wildcardList_counterexample :
    "10.0.0.1" ∉ (wildcardRun (List.replicate 10 answerOnce)).wildcardList ∧
      "10.0.0.1" ∈ (wildcardRun (List.replicate 10 failedCheck ++ [answerSixTimes])).wildcardList := by
  decide

end TorCore
