import Mathlib.Data.List.Sort
import TorCore.Dns.Resolve

/-!
# `TorCore.Dns.Cache` — the exit's DNS cache and its pending connections

`dns.c` keeps every `cached_resolve_t` it allocates in the min-heap `cached_resolve_pqueue`, keyed
by expiry, and the live ones (PENDING or CACHED) also in the hash table `cache_map`, keyed by
address. An exit connection whose address needs a lookup waits on the `pending_connections` list
of the PENDING resolve for its address; the answer (`dns_found_answer`), a cancellation
(`dns_cancel_pending_resolve`), expiry (`purge_expired_resolves`) or the connection's own removal
(`connection_dns_remove`) takes it off again.

The model keeps resolves and connections in tables indexed by identifiers that are never reused
(the pointers of the code), the hash table as its list of `(address, resolve)` entries and the
heap as its list of `(expire, resolve)` entries in pop order. What comes from outside the cache
(address parsing, exit policy, `set_exitconn_info_from_resolve`, the eventdns launches) is an
argument of the call. An assertion that fails (`tor_assert`) makes a function return `none`.

Three ghost fields record history the code does not keep: how often `set_expiry` ran for
each resolve, the addresses `launch_resolve` ran for, and, per connection, how often it was put
on a pending list and how it came off each time.

## Contents
- **Data.** `ExitConn`, `DnsState`, the table operations `htFind`, `htRemove`, `setExpiry`.
- **Pending lists.** `wakeAll`, `failPending`, `informOne`.
- **The functions of `dns.c`.** `purgeExpiredResolves`, `dnsCancelPendingResolve`,
  `connectionDnsRemove`, `informPendingConnections`, `makePendingResolveCached`,
  `dnsFoundAnswer`, `launchResolve`, `dnsResolveImpl`, `dnsResolve`, `dnsCacheHandleOom` (its
  loop run on fuel computed from the heap).
- **Runs.** `DnsCall`, `dnsStep`, `DnsReachable`.
-/

namespace TorCore

/-! ## Exit connections -/

/-- `EXIT_PURPOSE_CONNECT` and `EXIT_PURPOSE_RESOLVE`. -/
inductive ExitPurpose where
  | connect
  | resolve
  deriving DecidableEq, Repr

/-- The exit-connection states `dns.c` sets or tests (`EXIT_CONN_STATE_RESOLVING`,
    `EXIT_CONN_STATE_RESOLVEFAILED`, `EXIT_CONN_STATE_CONNECTING`), and `other` for the state a
    connection has when it is handed to `dns_resolve`. -/
inductive ExitConnState where
  | other
  | resolving
  | resolveFailed
  | connecting
  deriving DecidableEq, Repr

/-- Ghost: which code took a connection off a pending list. One not marked for close is ended
    with `END_STREAM_REASON_TIMEOUT` when `expired` (`purge_expired_resolves`), and with
    `END_STREAM_REASON_RESOLVEFAILED` when `cancelled` (`dns_cancel_pending_resolve`). -/
inductive TakenOff where
  | informed
  | cancelled
  | expired
  | removed
  deriving DecidableEq, Repr

/-- An exit `edge_connection_t`, with the fields `dns.c` reads and writes, whether it has been
    freed, and three ghost fields. -/
structure ExitConn where
  address : String
  purpose : ExitPurpose
  state : ExitConnState
  markedForClose : Bool
  isReverseDnsLookup : Bool
  /-- `connection_free_` has run on it. -/
  freed : Bool
  /-- Ghost: it has been handed to `dns_resolve`. -/
  entered : Bool
  /-- Ghost: how many times it was put on a pending list. -/
  placed : Nat
  /-- Ghost: how it came off a pending list, each time. -/
  takenOff : List TakenOff
  deriving DecidableEq, Repr

/-- A connection identifier not yet handed to `dns_resolve`. -/
def ExitConn.unborn : ExitConn := ⟨"", .connect, .other, false, false, false, false, 0, []⟩

/-- The connection a BEGIN or RESOLVE cell creates, as it is handed to `dns_resolve`. -/
def ExitConn.request (address : String) (purpose : ExitPurpose) : ExitConn :=
  { ExitConn.unborn with address := address, purpose := purpose, entered := true }

/-! ## The cache -/

/-- The state of `dns.c`: the resolves and connections by identifier, the entries of `cache_map`
    and of `cached_resolve_pqueue`, and the ghost counts. -/
structure DnsState where
  resolves : Nat → Option CachedResolve
  nextResolve : Nat
  /-- `cache_map`: its entries, each with the address it is hashed by. -/
  cacheMap : List (String × Nat)
  /-- `cached_resolve_pqueue`: its entries in the order the heap pops them. -/
  pqueue : List (Int × Nat)
  conns : Nat → ExitConn
  /-- Ghost: how many times `set_expiry` ran on each resolve. -/
  expirySets : Nat → Nat
  /-- Ghost: the addresses `launch_resolve` ran for, in order. -/
  launched : List String

/-- The cache at start-up: empty, every connection identifier unused. -/
def DnsState.init : DnsState :=
  ⟨fun _ => none, 0, [], [], fun _ => ExitConn.unborn, fun _ => 0, []⟩

/-- `HT_FIND(cache_map, &cache_root, &search)` with `search.address = address`. -/
def htFind (map : List (String × Nat)) (address : String) : Option Nat :=
  (map.find? (·.1 == address)).map Prod.snd

/-- `HT_REMOVE(cache_map, &cache_root, resolve)` for a resolve of this address: the entry it
    takes out, and the table without it. -/
def htRemove (map : List (String × Nat)) (address : String) :
    Option Nat × List (String × Nat) :=
  (htFind map address, map.eraseP (·.1 == address))

/-- `compare_cached_resolves_by_expiry_`: the heap order. -/
def expiresFirst (a b : Int × Nat) : Prop := a.1 ≤ b.1

instance : DecidableRel expiresFirst := fun a b => Int.decLe a.1 b.1

instance : IsTotal (Int × Nat) expiresFirst := ⟨fun a b => Int.le_total a.1 b.1⟩

instance : IsTrans (Int × Nat) expiresFirst := ⟨fun _ _ _ => Int.le_trans⟩

/-- A resolve with its `expire` set. -/
def CachedResolve.setExpire (r : CachedResolve) (expires : Int) : CachedResolve :=
  { r with expire := expires }

@[simp] theorem CachedResolve.setExpire_address (r : CachedResolve) (expires : Int) :
    (r.setExpire expires).address = r.address := rfl
@[simp] theorem CachedResolve.setExpire_state (r : CachedResolve) (expires : Int) :
    (r.setExpire expires).state = r.state := rfl
@[simp] theorem CachedResolve.setExpire_pendingConnections (r : CachedResolve) (expires : Int) :
    (r.setExpire expires).pendingConnections = r.pendingConnections := rfl
@[simp] theorem CachedResolve.setExpire_expire (r : CachedResolve) (expires : Int) :
    (r.setExpire expires).expire = expires := rfl

/-- `set_expiry` on the resolve `r` stored at `id`: asserts its `expire` is still `0`, sets it,
    and adds the resolve to the heap. -/
def setExpiry (st : DnsState) (id : Nat) (r : CachedResolve) (expires : Int) :
    Option DnsState :=
  if r.expire = 0 then
    some { st with
      resolves := Function.update st.resolves id (some (r.setExpire expires))
      pqueue := st.pqueue.orderedInsert expiresFirst (expires, id)
      expirySets := Function.update st.expirySets id (st.expirySets id + 1) }
  else none

/-! ## Pending lists -/

/-- The walk over a pending list, head first, doing `f c` to each connection `c` on it. -/
def wakeAll (f : Nat → ExitConn → ExitConn) : List Nat → (Nat → ExitConn) → Nat → ExitConn
  | [], cs => cs
  | c :: l, cs => wakeAll f l (Function.update cs c (f c (cs c)))

/-- What `purge_expired_resolves` and `dns_cancel_pending_resolve` do to each pending connection:
    `EXIT_CONN_STATE_RESOLVEFAILED` ("prevent double-remove"), and unless it is marked for close,
    end it, detach it and free it. -/
def failPending (why : TakenOff) (conn : ExitConn) : ExitConn :=
  { conn with
    state := .resolveFailed
    freed := if conn.markedForClose then conn.freed else true
    takenOff := conn.takenOff ++ [why] }

/-- `inform_pending_connections` on one connection (`infoOk`: `set_exitconn_info_from_resolve`
    returned `≥ 0`): a marked one is unlinked, a failed one or a RESOLVE is answered and freed, and
    an answered CONNECT moves on to `EXIT_CONN_STATE_CONNECTING`. -/
def informOne (infoOk : Bool) (conn : ExitConn) : ExitConn :=
  let conn := { conn with takenOff := conn.takenOff ++ [TakenOff.informed] }
  if conn.markedForClose then { conn with state := .resolveFailed }
  else if !infoOk then { conn with state := .resolveFailed, freed := true }
  else match conn.purpose with
    | .connect => { conn with state := .connecting }
    | .resolve => { conn with state := .resolveFailed, freed := true }

/-! ## Expiry -/

/-- One resolve popped by `purge_expired_resolves`: its pending connections fail, it leaves the
    hash table (a CACHED or PENDING one must be there, a DONE one must not), and it is freed. -/
def purgeOne (st : DnsState) (id : Nat) : Option DnsState :=
  match st.resolves id with
  | none => none
  | some r =>
    if r.state ≠ .pending ∧ r.pendingConnections ≠ [] then none
    else
      let st := { st with
        conns := wakeAll (fun _ => failPending .expired) r.pendingConnections st.conns }
      let map : Option (List (String × Nat)) :=
        if r.state = .done then
          if htFind st.cacheMap r.address = some id then none else some st.cacheMap
        else
          match htRemove st.cacheMap r.address with
          | (some removed, map) => if removed = id then some map else none
          | (none, _) => none
      map.map fun map =>
        { st with cacheMap := map, resolves := Function.update st.resolves id none }

/-- The loop of `purge_expired_resolves` over the heap `pq`: while the first entry has expired by
    `now`, pop it and purge its resolve. -/
def purgeLoop (now : Int) : List (Int × Nat) → DnsState → Option DnsState
  | [], st => some { st with pqueue := [] }
  | (e, id) :: pq, st =>
    if now < e then some { st with pqueue := (e, id) :: pq }
    else (purgeOne { st with pqueue := pq } id).bind (purgeLoop now pq)

/-- `purge_expired_resolves`: remove every resolve whose `expire` is at most `now`. -/
def purgeExpiredResolves (now : Int) (st : DnsState) : Option DnsState :=
  purgeLoop now st.pqueue st

/-! ## Cancellation and removal -/

/-- `dns_cancel_pending_resolve`: fail every connection waiting on the PENDING resolve for
    `address`, take the resolve out of the hash table and mark it DONE. A resolve that is not
    PENDING, or has no pending connection, is left alone (after a warning). -/
def dnsCancelPendingResolve (st : DnsState) (address : String) : Option DnsState :=
  match htFind st.cacheMap address with
  | none => some st
  | some id =>
    match st.resolves id with
    | none => none
    | some r =>
      if r.state ≠ .pending then some st
      else if r.pendingConnections = [] then some st
      else
        let st := { st with
          conns := wakeAll (fun _ => failPending .cancelled) r.pendingConnections st.conns }
        match htRemove st.cacheMap r.address with
        | (some removed, map) =>
          if removed = id then
            some { st with
              cacheMap := map
              resolves := Function.update st.resolves id
                (some { r with pendingConnections := [], state := .done }) }
          else none
        | (none, _) => none

/-- `connection_dns_remove`: take a RESOLVING connection off the pending list of the resolve for
    its address. -/
def connectionDnsRemove (st : DnsState) (c : Nat) : Option DnsState :=
  let conn := st.conns c
  if conn.state ≠ .resolving then none
  else match htFind st.cacheMap conn.address with
    | none => some st
    | some id =>
      match st.resolves id with
      | none => none
      | some r =>
        if r.pendingConnections = [] then none
        else if c ∈ r.pendingConnections then
          some { st with
            resolves := Function.update st.resolves id
              (some { r with pendingConnections := r.pendingConnections.erase c })
            conns := Function.update st.conns c
              { conn with takenOff := conn.takenOff ++ [.removed] } }
        else some st

/-- Freeing an exit connection, as its callers outside `dns.c` do: one still RESOLVING first goes
    through `connection_dns_remove` ("prevent double-remove"). -/
def connectionFree (st : DnsState) (c : Nat) : Option DnsState :=
  let removed := if (st.conns c).state = .resolving then connectionDnsRemove st c else some st
  removed.map fun st =>
    { st with conns := Function.update st.conns c { st.conns c with freed := true } }

/-! ## Answers -/

/-- `inform_pending_connections` on the resolve `r` stored at `id`: each pending connection is
    told the outcome, and the list is emptied. -/
def informPendingConnections (infoOk : Nat → Bool) (st : DnsState) (id : Nat)
    (r : CachedResolve) : DnsState :=
  { st with
    resolves := Function.update st.resolves id (some { r with pendingConnections := [] })
    conns := wakeAll (fun c => informOne (infoOk c)) r.pendingConnections st.conns }

/-- `UINT32_MAX`. -/
def UINT32_MAX : UInt32 := 0xFFFFFFFF

/-- The TTL `make_pending_resolve_cached` gives the cached copy: the least TTL of a finished
    lookup, `UINT32_MAX` if none finished. -/
def resolveTtl (r : CachedResolve) : UInt32 :=
  let settled (s : ResStatus) : Bool := s == .doneOk || s == .doneErr
  let ttl := UINT32_MAX
  let ttl := if settled r.resStatusIpv4 && r.ttlIpv4 < ttl then r.ttlIpv4 else ttl
  let ttl := if settled r.resStatusIpv6 && r.ttlIpv6 < ttl then r.ttlIpv6 else ttl
  if settled r.resStatusHostname && r.ttlHostname < ttl then r.ttlHostname else ttl

/-- `make_pending_resolve_cached` on the resolve `r` stored at `id`: it becomes DONE and leaves
    the hash table (a mismatch is only logged), and a CACHED copy with a fresh `expire` takes its
    place there and in the heap. -/
def makePendingResolveCached (now : Int) (st : DnsState) (id : Nat) (r : CachedResolve) :
    Option DnsState :=
  let st := { st with
    resolves := Function.update st.resolves id (some { r with state := .done })
    cacheMap := (htRemove st.cacheMap r.address).2 }
  let newId := st.nextResolve
  let newResolve := { r with state := .cached, expire := 0 }
  let st := { st with
    resolves := Function.update st.resolves newId (some newResolve)
    cacheMap := (r.address, newId) :: st.cacheMap
    nextResolve := newId + 1 }
  setExpiry st newId newResolve (now + (resolveTtl r).toNat)

/-- `dns_found_answer`: an answer for an address with no entry is ignored, one for an entry that
    is not PENDING must find no pending connection; otherwise the answer is added, and once no
    lookup is in flight the waiting connections are informed and the resolve is cached. -/
def dnsFoundAnswer (infoOk : Nat → Bool) (now : Int) (st : DnsState) (address : String)
    (queryType : QueryType) (dnsAnswer : Int) (addr : Option TorAddr)
    (hostname : Option (List UInt8)) (ttl : UInt32) : Option DnsState :=
  match htFind st.cacheMap address with
  | none => some st
  | some id =>
    match st.resolves id with
    | none => none
    | some r =>
      if r.state ≠ .pending then
        if r.pendingConnections = [] then some st else none
      else
        let r := cachedResolveAddAnswer r queryType dnsAnswer addr hostname ttl
        let st := { st with resolves := Function.update st.resolves id (some r) }
        if cachedResolveHaveAllAnswers r then
          makePendingResolveCached now (informPendingConnections infoOk st id r) id
            { r with pendingConnections := [] }
        else some st

/-! ## Requests -/

/-- What `launch_resolve` is told by the code outside `dns.c`'s cache: `net_is_disabled ()`,
    whether nameservers are configured or `configure_nameservers (1)` succeeds, the `IPv6Exit`
    option, and whether `launch_one_resolve` succeeds for each query type. -/
structure LaunchEnv where
  netDisabled : Bool
  nameserversReady : Bool
  ipv6Exit : Bool
  launchOneResolveOk : QueryType → Bool

/-- `launch_resolve` on a resolve whose address `tor_addr_parse_PTR_name` parses to `ptr`: the
    lookups it starts are marked in flight, and one that fails to start is unmarked and makes the
    result `-1`. -/
def launchResolve (env : LaunchEnv) (ptr : Int) (r : CachedResolve) : Int × CachedResolve :=
  if env.netDisabled || !env.nameserversReady then (-1, r)
  else if ptr = 0 then
    let r := { r with
      resStatusIpv4 := .inflight
      resStatusIpv6 := if env.ipv6Exit then .inflight else r.resStatusIpv6 }
    if !env.launchOneResolveOk .ipv4A then (-1, { r with resStatusIpv4 := .unset })
    else if env.ipv6Exit && !env.launchOneResolveOk .ipv6AAAA then
      (-1, { r with resStatusIpv6 := .unset })
    else (0, r)
  else if ptr = 1 then
    if env.launchOneResolveOk .ptr then (0, { r with resStatusHostname := .inflight })
    else (-1, { r with resStatusHostname := .unset })
  else (-1, r)

/-- What `dns_resolve_impl` learns about the address from outside the cache: the family from
    `tor_addr_parse`, a reject-star exit policy, `address_is_invalid_destination`,
    `tor_addr_parse_PTR_name`, `tor_addr_is_internal` and `set_exitconn_info_from_resolve`. -/
structure ResolveEnv where
  addrFamily : Option Bool
  rejectStar : Bool
  invalidDestination : Bool
  ptr : Int
  ptrInternal : Bool
  cachedInfoOk : Bool

/-- `RESOLVE_MAX_TIMEOUT`. -/
def RESOLVE_MAX_TIMEOUT : Int := 300

/-- The resolve `dns_resolve_impl` allocates for a new address: zeroed, PENDING, with the
    connection as its only pending one. -/
def CachedResolve.fresh (address : String) (c : Nat) : CachedResolve :=
  ⟨address, .pending, [c], .unset, .unset, .unset, 0, 0, In6Addr.zero, 0, [], 0, 0, 0, 0, 0⟩

@[simp] theorem CachedResolve.fresh_address (address : String) (c : Nat) :
    (CachedResolve.fresh address c).address = address := rfl
@[simp] theorem CachedResolve.fresh_state (address : String) (c : Nat) :
    (CachedResolve.fresh address c).state = .pending := rfl
@[simp] theorem CachedResolve.fresh_pendingConnections (address : String) (c : Nat) :
    (CachedResolve.fresh address c).pendingConnections = [c] := rfl
@[simp] theorem CachedResolve.fresh_expire (address : String) (c : Nat) :
    (CachedResolve.fresh address c).expire = 0 := rfl

/-- The reverse-lookup check of `dns_resolve_impl`: a malformed `.arpa` name, an internal address,
    or a reverse name in a CONNECT request is refused. -/
def ptrRefused (ptr : Int) (internal isResolve : Bool) : Bool :=
  ptr ≠ 0 && (ptr == 1 && internal || ptr != 1 || !isResolve)

/-- `dns_resolve_impl` for connection `c` at time `now`: the result (`1` answered, `0` pending,
    `-1` or `-2` failed), `made_connection_pending`, and the state. -/
def dnsResolveImpl (env : ResolveEnv) (lenv : LaunchEnv) (now : Int) (st : DnsState) (c : Nat)
    (isResolve : Bool) : Option (Int × Bool × DnsState) :=
  match env.addrFamily with
  | some inet => some (if inet then 1 else -1, false, st)
  | none =>
    if env.rejectStar then some (-1, false, st)
    else if env.invalidDestination then some (-1, false, st)
    else match purgeExpiredResolves now st with
    | none => none
    | some st =>
      let conn := st.conns c
      let address := conn.address.toLower
      let conn := { conn with address := address }
      if ptrRefused env.ptr env.ptrInternal isResolve then
        some (-1, false, { st with conns := Function.update st.conns c conn })
      else
        let conn := { conn with isReverseDnsLookup := env.ptr == 1 }
        let placed := { conn with placed := conn.placed + 1 }
        match htFind st.cacheMap address with
        | some id =>
          match st.resolves id with
          | none => none
          | some r =>
            if now < r.expire then
              match r.state with
              | .pending =>
                some (0, true, { st with
                  resolves := Function.update st.resolves id
                    (some { r with pendingConnections := c :: r.pendingConnections })
                  conns := Function.update st.conns c placed })
              | .cached =>
                some (if env.cachedInfoOk then 1 else -1, false,
                  { st with conns := Function.update st.conns c conn })
              | .done => none
            else none
        | none =>
          let id := st.nextResolve
          let r := CachedResolve.fresh address c
          let st := { st with
            resolves := Function.update st.resolves id (some r)
            cacheMap := (address, id) :: st.cacheMap
            nextResolve := id + 1
            conns := Function.update st.conns c placed }
          (setExpiry st id r (now + RESOLVE_MAX_TIMEOUT)).map fun st =>
            let (ret, r) := launchResolve lenv env.ptr (r.setExpire (now + RESOLVE_MAX_TIMEOUT))
            (ret, true, { st with
              resolves := Function.update st.resolves id (some r)
              launched := st.launched ++ [address] })

/-- `dns_resolve`: on `0` the connection becomes RESOLVING; on a failure every connection waiting
    for the address is cancelled, and the connection is freed unless it was made pending (then
    the cancellation freed it) or is marked for close. -/
def dnsResolve (env : ResolveEnv) (lenv : LaunchEnv) (now : Int) (st : DnsState) (c : Nat) :
    Option DnsState :=
  match dnsResolveImpl env lenv now st c ((st.conns c).purpose == .resolve) with
  | none => none
  | some (r, made, st) =>
    if r = 1 then some st
    else if r = 0 then
      some { st with conns := Function.update st.conns c { st.conns c with state := .resolving } }
    else (dnsCancelPendingResolve st (st.conns c).address).map fun st =>
      if !made && !(st.conns c).markedForClose then
        { st with conns := Function.update st.conns c { st.conns c with freed := true } }
      else st

/-! ## Memory pressure -/

/-- `dns_cache_total_allocation`: `sizeof (struct cached_resolve_t)` per hash-table entry plus
    `HT_MEM_USAGE`, both given. -/
def dnsCacheTotalAllocation (entrySize htMemUsage : Nat) (st : DnsState) : Nat :=
  entrySize * st.cacheMap.length + htMemUsage

/-- The `do … while` loop of `dns_cache_handle_oom`: purge with cutoff `now + timeInc`, `timeInc`
    growing by `MAX_DNS_TTL / 4`, until `minRemoveBytes` are freed or `cache_map` is empty (`size_t`
    subtraction wraps). `fuel` bounds the passes; `none` is a loop not ended within them. -/
def dnsCacheHandleOomLoop (entrySize htMemUsage : Nat) (maxDnsTtl now : Int)
    (minRemoveBytes : Nat) : Nat → Int → Nat → Nat → DnsState → Option (Nat × DnsState)
  | 0, _, _, _, _ => none
  | fuel + 1, timeInc, currentSize, totalBytesRemoved, st =>
    if st.cacheMap.length = 0 then some (totalBytesRemoved, st)
    else (purgeExpiredResolves (now + timeInc) st).bind fun st =>
      let bytesRemoved := sizeSub currentSize (dnsCacheTotalAllocation entrySize htMemUsage st)
      let totalBytesRemoved := totalBytesRemoved + bytesRemoved
      if totalBytesRemoved < minRemoveBytes then
        dnsCacheHandleOomLoop entrySize htMemUsage maxDnsTtl now minRemoveBytes fuel
          (timeInc + maxDnsTtl / 4) (sizeSub currentSize bytesRemoved) totalBytesRemoved st
      else some (totalBytesRemoved, st)

/-- The last expiry time in the heap, or `now` when it is empty. -/
def lastExpiry (now : Int) (st : DnsState) : Int :=
  st.pqueue.foldr (fun x m => max x.1 m) now

/-- Passes enough for `dnsCacheHandleOomLoop` to end when `MAX_DNS_TTL / 4` is positive: within
    them the cutoff passes `lastExpiry`, and one more pass finds `cache_map` empty. -/
def oomFuel (maxDnsTtl now : Int) (st : DnsState) : Nat :=
  ((lastExpiry now st - now) / (maxDnsTtl / 4)).toNat + 3

/-- `dns_cache_handle_oom`: the loop from `time_inc = 0` and `total_bytes_removed = 0`, with
    `current_size` the allocation on entry. -/
def dnsCacheHandleOom (entrySize htMemUsage : Nat) (maxDnsTtl now : Int) (minRemoveBytes : Nat)
    (st : DnsState) : Option (Nat × DnsState) :=
  dnsCacheHandleOomLoop entrySize htMemUsage maxDnsTtl now minRemoveBytes
    (oomFuel maxDnsTtl now st) 0 (dnsCacheTotalAllocation entrySize htMemUsage st) 0 st

/-! ## Runs -/

/-- The calls into the cache: a new request for connection `c`, an answer, a cancellation, a
    purge, memory pressure, and the marking and freeing of a connection. -/
inductive DnsCall where
  | resolve (c : Nat) (address : String) (purpose : ExitPurpose) (env : ResolveEnv)
      (lenv : LaunchEnv) (now : Int)
  | foundAnswer (infoOk : Nat → Bool) (now : Int) (address : String) (queryType : QueryType)
      (dnsAnswer : Int) (addr : Option TorAddr) (hostname : Option (List UInt8)) (ttl : UInt32)
  | cancel (address : String)
  | purge (now : Int)
  | oom (entrySize htMemUsage : Nat) (maxDnsTtl now : Int) (minRemoveBytes : Nat)
  | mark (c : Nat)
  | free (c : Nat)

/-- The calls the rest of the relay makes: a connection enters `dns_resolve` once, only a
    connection not yet freed is marked or freed, and `MAX_DNS_TTL / 4` is positive, as the
    constant of `dns.h` is. -/
def DnsCall.allowed (st : DnsState) : DnsCall → Bool
  | .resolve c .. => !(st.conns c).entered
  | .mark c | .free c => (st.conns c).entered && !(st.conns c).freed
  | .oom _ _ maxDnsTtl .. => decide (0 < maxDnsTtl / 4)
  | _ => true

/-- One call. A request creates its connection with the address and purpose of the cell. -/
def dnsStep (st : DnsState) : DnsCall → Option DnsState
  | .resolve c address purpose env lenv now =>
    dnsResolve env lenv now
      { st with conns := Function.update st.conns c (ExitConn.request address purpose) } c
  | .foundAnswer infoOk now address queryType dnsAnswer addr hostname ttl =>
    dnsFoundAnswer infoOk now st address queryType dnsAnswer addr hostname ttl
  | .cancel address => dnsCancelPendingResolve st address
  | .purge now => purgeExpiredResolves now st
  | .oom entrySize htMemUsage maxDnsTtl now minRemoveBytes =>
    (dnsCacheHandleOom entrySize htMemUsage maxDnsTtl now minRemoveBytes st).map Prod.snd
  | .mark c =>
    some { st with conns := Function.update st.conns c { st.conns c with markedForClose := true } }
  | .free c => connectionFree st c

/-- The states some sequence of allowed calls reaches from start-up. -/
inductive DnsReachable : DnsState → Prop where
  | init : DnsReachable DnsState.init
  | step {st st' : DnsState} (call : DnsCall) :
      DnsReachable st → call.allowed st = true → dnsStep st call = some st' → DnsReachable st'

end TorCore
