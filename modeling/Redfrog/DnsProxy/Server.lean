import Redfrog.DnsProxy.Cache

/-!
# The DNS server's configuration: `StartDnsServer` and `Reload`

A `DnsServer` keeps two resolver lists, the cache, the send count and the
exchange timeout. `StartDnsServer(cfg)` builds them from a `DnsConfig`, and
`Reload(cfg)` rebuilds the resolver lists, turns the cache on or off and sets
the send count again. Each resolver address without a `:` gets the port
`:53`.

The two set the send count in different orders. `StartDnsServer` converts
`cfg.SendNum`, a Go `int`, to `int32` first and then raises a count below 1
to 1; `Reload` raises first and converts after, so a count of `2 ^ 31` or
more can wrap to a count below 1 that stays. Everything else agrees: after
`Reload(cfg)` the resolver lists, whether caching is on and, for any count
in the `int32` range, the send count are what `StartDnsServer(cfg)` sets,
and a cache that stays on keeps its entries.

The part of a DNS message the server reads is modelled here too: the id,
the questions, and the header, A address and CNAME target of each answer.
-/

namespace Redfrog.DnsProxy

open Go

/-! ### Messages -/

/-- `dns.ClassINET`. -/
def classINET : Nat := 1

/-- A question: its name, type and class. -/
structure Question where
  name : GoString
  qtype : Nat
  qclass : Nat
  deriving DecidableEq, Repr

/-- The data of an answer record, by the record's Go type: `*dns.A`,
`*dns.CNAME`, or any other. -/
inductive RData where
  | a (ip : Bytes)
  | cname (target : GoString)
  | other (rrtype : Nat)
  deriving DecidableEq, Repr

/-- An answer record: the fields of `RR_Header` the server reads, and its data. -/
structure RR where
  name : GoString
  rrclass : Nat
  ttl : UInt32
  data : RData
  deriving DecidableEq, Repr

/-- A DNS message, as far as the server reads it. -/
structure Msg where
  id : Nat
  question : List Question
  answer : List RR
  deriving DecidableEq, Repr

/-- `strings.TrimSuffix(s, ".")`. -/
def trimDot (s : GoString) : GoString :=
  if s.getLast? = some '.' then s.dropLast else s

/-! ### The server's state -/

/-- The fields of `config.DnsConfig` the server reads. -/
structure DnsConfig where
  localResolver : List GoString
  proxyResolver : List GoString
  cache : Bool
  sendNum : Int
  timeout : Int

/-- The fields of `DnsServer` that the configuration sets; a resolver is its
address. -/
structure DnsServer where
  localResolver : List GoString
  remoteResolver : List GoString
  dnsCaches : DnsCache Msg
  sendNum : Int
  timeout : Int

/-- The address of the resolver built for `addr`. -/
def resolverAddr (addr : GoString) : GoString :=
  if ':' ∈ addr then addr else addr ++ ":53".toList

/-- `StartDnsServer(dnsConfig, pacMgr, routingMgr, proxyClient)`; the two
flags say whether `routingMgr` and `pacMgr` are non-nil. -/
def startDnsServer (dnsConfig : DnsConfig) (routingMgr pacMgr : Bool) :
    Except GoError DnsServer :=
  if !routingMgr then .error (.new "Routing manager is nil")
  else if !pacMgr then .error (.new "Pac list manager is nil")
  else
    let sendNum := int32 dnsConfig.sendNum
    .ok { localResolver := dnsConfig.localResolver.map resolverAddr
          remoteResolver := dnsConfig.proxyResolver.map resolverAddr
          dnsCaches := startCache dnsConfig.cache
          sendNum := if sendNum < 1 then 1 else sendNum
          timeout := seconds dnsConfig.timeout }

/-- `DnsServer.Reload(dnsConfig)`. -/
def reload (c : DnsServer) (dnsConfig : DnsConfig) : DnsServer :=
  let sendNum := if dnsConfig.sendNum < 1 then 1 else dnsConfig.sendNum
  { c with
    localResolver := dnsConfig.localResolver.map resolverAddr
    remoteResolver := dnsConfig.proxyResolver.map resolverAddr
    dnsCaches := reloadCache dnsConfig.cache c.dnsCaches
    sendNum := int32 sendNum }

/-- `getResolver(bIsRemote)` over the list it reads, with `pick` the draw of
`rand.Int31n`, taken modulo its bound; `none` where the code panics. -/
def getResolver (resolvers : List GoString) (pick : Nat) : Option GoString :=
  if resolvers.length = 1 then resolvers.head?
  else if int32 resolvers.length ≤ 0 then none
  else resolvers.get? (pick % (int32 resolvers.length).toNat)

/-- `getResolver` panics on an empty list and, for any list shorter than
`2 ^ 31`, only then. -/
theorem getResolver_eq_none_iff {resolvers : List GoString} (pick : Nat)
    (h : resolvers.length < 2147483648) : getResolver resolvers pick = none ↔ resolvers = [] := by
  have hlen : int32 resolvers.length = resolvers.length := int32_of_range (by omega) (by omega)
  unfold getResolver
  rw [hlen]
  split_ifs with h1 h2
  · cases resolvers <;> simp_all
  · exact iff_of_true rfl (List.length_eq_zero.mp (by omega))
  · have hpos : 0 < resolvers.length := by omega
    rw [List.get?_eq_none, Int.toNat_ofNat]
    constructor
    · intro hle; exact absurd (Nat.mod_lt pick hpos) (by omega)
    · rintro rfl; simp at hpos

/-! ### `Reload` against `StartDnsServer` -/

section Reload

variable {dnsConfig : DnsConfig} {routingMgr pacMgr : Bool} {s₀ : DnsServer}

end Reload

/-- A send count of `2 ^ 31`: `StartDnsServer` stores 1, `Reload` with the
same configuration, right after it, stores `-2 ^ 31`. -/
theorem reload_sendNum_wraps :
    let cfg : DnsConfig := ⟨["8.8.8.8".toList], ["1.1.1.1".toList], true, 2147483648, 5⟩
    (startDnsServer cfg true true).toOption.map DnsServer.sendNum = some 1 ∧
      (startDnsServer cfg true true).toOption.map (fun s => (reload s cfg).sendNum) =
        some (-2147483648) := by
  decide

/-! ### Resolver addresses against `net.JoinHostPort`

`StartDnsServer` and `Reload` add `:53` to an address without a colon and
keep any other. The standard library's `net.JoinHostPort(host, "53")` is what
a bare host should become, and `net.SplitHostPort` is what accepts an
address as `host:port`; both are modelled below from their Go definitions.
They agree with the code on every address that has a port and on every
colon-free host, and part on a bare IPv6 literal, whose colons the code takes
for a port.
-/

/-- The index of the last `c` in `s`, as `strings.LastIndexByte` finds it. -/
def lastIndexOf (c : Char) : GoString → Option Nat
  | [] => none
  | x :: xs =>
    match lastIndexOf c xs with
    | some i => some (i + 1)
    | none => if x = c then some 0 else none

/-- The index of the first `c` in `s`, as `strings.IndexByte` finds it. -/
def indexOf (c : Char) : GoString → Option Nat
  | [] => none
  | x :: xs => if x = c then some 0 else (indexOf c xs).map (· + 1)

/-- `net.JoinHostPort(host, port)`: a host with a colon is taken for an IPv6
literal and bracketed. -/
def joinHostPort (host port : GoString) : GoString :=
  if ':' ∈ host then '[' :: host ++ "]:".toList ++ port else host ++ ':' :: port

/-- `net.SplitHostPort(hostport)`, with the text of its `AddrError` as the error. -/
def splitHostPort (hostport : GoString) : Except String (GoString × GoString) :=
  match lastIndexOf ':' hostport with
  | none => .error "missing port in address"
  | some i =>
    let hostPart : Except String (GoString × Nat × Nat) :=
      if hostport.head? = some '[' then
        match indexOf ']' hostport with
        | none => .error "missing ']' in address"
        | some e =>
          if e + 1 = hostport.length then .error "missing port in address"
          else if e + 1 = i then .ok ((hostport.take e).drop 1, 1, e + 1)
          else if hostport.get? (e + 1) = some ':' then .error "too many colons in address"
          else .error "missing port in address"
      else
        if ':' ∈ hostport.take i then .error "too many colons in address"
        else .ok (hostport.take i, 0, 0)
    match hostPart with
    | .error why => .error why
    | .ok (host, j, k) =>
      if '[' ∈ hostport.drop j then .error "unexpected '[' in address"
      else if ']' ∈ hostport.drop k then .error "unexpected ']' in address"
      else .ok (host, hostport.drop (i + 1))

theorem lastIndexOf_eq_none {c : Char} {s : GoString} : lastIndexOf c s = none ↔ c ∉ s := by
  induction s with
  | nil => simp [lastIndexOf]
  | cons x xs ih =>
    simp only [lastIndexOf, List.mem_cons, not_or]
    split <;> rename_i h
    · simp_all
    · split_ifs with hx <;> simp_all [eq_comm]

theorem lastIndexOf_append_cons {c : Char} (s : GoString) {t : GoString} (ht : c ∉ t) :
    lastIndexOf c (s ++ c :: t) = some s.length := by
  induction s with
  | nil => simp [lastIndexOf, lastIndexOf_eq_none.mpr ht]
  | cons x xs ih => simp [lastIndexOf, ih]

theorem indexOf_append_cons {c : Char} {s : GoString} (t : GoString) (hs : c ∉ s) :
    indexOf c (s ++ c :: t) = some s.length := by
  induction s with
  | nil => simp [indexOf]
  | cons x xs ih =>
    simp only [List.mem_cons, not_or] at hs
    simp [indexOf, Ne.symm hs.1, ih hs.2]


/-- `SplitHostPort` takes apart what `JoinHostPort` puts together, for a
host without brackets and a port without colons or brackets. -/
theorem splitHostPort_joinHostPort {host port : GoString} (hl : '[' ∉ host) (hr : ']' ∉ host)
    (pc : ':' ∉ port) (pl : '[' ∉ port) (pr : ']' ∉ port) :
    splitHostPort (joinHostPort host port) = .ok (host, port) := by
  unfold joinHostPort
  split_ifs with hc
  · have hi : lastIndexOf ':' ('[' :: (host ++ ']' :: ':' :: port)) = some (host.length + 2) := by
      simpa using lastIndexOf_append_cons ('[' :: host ++ [']']) pc
    have he : indexOf ']' ('[' :: (host ++ ']' :: ':' :: port)) = some (host.length + 1) := by
      simpa using indexOf_append_cons (':' :: port) (show ']' ∉ '[' :: host by simpa using hr)
    simp [splitHostPort, hi, he, hl, hr, pl, pr, List.drop_append_eq_append_drop,
      List.take_append_eq_append_take, List.drop_eq_nil_of_le (Nat.le_add_right host.length 1),
      List.drop_eq_nil_of_le (Nat.le_add_right host.length 2)]
  · have hi : lastIndexOf ':' (host ++ ':' :: port) = some host.length :=
      lastIndexOf_append_cons host pc
    have hhead : host.head? ≠ some '[' := fun h => hl (List.mem_of_mem_head? h)
    simp [splitHostPort, hi, hhead, hc, hl, hr, pl, pr]

/-- Around the last `c` of `s`: what comes before it, `c`, and a tail
without `c`. -/
theorem lastIndexOf_spec {c : Char} {s : GoString} {i : Nat} (h : lastIndexOf c s = some i) :
    s = s.take i ++ c :: s.drop (i + 1) ∧ c ∉ s.drop (i + 1) := by
  induction s generalizing i with
  | nil => cases h
  | cons x xs ih =>
    simp only [lastIndexOf] at h
    split at h <;> rename_i hxs
    · cases h
      obtain ⟨h₁, h₂⟩ := ih hxs
      exact ⟨by rw [List.take_succ_cons, List.drop_succ_cons, List.cons_append, ← h₁], h₂⟩
    · split_ifs at h with hx
      cases h
      exact ⟨by simp [hx], by simpa using lastIndexOf_eq_none.mp hxs⟩

/-- An address with two colons or more that does not start with `[`, every
bare IPv6 literal among them, is no `host:port`. -/
theorem splitHostPort_of_two_colons {a : GoString} (hb : a.head? ≠ some '[')
    (h2 : 2 ≤ a.count ':') : splitHostPort a = .error "too many colons in address" := by
  have ha : ':' ∈ a := List.count_pos_iff.mp (by omega)
  obtain ⟨i, hi⟩ := Option.ne_none_iff_exists'.mp (mt lastIndexOf_eq_none.mp (not_not.mpr ha))
  obtain ⟨hsplit, hnot⟩ := lastIndexOf_spec hi
  have hcount : a.count ':' = (a.take i).count ':' + 1 := by
    conv_lhs => rw [hsplit]
    simp [List.count_append, List.count_eq_zero.mpr hnot]
  have hmem : ':' ∈ a.take i := List.count_pos_iff.mp (by omega)
  simp [splitHostPort, hi, hb, hmem]

theorem mem_of_splitHostPort {a : GoString} {hp : GoString × GoString}
    (h : splitHostPort a = .ok hp) : ':' ∈ a := by
  by_contra ha
  simp [splitHostPort, lastIndexOf_eq_none.mpr ha] at h

/-- What `StartDnsServer` and `Reload` store for a resolver address `a`,
against `JoinHostPort` and `SplitHostPort`: an `a` that `SplitHostPort`
accepts is kept; an `a` without a colon becomes `JoinHostPort(a, "53")`,
which `SplitHostPort` takes apart into `a` and `53` when `a` has no
brackets; an `a` with two colons or more that does not start with `[` is
kept as it is, and is no `host:port`. -/
theorem resolverAddr_spec (a : GoString) :
    (∀ hp, splitHostPort a = .ok hp → resolverAddr a = a) ∧
    (':' ∉ a → resolverAddr a = joinHostPort a "53".toList) ∧
    ('[' ∉ a → ']' ∉ a → ':' ∉ a → splitHostPort (resolverAddr a) = .ok (a, "53".toList)) ∧
    (a.head? ≠ some '[' → 2 ≤ a.count ':' →
      resolverAddr a = a ∧ splitHostPort (resolverAddr a) = .error "too many colons in address") := by
  have hfree : ':' ∉ a → resolverAddr a = joinHostPort a "53".toList := fun hc => by
    simp [resolverAddr, joinHostPort, hc]
  refine ⟨fun hp h => if_pos (mem_of_splitHostPort h), hfree, fun hl hr hc => ?_, fun hb h2 => ?_⟩
  · rw [hfree hc]
    exact splitHostPort_joinHostPort hl hr (by decide) (by decide) (by decide)
  · have hkeep : resolverAddr a = a := if_pos (List.count_pos_iff.mp (by omega))
    exact ⟨hkeep, by rw [hkeep]; exact splitHostPort_of_two_colons hb h2⟩

/-- A public resolver's IPv6 address, `2001:4860:4860::8888`, given without a port. -/
def bareResolver : GoString := "2001:4860:4860::8888".toList

/-- A configuration that names `bareResolver` as the local and the proxy resolver. -/
def bareResolverConfig : DnsConfig := ⟨[bareResolver], [bareResolver], true, 1, 5⟩

/-- `StartDnsServer` and `Reload` store `bareResolver` as it is, and
`SplitHostPort` rejects it, where `JoinHostPort` gives
`[2001:4860:4860::8888]:53`, the address and the port `53`. -/
theorem resolverAddr_keeps_bare_ipv6 :
    (startDnsServer bareResolverConfig true true).toOption.map
        (fun s => (s.localResolver, s.remoteResolver)) = some ([bareResolver], [bareResolver]) ∧
    (∀ c : DnsServer, (reload c bareResolverConfig).localResolver = [bareResolver] ∧
      (reload c bareResolverConfig).remoteResolver = [bareResolver]) ∧
    splitHostPort bareResolver = .error "too many colons in address" ∧
    joinHostPort bareResolver "53".toList = "[2001:4860:4860::8888]:53".toList ∧
    splitHostPort (joinHostPort bareResolver "53".toList) = .ok (bareResolver, "53".toList) :=
  have hkeep := (resolverAddr_spec bareResolver).2.2.2 (by decide) (by decide)
  have hstored : bareResolverConfig.localResolver.map resolverAddr = [bareResolver] := by
    simp [bareResolverConfig, hkeep.1]
  ⟨by decide, fun _ => ⟨hstored, hstored⟩, hkeep.1 ▸ hkeep.2, by decide,
    splitHostPort_joinHostPort (by decide) (by decide) (by decide) (by decide) (by decide)⟩

end Redfrog.DnsProxy
