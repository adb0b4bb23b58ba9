import Redfrog.DnsProxy.Server

/-!
# `ServeDNS`

One query, from its classification to what is written back. A query with a
question whose name, without its trailing dot, is in the policy list is
answered through the tunnel: first from the cache when `checkCache` finds an
entry, and when the entry asks for no refresh that is all; otherwise through
`ExchangeDNS` to a remote resolver, whose response registers its INET A
addresses with the routing manager and its INET CNAME targets with the policy
list, is cached when it has an INET A record, and is written back unless a
cached answer already was. Any other query goes to a local resolver.

What the outside sees is a list of effects in program order. What the world
answers (`r.Pack()`, the two exchanges, the draw of `getResolver`) and the
clock are inputs; the filter chain, which returns `nil` in this version, is
left out. `getResolver` panics on an empty resolver list; the model then
returns `none`.
-/

namespace Redfrog.DnsProxy

open Go

/-- What `ServeDNS` does that the outside sees. -/
inductive Effect where
  /-- `w.WriteMsg(m)`. -/
  | write (m : Msg)
  /-- `proxyClient.ExchangeDNS(addr, data, c.timeout)`. -/
  | tunnel (addr : GoString) (data : Bytes)
  /-- `resolver.client.ExchangeContext(ctx, r, addr)`. -/
  | exchange (addr : GoString) (r : Msg)
  /-- `routingMgr.AddIp(name, ip)`. -/
  | addIp (name : GoString) (ip : Bytes)
  /-- `pacMgr.AddDomain(name)`. -/
  | addDomain (name : GoString)
  /-- `AddDnsCache(domain, response, ttl)`. -/
  | addCache (domain : GoString) (response : Msg) (ttl : UInt32)
  deriving DecidableEq, Repr

/-- How the world answers one `ServeDNS`. -/
structure Upstream where
  /-- `r.Pack()`. -/
  pack : Except GoError Bytes
  /-- What `ExchangeDNS` returns. -/
  tunnelReply : Except GoError Msg
  /-- What `ExchangeContext` returns. -/
  localReply : Except GoError Msg
  /-- The draw of `rand.Int31n` in `getResolver`. -/
  pick : Nat

/-- The clock readings of one `ServeDNS`: at the cache lookups, and the two
of `AddDnsCache`. -/
structure Clock where
  lookup : Int
  add : Readings

/-- The loop of `checkCache` over the questions of `r`, from the cache `c`. -/
def checkQuestions (r : Msg) (now : Int) (c : DnsCache Msg) :
    List Question → (Option Msg × Bool) × DnsCache Msg
  | [] => ((none, false), c)
  | q :: qs =>
    if q.qclass = classINET then
      match getDnsCache c (trimDot q.name) now with
      | ((some resDns, needRefreshCache), c') =>
        ((some { resDns with id := r.id }, needRefreshCache), c')
      | ((none, _), c') => checkQuestions r now c' qs
    else checkQuestions r now c qs

/-- `DnsServer.checkCache(r)`, with the cache lookups at `now`. -/
def checkCache (c : DnsCache Msg) (r : Msg) (now : Int) : (Option Msg × Bool) × DnsCache Msg :=
  if c.isSome then checkQuestions r now c r.question else ((none, false), c)

/-- The loop of `ServeDNS` over a tunnel response's answers, from the running
`ttl` and `shouldAddCache`: their final values and the registrations made. -/
def scanAnswers (ttl : UInt32) (shouldAddCache : Bool) : List RR → UInt32 × Bool × List Effect
  | [] => (ttl, shouldAddCache, [])
  | a :: as =>
    if a.rrclass = classINET then
      let ttl := if a.ttl > ttl then a.ttl else ttl
      match a.data with
      | .a ip =>
        let r := scanAnswers ttl true as
        (r.1, r.2.1, .addIp (trimDot a.name) ip :: r.2.2)
      | .cname target =>
        let r := scanAnswers ttl shouldAddCache as
        (r.1, r.2.1, .addDomain (trimDot target) :: r.2.2)
      | .other _ => scanAnswers ttl shouldAddCache as
    else scanAnswers ttl shouldAddCache as

/-- The tunnel half of `ServeDNS` for the policy name `domainName`, through
the resolver `addr`; `bWriteBack` says a cached answer was already written. -/
def proxyResolve (cache : DnsCache Msg) (domainName : GoString) (r : Msg) (addr : GoString)
    (u : Upstream) (clock : Clock) (bWriteBack : Bool) : List Effect × DnsCache Msg :=
  match u.pack with
  | .error _ => ([], cache)
  | .ok data =>
    match u.tunnelReply with
    | .error _ => ([.tunnel addr data], cache)
    | .ok resDns =>
      let resDns := { resDns with id := r.id }
      let scan := scanAnswers 0 false resDns.answer
      let adds := scan.2.1 && cache.isSome
      (.tunnel addr data :: scan.2.2 ++
          (if adds then [.addCache domainName resDns scan.1] else []) ++
          (if bWriteBack then [] else [.write resDns]),
        if adds then addDnsCache cache domainName resDns scan.1 clock.add else cache)

/-- `DnsServer.ServeDNS(w, r)`, with `checkDomain` the policy list's
`CheckDomain`: the effects, and the cache after; `none` where it panics. -/
def serveDNS (c : DnsServer) (checkDomain : GoString → Bool) (r : Msg) (u : Upstream)
    (clock : Clock) : Option (List Effect × DnsCache Msg) :=
  match r.question.find? (fun q => checkDomain (trimDot q.name)) with
  | some q =>
    match checkCache c.dnsCaches r clock.lookup with
    | ((some resDns, false), cache) => some ([.write resDns], cache)
    | ((hit, _), cache) =>
      (getResolver c.remoteResolver u.pick).map fun addr =>
        let rest := proxyResolve cache (trimDot q.name) r addr u clock hit.isSome
        (hit.toList.map .write ++ rest.1, rest.2)
  | none =>
    (getResolver c.localResolver u.pick).map fun addr =>
      match u.localReply with
      | .error _ => ([.exchange addr r], c.dnsCaches)
      | .ok response => ([.exchange addr r, .write response], c.dnsCaches)

/-! ### Observations -/

/-- The responses written to the client, in order. -/
def writes : List Effect → List Msg
  | [] => []
  | .write m :: effs => m :: writes effs
  | _ :: effs => writes effs

/-- The registrations a response's answers call for: the address of each
INET A record and the target of each INET CNAME, in order. -/
def registrations (answer : List RR) : List Effect :=
  answer.filterMap fun a =>
    if a.rrclass = classINET then
      match a.data with
      | .a ip => some (.addIp (trimDot a.name) ip)
      | .cname target => some (.addDomain (trimDot target))
      | .other _ => none
    else none

@[simp] theorem writes_append (l l' : List Effect) : writes (l ++ l') = writes l ++ writes l' := by
  induction l with
  | nil => rfl
  | cons e l ih => cases e <;> simp [writes, ih]

@[simp] theorem writes_registrations (answer : List RR) : writes (registrations answer) = [] := by
  induction answer with
  | nil => rfl
  | cons a as ih =>
    simp only [registrations, List.filterMap_cons] at ih ⊢
    split_ifs
    · rcases a with ⟨_, _, _, _ | _ | _⟩ <;> simp [writes, ih]
    · exact ih

/-! ### Each part against its observations -/

theorem checkQuestions_id {r : Msg} {now : Int} {c : DnsCache Msg} {qs : List Question}
    {m : Msg} {b : Bool} (h : (checkQuestions r now c qs).1 = (some m, b)) : m.id = r.id := by
  induction qs generalizing c with
  | nil => cases h
  | cons q qs ih =>
    simp only [checkQuestions] at h
    split_ifs at h
    · split at h
      · cases h; rfl
      · exact ih h
    · exact ih h

/-- A cached answer carries the query's id. -/
theorem checkCache_id {c : DnsCache Msg} {r : Msg} {now : Int} {m : Msg} {b : Bool}
    (h : (checkCache c r now).1 = (some m, b)) : m.id = r.id := by
  simp only [checkCache] at h
  split_ifs at h
  · exact checkQuestions_id h
  · cases h

theorem scanAnswers_registrations (ttl : UInt32) (shouldAddCache : Bool) (answer : List RR) :
    (scanAnswers ttl shouldAddCache answer).2.2 = registrations answer := by
  induction answer generalizing ttl shouldAddCache with
  | nil => rfl
  | cons a as ih =>
    rcases a with ⟨name, cls, t, _ | _ | _⟩ <;> by_cases hc : cls = classINET <;>
      simp [scanAnswers, registrations, hc, ih]

/-- The tunnel half: no exchange when the query cannot be packed; one
otherwise, followed, on a response, by its registrations, then at most the
cache add and the write of the response under the query's id. -/
theorem proxyResolve_effects (cache : DnsCache Msg) (domainName : GoString) (r : Msg)
    (addr : GoString) (u : Upstream) (clock : Clock) (bWriteBack : Bool) :
    match u.pack, u.tunnelReply with
    | .error _, _ => (proxyResolve cache domainName r addr u clock bWriteBack).1 = []
    | .ok data, .error _ => (proxyResolve cache domainName r addr u clock bWriteBack).1 =
        [.tunnel addr data]
    | .ok data, .ok resp => ∃ post,
        (proxyResolve cache domainName r addr u clock bWriteBack).1 =
          .tunnel addr data :: registrations resp.answer ++ post ∧
        writes post = (if bWriteBack then [] else [{ resp with id := r.id }]) ∧
        ∀ e ∈ post, (∃ m, e = .write m) ∨ ∃ d m ttl, e = .addCache d m ttl := by
  rcases hp : u.pack with err | data
  · simp [proxyResolve, hp]
  · rcases ht : u.tunnelReply with err | resp
    · simp [proxyResolve, hp, ht]
    · simp only [proxyResolve, hp, ht, scanAnswers_registrations]
      refine ⟨(if (scanAnswers 0 false resp.answer).2.1 && cache.isSome then
          [.addCache domainName { resp with id := r.id } (scanAnswers 0 false resp.answer).1]
          else []) ++ (if bWriteBack then [] else [.write { resp with id := r.id }]),
        by simp only [List.cons_append, List.append_assoc], ?_, fun e he => ?_⟩
      · split_ifs <;> simp [writes]
      · split_ifs at he <;> simp at he <;> rcases he with rfl | rfl <;> simp

/-- After a cached answer or none, the tunnel half keeps to at most one write
and has the shape the contract gives. -/
private theorem hit_then_proxyResolve (hit : Option Msg) (cache : DnsCache Msg)
    (domainName : GoString) (r : Msg) (addr : GoString) (u : Upstream) (clock : Clock) :
    let effs := hit.toList.map .write ++
      (proxyResolve cache domainName r addr u clock hit.isSome).1
    (writes effs).length ≤ 1 ∧
    match u.pack, u.tunnelReply with
    | .error _, _ => effs = hit.toList.map .write
    | .ok data, .error _ => effs = hit.toList.map .write ++ [.tunnel addr data]
    | .ok data, .ok resp => ∃ post,
      effs = hit.toList.map .write ++ .tunnel addr data :: registrations resp.answer ++ post ∧
      writes post = (if hit.isSome then [] else [{ resp with id := r.id }]) ∧
      ∀ e ∈ post, (∃ m, e = .write m) ∨ ∃ d m ttl, e = .addCache d m ttl := by
  have hhit : (writes (hit.toList.map .write)).length = (if hit.isSome then 1 else 0) := by
    cases hit <;> rfl
  have h := proxyResolve_effects cache domainName r addr u clock hit.isSome
  intro effs
  rcases hp : u.pack with err | data <;> simp only [hp] at h
  · refine ⟨?_, by simp [effs, h]⟩
    simp only [effs, h, writes_append, List.append_nil, hhit]
    split_ifs <;> omega
  · rcases ht : u.tunnelReply with err | resp <;> simp only [ht] at h
    · refine ⟨?_, by simp [effs, h]⟩
      simp only [effs, h, writes_append, List.length_append, hhit]
      split_ifs <;> simp [writes]
    · obtain ⟨post, heq, hw, hpost⟩ := h
      refine ⟨?_, post, by simp only [effs, heq, List.cons_append, List.append_assoc], hw, hpost⟩
      simp only [effs, heq, writes_append, List.length_append, hhit, hw, writes, List.cons_append,
        writes_registrations]
      split_ifs <;> simp

/-! ### The contract -/

/-- What one `ServeDNS` does, for every query, cache and upstream outcome. It
panics only when `getResolver` draws no resolver from the list it reads, the
remote list for a policy query and the local one otherwise, which for a list
shorter than `2 ^ 31` means an empty one. It writes at most one response. A
query with a policy name and a cached answer that asks for no refresh gets
that answer under its own id and nothing else happens. Otherwise a policy
query gets the cached answer first, if any, and one tunnel exchange with the
remote resolver `getResolver` draws, unless the query cannot be packed; the
response's INET A addresses and CNAME targets are registered before it is
cached or written, and it is written, under the query's id, only when no
cached answer was. Any other query gets one exchange with the local resolver
`getResolver` draws, and its response unchanged. -/
theorem serveDNS_contract (c : DnsServer) (checkDomain : GoString → Bool) (r : Msg)
    (u : Upstream) (clock : Clock) :
    match serveDNS c checkDomain r u clock with
    | none =>
      getResolver (if r.question.any (fun q => checkDomain (trimDot q.name))
          then c.remoteResolver else c.localResolver) u.pick = none ∧
      ((if r.question.any (fun q => checkDomain (trimDot q.name))
          then c.remoteResolver else c.localResolver).length < 2147483648 →
        (if r.question.any (fun q => checkDomain (trimDot q.name))
          then c.remoteResolver else c.localResolver) = [])
    | some (effs, _) =>
      (writes effs).length ≤ 1 ∧
      if r.question.any (fun q => checkDomain (trimDot q.name)) then
        match (checkCache c.dnsCaches r clock.lookup).1 with
        | (some m, false) => m.id = r.id ∧ effs = [.write m]
        | (hit, _) =>
          (∀ m, hit = some m → m.id = r.id) ∧
          ∃ addr, getResolver c.remoteResolver u.pick = some addr ∧
          match u.pack, u.tunnelReply with
          | .error _, _ => effs = hit.toList.map .write
          | .ok data, .error _ => effs = hit.toList.map .write ++ [.tunnel addr data]
          | .ok data, .ok resp => ∃ post,
            effs = hit.toList.map .write ++ .tunnel addr data :: registrations resp.answer ++ post ∧
            writes post = (if hit.isSome then [] else [{ resp with id := r.id }]) ∧
            ∀ e ∈ post, (∃ m, e = .write m) ∨ ∃ d m ttl, e = .addCache d m ttl
      else ∃ addr, getResolver c.localResolver u.pick = some addr ∧
        effs = .exchange addr r ::
          match u.localReply with
          | .ok m => [.write m]
          | .error _ => [] := by
  have hany : (r.question.find? fun q => checkDomain (trimDot q.name)).isSome =
      r.question.any (fun q => checkDomain (trimDot q.name)) := by
    rw [Bool.eq_iff_iff, Option.isSome_iff_exists, List.any_eq_true]
    constructor
    · rintro ⟨q, hq⟩
      have hp := List.find?_some hq
      exact ⟨q, List.mem_of_find?_eq_some hq, hp⟩
    · rintro ⟨q, hq, hp⟩
      exact Option.isSome_iff_exists.mp (List.find?_isSome.mpr ⟨q, hq, hp⟩)
  have hpanic : ∀ resolvers, getResolver resolvers u.pick = none →
      (resolvers.length < 2147483648 → resolvers = []) := fun _ hr hlen =>
    (getResolver_eq_none_iff u.pick hlen).mp hr
  rcases hq : r.question.find? (fun q => checkDomain (trimDot q.name)) with _ | q
  · rw [hq] at hany
    simp only [serveDNS, hq, ← hany, Option.isSome_none, if_false]
    rcases hr : getResolver c.localResolver u.pick with _ | addr
    · exact ⟨hr, hpanic _ hr⟩
    · rcases u.localReply with err | m <;> simp [hr, writes]
  · rw [hq] at hany
    simp only [serveDNS, hq, ← hany, Option.isSome_some, if_true]
    rcases hc : checkCache c.dnsCaches r clock.lookup with ⟨⟨_ | m, _ | _⟩, cache⟩
    case some.mk.mk.some.false =>
      exact ⟨by simp [writes], checkCache_id (by rw [hc]), rfl⟩
    all_goals
      rcases hr : getResolver c.remoteResolver u.pick with _ | addr
      · exact ⟨rfl, hpanic _ hr⟩
      · obtain ⟨hw, hshape⟩ := hit_then_proxyResolve _ cache (trimDot q.name) r addr u clock
        exact ⟨hw, fun m' hm' =>
          @checkCache_id c.dnsCaches r clock.lookup m' _ (by rw [hc, hm']), addr, rfl, hshape⟩

/-! ### The spec's `example.com` -/

/-- A server with one local and one remote resolver and caching on. -/
def sampleServer : DnsServer :=
  ⟨["192.168.1.1:53".toList], ["8.8.8.8:53".toList], some ∅, 1, 5000000000⟩

/-- A policy list holding `example.com`. -/
def exampleOnly (name : GoString) : Bool := name = "example.com".toList

/-- An A query for `example.com.`. -/
def queryA : Msg := ⟨1, [⟨"example.com.".toList, 1, 1⟩], []⟩

/-- A query that cannot be packed, for a name not yet cached: nothing is
exchanged and nothing written. -/
theorem serveDNS_unpacked_miss :
    (serveDNS sampleServer exampleOnly queryA
      ⟨.error (.new "dns: bad rdata"), .ok queryA, .error (.external 0), 0⟩
      ⟨0, ⟨0, 0, Int.le_refl _⟩⟩).map Prod.fst = some [] := by
  decide

end Redfrog.DnsProxy
