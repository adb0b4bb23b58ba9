import Redfrog.DnsProxy.ServeDNS

/-!
# What the cache answers, over a run of queries

Run `ServeDNS` on any sequence of queries, each with its own policy list,
upstream answers and clock. Every entry of the cache then comes from a tunnel
response to an earlier query (`Provenance`): it is stored under that query's
policy name, holds an INET A record, and expires the largest INET TTL of the
response after its `AddDnsCache`. So an answer from the cache is an earlier
tunnel response under the new query's id, for a query one of whose INET
questions has the policy name of the earlier query.

That is all the cache promises. It is keyed by the name alone, so an answer
to an A query is served to a later MX query for the same name, and an entry
lives as long as the response's longest TTL, so an A record behind a longer
CNAME is served after its own TTL has run out.
-/

namespace Redfrog.DnsProxy

open Go

/-- One query of a run: the policy list's `CheckDomain` at that moment, the
query, what the world answers, and the clock. -/
structure Query where
  checkDomain : GoString → Bool
  r : Msg
  u : Upstream
  clock : Clock

/-- The server after a run of queries, newest first; a query that panics
leaves it as it was. -/
def serveRun (s₀ : DnsServer) : List Query → DnsServer
  | [] => s₀
  | q :: qs =>
    let s := serveRun s₀ qs
    match serveDNS s q.checkDomain q.r q.u q.clock with
    | some (_, cache) => { s with dnsCaches := cache }
    | none => s

/-- The name `ServeDNS` caches a query's answer under: its first question in
the policy list, without the trailing dot. -/
def policyName (checkDomain : GoString → Bool) (r : Msg) : Option GoString :=
  (r.question.find? fun q => checkDomain (trimDot q.name)).map (trimDot ·.name)

/-- Whether a record is an A record. -/
def RData.isA : RData → Bool
  | .a _ => true
  | _ => false

/-- Whether a response has an INET A record. -/
def hasInetA (answer : List RR) : Bool :=
  answer.any fun a => a.rrclass = classINET && a.data.isA

/-- The largest TTL of a response's INET answers, in seconds; 0 without. -/
def maxInetTtl (answer : List RR) : Nat :=
  (answer.filter (·.rrclass = classINET)).foldl (fun t a => max t a.ttl.toNat) 0

/-- Every entry of the cache came from the tunnel response to one of the
queries `qs`: it is stored under that query's policy name, the response has an
INET A record, and its deadlines are those `AddDnsCache` gave it. -/
def Provenance (qs : List Query) (cache : DnsCache Msg) : Prop :=
  ∀ d e, lookupCache cache d = some e → ∃ q₀ ∈ qs, ∃ resp, q₀.u.tunnelReply = .ok resp ∧
    policyName q₀.checkDomain q₀.r = some d ∧ hasInetA resp.answer = true ∧
    e = entryOf { resp with id := q₀.r.id } (scanAnswers 0 false resp.answer).1 q₀.clock.add

/-! ### The answer loop -/

/-- The loop over a response's answers computes the largest INET TTL and
whether there is an INET A record. -/
theorem scanAnswers_ttl_add (ttl : UInt32) (shouldAddCache : Bool) (answer : List RR) :
    (scanAnswers ttl shouldAddCache answer).1.toNat =
      (answer.filter (·.rrclass = classINET)).foldl (fun t a => max t a.ttl.toNat) ttl.toNat ∧
    (scanAnswers ttl shouldAddCache answer).2.1 = (shouldAddCache || hasInetA answer) := by
  induction answer generalizing ttl shouldAddCache with
  | nil => simp [scanAnswers, hasInetA]
  | cons a as ih =>
    have hmax : (if a.ttl > ttl then a.ttl else ttl).toNat = max ttl.toNat a.ttl.toNat := by
      simp only [gt_iff_lt, UInt32.lt_def, BitVec.lt_def]
      split_ifs <;> simp only [UInt32.toNat] <;> omega
    rcases a with ⟨name, cls, t, data⟩
    by_cases hc : cls = classINET
    · cases data <;>
        simp only [scanAnswers, hasInetA, RData.isA, List.filter_cons, hc, ih, hmax, if_true,
          decide_True, List.foldl_cons, List.any_cons, Bool.and_true, Bool.and_false,
          Bool.true_or, Bool.or_true, Bool.false_or, Bool.or_false, true_and]
    · simp [scanAnswers, hasInetA, List.filter_cons, hc, ih]

theorem maxInetTtl_eq (answer : List RR) :
    (scanAnswers 0 false answer).1.toNat = maxInetTtl answer :=
  (scanAnswers_ttl_add 0 false answer).1

/-! ### What each part does to the cache -/

/-- `GetDnsCache` only removes entries. -/
theorem lookupCache_of_getDnsCache {c : DnsCache Msg} {d d' : GoString} {now : Int}
    {e : DnsCacheEntry Msg} (h : lookupCache (getDnsCache c d' now).2 d = some e) :
    lookupCache c d = some e := by
  rw [lookupCache_get] at h
  split at h
  · split_ifs at h
    cases h
    assumption
  · cases h

/-- `checkCache` only removes entries. -/
theorem lookupCache_of_checkQuestions {r : Msg} {now : Int} {c : DnsCache Msg}
    {qs : List Question} {d : GoString} {e : DnsCacheEntry Msg}
    (h : lookupCache (checkQuestions r now c qs).2 d = some e) : lookupCache c d = some e := by
  induction qs generalizing c with
  | nil => exact h
  | cons q qs ih =>
    simp only [checkQuestions] at h
    split_ifs at h
    · split at h <;> rename_i heq
      · exact @lookupCache_of_getDnsCache c d (trimDot q.name) now e (by rw [heq]; exact h)
      · exact @lookupCache_of_getDnsCache c d (trimDot q.name) now e
          (by rw [heq]; exact ih h)
    · exact ih h

/-- A hit of `checkCache` is an entry, under the query's id, for the name of
one of its INET questions, before that entry's `ttl`. -/
theorem checkQuestions_hit {r : Msg} {now : Int} {c : DnsCache Msg} {qs : List Question}
    {m : Msg} {b : Bool} (h : (checkQuestions r now c qs).1 = (some m, b)) :
    ∃ q ∈ qs, q.qclass = classINET ∧ ∃ e, lookupCache c (trimDot q.name) = some e ∧
      now < e.ttl ∧ m = { e.response with id := r.id } := by
  induction qs generalizing c with
  | nil => cases h
  | cons q qs ih =>
    simp only [checkQuestions] at h
    split_ifs at h with hq
    · split at h <;> rename_i heq
      · cases h
        have hans := getDnsCache_answer c (trimDot q.name) now
        rw [heq] at hans
        rcases hl : lookupCache c (trimDot q.name) with _ | e
        · simp [expectedGet, hl] at hans
        · simp only [expectedGet, hl] at hans
          split_ifs at hans with hlt
          · simp only [Prod.mk.injEq, Option.some.injEq] at hans
            exact ⟨q, List.mem_cons_self _ _, hq, e, hl, hlt, by rw [hans.1]⟩
          · simp at hans
      · obtain ⟨q', hq', hcls, e, he, hlt, hm⟩ := ih h
        refine ⟨q', List.mem_cons_of_mem _ hq', hcls, e, ?_, hlt, hm⟩
        exact @lookupCache_of_getDnsCache c _ (trimDot q.name) now e (by rw [heq]; exact he)
    · obtain ⟨q', hq', hcls, e, he, hlt, hm⟩ := ih h
      exact ⟨q', List.mem_cons_of_mem _ hq', hcls, e, he, hlt, hm⟩

theorem lookupCache_of_checkCache {c : DnsCache Msg} {r : Msg} {now : Int} {d : GoString}
    {e : DnsCacheEntry Msg} (h : lookupCache (checkCache c r now).2 d = some e) :
    lookupCache c d = some e := by
  simp only [checkCache] at h
  split_ifs at h
  · exact lookupCache_of_checkQuestions h
  · exact h

/-- The tunnel half adds at most the query's response, and only one with an
INET A record. -/
theorem lookupCache_proxyResolve {cache : DnsCache Msg} {domainName : GoString} {r : Msg}
    {addr : GoString} {u : Upstream} {clock : Clock} {bWriteBack : Bool} {d : GoString}
    {e : DnsCacheEntry Msg}
    (h : lookupCache (proxyResolve cache domainName r addr u clock bWriteBack).2 d = some e) :
    lookupCache cache d = some e ∨ ∃ resp, u.tunnelReply = .ok resp ∧ domainName = d ∧
      hasInetA resp.answer = true ∧
      e = entryOf { resp with id := r.id } (scanAnswers 0 false resp.answer).1 clock.add := by
  rcases hp : u.pack with err | data
  · simp only [proxyResolve, hp] at h; exact .inl h
  · rcases ht : u.tunnelReply with err | resp
    · simp only [proxyResolve, hp, ht] at h; exact .inl h
    · simp only [proxyResolve, hp, ht] at h
      have hadd := (scanAnswers_ttl_add 0 false resp.answer).2
      split_ifs at h with hadds
      · rw [lookupCache_add] at h
        split_ifs at h with hd
        · cases h
          simp only [Bool.and_eq_true, hadd, Bool.false_or] at hadds
          exact .inr ⟨resp, rfl, hd.1, hadds.1, rfl⟩
        · exact .inl h
      · exact .inl h

/-- After one `ServeDNS`, the cache holds what it held, less what
`checkCache` dropped, and at most the query's tunnel response, under the
query's policy name. -/
theorem lookupCache_serveDNS {c : DnsServer} {checkDomain : GoString → Bool} {r : Msg}
    {u : Upstream} {clock : Clock} {effs : List Effect} {cache' : DnsCache Msg}
    (hs : serveDNS c checkDomain r u clock = some (effs, cache')) {d : GoString}
    {e : DnsCacheEntry Msg} (h : lookupCache cache' d = some e) :
    lookupCache c.dnsCaches d = some e ∨ ∃ resp, u.tunnelReply = .ok resp ∧
      policyName checkDomain r = some d ∧ hasInetA resp.answer = true ∧
      e = entryOf { resp with id := r.id } (scanAnswers 0 false resp.answer).1 clock.add := by
  unfold serveDNS at hs
  unfold policyName
  split at hs
  · rename_i q hq
    rw [hq]
    split at hs
    · rename_i cache _ hc
      cases hs
      exact .inl (lookupCache_of_checkCache (by rw [hc]; exact h))
    · rename_i hit _ cache _ hc
      obtain ⟨addr, -, hadd⟩ := Option.map_eq_some'.mp hs
      cases hadd
      rcases lookupCache_proxyResolve h with h | ⟨resp, hresp, rfl, hA, rfl⟩
      · exact .inl (lookupCache_of_checkCache (by rw [hc]; exact h))
      · exact .inr ⟨resp, hresp, rfl, hA, rfl⟩
  · obtain ⟨addr, -, hadd⟩ := Option.map_eq_some'.mp hs
    split at hadd <;> cases hadd <;> exact .inl h

/-- Every entry of the cache comes from the tunnel, over every run from an
empty cache. -/
theorem provenance_serveRun (s₀ : DnsServer) (h₀ : ∀ d, lookupCache s₀.dnsCaches d = none) :
    ∀ qs, Provenance qs (serveRun s₀ qs).dnsCaches
  | [] => fun d e he => by simp [serveRun, h₀ d] at he
  | q :: qs => by
    have ih := provenance_serveRun s₀ h₀ qs
    have mono : ∀ d e, lookupCache (serveRun s₀ qs).dnsCaches d = some e → ∃ q₀ ∈ q :: qs,
        ∃ resp, q₀.u.tunnelReply = .ok resp ∧ policyName q₀.checkDomain q₀.r = some d ∧
          hasInetA resp.answer = true ∧
          e = entryOf { resp with id := q₀.r.id } (scanAnswers 0 false resp.answer).1
            q₀.clock.add := fun d e he => by
      obtain ⟨q₀, hq₀, rest⟩ := ih d e he
      exact ⟨q₀, List.mem_cons_of_mem _ hq₀, rest⟩
    intro d e he
    simp only [serveRun] at he
    split at he
    · rename_i effs cache hs
      rcases lookupCache_serveDNS hs he with he | ⟨resp, hresp, hname, hA, rfl⟩
      · exact mono d e he
      · exact ⟨q, List.mem_cons_self _ _, resp, hresp, hname, hA, rfl⟩
    · exact mono d e he

/-- Over every run of `ServeDNS` from an empty cache, an answer from the cache
to a query `q` is the tunnel's response to an earlier query `q₀`, under `q`'s
id: a response with an INET A record, cached under `q₀`'s policy name, which
is the name of one of `q`'s INET questions, whatever its type; and the lookup
comes before the largest INET TTL of the response has run out since its
`AddDnsCache`. -/
theorem cache_answer_provenance (s₀ : DnsServer) (h₀ : ∀ d, lookupCache s₀.dnsCaches d = none)
    (qs : List Query) (q : Query) {m : Msg} {b : Bool}
    (hm : (checkCache (serveRun s₀ qs).dnsCaches q.r q.clock.lookup).1 = (some m, b)) :
    ∃ q₀ ∈ qs, ∃ resp, q₀.u.tunnelReply = .ok resp ∧ m = { resp with id := q.r.id } ∧
      hasInetA resp.answer = true ∧
      (∃ question ∈ q.r.question, question.qclass = classINET ∧
        policyName q₀.checkDomain q₀.r = some (trimDot question.name)) ∧
      q.clock.lookup < q₀.clock.add.t2 + maxInetTtl resp.answer * 1000000000 := by
  simp only [checkCache] at hm
  split_ifs at hm
  · obtain ⟨question, hmem, hcls, e, he, hlt, rfl⟩ := checkQuestions_hit hm
    obtain ⟨q₀, hq₀, resp, hresp, hname, hA, rfl⟩ := provenance_serveRun s₀ h₀ qs _ e he
    refine ⟨q₀, hq₀, resp, hresp, rfl, hA, ⟨question, hmem, hcls, hname⟩, ?_⟩
    rw [← maxInetTtl_eq]
    exact hlt
  · cases hm

/-! ### The spec's `example.com`, asked again -/

/-- An MX query for `example.com.`. -/
def queryMX : Msg := ⟨2, [⟨"example.com.".toList, 15, 1⟩], []⟩

/-- The tunnel's answer to `queryA`: a CNAME with TTL 3600 and, behind it, an
A record with TTL 60. -/
def replyA : Msg :=
  ⟨1, [⟨"example.com.".toList, 1, 1⟩],
    [⟨"example.com.".toList, 1, 3600, .cname "cdn.example.net.".toList⟩,
      ⟨"cdn.example.net.".toList, 1, 60, .a [93, 184, 216, 34]⟩]⟩

/-- `queryA` at time 0, answered through the tunnel with `replyA`. -/
def firstQuery : Query :=
  ⟨exampleOnly, queryA, ⟨.ok [0], .ok replyA, .error (.external 0), 0⟩, ⟨0, ⟨0, 0, Int.le_refl _⟩⟩⟩

/-- `queryMX` 100 s later. -/
def laterMX : Query :=
  ⟨exampleOnly, queryMX, ⟨.ok [0], .error (.external 0), .error (.external 0), 0⟩,
    ⟨100000000000, ⟨100000000000, 100000000000, Int.le_refl _⟩⟩⟩

theorem cache_answer_provenance_sample :
    (∀ d, lookupCache sampleServer.dnsCaches d = none) ∧
    (checkCache (serveRun sampleServer [firstQuery]).dnsCaches laterMX.r laterMX.clock.lookup).1 =
      (some { replyA with id := 2 }, false) ∧
    ∃ q₀ ∈ [firstQuery], ∃ resp, q₀.u.tunnelReply = .ok resp ∧
      { replyA with id := 2 } = { resp with id := laterMX.r.id } ∧ hasInetA resp.answer = true ∧
      (∃ question ∈ laterMX.r.question, question.qclass = classINET ∧
        policyName q₀.checkDomain q₀.r = some (trimDot question.name)) ∧
      laterMX.clock.lookup < q₀.clock.add.t2 + maxInetTtl resp.answer * 1000000000 :=
  have h₀ : ∀ d, lookupCache sampleServer.dnsCaches d = none := fun _ => rfl
  have hm : (checkCache (serveRun sampleServer [firstQuery]).dnsCaches laterMX.r
      laterMX.clock.lookup).1 = (some { replyA with id := 2 }, false) := by decide
  ⟨h₀, hm, cache_answer_provenance sampleServer h₀ [firstQuery] laterMX hm⟩

/-- The A answer for `example.com`, cached at time 0 for the 3600 s of its
CNAME, answers an MX query for the same name 100 s later, when the A record's
own 60 s have run out. -/
theorem cache_serves_expired_A_to_MX :
    (serveDNS (serveRun sampleServer [firstQuery]) laterMX.checkDomain laterMX.r laterMX.u
        laterMX.clock).map Prod.fst = some [.write { replyA with id := 2 }] ∧
      replyA.question.map Question.qtype = [1] ∧ queryMX.question.map Question.qtype = [15] ∧
      replyA.answer.map RR.ttl = [3600, 60] := by
  decide

end Redfrog.DnsProxy
