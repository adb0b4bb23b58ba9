import Mathlib.Data.List.AList
import Redfrog.Go.Basic

/-!
# The DNS response cache

`DnsServer.dnsCaches` is `nil` while caching is off and otherwise a map from
a domain, without its trailing dot, to an entry holding the response and two
deadlines: `halfTtl`, after which a hit also asks for a refresh, and `ttl`,
after which the entry is dropped on its next lookup. Every operation holds
`dnsCacheMux`, so the cache is a state machine whose steps are `AddDnsCache`,
`DelDnsCache`, `GetDnsCache` and the cache part of `Reload`.

Times are nanoseconds as `Int`. `AddDnsCache` reads the clock twice, once
per deadline; the readings are ordered because Go's `time.Now` carries a
monotonic reading, and the durations are `int64` products, which no `uint32`
TTL overflows.

The reference (`stored`) reads the history of operations, newest first, and
says which entry the latest `AddDnsCache(d, …)` still in force stored, with
its deadlines computed without wrap-around. The code refines it: after any
history, each lookup of the cache gives the reference's entry, and
`GetDnsCache` answers as the reference says.
-/

namespace Redfrog.DnsProxy

open Go

variable {α : Type}

/-- `dnsCacheEntry`: a response and its two deadlines. -/
structure DnsCacheEntry (α : Type) where
  response : α
  halfTtl : Int
  ttl : Int
  deriving DecidableEq, Repr

/-- `DnsServer.dnsCaches`: `none` while caching is off, otherwise `caches`. -/
abbrev DnsCache (α : Type) := Option (AList fun _ : GoString => DnsCacheEntry α)

/-- The two readings of `time.Now()` in one `AddDnsCache`, in order. -/
structure Readings where
  t1 : Int
  t2 : Int
  le : t1 ≤ t2

/-- `AddDnsCache(domain, response, ttl)`: nothing while caching is off. -/
def addDnsCache (c : DnsCache α) (domain : GoString) (response : α) (ttl : UInt32)
    (now : Readings) : DnsCache α :=
  c.map (·.insert domain
    ⟨response, now.t1 + seconds (ttl >>> 1).toNat, now.t2 + seconds ttl.toNat⟩)

/-- `DelDnsCache(domain)`. -/
def delDnsCache (c : DnsCache α) (domain : GoString) : DnsCache α :=
  c.map (·.erase domain)

/-- `GetDnsCache(domain)` at time `now`: the response, or `none` for `nil`,
and whether to refresh; an entry past its `ttl` is deleted. -/
def getDnsCache (c : DnsCache α) (domain : GoString) (now : Int) :
    (Option α × Bool) × DnsCache α :=
  match c with
  | none => ((none, false), none)
  | some caches =>
    match caches.lookup domain with
    | none => ((none, false), c)
    | some res =>
      if now < res.ttl then ((some res.response, decide (res.halfTtl < now)), c)
      else ((none, false), some (caches.erase domain))

/-- The cache part of `Reload(dnsConfig)`: a new empty map when caching is
turned on, `nil` when it is turned off, otherwise the cache as it was. -/
def reloadCache (cache : Bool) : DnsCache α → DnsCache α
  | none => if cache then some ∅ else none
  | some caches => if cache then some caches else none

/-- The cache `StartDnsServer` sets up. -/
def startCache (cache : Bool) : DnsCache α := if cache then some ∅ else none

/-! ### Runs -/

/-- An operation on the cache, each under `dnsCacheMux`. -/
inductive CacheOp (α : Type) where
  | add (domain : GoString) (response : α) (ttl : UInt32) (now : Readings)
  | del (domain : GoString)
  | get (domain : GoString) (now : Int)
  | reload (cache : Bool)

/-- One operation on the cache. -/
def CacheOp.apply (c : DnsCache α) : CacheOp α → DnsCache α
  | .add d r ttl now => addDnsCache c d r ttl now
  | .del d => delDnsCache c d
  | .get d now => (getDnsCache c d now).2
  | .reload cache => reloadCache cache c

/-- The cache after a history of operations, newest first, from the one
`StartDnsServer` set up. -/
def runCache (cache : Bool) : List (CacheOp α) → DnsCache α
  | [] => startCache cache
  | op :: h => op.apply (runCache cache h)

/-- What the cache holds for `d`. -/
def lookupCache (c : DnsCache α) (d : GoString) : Option (DnsCacheEntry α) :=
  c.bind (·.lookup d)

/-! ### The reference -/

/-- Whether caching is on after a history, newest first. -/
def enabledAfter (cache : Bool) : List (CacheOp α) → Bool
  | [] => cache
  | .reload b :: _ => b
  | _ :: h => enabledAfter cache h

/-- The entry an `AddDnsCache` at readings `now` means to store: deadlines
`ttl / 2` and `ttl` seconds after the two readings. -/
def entryOf (response : α) (ttl : UInt32) (now : Readings) : DnsCacheEntry α :=
  ⟨response, now.t1 + (ttl.toNat / 2 : Nat) * 1000000000, now.t2 + ttl.toNat * 1000000000⟩

/-- The reference TTL map: the entry of the latest `AddDnsCache(d, …)` made
while caching was on and not since removed by `DelDnsCache(d)`, by a lookup of
`d` past its `ttl`, or by turning caching off. -/
def stored (cache : Bool) (d : GoString) : List (CacheOp α) → Option (DnsCacheEntry α)
  | [] => none
  | .add d' r ttl now :: h =>
    if d' = d ∧ enabledAfter cache h then some (entryOf r ttl now) else stored cache d h
  | .del d' :: h => if d' = d then none else stored cache d h
  | .get d' now :: h =>
    match stored cache d h with
    | some e => if d' = d ∧ e.ttl ≤ now then none else some e
    | none => none
  | .reload b :: h => if b then stored cache d h else none

/-- What `GetDnsCache` at `now` should answer for an entry. -/
def expectedGet (e : Option (DnsCacheEntry α)) (now : Int) : Option α × Bool :=
  match e with
  | some e => if now < e.ttl then (some e.response, decide (e.halfTtl < now)) else (none, false)
  | none => (none, false)

/-- A cache all of whose entries have `halfTtl ≤ ttl`. -/
def WellTimed (c : DnsCache α) : Prop :=
  ∀ d e, lookupCache c d = some e → e.halfTtl ≤ e.ttl

/-! ### Each operation against the reference -/

section Lookup

variable (c : DnsCache α) (d d' : GoString)

/-- A `uint32` TTL and its half never overflow their `time.Duration`. -/
theorem addDnsCache_entry (r : α) (ttl : UInt32) (now : Readings) :
    (⟨r, now.t1 + seconds (ttl >>> 1).toNat, now.t2 + seconds ttl.toNat⟩ : DnsCacheEntry α) =
      entryOf r ttl now := by
  have hlt : ttl.toNat < 4294967296 := ttl.toBitVec.isLt
  have hhalf : (ttl >>> 1).toNat = ttl.toNat / 2 := by
    show (ttl.toBitVec >>> (UInt32.mod 1 32).toBitVec).toNat = _
    simp [BitVec.toNat_ushiftRight, Nat.shiftRight_eq_div_pow]
    rfl
  rw [entryOf, seconds_of_lt hlt, hhalf, seconds_of_lt (by omega)]

theorem lookupCache_add (r : α) (ttl : UInt32) (now : Readings) :
    lookupCache (addDnsCache c d' r ttl now) d =
      if d' = d ∧ c.isSome then some (entryOf r ttl now) else lookupCache c d := by
  rcases c with _ | m
  · simp [lookupCache, addDnsCache]
  · by_cases hd : d' = d
    · subst hd
      simp [lookupCache, addDnsCache, AList.lookup_insert, addDnsCache_entry]
    · simp [lookupCache, addDnsCache, AList.lookup_insert_ne (Ne.symm hd), hd]

theorem lookupCache_del :
    lookupCache (delDnsCache c d') d = if d' = d then none else lookupCache c d := by
  rcases c with _ | m
  · simp [lookupCache, delDnsCache]
  · by_cases hd : d' = d
    · subst hd; simp [lookupCache, delDnsCache, AList.lookup_erase]
    · simp [lookupCache, delDnsCache, AList.lookup_erase_ne (Ne.symm hd), hd]

theorem lookupCache_get (now : Int) :
    lookupCache (getDnsCache c d' now).2 d =
      match lookupCache c d with
      | some e => if d' = d ∧ e.ttl ≤ now then none else some e
      | none => none := by
  rcases c with _ | m
  · rfl
  · simp only [getDnsCache]
    split
    · rename_i hnone
      by_cases hd : d' = d
      · subst hd; simp [lookupCache, hnone]
      · cases lookupCache (some m) d <;> simp [lookupCache, hd]
    · rename_i res hres
      split_ifs with hlt
      · by_cases hd : d' = d
        · subst hd; simp [lookupCache, hres, not_le.mpr hlt]
        · cases h : lookupCache (some m) d <;> simp_all [lookupCache]
      · by_cases hd : d' = d
        · subst hd; simp [lookupCache, hres, AList.lookup_erase, not_lt.mp hlt]
        · cases h : lookupCache (some m) d <;>
            simp_all [lookupCache, AList.lookup_erase_ne (Ne.symm hd)]

theorem lookupCache_reload (cache : Bool) :
    lookupCache (reloadCache cache c) d = if cache then lookupCache c d else none := by
  rcases c with _ | m <;> cases cache <;> rfl

theorem getDnsCache_answer (now : Int) :
    (getDnsCache c d now).1 = expectedGet (lookupCache c d) now := by
  rcases c with _ | m
  · rfl
  · simp only [getDnsCache, lookupCache, Option.some_bind]
    split <;> rename_i h <;> simp only [h, expectedGet]
    split_ifs <;> rfl

end Lookup

theorem isSome_runCache (cache : Bool) (h : List (CacheOp α)) :
    (runCache cache h).isSome = enabledAfter cache h := by
  induction h with
  | nil => cases cache <;> rfl
  | cons op h ih =>
    cases op with
    | add => simpa [runCache, CacheOp.apply, addDnsCache, enabledAfter] using ih
    | del => simpa [runCache, CacheOp.apply, delDnsCache, enabledAfter] using ih
    | get d now =>
      simp only [runCache, CacheOp.apply, enabledAfter, ← ih, getDnsCache]
      rcases runCache cache h with _ | m
      · rfl
      · simp only [Option.isSome_some]; split
        · rfl
        · split_ifs <;> rfl
    | reload b =>
      simp only [runCache, CacheOp.apply, enabledAfter]
      rcases runCache cache h with _ | m <;> cases b <;> rfl

/-- After any history, the cache holds for each domain the reference's entry. -/
theorem lookupCache_runCache (cache : Bool) (d : GoString) (h : List (CacheOp α)) :
    lookupCache (runCache cache h) d = stored cache d h := by
  induction h with
  | nil => cases cache <;> rfl
  | cons op h ih =>
    cases op with
    | add d' r ttl now =>
      simp only [runCache, CacheOp.apply, lookupCache_add, isSome_runCache, ih, stored]
    | del d' => simp only [runCache, CacheOp.apply, lookupCache_del, ih, stored]
    | get d' now => simp only [runCache, CacheOp.apply, lookupCache_get, ih, stored]
    | reload b => simp only [runCache, CacheOp.apply, lookupCache_reload, ih, stored]

/-- Every entry the reference holds has `halfTtl ≤ ttl`. -/
theorem stored_halfTtl_le (cache : Bool) (d : GoString) (h : List (CacheOp α))
    {e : DnsCacheEntry α} (he : stored cache d h = some e) : e.halfTtl ≤ e.ttl := by
  induction h generalizing e with
  | nil => cases he
  | cons op h ih =>
    cases op with
    | add d' r ttl now =>
      simp only [stored] at he
      split_ifs at he
      · cases he
        have := now.le
        simp only [entryOf]
        omega
      · exact ih he
    | del d' => simp only [stored] at he; split_ifs at he; exact ih he
    | get d' now =>
      simp only [stored] at he
      split at he
      · split_ifs at he; cases he; exact ih ‹_›
      · cases he
    | reload b => simp only [stored] at he; split_ifs at he; exact ih he

/-- The cache against its reference, over every history of `AddDnsCache`,
`DelDnsCache`, `GetDnsCache` and `Reload` from the cache `StartDnsServer`
set up: every entry has `halfTtl ≤ ttl`; the cache is on exactly when the
latest `Reload` (or the start) turned it on; and `GetDnsCache(d)` at `now`
misses when the reference holds nothing for `d` or `now` is past its `ttl`
(and then deletes it), and otherwise returns the stored response, asking for
a refresh exactly when `halfTtl < now`. -/
theorem getDnsCache_refines (cache : Bool) (h : List (CacheOp α)) :
    WellTimed (runCache cache h) ∧ (runCache cache h).isSome = enabledAfter cache h ∧
    ∀ d now, (getDnsCache (runCache cache h) d now).1 =
      match stored cache d h with
      | some e => if now < e.ttl then (some e.response, decide (e.halfTtl < now)) else (none, false)
      | none => (none, false) := by
  refine ⟨fun d e he => ?_, isSome_runCache cache h, fun d now => ?_⟩
  · rw [lookupCache_runCache] at he
    exact stored_halfTtl_le cache d h he
  · rw [getDnsCache_answer, lookupCache_runCache]
    rfl

/-- The spec's cached `example.com` answer with TTL 300, added at time 0:
looked up at exactly its `halfTtl`, 150 s, it is a hit that asks for no
refresh, since `now.After(res.halfTtl)` is strict. -/
theorem getDnsCache_at_halfTtl :
    let c : DnsCache Nat :=
      addDnsCache (startCache true) "example.com".toList 7 300 ⟨0, 0, Int.le_refl _⟩
    (lookupCache c "example.com".toList).map (·.halfTtl) = some 150000000000 ∧
      (getDnsCache c "example.com".toList 150000000000).1 = (some 7, false) := by
  decide

end Redfrog.DnsProxy
