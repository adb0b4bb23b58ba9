import Redfrog.ProxyClient.NatMachine

/-!
# The DNS NAT table under concurrency

`RelayDNS` keys its socket by the caller's `srcAddr`: it reuses the socket
`dnsNatMap` holds for that key, or opens one and adds it, and its deferred
cleanup deletes the key and closes the socket it used. Calls for one key that
overlap therefore share a socket, and each closes it: one may read another's
reply, or find the socket closed under it, and the socket is closed once per
call that used it.

What holds in every run (`DnsInv`): a socket in the table, or held by a call,
was opened by a `RelayDNS` call for the same key, so calls for different keys
never share a socket; and every socket a call opens is closed by the time
that call has returned. How often each socket is closed is counted in
`CloseCounts`.
-/

namespace Redfrog.ProxyClient

open Go BackendState

variable {cv : GoString → Except GoError Bytes} {t : Int} {s s' : BackendState}

/-- Socket `c` was opened by a `RelayDNS` call for the key `k`. -/
def OpenedFor (s : BackendState) (k : GoString) (c : Nat) : Prop :=
  ∃ j dns pc, (c, j) ∈ s.opened ∧ s.tasks j = some (.relayDNS k dns pc)

/-- The DNS socket bookkeeping every reachable state keeps. -/
structure DnsInv (s : BackendState) : Prop where
  /-- A socket in the table was opened for its key. -/
  mapOpened : ∀ k c, s.dnsNatMap.lookup k = some c → OpenedFor s k c
  /-- A socket a call holds was opened for the call's key. -/
  heldOpened : ∀ i src dns pc c, s.tasks i = some (.relayDNS src dns pc) → pc.conn = some c →
    OpenedFor s src c
  /-- The call that opened a socket holds it until it has closed it. -/
  openerCloses : ∀ c j src dns pc, (c, j) ∈ s.opened → s.tasks j = some (.relayDNS src dns pc) →
    c ∈ s.closed ∨ pc.conn = some c

/-- A `RelayDNS` call stays the same call, whatever runs. -/
theorem step_keeps_relayDNS (hwf : WellFormed s) {e : Event} (hs : step cv t s e = some s')
    {j : Nat} {k dns : GoString} {pc : DnsPc} (hj : s.tasks j = some (.relayDNS k dns pc)) :
    ∃ pc', s'.tasks j = some (.relayDNS k dns pc') := by
  have hjn : j ≠ s.nextTask := (hwf.lt_of_some hj).ne
  cases e with
  | relayUDP | relayDNS => cases hs; exact ⟨pc, by simp [Function.update_noteq hjn, hj]⟩
  | stop => cases hs; exact ⟨pc, hj⟩
  | step i ok =>
    by_cases hji : j = i
    · subst hji
      simp only [Redfrog.ProxyClient.step, hj] at hs
      exact (relayDNSStep_spec (hwf.lt_of_some hj) hs).2.2
    · exact ⟨pc, by rw [(step_frame hwf hs).tasks j hji hjn, hj]⟩

theorem OpenedFor.step (hwf : WellFormed s) {e : Event} (hs : step cv t s e = some s')
    {k : GoString} {c : Nat} (h : OpenedFor s k c) : OpenedFor s' k c := by
  obtain ⟨j, dns, pc, hc, hj⟩ := h
  obtain ⟨pc', hj'⟩ := step_keeps_relayDNS hwf hs hj
  refine ⟨j, dns, pc', ?_, hj'⟩
  cases e with
  | relayUDP | relayDNS | stop => cases hs; exact hc
  | step i ok => exact (step_frame hwf hs).opened_sub hc

/-- What one step of a `RelayDNS` call does with sockets: the table only gains
the socket the call holds, under its own key; the call only takes a socket
from the table or one it has just opened; and it lets go of a socket only by
closing it. -/
theorem relayDNSStep_conn {i : Nat} {src dns : GoString} {ok : Bool} {pc : DnsPc}
    (hs : relayDNSStep cv s i src dns ok pc = some s') :
    ∃ pc', s'.tasks i = some (.relayDNS src dns pc') ∧
      (∀ k c, s'.dnsNatMap.lookup k = some c →
        s.dnsNatMap.lookup k = some c ∨ (k = src ∧ pc.conn = some c)) ∧
      (∀ c, pc'.conn = some c → pc.conn = some c ∨ s.dnsNatMap.lookup src = some c ∨
        (c, i) ∈ s'.opened) ∧
      (∀ c, pc.conn = some c → pc'.conn = some c ∨ c ∈ s'.closed) ∧
      (∀ c, (c, i) ∈ s'.opened → (c, i) ∈ s.opened ∨ pc'.conn = some c) := by
  cases pc with
  | convert =>
    simp only [relayDNSStep] at hs
    split at hs <;> cases hs <;> exact ⟨_, Function.update_same _ _ _, fun _ _ => .inl,
      fun _ h => Option.noConfusion h, fun _ h => Option.noConfusion h, fun _ => .inl⟩
  | get =>
    simp only [relayDNSStep] at hs
    split at hs <;> cases hs
    · rename_i c hc
      exact ⟨_, Function.update_same _ _ _, fun _ _ => .inl,
        fun _ h => .inr (.inl (by cases h; exact hc)), fun _ h => Option.noConfusion h,
        fun _ => .inl⟩
    · exact ⟨_, Function.update_same _ _ _, fun _ _ => .inl, fun _ h => Option.noConfusion h,
        fun _ h => Option.noConfusion h, fun _ => .inl⟩
  | listen =>
    simp only [relayDNSStep] at hs
    split at hs <;> cases hs
    · exact ⟨_, Function.update_same _ _ _, fun _ _ => .inl,
        fun _ h => .inr (.inr (by cases h; exact List.mem_cons_self _ _)),
        fun _ h => Option.noConfusion h,
        fun _ hc => (List.mem_cons.mp hc).elim (fun h => .inr (by cases h; rfl)) .inl⟩
    · exact ⟨_, Function.update_same _ _ _, fun _ _ => .inl, fun _ h => Option.noConfusion h,
        fun _ h => Option.noConfusion h, fun _ => .inl⟩
  | add c =>
    cases hs
    refine ⟨.write c, by simp, fun k c' hk => ?_, by simp [DnsPc.conn], by simp [DnsPc.conn],
      fun _ => .inl⟩
    by_cases hk' : k = src
    · subst hk'; simp_all [AList.lookup_insert, DnsPc.conn]
    · simp_all [AList.lookup_insert_ne hk']
  | del c =>
    cases hs
    refine ⟨.close c, by simp, fun k c' hk => ?_, by simp [DnsPc.conn], by simp [DnsPc.conn],
      fun _ => .inl⟩
    by_cases hk' : k = src
    · subst hk'; simp [AList.lookup_erase] at hk
    · simp_all [AList.lookup_erase_ne hk']
  | write c =>
    cases hs
    exact ⟨_, Function.update_same _ _ _, fun _ _ => .inl, by cases ok <;> simp [DnsPc.conn],
      by cases ok <;> simp [DnsPc.conn], fun _ => .inl⟩
  | read c | close c =>
    cases hs
    exact ⟨_, Function.update_same _ _ _, fun _ _ => .inl, by simp [DnsPc.conn],
      by simp [DnsPc.conn], fun _ => .inl⟩
  | done => cases hs

/-- A `RelayDNS` task after a step of another task was that task before it. -/
private theorem relayDNS_before {i j : Nat} {k dns : GoString} {pc : DnsPc}
    (hf : TaskFrame s s' i) (hji : j ≠ i) (hj : s'.tasks j = some (.relayDNS k dns pc)) :
    s.tasks j = some (.relayDNS k dns pc) := by
  by_cases hjn : j = s.nextTask
  · subst hjn
    rcases hf.spawned with ⟨-, hsame⟩ | ⟨-, k', e', hr⟩
    · rwa [← hsame]
    · rw [hr] at hj; cases hj
  · rwa [← hf.tasks j hji hjn]

/-- After a step of the `RelayDNS` call `i`, a `RelayDNS` task is either that
call where it went or a task that was there before. -/
private theorem relayDNS_after {i j : Nat} {src dns k d : GoString} {pc' p : DnsPc}
    (hf : TaskFrame s s' i) (hti' : s'.tasks i = some (.relayDNS src dns pc'))
    (hj : s'.tasks j = some (.relayDNS k d p)) :
    (j = i ∧ k = src ∧ d = dns ∧ p = pc') ∨ (j ≠ i ∧ s.tasks j = some (.relayDNS k d p)) := by
  by_cases hji : j = i
  · subst hji
    rw [hti'] at hj
    simp only [Option.some.injEq, Task.relayDNS.injEq] at hj
    exact .inl ⟨rfl, hj.1.symm, hj.2.1.symm, hj.2.2.symm⟩
  · exact .inr ⟨hji, relayDNS_before hf hji hj⟩

/-- A step of a task that is not a `RelayDNS` call keeps the invariant. -/
private theorem DnsInv.of_other {i : Nat} (hwf : WellFormed s) (h : DnsInv s) {e : Event}
    (hs : step cv t s e = some s') (hf : TaskFrame s s' i) (hmap : s'.dnsNatMap = s.dnsNatMap)
    (hi : ∀ k dns pc, s.tasks i ≠ some (.relayDNS k dns pc))
    (hi' : ∀ k dns pc, s'.tasks i ≠ some (.relayDNS k dns pc)) : DnsInv s' := by
  have before : ∀ j k dns pc, s'.tasks j = some (.relayDNS k dns pc) →
      s.tasks j = some (.relayDNS k dns pc) := fun j k dns pc hj =>
    relayDNS_before hf (by rintro rfl; exact hi' _ _ _ hj) hj
  refine ⟨fun k c hk => (h.mapOpened k c (hmap ▸ hk)).step hwf hs,
    fun j src dns pc c hj hc => (h.heldOpened j _ _ _ c (before _ _ _ _ hj) hc).step hwf hs,
    fun c j src dns pc hc hj => ?_⟩
  rcases hf.mem_opened hc with hc | hc
  · exact (h.openerCloses c j _ _ _ hc (before _ _ _ _ hj)).imp_left hf.closed_sub
  · simp only [Prod.mk.injEq] at hc
    exact absurd (before _ _ _ _ hj) (hc.2 ▸ hi _ _ _)

theorem DnsInv.taskStep {i : Nat} {ok : Bool} (hwf : WellFormed s) (h : DnsInv s)
    (hs : step cv t s (.step i ok) = some s') : DnsInv s' := by
  have hf := step_frame hwf hs
  have hstep := hs
  simp only [Redfrog.ProxyClient.step] at hstep
  split at hstep
  case h_1 src dst pc hti =>
    obtain ⟨-, hmap, -, pc', hti'⟩ := relayUDPStep_spec (hwf.lt_of_some hti) hstep
    exact h.of_other hwf hs hf hmap (by simp [hti]) (by simp [hti'])
  case h_2 key e pc hti =>
    obtain ⟨hmap, -, hcases⟩ := readerStep_spec (hwf.lt_of_some hti) hstep
    refine h.of_other hwf hs hf hmap (by simp [hti]) ?_
    rcases hcases with ⟨-, -, h'⟩ | ⟨-, -, h'⟩ | ⟨-, -, h'⟩ | ⟨-, -, h'⟩ <;> simp [h']
  case h_3 src dns pc hti =>
    obtain ⟨pc', hti', hmap, hheld, hlet, hnew⟩ := relayDNSStep_conn hstep
    refine ⟨fun k c hk => ?_, fun j src' dns' pc'' c hj hc => ?_,
      fun c j src' dns' pc'' hc hj => ?_⟩
    · rcases hmap k c hk with hk | ⟨rfl, hc⟩
      · exact (h.mapOpened k c hk).step hwf hs
      · exact (h.heldOpened i _ _ _ c hti hc).step hwf hs
    · rcases relayDNS_after hf hti' hj with ⟨rfl, rfl, rfl, rfl⟩ | ⟨-, hj₀⟩
      · rcases hheld c hc with hc | hc | hc
        · exact (h.heldOpened j _ _ _ c hti hc).step hwf hs
        · exact (h.mapOpened _ c hc).step hwf hs
        · exact ⟨j, _, _, hc, hti'⟩
      · exact (h.heldOpened j _ _ _ c hj₀ hc).step hwf hs
    · rcases relayDNS_after hf hti' hj with ⟨rfl, rfl, rfl, rfl⟩ | ⟨hji, hj₀⟩
      · rcases hnew c hc with hc | hc
        · exact (h.openerCloses c j _ _ _ hc hti).elim (.inl ∘ hf.closed_sub)
            fun hcl => (hlet c hcl).symm
        · exact .inr hc
      · rcases hf.mem_opened hc with hc | hc
        · exact (h.openerCloses c j _ _ _ hc hj₀).imp_left hf.closed_sub
        · exact absurd (Prod.mk.inj hc).2 hji
  case h_4 => cases hstep

theorem DnsInv.step (hwf : WellFormed s) (h : DnsInv s) {e : Event}
    (hs : step cv t s e = some s') : DnsInv s' := by
  cases e with
  | step i ok => exact h.taskStep hwf hs
  | stop =>
    cases hs
    refine ⟨h.mapOpened, h.heldOpened, fun c j src dns pc hc hj => ?_⟩
    exact (h.openerCloses c j src dns pc hc hj).imp_left fun hcl =>
      List.mem_append_left _ hcl
  | relayUDP src dst | relayDNS src dst =>
    have hs₀ := hs
    cases hs
    have back : ∀ T j k dns pc, (s.spawn T).tasks j = some (.relayDNS k dns pc) →
        j ≠ s.nextTask → s.tasks j = some (.relayDNS k dns pc) := fun T j k dns pc hj hjn => by
      simpa [Function.update_noteq hjn] using hj
    refine ⟨fun k c hk => (h.mapOpened k c hk).step hwf hs₀,
      fun j src' dns pc c hj hc => ?_, fun c j src' dns pc hc hj => ?_⟩
    · by_cases hjn : j = s.nextTask
      · subst hjn
        simp at hj <;> (obtain ⟨-, -, rfl⟩ := hj; simp [DnsPc.conn] at hc)
      · exact (h.heldOpened j _ _ _ c (back _ _ _ _ _ hj hjn) hc).step hwf hs₀
    · exact h.openerCloses c j _ _ _ hc (back _ _ _ _ _ hj (hwf.openedLt _ hc).2.ne)

theorem Reachable.dnsInv (h : Reachable cv t s) : DnsInv s := by
  induction h with
  | init =>
    exact ⟨fun k c hk => by simp [BackendState.init, AList.lookup_empty] at hk,
      fun i _ _ _ _ hi => by simp [BackendState.init] at hi,
      fun c j _ _ _ hc => absurd hc (List.not_mem_nil _)⟩
  | step e hr hs ih => exact ih.step hr.wellFormed hs

end Redfrog.ProxyClient
