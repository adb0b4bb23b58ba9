import Redfrog.ProxyClient.DnsNat
import Redfrog.ProxyClient.UdpNat

/-!
# The backend's sockets and flows over whole runs

Every socket a backend opens is closed by the goroutine that holds it:
`RelayUDPData` closes what it opened when a later step fails and otherwise
hands both sockets to the reader it spawns, which closes them when
`copyFromRemote` returns; `RelayDNS` closes the socket it used in its
deferred cleanup. So in every run each socket opened is closed or held by a
goroutine that has not finished (`NoLeak`), and once every goroutine has
returned, every socket is closed, however the calls interleaved and whatever
`Stop` did on the way.

`Stop` closes the sockets of both tables and does nothing else, and no step
reads what it closed: every run after it goes as it would have gone without
it. What it closes may still be held, and be closed again; what it leaves
open is held by the goroutines that will close it.

The UDP NAT table routes by the key `"<src>-><dst>"`. Client addresses never
contain `>`, and for those the key names the flow: every entry under a key
was made for that flow, so every datagram `RelayUDPData` sends goes through
an entry whose replies return to the datagram's client and whose header
names the datagram's destination, even when two readers of one flow race.
End to end: what `WriteTo` sends is that header followed by exactly the
payload, and every reader writes its replies back to the client of the flow
its key names.
-/

namespace Redfrog.ProxyClient

open Go BackendState

variable {cv : GoString → Except GoError Bytes} {t : Int} {s s' : BackendState} {i : Nat}

/-! ### Who holds a socket -/

/-- Task `t` holds socket `c`: it will close it itself. -/
def Task.Holds (c : Nat) : Task → Prop
  | .relayUDP _ _ (.dial d) => c = d
  | .relayUDP _ _ (.create c' d) => c = c' ∨ c = d
  | .relayUDP _ _ _ => False
  | .reader _ e pc => pc ≠ .exited ∧ (c = e.src ∨ c = e.dst)
  | .relayDNS _ _ pc => pc.conn = some c

/-- Some goroutine of `s` holds `c`. -/
def Held (s : BackendState) (c : Nat) : Prop := ∃ i t, s.tasks i = some t ∧ t.Holds c

/-- Every socket the backend opened is closed, or held by a goroutine. -/
def NoLeak (s : BackendState) : Prop := ∀ c j, (c, j) ∈ s.opened → c ∈ s.closed ∨ Held s c

/-- A task that has returned. -/
def Task.Finished : Task → Prop
  | .relayUDP _ _ pc => pc = .done
  | .reader _ _ pc => pc = .exited
  | .relayDNS _ _ pc => pc = .done

instance Task.instDecidableFinished (tk : Task) : Decidable tk.Finished :=
  match tk with
  | .relayUDP _ _ pc => inferInstanceAs (Decidable (pc = .done))
  | .reader _ _ pc => inferInstanceAs (Decidable (pc = .exited))
  | .relayDNS _ _ pc => inferInstanceAs (Decidable (pc = .done))

theorem Task.not_holds_of_finished {c : Nat} : ∀ {t : Task}, t.Finished → ¬t.Holds c
  | .relayUDP _ _ _, rfl, h => h
  | .reader _ _ _, rfl, h => h.1 rfl
  | .relayDNS _ _ _, rfl, h => Option.noConfusion h

theorem held_setTask {c : Nat} {tk : Task} (h : tk.Holds c) : Held (s.setTask i tk) c :=
  ⟨i, tk, setTask_tasks_same _ _ _, h⟩

/-! ### One step -/

/-- A `RelayUDPData` step closes or passes on every socket its task held or
opened: to its own next program point, or to the reader it spawns. -/
theorem relayUDPStep_holds {src dst : GoString} {ok : Bool} {pc : UdpPc} {c : Nat}
    (h : relayUDPStep cv t s i src dst ok pc = some s')
    (hc : (Task.relayUDP src dst pc).Holds c ∨ c = s.nextSock ∧ s'.nextSock = s.nextSock + 1) :
    c ∈ s'.closed ∨ Held s' c := by
  cases pc with
  | get => simp only [relayUDPStep] at h; split at h <;> cases h <;> simp [Task.Holds] at hc
  | listen =>
    simp only [relayUDPStep] at h
    split at h <;> cases h <;> simp [Task.Holds] at hc
    exact .inr (held_setTask hc)
  | dial d =>
    simp only [relayUDPStep] at h
    split at h <;> cases h <;> simp [Task.Holds] at hc
    · exact .inr (held_setTask hc.symm)
    · exact .inl (by simp [hc])
  | create c' d =>
    simp only [relayUDPStep] at h
    split at h <;> cases h <;> simp [Task.Holds] at hc
    · rename_i e he
      simp only [createUDPProxyEntry] at he
      split at he <;> cases he
      rename_i addr _
      exact .inr ⟨s.nextTask, .reader (computeUDPKey src dst) ⟨c', d, src, addr, t⟩ .add, by simp,
        nofun, hc⟩
    · exact .inl (by rcases hc with rfl | rfl <;> simp)
  | send e => cases h; simp [Task.Holds] at hc
  | done => cases h

/-- A reader step keeps its sockets until its last, which closes both. -/
theorem readerStep_holds {key : GoString} {e : UdpProxyEntry} {pc : ReaderPc} {c : Nat}
    (h : readerStep s i key e pc = some s')
    (hc : (Task.reader key e pc).Holds c ∨ c = s.nextSock ∧ s'.nextSock = s.nextSock + 1) :
    c ∈ s'.closed ∨ Held s' c := by
  cases pc <;> cases h <;> simp [Task.Holds] at hc
  · exact .inr (held_setTask ⟨nofun, hc⟩)
  · exact .inr (held_setTask ⟨nofun, hc⟩)
  · exact .inr (held_setTask ⟨nofun, hc⟩)
  · exact .inl (by rcases hc with rfl | rfl <;> simp)

/-- A `RelayDNS` step keeps the socket its call uses until the deferred
`Close`. -/
theorem relayDNSStep_holds {src dns : GoString} {ok : Bool} {pc : DnsPc} {c : Nat}
    (h : relayDNSStep cv s i src dns ok pc = some s')
    (hc : (Task.relayDNS src dns pc).Holds c ∨ c = s.nextSock ∧ s'.nextSock = s.nextSock + 1) :
    c ∈ s'.closed ∨ Held s' c := by
  cases pc with
  | convert | get =>
    simp only [relayDNSStep] at h
    split at h <;> cases h <;> simp [Task.Holds, DnsPc.conn] at hc
  | listen =>
    simp only [relayDNSStep] at h
    split at h <;> cases h <;> simp [Task.Holds, DnsPc.conn] at hc
    exact .inr (held_setTask (by simp [Task.Holds, DnsPc.conn, hc]))
  | add c' | write c' | read c' | del c' =>
    cases h
    simp [Task.Holds, DnsPc.conn] at hc
    exact .inr (held_setTask (by cases ok <;> simp [Task.Holds, DnsPc.conn, hc]))
  | close c' =>
    cases h
    simp [Task.Holds, DnsPc.conn] at hc
    exact .inl (by simp [hc])
  | done => cases h

/-! ### Every run -/

/-- A step of task `i` keeps `NoLeak` when each socket the task held or
opened is closed or held after it: a socket that another goroutine held
stays held, since the step moves no other task. -/
private theorem NoLeak.of_taskStep (hwf : WellFormed s) (h : NoLeak s) {tk : Task}
    (hi : s.tasks i = some tk) (hf : TaskFrame s s' i)
    (hkeep : ∀ c, tk.Holds c ∨ c = s.nextSock ∧ s'.nextSock = s.nextSock + 1 →
      c ∈ s'.closed ∨ Held s' c) : NoLeak s' := by
  intro c j hc
  rcases hf.mem_opened hc with hold | hnew
  · rcases h c j hold with hcl | ⟨i', t', hi', hh⟩
    · exact .inl (hf.closed_sub hcl)
    · by_cases hii : i' = i
      · subst hii
        rw [hi] at hi'
        cases hi'
        exact hkeep c (.inl hh)
      · exact .inr ⟨i', t', by rw [hf.tasks i' hii (hwf.lt_of_some hi').ne, hi'], hh⟩
  · cases hnew
    refine hkeep _ (.inr ⟨rfl, ?_⟩)
    rcases hf.opened with ⟨ho, -⟩ | ⟨-, hn⟩
    · exact absurd (hwf.openedLt _ (ho ▸ hc)).1 (Nat.lt_irrefl _)
    · exact hn

theorem NoLeak.step (hwf : WellFormed s) (h : NoLeak s) {e : Event}
    (hs : step cv t s e = some s') : NoLeak s' := by
  cases e with
  | relayUDP | relayDNS =>
    cases hs
    intro c j hc
    rcases h c j hc with hcl | ⟨i', t', hi', hh⟩
    · exact .inl hcl
    · exact .inr ⟨i', t', by simp [Function.update_noteq (hwf.lt_of_some hi').ne, hi'], hh⟩
  | stop =>
    cases hs
    intro c j hc
    exact (h c j hc).imp_left fun hcl => List.mem_append_left _ hcl
  | step i ok =>
    have hf := step_frame hwf hs
    simp only [Redfrog.ProxyClient.step] at hs
    split at hs
    · exact h.of_taskStep hwf ‹_› hf fun _ => relayUDPStep_holds hs
    · exact h.of_taskStep hwf ‹_› hf fun _ => readerStep_holds hs
    · exact h.of_taskStep hwf ‹_› hf fun _ => relayDNSStep_holds hs
    · cases hs

theorem Reachable.noLeak (h : Reachable cv t s) : NoLeak s := by
  induction h with
  | init => intro c j hc; simp [BackendState.init] at hc
  | step e hr hs ih => exact ih.step hr.wellFormed hs

/-- Once every goroutine has returned, every socket the backend opened has
been closed: no interleaving of `RelayUDPData`, reader, `RelayDNS` and
`Stop` steps leaks a socket. -/
theorem backend_closes_every_socket (hs : Reachable cv t s)
    (hdone : ∀ i tk, s.tasks i = some tk → tk.Finished) :
    ∀ c j, (c, j) ∈ s.opened → c ∈ s.closed := fun c j hc =>
  (hs.noLeak c j hc).resolve_right fun ⟨i, tk, hi, hh⟩ =>
    Task.not_holds_of_finished (hdone i tk hi) hh

/-- One datagram of a flow, its reader run to its exit, then one DNS
exchange from the same client: three sockets opened. -/
def quietRun : List Event :=
  [.relayUDP sampleClient sampleTarget, .step 0 true, .step 0 true, .step 0 true, .step 0 true,
    .step 0 true, .step 1 true, .step 1 true, .step 1 true, .step 1 true,
    .relayDNS sampleClient sampleTarget, .step 2 true, .step 2 true, .step 2 true, .step 2 true,
    .step 2 true, .step 2 true, .step 2 true, .step 2 true]

theorem backend_closes_every_socket_quietRun :
    ∃ s, run sampleConvert 60000000000 .init quietRun = some s ∧
      (∀ i tk, s.tasks i = some tk → tk.Finished) ∧ s.opened.map Prod.fst = [2, 1, 0] ∧
      ∀ c j, (c, j) ∈ s.opened → c ∈ s.closed := by
  obtain ⟨s, hs⟩ : ∃ s, run sampleConvert 60000000000 .init quietRun = some s := ⟨_, rfl⟩
  have hr := reachable_of_run _ _ .init hs
  have hcheck : (run sampleConvert 60000000000 .init quietRun).map (fun s =>
      (s.nextTask, (List.range 3).all fun i => (s.tasks i).all fun tk => decide tk.Finished,
        s.opened.map Prod.fst)) = some (3, true, [2, 1, 0]) := by decide
  simp only [hs, Option.map_some', Option.some.injEq, Prod.mk.injEq, List.all_eq_true,
    List.mem_range] at hcheck
  obtain ⟨hn, hall, hopened⟩ := hcheck
  have hdone : ∀ i tk, s.tasks i = some tk → tk.Finished := fun i tk hi => by
    simpa [hi] using hall i (hn ▸ hr.wellFormed.lt_of_some hi)
  exact ⟨s, hs, hdone, hopened, backend_closes_every_socket hr hdone⟩

/-! ### `Stop`

`Stop` closes both sockets of every UDP NAT entry and the socket of every DNS
NAT entry, and does nothing else: it removes no entry, stops no goroutine
and records no stopped state. No step reads the close log, so what happens
after `Stop` is what would have happened without it. The sockets a
`RelayUDPData` call holds between its `ListenPacket` and its reader's `Add`,
and those of readers whose entry another reader has replaced, are in no
table: `Stop` leaves them open, to the goroutines holding them.
-/

private theorem takeWhile_computeUDPKey {src dst : GoString} (h : '>' ∉ src) :
    (computeUDPKey src dst).takeWhile (fun c => c ≠ '>') = src ++ ['-'] := by
  rw [computeUDPKey, List.append_assoc, List.takeWhile_append_of_pos fun c hc => ?_]
  · rfl
  · simpa using ne_of_mem_of_not_mem hc h

/-- The NAT key names the flow when the client address has no `>`. -/
theorem computeUDPKey_inj {src src' dst dst' : GoString} (h : '>' ∉ src) (h' : '>' ∉ src')
    (he : computeUDPKey src dst = computeUDPKey src' dst') : src = src' ∧ dst = dst' := by
  have hs : src = src' := List.append_cancel_right
    ((takeWhile_computeUDPKey h).symm.trans (he ▸ takeWhile_computeUDPKey h'))
  subst hs
  exact ⟨rfl, List.append_cancel_left he⟩

/-- Entry `e` serves the flow from client `src` to destination `dst`: its
replies go back to `src` and its header names `dst`. -/
def ServesFlow (cv : GoString → Except GoError Bytes) (src dst : GoString) (e : UdpProxyEntry) :
    Prop :=
  e.srcAddr = src ∧ cv dst = .ok e.header

/-- Entry `e` was made for a flow whose key is `k`. -/
def KeyedFlow (cv : GoString → Except GoError Bytes) (k : GoString) (e : UdpProxyEntry) : Prop :=
  ∃ src dst, '>' ∉ src ∧ k = computeUDPKey src dst ∧ ServesFlow cv src dst e

/-- A goroutine keeps to its flow: a `RelayUDPData` call serves a client
address without `>` and sends only through an entry of its own flow; a
reader's entry was made for the flow of its key. -/
def Task.OnFlow (cv : GoString → Except GoError Bytes) : Task → Prop
  | .relayUDP src dst pc => '>' ∉ src ∧ ∀ e, pc = .send e → ServesFlow cv src dst e
  | .reader k e _ => KeyedFlow cv k e
  | .relayDNS _ _ _ => True

/-- Every entry of the UDP NAT table and every goroutine keeps to its flow. -/
structure FlowInv (cv : GoString → Except GoError Bytes) (s : BackendState) : Prop where
  table : ∀ k e, s.udpNatMap.lookup k = some e → KeyedFlow cv k e
  tasks : ∀ i tk, s.tasks i = some tk → tk.OnFlow cv

private theorem setTask_changed {tk tk' : Task} {j : Nat} (h : (s.setTask i tk).tasks j = some tk') :
    s.tasks j = some tk' ∨ tk' = tk := by
  by_cases hj : j = i
  · subst hj
    simp only [setTask_tasks_same, Option.some.injEq] at h
    exact .inr h.symm
  · simp only [setTask_tasks, Function.update_noteq hj] at h
    exact .inl h

private theorem spawn_changed {r tk' : Task} {j : Nat} (h : (s.spawn r).tasks j = some tk') :
    s.tasks j = some tk' ∨ tk' = r := by
  by_cases hj : j = s.nextTask
  · subst hj
    simp only [spawn_tasks, Function.update_same, Option.some.injEq] at h
    exact .inr h.symm
  · simp only [spawn_tasks, Function.update_noteq hj] at h
    exact .inl h

namespace FlowInv

/-- A step keeps `FlowInv` when every entry it adds and every goroutine it
moves or starts keeps to its flow. -/
private theorem of_changes (h : FlowInv cv s)
    (htable : ∀ k e, s'.udpNatMap.lookup k = some e → s.udpNatMap.lookup k = some e ∨ KeyedFlow cv k e)
    (htasks : ∀ j tk, s'.tasks j = some tk → s.tasks j = some tk ∨ tk.OnFlow cv) :
    FlowInv cv s' :=
  ⟨fun k e he => (htable k e he).elim (h.table k e) id,
    fun j tk hj => (htasks j tk hj).elim (h.tasks j tk) id⟩

/-- A `RelayUDPData` step: a hit in the table is an entry of the call's own
flow, and a new entry is made for it. -/
theorem relayUDPStep {src dst : GoString} {ok : Bool} {pc : UdpPc} (h : FlowInv cv s)
    (hi : s.tasks i = some (.relayUDP src dst pc))
    (hs : relayUDPStep cv t s i src dst ok pc = some s') : FlowInv cv s' := by
  have hsrc := (h.tasks i _ hi).1
  have hmoved : ∀ pc', (∀ e, pc' = .send e → ServesFlow cv src dst e) →
      ∀ s₀ : BackendState, s₀.tasks = s.tasks → s₀.udpNatMap = s.udpNatMap →
      FlowInv cv (s₀.setTask i (.relayUDP src dst pc')) := fun pc' hpc' s₀ ht hm =>
    h.of_changes (fun k e he => .inl (by simpa [hm] using he))
      fun j tk hj => (setTask_changed hj).imp (by rw [ht]; exact id) (by rintro rfl; exact ⟨hsrc, hpc'⟩)
  cases pc with
  | get =>
    simp only [Redfrog.ProxyClient.relayUDPStep] at hs
    split at hs <;> cases hs
    · rename_i e he
      obtain ⟨src', dst', hsrc', hk, hserve⟩ := h.table _ _ he
      obtain ⟨rfl, rfl⟩ := computeUDPKey_inj hsrc hsrc' hk
      exact hmoved _ (fun _ he' => by cases he'; exact hserve) s rfl rfl
    · exact hmoved _ (fun _ h => by cases h) s rfl rfl
  | listen | dial =>
    simp only [Redfrog.ProxyClient.relayUDPStep] at hs
    split at hs <;> cases hs <;> exact hmoved _ (fun _ h => by cases h) _ rfl rfl
  | create c d =>
    simp only [Redfrog.ProxyClient.relayUDPStep] at hs
    split at hs <;> cases hs
    · rename_i e he
      have hserve : ServesFlow cv src dst e := by
        simp only [createUDPProxyEntry] at he
        split at he <;> cases he
        exact ⟨rfl, ‹_›⟩
      have h₁ := hmoved (.send e) (fun _ he' => by cases he'; exact hserve) s rfl rfl
      exact h₁.of_changes (fun _ _ he => .inl he)
        fun j tk hj => (spawn_changed hj).imp_right (by rintro rfl; exact ⟨src, dst, hsrc, rfl, hserve⟩)
    · exact hmoved _ (fun _ h => by cases h) _ rfl rfl
  | send e => cases hs; exact hmoved _ (fun _ h => by cases h) s rfl rfl
  | done => cases hs

/-- A reader step: its `Add` puts its own entry under its own key. -/
theorem readerStep {key : GoString} {e : UdpProxyEntry} {pc : ReaderPc} (h : FlowInv cv s)
    (hi : s.tasks i = some (.reader key e pc)) (hs : Redfrog.ProxyClient.readerStep s i key e pc = some s') :
    FlowInv cv s' := by
  have hk : KeyedFlow cv key e := h.tasks i _ hi
  have hmoved : ∀ (pc' : ReaderPc) (s₀ : BackendState), s₀.tasks = s.tasks →
      (∀ k e', s₀.udpNatMap.lookup k = some e' → s.udpNatMap.lookup k = some e' ∨ KeyedFlow cv k e') →
      FlowInv cv (s₀.setTask i (.reader key e pc')) := fun pc' s₀ ht hm =>
    h.of_changes hm fun j tk hj => (setTask_changed hj).imp (by rw [ht]; exact id) (by rintro rfl; exact hk)
  cases pc <;> cases hs
  · refine hmoved _ _ rfl fun k e' he' => ?_
    by_cases hkk : k = key
    · subst hkk
      simp only [AList.lookup_insert, Option.some.injEq] at he'
      exact .inr (he' ▸ hk)
    · exact .inl (by simpa [AList.lookup_insert_ne hkk] using he')
  · exact hmoved _ _ rfl fun _ _ he => .inl he
  · refine hmoved _ _ rfl fun k e' he' => .inl ?_
    by_cases hkk : k = key
    · subst hkk
      simp [AList.lookup_erase] at he'
    · simpa [AList.lookup_erase_ne hkk] using he'
  · exact hmoved _ _ rfl fun _ _ he => .inl he

/-- A `RelayDNS` step touches neither the UDP table nor another flow. -/
theorem relayDNSStep {src dns : GoString} {ok : Bool} {pc : DnsPc} (h : FlowInv cv s)
    (hs : Redfrog.ProxyClient.relayDNSStep cv s i src dns ok pc = some s') : FlowInv cv s' := by
  have hmoved : ∀ (pc' : DnsPc) (s₀ : BackendState), s₀.tasks = s.tasks →
      s₀.udpNatMap = s.udpNatMap → FlowInv cv (s₀.setTask i (.relayDNS src dns pc')) :=
    fun pc' s₀ ht hm => h.of_changes (fun k e he => .inl (by simpa [hm] using he))
      fun j tk hj => (setTask_changed hj).imp (by rw [ht]; exact id) (by rintro rfl; trivial)
  cases pc <;> simp only [Redfrog.ProxyClient.relayDNSStep] at hs <;> (try split at hs) <;>
    cases hs <;> exact hmoved _ _ rfl rfl

theorem step (h : FlowInv cv s) {e : Event} (he : ∀ src dst, e = .relayUDP src dst → '>' ∉ src)
    (hs : Redfrog.ProxyClient.step cv t s e = some s') : FlowInv cv s' := by
  cases e with
  | relayUDP src dst =>
    cases hs
    exact h.of_changes (fun _ _ h => .inl h)
      fun j tk hj => (spawn_changed hj).imp_right (by rintro rfl; exact ⟨he _ _ rfl, nofun⟩)
  | relayDNS =>
    cases hs
    exact h.of_changes (fun _ _ h => .inl h) fun j tk hj => (spawn_changed hj).imp_right
      (by rintro rfl; trivial)
  | stop => cases hs; exact ⟨h.table, h.tasks⟩
  | step i ok =>
    simp only [Redfrog.ProxyClient.step] at hs
    split at hs
    · exact h.relayUDPStep ‹_› hs
    · exact h.readerStep ‹_› hs
    · exact h.relayDNSStep hs
    · cases hs

theorem init : FlowInv cv BackendState.init :=
  ⟨fun k e he => by simp [BackendState.init] at he, fun i tk hi => by simp [BackendState.init] at hi⟩

theorem run (h : FlowInv cv s) {es : List Event}
    (hes : ∀ src dst, Event.relayUDP src dst ∈ es → '>' ∉ src)
    (hr : Redfrog.ProxyClient.run cv t s es = some s') : FlowInv cv s' := by
  induction es generalizing s with
  | nil => cases hr; exact h
  | cons e es ih =>
    obtain ⟨s₁, hs₁, hr⟩ := Option.bind_eq_some.mp hr
    exact ih (h.step (fun src dst he => hes src dst (he ▸ List.mem_cons_self _ _)) hs₁)
      (fun src dst hm => hes src dst (List.mem_cons_of_mem _ hm)) hr

end FlowInv

/-- As long as no client address contains `>`, every datagram `RelayUDPData`
is about to send goes through an entry made for its own flow, and every
entry the table holds under a flow's key was made for that flow: replies
return to the flow's client and the header names its destination, however
the calls and readers interleave. -/
theorem relayUDPData_sends_on_own_flow {es : List Event}
    (hes : ∀ src dst, Event.relayUDP src dst ∈ es → '>' ∉ src)
    (hr : run cv t .init es = some s) :
    (∀ i src dst e, s.tasks i = some (.relayUDP src dst (.send e)) →
      e.srcAddr = src ∧ cv dst = .ok e.header) ∧
    ∀ src dst e, '>' ∉ src → s.udpNatMap.lookup (computeUDPKey src dst) = some e →
      e.srcAddr = src ∧ cv dst = .ok e.header := by
  have h := FlowInv.init.run hes hr
  refine ⟨fun i src dst e hi => (h.tasks i _ hi).2 e rfl, fun src dst e hsrc he => ?_⟩
  obtain ⟨src', dst', hsrc', hk, hserve⟩ := h.table _ _ he
  obtain ⟨rfl, rfl⟩ := computeUDPKey_inj hsrc hsrc' hk
  exact hserve

/-- A datagram whose reader has added its entry, then a second datagram of
the same flow, which finds that entry. -/
def flowHitRun : List Event :=
  quietRun.take 7 ++ [.relayUDP sampleClient sampleTarget, .step 2 true]

theorem relayUDPData_sends_on_own_flow_hit :
    ∃ s, run sampleConvert 60000000000 .init flowHitRun = some s ∧
      (∀ src dst, Event.relayUDP src dst ∈ flowHitRun → '>' ∉ src) ∧
      (∃ e, s.tasks 2 = some (.relayUDP sampleClient sampleTarget (.send e))) ∧
      (∀ i src dst e, s.tasks i = some (.relayUDP src dst (.send e)) →
        e.srcAddr = src ∧ sampleConvert dst = .ok e.header) ∧
      ∀ src dst e, '>' ∉ src → s.udpNatMap.lookup (computeUDPKey src dst) = some e →
        e.srcAddr = src ∧ sampleConvert dst = .ok e.header :=
  have hes : ∀ src dst, Event.relayUDP src dst ∈ flowHitRun → '>' ∉ src := fun src dst h => by
    simp only [flowHitRun, quietRun, List.take, List.cons_append, List.nil_append, List.mem_cons,
      Event.relayUDP.injEq, reduceCtorEq, List.mem_nil_iff, or_false, false_or, or_self] at h
    rw [h.1]
    decide
  ⟨_, rfl, hes, ⟨_, rfl⟩, @relayUDPData_sends_on_own_flow sampleConvert 60000000000 _ _ hes rfl⟩

/-- The UDP NAT routes both ways, however datagrams, readers and DNS
exchanges interleave, as long as no client address contains `>`: every
datagram `RelayUDPData` hands `WriteTo` is the address header of its own
destination followed by exactly its payload, whatever the pool holds; and
every reply a reader writes back, duplicate readers included, goes to the
client of the flow its key names, past the header of that flow's
destination. -/
theorem udp_nat_routes_flows {es : List Event}
    (hes : ∀ src dst, Event.relayUDP src dst ∈ es → '>' ∉ src)
    (hr : run cv t .init es = some s) :
    (∀ i src dst e, s.tasks i = some (.relayUDP src dst (.send e)) →
      ∀ (leakyBuffer : Common.Pool) (pooled : Bytes) (newBuf dataBuf : Nat) (data : Bytes)
        (dataLen : Nat) (writeErr : Option GoError), dataLen ≤ data.length →
      ∃ header, cv dst = .ok header ∧
        (relayUDPSend (.ok e) leakyBuffer pooled.length pooled newBuf dataBuf data dataLen
          writeErr).datagram = some (header ++ data.take dataLen)) ∧
    (∀ i src dst e pc, '>' ∉ src → s.tasks i = some (.reader (computeUDPKey src dst) e pc) →
      cv dst = .ok e.header ∧ ∀ buffer ds, ∀ p ∈ (copyFromRemote e buffer ds).1, p.2 = src) := by
  have h := FlowInv.init.run hes hr
  refine ⟨fun i src dst e hi leakyBuffer pooled newBuf dataBuf data dataLen writeErr hdata => ?_,
    fun i src dst e pc hsrc hi => ?_⟩
  · -- outbound: the entry of a sending call carries its destination's header
    obtain ⟨-, hcv⟩ := (h.tasks i _ hi).2 e rfl
    exact ⟨e.header, hcv,
      relayUDPSend_datagram e leakyBuffer pooled newBuf dataBuf data dataLen writeErr hdata⟩
  · -- inbound: a reader's entry was made for the flow its key names
    obtain ⟨src', dst', hsrc', hk, hclient, hcv⟩ := h.tasks i _ hi
    obtain ⟨rfl, rfl⟩ := computeUDPKey_inj hsrc hsrc' hk
    exact ⟨hcv, fun buffer ds p hp => (copyFromRemote_to_client e buffer ds p hp).trans hclient⟩

theorem udp_nat_routes_flows_hit :
    ∃ s, run sampleConvert 60000000000 .init flowHitRun = some s ∧
      (∀ src dst, Event.relayUDP src dst ∈ flowHitRun → '>' ∉ src) ∧
      (∃ e, s.tasks 2 = some (.relayUDP sampleClient sampleTarget (.send e))) ∧
      (∃ e, s.tasks 1 = some (.reader (computeUDPKey sampleClient sampleTarget) e .copy)) ∧
      ((∀ i src dst e, s.tasks i = some (.relayUDP src dst (.send e)) →
        ∀ (leakyBuffer : Common.Pool) (pooled : Bytes) (newBuf dataBuf : Nat) (data : Bytes)
          (dataLen : Nat) (writeErr : Option GoError), dataLen ≤ data.length →
        ∃ header, sampleConvert dst = .ok header ∧
          (relayUDPSend (.ok e) leakyBuffer pooled.length pooled newBuf dataBuf data dataLen
            writeErr).datagram = some (header ++ data.take dataLen)) ∧
      (∀ i src dst e pc, '>' ∉ src → s.tasks i = some (.reader (computeUDPKey src dst) e pc) →
        sampleConvert dst = .ok e.header ∧
          ∀ buffer ds, ∀ p ∈ (copyFromRemote e buffer ds).1, p.2 = src)) :=
  have hes : ∀ src dst, Event.relayUDP src dst ∈ flowHitRun → '>' ∉ src := fun src dst h => by
    simp only [flowHitRun, quietRun, List.take, List.cons_append, List.nil_append, List.mem_cons,
      Event.relayUDP.injEq, reduceCtorEq, List.mem_nil_iff, or_false, false_or, or_self] at h
    rw [h.1]
    decide
  ⟨_, rfl, hes, ⟨_, rfl⟩, ⟨_, rfl⟩, @udp_nat_routes_flows sampleConvert 60000000000 _ _ hes rfl⟩

end Redfrog.ProxyClient
