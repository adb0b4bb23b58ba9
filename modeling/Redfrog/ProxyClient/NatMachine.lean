import Mathlib.Data.List.AList
import Redfrog.ProxyClient.Datapath

/-!
# The backend's NAT tables as a concurrent system

A backend serves every datagram and every DNS exchange on a goroutine of its
own. This module gives the state they share and the atomic steps they take on
it: the `udpNatMap` and `dnsNatMap` operations, each under its lock, the
socket opens and closes of `RelayUDPData` and `RelayDNS`, the steps of the
reader goroutine each new NAT entry gets, and `proxyBackend.Stop`. A run is
any interleaving of those steps, in any number of calls.

`Stop` holds the `udpNatMap` lock for all its work, so it is one atomic step:
what it could overlap with are socket closes, which commute with its own.
Where an operation can fail (opening or dialling a socket, a write), the step
says which way it went. Two ghost logs record every socket opened, with the
task that opened it, and every `Close`, in order.
-/

namespace Redfrog.ProxyClient

open Go

/-- Where one `RelayUDPData(srcAddr, dstAddr, ...)` call is. -/
inductive UdpPc where
  /-- Next `udpNatMap.Get(udpKey)`. -/
  | get
  /-- `Get` found no entry; next `net.ListenPacket`. -/
  | listen
  /-- Next `network.DialTransparentUDP(dstAddr)`. -/
  | dial (dstConn : Nat)
  /-- Next `createUDPProxyEntry`, and on success the reader goroutine. -/
  | create (srcConn dstConn : Nat)
  /-- Next `SetReadDeadline` and `WriteTo` on the entry's tunnel socket. -/
  | send (entry : UdpProxyEntry)
  | done
  deriving DecidableEq, Repr

/-- Where the reader goroutine of a NAT entry is. -/
inductive ReaderPc where
  /-- Next `udpNatMap.Add(udpKey, udpProxy)`. -/
  | add
  /-- In `copyFromRemote`, until it returns. -/
  | copy
  /-- Next `udpNatMap.Del(udpKey)`. -/
  | del
  /-- Next `udpProxy.src_.Close()` and `udpProxy.dst_.Close()`. -/
  | close
  | exited
  deriving DecidableEq, Repr

/-- Where one `RelayDNS(srcAddr, dnsAddr, ...)` call is. -/
inductive DnsPc where
  /-- Next `ConvertShadowSocksAddr(dnsAddr)` and `leakyBuffer.Get()`. -/
  | convert
  /-- Next `dnsNatMap.Get(srcAddr)`. -/
  | get
  /-- `Get` found no socket; next `net.ListenPacket`. -/
  | listen
  /-- Next `dnsNatMap.Add(srcAddr, dstConn)`. -/
  | add (conn : Nat)
  | write (conn : Nat)
  | read (conn : Nat)
  /-- Next the deferred `dnsNatMap.Del(srcAddr)`. -/
  | del (conn : Nat)
  /-- Next the deferred `dstConn.Close()`. -/
  | close (conn : Nat)
  | done
  deriving DecidableEq, Repr

/-- The socket a `RelayDNS` call holds at a program point. -/
def DnsPc.conn : DnsPc → Option Nat
  | .add c | .write c | .read c | .del c | .close c => some c
  | _ => none

/-- A goroutine of the backend. -/
inductive Task where
  | relayUDP (srcAddr dstAddr : GoString) (pc : UdpPc)
  | reader (udpKey : GoString) (entry : UdpProxyEntry) (pc : ReaderPc)
  | relayDNS (srcAddr dnsAddr : GoString) (pc : DnsPc)
  deriving DecidableEq, Repr

/-- The shared state of a `proxyBackend` and its goroutines. -/
structure BackendState where
  udpNatMap : AList (fun _ : GoString => UdpProxyEntry)
  dnsNatMap : AList (fun _ : GoString => Nat)
  tasks : Nat → Option Task
  nextTask : Nat
  nextSock : Nat
  /-- Ghost: every socket opened, with the task that opened it, newest first. -/
  opened : List (Nat × Nat)
  /-- Ghost: every `Close`, in order. -/
  closed : List Nat

/-- What can happen next. -/
inductive Event where
  /-- `handleUDP` calls `RelayUDPData(srcAddr, dstAddr, ...)`. -/
  | relayUDP (srcAddr dstAddr : GoString)
  /-- `ExchangeDNS` calls `RelayDNS(srcAddr, dnsAddr, ...)`. -/
  | relayDNS (srcAddr dnsAddr : GoString)
  /-- Task `task` takes its next step; `ok` says how a step that can fail went. -/
  | step (task : Nat) (ok : Bool)
  /-- `proxyBackend.Stop()`. -/
  | stop

namespace BackendState

/-- The backend `CreateProxyBackend` returns: empty NAT maps, no goroutines. -/
def init : BackendState := ⟨∅, ∅, fun _ => none, 0, 0, [], []⟩

/-- Task `i` moves to `t`. -/
@[simps]
def setTask (s : BackendState) (i : Nat) (t : Task) : BackendState :=
  { s with tasks := Function.update s.tasks i (some t) }

@[simp] theorem setTask_tasks_same (s : BackendState) (i : Nat) (t : Task) :
    (s.setTask i t).tasks i = some t :=
  Function.update_same _ _ _

/-- A new goroutine `t`. -/
@[simps]
def spawn (s : BackendState) (t : Task) : BackendState :=
  { s with tasks := Function.update s.tasks s.nextTask (some t), nextTask := s.nextTask + 1 }

/-- Task `i` opens the socket `s.nextSock`. -/
@[simps]
def openSock (s : BackendState) (i : Nat) : BackendState :=
  { s with nextSock := s.nextSock + 1, opened := (s.nextSock, i) :: s.opened }

/-- `Close` on each of `socks`, in order. -/
@[simps]
def close (s : BackendState) (socks : List Nat) : BackendState :=
  { s with closed := s.closed ++ socks }

/-- `proxyBackend.Stop`: close both sockets of every UDP NAT entry, then the
socket of every DNS NAT entry; no entry is removed. -/
def stop (s : BackendState) : BackendState :=
  s.close (s.udpNatMap.entries.flatMap (fun e => [e.2.src, e.2.dst]) ++
    s.dnsNatMap.entries.map (·.2))

end BackendState

open BackendState

section Steps

variable (convertShadowSocksAddr : GoString → Except GoError Bytes) (udpTimeout : Int)

/-- One step of `RelayUDPData` in task `i`. -/
def relayUDPStep (s : BackendState) (i : Nat) (src dst : GoString) (ok : Bool) :
    UdpPc → Option BackendState
  | .get =>
    match s.udpNatMap.lookup (computeUDPKey src dst) with
    | some e => some (s.setTask i (.relayUDP src dst (.send e)))
    | none => some (s.setTask i (.relayUDP src dst .listen))
  | .listen =>
    if ok then some ((s.openSock i).setTask i (.relayUDP src dst (.dial s.nextSock)))
    else some (s.setTask i (.relayUDP src dst .done))
  | .dial d =>
    if ok then some ((s.openSock i).setTask i (.relayUDP src dst (.create s.nextSock d)))
    else some ((s.close [d]).setTask i (.relayUDP src dst .done))
  | .create c d =>
    match createUDPProxyEntry convertShadowSocksAddr c d src dst udpTimeout with
    | .ok e => some ((s.setTask i (.relayUDP src dst (.send e))).spawn
        (.reader (computeUDPKey src dst) e .add))
    | .error _ => some ((s.close [d, c]).setTask i (.relayUDP src dst .done))
  | .send _ => some (s.setTask i (.relayUDP src dst .done))
  | .done => none

/-- One step of the reader goroutine in task `i`. -/
def readerStep (s : BackendState) (i : Nat) (key : GoString) (e : UdpProxyEntry) :
    ReaderPc → Option BackendState
  | .add => some ({ s with udpNatMap := s.udpNatMap.insert key e }.setTask i (.reader key e .copy))
  | .copy => some (s.setTask i (.reader key e .del))
  | .del => some ({ s with udpNatMap := s.udpNatMap.erase key }.setTask i (.reader key e .close))
  | .close => some ((s.close [e.src, e.dst]).setTask i (.reader key e .exited))
  | .exited => none

/-- One step of `RelayDNS` in task `i`. A failed `WriteTo`, like the panic of
an overlong query, goes straight to the deferred cleanup. -/
def relayDNSStep (s : BackendState) (i : Nat) (src dns : GoString) (ok : Bool) :
    DnsPc → Option BackendState
  | .convert =>
    match convertShadowSocksAddr dns with
    | .ok _ => some (s.setTask i (.relayDNS src dns .get))
    | .error _ => some (s.setTask i (.relayDNS src dns .done))
  | .get =>
    match s.dnsNatMap.lookup src with
    | some c => some (s.setTask i (.relayDNS src dns (.write c)))
    | none => some (s.setTask i (.relayDNS src dns .listen))
  | .listen =>
    if ok then some ((s.openSock i).setTask i (.relayDNS src dns (.add s.nextSock)))
    else some (s.setTask i (.relayDNS src dns .done))
  | .add c => some ({ s with dnsNatMap := s.dnsNatMap.insert src c }.setTask i
      (.relayDNS src dns (.write c)))
  | .write c => some (s.setTask i (.relayDNS src dns (if ok then .read c else .del c)))
  | .read c => some (s.setTask i (.relayDNS src dns (.del c)))
  | .del c => some ({ s with dnsNatMap := s.dnsNatMap.erase src }.setTask i
      (.relayDNS src dns (.close c)))
  | .close c => some ((s.close [c]).setTask i (.relayDNS src dns .done))
  | .done => none

/-- One atomic step of the backend; `none` when the event cannot happen. -/
def step (s : BackendState) : Event → Option BackendState
  | .relayUDP src dst => some (s.spawn (.relayUDP src dst .get))
  | .relayDNS src dns => some (s.spawn (.relayDNS src dns .convert))
  | .step i ok =>
    match s.tasks i with
    | some (.relayUDP src dst pc) => relayUDPStep convertShadowSocksAddr udpTimeout s i src dst ok pc
    | some (.reader key e pc) => readerStep s i key e pc
    | some (.relayDNS src dns pc) => relayDNSStep convertShadowSocksAddr s i src dns ok pc
    | none => none
  | .stop => some s.stop

/-- The states some run reaches from a fresh backend. -/
inductive Reachable : BackendState → Prop
  | init : Reachable BackendState.init
  | step {s s' : BackendState} (e : Event) :
      Reachable s → step convertShadowSocksAddr udpTimeout s e = some s' → Reachable s'

/-- A run from `s`, event by event. -/
def run (s : BackendState) : List Event → Option BackendState
  | [] => some s
  | e :: es => (step convertShadowSocksAddr udpTimeout s e).bind (run · es)

theorem reachable_of_run {s s' : BackendState} {es : List Event}
    (hs : Reachable convertShadowSocksAddr udpTimeout s)
    (h : run convertShadowSocksAddr udpTimeout s es = some s') :
    Reachable convertShadowSocksAddr udpTimeout s' := by
  induction es generalizing s with
  | nil => cases h; exact hs
  | cons e es ih =>
    simp only [run, Option.bind_eq_some] at h
    obtain ⟨s₁, h₁, h₂⟩ := h
    exact ih (.step e hs h₁) h₂

/-! ### What one step can change -/

variable {s s' : BackendState} {i : Nat}

/-- What a step of task `i` may change besides task `i`: it may spawn a
reader, open the next socket and close some. -/
structure TaskFrame (s s' : BackendState) (i : Nat) : Prop where
  tasks : ∀ j, j ≠ i → j ≠ s.nextTask → s'.tasks j = s.tasks j
  spawned : (s'.nextTask = s.nextTask ∧ s'.tasks s.nextTask = s.tasks s.nextTask) ∨
    (s'.nextTask = s.nextTask + 1 ∧ ∃ k e, s'.tasks s.nextTask = some (.reader k e .add))
  opened : (s'.opened = s.opened ∧ s'.nextSock = s.nextSock) ∨
    (s'.opened = (s.nextSock, i) :: s.opened ∧ s'.nextSock = s.nextSock + 1)
  closed : ∃ l, s'.closed = s.closed ++ l

namespace TaskFrame

theorem of_update {t : Task} (hi : i < s.nextTask)
    (htasks : s'.tasks = Function.update s.tasks i (some t)) (hnext : s'.nextTask = s.nextTask)
    (hopened : (s'.opened = s.opened ∧ s'.nextSock = s.nextSock) ∨
      (s'.opened = (s.nextSock, i) :: s.opened ∧ s'.nextSock = s.nextSock + 1))
    (hclosed : ∃ l, s'.closed = s.closed ++ l) : TaskFrame s s' i where
  tasks j hj _ := by rw [htasks, Function.update_noteq hj]
  spawned := .inl ⟨hnext, by rw [htasks, Function.update_noteq hi.ne']⟩
  opened := hopened
  closed := hclosed

theorem spawn_reader {t : Task} {k : GoString} {e : UdpProxyEntry} :
    TaskFrame s ((s.setTask i t).spawn (.reader k e .add)) i where
  tasks j hj hn := by simp [Function.update_noteq hn, Function.update_noteq hj]
  spawned := .inr ⟨rfl, k, e, by simp⟩
  opened := .inl ⟨rfl, rfl⟩
  closed := ⟨[], by simp⟩

theorem mem_opened (h : TaskFrame s s' i) {x : Nat × Nat} (hx : x ∈ s'.opened) :
    x ∈ s.opened ∨ x = (s.nextSock, i) := by
  rcases h.opened with ⟨ho, -⟩ | ⟨ho, -⟩ <;> rw [ho] at hx
  · exact .inl hx
  · exact (List.mem_cons.mp hx).symm

theorem opened_sub (h : TaskFrame s s' i) {x : Nat × Nat} (hx : x ∈ s.opened) :
    x ∈ s'.opened := by
  rcases h.opened with ⟨ho, -⟩ | ⟨ho, -⟩ <;> simp [ho, hx]

theorem closed_sub (h : TaskFrame s s' i) {c : Nat} (hc : c ∈ s.closed) : c ∈ s'.closed := by
  obtain ⟨l, hl⟩ := h.closed
  simp [hl, hc]

end TaskFrame

/-- A step of `RelayUDPData` touches neither NAT map, and its task stays the same call. -/
theorem relayUDPStep_spec {cv : GoString → Except GoError Bytes} {t : Int} {src dst : GoString}
    {ok : Bool} {pc : UdpPc} (hi : i < s.nextTask)
    (h : relayUDPStep cv t s i src dst ok pc = some s') :
    s'.udpNatMap = s.udpNatMap ∧ s'.dnsNatMap = s.dnsNatMap ∧ TaskFrame s s' i ∧
      ∃ pc', s'.tasks i = some (.relayUDP src dst pc') := by
  have hnil : s.closed = s.closed ++ [] := (List.append_nil _).symm
  cases pc with
  | get =>
    simp only [relayUDPStep] at h
    split at h <;> cases h <;>
      exact ⟨rfl, rfl, .of_update hi rfl rfl (.inl ⟨rfl, rfl⟩) ⟨[], hnil⟩,
        _, setTask_tasks_same _ _ _⟩
  | listen =>
    simp only [relayUDPStep] at h
    split at h <;> cases h
    · exact ⟨rfl, rfl, .of_update hi rfl rfl (.inr ⟨rfl, rfl⟩) ⟨[], hnil⟩,
        _, setTask_tasks_same _ _ _⟩
    · exact ⟨rfl, rfl, .of_update hi rfl rfl (.inl ⟨rfl, rfl⟩) ⟨[], hnil⟩,
        _, setTask_tasks_same _ _ _⟩
  | dial d =>
    simp only [relayUDPStep] at h
    split at h <;> cases h
    · exact ⟨rfl, rfl, .of_update hi rfl rfl (.inr ⟨rfl, rfl⟩) ⟨[], hnil⟩,
        _, setTask_tasks_same _ _ _⟩
    · exact ⟨rfl, rfl, .of_update hi rfl rfl (.inl ⟨rfl, rfl⟩) ⟨[d], rfl⟩,
        _, setTask_tasks_same _ _ _⟩
  | create c d =>
    simp only [relayUDPStep] at h
    split at h <;> cases h
    · exact ⟨rfl, rfl, .spawn_reader, by simp [Function.update_noteq hi.ne]⟩
    · exact ⟨rfl, rfl, .of_update hi rfl rfl (.inl ⟨rfl, rfl⟩) ⟨[d, c], rfl⟩,
        _, setTask_tasks_same _ _ _⟩
  | send e =>
    cases h
    exact ⟨rfl, rfl, .of_update hi rfl rfl (.inl ⟨rfl, rfl⟩) ⟨[], hnil⟩,
      _, setTask_tasks_same _ _ _⟩
  | done => cases h

/-- A reader step keeps `dnsNatMap`; on `udpNatMap` it is its own `Add` or `Del`. -/
theorem readerStep_spec {key : GoString} {e : UdpProxyEntry} {pc : ReaderPc}
    (hi : i < s.nextTask) (h : readerStep s i key e pc = some s') :
    s'.dnsNatMap = s.dnsNatMap ∧ TaskFrame s s' i ∧
      ((pc = .add ∧ s'.udpNatMap = s.udpNatMap.insert key e ∧
          s'.tasks i = some (.reader key e .copy)) ∨
        (pc = .copy ∧ s'.udpNatMap = s.udpNatMap ∧ s'.tasks i = some (.reader key e .del)) ∨
        (pc = .del ∧ s'.udpNatMap = s.udpNatMap.erase key ∧
          s'.tasks i = some (.reader key e .close)) ∨
        (pc = .close ∧ s'.udpNatMap = s.udpNatMap ∧ s'.tasks i = some (.reader key e .exited))) := by
  have hnil : s.closed = s.closed ++ [] := (List.append_nil _).symm
  cases pc <;> cases h
  · exact ⟨rfl, .of_update hi rfl rfl (.inl ⟨rfl, rfl⟩) ⟨[], hnil⟩,
      .inl ⟨rfl, rfl, setTask_tasks_same _ _ _⟩⟩
  · exact ⟨rfl, .of_update hi rfl rfl (.inl ⟨rfl, rfl⟩) ⟨[], hnil⟩,
      .inr (.inl ⟨rfl, rfl, setTask_tasks_same _ _ _⟩)⟩
  · exact ⟨rfl, .of_update hi rfl rfl (.inl ⟨rfl, rfl⟩) ⟨[], hnil⟩,
      .inr (.inr (.inl ⟨rfl, rfl, setTask_tasks_same _ _ _⟩))⟩
  · exact ⟨rfl, .of_update hi rfl rfl (.inl ⟨rfl, rfl⟩) ⟨_, rfl⟩,
      .inr (.inr (.inr ⟨rfl, rfl, setTask_tasks_same _ _ _⟩))⟩

/-- A step of `RelayDNS` keeps `udpNatMap`, and its task stays the same call. -/
theorem relayDNSStep_spec {cv : GoString → Except GoError Bytes} {src dns : GoString}
    {ok : Bool} {pc : DnsPc} (hi : i < s.nextTask) (h : relayDNSStep cv s i src dns ok pc = some s') :
    s'.udpNatMap = s.udpNatMap ∧ TaskFrame s s' i ∧
      ∃ pc', s'.tasks i = some (.relayDNS src dns pc') := by
  have hnil : s.closed = s.closed ++ [] := (List.append_nil _).symm
  cases pc with
  | convert | get =>
    simp only [relayDNSStep] at h
    split at h <;> cases h <;>
      exact ⟨rfl, .of_update hi rfl rfl (.inl ⟨rfl, rfl⟩) ⟨[], hnil⟩, _, setTask_tasks_same _ _ _⟩
  | listen =>
    simp only [relayDNSStep] at h
    split at h <;> cases h
    · exact ⟨rfl, .of_update hi rfl rfl (.inr ⟨rfl, rfl⟩) ⟨[], hnil⟩, _, setTask_tasks_same _ _ _⟩
    · exact ⟨rfl, .of_update hi rfl rfl (.inl ⟨rfl, rfl⟩) ⟨[], hnil⟩, _, setTask_tasks_same _ _ _⟩
  | close c =>
    cases h
    exact ⟨rfl, .of_update hi rfl rfl (.inl ⟨rfl, rfl⟩) ⟨[c], rfl⟩, _, setTask_tasks_same _ _ _⟩
  | done => cases h
  | _ =>
    cases h
    exact ⟨rfl, .of_update hi rfl rfl (.inl ⟨rfl, rfl⟩) ⟨[], hnil⟩, _, setTask_tasks_same _ _ _⟩

/-! ### Well-formedness -/

/-- The bookkeeping every reachable state keeps: tasks are numbered below
`nextTask`, and every socket was opened once, by a task that exists. -/
structure WellFormed (s : BackendState) : Prop where
  fresh : ∀ j, s.nextTask ≤ j → s.tasks j = none
  openedLt : ∀ x ∈ s.opened, x.1 < s.nextSock ∧ x.2 < s.nextTask
  openedNodup : (s.opened.map Prod.fst).Nodup

namespace WellFormed

theorem lt_of_some {t : Task} (h : WellFormed s) (hi : s.tasks i = some t) : i < s.nextTask := by
  by_contra hn
  simp [h.fresh i (not_lt.mp hn)] at hi

/-- The task that opened a socket is determined by the socket. -/
theorem opener_unique (h : WellFormed s) {c j j' : Nat} (hj : (c, j) ∈ s.opened)
    (hj' : (c, j') ∈ s.opened) : j = j' := by
  have := List.inj_on_of_nodup_map h.openedNodup hj hj' rfl
  simp_all

theorem spawn (h : WellFormed s) (t : Task) : WellFormed (s.spawn t) where
  fresh j hj := by simp [Function.update_noteq (show j ≠ s.nextTask by simp at hj; omega),
    h.fresh j (by simp at hj; omega)]
  openedLt x hx := by
    have := h.openedLt x hx
    simp only [spawn_nextSock, spawn_nextTask]
    omega
  openedNodup := h.openedNodup

theorem stop (h : WellFormed s) : WellFormed s.stop := ⟨h.fresh, h.openedLt, h.openedNodup⟩

theorem of_frame (h : WellFormed s) (hi : i < s.nextTask) (hf : TaskFrame s s' i) :
    WellFormed s' where
  fresh j hj := by
    rcases hf.spawned with ⟨hn, hsame⟩ | ⟨hn, -⟩
    · by_cases hjn : j = s.nextTask
      · rw [hjn, hsame, h.fresh _ le_rfl]
      · rw [hf.tasks j (by omega) hjn, h.fresh j (by omega)]
    · rw [hf.tasks j (by omega) (by omega), h.fresh j (by omega)]
  openedLt x hx := by
    have hnext : s.nextTask ≤ s'.nextTask := by rcases hf.spawned with ⟨hn, -⟩ | ⟨hn, -⟩ <;> omega
    rcases hf.opened with ⟨ho, hs⟩ | ⟨ho, hs⟩ <;> rw [ho] at hx
    · have := h.openedLt x hx; omega
    · rcases List.mem_cons.mp hx with rfl | hx
      · simp only; omega
      · have := h.openedLt x hx; omega
  openedNodup := by
    rcases hf.opened with ⟨ho, -⟩ | ⟨ho, -⟩ <;> rw [ho]
    · exact h.openedNodup
    · refine List.nodup_cons.mpr ⟨fun hmem => ?_, h.openedNodup⟩
      obtain ⟨x, hx, hx1⟩ := List.mem_map.mp hmem
      have := (h.openedLt x hx).1
      omega

end WellFormed

variable {cv : GoString → Except GoError Bytes} {t : Int}

/-- A step of an existing task is framed, whatever the task. -/
theorem step_frame (hwf : WellFormed s) {ok : Bool}
    (h : step cv t s (.step i ok) = some s') : TaskFrame s s' i := by
  simp only [step] at h
  split at h
  · exact (relayUDPStep_spec (hwf.lt_of_some ‹_›) h).2.2.1
  · exact (readerStep_spec (hwf.lt_of_some ‹_›) h).2.1
  · exact (relayDNSStep_spec (hwf.lt_of_some ‹_›) h).2.1
  · cases h

theorem WellFormed.step (h : WellFormed s) {e : Event} (hs : step cv t s e = some s') :
    WellFormed s' := by
  cases e with
  | relayUDP src dst => cases hs; exact h.spawn _
  | relayDNS src dns => cases hs; exact h.spawn _
  | stop => cases hs; exact h.stop
  | step i ok =>
    have hi : i < s.nextTask := by
      simp only [Redfrog.ProxyClient.step] at hs
      split at hs
      all_goals first | exact h.lt_of_some ‹_› | cases hs
    exact h.of_frame hi (step_frame h hs)

theorem Reachable.wellFormed (h : Reachable cv t s) : WellFormed s := by
  induction h with
  | init => exact ⟨fun _ _ => rfl, fun _ h => absurd h (List.not_mem_nil _), List.nodup_nil⟩
  | step e _ hs ih => exact ih.step hs

/-- A property of the last state of a run holds of some reachable state. -/
theorem exists_reachable_of_run {es : List Event} {P : BackendState → Prop} [DecidablePred P]
    (h : (run cv t .init es).map (fun s => decide (P s)) = some true) :
    ∃ s, Reachable cv t s ∧ P s := by
  cases hr : run cv t .init es with
  | none => simp [hr] at h
  | some s => exact ⟨s, reachable_of_run cv t .init hr, by simpa [hr] using h⟩

end Steps

/-! ### The flow of the spec's UDP scenarios -/

/-- The client `192.168.1.5:40000`. -/
def sampleClient : GoString := "192.168.1.5:40000".toList

/-- The original destination `8.8.8.8:53`. -/
def sampleTarget : GoString := "8.8.8.8:53".toList

/-- An address codec that knows the header of `8.8.8.8:53`, `01 08 08 08 08 00 35`. -/
def sampleConvert (addr : GoString) : Except GoError Bytes :=
  if addr = sampleTarget then .ok [1, 8, 8, 8, 8, 0, 53] else .error (.external 0)

end Redfrog.ProxyClient
