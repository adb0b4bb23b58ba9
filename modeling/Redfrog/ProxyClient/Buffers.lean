import Redfrog.ProxyClient.Datapath

/-!
# Pool buffers on the UDP and DNS paths

Each turn of `startListenUDP` draws a payload buffer from `udpBuffer_` and a
control-message buffer from `udpOOBBuffer_` and reads a datagram into both.
On a read error it puts both back; otherwise it hands both to a `handleUDP`
goroutine, which puts the control buffer back once the original destination
is read from it, relays the datagram, during which `RelayUDPData` may borrow
a third buffer of `udpBuffer_` for the outbound datagram, and puts the payload
buffer back on its way out. `RelayDNS` borrows one buffer of the pool its
caller passes.

Every path of each of these keeps the discipline of `LeakyBuffer`, and so
does any interleaving of any number of them: the turns of the loop, the
handlers they spawn and concurrent `RelayDNS` calls. A buffer is named by its
task and the `Get` that drew it, so two tasks never share one.
-/

namespace Redfrog.ProxyClient

open Go Common

/-- How the world answers one turn of `startListenUDP` and the `handleUDP`
it spawns. -/
structure UdpTurn where
  /-- `ReadMsgUDP`: the lengths of the payload and of the control message,
  or its error, the closed socket's included. -/
  read : Except GoError (Nat × Nat)
  /-- `network.ExtractOrigDstFromUDP`. -/
  origDst : Except GoError GoString
  /-- Whether `getBackendProxy(true)` finds a backend. -/
  backend : Bool
  /-- The NAT entry `RelayUDPData` finds or creates, or the error it returns
  on the way. -/
  entry : Except GoError UdpProxyEntry
  /-- The size of the pool's buffers, and the stale bytes of the one lent. -/
  bufferSize : Nat
  pooled : Bytes
  /-- The bytes of the payload buffer. -/
  data : Bytes
  /-- The outcome of the outbound `WriteTo`. -/
  writeErr : Option GoError

/-- `ProxyClient.handleUDP(buffer, oob, srcAddr, dataLen, oobLen)`: its
accesses to the two buffers it is handed and to the one `RelayUDPData`
borrows, `newBuf`. -/
def handleUDP (buffer oob newBuf dataLen : Nat) (t : UdpTurn) : List BufEvent :=
  -- `ExtractOrigDstFromUDP` reads `oob`; both of its branches put it back
  .use oob :: .put .udpOOBBuffer oob ::
    (match t.origDst with
      | .error _ => []
      | .ok _ =>
        if t.backend then
          (relayUDPSend t.entry .udpBuffer t.bufferSize t.pooled newBuf buffer t.data dataLen
            t.writeErr).buffers
        else []) ++
    -- `defer c.udpBuffer_.Put(buffer)`
    [.put .udpBuffer buffer]

/-- One turn of `startListenUDP`, followed by the handler it spawns, with
the buffers `buffer` and `oob` it draws and `newBuf` for `RelayUDPData`. -/
def listenTurn (buffer oob newBuf : Nat) (t : UdpTurn) : List BufEvent :=
  .get .udpBuffer buffer :: .get .udpOOBBuffer oob ::
    -- `ReadMsgUDP(buffer.Bytes(), oob.Bytes())`
    .use buffer :: .use oob ::
    match t.read with
    | .error _ => [.put .udpBuffer buffer, .put .udpOOBBuffer oob]
    | .ok (dataLen, _) => handleUDP buffer oob newBuf dataLen t

/-! ### Every path of one turn -/

/-- The accesses of `RelayUDPData` to pool buffers, on each of its paths: an
error before the send, the one-shot buffer, and the pooled buffer with a
panic or a send. -/
theorem relayUDPSend_buffers (entry : Except GoError UdpProxyEntry) (leakyBuffer : Pool)
    (bufferSize : Nat) (pooled : Bytes) (newBuf dataBuf : Nat) (data : Bytes) (dataLen : Nat)
    (writeErr : Option GoError) :
    (relayUDPSend entry leakyBuffer bufferSize pooled newBuf dataBuf data dataLen
      writeErr).buffers ∈
      [[], [.use dataBuf], [.get leakyBuffer newBuf, .use newBuf, .put leakyBuffer newBuf],
        [.get leakyBuffer newBuf, .use newBuf, .use dataBuf, .use newBuf, .use newBuf,
          .put leakyBuffer newBuf]] := by
  simp only [relayUDPSend]
  split
  · simp
  · split_ifs
    · split <;> simp
    · split <;> simp

/-- On every path of a turn of the listener and its handler, each buffer is
put back once, to its own pool, and touched only before; the turn's buffers
are the three it names. -/
theorem listenTurn_disciplined (t : UdpTurn) :
    Disciplined (listenTurn 0 1 2 t) ∧ ∀ b ∈ (listenTurn 0 1 2 t).map BufEvent.buf, b < 3 := by
  have hrelay := relayUDPSend_buffers t.entry .udpBuffer t.bufferSize t.pooled 2 0 t.data
  simp only [List.mem_cons, List.mem_singleton, List.not_mem_nil, or_false] at hrelay
  simp only [listenTurn, handleUDP]
  rcases t.read with err | ⟨dataLen, oobLen⟩
  · dsimp only
    decide
  · rcases t.origDst with err | dst
    · dsimp only
      decide
    · cases t.backend
      · simp only [Bool.false_eq_true, if_false]
        decide
      · rcases hrelay dataLen t.writeErr with h | h | h | h <;> simp only [if_true, h] <;> decide

/-- `RelayDNS` puts its buffer back on every path, the panics included. -/
theorem relayDNS_disciplined (addrBytes : Except GoError Bytes) (data : Bytes)
    (leakyBuffer : Pool) (buffer : Bytes) (io : DnsIO) :
    Disciplined (relayDNS addrBytes data leakyBuffer buffer io).buffers ∧
    ∀ b ∈ (relayDNS addrBytes data leakyBuffer buffer io).buffers.map BufEvent.buf, b < 3 := by
  rcases addrBytes with err | addr
  · exact ⟨fun b hb => by simp [relayDNS] at hb, fun b hb => by simp [relayDNS] at hb⟩
  · refine ⟨disciplined_bracket _ _ _, fun b hb => ?_⟩
    simp [relayDNS, BufEvent.buf] at hb
    omega

/-! ### Any number of tasks, interleaved -/

/-- A task that borrows pool buffers. -/
inductive BufTask where
  /-- A turn of `startListenUDP` and the `handleUDP` it spawns. -/
  | turn (t : UdpTurn)
  /-- A `RelayDNS` call, with the pool its caller passes. -/
  | dns (addrBytes : Except GoError Bytes) (data : Bytes) (leakyBuffer : Pool)
      (buffer : Bytes) (io : DnsIO)

/-- The accesses of task number `i`, whose buffers are named `3 i`, `3 i + 1`
and `3 i + 2`. -/
def BufTask.trace (i : Nat) : BufTask → List BufEvent
  | .turn t => (listenTurn 0 1 2 t).map (.rename (3 * i + ·))
  | .dns a d p b io => (relayDNS a d p b io).buffers.map (.rename (3 * i + ·))

/-- The traces of the tasks, numbered from `i`. -/
def traces (i : Nat) : List BufTask → List (List BufEvent)
  | [] => []
  | task :: tasks => task.trace i :: traces (i + 1) tasks

theorem BufTask.trace_spec (i : Nat) (task : BufTask) :
    Disciplined (task.trace i) ∧
      ∀ b ∈ (task.trace i).map BufEvent.buf, 3 * i ≤ b ∧ b < 3 * i + 3 := by
  have hinj : Function.Injective (3 * i + ·) := fun _ _ h => by simpa using h
  obtain ⟨tr, htr, hd, hlt⟩ : ∃ tr, task.trace i = tr.map (.rename (3 * i + ·)) ∧
      Disciplined tr ∧ ∀ b ∈ tr.map BufEvent.buf, b < 3 := by
    cases task with
    | turn t => exact ⟨_, rfl, listenTurn_disciplined t⟩
    | dns a d p b io => exact ⟨_, rfl, relayDNS_disciplined a d p b io⟩
  rw [htr]
  refine ⟨hd.rename hinj, fun b hb => ?_⟩
  simp only [List.map_map, List.mem_map, Function.comp_apply, BufEvent.buf_rename] at hb
  obtain ⟨ev, hev, rfl⟩ := hb
  have := hlt _ (List.mem_map_of_mem _ hev)
  omega

theorem traces_spec (i : Nat) (tasks : List BufTask) :
    (∀ tr ∈ traces i tasks, Disciplined tr ∧ ∀ b ∈ tr.map BufEvent.buf, 3 * i ≤ b) ∧
    (traces i tasks).Pairwise fun t t' => ∀ b ∈ t.map BufEvent.buf, b ∉ t'.map BufEvent.buf := by
  induction tasks generalizing i with
  | nil => simp [traces]
  | cons task tasks ih =>
    obtain ⟨hd, hlt⟩ := task.trace_spec i
    obtain ⟨hrest, hpair⟩ := ih (i + 1)
    refine ⟨fun tr htr => ?_, List.pairwise_cons.mpr ⟨fun t' ht' b hb hb' => ?_, hpair⟩⟩
    · rcases List.mem_cons.mp htr with rfl | htr
      · exact ⟨hd, fun b hb => (hlt b hb).1⟩
      · exact ⟨(hrest tr htr).1, fun b hb => by have := (hrest tr htr).2 b hb; omega⟩
    · have := (hrest t' ht').2 b hb'
      have := hlt b hb
      omega

/-- Any number of turns of the UDP listener, each with the handler it spawns,
and of `RelayDNS` calls, on every path of each and in any interleaving: every
buffer drawn from `udpBuffer_`, `udpOOBBuffer_` or a pool passed to
`RelayUDPData` or `RelayDNS` is put back to its own pool exactly once and
touched only before. -/
theorem pool_buffers_disciplined (tasks : List BufTask) (m : List BufEvent)
    (hm : Merge (traces 0 tasks) m) : Disciplined m :=
  let h := traces_spec 0 tasks
  Disciplined.merge hm (fun tr htr => (h.1 tr htr).1) h.2

/-- A datagram of one byte from the client to `8.8.8.8:53` through an
existing NAT entry and a pooled buffer. -/
def sampleTurn : UdpTurn :=
  ⟨.ok (1, 24), .ok "8.8.8.8:53".toList, true, .ok sampleEntry, 16, List.replicate 16 0, [42], none⟩

theorem pool_buffers_disciplined_turn :
    Merge (traces 0 [.turn sampleTurn]) ((BufTask.turn sampleTurn).trace 0) ∧
      Disciplined ((BufTask.turn sampleTurn).trace 0) :=
  have hm : Merge (traces 0 [.turn sampleTurn]) ((BufTask.turn sampleTurn).trace 0) :=
    .cons .nil (.self_nil _)
  ⟨hm, pool_buffers_disciplined _ _ hm⟩


end Redfrog.ProxyClient
