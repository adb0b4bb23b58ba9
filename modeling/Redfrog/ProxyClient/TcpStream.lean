import Redfrog.ProxyClient.TcpRelay

/-!
# What the relay delivers

A relay carries two byte streams: the header and then the client's bytes to
the remote server, and the remote server's bytes back to the client. This
module proves that `RelayTCPData` does so on both paths and in every run:
each end receives a prefix of what it should, in order, with nothing
invented, duplicated or reordered; while a copy loop runs it has dropped
nothing; and the sizes the call returns count exactly the bytes each end
received past the header.

The world offers a loop bytes through the `read` events of that loop
(`offered`). One `io.Copy` keeps an account (`CopyLoop.Conserves`): its count
is the number of bytes it delivered, and while it runs, the bytes it
delivered followed by the chunk in hand are exactly the bytes it read. A
failed or short write drops the rest of its chunk and a `Read` past its
deadline the bytes it was offered, but the loop then returns, so what it
delivered stays a prefix of what it was offered. `StreamInv` lifts the
account to the relay, one step at a time.

Once a loop has returned it sets all four deadlines to `now`, and from then
on every `Read` and `Write` of the other loop fails with a timeout, whatever
the world would have answered: that is what wakes the goroutine still
copying, so that the relay can return. It does return: from then on at most
three steps of the relay are left, whatever the two ends answer and however
the clock moves (`Relay.pending` counts them), and until it has returned one
of them can always be taken.
-/

namespace Redfrog.ProxyClient

open Go

/-- The bytes event `e` offers loop `d`: the data of a `Read` by that loop. -/
def TcpEvent.readData (d : Dir) : TcpEvent → Bytes
  | .read d' r => if d' = d then r.data else []
  | _ => []

/-- The bytes a run offers loop `d`: what the client sent for `up`, what the
remote server sent for `down`, as far as the loop's reads reached. -/
def offered (d : Dir) (es : List TcpEvent) : Bytes := es.flatMap (TcpEvent.readData d)

/-! ### One `io.Copy` -/

/-- The account of an `io.Copy` loop that has delivered `delivered` of the
bytes `read` it was offered: its count is what it delivered; reading, it has
delivered all; writing, all but the chunk in hand; returned, a prefix. -/
def CopyLoop.Conserves (l : CopyLoop) (delivered read : Bytes) : Prop :=
  l.written = delivered.length ∧
  match l.pc with
  | .read => delivered = read
  | .write chunk _ => delivered ++ chunk = read
  | .copied _ | .finished _ => delivered <+: read

namespace CopyLoop

variable {l : CopyLoop} {delivered read : Bytes}

theorem conserves_start : (⟨.read, 0⟩ : CopyLoop).Conserves [] [] := ⟨rfl, rfl⟩

theorem Conserves.prefix (h : l.Conserves delivered read) : delivered <+: read := by
  obtain ⟨-, h⟩ := h
  split at h
  · exact h ▸ List.prefix_refl _
  · exact h ▸ List.prefix_append _ _
  all_goals exact h

/-- A `Read` adds its bytes to what was offered: the loop then holds them,
reads again when there were none, or returns. -/
theorem Conserves.afterRead (h : l.Conserves delivered read) (hpc : l.pc = .read)
    (timedOut : Bool) (r : ReadResult) :
    (l.afterRead timedOut r).Conserves delivered (read ++ r.data) := by
  obtain ⟨hw, h⟩ := h
  simp only [hpc] at h
  subst h
  unfold afterRead
  split_ifs with ht hd
  · exact ⟨hw, List.prefix_append _ _⟩
  · split
    · exact ⟨hw, by simp [hpc, hd]⟩
    · exact ⟨hw, by simp [hd]⟩
  · exact ⟨hw, rfl⟩

/-- A `Write` delivers what the loop counts: all of the chunk, or its first
`n` bytes before the loop returns, or nothing when it timed out. -/
theorem Conserves.afterWrite {chunk : Bytes} {stop : Option ReadEnd}
    (h : l.Conserves delivered read) (hpc : l.pc = .write chunk stop) (timedOut : Bool)
    (w : WriteResult) :
    (l.afterWrite chunk stop timedOut w).1.Conserves
      (delivered ++ (l.afterWrite chunk stop timedOut w).2) read := by
  obtain ⟨hw, h⟩ := h
  simp only [hpc] at h
  subst h
  unfold afterWrite
  split_ifs
  · exact ⟨by simpa using hw, by simp⟩
  · cases w with
    | ok =>
      cases stop
      · exact ⟨by simp [hw], rfl⟩
      · exact ⟨by simp [hw], List.prefix_refl _⟩
    | fail n e =>
      exact ⟨by simp [hw], List.prefix_append_right_inj _ |>.mpr (List.take_prefix _ _)⟩

/-- Setting the deadlines after returning keeps the account. -/
theorem Conserves.finish (h : l.Conserves delivered read) (err : Option IoError) :
    ({ l with pc := .finished err } : CopyLoop).Conserves delivered read :=
  ⟨h.1, h.prefix⟩

end CopyLoop

/-! ### The relay -/

/-- Nothing read and nothing delivered to the client yet; both loops at
their start. -/
def Relay.Quiet (offeredUp offeredDown : Bytes) (s : Relay) : Prop :=
  s.toClient = [] ∧ offeredUp = [] ∧ offeredDown = [] ∧ s.up = ⟨.read, 0⟩ ∧ s.down = ⟨.read, 0⟩

/-- The streams of `s` once the world has offered `up` the bytes `offeredUp`
and `down` the bytes `offeredDown`. Before the header write the remote
server has nothing, and after a failed one a prefix of the header; from a
successful one on it has the header and then what `up` delivered, the client
what `down` delivered, and each loop keeps its account. -/
def StreamInv (offeredUp offeredDown : Bytes) (s : Relay) : Prop :=
  match s.pc with
  | .convert | .connect | .header | .failed _ => s.toRemote = [] ∧ s.Quiet offeredUp offeredDown
  | .headerFailed _ => s.toRemote <+: s.header ∧ s.Quiet offeredUp offeredDown
  | .copying | .returned =>
    ∃ delivered, s.toRemote = s.header ++ delivered ∧ s.up.Conserves delivered offeredUp ∧
      s.down.Conserves s.toClient offeredDown

section Streams

variable {b : ProxyBackend} {s s' : Relay} {up down : Bytes}

theorem StreamInv.step (h : StreamInv up down s) {e : TcpEvent}
    (hs : relayTCPStep b s e = some s') :
    StreamInv (up ++ e.readData .up) (down ++ e.readData .down) s' := by
  cases e with
  | tick n => cases hs; simpa [TcpEvent.readData] using h
  | convert addr =>
    simp only [relayTCPStep] at hs
    split at hs <;> cases hs <;> simpa [TcpEvent.readData, StreamInv, ‹s.pc = .convert›] using h
  | openMux =>
    simp only [relayTCPStep] at hs
    split at hs <;> cases hs
    simpa [TcpEvent.readData, StreamInv, Relay.start, ‹s.pc = .connect›] using h
  | openPlain dial =>
    simp only [relayTCPStep] at hs
    split at hs <;> cases hs <;>
      simpa [TcpEvent.readData, StreamInv, Relay.start, ‹s.pc = .connect›] using h
  | header w =>
    simp only [relayTCPStep] at hs
    split at hs <;> cases hs
    simp only [StreamInv, ‹s.pc = .header›] at h
    obtain ⟨hr, hq⟩ := h
    obtain ⟨hc, rfl, rfl, hu, hd⟩ := hq
    simp only [TcpEvent.readData, List.append_nil, Relay.writeHeader]
    split_ifs
    · exact ⟨hr ▸ List.nil_prefix, hc, rfl, rfl, hu, hd⟩
    · cases w with
      | ok =>
        simp only [StreamInv, hr, hc, hu, hd]
        exact ⟨[], by simp, CopyLoop.conserves_start, CopyLoop.conserves_start⟩
      | fail n e => exact ⟨by simp [hr, List.take_prefix], hc, rfl, rfl, hu, hd⟩
  | read d r =>
    simp only [relayTCPStep] at hs
    split at hs <;> cases hs
    rename_i hpc hl
    simp only [StreamInv, hpc] at h
    simp only [StreamInv, Relay.setLoop_pc, hpc]
    obtain ⟨D, hr, hu, hd⟩ := h
    cases d
    · exact ⟨D, by simp [Relay.setLoop, hr], by simpa [TcpEvent.readData] using hu.afterRead hl _ r,
        by simpa [TcpEvent.readData] using hd⟩
    · exact ⟨D, by simpa [Relay.setLoop] using hr, by simpa [TcpEvent.readData] using hu,
        by simpa [Relay.setLoop, TcpEvent.readData] using hd.afterRead hl _ r⟩
  | write d w =>
    simp only [relayTCPStep] at hs
    split at hs <;> cases hs
    rename_i chunk stop hpc hl
    simp only [StreamInv, hpc] at h
    simp only [StreamInv, Relay.setLoop_pc, hpc]
    obtain ⟨D, hr, hu, hd⟩ := h
    cases d
    · exact ⟨D ++ ((s.loop .up).afterWrite chunk stop (expired (s.sink .up).write s.now) w).2,
        by simp [Relay.setLoop, hr], by simpa [TcpEvent.readData] using hu.afterWrite hl _ w,
        by simpa [TcpEvent.readData] using hd⟩
    · exact ⟨D, by simpa [Relay.setLoop] using hr, by simpa [TcpEvent.readData] using hu,
        by simpa [Relay.setLoop, TcpEvent.readData] using hd.afterWrite hl _ w⟩
  | wake d =>
    simp only [relayTCPStep] at hs
    split at hs <;> cases hs
    rename_i err hpc hl
    simp only [StreamInv, hpc] at h
    simp only [StreamInv, Relay.setLoop_pc, hpc]
    obtain ⟨D, hr, hu, hd⟩ := h
    cases d
    · exact ⟨D, by simpa [Relay.setLoop] using hr, by simpa [TcpEvent.readData] using hu.finish err,
        by simpa [TcpEvent.readData] using hd⟩
    · exact ⟨D, by simpa [Relay.setLoop] using hr, by simpa [TcpEvent.readData] using hu,
        by simpa [Relay.setLoop, TcpEvent.readData] using hd.finish err⟩
  | recv =>
    simp only [relayTCPStep] at hs
    split at hs <;> cases hs
    simpa [TcpEvent.readData, StreamInv, ‹s.pc = .copying›] using h

theorem StreamInv.run (h : StreamInv up down s) {es : List TcpEvent}
    (hr : relayTCPRun b s es = some s') :
    StreamInv (up ++ offered .up es) (down ++ offered .down es) s' := by
  induction es generalizing s up down with
  | nil => cases hr; simpa [offered] using h
  | cons e es ih =>
    obtain ⟨s₁, hs₁, hr⟩ := Option.bind_eq_some.mp hr
    simpa [offered, List.append_assoc] using ih (h.step hs₁) hr

/-- Every relay keeps its streams in order. -/
theorem relayTCPRun_streamInv {es : List TcpEvent} (hr : relayTCPRun b Relay.init es = some s) :
    StreamInv (offered .up es) (offered .down es) s := by
  have h₀ : StreamInv [] [] Relay.init := ⟨rfl, rfl, rfl, rfl, rfl, rfl⟩
  simpa using h₀.run hr

/-- A relay in which the client sends `abc` and the write to the remote
server fails (error 32) after two bytes, while the remote server sends `x`
and closes. -/
def shortWriteRun : List TcpEvent :=
  [.convert (.ok smokeHeader), .openPlain none, .header .ok,
    .read .up ⟨[97, 98, 99], none⟩, .write .up (.fail 2 (.external 32)),
    .read .down ⟨[120], some .eof⟩, .write .down .ok, .wake .up, .wake .down, .recv]

/-- On either path and however the reads, writes and deadlines go, the
remote server has received a prefix of the header followed by what the
client sent, and the client a prefix of what the remote server sent: the
relay invents, duplicates and reorders nothing. -/
theorem relayTCP_delivers_prefixes {es : List TcpEvent}
    (hr : relayTCPRun b Relay.init es = some s) :
    s.toRemote <+: s.header ++ offered .up es ∧ s.toClient <+: offered .down es := by
  have h := relayTCPRun_streamInv hr
  unfold StreamInv at h
  split at h
  all_goals first
    | exact ⟨h.1 ▸ List.nil_prefix, h.2.1 ▸ List.nil_prefix⟩
    | exact ⟨h.1.trans (List.prefix_append _ _), h.2.1 ▸ List.nil_prefix⟩
    | obtain ⟨D, hD, hu, hd⟩ := h
      exact ⟨hD ▸ (List.prefix_append_right_inj _).mpr hu.prefix, hd.prefix⟩

theorem relayTCP_delivers_prefixes_shortWrite :
    ∃ s, relayTCPRun sampleBackend Relay.init shortWriteRun = some s ∧
      s.toRemote <+: s.header ++ offered .up shortWriteRun ∧
      s.toClient <+: offered .down shortWriteRun :=
  ⟨_, rfl, @relayTCP_delivers_prefixes sampleBackend _ _ rfl⟩

/-- While the copies run, a loop that is reading has delivered every byte
offered to it, and a loop that is writing every byte but the chunk in hand:
nothing is dropped before a loop returns. -/
theorem relayTCP_running_loops_drop_nothing {es : List TcpEvent}
    (hr : relayTCPRun b Relay.init es = some s) (hc : s.pc = .copying) :
    (s.up.pc = .read → s.toRemote = s.header ++ offered .up es) ∧
    (∀ chunk stop, s.up.pc = .write chunk stop →
      s.toRemote ++ chunk = s.header ++ offered .up es) ∧
    (s.down.pc = .read → s.toClient = offered .down es) ∧
    (∀ chunk stop, s.down.pc = .write chunk stop → s.toClient ++ chunk = offered .down es) := by
  have h := relayTCPRun_streamInv hr
  simp only [StreamInv, hc] at h
  obtain ⟨D, hD, ⟨-, hu⟩, ⟨-, hd⟩⟩ := h
  refine ⟨fun hl => ?_, fun chunk stop hl => ?_, fun hl => ?_, fun chunk stop hl => ?_⟩ <;>
    simp only [hl] at hu hd
  · rw [hD, hu]
  · rw [hD, List.append_assoc, hu]
  · exact hd
  · exact hd

theorem relayTCP_running_loops_drop_nothing_midway :
    ∃ s, relayTCPRun sampleBackend Relay.init (shortWriteRun.take 4) = some s ∧
      s.pc = .copying ∧
      (s.up.pc = .read → s.toRemote = s.header ++ offered .up (shortWriteRun.take 4)) ∧
      (∀ chunk stop, s.up.pc = .write chunk stop →
        s.toRemote ++ chunk = s.header ++ offered .up (shortWriteRun.take 4)) ∧
      (s.down.pc = .read → s.toClient = offered .down (shortWriteRun.take 4)) ∧
      (∀ chunk stop, s.down.pc = .write chunk stop →
        s.toClient ++ chunk = offered .down (shortWriteRun.take 4)) :=
  ⟨_, rfl, rfl, @relayTCP_running_loops_drop_nothing sampleBackend _ _ rfl rfl⟩

/-- The sizes `RelayTCPData` returns count exactly the bytes each end
received past the header, partial writes included: on the plain path
`inboundSize` is what the client received and `outboundSize` what the
remote server received after the header; on the mux path the other way
round. -/
theorem relayTCP_sizes_count_delivered {es : List TcpEvent} {inbound outbound : Nat}
    {err : Option RelayError} (hr : relayTCPRun b Relay.init es = some s)
    (hres : s.result = some (inbound, outbound, err)) :
    (s.path = .plain →
      inbound = s.toClient.length ∧ outbound = s.toRemote.length - s.header.length) ∧
    (s.path = .mux →
      inbound = s.toRemote.length - s.header.length ∧ outbound = s.toClient.length) := by
  have h := relayTCPRun_streamInv hr
  cases hpc : s.pc <;> simp only [Relay.result, hpc, reduceCtorEq] at hres <;>
    simp only [StreamInv, hpc] at h
  · -- failed before the header write: nothing delivered
    obtain ⟨hR, hC, -⟩ := h
    simp only [Option.some.injEq, Prod.mk.injEq] at hres
    simp [hR, hC, ← hres.1, ← hres.2.1]
  · -- a failed header write: at most a prefix of the header delivered
    obtain ⟨hR, hC, -⟩ := h
    have hle := hR.length_le
    cases hp : s.path <;> simp only [hp, Option.some.injEq, Prod.mk.injEq] at hres <;>
      simp only [hC, ← hres.1, ← hres.2.1, List.length_nil, reduceCtorEq, true_and,
        imp_self, false_implies, and_true, forall_const] <;> omega
  · -- returned after the copies: each count is what its loop delivered
    obtain ⟨D, hD, ⟨hu, -⟩, ⟨hd, -⟩⟩ := h
    cases hp : s.path <;> simp only [hp, Option.some.injEq, Prod.mk.injEq] at hres <;>
      simp [hD, ← hres.1, ← hres.2.1, hu, hd]

/-- The short write counts its two bytes: the plain path returns `(1, 2)`. -/
theorem relayTCP_sizes_count_delivered_shortWrite :
    ∃ s, relayTCPRun sampleBackend Relay.init shortWriteRun = some s ∧
      s.result = some (1, 2, some (.io (.err (.external 32)))) ∧
      (s.path = .plain → 1 = s.toClient.length ∧ 2 = s.toRemote.length - s.header.length) ∧
      (s.path = .mux → 1 = s.toRemote.length - s.header.length ∧ 2 = s.toClient.length) :=
  ⟨_, rfl, rfl, @relayTCP_sizes_count_delivered sampleBackend _ shortWriteRun _ _ _ rfl rfl⟩

end Streams

/-! ### Waking the other loop -/

section Wake

variable {b : ProxyBackend} {s s' : Relay}

/-- Once a loop has returned, both connections' deadlines have passed. -/
theorem DeadlinesSet.expired_of_anyFinished {T : Int} (h : DeadlinesSet T s)
    (hc : s.pc = .copying) (hfin : s.anyFinished = true) (d : Dir) :
    expired (s.source d).read s.now = true ∧ expired (s.sink d).write s.now = true := by
  unfold DeadlinesSet at h
  split at h
  · simp [hc, RelayPc.beforeStart] at h
  rw [if_pos hfin] at h
  obtain ⟨w, hw, hcl, hrem⟩ := h.2
  cases d <;> simp [Relay.source, Relay.sink, hcl, hrem, expired, hw]

/-- Once a loop has returned and set the deadlines to `now`, every `Read`
and every `Write` of the other loop fails with a timeout, whatever the world
would have answered. -/
theorem wake_times_out_other_loop {es : List TcpEvent} {d : Dir}
    (hr : relayTCPRun b Relay.init es = some s) (hc : s.pc = .copying)
    (hfin : s.anyFinished = true) :
    ((s.loop d).pc = .read → ∀ r : ReadResult, relayTCPStep b s (.read d r) =
      some (s.setLoop d { s.loop d with pc := .copied (some .timeout) } [])) ∧
    (∀ chunk stop, (s.loop d).pc = .write chunk stop → ∀ w : WriteResult,
      relayTCPStep b s (.write d w) =
        some (s.setLoop d { s.loop d with pc := .copied (some .timeout) } [])) := by
  obtain ⟨hsource, hsink⟩ := (relayTCPRun_deadlinesSet hr).expired_of_anyFinished hc hfin d
  exact ⟨fun hl r => by simp [relayTCPStep, hc, hl, hsource, CopyLoop.afterRead],
    fun chunk stop hl w => by simp [relayTCPStep, hc, hl, hsink, CopyLoop.afterWrite]⟩

/-- The client closes its connection before the remote server has sent
anything: the `up` loop returns at `io.EOF` and wakes `down`. -/
def clientClosesRun : List TcpEvent :=
  [.convert (.ok smokeHeader), .openPlain none, .header .ok, .read .up ⟨[], some .eof⟩, .wake .up]

theorem wake_times_out_other_loop_clientCloses :
    ∃ s, relayTCPRun sampleBackend Relay.init clientClosesRun = some s ∧ s.pc = .copying ∧
      s.anyFinished = true ∧
      ((s.loop .down).pc = .read → ∀ r : ReadResult, relayTCPStep sampleBackend s (.read .down r) =
        some (s.setLoop .down { s.loop .down with pc := .copied (some .timeout) } [])) ∧
      (∀ chunk stop, (s.loop .down).pc = .write chunk stop → ∀ w : WriteResult,
        relayTCPStep sampleBackend s (.write .down w) =
          some (s.setLoop .down { s.loop .down with pc := .copied (some .timeout) } [])) :=
  ⟨_, rfl, rfl, rfl, @wake_times_out_other_loop sampleBackend _ clientClosesRun .down rfl rfl rfl⟩

/-! ### The relay returns -/

/-- Whether an event is a step of the relay rather than of the clock. -/
def TcpEvent.moves : TcpEvent → Bool
  | .tick _ => false
  | _ => true

/-- The steps a loop has left, once the deadlines have passed, before it has
set them itself: its `Read` or `Write`, its return, its `SetDeadline`s. -/
def CopyLoop.pending (l : CopyLoop) : Nat :=
  match l.pc with
  | .read | .write _ _ => 2
  | .copied _ => 1
  | .finished _ => 0

/-- The steps a copying relay has left: each loop's, then the receive. -/
def Relay.pending (s : Relay) : Nat :=
  match s.pc with
  | .copying => s.up.pending + s.down.pending + 1
  | _ => 0

/-- The relay has returned, or it copies and one of its loops has returned. -/
def Relay.WindingDown (s : Relay) : Prop :=
  s.pc = .returned ∨ (s.pc = .copying ∧ s.anyFinished = true)

theorem CopyLoop.pending_le (l : CopyLoop) : l.pending ≤ 2 := by
  unfold CopyLoop.pending
  split <;> omega

theorem CopyLoop.pending_of_finished {l : CopyLoop} (h : l.finished = true) : l.pending = 0 := by
  unfold CopyLoop.finished at h
  unfold CopyLoop.pending
  split <;> simp_all

theorem Relay.pending_setLoop (hc : s.pc = .copying) (d : Dir) (l : CopyLoop) (bytes : Bytes) :
    (s.setLoop d l bytes).pending + (s.loop d).pending = s.pending + l.pending := by
  cases d <;> simp only [Relay.pending, Relay.setLoop, Relay.loop, hc] <;> omega

/-- A loop that has not finished can take its next step: its I/O, whatever
the world answers, or the `SetDeadline`s once it has returned. -/
theorem loop_can_step (hc : s.pc = .copying) (d : Dir) (hl : (s.loop d).finished = false) :
    ∃ e, e.moves = true ∧ (relayTCPStep b s e).isSome := by
  rcases hpc : (s.loop d).pc with _ | ⟨chunk, stop⟩ | err | err
  · exact ⟨.read d ⟨[], none⟩, rfl, by simp [relayTCPStep, hc, hpc]⟩
  · exact ⟨.write d .ok, rfl, by simp [relayTCPStep, hc, hpc]⟩
  · exact ⟨.wake d, rfl, by simp [relayTCPStep, hc, hpc]⟩
  · simp [CopyLoop.finished, hpc] at hl

/-- A copying relay is never stuck: a loop that has not finished can step,
and once both have, the main goroutine receives. -/
theorem copying_can_step (hc : s.pc = .copying) :
    ∃ e, e.moves = true ∧ (relayTCPStep b s e).isSome := by
  cases hu : s.up.finished
  · exact loop_can_step hc .up hu
  cases hd : s.down.finished
  · exact loop_can_step hc .down hd
  exact ⟨.recv, rfl, by simp [relayTCPStep, hc, hu, hd]⟩

/-- Once a loop has returned, every step of the relay uses up one of the
steps it has left, and the clock uses none. -/
theorem Relay.WindingDown.step (hD : DeadlinesSet b.tcpTimeout s) (hW : s.WindingDown)
    {e : TcpEvent} (hs : relayTCPStep b s e = some s') :
    s'.WindingDown ∧ s'.pending + (if e.moves then 1 else 0) ≤ s.pending := by
  rcases hW with hret | ⟨hc, hfin⟩
  · cases e <;> simp only [relayTCPStep, hret, reduceCtorEq, Option.some.injEq] at hs
    subst hs
    exact ⟨.inl rfl, by simp [Relay.pending, TcpEvent.moves]⟩
  have hexp := hD.expired_of_anyFinished hc hfin
  cases e with
  | tick n =>
    cases hs
    exact ⟨.inr ⟨hc, hfin⟩, by simp [Relay.pending, hc, TcpEvent.moves]⟩
  | read d r =>
    rcases hl : (s.loop d).pc with _ | ⟨chunk, stop⟩ | err | err <;>
      simp only [relayTCPStep, hc, hl, reduceCtorEq, Option.some.injEq] at hs
    subst hs
    rw [(hexp d).1]
    have hp := Relay.pending_setLoop hc d ((s.loop d).afterRead true r) []
    rw [show ((s.loop d).afterRead true r).pending = 1 from rfl,
      show (s.loop d).pending = 2 by simp [CopyLoop.pending, hl]] at hp
    exact ⟨.inr ⟨by simp [hc], by rw [Relay.setLoop_anyFinished _ _ _ _
      (by simp [CopyLoop.finished, hl]) (CopyLoop.afterRead_finished hl _ _), hfin]⟩,
      by simp only [TcpEvent.moves, ↓reduceIte]; omega⟩
  | write d w =>
    rcases hl : (s.loop d).pc with _ | ⟨chunk, stop⟩ | err | err <;>
      simp only [relayTCPStep, hc, hl, reduceCtorEq, Option.some.injEq] at hs
    subst hs
    rw [(hexp d).2]
    have hp := Relay.pending_setLoop hc d ((s.loop d).afterWrite chunk stop true w).1
      ((s.loop d).afterWrite chunk stop true w).2
    rw [show ((s.loop d).afterWrite chunk stop true w).1.pending = 1 from rfl,
      show (s.loop d).pending = 2 by simp [CopyLoop.pending, hl]] at hp
    exact ⟨.inr ⟨by simp [hc], by rw [Relay.setLoop_anyFinished _ _ _ _
      (by simp [CopyLoop.finished, hl]) (CopyLoop.afterWrite_finished _ _ _ _ _), hfin]⟩,
      by simp only [TcpEvent.moves, ↓reduceIte]; omega⟩
  | wake d =>
    rcases hl : (s.loop d).pc with _ | ⟨chunk, stop⟩ | err | err <;>
      simp only [relayTCPStep, hc, hl, reduceCtorEq, Option.some.injEq] at hs
    subst hs
    have hp := Relay.pending_setLoop hc d { s.loop d with pc := .finished err } []
    simp only [CopyLoop.pending, hl] at hp
    refine ⟨.inr ⟨by simp [hc], ?_⟩, ?_⟩
    · cases d <;> simp [Relay.anyFinished, Relay.setLoop, CopyLoop.finished]
    · simp only [Relay.pending, Relay.setLoop_pc, hc, TcpEvent.moves, ↓reduceIte] at hp ⊢
      omega
  | recv =>
    simp only [relayTCPStep, hc] at hs
    split at hs <;> cases hs
    exact ⟨.inl rfl, by simp [Relay.pending, hc, TcpEvent.moves]⟩
  | convert | openMux | openPlain | header => simp only [relayTCPStep, hc, reduceCtorEq] at hs

theorem Relay.WindingDown.run (hD : DeadlinesSet b.tcpTimeout s) (hW : s.WindingDown)
    {es : List TcpEvent} (hr : relayTCPRun b s es = some s') :
    s'.WindingDown ∧ s'.pending + (es.filter TcpEvent.moves).length ≤ s.pending := by
  induction es generalizing s with
  | nil => cases hr; exact ⟨hW, by simp⟩
  | cons e es ih =>
    simp only [relayTCPRun] at hr
    obtain ⟨s₁, hs₁, hr⟩ := Option.bind_eq_some.mp hr
    obtain ⟨hW₁, hle₁⟩ := hW.step hD hs₁
    obtain ⟨hW', hle'⟩ := ih (hD.step hs₁) hW₁ hr
    refine ⟨hW', ?_⟩
    cases hm : e.moves <;> simp only [hm, List.filter_cons, if_true, if_false,
      Bool.false_eq_true, List.length_cons] at hle₁ ⊢ <;> omega

/-- Once a loop has returned, `RelayTCPData` cannot hang: whatever the two
ends answer and however the clock moves, at most three more steps of the
relay can happen, and until it has returned it always has one to take. -/
theorem relayTCP_returns_after_wake {es es' : List TcpEvent}
    (hr : relayTCPRun b Relay.init es = some s) (hc : s.pc = .copying)
    (hfin : s.anyFinished = true) (hr' : relayTCPRun b s es' = some s') :
    (es'.filter TcpEvent.moves).length ≤ 3 ∧
      (s'.pc = .returned ∨ ∃ e, e.moves = true ∧ (relayTCPStep b s' e).isSome) := by
  obtain ⟨hW, hle⟩ := Relay.WindingDown.run (relayTCPRun_deadlinesSet hr) (.inr ⟨hc, hfin⟩) hr'
  have hleft : s.pending ≤ 3 := by
    have hu := CopyLoop.pending_le s.up
    have hd := CopyLoop.pending_le s.down
    simp only [Relay.pending, hc]
    rcases Bool.or_eq_true _ _ ▸ hfin with h | h <;>
      simp only [CopyLoop.pending_of_finished h] <;> omega
  refine ⟨by omega, ?_⟩
  rcases hW with hret | ⟨hc', -⟩
  · exact .inl hret
  · exact .inr (copying_can_step hc')

/-- After the client has closed, the remote server's reply still in flight
is dropped by the timed-out `Read`, and the relay returns at once. -/
def lateReply : List TcpEvent := [.tick 5, .read .down ⟨[120], none⟩, .wake .down, .recv]

theorem relayTCP_returns_after_wake_clientCloses :
    ∃ s s', relayTCPRun sampleBackend Relay.init clientClosesRun = some s ∧ s.pc = .copying ∧
      s.anyFinished = true ∧ relayTCPRun sampleBackend s lateReply = some s' ∧
      s'.pc = .returned ∧ s'.toClient = [] ∧
      ((lateReply.filter TcpEvent.moves).length ≤ 3 ∧
        (s'.pc = .returned ∨ ∃ e, e.moves = true ∧ (relayTCPStep sampleBackend s' e).isSome)) :=
  ⟨_, _, rfl, rfl, rfl, rfl, rfl, rfl,
    @relayTCP_returns_after_wake sampleBackend _ _ clientClosesRun lateReply rfl rfl rfl rfl⟩

end Wake

end Redfrog.ProxyClient
