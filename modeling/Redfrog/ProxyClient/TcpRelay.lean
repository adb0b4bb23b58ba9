import Redfrog.ProxyClient.Client

/-!
# The TCP relay under a clock

`RelayTCPData(src)` turns the client connection's local address into the
header, then takes a stream of the KCP backend when the backend has one and
it hands one out (`relayKCPData`), and otherwise dials the remote server
(`createTCPConn`). On both paths it sets a write deadline of
`now + tcpTimeout` on the client connection and on the remote one, writes
the header to the remote one, and runs two `io.Copy` loops, the client to
the remote server (`up`) and back (`down`), one in a goroutine. A loop that
returns sets both connections' deadlines to `now`, which wakes the other;
the call returns once the main loop has received the goroutine's result.

The relay is a state machine over an explicit clock. A `Read` or `Write`
at `now` fails with a timeout exactly when `now` is at or past that
connection's deadline for it; otherwise the world answers it. The two paths
take the same steps. They differ in which loop is the main one: the plain
path copies `down` in the main goroutine and the mux path `up`, and each
returns its main loop's byte count as `inboundSize` and its error first.

The write deadlines are set once, when the relay starts, and moved only by
a loop that has returned; the read deadlines are not set before that. So
while both loops run, every write from `tcpTimeout` after the start on fails
with a timeout however recently bytes moved, and no read ever times out.
-/

namespace Redfrog.ProxyClient

open Go

/-- An error of a connection's `Read` or `Write`. -/
inductive IoError where
  /-- `os.ErrDeadlineExceeded`, whose `Timeout()` is true. -/
  | timeout
  | err (e : GoError)
  deriving DecidableEq, Repr

/-- The `err` that `RelayTCPData` returns. -/
inductive RelayError where
  /-- An error of a copy loop, as `io.Copy` returned it. -/
  | io (e : IoError)
  /-- `errors.Wrap(cause, msg)`. -/
  | wrap (msg : String) (cause : IoError)
  deriving DecidableEq, Repr

/-- How `RelayTCPData` reaches the remote server. -/
inductive TcpPath where
  /-- A connection from `createTCPConn`. -/
  | plain
  /-- A stream of the KCP backend, through `relayKCPData`. -/
  | mux
  deriving DecidableEq, Repr

/-- A connection's deadlines, in nanoseconds; `none` is no deadline. -/
structure Deadlines where
  read : Option Int
  write : Option Int
  deriving DecidableEq, Repr

/-- An I/O at `now` fails with a timeout when `now` is at or past its deadline. -/
def expired (deadline : Option Int) (now : Int) : Bool :=
  match deadline with
  | none => false
  | some d => decide (d ≤ now)

/-- The two copies: `up` is `io.Copy(remote, client)`, `down` is
`io.Copy(client, remote)`. -/
inductive Dir where
  | up
  | down
  deriving DecidableEq, Repr

/-- How a stream ends, as `Read` reports it with its last bytes. -/
inductive ReadEnd where
  | eof
  | err (e : GoError)
  deriving DecidableEq, Repr

/-- What a `Read` returns when its deadline has not passed. -/
structure ReadResult where
  data : Bytes
  stop : Option ReadEnd
  deriving DecidableEq, Repr

/-- What a `Write` returns when its deadline has not passed: every byte
written, or the first `written` of them and an error. -/
inductive WriteResult where
  | ok
  | fail (written : Nat) (e : GoError)
  deriving DecidableEq, Repr

/-- Where an `io.Copy(dst, src)` loop is. -/
inductive CopyPc where
  /-- `src.Read(buf)` next. -/
  | read
  /-- `dst.Write(buf[0:nr])` next, and what the read reported after its bytes. -/
  | write (chunk : Bytes) (stop : Option ReadEnd)
  /-- `io.Copy` returned `err`; the two `SetDeadline(time.Now())` next. -/
  | copied (err : Option IoError)
  /-- The deadlines are set; the loop's result is ready on `ch`. -/
  | finished (err : Option IoError)
  deriving DecidableEq, Repr

/-- One copy loop: where it is and the bytes it has written. -/
structure CopyLoop where
  pc : CopyPc
  written : Nat
  deriving DecidableEq, Repr

/-- The error `io.Copy` returns once `Read` has reported `stop`: none at `io.EOF`. -/
def ReadEnd.copyErr : ReadEnd → Option IoError
  | .eof => none
  | .err e => some (.err e)

/-- The error a loop returned, once it has. -/
def CopyLoop.err (l : CopyLoop) : Option IoError :=
  match l.pc with
  | .copied err | .finished err => err
  | _ => none

/-- Whether a loop has set the deadlines after returning. -/
def CopyLoop.finished (l : CopyLoop) : Bool :=
  match l.pc with
  | .finished _ => true
  | _ => false

/-- The loop after its `Read`, which timed out when `timedOut`. -/
def CopyLoop.afterRead (l : CopyLoop) (timedOut : Bool) (r : ReadResult) : CopyLoop :=
  if timedOut then { l with pc := .copied (some .timeout) }
  else if r.data = [] then
    match r.stop with
    | none => l
    | some stop => { l with pc := .copied stop.copyErr }
  else { l with pc := .write r.data r.stop }

/-- The loop after writing `chunk`, which timed out when `timedOut`, and the
bytes that reached the other end. -/
def CopyLoop.afterWrite (l : CopyLoop) (chunk : Bytes) (stop : Option ReadEnd)
    (timedOut : Bool) (w : WriteResult) : CopyLoop × Bytes :=
  if timedOut then ({ l with pc := .copied (some .timeout) }, [])
  else
    match w with
    | .ok =>
      (⟨match stop with
          | none => .read
          | some stop => .copied stop.copyErr,
        l.written + chunk.length⟩, chunk)
    | .fail n e => (⟨.copied (some (.err e)), l.written + min n chunk.length⟩, chunk.take n)

/-- Where `RelayTCPData` is. -/
inductive RelayPc where
  /-- `ConvertShadowSocksAddr(src.LocalAddr().String())` next. -/
  | convert
  /-- `GetKcpConn()`, or `createTCPConn()`, next. -/
  | connect
  /-- The header write next. -/
  | header
  /-- Both copy loops run. -/
  | copying
  /-- Returned the error `err` before the copies. -/
  | failed (err : RelayError)
  /-- Returned the error of the header write. -/
  | headerFailed (err : IoError)
  /-- Returned after both copies. -/
  | returned
  deriving DecidableEq, Repr

/-- A relay, with the bytes each end has received and, as ghosts, when it
started and when each write moved how many bytes. -/
structure Relay where
  now : Int
  pc : RelayPc
  path : TcpPath
  header : Bytes
  /-- When the connection to the remote server was made and the write
  deadlines set. -/
  started : Option Int
  client : Deadlines
  remote : Deadlines
  up : CopyLoop
  down : CopyLoop
  toRemote : Bytes
  toClient : Bytes
  transfers : List (Int × Nat)
  deriving DecidableEq, Repr

/-- A call to `RelayTCPData` at time 0. -/
def Relay.init : Relay :=
  ⟨0, .convert, .plain, [], none, ⟨none, none⟩, ⟨none, none⟩, ⟨.read, 0⟩, ⟨.read, 0⟩, [], [], []⟩

/-- One step of the relay, of the world, or of the clock. -/
inductive TcpEvent where
  | tick (n : Nat)
  /-- `ConvertShadowSocksAddr` returns the header or an error. -/
  | convert (addr : Except GoError Bytes)
  /-- `GetKcpConn()` hands out a stream. -/
  | openMux
  /-- No stream; `createTCPConn()` returns a connection or an error. -/
  | openPlain (dial : Option GoError)
  | header (w : WriteResult)
  | read (d : Dir) (r : ReadResult)
  | write (d : Dir) (w : WriteResult)
  /-- A returned loop sets both connections' deadlines to `now`. -/
  | wake (d : Dir)
  /-- The main goroutine receives the other's result and returns. -/
  | recv
  deriving DecidableEq, Repr

namespace Relay

/-- A copy loop. -/
def loop (s : Relay) : Dir → CopyLoop
  | .up => s.up
  | .down => s.down

/-- The deadlines of the connection a loop reads from. -/
def source (s : Relay) : Dir → Deadlines
  | .up => s.client
  | .down => s.remote

/-- The deadlines of the connection a loop writes to. -/
def sink (s : Relay) : Dir → Deadlines
  | .up => s.remote
  | .down => s.client

/-- The loop `d` replaced by `l`, and `bytes` delivered to its other end at `now`. -/
def setLoop (s : Relay) (d : Dir) (l : CopyLoop) (bytes : Bytes) : Relay :=
  let transfers := if bytes = [] then s.transfers else s.transfers ++ [(s.now, bytes.length)]
  match d with
  | .up => { s with up := l, toRemote := s.toRemote ++ bytes, transfers }
  | .down => { s with down := l, toClient := s.toClient ++ bytes, transfers }

/-- The connection made along `path` and both write deadlines set to
`now + tcpTimeout`. -/
def start (s : Relay) (path : TcpPath) (tcpTimeout : Int) : Relay :=
  { s with pc := .header, path, started := some s.now,
           client := { s.client with write := some (s.now + tcpTimeout) },
           remote := { s.remote with write := some (s.now + tcpTimeout) } }

/-- The header write, at `now`. -/
def writeHeader (s : Relay) (w : WriteResult) : Relay :=
  if expired s.remote.write s.now then { s with pc := .headerFailed .timeout }
  else
    match w with
    | .ok =>
      { s with pc := .copying, toRemote := s.toRemote ++ s.header,
               transfers := s.transfers ++ [(s.now, s.header.length)] }
    | .fail n e =>
      { s with pc := .headerFailed (.err e), toRemote := s.toRemote ++ s.header.take n }

end Relay

/-- One step of `RelayTCPData` for backend `b`, on either path; `none` when
the event cannot happen. -/
def relayTCPStep (b : ProxyBackend) (s : Relay) : TcpEvent → Option Relay
  | .tick n => some { s with now := s.now + n }
  | .convert addr =>
    match s.pc, addr with
    | .convert, .ok header => some { s with header, pc := .connect }
    | .convert, .error e => some { s with pc := .failed (.wrap "Parse origin dst failed" (.err e)) }
    | _, _ => none
  | .openMux =>
    match s.pc, b.kcp with
    | .connect, true => some (s.start .mux b.tcpTimeout)
    | _, _ => none
  | .openPlain dial =>
    match s.pc, dial with
    | .connect, none => some (s.start .plain b.tcpTimeout)
    | .connect, some e => some { s with pc := .failed (.wrap "Create remote conn failed" (.err e)) }
    | _, _ => none
  | .header w =>
    match s.pc with
    | .header => some (s.writeHeader w)
    | _ => none
  | .read d r =>
    match s.pc, (s.loop d).pc with
    | .copying, .read =>
      some (s.setLoop d ((s.loop d).afterRead (expired (s.source d).read s.now) r) [])
    | _, _ => none
  | .write d w =>
    match s.pc, (s.loop d).pc with
    | .copying, .write chunk stop =>
      let r := (s.loop d).afterWrite chunk stop (expired (s.sink d).write s.now) w
      some (s.setLoop d r.1 r.2)
    | _, _ => none
  | .wake d =>
    match s.pc, (s.loop d).pc with
    | .copying, .copied err =>
      some { s.setLoop d { s.loop d with pc := .finished err } [] with
        client := ⟨some s.now, some s.now⟩, remote := ⟨some s.now, some s.now⟩ }
    | _, _ => none
  | .recv =>
    match s.pc, s.up.finished, s.down.finished with
    | .copying, true, true => some { s with pc := .returned }
    | _, _, _ => none

/-- A run of events. -/
def relayTCPRun (b : ProxyBackend) (s : Relay) : List TcpEvent → Option Relay
  | [] => some s
  | e :: es => (relayTCPStep b s e).bind (relayTCPRun b · es)

/-- What `RelayTCPData` returns once it has: `(inboundSize, outboundSize,
err)`. The plain path copies `down` in its main goroutine, `relayKCPData`
copies `up`; each returns its main loop's count first and its error first. -/
def Relay.result (s : Relay) : Option (Nat × Nat × Option RelayError) :=
  match s.pc with
  | .failed err => some (0, 0, some err)
  | .headerFailed err =>
    match s.path with
    | .plain => some (0, 0, some (.wrap "Write to remote server failed" err))
    | .mux => some (0, 0, some (.wrap "Kcp write to remote server failed" err))
  | .returned =>
    match s.path with
    | .plain => some (s.down.written, s.up.written, (s.down.err.or s.up.err).map .io)
    | .mux => some (s.up.written, s.down.written, (s.up.err.or s.down.err).map .io)
  | _ => none

/-! ### Field lemmas -/

namespace Relay

variable (s : Relay) (d : Dir) (l : CopyLoop) (bytes : Bytes)

@[simp] theorem setLoop_now : (s.setLoop d l bytes).now = s.now := by cases d <;> rfl
@[simp] theorem setLoop_pc : (s.setLoop d l bytes).pc = s.pc := by cases d <;> rfl
@[simp] theorem setLoop_path : (s.setLoop d l bytes).path = s.path := by cases d <;> rfl
@[simp] theorem setLoop_started : (s.setLoop d l bytes).started = s.started := by cases d <;> rfl
@[simp] theorem setLoop_client : (s.setLoop d l bytes).client = s.client := by cases d <;> rfl
@[simp] theorem setLoop_remote : (s.setLoop d l bytes).remote = s.remote := by cases d <;> rfl

/-- Whether either loop has set the deadlines. -/
def anyFinished (s : Relay) : Bool := s.up.finished || s.down.finished

theorem setLoop_anyFinished (h : (s.loop d).finished = false) (hl : l.finished = false) :
    (s.setLoop d l bytes).anyFinished = s.anyFinished := by
  cases d <;> simp_all [setLoop, anyFinished, loop]

end Relay

theorem CopyLoop.afterRead_finished {l : CopyLoop} (h : l.pc = .read) (timedOut : Bool)
    (r : ReadResult) : (l.afterRead timedOut r).finished = false := by
  unfold CopyLoop.afterRead
  split_ifs
  · rfl
  · split
    · simp [CopyLoop.finished, h]
    · rfl
  · rfl

theorem CopyLoop.afterWrite_finished (l : CopyLoop) (chunk : Bytes) (stop : Option ReadEnd)
    (timedOut : Bool) (w : WriteResult) : (l.afterWrite chunk stop timedOut w).1.finished = false := by
  unfold CopyLoop.afterWrite
  split_ifs
  · rfl
  · cases w
    · cases stop <;> rfl
    · rfl

/-- Whether the relay has not yet made its connection. -/
def RelayPc.beforeStart : RelayPc → Bool
  | .convert | .connect | .failed _ => true
  | _ => false

/-- The deadlines `RelayTCPData` has set by `s`: none before the connection
is made; from then on, while no loop has returned, the write deadlines
`tcpTimeout` after the start and no read deadline; and once a loop has
returned, all four at the time it set them. -/
def DeadlinesSet (tcpTimeout : Int) (s : Relay) : Prop :=
  match s.started with
  | none => s.pc.beforeStart = true ∧ s.anyFinished = false ∧
      s.client = ⟨none, none⟩ ∧ s.remote = ⟨none, none⟩
  | some t₀ => s.pc.beforeStart = false ∧
    if s.anyFinished then
      ∃ w ≤ s.now, s.client = ⟨some w, some w⟩ ∧ s.remote = ⟨some w, some w⟩
    else s.client = ⟨none, some (t₀ + tcpTimeout)⟩ ∧ s.remote = ⟨none, some (t₀ + tcpTimeout)⟩

section Deadlines

variable {b : ProxyBackend} {T : Int} {s s' : Relay}

/-- A step that starts nothing, sets no deadline and ends no loop keeps the
deadlines as they were. -/
theorem DeadlinesSet.frame (h : DeadlinesSet T s) (hstarted : s'.started = s.started)
    (hpc : s'.pc.beforeStart = s.pc.beforeStart) (hfin : s'.anyFinished = s.anyFinished)
    (hclient : s'.client = s.client) (hremote : s'.remote = s.remote) (hnow : s.now ≤ s'.now) :
    DeadlinesSet T s' := by
  unfold DeadlinesSet at h ⊢
  rw [hstarted, hpc, hfin, hclient, hremote]
  split at h
  · exact h
  · refine ⟨h.1, ?_⟩
    split_ifs at h ⊢
    · obtain ⟨w, hw, hc⟩ := h.2
      exact ⟨w, Int.le_trans hw hnow, hc⟩
    · exact h.2

/-- Before the connection nothing is set, and once it is made the relay
never goes back. -/
private theorem DeadlinesSet.started_none (h : DeadlinesSet T s) (hpc : s.pc.beforeStart = true) :
    s.started = none ∧ s.anyFinished = false ∧ s.client = ⟨none, none⟩ ∧ s.remote = ⟨none, none⟩ := by
  unfold DeadlinesSet at h
  split at h
  · exact ⟨‹_›, h.2⟩
  · simp_all

private theorem DeadlinesSet.started_some (h : DeadlinesSet T s) (hpc : s.pc.beforeStart = false) :
    ∃ t₀, s.started = some t₀ := by
  unfold DeadlinesSet at h
  split at h
  · simp_all
  · exact ⟨_, ‹_›⟩

/-- Making the connection sets both write deadlines `tcpTimeout` ahead. -/
private theorem DeadlinesSet.start (h : DeadlinesSet T s) (hpc : s.pc = .connect) (p : TcpPath) :
    DeadlinesSet T (s.start p T) := by
  obtain ⟨-, hfin, hc, hr⟩ := h.started_none (by rw [hpc]; rfl)
  have hfin' : (s.start p T).anyFinished = false := hfin
  simp only [DeadlinesSet, Relay.start, RelayPc.beforeStart, hfin', true_and] at hfin' ⊢
  simp [hc, hr]

/-- A returned loop sets all four deadlines to `now`. -/
private theorem DeadlinesSet.wake (h : DeadlinesSet T s) (hpc : s.pc = .copying) (d : Dir)
    (err : Option IoError) :
    DeadlinesSet T { s.setLoop d { s.loop d with pc := .finished err } [] with
      client := ⟨some s.now, some s.now⟩, remote := ⟨some s.now, some s.now⟩ } := by
  obtain ⟨t₀, ht₀⟩ := h.started_some (by rw [hpc]; rfl)
  have hfin : (s.setLoop d { s.loop d with pc := .finished err } []).anyFinished = true := by
    cases d <;> simp [Relay.setLoop, Relay.anyFinished, CopyLoop.finished]
  unfold DeadlinesSet
  simp only [Relay.setLoop_started, ht₀, Relay.setLoop_pc, hpc, RelayPc.beforeStart, true_and]
  split_ifs with hf
  · exact ⟨s.now, by simp, rfl, rfl⟩
  · exact absurd hfin hf

/-- Everything a step can do to the deadlines: make the connection, set all
four deadlines to `now` once a loop has returned, or keep them, with the
start, whether the connection is made and whether a loop has returned, while
the clock does not go back. -/
theorem relayTCPStep_cases {e : TcpEvent} (hs : relayTCPStep b s e = some s') :
    (s.pc = .connect ∧ ∃ p, s' = s.start p b.tcpTimeout) ∨
    (s.pc = .copying ∧ ∃ d err, s' = { s.setLoop d { s.loop d with pc := .finished err } [] with
      client := ⟨some s.now, some s.now⟩, remote := ⟨some s.now, some s.now⟩ }) ∨
    (s'.started = s.started ∧ s'.pc.beforeStart = s.pc.beforeStart ∧
      s'.anyFinished = s.anyFinished ∧ s'.client = s.client ∧ s'.remote = s.remote ∧
      s.now ≤ s'.now) := by
  cases e with
  | tick n => cases hs; exact .inr (.inr ⟨rfl, rfl, rfl, rfl, rfl, by show s.now ≤ s.now + n; omega⟩)
  | openMux =>
    simp only [relayTCPStep] at hs
    split at hs <;> cases hs
    exact .inl ⟨‹_›, _, rfl⟩
  | openPlain dial =>
    simp only [relayTCPStep] at hs
    split at hs <;> cases hs
    · exact .inl ⟨‹_›, _, rfl⟩
    · exact .inr (.inr ⟨rfl, by simp_all [RelayPc.beforeStart], rfl, rfl, rfl, Int.le_refl _⟩)
  | wake d =>
    simp only [relayTCPStep] at hs
    split at hs <;> cases hs
    exact .inr (.inl ⟨‹_›, d, _, rfl⟩)
  | read d r =>
    simp only [relayTCPStep] at hs
    split at hs <;> cases hs
    rename_i hl
    exact .inr (.inr ⟨by simp, by simp, Relay.setLoop_anyFinished _ _ _ _
      (by simp [CopyLoop.finished, hl]) (CopyLoop.afterRead_finished hl _ _), by simp, by simp, by simp⟩)
  | write d w =>
    simp only [relayTCPStep] at hs
    split at hs <;> cases hs
    rename_i hl
    exact .inr (.inr ⟨by simp, by simp, Relay.setLoop_anyFinished _ _ _ _
      (by simp [CopyLoop.finished, hl]) (CopyLoop.afterWrite_finished _ _ _ _ _), by simp, by simp,
      by simp⟩)
  | header w =>
    simp only [relayTCPStep] at hs
    split at hs <;> cases hs
    simp only [Relay.writeHeader]
    refine .inr (.inr ?_)
    split_ifs <;> (try cases w) <;>
      exact ⟨rfl, by simp_all [RelayPc.beforeStart], rfl, rfl, rfl, Int.le_refl _⟩
  | convert | recv =>
    simp only [relayTCPStep] at hs
    split at hs <;> cases hs <;>
      exact .inr (.inr ⟨rfl, by simp_all [RelayPc.beforeStart], rfl, rfl, rfl, Int.le_refl _⟩)

theorem DeadlinesSet.step (h : DeadlinesSet b.tcpTimeout s) {e : TcpEvent}
    (hs : relayTCPStep b s e = some s') : DeadlinesSet b.tcpTimeout s' := by
  obtain ⟨hpc, p, rfl⟩ | ⟨hpc, d, err, rfl⟩ | ⟨h₁, h₂, h₃, h₄, h₅, h₆⟩ := relayTCPStep_cases hs
  · exact h.start hpc p
  · exact h.wake hpc d err
  · exact h.frame h₁ h₂ h₃ h₄ h₅ h₆

theorem DeadlinesSet.run (h : DeadlinesSet b.tcpTimeout s) {es : List TcpEvent}
    (hr : relayTCPRun b s es = some s') : DeadlinesSet b.tcpTimeout s' := by
  induction es generalizing s with
  | nil => cases hr; exact h
  | cons e es ih =>
    simp only [relayTCPRun] at hr
    obtain ⟨s₁, hs₁, hr⟩ := Option.bind_eq_some.mp hr
    exact ih (h.step hs₁) hr

/-- Every state a relay reaches has the deadlines `DeadlinesSet` gives. -/
theorem relayTCPRun_deadlinesSet {es : List TcpEvent} (hr : relayTCPRun b Relay.init es = some s) :
    DeadlinesSet b.tcpTimeout s :=
  have h₀ : DeadlinesSet b.tcpTimeout Relay.init := ⟨rfl, rfl, rfl, rfl⟩
  h₀.run hr

/-- While both loops run no read times out: a read gets whatever the other
end sends, however long the relay has been idle. -/
theorem read_never_times_out {es : List TcpEvent} {d : Dir} (hr : relayTCPRun b Relay.init es = some s)
    (hrun : s.anyFinished = false) (hc : s.pc = .copying) (hl : (s.loop d).pc = .read)
    (r : ReadResult) :
    relayTCPStep b s (.read d r) = some (s.setLoop d ((s.loop d).afterRead false r) []) := by
  have h := relayTCPRun_deadlinesSet hr
  obtain ⟨t₀, ht₀⟩ := h.started_some (by rw [hc]; rfl)
  simp only [DeadlinesSet, ht₀, hrun, if_false, Bool.false_eq_true] at h
  have hsource : (s.source d).read = none := by
    cases d <;> simp [Relay.source, h.2.1, h.2.2]
  simp [relayTCPStep, hc, hl, hsource, expired]

end Deadlines

/-! ### The two paths -/

section Paths

variable {b : ProxyBackend} {s s' : Relay}

theorem relayTCPRun_append (s : Relay) (es₁ es₂ : List TcpEvent) :
    relayTCPRun b s (es₁ ++ es₂) = (relayTCPRun b s es₁).bind (relayTCPRun b · es₂) := by
  induction es₁ generalizing s with
  | nil => rfl
  | cons e es ih =>
    simp only [List.cons_append, relayTCPRun]
    cases relayTCPStep b s e <;> simp [ih]

/-- Past the connection, no step reads the path. -/
theorem relayTCPStep_path (hs : s.pc ≠ .connect) (p : TcpPath) (e : TcpEvent) :
    relayTCPStep b { s with path := p } e = (relayTCPStep b s e).map ({ · with path := p }) := by
  obtain ⟨now, pc, path, header, started, client, remote, ⟨upc, uw⟩, ⟨dpc, dw⟩, toRemote,
    toClient, transfers⟩ := s
  cases e with
  | tick n => rfl
  | convert addr => cases pc <;> cases addr <;> rfl
  | openMux => cases pc <;> first | rfl | exact absurd rfl hs
  | openPlain dial => cases pc <;> first | rfl | exact absurd rfl hs
  | header w =>
    cases pc <;> try rfl
    simp only [relayTCPStep, Relay.writeHeader]
    split <;> cases w <;> rfl
  | read d r => cases pc <;> cases d <;> first | rfl | (cases upc <;> rfl) | (cases dpc <;> rfl)
  | write d w => cases pc <;> cases d <;> first | rfl | (cases upc <;> rfl) | (cases dpc <;> rfl)
  | wake d => cases pc <;> cases d <;> first | rfl | (cases upc <;> rfl) | (cases dpc <;> rfl)
  | recv => cases pc <;> first | rfl | (cases upc <;> cases dpc <;> rfl)

/-- Once the connection is made, the relay never goes back before it. -/
theorem relayTCPStep_beforeStart (h : s.pc.beforeStart = false) {e : TcpEvent}
    (hs : relayTCPStep b s e = some s') : s'.pc.beforeStart = false := by
  obtain ⟨hpc, -⟩ | ⟨hpc, -, -, rfl⟩ | ⟨-, hpc, -⟩ := relayTCPStep_cases hs
  · simp [hpc, RelayPc.beforeStart] at h
  · simp [hpc, RelayPc.beforeStart]
  · rw [hpc, h]

theorem relayTCPRun_path (h : s.pc.beforeStart = false) (p : TcpPath) (es : List TcpEvent) :
    relayTCPRun b { s with path := p } es = (relayTCPRun b s es).map ({ · with path := p }) := by
  induction es generalizing s with
  | nil => rfl
  | cons e es ih =>
    have hconnect : s.pc ≠ .connect := fun hc => by simp [hc, RelayPc.beforeStart] at h
    rw [relayTCPRun, relayTCPRun, relayTCPStep_path hconnect]
    cases hs : relayTCPStep b s e with
    | none => rfl
    | some s₁ => exact ih (relayTCPStep_beforeStart h hs)

/-- The two paths take the same steps: a run that gets a stream of the KCP
backend reaches, step by step, the state of the run that dials at the same
point, but for the path. -/
theorem relayTCPRun_openMux (hk : b.kcp = true) (pre post : List TcpEvent) :
    relayTCPRun b Relay.init (pre ++ .openMux :: post) =
      (relayTCPRun b Relay.init (pre ++ .openPlain none :: post)).map ({ · with path := .mux }) := by
  rw [relayTCPRun_append, relayTCPRun_append]
  cases relayTCPRun b Relay.init pre with
  | none => rfl
  | some s₁ =>
    simp only [Option.some_bind, relayTCPRun, relayTCPStep, hk]
    cases hpc : s₁.pc <;> simp only [hpc, Option.none_bind, Option.map_none']
    simp only [Option.some_bind]
    exact @relayTCPRun_path b (s₁.start .plain b.tcpTimeout) rfl .mux post

/-- Once the connection is made, the path stays. -/
theorem relayTCPRun_path_eq (h : s.pc.beforeStart = false) {es : List TcpEvent}
    (hr : relayTCPRun b s es = some s') : s'.path = s.path := by
  have hp := @relayTCPRun_path b s h s.path es
  rw [show ({ s with path := s.path } : Relay) = s from rfl, hr] at hp
  exact (congrArg Relay.path (Option.some.inj hp)).trans rfl

/-- A run that dials the remote server stays on the plain path. -/
theorem relayTCPRun_plain {pre post : List TcpEvent}
    (hs : relayTCPRun b Relay.init (pre ++ .openPlain none :: post) = some s) :
    s.path = .plain := by
  rw [relayTCPRun_append] at hs
  obtain ⟨s₁, -, hs⟩ := Option.bind_eq_some.mp hs
  simp only [relayTCPRun, relayTCPStep] at hs
  split at hs
  · exact @relayTCPRun_path_eq b (s₁.start .plain b.tcpTimeout) _ rfl _ hs
  next _ _ _ _ hnone => cases hnone
  · simp at hs

/-- The two paths move the same bytes; once both loops have returned, the
plain path reports the `down` count as `inboundSize` and the `down` loop's
error first, the mux path the `up` count and the `up` loop's error. -/
theorem relayTCP_paths_swap (hk : b.kcp = true) {pre post : List TcpEvent}
    (hs : relayTCPRun b Relay.init (pre ++ .openPlain none :: post) = some s) :
    relayTCPRun b Relay.init (pre ++ .openMux :: post) = some { s with path := .mux } ∧
    (s.pc = .returned →
      s.result = some (s.down.written, s.up.written, (s.down.err.or s.up.err).map .io) ∧
      ({ s with path := .mux } : Relay).result =
        some (s.up.written, s.down.written, (s.up.err.or s.down.err).map .io)) := by
  refine ⟨by rw [relayTCPRun_openMux hk, hs]; rfl, fun hpc => ⟨?_, by simp [Relay.result, hpc]⟩⟩
  simp [Relay.result, hpc, relayTCPRun_plain hs]

end Paths

/-! ### The spec's TCP smoke test, under a clock -/

/-- A backend made with `TcpTimeout` 60 and a KCP backend. -/
def sampleBackend : ProxyBackend :=
  ⟨seconds 60, seconds 60, "tcp4".toList, [10, 0, 0, 1], 8388, true⟩

/-- The header of `93.184.216.34:80`. -/
def smokeHeader : Bytes := [1, 93, 184, 216, 34, 0, 80]

/-- How a path is taken: a stream of the KCP backend, or a dialled connection. -/
def TcpPath.event : TcpPath → TcpEvent
  | .plain => .openPlain none
  | .mux => .openMux

/-- A relay that moves a byte up just before its write deadline and tries
the next one at it. -/
def busyRun (path : TcpPath) : List TcpEvent :=
  [.convert (.ok smokeHeader), path.event, .header .ok, .read .up ⟨[1], none⟩,
    .tick 59999999999, .write .up .ok, .read .up ⟨[2], none⟩, .tick 1]

/-- At the same point, `tcpTimeout` after the start, a read of the remote
server's end gets whatever the server sends. -/
theorem read_never_times_out_busyRun :
    ∃ s, relayTCPRun sampleBackend Relay.init (busyRun .plain) = some s ∧
      s.now = sampleBackend.tcpTimeout ∧ s.anyFinished = false ∧ s.pc = .copying ∧
      (s.loop .down).pc = .read ∧
      ∀ r, relayTCPStep sampleBackend s (.read .down r) =
        some (s.setLoop .down ((s.loop .down).afterRead false r) []) := by
  obtain ⟨s, hs⟩ : ∃ s, relayTCPRun sampleBackend Relay.init (busyRun .plain) = some s :=
    ⟨_, rfl⟩
  have hbusy : s.now = sampleBackend.tcpTimeout ∧ s.anyFinished = false ∧ s.pc = .copying ∧
      (s.loop .down).pc = .read := by
    cases hs; exact ⟨rfl, rfl, rfl, rfl⟩
  obtain ⟨hnow, hrun, hc, hl⟩ := hbusy
  exact ⟨s, hs, hnow, hrun, hc, hl, read_never_times_out hs hrun hc hl⟩

/-- A relay in which the client sends `abc` and then resets the connection
(error 104), and the remote server sends `x` and then fails (error 32). -/
def twoWayRun (path : TcpPath) : List TcpEvent :=
  [.convert (.ok smokeHeader), path.event, .header .ok,
    .read .up ⟨[97, 98, 99], none⟩, .write .up .ok, .read .down ⟨[120], none⟩, .write .down .ok,
    .read .up ⟨[], some (.err (.external 104))⟩, .read .down ⟨[], some (.err (.external 32))⟩,
    .wake .up, .wake .down, .recv]

/-- The same bytes reach both ends on both paths, but the plain path reports
`(1, 3)` and the remote server's error, the mux path `(3, 1)` and the
client's. -/
theorem relayTCP_paths_disagree :
    (relayTCPRun sampleBackend Relay.init (twoWayRun .plain)).map (fun s => (s.toRemote, s.toClient)) =
      some (smokeHeader ++ [97, 98, 99], [120]) ∧
    (relayTCPRun sampleBackend Relay.init (twoWayRun .mux)).map (fun s => (s.toRemote, s.toClient)) =
      some (smokeHeader ++ [97, 98, 99], [120]) ∧
    (relayTCPRun sampleBackend Relay.init (twoWayRun .plain)).bind Relay.result =
      some (1, 3, some (.io (.err (.external 32)))) ∧
    (relayTCPRun sampleBackend Relay.init (twoWayRun .mux)).bind Relay.result =
      some (3, 1, some (.io (.err (.external 104)))) := by
  obtain ⟨s, hs⟩ : ∃ s, relayTCPRun sampleBackend Relay.init (twoWayRun .plain) = some s :=
    ⟨_, rfl⟩
  obtain ⟨hmux, hresult⟩ :=
    @relayTCP_paths_swap sampleBackend s rfl [.convert (.ok smokeHeader)] _ hs
  have hmux' : relayTCPRun sampleBackend Relay.init (twoWayRun .mux) =
      some { s with path := .mux } := hmux
  have hfinal : s.pc = .returned ∧ (s.toRemote, s.toClient) = (smokeHeader ++ [97, 98, 99], [120]) ∧
      s.up.written = 3 ∧ s.down.written = 1 ∧ s.up.err = some (.err (.external 104)) ∧
      s.down.err = some (.err (.external 32)) := by
    cases hs; decide
  obtain ⟨hpc, hends, hup, hdown, hupErr, hdownErr⟩ := hfinal
  obtain ⟨hplain, hmuxResult⟩ := hresult hpc
  refine ⟨by rw [hs]; exact congrArg some hends, by rw [hmux']; exact congrArg some hends, ?_, ?_⟩
  · rw [hs, Option.some_bind, hplain, hup, hdown, hupErr, hdownErr]; rfl
  · rw [hmux', Option.some_bind, hmuxResult, hup, hdown, hupErr, hdownErr]; rfl

end Redfrog.ProxyClient
