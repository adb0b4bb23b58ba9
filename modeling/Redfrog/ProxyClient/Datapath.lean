import Redfrog.Common.LeakyBuffer

/-!
# The backend's data path

What `proxy_backend.go` does to the bytes of a datagram, one call at a time.
`createUDPProxyEntry` fixes a NAT entry's address header, `RelayUDPData`
prefixes that header to a client datagram through a pooled or a one-shot
buffer, `copyFromRemote` strips it from the tunnel's datagrams and writes the
payloads back to the client, and `RelayDNS` frames one DNS query and unframes
its reply. Which sockets these calls use, and how they interleave, is the
subject of `NatMachine`.

`network.ConvertShadowSocksAddr` is defined in the `network` package and is
taken as a parameter: the header it produces is given wherever the code uses
it. Each call records the
accesses it makes to pool buffers, for the discipline of `LeakyBuffer`.
-/

namespace Redfrog.ProxyClient

open Go Common

/-- `udpProxyEntry`. -/
structure UdpProxyEntry where
  /-- `src_`: the socket bound to the original destination, writing to the client. -/
  src : Nat
  /-- `dst_`: the cipher-wrapped socket to the remote server. -/
  dst : Nat
  /-- `srcAddr_`: the client. -/
  srcAddr : GoString
  /-- `header_`: the original destination as an address header. -/
  header : Bytes
  /-- `timeout`: the tunnel socket's read deadline, in nanoseconds. -/
  timeout : Int
  deriving DecidableEq, Repr

/-- `createUDPProxyEntry`; it fails only when the destination has no header. -/
def createUDPProxyEntry (convertShadowSocksAddr : GoString → Except GoError Bytes)
    (src dst : Nat) (srcAddr dstAddr : GoString) (timeout : Int) :
    Except GoError UdpProxyEntry :=
  match convertShadowSocksAddr dstAddr with
  | .error err => .error err
  | .ok addr => .ok ⟨src, dst, srcAddr, addr, timeout⟩

/-- `computeUDPKey`: the NAT key `"<src>-><dst>"` of a flow. -/
def computeUDPKey (src dst : GoString) : GoString := src ++ "->".toList ++ dst

/-! ### `copyFromRemote` -/

/-- One wake-up of the reader: `ReadFrom` returns a datagram, and `writeErr` is
then the outcome of writing its payload to the client, or it fails (a read
deadline, a closed socket). -/
inductive Delivery where
  | datagram (d : Bytes) (writeErr : Option GoError)
  | readError (e : GoError)

/-- `udpProxyEntry.copyFromRemote` over what the tunnel socket delivers, with
its reused `buffer`: the payloads written to the client with their address,
in order, and the error it returned, `none` while it still waits for a read. -/
def copyFromRemote (c : UdpProxyEntry) (buffer : Bytes) :
    List Delivery → List (Bytes × GoString) × Option GoError
  | [] => ([], none)
  | .readError err :: _ => ([], some err)
  | .datagram d writeErr :: rest =>
    let n := min d.length buffer.length
    let buffer := copy buffer d
    if c.header.length < n then
      match writeErr with
      | some err => ([], some err)
      | none =>
        -- `buffer[len(c.header_):n]`, in bounds as `len(c.header_) < n ≤ len(buffer)`
        let r := copyFromRemote c buffer rest
        (((buffer.take n).drop c.header.length, c.srcAddr) :: r.1, r.2)
    else ([], some (.new ("UDP Read too few bytes: " ++ toString n)))

/-! ### `RelayUDPData`: the outbound datagram -/

/-- What `RelayUDPData` does once its NAT lookup is over. -/
structure UdpSend where
  /-- The datagram handed to `WriteTo`, if the call got that far. -/
  datagram : Option Bytes
  outcome : Outcome Unit
  buffers : List BufEvent

/-- The end of `RelayUDPData`. `entry` is the entry found or created, or the
error returned when a socket could not be opened or the entry not built;
`leakyBuffer` of `bufferSize`-byte buffers lends `pooled` (stale bytes and
all) under the name `newBuf`; `data` is the client datagram's buffer, named
`dataBuf`, of which `dataLen` bytes are the payload. -/
def relayUDPSend (entry : Except GoError UdpProxyEntry) (leakyBuffer : Pool)
    (bufferSize : Nat) (pooled : Bytes) (newBuf dataBuf : Nat) (data : Bytes)
    (dataLen : Nat) (writeErr : Option GoError) : UdpSend :=
  match entry with
  | .error err => ⟨none, .err err, []⟩
  | .ok udpProxy =>
    let headerLen := udpProxy.header.length
    let totalLen := headerLen + dataLen
    if bufferSize < totalLen then
      -- too big for the leaky buffer: a one-shot `make([]byte, totalLen)`
      let writeData := (copyInto (List.replicate totalLen 0) 0 headerLen udpProxy.header).bind
        fun w => (slice data 0 dataLen).bind (copyInto w headerLen totalLen)
      match writeData with
      | none => ⟨none, .panic, []⟩
      | some w => ⟨some w, .ofError writeErr, [.use dataBuf]⟩
    else
      let sent := (copyInto pooled 0 pooled.length udpProxy.header).bind
        fun b => (slice data 0 dataLen).bind fun d =>
          (copyInto b headerLen b.length d).bind (slice · 0 totalLen)
      match sent with
      | none => ⟨none, .panic, [.get leakyBuffer newBuf, .use newBuf, .put leakyBuffer newBuf]⟩
      | some w => ⟨some w, .ofError writeErr,
          [.get leakyBuffer newBuf, .use newBuf, .use dataBuf, .use newBuf, .use newBuf,
            .put leakyBuffer newBuf]⟩

/-! ### `RelayDNS` -/

/-- What the world answers during one `RelayDNS` call. -/
structure DnsIO where
  /-- The error of `net.ListenPacket` when `dnsNatMap` had no socket for the
  caller; `none` when a socket was found or opened. -/
  listen : Option GoError
  write : Option GoError
  /-- The datagram `ReadFrom` receives, or its error, a timeout included. -/
  reply : Except GoError Bytes

/-- What one `RelayDNS` call does. -/
structure DnsRun where
  /-- The datagram written to the remote server. -/
  sent : Option Bytes
  outcome : Outcome Bytes
  buffers : List BufEvent

/-- `RelayDNS` between `leakyBuffer.Get()` and the deferred `Put`: the datagram
sent, the outcome, and how many times the pool buffer is accessed. -/
def dnsExchange (addrBytes data buffer : Bytes) (io : DnsIO) :
    Option Bytes × Outcome Bytes × Nat :=
  let addrLen := addrBytes.length
  let totalLen := addrLen + data.length
  let buffer := copy buffer addrBytes
  match copyInto buffer addrLen buffer.length data with
  | none => (none, .panic, 1)
  | some buffer =>
    match io.listen with
    | some err => (none, .err (.wrap "UDP proxy listen local failed" err), 2)
    | none =>
      match slice buffer 0 totalLen with
      | none => (none, .panic, 2)
      | some datagram =>
        match io.write with
        | some err => (none, .err (.wrap "Write to remote DNS failed" err), 3)
        | none =>
          match io.reply with
          | .error err => (some datagram, .err err, 4)
          | .ok reply =>
            let n := min reply.length buffer.length
            let buffer := copy buffer reply
            if n ≤ addrLen then (some datagram, .err (.new "Read DNS query empty"), 4)
            else
              -- `response = make([]byte, n)`; `copy(response, buffer.Bytes()[addrLen:n])`
              (some datagram, .ok (copy (List.replicate n 0) ((buffer.take n).drop addrLen)), 5)

/-- `proxyBackend.RelayDNS` for a query `data`, the header `addrBytes` of the
resolver's address, and the buffer `buffer` drawn from `leakyBuffer`. -/
def relayDNS (addrBytes : Except GoError Bytes) (data : Bytes) (leakyBuffer : Pool)
    (buffer : Bytes) (io : DnsIO) : DnsRun :=
  match addrBytes with
  | .error err => ⟨none, .err (.wrap "DNS convert to shadowsocks addr failed" err), []⟩
  | .ok addr =>
    let r := dnsExchange addr data buffer io
    ⟨r.1, r.2.1, .get leakyBuffer 0 :: List.replicate r.2.2 (.use 0) ++ [.put leakyBuffer 0]⟩

section RelayDNS

variable {h q buffer : Bytes} {io : DnsIO}

/-- After its two copies the pool buffer starts with the request datagram
when the query fits. -/
private theorem framed_buffer (hfit : h.length + q.length ≤ buffer.length) :
    copyInto (copy buffer h) h.length (copy buffer h).length q =
      some (h ++ q ++ buffer.drop (h.length + q.length)) := by
  have hh : h.length ≤ buffer.length := by omega
  rw [copyInto_of_le (by simp; omega) le_rfl (by simp; omega), copy_of_le hh]
  simp [List.drop_append_eq_append_drop, List.drop_drop, Nat.add_comm]

private theorem slice_framed :
    slice (h ++ q ++ buffer.drop (h.length + q.length)) 0 (h.length + q.length) =
      some (h ++ q) := by
  rw [slice_of_le (Nat.zero_le _) (by simp only [List.length_append, List.length_drop]; omega),
    List.drop_zero, List.take_left' (by simp)]

/-- A query that does not fit the pool buffer next to the header is never
sent: the call panics, unless opening its socket failed first. -/
theorem relayDNS_overlong (hlong : buffer.length < h.length + q.length) (p : Pool) :
    (relayDNS (.ok h) q p buffer io).sent = none ∧
      ((relayDNS (.ok h) q p buffer io).outcome = .panic ∨
        ∃ err, io.listen = some err ∧
          (relayDNS (.ok h) q p buffer io).outcome = .err (.wrap "UDP proxy listen local failed" err)) := by
  simp only [relayDNS, dnsExchange]
  split
  · simp
  · rename_i b hb
    have hlen : b.length = buffer.length := by rw [length_of_copyInto hb, length_copy]
    cases io.listen with
    | some err => simp
    | none => simp [slice_eq_none (show b.length < h.length + q.length by omega)]

/-- Whatever `RelayDNS` sends is the header followed by the query. -/
theorem relayDNS_sent {d : Bytes} {p : Pool} (hsent : (relayDNS (.ok h) q p buffer io).sent = some d) :
    h.length + q.length ≤ buffer.length ∧ d = h ++ q := by
  by_cases hfit : h.length + q.length ≤ buffer.length
  · refine ⟨hfit, ?_⟩
    simp only [relayDNS, dnsExchange, framed_buffer hfit, slice_framed] at hsent
    rcases io with ⟨_ | _, _ | _, _ | _⟩ <;> simp only [apply_ite Prod.fst] at hsent <;> simp_all
  · simp [(relayDNS_overlong (not_le.mp hfit) p).1] at hsent

theorem relayDNS_sent_sample :
    (relayDNS (.ok [1, 8, 8, 8, 8, 0, 53]) [0x12, 0x34] .dnsBuffer (List.replicate 16 0)
        ⟨none, none, .ok [1, 8, 8, 8, 8, 0, 53, 0x2A]⟩).sent =
      some [1, 8, 8, 8, 8, 0, 53, 0x12, 0x34] ∧
    ([1, 8, 8, 8, 8, 0, 53] : Bytes).length + ([0x12, 0x34] : Bytes).length ≤
      (List.replicate 16 0 : Bytes).length ∧
    ([1, 8, 8, 8, 8, 0, 53, 0x12, 0x34] : Bytes) = [1, 8, 8, 8, 8, 0, 53] ++ [0x12, 0x34] :=
  have hsent : (relayDNS (.ok [1, 8, 8, 8, 8, 0, 53]) [0x12, 0x34] .dnsBuffer (List.replicate 16 0)
      ⟨none, none, .ok [1, 8, 8, 8, 8, 0, 53, 0x2A]⟩).sent =
      some [1, 8, 8, 8, 8, 0, 53, 0x12, 0x34] := by decide
  ⟨hsent, relayDNS_sent hsent⟩

/-- The reply, once it is longer than the header, comes back as its tail
followed by as many zero bytes as the header is long. -/
theorem relayDNS_reply {d : Bytes} (p : Pool) (hfit : h.length + q.length ≤ buffer.length)
    (hlisten : io.listen = none) (hwrite : io.write = none) (hreply : io.reply = .ok d)
    (hd : d.length ≤ buffer.length) :
    (relayDNS (.ok h) q p buffer io).outcome =
      if d.length ≤ h.length then .err (.new "Read DNS query empty")
      else .ok (d.drop h.length ++ List.replicate h.length 0) := by
  have hlen : (h ++ q ++ buffer.drop (h.length + q.length)).length = buffer.length := by
    simp; omega
  simp only [relayDNS, dnsExchange, framed_buffer hfit, slice_framed, hlisten, hwrite,
    hreply, hlen, Nat.min_eq_left hd]
  split_ifs with hshort
  · rfl
  · rw [take_copy (by rw [hlen]; exact hd), copy_replicate_zero (by simp)]
    simp only [List.length_drop]
    congr 3
    omega

/-- At a resolver whose header is `01 08 08 08 08 00 35` (`8.8.8.8:53`), a
one-byte answer comes back padded with seven zero bytes. -/
theorem relayDNS_pads_reply :
    (relayDNS (.ok [1, 8, 8, 8, 8, 0, 53]) [0x12, 0x34] .dnsBuffer (List.replicate 512 0xEE)
      ⟨none, none, .ok [1, 8, 8, 8, 8, 0, 53, 0x2A]⟩).outcome =
      .ok [0x2A, 0, 0, 0, 0, 0, 0, 0] := by
  rw [relayDNS_reply .dnsBuffer (by rw [List.length_replicate]; decide) rfl rfl rfl
    (by rw [List.length_replicate]; decide)]
  decide

end RelayDNS

/-! ### The NAT reader -/

/-- What the reader writes depends on its buffer only through the buffer's length. -/
private theorem take_copy_min (buffer d : Bytes) :
    (copy buffer d).take (min d.length buffer.length) = d.take buffer.length := by
  rw [copy, List.take_left' (by simp [Nat.min_comm])]

theorem copyFromRemote_congr (c : UdpProxyEntry) {b b' : Bytes} (hlen : b.length = b'.length)
    (ds : List Delivery) : copyFromRemote c b ds = copyFromRemote c b' ds := by
  induction ds generalizing b b' with
  | nil => rfl
  | cons dv ds ih =>
    cases dv with
    | readError err => rfl
    | datagram d writeErr =>
      have hc : (copy b d).length = (copy b' d).length := by simp [hlen]
      simp only [copyFromRemote, take_copy_min]
      rw [hlen, ih hc]

/-- A datagram no longer than the header stops the reader with an error. -/
theorem copyFromRemote_short (c : UdpProxyEntry) (buffer d : Bytes) (w : Option GoError)
    (rest : List Delivery) (hshort : d.length ≤ c.header.length) :
    copyFromRemote c buffer (.datagram d w :: rest) =
      ([], some (.new ("UDP Read too few bytes: " ++ toString (min d.length buffer.length)))) := by
  simp [copyFromRemote, show ¬c.header.length < min d.length buffer.length by omega]

/-- Datagrams `h ++ p` with non-empty payloads that fit the buffer are written
back as `p`, in order, and the reader goes on to what follows them. -/
theorem copyFromRemote_payloads (c : UdpProxyEntry) (buffer : Bytes) (ps : List Bytes)
    (rest : List Delivery) (hne : ∀ p ∈ ps, p ≠ [])
    (hfit : ∀ p ∈ ps, c.header.length + p.length ≤ buffer.length) :
    copyFromRemote c buffer (ps.map (fun p => .datagram (c.header ++ p) none) ++ rest) =
      (ps.map (·, c.srcAddr) ++ (copyFromRemote c buffer rest).1,
        (copyFromRemote c buffer rest).2) := by
  induction ps with
  | nil => rfl
  | cons p ps ih =>
    simp only [List.mem_cons, forall_eq_or_imp] at hne hfit
    have hlen : (c.header ++ p).length ≤ buffer.length := by simpa using hfit.1
    have hlong : c.header.length < (c.header ++ p).length := by
      have := List.length_pos.mpr hne.1
      rw [List.length_append]; omega
    rw [List.map_cons, List.cons_append, copyFromRemote]
    simp only [Nat.min_eq_left hlen, if_pos hlong, take_copy hlen, List.drop_left,
      copyFromRemote_congr c (length_copy buffer _), ih hne.2 hfit.2, List.map_cons,
      List.cons_append]

/-- The reader writes every payload back to its entry's client. -/
theorem copyFromRemote_to_client (c : UdpProxyEntry) (buffer : Bytes) (ds : List Delivery) :
    ∀ p ∈ (copyFromRemote c buffer ds).1, p.2 = c.srcAddr := by
  induction ds generalizing buffer with
  | nil => simp [copyFromRemote]
  | cons dv ds ih =>
    cases dv with
    | readError err => simp [copyFromRemote]
    | datagram d w =>
      simp only [copyFromRemote]
      split_ifs
      · cases w
        · intro p hp
          rcases List.mem_cons.mp hp with rfl | hp
          · rfl
          · exact ih _ p hp
        · simp
      · simp

/-! ### `RelayUDPData`: what reaches the remote server -/

/-- Both buffers of `RelayUDPData` carry the header followed by exactly the
payload: the one-shot buffer when `header+data` is longer than the pool's
buffers, the pooled one, whatever stale bytes it held, otherwise. -/
theorem relayUDPSend_datagram (c : UdpProxyEntry) (leakyBuffer : Pool) (pooled : Bytes)
    (newBuf dataBuf : Nat) (data : Bytes) (dataLen : Nat) (writeErr : Option GoError)
    (hdata : dataLen ≤ data.length) :
    (relayUDPSend (.ok c) leakyBuffer pooled.length pooled newBuf dataBuf data dataLen
      writeErr).datagram = some (c.header ++ data.take dataLen) := by
  have hslice : slice data 0 dataLen = some (data.take dataLen) := by
    simp [slice_of_le (Nat.zero_le _) hdata]
  have htake : (data.take dataLen).length = dataLen := by rw [List.length_take]; omega
  simp only [relayUDPSend]
  split_ifs with hbig
  · rw [copyInto_of_le (Nat.zero_le _) (by simp) (by simp)]
    simp only [List.take_zero, List.nil_append, Nat.zero_add, Option.some_bind, hslice]
    rw [copyInto_of_le (by omega) (by simp) (by rw [htake]; omega)]
    simp [List.take_left', htake]
  · rw [copyInto_of_le (Nat.zero_le _) le_rfl (by simp; omega)]
    simp only [List.take_zero, List.nil_append, Nat.zero_add, Option.some_bind, hslice]
    rw [copyInto_of_le (by simp) (by simp)
      (by simp only [List.length_append, List.length_drop, htake]; omega)]
    simp only [Option.some_bind]
    rw [slice_of_le (Nat.zero_le _) (by simp; omega), List.drop_zero,
      List.take_left' (by simp [htake])]
    simp

/-- Once `WriteTo` is reached the call ends with its error, and the buffers it
touched tell the path: the payload buffer alone for the one-shot buffer, a
drawn and returned pool buffer otherwise. -/
private theorem relayUDPSend_of_sent {c : UdpProxyEntry} {leakyBuffer : Pool}
    {bufferSize : Nat} {pooled : Bytes} {newBuf dataBuf : Nat} {data : Bytes} {dataLen : Nat}
    {writeErr : Option GoError} {w : Bytes}
    (h : (relayUDPSend (.ok c) leakyBuffer bufferSize pooled newBuf dataBuf data dataLen
      writeErr).datagram = some w) :
    (relayUDPSend (.ok c) leakyBuffer bufferSize pooled newBuf dataBuf data dataLen
      writeErr).outcome = .ofError writeErr ∧
    (relayUDPSend (.ok c) leakyBuffer bufferSize pooled newBuf dataBuf data dataLen
      writeErr).buffers = if bufferSize < c.header.length + dataLen then [.use dataBuf] else
        [.get leakyBuffer newBuf, .use newBuf, .use dataBuf, .use newBuf, .use newBuf,
          .put leakyBuffer newBuf] := by
  simp only [relayUDPSend] at h ⊢
  split_ifs at h ⊢ <;> split <;> rename_i hsent <;> simp only [hsent] at h
  -- a panicking call never reaches `WriteTo`
  all_goals first | exact ⟨rfl, rfl⟩ | cases h

/-- For every header, every pool buffer size and whatever stale bytes the
pooled buffer holds, `RelayUDPData` hands `WriteTo` the header followed by
exactly the payload and returns that call's error: through a one-shot buffer
when `header+data` is longer than the pool's buffers, through a drawn and
returned pool buffer otherwise. -/
theorem relayUDPData_writes_framed_datagram (c : UdpProxyEntry) (leakyBuffer : Pool)
    (pooled : Bytes) (newBuf dataBuf : Nat) (data : Bytes) (dataLen : Nat)
    (writeErr : Option GoError) (hdata : dataLen ≤ data.length) :
    (relayUDPSend (.ok c) leakyBuffer pooled.length pooled newBuf dataBuf data dataLen
      writeErr).datagram = some (c.header ++ data.take dataLen) ∧
    (relayUDPSend (.ok c) leakyBuffer pooled.length pooled newBuf dataBuf data dataLen
      writeErr).outcome = .ofError writeErr ∧
    (relayUDPSend (.ok c) leakyBuffer pooled.length pooled newBuf dataBuf data dataLen
      writeErr).buffers = if pooled.length < c.header.length + dataLen then [.use dataBuf] else
        [.get leakyBuffer newBuf, .use newBuf, .use dataBuf, .use newBuf, .use newBuf,
          .put leakyBuffer newBuf] :=
  have h := relayUDPSend_datagram c leakyBuffer pooled newBuf dataBuf data dataLen writeErr hdata
  ⟨h, relayUDPSend_of_sent h⟩

/-- The spec's two boundaries for the header `01 08 08 08 08 00 35` and a
one-byte payload: a datagram of exactly the 8-byte buffer size goes through
the pool, one of a byte more than the 7-byte buffer size through a one-shot
buffer, and both carry the same bytes. -/
theorem relayUDPData_writes_framed_datagram_boundaries :
    let c : UdpProxyEntry := ⟨1, 0, "192.168.1.5:40000".toList, [1, 8, 8, 8, 8, 0, 53], 60000000000⟩
    (1 ≤ [42].length ∧
      (relayUDPSend (.ok c) .udpBuffer (List.replicate 8 0xEE).length (List.replicate 8 0xEE) 2 0
        [42] 1 none).datagram = some (c.header ++ [42].take 1) ∧
      (relayUDPSend (.ok c) .udpBuffer (List.replicate 8 0xEE).length (List.replicate 8 0xEE) 2 0
        [42] 1 none).outcome = .ofError none ∧
      (relayUDPSend (.ok c) .udpBuffer (List.replicate 8 0xEE).length (List.replicate 8 0xEE) 2 0
        [42] 1 none).buffers =
        if (List.replicate 8 (0xEE : UInt8)).length < c.header.length + 1 then [.use 0] else
          [.get .udpBuffer 2, .use 2, .use 0, .use 2, .use 2, .put .udpBuffer 2]) ∧
    (1 ≤ [42].length ∧
      (relayUDPSend (.ok c) .udpBuffer (List.replicate 7 0xEE).length (List.replicate 7 0xEE) 2 0
        [42] 1 none).datagram = some (c.header ++ [42].take 1) ∧
      (relayUDPSend (.ok c) .udpBuffer (List.replicate 7 0xEE).length (List.replicate 7 0xEE) 2 0
        [42] 1 none).outcome = .ofError none ∧
      (relayUDPSend (.ok c) .udpBuffer (List.replicate 7 0xEE).length (List.replicate 7 0xEE) 2 0
        [42] 1 none).buffers =
        if (List.replicate 7 (0xEE : UInt8)).length < c.header.length + 1 then [.use 0] else
          [.get .udpBuffer 2, .use 2, .use 0, .use 2, .use 2, .put .udpBuffer 2]) :=
  ⟨⟨by decide, relayUDPData_writes_framed_datagram _ .udpBuffer (List.replicate 8 0xEE) 2 0 [42]
      1 none (by decide)⟩,
    ⟨by decide, relayUDPData_writes_framed_datagram _ .udpBuffer (List.replicate 7 0xEE) 2 0 [42]
      1 none (by decide)⟩⟩

/-! ### The reader against the sender -/

/-- The NAT entry of the flow from `192.168.1.5:40000` to `8.8.8.8:53`. -/
def sampleEntry : UdpProxyEntry :=
  ⟨1, 0, "192.168.1.5:40000".toList, [1, 8, 8, 8, 8, 0, 53], 60000000000⟩

/-- An empty UDP payload, legal on the wire, stops the reader with an error
instead of reaching the client. -/
theorem copyFromRemote_stops_on_empty_payload :
    copyFromRemote sampleEntry (List.replicate 65536 0)
        [.datagram (sampleEntry.header ++ []) none] =
      ([], some (.new ("UDP Read too few bytes: " ++ toString 7))) := by
  rw [copyFromRemote_short _ _ _ _ _ (by decide), List.length_replicate]
  rfl

/-- The reader strips the header from every datagram whose payload is
non-empty and fits its buffer, writes the payloads back in order and goes on
to what follows them; a datagram no longer than the header stops it with an
error; and a non-empty datagram framed by `RelayUDPData` and echoed by the
remote server reaches the client unchanged. -/
theorem copyFromRemote_echoes (c : UdpProxyEntry) (buffer : Bytes) (ps : List Bytes)
    (rest : List Delivery) (hne : ∀ p ∈ ps, p ≠ [])
    (hfit : ∀ p ∈ ps, c.header.length + p.length ≤ buffer.length) :
    copyFromRemote c buffer (ps.map (fun p => .datagram (c.header ++ p) none) ++ rest) =
      (ps.map (·, c.srcAddr) ++ (copyFromRemote c buffer rest).1,
        (copyFromRemote c buffer rest).2) ∧
    (∀ d w, d.length ≤ c.header.length → (copyFromRemote c buffer (.datagram d w :: rest)).1 = [] ∧
      (copyFromRemote c buffer (.datagram d w :: rest)).2.isSome) ∧
    ∀ (leakyBuffer : Pool) (pooled : Bytes) (newBuf dataBuf : Nat) (data : Bytes)
      (dataLen : Nat) (writeErr : Option GoError),
      0 < dataLen → dataLen ≤ data.length → c.header.length + dataLen ≤ buffer.length →
      ∃ datagram, (relayUDPSend (.ok c) leakyBuffer pooled.length pooled newBuf dataBuf data
          dataLen writeErr).datagram = some datagram ∧
        copyFromRemote c buffer [.datagram datagram none] = ([(data.take dataLen, c.srcAddr)], none) := by
  refine ⟨copyFromRemote_payloads c buffer ps rest hne hfit, fun d w hd => ?_, ?_⟩
  · simp [copyFromRemote_short c buffer d w rest hd]
  · intro leakyBuffer pooled newBuf dataBuf data dataLen writeErr hpos hdata hfits
    refine ⟨_, relayUDPSend_datagram c leakyBuffer pooled newBuf dataBuf data dataLen writeErr
      hdata, ?_⟩
    have hne' : data.take dataLen ≠ [] := List.ne_nil_of_length_pos (by simp; omega)
    simpa using copyFromRemote_payloads c buffer [data.take dataLen] [] (by simpa using hne')
      (by simpa using (show c.header.length + min dataLen data.length ≤ buffer.length by omega))

theorem copyFromRemote_echoes_sample :
    copyFromRemote sampleEntry (List.replicate 16 0)
        ([[42]].map (fun p => .datagram (sampleEntry.header ++ p) none) ++ []) =
      ([[42]].map (·, sampleEntry.srcAddr) ++ (copyFromRemote sampleEntry (List.replicate 16 0) []).1,
        (copyFromRemote sampleEntry (List.replicate 16 0) []).2) ∧
    (∀ d w, d.length ≤ sampleEntry.header.length →
      (copyFromRemote sampleEntry (List.replicate 16 0) (.datagram d w :: [])).1 = [] ∧
      (copyFromRemote sampleEntry (List.replicate 16 0) (.datagram d w :: [])).2.isSome) ∧
    ∀ (leakyBuffer : Pool) (pooled : Bytes) (newBuf dataBuf : Nat) (data : Bytes)
      (dataLen : Nat) (writeErr : Option GoError),
      0 < dataLen → dataLen ≤ data.length → sampleEntry.header.length + dataLen ≤ (List.replicate 16 (0 : UInt8)).length →
      ∃ datagram, (relayUDPSend (.ok sampleEntry) leakyBuffer pooled.length pooled newBuf dataBuf
          data dataLen writeErr).datagram = some datagram ∧
        copyFromRemote sampleEntry (List.replicate 16 0) [.datagram datagram none] =
          ([(data.take dataLen, sampleEntry.srcAddr)], none) :=
  copyFromRemote_echoes sampleEntry (List.replicate 16 0) [[42]] [] (by decide) (by decide)

end Redfrog.ProxyClient
