import Redfrog.Go.Basic

/-!
# Starting the proxy client

`StartProxyClient(config)` creates one backend per server entry, in order,
then checks the listen address's IP family, opens the transparent TCP
listener and starts its accept loop, and opens the transparent UDP listener
and starts its receive loop. `CreateProxyBackend` checks the remote address,
parses it, picks the cipher and, when the entry enables it, starts a KCP
backend, the only resource a new backend holds.

Each step can fail, and the call then returns at once. What it has acquired
by then is recorded as a list of events: a KCP backend started, a listener
opened or closed, a loop started or ended. On every failure both listeners
and both loops are down: a failed UDP listen closes the TCP listener, which
ends the accept loop. No created backend is ever stopped, so every KCP
backend started before the failure is still running when the error is
returned.

`Stop()` closes the two listeners, which ends both loops, and drops the
backends without stopping any. After a successful start, what runs is the
two listeners, the two loops and the KCP backend of each entry that enables
Kcptun; after `Stop`, exactly those KCP backends still run.

The collaborators (`network`, `core.PickCipher`, `StartKCPBackend`) are
defined in other packages and taken as a parameter: `Network` gives their
answers.
-/

namespace Redfrog.ProxyClient

open Go

/-- The fields of `config.RemoteServerConfig` that `CreateProxyBackend` reads. -/
structure RemoteServerConfig where
  remoteServer : GoString
  crypt : GoString
  password : GoString
  /-- `Kcptun.Enable`. -/
  kcptunEnable : Bool
  deriving DecidableEq, Repr

/-- The fields of `config.ShadowsocksConfig` that `StartProxyClient` reads. -/
structure ShadowsocksConfig where
  listenAddr : GoString
  servers : List RemoteServerConfig
  tcpTimeout : Int
  udpTimeout : Int
  deriving DecidableEq, Repr

/-- How the collaborators answer. -/
structure Network where
  /-- `network.CheckIPFamily(addr)`: whether the address is IPv6. -/
  checkIPFamily : GoString → Except GoError Bool
  /-- `network.ParseAddr(addr, isIPv6)`: the IP and the port. -/
  parseAddr : GoString → Bool → Except GoError (Bytes × Nat)
  /-- `core.PickCipher(crypt, key, password)`. -/
  pickCipher : GoString → GoString → Except GoError Unit
  /-- `StartKCPBackend(config.Kcptun, config.Kcptun.Crypt, config.Password)`. -/
  startKCPBackend : RemoteServerConfig → Except GoError Unit
  /-- `network.ListenTransparentTCP(addr, isIPv6)`. -/
  listenTransparentTCP : GoString → Bool → Option GoError
  /-- `network.ListenTransparentUDP(addr, isIPv6)`. -/
  listenTransparentUDP : GoString → Bool → Option GoError

/-- The fields of a new `proxyBackend` other than its empty NAT maps and its
cipher. -/
structure ProxyBackend where
  /-- `tcpTimeout_`, in nanoseconds. -/
  tcpTimeout : Int
  /-- `udpTimeout_`, in nanoseconds. -/
  udpTimeout : Int
  networkType : GoString
  /-- `tcpAddr` and `udpAddr`. -/
  ip : Bytes
  port : Nat
  /-- Whether `kcpBackend` is set. -/
  kcp : Bool
  deriving DecidableEq, Repr

/-- `CreateProxyBackend(config, tcpTimeout, udpTimeout)`. -/
def createProxyBackend (network : Network) (config : RemoteServerConfig)
    (tcpTimeout udpTimeout : Int) : Except GoError ProxyBackend :=
  match network.checkIPFamily config.remoteServer with
  | .error err => .error (.wrap ("Invalid IP format: " ++ String.mk config.remoteServer) err)
  | .ok isIPv6 =>
    match network.parseAddr config.remoteServer isIPv6 with
    | .error ee => .error (.wrap "Parse IPv4 failed" ee)
    | .ok (ip, port) =>
      match network.pickCipher config.crypt config.password with
      | .error err => .error (.wrap "Generate cipher failed" err)
      | .ok () =>
        let ret : ProxyBackend := ⟨seconds tcpTimeout, seconds udpTimeout,
          if isIPv6 then "tcp6".toList else "tcp4".toList, ip, port, false⟩
        if config.kcptunEnable then
          match network.startKCPBackend config with
          | .error err => .error (.wrap "Create KCP backend failed" err)
          | .ok () => .ok { ret with kcp := true }
        else .ok ret

/-- What `StartProxyClient` holds that runs or must be closed. -/
inductive Resource where
  /-- The KCP backend of the backend of server entry `i`. -/
  | kcpBackend (i : Nat)
  | tcpListener
  /-- The goroutine running `startListenTCP`. -/
  | acceptLoop
  | udpListener
  /-- The goroutine running `startListenUDP`. -/
  | udpLoop
  deriving DecidableEq, Repr

/-- A resource acquired or released. -/
inductive ResourceEvent where
  | acquire (r : Resource)
  | release (r : Resource)
  deriving DecidableEq, Repr

/-- `r` was acquired more often than released. -/
def Running (effs : List ResourceEvent) (r : Resource) : Prop :=
  effs.count (.release r) < effs.count (.acquire r)

instance (effs : List ResourceEvent) (r : Resource) : Decidable (Running effs r) :=
  inferInstanceAs (Decidable (_ < _))

/-- A started `ProxyClient`: its backends and its address. -/
structure Client where
  backends : List ProxyBackend
  addr : GoString
  deriving DecidableEq, Repr

/-- The loop of `StartProxyClient` over `config.Servers`, from entry `i`: the
backends, or the first error, and the KCP backends started. -/
def createBackends (network : Network) (tcpTimeout udpTimeout : Int) (i : Nat) :
    List RemoteServerConfig → Except GoError (List ProxyBackend) × List ResourceEvent
  | [] => (.ok [], [])
  | backendConfig :: rest =>
    match createProxyBackend network backendConfig tcpTimeout udpTimeout with
    | .error err => (.error (.wrap "Create proxy backend failed" err), [])
    | .ok backend =>
      let r := createBackends network tcpTimeout udpTimeout (i + 1) rest
      (r.1.map (backend :: ·),
        (if backend.kcp then [.acquire (.kcpBackend i)] else []) ++ r.2)

/-- `StartProxyClient(config)`: the client or the error, and what it
acquired and released on the way, in order. -/
def startProxyClient (network : Network) (config : ShadowsocksConfig) :
    Except GoError Client × List ResourceEvent :=
  match createBackends network config.tcpTimeout config.udpTimeout 0 config.servers with
  | (.error err, effs) => (.error err, effs)
  | (.ok backends, effs) =>
    match network.checkIPFamily config.listenAddr with
    | .error err => (.error (.wrap "Check addr ip family failed" err), effs)
    | .ok isIPv6 =>
      match network.listenTransparentTCP config.listenAddr isIPv6 with
      | some err => (.error (.wrap "TCP listen failed" err), effs)
      | none =>
        -- `go ret.startListenTCP()`
        let effs := effs ++ [.acquire .tcpListener, .acquire .acceptLoop]
        match network.listenTransparentUDP config.listenAddr isIPv6 with
        | some err =>
          -- `ret.tcpListener.Close()`; `Accept` then fails with "use of closed
          -- network connection" and `startListenTCP` returns
          (.error (.wrap "UDP listen failed" err),
            effs ++ [.release .tcpListener, .release .acceptLoop])
        | none =>
          (.ok ⟨backends, config.listenAddr⟩, effs ++ [.acquire .udpListener, .acquire .udpLoop])

/-! ### What runs after a failed start -/

section Start

variable {network : Network} {tcpTimeout udpTimeout : Int}

/-- The backend loop only starts KCP backends. -/
theorem createBackends_effects (i : Nat) (servers : List RemoteServerConfig) :
    ∀ ev ∈ (createBackends network tcpTimeout udpTimeout i servers).2,
      ∃ j, ev = .acquire (.kcpBackend j) := by
  induction servers generalizing i with
  | nil => simp [createBackends]
  | cons backendConfig rest ih =>
    simp only [createBackends]
    split
    · simp
    · intro ev hev
      rcases List.mem_append.mp hev with h | h
      · split_ifs at h <;> simp_all
      · exact ih (i + 1) ev h

/-- Where only acquisitions happened, what runs is what was acquired. -/
private theorem running_of_acquisitions {effs : List ResourceEvent}
    (h : ∀ ev ∈ effs, ∃ r, ev = .acquire r) (r : Resource) :
    Running effs r ↔ .acquire r ∈ effs := by
  have hrel : effs.count (.release r) = 0 :=
    List.count_eq_zero.mpr fun hm => by obtain ⟨_, he⟩ := h _ hm; cases he
  rw [Running, hrel, List.count_pos_iff]

/-- A failed start has started the backends' KCP backends and, at most,
opened and closed the TCP listener with its loop. -/
private theorem startProxyClient_error_effects {config : ShadowsocksConfig} {err : GoError}
    (h : (startProxyClient network config).1 = .error err) :
    (startProxyClient network config).2 =
        (createBackends network config.tcpTimeout config.udpTimeout 0 config.servers).2 ∨
      (startProxyClient network config).2 =
        (createBackends network config.tcpTimeout config.udpTimeout 0 config.servers).2 ++
          [.acquire .tcpListener, .acquire .acceptLoop, .release .tcpListener,
            .release .acceptLoop] := by
  unfold startProxyClient at h ⊢
  split <;> rename_i hc
  · simp [hc]
  · rw [hc]
    split
    · exact .inl rfl
    · split
      · exact .inl rfl
      · split
        · exact .inr (by simp)
        · simp_all

/-- Opening and closing a listener with its loop leaves what runs as it was. -/
private theorem running_opened_closed (effs : List ResourceEvent) (a b r : Resource) :
    Running (effs ++ [.acquire a, .acquire b, .release a, .release b]) r ↔ Running effs r := by
  simp only [Running, List.count_append, List.count_cons, List.count_nil, beq_iff_eq,
    ResourceEvent.release.injEq, ResourceEvent.acquire.injEq, reduceCtorEq, if_false]
  split_ifs <;> omega

/-- On every failure of `StartProxyClient`, both listeners and both loops are
down, and what still runs is exactly the KCP backends it started: none of the
backends it created is stopped. -/
theorem startProxyClient_error_running {config : ShadowsocksConfig} {err : GoError}
    (h : (startProxyClient network config).1 = .error err) (r : Resource) :
    Running (startProxyClient network config).2 r ↔
      ∃ i, r = .kcpBackend i ∧ .acquire (.kcpBackend i) ∈ (startProxyClient network config).2 := by
  have hmem := @createBackends_effects network config.tcpTimeout config.udpTimeout 0 config.servers
  have hrun := running_of_acquisitions
    (fun ev hev => let ⟨j, he⟩ := hmem ev hev; ⟨.kcpBackend j, he⟩) r
  have hkcp : .acquire r ∈ (createBackends network config.tcpTimeout config.udpTimeout 0
      config.servers).2 ↔ ∃ i, r = .kcpBackend i ∧
        .acquire (.kcpBackend i) ∈ (createBackends network config.tcpTimeout config.udpTimeout 0
          config.servers).2 :=
    ⟨fun hr => by obtain ⟨j, he⟩ := hmem _ hr; cases he; exact ⟨j, rfl, hr⟩,
      fun ⟨_, he, hr⟩ => he ▸ hr⟩
  rcases startProxyClient_error_effects h with he | he <;> rw [he]
  · exact hrun.trans hkcp
  · rw [running_opened_closed, hrun, hkcp]
    simp

end Start

/-- A network where `10.0.0.1:8388` and `0.0.0.0:1080` are the IPv4
addresses, any other address fails the IP family check, and every other step
succeeds. -/
def sampleNetwork : Network where
  checkIPFamily addr :=
    if addr = "10.0.0.1:8388".toList ∨ addr = "0.0.0.0:1080".toList then .ok false
    else .error (.external 22)
  parseAddr _ _ := .ok ([10, 0, 0, 1], 8388)
  pickCipher _ _ := .ok ()
  startKCPBackend _ := .ok ()
  listenTransparentTCP _ _ := none
  listenTransparentUDP _ _ := none

/-- Two server entries: the first with KCP on, the second named by a host
name, which the IP family check rejects. -/
def twoServers : ShadowsocksConfig :=
  ⟨"0.0.0.0:1080".toList,
    [⟨"10.0.0.1:8388".toList, "AEAD_CHACHA20_POLY1305".toList, "secret".toList, true⟩,
      ⟨"relay.example.com:8388".toList, "AEAD_CHACHA20_POLY1305".toList, "secret".toList, false⟩],
    60, 60⟩

/-- The second entry fails, and `StartProxyClient` returns its error with the
first backend's KCP backend still running. -/
theorem startProxyClient_leaks_kcp_backend :
    (startProxyClient sampleNetwork twoServers).1 =
      .error (.wrap "Create proxy backend failed"
        (.wrap "Invalid IP format: relay.example.com:8388" (.external 22))) ∧
    Running (startProxyClient sampleNetwork twoServers).2 (.kcpBackend 0) := by
  have herr : (startProxyClient sampleNetwork twoServers).1 =
      .error (.wrap "Create proxy backend failed"
        (.wrap "Invalid IP format: relay.example.com:8388" (.external 22))) := by
    decide
  exact ⟨herr, (startProxyClient_error_running herr _).mpr ⟨0, rfl, by decide⟩⟩

/-! ### Stopping a started client -/

/-- `ProxyClient.Stop()`: the client with its backends dropped, and what it
releases. Closing a listener makes its loop's next `Accept` or `ReadMsgUDP`
fail with "use of closed network connection", on which the loop returns; the
errors of the two `Close` calls are only logged. No backend is stopped. -/
def stopProxyClient (c : Client) : Client × List ResourceEvent :=
  ({ c with backends := [] },
    [.release .tcpListener, .release .acceptLoop, .release .udpListener, .release .udpLoop])

section Stop

variable {network : Network} {tcpTimeout udpTimeout : Int}

/-- A created backend holds a KCP backend exactly when its entry enables
Kcptun. -/
theorem createProxyBackend_kcp {config : RemoteServerConfig} {b : ProxyBackend}
    (h : createProxyBackend network config tcpTimeout udpTimeout = .ok b) :
    b.kcp = config.kcptunEnable := by
  unfold createProxyBackend at h
  repeat' split at h
  all_goals cases h <;> simp_all

/-- When every entry's backend is created, the loop has started the KCP
backend of exactly the entries that enable Kcptun, under their index. -/
theorem createBackends_ok_acquire {i : Nat} {servers : List RemoteServerConfig}
    {bs : List ProxyBackend} (h : (createBackends network tcpTimeout udpTimeout i servers).1 = .ok bs)
    (r : Resource) :
    .acquire r ∈ (createBackends network tcpTimeout udpTimeout i servers).2 ↔
      ∃ j sc, r = .kcpBackend (i + j) ∧ servers[j]? = some sc ∧ sc.kcptunEnable = true := by
  induction servers generalizing i bs with
  | nil => simp [createBackends]
  | cons backendConfig rest ih =>
    rcases hb : createProxyBackend network backendConfig tcpTimeout udpTimeout with err | backend
    · simp [createBackends, hb] at h
    rcases hr : (createBackends network tcpTimeout udpTimeout (i + 1) rest).1 with err | bs'
    · simp [createBackends, hb, hr, Except.map] at h
    simp only [createBackends, hb, List.mem_append, ih hr, createProxyBackend_kcp hb]
    constructor
    · rintro (hi | ⟨j, sc, rfl, hj, he⟩)
      · split_ifs at hi with hk
        · exact ⟨0, backendConfig, by simpa using hi, List.getElem?_cons_zero, hk⟩
        · cases hi
      · exact ⟨j + 1, sc, by congr 1; omega, by rwa [List.getElem?_cons_succ], he⟩
    · rintro ⟨_ | j, sc, rfl, hj, he⟩
      · rw [List.getElem?_cons_zero, Option.some.injEq] at hj
        subst hj
        simp [he]
      · rw [List.getElem?_cons_succ] at hj
        exact .inr ⟨j, sc, by congr 1; omega, hj, he⟩

/-- A successful start has created every backend and acquired, after their
KCP backends, the two listeners and their loops. -/
private theorem startProxyClient_ok_effects {config : ShadowsocksConfig} {c : Client}
    (h : (startProxyClient network config).1 = .ok c) :
    ∃ bs, (createBackends network config.tcpTimeout config.udpTimeout 0 config.servers).1 =
        .ok bs ∧
      (startProxyClient network config).2 =
        (createBackends network config.tcpTimeout config.udpTimeout 0 config.servers).2 ++
          [.acquire .tcpListener, .acquire .acceptLoop, .acquire .udpListener,
            .acquire .udpLoop] := by
  unfold startProxyClient at h ⊢
  split at h <;> rename_i hc
  · cases h
  rw [hc]
  repeat' split at h
  all_goals cases h
  exact ⟨_, rfl, by simp⟩

/-- Events that acquire and release each resource equally often leave what
runs as it was. -/
private theorem running_append_balanced (effs extra : List ResourceEvent) (r : Resource)
    (h : extra.count (.acquire r) = extra.count (.release r)) :
    Running (effs ++ extra) r ↔ Running effs r := by
  simp only [Running, List.count_append, h, Nat.add_lt_add_iff_right]

/-- The lifecycle of a client: after a successful `StartProxyClient`, both
listeners, both loops and the KCP backend of each entry that enables Kcptun
run; after `Stop`, the listeners and loops are down but every one of those
KCP backends still runs. -/
theorem proxyClient_stop_leaves_kcp_backends {config : ShadowsocksConfig} {c : Client}
    (h : (startProxyClient network config).1 = .ok c) (r : Resource) :
    (Running (startProxyClient network config).2 r ↔
      r ∈ [.tcpListener, .acceptLoop, .udpListener, .udpLoop] ∨
        ∃ i sc, r = .kcpBackend i ∧ config.servers[i]? = some sc ∧ sc.kcptunEnable = true) ∧
    (Running ((startProxyClient network config).2 ++ (stopProxyClient c).2) r ↔
      ∃ i sc, r = .kcpBackend i ∧ config.servers[i]? = some sc ∧ sc.kcptunEnable = true) := by
  obtain ⟨bs, hbs, heffs⟩ := startProxyClient_ok_effects h
  have hkcp := createBackends_ok_acquire hbs r
  simp only [Nat.zero_add] at hkcp
  have hcb := @createBackends_effects network config.tcpTimeout config.udpTimeout 0 config.servers
  have hrun := running_of_acquisitions
    (fun ev hev => let ⟨j, he⟩ := hcb ev hev; ⟨.kcpBackend j, he⟩) r
  rw [heffs]
  refine ⟨?_, ?_⟩
  · rw [running_of_acquisitions, List.mem_append, hkcp]
    · rw [or_comm]
      simp only [List.mem_cons, ResourceEvent.acquire.injEq, List.not_mem_nil, or_false]
    · intro ev hev
      rcases List.mem_append.mp hev with hev | hev
      · obtain ⟨j, rfl⟩ := hcb ev hev
        exact ⟨_, rfl⟩
      · simp only [List.mem_cons, List.not_mem_nil, or_false] at hev
        rcases hev with rfl | rfl | rfl | rfl <;> exact ⟨_, rfl⟩
  · rw [List.append_assoc, running_append_balanced _ _ r (by simp [stopProxyClient, List.count_cons]),
      hrun, hkcp]

end Stop

/-- One server entry, with KCP on. -/
def oneKcpServer : ShadowsocksConfig :=
  ⟨"0.0.0.0:1080".toList,
    [⟨"10.0.0.1:8388".toList, "AEAD_CHACHA20_POLY1305".toList, "secret".toList, true⟩], 60, 60⟩

theorem proxyClient_stop_leaves_kcp_backends_oneKcpServer :
    ∃ c, (startProxyClient sampleNetwork oneKcpServer).1 = .ok c ∧
      ((Running (startProxyClient sampleNetwork oneKcpServer).2 (.kcpBackend 0) ↔
        Resource.kcpBackend 0 ∈ [.tcpListener, .acceptLoop, .udpListener, .udpLoop] ∨
          ∃ i sc, Resource.kcpBackend 0 = .kcpBackend i ∧ oneKcpServer.servers[i]? = some sc ∧
            sc.kcptunEnable = true) ∧
      (Running ((startProxyClient sampleNetwork oneKcpServer).2 ++ (stopProxyClient c).2)
          (.kcpBackend 0) ↔
        ∃ i sc, Resource.kcpBackend 0 = .kcpBackend i ∧ oneKcpServer.servers[i]? = some sc ∧
          sc.kcptunEnable = true)) :=
  ⟨_, rfl, @proxyClient_stop_leaves_kcp_backends sampleNetwork oneKcpServer _ rfl _⟩

end Redfrog.ProxyClient
