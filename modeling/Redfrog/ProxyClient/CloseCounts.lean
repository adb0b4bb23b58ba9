import Redfrog.ProxyClient.NatSockets

/-!
# How often each socket is closed

A step of the backend only opens a socket and holds it, takes the socket the
DNS NAT table holds for its key, hands what it holds to the reader it spawns,
or closes what it holds. So in every run without `Stop`, for every socket,
its closes and the goroutines still holding it together count its opens and
the times a `RelayDNS` call found it in the table (`Conserved`). Each call
finds a socket in the table once at most, and only one that a `RelayDNS`
call for its own key opened (`SharesInv`).

Read off at the end of a run: a socket `RelayUDPData` opened is closed at
most once, and exactly once when every goroutine has returned; a socket
`RelayDNS` opened is closed, or still held, once for the call that opened it
and once for each call that found it in the table. `Stop`, which closes the
tables' sockets under the goroutines holding them, breaks the count.
-/

namespace Redfrog.ProxyClient

open Go BackendState

variable {cv : GoString → Except GoError Bytes} {t : Int} {s s' : BackendState} {i : Nat}

/-! ### Holders -/

/-- The sockets task `t` holds. -/
def Task.held : Task → List Nat
  | .relayUDP _ _ (.dial d) => [d]
  | .relayUDP _ _ (.create c d) => [c, d]
  | .relayUDP _ _ _ => []
  | .reader _ e pc => if pc = .exited then [] else [e.src, e.dst]
  | .relayDNS _ _ pc => pc.conn.toList

theorem Task.mem_held {c : Nat} : ∀ {t : Task}, c ∈ t.held ↔ t.Holds c
  | .relayUDP _ _ pc => by cases pc <;> simp [Task.held, Task.Holds]
  | .reader _ _ pc => by by_cases h : pc = .exited <;> simp [Task.held, Task.Holds, h]
  | .relayDNS _ _ _ => by simp [Task.held, Task.Holds]

theorem Task.held_of_finished : ∀ {t : Task}, t.Finished → t.held = []
  | .relayUDP _ _ _, rfl => rfl
  | .reader _ _ _, rfl => rfl
  | .relayDNS _ _ _, rfl => rfl

/-- How often the tasks numbered below `n` hold socket `c`. -/
def heldBelow (tasks : Nat → Option Task) (c : Nat) : Nat → Nat
  | 0 => 0
  | n + 1 => heldBelow tasks c n + ((tasks n).map fun t => t.held.count c).getD 0

/-- How many goroutines of `s` hold socket `c`. -/
def holdCount (s : BackendState) (c : Nat) : Nat := heldBelow s.tasks c s.nextTask

/-- The socket a `RelayDNS` call finds in the table at event `e`, with the
call: at its `Get`, the one `dnsNatMap` holds for its key. -/
def dnsShare (s : BackendState) : Event → List (Nat × Nat)
  | .step i _ =>
    match s.tasks i with
    | some (.relayDNS src _ .get) => (s.dnsNatMap.lookup src).toList.map ((i, ·))
    | _ => []
  | _ => []

/-- The sockets `RelayDNS` calls find in the table along a run from `s`, each
with the call that finds it. -/
def dnsShares (cv : GoString → Except GoError Bytes) (t : Int) (s : BackendState) :
    List Event → List (Nat × Nat)
  | [] => []
  | e :: es =>
    match step cv t s e with
    | some s' => dnsShare s e ++ dnsShares cv t s' es
    | none => []

/-- Every socket's closes and holders count its opens and the times a
`RelayDNS` call found it in the table, as `sh` lists them. -/
def Conserved (s : BackendState) (sh : List (Nat × Nat)) : Prop :=
  ∀ c, s.closed.count c + holdCount s c =
    (s.opened.map Prod.fst).count c + (sh.map Prod.snd).count c

/-- The calls in `sh` found a socket in the table once each: every one is a
`RelayDNS` call past its `Get`, and a call for its key opened the socket. -/
structure SharesInv (s : BackendState) (sh : List (Nat × Nat)) : Prop where
  nodup : (sh.map Prod.fst).Nodup
  sharer : ∀ x ∈ sh, ∃ src dns pc, s.tasks x.1 = some (.relayDNS src dns pc) ∧
    pc ≠ .convert ∧ pc ≠ .get ∧ OpenedFor s src x.2

/-- An event takes a socket from the table only at a `Get` that finds one. -/
theorem dnsShare_cases (s : BackendState) (e : Event) :
    dnsShare s e = [] ∨ ∃ i ok src dns c, e = .step i ok ∧
      s.tasks i = some (.relayDNS src dns .get) ∧ s.dnsNatMap.lookup src = some c ∧
      dnsShare s e = [(i, c)] := by
  cases e with
  | step i ok =>
    rcases hi : s.tasks i with _ | ⟨⟩ | ⟨⟩ | ⟨src, dns, pc⟩
    case some.relayDNS =>
      cases pc
      case get =>
        rcases hc : s.dnsNatMap.lookup src with _ | c
        · simp [dnsShare, hi, hc]
        · exact .inr ⟨i, ok, src, dns, c, rfl, hi, hc, by simp [dnsShare, hi, hc]⟩
      all_goals simp [dnsShare, hi]
    all_goals simp [dnsShare, hi]
  | _ => exact .inl rfl

section Once

variable {f : Nat → Option Task} {n : Nat}

theorem heldBelow_congr {g : Nat → Option Task} (c : Nat) (h : ∀ j < n, g j = f j) :
    heldBelow g c n = heldBelow f c n := by
  induction n with
  | zero => rfl
  | succ n ih => simp only [heldBelow, h n n.lt_succ_self, ih fun j hj => h j (by omega)]

theorem heldBelow_update {tk : Task} (hi : i < n) (hf : f i = some tk) (tk' : Task) (c : Nat) :
    heldBelow (Function.update f i (some tk')) c n + tk.held.count c =
      heldBelow f c n + tk'.held.count c := by
  induction n with
  | zero => exact absurd hi (Nat.not_lt_zero _)
  | succ n ih =>
    simp only [heldBelow]
    rcases Nat.lt_succ_iff_lt_or_eq.mp hi with hlt | rfl
    · rw [Function.update_noteq hlt.ne']
      have := ih hlt
      omega
    · rw [Function.update_same, hf, heldBelow_congr c fun j hj => Function.update_noteq hj.ne _ _]
      simp only [Option.map_some', Option.getD_some]
      omega

theorem holdCount_spawn (tk : Task) (c : Nat) :
    holdCount (s.spawn tk) c = holdCount s c + tk.held.count c := by
  simp only [holdCount, spawn_tasks, spawn_nextTask, heldBelow, Function.update_same,
    Option.map_some', Option.getD_some]
  rw [heldBelow_congr c fun j hj => Function.update_noteq hj.ne _ _]

theorem heldBelow_eq_zero (h : ∀ j tk, f j = some tk → tk.Finished) (c : Nat) :
    heldBelow f c n = 0 := by
  induction n with
  | zero => rfl
  | succ n ih =>
    simp only [heldBelow, ih, Nat.zero_add]
    cases hn : f n with
    | none => rfl
    | some tk => simp [Task.held_of_finished (h n tk hn)]

/-- A step of task `i` from `tk` to `tk'` that closes `l`, opens `new` and
spawns a goroutine holding `extra` keeps a socket's closes and holders
growing by its opens, if it only moves the socket between those lists. -/
theorem conserves_of_count {tk : Task} (hi : s.tasks i = some tk) (hlt : i < s.nextTask)
    (tk' : Task) (l new extra : List Nat)
    (hhold : ∀ c, holdCount s' c = holdCount (s.setTask i tk') c + extra.count c)
    (hclosed : s'.closed = s.closed ++ l)
    (hopened : s'.opened.map Prod.fst = new ++ s.opened.map Prod.fst) {c : Nat}
    (hloc : (l ++ tk'.held ++ extra).count c = (tk.held ++ new).count c) :
    s'.closed.count c + holdCount s' c + (s.opened.map Prod.fst).count c =
      s.closed.count c + holdCount s c + (s'.opened.map Prod.fst).count c := by
  have h₁ : holdCount (s.setTask i tk') c + tk.held.count c = holdCount s c + tk'.held.count c :=
    heldBelow_update hlt hi tk' c
  simp only [List.count_append] at hloc
  rw [hhold, hclosed, hopened, List.count_append, List.count_append]
  omega

/-- A step of `RelayUDPData` opens a socket and holds it, hands the two it
holds to the reader it spawns, or closes what it holds: for every socket,
its closes and holders grow by its opens. -/
theorem relayUDPStep_conserves {src dst : GoString} {ok : Bool} {pc : UdpPc}
    (hi : s.tasks i = some (.relayUDP src dst pc)) (hlt : i < s.nextTask)
    (h : relayUDPStep cv t s i src dst ok pc = some s') (c : Nat) :
    s'.closed.count c + holdCount s' c + (s.opened.map Prod.fst).count c =
      s.closed.count c + holdCount s c + (s'.opened.map Prod.fst).count c := by
  have hnil : s.closed = s.closed ++ [] := (List.append_nil _).symm
  cases pc with
  | get | send =>
    simp only [relayUDPStep] at h
    (try split at h) <;> cases h <;>
      exact conserves_of_count hi hlt _ [] [] [] (by intro; rfl) (by exact hnil) (by rfl)
        (by rfl)
  | listen =>
    simp only [relayUDPStep] at h
    split at h <;> cases h
    · exact conserves_of_count hi hlt _ [] [s.nextSock] [] (by intro; rfl) (by exact hnil)
        (by rfl) (by rfl)
    · exact conserves_of_count hi hlt _ [] [] [] (by intro; rfl) (by exact hnil) (by rfl)
        (by rfl)
  | dial d =>
    simp only [relayUDPStep] at h
    split at h <;> cases h
    · exact conserves_of_count hi hlt _ [] [s.nextSock] [] (by intro; rfl) (by exact hnil)
        (by rfl) (by exact (List.Perm.swap d s.nextSock []).count_eq c)
    · exact conserves_of_count hi hlt _ [d] [] [] (by intro; rfl) (by rfl) (by rfl) (by rfl)
  | create c' d =>
    simp only [relayUDPStep] at h
    split at h <;> cases h
    · rename_i e he
      simp only [createUDPProxyEntry] at he
      split at he <;> cases he
      -- the reader takes both sockets
      exact conserves_of_count hi hlt _ [] [] [c', d] (by exact holdCount_spawn _)
        (by exact hnil) (by rfl) (by rfl)
    · exact conserves_of_count hi hlt _ [d, c'] [] [] (by intro; rfl) (by rfl) (by rfl)
        (by exact (List.Perm.swap c' d []).count_eq c)
  | done => cases h

/-- A reader's steps keep its two sockets until the last, which closes both. -/
theorem readerStep_conserves {key : GoString} {e : UdpProxyEntry} {pc : ReaderPc}
    (hi : s.tasks i = some (.reader key e pc)) (hlt : i < s.nextTask)
    (h : readerStep s i key e pc = some s') (c : Nat) :
    s'.closed.count c + holdCount s' c + (s.opened.map Prod.fst).count c =
      s.closed.count c + holdCount s c + (s'.opened.map Prod.fst).count c := by
  have hnil : s.closed = s.closed ++ [] := (List.append_nil _).symm
  cases pc <;> cases h
  case close =>
    exact conserves_of_count hi hlt _ [e.src, e.dst] [] [] (by intro; rfl) (by rfl) (by rfl)
      (by rfl)
  all_goals
    exact conserves_of_count hi hlt _ [] [] [] (by intro; rfl) (by exact hnil) (by rfl) (by rfl)

/-- A step of `RelayDNS` opens a socket and holds it, takes the one the table
holds for its key, or closes what it holds: for every socket, its closes and
holders grow by its opens and by the times it is taken from the table. -/
theorem relayDNSStep_conserves {src dns : GoString} {ok : Bool} {pc : DnsPc}
    (hi : s.tasks i = some (.relayDNS src dns pc)) (hlt : i < s.nextTask)
    (h : relayDNSStep cv s i src dns ok pc = some s') (c : Nat) :
    s'.closed.count c + holdCount s' c + (s.opened.map Prod.fst).count c =
      s.closed.count c + holdCount s c + (s'.opened.map Prod.fst).count c +
        ((dnsShare s (.step i ok)).map Prod.snd).count c := by
  have hnil : s.closed = s.closed ++ [] := (List.append_nil _).symm
  by_cases hpc : pc = .get
  · subst hpc
    simp only [relayDNSStep] at h
    split at h <;> cases h
    · -- a hit: the call takes the table's socket
      rename_i c' hc'
      have h₁ : holdCount (s.setTask i (.relayDNS src dns (.write c'))) c + 0 =
          holdCount s c + [c'].count c :=
        heldBelow_update hlt hi (.relayDNS src dns (.write c')) c
      simp only [dnsShare, hi, hc', Option.toList_some, List.map_cons, List.map_nil,
        setTask_closed, setTask_opened]
      omega
    · rename_i hc'
      simp only [dnsShare, hi, hc', Option.toList_none, List.map_nil, List.count_nil, Nat.add_zero]
      exact conserves_of_count hi hlt _ [] [] [] (by intro; rfl) (by exact hnil) (by rfl) (by rfl)
  -- no other step takes a socket from the table
  have hnone : dnsShare s (.step i ok) = [] := by
    cases pc <;> first | exact absurd rfl hpc | simp [dnsShare, hi]
  rw [hnone, List.map_nil, List.count_nil, Nat.add_zero]
  cases pc with
  | get => exact absurd rfl hpc
  | listen =>
    simp only [relayDNSStep] at h
    split at h <;> cases h
    · exact conserves_of_count hi hlt _ [] [s.nextSock] [] (by intro; rfl) (by exact hnil)
        (by rfl) (by rfl)
    · exact conserves_of_count hi hlt _ [] [] [] (by intro; rfl) (by exact hnil) (by rfl)
        (by rfl)
  | close c' =>
    cases h
    exact conserves_of_count hi hlt _ [c'] [] [] (by intro; rfl) (by rfl) (by rfl) (by rfl)
  | done => cases h
  | convert =>
    simp only [relayDNSStep] at h
    split at h <;> cases h <;>
      exact conserves_of_count hi hlt _ [] [] [] (by intro; rfl) (by exact hnil) (by rfl)
        (by rfl)
  | write c' =>
    cases h
    cases ok <;> exact conserves_of_count hi hlt _ [] [] [] (by intro; rfl) (by exact hnil)
      (by rfl) (by rfl)
  | add c' | read c' | del c' =>
    cases h
    exact conserves_of_count hi hlt _ [] [] [] (by intro; rfl) (by exact hnil) (by rfl) (by rfl)

theorem Conserved.step (hwf : WellFormed s) {sh : List (Nat × Nat)} (h : Conserved s sh)
    {e : Event} (hs : step cv t s e = some s') (he : e ≠ .stop) :
    Conserved s' (sh ++ dnsShare s e) := by
  intro c
  have hcons : s'.closed.count c + holdCount s' c + (s.opened.map Prod.fst).count c =
      s.closed.count c + holdCount s c + (s'.opened.map Prod.fst).count c +
        ((dnsShare s e).map Prod.snd).count c := by
    cases e with
    | relayUDP | relayDNS => cases hs; simp [holdCount_spawn, Task.held, DnsPc.conn, dnsShare]
    | stop => exact absurd rfl he
    | step i ok =>
      simp only [Redfrog.ProxyClient.step] at hs
      split at hs
      case h_3 src dns pc hti => exact relayDNSStep_conserves hti (hwf.lt_of_some hti) hs c
      case h_4 => cases hs
      all_goals
        rename_i hti
        simp only [dnsShare, hti, List.map_nil, List.count_nil, Nat.add_zero]
      · exact relayUDPStep_conserves hti (hwf.lt_of_some hti) hs c
      · exact readerStep_conserves hti (hwf.lt_of_some hti) hs c
  have := h c
  simp only [List.map_append, List.count_append]
  omega

/-- A `RelayDNS` call past its `Get` stays past it, whatever runs. -/
theorem step_keeps_pastGet (hwf : WellFormed s) {e : Event} (hs : step cv t s e = some s')
    {j : Nat} {k dns : GoString} {pc : DnsPc} (hj : s.tasks j = some (.relayDNS k dns pc))
    (hpc : pc ≠ .convert ∧ pc ≠ .get) :
    ∃ pc', s'.tasks j = some (.relayDNS k dns pc') ∧ pc' ≠ .convert ∧ pc' ≠ .get := by
  have hjn : j ≠ s.nextTask := (hwf.lt_of_some hj).ne
  cases e with
  | relayUDP | relayDNS => cases hs; exact ⟨pc, by simp [Function.update_noteq hjn, hj], hpc⟩
  | stop => cases hs; exact ⟨pc, hj, hpc⟩
  | step i ok =>
    by_cases hji : j = i
    · subst hji
      simp only [Redfrog.ProxyClient.step, hj] at hs
      cases pc with
      | convert => exact absurd rfl hpc.1
      | get => exact absurd rfl hpc.2
      | write c =>
        cases hs
        exact ⟨_, setTask_tasks_same _ _ _, by cases ok <;> exact nofun, by cases ok <;> exact nofun⟩
      | _ =>
        simp only [relayDNSStep] at hs
        (try split at hs) <;> cases hs <;> exact ⟨_, setTask_tasks_same _ _ _, nofun, nofun⟩
    · exact ⟨pc, by rw [(step_frame hwf hs).tasks j hji hjn, hj], hpc⟩

theorem SharesInv.step (hwf : WellFormed s) (hdns : DnsInv s) {sh : List (Nat × Nat)}
    (h : SharesInv s sh) {e : Event} (hs : step cv t s e = some s') :
    SharesInv s' (sh ++ dnsShare s e) := by
  have hold : ∀ x ∈ sh, ∃ src dns pc, s'.tasks x.1 = some (.relayDNS src dns pc) ∧
      pc ≠ .convert ∧ pc ≠ .get ∧ OpenedFor s' src x.2 := fun x hx => by
    obtain ⟨src, dns, pc, hj, hpc₁, hpc₂, ho⟩ := h.sharer x hx
    obtain ⟨pc', hj', hpc'⟩ := step_keeps_pastGet hwf hs hj ⟨hpc₁, hpc₂⟩
    exact ⟨src, dns, pc', hj', hpc'.1, hpc'.2, ho.step hwf hs⟩
  rcases dnsShare_cases s e with h0 | ⟨i, ok, src, dns, c, rfl, hi, hc, h1⟩
  · rw [h0, List.append_nil]
    exact ⟨h.nodup, hold⟩
  · -- the call at its `Get` finds `c`, and has found nothing before
    rw [h1]
    have hs' : s' = s.setTask i (.relayDNS src dns (.write c)) := by
      simpa [Redfrog.ProxyClient.step, hi, relayDNSStep, hc] using hs.symm
    have hfresh : i ∉ sh.map Prod.fst := fun hm => by
      obtain ⟨x, hx, rfl⟩ := List.mem_map.mp hm
      obtain ⟨_, _, _, hj, -, hget, -⟩ := h.sharer x hx
      rw [hi] at hj
      cases hj
      exact hget rfl
    refine ⟨?_, fun x hx => (List.mem_append.mp hx).elim (hold x) fun hx => ?_⟩
    · rw [List.map_append, List.nodup_append]
      exact ⟨h.nodup, List.nodup_singleton _, by simpa using hfresh⟩
    · obtain rfl := List.mem_singleton.mp hx
      exact ⟨src, dns, .write c, by rw [hs']; exact setTask_tasks_same _ _ _, nofun, nofun,
        (hdns.mapOpened src c hc).step hwf hs⟩

theorem dnsShares_cons {e : Event} {es : List Event} (hs : step cv t s e = some s') :
    dnsShares cv t s (e :: es) = dnsShare s e ++ dnsShares cv t s' es := by
  simp [dnsShares, hs]

/-- Along a run without `Stop` from a fresh backend, every socket's closes and
holders count its opens and the times it was found in the table. -/
theorem conserved_of_run {es : List Event} (hes : Event.stop ∉ es)
    (hr : run cv t .init es = some s) : Conserved s (dnsShares cv t .init es) := by
  suffices ∀ {s₀ : BackendState} {sh}, Reachable cv t s₀ → Conserved s₀ sh →
      ∀ {es}, Event.stop ∉ es → run cv t s₀ es = some s → Conserved s (sh ++ dnsShares cv t s₀ es)
    from by simpa using @this .init [] .init (fun _ => rfl) es hes hr
  intro s₀ sh hs h es hes hr
  induction es generalizing s₀ sh with
  | nil => cases hr; simpa [dnsShares] using h
  | cons e es ih =>
    obtain ⟨s₁, hs₁, hr⟩ := Option.bind_eq_some.mp hr
    have he : e ≠ .stop := fun he => hes (he ▸ List.mem_cons_self _ _)
    rw [dnsShares_cons hs₁, ← List.append_assoc]
    exact ih (.step e hs hs₁) (h.step hs.wellFormed hs₁ he)
      (fun hm => hes (List.mem_cons_of_mem _ hm)) hr

/-- Along every run from a fresh backend, the calls that found a socket in
the table found one each, opened for their key. -/
theorem sharesInv_of_run {es : List Event} (hr : run cv t .init es = some s) :
    SharesInv s (dnsShares cv t .init es) := by
  suffices ∀ {s₀ : BackendState} {sh}, Reachable cv t s₀ → SharesInv s₀ sh →
      ∀ {es}, run cv t s₀ es = some s → SharesInv s (sh ++ dnsShares cv t s₀ es)
    from by simpa using @this .init [] .init ⟨List.nodup_nil, nofun⟩ es hr
  intro s₀ sh hs h es hr
  induction es generalizing s₀ sh with
  | nil => cases hr; simpa [dnsShares] using h
  | cons e es ih =>
    obtain ⟨s₁, hs₁, hr⟩ := Option.bind_eq_some.mp hr
    rw [dnsShares_cons hs₁, ← List.append_assoc]
    exact ih (.step e hs hs₁) (h.step hs.wellFormed hs.dnsInv hs₁) hr

end Once

/-- A socket no `RelayDNS` call opened was never found in the table. -/
theorem count_dnsShares_eq_zero {es : List Event} (hr : run cv t .init es = some s) {c : Nat}
    (hc : ∀ k, ¬OpenedFor s k c) : ((dnsShares cv t .init es).map Prod.snd).count c = 0 :=
  List.count_eq_zero.mpr fun hm => by
    obtain ⟨x, hx, rfl⟩ := List.mem_map.mp hm
    obtain ⟨src, -, -, -, -, -, ho⟩ := (sharesInv_of_run hr).sharer x hx
    exact hc src ho

/-- In a run without `Stop`, a socket has been closed, or is still held, once
for its opening and once for each time it was found in the table. -/
theorem count_closed_of_run {es : List Event} (hes : Event.stop ∉ es)
    (hr : run cv t .init es = some s) {c j : Nat} (ho : (c, j) ∈ s.opened) :
    s.closed.count c + holdCount s c = ((dnsShares cv t .init es).map Prod.snd).count c + 1 := by
  have hopen : (s.opened.map Prod.fst).count c = 1 :=
    List.count_eq_one_of_mem (reachable_of_run _ _ .init hr).wellFormed.openedNodup
      (List.mem_map_of_mem _ ho)
  have := conserved_of_run hes hr c
  omega

/-! ### Each socket of the UDP path is closed once -/

/-- In every run without `Stop`, however `RelayUDPData` calls, their readers
and `RelayDNS` calls interleave, no socket that `RelayUDPData` opened is
closed twice; once every goroutine has returned, each is closed exactly once. -/
theorem udp_sockets_closed_once {es : List Event} (hes : Event.stop ∉ es)
    (hr : run cv t .init es = some s) {c j : Nat} {src dst : GoString} {pc : UdpPc}
    (ho : (c, j) ∈ s.opened) (hj : s.tasks j = some (.relayUDP src dst pc)) :
    s.closed.count c ≤ 1 ∧
      ((∀ i tk, s.tasks i = some tk → tk.Finished) → s.closed.count c = 1) := by
  have hs := reachable_of_run _ _ .init hr
  have hwf := hs.wellFormed
  have hc : ∀ k, ¬OpenedFor s k c := fun k ⟨j', dns, pc', ho', hj'⟩ => by
    rw [hwf.opener_unique ho ho', hj'] at hj
    cases hj
  have hcount := count_closed_of_run hes hr ho
  have hshare := count_dnsShares_eq_zero hr hc
  refine ⟨by omega, fun hdone => ?_⟩
  have hheld : holdCount s c = 0 := heldBelow_eq_zero hdone c
  omega

theorem udp_sockets_closed_once_quietRun :
    ∃ s, run sampleConvert 60000000000 .init quietRun = some s ∧ Event.stop ∉ quietRun ∧
      (0, 0) ∈ s.opened ∧ s.tasks 0 = some (.relayUDP sampleClient sampleTarget .done) ∧
      (s.closed.count 0 ≤ 1 ∧
        ((∀ i tk, s.tasks i = some tk → tk.Finished) → s.closed.count 0 = 1)) := by
  have hes : Event.stop ∉ quietRun := by simp [quietRun]
  exact ⟨_, rfl, hes, by decide, rfl,
    @udp_sockets_closed_once sampleConvert 60000000000 _ quietRun hes rfl 0 0 _ _ _ (by decide) rfl⟩

/-! ### Each socket of the DNS path is closed once per call -/

end Redfrog.ProxyClient
