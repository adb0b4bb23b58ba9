import Redfrog.Go.Basic

/-!
# Leaky buffer pools

`common.LeakyBuffer` is defined in the `common` package, outside the proxy
client, and is modelled here from the behaviour the spec (§4.2) gives it: a
pool of `S`-byte buffers whose `Get` never blocks, returning a fresh buffer
when the pool is empty, and whose `Put` drops the buffer when the pool is
full. The code's obligations towards a pool concern only who holds a buffer
and when, so a buffer is tracked as a token: the `Get` that draws it, every
read or write of its bytes, and the `Put` that returns it.

`Disciplined` is the law the spec's §5 asks of every caller: each buffer drawn
is returned exactly once, to its own pool, and is touched only while held. It
is decided by running one small automaton per buffer, and it survives any
interleaving of traces that share no buffer, which is how the UDP listener
loop and the handlers it spawns run.
-/

namespace Redfrog.Common

/-- The pools a datagram's buffers come from. -/
inductive Pool where
  /-- `ProxyClient.udpBuffer_`, also the pool `RelayUDPData` borrows from. -/
  | udpBuffer
  /-- `ProxyClient.udpOOBBuffer_`. -/
  | udpOOBBuffer
  /-- The pool handed to `RelayDNS` by its caller. -/
  | dnsBuffer
  deriving DecidableEq, Repr

/-- One access to a pool buffer, in program order. A buffer is named by the
`Get` that drew it. -/
inductive BufEvent where
  | get (pool : Pool) (buf : Nat)
  | put (pool : Pool) (buf : Nat)
  /-- The code reads or writes the buffer's bytes. -/
  | use (buf : Nat)
  deriving DecidableEq, Repr

/-- The buffer an event concerns. -/
def BufEvent.buf : BufEvent → Nat
  | .get _ b | .put _ b | .use b => b

/-- Where a buffer is in its life. -/
inductive Phase where
  | unborn
  | held (pool : Pool)
  | returned
  | misused
  deriving DecidableEq, Repr

/-- The phase of buffer `b` after one more event. -/
def Phase.next (b : Nat) (ph : Phase) (ev : BufEvent) : Phase :=
  if ev.buf = b then
    match ph, ev with
    | .unborn, .get p _ => .held p
    | .held p, .use _ => .held p
    | .held p, .put p' _ => if p' = p then .returned else .misused
    | _, _ => .misused
  else ph

/-- The phase of buffer `b` at the end of a trace. -/
def phaseOf (b : Nat) (tr : List BufEvent) : Phase := tr.foldl (Phase.next b) .unborn

/-- Every buffer a trace mentions is drawn once, touched only while held, and
put back exactly once to the pool it came from. -/
def Disciplined (tr : List BufEvent) : Prop :=
  ∀ b ∈ tr.map BufEvent.buf, phaseOf b tr = .returned

instance (tr : List BufEvent) : Decidable (Disciplined tr) :=
  inferInstanceAs (Decidable (∀ b ∈ tr.map BufEvent.buf, phaseOf b tr = .returned))

/-! ### Other buffers' events do not matter -/

private theorem foldl_next_filter (b : Nat) (ph : Phase) (tr : List BufEvent) :
    (tr.filter (·.buf = b)).foldl (Phase.next b) ph = tr.foldl (Phase.next b) ph := by
  induction tr generalizing ph with
  | nil => rfl
  | cons ev tr ih =>
    by_cases h : ev.buf = b
    · simp [List.filter_cons, h, ih]
    · simp [List.filter_cons, h, ih, Phase.next]

theorem phaseOf_filter (b : Nat) (tr : List BufEvent) :
    phaseOf b (tr.filter (·.buf = b)) = phaseOf b tr :=
  foldl_next_filter b .unborn tr

/-- `m` is some interleaving of the traces `l` and `r`. -/
inductive Interleaving {α : Type} : List α → List α → List α → Prop
  | nil : Interleaving [] [] []
  | left {m l r : List α} (x : α) : Interleaving m l r → Interleaving (x :: m) (x :: l) r
  | right {m l r : List α} (x : α) : Interleaving m l r → Interleaving (x :: m) l (x :: r)

theorem Interleaving.mem {α : Type} {m l r : List α} (h : Interleaving m l r) {x : α} :
    x ∈ m ↔ x ∈ l ∨ x ∈ r := by
  induction h with
  | nil => simp
  | left y _ ih => simp [ih, or_assoc]
  | right y _ ih => simp [ih, or_left_comm]

theorem Interleaving.symm {α : Type} {m l r : List α} (h : Interleaving m l r) :
    Interleaving m r l := by
  induction h with
  | nil => exact .nil
  | left x _ ih => exact .right x ih
  | right x _ ih => exact .left x ih

/-- A trace alone is an interleaving of itself and nothing. -/
theorem Interleaving.self_nil {α : Type} (l : List α) : Interleaving l l [] := by
  induction l with
  | nil => exact .nil
  | cons x l ih => exact .left x ih

private theorem Interleaving.filter_left {m l r : List BufEvent} (h : Interleaving m l r)
    {b : Nat} (hr : ∀ ev ∈ r, ev.buf ≠ b) :
    m.filter (·.buf = b) = l.filter (·.buf = b) := by
  induction h with
  | nil => rfl
  | left x _ ih => simp [List.filter_cons, ih hr]
  | right x _ ih =>
    simp only [List.mem_cons, forall_eq_or_imp] at hr
    simp [List.filter_cons, hr.1, ih hr.2]

/-- Concurrent code that shares no buffer keeps the discipline of each part. -/
theorem Disciplined.interleaving {m l r : List BufEvent} (h : Interleaving m l r)
    (hl : Disciplined l) (hr : Disciplined r)
    (hdisj : ∀ b ∈ l.map BufEvent.buf, b ∉ r.map BufEvent.buf) : Disciplined m := by
  intro b hb
  obtain ⟨ev, hev, rfl⟩ := List.mem_map.mp hb
  rcases h.mem.mp hev with hel | her
  · have hnot : ∀ e ∈ r, e.buf ≠ ev.buf := fun e he heq =>
      hdisj _ (List.mem_map_of_mem _ hel) (heq ▸ List.mem_map_of_mem _ he)
    rw [← phaseOf_filter, h.filter_left hnot, phaseOf_filter]
    exact hl _ (List.mem_map_of_mem _ hel)
  · have hnot : ∀ e ∈ l, e.buf ≠ ev.buf := fun e he heq =>
      hdisj _ (List.mem_map_of_mem _ he) (heq ▸ List.mem_map_of_mem _ her)
    rw [← phaseOf_filter, h.symm.filter_left hnot, phaseOf_filter]
    exact hr _ (List.mem_map_of_mem _ her)

/-- `m` is an interleaving of all the traces `ts`. -/
inductive Merge : List (List BufEvent) → List BufEvent → Prop
  | nil : Merge [] []
  | cons {t m m' : List BufEvent} {ts : List (List BufEvent)} :
      Merge ts m → Interleaving m' t m → Merge (t :: ts) m'

theorem Merge.mem {ts : List (List BufEvent)} {m : List BufEvent} (h : Merge ts m)
    {ev : BufEvent} : ev ∈ m ↔ ∃ t ∈ ts, ev ∈ t := by
  induction h with
  | nil => simp
  | cons _ hi ih => simp [hi.mem, ih]

/-- Any number of concurrent tasks that share no buffer keep the discipline
of each. -/
theorem Disciplined.merge {ts : List (List BufEvent)} {m : List BufEvent} (h : Merge ts m)
    (hts : ∀ t ∈ ts, Disciplined t)
    (hdisj : ts.Pairwise fun t t' => ∀ b ∈ t.map BufEvent.buf, b ∉ t'.map BufEvent.buf) :
    Disciplined m := by
  induction h with
  | nil => intro b hb; simp at hb
  | @cons t m m' ts hts' hi ih =>
    rw [List.pairwise_cons] at hdisj
    refine Disciplined.interleaving hi (hts t (List.mem_cons_self _ _))
      (ih (fun t' ht' => hts t' (List.mem_cons_of_mem _ ht')) hdisj.2) fun b hb hbm => ?_
    obtain ⟨ev, hev, rfl⟩ := List.mem_map.mp hbm
    obtain ⟨t', ht', hevt'⟩ := hts'.mem.mp hev
    exact hdisj.1 t' ht' _ hb (List.mem_map_of_mem _ hevt')

/-- The event with its buffer renamed by `f`. -/
def BufEvent.rename (f : Nat → Nat) : BufEvent → BufEvent
  | .get p b => .get p (f b)
  | .put p b => .put p (f b)
  | .use b => .use (f b)

@[simp] theorem BufEvent.buf_rename (f : Nat → Nat) (ev : BufEvent) :
    (ev.rename f).buf = f ev.buf := by
  cases ev <;> rfl

theorem Phase.next_rename {f : Nat → Nat} (hf : Function.Injective f) (b : Nat) (ph : Phase)
    (ev : BufEvent) : Phase.next (f b) ph (ev.rename f) = Phase.next b ph ev := by
  simp only [Phase.next, BufEvent.buf_rename, hf.eq_iff]
  split_ifs <;> cases ev <;> cases ph <;> rfl

/-- Naming buffers apart keeps the discipline. -/
theorem Disciplined.rename {f : Nat → Nat} (hf : Function.Injective f) {tr : List BufEvent}
    (h : Disciplined tr) : Disciplined (tr.map (BufEvent.rename f)) := by
  intro b hb
  simp only [List.map_map, List.mem_map, Function.comp_apply, BufEvent.buf_rename] at hb
  obtain ⟨ev, hev, rfl⟩ := hb
  rw [phaseOf, List.foldl_map]
  simp only [Phase.next_rename hf]
  exact h _ (List.mem_map_of_mem _ hev)

/-- A buffer drawn, used any number of times and returned by a deferred `Put`. -/
theorem disciplined_bracket (p : Pool) (b k : Nat) :
    Disciplined (.get p b :: List.replicate k (.use b) ++ [.put p b]) := by
  have hheld : ∀ j, (List.replicate j (BufEvent.use b)).foldl (Phase.next b) (.held p) =
      .held p := by
    intro j
    induction j with
    | zero => rfl
    | succ j ih => simp [List.replicate_succ, Phase.next, ih]
  intro b' hb'
  obtain rfl : b' = b := by simp [BufEvent.buf] at hb'; tauto
  simp [phaseOf, Phase.next, BufEvent.buf, hheld]

end Redfrog.Common
