import Redfrog.ProxyClient.NatMachine

/-!
# The UDP NAT table under concurrency

`RelayUDPData` looks a flow up with `udpNatMap.Get` and, on a miss, opens a
socket pair and spawns a reader goroutine, which adds the entry itself before
it starts copying and deletes the key when it stops. The lookup and the add
are separate atomic steps on different goroutines, so two datagrams of one
flow that arrive together both miss, both open a socket pair and both spawn a
reader; the readers then add and delete one key, each removing what the other
added.

What does hold in every run is that an entry in the table belongs to a live
reader of its key, past its `Add` and before its `Del` (`UdpOwned`).
-/

namespace Redfrog.ProxyClient

open Go BackendState

variable {cv : GoString → Except GoError Bytes} {t : Int} {s s' : BackendState}

/-- Each entry in `udpNatMap` belongs to a reader of its key that has added
it and has not yet deleted it. -/
def UdpOwned (s : BackendState) : Prop :=
  ∀ k e, s.udpNatMap.lookup k = some e →
    ∃ j, s.tasks j = some (.reader k e .copy) ∨ s.tasks j = some (.reader k e .del)

/-- An owner other than the task that steps still owns its entry. -/
private theorem owner_kept {i j : Nat} {k : GoString} {e : UdpProxyEntry} (hwf : WellFormed s)
    (hf : TaskFrame s s' i) (hji : j ≠ i)
    (hj : s.tasks j = some (.reader k e .copy) ∨ s.tasks j = some (.reader k e .del)) :
    s'.tasks j = some (.reader k e .copy) ∨ s'.tasks j = some (.reader k e .del) := by
  have hjn : j ≠ s.nextTask := by rcases hj with hj | hj <;> exact (hwf.lt_of_some hj).ne
  rwa [hf.tasks j hji hjn]

/-- A step that keeps `udpNatMap` and does not move a reader keeps the owners. -/
private theorem UdpOwned.of_frame {i : Nat} (hwf : WellFormed s) (h : UdpOwned s)
    (hf : TaskFrame s s' i) (hmap : s'.udpNatMap = s.udpNatMap)
    (hi : ∀ k e pc, s.tasks i ≠ some (.reader k e pc)) : UdpOwned s' := by
  intro k e hk
  obtain ⟨j, hj⟩ := h k e (hmap ▸ hk)
  exact ⟨j, owner_kept hwf hf (by rintro rfl; rcases hj with hj | hj <;> exact hi _ _ _ hj) hj⟩

/-- A reader's own steps keep the owners: its `Add` makes it the owner of its
key, its `Del` removes the key it owned. -/
private theorem UdpOwned.readerStep {i : Nat} {key : GoString} {e : UdpProxyEntry}
    {pc : ReaderPc} (hwf : WellFormed s) (h : UdpOwned s)
    (hi : s.tasks i = some (.reader key e pc)) (hs : readerStep s i key e pc = some s') :
    UdpOwned s' := by
  obtain ⟨-, hf, hcases⟩ := readerStep_spec (hwf.lt_of_some hi) hs
  intro k e' hk
  rcases hcases with ⟨rfl, hmap, hti⟩ | ⟨rfl, hmap, hti⟩ | ⟨rfl, hmap, hti⟩ | ⟨rfl, hmap, hti⟩
  -- `Add`
  · by_cases hkey : k = key
    · subst hkey
      rw [hmap, AList.lookup_insert, Option.some.injEq] at hk
      exact ⟨i, .inl (hk ▸ hti)⟩
    · rw [hmap, AList.lookup_insert_ne hkey] at hk
      obtain ⟨j, hj⟩ := h k e' hk
      exact ⟨j, owner_kept hwf hf (by rintro rfl; rcases hj with hj | hj <;> simp_all) hj⟩
  -- the copy loop ends
  · obtain ⟨j, hj⟩ := h k e' (hmap ▸ hk)
    by_cases hji : j = i
    · subst hji
      have hke : key = k ∧ e = e' := by rcases hj with hj | hj <;> rw [hi] at hj <;> simp_all
      exact ⟨j, .inr (by rw [hti, hke.1, hke.2])⟩
    · exact ⟨j, owner_kept hwf hf hji hj⟩
  -- `Del`
  · have hkey : k ≠ key := by rintro rfl; simp [hmap, AList.lookup_erase] at hk
    rw [hmap, AList.lookup_erase_ne hkey] at hk
    obtain ⟨j, hj⟩ := h k e' hk
    exact ⟨j, owner_kept hwf hf (by rintro rfl; rcases hj with hj | hj <;> simp_all) hj⟩
  -- the sockets are closed
  · obtain ⟨j, hj⟩ := h k e' (hmap ▸ hk)
    exact ⟨j, owner_kept hwf hf (by rintro rfl; rcases hj with hj | hj <;> simp_all) hj⟩

theorem UdpOwned.step (hwf : WellFormed s) (h : UdpOwned s) {e : Event}
    (hs : step cv t s e = some s') : UdpOwned s' := by
  cases e with
  | relayUDP src dst | relayDNS src dst =>
    cases hs
    intro k e hk
    obtain ⟨j, hj⟩ := h k e hk
    have hne : j ≠ s.nextTask := by rcases hj with hj | hj <;> exact (hwf.lt_of_some hj).ne
    exact ⟨j, by simpa [Function.update_noteq hne] using hj⟩
  | stop => cases hs; exact h
  | step i ok =>
    have hf := step_frame hwf hs
    simp only [Redfrog.ProxyClient.step] at hs
    split at hs
    · rename_i hti
      exact h.of_frame hwf hf (relayUDPStep_spec (hwf.lt_of_some hti) hs).1 (by simp [hti])
    · exact h.readerStep hwf ‹_› hs
    · rename_i hti
      exact h.of_frame hwf hf (relayDNSStep_spec (hwf.lt_of_some hti) hs).1 (by simp [hti])
    · cases hs

/-- Two datagrams of one flow whose handlers both pass `Get` before either
reader has added its entry: both open a socket pair and spawn a reader, and
the first reader's `Del` removes the entry the second one added while the
second still runs. -/
theorem relayUDPData_duplicate_readers :
    ∃ s, Reachable sampleConvert 60000000000 s ∧
      s.tasks 2 = some (.reader (computeUDPKey sampleClient sampleTarget)
        ⟨1, 0, sampleClient, [1, 8, 8, 8, 8, 0, 53], 60000000000⟩ .close) ∧
      s.tasks 3 = some (.reader (computeUDPKey sampleClient sampleTarget)
        ⟨3, 2, sampleClient, [1, 8, 8, 8, 8, 0, 53], 60000000000⟩ .copy) ∧
      s.udpNatMap.lookup (computeUDPKey sampleClient sampleTarget) = none :=
  @exists_reachable_of_run sampleConvert 60000000000 [.relayUDP sampleClient sampleTarget,
    .relayUDP sampleClient sampleTarget, .step 0 true, .step 1 true, .step 0 true, .step 0 true,
    .step 0 true, .step 1 true, .step 1 true, .step 1 true, .step 2 true, .step 3 true,
    .step 2 true, .step 2 true] _ _ (by decide)

end Redfrog.ProxyClient
