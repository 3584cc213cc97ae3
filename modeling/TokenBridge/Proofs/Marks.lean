import TokenBridge.Proofs.Operations
import TokenBridge.Proofs.Shelves

/-!
# The marks of packets

The close of a channel has to find the packets that are pending on it, and
it finds them by their marks, which stand on a shelf of their own. So it
drains each packet that is marked, and no others, and its report names
them: no packet is lost on the way, and none is named that was not pending
(`Channel.drain_reports`, `Channel.requestClose_reports`).
-/

namespace TokenBridge

open Program Store

section

variable {s u : Store Entry}

/-- **Whether the packets that are pending on a channel can be found** depends on
its name alone. -/
theorem Table.pendingOn_cases (channel : String) :
    (∀ s, ∃ sequences, (Table.pendingOn channel).Yields s sequences s)
      ∨ ∀ s, (Table.pendingOn channel).Fails s (.abort .longKey) s := by
  simp only [Table.pendingOn, Table.scan]
  split
  · exact .inl fun s => ⟨_, rfl⟩
  · exact .inr fun s => rfl

end

/-! ## Closing -/

namespace Channel

variable {s u : Store Entry} {bridge : Address} {id : String} {drained : Drained} {n : UInt64}

/-- Draining a packet reports it, and nothing else that was not reported
before. -/
theorem drainOne_reports {before : Drained} {sequence : UInt64}
    (h : (drainOne bridge id before sequence).Yields s drained u) :
    n ∈ drained.refunded ++ drained.stuck
      ↔ n = sequence ∨ n ∈ before.refunded ++ before.stuck := by
  simp only [drainOne, yields_bind, Shipment.yields_find] at h
  obtain ⟨p, _, -, r, m, -, h⟩ := h
  split at h
  · obtain ⟨rfl, -⟩ := yields_pure.mp h
    simp only [List.mem_append, List.mem_singleton]
    grind
  · obtain ⟨rfl, -⟩ := yields_pure.mp h
    simp only [List.mem_append, List.mem_singleton]
    grind
  · exact absurd h yields_abort

/-- **Draining a channel reports the packets that are marked as pending** on
it. -/
theorem drain_reports (hs : s.Keyed) (h : (drain bridge id).Yields s drained u) :
    n ∈ drained.refunded ++ drained.stuck ↔ s.look (.pending id n) ≠ none := by
  simp only [drain, yields_bind] at h
  obtain ⟨sequences, m, hm, h⟩ := h
  rw [← (Table.of_yields_pendingOn hs hm).1 n]
  -- what was reported at first counts as well, until the end
  have loop {before : Drained} {sequences : List UInt64} {m : Store Entry}
      (h : (sequences.foldlM (drainOne bridge id) before).Yields m drained u) :
      n ∈ drained.refunded ++ drained.stuck
        ↔ n ∈ sequences ∨ n ∈ before.refunded ++ before.stuck := by
    induction sequences generalizing m before with
    | nil =>
      obtain ⟨rfl, -⟩ := yields_foldlM_nil.mp h
      simp
    | cons sequence sequences ih =>
      obtain ⟨between, m', hm, hrest⟩ := yields_foldlM_cons.mp h
      rw [ih hrest, drainOne_reports hm, List.mem_cons, or_left_comm, or_assoc]
  simpa using loop h

/-- **Closing a channel reports packets that are marked as pending** on it, and
no others. -/
theorem requestClose_reports (hs : s.Keyed) (h : (requestClose bridge id).Yields s drained u)
    (hn : n ∈ drained.refunded ++ drained.stuck) : s.look (.pending id n) ≠ none := by
  have hentered (m : Store Entry) (e : Entry) :
      ChangedOnly (· = .channel id) m (m.keep (.channel id) e) := .keep rfl
  simp only [requestClose, yields_bind, yields_find] at h
  obtain ⟨channel, _, ⟨-, rfl⟩, h⟩ := h
  split at h
  · obtain ⟨rfl, -⟩ := yields_pure.mp h
    simp at hn
  · exact (drain_reports hs h).mp hn
  · simp only [yields_bind, yields_enter] at h
    obtain ⟨_, m, rfl, h⟩ := h
    have hlook := (drain_reports (hs.of_changedOnly (hentered _ _)) h).mp hn
    rwa [(hentered _ _).look (by simp)] at hlook

theorem confirmClose_reports (hs : s.Keyed) (h : (confirmClose bridge id).Yields s drained u)
    (hn : n ∈ drained.refunded ++ drained.stuck) : s.look (.pending id n) ≠ none := by
  simp only [confirmClose, yields_bind, yields_find] at h
  obtain ⟨drained', m, hm, channel, _, -, h⟩ := h
  obtain rfl : drained = drained' := by
    split at h
    · simp only [yields_bind, yields_pure] at h
      obtain ⟨_, _, -, rfl, -⟩ := h
      rfl
    · exact (yields_pure.mp h).1
  exact requestClose_reports hs hm hn

end Channel

end TokenBridge
