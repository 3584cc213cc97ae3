import TokenBridge.Proofs.Creation

/-!
# Where the tokens of a bridge belong

Every token belongs to a class that the bridge knows, and every class is kept
under its name (`classed_after`). As long as no packet has arrived there is
nothing on a chain but what was made there, and so every class has been created
there and every name is one that was checked (`homegrown_after`). What happens to
packets of which the chain is the sender does not matter: a refund can make a
token again, but only one that was burned, and nothing is burned where it was
made.
-/

namespace TokenBridge

open Store

variable {bridge : Address} {s u : Store Entry} {d : Deed} {past : List Turn}

/-! ## Tokens and their classes -/

/-- **What holds of the tokens and their classes.** -/
structure Classed (s : Store Entry) : Prop where
  /-- A class is kept under its name. -/
  named : ∀ {id c}, s.class? id = some c → c.id = id
  /-- The class of a token is known. -/
  known : ∀ {classId tokenId token}, s.token? classId tokenId = some token →
    ∃ c, s.class? classId = some c

namespace Classed

theorem empty : Classed .empty where
  named h := by simp at h
  known h := by simp at h

/-- **Every deed keeps the classes of all tokens known.** -/
theorem of_does (h : d.Does bridge s u) (hsound : Sound s) (hs : Classed s) : Classed u where
  named := by
    intro id c hc
    obtain heq | ⟨c', -, hid, -, hu⟩ := h.class? id
    · exact hs.named (heq ▸ hc)
    · obtain rfl := Option.some.inj (hu.symm.trans hc)
      exact hid
  known := by
    intro classId tokenId token ht
    suffices hc : ∃ c, s.class? classId = some c from hc.imp fun c hc => h.class?_of_some hc
    cases hbefore : s.token? classId tokenId with
    | some before => exact hs.known hbefore
    | none =>
      obtain ⟨minter, rfl⟩ | ⟨arrival, inner, c, tokens, rfl, rfl, -⟩
        | ⟨channel, n, p, rfl, -, rfl, -⟩ := h.made hbefore ht
      · obtain ⟨⟨c, hc, -⟩, -⟩ := h
        exact ⟨c, hc⟩
      · obtain ⟨hc, -⟩ := h
        exact ⟨c, by rw [hs.named hc, hc]⟩
      · obtain ⟨hp, -⟩ := h
        exact (hsound.custody hp).imp fun c hc => hc.1

end Classed

/-- **A bridge knows the classes of its tokens.** -/
theorem classed_after (past : List Turn) : Classed (storeAfter bridge past) := by
  -- the class of a token that a refund makes again is known because the store is sound
  suffices h : Sound (storeAfter bridge past) ∧ Classed (storeAfter bridge past) from h.2
  induction past with
  | nil => exact ⟨.empty, .empty⟩
  | cons turn past ih =>
    refine turn.keeps (P := fun s => Sound s ∧ Classed s) ?_ ih
    exact fun h _ hs => ⟨hs.1.of_does h, hs.2.of_does h hs.1⟩

/-! ## Before anything has arrived -/

/-- **What holds of a chain** on which nothing has arrived. -/
structure Homegrown (s : Store Entry) : Prop where
  /-- Its classes were created there, under names that are not empty. -/
  native : ∀ {id c}, s.class? id = some c → c.origin = .native ∧ id ≠ ""
  /-- Its tokens have names that are not empty. -/
  named : ∀ {classId tokenId token}, s.token? classId tokenId = some token → tokenId ≠ ""

namespace Homegrown

theorem empty : Homegrown .empty where
  native h := by simp at h
  named h := by simp at h

/-- **A deed keeps a chain homegrown** if no class and no tokens arrive. -/
theorem of_does (h : d.Does bridge s u) (hwrapped : ∀ arrival inner c, d ≠ .wrapped arrival inner c)
    (hissued : ∀ arrival inner c tokens owner, d ≠ .issued arrival inner c tokens owner)
    (hsound : Sound s) (hs : Homegrown s) : Homegrown u where
  native := by
    intro id c hc
    obtain heq | ⟨c', rfl | ⟨arrival, inner, rfl⟩, rfl, -, hu⟩ := h.class? id
    · exact hs.native (heq ▸ hc)
    · obtain rfl := Option.some.inj (hu.symm.trans hc)
      obtain ⟨-, hcheck, -, hnative, -⟩ := h
      exact ⟨hnative, (TokenClass.of_checkId hcheck).1⟩
    · exact absurd rfl (hwrapped _ _ _)
  named := by
    intro classId tokenId token ht
    cases hbefore : s.token? classId tokenId with
    | some before => exact hs.named hbefore
    | none =>
      obtain ⟨minter, rfl⟩ | ⟨arrival, inner, c, tokens, rfl, -⟩
        | ⟨channel, n, p, rfl, hburned, -⟩ := h.made hbefore ht
      · obtain ⟨-, hne, -⟩ := h
        exact hne
      · exact absurd rfl (hissued _ _ _ _ _)
      -- nothing is ever burned on the chain where it was made
      · obtain ⟨hp, -⟩ := h
        obtain ⟨c, hc, hcustody⟩ := hsound.custody hp
        have horigin := SendOrder.custodyOf_eq_burned_iff.mp (hcustody.symm.trans hburned)
        cases (hs.native hc).1.symm.trans horigin

end Homegrown

/-- **A chain on which nothing has arrived is homegrown.** -/
theorem homegrown_after (h : ∀ turn ∈ past, ∀ packet, turn.call ≠ .arrived packet) :
    Homegrown (storeAfter bridge past) := by
  suffices h : Sound (storeAfter bridge past) ∧ Homegrown (storeAfter bridge past) from h.2
  induction past with
  | nil => exact ⟨.empty, .empty⟩
  | cons turn past ih =>
    obtain ⟨hturn, hpast⟩ := List.forall_mem_cons.mp h
    refine turn.keeps (P := fun s => Sound s ∧ Homegrown s) ?_ (ih hpast)
    intro s u d h hoccasion hs
    refine ⟨hs.1.of_does h, hs.2.of_does h ?_ ?_ hs.1⟩
    · rintro arrival inner c rfl
      obtain ⟨packet, hcall, -⟩ := hoccasion
      exact hturn packet hcall
    · rintro arrival inner c tokens owner rfl
      obtain ⟨packet, hcall, -⟩ := hoccasion
      exact hturn packet hcall

end TokenBridge
