import TokenBridge.Acknowledging
import TokenBridge.Closing
import TokenBridge.Proofs.Yields
import TokenBridge.Proofs.Lookup

/-!
# What a program leaves alone

A program that neither reads nor writes under a key cannot tell what stands
there. It takes the same way whatever that is, has the same result, and at
its end the same still stands under the key (`Bridge.Avoids.yields_keep_iff`).

So what is kept under such a key can be kept before the program or after it.
Two things are kept before packets are settled, and settling looks at neither of them
(`Shipment.avoids_settle`): the phase that a channel enters when it is closed, and the
acknowledgement of a packet, which is noted first.
-/

namespace TokenBridge

namespace Program

variable {V ε α β : Type} {b : Bytes}

/-- **Whether a program leaves the value under some octets alone.** A program
that goes through a window may come across it. -/
def Avoids (b : Bytes) : Program V ε α → Prop
  | .done _ => True
  | .fail _ => True
  | .get key next => key ≠ b ∧ ∀ value, (next value).Avoids b
  | .set key _ next => key ≠ b ∧ next.Avoids b
  | .remove key next => key ≠ b ∧ next.Avoids b
  | .range _ _ => False

theorem Avoids.bind {p : Program V ε α} {f : α → Program V ε β} (hp : p.Avoids b)
    (hf : ∀ a, (f a).Avoids b) : (p >>= f).Avoids b := by
  show (p.bind f).Avoids b
  induction p with
  | done a => exact hf a
  | fail => trivial
  | get key next ih => exact ⟨hp.1, fun value => ih value (hp.2 value)⟩
  | set key value next ih => exact ⟨hp.1, ih hp.2⟩
  | remove key next ih => exact ⟨hp.1, ih hp.2⟩
  | range => exact hp.elim

/-- **What stands under octets that a program leaves alone** is no matter to
it. -/
theorem Avoids.run_insert [Blank V] {p : Program V ε α} (h : p.Avoids b) (s : Store V)
    (value : V) : p.run (s.insert b value) = ((p.run s).1, (p.run s).2.insert b value) := by
  induction p generalizing s with
  | done => rfl
  | fail => rfl
  | get key next ih =>
    simp only [run, Store.get?_insert, if_neg h.1]
    exact ih _ (h.2 _) s
  | set key other next ih =>
    have hswap : (s.insert b value).insert key other = (s.insert key other).insert b value := by
      refine Store.ext_get? fun k => ?_
      simp only [Store.get?_insert]
      grind [h.1]
    simp only [run, hswap]
    split
    · rfl
    · exact ih h.2 _
  | remove key next ih =>
    have hswap : (s.insert b value).erase key = (s.erase key).insert b value := by
      refine Store.ext_get? fun k => ?_
      simp only [Store.get?_insert, Store.get?_erase]
      grind [h.1]
    simp only [run, hswap]
    exact ih h.2 _
  | range => exact h.elim

/-- A program does not change what it leaves alone. -/
theorem Avoids.get?_run [Blank V] {p : Program V ε α} (h : p.Avoids b) (s : Store V) :
    (p.run s).2.get? b = s.get? b := by
  induction p generalizing s with
  | done => rfl
  | fail => rfl
  | get key next ih => exact ih _ (h.2 _) s
  | set key value next ih =>
    simp only [run]
    split
    · rfl
    · rw [ih h.2, Store.get?_insert, if_neg (Ne.symm h.1)]
  | remove key next ih =>
    simp only [run]
    rw [ih h.2, Store.get?_erase, if_neg (Ne.symm h.1)]
  | range => exact h.elim

end Program

/-! ## Programs of a bridge -/

namespace Bridge

open Program Store

variable {α β κ : Type} {k : Key} {s u : Store Entry} {e : Entry} {a : α}

/-- **Whether a program of a bridge leaves a key alone.** -/
def Avoids (k : Key) (p : Bridge α) : Prop := ∀ b, k.encode? = some b → Program.Avoids b p

/-- **What is kept under a key that a program leaves alone** can be kept before
it or after it, whether the program comes to its end or fails. -/
theorem Avoids.run_keep {p : Bridge α} (h : Avoids k p) (s : Store Entry) :
    p.run (s.keep k e) = ((p.run s).1, (p.run s).2.keep k e) := by
  simp only [keep]
  cases hk : k.encode? with
  | none => rfl
  | some b => exact (h b hk).run_insert s e

/-- The entry under a key that a program leaves alone stays there. -/
theorem Avoids.look_run {p : Bridge α} (h : Avoids k p) (s : Store Entry) :
    (p.run s).2.look k = s.look k := by
  simp only [look]
  cases hk : k.encode? with
  | none => rfl
  | some b => exact (h b hk).get?_run s

theorem Avoids.yields_keep_iff {p : Bridge α} (h : Avoids k p) :
    p.Yields (s.keep k e) a u ↔ ∃ m, p.Yields s a m ∧ u = m.keep k e := by
  simp only [Yields, h.run_keep]
  rcases p.run s with ⟨r, m⟩
  simp only [Prod.mk.injEq]
  constructor
  · rintro ⟨rfl, rfl⟩
    exact ⟨m, ⟨rfl, rfl⟩, rfl⟩
  · rintro ⟨_, ⟨rfl, rfl⟩, rfl⟩
    exact ⟨rfl, rfl⟩

theorem Avoids.bind {p : Bridge α} {f : α → Bridge β} (hp : Avoids k p)
    (hf : ∀ a, Avoids k (f a)) : Avoids k (p >>= f) :=
  fun b hb => (hp b hb).bind fun a => hf a b hb

theorem avoids_pure : Avoids k (pure a) := fun _ _ => trivial

theorem avoids_throw {fault : Fault} : Avoids k (throw fault : Bridge α) := fun _ _ => trivial

theorem avoids_ofOption {fault : Fault} {o : Option α} : Avoids k (ofOption fault o) := by
  intro b _
  cases o <;> trivial

theorem avoids_forM {is : List α} {f : α → Bridge Unit} (h : ∀ i, Avoids k (f i)) :
    Avoids k (forM is f) := by
  induction is with
  | nil => exact avoids_pure
  | cons i is ih => exact .bind (h i) fun _ => ih

variable {t : Table κ α} {i : κ}

/-- The octets of other keys are other octets. -/
theorem avoids_of_encoded {k' : Key} {f : Bytes → Bridge β} (hne : k' ≠ k)
    (hf : ∀ b b', k.encode? = some b → b' ≠ b → Program.Avoids b (f b')) :
    Avoids k (Table.encoded k' >>= f) := by
  intro b hb
  cases hk' : k'.encode? with
  | none =>
    rw [Table.encoded, hk']
    trivial
  | some b' =>
    rw [Table.encoded, hk']
    refine hf b b' hb ?_
    rintro rfl
    exact hne (Key.eq_of_encode?_eq hk' hb)

theorem avoids_find? (hne : t.key i ≠ k) : Avoids k (t.find? i) :=
  avoids_of_encoded hne fun _ _ _ hb => ⟨hb, fun _ => trivial⟩

theorem avoids_find {fault : Fault} (hne : t.key i ≠ k) : Avoids k (t.find i fault) :=
  .bind (avoids_find? hne) fun _ => avoids_ofOption

theorem avoids_has (hne : t.key i ≠ k) : Avoids k (t.has i) :=
  .bind (avoids_find? hne) fun _ => avoids_pure

theorem avoids_put (hne : t.key i ≠ k) : Avoids k (t.put i a) :=
  avoids_of_encoded hne fun _ _ _ hb => ⟨hb, trivial⟩

theorem avoids_erase (hne : t.key i ≠ k) : Avoids k (t.erase i) :=
  avoids_of_encoded hne fun _ _ _ hb => ⟨hb, trivial⟩

end Bridge

/-! ## Settling -/

open Bridge

/-- **Whether settling a packet goes to a key**: to its record, its mark, and its
tokens and their deposits. -/
def Key.Settling : Key → Prop
  | .token .. | .deposit .. | .shipment .. | .pending .. => True
  | _ => False

theorem Key.Settling.ne {k k' : Key} (h : k'.Settling) (hk : ¬ k.Settling) : k' ≠ k := by
  rintro rfl
  exact hk h

variable {bridge : Address} {k : Key} (hk : ¬ k.Settling)
include hk

/-- Making a token leaves the other keys alone. -/
theorem Token.avoids_mint {classId tokenId : String} {owner : Address} {uri : Option String} :
    Avoids k (mint classId tokenId owner uri) := by
  have htoken : Key.token classId tokenId ≠ k := Key.Settling.ne trivial hk
  refine .bind (avoids_has htoken) fun there => ?_
  split
  · exact .bind avoids_throw fun _ => avoids_put htoken
  · exact avoids_put htoken

/-- Releasing a token leaves the other keys alone. -/
theorem Deposit.avoids_release {classId tokenId channel : String} {recipient : Address} :
    Avoids k (release bridge classId tokenId channel recipient) := by
  have htoken : Key.token classId tokenId ≠ k := Key.Settling.ne trivial hk
  have hdeposit : Key.deposit classId tokenId ≠ k := Key.Settling.ne trivial hk
  refine .bind (avoids_find? hdeposit) fun found => .bind avoids_ofOption fun deposit =>
    .bind (avoids_erase hdeposit) fun _ => .bind ?_ fun _ => avoids_pure
  refine .bind (.bind (avoids_find htoken) fun token => ?_) fun _ => avoids_put htoken
  split
  · exact .bind avoids_throw fun _ => avoids_pure
  · exact avoids_pure

/-- Finding a packet leaves the other keys alone. -/
theorem Shipment.avoids_find {channel : String} {sequence : UInt64} :
    Avoids k (find channel sequence) :=
  Bridge.avoids_find (Key.Settling.ne trivial hk)

/-- **Settling a packet leaves the other keys alone.** -/
theorem Shipment.avoids_settle {p : Shipment} {outcome : Outcome} :
    Avoids k (p.settle bridge outcome) := by
  have hrefund : Avoids k (p.refund bridge) := by
    rw [refund]
    split
    · exact avoids_forM fun _ => .bind (Deposit.avoids_release hk) fun _ => avoids_pure
    · exact avoids_forM fun _ => Token.avoids_mint hk
  have hrest {status : Status} {settlement : Settlement} : Avoids k (do
      keep { p with status }
      Table.pending.erase (p.channel, p.sequence)
      return settlement) :=
    .bind (avoids_put (Key.Settling.ne trivial hk)) fun _ =>
      .bind (avoids_erase (Key.Settling.ne trivial hk)) fun _ => avoids_pure
  rw [settle]
  split
  · exact avoids_pure
  · split
    · exact .bind hrefund fun _ => hrest
    · exact hrest

/-- Looking for the record of a packet leaves the other keys alone. -/
theorem Packet.avoids_shipment {packet : Packet} : Avoids k packet.shipment := by
  refine .bind (Shipment.avoids_find hk) fun p => .bind ?_ fun content => ?_
  · cases (PacketData.decode packet.data).mapError _ <;> exact fun _ _ => trivial
  · split
    · exact .bind avoids_throw fun _ => avoids_pure
    · exact avoids_pure

end TokenBridge
