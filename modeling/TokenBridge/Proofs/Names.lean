import TokenBridge.Proofs.Invariants

/-!
# The names of classes that arrive

The name under which a class arrives begins with a port and a channel, each
ended by a slash. If neither has a slash in it, the name tells them apart
from what follows: two classes that arrive under one name have arrived at
one endpoint, from one class (`Endpoint.extend_inj`). And since a class
that is created here has no slash in its name, a name that was given to an
arrival is never that of such a class (`Registered.origin_of_extend`).
So each endpoint has the names of its arrivals to itself
(`Endpoint.namespace_apart`), whatever the classes are called that arrive
there, and also if one of the channels is called as another one begins.

What follows may be any name, but it is a name. A packet that is taken says of
which class its tokens are and what each of them is called, since one that does
not is turned away (`Turn.keeps_of_named`).
-/

namespace TokenBridge

open Program Store

namespace Endpoint

variable {e e' : Endpoint} {x y : String}

/-- What stands before the first slash is told apart from what stands after
it. -/
theorem append_slash_inj {cs ds xs ys : List Char} (hc : '/' ∉ cs) (hd : '/' ∉ ds)
    (h : cs ++ '/' :: xs = ds ++ '/' :: ys) : cs = ds ∧ xs = ys := by
  induction cs generalizing ds with
  | nil =>
    cases ds with
    | nil => exact ⟨rfl, (List.cons.inj h).2⟩
    | cons d ds => exact absurd ((List.cons.inj h).1 ▸ List.mem_cons_self) hd
  | cons c cs ih =>
    cases ds with
    | nil => exact absurd ((List.cons.inj h).1 ▸ List.mem_cons_self) hc
    | cons d ds =>
      obtain ⟨rfl, hrest⟩ := List.cons.inj h
      obtain ⟨rfl, hxy⟩ :=
        ih (List.not_mem_of_not_mem_cons hc) (List.not_mem_of_not_mem_cons hd) hrest
      exact ⟨rfl, hxy⟩

theorem toList_extend (e : Endpoint) (x : String) :
    (e.extend x).toList
      = e.port.toList ++ '/' :: (e.channel.toList ++ '/' :: x.toList) := by
  simp [extend, trail]

/-- The name of a class gets longer by a trail. -/
theorem length_extend (e : Endpoint) (x : String) :
    (Bytes.ofText (e.extend x)).length
      = (Bytes.ofText e.trail).length + (Bytes.ofText x).length := by
  simp [extend]

/-- A name that was given to an arrival has a slash in it. -/
theorem slash_mem_extend : '/' ∈ (e.extend x).toList := by
  simp [toList_extend]

theorem extend_ne_empty : e.extend x ≠ "" := by
  intro h
  simpa [h] using @slash_mem_extend e x

/-- **A name tells at which endpoint a class has arrived**, and what it was
called before. -/
theorem extend_inj (he : e.Plain) (he' : e'.Plain) : e.extend x = e'.extend y ↔ e = e' ∧ x = y := by
  constructor
  · intro h
    have h := congrArg String.toList h
    rw [toList_extend, toList_extend] at h
    obtain ⟨hport, h⟩ := append_slash_inj he.1 he'.1 h
    obtain ⟨hchannel, hrest⟩ := append_slash_inj he.2 he'.2 h
    obtain ⟨port, channel⟩ := e
    obtain ⟨port', channel'⟩ := e'
    obtain rfl : port = port' := String.toList_injective hport
    obtain rfl : channel = channel' := String.toList_injective hchannel
    exact ⟨rfl, String.toList_injective hrest⟩
  · rintro ⟨rfl, rfl⟩
    rfl

/-- The trail of an endpoint comes off the name of what has arrived there,
and off no other arrival. -/
theorem strip?_extend_of_plain (he : e.Plain) (he' : e'.Plain) (x : String) :
    e'.strip? (e.extend x) = if e' = e then some x else none := by
  split
  · next heq => rw [heq, strip?_extend]
  · next hne =>
    refine Option.eq_none_iff_forall_ne_some.mpr fun y hy => ?_
    exact hne ((extend_inj he he').mp (strip?_eq_some_iff.mp hy)).1.symm

end Endpoint

/-- What is wrong with the name of an arrival as that of a class which is
created here: it has a slash in it, unless it is too long already. -/
theorem TokenClass.checkId_extend (e : Endpoint) (x : String) :
    checkId (e.extend x)
      = .error (if (e.extend x).utf8ByteSize > maxClassIdLength then .tooLong else .slash) := by
  simp only [checkId, if_neg Endpoint.extend_ne_empty, if_pos Endpoint.slash_mem_extend]
  split <;> rfl

/-- No class is created here under the name of an arrival. -/
theorem TokenClass.fails_create_extend {e : Endpoint} {x : String} {uri : Option String}
    {creator : Address} {s : Store Entry} :
    ∃ defect, (create (e.extend x) uri creator).Fails s (.error (.badClassId defect)) s := by
  obtain ⟨defect, hdefect⟩ : ∃ defect, checkId (e.extend x) = .error defect :=
    ⟨_, checkId_extend e x⟩
  refine ⟨defect, fails_bind.mpr (.inl (fails_ofExcept.mpr ⟨_, ?_, rfl, rfl⟩))⟩
  rw [hdefect]
  rfl

/-- **Each endpoint has the names of its arrivals to itself.** What has arrived
at one of two endpoints is called as what has arrived at the other only if
they are one endpoint and it is one class; the trail of an endpoint comes off
exactly the names of its own arrivals, and leaves what they were called
before; and no class is created here under such a name. -/
theorem Endpoint.namespace_apart {e e' : Endpoint} (he : e.Plain) (he' : e'.Plain) :
    (∀ x y, e.extend x = e'.extend y ↔ e = e' ∧ x = y)
      ∧ (∀ x, e'.strip? (e.extend x) = if e' = e then some x else none)
      ∧ (∀ x y, e.strip? x = some y ↔ x = e.extend y)
      ∧ ∀ x, (∃ defect, TokenClass.checkId (e.extend x) = .error defect)
        ∧ ∀ uri creator s, ∃ defect,
          (TokenClass.create (e.extend x) uri creator).Fails s (.error (.badClassId defect)) s :=
  ⟨fun _ _ => extend_inj he he', strip?_extend_of_plain he he',
    fun _ _ => strip?_eq_some_iff,
    fun x => ⟨⟨_, TokenClass.checkId_extend e x⟩, fun _ _ _ => TokenClass.fails_create_extend⟩⟩

/-- The name of one channel is the beginning of that of the other, and the
class that arrives on it is called as if it had come over the other one. -/
theorem Endpoint.namespace_apart_channels :
    (⟨"wasm.a", "channel-1"⟩ : Endpoint).Plain ∧ (⟨"wasm.a", "channel-10"⟩ : Endpoint).Plain
      ∧ (⟨"wasm.a", "channel-1"⟩ : Endpoint).extend "0/é"
        ≠ (⟨"wasm.a", "channel-10"⟩ : Endpoint).extend "é"
      ∧ (⟨"wasm.a", "channel-10"⟩ : Endpoint).strip?
          ((⟨"wasm.a", "channel-1"⟩ : Endpoint).extend "wasm.a/channel-10/é") = none := by
  have he : (⟨"wasm.a", "channel-1"⟩ : Endpoint).Plain := by decide
  have he' : (⟨"wasm.a", "channel-10"⟩ : Endpoint).Plain := by decide
  obtain ⟨hextend, hstrip, -, -⟩ := namespace_apart he he'
  refine ⟨he, he', fun heq => ?_, ?_⟩
  · exact absurd ((hextend _ _).mp heq).1 (by decide)
  · rw [hstrip, if_neg (by decide)]

/-- **A class that bears the name of an arrival has arrived there.** -/
theorem Registered.origin_of_extend {bridge : Address} {s : Store Entry} (hs : Registered bridge s)
    {arrival : Endpoint} {inner : String} {c : TokenClass} (harrival : arrival.Plain)
    (hc : s.class? (arrival.extend inner) = some c) :
    c.origin = .wrapped arrival.channel ∧ c.minter = bridge := by
  cases ho : c.origin with
  | native => exact absurd Endpoint.slash_mem_extend (hs.native hc ho)
  | wrapped channel =>
    obtain ⟨hminter, arrival', inner', hplain, rfl, heq⟩ := hs.wrapped hc ho
    obtain ⟨rfl, -⟩ := (Endpoint.extend_inj harrival hplain).mp heq
    exact ⟨rfl, hminter⟩

/-! ## Nothing without a name -/

variable {bridge : Address} {s u : Store Entry}

/-- **A packet that is taken names the class of its tokens.** -/
theorem Packet.classId_ne_empty_of_arrived {context : Context} {packet : Packet}
    {data : PacketData} {receipt : Receipt} (h : (packet.arrived context).Yields s receipt u)
    (hack : receipt.ack = .success) (hdecode : PacketData.decode packet.data = .ok data) :
    data.classId ≠ "" := by
  intro hempty
  obtain ⟨hcheck, -⟩ := applied_of_success h hack
  simp [checkEnvelope, hdecode, hempty] at hcheck

/-- **Whether what arrives has a name**: its class on the chain from which it
comes, and each of the tokens. -/
def Deed.Named : Deed → Prop
  | .wrapped _ inner _ => inner ≠ ""
  | .issued _ inner _ tokens _ => inner ≠ "" ∧ ∀ x ∈ tokens, x.1 ≠ ""
  | _ => True

/-- What arrives in a turn has a name. -/
theorem Turn.named_of_take {turn : Turn} {answer : Answer} {ds : List Deed}
    (htake : turn.take bridge s = (.ok answer, u))
    (hcarries : turn.call.Carries ⟨bridge, turn.now⟩ s u answer ds) : ∀ d ∈ ds, d.Named := by
  intro d hd
  obtain ⟨now, call⟩ := turn
  -- only a packet brings a class or tokens with it
  have arrives (arrival : Endpoint) (h : ∃ packet, call = .arrived packet
      ∧ packet.destination = arrival) : d.Named := by
    obtain ⟨packet, rfl, -⟩ := h
    obtain ⟨receipt, hyields, rfl⟩ := yields_map.mp (take_eq_ok_iff.mp htake)
    obtain ⟨_, ⟨⟩, ⟨-, rfl⟩ | ⟨hack, data, hdecode, hvalid, hlands⟩⟩ := hcarries
    · cases hd
    have hclass := Packet.classId_ne_empty_of_arrived hyields hack hdecode
    have htokens : ∀ x ∈ data.tokens, x.1 ≠ "" := fun x hx =>
      (PacketData.validate_eq_ok_iff.mp hvalid).2.2.2 _ (List.of_mem_zip hx).1
    obtain ⟨home, -, rfl⟩ | ⟨-, c, rfl | rfl⟩ := hlands
    · obtain rfl := List.mem_singleton.mp hd
      trivial
    · obtain rfl := List.mem_singleton.mp hd
      exact ⟨hclass, htokens⟩
    · obtain rfl | hd := List.mem_cons.mp hd
      · exact hclass
      · obtain rfl := List.mem_singleton.mp hd
        exact ⟨hclass, htokens⟩
  have hoccasion := hcarries.occasions d hd
  cases d with
  | wrapped => exact arrives _ hoccasion
  | issued => exact arrives _ hoccasion
  | _ => trivial

/-- **What every deed keeps if what arrives has a name, a turn keeps.** -/
theorem Turn.keeps_of_named {P : Store Entry → Prop} (turn : Turn)
    (step : ∀ {s u} {d : Deed}, d.Does bridge s u → turn.call.Occasions d → d.Named → P s → P u)
    (hs : P s) : P (turn.after bridge s) := by
  obtain heq | ⟨answer, ds, htake, hcarries, hpath⟩ := turn.path bridge s
  · rw [heq]
    exact hs
  · exact hpath.keeps (fun hd h =>
      step h (hcarries.occasions _ hd) (named_of_take htake hcarries _ hd)) hs

end TokenBridge
