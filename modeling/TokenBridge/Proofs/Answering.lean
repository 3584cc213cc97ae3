import TokenBridge.Proofs.Codec
import TokenBridge.Proofs.Origins

/-!
# Which packets are answered

A packet that arrives is answered, and whatever is wrong with it is said in
the acknowledgement: the chain of the sender waits for an answer, and has
nothing else to go by. The exception is a packet that breaks the run off.
Nothing is answered then, and the packet can arrive any number of times.

The name of a class grows with every hop by the trail of an endpoint, and
nothing limits the name that a packet brings. A token is kept under a key
that has the name of its class in the middle, where only a part whose length
can be written in two octets fits. So a packet that passes every check, and
whose tokens do not come home, breaks off as soon as its class has a name on
this side that is too long (`Packet.Overlong`). That is the only exception:
the name to which a class comes home is shorter than the one under which it
is minted here, so a packet that breaks off when its tokens are looked for at
home is one of those.
-/

namespace TokenBridge

open Program Store

variable {s u : Store Entry} {bridge : Address}

/-- A chain goes on with a result that is there already. -/
theorem Program.ofExcept_bind {V ε α β : Type} {x : Except ε α} {a : α} (h : x = .ok a)
    {f : α → Program V ε β} : (ofExcept x >>= f) = f a := by
  rw [h]
  rfl

/-! ## What breaks off -/

/-- Looking the settings up does not break off. -/
theorem Settings.not_aborts_load {cause : Abort} : ¬ load.Fails s (.abort cause) u := by
  have hk : Key.settings.Fits := by decide +kernel
  simp [load, hk]

/-- Looking up an open channel does not break off. -/
theorem Channel.not_aborts_findOpen {id : String} {cause : Abort} :
    ¬ (findOpen id).Fails s (.abort cause) u := by
  intro h
  simp only [findOpen, find, fails_bind, Table.fails_find, Table.channels_key, Key.fits_channel,
    not_true_eq_false, false_and, reduceCtorEq, and_false, false_or] at h
  obtain ⟨channel, m, -, h⟩ := h
  split at h <;> simp at h

/-- Looking for the class to which a token comes home breaks off if its name
is too long. -/
theorem TokenClass.fails_homeOf? {source : Endpoint} {channel classId tokenId : String}
    {e : Failure Fault} :
    (homeOf? source channel classId tokenId).Fails s e u
      ↔ (∃ home, source.strip? classId = some home ∧ ¬ (Key.deposit home tokenId).Fits)
        ∧ e = .abort .longKey ∧ u = s := by
  rw [homeOf?]
  split
  · next hnone => simp [hnone]
  · next home hsome => simp [hsome, Deposit.channelOf?]

/-- The class of a name that arrived is found or made without breaking
off. -/
theorem TokenClass.not_fails_findOrCreate {classId channel : String} {uri : Option String}
    {e : Failure Fault} : ¬ (findOrCreate classId uri channel bridge).Fails s e u := by
  intro h
  simp only [findOrCreate, fails_bind, Table.fails_find?, Table.classes_key,
    Key.fits_tokenClass, not_true_eq_false, false_and, false_or] at h
  obtain ⟨found, m, -, h⟩ := h
  split at h
  · simp at h
  · simp [keep, Key.fits_tokenClass, Key.fits_collection] at h

/-- **The class of a name that arrived** is always found or made, and it bears
that name. -/
theorem TokenClass.exists_yields_findOrCreate (bridge : Address) (arrival : Endpoint)
    (inner : String) (uri : Option String) (hnamed : ∀ {id c}, s.class? id = some c → c.id = id) :
    ∃ c created m, (findOrCreate (arrival.extend inner) uri arrival.channel bridge).Yields s
        (c, created) m
      ∧ c.id = arrival.extend inner := by
  obtain ⟨⟨c, created⟩, m, h⟩ | ⟨e, m, h⟩ :=
    yields_or_fails (findOrCreate (arrival.extend inner) uri arrival.channel bridge) s
  · obtain ⟨hc, rfl | hwrapped⟩ := found_or_wrapped h
    · exact ⟨c, created, m, h, hnamed hc⟩
    · exact ⟨c, created, m, h, hwrapped.2.1⟩
  · exact absurd h not_fails_findOrCreate

namespace Packet

variable {context : Context} {packet : Packet} {data : PacketData} {classId : String}
  {home : Option String} {tokenIds : List String} {cause : Abort} {receiver : Address}

/-- **Why asking the tokens whether they come home fails**: the class to which
they would come has a name that is too long, or they do not agree. -/
theorem of_fails_home? {e : Failure Fault} (h : (packet.home? classId tokenIds).Fails s e u) :
    e = .abort .longKey
        ∧ (∃ origin, packet.source.strip? classId = some origin
          ∧ ¬ (Bytes.ofText origin).length < UInt16.size)
      ∨ e = .error .mixedReturn ∧ ∃ tokenId ∈ tokenIds, ∃ other ∈ tokenIds,
        s.homeOf? packet.source packet.destination.channel classId other
          ≠ s.homeOf? packet.source packet.destination.channel classId tokenId := by
  have asked {tokenId : String} {s u : Store Entry}
      (h : (TokenClass.homeOf? packet.source packet.destination.channel classId tokenId).Fails s
        e u) :
      e = .abort .longKey ∧ ∃ origin, packet.source.strip? classId = some origin
        ∧ ¬ (Bytes.ofText origin).length < UInt16.size := by
    obtain ⟨⟨origin, hstrip, hk⟩, he, -⟩ := TokenClass.fails_homeOf?.mp h
    exact ⟨he, origin, hstrip, fun hlt => hk (Key.fits_deposit_iff.mpr hlt)⟩
  cases tokenIds with
  | nil => simp [home?] at h
  | cons tokenId tokenIds =>
    simp only [home?, fails_bind, fails_pure, and_false, exists_false, or_false] at h
    obtain h | ⟨home, m, hhome, h⟩ := h
    · exact .inl (asked h)
    obtain ⟨rfl, rfl⟩ := TokenClass.of_yields_homeOf? hhome
    -- one of the other tokens objects to what the first one says
    suffices h : e = .abort .longKey
          ∧ (∃ origin, packet.source.strip? classId = some origin
            ∧ ¬ (Bytes.ofText origin).length < UInt16.size)
        ∨ e = .error .mixedReturn ∧ ∃ other ∈ tokenIds,
          (m.homeOf? packet.source packet.destination.channel classId other).isSome
            ≠ (m.homeOf? packet.source packet.destination.channel classId tokenId).isSome by
      refine h.imp_right ?_
      rintro ⟨he, other, hmem, hne⟩
      exact ⟨he, tokenId, List.mem_cons_self, other, List.mem_cons_of_mem _ hmem, fun heq =>
        hne (by rw [heq])⟩
    clear hhome
    induction tokenIds with
    | nil => simp [agree] at h
    | cons other rest ih =>
      simp only [agree, fails_bind, fails_guard] at h
      obtain h | ⟨_, m', hother, ⟨hne, rfl, -⟩ | ⟨-, h⟩⟩ := h
      · exact .inl (asked h)
      · obtain ⟨rfl, rfl⟩ := TokenClass.of_yields_homeOf? hother
        exact .inr ⟨rfl, other, List.mem_cons_self, hne⟩
      · obtain ⟨rfl, rfl⟩ := TokenClass.of_yields_homeOf? hother
        refine (ih h).imp_right ?_
        rintro ⟨he, later, hmem, hne⟩
        exact ⟨he, later, List.mem_cons_of_mem _ hmem, hne⟩

/-- **Tokens that agree are asked** whether they come home, if the class to
which they would come has a name that is not too long. -/
theorem yields_home? (hne : tokenIds ≠ [])
    (hshort : ∀ origin, packet.source.strip? classId = some origin →
      (Bytes.ofText origin).length < UInt16.size)
    (hall : ∀ tokenId ∈ tokenIds,
      s.homeOf? packet.source packet.destination.channel classId tokenId = home) :
    (packet.home? classId tokenIds).Yields s home s := by
  obtain ⟨home', m, h⟩ | ⟨e, m, h⟩ := yields_or_fails (packet.home? classId tokenIds) s
  · obtain ⟨hall', rfl⟩ := of_yields_home? h
    obtain ⟨tokenId, hmem⟩ := List.exists_mem_of_ne_nil _ hne
    rwa [← hall tokenId hmem, hall' tokenId hmem]
  · obtain ⟨-, origin, hstrip, hlong⟩ | ⟨-, tokenId, hmem, other, hmem', hother⟩ :=
      of_fails_home? h
    · exact absurd (hshort origin hstrip) hlong
    · exact absurd ((hall other hmem').trans (hall tokenId hmem).symm) hother

/-! ## Packets that are too long -/

/-- **What a packet has to be** for its tokens to be looked at. -/
structure Admitted (packet : Packet) (data : PacketData) (s : Store Entry) : Prop where
  /-- The bridge is set up and not paused. -/
  running : ∃ settings, s.settings? = some settings ∧ settings.paused = false
  /-- The packet arrives on an open channel. -/
  opened : ∃ channel, s.channel? packet.destination.channel = some channel
    ∧ channel.phase = .opened
  /-- It can be read. -/
  decoded : PacketData.decode packet.data = .ok data
  /-- It makes sense. -/
  valid : data.validate = .ok ()
  /-- Its tokens are for an account of this chain. -/
  addressed : Address.ofText data.receiver = .ok data.receiver

/-- **Whether a packet has to be minted under a name that is too long** for
the key of a token. -/
def Overlong (packet : Packet) (s : Store Entry) : Prop :=
  ∃ data, packet.Admitted data s ∧ data.classId ≠ ""
    ∧ ¬ (Bytes.ofText (packet.destination.extend data.classId)).length < UInt16.size
    ∧ ∀ tokenId ∈ data.tokenIds,
      s.homeOf? packet.source packet.destination.channel data.classId tokenId = none

/-- Delivers the tokens of a packet: they are released if they come home, and
minted if they do not. -/
def deliver (packet : Packet) (context : Context) (data : PacketData) :
    Option String → Bridge Received
  | some home => packet.release context data data.receiver home
  | none => packet.mint context data data.receiver

/-- **What is done with a packet that is admitted**: its tokens are asked
whether they come home, and then they are delivered. -/
theorem Admitted.run_apply (hp : packet.Admitted data s) :
    (packet.apply context).run s
      = (packet.home? data.classId data.tokenIds >>= packet.deliver context data).run s := by
  obtain ⟨settings, hs, hpaused⟩ := hp.running
  obtain ⟨channel, hc, hopen⟩ := hp.opened
  have hload : Settings.load.run s = (.ok settings, s) := Settings.yields_load.mpr ⟨hs, rfl⟩
  have hfind : (Channel.findOpen packet.destination.channel).run s = (.ok channel, s) :=
    Channel.yields_findOpen.mpr ⟨hc, hopen, rfl⟩
  rw [apply, run_bind, hload]
  simp only [hpaused, Bool.false_eq_true, if_false]
  rw [run_bind, hfind]
  simp only [ofExcept_bind (mapError_eq_ok.mpr hp.decoded),
    ofExcept_bind (mapError_eq_ok.mpr hp.valid), ofExcept_bind (mapError_eq_ok.mpr hp.addressed)]
  rfl

/-- A packet that is not admitted does not break off. -/
theorem admitted_of_aborts_apply (h : (packet.apply context).Fails s (.abort cause) u) :
    ∃ data, packet.Admitted data s := by
  simp only [apply, fails_bind, fails_guard, fails_ofExcept, Settings.not_aborts_load,
    Settings.yields_load, Channel.not_aborts_findOpen, Channel.yields_findOpen, yields_ofExcept,
    mapError_eq_ok, reduceCtorEq, false_and, and_false, exists_false, false_or] at h
  obtain ⟨settings, _, ⟨hs, rfl⟩, hpaused, channel, _, ⟨hc, hopen, rfl⟩, data, _,
    ⟨hdecode, rfl⟩, _, _, ⟨hvalid, rfl⟩, receiver, _, ⟨hreceiver, rfl⟩, -⟩ := h
  obtain rfl := Address.eq_of_ofText hreceiver
  exact ⟨data, ⟨settings, hs, by simpa using hpaused⟩, ⟨channel, hc, hopen⟩, hdecode, hvalid,
    hreceiver⟩

/-- Minting the tokens of a packet breaks off exactly if its class has a name
on this side that is too long. -/
theorem aborts_mint_iff (hvalid : data.validate = .ok ())
    (hnamed : ∀ {id c}, s.class? id = some c → c.id = id) :
    (∃ u, (packet.mint context data receiver).Fails s (.abort cause) u)
      ↔ cause = .longKey
        ∧ ¬ (Bytes.ofText (packet.destination.extend data.classId)).length < UInt16.size := by
  obtain ⟨c, created, m, hfound, hid⟩ := TokenClass.exists_yields_findOrCreate context.bridge
    packet.destination data.classId data.classUri hnamed
  rw [← hid]
  constructor
  · rintro ⟨u, h⟩
    simp only [mint, fails_bind, TokenClass.not_fails_findOrCreate, fails_pure, and_false,
      exists_false, or_false, false_or] at h
    obtain ⟨_, _, hfound', h⟩ := h
    obtain ⟨rfl, rfl⟩ := hfound.unique hfound'
    obtain ⟨x, -, _, -, h⟩ :=
      exists_fails_of_forM (P := fun _ => True) (fun _ _ _ _ _ => trivial) h trivial
    obtain ⟨hk, hcause, -⟩ := Token.aborts_mint_iff.mp h
    exact ⟨hcause, fun hshort => hk (Key.fits_token_iff.mpr hshort)⟩
  · rintro ⟨rfl, hlong⟩
    obtain ⟨hne, hlength⟩ := PacketData.of_validate hvalid
    have huris : data.tokenUris ≠ [] := fun h => hne (by simpa [h, eq_comm] using hlength)
    obtain ⟨x, rest, htokens⟩ : ∃ x rest, data.tokens = x :: rest :=
      List.exists_cons_of_ne_nil (by simp [PacketData.tokens, hne, huris])
    have hfirst : (Token.mint c.id x.1 receiver x.2).Fails m (.abort .longKey) m :=
      Token.aborts_mint_iff.mpr ⟨fun hk => hlong (Key.fits_token_iff.mp hk), rfl, rfl⟩
    refine ⟨m, ?_⟩
    simp only [mint, fails_bind, htokens, List.forM_eq_forM, List.forM_cons]
    exact .inr ⟨_, m, hfound, .inl (.inl hfirst)⟩

/-- **A packet that is looked at breaks off exactly if it is too long.** -/
theorem aborts_apply_iff (hnamed : ∀ {id c}, s.class? id = some c → c.id = id) :
    (∃ u, (packet.apply context).Fails s (.abort cause) u)
      ↔ cause = .longKey ∧ ∃ data, packet.Admitted data s
        ∧ ¬ (Bytes.ofText (packet.destination.extend data.classId)).length < UInt16.size
        ∧ ∀ tokenId ∈ data.tokenIds,
          s.homeOf? packet.source packet.destination.channel data.classId tokenId = none := by
  constructor
  · rintro ⟨u, h⟩
    obtain ⟨data, hp⟩ := admitted_of_aborts_apply h
    rw [Fails, hp.run_apply] at h
    replace h := fails_bind.mp h
    obtain h | ⟨home, m, hhome, h⟩ := h
    · -- the name is too long already when its trail has been taken off
      obtain ⟨hcause, origin, hstrip, hlong⟩ | ⟨he, -⟩ := of_fails_home? h
      · refine ⟨Failure.abort.inj hcause, data, hp, ?_, fun tokenId _ => ?_⟩
        · rw [Endpoint.strip?_eq_some_iff.mp hstrip]
          rw [Endpoint.length_extend, Endpoint.length_extend]
          omega
        · refine Option.eq_none_iff_forall_ne_some.mpr fun home hhome => hlong ?_
          obtain ⟨heq, deposit, hdeposit, -⟩ := Store.homeOf?_eq_some_iff.mp hhome
          obtain rfl : origin = home := by
            rw [heq, Endpoint.strip?_extend] at hstrip
            exact (Option.some.inj hstrip).symm
          exact Key.fits_deposit_iff.mp (Table.fits_of_view hdeposit)
      · cases he
    obtain ⟨hall, rfl⟩ := of_yields_home? hhome
    cases home with
    | some home =>
      -- a class to which a token comes home has a name that fits
      simp only [deliver, release, fails_bind, fails_pure, and_false, exists_false, or_false] at h
      obtain ⟨tokenId, hmem, _, -, h⟩ :=
        exists_fails_of_forM (P := fun _ => True) (fun _ _ _ _ _ => trivial) h trivial
      obtain ⟨-, deposit, hdeposit, -⟩ := Store.homeOf?_eq_some_iff.mp (hall tokenId hmem)
      have hk : (Key.deposit home tokenId).Fits := Table.fits_of_view hdeposit
      simp only [fails_bind, fails_pure, and_false, exists_false, or_false] at h
      exact absurd h (Deposit.not_aborts_release hk)
    | none =>
      obtain ⟨hcause, hlong⟩ := (aborts_mint_iff hp.valid hnamed).mp ⟨_, h⟩
      exact ⟨hcause, data, hp, hlong, hall⟩
  · rintro ⟨rfl, data, hp, hlong, hall⟩
    simp only [Fails, hp.run_apply]
    refine Exists.imp (fun u => fails_bind.mpr) ?_
    obtain ⟨home, m, hhome⟩ | ⟨e, m, h⟩ :=
      yields_or_fails (packet.home? data.classId data.tokenIds) s
    · obtain ⟨hall', rfl⟩ := of_yields_home? hhome
      obtain ⟨tokenId, hmem⟩ :=
        List.exists_mem_of_ne_nil _ (PacketData.of_validate hp.valid).1
      obtain rfl : home = none := (hall' tokenId hmem).symm.trans (hall tokenId hmem)
      obtain ⟨u, h⟩ : ∃ u,
          (packet.mint context data data.receiver).Fails m (.abort .longKey) u :=
        (aborts_mint_iff hp.valid hnamed).mpr ⟨rfl, hlong⟩
      exact ⟨u, .inr ⟨none, m, hhome, h⟩⟩
    · obtain ⟨rfl, -⟩ | ⟨-, tokenId, hmem, other, hmem', hne⟩ := of_fails_home? h
      · exact ⟨m, .inl h⟩
      · exact absurd ((hall other hmem').trans (hall tokenId hmem).symm) hne

/-- A packet breaks off exactly if it is too long and its class has a name. -/
theorem aborts_receive_iff (hnamed : ∀ {id c}, s.class? id = some c → c.id = id) :
    (∃ u, (packet.receive context).Fails s (.abort cause) u)
      ↔ cause = .longKey ∧ packet.Overlong s := by
  have hreceive : (∃ u, (packet.receive context).Fails s (.abort cause) u)
      ↔ packet.checkEnvelope = .ok ()
        ∧ ∃ u, (packet.apply context).Fails s (.abort cause) u := by
    simp only [receive, fails_bind, fails_ofExcept, yields_ofExcept, reduceCtorEq, false_and,
      and_false, exists_false, false_or, fails_transactional (Bridge.accepted _ _)]
    constructor
    · rintro ⟨_, _, _, ⟨hcheck, rfl⟩, h, -⟩
      exact ⟨hcheck, h⟩
    · rintro ⟨hcheck, h⟩
      exact ⟨s, (), s, ⟨hcheck, rfl⟩, h, rfl⟩
  -- a packet that can be read passes the envelope if it names a class
  have hcheck {data : PacketData} (hdecode : PacketData.decode packet.data = .ok data) :
      packet.checkEnvelope = .ok () ↔ data.classId ≠ "" := by
    rw [checkEnvelope, hdecode]
    by_cases hname : data.classId = "" <;> simp [hname]
  rw [hreceive, aborts_apply_iff hnamed]
  constructor
  · rintro ⟨henvelope, hcause, data, hp, hlong, hall⟩
    exact ⟨hcause, data, hp, (hcheck hp.decoded).mp henvelope, hlong, hall⟩
  · rintro ⟨hcause, data, hp, hname, hlong, hall⟩
    exact ⟨(hcheck hp.decoded).mpr hname, hcause, data, hp, hlong, hall⟩

/-- A packet that arrives fails only by breaking off. -/
theorem fails_arrived_iff (hnamed : ∀ {id c}, s.class? id = some c → c.id = id)
    {e : Failure Fault} :
    (∃ u, (packet.arrived context).Fails s e u)
      ↔ e = .abort .longKey ∧ packet.Overlong s := by
  have hiff : (∃ u, (packet.arrived context).Fails s e u)
      ↔ ∃ cause, e = .abort cause ∧ ∃ u, (packet.receive context).Fails s (.abort cause) u := by
    simp only [arrived, fails_bind, not_fails_attempt (Bridge.accepted _ _), false_or,
      yields_attempt (Bridge.accepted _ _)]
    constructor
    · rintro ⟨u, r, m, hr, h⟩
      split at h
      · simp at h
      · simp at h
      · next cause =>
        obtain ⟨rfl, rfl⟩ := fails_abort.mp h
        exact ⟨cause, rfl, _, hr⟩
    · rintro ⟨cause, rfl, u, h⟩
      exact ⟨u, _, u, h, fails_abort.mpr ⟨rfl, rfl⟩⟩
  simp only [hiff, aborts_receive_iff hnamed]
  constructor
  · rintro ⟨cause, rfl, rfl, h⟩
    exact ⟨rfl, h⟩
  · rintro ⟨rfl, h⟩
    exact ⟨_, rfl, rfl, h⟩

end Packet

/-! ## Answers -/

/-- A packet that is too long is not answered, and changes nothing. -/
theorem Packet.Overlong.take {past : List Turn} {packet : Packet} {now : UInt64}
    (h : packet.Overlong (storeAfter bridge past)) :
    (⟨now, .arrived packet⟩ : Turn).take bridge (storeAfter bridge past)
      = (.error (.abort .longKey), storeAfter bridge past) := by
  obtain ⟨u, hfails⟩ : ∃ u,
      (packet.arrived ⟨bridge, now⟩).Fails (storeAfter bridge past) (.abort .longKey) u :=
    (fails_arrived_iff (classed_after past).named).mpr ⟨rfl, h⟩
  exact Turn.take_eq_error_iff.mpr ⟨⟨u, fails_map.mpr hfails⟩, rfl⟩

/-- **Which packets are answered.** In every state of a bridge, a packet that
arrives is answered unless it is too long: with an acknowledgement that can be
read, and without any other effect if that is an error. A packet that is too
long breaks off, and is not answered at all. -/
theorem Turn.arrival_answered (bridge : Address) (past : List Turn) (now : UInt64)
    (packet : Packet) :
    (¬ packet.Overlong (storeAfter bridge past)
        ↔ ∃ receipt u, (⟨now, .arrived packet⟩ : Turn).take bridge (storeAfter bridge past)
            = (.ok (.receipt receipt), u)
          ∧ Ack.decode receipt.ack.encode = .ok receipt.ack
          ∧ (receipt.ack.isSuccess = false → u = storeAfter bridge past))
      ∧ (packet.Overlong (storeAfter bridge past)
        ↔ (⟨now, .arrived packet⟩ : Turn).take bridge (storeAfter bridge past)
            = (.error (.abort .longKey), storeAfter bridge past)) := by
  generalize hs : storeAfter bridge past = s
  have hlong (h : packet.Overlong s) :
      (⟨now, .arrived packet⟩ : Turn).take bridge s = (.error (.abort .longKey), s) := by
    subst hs
    exact h.take
  have hshort (h : ¬ packet.Overlong s) : ∃ receipt u,
      (⟨now, .arrived packet⟩ : Turn).take bridge s = (.ok (.receipt receipt), u)
        ∧ Ack.decode receipt.ack.encode = .ok receipt.ack
        ∧ (receipt.ack.isSuccess = false → u = s) := by
    obtain ⟨receipt, u, harrived⟩ | ⟨e, u, hfails⟩ :=
      yields_or_fails (packet.arrived ⟨bridge, now⟩) s
    · refine ⟨receipt, u, Turn.take_eq_ok_iff.mpr (yields_map.mpr ⟨receipt, harrived, rfl⟩),
        Ack.decode_encode _, fun hack => ?_⟩
      obtain ⟨-, hu⟩ | ⟨hsuccess, -⟩ := Packet.arrived_path harrived
      · exact hu
      · rw [hsuccess] at hack
        cases hack
    · subst hs
      exact absurd ((Packet.fails_arrived_iff (classed_after past).named).mp ⟨u, hfails⟩).2 h
  refine ⟨⟨hshort, fun ⟨receipt, u, htake, _⟩ h => ?_⟩, hlong, fun htake => ?_⟩
  · cases htake.symm.trans (hlong h)
  · refine Classical.byContradiction fun h => ?_
    obtain ⟨receipt, u, htake', -⟩ := hshort h
    cases htake.symm.trans htake'

/-! ## A packet that is not answered -/

/-- The name of a class, of as many letters as one likes. -/
def longName (length : Nat) : String := String.ofList (List.replicate length 'a')

theorem length_longName (length : Nat) : (Bytes.ofText (longName length)).length = length := by
  rw [Bytes.length_ofText, longName]
  induction length with
  | zero => rfl
  | succ length ih =>
    rw [List.replicate_succ, String.ofList_cons, String.utf8ByteSize_append, ih,
      String.utf8ByteSize_singleton]
    exact Nat.add_comm _ _

/-- A bridge is set up and a channel is opened. -/
def haven : List Turn := [⟨1, .connected harborChannel none⟩, ⟨0, .setup ⟨"admin", none⟩⟩]

/-- A packet that brings a token whose class has a name of that many
letters. -/
def longPacket (length : Nat) : Packet :=
  { source := harborChannel.there, destination := harborChannel.here, sequence := 1,
    data := PacketData.encode
      { classId := longName length, classUri := none, tokenIds := ["moon"], tokenUris := [none],
        sender := "carol", receiver := "bob" } }

theorem overlong_longPacket {length : Nat} (hpos : 0 < length)
    (hlong : UInt16.size ≤ (Bytes.ofText harborChannel.here.trail).length + length) :
    (longPacket length).Overlong (storeAfter harbor haven) := by
  have hchannel : (storeAfter harbor haven).channel? harborChannel.here.channel
      = some ⟨harborChannel.here, harborChannel.there, "connection-0", .opened, 1⟩ := by
    decide +kernel
  have hreceiver : Address.ofText "bob" = .ok "bob" :=
    Address.ofText_eq_ok_iff.mpr ⟨rfl, by decide +kernel⟩
  refine ⟨_, ⟨⟨⟨"admin", false, 600⟩, by decide +kernel, rfl⟩, ⟨_, hchannel, rfl⟩,
    PacketData.decode_encode _, rfl, hreceiver⟩, fun hname => ?_, ?_, fun tokenId _ => ?_⟩
  · have hlength := length_longName length
    rw [show longName length = "" from hname] at hlength
    exact absurd hlength (Nat.ne_of_lt hpos)
  · show ¬ (Bytes.ofText (harborChannel.here.extend (longName length))).length < UInt16.size
    rw [Endpoint.length_extend, length_longName]
    exact Nat.not_lt.mpr hlong
  · -- the name has no slash in it, so no trail comes off
    refine Option.eq_none_iff_forall_ne_some.mpr fun home hhome => ?_
    have heq : longName length = harborChannel.there.extend home :=
      (Store.homeOf?_eq_some_iff.mp hhome).1
    have hslash : '/' ∈ (longName length).toList := heq ▸ Endpoint.slash_mem_extend
    simp [longName] at hslash

/-- **Not every packet is answered**: the name of the class is one that a token
can have where the packet comes from, and with the trail of this side it is
too long. -/
theorem Turn.not_answered_longPacket :
    ¬ ∃ answer u, (⟨2, .arrived (longPacket 65535)⟩ : Turn).take harbor
      (storeAfter harbor haven) = (.ok answer, u) := by
  rintro ⟨answer, u, htake⟩
  have hlong : (longPacket 65535).Overlong (storeAfter harbor haven) :=
    overlong_longPacket (by decide) (by decide +kernel)
  cases htake.symm.trans hlong.take

end TokenBridge
