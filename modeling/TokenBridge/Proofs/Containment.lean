import TokenBridge.Proofs.Names

/-!
# What a channel can do

The other end of a channel may be in the hands of anybody. Whoever has it
can send packets with any data, answer packets with any bytes, let them time
out, and close the channel. This module shows how far that reaches: to what
was handed over to the channel, and not beyond.

What a callback on a channel may change is `Contained`. It may take deposits
that are kept for the channel, and the tokens that were deposited are then
somebody's; and it may bring new tokens, of classes that have come over the
channel. That it cannot name any others rests on two facts. A deposit is
released only for the channel that is written in it, whatever class the
packet claims to bring home; and a class that is found under the name of an
arrival has arrived there (`Registered.origin_of_extend`), so that nothing is
minted in a class that is somebody else's.

Callbacks follow one another, so what they may change is closed under
composition (`Contained.trans`). Draining a channel refunds one packet after
another, and a channel calls back as often as it likes; both are covered by
that.
-/

namespace TokenBridge

open Program Store

variable {bridge : Address} {s u m : Store Entry} {d : Deed} {channel : String}

/-! ## Callbacks -/

/-- **The channel on which the chain calls the bridge back**: because it is
closed, because a packet arrives on it, or because a packet that was sent on
it comes back. -/
def Call.callbackOn? : Call → Option String
  | .closed channel _ => some channel
  | .arrived packet => some packet.destination.channel
  | .acknowledged packet _ => some packet.source.channel
  | .timedOut packet => some packet.source.channel
  | _ => none

/-- Whether a deed may be done in a callback on a channel, after what is to be
noted has been noted. -/
def Deed.Within (channel : String) : Deed → Prop
  | .entered id _ => id = channel
  | .wrapped arrival .. => arrival.channel = channel
  | .released id .. => id = channel
  | .issued arrival .. => arrival.channel = channel
  | .committed id .. => id = channel
  | .refunded id .. => id = channel
  | _ => False

/-- A deed that has a callback as its occasion is within the channel, or it
only notes something. -/
theorem Call.Occasions.within {call : Call} (h : call.Occasions d)
    (hcall : call.callbackOn? = some channel) (hd : d ≠ .noted) : d.Within channel := by
  cases d with
  | noted => exact hd rfl
  | connected =>
    obtain ⟨p, theirVersion, rfl⟩ := h
    cases hcall
  | entered id phase =>
    obtain ⟨account, rfl⟩ | ⟨side, rfl⟩ := h
    · cases hcall
    · exact Option.some.inj hcall
  | founded =>
    obtain ⟨account, classId, uri, rfl⟩ := h
    cases hcall
  | minted | passed =>
    obtain rfl := h
    cases hcall
  | sent p =>
    obtain ⟨order, rfl, -⟩ := h
    cases hcall
  | wrapped | released | issued =>
    obtain ⟨packet, rfl, rfl⟩ := h
    exact Option.some.inj hcall
  | committed | refunded =>
    -- a callback settles packets of its own channel
    cases call with
    | closed | acknowledged | timedOut => exact Option.some.inj (h.symm.trans hcall)
    | arrived => cases h
    | _ => cases hcall

/-- **A callback notes an acknowledgement, if anything**, and then does deeds
within its channel. -/
theorem Turn.callback_path {turn : Turn} (hcall : turn.call.callbackOn? = some channel)
    (s : Store Entry) :
    turn.after bridge s = s
      ∨ ∃ m ds, (m = s ∨ ∃ ack, m = s.keep .lastAck (.lastAck ack))
        ∧ (∀ d ∈ ds, turn.call.Occasions d ∧ d.Within channel)
        ∧ Path bridge m ds (turn.after bridge s) := by
  obtain heq | ⟨answer, htake⟩ := turn.after_eq_or_take bridge s
  · exact .inl heq
  obtain ⟨now, call⟩ := turn
  obtain ⟨ds, hcarries, hpath⟩ := path_of_take htake
  have within {ds : List Deed} (hds : ∀ d ∈ ds, call.Occasions d) (hnoted : .noted ∉ ds) :
      ∀ d ∈ ds, call.Occasions d ∧ d.Within channel :=
    fun d hd => ⟨hds d hd, (hds d hd).within hcall fun heq => hnoted (heq ▸ hd)⟩
  have hds := hcarries.occasions
  cases call with
  | closed id side =>
    refine .inr ⟨s, ds, .inl rfl, within hds fun hd => ?_, hpath⟩
    obtain ⟨phase, h⟩ | ⟨sequence, p, h⟩ := hcarries _ hd <;> cases h
  | arrived packet =>
    refine .inr ⟨s, ds, .inl rfl, within hds ?_, hpath⟩
    obtain ⟨receipt, -, ⟨-, rfl⟩ | ⟨-, data, -, -, hlands⟩⟩ := hcarries
    · simp
    · obtain ⟨home, -, rfl⟩ | ⟨-, c, rfl | rfl⟩ := hlands <;> simp
  | acknowledged packet data =>
    -- the acknowledgement is noted first, and the path of the packet begins there
    obtain ⟨r, hr, -⟩ := yields_map.mp (take_eq_ok_iff.mp htake)
    obtain ⟨ds', hsettles, hpath'⟩ := Packet.acknowledged_settles hr
    refine .inr ⟨_, ds', .inr ⟨_, rfl⟩, within ?_ hsettles.noted_notMem, hpath'⟩
    have hall : (Call.acknowledged packet data).Carries ⟨bridge, now⟩ s s answer
        (.noted :: ds') := ⟨ds', rfl, hsettles⟩
    exact (List.forall_mem_cons.mp hall.occasions).2
  | timedOut packet =>
    exact .inr ⟨s, ds, .inl rfl, within hds (Packet.Settles.noted_notMem hcarries), hpath⟩
  | _ => cases hcall

/-! ## What a deed within a channel changes -/

namespace Deed.Does

variable (h : d.Does bridge s u) (hd : d.Within channel)
include h hd

/-- The other channels are the same. -/
theorem channel?_of_within {id : String} (hid : id ≠ channel) : u.channel? id = s.channel? id := by
  obtain heq | ⟨_, rfl, -⟩ | ⟨_, phase, rfl, -⟩ | ⟨p, _, rfl, -⟩ := h.channel? id
  · exact heq
  · exact hd.elim
  · exact absurd hd hid
  · exact hd.elim

/-- So are the packets that were sent on them, -/
theorem shipment?_of_within (hsound : Sound s) {id : String} (hid : id ≠ channel) (n : UInt64) :
    u.shipment? id n = s.shipment? id n := by
  obtain heq | ⟨p, rfl, -⟩ | ⟨id', n', p, status, hresolves, hp, -, rfl, -⟩ := h.shipment? id n
  · exact heq
  · exact hd.elim
  · rw [(hsound.filed hp).1] at hid
    obtain ⟨-, rfl⟩ | ⟨-, rfl⟩ := hresolves <;> exact absurd hd hid

/-- and the marks of those that are pending. -/
theorem pending_of_within (hsound : Sound s) {id : String} (hid : id ≠ channel) (n : UInt64) :
    Table.pending.view u (id, n) = Table.pending.view s (id, n) := by
  refine h.view_eq _ ?_
  rintro (⟨_, _, -, heq | heq⟩ | htouched)
  · cases heq
  · cases heq
  · cases d with
    | committed id' n' p | refunded id' n' p =>
      obtain heq | heq := htouched
      · cases heq
      · exact hid ((Key.pending.inj heq).1.trans ((hsound.filed h.1).1.trans hd))
    | sent => exact hd
    | _ => simp at htouched

/-- **A deposit that is gone was kept for the channel**, and none has come. -/
theorem deposit?_of_within (hsound : Sound s) (classId tokenId : String) :
    u.deposit? classId tokenId = s.deposit? classId tokenId
      ∨ u.deposit? classId tokenId = none
        ∧ ∃ deposit, s.deposit? classId tokenId = some deposit ∧ deposit.channel = channel := by
  obtain heq | ⟨-, hmoves⟩ := h.stays_or_moves classId tokenId
  · exact .inl (congrArg Prod.snd heq)
  cases d with
  | released id classId' tokenIds recipient =>
    obtain ⟨uri, deposit, hbefore, rfl, hafter⟩ := hmoves
    exact .inr ⟨congrArg Prod.snd hafter, deposit, congrArg Prod.snd hbefore, hd⟩
  | issued =>
    obtain ⟨uri, -, -, hafter⟩ := hmoves
    exact .inl (congrArg Prod.snd hafter)
  | refunded id n p =>
    obtain ⟨-, uri, deposit, hbefore, hchannel, hafter⟩ | ⟨-, uri, -, -, hafter⟩ := hmoves
    · exact .inr ⟨congrArg Prod.snd hafter, deposit, congrArg Prod.snd hbefore,
        hchannel.trans ((hsound.filed h.1).1.trans hd)⟩
    · exact .inl (congrArg Prod.snd hafter)
  | _ => first | exact hmoves.elim | exact hd.elim

/-- A class that is new has come over the channel. -/
theorem class?_of_within {id : String} {c : TokenClass} (hc : u.class? id = some c) :
    s.class? id = some c ∨ c.origin = .wrapped channel := by
  obtain heq | ⟨c', rfl | ⟨arrival, inner, rfl⟩, rfl, -, hu⟩ := h.class? id
  · exact .inl (heq ▸ hc)
  · exact hd.elim
  · obtain rfl := Option.some.inj (hu.symm.trans hc)
    obtain ⟨-, -, -, horigin, -⟩ := h
    exact .inr (horigin.trans (congrArg Origin.wrapped hd))

/-- **A token that is different was deposited for the channel**, or it is new, in a
class that has come over the channel. -/
theorem token?_of_within (hplain : d.Plain) (hsound : Sound s) (hregistered : Registered bridge s)
    (classId tokenId : String) :
    u.token? classId tokenId = s.token? classId tokenId
      ∨ (∃ deposit, s.deposit? classId tokenId = some deposit ∧ deposit.channel = channel)
      ∨ s.token? classId tokenId = none
        ∧ ∃ c, u.class? classId = some c ∧ c.origin = .wrapped channel := by
  obtain heq | ⟨hconcerns, hmoves⟩ := h.stays_or_moves classId tokenId
  · exact .inl (congrArg Prod.fst heq)
  cases d with
  | released id classId' tokenIds recipient =>
    obtain ⟨uri, deposit, hbefore, rfl, -⟩ := hmoves
    exact .inr (.inl ⟨deposit, congrArg Prod.snd hbefore, hd⟩)
  | issued arrival inner c tokens recipient =>
    -- the class is found under the name of the arrival, so it has arrived there
    obtain ⟨uri, -, hnone, -⟩ := hmoves
    obtain ⟨hc, -⟩ := id h
    obtain ⟨rfl, -⟩ := hconcerns
    have horigin := (hregistered.origin_of_extend hplain hc).1
    rw [← hregistered.named hc] at hc
    exact .inr (.inr ⟨hnone, c, h.class?_of_some hc,
      horigin.trans (congrArg Origin.wrapped hd)⟩)
  | refunded id n p =>
    have hchannel : p.channel = channel := (hsound.filed h.1).1.trans hd
    obtain ⟨-, uri, deposit, hbefore, hdep, -⟩ | ⟨hburned, uri, -, hnone, -⟩ := hmoves
    · exact .inr (.inl ⟨deposit, congrArg Prod.snd hbefore, hdep.trans hchannel⟩)
    -- only what has come over the channel is burned when it is sent there
    · obtain ⟨c, hc, hcustody⟩ := hsound.custody h.1
      obtain ⟨rfl, -⟩ := hconcerns
      have horigin := SendOrder.custodyOf_eq_burned_iff.mp (hcustody.symm.trans hburned)
      exact .inr (.inr ⟨hnone, c, h.class?_of_some hc,
        horigin.trans (congrArg Origin.wrapped hchannel)⟩)
  | _ => first | exact hmoves.elim | exact hd.elim

end Deed.Does

/-! ## What a callback may change -/

/-- **What may be different after callbacks on a channel.** -/
structure Contained (channel : String) (s u : Store Entry) : Prop where
  /-- The settings and the version of the bridge are the same. -/
  settings : u.settings? = s.settings?
  version : Table.version.view u () = Table.version.view s ()
  /-- The other channels are the same. -/
  channels : ∀ id, id ≠ channel → u.channel? id = s.channel? id
  /-- The packets that were sent on other channels are the same. -/
  shipments : ∀ id, id ≠ channel → ∀ n, u.shipment? id n = s.shipment? id n
  /-- The same packets are marked as pending on other channels. -/
  marks : ∀ id, id ≠ channel → ∀ n, Table.pending.view u (id, n) = Table.pending.view s (id, n)
  /-- No deposit is gone but those that were kept for the channel, and no
  other has changed or come. -/
  deposits : ∀ classId tokenId, u.deposit? classId tokenId = s.deposit? classId tokenId
    ∨ u.deposit? classId tokenId = none
      ∧ ∃ deposit, s.deposit? classId tokenId = some deposit ∧ deposit.channel = channel
  /-- The classes are the same, -/
  classes : ∀ {id c}, s.class? id = some c → u.class? id = some c
  /-- and those that are new have come over the channel. -/
  newClasses : ∀ {id c}, u.class? id = some c → s.class? id = some c ∨ c.origin = .wrapped channel
  /-- No token is different but those that were deposited for the channel,
  and those that are new, in a class that has come over the channel. -/
  tokens : ∀ classId tokenId, u.token? classId tokenId = s.token? classId tokenId
    ∨ (∃ deposit, s.deposit? classId tokenId = some deposit ∧ deposit.channel = channel)
    ∨ s.token? classId tokenId = none
      ∧ ∃ c, u.class? classId = some c ∧ c.origin = .wrapped channel

namespace Contained

theorem refl : Contained channel s s where
  settings := rfl
  version := rfl
  channels _ _ := rfl
  shipments _ _ _ := rfl
  marks _ _ _ := rfl
  deposits _ _ := .inl rfl
  classes h := h
  newClasses h := .inl h
  tokens _ _ := .inl rfl

/-- **One callback after another.** -/
theorem trans (h : Contained channel s m) (h' : Contained channel m u) :
    Contained channel s u where
  settings := h'.settings.trans h.settings
  version := h'.version.trans h.version
  channels id hid := (h'.channels id hid).trans (h.channels id hid)
  shipments id hid n := (h'.shipments id hid n).trans (h.shipments id hid n)
  marks id hid n := (h'.marks id hid n).trans (h.marks id hid n)
  deposits classId tokenId := by
    obtain hu | ⟨hu, hm⟩ := h'.deposits classId tokenId
    · rw [hu]
      exact h.deposits classId tokenId
    · obtain hs | ⟨hnone, hs⟩ := h.deposits classId tokenId
      · exact .inr ⟨hu, hs ▸ hm⟩
      · exact .inr ⟨hu, hs⟩
  classes hc := h'.classes (h.classes hc)
  newClasses hc := by
    obtain hm | ho := h'.newClasses hc
    · exact h.newClasses hm
    · exact .inr ho
  tokens classId tokenId := by
    obtain hm | hdep | ⟨hnone, c, hc, ho⟩ := h.tokens classId tokenId
    · obtain hu | ⟨deposit, hdep, hchannel⟩ | ⟨hnone, hclass⟩ := h'.tokens classId tokenId
      · exact .inl (hu.trans hm)
      -- callbacks make no deposits, so this one was there before
      · obtain hs | ⟨hnone, -⟩ := h.deposits classId tokenId
        · exact .inr (.inl ⟨deposit, hs ▸ hdep, hchannel⟩)
        · cases hnone.symm.trans hdep
      · exact .inr (.inr ⟨hm ▸ hnone, hclass⟩)
    · exact .inr (.inl hdep)
    · exact .inr (.inr ⟨hnone, c, h'.classes hc, ho⟩)

/-- Noting an acknowledgement changes nothing of this. -/
theorem keep_lastAck {ack : Ack} : Contained channel s (s.keep .lastAck (.lastAck ack)) := by
  have hview {κ α : Type} (t : Table κ α) {i : κ} (hi : t.key i ≠ .lastAck) :
      t.view (s.keep .lastAck (.lastAck ack)) i = t.view s i := by
    rw [Table.view_keep (by decide), if_neg hi]
  exact {
    settings := hview _ (by simp)
    version := hview _ (by simp)
    channels := fun _ _ => hview _ (by simp)
    shipments := fun _ _ _ => hview _ (by simp)
    marks := fun _ _ _ => hview _ (by simp)
    deposits := fun _ _ => .inl (hview _ (by simp))
    classes := fun hc => (hview _ (by simp)).trans hc
    newClasses := fun hc => .inl ((hview _ (by simp)).symm.trans hc)
    tokens := fun _ _ => .inl (hview _ (by simp)) }

/-- **What a deed within a channel changes.** -/
theorem of_does (h : d.Does bridge s u) (hd : d.Within channel) (hplain : d.Plain)
    (hsound : Sound s) (hregistered : Registered bridge s) : Contained channel s u where
  settings := h.view_eq _ (by cases d <;> simp_all [Deed.Touches, Deed.Within])
  version := h.view_eq _ (by cases d <;> simp_all [Deed.Touches, Deed.Within])
  channels _ hid := h.channel?_of_within hd hid
  shipments _ hid n := h.shipment?_of_within hd hsound hid n
  marks _ hid n := h.pending_of_within hd hsound hid n
  deposits := h.deposit?_of_within hd hsound
  classes hc := h.class?_of_some hc
  newClasses hc := h.class?_of_within hd hc
  tokens := h.token?_of_within hd hplain hsound hregistered

/-- **What a callback changes.** -/
theorem of_callback {turn : Turn} (hcall : turn.call.callbackOn? = some channel)
    (hplain : turn.call.Plain) (hsound : Sound s) (hregistered : Registered bridge s) :
    Contained channel s (turn.after bridge s) := by
  obtain heq | ⟨m, ds, hm, hds, hpath⟩ := turn.callback_path hcall s
  · rw [heq]
    exact .refl
  have hnoted : Sound m ∧ Registered bridge m ∧ Contained channel s m := by
    obtain rfl | ⟨ack, rfl⟩ := hm
    · exact ⟨hsound, hregistered, .refl⟩
    · exact ⟨hsound.keep_lastAck, hregistered.of_does Deed.noted_keep_lastAck trivial,
        .keep_lastAck⟩
  -- the deeds are within the channel as long as the store is sound and its classes registered
  refine (hpath.keeps (P := fun u => Sound u ∧ Registered bridge u ∧ Contained channel s u)
    (fun hd hdoes hs => ?_) hnoted).2.2
  obtain ⟨hoccasion, hwithin⟩ := hds _ hd
  have hd := hoccasion.plain hplain
  exact ⟨hs.1.of_does hdoes, hs.2.1.of_does hdoes hd,
    hs.2.2.trans (.of_does hdoes hwithin hd hs.1 hs.2.1)⟩

/-- What is deposited for another channel stays where it is. -/
theorem whereabouts (h : Contained channel s u) (hheld : Held bridge s) {classId tokenId : String}
    {deposit : Deposit} (hdep : s.deposit? classId tokenId = some deposit)
    (hne : deposit.channel ≠ channel) :
    u.whereabouts classId tokenId = s.whereabouts classId tokenId := by
  have hnot : ¬ ∃ deposit, s.deposit? classId tokenId = some deposit
      ∧ deposit.channel = channel := by
    rintro ⟨deposit', hdep', hchannel⟩
    obtain rfl := Option.some.inj (hdep.symm.trans hdep')
    exact hne hchannel
  have hdeposit : u.deposit? classId tokenId = s.deposit? classId tokenId :=
    (h.deposits classId tokenId).resolve_right fun hgone => hnot hgone.2
  have htoken : u.token? classId tokenId = s.token? classId tokenId := by
    obtain heq | hdep' | ⟨hnone, -⟩ := h.tokens classId tokenId
    · exact heq
    · exact absurd hdep' hnot
    · obtain ⟨uri, ht⟩ := hheld _ _ _ hdep
      cases hnone.symm.trans ht
  rw [Store.whereabouts, htoken, hdeposit]

end Contained

/-! ## Channels that misbehave -/

/-- A callback does not come from an account. -/
theorem Call.notBy_of_callbackOn? {call : Call} (h : call.callbackOn? = some channel) :
    call.NotBy bridge := by
  cases call with
  | command => cases h
  | _ => trivial

/-- **A channel that misbehaves is contained**, whatever history the bridge has
had, if none of its calls came from its own account and packets arrived at
endpoints whose names are free of slashes.

A callback on a channel, with whatever data, changes no more than `Contained`
says. So what is deposited for a channel is out of reach for all others: after
any callbacks on them the token is where it was. -/
theorem callbacks_contained {past : List Turn} (hpast : ∀ turn ∈ past, turn.call.NotBy bridge)
    (hplain : ∀ turn ∈ past, turn.call.Plain) :
    (∀ channel (turn : Turn), turn.call.callbackOn? = some channel → turn.call.Plain →
        Contained channel (storeAfter bridge past) (turn.after bridge (storeAfter bridge past)))
      ∧ ∀ channel (later : List Turn),
        (∀ turn ∈ later, turn.call.Plain
          ∧ ∃ other, turn.call.callbackOn? = some other ∧ other ≠ channel) →
        ∀ classId tokenId deposit,
          (storeAfter bridge past).deposit? classId tokenId = some deposit →
          deposit.channel = channel →
          (storeAfter bridge (later ++ past)).whereabouts classId tokenId
            = (storeAfter bridge past).whereabouts classId tokenId := by
  refine ⟨fun channel turn hcall hturn =>
    .of_callback hcall hturn (sound_after past) (registered_after hplain), ?_⟩
  intro channel later hlater classId tokenId deposit hdep hchannel
  induction later with
  | nil => rfl
  | cons turn later ih =>
    obtain ⟨⟨hturn, other, hcall, hne⟩, hlater⟩ := List.forall_mem_cons.mp hlater
    have hall : ∀ turn ∈ later ++ past, turn.call.NotBy bridge ∧ turn.call.Plain := by
      intro turn hmem
      obtain hmem | hmem := List.mem_append.mp hmem
      · obtain ⟨hplain, other, hcall, -⟩ := hlater turn hmem
        exact ⟨Call.notBy_of_callbackOn? hcall, hplain⟩
      · exact ⟨hpast turn hmem, hplain turn hmem⟩
    have hstays := ih hlater
    have hcontained : Contained other (storeAfter bridge (later ++ past))
        (storeAfter bridge (turn :: later ++ past)) :=
      .of_callback hcall hturn (sound_after _) (registered_after fun turn h => (hall turn h).2)
    -- the deposit is still there, and it is not one of the channel that calls back
    have hdep' : (storeAfter bridge (later ++ past)).deposit? classId tokenId = some deposit :=
      (congrArg Prod.snd hstays).trans hdep
    rw [hcontained.whereabouts (held_after fun turn h => (hall turn h).1) hdep'
      (hchannel ▸ hne.symm), hstays]

/-- A packet that claims to bring home the moon of Alice, over a channel to
which it was not handed over. -/
def impostor : Packet :=
  { source := ⟨"wasm.reef", "channel-3"⟩, destination := ⟨"wasm.harbor", "channel-1"⟩,
    sequence := 1,
    data := PacketData.encode
      { classId := "wasm.reef/channel-3/art", classUri := none, tokenIds := ["moon"],
        tokenUris := [none], sender := "mallory", receiver := "mallory" } }

/-- A second channel is opened after the first voyage. -/
def reefVoyage : List Turn :=
  ⟨5, .connected { harborChannel with here := impostor.destination, there := impostor.source }
    none⟩ :: firstVoyage

/-- The impostor gets a moon, but it is not the moon of Alice. -/
example : (storeAfter harbor (⟨6, .arrived impostor⟩ :: reefVoyage)).token?
    "wasm.harbor/channel-1/wasm.reef/channel-3/art" "moon" = some ⟨"mallory", none⟩ := by
  decide +kernel

/-- Neither the arrival of the impostor nor the close of its channel gets at
the moon of Alice. -/
theorem callbacks_contained_reefVoyage :
    (∀ turn ∈ reefVoyage, turn.call.NotBy harbor) ∧ (∀ turn ∈ reefVoyage, turn.call.Plain)
      ∧ Contained "channel-1" (storeAfter harbor reefVoyage)
        (storeAfter harbor (⟨6, .arrived impostor⟩ :: reefVoyage))
      ∧ (storeAfter harbor
          ([⟨7, .closed "channel-1" .theirs⟩, ⟨6, .arrived impostor⟩] ++ reefVoyage)).whereabouts
          "art" "moon"
        = (some ⟨harbor, some "ipfs://moon"⟩, some ⟨"art", "moon", "channel-0", "alice"⟩) := by
  have hnotBy : ∀ turn ∈ reefVoyage, turn.call.NotBy harbor := by decide
  have hplain : ∀ turn ∈ reefVoyage, turn.call.Plain := by decide
  have hwhere : (storeAfter harbor reefVoyage).whereabouts "art" "moon"
      = (some ⟨harbor, some "ipfs://moon"⟩, some ⟨"art", "moon", "channel-0", "alice"⟩) := by
    decide +kernel
  obtain ⟨hcontained, hstays⟩ := callbacks_contained hnotBy hplain
  refine ⟨hnotBy, hplain, hcontained "channel-1" ⟨6, .arrived impostor⟩ rfl (by decide), ?_⟩
  rw [← hwhere]
  refine hstays "channel-0" _ ?_ _ _ _ (congrArg Prod.snd hwhere) rfl
  simp only [List.forall_mem_cons, List.not_mem_nil, false_implies, implies_true, and_true]
  exact ⟨⟨trivial, _, rfl, by decide⟩, by decide, _, rfl, by decide⟩

end TokenBridge
