import TokenBridge.Proofs.Network
import TokenBridge.Proofs.Phases
import TokenBridge.Proofs.Refunds
import TokenBridge.Proofs.Switching

/-!
# A bridge that is paused

A bridge that is paused stays so until its admin lets it go on (`Turn.paused_after`).
The switch is kept in one record with the admin and the timeout, and whoever changes
the record writes all of it back, so this has to be seen of every call
(`Turn.settings?_of_take`). Meanwhile the bridge sends nothing and takes nothing. That
is said in two places only: the switch is looked at where tokens are sent and where a
packet is applied. All the rest follows from the deeds that are left (`Deed.Dormant`).
There are no new records of packets, no new marks, no new deposits and no new classes
that have come from elsewhere, and no channel takes a number (`NothingNew`).

What was under way before the pause still comes to its end. A deposit may end, but
only by the refund of a packet that was sent on its channel
(`Turn.cleared_by_refund`), and a token may come into being, but only if the minter of
its class mints it, or if it was burned and comes back. That the pause does not even
influence how packets are settled is the other half of `pause_guarantees`, and it was
shown before (`Turn.take_switched`).
-/

namespace TokenBridge

open Program Store

variable {bridge : Address} {s m u : Store Entry} {d : Deed} {ds : List Deed}
  {past : List Turn} {turn : Turn} {id classId tokenId : String} {n : UInt64} {p : Shipment}
  {deposit : Deposit} {token : Token} {context : Context}

/-! ## The pause -/

/-- **Whether a bridge is paused.** -/
def Store.Paused (s : Store Entry) : Prop := ∃ c, s.settings? = some c ∧ c.paused = true

/-- **Whether a turn lets a bridge go on**: its call is to do so, or to set the bridge
up once more, and it is answered. -/
def Turn.Resumes (bridge : Address) (turn : Turn) (s : Store Entry) : Prop :=
  ((∃ m, turn.call = .setup m) ∨ ∃ account, turn.call = .command account .unpause)
    ∧ ∃ answer u, turn.take bridge s = (.ok answer, u)

/-- **Whether nothing lets a bridge go on** in the turns that follow a history, the
latest of which comes first. -/
def Unresumed (bridge : Address) (past : List Turn) : List Turn → Prop
  | [] => True
  | turn :: later =>
    ¬ turn.Resumes bridge (storeAfter bridge (later ++ past)) ∧ Unresumed bridge past later

/-- Whether a call notes something, be it in the settings or elsewhere. -/
def Call.Notes : Call → Prop
  | .setup _ => True
  | .migrate _ => True
  | .command _ .pause => True
  | .command _ .unpause => True
  | .command _ (.setDefaultTimeout _) => True
  | .acknowledged .. => True
  | _ => False

theorem Call.Carries.not_noted {answer : Answer} {call : Call}
    (h : call.Carries context s u answer ds) (hcall : ¬ call.Notes) : Deed.noted ∉ ds := by
  have closes {channel : String} (h : Closes channel ds) : Deed.noted ∉ ds := by
    intro hd
    obtain ⟨_, ⟨⟩⟩ | ⟨_, _, ⟨⟩⟩ := h _ hd
  cases call with
  | setup | migrate | acknowledged => exact absurd trivial hcall
  | command account m =>
    cases m with
    | pause | unpause | setDefaultTimeout => exact absurd trivial hcall
    | createClass =>
      obtain ⟨c, rfl, -⟩ := h
      simp
    | send =>
      obtain ⟨sent, -, rfl, -⟩ := h
      simp
    | closeChannel => exact closes h
    | mint | transfer =>
      obtain rfl := h
      simp
  | offered =>
    obtain rfl := h
    simp
  | connected =>
    obtain ⟨channel, rfl, -⟩ := h
    simp
  | closed => exact closes h
  | arrived packet =>
    obtain ⟨receipt, -, ⟨-, rfl⟩ | ⟨-, data, -, -, ⟨home, -, rfl⟩ | ⟨-, c, rfl | rfl⟩⟩⟩ := h <;>
      simp
  | timedOut packet => exact Packet.Settles.noted_notMem h

theorem Path.settings?_eq (h : Path bridge s ds u) (hds : Deed.noted ∉ ds) :
    u.settings? = s.settings? := by
  refine h.keeps (P := fun m => m.settings? = s.settings?) (fun {_ _ d} hd hdoes hm => ?_) rfl
  rw [← hm]
  refine hdoes.view_eq _ ?_
  cases d with
  | noted => exact absurd hd hds
  | _ => simp [Deed.Touches, Deed.Concerns]

/-- **What becomes of the settings** in a turn that is answered. They are made when the
bridge is set up, and from then on the admin alone changes them, one thing at a time. -/
theorem Turn.settings?_of_take {answer : Answer} (htake : turn.take bridge s = (.ok answer, u)) :
    u.settings? = s.settings? ∨ (∃ m, turn.call = .setup m)
      ∨ ∃ c, s.settings? = some c
        ∧ (turn.call = .command c.admin .pause ∧ u.settings? = some { c with paused := true }
          ∨ turn.call = .command c.admin .unpause ∧ u.settings? = some { c with paused := false }
          ∨ ∃ seconds, turn.call = .command c.admin (.setDefaultTimeout seconds)
            ∧ u.settings? = some { c with defaultTimeout := seconds }) := by
  obtain ⟨ds, hcarries, hpath⟩ := path_of_take htake
  have hyields := take_eq_ok_iff.mp htake
  obtain ⟨now, call⟩ := turn
  cases call with
  | setup m => exact .inr (.inl ⟨m, rfl⟩)
  | migrate m =>
    simp only [Call.perform, Migration.carryOut, yields_map, yields_bind, yields_pure,
      Table.yields_put] at hyields
    obtain ⟨_, ⟨_, _, ⟨-, rfl⟩, -, rfl⟩, -⟩ := hyields
    exact .inl (Table.view_of_changedOnly (P := (· = .version)) (.keep rfl) _ (by simp))
  | command account m =>
    cases m with
    | pause =>
      simp only [Call.perform, Command.carryOut, Settings.setPaused, yields_map, yields_bind,
        yields_pure, Settings.yields_loadFor, Table.yields_put] at hyields
      obtain ⟨_, ⟨_, _, ⟨c, _, ⟨hc, rfl, rfl⟩, -, rfl⟩, -, rfl⟩, -⟩ := hyields
      exact .inr (.inr ⟨c, hc, .inl ⟨rfl, settings?_keep⟩⟩)
    | unpause =>
      simp only [Call.perform, Command.carryOut, Settings.setPaused, yields_map, yields_bind,
        yields_pure, Settings.yields_loadFor, Table.yields_put] at hyields
      obtain ⟨_, ⟨_, _, ⟨c, _, ⟨hc, rfl, rfl⟩, -, rfl⟩, -, rfl⟩, -⟩ := hyields
      exact .inr (.inr ⟨c, hc, .inr (.inl ⟨rfl, settings?_keep⟩)⟩)
    | setDefaultTimeout seconds =>
      simp only [Call.perform, Command.carryOut, Settings.setDefaultTimeout, yields_map,
        yields_bind, yields_pure, yields_ofExcept, Settings.yields_loadFor,
        Table.yields_put] at hyields
      obtain ⟨_, ⟨_, _, ⟨c, _, ⟨hc, rfl, rfl⟩, _, _, ⟨-, rfl⟩, -, rfl⟩, -, rfl⟩, -⟩ := hyields
      exact .inr (.inr ⟨c, hc, .inr (.inr ⟨seconds, rfl, settings?_keep⟩)⟩)
    | _ => exact .inl (hpath.settings?_eq (hcarries.not_noted not_false))
  | acknowledged packet data =>
    obtain ⟨_, hr, -⟩ := yields_map.mp hyields
    obtain ⟨ds, hsettles, hpath⟩ := Packet.acknowledged_settles hr
    refine .inl ((hpath.settings?_eq hsettles.noted_notMem).trans ?_)
    exact Table.view_of_changedOnly (P := (· = .lastAck)) (.keep rfl) _ (by simp)
  | _ => exact .inl (hpath.settings?_eq (hcarries.not_noted not_false))

/-- **A bridge that is paused stays so**, unless a turn lets it go on. -/
theorem Turn.paused_after (hs : s.Paused) (hturn : ¬ turn.Resumes bridge s) :
    (turn.after bridge s).Paused := by
  obtain heq | ⟨answer, htake⟩ := turn.after_eq_or_take bridge s
  · rwa [heq]
  obtain ⟨c, hc, hpaused⟩ := hs
  obtain hkept | ⟨m, hcall⟩ | ⟨c', hc', ⟨-, hu⟩ | ⟨hcall, -⟩ | ⟨seconds, -, hu⟩⟩ :=
    settings?_of_take htake
  · exact ⟨c, hkept.trans hc, hpaused⟩
  · exact absurd ⟨.inl ⟨m, hcall⟩, answer, _, htake⟩ hturn
  · exact ⟨_, hu, rfl⟩
  · exact absurd ⟨.inr ⟨_, hcall⟩, answer, _, htake⟩ hturn
  · obtain rfl := Option.some.inj (hc'.symm.trans hc)
    exact ⟨_, hu, hpaused⟩

theorem paused_after {later : List Turn} (hpaused : (storeAfter bridge past).Paused)
    (hlater : Unresumed bridge past later) : (storeAfter bridge (later ++ past)).Paused := by
  induction later with
  | nil => exact hpaused
  | cons turn later ih => exact Turn.paused_after (ih hlater.2) hlater.1

/-! ## What a paused bridge refuses -/

/-- Nothing is sent by a bridge that is paused. -/
theorem SendOrder.not_yields_of_paused {order : SendOrder} {sender : Address} {sent : Sent}
    (hs : s.Paused) : ¬ (order.run context sender).Yields s sent u := by
  intro h
  obtain ⟨c, hc, hpaused⟩ := hs
  obtain ⟨c', -, -, -, -, hc', hgoing, -⟩ := of_yields_run h
  obtain rfl := Option.some.inj (hc'.symm.trans hc)
  cases hgoing.symm.trans hpaused

/-- **No answer of a bridge that is paused asks for a packet to be sent.** -/
theorem Turn.packet?_of_paused {answer : Answer} (hs : s.Paused)
    (htake : turn.take bridge s = (.ok answer, u)) (channel : String) :
    answer.packet? channel = none := by
  refine Call.packet?_of_yields (take_eq_ok_iff.mp htake) (fun account order hcall => ?_) channel
  obtain ⟨ds, hcarries, -⟩ := path_of_take htake
  rw [hcall] at hcarries
  obtain ⟨sent, hsent, -⟩ := hcarries
  exact SendOrder.not_yields_of_paused hs hsent

/-- **Every packet that arrives is refused by a bridge that is paused**, whatever else
is wrong with it, and is answered. -/
theorem Packet.refused_of_paused (hs : s.Paused) (packet : Packet) (context : Context) :
    ∃ fault : Fault, (fault = .paused ∨ fault = .unnamedClass)
      ∧ (packet.arrived context).Yields s
        { ack := .error fault.message,
          attributes := packet.arrivalAttributes ++ [("error", fault.message)] } s := by
  obtain ⟨c, hc, hpaused⟩ := hs
  have happly : (packet.apply context).Fails s (.error .paused) s :=
    fails_bind.mpr (.inr ⟨c, s, Settings.yields_load.mpr ⟨hc, rfl⟩,
      fails_guard.mpr (.inl ⟨hpaused, rfl, rfl⟩)⟩)
  obtain ⟨fault, hfault, hrefused⟩ : ∃ fault : Fault, (fault = .paused ∨ fault = .unnamedClass)
      ∧ (packet.receive context).Fails s (.error fault) s := by
    cases hcheck : packet.checkEnvelope with
    | error fault =>
      refine ⟨fault, .inr ?_, fails_bind.mpr (.inl (fails_ofExcept.mpr ⟨fault, hcheck, rfl, rfl⟩))⟩
      unfold checkEnvelope at hcheck
      split at hcheck
      · split at hcheck
        · exact (Except.error.inj hcheck).symm
        · cases hcheck
      · cases hcheck
    | ok =>
      have htake : (packet.apply context).transactional.Fails s (.error .paused) s :=
        (fails_transactional (Bridge.accepted _ _)).mpr ⟨⟨s, happly⟩, rfl⟩
      exact ⟨.paused, .inl rfl,
        fails_bind.mpr (.inr ⟨(), s, yields_ofExcept.mpr ⟨hcheck, rfl⟩, htake⟩)⟩
  refine ⟨fault, hfault, yields_bind.mpr ⟨.error (.error fault), s, ?_, yields_pure.mpr ⟨rfl, rfl⟩⟩⟩
  exact (yields_attempt (Bridge.accepted _ _)).mpr hrefused

theorem Turn.take_of_paused {packet : Packet} (hs : s.Paused)
    (hcall : turn.call = .arrived packet) :
    ∃ fault : Fault, (fault = .paused ∨ fault = .unnamedClass)
      ∧ turn.take bridge s = (.ok (.receipt
        { ack := .error fault.message,
          attributes := packet.arrivalAttributes ++ [("error", fault.message)] }), s) := by
  obtain ⟨now, call⟩ := turn
  obtain rfl : call = .arrived packet := hcall
  obtain ⟨fault, hfault, harrived⟩ := Packet.refused_of_paused hs packet ⟨bridge, now⟩
  exact ⟨fault, hfault, take_eq_ok_iff.mpr (yields_map.mpr ⟨_, harrived, rfl⟩)⟩

/-! ## Deeds of a paused bridge -/

/-- **Whether a bridge may do a deed while it is paused**: it sends nothing, and it takes
nothing that arrives. -/
def Deed.Dormant : Deed → Prop
  | .sent _ => False
  | .wrapped .. => False
  | .released .. => False
  | .issued .. => False
  | _ => True

theorem Deed.Dormant.not_isSend (h : d.Dormant) : ¬ d.IsSend := by
  cases d <;> first | exact not_false | exact h.elim

theorem Deed.SettlesOn.dormant (h : d.SettlesOn id) : d.Dormant := by
  cases d <;> trivial

/-- **A turn of a paused bridge leaves the store as it was, or it goes a path of dormant
deeds.** -/
theorem Turn.dormant_path (bridge : Address) (turn : Turn) (hs : s.Paused) :
    turn.after bridge s = s
      ∨ ∃ answer ds, turn.call.Carries ⟨bridge, turn.now⟩ s (turn.after bridge s) answer ds
        ∧ Path bridge s ds (turn.after bridge s) ∧ ∀ d ∈ ds, d.Dormant := by
  obtain heq | ⟨answer, ds, htake, hcarries, hpath⟩ := turn.path bridge s
  · exact .inl heq
  by_cases harrived : ∃ packet, turn.call = .arrived packet
  · obtain ⟨packet, hcall⟩ := harrived
    obtain ⟨fault, -, hrefused⟩ := Turn.take_of_paused hs hcall
    exact .inl (congrArg Prod.snd hrefused)
  · refine .inr ⟨answer, ds, hcarries, hpath, fun d hd => ?_⟩
    have hoccasion := hcarries.occasions d hd
    cases d with
    | sent p =>
      obtain ⟨order, hcall, -⟩ := hoccasion
      rw [hcall] at hcarries
      obtain ⟨sent, hsent, -⟩ := hcarries
      exact SendOrder.not_yields_of_paused hs hsent
    | wrapped | released | issued =>
      obtain ⟨packet, hcall, -⟩ := hoccasion
      exact harrived ⟨packet, hcall⟩
    | _ => trivial

/-- **What does not come into being while a bridge is paused**, between two stores. -/
structure NothingNew (s u : Store Entry) : Prop where
  /-- There is no record of a packet but those that were there, -/
  shipments : ∀ id n, s.shipment? id n = none → u.shipment? id n = none
  /-- no packet is marked as pending but those that were, -/
  marks : ∀ id n, s.look (.pending id n) = none → u.look (.pending id n) = none
  /-- nothing is deposited but what was, in the same way, -/
  deposits : ∀ classId tokenId deposit, u.deposit? classId tokenId = some deposit →
    s.deposit? classId tokenId = some deposit
  /-- and of the classes that have come from elsewhere there are those that there were. -/
  classes : ∀ classId c channel, u.class? classId = some c → c.origin = .wrapped channel →
    s.class? classId = some c
  /-- The channels have the same next numbers. -/
  channels : ∀ id channel, s.channel? id = some channel →
    ∃ channel', u.channel? id = some channel' ∧ channel'.nextSequence = channel.nextSequence

namespace NothingNew

theorem refl : NothingNew s s where
  shipments _ _ h := h
  marks _ _ h := h
  deposits _ _ _ h := h
  classes _ _ _ h _ := h
  channels _ channel h := ⟨channel, h, rfl⟩

theorem trans (h : NothingNew s m) (h' : NothingNew m u) : NothingNew s u where
  shipments id n hn := h'.shipments id n (h.shipments id n hn)
  marks id n hn := h'.marks id n (h.marks id n hn)
  deposits classId tokenId deposit hu :=
    h.deposits classId tokenId deposit (h'.deposits classId tokenId deposit hu)
  classes classId c channel hu ho :=
    h.classes classId c channel (h'.classes classId c channel hu ho) ho
  channels id channel hc := by
    obtain ⟨channel', hm, heq⟩ := h.channels id channel hc
    obtain ⟨channel'', hu, heq'⟩ := h'.channels id channel' hm
    exact ⟨channel'', hu, heq'.trans heq⟩

end NothingNew

/-- A deed that is no send marks nothing as pending. -/
theorem Deed.Does.look_pending (h : d.Does bridge s u) (hd : ¬ d.IsSend)
    (hn : s.look (.pending id n) = none) : u.look (.pending id n) = none := by
  have settled {m : Store Entry} {q : Shipment} {status : Status}
      (hm : m.look (.pending id n) = none) :
      (m.settled q status).look (.pending id n) = none := by
    rw [Store.settled, look_drop]
    split
    · rfl
    · rw [(ChangedOnly.keep (P := (· = .shipment q.channel q.sequence)) rfl).look (by simp), hm]
  cases d with
  | sent => exact absurd trivial hd
  | committed =>
    obtain ⟨-, -, -, rfl⟩ := h
    exact settled hn
  | refunded =>
    obtain ⟨-, -, -, m, hm, rfl⟩ := h
    exact settled ((hm.rest.look (by simp)).trans hn)
  | _ => exact (h.changedOnly.look (by simp [Touches, Concerns])).trans hn

/-- **A dormant deed brings nothing new.** -/
theorem Deed.Does.nothingNew (h : d.Does bridge s u) (hs : Sound s) (hd : d.Dormant) :
    NothingNew s u where
  shipments id n hn := by
    obtain hu | ⟨q, rfl, -⟩ := hs.shipment?_of_none h hn
    · exact hu
    · exact hd.elim
  marks id n := h.look_pending hd.not_isSend
  deposits classId tokenId := (h.spares hd.not_isSend classId tokenId).2
  classes classId c channel hu ho := by
    obtain heq | ⟨c', rfl | ⟨arrival, inner, rfl⟩, -, -, hc'⟩ := h.class? classId
    · exact heq ▸ hu
    · obtain rfl := Option.some.inj (hc'.symm.trans hu)
      obtain ⟨-, -, -, hnative, -⟩ := h
      cases hnative.symm.trans ho
    · exact hd.elim
  channels id channel hc := by
    obtain ⟨channel', hu, ⟨-, hbecomes⟩ | ⟨hsends, -⟩⟩ := h.channel?_of_some hs hc
    · exact ⟨channel', hu, UInt64.toNat.inj hbecomes.nextSequence⟩
    · cases d with
      | sent => exact hd.elim
      | _ => exact hsends.elim

theorem Path.nothingNew (h : Path bridge s ds u) (hs : Sound s) (hds : ∀ d ∈ ds, d.Dormant) :
    NothingNew s u := by
  induction h with
  | nil => exact .refl
  | cons first _ ih =>
    obtain ⟨hfirst, hothers⟩ := List.forall_mem_cons.mp hds
    exact (first.nothingNew hs hfirst).trans (ih (hs.of_does first) hothers)

theorem Turn.nothingNew (turn : Turn) (hs : Sound s) (hpaused : s.Paused) :
    NothingNew s (turn.after bridge s) := by
  obtain heq | ⟨answer, ds, -, hpath, hds⟩ := turn.dormant_path bridge hpaused
  · rw [heq]
    exact .refl
  · exact hpath.nothingNew hs hds

/-- **Nothing new comes into being** until something lets the bridge go on. -/
theorem nothingNew_after {later : List Turn} (hpaused : (storeAfter bridge past).Paused)
    (hlater : Unresumed bridge past later) :
    NothingNew (storeAfter bridge past) (storeAfter bridge (later ++ past)) := by
  induction later with
  | nil => exact .refl
  | cons turn later ih =>
    exact (ih hlater.2).trans (turn.nothingNew (sound_after _) (paused_after hpaused hlater.2))

/-! ## What comes to its end -/

/-- **A dormant deed ends a deposit** only if it refunds a packet that was sent on its
channel and whose token it is. -/
theorem Deed.Does.deposit?_of_dormant (h : d.Does bridge s u) (hd : d.Dormant)
    (hdep : s.deposit? classId tokenId = some deposit) :
    u.deposit? classId tokenId = some deposit
      ∨ ∃ channel n p, d = .refunded channel n p ∧ p.custody = .escrowed ∧ p.classId = classId
        ∧ tokenId ∈ p.tokenIds ∧ p.channel = deposit.channel := by
  obtain heq | ⟨hconcerns, hmoves⟩ := h.stays_or_moves classId tokenId
  · exact .inl ((congrArg Prod.snd heq).trans hdep)
  cases d with
  | minted => exact .inl ((congrArg Prod.snd hmoves.2).trans hdep)
  | passed =>
    obtain ⟨uri, -, ha⟩ := hmoves
    exact .inl ((congrArg Prod.snd ha).trans hdep)
  | refunded channel n p =>
    obtain ⟨hescrowed, uri, deposit', hb, hchannel, -⟩ | ⟨-, uri, -, -, ha⟩ := hmoves
    · obtain rfl := Option.some.inj ((congrArg Prod.snd hb).symm.trans hdep)
      obtain ⟨hclass, ⟨-, hmem⟩ | ⟨hburned, -⟩⟩ := hconcerns
      · exact .inr ⟨channel, n, p, rfl, hescrowed, hclass, hmem, hchannel.symm⟩
      · cases hescrowed.symm.trans hburned
    · exact .inl ((congrArg Prod.snd ha).trans hdep)
  | sent | released | issued => exact hd.elim
  | _ => exact hmoves.elim

/-- **A deposit that ends while packets of a channel are settled** is one for the channel,
and a packet of its token is refunded. -/
theorem Path.cleared_by_refund (h : Path bridge s ds u) (hs : Sound s)
    (hds : ∀ d ∈ ds, d.SettlesOn id) (hdep : s.deposit? classId tokenId = some deposit)
    (hgone : u.deposit? classId tokenId ≠ some deposit) :
    ∃ n p, Undone s u id n p ∧ p.custody = .escrowed ∧ p.classId = classId
      ∧ tokenId ∈ p.tokenIds ∧ deposit.channel = id := by
  induction h with
  | nil => exact absurd hdep hgone
  | cons first others ih =>
    obtain ⟨hfirst, hothers⟩ := List.forall_mem_cons.mp hds
    obtain hm | ⟨channel, n, p, rfl, hescrowed, hclass, hmem, hchannel⟩ :=
      first.deposit?_of_dormant hfirst.dormant hdep
    · obtain ⟨n, p, hundone, h⟩ := ih (hs.of_does first) hothers hm hgone
      exact ⟨n, p, undone_cons first hs hfirst.not_isSend hundone, h⟩
    · obtain rfl : channel = id := hfirst
      have hundone := Path.undone_of_first first others hs
      exact ⟨n, p, hundone, hescrowed, hclass, hmem,
        hchannel.symm.trans (hs.filed hundone.1).1⟩

/-- **A deposit ends while a bridge is paused** only by the refund of a packet that was
sent on its channel, and the token goes to the one who sent that packet. -/
theorem Turn.cleared_by_refund (turn : Turn) (hs : Sound s) (hpaused : s.Paused)
    (hdep : s.deposit? classId tokenId = some deposit)
    (hgone : (turn.after bridge s).deposit? classId tokenId ≠ some deposit) :
    ∃ n p, Undone s (turn.after bridge s) deposit.channel n p ∧ p.custody = .escrowed
      ∧ p.classId = classId ∧ tokenId ∈ p.tokenIds
      ∧ ∃ uri, (turn.after bridge s).token? classId tokenId = some ⟨p.sender, uri⟩ := by
  obtain heq | ⟨answer, ds, hcarries, hpath, hds⟩ := turn.dormant_path bridge hpaused
  · rw [heq] at hgone
    exact absurd hdep hgone
  cases hc : turn.call.settles? with
  | some channel =>
    obtain ⟨n, p, hundone, hescrowed, rfl, hmem, rfl⟩ :=
      hpath.cleared_by_refund hs (hcarries.settlesOn hc) hdep hgone
    obtain ⟨-, uri, ht, -⟩ := hpath.undone_keeps hs (hcarries.settlesOn hc) hundone hmem
    exact ⟨n, p, hundone, hescrowed, rfl, hmem, uri, ht⟩
  | none =>
    -- no packet is refunded, so the deposit is kept
    refine absurd ?_ hgone
    refine hpath.keeps (P := fun m => m.deposit? classId tokenId = some deposit) ?_ hdep
    intro s u d hd h hdep
    obtain hkept | ⟨channel, n, p, rfl, -⟩ := h.deposit?_of_dormant (hds d hd) hdep
    · exact hkept
    · cases (hcarries.occasions _ hd).symm.trans hc

/-- **A token comes into being while a bridge is paused** only if the minter of its class
mints it, or if it was burned and its packet is refunded. -/
theorem Turn.minted_or_restored (hpaused : (storeAfter bridge past).Paused)
    (hnot : turn.call.NotBy bridge)
    (hn : (storeAfter bridge past).token? classId tokenId = none)
    (ht : (storeAfter bridge (turn :: past)).token? classId tokenId = some token) :
    (∃ account, MintedBy bridge past turn classId tokenId token account)
      ∨ ∃ channel n, RestoredFrom bridge past turn classId tokenId token channel n := by
  cases hc : turn.call.settles? with
  | some channel => exact .inr ⟨channel, Turn.restored hc hn ht⟩
  | none =>
    obtain heq | ⟨answer, ds, hcarries, hpath, hds⟩ := turn.dormant_path bridge hpaused
    · rw [storeAfter_cons, heq, hn] at ht
      cases ht
    obtain ⟨d, hd, m, m', made, hdoes, hm, hm'⟩ := hpath.exists_making hn ht
    have hoccasion := hcarries.occasions d hd
    obtain ⟨minter, rfl⟩ | ⟨_, _, _, _, rfl, -⟩ | ⟨channel, n, p, rfl, -⟩ := hdoes.made hm hm'
    · have hcall : turn.call = .command minter (.mint classId tokenId made.uri made.owner) :=
        hoccasion
      rw [hcall] at hcarries hnot
      obtain rfl := hcarries
      exact .inl ⟨minter, mintedBy_of_minted hnot hcall (Path.single_iff.mp hpath) hn ht⟩
    · exact (hds _ hd).elim
    · cases hoccasion.symm.trans hc

/-! ## The guarantees of a pause -/

/-- **What can be relied on in a turn of a bridge that is paused** and is not let go on by
it. -/
structure Standstill (bridge : Address) (past : List Turn) (turn : Turn) : Prop where
  /-- The bridge stays paused, -/
  paused : (storeAfter bridge (turn :: past)).Paused
  /-- and nothing new comes into being. -/
  nothingNew : NothingNew (storeAfter bridge past) (storeAfter bridge (turn :: past))
  /-- The chain is not asked to send a packet over any channel. -/
  requests : ∀ answer u, turn.take bridge (storeAfter bridge past) = (.ok answer, u) →
    ∀ channel, answer.packet? channel = none
  /-- A packet that arrives is answered by an error, and nothing changes. -/
  arrivals : ∀ packet, turn.call = .arrived packet →
    ∃ fault : Fault, (fault = .paused ∨ fault = .unnamedClass)
      ∧ turn.take bridge (storeAfter bridge past) = (.ok (.receipt
        { ack := .error fault.message,
          attributes := packet.arrivalAttributes ++ [("error", fault.message)] }),
        storeAfter bridge past)
  /-- A deposit ends only by the refund of a packet that was sent on its channel, and its
  token goes to the one who sent that packet. -/
  deposits : ∀ classId tokenId deposit,
    (storeAfter bridge past).deposit? classId tokenId = some deposit →
    (storeAfter bridge (turn :: past)).deposit? classId tokenId ≠ some deposit →
    ∃ n p, Undone (storeAfter bridge past) (storeAfter bridge (turn :: past)) deposit.channel n p
      ∧ p.custody = .escrowed ∧ p.classId = classId ∧ tokenId ∈ p.tokenIds
      ∧ ∃ uri, (storeAfter bridge (turn :: past)).token? classId tokenId = some ⟨p.sender, uri⟩
  /-- A token comes into being only if the minter of its class, which is a class of this
  chain, mints it, or if it was burned and its packet is refunded. -/
  tokens : turn.call.NotBy bridge → ∀ classId tokenId token,
    (storeAfter bridge past).token? classId tokenId = none →
    (storeAfter bridge (turn :: past)).token? classId tokenId = some token →
    (∃ account, MintedBy bridge past turn classId tokenId token account)
      ∨ ∃ channel n, RestoredFrom bridge past turn classId tokenId token channel n

theorem Turn.standstill (hpaused : (storeAfter bridge past).Paused)
    (hturn : ¬ turn.Resumes bridge (storeAfter bridge past)) : Standstill bridge past turn where
  paused := Turn.paused_after hpaused hturn
  nothingNew := turn.nothingNew (sound_after past) hpaused
  requests _ _ htake := Turn.packet?_of_paused hpaused htake
  arrivals _ hcall := Turn.take_of_paused hpaused hcall
  deposits _ _ _ hdep hgone := turn.cleared_by_refund (sound_after past) hpaused hdep hgone
  tokens hnot _ _ _ hn ht := Turn.minted_or_restored hpaused hnot hn ht

/-- **What a pause guarantees.** Let a bridge be paused, and let nothing let it go on, in
as many turns as there may be. Then it is paused all the time, nothing new comes into
being, and each turn goes as `Standstill` says. And in whatever state a bridge is, paused
or not, a call that settles packets has the same answer as if the switch stood the other
way, and leaves the same but for the switch. -/
theorem pause_guarantees (hpaused : (storeAfter bridge past).Paused) :
    (∀ later, Unresumed bridge past later →
      (storeAfter bridge (later ++ past)).Paused
        ∧ NothingNew (storeAfter bridge past) (storeAfter bridge (later ++ past))
        ∧ ∀ turn : Turn, ¬ turn.Resumes bridge (storeAfter bridge (later ++ past)) →
          Standstill bridge (later ++ past) turn)
      ∧ ∀ (s : Store Entry) (turn : Turn), turn.call.settles? ≠ none →
        turn.take bridge s.switched
          = ((turn.take bridge s).1, (turn.take bridge s).2.switched) := by
  constructor
  · intro later hlater
    have hstill := paused_after hpaused hlater
    exact ⟨hstill, nothingNew_after hpaused hlater, fun turn hturn => Turn.standstill hstill hturn⟩
  · intro s turn hsettles
    obtain ⟨channel, hc⟩ := Option.ne_none_iff_exists'.mp hsettles
    exact Turn.take_switched hc

/-- The bridge is paused after the first voyage. When the packet is timed out the moon
comes back to Alice all the same, and it would have done so if the bridge had not been
paused. -/
theorem pause_guarantees_firstVoyage :
    let past : List Turn := ⟨5, .command "admin" .pause⟩ :: firstVoyage
    let late : Turn := ⟨6, .timedOut firstPacket⟩
    (storeAfter harbor past).Paused
      ∧ (∃ n p, Undone (storeAfter harbor past) (storeAfter harbor (late :: past)) "channel-0" n p
        ∧ p.custody = .escrowed ∧ p.classId = "art" ∧ "moon" ∈ p.tokenIds
        ∧ ∃ uri, (storeAfter harbor (late :: past)).token? "art" "moon" = some ⟨p.sender, uri⟩)
      ∧ late.take harbor (storeAfter harbor past).switched
        = ((late.take harbor (storeAfter harbor past)).1,
          (late.take harbor (storeAfter harbor past)).2.switched) := by
  intro past late
  have hpaused : (storeAfter harbor past).Paused := ⟨⟨"admin", true, 600⟩, by decide +kernel, rfl⟩
  obtain ⟨hturns, hsettles⟩ := pause_guarantees hpaused
  have hresumes : ¬ late.Resumes harbor (storeAfter harbor ([] ++ past)) := by
    rintro ⟨⟨_, ⟨⟩⟩ | ⟨_, ⟨⟩⟩, -⟩
  obtain ⟨-, -, hstill⟩ := hturns [] trivial
  exact ⟨hpaused, (hstill late hresumes).deposits "art" "moon" ⟨"art", "moon", "channel-0", "alice"⟩
    (by decide +kernel) (by decide +kernel), hsettles _ late (by decide)⟩

end TokenBridge
