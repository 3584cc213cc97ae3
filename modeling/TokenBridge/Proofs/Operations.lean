import TokenBridge.Proofs.Deeds

/-!
# The operations of a bridge

What each operation of a bridge takes and leaves, from the settings up to
the close of a channel. An operation that only looks something up has an
equivalence that says what it finds; one that changes the store is shown
to do a deed, or to go a path.
-/

namespace TokenBridge

open Program Store

variable {s u : Store Entry} {bridge : Address}

/-! ## Settings -/

namespace Settings

variable {settings : Settings} {account : Address} {x : Unit}

@[simp] theorem yields_load : load.Yields s settings u ↔ s.settings? = some settings ∧ u = s := by
  simp [load]

@[simp] theorem yields_loadFor :
    (loadFor account).Yields s settings u
      ↔ s.settings? = some settings ∧ account = settings.admin ∧ u = s := by
  simp only [loadFor, yields_bind, yields_load, yields_guard, yields_pure, ne_eq, not_not]
  constructor
  · rintro ⟨_, _, ⟨h, rfl⟩, ha, rfl, rfl⟩
    exact ⟨h, ha, rfl⟩
  · rintro ⟨h, ha, rfl⟩
    exact ⟨settings, u, ⟨h, rfl⟩, ha, rfl, rfl⟩

theorem establish_noted {admin : String} {timeout : Option UInt64}
    (h : (establish admin timeout).Yields s settings u) : Deed.noted.Does bridge s u := by
  simp only [establish, yields_bind, Table.yields_put, yields_ofExcept, yields_pure] at h
  obtain ⟨_, _, ⟨-, rfl⟩, _, _, ⟨-, rfl⟩, _, _, ⟨-, rfl⟩, _, _, ⟨-, rfl⟩, -, rfl⟩ := h
  exact .trans (.keep (.inr (.inl rfl))) (.keep (.inl rfl))

theorem setPaused_noted {paused : Bool} (h : (setPaused account paused).Yields s x u) :
    Deed.noted.Does bridge s u := by
  simp only [setPaused, yields_bind, yields_loadFor, Table.yields_put] at h
  obtain ⟨_, _, ⟨-, -, rfl⟩, -, rfl⟩ := h
  exact .keep (.inl rfl)

theorem setDefaultTimeout_noted {seconds : UInt64}
    (h : (setDefaultTimeout account seconds).Yields s x u) : Deed.noted.Does bridge s u := by
  simp only [setDefaultTimeout, yields_bind, yields_loadFor, yields_ofExcept,
    Table.yields_put] at h
  obtain ⟨_, _, ⟨-, -, rfl⟩, _, _, ⟨-, rfl⟩, -, rfl⟩ := h
  exact .keep (.inl rfl)

end Settings

/-! ## Classes -/

namespace TokenClass

variable {c : TokenClass} {classId : String} {uri : Option String} {x : Unit}

@[simp] theorem yields_find :
    (find classId).Yields s c u ↔ s.class? classId = some c ∧ u = s := by
  simp [find]

@[simp] theorem yields_keep : (keep c).Yields s x u ↔ u = s.withClass c := by
  simp only [keep, yields_bind, Table.yields_put]
  constructor
  · rintro ⟨_, _, ⟨-, rfl⟩, -, rfl⟩
    rfl
  · rintro rfl
    exact ⟨(), _, ⟨Key.fits_tokenClass _, rfl⟩, Key.fits_collection _, rfl⟩

/-- A name that is allowed for a class of this chain is not empty, not too long,
and free of slashes. -/
theorem of_checkId (h : checkId classId = .ok ()) :
    classId ≠ "" ∧ classId.utf8ByteSize ≤ maxClassIdLength ∧ '/' ∉ classId.toList := by
  unfold checkId at h
  split at h
  · cases h
  · next hne =>
    split at h
    · cases h
    · next hlength =>
      split at h
      · cases h
      · next hslash => exact ⟨hne, Nat.not_lt.mp hlength, hslash⟩

/-- Creating a class founds it. -/
theorem create_founded {creator : Address} (h : (create classId uri creator).Yields s c u) :
    (Deed.founded c).Does bridge s u ∧ c.id = classId ∧ c.uri = uri ∧ c.minter = creator := by
  simp only [create, yields_bind, yields_ofExcept, Table.yields_has, yields_guard, yields_keep,
    yields_pure] at h
  obtain ⟨_, _, ⟨hc, rfl⟩, _, _, ⟨-, rfl, rfl⟩, hn, _, _, rfl, rfl, rfl⟩ := h
  exact ⟨⟨by simpa using hn, mapError_eq_ok.mp hc, rfl, rfl, rfl⟩, rfl, rfl, rfl⟩

/-- The class that stands here for one that has arrived over a channel. -/
def wrapper (classId : String) (uri : Option String) (channel : String) (bridge : Address) :
    TokenClass :=
  { id := classId, uri, collection := collectionAddress classId, minter := bridge,
    origin := .wrapped channel }

/-- **The class of a name that arrived** is the one that is known, or a new one if
none is. -/
theorem yields_findOrCreate {channel : String} {created : Bool} :
    (findOrCreate classId uri channel bridge).Yields s (c, created) u
      ↔ s.class? classId = some c ∧ created = false ∧ u = s
        ∨ s.class? classId = none ∧ c = wrapper classId uri channel bridge ∧ created = true
          ∧ u = s.withClass c := by
  have hk : (Key.tokenClass classId).Fits := Key.fits_tokenClass _
  simp only [findOrCreate, yields_bind, Table.yields_find?, Table.classes_key]
  constructor
  · rintro ⟨found, _, ⟨-, hfound, rfl⟩, h⟩
    split at h
    · obtain ⟨heq, rfl⟩ := yields_pure.mp h
      obtain ⟨rfl, rfl⟩ := Prod.mk.inj heq
      exact .inl ⟨hfound.symm, rfl, rfl⟩
    · simp only [yields_bind, yields_keep, yields_pure] at h
      obtain ⟨_, _, rfl, heq, rfl⟩ := h
      obtain ⟨rfl, rfl⟩ := Prod.mk.inj heq
      exact .inr ⟨hfound.symm, rfl, rfl, rfl⟩
  · rintro (⟨hc, rfl, rfl⟩ | ⟨hnone, rfl, rfl, rfl⟩)
    · exact ⟨some c, u, ⟨hk, hc.symm, rfl⟩, yields_pure.mpr ⟨rfl, rfl⟩⟩
    · exact ⟨none, s, ⟨hk, hnone.symm, rfl⟩,
        yields_bind.mpr ⟨(), _, yields_keep.mpr rfl, yields_pure.mpr ⟨rfl, rfl⟩⟩⟩

/-- A class that arrives is one that is known, or it is wrapped. -/
theorem found_or_wrapped {arrival : Endpoint} {inner : String} {created : Bool}
    (h : (findOrCreate (arrival.extend inner) uri arrival.channel bridge).Yields s
      (c, created) u) :
    u.class? (arrival.extend inner) = some c
      ∧ (u = s ∨ (Deed.wrapped arrival inner c).Does bridge s u) := by
  obtain ⟨hc, -, rfl⟩ | ⟨hnone, rfl, -, rfl⟩ := yields_findOrCreate.mp h
  · exact ⟨hc, .inl rfl⟩
  · refine ⟨?_, .inr ⟨hnone, rfl, rfl, rfl, rfl, rfl⟩⟩
    rw [class?_withClass]
    exact if_pos rfl

end TokenClass

/-! ## Channels -/

namespace Channel

variable {channel : Channel} {id : String} {x : Unit}

@[simp] theorem yields_find :
    (find id).Yields s channel u ↔ s.channel? id = some channel ∧ u = s := by
  simp [find]

@[simp] theorem yields_findOpen :
    (findOpen id).Yields s channel u
      ↔ s.channel? id = some channel ∧ channel.phase = .opened ∧ u = s := by
  simp only [findOpen, yields_bind, yields_find]
  constructor
  · rintro ⟨channel', _, ⟨h, rfl⟩, hp⟩
    split at hp
    · next ho =>
      obtain ⟨rfl, rfl⟩ := yields_pure.mp hp
      exact ⟨h, ho, rfl⟩
    · exact absurd hp yields_throw
    · exact absurd hp yields_throw
  · rintro ⟨h, ho, rfl⟩
    exact ⟨channel, u, ⟨h, rfl⟩, by simp [ho]⟩

@[simp] theorem yields_enter {phase : Phase} :
    (channel.enter id phase).Yields s x u
      ↔ u = s.keep (.channel id) (.channel { channel with phase }) := by
  simp [enter, Key.fits_channel]

theorem yields_takeSequence {sequence : UInt64} :
    channel.takeSequence.Yields s sequence u
      ↔ channel.nextSequence.toNat + 1 ≠ UInt64.size ∧ sequence = channel.nextSequence
        ∧ u = s.keep (.channel channel.here.channel)
            (.channel { channel with nextSequence := channel.nextSequence + 1 }) := by
  simp only [takeSequence]
  split
  · next h => simp [h]
  · next h =>
    simp only [yields_bind, Table.yields_put, yields_pure]
    constructor
    · rintro ⟨_, _, ⟨-, rfl⟩, rfl, rfl⟩
      exact ⟨h, rfl, rfl⟩
    · rintro ⟨-, rfl, rfl⟩
      exact ⟨(), _, ⟨Key.fits_channel _, rfl⟩, rfl, rfl⟩

/-- Opening a channel connects it. -/
theorem establish_connected {p : Proposal} (h : (establish p).Yields s channel u) :
    (Deed.connected channel).Does bridge s u ∧ channel.here = p.here
      ∧ channel.there = p.there := by
  simp only [establish, yields_bind, yields_ofExcept, Table.yields_has, yields_guard,
    Table.yields_put, yields_pure] at h
  obtain ⟨_, _, ⟨-, rfl⟩, _, _, ⟨-, rfl, rfl⟩, hn, _, _, ⟨-, rfl⟩, rfl, rfl⟩ := h
  exact ⟨⟨by simpa using hn, rfl, rfl, rfl⟩, rfl, rfl⟩

end Channel

/-! ## Sending -/

namespace SendOrder

variable {context : Context} {sender : Address} {order : SendOrder} {sent : Sent}

/-- **What it takes to send tokens.** -/
theorem of_yields_run (h : (order.run context sender).Yields s sent u) :
    ∃ settings channel c m deadline,
      s.settings? = some settings ∧ settings.paused = false
        ∧ s.channel? order.channel = some channel ∧ channel.phase = .opened
        ∧ checkTokens order.tokenIds = .ok ()
        ∧ checkTimeout (order.timeout.getD settings.defaultTimeout) = .ok ()
        ∧ s.class? order.classId = some c
        ∧ Surrendered context.bridge (custodyOf c order.channel) order.classId order.channel
            sender order.tokenIds sent.shipment.tokenUris s m
        ∧ channel.nextSequence.toNat + 1 ≠ UInt64.size
        ∧ deadlineAfter context.now (order.timeout.getD settings.defaultTimeout) = .ok deadline
        ∧ sent.shipment =
            { sequence := channel.nextSequence, channel := order.channel,
              classId := order.classId, tokenIds := order.tokenIds,
              tokenUris := sent.shipment.tokenUris, custody := custodyOf c order.channel, sender,
              receiver := order.receiver, deadline, status := .pending }
        ∧ sent.data =
            { classId := order.classId, classUri := c.uri, tokenIds := order.tokenIds,
              tokenUris := sent.shipment.tokenUris, sender, receiver := order.receiver }
        ∧ (Key.shipment order.channel channel.nextSequence).Fits
        ∧ u = ((m.keep (.channel channel.here.channel)
            (.channel { channel with nextSequence := channel.nextSequence + 1 })).keep
            (.shipment order.channel channel.nextSequence) (.shipment sent.shipment)).keep
            (.pending order.channel channel.nextSequence) .pending := by
  simp only [run, yields_bind, Settings.yields_load, yields_guard, Channel.yields_findOpen,
    yields_ofExcept, TokenClass.yields_find, Channel.yields_takeSequence, Shipment.keep,
    Shipment.mark, Table.yields_put, yields_pure] at h
  obtain ⟨settings, _, ⟨hs, rfl⟩, hp, channel, _, ⟨hc, ho, rfl⟩, _, _, ⟨ht, rfl⟩, _, _,
    ⟨hd, rfl⟩, c, _, ⟨hk, rfl⟩, tokens, m, hm, sequence, _, ⟨hn, rfl, rfl⟩, deadline, _,
    ⟨hl, rfl⟩, _, _, ⟨hf, rfl⟩, _, _, ⟨-, rfl⟩, rfl, rfl⟩ := h
  exact ⟨settings, channel, c, m, deadline, hs, by simpa using hp, hc, ho, ht, hd, hk,
    .of_yields hm, hn, hl, rfl, rfl, hf, rfl⟩

/-- Sending tokens is a deed. -/
theorem run_sent (h : (order.run context sender).Yields s sent u) :
    (Deed.sent sent.shipment).Does context.bridge s u ∧ sent.shipment.sender = sender
      ∧ sent.shipment.classId = order.classId ∧ sent.shipment.tokenIds = order.tokenIds
      ∧ sent.shipment.channel = order.channel := by
  obtain ⟨settings, channel, c, m, deadline, -, -, hc, ho, ht, -, hk, hm, hn, -, hsent, -, hf,
    hu⟩ := of_yields_run h
  have hne : order.tokenIds ≠ [] := by
    intro heq
    rw [checkTokens, if_pos heq] at ht
    cases ht
  rw [hsent] at hm hu ⊢
  refine ⟨⟨rfl, hne, ⟨c, hk, rfl⟩, m, channel, hm, hc, ho, rfl, ?_, hf, hu⟩, rfl, rfl, rfl, rfl⟩
  have := channel.nextSequence.toNat_lt
  exact Nat.lt_of_le_of_ne this hn

end SendOrder

/-! ## Settling -/

/-- **Whether a failure says that no record matches a packet**: there is none
under its number, or the one that is there is about other tokens. -/
def Failure.Unmatched (e : Failure Fault) : Prop :=
  ∃ channel sequence, e = .error (.unknownPacket channel sequence)
    ∨ e = .error (.packetMismatch channel sequence)

namespace Shipment

variable {p : Shipment} {channel : String} {sequence : UInt64}

@[simp] theorem yields_find :
    (find channel sequence).Yields s p u ↔ s.shipment? channel sequence = some p ∧ u = s := by
  simp [find]

theorem restored_of_yields_refund {x : Unit} (h : (p.refund bridge).Yields s x u) :
    Restored bridge p s u := by
  unfold refund at h
  unfold Restored
  cases hc : p.custody with
  | escrowed =>
    rw [hc] at h
    exact .of_yields h
  | burned =>
    rw [hc] at h
    exact .of_yields h

/-- **Settling a packet never fails because no record matches it.** -/
theorem not_fails_settle {outcome : Outcome} {e : Failure Fault} (he : e.Unmatched) :
    ¬ (p.settle bridge outcome).Fails s e u := by
  obtain ⟨other, n, he⟩ := he
  have released {s u : Store Entry} {tokenId : String} :
      ¬ (Deposit.release bridge p.classId tokenId p.channel p.sender).Fails s e u := by
    simp only [Deposit.release, Token.transfer, Token.findOwned, Token.find, fails_bind,
      fails_guard, fails_ofOption, Table.fails_find?, Table.fails_erase, Table.fails_find,
      Table.fails_put, fails_pure]
    obtain rfl | rfl := he <;> simp
  have minted {s u : Store Entry} {tokenId : String} {uri : Option String} :
      ¬ (Token.mint p.classId tokenId p.sender uri).Fails s e u := by
    obtain rfl | rfl := he <;> simp [Token.mint, fails_guard]
  have refunded {s u : Store Entry} : ¬ (p.refund bridge).Fails s e u := by
    rw [refund]
    split
    · exact not_fails_forM fun tokenId s u => by simp [released]
    · exact not_fails_forM fun tokenId s u => minted
  rw [settle]
  split
  · simp
  · obtain rfl | rfl := he <;> split <;> simp [refunded, keep]

/-- **Settling a packet** commits or refunds it, if nothing has been
reported about it before. -/
theorem settle_deed {outcome : Outcome} {settlement : Settlement}
    (hp : s.shipment? channel sequence = some p)
    (h : (p.settle bridge outcome).Yields s settlement u) :
    p.status ≠ .pending ∧ settlement = .settledBefore p.status ∧ u = s
      ∨ outcome = .delivered ∧ settlement = .committed
        ∧ (Deed.committed channel sequence p).Does bridge s u
      ∨ outcome = .failed ∧ settlement = .refunded
        ∧ (Deed.refunded channel sequence p).Does bridge s u := by
  rw [settle] at h
  split at h
  · next hnone =>
    obtain ⟨rfl, rfl⟩ := yields_pure.mp h
    refine .inl ⟨?_, rfl, rfl⟩
    intro heq
    cases outcome <;> simp [heq, Status.after?] at hnone
  · next status hsome =>
    obtain ⟨hpend, hout⟩ : p.status = .pending
        ∧ (outcome = .delivered ∧ status = .committed
          ∨ outcome = .failed ∧ status = .refunded) := by
      revert hsome
      cases p.status <;> cases outcome <;> simp [Status.after?, eq_comm]
    obtain ⟨rfl, rfl⟩ | ⟨rfl, rfl⟩ := hout
    · simp only [reduceCtorEq, if_false, yields_bind, keep, Table.yields_put, Table.yields_erase,
        yields_pure] at h
      obtain ⟨_, _, ⟨hk, rfl⟩, _, _, ⟨-, rfl⟩, rfl, rfl⟩ := h
      exact .inr (.inl ⟨rfl, rfl, hp, hpend, hk, rfl⟩)
    · simp only [if_true, yields_bind, keep, Table.yields_put, Table.yields_erase,
        yields_pure] at h
      obtain ⟨_, m, hm, _, _, ⟨hk, rfl⟩, _, _, ⟨-, rfl⟩, rfl, rfl⟩ := h
      exact .inr (.inr ⟨rfl, rfl, hp, hpend, hk, m, restored_of_yields_refund hm, rfl⟩)

end Shipment

/-! ## Closing -/

/-- **Whether deeds are refunds** of packets that were sent on a
channel. -/
def Refunds (channel : String) (ds : List Deed) : Prop :=
  ∀ d ∈ ds, ∃ sequence p, d = .refunded channel sequence p

/-- Whether deeds are refunds of packets that were sent on a channel, or
changes of its phase. -/
def Closes (channel : String) (ds : List Deed) : Prop :=
  ∀ d ∈ ds, (∃ phase, d = .entered channel phase) ∨ ∃ sequence p, d = .refunded channel sequence p

namespace Channel

variable {id : String} {drained : Drained}

/-- Draining a packet refunds it, or nothing happens. -/
theorem drainOne_path {before : Drained} {sequence : UInt64}
    (h : (drainOne bridge id before sequence).Yields s drained u) :
    ∃ ds, Refunds id ds ∧ Path bridge s ds u := by
  simp only [drainOne, yields_bind, Shipment.yields_find] at h
  obtain ⟨p, _, ⟨hp, rfl⟩, r, m, hr, h⟩ := h
  rw [yields_attempt (Bridge.accepted _ _)] at hr
  split at h
  · obtain ⟨-, rfl⟩ := yields_pure.mp h
    have hm := (yields_transactional (Bridge.accepted _ _)).mp hr
    obtain ⟨-, -, rfl⟩ | ⟨hout, -⟩ | ⟨-, -, hd⟩ := Shipment.settle_deed hp hm
    · exact ⟨[], by simp [Refunds], .nil⟩
    · cases hout
    · exact ⟨[_], by simp [Refunds], .single hd⟩
  · obtain ⟨-, rfl⟩ := yields_pure.mp h
    obtain ⟨-, rfl⟩ := (fails_transactional (Bridge.accepted _ _)).mp hr
    exact ⟨[], by simp [Refunds], .nil⟩
  · exact absurd h yields_abort

/-- **Draining a channel** is a path of refunds. -/
theorem drain_path (h : (drain bridge id).Yields s drained u) :
    ∃ ds, Refunds id ds ∧ Path bridge s ds u := by
  simp only [drain, yields_bind] at h
  obtain ⟨sequences, m, hm, h⟩ := h
  obtain rfl := Table.pendingOn_unchanged hm
  clear hm
  generalize ({} : Drained) = before at h
  induction sequences generalizing m before with
  | nil =>
    obtain ⟨-, rfl⟩ := yields_foldlM_nil.mp h
    exact ⟨[], by simp [Refunds], .nil⟩
  | cons sequence sequences ih =>
    obtain ⟨between, m', hm, hrest⟩ := yields_foldlM_cons.mp h
    obtain ⟨ds, hds, hp⟩ := drainOne_path hm
    obtain ⟨ds', hds', hp'⟩ := ih _ _ hrest
    refine ⟨ds ++ ds', fun d hd => ?_, hp.append hp'⟩
    exact (List.mem_append.mp hd).elim (hds d) (hds' d)

theorem requestClose_path (h : (requestClose bridge id).Yields s drained u) :
    ∃ ds, Closes id ds ∧ Path bridge s ds u := by
  simp only [requestClose, yields_bind, yields_find] at h
  obtain ⟨channel, _, ⟨hc, rfl⟩, h⟩ := h
  split at h
  · obtain ⟨-, rfl⟩ := yields_pure.mp h
    exact ⟨[], by simp [Closes], .nil⟩
  · obtain ⟨ds, hds, hp⟩ := drain_path h
    exact ⟨ds, fun d hd => .inr (hds d hd), hp⟩
  · next hphase =>
    simp only [yields_bind, yields_enter] at h
    obtain ⟨_, m, rfl, h⟩ := h
    obtain ⟨ds, hds, hp⟩ := drain_path h
    refine ⟨.entered id .closing :: ds, fun d hd => ?_, .cons ?_ hp⟩
    · rcases List.mem_cons.mp hd with rfl | hd
      · exact .inl ⟨_, rfl⟩
      · exact .inr (hds d hd)
    · exact ⟨channel, hc, .inl ⟨hphase, rfl⟩, rfl⟩

/-- **Closing a channel** is a path of refunds and changes of its
phase. -/
theorem confirmClose_path (h : (confirmClose bridge id).Yields s drained u) :
    ∃ ds, Closes id ds ∧ Path bridge s ds u := by
  simp only [confirmClose, yields_bind, yields_find] at h
  obtain ⟨_, m, hm, channel, _, ⟨hc, rfl⟩, h⟩ := h
  obtain ⟨ds, hds, hp⟩ := requestClose_path hm
  split at h
  · next hphase =>
    simp only [yields_bind, yields_enter, yields_pure] at h
    obtain ⟨_, _, rfl, -, rfl⟩ := h
    refine ⟨ds ++ [.entered id .closed], fun d hd => ?_, hp.append (.single ?_)⟩
    · rcases List.mem_append.mp hd with hd | hd
      · exact hds d hd
      · exact .inl ⟨_, List.mem_singleton.mp hd⟩
    · exact ⟨channel, hc, .inr ⟨hphase, rfl⟩, rfl⟩
  · obtain ⟨-, rfl⟩ := yields_pure.mp h
    exact ⟨ds, hds, hp⟩

end Channel

/-! ## Receiving -/

/-- Tokens are distinct and have not been seen if the first one has not been
seen, and the others have not been seen either, nor are they the first one. -/
theorem nodup_unseen_cons_iff {tokenId : String} {tokenIds seen : List String} :
    (tokenId :: tokenIds).Nodup ∧ (∀ other ∈ tokenId :: tokenIds, other ∉ seen)
      ↔ tokenId ∉ seen ∧ tokenIds.Nodup ∧ ∀ other ∈ tokenIds, other ∉ tokenId :: seen := by
  simp only [List.nodup_cons, List.mem_cons, not_or, forall_and]
  grind

namespace PacketData

variable {p : PacketData} {tokenIds seen : List String}

theorem checkTokens_eq_ok_iff :
    checkTokens seen tokenIds = .ok ()
      ↔ (tokenIds.Nodup ∧ ∀ tokenId ∈ tokenIds, tokenId ∉ seen)
        ∧ ∀ tokenId ∈ tokenIds, tokenId ≠ "" := by
  induction tokenIds generalizing seen with
  | nil => simp [checkTokens]
  | cons tokenId rest ih =>
    rw [checkTokens, nodup_unseen_cons_iff, List.forall_mem_cons]
    split
    · simp [*]
    split
    · simp [*]
    · rw [ih]
      simp [*]

/-- **Data makes sense** if it is about some tokens, each with its metadata, of
which none occurs twice and none has an empty name. -/
theorem validate_eq_ok_iff :
    p.validate = .ok ()
      ↔ p.tokenIds ≠ [] ∧ p.tokenUris.length = p.tokenIds.length ∧ p.tokenIds.Nodup
        ∧ ∀ tokenId ∈ p.tokenIds, tokenId ≠ "" := by
  unfold validate
  split
  · simp [*]
  split
  · simp [*]
  · rw [checkTokens_eq_ok_iff]
    simp_all

/-- Data that makes sense is about some tokens, each with its metadata. -/
theorem of_validate (h : p.validate = .ok ()) :
    p.tokenIds ≠ [] ∧ p.tokenUris.length = p.tokenIds.length :=
  (validate_eq_ok_iff.mp h).imp_right And.left

/-- The tokens of data that makes sense are distinct. -/
theorem nodup_of_validate (h : p.validate = .ok ()) : p.tokenIds.Nodup :=
  (validate_eq_ok_iff.mp h).2.2.1

end PacketData

/-- The class to which a token comes home, if it does, when it arrives on
a channel from a source. -/
def Store.homeOf? (s : Store Entry) (source : Endpoint) (channel classId tokenId : String) :
    Option String :=
  (source.strip? classId).filter fun home =>
    (s.deposit? home tokenId).map (·.channel) = some channel

/-- A token comes home if the trail of its source comes off and it is
deposited for the channel. -/
theorem Store.homeOf?_eq_some_iff {source : Endpoint} {channel classId tokenId home : String} :
    s.homeOf? source channel classId tokenId = some home
      ↔ classId = source.extend home
        ∧ ∃ deposit, s.deposit? home tokenId = some deposit ∧ deposit.channel = channel := by
  rw [homeOf?, Option.filter_eq_some_iff, Endpoint.strip?_eq_some_iff]
  simp

theorem TokenClass.of_yields_homeOf? {source : Endpoint} {channel classId tokenId : String}
    {home : Option String}
    (h : (homeOf? source channel classId tokenId).Yields s home u) :
    home = s.homeOf? source channel classId tokenId ∧ u = s := by
  rw [homeOf?] at h
  rw [Store.homeOf?]
  split at h
  · next hnone =>
    obtain ⟨rfl, rfl⟩ := yields_pure.mp h
    simp [hnone]
  · next home' hsome =>
    simp only [yields_bind, Deposit.yields_channelOf?, yields_pure] at h
    obtain ⟨_, _, ⟨-, rfl, rfl⟩, rfl, rfl⟩ := h
    simp [hsome, Option.filter]

/-- **What a packet that is delivered does**: it brings all its tokens
home, or none of them comes home and all are minted. -/
def Packet.Lands (packet : Packet) (data : PacketData) (s : Store Entry)
    (ds : List Deed) : Prop :=
  (∃ home, (∀ tokenId ∈ data.tokenIds, s.homeOf? packet.source packet.destination.channel
        data.classId tokenId = some home)
      ∧ ds = [.released packet.destination.channel home data.tokenIds data.receiver])
    ∨ (∀ tokenId ∈ data.tokenIds, s.homeOf? packet.source packet.destination.channel
        data.classId tokenId = none)
      ∧ ∃ c, ds = [.issued packet.destination data.classId c data.tokens data.receiver]
        ∨ ds = [.wrapped packet.destination data.classId c,
            .issued packet.destination data.classId c data.tokens data.receiver]

namespace Packet

variable {context : Context} {packet : Packet} {data : PacketData} {classId : String}
  {home : Option String} {tokenIds : List String} {received : Received}

theorem of_yields_agree {x : Unit} (h : (packet.agree classId home tokenIds).Yields s x u) :
    (∀ tokenId ∈ tokenIds, (s.homeOf? packet.source packet.destination.channel classId
      tokenId).isSome = home.isSome) ∧ u = s := by
  induction tokenIds with
  | nil =>
    obtain ⟨-, rfl⟩ := yields_pure.mp h
    exact ⟨by simp, rfl⟩
  | cons tokenId tokenIds ih =>
    simp only [agree, yields_bind, yields_guard, ne_eq, not_not] at h
    obtain ⟨other, m, hm, heq, h⟩ := h
    obtain ⟨rfl, rfl⟩ := TokenClass.of_yields_homeOf? hm
    obtain ⟨hrest, rfl⟩ := ih h
    refine ⟨fun other hmem => ?_, rfl⟩
    rcases List.mem_cons.mp hmem with rfl | hmem
    · exact heq
    · exact hrest other hmem

/-- All tokens of a packet come home to the same class, or none of them
does. -/
theorem of_yields_home? (h : (packet.home? classId tokenIds).Yields s home u) :
    (∀ tokenId ∈ tokenIds,
      s.homeOf? packet.source packet.destination.channel classId tokenId = home) ∧ u = s := by
  cases tokenIds with
  | nil =>
    obtain ⟨-, rfl⟩ := yields_pure.mp h
    exact ⟨by simp, rfl⟩
  | cons tokenId tokenIds =>
    simp only [home?, yields_bind, yields_pure] at h
    obtain ⟨_, m, hm, _, _, hagree, rfl, rfl⟩ := h
    obtain ⟨rfl, rfl⟩ := TokenClass.of_yields_homeOf? hm
    obtain ⟨hrest, rfl⟩ := of_yields_agree hagree
    refine ⟨fun other hmem => ?_, rfl⟩
    rcases List.mem_cons.mp hmem with rfl | hmem
    · rfl
    -- the class is what is left of the name, so it is the same for all tokens
    · have hsome := hrest other hmem
      cases hh : u.homeOf? packet.source packet.destination.channel classId tokenId with
      | none => simpa [hh] using hsome
      | some home =>
        rw [hh, Option.isSome_some, Option.isSome_iff_exists] at hsome
        obtain ⟨home', hh'⟩ := hsome
        have heq := (Store.homeOf?_eq_some_iff.mp hh).1
        rw [(Store.homeOf?_eq_some_iff.mp hh').1] at heq
        have := congrArg packet.source.strip? heq
        rw [Endpoint.strip?_extend, Endpoint.strip?_extend] at this
        rw [hh', this]

/-- **A packet that is taken** lands. -/
theorem apply_path (h : (packet.apply context).Yields s received u) :
    ∃ data ds, PacketData.decode packet.data = .ok data ∧ data.validate = .ok ()
      ∧ packet.Lands data s ds ∧ Path context.bridge s ds u := by
  simp only [apply, yields_bind, Settings.yields_load, yields_guard, Channel.yields_findOpen,
    yields_ofExcept] at h
  obtain ⟨settings, _, ⟨hs, rfl⟩, hp, channel, _, ⟨hc, ho, rfl⟩, data, _, ⟨hdecode, rfl⟩, _, _,
    ⟨hvalid, rfl⟩, receiver, _, ⟨hreceiver, rfl⟩, home, m, hhome, h⟩ := h
  obtain ⟨hall, rfl⟩ := of_yields_home? hhome
  rw [mapError_eq_ok] at hdecode hvalid hreceiver
  have hne : data.tokenIds ≠ [] := (PacketData.of_validate hvalid).1
  obtain rfl := Address.eq_of_ofText hreceiver
  cases home with
  | some home =>
    simp only [release, yields_bind, yields_pure] at h
    obtain ⟨_, _, hm, -, rfl⟩ := h
    exact ⟨data, _, hdecode, hvalid, .inl ⟨home, hall, rfl⟩,
      .single ⟨hne, Released.of_yields hm⟩⟩
  | none =>
    simp only [mint, yields_bind, yields_pure] at h
    obtain ⟨⟨c, created⟩, m', hm', _, _, hmint, -, rfl⟩ := h
    obtain ⟨hc', rfl | hwrapped⟩ := TokenClass.found_or_wrapped hm'
    · exact ⟨data, _, hdecode, hvalid, .inr ⟨hall, c, .inl rfl⟩,
        .single ⟨hc', Minted.of_yields hmint⟩⟩
    · exact ⟨data, _, hdecode, hvalid, .inr ⟨hall, c, .inr rfl⟩,
        .cons hwrapped (.single ⟨hc', Minted.of_yields hmint⟩)⟩

/-- **A packet that arrives** is refused and does nothing, or it has passed what
the chain demands of it and is taken. -/
theorem refused_or_applied {receipt : Receipt} (h : (packet.arrived context).Yields s receipt u) :
    receipt.ack.isSuccess = false ∧ u = s
      ∨ receipt.ack = .success ∧ packet.checkEnvelope = .ok ()
        ∧ ∃ received, (packet.apply context).Yields s received u := by
  simp only [arrived, yields_bind] at h
  obtain ⟨r, m, hr, h⟩ := h
  rw [yields_attempt (Bridge.accepted _ _)] at hr
  split at h
  · next received =>
    obtain ⟨rfl, rfl⟩ := yields_pure.mp h
    simp only [receive] at hr
    obtain ⟨_, _, hcheck, htake⟩ := yields_bind.mp hr
    obtain ⟨hpassed, rfl⟩ := yields_ofExcept.mp hcheck
    exact .inr ⟨rfl, hpassed, received,
      (yields_transactional (Bridge.accepted _ _)).mp htake⟩
  · obtain ⟨rfl, rfl⟩ := yields_pure.mp h
    simp only [receive] at hr
    refine .inl ⟨rfl, ?_⟩
    rcases fails_bind.mp hr with hcheck | ⟨_, _, hcheck, htake⟩
    · obtain ⟨_, -, -, rfl⟩ := fails_ofExcept.mp hcheck
      rfl
    · obtain ⟨-, rfl⟩ := yields_ofExcept.mp hcheck
      exact ((fails_transactional (Bridge.accepted _ _)).mp htake).2
  · exact absurd h yields_abort

/-- A packet that is not refused has passed what the chain demands of it, and is taken. -/
theorem applied_of_success {receipt : Receipt} (h : (packet.arrived context).Yields s receipt u)
    (hack : receipt.ack = .success) :
    packet.checkEnvelope = .ok () ∧ ∃ received, (packet.apply context).Yields s received u := by
  obtain ⟨hfailed, -⟩ | ⟨-, happlied⟩ := refused_or_applied h
  · rw [hack] at hfailed
    cases hfailed
  · exact happlied

/-- **A packet that arrives** lands, or it does nothing. -/
theorem arrived_path {receipt : Receipt} (h : (packet.arrived context).Yields s receipt u) :
    receipt.ack.isSuccess = false ∧ u = s
      ∨ receipt.ack = .success ∧ ∃ data ds, PacketData.decode packet.data = .ok data
        ∧ data.validate = .ok () ∧ packet.Lands data s ds ∧ Path context.bridge s ds u :=
  (refused_or_applied h).imp_right fun ⟨hack, _, _, happly⟩ => ⟨hack, apply_path happly⟩

/-- A packet is taken on an open channel only. -/
theorem opened_of_apply (h : (packet.apply context).Yields s received u) :
    ∃ channel, s.channel? packet.destination.channel = some channel
      ∧ channel.phase = .opened := by
  simp only [apply, yields_bind, Settings.yields_load, yields_guard, Channel.yields_findOpen] at h
  obtain ⟨settings, _, ⟨-, rfl⟩, -, channel, _, ⟨hc, hopen, rfl⟩, -⟩ := h
  exact ⟨channel, hc, hopen⟩

/-! ## Packets that come back -/

/-- **The record of a packet that comes back** is found if the packet is known
and the two are about the same tokens. -/
theorem yields_shipment {p : Shipment} :
    packet.shipment.Yields s p u
      ↔ s.shipment? packet.source.channel packet.sequence = some p
        ∧ (∃ data, PacketData.decode packet.data = .ok data ∧ p.agreesWith data) ∧ u = s := by
  simp only [shipment, yields_bind, Shipment.yields_find, yields_ofExcept, yields_guard,
    yields_pure]
  constructor
  · rintro ⟨p', _, ⟨hp, rfl⟩, data, _, ⟨hdecode, rfl⟩, hagree, rfl, rfl⟩
    exact ⟨hp, ⟨data, mapError_eq_ok.mp hdecode, by simpa using hagree⟩, rfl⟩
  · rintro ⟨hp, ⟨data, hdecode, hagree⟩, rfl⟩
    exact ⟨p, u, ⟨hp, rfl⟩, data, u, ⟨mapError_eq_ok.mpr hdecode, rfl⟩, by simpa using hagree,
      rfl, rfl⟩

theorem unchanged_of_fails_shipment {e : Failure Fault} (h : packet.shipment.Fails s e u) :
    u = s := by
  simp only [shipment, fails_bind, Shipment.find, Table.fails_find, Table.yields_find,
    fails_ofExcept, yields_ofExcept, fails_guard, fails_pure, and_false, or_false] at h
  obtain ⟨-, rfl⟩ | ⟨_, _, ⟨-, rfl⟩, ⟨_, -, -, rfl⟩ | ⟨_, _, ⟨-, rfl⟩, -, -, rfl⟩⟩ := h <;> rfl

/-- **What a packet that comes back does**: what is known of it already
stays, or it is settled by the outcome. -/
def Settles (packet : Packet) (outcome : Outcome) (ds : List Deed) : Prop :=
  ds = [] ∨ ∃ p data, PacketData.decode packet.data = .ok data ∧ p.agreesWith data
    ∧ (outcome = .delivered ∧ ds = [.committed packet.source.channel packet.sequence p]
      ∨ outcome = .failed ∧ ds = [.refunded packet.source.channel packet.sequence p])

theorem Settles.noted_notMem {outcome : Outcome} {ds : List Deed}
    (h : packet.Settles outcome ds) : .noted ∉ ds := by
  obtain rfl | ⟨p, data, -, -, ⟨-, rfl⟩ | ⟨-, rfl⟩⟩ := h <;> simp

theorem settles_of_yields {p : Shipment} {outcome : Outcome} {settlement : Settlement}
    {bridge : Address} {m : Store Entry} (hp : packet.shipment.Yields s p m)
    (h : (p.settle bridge outcome).Yields m settlement u) :
    ∃ ds, packet.Settles outcome ds ∧ Path bridge s ds u := by
  obtain ⟨hp, ⟨data, hdecode, hagree⟩, rfl⟩ := yields_shipment.mp hp
  rcases Shipment.settle_deed hp h with ⟨-, -, rfl⟩ | ⟨ho, -, hd⟩ | ⟨ho, -, hd⟩
  · exact ⟨[], .inl rfl, .nil⟩
  · exact ⟨_, .inr ⟨p, data, hdecode, hagree, .inl ⟨ho, rfl⟩⟩, .single hd⟩
  · exact ⟨_, .inr ⟨p, data, hdecode, hagree, .inr ⟨ho, rfl⟩⟩, .single hd⟩

/-- A report leaves what settling the packet leaves, or settling it ended
with the one fault that is no failure. -/
theorem of_yields_report {α : Type} {method : String} {settle : Bridge α}
    {attributes : α → Attributes} {r : Response}
    (h : (packet.report method settle attributes).Yields s r u) :
    (∃ a, settle.Yields s a u)
      ∨ ∃ channel sequence, settle.Fails s (.error (.unknownPacket channel sequence)) u := by
  simp only [report, yields_bind] at h
  obtain ⟨result, m, hr, h⟩ := h
  rw [yields_attempt (Bridge.accepted _ _)] at hr
  split at h
  · next a =>
    obtain ⟨-, rfl⟩ := yields_pure.mp h
    exact .inl ⟨a, hr⟩
  · next channel sequence =>
    obtain ⟨-, rfl⟩ := yields_pure.mp h
    exact .inr ⟨channel, sequence, hr⟩
  · exact absurd h yields_fail

/-- A report says what settling the packet has come to. -/
theorem yields_report {α : Type} {method : String} {settle : Bridge α}
    {attributes : α → Attributes} {a : α} (h : settle.Yields s a u) :
    (packet.report method settle attributes).Yields s
      { attributes := packet.returnAttributes method ++ attributes a } u := by
  simp only [report, yields_bind, yields_attempt (Bridge.accepted _ _)]
  exact ⟨.ok a, u, h, yields_pure.mpr ⟨rfl, rfl⟩⟩

end Packet

end TokenBridge
