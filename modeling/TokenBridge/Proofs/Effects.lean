import TokenBridge.Proofs.Deeds

/-!
# What deeds change

A deed changes few records and leaves all others as they are. The tokens
that it concerns are `Deed.Concerns`, and `Deed.Touches` adds the other
keys under which it may change something. Everything else is unchanged
(`Deed.Does.changedOnly`), and this is all that an invariant has to know
about the deeds that have nothing to do with it.

For the records that invariants are about there is one theorem for each
kind: the record under a key is either unchanged, or the deed is one of
those that are listed, and it is the record that they leave. A token and
its deposit change together, so they are described together: where they
are is the `Store.whereabouts` of a token, and `Deed.Moves` says what a
deed makes of it.
-/

namespace TokenBridge

open Store

variable {bridge : Address} {s u : Store Entry} {d : Deed} {classId tokenId : String}

/-! ## Footprints -/

/-- The tokens of a packet that was sent, with their metadata. -/
def Shipment.tokens (p : Shipment) : List (String × Option String) := p.tokenIds.zip p.tokenUris

/-- **Whether undoing a send concerns a token.** -/
def Shipment.Restores (p : Shipment) (classId tokenId : String) : Prop :=
  p.classId = classId
    ∧ (p.custody = .escrowed ∧ tokenId ∈ p.tokenIds
      ∨ p.custody = .burned ∧ ∃ uri, (tokenId, uri) ∈ p.tokens)

/-- Undoing a send touches the tokens of the packet and their deposits. -/
theorem Restored.rest {p : Shipment} (h : Restored bridge p s u) :
    ChangedOnly (fun k => ∃ classId tokenId, p.Restores classId tokenId
      ∧ (k = .token classId tokenId ∨ k = .deposit classId tokenId)) s u := by
  unfold Restored at h
  split at h
  · next hc =>
    refine h.rest.mono fun k => ?_
    rintro ⟨tokenId, hmem, heq⟩
    exact ⟨p.classId, tokenId, ⟨rfl, .inl ⟨hc, hmem⟩⟩, heq⟩
  · next hc =>
    refine h.rest.mono fun k => ?_
    rintro ⟨x, hmem, heq⟩
    exact ⟨p.classId, x.1, ⟨rfl, .inr ⟨hc, x.2, hmem⟩⟩, .inl heq⟩

namespace Deed

/-- **Whether a deed concerns a token.** -/
def Concerns (classId tokenId : String) : Deed → Prop
  | .minted _ classId' tokenId' _ => classId' = classId ∧ tokenId' = tokenId
  | .passed classId' tokenId' _ _ => classId' = classId ∧ tokenId' = tokenId
  | .sent p => p.classId = classId ∧ tokenId ∈ p.tokenIds
  | .released _ classId' tokenIds _ => classId' = classId ∧ tokenId ∈ tokenIds
  | .issued _ _ c tokens _ => c.id = classId ∧ ∃ uri, (tokenId, uri) ∈ tokens
  | .refunded _ _ p => p.Restores classId tokenId
  | _ => False

/-- **The keys that a deed may touch**: those of the tokens that it concerns
and of their deposits, and some others. -/
def Touches (d : Deed) (k : Key) : Prop :=
  (∃ classId tokenId, d.Concerns classId tokenId
      ∧ (k = .token classId tokenId ∨ k = .deposit classId tokenId))
    ∨ match d with
      | .noted => k = .settings ∨ k = .version ∨ k = .lastAck
      | .connected channel => k = .channel channel.here.channel
      | .entered id _ => k = .channel id
      | .founded c => k = .tokenClass c.id ∨ k = .collection c.collection
      | .wrapped _ _ c => k = .tokenClass c.id ∨ k = .collection c.collection
      | .sent p =>
        (∃ id, k = .channel id) ∨ k = .shipment p.channel p.sequence
          ∨ k = .pending p.channel p.sequence
      | .committed _ _ p => k = .shipment p.channel p.sequence ∨ k = .pending p.channel p.sequence
      | .refunded _ _ p => k = .shipment p.channel p.sequence ∨ k = .pending p.channel p.sequence
      | _ => False

/-- **A deed changes nothing but what it may touch.** -/
theorem Does.changedOnly (h : d.Does bridge s u) : ChangedOnly d.Touches s u := by
  cases d with
  | noted => exact h.mono fun k => .inr
  | connected channel =>
    obtain ⟨-, -, -, rfl⟩ := h
    exact .keep (.inr rfl)
  | entered id phase =>
    obtain ⟨channel, -, -, rfl⟩ := h
    exact .keep (.inr rfl)
  | founded c =>
    obtain ⟨-, -, -, -, rfl⟩ := h
    exact changedOnly_withClass.mono fun k => .inr
  | wrapped arrival inner c =>
    obtain ⟨-, -, -, -, -, rfl⟩ := h
    exact changedOnly_withClass.mono fun k => .inr
  | minted minter classId tokenId token =>
    obtain ⟨-, -, -, -, rfl⟩ := h
    exact .keep (.inl ⟨classId, tokenId, ⟨rfl, rfl⟩, .inl rfl⟩)
  | passed classId tokenId giver taker =>
    obtain ⟨token, -, -, rfl⟩ := h
    exact .keep (.inl ⟨classId, tokenId, ⟨rfl, rfl⟩, .inl rfl⟩)
  | sent p =>
    obtain ⟨-, -, -, m, channel, hm, -, -, -, -, -, rfl⟩ := h
    refine .trans (hm.rest.mono fun k => ?_) (changedOnly_dispatched.mono fun k hk => ?_)
    · rintro ⟨tokenId, hmem, heq⟩
      exact .inl ⟨p.classId, tokenId, ⟨rfl, hmem⟩, heq⟩
    · exact .inr (hk.imp_left fun heq => ⟨_, heq⟩)
  | released channel classId tokenIds recipient =>
    refine h.2.rest.mono fun k => ?_
    rintro ⟨tokenId, hmem, heq⟩
    exact .inl ⟨classId, tokenId, ⟨rfl, hmem⟩, heq⟩
  | issued arrival inner c tokens recipient =>
    refine h.2.rest.mono fun k => ?_
    rintro ⟨x, hmem, heq⟩
    exact .inl ⟨c.id, x.1, ⟨rfl, x.2, hmem⟩, .inl heq⟩
  | committed channel sequence p =>
    obtain ⟨-, -, -, rfl⟩ := h
    exact changedOnly_settled.mono fun k => .inr
  | refunded channel sequence p =>
    obtain ⟨-, -, -, m, hm, rfl⟩ := h
    exact .trans (hm.rest.mono fun k => .inl) (changedOnly_settled.mono fun k => .inr)

/-- The record under a key that a deed does not touch stays as it is. -/
theorem Does.view_eq {κ α : Type} (h : d.Does bridge s u) (t : Table κ α) {i : κ}
    (hi : ¬ d.Touches (t.key i)) : t.view u i = t.view s i :=
  Table.view_of_changedOnly h.changedOnly t hi

/-! ## Classes and channels -/

/-- **A class is never changed.** The only deeds that concern classes are
those by which one comes into being. -/
theorem Does.class? (h : d.Does bridge s u) (id : String) :
    u.class? id = s.class? id
      ∨ ∃ c, (d = .founded c ∨ ∃ arrival inner, d = .wrapped arrival inner c)
        ∧ c.id = id ∧ s.class? id = none ∧ u.class? id = some c := by
  have kept {c : TokenClass} (hn : s.class? c.id = none) (hu : u = s.withClass c) :
      u.class? id = s.class? id
        ∨ c.id = id ∧ s.class? id = none ∧ u.class? id = some c := by
    rw [hu, class?_withClass]
    split
    · next heq =>
      subst heq
      exact .inr ⟨rfl, hn, rfl⟩
    · exact .inl rfl
  cases d with
  | founded c =>
    obtain ⟨hn, -, -, -, hu⟩ := h
    exact (kept hn hu).imp_right fun h => ⟨c, .inl rfl, h⟩
  | wrapped arrival inner c =>
    obtain ⟨hn, -, -, -, -, hu⟩ := h
    exact (kept hn hu).imp_right fun h => ⟨c, .inr ⟨arrival, inner, rfl⟩, h⟩
  | _ => exact .inl (h.view_eq _ (by simp [Touches, Concerns]))

/-- A class that is known stays known, as it is. -/
theorem Does.class?_of_some (h : d.Does bridge s u) {id : String} {c : TokenClass}
    (hc : s.class? id = some c) : u.class? id = some c := by
  rcases h.class? id with heq | ⟨_, -, -, hn, -⟩
  · rw [heq, hc]
  · rw [hc] at hn
    cases hn

/-- **What may happen to a channel**: it is opened, it enters another
phase, or it takes a number. -/
theorem Does.channel? (h : d.Does bridge s u) (id : String) :
    u.channel? id = s.channel? id
      ∨ (∃ channel, d = .connected channel ∧ channel.here.channel = id ∧ s.channel? id = none
        ∧ channel.nextSequence = 1 ∧ u.channel? id = some channel)
      ∨ (∃ channel phase, d = .entered id phase ∧ s.channel? id = some channel
        ∧ u.channel? id = some { channel with phase })
      ∨ ∃ p channel, d = .sent p ∧ channel.here.channel = id ∧ s.channel? p.channel = some channel
        ∧ channel.phase = .opened ∧ channel.nextSequence = p.sequence
        ∧ p.sequence.toNat + 1 < UInt64.size
        ∧ u.channel? id = some { channel with nextSequence := p.sequence + 1 } := by
  cases d with
  | connected channel =>
    obtain ⟨hn, -, hnext, rfl⟩ := h
    rw [Store.channel?, Table.view_keep (Key.fits_channel _)]
    split
    · next heq =>
      obtain rfl := Key.channel.inj heq
      exact .inr (.inl ⟨channel, rfl, rfl, hn, hnext, rfl⟩)
    · exact .inl rfl
  | entered id' phase =>
    obtain ⟨channel, hc, -, rfl⟩ := h
    rw [Store.channel?, Table.view_keep (Key.fits_channel _)]
    split
    · next heq =>
      obtain rfl := Key.channel.inj heq
      exact .inr (.inr (.inl ⟨channel, phase, rfl, hc, rfl⟩))
    · exact .inl rfl
  | sent p =>
    obtain ⟨-, -, -, m, channel, hm, hc, hopen, hnext, hlt, hk, rfl⟩ := h
    rw [channel?_dispatched hk]
    split
    · next heq =>
      exact .inr (.inr (.inr ⟨p, channel, rfl, heq.symm, hc, hopen, hnext, hlt, rfl⟩))
    · exact .inl (Table.view_of_changedOnly hm.rest _ (by simp))
  | _ => exact .inl (h.view_eq _ (by simp [Touches, Concerns]))

/-! ## Packets that were sent -/

/-- The status that a deed gives the packet that was sent on a channel under
a number. -/
def Resolves (d : Deed) (channel : String) (sequence : UInt64) (p : Shipment)
    (status : Status) : Prop :=
  status = .committed ∧ d = .committed channel sequence p
    ∨ status = .refunded ∧ d = .refunded channel sequence p

/-- **What may happen to the record of a packet**: it is made when the
packet is sent, or it gets a status when the packet is settled. -/
theorem Does.shipment? (h : d.Does bridge s u) (id : String) (n : UInt64) :
    u.shipment? id n = s.shipment? id n
      ∨ (∃ p, d = .sent p ∧ p.channel = id ∧ p.sequence = n ∧ p.status = .pending
        ∧ u.shipment? id n = some p)
      ∨ ∃ id' n' p status, d.Resolves id' n' p status ∧ s.shipment? id' n' = some p
        ∧ p.status = .pending ∧ p.channel = id ∧ p.sequence = n
        ∧ u.shipment? id n = some { p with status } := by
  have settled {id' : String} {n' : UInt64} {p : Shipment} {status : Status} {m : Store Entry}
      (hm : m.shipment? id n = s.shipment? id n) (hd : d.Resolves id' n' p status)
      (hp : s.shipment? id' n' = some p) (hpend : p.status = .pending)
      (hk : (Key.shipment p.channel p.sequence).Fits) (hu : u = m.settled p status) :
      u.shipment? id n = s.shipment? id n
        ∨ ∃ id' n' p status, d.Resolves id' n' p status ∧ s.shipment? id' n' = some p
          ∧ p.status = .pending ∧ p.channel = id ∧ p.sequence = n
          ∧ u.shipment? id n = some { p with status } := by
    rw [hu, shipment?_settled hk]
    split
    · next heq => exact .inr ⟨id', n', p, status, hd, hp, hpend, heq.1.symm, heq.2.symm, rfl⟩
    · exact .inl hm
  cases d with
  | sent p =>
    obtain ⟨hpend, -, -, m, channel, hm, -, -, -, -, hk, rfl⟩ := h
    rw [shipment?_dispatched hk]
    split
    · next heq => exact .inr (.inl ⟨p, rfl, heq.1.symm, heq.2.symm, hpend, rfl⟩)
    · exact .inl (Table.view_of_changedOnly hm.rest _ (by simp))
  | committed id' n' p =>
    obtain ⟨hp, hpend, hk, hu⟩ := h
    exact (settled rfl (.inl ⟨rfl, rfl⟩) hp hpend hk hu).imp_right .inr
  | refunded id' n' p =>
    obtain ⟨hp, hpend, hk, m, hm, hu⟩ := h
    refine (settled ?_ (.inr ⟨rfl, rfl⟩) hp hpend hk hu).imp_right .inr
    exact Table.view_of_changedOnly hm.rest _ (by simp)
  | _ => exact .inl (h.view_eq _ (by simp [Touches, Concerns]))

/-- A packet that is sent is kept under its channel and its number. -/
theorem Does.shipment?_of_sent {p : Shipment} (h : (sent p).Does bridge s u) :
    u.shipment? p.channel p.sequence = some p := by
  obtain ⟨-, -, -, m, channel, -, -, -, -, -, hk, rfl⟩ := h
  exact (shipment?_dispatched hk).trans (if_pos ⟨rfl, rfl⟩)

/-! ## Tokens and deposits -/

end Deed

/-- **Where a token is**: the token, if it exists, and its deposit, if it is
deposited. -/
abbrev Store.whereabouts (s : Store Entry) (classId tokenId : String) :
    Option Token × Option Deposit :=
  (s.token? classId tokenId, s.deposit? classId tokenId)

theorem Store.whereabouts_of_changedOnly {P : Key → Prop} (h : ChangedOnly P s u)
    (ht : ¬ P (.token classId tokenId)) (hd : ¬ P (.deposit classId tokenId)) :
    u.whereabouts classId tokenId = s.whereabouts classId tokenId := by
  rw [whereabouts, token?, deposit?, Table.view_of_changedOnly h _ ht,
    Table.view_of_changedOnly h _ hd]

/-- A token that is released was in the hands of the bridge and deposited for
the channel. -/
theorem Released.whereabouts {channel : String} {recipient : Address} {tokenIds : List String}
    (h : Released bridge classId channel recipient tokenIds s u) (hmem : tokenId ∈ tokenIds) :
    ∃ uri deposit, s.whereabouts classId tokenId = (some ⟨bridge, uri⟩, some deposit)
      ∧ deposit.channel = channel
      ∧ u.whereabouts classId tokenId = (some ⟨recipient, uri⟩, none) := by
  obtain ⟨deposit, hd, hc⟩ := h.deposited tokenId hmem
  obtain ⟨⟨owner, uri⟩, ht, rfl, ht'⟩ := h.passed tokenId hmem
  refine ⟨uri, deposit, ?_, hc, ?_⟩
  · rw [Store.whereabouts, ht, hd]
  · rw [Store.whereabouts, ht', h.cleared tokenId hmem]

/-- A token that is minted was not there. -/
theorem Minted.whereabouts {recipient : Address} {tokens : List (String × Option String)}
    {uri : Option String} (h : Minted classId recipient tokens s u)
    (hmem : (tokenId, uri) ∈ tokens) :
    s.token? classId tokenId = none
      ∧ u.whereabouts classId tokenId = (some ⟨recipient, uri⟩, s.deposit? classId tokenId) := by
  refine ⟨h.absent (tokenId, uri) hmem, ?_⟩
  rw [Store.whereabouts, h.made (tokenId, uri) hmem, deposit?,
    Table.view_of_changedOnly h.rest _ (by simp)]

/-- In two lists of the same length, each element of the one stands beside one
of the other. -/
theorem exists_mem_zip {α β : Type} {xs : List α} {ys : List β} (h : xs.length = ys.length)
    {x : α} (hx : x ∈ xs) : ∃ y, (x, y) ∈ xs.zip ys := by
  obtain ⟨i, hi, rfl⟩ := List.getElem_of_mem hx
  exact ⟨ys.get ⟨i, h ▸ hi⟩, List.mem_iff_getElem.mpr ⟨i, by simpa [h] using h ▸ hi, by simp⟩⟩

/-- A token that is sent was in the hands of its sender. -/
theorem Surrendered.whereabouts {custody : Custody} {channel : String} {owner : Address}
    {tokenIds : List String} {uris : List (Option String)}
    (h : Surrendered bridge custody classId channel owner tokenIds uris s u)
    (hmem : tokenId ∈ tokenIds) :
    ∃ uri, (tokenId, uri) ∈ tokenIds.zip uris ∧ s.token? classId tokenId = some ⟨owner, uri⟩
      ∧ (custody = .escrowed ∧ s.deposit? classId tokenId = none
          ∧ u.whereabouts classId tokenId
            = (some ⟨bridge, uri⟩, some ⟨classId, tokenId, channel, owner⟩)
        ∨ custody = .burned
          ∧ u.whereabouts classId tokenId = (none, s.deposit? classId tokenId)) := by
  obtain ⟨uri, hx⟩ := exists_mem_zip h.length_eq hmem
  have ht := h.token?_of_mem hx
  refine ⟨uri, hx, ht, ?_⟩
  cases custody with
  | escrowed =>
    refine .inl ⟨rfl, Deposited.free h _ hmem, ?_⟩
    rw [Store.whereabouts, Deposited.passed h _ hmem, ht, Deposited.recorded h _ hmem]
    rfl
  | burned =>
    refine .inr ⟨rfl, ?_⟩
    rw [Store.whereabouts, Burned.gone h _ hmem, deposit?,
      Table.view_of_changedOnly (Burned.rest h) _ (by simp)]

namespace Deed

/-- **What a deed makes of a token that it concerns**: where the token was
before, and where it is after. -/
def Moves (bridge : Address) (classId tokenId : String)
    (before after : Option Token × Option Deposit) : Deed → Prop
  | .minted _ _ _ token => before.1 = none ∧ after = (some token, before.2)
  | .passed _ _ giver taker =>
    ∃ uri, before.1 = some ⟨giver, uri⟩ ∧ after = (some ⟨taker, uri⟩, before.2)
  | .sent p =>
    ∃ uri, (tokenId, uri) ∈ p.tokens ∧ before.1 = some ⟨p.sender, uri⟩
      ∧ (p.custody = .escrowed ∧ before.2 = none
          ∧ after = (some ⟨bridge, uri⟩, some ⟨classId, tokenId, p.channel, p.sender⟩)
        ∨ p.custody = .burned ∧ after = (none, before.2))
  | .released channel _ _ recipient =>
    ∃ uri deposit, before = (some ⟨bridge, uri⟩, some deposit) ∧ deposit.channel = channel
      ∧ after = (some ⟨recipient, uri⟩, none)
  | .issued _ _ _ tokens recipient =>
    ∃ uri, (tokenId, uri) ∈ tokens ∧ before.1 = none
      ∧ after = (some ⟨recipient, uri⟩, before.2)
  | .refunded _ _ p =>
    p.custody = .escrowed
        ∧ (∃ uri deposit, before = (some ⟨bridge, uri⟩, some deposit)
          ∧ deposit.channel = p.channel ∧ after = (some ⟨p.sender, uri⟩, none))
      ∨ p.custody = .burned
        ∧ ∃ uri, (tokenId, uri) ∈ p.tokens ∧ before.1 = none
          ∧ after = (some ⟨p.sender, uri⟩, before.2)
  | _ => False

/-- **A token that a deed does not concern stays where it is.** -/
theorem Does.stays (h : d.Does bridge s u) (hd : ¬ d.Concerns classId tokenId) :
    u.whereabouts classId tokenId = s.whereabouts classId tokenId := by
  refine whereabouts_of_changedOnly h.changedOnly ?_ ?_
  · rintro (⟨classId', tokenId', hd', heq | heq⟩ | hk)
    · obtain ⟨rfl, rfl⟩ := Key.token.inj heq
      exact hd hd'
    · cases heq
    · cases d <;> simp at hk
  · rintro (⟨classId', tokenId', hd', heq | heq⟩ | hk)
    · cases heq
    · obtain ⟨rfl, rfl⟩ := Key.deposit.inj heq
      exact hd hd'
    · cases d <;> simp at hk

/-- **A deed moves the tokens that it concerns.** -/
theorem Does.moves (h : d.Does bridge s u) (hd : d.Concerns classId tokenId) :
    d.Moves bridge classId tokenId (s.whereabouts classId tokenId)
      (u.whereabouts classId tokenId) := by
  cases d with
  | minted minter classId' tokenId' token =>
    obtain ⟨rfl, rfl⟩ := hd
    obtain ⟨-, -, hk, hn, rfl⟩ := h
    refine ⟨hn, ?_⟩
    rw [whereabouts, Store.token?, Store.deposit?, Table.view_keep hk, Table.view_keep hk]
    simp
  | passed classId' tokenId' giver taker =>
    obtain ⟨rfl, rfl⟩ := hd
    obtain ⟨⟨owner, uri⟩, ht, rfl, rfl⟩ := h
    have hk : (Key.token classId' tokenId').Fits := Table.fits_of_view ht
    refine ⟨uri, ht, ?_⟩
    rw [whereabouts, Store.token?, Store.deposit?, Table.view_keep hk, Table.view_keep hk]
    simp
  | sent p =>
    obtain ⟨rfl, hmem⟩ := hd
    obtain ⟨-, -, -, m, channel, hm, -, -, -, -, -, rfl⟩ := h
    rw [whereabouts_of_changedOnly changedOnly_dispatched (by simp) (by simp)]
    exact hm.whereabouts hmem
  | released channel classId' tokenIds recipient =>
    obtain ⟨rfl, hmem⟩ := hd
    exact h.2.whereabouts hmem
  | issued arrival inner c tokens recipient =>
    obtain ⟨rfl, uri, hmem⟩ := hd
    exact ⟨uri, hmem, h.2.whereabouts hmem⟩
  | refunded channel sequence p =>
    obtain ⟨rfl, hd⟩ := hd
    obtain ⟨-, -, -, m, hm, rfl⟩ := h
    rw [whereabouts_of_changedOnly changedOnly_settled (by simp) (by simp)]
    unfold Restored at hm
    rcases hd with ⟨hc, hmem⟩ | ⟨hc, uri, hmem⟩
    · rw [hc] at hm
      exact .inl ⟨hc, hm.whereabouts hmem⟩
    · rw [hc] at hm
      exact .inr ⟨hc, uri, hmem, hm.whereabouts hmem⟩
  | _ => exact hd.elim

/-- Where a token is changes only by a deed that concerns it. -/
theorem Does.stays_or_moves (h : d.Does bridge s u) (classId tokenId : String) :
    u.whereabouts classId tokenId = s.whereabouts classId tokenId
      ∨ d.Concerns classId tokenId
        ∧ d.Moves bridge classId tokenId (s.whereabouts classId tokenId)
          (u.whereabouts classId tokenId) := by
  by_cases hd : d.Concerns classId tokenId
  · exact .inr ⟨hd, h.moves hd⟩
  · exact .inl (h.stays hd)

/-- **A deposit is made by a send**, and by nothing else. -/
theorem Does.deposit?_of_some (h : d.Does bridge s u) {deposit : Deposit}
    (hdep : u.deposit? classId tokenId = some deposit) :
    s.deposit? classId tokenId = some deposit
      ∨ ∃ p, d = .sent p ∧ p.custody = .escrowed ∧ p.classId = classId ∧ tokenId ∈ p.tokenIds
        ∧ deposit = ⟨classId, tokenId, p.channel, p.sender⟩ := by
  obtain heq | ⟨hconcerns, hmoves⟩ := h.stays_or_moves classId tokenId
  · exact .inl ((congrArg Prod.snd heq).symm.trans hdep)
  have kept {token? : Option Token}
      (ha : u.whereabouts classId tokenId = (token?, s.deposit? classId tokenId)) :
      s.deposit? classId tokenId = some deposit :=
    (congrArg Prod.snd ha).symm.trans hdep
  have not_gone {token? : Option Token} (ha : u.whereabouts classId tokenId = (token?, none)) :
      False := by
    cases (congrArg Prod.snd ha).symm.trans hdep
  cases d with
  | minted => exact .inl (kept hmoves.2)
  | passed =>
    obtain ⟨uri, -, ha⟩ := hmoves
    exact .inl (kept ha)
  | sent p =>
    obtain ⟨uri, -, -, ⟨hescrowed, -, ha⟩ | ⟨-, ha⟩⟩ := hmoves
    · refine .inr ⟨p, rfl, hescrowed, hconcerns.1, hconcerns.2, ?_⟩
      exact Option.some.inj (hdep.symm.trans (congrArg Prod.snd ha))
    · exact .inl (kept ha)
  | released =>
    obtain ⟨uri, deposit', -, -, ha⟩ := hmoves
    exact (not_gone ha).elim
  | issued =>
    obtain ⟨uri, -, -, ha⟩ := hmoves
    exact .inl (kept ha)
  | refunded =>
    obtain ⟨-, uri, deposit', -, -, ha⟩ | ⟨-, uri, -, -, ha⟩ := hmoves
    · exact (not_gone ha).elim
    · exact .inl (kept ha)
  | _ => exact hmoves.elim

end Deed

end TokenBridge
