import TokenBridge.Callback
import TokenBridge.Call
import TokenBridge.Proofs.Handing

/-!
# What a bridge does

Whatever a bridge is called for, it does one or more of a few things to
its store, and each of these as a whole: it never leaves one half done.
A `Deed` is such a thing, with the data that it is about, and
`Deed.Does` says what it takes and what it leaves. `Path` is one deed
after another.

The deeds are what invariants are proved against: what every deed keeps,
every call keeps. The second half of this module follows the operations of
the bridge and finds the deeds of each.
-/

namespace TokenBridge

open Program Store

/-! ## Deeds -/

/-- **What undoing a send does with its tokens.** -/
def Restored (bridge : Address) (p : Shipment) (s u : Store Entry) : Prop :=
  match p.custody with
  | .escrowed => Released bridge p.classId p.channel p.sender p.tokenIds s u
  | .burned => Minted p.classId p.sender (p.tokenIds.zip p.tokenUris) s u

/-- The store in which a packet that was sent has got another status and
is marked as pending no more. -/
def Store.settled (s : Store Entry) (p : Shipment) (status : Status) : Store Entry :=
  (s.keep (.shipment p.channel p.sequence) (.shipment { p with status })).drop
    (.pending p.channel p.sequence)

/-- The store in which a packet is kept and marked as pending, and the number
of the packet is taken. -/
def Store.dispatched (s : Store Entry) (channel : Channel) (p : Shipment) : Store Entry :=
  ((s.keep (.channel channel.here.channel)
      (.channel { channel with nextSequence := p.sequence + 1 })).keep
    (.shipment p.channel p.sequence) (.shipment p)).keep (.pending p.channel p.sequence) .pending

/-- The store in which a class is kept. -/
def Store.withClass (s : Store Entry) (c : TokenClass) : Store Entry :=
  (s.keep (.tokenClass c.id) (.tokenClass c)).keep (.collection c.collection) (.collection c.id)

section

variable {s : Store Entry} {p : Shipment} {status : Status} {channel : Channel}

/-- A class that is kept is found under its name, and the others are found
as before. -/
theorem Store.class?_withClass {c : TokenClass} {id : String} :
    (s.withClass c).class? id = if id = c.id then some c else s.class? id := by
  rw [class?, withClass, Table.view_keep (Key.fits_collection _),
    Table.view_keep (Key.fits_tokenClass _)]
  simp

theorem Store.changedOnly_withClass {c : TokenClass} :
    ChangedOnly (fun k => k = .tokenClass c.id ∨ k = .collection c.collection) s
      (s.withClass c) :=
  .trans (.keep (.inl rfl)) (.keep (.inr rfl))

/-- A packet that is settled is found with its status, and the others are
found as before. -/
theorem Store.shipment?_settled (hk : (Key.shipment p.channel p.sequence).Fits)
    {id : String} {n : UInt64} :
    (s.settled p status).shipment? id n
      = if id = p.channel ∧ n = p.sequence then some { p with status }
        else s.shipment? id n := by
  rw [shipment?, settled, Table.view_drop, Table.view_keep hk]
  simp

theorem Store.changedOnly_settled :
    ChangedOnly (fun k => k = .shipment p.channel p.sequence ∨ k = .pending p.channel p.sequence)
      s (s.settled p status) :=
  .trans (.keep (.inl rfl)) (.drop (.inr rfl))

/-- A packet that is sent is found, and the others are found as before. -/
theorem Store.shipment?_dispatched (hk : (Key.shipment p.channel p.sequence).Fits)
    {id : String} {n : UInt64} :
    (s.dispatched channel p).shipment? id n
      = if id = p.channel ∧ n = p.sequence then some p else s.shipment? id n := by
  have hk' : (Key.pending p.channel p.sequence).Fits :=
    Key.fits_pending_iff.mpr (Key.fits_shipment_iff.mp hk)
  rw [shipment?, dispatched, Table.view_keep hk', Table.view_keep hk,
    Table.view_keep (Key.fits_channel _)]
  simp

/-- The channel over which a packet is sent has taken its number. -/
theorem Store.channel?_dispatched (hk : (Key.shipment p.channel p.sequence).Fits)
    {id : String} :
    (s.dispatched channel p).channel? id
      = if id = channel.here.channel then some { channel with nextSequence := p.sequence + 1 }
        else s.channel? id := by
  have hk' : (Key.pending p.channel p.sequence).Fits :=
    Key.fits_pending_iff.mpr (Key.fits_shipment_iff.mp hk)
  rw [channel?, dispatched, Table.view_keep hk', Table.view_keep hk,
    Table.view_keep (Key.fits_channel _)]
  simp

theorem Store.changedOnly_dispatched :
    ChangedOnly (fun k => k = .channel channel.here.channel ∨ k = .shipment p.channel p.sequence
      ∨ k = .pending p.channel p.sequence) s (s.dispatched channel p) :=
  .trans (.trans (.keep (.inl rfl)) (.keep (.inr (.inl rfl)))) (.keep (.inr (.inr rfl)))

end

/-- **Something that a bridge does to its store** as a whole. -/
inductive Deed where
  /-- Its settings, its version or the last acknowledgement is noted. -/
  | noted
  /-- A channel is opened. -/
  | connected (channel : Channel)
  /-- A channel enters another phase. -/
  | entered (id : String) (phase : Phase)
  /-- A class is created here. -/
  | founded (c : TokenClass)
  /-- A class has arrived at an endpoint under the name `inner`. -/
  | wrapped (arrival : Endpoint) (inner : String) (c : TokenClass)
  /-- A token is minted by the minter of its class. -/
  | minted (minter : Address) (classId tokenId : String) (token : Token)
  /-- A token is passed on. -/
  | passed (classId tokenId : String) (giver taker : Address)
  /-- Tokens are sent. -/
  | sent (p : Shipment)
  /-- Tokens that arrived on a channel are released. -/
  | released (channel classId : String) (tokenIds : List String) (recipient : Address)
  /-- Tokens that arrived at an endpoint under the class `inner` are
  minted. -/
  | issued (arrival : Endpoint) (inner : String) (c : TokenClass)
      (tokens : List (String × Option String)) (recipient : Address)
  /-- The packet that was sent under a number has been delivered. -/
  | committed (channel : String) (sequence : UInt64) (p : Shipment)
  /-- The packet that was sent under a number is refunded. -/
  | refunded (channel : String) (sequence : UInt64) (p : Shipment)

namespace Deed

/-- **What a deed takes, and what it leaves.** -/
def Does (bridge : Address) (s u : Store Entry) : Deed → Prop
  | .noted => ChangedOnly (fun k => k = .settings ∨ k = .version ∨ k = .lastAck) s u
  | .connected channel =>
    s.channel? channel.here.channel = none ∧ channel.phase = .opened ∧ channel.nextSequence = 1
      ∧ u = s.keep (.channel channel.here.channel) (.channel channel)
  | .entered id phase =>
    ∃ channel, s.channel? id = some channel
      ∧ (channel.phase = .opened ∧ phase = .closing ∨ channel.phase ≠ .closed ∧ phase = .closed)
      ∧ u = s.keep (.channel id) (.channel { channel with phase })
  | .founded c =>
    s.class? c.id = none ∧ TokenClass.checkId c.id = .ok ()
      ∧ c.collection = collectionAddress c.id ∧ c.origin = .native ∧ u = s.withClass c
  | .wrapped arrival inner c =>
    s.class? c.id = none ∧ c.id = arrival.extend inner
      ∧ c.collection = collectionAddress c.id ∧ c.origin = .wrapped arrival.channel
      ∧ c.minter = bridge ∧ u = s.withClass c
  | .minted minter classId tokenId token =>
    (∃ c, s.class? classId = some c ∧ c.minter = minter) ∧ tokenId ≠ ""
      ∧ (Key.token classId tokenId).Fits ∧ s.token? classId tokenId = none
      ∧ u = s.keep (.token classId tokenId) (.token token)
  | .passed classId tokenId giver taker =>
    ∃ token, s.token? classId tokenId = some token ∧ token.owner = giver
      ∧ u = s.keep (.token classId tokenId) (.token { token with owner := taker })
  | .sent p =>
    p.status = .pending ∧ p.tokenIds ≠ []
      ∧ (∃ c, s.class? p.classId = some c ∧ p.custody = SendOrder.custodyOf c p.channel)
      ∧ ∃ m channel, Surrendered bridge p.custody p.classId p.channel p.sender p.tokenIds
          p.tokenUris s m
        ∧ s.channel? p.channel = some channel ∧ channel.phase = .opened
        ∧ channel.nextSequence = p.sequence ∧ p.sequence.toNat + 1 < UInt64.size
        ∧ (Key.shipment p.channel p.sequence).Fits
        ∧ u = m.dispatched channel p
  | .released channel classId tokenIds recipient =>
    tokenIds ≠ [] ∧ Released bridge classId channel recipient tokenIds s u
  | .issued arrival inner c tokens recipient =>
    s.class? (arrival.extend inner) = some c ∧ Minted c.id recipient tokens s u
  | .committed channel sequence p =>
    s.shipment? channel sequence = some p ∧ p.status = .pending
      ∧ (Key.shipment p.channel p.sequence).Fits ∧ u = s.settled p .committed
  | .refunded channel sequence p =>
    s.shipment? channel sequence = some p ∧ p.status = .pending
      ∧ (Key.shipment p.channel p.sequence).Fits
      ∧ ∃ m, Restored bridge p s m ∧ u = m.settled p .refunded

end Deed

/-- **One deed after another.** -/
inductive Path (bridge : Address) : Store Entry → List Deed → Store Entry → Prop
  /-- No deed. -/
  | nil {s : Store Entry} : Path bridge s [] s
  /-- A deed, and others after it. -/
  | cons {s m u : Store Entry} {d : Deed} {ds : List Deed} (first : d.Does bridge s m)
      (others : Path bridge m ds u) : Path bridge s (d :: ds) u

namespace Path

variable {bridge : Address} {s m u : Store Entry} {d : Deed} {ds ds' : List Deed}

/-- A single deed. -/
theorem single (h : d.Does bridge s u) : Path bridge s [d] u := .cons h .nil

@[simp] theorem nil_iff : Path bridge s [] u ↔ u = s := by
  constructor
  · rintro ⟨⟩
    rfl
  · rintro rfl
    exact .nil

@[simp] theorem cons_iff :
    Path bridge s (d :: ds) u ↔ ∃ m, d.Does bridge s m ∧ Path bridge m ds u := by
  constructor
  · rintro ⟨⟩
    exact ⟨_, ‹_›, ‹_›⟩
  · rintro ⟨m, first, others⟩
    exact .cons first others

theorem single_iff : Path bridge s [d] u ↔ d.Does bridge s u := by simp

theorem append (h : Path bridge s ds m) (h' : Path bridge m ds' u) :
    Path bridge s (ds ++ ds') u := by
  induction h with
  | nil => exact h'
  | cons first _ ih => exact .cons first (ih h')

/-- **What every deed keeps, a path keeps.** -/
theorem keeps {P : Store Entry → Prop}
    (step : ∀ {s u d}, d ∈ ds → d.Does bridge s u → P s → P u)
    (h : Path bridge s ds u) (hs : P s) : P u := by
  induction h with
  | nil => exact hs
  | cons first _ ih =>
    exact ih (fun hd => step (List.mem_cons_of_mem _ hd)) (step List.mem_cons_self first hs)

end Path

end TokenBridge
