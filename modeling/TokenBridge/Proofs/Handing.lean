import TokenBridge.Sending
import TokenBridge.Proofs.Lookup

/-!
# Tokens that change hands

A call that moves tokens moves them one by one, in a loop that breaks off
at the first token that cannot be moved. What such a loop has done, once
it has come to its end, is a fact about all its tokens at once:
`Released` for tokens that leave their deposits, `Minted` for tokens that
come into being, and `Surrendered` for tokens that are taken from their
owner to be sent.

Each of the three says what was there before, what is there afterwards,
and that nothing else has changed. In each, that no token occurs twice is
a conclusion: the second turn of a token would not find what the first
one found.
-/

namespace TokenBridge

open Program Store

variable {s u : Store Entry}

/-! ## A single token -/

namespace Token

variable {classId tokenId : String} {owner giver taker : Address} {uri : Option String}
  {token : Token}

@[simp] theorem yields_find :
    (find classId tokenId).Yields s token u ↔ s.token? classId tokenId = some token ∧ u = s := by
  simp [find]

@[simp] theorem yields_findOwned :
    (findOwned classId tokenId owner).Yields s token u
      ↔ s.token? classId tokenId = some token ∧ token.owner = owner ∧ u = s := by
  simp only [findOwned, yields_bind, yields_find, yields_guard, yields_pure, ne_eq,
    not_not]
  constructor
  · rintro ⟨_, _, ⟨h, rfl⟩, ho, rfl, rfl⟩
    exact ⟨h, ho, rfl⟩
  · rintro ⟨h, ho, rfl⟩
    exact ⟨token, u, ⟨h, rfl⟩, ho, rfl, rfl⟩

/-- **A token is made** where there was none. -/
@[simp] theorem yields_mint {x : Unit} :
    (mint classId tokenId owner uri).Yields s x u
      ↔ (Key.token classId tokenId).Fits ∧ s.token? classId tokenId = none
          ∧ u = s.keep (.token classId tokenId) (.token ⟨owner, uri⟩) := by
  simp only [mint, yields_bind, Table.yields_has, yields_guard, Table.yields_put,
    Table.tokens_key, Table.tokens_entry]
  constructor
  · rintro ⟨_, _, ⟨hk, rfl, rfl⟩, hn, -, rfl⟩
    exact ⟨hk, by simpa using hn, rfl⟩
  · rintro ⟨hk, hn, rfl⟩
    exact ⟨_, _, ⟨hk, rfl, rfl⟩, by simp [hn], hk, rfl⟩

/-- Making a token breaks off exactly if its name does not fit. -/
theorem aborts_mint_iff {cause : Abort} :
    (mint classId tokenId owner uri).Fails s (.abort cause) u
      ↔ ¬ (Key.token classId tokenId).Fits ∧ cause = .longKey ∧ u = s := by
  simp only [mint, fails_bind, fails_guard, Table.fails_has, Table.yields_has, Table.fails_put,
    Table.tokens_key, Failure.abort.injEq, reduceCtorEq, false_and, and_false, false_or]
  constructor
  · rintro (h | ⟨_, _, ⟨hk, -, -⟩, -, hn, -⟩)
    · exact h
    · exact absurd hk hn
  · exact .inl

/-- **A token is destroyed.** -/
@[simp] theorem yields_burn :
    (burn classId tokenId).Yields s token u
      ↔ s.token? classId tokenId = some token ∧ u = s.drop (.token classId tokenId) := by
  simp only [burn, yields_bind, yields_find, Table.yields_erase, yields_pure, Table.tokens_key]
  constructor
  · rintro ⟨_, _, ⟨h, rfl⟩, _, _, ⟨-, rfl⟩, rfl, rfl⟩
    exact ⟨h, rfl⟩
  · rintro ⟨h, rfl⟩
    exact ⟨token, s, ⟨h, rfl⟩, (), _, ⟨Table.fits_of_view h, rfl⟩, rfl, rfl⟩

/-- **A token is passed on** by the one who has it. -/
@[simp] theorem yields_transfer {x : Unit} :
    (transfer classId tokenId giver taker).Yields s x u
      ↔ ∃ token, s.token? classId tokenId = some token ∧ token.owner = giver
          ∧ u = s.keep (.token classId tokenId) (.token { token with owner := taker }) := by
  simp only [transfer, yields_bind, yields_findOwned, Table.yields_put, Table.tokens_key,
    Table.tokens_entry]
  constructor
  · rintro ⟨token, _, ⟨h, ho, rfl⟩, -, rfl⟩
    exact ⟨token, h, ho, rfl⟩
  · rintro ⟨token, h, ho, rfl⟩
    exact ⟨token, s, ⟨h, ho, rfl⟩, Table.fits_of_view h, rfl⟩

end Token

namespace Deposit

variable {bridge owner recipient : Address} {classId tokenId channel : String}
  {deposit : Deposit}

/-- **A token is deposited**: it goes to the bridge, and a record says
for which channel. -/
theorem yields_make :
    (make bridge classId tokenId channel owner).Yields s deposit u
      ↔ s.deposit? classId tokenId = none ∧ deposit = ⟨classId, tokenId, channel, owner⟩
          ∧ ∃ token, s.token? classId tokenId = some token ∧ token.owner = owner
            ∧ u = (s.keep (.token classId tokenId) (.token { token with owner := bridge })).keep
                (.deposit classId tokenId) (.deposit deposit) := by
  simp only [make, yields_bind, Table.yields_has, yields_guard, Token.yields_transfer,
    Table.yields_put, yields_pure, Table.deposits_key, Table.deposits_entry]
  constructor
  · rintro ⟨_, _, ⟨-, rfl, rfl⟩, hn, _, _, ⟨token, h, ho, rfl⟩, _, _, ⟨-, rfl⟩, rfl, rfl⟩
    exact ⟨by simpa using hn, rfl, token, h, ho, rfl⟩
  · rintro ⟨hn, rfl, token, h, ho, rfl⟩
    have hk : (Key.deposit classId tokenId).Fits :=
      Key.fits_deposit_iff.mpr (Key.fits_token_iff.mp (Table.fits_of_view h))
    exact ⟨_, s, ⟨hk, rfl, rfl⟩, by simp [hn], (), _, ⟨token, h, ho, rfl⟩, (), _, ⟨hk, rfl⟩,
      rfl, rfl⟩

/-- **A token is released** if it is deposited for the channel. -/
theorem yields_release :
    (release bridge classId tokenId channel recipient).Yields s deposit u
      ↔ s.deposit? classId tokenId = some deposit ∧ deposit.channel = channel
          ∧ ∃ token, s.token? classId tokenId = some token ∧ token.owner = bridge
            ∧ u = (s.drop (.deposit classId tokenId)).keep
                (.token classId tokenId) (.token { token with owner := recipient }) := by
  simp only [release, yields_bind, Table.yields_find?, yields_ofOption, Table.yields_erase,
    Token.yields_transfer, yields_pure, Table.deposits_key, Option.filter_eq_some_iff,
    decide_eq_true_eq]
  have hview : (s.drop (.deposit classId tokenId)).token? classId tokenId
      = s.token? classId tokenId := by
    simp [Table.view_drop]
  constructor
  · rintro ⟨_, _, ⟨-, rfl, rfl⟩, _, _, ⟨⟨hd, hc⟩, rfl⟩, _, _, ⟨-, rfl⟩, _, _,
      ⟨token, h, ho, rfl⟩, rfl, rfl⟩
    exact ⟨hd, hc, token, hview ▸ h, ho, rfl⟩
  · rintro ⟨hd, hc, token, h, ho, rfl⟩
    have hk : (Key.deposit classId tokenId).Fits := Table.fits_of_view hd
    exact ⟨_, s, ⟨hk, rfl, rfl⟩, deposit, s, ⟨⟨hd, hc⟩, rfl⟩, (), _, ⟨hk, rfl⟩, (), _,
      ⟨token, hview ▸ h, ho, rfl⟩, rfl, rfl⟩

/-- Releasing a token whose name fits does not break off. -/
theorem not_aborts_release {cause : Abort} (hk : (Key.deposit classId tokenId).Fits) :
    ¬ (release bridge classId tokenId channel recipient).Fails s (.abort cause) u := by
  have hk' : (Key.token classId tokenId).Fits :=
    Key.fits_token_iff.mpr (Key.fits_deposit_iff.mp hk)
  simp only [release, Token.transfer, Token.findOwned, Token.find, fails_bind, fails_guard,
    fails_ofOption, Table.fails_find?, Table.fails_erase, Table.fails_find, Table.fails_put,
    fails_pure, Table.deposits_key, Table.tokens_key, reduceCtorEq]
  simp [hk, hk']

@[simp] theorem yields_channelOf? {found : Option String} :
    (channelOf? classId tokenId).Yields s found u
      ↔ (Key.deposit classId tokenId).Fits
          ∧ found = (s.deposit? classId tokenId).map (·.channel) ∧ u = s := by
  simp only [channelOf?, yields_bind, Table.yields_find?, yields_pure, Table.deposits_key]
  constructor
  · rintro ⟨_, _, ⟨hk, rfl, rfl⟩, rfl, rfl⟩
    exact ⟨hk, rfl, rfl⟩
  · rintro ⟨hk, rfl, rfl⟩
    exact ⟨_, _, ⟨hk, rfl, rfl⟩, rfl, rfl⟩

end Deposit

/-! ## Tokens that leave their deposits -/

/-- **What releasing tokens of a class does**: each of them was deposited
for the channel and in the hands of the bridge, and it is now in the hands
of the recipient and deposited no more. -/
structure Released (bridge : Address) (classId channel : String) (recipient : Address)
    (tokenIds : List String) (s u : Store Entry) : Prop where
  /-- No token occurs twice. -/
  nodup : tokenIds.Nodup
  /-- Each was deposited for the channel. -/
  deposited : ∀ tokenId ∈ tokenIds, ∃ deposit, s.deposit? classId tokenId = some deposit
    ∧ deposit.channel = channel
  /-- Each has passed from the bridge to the recipient. -/
  passed : ∀ tokenId ∈ tokenIds, ∃ token, s.token? classId tokenId = some token
    ∧ token.owner = bridge
    ∧ u.token? classId tokenId = some { token with owner := recipient }
  /-- None is deposited any more. -/
  cleared : ∀ tokenId ∈ tokenIds, u.deposit? classId tokenId = none
  /-- Nothing else has changed. -/
  rest : ChangedOnly
    (fun k => ∃ tokenId ∈ tokenIds, k = .token classId tokenId ∨ k = .deposit classId tokenId) s u

namespace Released

variable {bridge recipient : Address} {classId channel tokenId : String}
  {tokenIds : List String} {m : Store Entry}

theorem nil : Released bridge classId channel recipient [] s s where
  nodup := List.nodup_nil
  deposited := by simp
  passed := by simp
  cleared := by simp
  rest := .refl

/-- One token after another. -/
theorem cons {deposit : Deposit}
    (h : (Deposit.release bridge classId tokenId channel recipient).Yields s deposit m)
    (hr : Released bridge classId channel recipient tokenIds m u) :
    Released bridge classId channel recipient (tokenId :: tokenIds) s u := by
  obtain ⟨hd, hc, token, ht, ho, rfl⟩ := Deposit.yields_release.mp h
  have hk : (Key.token classId tokenId).Fits := Table.fits_of_view ht
  -- the token is not among the others, since its deposit is gone
  have hnot : tokenId ∉ tokenIds := by
    intro hmem
    obtain ⟨deposit', hd', -⟩ := hr.deposited tokenId hmem
    simp [Table.view_keep hk, Table.view_drop] at hd'
  have hne {other : String} (hmem : other ∈ tokenIds) : other ≠ tokenId := by
    rintro rfl
    exact hnot hmem
  have hfirst : ¬ ∃ other ∈ tokenIds, Key.token classId tokenId = .token classId other
      ∨ Key.token classId tokenId = .deposit classId other := by
    rintro ⟨other, hmem, heq | heq⟩
    · cases heq
      exact hnot hmem
    · cases heq
  have hfirst' : ¬ ∃ other ∈ tokenIds, Key.deposit classId tokenId = .token classId other
      ∨ Key.deposit classId tokenId = .deposit classId other := by
    rintro ⟨other, hmem, heq | heq⟩
    · cases heq
    · cases heq
      exact hnot hmem
  constructor
  case nodup => exact List.nodup_cons.mpr ⟨hnot, hr.nodup⟩
  case deposited =>
    intro other hmem
    rcases List.mem_cons.mp hmem with rfl | hmem
    · exact ⟨deposit, hd, hc⟩
    · simpa [Table.view_keep hk, Table.view_drop, hne hmem] using hr.deposited other hmem
  case passed =>
    intro other hmem
    rcases List.mem_cons.mp hmem with rfl | hmem
    · refine ⟨token, ht, ho, ?_⟩
      rw [token?, Table.view_of_changedOnly hr.rest _ hfirst]
      simp [Table.view_keep hk]
    · simpa [Table.view_keep hk, Table.view_drop, hne hmem] using hr.passed other hmem
  case cleared =>
    intro other hmem
    rcases List.mem_cons.mp hmem with rfl | hmem
    · rw [deposit?, Table.view_of_changedOnly hr.rest _ hfirst']
      simp [Table.view_keep hk, Table.view_drop]
    · exact hr.cleared other hmem
  case rest =>
    refine .trans (.trans (.drop ?_) (.keep ?_)) (hr.rest.mono fun k => ?_)
    · exact ⟨tokenId, List.mem_cons_self, .inr rfl⟩
    · exact ⟨tokenId, List.mem_cons_self, .inl rfl⟩
    · rintro ⟨other, hmem, heq⟩
      exact ⟨other, List.mem_cons_of_mem _ hmem, heq⟩

/-- **A loop that releases tokens has released them.** -/
theorem of_yields {x : Unit}
    (h : (forM tokenIds fun tokenId => do
      let _ ← Deposit.release bridge classId tokenId channel recipient).Yields s x u) :
    Released bridge classId channel recipient tokenIds s u := by
  induction tokenIds generalizing s with
  | nil =>
    obtain rfl := yields_forM_nil.mp h
    exact .nil
  | cons tokenId tokenIds ih =>
    obtain ⟨m, hm, hu⟩ := yields_forM_cons.mp h
    simp only [yields_bind, yields_pure] at hm
    obtain ⟨deposit, _, hd, -, rfl⟩ := hm
    exact .cons hd (ih hu)

/-- **A loop that releases tokens comes to its end** if each of them is in the
hands of the bridge and deposited for the channel, and none occurs twice. -/
theorem exists_yields (recipient : Address) (hnodup : tokenIds.Nodup)
    (h : ∀ tokenId ∈ tokenIds, ∃ uri deposit, s.token? classId tokenId = some ⟨bridge, uri⟩
      ∧ s.deposit? classId tokenId = some deposit ∧ deposit.channel = channel) :
    ∃ u, (forM tokenIds fun tokenId => do
      let _ ← Deposit.release bridge classId tokenId channel recipient).Yields s () u := by
  induction tokenIds generalizing s with
  | nil => exact ⟨s, yields_forM_nil.mpr rfl⟩
  | cons tokenId tokenIds ih =>
    obtain ⟨hnot, hnodup⟩ := List.nodup_cons.mp hnodup
    obtain ⟨⟨uri, deposit, ht, hd, hc⟩, hrest⟩ := List.forall_mem_cons.mp h
    have hk : (Key.token classId tokenId).Fits := Table.fits_of_view ht
    have hfirst : (Deposit.release bridge classId tokenId channel recipient).Yields s deposit _ :=
      Deposit.yields_release.mpr ⟨hd, hc, _, ht, rfl, rfl⟩
    simp only [yields_forM_cons, yields_bind, yields_pure]
    refine (ih hnodup fun other hmem => ?_).imp fun u hu =>
      ⟨_, ⟨deposit, _, hfirst, trivial, rfl⟩, hu⟩
    -- the other tokens are still where they were
    have hne : other ≠ tokenId := fun heq => hnot (heq ▸ hmem)
    simpa [Table.view_keep hk, Table.view_drop, hne] using hrest other hmem

end Released

/-! ## Tokens that come into being -/

/-- **What minting tokens of a class does**: none of them was there, and
each is now, in the hands of the recipient and with its metadata. -/
structure Minted (classId : String) (recipient : Address)
    (tokens : List (String × Option String)) (s u : Store Entry) : Prop where
  /-- No token occurs twice. -/
  nodup : (tokens.map Prod.fst).Nodup
  /-- None was there. -/
  absent : ∀ x ∈ tokens, s.token? classId x.1 = none
  /-- Each is there now. -/
  made : ∀ x ∈ tokens, u.token? classId x.1 = some ⟨recipient, x.2⟩
  /-- Nothing else has changed. -/
  rest : ChangedOnly (fun k => ∃ x ∈ tokens, k = .token classId x.1) s u

namespace Minted

variable {recipient : Address} {classId : String} {x : String × Option String}
  {tokens : List (String × Option String)} {m : Store Entry}

theorem nil : Minted classId recipient [] s s where
  nodup := List.nodup_nil
  absent := by simp
  made := by simp
  rest := .refl

/-- One token after another. -/
theorem cons (h : (Token.mint classId x.1 recipient x.2).Yields s () m)
    (hr : Minted classId recipient tokens m u) :
    Minted classId recipient (x :: tokens) s u := by
  obtain ⟨hk, hn, rfl⟩ := Token.yields_mint.mp h
  -- the token is not among the others, since it is there
  have hne {y : String × Option String} (hmem : y ∈ tokens) : y.1 ≠ x.1 := by
    intro heq
    have := hr.absent y hmem
    simp [Table.view_keep hk, heq] at this
  have hfirst : ¬ ∃ y ∈ tokens, Key.token classId x.1 = .token classId y.1 := by
    rintro ⟨y, hmem, heq⟩
    exact hne hmem (Key.token.inj heq).2.symm
  constructor
  case nodup =>
    refine List.nodup_cons.mpr ⟨fun hmem => ?_, hr.nodup⟩
    obtain ⟨y, hy, heq⟩ := List.mem_map.mp hmem
    exact hne hy heq
  case absent =>
    intro y hmem
    rcases List.mem_cons.mp hmem with rfl | hmem
    · exact hn
    · simpa [Table.view_keep hk, hne hmem] using hr.absent y hmem
  case made =>
    intro y hmem
    rcases List.mem_cons.mp hmem with rfl | hmem
    · rw [token?, Table.view_of_changedOnly hr.rest _ hfirst]
      simp [Table.view_keep hk]
    · exact hr.made y hmem
  case rest =>
    refine .trans (.keep ⟨x, List.mem_cons_self, rfl⟩) (hr.rest.mono fun k => ?_)
    rintro ⟨y, hmem, heq⟩
    exact ⟨y, List.mem_cons_of_mem _ hmem, heq⟩

/-- **A loop that mints tokens has minted them.** -/
theorem of_yields {r : Unit}
    (h : (forM tokens fun (tokenId, uri) => Token.mint classId tokenId recipient uri).Yields
      s r u) :
    Minted classId recipient tokens s u := by
  induction tokens generalizing s with
  | nil =>
    obtain rfl := yields_forM_nil.mp h
    exact .nil
  | cons x tokens ih =>
    obtain ⟨m, hm, hu⟩ := yields_forM_cons.mp h
    exact .cons hm (ih hu)

/-- **A loop that mints tokens comes to its end** if none of them is there and
none occurs twice. -/
theorem exists_yields (recipient : Address) (hnodup : (tokens.map Prod.fst).Nodup)
    (h : ∀ x ∈ tokens, (Key.token classId x.1).Fits ∧ s.token? classId x.1 = none) :
    ∃ u, (forM tokens fun (tokenId, uri) => Token.mint classId tokenId recipient uri).Yields
      s () u := by
  induction tokens generalizing s with
  | nil => exact ⟨s, yields_forM_nil.mpr rfl⟩
  | cons x tokens ih =>
    obtain ⟨hnot, hnodup⟩ := List.nodup_cons.mp hnodup
    obtain ⟨⟨hk, hn⟩, hrest⟩ := List.forall_mem_cons.mp h
    have hfirst : (Token.mint classId x.1 recipient x.2).Yields s () _ :=
      Token.yields_mint.mpr ⟨hk, hn, rfl⟩
    refine (ih hnodup fun y hmem => ?_).imp fun u hu => yields_forM_cons.mpr ⟨_, hfirst, hu⟩
    -- the other tokens are still missing
    have hne : y.1 ≠ x.1 := fun heq => hnot (heq ▸ List.mem_map_of_mem hmem)
    simpa [Table.view_keep hk, hne] using hrest y hmem

end Minted

/-! ## Tokens that are sent -/

/-- If two lists are mapped to the same list, then so are any two elements of them
that stand beside each other. -/
theorem eq_of_mem_zip {α β γ : Type} {f : α → γ} {g : β → γ} {xs : List α} {ys : List β}
    (h : xs.map f = ys.map g) {x : α × β} (hx : x ∈ xs.zip ys) : f x.1 = g x.2 := by
  obtain ⟨i, hi, rfl⟩ := List.getElem_of_mem hx
  have := congrArg (·[i]?) h
  rw [List.length_zip] at hi
  simpa [List.getElem?_eq_getElem, Nat.lt_min.mp hi] using this

/-- **What depositing tokens of a class does**: each was in the hands of
its owner and not deposited, and it is now in the hands of the bridge and
deposited for the channel. -/
structure Deposited (bridge : Address) (classId channel : String) (owner : Address)
    (tokenIds : List String) (uris : List (Option String)) (s u : Store Entry) : Prop where
  /-- No token occurs twice. -/
  nodup : tokenIds.Nodup
  /-- The tokens belonged to the owner, and this was their metadata. -/
  found : tokenIds.map (s.token? classId ·) = uris.map fun uri => some ⟨owner, uri⟩
  /-- None was deposited. -/
  free : ∀ tokenId ∈ tokenIds, s.deposit? classId tokenId = none
  /-- Each is in the hands of the bridge. -/
  passed : ∀ tokenId ∈ tokenIds, u.token? classId tokenId
    = (s.token? classId tokenId).map fun token => { token with owner := bridge }
  /-- Each is deposited for the channel. -/
  recorded : ∀ tokenId ∈ tokenIds,
    u.deposit? classId tokenId = some ⟨classId, tokenId, channel, owner⟩
  /-- Nothing else has changed. -/
  rest : ChangedOnly
    (fun k => ∃ tokenId ∈ tokenIds, k = .token classId tokenId ∨ k = .deposit classId tokenId) s u

/-- **What burning tokens of a class does**: each was in the hands of its
owner, and it is there no more. -/
structure Burned (classId : String) (owner : Address) (tokenIds : List String)
    (uris : List (Option String)) (s u : Store Entry) : Prop where
  /-- No token occurs twice. -/
  nodup : tokenIds.Nodup
  /-- The tokens belonged to the owner, and this was their metadata. -/
  found : tokenIds.map (s.token? classId ·) = uris.map fun uri => some ⟨owner, uri⟩
  /-- Each is gone. -/
  gone : ∀ tokenId ∈ tokenIds, u.token? classId tokenId = none
  /-- Nothing else has changed. -/
  rest : ChangedOnly (fun k => ∃ tokenId ∈ tokenIds, k = .token classId tokenId) s u

/-- **What a send does with its tokens.** -/
def Surrendered (bridge : Address) (custody : Custody) (classId channel : String)
    (owner : Address) (tokenIds : List String) (uris : List (Option String))
    (s u : Store Entry) : Prop :=
  match custody with
  | .escrowed => Deposited bridge classId channel owner tokenIds uris s u
  | .burned => Burned classId owner tokenIds uris s u

section

variable {bridge owner : Address} {classId channel tokenId : String} {tokenIds : List String}
  {uris : List (Option String)} {m : Store Entry} {token : Token}

theorem Deposited.nil : Deposited bridge classId channel owner [] [] s s where
  nodup := List.nodup_nil
  found := rfl
  free := by simp
  passed := by simp
  recorded := by simp
  rest := .refl

theorem Burned.nil : Burned classId owner [] [] s s where
  nodup := List.nodup_nil
  found := rfl
  gone := by simp
  rest := .refl

/-- One token after another. -/
theorem Deposited.cons {deposit : Deposit}
    (h : (Deposit.make bridge classId tokenId channel owner).Yields s deposit m)
    (ht : s.token? classId tokenId = some token)
    (hr : Deposited bridge classId channel owner tokenIds uris m u) :
    Deposited bridge classId channel owner (tokenId :: tokenIds) (token.uri :: uris) s u := by
  obtain ⟨hd, rfl, token', ht', ho, rfl⟩ := Deposit.yields_make.mp h
  obtain rfl : token = token' := Option.some.inj (ht.symm.trans ht')
  have hk : (Key.token classId tokenId).Fits := Table.fits_of_view ht
  have hk' : (Key.deposit classId tokenId).Fits :=
    Key.fits_deposit_iff.mpr (Key.fits_token_iff.mp hk)
  -- the token is not among the others, since it is deposited
  have hnot : tokenId ∉ tokenIds := by
    intro hmem
    have := hr.free tokenId hmem
    simp [Table.view_keep hk'] at this
  have hne {other : String} (hmem : other ∈ tokenIds) : other ≠ tokenId := by
    rintro rfl
    exact hnot hmem
  constructor
  case nodup => exact List.nodup_cons.mpr ⟨hnot, hr.nodup⟩
  case found =>
    rw [List.map_cons, List.map_cons, ht, ← hr.found]
    refine congrArg₂ List.cons (by rw [← ho]) (List.map_congr_left fun other hmem => ?_)
    simp [Table.view_keep hk, Table.view_keep hk', hne hmem]
  case free =>
    intro other hmem
    rcases List.mem_cons.mp hmem with rfl | hmem
    · exact hd
    · simpa [Table.view_keep hk, Table.view_keep hk', hne hmem] using hr.free other hmem
  case passed =>
    intro other hmem
    rcases List.mem_cons.mp hmem with rfl | hmem
    · rw [token?, Table.view_of_changedOnly hr.rest _ (by simpa using hnot)]
      simp [Table.view_keep hk, Table.view_keep hk', ht]
    · simpa [Table.view_keep hk, Table.view_keep hk', hne hmem] using hr.passed other hmem
  case recorded =>
    intro other hmem
    rcases List.mem_cons.mp hmem with rfl | hmem
    · rw [deposit?, Table.view_of_changedOnly hr.rest _ (by simpa using hnot)]
      simp [Table.view_keep hk']
    · exact hr.recorded other hmem
  case rest =>
    refine .trans (.trans (.keep ?_) (.keep ?_)) (hr.rest.mono fun k => ?_)
    · exact ⟨tokenId, List.mem_cons_self, .inl rfl⟩
    · exact ⟨tokenId, List.mem_cons_self, .inr rfl⟩
    · rintro ⟨other, hmem, heq⟩
      exact ⟨other, List.mem_cons_of_mem _ hmem, heq⟩

/-- One token after another. -/
theorem Burned.cons (h : (Token.burn classId tokenId).Yields s token m)
    (ho : token.owner = owner) (hr : Burned classId owner tokenIds uris m u) :
    Burned classId owner (tokenId :: tokenIds) (token.uri :: uris) s u := by
  obtain ⟨ht, rfl⟩ := Token.yields_burn.mp h
  -- the token is not among the others, since it is gone
  have hnot : tokenId ∉ tokenIds := by
    intro hmem
    have hm : some ((s.drop (.token classId tokenId)).token? classId tokenId)
        ∈ (uris.map fun uri => some (some (⟨owner, uri⟩ : Token))) := by
      have := congrArg (List.map some) hr.found
      rw [List.map_map, List.map_map] at this
      exact this ▸ List.mem_map.mpr ⟨tokenId, hmem, rfl⟩
    simp [Table.view_drop] at hm
  have hne {other : String} (hmem : other ∈ tokenIds) : other ≠ tokenId := by
    rintro rfl
    exact hnot hmem
  constructor
  case nodup => exact List.nodup_cons.mpr ⟨hnot, hr.nodup⟩
  case found =>
    rw [List.map_cons, List.map_cons, ht, ← hr.found]
    refine congrArg₂ List.cons (by rw [← ho]) (List.map_congr_left fun other hmem => ?_)
    simp [Table.view_drop, hne hmem]
  case gone =>
    intro other hmem
    rcases List.mem_cons.mp hmem with rfl | hmem
    · rw [token?, Table.view_of_changedOnly hr.rest _ (by simpa using hnot)]
      simp [Table.view_drop]
    · exact hr.gone other hmem
  case rest =>
    refine .trans (.drop ⟨tokenId, List.mem_cons_self, rfl⟩) (hr.rest.mono fun k => ?_)
    rintro ⟨other, hmem, heq⟩
    exact ⟨other, List.mem_cons_of_mem _ hmem, heq⟩

end

namespace Surrendered

variable {bridge owner : Address} {custody : Custody} {classId channel : String}
  {tokenIds : List String} {uris : List (Option String)} {tokens : List Token}

/-- **A loop that takes tokens to be sent has taken them.** -/
theorem of_yields
    (h : (tokenIds.mapM (SendOrder.surrender bridge custody classId channel owner)).Yields
      s tokens u) :
    Surrendered bridge custody classId channel owner tokenIds (tokens.map (·.uri)) s u := by
  induction tokenIds generalizing s tokens with
  | nil =>
    obtain ⟨rfl, rfl⟩ := yields_mapM_nil.mp h
    cases custody with
    | escrowed => exact Deposited.nil
    | burned => exact Burned.nil
  | cons tokenId tokenIds ih =>
    obtain ⟨token, m, hm, tokens, hu, rfl⟩ := yields_mapM_cons.mp h
    have hr := ih hu
    rw [SendOrder.surrender, yields_bind] at hm
    obtain ⟨token', _, hf, hm⟩ := hm
    obtain ⟨ht, ho, rfl⟩ := Token.yields_findOwned.mp hf
    cases custody with
    | escrowed =>
      simp only [yields_bind, yields_pure] at hm
      obtain ⟨deposit, _, hd, rfl, rfl⟩ := hm
      exact Deposited.cons hd ht hr
    | burned =>
      simp only [yields_bind, yields_pure] at hm
      obtain ⟨token'', _, hb, rfl, rfl⟩ := hm
      obtain rfl : token'' = token :=
        Option.some.inj ((Token.yields_burn.mp hb).1.symm.trans ht)
      exact Burned.cons hb ho hr

/-- **A loop that takes tokens to be sent comes to its end** if each of them
is in the hands of its owner, none occurs twice, and none is deposited already
that is to be deposited. -/
theorem exists_yields (bridge : Address) (custody : Custody) (channel : String)
    (hnodup : tokenIds.Nodup)
    (howned : ∀ tokenId ∈ tokenIds, ∃ uri, s.token? classId tokenId = some ⟨owner, uri⟩)
    (hfree : custody = .escrowed → ∀ tokenId ∈ tokenIds, s.deposit? classId tokenId = none) :
    ∃ tokens u, (tokenIds.mapM (SendOrder.surrender bridge custody classId channel owner)).Yields
      s tokens u := by
  induction tokenIds generalizing s with
  | nil => exact ⟨[], s, yields_mapM_nil.mpr ⟨rfl, rfl⟩⟩
  | cons tokenId tokenIds ih =>
    obtain ⟨hnot, hnodup⟩ := List.nodup_cons.mp hnodup
    obtain ⟨⟨uri, ht⟩, howned⟩ := List.forall_mem_cons.mp howned
    have hk : (Key.token classId tokenId).Fits := Table.fits_of_view ht
    have hk' : (Key.deposit classId tokenId).Fits :=
      Key.fits_deposit_iff.mpr (Key.fits_token_iff.mp hk)
    have hne {other : String} (hmem : other ∈ tokenIds) : other ≠ tokenId := by
      rintro rfl
      exact hnot hmem
    -- the other tokens are still where they were
    suffices hfirst : ∃ m,
        (SendOrder.surrender bridge custody classId channel owner tokenId).Yields s ⟨owner, uri⟩ m
          ∧ ∀ other ∈ tokenIds, m.token? classId other = s.token? classId other
            ∧ m.deposit? classId other = s.deposit? classId other by
      obtain ⟨m, hm, hsame⟩ := hfirst
      obtain ⟨tokens, u, hu⟩ := ih hnodup
        (fun other hmem => by rw [(hsame other hmem).1]; exact howned other hmem)
        (fun hescrowed other hmem => by
          rw [(hsame other hmem).2]
          exact hfree hescrowed other (List.mem_cons_of_mem _ hmem))
      exact ⟨_, u, yields_mapM_cons.mpr ⟨_, m, hm, tokens, hu, rfl⟩⟩
    simp only [SendOrder.surrender, yields_bind, Token.yields_findOwned]
    cases custody with
    | escrowed =>
      have hmake : (Deposit.make bridge classId tokenId channel owner).Yields s _ _ :=
        Deposit.yields_make.mpr ⟨hfree rfl _ List.mem_cons_self, rfl, _, ht, rfl, rfl⟩
      refine ⟨_, ⟨_, s, ⟨ht, rfl, rfl⟩,
        yields_bind.mpr ⟨_, _, hmake, yields_pure.mpr ⟨rfl, rfl⟩⟩⟩, fun other hmem => ?_⟩
      simp [Table.view_keep hk, Table.view_keep hk', hne hmem]
    | burned =>
      have hburn : (Token.burn classId tokenId).Yields s _ _ := Token.yields_burn.mpr ⟨ht, rfl⟩
      refine ⟨_, ⟨_, s, ⟨ht, rfl, rfl⟩,
        yields_bind.mpr ⟨_, _, hburn, yields_pure.mpr ⟨rfl, rfl⟩⟩⟩, fun other hmem => ?_⟩
      simp [Table.view_drop, hne hmem]

theorem nodup (h : Surrendered bridge custody classId channel owner tokenIds uris s u) :
    tokenIds.Nodup := by
  cases custody with
  | escrowed => exact Deposited.nodup h
  | burned => exact Burned.nodup h

theorem found (h : Surrendered bridge custody classId channel owner tokenIds uris s u) :
    tokenIds.map (s.token? classId ·) = uris.map fun uri => some ⟨owner, uri⟩ := by
  cases custody with
  | escrowed => exact Deposited.found h
  | burned => exact Burned.found h

/-- There is one metadata entry for each token. -/
theorem length_eq (h : Surrendered bridge custody classId channel owner tokenIds uris s u) :
    tokenIds.length = uris.length := by
  simpa using congrArg List.length h.found

/-- Each token was in the hands of its owner, with its metadata. -/
theorem token?_of_mem (h : Surrendered bridge custody classId channel owner tokenIds uris s u)
    {x : String × Option String} (hx : x ∈ tokenIds.zip uris) :
    s.token? classId x.1 = some ⟨owner, x.2⟩ :=
  eq_of_mem_zip h.found hx

/-- Nothing has changed but the tokens, and their deposits if they are
deposited. -/
theorem changedOnly (h : Surrendered bridge custody classId channel owner tokenIds uris s u) :
    ChangedOnly (fun k => ∃ tokenId ∈ tokenIds,
      k = .token classId tokenId ∨ custody = .escrowed ∧ k = .deposit classId tokenId) s u := by
  cases custody with
  | escrowed =>
    refine (Deposited.rest h).mono fun k => ?_
    rintro ⟨tokenId, hmem, heq⟩
    exact ⟨tokenId, hmem, heq.imp_right fun heq => ⟨rfl, heq⟩⟩
  | burned =>
    refine (Burned.rest h).mono fun k => ?_
    rintro ⟨tokenId, hmem, heq⟩
    exact ⟨tokenId, hmem, .inl heq⟩

/-- Nothing but the tokens and their deposits has changed. -/
theorem rest (h : Surrendered bridge custody classId channel owner tokenIds uris s u) :
    ChangedOnly (fun k => ∃ tokenId ∈ tokenIds, k = .token classId tokenId
      ∨ k = .deposit classId tokenId) s u := by
  refine h.changedOnly.mono fun k => ?_
  rintro ⟨tokenId, hmem, heq⟩
  exact ⟨tokenId, hmem, heq.imp_right And.right⟩

end Surrendered

end TokenBridge
