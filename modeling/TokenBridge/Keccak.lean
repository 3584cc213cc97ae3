import TokenBridge.Bytes

/-!
# Keccak-256

Collections live at addresses derived from a Keccak-256 digest. The
digest is a sponge over a five by five grid of 64-bit lanes: the padded
message is absorbed block by block, a permutation of the grid between
blocks, and the first four lanes are squeezed out.

Each step of the permutation is a map from grids to grids, given lane
by lane. The padding appends the bit `1` alone before the zeros, unlike
that of the SHA-3 standard, which has two more bits in front of it.
-/

namespace TokenBridge.Keccak

/-! ## The grid -/

/-- **The state of the sponge**: lane `(x, y)` stands at place
`x + 5 * y`. -/
abbrev Grid := Vector UInt64 25

/-- The lane at a pair of coordinates, each taken modulo five. -/
def Grid.lane (a : Grid) (x y : Nat) : UInt64 :=
  a.get ⟨x % 5 + 5 * (y % 5), by omega⟩

/-- The grid with the given lanes. -/
def Grid.tabulate (f : (x y : Nat) → UInt64) : Grid :=
  Vector.ofFn fun i => f (i.val % 5) (i.val / 5)

/-- The grid of zeros. -/
def Grid.zero : Grid := Vector.replicate 25 0

@[simp] theorem Grid.lane_tabulate (f : Nat → Nat → UInt64) (x y : Nat) :
    (Grid.tabulate f).lane x y = f (x % 5) (y % 5) := by
  have h₁ : (x % 5 + 5 * (y % 5)) % 5 = x % 5 := by omega
  have h₂ : (x % 5 + 5 * (y % 5)) / 5 = y % 5 := by omega
  show (Vector.ofFn fun i : Fin 25 => f (i.val % 5) (i.val / 5))[x % 5 + 5 * (y % 5)] = _
  simp [h₁, h₂]

/-! ## The permutation -/

/-- Left rotation of a lane, by fewer than 64 places. -/
def rotate (w : UInt64) (n : Nat) : UInt64 :=
  (w <<< n.toUInt64) ||| (w >>> ((64 - n) % 64).toUInt64)

/-- The parity of a column. -/
def parity (a : Grid) (x : Nat) : UInt64 :=
  a.lane x 0 ^^^ a.lane x 1 ^^^ a.lane x 2 ^^^ a.lane x 3 ^^^ a.lane x 4

/-- Adds to each lane the parities of the two columns beside it. -/
def theta (a : Grid) : Grid :=
  let parities := Vector.ofFn (n := 5) fun x => parity a x.val
  let column (x : Nat) : UInt64 := parities.get ⟨x % 5, by omega⟩
  Grid.tabulate fun x y => a.lane x y ^^^ column (x + 4) ^^^ rotate (column (x + 1)) 1

/-- How far each lane is rotated, by place. -/
def offsets : Vector Nat 25 :=
  #v[0, 1, 62, 28, 27, 36, 44, 6, 55, 20, 3, 10, 43, 25, 39, 41, 45, 15, 21, 8, 18, 2, 61, 56, 14]

/-- Rotates each lane by its offset, and then moves it to its new
place. -/
def rhoPi (a : Grid) : Grid :=
  Grid.tabulate fun x y =>
    rotate (a.lane (x + 3 * y) x) (offsets.get ⟨(x + 3 * y) % 5 + 5 * (x % 5), by omega⟩)

/-- Combines each lane with the two lanes after it in its row. -/
def chi (a : Grid) : Grid :=
  Grid.tabulate fun x y => a.lane x y ^^^ (~~~ a.lane (x + 1) y &&& a.lane (x + 2) y)

/-- Adds a round constant to the first lane. -/
def iota (constant : UInt64) (a : Grid) : Grid :=
  a.set 0 (a[0] ^^^ constant)

/-- The constants of the twenty-four rounds. -/
def roundConstants : List UInt64 :=
  [0x0000000000000001, 0x0000000000008082, 0x800000000000808A, 0x8000000080008000,
   0x000000000000808B, 0x0000000080000001, 0x8000000080008081, 0x8000000000008009,
   0x000000000000008A, 0x0000000000000088, 0x0000000080008009, 0x000000008000000A,
   0x000000008000808B, 0x800000000000008B, 0x8000000000008089, 0x8000000000008003,
   0x8000000000008002, 0x8000000000000080, 0x000000000000800A, 0x800000008000000A,
   0x8000000080008081, 0x8000000000008080, 0x0000000080000001, 0x8000000080008008]

/-- One round. -/
def round (a : Grid) (constant : UInt64) : Grid :=
  iota constant (chi (rhoPi (theta a)))

/-- **The permutation**: all rounds in turn. -/
def permute (a : Grid) : Grid := roundConstants.foldl round a

/-! ## The sponge -/

/-- The number of octets of a block. The rest of the grid, twice the
size of the digest, is never touched from outside. -/
def rate : Nat := 136

/-- The message with its padding: a one bit, zeros, and a one bit at
the very end of the last block. -/
def pad (message : Bytes) : Bytes :=
  let room := rate - message.length % rate
  if room = 1 then message ++ [0x81]
  else message ++ 0x01 :: (List.replicate (room - 2) 0 ++ [0x80])

/-- The lane that eight octets spell, the lowest first. -/
def laneOf (octets : Bytes) : UInt64 :=
  octets.foldr (fun d w => (w <<< 8) ||| d.toUInt64) 0

/-- The eight octets of a lane, the lowest first. -/
def octetsOf (w : UInt64) : Bytes :=
  (List.range 8).map fun i => (w >>> (8 * i).toUInt64).toUInt8

/-- Adds a block to the grid, lane by lane. -/
def mix (a : Grid) (block : Bytes) : Grid :=
  Grid.tabulate fun x y =>
    a.lane x y ^^^ laneOf ((block.drop (8 * (x + 5 * y))).take 8)

/-- Absorbs the given number of blocks. -/
def absorb : (blocks : Nat) → Grid → Bytes → Grid
  | 0, a, _ => a
  | blocks + 1, a, message =>
    absorb blocks (permute (mix a (message.take rate))) (message.drop rate)

/-- **The Keccak-256 digest** of a message: thirty-two octets. -/
def digest (message : Bytes) : Bytes :=
  let padded := pad message
  let a := absorb (padded.length / rate) Grid.zero padded
  (List.range 4).flatMap fun x => octetsOf (a.lane x 0)

/-- The padded message fills its blocks. -/
theorem rate_dvd_length_pad (message : Bytes) : rate ∣ (pad message).length := by
  have h := Nat.div_add_mod message.length rate
  have hlt : message.length % rate < rate := Nat.mod_lt _ (by decide)
  -- one more block than the message fills
  refine ⟨message.length / rate + 1, ?_⟩
  rw [pad, Nat.mul_add]
  split <;> simp only [List.length_append, List.length_cons, List.length_replicate,
    List.length_nil] <;> omega

@[simp] theorem length_digest (message : Bytes) : (digest message).length = 32 := by
  simp [digest, octetsOf, List.range_succ]

end TokenBridge.Keccak
