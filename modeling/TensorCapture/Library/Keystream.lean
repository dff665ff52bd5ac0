set_option autoImplicit false

/-! # The key stream of a block cipher

The words of a generator are the key stream of the ChaCha cipher with twelve rounds. Its state
is four rows of four words: a row of constants, two rows of the key, and a row that counts the
blocks. A round adds, exclusive-ors and rotates along the four columns, or along the four
diagonals; the block is the state after all rounds plus the state before them.
-/

namespace TensorCapture.Keystream

/-- The bits of a word moved up by `n` places, with those beyond the top coming in below. -/
def rotateUp (x n : UInt32) : UInt32 := (x <<< n) ||| (x >>> (32 - n))

/-- The bits of a word moved down by `n` places, with those beyond the bottom coming in above. -/
def rotateDown (x n : UInt32) : UInt32 := (x >>> n) ||| (x <<< (32 - n))

/-! ## Rows -/

/-- Four words, one for each column. -/
structure Row where
  first : UInt32
  second : UInt32
  third : UInt32
  fourth : UInt32
  deriving DecidableEq, Repr

namespace Row

/-- The sums of the columns. -/
def add (r s : Row) : Row :=
  ⟨r.first + s.first, r.second + s.second, r.third + s.third, r.fourth + s.fourth⟩

/-- The exclusive or of the columns, rotated. -/
def fold (r s : Row) (n : UInt32) : Row :=
  ⟨rotateUp (r.first ^^^ s.first) n, rotateUp (r.second ^^^ s.second) n,
    rotateUp (r.third ^^^ s.third) n, rotateUp (r.fourth ^^^ s.fourth) n⟩

/-- The row with each word one column further to the left. -/
def turn (r : Row) : Row := ⟨r.second, r.third, r.fourth, r.first⟩

/-- The words in the order of the columns. -/
def words (r : Row) : List UInt32 := [r.first, r.second, r.third, r.fourth]

@[simp] theorem turn_turn_turn_turn (r : Row) : r.turn.turn.turn.turn = r := rfl

@[simp] theorem length_words (r : Row) : r.words.length = 4 := rfl

end Row

/-! ## Rounds -/

/-- Four rows. -/
structure State where
  a : Row
  b : Row
  c : Row
  d : Row
  deriving DecidableEq, Repr

namespace State

/-- One round along the columns. -/
def mixColumns (s : State) : State :=
  let a := s.a.add s.b
  let d := s.d.fold a 16
  let c := s.c.add d
  let b := s.b.fold c 12
  let a := a.add b
  let d := d.fold a 8
  let c := c.add d
  let b := b.fold c 7
  ⟨a, b, c, d⟩

/-- The rows turned so that each diagonal stands in a column. -/
def toDiagonals (s : State) : State := ⟨s.a, s.b.turn, s.c.turn.turn, s.d.turn.turn.turn⟩

/-- The rows turned back. -/
def ofDiagonals (s : State) : State := ⟨s.a, s.b.turn.turn.turn, s.c.turn.turn, s.d.turn⟩

/-- One round along the columns and one along the diagonals. -/
def mix (s : State) : State := s.mixColumns.toDiagonals.mixColumns.ofDiagonals

/-- As many pairs of rounds as given. -/
def mixTimes : Nat → State → State
  | 0, s => s
  | n + 1, s => mixTimes n s.mix

/-- The sums of the rows. -/
def add (s t : State) : State := ⟨s.a.add t.a, s.b.add t.b, s.c.add t.c, s.d.add t.d⟩

/-- The sixteen words, row after row. -/
def words (s : State) : List UInt32 := s.a.words ++ s.b.words ++ s.c.words ++ s.d.words

@[simp] theorem ofDiagonals_toDiagonals (s : State) : s.toDiagonals.ofDiagonals = s := rfl

@[simp] theorem toDiagonals_ofDiagonals (s : State) : s.ofDiagonals.toDiagonals = s := rfl

@[simp] theorem length_words (s : State) : s.words.length = 16 := rfl

end State

/-! ## Keys -/

/-- The step of the sequence that a key is taken from. -/
def advance (x : UInt64) : UInt64 := x * 6364136223846793005 + 11634580027462260723

/-- The word that a member of the sequence gives: its upper bits folded, and rotated by the
topmost five. -/
def scramble (x : UInt64) : UInt32 :=
  rotateDown (((x >>> 18) ^^^ x) >>> 27).toUInt32 (x >>> 59).toUInt32

/-- A row of the key, and the member of the sequence it ends with. -/
def keyRow (x : UInt64) : Row × UInt64 :=
  let x1 := advance x
  let x2 := advance x1
  let x3 := advance x2
  let x4 := advance x3
  (⟨scramble x1, scramble x2, scramble x3, scramble x4⟩, x4)

/-- The row of constants. -/
def constants : Row := ⟨0x61707865, 0x3320646e, 0x79622d32, 0x6b206574⟩

/-- The state of a seed before the rounds of a block. -/
def start (seed : UInt64) (block : UInt64) : State :=
  let (upper, x) := keyRow seed
  let (lower, _) := keyRow x
  ⟨constants, upper, lower, ⟨block.toUInt32, (block >>> 32).toUInt32, 0, 0⟩⟩

/-- A block of the key stream of a seed. -/
def block (seed : UInt64) (n : Nat) : State :=
  let s := start seed (UInt64.ofNat n)
  (s.mixTimes 6).add s

/-- The word at a position of the key stream of a seed. -/
def wordAt (seed : UInt64) (position : Nat) : UInt32 :=
  (block seed (position / 16)).words.getD (position % 16) 0

end TensorCapture.Keystream
