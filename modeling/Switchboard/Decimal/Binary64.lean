/-!
Binary floating-point numbers of 64 bits, given by their bits.

Two equalities live here. `=` compares bits. `==` compares as numbers: a NaN
differs from everything, itself included (`beq_self_iff`), and the two zeros are
equal, because both have rank zero. `rank` puts all other values in order, so
equality and `lt` are comparisons of integers.
-/

namespace Switchboard

/-- A number in the 64-bit binary format: sign, eleven exponent bits, 52 fraction bits. -/
structure Binary64 where
  bits : UInt64
deriving DecidableEq, Repr, Inhabited

namespace Binary64

/-! ### Parts -/

/-- The sign bit is set. -/
def isNegative (x : Binary64) : Bool :=
  Nat.pow 2 63 ≤ x.bits.toNat

/-- All bits but the sign, read as a number. Among numbers of one sign it grows with the value. -/
def magnitude (x : Binary64) : Nat :=
  x.bits.toNat % Nat.pow 2 63

/-- The magnitude of the infinities; above it are the NaNs. -/
def infiniteMagnitude : Nat :=
  0x7ff * Nat.pow 2 52

def isNaN (x : Binary64) : Bool :=
  infiniteMagnitude < x.magnitude

def isInfinite (x : Binary64) : Bool :=
  x.magnitude = infiniteMagnitude

def isZero (x : Binary64) : Bool :=
  x.magnitude = 0

/-- The one NaN that stands for all of them; every other number stands for itself. -/
def canonical (x : Binary64) : Binary64 :=
  if x.isNaN then ⟨0x7ff8000000000000⟩ else x

/-! ### Comparison as numbers -/

/-- Position among the numbers that are not NaN. Both zeros have position zero. -/
def rank (x : Binary64) : Int :=
  if x.isNegative then -(x.magnitude : Int) else x.magnitude

instance : BEq Binary64 where
  beq x y := !x.isNaN && !y.isNaN && x.rank == y.rank

/-- Strictly smaller as a number. -/
def lt (x y : Binary64) : Bool :=
  !x.isNaN && !y.isNaN && x.rank < y.rank

theorem beq_iff {x y : Binary64} :
    x == y ↔ x.isNaN = false ∧ y.isNaN = false ∧ x.rank = y.rank := by
  change (!x.isNaN && !y.isNaN && x.rank == y.rank) = true ↔ _
  simp [and_assoc]

theorem lt_iff {x y : Binary64} :
    x.lt y ↔ x.isNaN = false ∧ y.isNaN = false ∧ x.rank < y.rank := by
  simp [lt, and_assoc]

theorem beq_self_iff {x : Binary64} : x == x ↔ x.isNaN = false := by
  simp [beq_iff]

theorem beq_comm (x y : Binary64) : (x == y) = (y == x) := by
  rw [Bool.eq_iff_iff, beq_iff, beq_iff]
  exact ⟨fun ⟨hx, hy, h⟩ => ⟨hy, hx, h.symm⟩, fun ⟨hy, hx, h⟩ => ⟨hx, hy, h.symm⟩⟩

theorem beq_trans {x y z : Binary64} (xy : x == y) (yz : y == z) : x == z := by
  rw [beq_iff] at *
  exact ⟨xy.1, yz.2.1, xy.2.2.trans yz.2.2⟩

/-- Two numbers are equal where their bits are, but for a NaN and the two zeros. -/
theorem beq_iff_eq_or_isZero {x y : Binary64} :
    x == y ↔ x.isNaN = false ∧ (x = y ∨ x.isZero ∧ y.isZero) := by
  obtain ⟨a⟩ := x
  obtain ⟨b⟩ := y
  have bound := a.toNat_lt
  have bound' := b.toNat_lt
  rw [beq_iff, mk.injEq, ← UInt64.toNat_inj]
  simp only [isNaN, isZero, rank, isNegative, decide_eq_true_eq, decide_eq_false_iff_not]
  simp only [magnitude, infiniteMagnitude, Nat.pow_eq]
  split <;> split <;> omega

end Binary64

end Switchboard
