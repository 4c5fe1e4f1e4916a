/-!
# Machine words

The ranges of the integers that a document, a column or a setting can hold. A number outside its
range is refused by whoever reads it; nothing wraps.
-/

namespace MarketDesk.Word

/-- The integer fits 32 bits with a sign. -/
def IsSigned32 (n : Int) : Prop := -0x80000000 ≤ n ∧ n < 0x80000000

/-- The integer fits 64 bits with a sign. -/
def IsSigned64 (n : Int) : Prop := -0x8000000000000000 ≤ n ∧ n < 0x8000000000000000

/-- The integer fits 64 bits without a sign. -/
def IsUnsigned64 (n : Int) : Prop := 0 ≤ n ∧ n < 0x10000000000000000

instance (n : Int) : Decidable (IsSigned32 n) := by unfold IsSigned32; infer_instance
instance (n : Int) : Decidable (IsSigned64 n) := by unfold IsSigned64; infer_instance
instance (n : Int) : Decidable (IsUnsigned64 n) := by unfold IsUnsigned64; infer_instance

/-- How many values 16 bits have. -/
def size16 : Nat := 0x10000

/-- How many values 32 bits have. -/
def size32 : Nat := 0x100000000

/-- How many values 64 bits have. -/
def size64 : Nat := 0x10000000000000000

end MarketDesk.Word
