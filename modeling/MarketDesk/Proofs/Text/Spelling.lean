import MarketDesk.Proofs.Text.Utf8
import MarketDesk.Text.Percent

/-!
# Spellings of a text

One text has many spellings with percent escapes: any byte may be escaped, with digits of either
case, and a percent sign stands for itself where no escape begins. `Spells` says which texts spell
which, without reading anything back, and `decodeBytes_eq_iff_escapes` that decoding undoes exactly
these escapes, each of them once.
-/

namespace MarketDesk.Text.Percent

/-- The byte is a hexadecimal digit, of either case, with the value. -/
def IsHexDigit (b : UInt8) (n : Nat) : Prop :=
  n < 10 ∧ b.toNat = 0x30 + n ∨
    (10 ≤ n ∧ n < 16) ∧ (b.toNat = 0x37 + n ∨ b.toNat = 0x57 + n)

/-- The bytes begin with a percent sign and two hexadecimal digits. -/
def BeginsEscape (bytes : List UInt8) : Prop :=
  ∃ high low m n rest, bytes = 0x25 :: high :: low :: rest ∧ IsHexDigit high m ∧ IsHexDigit low n

/-- The first bytes stand for the second ones, some of which they escape. -/
inductive Escapes : List UInt8 → List UInt8 → Prop where
  | nil : Escapes [] []
  /-- A byte stands for itself where no escape begins. -/
  | plain {b : UInt8} {bs cs : List UInt8} : ¬ BeginsEscape (b :: bs) → Escapes bs cs →
      Escapes (b :: bs) (b :: cs)
  /-- An escape stands for the byte with the value of its digits. -/
  | escape {high low : UInt8} {m n : Nat} {bs cs : List UInt8} : IsHexDigit high m →
      IsHexDigit low n → Escapes bs cs →
      Escapes (0x25 :: high :: low :: bs) (UInt8.ofNat (16 * m + n) :: cs)

/-- The characters spell the text. -/
def Spells (cs text : List Char) : Prop := Escapes (Utf8.encode cs) (Utf8.encode text)

variable {b high low : UInt8} {bs cs : List UInt8} {m n : Nat}

/-! ## Digits -/

theorem toNat_ofNat_byte (b : UInt8) : (Char.ofNat b.toNat).toNat = b.toNat := by
  have valid : b.toNat.isValidChar := Or.inl (Nat.lt_trans b.toNat_lt (by decide))
  rw [Char.ofNat, dif_pos valid]
  rfl

/-- The digits are those that are read as digits. -/
theorem hexDigit?_eq_some_iff : hexDigit? (Char.ofNat b.toNat) = some n ↔ IsHexDigit b n := by
  have code := toNat_ofNat_byte b
  unfold hexDigit? IsHexDigit
  simp only [Char.le_def, UInt32.le_iff_toNat_le]
  generalize Char.ofNat b.toNat = c at code
  have zero : ('0' : Char).val.toNat = 0x30 := rfl
  have nine : ('9' : Char).val.toNat = 0x39 := rfl
  have small : ('a' : Char).val.toNat = 0x61 ∧ ('f' : Char).val.toNat = 0x66 := ⟨rfl, rfl⟩
  have capital : ('A' : Char).val.toNat = 0x41 ∧ ('F' : Char).val.toNat = 0x46 := ⟨rfl, rfl⟩
  have val : c.val.toNat = b.toNat := code
  simp only [Char.toNat, zero, nine, small, capital, val]
  split
  · simp only [Option.some.injEq]
    omega
  split
  · simp only [Option.some.injEq]
    omega
  split
  · simp only [Option.some.injEq]
    omega
  · simp only [reduceCtorEq, false_iff]
    omega

theorem hexByte?_eq_some_iff :
    hexByte? high low = some b ↔
      ∃ m n, IsHexDigit high m ∧ IsHexDigit low n ∧ b = UInt8.ofNat (16 * m + n) := by
  simp only [hexByte?, Option.bind_eq_bind, Option.pure_def, Option.bind_eq_some_iff,
    Option.some.injEq, hexDigit?_eq_some_iff]
  constructor
  · rintro ⟨m, hm, n, hn, rfl⟩
    exact ⟨m, n, hm, hn, rfl⟩
  · rintro ⟨m, n, hm, hn, rfl⟩
    exact ⟨m, hm, n, hn, rfl⟩

/-! ## Decoding -/

theorem decodeBytes_escape (hm : IsHexDigit high m) (hn : IsHexDigit low n) (bs : List UInt8) :
    decodeBytes (0x25 :: high :: low :: bs) = UInt8.ofNat (16 * m + n) :: decodeBytes bs := by
  have byte : hexByte? high low = some (UInt8.ofNat (16 * m + n)) :=
    hexByte?_eq_some_iff.2 ⟨m, n, hm, hn, rfl⟩
  rw [decodeBytes, byte]

theorem decodeBytes_plain (h : ¬ BeginsEscape (b :: bs)) :
    decodeBytes (b :: bs) = b :: decodeBytes bs := by
  conv => lhs; unfold decodeBytes
  split
  next high low rest start =>
    obtain ⟨rfl, rfl⟩ := List.cons.inj start
    cases byte : hexByte? high low with
    | none => rfl
    | some c =>
      obtain ⟨m, n, hm, hn, -⟩ := hexByte?_eq_some_iff.1 byte
      exact absurd ⟨high, low, m, n, rest, rfl, hm, hn⟩ h
  next start =>
    obtain ⟨rfl, rfl⟩ := List.cons.inj start
    rfl
  next start => cases start

/-- Decoding undoes each escape once, and nothing else. -/
theorem decodeBytes_eq_iff_escapes : decodeBytes bs = cs ↔ Escapes bs cs := by
  constructor
  · rintro rfl
    fun_induction decodeBytes bs with
    | case1 high low rest b byte ih =>
      obtain ⟨m, n, hm, hn, rfl⟩ := hexByte?_eq_some_iff.1 byte
      exact .escape hm hn ih
    | case2 high low rest unread ih =>
      refine .plain ?_ ih
      rintro ⟨high', low', m, n, rest', start, hm, hn⟩
      cases start
      rw [hexByte?_eq_some_iff.2 ⟨m, n, hm, hn, rfl⟩] at unread
      cases unread
    | case3 b rest other ih =>
      refine .plain ?_ ih
      rintro ⟨high, low, m, n, rest', start, -⟩
      obtain ⟨rfl, rfl⟩ := List.cons.inj start
      exact other high low rest' rfl rfl
    | case4 => exact .nil
  · intro h
    induction h with
    | nil => rfl
    | plain start _ ih => rw [decodeBytes_plain start, ih]
    | escape hm hn _ ih => rw [decodeBytes_escape hm hn, ih]

/-- A text is what each of its spellings decodes to. -/
theorem decode?_of_spells {spelling text : List Char} (h : Spells spelling text) :
    decode? spelling = some text := by
  have bytes : decodeBytes (Utf8.encode spelling) = Utf8.encode text :=
    decodeBytes_eq_iff_escapes.2 h
  rw [decode?, bytes, Utf8.decode?_eq_some_iff, Utf8.scan_encode]

theorem decodeBytes_eq_nil_iff : decodeBytes bs = [] ↔ bs = [] := by
  rw [decodeBytes_eq_iff_escapes]
  constructor
  · intro escapes
    cases escapes with
    | nil => rfl
  · rintro rfl
    exact .nil

/-- Only the empty text decodes to the empty text. -/
theorem decode?_eq_some_nil_iff {text : List Char} : decode? text = some [] ↔ text = [] := by
  rw [decode?, Utf8.decode?_eq_some_nil_iff, decodeBytes_eq_nil_iff, Utf8.encode_eq_nil_iff]

end MarketDesk.Text.Percent
