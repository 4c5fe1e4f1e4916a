import MarketDesk.Proofs.Text.Utf8
import MarketDesk.Text.Charset

/-!
# ASCII in character sets

Plain ASCII is read as it is in every character set but UTF-16 and those that are not read, so a
wrong label does not change such a text. The sets of several bytes come to it by one lemma on
pieces: each plain byte is a piece of its own, and leaves the state alone.
-/

namespace MarketDesk.Text

/-- The byte is ASCII, and none of those by which a set may shift. -/
def IsPlainByte (b : UInt8) : Prop :=
  b.toNat < 0x80 ∧ b.toNat ≠ 0x0E ∧ b.toNat ≠ 0x0F ∧ b.toNat ≠ 0x1B

/-- The text that plain bytes spell. -/
def plainText (bytes : List UInt8) : List Char := bytes.map fun b => Char.ofNat b.toNat

/-- Plain bytes are the same in the set as in ASCII. -/
def Charset.ExtendsAscii : Charset → Prop
  | .utf16 _ | .replacement => False
  | _ => True

variable {σ : Type} {s : σ} {front : σ → Nat → List Nat → Piece σ} {set : DoubleByte} {a : Nat}
  {rest : List Nat} {c : Char} {bytes : List UInt8} {charset : Charset}

/-! ## Pieces -/

/-- Bytes that are pieces of their own, in a state that they leave alone. -/
theorem Piece.read_of_singles {as : List Nat}
    (singles : ∀ a ∈ as, ∀ rest, front s a rest = ⟨[Char.ofNat a], 0, s⟩) :
    Piece.read front s 0 as = as.map Char.ofNat := by
  induction as with
  | nil => rfl
  | cons a as ih =>
    have here := singles a List.mem_cons_self as
    have there := ih fun a mem => singles a (List.mem_cons_of_mem _ mem)
    rw [Piece.read, here, there]
    rfl

theorem DoubleByte.front_of_single (single : set.single? a = some c) :
    set.front a rest = ⟨[c], 0, ()⟩ := by
  simp only [DoubleByte.front, single]

theorem DoubleByte.ascii?_of_lt (ascii : a < 0x80) :
    DoubleByte.ascii? a = some (Char.ofNat a) := if_pos ascii

theorem Gb18030.front_of_lt (ascii : a < 0x80) :
    Gb18030.front a rest = ⟨[Char.ofNat a], 0, ()⟩ := by
  have single : Gb18030.set.single? a = some (Char.ofNat a) := by
    show (if a = 0x80 then _ else DoubleByte.ascii? a) = _
    rw [if_neg (by omega), DoubleByte.ascii?_of_lt ascii]
  cases rest with
  | nil => exact DoubleByte.front_of_single single
  | cons b rest =>
    have alone : ¬ (Gb18030.set.isLead a ∧ 0x30 ≤ b ∧ b ≤ 0x39) := by
      simp [Gb18030.set]
      omega
    rw [Gb18030.front, if_neg alone]
    exact DoubleByte.front_of_single single

theorem EucJp.front_of_lt (ascii : a < 0x80) : EucJp.front a rest = ⟨[Char.ofNat a], 0, ()⟩ := by
  have single : EucJp.set.single? a = some (Char.ofNat a) := DoubleByte.ascii?_of_lt ascii
  cases rest with
  | nil => exact DoubleByte.front_of_single single
  | cons b rest =>
    rw [EucJp.front, if_neg (by omega)]
    exact DoubleByte.front_of_single single

theorem ShiftJis.single?_of_lt (ascii : a < 0x80) :
    ShiftJis.set.single? a = some (Char.ofNat a) := if_pos (by omega)

theorem Iso2022Jp.front_of_plain (ascii : a < 0x80) (plain : a ≠ 0x0E ∧ a ≠ 0x0F ∧ a ≠ 0x1B) :
    Iso2022Jp.front ⟨.ascii, false⟩ a rest = ⟨[Char.ofNat a], 0, ⟨.ascii, false⟩⟩ := by
  have kept : Iso2022Jp.isPlain a = true := by simp [Iso2022Jp.isPlain, ascii, plain]
  unfold Iso2022Jp.front
  rw [if_neg plain.2.2]
  simp only [Iso2022Jp.chars?, kept, if_true]

/-! ## Sets -/

theorem Utf8.scanFrom_plain (plain : ∀ b ∈ bytes, IsPlainByte b) :
    Utf8.scanFrom .ready bytes = (plainText bytes).map some := by
  induction bytes with
  | nil => rfl
  | cons b bytes ih =>
    have here := Utf8.start_ascii (plain b List.mem_cons_self).1
    have there := ih fun b mem => plain b (List.mem_cons_of_mem _ mem)
    rw [Utf8.scanFrom_ready_cons, here, there]
    rfl

theorem CodePage.read_plain (page : CodePage) (plain : ∀ b ∈ bytes, IsPlainByte b) :
    page.read bytes = plainText bytes := by
  refine List.map_congr_left fun b mem => ?_
  have ascii : b < 0x80 := UInt8.lt_iff_toNat_lt.2 (plain b mem).1
  rw [CodePage.char?, if_pos ascii, Option.getD_some]

namespace Charset

theorem userChar_plain {b : UInt8} (plain : IsPlainByte b) : userChar b = Char.ofNat b.toNat := by
  have ascii : b < 0x80 := UInt8.lt_iff_toNat_lt.2 plain.1
  rw [userChar, if_pos ascii]

/-- Plain bytes are read as the text that they spell. -/
theorem read_plain (same : charset.ExtendsAscii) (plain : ∀ b ∈ bytes, IsPlainByte b) :
    charset.read bytes = plainText bytes := by
  have pieces : plainText bytes = (bytes.map UInt8.toNat).map Char.ofNat := by
    rw [List.map_map]
    rfl
  have ascii : ∀ a ∈ bytes.map UInt8.toNat, a < 0x80 ∧ a ≠ 0x0E ∧ a ≠ 0x0F ∧ a ≠ 0x1B :=
    List.forall_mem_map.2 plain
  cases charset with
  | utf8 =>
    show (Utf8.scanFrom .ready bytes).map _ = _
    rw [Utf8.scanFrom_plain plain, List.map_map]
    exact List.map_id' _
  | utf16 _ | replacement => exact same.elim
  | page p => exact p.read_plain plain
  | userDefined => exact List.map_congr_left fun b mem => userChar_plain (plain b mem)
  | gb18030 =>
    rw [pieces]
    exact Piece.read_of_singles fun a mem _ => Gb18030.front_of_lt (ascii a mem).1
  | big5 | eucKr =>
    rw [pieces]
    exact Piece.read_of_singles fun a mem _ =>
      DoubleByte.front_of_single (DoubleByte.ascii?_of_lt (ascii a mem).1)
  | eucJp =>
    rw [pieces]
    exact Piece.read_of_singles fun a mem _ => EucJp.front_of_lt (ascii a mem).1
  | shiftJis =>
    rw [pieces]
    exact Piece.read_of_singles fun a mem _ =>
      DoubleByte.front_of_single (ShiftJis.single?_of_lt (ascii a mem).1)
  | iso2022Jp =>
    rw [pieces]
    exact Piece.read_of_singles fun a mem _ =>
      Iso2022Jp.front_of_plain (ascii a mem).1 (ascii a mem).2

/-- Plain bytes are read as the text that they spell, since none of them begins a mark. -/
theorem decode_plain (same : charset.ExtendsAscii) (plain : ∀ b ∈ bytes, IsPlainByte b) :
    charset.decode bytes = plainText bytes := by
  have first : ∀ b rest, 0x80 ≤ b.toNat → bytes ≠ b :: rest := by
    rintro b rest high rfl
    have low := (plain b List.mem_cons_self).1
    omega
  unfold decode
  split
  · exact (first _ _ (by decide) rfl).elim
  · exact (first _ _ (by decide) rfl).elim
  · exact (first _ _ (by decide) rfl).elim
  · exact read_plain same plain

theorem decode_nil (charset : Charset) : charset.decode [] = [] := by
  cases charset <;> rfl

end Charset

end MarketDesk.Text
