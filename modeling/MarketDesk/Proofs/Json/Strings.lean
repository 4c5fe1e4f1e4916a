import Mathlib.Data.List.Forall2
import MarketDesk.Json.Reader
import MarketDesk.Proofs.Text.Numerals

/-!
# Written strings are read back

A string is escaped character by character, and the reader takes one escape at a time: it finds the
character itself, or, for most controls, a code unit below 32, which is half of no surrogate pair.
So every string is read back from its quoted text, quotes, controls and all.
-/

namespace MarketDesk.Json

open MarketDesk.Text

variable {c : Char} {cs : List Char} {n : Nat}

/-! ## Escapes -/

/-- The piece is one that a character may be written as. -/
inductive Piece.Shows : Piece → Char → Prop where
  | scalar (c : Char) : Shows (.scalar c) c
  | unit {c : Char} : c.toNat < 0x20 → Shows (.unit c.toNat) c

/-- Four hexadecimal digits are read as the number that they were written for. -/
theorem hexNat?_fixedDigits (bound : n < 0x10000) : hexNat? (fixedDigits 16 4 n) = some n := by
  have digits : (fixedDigits 16 4 n).mapM hexDigit? =
      some [n / 16 / 16 / 16 % 16, n / 16 / 16 % 16, n / 16 % 16, n % 16] := by
    have digit : ∀ m, hexDigit? (Nat.digitChar (m % 16)) = some (m % 16) := fun m =>
      hexDigit?_digitChar (Nat.mod_lt m (by decide))
    simp [fixedDigits, digit]
  have value : ofDigits 16 [n / 16 / 16 / 16 % 16, n / 16 / 16 % 16, n / 16 % 16, n % 16] = n := by
    simp only [ofDigits, List.foldl_cons, List.foldl_nil]
    omega
  rw [hexNat?, digits, Option.map_some, value]
  rfl

/-- A character that needs no escape is read as it is. -/
theorem readText?_plain (quote : c ≠ '"') (slash : c ≠ '\\') (printed : ¬ c.toNat < 0x20)
    (rest : Symbols) : readText? (some c :: rest) =
      (readText? rest).map fun (t, rest) => (.scalar c :: t, rest) := by
  rw [readText?]
  · simp [slash, printed]
  · exact quote
  · exact fun _ _ _ _ _ _ => slash
  · exact fun _ _ _ => slash

/-- A short escape is read as its character. -/
theorem readText?_short {e : Char} (known : shortEscape? e = some c) (rest : Symbols) :
    readText? (some '\\' :: some e :: rest) =
      (readText? rest).map fun (t, rest) => (.scalar c :: t, rest) := by
  rw [readText?]
  · simp [known]
  · rintro a b c d rest' - rfl
    cases known

/-- An escape in digits is read as the code unit that they write. -/
theorem readText?_digits (bound : n < 0x10000) (rest : Symbols) :
    readText? ((['\\', 'u'] ++ fixedDigits 16 4 n).map some ++ rest) =
      (readText? rest).map fun (t, rest) => (.unit n :: t, rest) := by
  have read := hexNat?_fixedDigits bound
  obtain ⟨a, b, c, d, four⟩ : ∃ a b c d, fixedDigits 16 4 n = [a, b, c, d] := ⟨_, _, _, _, rfl⟩
  rw [four] at read ⊢
  show readText? (some '\\' :: some 'u' :: some a :: some b :: some c :: some d :: rest) = _
  rw [readText?]
  simp [unitOf?, read]

/-- The escaped form of a character is read as one piece, which shows the character. -/
theorem exists_piece (c : Char) : ∃ piece : Piece, piece.Shows c ∧ ∀ rest,
    readText? ((escapeChar c).map some ++ rest) =
      (readText? rest).map fun (t, rest) => (piece :: t, rest) := by
  have short : ∀ e, shortEscape? e = some c → ∃ piece : Piece, piece.Shows c ∧ ∀ rest,
      readText? (['\\', e].map some ++ rest) =
        (readText? rest).map fun (t, rest) => (piece :: t, rest) :=
    fun e known => ⟨_, .scalar c, readText?_short known⟩
  unfold escapeChar
  split
  next same => exact short '"' (by rw [same]; rfl)
  next quote =>
  split
  next same => exact short '\\' (by rw [same]; rfl)
  next slash =>
  split
  next same => exact short 'b' (by rw [same]; rfl)
  split
  next same => exact short 't' (by rw [same]; rfl)
  split
  next same => exact short 'n' (by rw [same]; rfl)
  split
  next same => exact short 'f' (by rw [same]; rfl)
  split
  next same => exact short 'r' (by rw [same]; rfl)
  split
  next control => exact ⟨_, .unit control, readText?_digits (by omega)⟩
  next printed => exact ⟨_, .scalar c, readText?_plain quote slash printed⟩

/-! ## Strings -/

/-- Pieces denote the characters that they show. -/
theorem pieces?_of_shows {pieces : List Piece} (shown : List.Forall₂ Piece.Shows pieces cs) :
    pieces? pieces = some cs := by
  induction shown with
  | nil => rfl
  | @cons piece c pieces cs shows _ ih =>
    cases shows with
    | scalar => rw [pieces?, ih, Option.map_some]
    | unit control =>
      have high : isHighSurrogate c.toNat = false := by
        simp only [isHighSurrogate, Bool.and_eq_false_iff, decide_eq_false_iff_not]
        omega
      have low : isLowSurrogate c.toNat = false := by
        simp only [isLowSurrogate, Bool.and_eq_false_iff, decide_eq_false_iff_not]
        omega
      have whole : Char.ofNat c.toNat = c := Char.ofNat_toNat c
      cases pieces with
      | nil =>
        cases ih
        simp [pieces?, high, low, whole]
      | cons next pieces =>
        cases next with
        | unit code => simp [pieces?, high, low, whole, ih]
        | scalar c' =>
          rw [pieces?, ih]
          · simp [high, low, whole]
          · nofun
        | broken => cases ih

/-- A quoted string is read up to its closing quote. -/
theorem readText?_quoted (cs : List Char) (rest : Symbols) :
    ∃ pieces, List.Forall₂ Piece.Shows pieces cs ∧
      readText? ((cs.flatMap escapeChar).map some ++ some '"' :: rest) = some (pieces, rest) := by
  induction cs with
  | nil => exact ⟨[], .nil, rfl⟩
  | cons c cs ih =>
    obtain ⟨pieces, shown, read⟩ := ih
    obtain ⟨piece, shows, one⟩ := exists_piece c
    refine ⟨piece :: pieces, .cons shows shown, ?_⟩
    rw [List.flatMap_cons, List.map_append, List.append_assoc, one, read]
    rfl

end MarketDesk.Json
