import MarketDesk.Proofs.Text.Utf8
import MarketDesk.Text.Percent

/-!
# Escaped texts

An escape holds the digits of one byte, and decoding gives that byte back. A rule that escapes
percent signs can therefore be undone: what it writes decodes to the text, whatever else it keeps.
-/

namespace MarketDesk.Text.Percent

variable {b : UInt8} {c : Char}

/-- The digit of an escape. -/
def escapeDigit (d : Nat) : Char := (Nat.digitChar d).toUpper

theorem hexDigit?_escapeDigit :
    ∀ d < 16, hexDigit? (escapeDigit d) = some d ∧ (escapeDigit d).toNat < 0x80 ∧
      escapeDigit d ∉ ['+', '&', '='] := by
  decide

theorem escapeByte_eq (b : UInt8) :
    escapeByte b = ['%', escapeDigit (b.toNat / 16), escapeDigit (b.toNat % 16)] := by
  have small : b.toNat / 16 % 16 = b.toNat / 16 := by
    have := b.toNat_lt
    omega
  show '%' :: [(Nat.digitChar (b.toNat / 16 % 16)).toUpper, _] = _
  rw [small]
  rfl

/-- An escape holds no plus sign and no mark. -/
theorem not_mem_escapeByte (h : c ∈ ['+', '&', '=']) : c ∉ escapeByte b := by
  have high := (hexDigit?_escapeDigit (b.toNat / 16) (by have := b.toNat_lt; omega)).2.2
  have low := (hexDigit?_escapeDigit (b.toNat % 16) (by omega)).2.2
  rw [escapeByte_eq]
  intro mem
  simp only [List.mem_cons, List.not_mem_nil, or_false] at mem
  rcases mem with rfl | rfl | rfl
  · exact absurd h (by decide)
  · exact high h
  · exact low h

theorem utf8EncodeChar_ascii (h : c.toNat < 0x80) :
    String.utf8EncodeChar c = [UInt8.ofNat c.toNat] := by
  have small : c.val.toNat ≤ 0x7F := Nat.le_of_lt_succ h
  rw [String.utf8EncodeChar, if_pos small]
  rfl

theorem decodeBytes_cons (h : b ≠ 0x25) (bs : List UInt8) :
    decodeBytes (b :: bs) = b :: decodeBytes bs := by
  rw [decodeBytes]
  intro _ _ _ escape
  exact absurd escape h

/-- An escape decodes to its byte. -/
theorem decodeBytes_escapeByte (b : UInt8) (bs : List UInt8) :
    decodeBytes (Utf8.encode (escapeByte b) ++ bs) = b :: decodeBytes bs := by
  obtain ⟨high, ascii, -⟩ := hexDigit?_escapeDigit (b.toNat / 16) (by have := b.toNat_lt; omega)
  obtain ⟨low, ascii', -⟩ := hexDigit?_escapeDigit (b.toNat % 16) (by omega)
  have byte : hexByte? (UInt8.ofNat (escapeDigit (b.toNat / 16)).toNat)
      (UInt8.ofNat (escapeDigit (b.toNat % 16)).toNat) = some b := by
    rw [hexByte?, Utf8.toNat_ofNat (by omega), Utf8.toNat_ofNat (by omega), Char.ofNat_toNat,
      Char.ofNat_toNat, high, low]
    show some (UInt8.ofNat (16 * (b.toNat / 16) + b.toNat % 16)) = some b
    rw [Nat.div_add_mod, UInt8.ofNat_toNat]
  rw [escapeByte_eq, Utf8.encode, List.flatMap_cons, List.flatMap_cons, List.flatMap_cons,
    utf8EncodeChar_ascii ascii, utf8EncodeChar_ascii ascii', List.flatMap_nil]
  show decodeBytes (0x25 :: _ :: _ :: bs) = _
  rw [decodeBytes, byte]

theorem decodeBytes_escapes (bytes bs : List UInt8) :
    decodeBytes (Utf8.encode (bytes.flatMap escapeByte) ++ bs) = bytes ++ decodeBytes bs := by
  induction bytes with
  | nil => rfl
  | cons b bytes ih =>
    rw [List.flatMap_cons, Utf8.encode, List.flatMap_append, List.append_assoc]
    exact (decodeBytes_escapeByte b _).trans (congrArg (b :: ·) ih)

/-! ## Texts -/

section Texts

variable {keep : Char → Bool} {cs : List Char}

/-- A character is written as itself or in escapes. -/
theorem encodeChar_cases (keep : Char → Bool) (c : Char) :
    (c.toNat < 0x80 ∧ keep c = true ∧ encodeChar keep c = [c]) ∨
      encodeChar keep c = (String.utf8EncodeChar c).flatMap escapeByte := by
  rw [encodeChar]
  split
  next h =>
    rw [Bool.and_eq_true, decide_eq_true_eq] at h
    exact .inl ⟨h.1, h.2, rfl⟩
  next => exact .inr rfl

/-- What a character is written as decodes to its bytes. -/
theorem decodeBytes_encodeChar (escaped : keep '%' = false) (c : Char) (bs : List UInt8) :
    decodeBytes (Utf8.encode (encodeChar keep c) ++ bs) =
      String.utf8EncodeChar c ++ decodeBytes bs := by
  rcases encodeChar_cases keep c with ⟨ascii, kept, self⟩ | escapes
  · have percent : UInt8.ofNat c.toNat ≠ 0x25 := by
      intro h
      have code := congrArg UInt8.toNat h
      rw [Utf8.toNat_ofNat (by omega)] at code
      obtain rfl : c = '%' := Char.toNat_inj.1 code
      rw [escaped] at kept
      cases kept
    rw [self, Utf8.encode, List.flatMap_singleton, utf8EncodeChar_ascii ascii]
    exact decodeBytes_cons percent bs
  · rw [escapes]
    exact decodeBytes_escapes _ bs

theorem decodeBytes_encode (escaped : keep '%' = false) (cs : List Char) :
    decodeBytes (Utf8.encode (encode keep cs)) = Utf8.encode cs := by
  induction cs with
  | nil => rfl
  | cons c cs ih =>
    have cut : Utf8.encode (encode keep (c :: cs)) =
        Utf8.encode (encodeChar keep c) ++ Utf8.encode (encode keep cs) := by
      simp only [encode, Utf8.encode, List.flatMap_cons, List.flatMap_append]
    rw [cut, decodeBytes_encodeChar escaped, ih, Utf8.encode, Utf8.encode, List.flatMap_cons]

/-- A text decodes to what it was before it was escaped. -/
theorem decode?_encode (escaped : keep '%' = false) (cs : List Char) :
    decode? (encode keep cs) = some cs := by
  rw [decode?, decodeBytes_encode escaped, Utf8.decode?_eq_some_iff, Utf8.scan_encode]

/-- A text of characters that are kept is written as it is. -/
theorem encode_eq_self (kept : ∀ c ∈ cs, c.toNat < 0x80 ∧ keep c = true) :
    encode keep cs = cs := by
  have self : ∀ c ∈ cs, encodeChar keep c = [c] := by
    intro c mem
    rw [encodeChar, if_pos (by simpa using kept c mem)]
  induction cs with
  | nil => rfl
  | cons c cs ih =>
    have rest := ih (fun d mem => kept d (.tail c mem)) (fun d mem => self d (.tail c mem))
    rw [encode] at rest ⊢
    rw [List.flatMap_cons, self c (.head cs), rest, List.singleton_append]

/-- What is not written as an escape is written as itself. -/
theorem encode_eq_cons {c : Char} {written : List Char} (h : encode keep cs = c :: written)
    (plain : c ≠ '%') : ∃ rest, cs = c :: rest ∧ encode keep rest = written := by
  cases cs with
  | nil => cases h
  | cons d rest =>
    rw [encode, List.flatMap_cons] at h
    rcases encodeChar_cases keep d with ⟨-, -, self⟩ | escapes
    · rw [self] at h
      obtain ⟨rfl, written⟩ := List.cons.inj h
      exact ⟨rest, rfl, written⟩
    · rw [escapes] at h
      cases bytes : String.utf8EncodeChar d with
      | nil =>
        have none : Utf8.encode [d] = [] := by rw [Utf8.encode, List.flatMap_singleton, bytes]
        cases Utf8.encode_eq_nil_iff.1 none
      | cons b bs =>
        rw [bytes, List.flatMap_cons, escapeByte_eq] at h
        exact (plain (List.cons.inj h).1.symm).elim

/-- A plain text decodes to itself. -/
theorem decode?_plain (plain : ∀ c ∈ cs, c.toNat < 0x80 ∧ c ≠ '%') : decode? cs = some cs := by
  have self : encode (· != '%') cs = cs := encode_eq_self (by simpa using plain)
  have decoded : decode? (encode (· != '%') cs) = some cs := decode?_encode (by decide) cs
  rwa [self] at decoded

end Texts

end MarketDesk.Text.Percent
