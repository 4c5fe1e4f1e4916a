import MarketDesk.Text.Utf8

/-!
# Decoding what was encoded

The bytes of a character take the decoder from between characters to between characters and
give that character, so the bytes of a text decode to the text without a broken piece.
-/

namespace MarketDesk.Text.Utf8

variable {left low high value n : Nat} {b : UInt8} {bs : List UInt8} {c : Char}

theorem scanFrom_ready_cons :
    scanFrom .ready (b :: bs) = (start b.toNat).1 ++ scanFrom (start b.toNat).2 bs := by
  rw [scanFrom]
  rfl

/-- The last byte of a character completes it. -/
theorem scanFrom_within_last (h : low ≤ b.toNat ∧ b.toNat ≤ high) :
    scanFrom (.within 1 low high value) (b :: bs) =
      some (Char.ofNat (0x40 * value + b.toNat % 0x40)) :: scanFrom .ready bs := by
  rw [scanFrom, feed, if_pos h]
  rfl

/-- An earlier byte of a character hands on to a continuation byte. -/
theorem scanFrom_within_more (h : low ≤ b.toNat ∧ b.toNat ≤ high) :
    scanFrom (.within (left + 2) low high value) (b :: bs) =
      scanFrom (.within (left + 1) 0x80 0xBF (0x40 * value + b.toNat % 0x40)) bs := by
  rw [scanFrom, feed, if_pos h, if_neg (by omega)]
  rfl

theorem toNat_ofNat (h : n < 256) : (UInt8.ofNat n).toNat = n := by
  rw [UInt8.toNat_ofNat', Nat.mod_eq_of_lt h]

/-- The code of a character is no surrogate and no more than U+10FFFF. -/
theorem toNat_valid (c : Char) : c.toNat < 0xD800 ∨ 0xDFFF < c.toNat ∧ c.toNat < 0x110000 :=
  c.valid

/-! ## Lead bytes

A lead byte gives the bounds on the byte after it, which the encoding keeps. -/

theorem start_ascii (h : n < 0x80) : start n = ([some (Char.ofNat n)], .ready) := by
  rw [start, if_pos h]

theorem start_two (lower : 0x80 ≤ n) (upper : n ≤ 0x7FF) :
    start (n / 64 % 0x20 + 0xC0) = ([], .within 1 0x80 0xBF (n / 64)) := by
  rw [start, if_neg (by omega), if_pos (by omega)]
  congr 2
  omega

theorem start_three (lower : 0x800 ≤ n) (upper : n ≤ 0xFFFF) (valid : n < 0xD800 ∨ 0xDFFF < n) :
    ∃ low high, start (n / 4096 % 0x10 + 0xE0) = ([], .within 2 low high (n / 4096)) ∧
      low ≤ n / 64 % 0x40 + 0x80 ∧ n / 64 % 0x40 + 0x80 ≤ high := by
  rw [start, if_neg (by omega), if_neg (by omega)]
  by_cases zero : n / 4096 = 0
  · refine ⟨0xA0, 0xBF, ?_, by omega, by omega⟩
    rw [if_pos (by omega), zero]
  rw [if_neg (by omega)]
  by_cases thirteen : n / 4096 = 0xD
  · refine ⟨0x80, 0x9F, ?_, by omega, by omega⟩
    rw [if_pos (by omega), thirteen]
  refine ⟨0x80, 0xBF, ?_, by omega, by omega⟩
  rw [if_neg (by omega), if_pos (by omega)]
  congr 2
  omega

theorem start_four (lower : 0x10000 ≤ n) (upper : n < 0x110000) :
    ∃ low high, start (n / 262144 % 0x08 + 0xF0) = ([], .within 3 low high (n / 262144)) ∧
      low ≤ n / 4096 % 0x40 + 0x80 ∧ n / 4096 % 0x40 + 0x80 ≤ high := by
  rw [start, if_neg (by omega), if_neg (by omega), if_neg (by omega), if_neg (by omega),
    if_neg (by omega)]
  by_cases zero : n / 262144 = 0
  · refine ⟨0x90, 0xBF, ?_, by omega, by omega⟩
    rw [if_pos (by omega), zero]
  rw [if_neg (by omega)]
  by_cases four : n / 262144 = 4
  · refine ⟨0x80, 0x8F, ?_, by omega, by omega⟩
    rw [if_neg (by omega), if_pos (by omega), four]
  refine ⟨0x80, 0xBF, ?_, by omega, by omega⟩
  rw [if_pos (by omega)]
  congr 2
  omega

/-! ## Texts -/

/-- The bytes of a character give the character. -/
theorem scanFrom_encodeChar (c : Char) (bs : List UInt8) :
    scanFrom .ready (String.utf8EncodeChar c ++ bs) = some c :: scanFrom .ready bs := by
  have valid := toNat_valid c
  have whole : Char.ofNat c.toNat = c := Char.ofNat_toNat c
  have code : c.val.toNat = c.toNat := rfl
  unfold String.utf8EncodeChar
  rw [code]
  dsimp only
  generalize c.toNat = n at valid whole
  by_cases one : n ≤ 0x7F
  · rw [if_pos one, List.cons_append, scanFrom_ready_cons, toNat_ofNat (by omega),
      start_ascii (by omega), whole]
    rfl
  rw [if_neg one]
  by_cases two : n ≤ 0x7FF
  · have last : 0x80 ≤ n % 0x40 + 0x80 ∧ n % 0x40 + 0x80 ≤ 0xBF := by omega
    rw [if_pos two, List.cons_append, scanFrom_ready_cons, toNat_ofNat (by omega),
      start_two (by omega) two, List.nil_append, List.cons_append,
      scanFrom_within_last (by rwa [toNat_ofNat (by omega)]), toNat_ofNat (by omega)]
    rw [show 0x40 * (n / 64) + (n % 0x40 + 0x80) % 0x40 = n by omega, whole]
    rfl
  rw [if_neg two]
  by_cases three : n ≤ 0xFFFF
  · obtain ⟨low, high, lead, second⟩ := start_three (by omega) three (by omega)
    have last : 0x80 ≤ n % 0x40 + 0x80 ∧ n % 0x40 + 0x80 ≤ 0xBF := by omega
    rw [if_pos three, List.cons_append, scanFrom_ready_cons, toNat_ofNat (by omega), lead,
      List.nil_append, List.cons_append,
      scanFrom_within_more (by rwa [toNat_ofNat (by omega)]), toNat_ofNat (by omega),
      List.cons_append, scanFrom_within_last (by rwa [toNat_ofNat (by omega)]),
      toNat_ofNat (by omega)]
    rw [show 0x40 * (0x40 * (n / 4096) + (n / 64 % 0x40 + 0x80) % 0x40) +
      (n % 0x40 + 0x80) % 0x40 = n by omega, whole]
    rfl
  rw [if_neg three]
  obtain ⟨low, high, lead, second⟩ := start_four (n := n) (by omega) (by omega)
  have third : 0x80 ≤ n / 64 % 0x40 + 0x80 ∧ n / 64 % 0x40 + 0x80 ≤ 0xBF := by omega
  have last : 0x80 ≤ n % 0x40 + 0x80 ∧ n % 0x40 + 0x80 ≤ 0xBF := by omega
  rw [List.cons_append, scanFrom_ready_cons, toNat_ofNat (by omega), lead, List.nil_append,
    List.cons_append, scanFrom_within_more (by rwa [toNat_ofNat (by omega)]),
    toNat_ofNat (by omega), List.cons_append,
    scanFrom_within_more (by rwa [toNat_ofNat (by omega)]), toNat_ofNat (by omega),
    List.cons_append, scanFrom_within_last (by rwa [toNat_ofNat (by omega)]),
    toNat_ofNat (by omega)]
  rw [show 0x40 * (0x40 * (0x40 * (n / 262144) + (n / 4096 % 0x40 + 0x80) % 0x40) +
    (n / 64 % 0x40 + 0x80) % 0x40) + (n % 0x40 + 0x80) % 0x40 = n by omega, whole]
  rfl

/-- The bytes of a text hold its characters and no broken piece. -/
theorem scan_encode (cs : List Char) : scan (encode cs) = cs.map some := by
  induction cs with
  | nil => rfl
  | cons c cs ih =>
    rw [encode, List.flatMap_cons, scan, scanFrom_encodeChar]
    exact congrArg (some c :: ·) ih

/-- Lossy decoding loses nothing of what was encoded. -/
theorem decodeLossy_encode (cs : List Char) : decodeLossy (encode cs) = cs := by
  rw [decodeLossy, scan_encode, List.map_map]
  exact List.map_id cs

/-! ## Nothing -/

/-- A character that was begun is completed or broken. -/
theorem scanFrom_within_ne_nil (bs : List UInt8) :
    scanFrom (.within left low high value) bs ≠ [] := by
  induction bs generalizing left low high value with
  | nil => simp [scanFrom]
  | cons b bs ih =>
    by_cases inside : low ≤ b.toNat ∧ b.toNat ≤ high
    · by_cases last : left ≤ 1
      · simp [scanFrom, feed, inside, last]
      · simp [scanFrom, feed, inside, last, ih]
    · simp [scanFrom, feed, inside]

/-- Only nothing is scanned as nothing. -/
theorem scan_eq_nil_iff : scan bs = [] ↔ bs = [] := by
  cases bs with
  | nil => simp [scan, scanFrom]
  | cons b bs =>
    have some : (start b.toNat).1 ++ scanFrom (start b.toNat).2 bs ≠ [] := by
      unfold start
      repeat' split
      all_goals simp [scanFrom_within_ne_nil]
    rw [scan, scanFrom_ready_cons]
    simp [some]

theorem encode_eq_nil_iff {cs : List Char} : encode cs = [] ↔ cs = [] := by
  rw [← scan_eq_nil_iff, scan_encode, List.map_eq_nil_iff]

/-! ## Strict and lossy -/

theorem mapM_id_eq_some_iff {α : Type} {pieces : List (Option α)} {as : List α} :
    pieces.mapM id = some as ↔ pieces = as.map some := by
  induction pieces generalizing as with
  | nil => cases as <;> simp
  | cons piece pieces ih =>
    cases piece with
    | none => cases as <;> simp
    | some a =>
      cases as with
      | nil => simp [Option.bind_eq_some_iff]
      | cons b as =>
        simp only [List.mapM_cons, id_eq, Option.bind_eq_bind, Option.bind_some,
          Option.bind_eq_some_iff, ih, Option.pure_def, Option.some.injEq, List.cons.injEq,
          List.map_cons]
        constructor
        · rintro ⟨rest, here, rfl, rfl⟩
          exact ⟨rfl, here⟩
        · rintro ⟨rfl, here⟩
          exact ⟨as, here, rfl, rfl⟩

/-- Strict decoding gives a text just if its characters are all that is scanned. -/
theorem decode?_eq_some_iff {text : List Char} :
    decode? bs = some text ↔ scan bs = text.map some :=
  mapM_id_eq_some_iff

/-- Lossy decoding gives what strict decoding does, where that succeeds. -/
theorem decodeLossy_of_decode? {text : List Char} (decoded : decode? bs = some text) :
    decodeLossy bs = text := by
  rw [decodeLossy, decode?_eq_some_iff.1 decoded, List.map_map]
  exact List.map_id text

/-- Where strict decoding fails, lossy decoding shows a replacement. -/
theorem mem_decodeLossy_of_decode? (undecoded : decode? bs = none) :
    '\uFFFD' ∈ decodeLossy bs := by
  rw [decodeLossy, List.mem_map]
  apply Decidable.byContradiction
  intro clean
  have whole : scan bs = (decodeLossy bs).map some := by
    rw [decodeLossy, List.map_map]
    refine (List.map_id _).symm.trans (List.map_congr_left fun piece mem => ?_)
    cases piece with
    | none => exact (clean ⟨none, mem, rfl⟩).elim
    | some c => rfl
  rw [decode?_eq_some_iff.2 whole] at undecoded
  cases undecoded

theorem decode?_eq_some_nil_iff : decode? bs = some [] ↔ bs = [] := by
  rw [decode?_eq_some_iff, List.map_nil, scan_eq_nil_iff]

theorem decodeLossy_eq_nil_iff : decodeLossy bs = [] ↔ bs = [] := by
  rw [decodeLossy, List.map_eq_nil_iff, scan_eq_nil_iff]

end MarketDesk.Text.Utf8
