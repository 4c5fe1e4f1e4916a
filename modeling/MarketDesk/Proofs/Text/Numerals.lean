import Mathlib.Algebra.GroupWithZero.Nat
import Mathlib.Data.List.Induction
import MarketDesk.Text.Digits

/-!
# Written numbers are read back

A run of digits is read from its end: one more digit behind a run multiplies what it denotes by the
base. That is also how numbers are written, so `nat?` reads back what `natChars` writes, with zeros
in front or without.
-/

namespace MarketDesk.Text

variable {c : Char} {cs : List Char} {d n : Nat}

/-! ## Digits -/

theorem digit?_digitChar (small : d < 10) : digit? (Nat.digitChar d) = some d := by
  have each : ∀ d : Fin 10, digit? (Nat.digitChar d) = some d.val := by decide
  exact each ⟨d, small⟩

theorem isDigit_iff : isDigit c = true ↔ 0x30 ≤ c.toNat ∧ c.toNat ≤ 0x39 := by
  have range : ('0' ≤ c ∧ c ≤ '9') ↔ 0x30 ≤ c.toNat ∧ c.toNat ≤ 0x39 := Iff.rfl
  rw [isDigit, digit?, ← range]
  split
  next inside => exact iff_of_true rfl inside
  next outside => exact iff_of_false nofun outside

theorem toNat_digitChar (small : d < 10) : (Nat.digitChar d).toNat = 0x30 + d := by
  have each : ∀ d : Fin 10, (Nat.digitChar d).toNat = 0x30 + d.val := by decide
  exact each ⟨d, small⟩

/-- A decimal digit is the character that its value is written as. -/
theorem digit?_eq_some_iff : digit? c = some d ↔ d < 10 ∧ c = Nat.digitChar d := by
  constructor
  · intro read
    have digit : isDigit c = true := by rw [isDigit, read]; rfl
    have range := isDigit_iff.1 digit
    have value : c.toNat - 0x30 = d := by
      rw [digit?] at read
      split at read
      · exact Option.some.inj read
      · cases read
    have small : d < 10 := by omega
    refine ⟨small, Char.toNat_inj.1 ?_⟩
    rw [toNat_digitChar small]
    omega
  · rintro ⟨small, rfl⟩
    exact digit?_digitChar small

theorem hexDigit?_digitChar (small : d < 16) : hexDigit? (Nat.digitChar d) = some d := by
  have each : ∀ d : Fin 16, hexDigit? (Nat.digitChar d) = some d.val := by decide
  exact each ⟨d, small⟩

/-! ## Runs -/

@[simp] theorem ofDigits_concat (base : Nat) (ds : List Nat) (d : Nat) :
    ofDigits base (ds ++ [d]) = base * ofDigits base ds + d := by
  simp [ofDigits]

/-- A zero in front changes nothing. -/
@[simp] theorem ofDigits_zero_cons (base : Nat) (ds : List Nat) :
    ofDigits base (0 :: ds) = ofDigits base ds := by
  simp [ofDigits]

/-- The run is a text of digits only and denotes the number. -/
def Denotes (cs : List Char) (n : Nat) : Prop :=
  ∃ ds, cs.mapM digit? = some ds ∧ ofDigits 10 ds = n

theorem denotes_nil : Denotes [] 0 := ⟨[], rfl, rfl⟩

theorem Denotes.concat (h : Denotes cs n) (small : d < 10) :
    Denotes (cs ++ [Nat.digitChar d]) (10 * n + d) := by
  obtain ⟨ds, read, rfl⟩ := h
  refine ⟨ds ++ [d], ?_, ofDigits_concat 10 ds d⟩
  rw [List.mapM_append, read, List.mapM_cons, digit?_digitChar small]
  rfl

theorem Denotes.zero_cons (h : Denotes cs n) : Denotes ('0' :: cs) n := by
  obtain ⟨ds, read, rfl⟩ := h
  refine ⟨0 :: ds, ?_, ofDigits_zero_cons 10 ds⟩
  rw [List.mapM_cons, read]
  rfl

/-- The last digit of a run. -/
theorem Denotes.exists_concat (h : Denotes (cs ++ [c]) n) :
    ∃ m d, Denotes cs m ∧ d < 10 ∧ c = Nat.digitChar d ∧ n = 10 * m + d := by
  obtain ⟨ds, read, rfl⟩ := h
  rw [List.mapM_append, List.mapM_cons, List.mapM_nil] at read
  simp only [Option.bind_eq_bind, Option.pure_def, Option.bind_eq_some_iff, Option.some.injEq] at read
  obtain ⟨front, readFront, last, ⟨d, value, _, rfl, rfl⟩, rfl⟩ := read
  obtain ⟨small, written⟩ := digit?_eq_some_iff.1 value
  exact ⟨_, d, ⟨front, readFront, rfl⟩, small, written, ofDigits_concat 10 front d⟩

/-- What is read as a number is written in digits. -/
theorem isDigit_of_denotes (h : Denotes cs n) : ∀ c ∈ cs, isDigit c = true := by
  obtain ⟨ds, read, -⟩ := h
  induction cs generalizing ds with
  | nil => simp
  | cons c cs ih =>
    rw [List.mapM_cons] at read
    simp only [Option.bind_eq_bind, Option.bind_eq_some_iff] at read
    obtain ⟨d, here, ds, later, -⟩ := read
    refine List.forall_mem_cons.2 ⟨?_, ih ds later⟩
    rw [isDigit, here]
    rfl

/-- A run of digits denotes the number that their values do. -/
theorem denotes_iff :
    Denotes cs n ↔ (∀ c ∈ cs, isDigit c = true) ∧ ofDigits 10 (cs.filterMap digit?) = n := by
  have values : (∀ c ∈ cs, isDigit c = true) → cs.mapM digit? = some (cs.filterMap digit?) := by
    intro digits
    induction cs with
    | nil => rfl
    | cons c cs ih =>
      obtain ⟨here, later⟩ := List.forall_mem_cons.1 digits
      obtain ⟨d, value⟩ := Option.isSome_iff_exists.1 here
      rw [List.mapM_cons, value, ih later, List.filterMap_cons_some value]
      rfl
  constructor
  · intro denotes
    have digits := isDigit_of_denotes denotes
    obtain ⟨ds, read, rfl⟩ := denotes
    cases read.symm.trans (values digits)
    exact ⟨digits, rfl⟩
  · rintro ⟨digits, rfl⟩
    exact ⟨_, values digits, rfl⟩

theorem Denotes.unique {m : Nat} (h : Denotes cs m) (h' : Denotes cs n) : m = n :=
  (denotes_iff.1 h).2.symm.trans (denotes_iff.1 h').2

theorem nat?_eq_some_iff : nat? cs = some n ↔ cs ≠ [] ∧ Denotes cs n := by
  rw [nat?, Denotes]
  cases cs with
  | nil => simp
  | cons c cs => simp only [List.isEmpty_cons, Bool.false_eq_true, if_false, ne_eq, reduceCtorEq,
      not_false_eq_true, true_and, Option.map_eq_some_iff]

/-- A number that is not negative: digits, with a plus sign in front or without. -/
inductive SpellsUnsigned : List Char → Nat → Prop where
  | plain {cs : List Char} {n : Nat} : cs ≠ [] → Denotes cs n → SpellsUnsigned cs n
  | positive {cs : List Char} {n : Nat} : cs ≠ [] → Denotes cs n → SpellsUnsigned ('+' :: cs) n

theorem not_denotes_plus (rest : List Char) (n : Nat) : ¬ Denotes ('+' :: rest) n := by
  rintro ⟨ds, read, -⟩
  rw [List.mapM_cons] at read
  cases read

theorem unsigned?_eq_some_iff : unsigned? cs = some n ↔ SpellsUnsigned cs n := by
  unfold unsigned?
  split
  next rest =>
    rw [nat?_eq_some_iff]
    constructor
    · exact fun ⟨nonempty, denotes⟩ => .positive nonempty denotes
    · intro spelled
      cases spelled with
      | plain _ denotes => exact (not_denotes_plus rest n denotes).elim
      | positive nonempty denotes => exact ⟨nonempty, denotes⟩
  next other =>
    rw [nat?_eq_some_iff]
    constructor
    · exact fun ⟨nonempty, denotes⟩ => .plain nonempty denotes
    · intro spelled
      cases spelled with
      | plain nonempty denotes => exact ⟨nonempty, denotes⟩
      | positive => exact (other _ rfl).elim

/-! ## Written numbers -/

/-- The last digit of a number is written last. -/
theorem natChars_eq (n : Nat) :
    natChars n = if n < 10 then [Nat.digitChar n]
      else natChars (n / 10) ++ [Nat.digitChar (n % 10)] :=
  Nat.toDigits_eq_if (by decide)

theorem natChars_ne_nil (n : Nat) : natChars n ≠ [] := by
  rw [natChars_eq]
  split <;> simp

theorem denotes_natChars (n : Nat) : Denotes (natChars n) n := by
  induction n using Nat.strongRecOn with
  | ind n ih =>
    rw [natChars_eq]
    split
    next small => simpa using denotes_nil.concat small
    next large =>
      have front := ih (n / 10) (by omega)
      have whole := front.concat (Nat.mod_lt n (by decide : 0 < 10))
      rwa [Nat.div_add_mod] at whole

/-- A positive number is written without a zero in front. -/
theorem head?_natChars_ne (positive : 0 < n) : (natChars n).head? ≠ some '0' := by
  induction n using Nat.strongRecOn with
  | ind n ih =>
    rw [natChars_eq]
    split
    next small =>
      intro zero
      have other : ∀ d : Fin 10, 0 < d.val → Nat.digitChar d ≠ '0' := by decide
      exact other ⟨n, small⟩ positive (Option.some.inj zero)
    next large =>
      obtain ⟨c, cs, front⟩ := List.exists_cons_of_ne_nil (natChars_ne_nil (n / 10))
      have other := ih (n / 10) (by omega) (by omega)
      rw [front] at other ⊢
      exact other

/-- No zero stands in front of other digits. -/
def IsPlain (cs : List Char) : Prop := cs.length = 1 ∨ cs.head? ≠ some '0'

theorem isPlain_natChars (n : Nat) : IsPlain (natChars n) := by
  cases Nat.eq_zero_or_pos n with
  | inl zero =>
    subst zero
    exact .inl rfl
  | inr positive => exact .inr (head?_natChars_ne positive)

/-- Digits without a superfluous zero are the written form of what they denote. -/
theorem Denotes.eq_natChars (denotes : Denotes cs n) (nonempty : cs ≠ []) (plain : IsPlain cs) :
    cs = natChars n := by
  induction cs using List.reverseRecOn generalizing n with
  | nil => exact (nonempty rfl).elim
  | append_singleton cs c ih =>
    obtain ⟨m, d, front, small, rfl, rfl⟩ := denotes.exists_concat
    cases cs with
    | nil =>
      obtain ⟨ds, read, rfl⟩ := front
      cases read
      rw [natChars_eq, if_pos (by simpa [ofDigits] using small)]
      simp [ofDigits]
    | cons c' cs =>
      have other : c' ≠ '0' := by
        rcases plain with one | other
        · simp at one
        · simpa using other
      have same := ih front (List.cons_ne_nil c' cs) (.inr (by simpa using other))
      have positive : 0 < m := by
        refine Nat.pos_of_ne_zero fun zero => other ?_
        rw [zero] at same
        exact (List.cons.inj same).1
      have front : (10 * m + d) / 10 = m := by omega
      have last : (10 * m + d) % 10 = d := by omega
      rw [natChars_eq, if_neg (by omega), front, last, same]

/-- A written number is read back. -/
theorem nat?_natChars (n : Nat) : nat? (natChars n) = some n :=
  nat?_eq_some_iff.2 ⟨natChars_ne_nil n, denotes_natChars n⟩

theorem paddedNat_ne_nil (width n : Nat) : paddedNat width n ≠ [] := by
  simp [paddedNat, natChars_ne_nil]

/-- A number with zeros in front is read back. -/
theorem nat?_paddedNat (width n : Nat) : nat? (paddedNat width n) = some n := by
  refine nat?_eq_some_iff.2 ⟨paddedNat_ne_nil width n, ?_⟩
  rw [paddedNat]
  induction width - (natChars n).length with
  | zero => exact denotes_natChars n
  | succ zeros ih => exact ih.zero_cons

/-- A number below a power of ten is written in that many digits. -/
theorem length_paddedNat {width : Nat} (positive : 0 < width) (bound : n < 10 ^ width) :
    (paddedNat width n).length = width := by
  have fits : (natChars n).length ≤ width :=
    (Nat.length_toDigits_le_iff (by decide) positive).2 bound
  rw [paddedNat, List.length_append, List.length_replicate]
  omega

end MarketDesk.Text
