import Mathlib.Data.List.DropRight
import MarketDesk.Json.Reader
import MarketDesk.Proofs.Text.Numerals

/-!
# Numbers are read as far as they go

`Spells` is the grammar of numbers in a document: a sign, digits before the point, a fraction and an
exponent. A reader takes all of a number and nothing behind it, if what is behind does not go on
with it (`Ends`). Written integers are spelled in this grammar, and so are written doubles: each way
to lay out the digits of a double gives a number whose first digit is no superfluous zero.
-/

namespace MarketDesk.Json

open MarketDesk.Text MarketDesk.Decimal

variable {cs ws fs es : List Char} {ds : List Nat} {rest : Symbols} {n : Numeral} {c : Char}

/-! ## The grammar -/

/-- The text is made of digits, which have these values. -/
def HasDigits (cs : List Char) (ds : List Nat) : Prop := cs ≠ [] ∧ cs.mapM digit? = some ds

/-- The digits before a point. Only a lone zero begins with zero. -/
def SpellsWhole (cs : List Char) (ds : List Nat) : Prop :=
  HasDigits cs ds ∧ ∀ d more, ds ≠ 0 :: d :: more

/-- A point and the digits after it, or nothing. -/
inductive SpellsFraction : List Char → List Nat → Prop where
  | absent : SpellsFraction [] []
  | present {cs : List Char} {ds : List Nat} : HasDigits cs ds → SpellsFraction ('.' :: cs) ds

/-- An exponent with its sign, or nothing. -/
inductive SpellsExponent : List Char → Option Int → Prop where
  | absent : SpellsExponent [] none
  | positive {cs : List Char} {ds : List Nat} : HasDigits cs ds →
      SpellsExponent ('e' :: '+' :: cs) (some (ofDigits 10 ds))
  | negative {cs : List Char} {ds : List Nat} : HasDigits cs ds →
      SpellsExponent ('e' :: '-' :: cs) (some (-ofDigits 10 ds))

/-- The text of a number. -/
inductive Spells : List Char → Numeral → Prop where
  | positive {ws fs es : List Char} {whole fraction : List Nat} {exponent : Option Int} :
      SpellsWhole ws whole → SpellsFraction fs fraction → SpellsExponent es exponent →
      Spells (ws ++ (fs ++ es)) ⟨false, whole, fraction, exponent⟩
  | negative {ws fs es : List Char} {whole fraction : List Nat} {exponent : Option Int} :
      SpellsWhole ws whole → SpellsFraction fs fraction → SpellsExponent es exponent →
      Spells ('-' :: (ws ++ (fs ++ es))) ⟨true, whole, fraction, exponent⟩

/-! ## Reading -/

/-- The input does not go on with such a character. -/
def StopsAt (p : Char → Prop) (rest : Symbols) : Prop := ∀ c, rest.head? = some (some c) → ¬ p c

/-- The character may go on with a number. -/
def GoesOn (c : Char) : Prop := isDigit c = true ∨ c = '.' ∨ c = 'e' ∨ c = 'E'

/-- The input does not go on with a number. -/
def Ends (rest : Symbols) : Prop := StopsAt GoesOn rest

theorem ends_nil : Ends [] := nofun

theorem ends_cons (stops : ¬ GoesOn c) : Ends (some c :: rest) := by
  rintro c ⟨⟩
  exact stops

theorem Ends.digits (ends : Ends rest) : StopsAt (isDigit · = true) rest :=
  fun c here digit => ends c here (.inl digit)

theorem takeDigits_of_stopsAt (stops : StopsAt (isDigit · = true) rest) :
    takeDigits rest = ([], rest) := by
  cases rest with
  | nil => rfl
  | cons o rest =>
    cases o with
    | none => rfl
    | some c =>
      have none : digit? c = none := by
        rw [← Option.not_isSome_iff_eq_none]
        exact stops c rfl
      rw [takeDigits, none]

/-- Digits are taken as far as they go. -/
theorem takeDigits_append (digits : cs.mapM digit? = some ds)
    (stops : StopsAt (isDigit · = true) rest) :
    takeDigits (cs.map some ++ rest) = (ds, rest) := by
  induction cs generalizing ds with
  | nil =>
    cases digits
    exact takeDigits_of_stopsAt stops
  | cons c cs ih =>
    rw [List.mapM_cons] at digits
    simp only [Option.bind_eq_bind, Option.pure_def, Option.bind_eq_some_iff,
      Option.some.injEq] at digits
    obtain ⟨d, here, ds', later, rfl⟩ := digits
    rw [List.map_cons, List.cons_append, takeDigits, here]
    dsimp only
    rw [ih later]

theorem HasDigits.ne_nil (digits : HasDigits cs ds) : ds ≠ [] := by
  obtain ⟨nonempty, read⟩ := digits
  rintro rfl
  cases cs with
  | nil => exact nonempty rfl
  | cons c cs =>
    rw [List.mapM_cons] at read
    simp only [Option.bind_eq_bind, Option.pure_def, Option.bind_eq_some_iff, Option.some.injEq]
      at read
    obtain ⟨_, -, _, -, impossible⟩ := read
    cases impossible

theorem readWhole?_append (spelled : SpellsWhole cs ds)
    (stops : StopsAt (isDigit · = true) rest) :
    readWhole? (cs.map some ++ rest) = some (ds, rest) := by
  obtain ⟨digits, plain⟩ := spelled
  rw [readWhole?, takeDigits_append digits.2 stops]
  split
  next same => exact (digits.ne_nil (Prod.mk.inj same).1).elim
  next same => exact (plain _ _ (Prod.mk.inj same).1).elim
  next => rfl

theorem readFraction?_append (spelled : SpellsFraction cs ds)
    (stops : StopsAt (fun c => isDigit c = true ∨ c = '.') rest) :
    readFraction? (cs.map some ++ rest) = some (ds, rest) := by
  cases spelled with
  | absent =>
    rw [List.map_nil, List.nil_append, readFraction?]
    rintro more rfl
    exact stops '.' rfl (.inr rfl)
  | @present cs _ digits =>
    have taken := takeDigits_append digits.2 fun c here digit => stops c here (.inl digit)
    rw [List.map_cons, List.cons_append, readFraction?, taken]
    split
    next same => exact (digits.ne_nil (Prod.mk.inj same).1).elim
    next => rfl

theorem readExponentDigits?_append (negative : Bool) (digits : HasDigits cs ds)
    (stops : StopsAt (isDigit · = true) rest) :
    readExponentDigits? negative (cs.map some ++ rest) =
      some (some (if negative then -(ofDigits 10 ds : Int) else ofDigits 10 ds), rest) := by
  rw [readExponentDigits?, takeDigits_append digits.2 stops]
  split
  next same => exact (digits.ne_nil (Prod.mk.inj same).1).elim
  next same =>
    cases same
    rfl

theorem readExponent?_append {exponent : Option Int} (spelled : SpellsExponent cs exponent)
    (ends : Ends rest) : readExponent? (cs.map some ++ rest) = some (exponent, rest) := by
  cases spelled with
  | absent =>
    rw [List.map_nil, List.nil_append]
    cases rest with
    | nil => rfl
    | cons o rest =>
      cases o with
      | none => rfl
      | some c =>
        have other : ¬ (c = 'e' ∨ c = 'E') := fun mark => ends c rfl (.inr (.inr mark))
        simp only [readExponent?, if_neg other]
  | positive digits => exact readExponentDigits?_append false digits ends.digits
  | negative digits => exact readExponentDigits?_append true digits ends.digits

/-- A fraction is not followed by more of it. -/
theorem SpellsExponent.stopsAt {exponent : Option Int} (spelled : SpellsExponent es exponent)
    (ends : Ends rest) :
    StopsAt (fun c => isDigit c = true ∨ c = '.') (es.map some ++ rest) := by
  cases spelled with
  | absent =>
    rintro c here (digit | rfl)
    · exact ends c here (.inl digit)
    · exact ends '.' here (.inr (.inl rfl))
  | positive | negative =>
    rintro c ⟨⟩
    decide

/-- The digits before a point are not followed by more of them. -/
theorem SpellsFraction.stopsAt (spelled : SpellsFraction fs ds)
    (stops : StopsAt (fun c => isDigit c = true ∨ c = '.') rest) :
    StopsAt (isDigit · = true) (fs.map some ++ rest) := by
  cases spelled with
  | absent => exact fun c here digit => stops c here (.inl digit)
  | present =>
    rintro c ⟨⟩
    decide

theorem readNumeral?_append {whole fraction : List Nat} {exponent : Option Int}
    (negative : Bool) (spelledWhole : SpellsWhole ws whole)
    (spelledFraction : SpellsFraction fs fraction) (spelledExponent : SpellsExponent es exponent)
    (ends : Ends rest) :
    readNumeral? negative ((ws ++ (fs ++ es)).map some ++ rest) =
      some (⟨negative, whole, fraction, exponent⟩, rest) := by
  have stops := spelledExponent.stopsAt ends
  simp only [List.map_append, List.append_assoc]
  rw [readNumeral?, readWhole?_append spelledWhole (spelledFraction.stopsAt stops)]
  dsimp only [bind, Option.bind]
  rw [readFraction?_append spelledFraction stops]
  dsimp only
  rw [readExponent?_append spelledExponent ends]
  rfl

/-- The first character of a number is a digit or the sign. -/
theorem Spells.exists_cons (spelled : Spells cs n) :
    ∃ c more, cs = c :: more ∧ (isDigit c = true ∨ c = '-') := by
  cases spelled with
  | @positive ws fs es whole fraction exponent spelledWhole =>
    obtain ⟨⟨nonempty, read⟩, -⟩ := spelledWhole
    cases ws with
    | nil => exact (nonempty rfl).elim
    | cons c ws =>
      refine ⟨c, _, rfl, .inl ?_⟩
      exact isDigit_of_denotes ⟨_, read, rfl⟩ c List.mem_cons_self
  | negative => exact ⟨'-', _, rfl, .inr rfl⟩

/-- Without a literal name or a sign in front, a number is read as it is. -/
theorem readScalar?_of_digit (digit : isDigit c = true) (rest : Symbols) :
    readScalar? (some c :: rest) =
      (readNumeral? false (some c :: rest)).map fun (n, cs) => (.number n, cs) := by
  have other : ∀ c' : Char, isDigit c' = false → c ≠ c' := by
    rintro c' none rfl
    rw [digit] at none
    cases none
  unfold readScalar?
  split
  next same => exact (other 'n' (by decide) (Option.some.inj (List.cons.inj same).1)).elim
  next same => exact (other 't' (by decide) (Option.some.inj (List.cons.inj same).1)).elim
  next same => exact (other 'f' (by decide) (Option.some.inj (List.cons.inj same).1)).elim
  next same => exact (other '-' (by decide) (Option.some.inj (List.cons.inj same).1)).elim
  next => rfl

/-- **Numbers are read as far as they go.** -/
theorem readScalar?_spelled (spelled : Spells cs n) (ends : Ends rest) :
    readScalar? (cs.map some ++ rest) = some (.number n, rest) := by
  cases spelled with
  | @positive ws fs es whole fraction exponent spelledWhole spelledFraction spelledExponent =>
    have read := readNumeral?_append false spelledWhole spelledFraction spelledExponent ends
    obtain ⟨⟨nonempty, digits⟩, -⟩ := spelledWhole
    cases ws with
    | nil => exact (nonempty rfl).elim
    | cons c ws =>
      have digit : isDigit c = true := isDigit_of_denotes ⟨_, digits, rfl⟩ c List.mem_cons_self
      simp only [List.cons_append, List.map_cons] at read ⊢
      rw [readScalar?_of_digit digit, read]
      rfl
  | negative spelledWhole spelledFraction spelledExponent =>
    rw [List.map_cons, List.cons_append, readScalar?,
      readNumeral?_append true spelledWhole spelledFraction spelledExponent ends]
    rfl

/-! ## Runs of digits -/

/-- The text consists of digits. -/
def AllDigits (cs : List Char) : Prop := ∀ c ∈ cs, isDigit c = true

theorem AllDigits.append {cs' : List Char} (front : AllDigits cs) (back : AllDigits cs') :
    AllDigits (cs ++ cs') :=
  fun c among => (List.mem_append.1 among).elim (front c) (back c)

theorem allDigits_natChars (k : Nat) : AllDigits (natChars k) :=
  isDigit_of_denotes (denotes_natChars k)

theorem allDigits_zeros (k : Nat) : AllDigits (List.replicate k '0') := by
  intro c among
  rw [List.eq_of_mem_replicate among]
  rfl

/-- Digits have values. -/
theorem AllDigits.exists_hasDigits (digits : AllDigits cs) (nonempty : cs ≠ []) :
    ∃ ds, HasDigits cs ds := by
  obtain ⟨ds, values, -⟩ : Denotes cs _ := denotes_iff.2 ⟨digits, rfl⟩
  exact ⟨ds, nonempty, values⟩

/-- Digits, of which the first is not zero. -/
inductive Leading : List Char → Prop where
  | intro {c : Char} {cs : List Char} : isDigit c = true → c ≠ '0' → AllDigits cs →
      Leading (c :: cs)

theorem Leading.ne_nil (leading : Leading cs) : cs ≠ [] := by
  rintro rfl
  cases leading

theorem Leading.digits (leading : Leading cs) : AllDigits cs := by
  cases leading with
  | intro first _ more => exact List.forall_mem_cons.2 ⟨first, more⟩

/-- More digits behind leave the first one. -/
theorem Leading.append {cs' : List Char} (leading : Leading cs) (back : AllDigits cs') :
    Leading (cs ++ cs') := by
  cases leading with
  | intro first other more => exact .intro first other (more.append back)

/-- A part in front keeps the first digit. -/
theorem Leading.of_append {cs' : List Char} (leading : Leading (cs ++ cs')) (nonempty : cs ≠ []) :
    Leading cs := by
  cases cs with
  | nil => exact (nonempty rfl).elim
  | cons c cs =>
    cases leading with
    | intro first other more => exact .intro first other fun c among => more c (by simp [among])

theorem Leading.exists_spellsWhole (leading : Leading cs) : ∃ ds, SpellsWhole cs ds := by
  obtain ⟨ds, digits⟩ := leading.digits.exists_hasDigits leading.ne_nil
  refine ⟨ds, digits, ?_⟩
  rintro d more rfl
  cases leading with
  | intro first other _ =>
    obtain ⟨-, read⟩ := digits
    rw [List.mapM_cons] at read
    simp only [Option.bind_eq_bind, Option.pure_def, Option.bind_eq_some_iff, Option.some.injEq]
      at read
    obtain ⟨_, here, ds, -, same⟩ := read
    cases same
    exact other (digit?_eq_some_iff.1 here).2

/-- Numbers are written without a superfluous zero. -/
theorem leading_natChars {k : Nat} (positive : 0 < k) : Leading (natChars k) := by
  have other := head?_natChars_ne positive
  have digits := allDigits_natChars k
  obtain ⟨c, cs, written⟩ := List.exists_cons_of_ne_nil (natChars_ne_nil k)
  rw [written] at other digits ⊢
  obtain ⟨first, more⟩ := List.forall_mem_cons.1 digits
  exact .intro first (fun zero => other (congrArg some zero)) more

/-! ## Written integers -/

theorem exists_spellsWhole_zero : ∃ ds, SpellsWhole ['0'] ds := ⟨[0], ⟨nofun, rfl⟩, nofun⟩

theorem exists_spellsWhole_natChars (k : Nat) :
    ∃ ds, SpellsWhole (natChars k) ds ∧ ofDigits 10 ds = k := by
  cases Nat.eq_zero_or_pos k with
  | inl zero =>
    subst zero
    exact ⟨[0], ⟨⟨nofun, rfl⟩, nofun⟩, rfl⟩
  | inr positive =>
    obtain ⟨ds, spelled⟩ := (leading_natChars positive).exists_spellsWhole
    obtain ⟨ds', read, value⟩ := denotes_natChars k
    obtain rfl : ds = ds' := Option.some.inj (spelled.1.2.symm.trans read)
    exact ⟨ds, spelled, value⟩

/-- A written integer is spelled as that integer. -/
theorem exists_spells_intChars (i : Int) :
    ∃ n, Spells (intChars i) n ∧ n.integer? = some i := by
  obtain ⟨ds, spelled, value⟩ := exists_spellsWhole_natChars i.natAbs
  rw [intChars]
  split
  next below =>
    refine ⟨⟨true, ds, [], none⟩, ?_, ?_⟩
    · simpa using Spells.negative spelled .absent .absent
    · have other : i.natAbs ≠ 0 := by omega
      simp only [Numeral.integer?, Numeral.isInteger, value, if_neg other]
      exact congrArg some (by omega)
  next above =>
    refine ⟨⟨false, ds, [], none⟩, ?_, ?_⟩
    · simpa using Spells.positive spelled .absent .absent
    · simp only [Numeral.integer?, Numeral.isInteger, value]
      exact congrArg some (by omega)

/-! ## Written doubles -/

/-- The text of a number without a sign. -/
inductive SpellsUnsigned : List Char → Prop where
  | intro {ws fs es : List Char} {whole fraction : List Nat} {exponent : Option Int} :
      SpellsWhole ws whole → SpellsFraction fs fraction → SpellsExponent es exponent →
      SpellsUnsigned (ws ++ (fs ++ es))

theorem spellsUnsigned_point {ws fs : List Char} (whole : ∃ ds, SpellsWhole ws ds)
    (digits : AllDigits fs) (nonempty : fs ≠ []) : SpellsUnsigned (ws ++ '.' :: fs) := by
  obtain ⟨_, whole⟩ := whole
  obtain ⟨_, fraction⟩ := digits.exists_hasDigits nonempty
  simpa using SpellsUnsigned.intro whole (.present fraction) .absent

theorem significant_prefix (d : Nat) : List.IsPrefix (significant d) (natChars d) :=
  List.rdropWhile_prefix (· == '0') (natChars d)

theorem leading_significant {d : Nat} (positive : 0 < d) : Leading (significant d) := by
  have leading := leading_natChars positive
  have nonempty : significant d ≠ [] := by
    intro empty
    have zeros := List.rdropWhile_eq_nil_iff.1 empty
    cases same : natChars d with
    | nil => exact natChars_ne_nil d same
    | cons c cs =>
      rw [same] at leading zeros
      cases leading with
      | intro _ other _ => exact other (by simpa using zeros c List.mem_cons_self)
  obtain ⟨back, same⟩ := significant_prefix d
  rw [← same] at leading
  exact leading.of_append nonempty

/-- Digits around a point are a number, wherever the point is. -/
theorem spellsUnsigned_positional (leading : Leading cs) (e : Int) :
    SpellsUnsigned (positional cs e) := by
  rw [positional]
  split
  next =>
    exact spellsUnsigned_point exists_spellsWhole_zero
      ((allDigits_zeros (e.natAbs - 1)).append leading.digits)
      (List.append_ne_nil_of_right_ne_nil _ leading.ne_nil)
  next =>
    have front : Leading (cs.take (e.natAbs + 1)) := by
      have whole := leading
      rw [← List.take_append_drop (e.natAbs + 1) cs] at whole
      refine whole.of_append ?_
      have some := leading.ne_nil
      simp [some]
    dsimp only
    refine spellsUnsigned_point (front.append (allDigits_zeros _)).exists_spellsWhole ?_ ?_
    · split
      · exact List.forall_mem_singleton.2 rfl
      · exact fun c among => leading.digits c (List.mem_of_mem_drop among)
    · split
      · nofun
      next more => simpa using more

/-- Digits with an exponent are a number, whatever the exponent. -/
theorem spellsUnsigned_scientific (leading : Leading cs) (e : Int) :
    SpellsUnsigned (scientific cs e) := by
  have signed : ∃ exponent,
      SpellsExponent ('e' :: (if e < 0 then '-' else '+') :: natChars e.natAbs) exponent := by
    obtain ⟨ds, digits⟩ := (allDigits_natChars e.natAbs).exists_hasDigits (natChars_ne_nil _)
    split
    · exact ⟨_, .negative digits⟩
    · exact ⟨_, .positive digits⟩
  obtain ⟨_, exponent⟩ := signed
  cases leading with
  | @intro first cs digit other more =>
    have alone : Leading [first] := .intro digit other nofun
    obtain ⟨_, whole⟩ := alone.exists_spellsWhole
    cases cs with
    | nil => exact .intro whole .absent exponent
    | cons second rest =>
      obtain ⟨_, fraction⟩ := more.exists_hasDigits nofun
      have spelled := SpellsUnsigned.intro whole (.present fraction) exponent
      simpa [scientific] using spelled

theorem spellsUnsigned_write (layout : Layout) {n : Digits} (positive : 0 < n.d) :
    SpellsUnsigned (layout.write n) := by
  rw [Layout.write]
  split
  · exact spellsUnsigned_positional (leading_significant positive) _
  · exact spellsUnsigned_scientific (leading_significant positive) _

/-- Zero rounds to no positive double. -/
theorem nearest?_pos {s : Span} (low : 0 < s.low) {d : Nat} (nearest : s.nearest? = some d) :
    0 < d := by
  have holds : s.holds d = true := by
    simp only [Span.nearest?] at nearest
    split at nearest <;> grind
  by_contra zero
  obtain rfl : d = 0 := by omega
  simp [Span.holds] at holds
  grind

/-- The shortest digits of a double are not zero, if there are any. -/
theorem shortest_pos {s : Span} (low : 0 < s.low) : 0 < s.shortest.d ∨ s.shortest = ⟨0, 0⟩ := by
  rw [Span.shortest]
  cases found : (List.range 19).findSome? fun (i : Nat) =>
      ((s.onGrid (s.magnitude - i)).nearest?).map fun d => Digits.mk d (s.magnitude - i) with
  | none => exact .inr rfl
  | some n =>
    refine .inl ?_
    obtain ⟨i, -, here⟩ := List.exists_of_findSome?_eq_some found
    obtain ⟨d, nearest, rfl⟩ := Option.map_eq_some_iff.1 here
    refine nearest?_pos ?_ nearest
    rw [Span.onGrid]
    split
    · exact low
    · exact Nat.mul_pos low (Nat.pow_pos (by decide))

theorem ofBits_low_pos {bits : UInt64} (positive : bits.toNat ≠ 0)
    (small : bits.toNat < 0x8000000000000000) : 0 < (Span.ofBits bits).low := by
  rw [Span.ofBits]
  refine Nat.mul_pos ?_ (Nat.pow_pos (by decide))
  split <;> split <;> omega

/-- A sign may stand before a number. -/
theorem SpellsUnsigned.exists_spells (spelled : SpellsUnsigned cs) (bits magnitude : UInt64) :
    ∃ n, Spells ((if bits = magnitude then [] else ['-']) ++ cs) n := by
  obtain ⟨whole, fraction, exponent⟩ := spelled
  split
  · rw [List.nil_append]
    exact ⟨_, .positive whole fraction exponent⟩
  · rw [List.cons_append, List.nil_append]
    exact ⟨_, .negative whole fraction exponent⟩

/-- **Written doubles are numbers.** -/
theorem exists_spells_of_numeral? {x : Float} (written : numeral? x = some cs) :
    ∃ n, Spells cs n := by
  have zero : SpellsUnsigned (['0'] ++ '.' :: ['0']) :=
    spellsUnsigned_point exists_spellsWhole_zero (allDigits_zeros 1) nofun
  rw [numeral?] at written
  split at written
  next => cases written
  split at written
  next =>
    cases written
    exact zero.exists_spells _ _
  next positive =>
    cases written
    have small : (x.toBits % 0x8000000000000000).toNat < 0x8000000000000000 := by
      rw [UInt64.toNat_mod]
      exact Nat.mod_lt _ (by decide)
    have low := ofBits_low_pos (fun same => positive (UInt64.toNat_inj.1 same)) small
    refine SpellsUnsigned.exists_spells ?_ _ _
    cases shortest_pos low with
    | inl some => exact spellsUnsigned_write _ some
    | inr none =>
      rw [none]
      exact zero

end MarketDesk.Json
