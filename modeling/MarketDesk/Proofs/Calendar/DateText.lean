import MarketDesk.Calendar.DateText
import MarketDesk.Proofs.Text.Numerals

/-!
# Dates as text

`Spells` is the grammar of dates, white space and signs included, and `parse?_eq_some_iff` says that
reading accepts just that. The written form of a date is one of its spellings, over the whole
calendar, so it is read back.
-/

namespace MarketDesk.Calendar.Date

open MarketDesk.Text

variable {cs rest blanks run : List Char} {c : Char} {most n : Nat} {year : Int} {d : Date}

/-! ## The grammar -/

/-- White space, or nothing. -/
def Blank (cs : List Char) : Prop := ∀ c ∈ cs, isBlank c = true

/-- The text of a year. Without a sign it has at most four digits. -/
inductive SpellsYear : List Char → Int → Prop where
  | plain {run : List Char} {n : Nat} : nat? run = some n → run.length ≤ 4 → SpellsYear run n
  | positive {run : List Char} {n : Nat} : nat? run = some n → SpellsYear ('+' :: run) n
  | negative {run : List Char} {n : Nat} : nat? run = some n → SpellsYear ('-' :: run) (-n)

/-- The text of a month or a day, with the hyphen in front of it and white space around that. -/
inductive SpellsPart : List Char → Nat → Prop where
  | intro {before after run : List Char} {n : Nat} : Blank before → Blank after →
      nat? run = some n → run.length ≤ 2 → SpellsPart (before ++ '-' :: (after ++ run)) n

/-- The text of a date. -/
inductive Spells : List Char → Date → Prop where
  | intro {before after year month day : List Char} {y : Int} {m n : Nat} {d : Date} :
      Blank before → SpellsYear year y → SpellsPart month m → SpellsPart day n → Blank after →
      ofCivil? y m n = some d → Spells (before ++ (year ++ (month ++ (day ++ after)))) d

/-! ## White space -/

theorem isBlank_of_isDigit (digit : isDigit c = true) : isBlank c = false := by
  obtain ⟨low, high⟩ := isDigit_iff.1 digit
  simp only [isBlank, blankRanges, List.any_cons, List.any_nil, Bool.or_false, Bool.or_eq_false_iff,
    Bool.and_eq_false_iff, decide_eq_false_iff_not]
  omega

/-- The text does not begin with such a character. -/
def Clear (p : Char → Bool) (rest : List Char) : Prop := ∀ c, rest.head? = some c → p c = false

theorem clear_nil (p : Char → Bool) : Clear p [] := by
  intro c none
  cases none

theorem clear_cons {p : Char → Bool} (clear : p c = false) : Clear p (c :: rest) := by
  rintro c ⟨⟩
  exact clear

theorem takeWhile_of_clear {p : Char → Bool} (clear : Clear p rest) : rest.takeWhile p = [] := by
  cases rest with
  | nil => rfl
  | cons c rest => simp [clear c rfl]

theorem dropWhile_of_clear {p : Char → Bool} (clear : Clear p rest) : rest.dropWhile p = rest := by
  cases rest with
  | nil => rfl
  | cons c rest => simp [clear c rfl]

theorem clear_dropWhile (p : Char → Bool) (cs : List Char) : Clear p (cs.dropWhile p) := by
  intro c first
  have stops := List.head?_dropWhile_not p cs
  rw [first] at stops
  exact stops

theorem dropWhile_isBlank (blank : Blank blanks) (clear : Clear isBlank rest) :
    (blanks ++ rest).dropWhile isBlank = rest := by
  rw [List.dropWhile_append_of_pos blank, dropWhile_of_clear clear]

theorem exists_blanks (cs : List Char) :
    ∃ blanks, Blank blanks ∧ cs = blanks ++ cs.dropWhile isBlank :=
  ⟨cs.takeWhile isBlank, List.all_eq_true.1 List.all_takeWhile,
    List.takeWhile_append_dropWhile.symm⟩

theorem Blank.clear (blank : Blank blanks) (clear : Clear isDigit rest) :
    Clear isDigit (blanks ++ rest) := by
  cases blanks with
  | nil => exact clear
  | cons c blanks =>
    refine clear_cons (Bool.eq_false_iff.2 fun digit => ?_)
    have white := blank c List.mem_cons_self
    rw [isBlank_of_isDigit digit] at white
    cases white

/-! ## Numbers -/

theorem digits_of_nat? (read : nat? run = some n) :
    ∃ c run', run = c :: run' ∧ ∀ c ∈ run, isDigit c = true := by
  obtain ⟨nonempty, denotes⟩ := nat?_eq_some_iff.1 read
  obtain ⟨c, run', rfl⟩ := List.exists_cons_of_ne_nil nonempty
  exact ⟨c, run', rfl, isDigit_of_denotes denotes⟩

theorem clear_of_nat? (read : nat? run = some n) (rest : List Char) :
    Clear isBlank (run ++ rest) := by
  obtain ⟨c, run', rfl, digits⟩ := digits_of_nat? read
  exact clear_cons (isBlank_of_isDigit (digits c List.mem_cons_self))

/-- A number is read up to what is no digit. -/
theorem number?_append (read : nat? run = some n) (fits : run.length ≤ most)
    (ends : Clear isDigit rest) : number? most (run ++ rest) = some (n, rest) := by
  obtain ⟨c, run', -, digits⟩ := digits_of_nat? read
  have ends' : Clear isDigit (rest.take (most - run.length)) := by
    intro c first
    cases rest with
    | nil => simp at first
    | cons c' rest =>
      cases room : most - run.length with
      | zero => simp [room] at first
      | succ room' =>
        rw [room] at first
        exact ends c first
  have taken : ((run ++ rest).take most).takeWhile isDigit = run := by
    rw [List.take_append, List.take_of_length_le fits, List.takeWhile_append_of_pos digits,
      takeWhile_of_clear ends', List.append_nil]
  rw [number?]
  simp [taken, read]

/-- What was read as a number is one. -/
theorem exists_run_of_number? (h : number? most cs = some (n, rest)) :
    ∃ run, cs = run ++ rest ∧ nat? run = some n ∧ run.length ≤ most := by
  obtain ⟨m, read, same⟩ := Option.map_eq_some_iff.1 h
  obtain ⟨rfl, rfl⟩ := Prod.mk.inj same
  have front : (cs.take most).takeWhile isDigit <+: cs :=
    List.IsPrefix.trans ( List.takeWhile_prefix _) ( List.take_prefix _ _)
  refine ⟨_, (List.prefix_iff_eq_append.1 front).symm, read, ?_⟩
  have shorter := List.IsPrefix.length_le ( List.takeWhile_prefix (l := cs.take most) isDigit)
  rw [List.length_take] at shorter
  omega

/-! ## Parts of a date -/

theorem year?_append {text : List Char} (spelled : SpellsYear text year) (blank : Blank blanks)
    (ends : Clear isDigit rest) : year? (blanks ++ (text ++ rest)) = some (year, rest) := by
  cases spelled with
  | @plain _ n read fits =>
    have front := dropWhile_isBlank blank (clear_of_nat? read rest)
    obtain ⟨c, run', rfl, digits⟩ := digits_of_nat? read
    have first := isDigit_iff.1 (digits c List.mem_cons_self)
    have plus : c ≠ '+' := by
      rintro rfl
      exact absurd first.1 (by decide)
    have minus : c ≠ '-' := by
      rintro rfl
      exact absurd first.1 (by decide)
    rw [year?, front]
    split
    next start => exact (minus (List.cons.inj start).1).elim
    next start => exact (plus (List.cons.inj start).1).elim
    next => rw [number?_append read fits ends, Option.map_some]
  | @positive run n read =>
    have front : (blanks ++ ('+' :: run ++ rest)).dropWhile isBlank = '+' :: (run ++ rest) :=
      dropWhile_isBlank blank (clear_cons (by decide))
    have fits : run.length ≤ (run ++ rest).length := by simp
    have number := number?_append read fits ends
    rw [year?, front]
    exact congrArg (Option.map fun x => ((x.1 : Int), x.2)) number
  | @negative run n read =>
    have front : (blanks ++ ('-' :: run ++ rest)).dropWhile isBlank = '-' :: (run ++ rest) :=
      dropWhile_isBlank blank (clear_cons (by decide))
    have fits : run.length ≤ (run ++ rest).length := by simp
    have number := number?_append read fits ends
    rw [year?, front]
    exact congrArg (Option.map fun x => (-(x.1 : Int), x.2)) number

theorem exists_of_year? (h : year? cs = some (year, rest)) :
    ∃ blanks text, Blank blanks ∧ SpellsYear text year ∧ cs = blanks ++ (text ++ rest) := by
  obtain ⟨blanks, blank, whole⟩ := exists_blanks cs
  rw [year?] at h
  split at h
  next run start =>
    obtain ⟨⟨n, rest'⟩, read, same⟩ := Option.map_eq_some_iff.1 h
    cases same
    obtain ⟨run, rfl, number, -⟩ := exists_run_of_number? read
    exact ⟨blanks, '-' :: run, blank, .negative number, by rw [whole, start]; rfl⟩
  next run start =>
    obtain ⟨⟨n, rest'⟩, read, same⟩ := Option.map_eq_some_iff.1 h
    cases same
    obtain ⟨run, rfl, number, -⟩ := exists_run_of_number? read
    exact ⟨blanks, '+' :: run, blank, .positive number, by rw [whole, start]; rfl⟩
  next =>
    obtain ⟨⟨n, rest'⟩, read, same⟩ := Option.map_eq_some_iff.1 h
    cases same
    obtain ⟨run, front, number, fits⟩ := exists_run_of_number? read
    exact ⟨blanks, run, blank, .plain number fits, by rw [← front]; exact whole⟩

theorem part?_append {text : List Char} (spelled : SpellsPart text n) (ends : Clear isDigit rest) :
    part? (text ++ rest) = some (n, rest) := by
  cases spelled with
  | @intro before after run _ blank blank' read fits =>
    have front : (before ++ '-' :: (after ++ run) ++ rest).dropWhile isBlank =
        '-' :: (after ++ (run ++ rest)) := by
      rw [List.append_assoc, List.cons_append, List.append_assoc]
      exact dropWhile_isBlank blank (clear_cons (by decide))
    have back := dropWhile_isBlank blank' (clear_of_nat? read rest)
    rw [part?, front]
    simp [back, number?_append read fits ends]

theorem exists_of_part? (h : part? cs = some (n, rest)) :
    ∃ text, SpellsPart text n ∧ cs = text ++ rest := by
  obtain ⟨before, blank, whole⟩ := exists_blanks cs
  rw [part?] at h
  split at h
  next tail start =>
    obtain ⟨after, blank', tail'⟩ := exists_blanks tail
    obtain ⟨run, front, read, fits⟩ := exists_run_of_number? h
    refine ⟨_, .intro blank blank' read fits, ?_⟩
    rw [whole, start, tail', front]
    simp
  next => cases h

theorem SpellsPart.clear {text : List Char} (spelled : SpellsPart text n) (rest : List Char) :
    Clear isDigit (text ++ rest) := by
  cases spelled with
  | @intro before after run _ blank =>
    rw [List.append_assoc]
    exact blank.clear (clear_cons (by decide))

/-! ## Dates -/

/-- What is read as a date is what spells it. -/
theorem parse?_eq_some_iff : parse? cs = some d ↔ Spells cs d := by
  simp only [parse?, Option.bind_eq_bind, Option.bind_eq_some_iff]
  constructor
  · rintro ⟨⟨y, afterYear⟩, hy, ⟨m, afterMonth⟩, hm, ⟨n, afterDay⟩, hn, made⟩
    obtain ⟨before, year, blank, spelledYear, rfl⟩ := exists_of_year? hy
    obtain ⟨month, spelledMonth, rfl⟩ := exists_of_part? hm
    obtain ⟨day, spelledDay, rfl⟩ := exists_of_part? hn
    obtain ⟨after, blank', whole⟩ := exists_blanks afterDay
    split at made
    next ended =>
      rw [List.isEmpty_iff.1 ended, List.append_nil] at whole
      subst whole
      exact .intro blank spelledYear spelledMonth spelledDay blank' made
    next => cases made
  · rintro ⟨blank, spelledYear, spelledMonth, spelledDay, blank', made⟩
    have dayEnds := blank'.clear (clear_nil isDigit)
    rw [List.append_nil] at dayEnds
    have ended := dropWhile_isBlank blank' (clear_nil isBlank)
    rw [List.append_nil] at ended
    refine ⟨_, year?_append spelledYear blank (spelledMonth.clear _), _,
      part?_append spelledMonth (spelledDay.clear _), _, part?_append spelledDay dayEnds, ?_⟩
    rw [ended]
    exact made

example : ofText? "\t+02024 - 6-1 " = ofCivil? 2024 6 1 := by decide

/-- A year is written as one of its spellings. -/
theorem spellsYear_yearChars (year : Int) : SpellsYear (yearChars year) year := by
  have read := nat?_paddedNat 4 year.natAbs
  rw [yearChars]
  split
  next near =>
    have four : (paddedNat 4 year.natAbs).length = 4 := length_paddedNat (by decide) (by omega)
    have spelled := SpellsYear.plain read (by omega)
    rwa [Int.natAbs_of_nonneg near.1] at spelled
  next =>
    split
    next negative =>
      have spelled := SpellsYear.negative read
      rwa [show -(year.natAbs : Int) = year by omega] at spelled
    next positive =>
      have spelled := SpellsYear.positive read
      rwa [show (year.natAbs : Int) = year by omega] at spelled

theorem spellsPart_paddedNat (bound : n < 100) : SpellsPart ('-' :: paddedNat 2 n) n := by
  have two : (paddedNat 2 n).length = 2 := length_paddedNat (by decide) bound
  exact @SpellsPart.intro [] [] _ n nofun nofun (nat?_paddedNat 2 n) (Nat.le_of_eq two)

theorem monthLength_le (year : Int) (month : Nat) : monthLength year month ≤ 31 := by
  unfold monthLength
  repeat' split
  all_goals decide

/-- A date is written as one of its spellings. -/
theorem spells_chars (d : Date) : Spells d.chars d := by
  obtain ⟨-, -, -, month, -, day⟩ := d.civil
  have longest := monthLength_le d.year d.month
  have written : d.chars = [] ++ (yearChars d.year ++ ('-' :: paddedNat 2 d.month ++
      ('-' :: paddedNat 2 d.day ++ []))) := by
    simp [chars]
  rw [written]
  refine .intro nofun (spellsYear_yearChars d.year) (spellsPart_paddedNat (by omega))
    (spellsPart_paddedNat (by omega)) nofun ?_
  rw [ofCivil?, dif_pos d.civil]

/-- A written date is read back. -/
theorem ofText?_text (d : Date) : ofText? d.text = some d := by
  rw [ofText?, text, String.toList_ofList]
  exact parse?_eq_some_iff.2 (spells_chars d)

end MarketDesk.Calendar.Date
