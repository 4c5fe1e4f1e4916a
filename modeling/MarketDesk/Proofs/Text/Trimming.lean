import MarketDesk.Proofs.Calendar.DateText

/-!
# Trimming

What is left of a text without the white space at its ends: `Trims` says what that is, without
saying how it is found, and `trimBlank_eq_iff` that trimming finds it. It is nothing just if the text
is blank.
-/

namespace MarketDesk.Text

open MarketDesk.Calendar.Date (Blank Clear clear_dropWhile dropWhile_isBlank exists_blanks)

variable {cs t : List Char}

/-- The second text is the first one without the white space at its ends. -/
structure Trims (cs t : List Char) : Prop where
  /-- Only white space is taken away. -/
  around : ∃ before after, Blank before ∧ Blank after ∧ cs = before ++ (t ++ after)
  /-- What is left does not begin with white space. -/
  first : Clear isBlank t
  /-- Nor does it end with any. -/
  last : Clear isBlank t.reverse

theorem blank_reverse (blank : Blank cs) : Blank cs.reverse :=
  fun c mem => blank c (List.mem_reverse.1 mem)

theorem trims_trimBlank (cs : List Char) : Trims cs (trimBlank cs) := by
  obtain ⟨before, blank, front⟩ := exists_blanks cs
  obtain ⟨after, blank', back⟩ := exists_blanks (cs.dropWhile isBlank).reverse
  -- What is left is read from its end by the second pass.
  have left : cs.dropWhile isBlank = trimBlank cs ++ after.reverse := by
    rw [trimBlank, ← List.reverse_append, ← back, List.reverse_reverse]
  refine ⟨⟨before, after.reverse, blank, blank_reverse blank', ?_⟩, ?_, ?_⟩
  · rw [← left]
    exact front
  · intro c first
    apply clear_dropWhile isBlank cs
    rw [left, List.head?_append, first]
    rfl
  · rw [trimBlank, List.reverse_reverse]
    exact clear_dropWhile isBlank _

theorem Trims.trimBlank_eq (trims : Trims cs t) : trimBlank cs = t := by
  obtain ⟨⟨before, after, blank, blank', rfl⟩, first, last⟩ := trims
  rw [trimBlank]
  cases t with
  | nil =>
    have dropped : (before ++ ([] ++ after)).dropWhile isBlank = [] := by
      rw [List.nil_append, List.dropWhile_append_of_pos blank]
      have all : (after ++ []).dropWhile isBlank = [] := dropWhile_isBlank blank' nofun
      rwa [List.append_nil] at all
    rw [dropped]
    rfl
  | cons c t =>
    have front : (before ++ (c :: t ++ after)).dropWhile isBlank = c :: t ++ after :=
      dropWhile_isBlank blank first
    have back : (after.reverse ++ (c :: t).reverse).dropWhile isBlank = (c :: t).reverse :=
      dropWhile_isBlank (blank_reverse blank') last
    rw [front, List.reverse_append, back, List.reverse_reverse]

/-- Trimming takes away the white space at both ends, and nothing else. -/
theorem trimBlank_eq_iff : trimBlank cs = t ↔ Trims cs t := by
  constructor
  · rintro rfl
    exact trims_trimBlank cs
  · exact Trims.trimBlank_eq

theorem Trims.unique {u : List Char} (h : Trims cs t) (h' : Trims cs u) : t = u := by
  rw [← trimBlank_eq_iff.2 h, trimBlank_eq_iff.2 h']

/-- Nothing is left just of a blank text. -/
theorem trims_nil_iff : Trims cs [] ↔ Blank cs := by
  constructor
  · rintro ⟨⟨before, after, blank, blank', rfl⟩, -, -⟩ c mem
    exact (List.mem_append.1 mem).elim (blank c) (blank' c)
  · exact fun blank => ⟨⟨cs, [], blank, nofun, by simp⟩, nofun, nofun⟩

end MarketDesk.Text
