import MarketDesk.Text.Blank

/-!
# Cutting at a mark

`splitOn` cuts a text into pieces that have no mark in them, and the pieces with the mark between
them give the text back; so a text can be read off its pieces in both directions.
-/

namespace MarketDesk.Text

variable {mark : Char} {cs : List Char}

/-- Pieces with a mark between them. -/
def joinWith (mark : Char) : List (List Char) → List Char
  | [] => []
  | [piece] => piece
  | piece :: pieces => piece ++ mark :: joinWith mark pieces

theorem joinWith_cons_cons (c : Char) (piece : List Char) (pieces : List (List Char)) :
    joinWith mark ((c :: piece) :: pieces) = c :: joinWith mark (piece :: pieces) := by
  cases pieces <;> rfl

theorem splitOn_ne_nil (mark : Char) (cs : List Char) : splitOn mark cs ≠ [] := by
  cases cs with
  | nil => simp [splitOn]
  | cons c cs =>
    rw [splitOn]
    split
    · simp
    · split <;> simp

/-- Joining the pieces of a text gives the text. -/
theorem joinWith_splitOn (mark : Char) (cs : List Char) :
    joinWith mark (splitOn mark cs) = cs := by
  induction cs with
  | nil => rfl
  | cons c cs ih =>
    rw [splitOn]
    split
    next hc =>
      obtain ⟨piece, pieces, h⟩ := List.exists_cons_of_ne_nil (splitOn_ne_nil mark cs)
      rw [h] at ih ⊢
      rw [joinWith, ih, hc]
      · rfl
      · simp
    next hc =>
      split
      next h => exact (splitOn_ne_nil mark cs h).elim
      next piece pieces h =>
        rw [h] at ih
        rw [joinWith_cons_cons, ih]

theorem not_mem_of_mem_splitOn {piece : List Char} (h : piece ∈ splitOn mark cs) :
    mark ∉ piece := by
  induction cs generalizing piece with
  | nil =>
    rw [splitOn, List.mem_singleton] at h
    simp [h]
  | cons c cs ih =>
    rw [splitOn] at h
    split at h
    next hc =>
      rcases List.mem_cons.1 h with rfl | h
      · simp
      · exact ih h
    next hc =>
      split at h
      next none => exact (splitOn_ne_nil mark cs none).elim
      next first rest pieces =>
        rw [pieces] at ih
        rcases List.mem_cons.1 h with rfl | h
        · intro mem
          rcases List.mem_cons.1 mem with rfl | mem
          · exact hc rfl
          · exact ih List.mem_cons_self mem
        · exact ih (List.mem_cons_of_mem _ h)

/-- A text without a mark is its only piece. -/
theorem splitOn_of_not_mem (h : mark ∉ cs) : splitOn mark cs = [cs] := by
  induction cs with
  | nil => rfl
  | cons c cs ih =>
    rw [List.mem_cons, not_or] at h
    rw [splitOn, if_neg (Ne.symm h.1), ih h.2]

/-- A mark cuts a text into the pieces before it and those after it. -/
theorem splitOn_append (mark : Char) (cs rest : List Char) :
    splitOn mark (cs ++ mark :: rest) = splitOn mark cs ++ splitOn mark rest := by
  induction cs with
  | nil =>
    show splitOn mark (mark :: rest) = [] :: splitOn mark rest
    rw [splitOn, if_pos rfl]
  | cons c cs ih =>
    rw [List.cons_append, splitOn, splitOn, ih]
    by_cases hc : c = mark
    · rw [if_pos hc, if_pos hc, List.cons_append]
    · obtain ⟨piece, pieces, h⟩ := List.exists_cons_of_ne_nil (splitOn_ne_nil mark cs)
      rw [if_neg hc, if_neg hc, h]
      rfl

/-- The text before the first mark is the first piece. -/
theorem splitOn_append_mark {piece : List Char} (h : mark ∉ piece) (rest : List Char) :
    splitOn mark (piece ++ mark :: rest) = piece :: splitOn mark rest := by
  rw [splitOn_append, splitOn_of_not_mem h, List.singleton_append]

end MarketDesk.Text
