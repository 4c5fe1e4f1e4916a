/-!
# Logs

A log grows at its end. What it remembers is said by a split: an event, the events before it, and
those since.
-/

namespace MarketDesk

variable {α : Type} {log : List α}

/-- A log with one more event splits at that event or before it. -/
theorem concat_eq_split_iff {event x : α} {earlier since : List α} :
    log ++ [event] = earlier ++ x :: since ↔
      (since = [] ∧ event = x ∧ log = earlier) ∨
        ∃ since', since = since' ++ [event] ∧ log = earlier ++ x :: since' := by
  rcases List.eq_nil_or_concat since with rfl | ⟨since', last, rfl⟩
  · constructor
    · intro h
      obtain ⟨rfl, hx⟩ := List.append_inj' h rfl
      exact Or.inl ⟨rfl, List.head_eq_of_cons_eq hx, rfl⟩
    · rintro (⟨-, rfl, rfl⟩ | ⟨_, h, -⟩)
      · rfl
      · simp at h
  · have regroup : earlier ++ x :: (since' ++ [last]) = (earlier ++ x :: since') ++ [last] := by
      simp
    rw [List.concat_eq_append, regroup]
    constructor
    · intro h
      obtain ⟨rfl, hx⟩ := List.append_inj' h rfl
      exact Or.inr ⟨since', by rw [List.head_eq_of_cons_eq hx], rfl⟩
    · rintro (⟨h, -, -⟩ | ⟨since'', h, rfl⟩)
      · simp at h
      · obtain ⟨rfl, hx⟩ := List.append_inj' h rfl
        rw [List.head_eq_of_cons_eq hx]

end MarketDesk
