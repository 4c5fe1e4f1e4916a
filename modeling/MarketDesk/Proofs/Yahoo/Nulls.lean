import MarketDesk.Proofs.Quote.Appraisal
import MarketDesk.Proofs.Yahoo.Flattening

/-!
# Nulls of a summary

A null counts as absent when fields are gathered from the modules, and so it never comes into a
snapshot that way. Scheduled earnings are not gathered but looked up, and are set as they are: the
one null that a snapshot may hold is theirs (`nulls_are_scheduled_iff`). An overview that is made of
the snapshot does not tell it from a missing value.
-/

namespace MarketDesk

open Json

/-- The members of a snapshot that are not null. -/
def Snapshot.withoutNulls (s : Snapshot) : Snapshot := s.filter fun m => !m.2.isNull

variable {s : Snapshot} {key : String} {v : Value}

theorem FieldKind.ofValue?_null (k : FieldKind) : k.ofValue? .null = none := by
  cases k <;> rfl

theorem get?_withoutNulls (ordered : Record.Ordered s) (key : String) :
    Record.get? s.withoutNulls key = (Record.get? s key).filter fun v => !v.isNull := by
  have kept : Record.Ordered s.withoutNulls := List.Pairwise.filter _ ordered
  apply Option.ext
  intro v
  rw [kept.get?_eq_some_iff, Option.filter_eq_some_iff, ordered.get?_eq_some_iff,
    Snapshot.withoutNulls, List.mem_filter]

/-- Nulls make no difference to an overview. -/
theorem overview_withoutNulls (ordered : Record.Ordered s) :
    s.withoutNulls.overview = s.overview := by
  refine eq_of_fields fun f mem => ?_
  rw [get_overview mem, get_overview mem, FieldKind.read?, FieldKind.read?]
  congr 1
  funext key
  rw [get?_withoutNulls ordered]
  cases Record.get? s key with
  | none => rfl
  | some v =>
    cases v with
    | null => exact (f.kind.ofValue?_null).symm
    | bool | whole | real | text | list | record => rfl

namespace Yahoo

variable {modules : Modules}

/-- **The nulls of a snapshot.** A snapshot of modules has no null but one for the next earnings,
and it has that just if the first scheduled earnings are null and no field gives others. The
overview that is made of it is the same with the null and without. -/
theorem nulls_are_scheduled_iff (modules : Modules) (ordered : KeyOrdered modules) :
    (∀ key, (key, .null) ∈ flatten modules ↔
      key = earningsKey ∧ Scheduled modules .null ∧ ∀ v, ¬ FirstLeaf modules earningsKey v) ∧
    (flatten modules).withoutNulls.overview = (flatten modules).overview := by
  refine ⟨fun key => ?_, overview_withoutNulls (ordered_flatten modules)⟩
  rw [← (ordered_flatten modules).get?_eq_some_iff, get?_flatten_eq_some_iff ordered]
  constructor
  · intro shown
    cases shown with
    | leaf first => exact (first.1 rfl).elim
    | scheduled bare scheduled => exact ⟨rfl, scheduled, bare⟩
  · rintro ⟨rfl, scheduled, bare⟩
    exact .scheduled bare scheduled

/-- Modules with a date for the next earnings that is not known yet. -/
def undated : Modules :=
  [("calendarEvents", .record [("earnings", .record [("earningsDate",
    .list [.record [("fmt", .null), ("raw", .null)]])])])]

theorem keyOrdered_undated : KeyOrdered undated := by
  have date : (Value.record [("fmt", .null), ("raw", .null)]).InKeyOrder :=
    .record (by decide) (by simp [Value.InKeyOrder.null])
  have dates : (Value.list [.record [("fmt", .null), ("raw", .null)]]).InKeyOrder :=
    .list (by simp [date])
  have earnings : (Value.record [("earningsDate",
      .list [.record [("fmt", .null), ("raw", .null)]])]).InKeyOrder :=
    .record (by decide) (by simp [dates])
  refine .record (by decide) ?_
  rw [undated, List.forall_mem_singleton]
  exact .record (by decide) (by simp [earnings])

theorem flatten_undated : flatten undated = [(earningsKey, .null)] := rfl

theorem nulls_are_scheduled_iff_undated :
    KeyOrdered undated ∧ Scheduled undated .null ∧ (∀ v, ¬ FirstLeaf undated earningsKey v) ∧
      (flatten undated).withoutNulls = [] ∧
      (flatten undated).withoutNulls.overview = (flatten undated).overview := by
  obtain ⟨nulls, overview⟩ := nulls_are_scheduled_iff undated keyOrdered_undated
  have shown : (earningsKey, .null) ∈ flatten undated := by simp [flatten_undated]
  obtain ⟨-, scheduled, bare⟩ := (nulls earningsKey).1 shown
  exact ⟨keyOrdered_undated, scheduled, bare, rfl, overview⟩

/-- A snapshot may hold a null, although nulls count as absent. -/
theorem scheduled_null_is_set :
    ¬ ∀ modules, KeyOrdered modules → ∀ key, (key, Value.null) ∉ flatten modules := by
  intro absent
  exact absent undated keyOrdered_undated earningsKey (by simp [flatten_undated])

end Yahoo

end MarketDesk
