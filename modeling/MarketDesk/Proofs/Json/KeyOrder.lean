import MarketDesk.Json.Raw

/-!
# Records in key order

What setting a member does to a record in key order, and which values hold no other records. A
document is read as such a value, whatever the order of its members: `inKeyOrder_of_value?`.
-/

namespace MarketDesk.Json

variable {α : Type}

/-! ## Records -/

namespace Record

variable {r : Record α} {key k : String} {value v : α}

instance (r : Record α) : Decidable (Ordered r) :=
  inferInstanceAs (Decidable (r.Pairwise fun a b => a.1 < b.1))

@[simp] theorem get?_nil (key : String) : get? ([] : Record α) key = none := rfl

theorem get?_cons (m : String × α) (r : Record α) (key : String) :
    get? (m :: r) key = if m.1 = key then some m.2 else get? r key := by
  rw [get?, List.find?_cons]
  by_cases same : m.1 = key
  · simp [same]
  · rw [beq_false_of_ne same, if_neg same]
    rfl

/-- A member that was set is found under its key, and the others are found as before. -/
theorem get?_insert (key : String) (value : α) (r : Record α) (k : String) :
    get? (insert key value r) k = if key = k then some value else get? r k := by
  induction r with
  | nil => simp [insert, get?_cons]
  | cons m r ih =>
    rw [insert]
    split
    · rw [get?_cons]
    split
    next same =>
      rw [get?_cons, get?_cons, ← same]
      by_cases here : key = k <;> simp [here]
    next other =>
      rw [get?_cons, get?_cons, ih]
      by_cases here : m.1 = k
      · have there : key ≠ k := fun same => other (same.trans here.symm)
        simp [here, there]
      · simp [here]

theorem mem_of_mem_insert {m : String × α} (mem : m ∈ insert key value r) :
    m = (key, value) ∨ m ∈ r := by
  induction r with
  | nil => simpa [insert] using mem
  | cons x r ih =>
    rw [insert] at mem
    split at mem
    · simpa using mem
    split at mem
    · rcases List.mem_cons.1 mem with here | later
      · exact .inl here
      · exact .inr (List.mem_cons_of_mem _ later)
    · rcases List.mem_cons.1 mem with here | later
      · exact .inr (here ▸ List.mem_cons_self)
      · exact (ih later).imp_right (List.mem_cons_of_mem _)

theorem ordered_nil : Ordered ([] : Record α) := List.Pairwise.nil

/-- Setting a member keeps the order. -/
theorem Ordered.insert (ordered : Ordered r) (key : String) (value : α) :
    Ordered (insert key value r) := by
  induction r with
  | nil => exact List.pairwise_singleton _ _
  | cons m r ih =>
    obtain ⟨below, rest⟩ := List.pairwise_cons.1 ordered
    rw [Record.insert]
    split
    next before =>
      refine List.pairwise_cons.2 ⟨fun x mem => ?_, ordered⟩
      rcases List.mem_cons.1 mem with rfl | mem
      · exact before
      · exact String.lt_trans before (below x mem)
    split
    next same =>
      refine List.pairwise_cons.2 ⟨fun x mem => ?_, rest⟩
      have later := below x mem
      rwa [← same] at later
    next notBefore other =>
      have after : m.1 < key := by grind
      refine List.pairwise_cons.2 ⟨fun x mem => ?_, ih rest⟩
      rcases mem_of_mem_insert mem with rfl | mem
      · exact after
      · exact below x mem

/-- In key order a key has one member. -/
theorem Ordered.get?_eq_some_iff (ordered : Ordered r) : get? r k = some v ↔ (k, v) ∈ r := by
  induction r with
  | nil => simp
  | cons m r ih =>
    obtain ⟨below, rest⟩ := List.pairwise_cons.1 ordered
    obtain ⟨key, value⟩ := m
    rw [get?_cons, List.mem_cons]
    by_cases here : key = k
    · subst here
      have unlisted : (key, v) ∉ r := fun mem => String.lt_irrefl key (below _ mem)
      simp [unlisted, eq_comm]
    · have other : k ≠ key := fun same => here same.symm
      simp [here, other, ih rest]

theorem ordered_foldl_insert (pairs : List (String × α)) (ordered : Ordered r) :
    Ordered (pairs.foldl (fun r m => r.insert m.1 m.2) r) := by
  induction pairs generalizing r with
  | nil => exact ordered
  | cons m pairs ih => exact ih (ordered.insert m.1 m.2)

theorem ordered_ofPairs (pairs : List (String × α)) : Ordered (ofPairs pairs) :=
  ordered_foldl_insert pairs ordered_nil

/-- The members of a record that was put together are among those given. -/
theorem mem_of_mem_foldl_insert (pairs : List (String × α)) {r : Record α} {m : String × α}
    (mem : m ∈ pairs.foldl (fun r m => r.insert m.1 m.2) r) : m ∈ r ∨ m ∈ pairs := by
  induction pairs generalizing r with
  | nil => exact .inl mem
  | cons x pairs ih =>
    rcases ih mem with before | later
    · rcases mem_of_mem_insert before with rfl | before
      · exact .inr List.mem_cons_self
      · exact .inl before
    · exact .inr (List.mem_cons_of_mem x later)

theorem mem_of_mem_ofPairs {pairs : List (String × α)} {m : String × α} (mem : m ∈ ofPairs pairs) :
    m ∈ pairs := by
  rcases mem_of_mem_foldl_insert pairs mem with none | mem
  · cases none
  · exact mem

/-- A member with a key beyond all others stands last. -/
theorem insert_of_forall_lt (beyond : ∀ m ∈ r, m.1 < key) :
    insert key value r = r ++ [(key, value)] := by
  induction r with
  | nil => rfl
  | cons m r ih =>
    obtain ⟨here, later⟩ := List.forall_mem_cons.1 beyond
    rw [insert, if_neg (String.lt_asymm here), if_neg, ih later]
    · rfl
    · rintro rfl
      exact String.lt_irrefl m.1 here

end Record

/-! ## Values -/

/-- Every record inside the value, at any depth, is in key order. -/
inductive Value.InKeyOrder : Value → Prop where
  | null : InKeyOrder .null
  | bool (b : Bool) : InKeyOrder (.bool b)
  | whole (n : Int) : InKeyOrder (.whole n)
  | real (x : Float) : InKeyOrder (.real x)
  | text (s : String) : InKeyOrder (.text s)
  | list {items : List Value} : (∀ v ∈ items, InKeyOrder v) → InKeyOrder (.list items)
  | record {members : Record Value} : Record.Ordered members →
      (∀ m ∈ members, InKeyOrder m.2) → InKeyOrder (.record members)

/-- What a list is read as element by element comes from its elements. -/
theorem exists_of_mem_mapM {β : Type} {read : α → Option β} {xs : List α} {ys : List β}
    (h : xs.mapM read = some ys) {y : β} (mem : y ∈ ys) : ∃ x ∈ xs, read x = some y := by
  induction xs generalizing ys with
  | nil =>
    cases h
    cases mem
  | cons x xs ih =>
    rw [List.mapM_cons] at h
    simp only [Option.bind_eq_bind, Option.pure_def, Option.bind_eq_some_iff,
      Option.some.injEq] at h
    obtain ⟨z, here, zs, later, rfl⟩ := h
    rcases List.mem_cons.1 mem with rfl | mem
    · exact ⟨x, List.mem_cons_self, here⟩
    · obtain ⟨x', mem', read'⟩ := ih later mem
      exact ⟨x', List.mem_cons_of_mem x mem', read'⟩

/-- A number is read as no container. -/
theorem inKeyOrder_of_valueOfNumeral? {n : Decimal.Numeral} {v : Value}
    (h : valueOfNumeral? n = some v) : v.InKeyOrder := by
  have real : ∀ v, n.toFloat?.map Value.real = some v → v.InKeyOrder := by
    intro v h
    obtain ⟨x, -, rfl⟩ := Option.map_eq_some_iff.1 h
    exact .real x
  rw [valueOfNumeral?] at h
  split at h
  · split at h
    · cases h
      exact .whole _
    · exact real v h
  · exact real v h

namespace Raw

/-- Members that are read one by one are put in key order. -/
theorem members_inKeyOrder (read : Raw → Option Value)
    (one : ∀ r v, read r = some v → v.InKeyOrder) {members : List (List Piece × Raw)}
    {pairs : List (String × Value)}
    (h : (members.mapM fun (key, r) => do pure (← stringOf? key, ← read r)) = some pairs) :
    (Value.record (Record.ofPairs pairs)).InKeyOrder := by
  refine .record (Record.ordered_ofPairs pairs) fun m mem => ?_
  obtain ⟨⟨key, r⟩, -, found⟩ := exists_of_mem_mapM h (Record.mem_of_mem_ofPairs mem)
  simp only [Option.bind_eq_bind, Option.pure_def, Option.bind_eq_some_iff,
    Option.some.injEq] at found
  obtain ⟨s, -, v, here, rfl⟩ := found
  exact one r v here

/-- A document is read as a value in key order. -/
theorem inKeyOrder_of_value? (room : Nat) {r : Raw} {v : Value} (h : value? room r = some v) :
    v.InKeyOrder := by
  induction room generalizing r v with
  | zero =>
    cases r with
    | null => cases h; exact .null
    | bool b => cases h; exact .bool b
    | number n => exact inKeyOrder_of_valueOfNumeral? h
    | text pieces =>
      obtain ⟨s, -, rfl⟩ := Option.map_eq_some_iff.1 h
      exact .text s
    | list items => cases h
    | record members => cases h
  | succ room ih =>
    cases r with
    | null => cases h; exact .null
    | bool b => cases h; exact .bool b
    | number n => exact inKeyOrder_of_valueOfNumeral? h
    | text pieces =>
      obtain ⟨s, -, rfl⟩ := Option.map_eq_some_iff.1 h
      exact .text s
    | list items =>
      obtain ⟨values, found, rfl⟩ := Option.map_eq_some_iff.1 h
      refine .list fun v mem => ?_
      obtain ⟨r, -, here⟩ := exists_of_mem_mapM found mem
      exact ih here
    | record members =>
      obtain ⟨pairs, found, made⟩ := Option.bind_eq_some_iff.1 h
      cases made
      exact members_inKeyOrder (value? room) (fun _ _ => ih) found

end Raw

end MarketDesk.Json
