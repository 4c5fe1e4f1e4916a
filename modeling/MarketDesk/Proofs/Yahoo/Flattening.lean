import MarketDesk.Proofs.Json.KeyOrder
import MarketDesk.Proofs.Text.Numerals
import MarketDesk.Yahoo.Summary

/-!
# The fields of a summary

The snapshot of some modules, by first leaves. `Leaf` says which values stand for which keys, and
on which path of keys each of them is met; paths in lexicographic order are the order of a walk
that goes depth first, through the members of each record by key. A key has the first of its
leaves that is not null, and nothing else is in the snapshot but scheduled earnings:
`snapshot_of_first_leaves`.

`Lists` ties a list of leaves to what is met, in the order of paths. It is closed under going
through the members of a record, so the walk is followed as it goes.
-/

namespace MarketDesk.Yahoo

open MarketDesk.Json

/-! ## Leaves -/

/-- A member with a key and a value contributes a leaf, which is met on a path: the keys from that of
the member on. -/
inductive Contributes : String → Value → List String → String → Value → Prop where
  /-- An object with a raw value stands for it, whatever else is in it. -/
  | wrapped {key : String} {inner : Record Value} {v : Value} : ("raw", v) ∈ inner →
      Contributes key (.record inner) [key] key v
  /-- Any other object contributes what its members contribute. -/
  | nested {key name leafKey : String} {inner : Record Value} {value v : Value}
      {path : List String} : (∀ w, ("raw", w) ∉ inner) → (name, value) ∈ inner →
      Contributes name value path leafKey v →
      Contributes key (.record inner) (key :: path) leafKey v
  /-- A value that holds no other values stands for itself. -/
  | plain {key : String} {v : Value} : (∀ members, v ≠ .record members) →
      (∀ items, v ≠ .list items) → Contributes key v [key] key v

/-- A leaf of modules, met on a path that begins with the name of its module. -/
inductive Leaf (modules : Modules) : List String → String → Value → Prop where
  | intro {name key leafKey : String} {fields : Record Value} {value v : Value}
      {path : List String} : (name, .record fields) ∈ modules → (key, value) ∈ fields →
      Contributes key value path leafKey v → Leaf modules (name :: path) leafKey v

/-- The first leaf for a key that is not null. -/
def FirstLeaf (modules : Modules) (key : String) (v : Value) : Prop :=
  v ≠ .null ∧ ∃ path, Leaf modules path key v ∧
    ∀ path' w, path' < path → Leaf modules path' key w → w = .null

/-- A path of keys and of positions in lists leads from a value to a value. -/
inductive Leads : Value → List String → Value → Prop where
  | here (v : Value) : Leads v [] v
  | member {members : Record Value} {key : String} {w v : Value} {path : List String} :
      (key, w) ∈ members → Leads w path v → Leads (.record members) (key :: path) v
  | item {items : List Value} {index : Nat} {w v : Value} {path : List String} :
      items[index]? = some w → Leads w path v →
      Leads (.list items) (String.ofList (Text.natChars index) :: path) v

/-- The value is the first of the earnings dates that the calendar events list. -/
def Scheduled (modules : Modules) (v : Value) : Prop :=
  ∃ events, ("calendarEvents", events) ∈ modules ∧
    Leads events ["earnings", "earningsDate", "0", "raw"] v

/-- Every record inside the modules is in key order, and so are the modules. -/
def KeyOrdered (modules : Modules) : Prop := (Value.record modules).InKeyOrder

/-! ## Lists of leaves -/

/-- The list has what the relation places, in the order of the paths. -/
def Lists (l : List (String × Value)) (R : List String → String → Value → Prop) : Prop :=
  ∃ placed : List (List String × String × Value), placed.map Prod.snd = l ∧
    placed.Pairwise (fun a b => a.1 < b.1) ∧ ∀ path key v, (path, key, v) ∈ placed ↔ R path key v

namespace Lists

variable {l l' : List (String × Value)} {R R' : List String → String → Value → Prop}

theorem congr (h : Lists l R) (same : ∀ path key v, R path key v ↔ R' path key v) :
    Lists l R' := by
  obtain ⟨placed, rfl, sorted, mem⟩ := h
  exact ⟨placed, rfl, sorted, fun path key v => (mem path key v).trans (same path key v)⟩

theorem none (empty : ∀ path key v, ¬ R path key v) : Lists [] R :=
  ⟨[], rfl, .nil, fun path key v => by simp [empty]⟩

theorem single (path : List String) {key : String} {v : Value}
    (only : ∀ path' key' v', R path' key' v' ↔ path' = path ∧ key' = key ∧ v' = v) :
    Lists [(key, v)] R :=
  ⟨[(path, key, v)], rfl, List.pairwise_singleton _ _, fun path' key' v' => by simp [only]⟩

theorem append (h : Lists l R) (h' : Lists l' R')
    (before : ∀ path key v path' key' v', R path key v → R' path' key' v' → path < path') :
    Lists (l ++ l') fun path key v => R path key v ∨ R' path key v := by
  obtain ⟨placed, rfl, sorted, mem⟩ := h
  obtain ⟨placed', rfl, sorted', mem'⟩ := h'
  refine ⟨placed ++ placed', List.map_append, ?_, fun path key v => ?_⟩
  · refine List.pairwise_append.2 ⟨sorted, sorted', ?_⟩
    rintro ⟨path, key, v⟩ here ⟨path', key', v'⟩ there
    exact before _ _ _ _ _ _ ((mem _ _ _).1 here) ((mem' _ _ _).1 there)
  · rw [List.mem_append, mem, mem']

/-- What lies behind a key is met on paths that begin with it. -/
theorem behind (h : Lists l R) (key : String) :
    Lists l fun path k v => ∃ rest, path = key :: rest ∧ R rest k v := by
  obtain ⟨placed, rfl, sorted, mem⟩ := h
  refine ⟨placed.map fun a => (key :: a.1, a.2), ?_, ?_, fun path k v => ?_⟩
  · rw [List.map_map]
    rfl
  · rw [List.pairwise_map]
    exact sorted.imp fun less => List.cons_lt_cons_iff.2 (.inr ⟨rfl, less⟩)
  · rw [List.mem_map]
    constructor
    · rintro ⟨⟨rest, k, v⟩, here, ⟨⟩⟩
      exact ⟨rest, rfl, (mem _ _ _).1 here⟩
    · rintro ⟨rest, rfl, placed⟩
      exact ⟨(rest, k, v), (mem _ _ _).2 placed, rfl⟩

/-- The members of a record in key order, one after the other, give the leaves in order. -/
theorem flatMap {r : Record Value} (ordered : Record.Ordered r)
    {leaves : String × Value → List (String × Value)}
    {S : String × Value → List String → String → Value → Prop}
    (one : ∀ m ∈ r, Lists (leaves m) (S m))
    (begins : ∀ m path key v, S m path key v → ∃ rest, path = m.1 :: rest) :
    Lists (r.flatMap leaves) fun path key v => ∃ m ∈ r, S m path key v := by
  induction r with
  | nil => exact none (by simp)
  | cons m r ih =>
    obtain ⟨below, rest⟩ := List.pairwise_cons.1 ordered
    obtain ⟨here, later⟩ := List.forall_mem_cons.1 one
    rw [List.flatMap_cons]
    refine (here.append (ih rest later) ?_).congr fun path key v => ?_
    · rintro path key v path' key' v' first ⟨m', mem, second⟩
      obtain ⟨way, rfl⟩ := begins m path key v first
      obtain ⟨way', rfl⟩ := begins m' path' key' v' second
      exact List.cons_lt_cons_iff.2 (.inl (below m' mem))
    · simp

/-- The first of the listed leaves with a property has the least path. -/
theorem find?_eq_some_iff (h : Lists l R) {P : String × Value → Bool} {key : String} {v : Value} :
    l.find? P = some (key, v) ↔ P (key, v) = true ∧ ∃ path, R path key v ∧
      ∀ path' key' v', path' < path → R path' key' v' → P (key', v') = false := by
  obtain ⟨placed, rfl, sorted, mem⟩ := h
  rw [List.find?_map, Option.map_eq_some_iff]
  constructor
  · rintro ⟨⟨path, key, v⟩, found, ⟨⟩⟩
    obtain ⟨good, earlier, later, rfl, passed⟩ := List.find?_eq_some_iff_append.1 found
    refine ⟨good, path, (mem _ _ _).1 (by simp), fun path' key' v' less placed => ?_⟩
    obtain ⟨-, after, -⟩ := List.pairwise_append.1 sorted
    rcases List.mem_append.1 ((mem _ _ _).2 placed) with before | others
    · simpa using passed _ before
    · rcases List.mem_cons.1 others with same | beyond
      · cases same
        exact (List.lt_irrefl _ less).elim
      · have greater := (List.pairwise_cons.1 after).1 _ beyond
        exact (List.lt_asymm less greater).elim
  · rintro ⟨good, path, placed', least⟩
    obtain ⟨earlier, later, rfl⟩ := List.append_of_mem ((mem _ _ _).2 placed')
    refine ⟨(path, key, v), List.find?_eq_some_iff_append.2 ⟨good, earlier, later, rfl, ?_⟩, rfl⟩
    rintro ⟨path', key', v'⟩ before
    have less : path' < path :=
      (List.pairwise_append.1 sorted).2.2 _ before _ List.mem_cons_self
    have bad := least path' key' v' less ((mem _ _ _).1 (by simp [before]))
    simpa using bad

end Lists

/-! ## The walk -/

variable {key : String} {v w : Value} {path : List String}

theorem leaves_eq_flatMap (fields : List (String × Value)) :
    leaves fields = fields.flatMap fun m => memberLeaves m.1 m.2 := by
  induction fields with
  | nil => rfl
  | cons m fields ih =>
    rw [leaves, List.flatMap_cons, ih]

theorem Contributes.exists_rest {leafKey : String} (h : Contributes key v path leafKey w) :
    ∃ rest, path = key :: rest := by
  cases h with
  | wrapped => exact ⟨_, rfl⟩
  | nested => exact ⟨_, rfl⟩
  | plain => exact ⟨_, rfl⟩

theorem lists_of_plain (noRecord : ∀ members, v ≠ .record members)
    (noList : ∀ items, v ≠ .list items) : Lists [(key, v)] (Contributes key v) := by
  refine .single [key] fun path' key' v' => ⟨fun met => ?_, ?_⟩
  · cases met with
    | wrapped => exact (noRecord _ rfl).elim
    | nested => exact (noRecord _ rfl).elim
    | plain => exact ⟨rfl, rfl, rfl⟩
  · rintro ⟨rfl, rfl, rfl⟩
    exact .plain noRecord noList

/-- The leaves of a member are met in the order in which they are listed. -/
theorem lists_memberLeaves (ordered : v.InKeyOrder) (key : String) :
    Lists (memberLeaves key v) (Contributes key v) := by
  induction ordered generalizing key with
  | null => exact lists_of_plain nofun nofun
  | bool b => exact lists_of_plain nofun nofun
  | whole n => exact lists_of_plain nofun nofun
  | real x => exact lists_of_plain nofun nofun
  | text s => exact lists_of_plain nofun nofun
  | @list items each ih =>
    refine .none fun path leafKey w met => ?_
    cases met with
    | plain _ noList => exact noList items rfl
  | @record inner sorted each ih =>
    rw [memberLeaves]
    cases raw : Record.get? inner "raw" with
    | some r =>
      refine .single [key] fun path' key' v' => ⟨fun met => ?_, ?_⟩
      · cases met with
        | wrapped mem =>
          have same := sorted.get?_eq_some_iff.2 mem
          exact ⟨rfl, rfl, Option.some.inj (same.symm.trans raw)⟩
        | nested bare => exact (bare r (sorted.get?_eq_some_iff.1 raw)).elim
        | plain noRecord => exact (noRecord inner rfl).elim
      · rintro ⟨rfl, rfl, rfl⟩
        exact .wrapped (sorted.get?_eq_some_iff.1 raw)
    | none =>
      have bare : ∀ w, ("raw", w) ∉ inner := by
        intro w mem
        rw [sorted.get?_eq_some_iff.2 mem] at raw
        cases raw
      have inside : Lists (leaves inner)
          fun path k v => ∃ m ∈ inner, Contributes m.1 m.2 path k v := by
        rw [leaves_eq_flatMap]
        exact .flatMap sorted (fun m mem => ih m mem m.1) fun m path k v met => met.exists_rest
      refine (inside.behind key).congr fun path leafKey w => ⟨?_, fun met => ?_⟩
      · rintro ⟨rest, rfl, ⟨name, value⟩, mem, met⟩
        exact .nested bare mem met
      · cases met with
        | wrapped mem => exact (bare w mem).elim
        | nested _ mem met => exact ⟨_, rfl, _, mem, met⟩
        | plain noRecord => exact (noRecord inner rfl).elim

/-- The leaves of modules are met in the order in which they are listed. -/
theorem lists_moduleLeaves {modules : Modules} (ordered : KeyOrdered modules) :
    Lists (modules.flatMap fun m => moduleLeaves m.2) (Leaf modules) := by
  obtain ⟨sorted, each⟩ : Record.Ordered modules ∧ ∀ m ∈ modules, m.2.InKeyOrder := by
    cases ordered with
    | record sorted each => exact ⟨sorted, each⟩
  have one : ∀ m ∈ modules, Lists (moduleLeaves m.2) fun path key v => ∃ rest, path = m.1 :: rest ∧
      ∃ fields, m.2 = .record fields ∧ ∃ x ∈ fields, Contributes x.1 x.2 rest key v := by
    intro m mem
    refine Lists.behind ?_ m.1
    cases here : m.2 with
    | record fields =>
      have inOrder := each m mem
      rw [here] at inOrder
      cases inOrder with
      | record sorted' each' =>
        rw [moduleLeaves, leaves_eq_flatMap]
        have inside : Lists (fields.flatMap fun x => memberLeaves x.1 x.2)
            fun path key v => ∃ x ∈ fields, Contributes x.1 x.2 path key v :=
          .flatMap sorted' (fun x mem => lists_memberLeaves (each' x mem) x.1)
            fun x path key v met => met.exists_rest
        exact inside.congr fun path key v => by simp
    | _ => exact .none (by simp)
  refine (Lists.flatMap sorted one ?_).congr fun path key v => ⟨?_, ?_⟩
  · rintro m path key v ⟨rest, rfl, -⟩
    exact ⟨rest, rfl⟩
  · rintro ⟨⟨name, module⟩, mem, rest, rfl, fields, rfl, ⟨key', value⟩, member, met⟩
    exact .intro mem member met
  · rintro ⟨mem, member, met⟩
    exact ⟨_, mem, _, rfl, _, rfl, _, member, met⟩

/-! ## Gathering -/

theorem isNull_iff : v.isNull = true ↔ v = .null := by
  cases v <;> simp [Value.isNull]

theorem get?_addNew (s : Snapshot) (field : String × Value) (key : String) :
    Record.get? (addNew s field) key =
      (Record.get? s key).or (if field.1 = key then some field.2 else none) := by
  rw [addNew, Record.has]
  by_cases same : field.1 = key
  · subst same
    cases there : Record.get? s field.1 with
    | some v => simp [there]
    | none => simp [Record.get?_insert]
  · split <;> simp [Record.get?_insert, same]

/-- A key keeps the value that it has, or gets the first of those that are added. -/
theorem get?_foldl_addNew (fields : List (String × Value)) (s : Snapshot) (key : String) :
    Record.get? (fields.foldl addNew s) key = (Record.get? s key).or (Record.get? fields key) := by
  induction fields generalizing s with
  | nil => simp
  | cons field fields ih =>
    rw [List.foldl_cons, ih, get?_addNew, Record.get?_cons, Option.or_assoc]
    split <;> simp

theorem ordered_foldl_addNew (fields : List (String × Value)) {s : Snapshot}
    (ordered : Record.Ordered s) : Record.Ordered (fields.foldl addNew s) := by
  induction fields generalizing s with
  | nil => exact ordered
  | cons field fields ih =>
    refine ih ?_
    rw [addNew]
    split
    · exact ordered
    · exact ordered.insert _ _

theorem get?_gather (fields : List (String × Value)) (key : String) :
    Record.get? (gather fields) key =
      (fields.find? fun f => !f.2.isNull && f.1 == key).map Prod.snd := by
  rw [gather, get?_foldl_addNew, Record.get?_nil, Option.none_or, Record.get?, List.find?_filter]
  congr 2
  funext f
  cases f.2.isNull <;> cases f.1 == key <;> rfl

/-- The snapshot of the leaves has for each key its first leaf that is not null. -/
theorem get?_gather_eq_some_iff {modules : Modules} (ordered : KeyOrdered modules) :
    Record.get? (gather (modules.flatMap fun m => moduleLeaves m.2)) key = some v ↔
      FirstLeaf modules key v := by
  have found : ∀ k, (modules.flatMap fun m => moduleLeaves m.2).find?
      (fun f => !f.2.isNull && f.1 == key) = some (k, v) ↔ k = key ∧ FirstLeaf modules key v := by
    intro k
    rw [(lists_moduleLeaves ordered).find?_eq_some_iff]
    simp only [Bool.and_eq_true, Bool.not_eq_true', beq_iff_eq, Bool.and_eq_false_iff,
      Bool.not_eq_false', isNull_iff, beq_eq_false_iff_ne]
    constructor
    · rintro ⟨⟨full, rfl⟩, path, met, least⟩
      refine ⟨rfl, fun null => by simp [null, Value.isNull] at full, path, met, ?_⟩
      intro path' w less met'
      exact (least path' k w less met').resolve_right fun other => other rfl
    · rintro ⟨rfl, full, path, met, least⟩
      refine ⟨⟨?_, rfl⟩, path, met, ?_⟩
      · exact Bool.eq_false_iff.2 fun null => full (isNull_iff.1 null)
      · intro path' key' w less met'
        by_cases same : key' = k
        · subst same
          exact .inl (least path' w less met')
        · exact .inr same
  rw [get?_gather, Option.map_eq_some_iff]
  constructor
  · rintro ⟨⟨k, w⟩, first, rfl⟩
    exact ((found k).1 first).2
  · intro first
    exact ⟨(key, v), (found key).2 ⟨rfl, first⟩, rfl⟩

/-! ## Scheduled earnings -/

theorem leads_nil_iff : Leads v [] w ↔ w = v := by
  constructor
  · rintro ⟨⟩
    rfl
  · rintro rfl
    exact .here w

/-- The key is read as a position in a list only if it is written as that position. -/
def Positional (key : String) : Prop :=
  ∀ n, Text.nat? key.toList = some n → key.toList = Text.natChars n

theorem positional_of_nat?_eq_none (none : Text.nat? key.toList = none) : Positional key := by
  intro n read
  rw [none] at read
  cases read

/-- The way down a path is found exactly where the path leads. -/
theorem descend_eq_some_iff (ordered : v.InKeyOrder) (written : ∀ key ∈ path, Positional key) :
    descend path v = some w ↔ Leads v path w := by
  induction path generalizing v with
  | nil =>
    rw [leads_nil_iff, descend, Option.some.injEq, eq_comm]
  | cons key path ih =>
    obtain ⟨position, later⟩ := List.forall_mem_cons.1 written
    cases ordered with
    | @record members sorted each =>
      rw [descend, Option.bind_eq_some_iff]
      constructor
      · rintro ⟨u, found, rest⟩
        have mem := sorted.get?_eq_some_iff.1 found
        exact .member mem ((ih (each _ mem) later).1 rest)
      · intro leads
        cases leads with
        | @member _ _ u _ _ mem rest =>
          exact ⟨u, sorted.get?_eq_some_iff.2 mem, (ih (each _ mem) later).2 rest⟩
    | @list items each =>
      rw [descend]
      simp only [Option.bind_eq_some_iff]
      constructor
      · rintro ⟨u, ⟨n, read, found⟩, rest⟩
        have same : key = String.ofList (Text.natChars n) := by
          rw [← position n read, String.ofList_toList]
        subst same
        exact .item found ((ih (each u (List.mem_of_getElem? found)) later).1 rest)
      · intro leads
        cases leads with
        | @item _ index u _ _ found rest =>
          refine ⟨u, ⟨index, ?_, found⟩, (ih (each u (List.mem_of_getElem? found)) later).2 rest⟩
          rw [String.toList_ofList, Text.nat?_natChars]
    | _ =>
      constructor
      · intro none
        cases none
      · intro leads
        cases leads

/-- The keys on the way to scheduled earnings; the one number among them is zero. -/
theorem positional_of_mem (mem : key ∈ ["earnings", "earningsDate", "0", "raw"]) :
    Positional key := by
  simp only [List.mem_cons, List.not_mem_nil, or_false] at mem
  rcases mem with rfl | rfl | rfl | rfl
  · exact positional_of_nat?_eq_none (by decide)
  · exact positional_of_nat?_eq_none (by decide)
  · intro n read
    have zero : Text.nat? "0".toList = some 0 := by decide
    obtain rfl : 0 = n := Option.some.inj (zero.symm.trans read)
    rfl
  · exact positional_of_nat?_eq_none (by decide)

/-- Scheduled earnings are found exactly where they are listed. -/
theorem scheduledEarnings?_eq_some_iff {modules : Modules} (ordered : KeyOrdered modules) :
    scheduledEarnings? modules = some v ↔ Scheduled modules v := by
  cases ordered with
  | record sorted each =>
    rw [scheduledEarnings?, Option.bind_eq_some_iff]
    refine exists_congr fun events => ?_
    rw [sorted.get?_eq_some_iff]
    refine and_congr_right fun mem => ?_
    exact descend_eq_some_iff (each _ mem) fun key => positional_of_mem

/-! ## Snapshots -/

/-- What the snapshot of modules has: first leaves, and scheduled earnings where no leaf gives any. -/
inductive Shows (modules : Modules) : String → Value → Prop where
  | leaf {key : String} {v : Value} : FirstLeaf modules key v → Shows modules key v
  | scheduled {v : Value} : (∀ w, ¬ FirstLeaf modules earningsKey w) → Scheduled modules v →
      Shows modules earningsKey v

theorem ordered_flatten (modules : Modules) : Record.Ordered (flatten modules) := by
  have gathered : Record.Ordered (gather (modules.flatMap fun m => moduleLeaves m.2)) :=
    ordered_foldl_addNew _ Record.ordered_nil
  rw [flatten]
  split
  · exact gathered
  · split
    · exact gathered.insert _ _
    · exact gathered

/-- A key that no leaf gives may still be that of scheduled earnings. -/
theorem get?_flatten (modules : Modules) (key : String) :
    Record.get? (flatten modules) key =
      (Record.get? (gather (modules.flatMap fun m => moduleLeaves m.2)) key).or
        (if earningsKey = key then scheduledEarnings? modules else none) := by
  rw [flatten]
  cases given : Record.get? (gather (modules.flatMap fun m => moduleLeaves m.2)) earningsKey with
  | some u =>
    rw [if_pos (by rw [Record.has, given, Option.isSome_some])]
    by_cases same : earningsKey = key
    · subst same
      rw [given, Option.some_or]
    · rw [if_neg same, Option.or_none]
  | none =>
    rw [if_neg (by simp [Record.has, given])]
    cases scheduledEarnings? modules with
    | none => simp
    | some u =>
      rw [Record.get?_insert]
      by_cases same : earningsKey = key
      · subst same
        simp [given]
      · rw [if_neg same, if_neg same, Option.or_none]

theorem get?_flatten_eq_some_iff {modules : Modules} (ordered : KeyOrdered modules) :
    Record.get? (flatten modules) key = some v ↔ Shows modules key v := by
  have leaf : ∀ w, Record.get? (gather (modules.flatMap fun m => moduleLeaves m.2)) key = some w ↔
      FirstLeaf modules key w := fun w => get?_gather_eq_some_iff ordered
  rw [get?_flatten, Option.or_eq_some_iff, leaf, Option.eq_none_iff_forall_ne_some]
  constructor
  · rintro (first | ⟨bare, found⟩)
    · exact .leaf first
    · split at found
      next same =>
        subst same
        have scheduled := (scheduledEarnings?_eq_some_iff ordered).1 found
        exact .scheduled (fun w first => bare w ((leaf w).2 first)) scheduled
      next => cases found
  · intro shown
    cases shown with
    | leaf first => exact .inl first
    | scheduled bare scheduled =>
      refine .inr ⟨fun w given => bare w ((leaf w).1 given), ?_⟩
      rw [if_pos rfl]
      exact (scheduledEarnings?_eq_some_iff ordered).2 scheduled

/-! ## One more module -/

section
variable {modules : Modules} {name : String} {module : Value}

theorem KeyOrdered.insert (ordered : KeyOrdered modules) (name : String)
    (inside : module.InKeyOrder) : KeyOrdered (Record.insert name module modules) := by
  cases ordered with
  | record sorted each =>
    refine .record (sorted.insert name module) fun m mem => ?_
    rcases Record.mem_of_mem_insert mem with rfl | before
    · exact inside
    · exact each m before

/-- The leaves of a last module are met after all others. -/
theorem leaf_insert_iff (last : ∀ m ∈ modules, m.1 < name) :
    Leaf (Record.insert name module modules) path key v ↔
      Leaf modules path key v ∨ Leaf [(name, module)] path key v := by
  rw [Record.insert_of_forall_lt last]
  constructor
  · rintro ⟨mem, member, met⟩
    rcases List.mem_append.1 mem with before | here
    · exact .inl (.intro before member met)
    · exact .inr (.intro here member met)
  · rintro (⟨mem, member, met⟩ | ⟨mem, member, met⟩)
    · exact .intro (List.mem_append_left _ mem) member met
    · exact .intro (List.mem_append_right _ mem) member met

theorem FirstLeaf.insert (first : FirstLeaf modules key v) (last : ∀ m ∈ modules, m.1 < name) :
    FirstLeaf (Record.insert name module modules) key v := by
  obtain ⟨full, path, met, least⟩ := first
  refine ⟨full, path, (leaf_insert_iff last).2 (.inl met), fun path' w less met' => ?_⟩
  rcases (leaf_insert_iff last).1 met' with before | here
  · exact least path' w less before
  · -- The path begins with the new name, which stands behind that of the first leaf.
    obtain ⟨mem, -, -⟩ := met
    obtain ⟨mem', -, -⟩ := here
    cases List.mem_singleton.1 mem'
    exact (List.lt_asymm less (List.cons_lt_cons_iff.2 (.inl (last _ mem)))).elim

theorem Scheduled.insert (scheduled : Scheduled modules v) (last : ∀ m ∈ modules, m.1 < name) :
    Scheduled (Record.insert name module modules) v := by
  obtain ⟨events, mem, leads⟩ := scheduled
  rw [Record.insert_of_forall_lt last]
  exact ⟨events, List.mem_append_left _ mem, leads⟩

/-- A last module takes nothing away. Only scheduled earnings give way, to a leaf that it brings. -/
theorem Shows.insert (shown : Shows modules key v) (last : ∀ m ∈ modules, m.1 < name) :
    Shows (Record.insert name module modules) key v ∨
      key = earningsKey ∧ Scheduled modules v ∧ (∀ w, ¬ FirstLeaf modules key w) ∧
        ∃ w, FirstLeaf (Record.insert name module modules) key w := by
  cases shown with
  | leaf first => exact .inl (.leaf (first.insert last))
  | scheduled bare scheduled =>
    by_cases given : ∃ w, FirstLeaf (Record.insert name module modules) earningsKey w
    · exact .inr ⟨rfl, scheduled, bare, given⟩
    · exact .inl (.scheduled (not_exists.1 given) (scheduled.insert last))

end

theorem keyOrdered_of_map? {room : Nat} {r : Raw} {modules : Modules}
    (read : Raw.map? (Raw.value? room) r = some modules) : KeyOrdered modules := by
  cases r with
  | record members =>
    obtain ⟨pairs, found, made⟩ := Option.bind_eq_some_iff.1 read
    cases made
    exact Raw.members_inKeyOrder (Raw.value? room) (fun _ _ => Raw.inKeyOrder_of_value? room) found
  | _ => cases read

/-- The modules that a reply gives are in key order, however they were written. -/
theorem SummaryReply.keyOrdered {r : Raw} {reply : SummaryReply} {results : List Modules}
    {modules : Modules} (read : SummaryReply.ofJson? r = some reply)
    (given : reply.results = some results) (mem : modules ∈ results) : KeyOrdered modules := by
  simp only [SummaryReply.ofJson?, Members.required?, Option.bind_eq_bind, Option.pure_def,
    Option.bind_eq_some_iff, Option.some.injEq] at read
  obtain ⟨_, -, _, -, m, -, found, listed, _, -, rfl⟩ := read
  cases given
  rw [Members.optional?] at listed
  split at listed
  next r _ =>
    cases r with
    | list items =>
      have maps : items.mapM (Raw.map? (Raw.value? moduleRoom)) = some results := by
        simpa [Raw.orNull?, Raw.list?] using listed
      obtain ⟨r, -, here⟩ := exists_of_mem_mapM maps mem
      exact keyOrdered_of_map? here
    | _ => cases listed
  next => split at listed <;> simp at listed

/-- **Snapshots hold first leaves.** The snapshot of modules in key order has for each key its first
leaf that is not null, on the path that comes first, and beyond that only scheduled earnings, if no
leaf gives earnings. So a module that is added behind all others takes nothing away, but that its
earnings stand in for those that were only scheduled. -/
theorem snapshot_of_first_leaves (modules : Modules) (ordered : KeyOrdered modules) :
    Record.Ordered (flatten modules) ∧
    (∀ key v, (key, v) ∈ flatten modules ↔ Shows modules key v) ∧
    ∀ name module key v, module.InKeyOrder → (∀ m ∈ modules, m.1 < name) →
      (key, v) ∈ flatten modules →
      (key, v) ∈ flatten (Record.insert name module modules) ∨
        key = earningsKey ∧ Scheduled modules v ∧ (∀ w, ¬ FirstLeaf modules key w) ∧
          ∃ w, FirstLeaf (Record.insert name module modules) key w := by
  have shows : ∀ {modules : Modules}, KeyOrdered modules → ∀ key v,
      (key, v) ∈ flatten modules ↔ Shows modules key v := by
    intro modules ordered key v
    rw [← (ordered_flatten modules).get?_eq_some_iff, get?_flatten_eq_some_iff ordered]
  refine ⟨ordered_flatten modules, shows ordered, ?_⟩
  intro name module key v inside last there
  have shown := (shows ordered key v).1 there
  exact (shown.insert last).imp_left (shows (ordered.insert name inside) key v).2

/-- Modules that only schedule earnings. -/
def scheduling : Modules :=
  [("calendarEvents", .record [("earnings", .record [("earningsDate",
      .list [.record [("raw", .whole 5)]])])]),
    ("price", .record [("cap", .record [("fmt", .text "1k"), ("raw", .whole 1000)]),
      ("name", .null)])]

/-- A module that reports earnings. -/
def reporting : Value := .record [("cap", .whole 7), ("earningsTimestamp", .whole 6)]

theorem snapshot_of_first_leaves_reporting :
    KeyOrdered scheduling ∧ Shows scheduling earningsKey (.whole 5) ∧
      Shows scheduling "cap" (.whole 1000) ∧
      ("cap", .whole 1000) ∈ flatten (Record.insert "statistics" reporting scheduling) := by
  have date : (Value.record [("raw", .whole 5)]).InKeyOrder :=
    .record (by decide) (by simp [Value.InKeyOrder.whole])
  have dates : (Value.list [.record [("raw", .whole 5)]]).InKeyOrder := .list (by simp [date])
  have earnings : (Value.record [("earningsDate", .list [.record [("raw", .whole 5)]])]).InKeyOrder :=
    .record (by decide) (by simp [dates])
  have cap : (Value.record [("fmt", .text "1k"), ("raw", .whole 1000)]).InKeyOrder :=
    .record (by decide) (by simp [Value.InKeyOrder.whole, Value.InKeyOrder.text])
  have ordered : KeyOrdered scheduling := by
    refine .record (by decide) ?_
    rw [scheduling, List.forall_mem_cons, List.forall_mem_singleton]
    constructor
    · exact .record (by decide) (by simp [earnings])
    · exact .record (by decide) (by simp [cap, Value.InKeyOrder.null])
  have reported : reporting.InKeyOrder :=
    .record (by decide) (by simp [Value.InKeyOrder.whole])
  have snapshot : flatten scheduling = [("cap", .whole 1000), (earningsKey, .whole 5)] := rfl
  obtain ⟨-, shows, added⟩ := snapshot_of_first_leaves scheduling ordered
  refine ⟨ordered, (shows _ _).1 (by simp [snapshot]), (shows _ _).1 (by simp [snapshot]), ?_⟩
  have last : ∀ m ∈ scheduling, m.1 < "statistics" := by decide
  have kept := added "statistics" reporting "cap" (.whole 1000) reported last (by simp [snapshot])
  exact kept.resolve_right fun given => absurd given.1 (by decide)

end MarketDesk.Yahoo
