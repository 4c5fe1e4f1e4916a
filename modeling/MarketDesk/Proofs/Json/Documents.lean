import MarketDesk.Proofs.Json.Numbers
import MarketDesk.Proofs.Json.Strings
import MarketDesk.Proofs.Text.Utf8

/-!
# Written values are read back

Every value is written as a strict document, and what the reader finds in it is the value
(`Raw.Shows`): the same lists and members in the same order, the strings that were given, integers
digit by digit, and for a double the number that its numeral spells. A double without a numeral is
the one thing that is lost, and is found as `null`.
-/

namespace MarketDesk.Json

open MarketDesk.Text

variable {c : Char} {cs : List Char} {rest : Symbols} {fuel : Nat}

mutual

/-- A document holds a value as it is written. -/
inductive Raw.Shows : Raw → Value → Prop where
  | null : Raw.Shows .null .null
  | bool (b : Bool) : Raw.Shows (.bool b) (.bool b)
  | whole {n : Decimal.Numeral} {i : Int} : n.integer? = some i → Raw.Shows (.number n) (.whole i)
  | real {n : Decimal.Numeral} {x : Float} {cs : List Char} :
      Decimal.numeral? x = some cs → Spells cs n → Raw.Shows (.number n) (.real x)
  | unwritten {x : Float} : Decimal.numeral? x = none → Raw.Shows .null (.real x)
  | text {pieces : List Piece} {s : String} : stringOf? pieces = some s →
      Raw.Shows (.text pieces) (.text s)
  | list {items : List Raw} {values : List Value} : Raw.ItemsShow items values →
      Raw.Shows (.list items) (.list values)
  | record {members : List (List Piece × Raw)} {values : List (String × Value)} :
      Raw.MembersShow members values → Raw.Shows (.record members) (.record values)

/-- Items hold values one by one. -/
inductive Raw.ItemsShow : List Raw → List Value → Prop where
  | nil : Raw.ItemsShow [] []
  | cons {r : Raw} {v : Value} {items : List Raw} {values : List Value} :
      Raw.Shows r v → Raw.ItemsShow items values → Raw.ItemsShow (r :: items) (v :: values)

/-- Members hold named values one by one. -/
inductive Raw.MembersShow : List (List Piece × Raw) → List (String × Value) → Prop where
  | nil : Raw.MembersShow [] []
  | cons {key : List Piece} {k : String} {r : Raw} {v : Value}
      {members : List (List Piece × Raw)} {values : List (String × Value)} :
      stringOf? key = some k → Raw.Shows r v → Raw.MembersShow members values →
      Raw.MembersShow ((key, r) :: members) ((k, v) :: values)

end

/-! ## The first character -/

/-- The character may begin a scalar value. -/
def BeginsScalar (c : Char) : Prop := isDigit c = true ∨ c = '-' ∨ c = 'n' ∨ c = 't' ∨ c = 'f'

instance : Decidable (BeginsScalar c) := inferInstanceAs (Decidable (_ ∨ _))

instance : Decidable (GoesOn c) := inferInstanceAs (Decidable (_ ∨ _))

theorem BeginsScalar.ne {c' : Char} (begins : BeginsScalar c) (other : ¬ BeginsScalar c') :
    c ≠ c' := by
  rintro rfl
  exact other begins

theorem BeginsScalar.not_blank (begins : BeginsScalar c) : isJsonBlank (some c) = false := by
  have other : ∀ c', ¬ BeginsScalar c' → (some c == some c') = false := fun c' none => by
    simpa using begins.ne none
  simp only [isJsonBlank, other ' ' (by decide), other '\n' (by decide), other '\t' (by decide),
    other '\r' (by decide), Bool.or_self]

theorem skipBlank_cons (visible : isJsonBlank (some c) = false) :
    skipBlank (some c :: rest) = some c :: rest := by
  rw [skipBlank, List.dropWhile_cons, visible]
  rfl

/-- What does not begin with a quote or a bracket is a scalar. -/
theorem readValue?_scalar (begins : BeginsScalar c) (rest : Symbols) :
    readValue? (fuel + 1) (some c :: rest) = readScalar? (some c :: rest) := by
  rw [readValue?, skipBlank_cons begins.not_blank]
  split
  next same => exact (begins.ne (by decide) (Option.some.inj (List.cons.inj same).1)).elim
  next same => exact (begins.ne (by decide) (Option.some.inj (List.cons.inj same).1)).elim
  next same => exact (begins.ne (by decide) (Option.some.inj (List.cons.inj same).1)).elim
  next => rfl

theorem Spells.beginsScalar {n : Decimal.Numeral} (spelled : Spells cs n) :
    ∃ c more, cs = c :: more ∧ BeginsScalar c := by
  obtain ⟨c, more, same, first⟩ := spelled.exists_cons
  exact ⟨c, more, same, first.imp_right .inl⟩

/-- A number is read as far as it goes. -/
theorem readValue?_spelled {n : Decimal.Numeral} (spelled : Spells cs n) (ends : Ends rest) :
    readValue? (fuel + 1) (cs.map some ++ rest) = some (.number n, rest) := by
  obtain ⟨c, more, rfl, begins⟩ := spelled.beginsScalar
  have read := readScalar?_spelled spelled ends
  rw [List.map_cons, List.cons_append] at read ⊢
  rw [readValue?_scalar begins, read]

/-- A value begins with a visible character, which closes no list. -/
theorem exists_cons_chars (v : Value) :
    ∃ c more, v.chars = c :: more ∧ isJsonBlank (some c) = false ∧ c ≠ ']' := by
  have scalar : ∀ {cs}, (∃ c more, cs = c :: more ∧ BeginsScalar c) →
      ∃ c more, cs = c :: more ∧ isJsonBlank (some c) = false ∧ c ≠ ']' := by
    rintro _ ⟨c, more, rfl, begins⟩
    exact ⟨c, more, rfl, begins.not_blank, begins.ne (by decide)⟩
  have null : ∃ c more, ['n', 'u', 'l', 'l'] = c :: more ∧ BeginsScalar c :=
    ⟨'n', _, rfl, by decide⟩
  cases v with
  | null => exact scalar null
  | bool b => cases b <;> exact scalar ⟨_, _, rfl, by decide⟩
  | whole i =>
    obtain ⟨n, spelled, -⟩ := exists_spells_intChars i
    exact scalar spelled.beginsScalar
  | real x =>
    rw [Value.chars]
    cases written : Decimal.numeral? x with
    | none => exact scalar null
    | some cs =>
      obtain ⟨n, spelled⟩ := exists_spells_of_numeral? written
      exact scalar spelled.beginsScalar
  | text s => exact ⟨'"', _, rfl, by decide, by decide⟩
  | list items => exact ⟨'[', _, rfl, by decide, by decide⟩
  | record members => exact ⟨'\x7b', _, rfl, by decide, by decide⟩

/-! ## Reading -/

/-- A quoted string is read back, with what follows it. -/
theorem exists_readText?_quote (s : String) (rest : Symbols) :
    ∃ pieces symbols, (quote s.toList).map some ++ rest = some '"' :: symbols ∧
      readText? symbols = some (pieces, rest) ∧ stringOf? pieces = some s := by
  obtain ⟨pieces, shown, read⟩ := readText?_quoted s.toList rest
  refine ⟨pieces, _, ?_, read, ?_⟩
  · simp [quote]
  · rw [stringOf?, pieces?_of_shows shown, Option.map_some, String.ofList_toList]

/-- The value is read from its text, whatever comes behind. -/
def Reads (v : Value) : Prop := ∀ fuel rest, Ends rest → 2 * v.chars.length ≤ fuel →
  ∃ r, readValue? fuel (v.chars.map some ++ rest) = some (r, rest) ∧ r.Shows v

theorem reads_scalar {v : Value} {r : Raw}
    (read : ∀ fuel rest, Ends rest →
      readValue? (fuel + 1) (v.chars.map some ++ rest) = some (r, rest))
    (shows : r.Shows v) : Reads v := by
  intro fuel rest ends enough
  obtain ⟨c, more, same, -⟩ := exists_cons_chars v
  cases fuel with
  | zero => simp [same] at enough
  | succ fuel => exact ⟨r, read fuel rest ends, shows⟩

theorem reads_null : Reads .null :=
  reads_scalar (fun _ _ _ => readValue?_scalar (by decide) _) .null

theorem reads_bool (b : Bool) : Reads (.bool b) := by
  cases b with
  | true => exact reads_scalar (fun _ _ _ => readValue?_scalar (by decide) _) (.bool true)
  | false => exact reads_scalar (fun _ _ _ => readValue?_scalar (by decide) _) (.bool false)

theorem reads_whole (i : Int) : Reads (.whole i) := by
  obtain ⟨n, spelled, value⟩ := exists_spells_intChars i
  exact reads_scalar (fun _ _ ends => readValue?_spelled spelled ends) (.whole value)

theorem reads_real (x : Float) : Reads (.real x) := by
  cases written : Decimal.numeral? x with
  | none =>
    refine reads_scalar (fun fuel rest _ => ?_) (.unwritten written)
    rw [Value.chars, written]
    exact readValue?_scalar (by decide) _
  | some cs =>
    obtain ⟨n, spelled⟩ := exists_spells_of_numeral? written
    refine reads_scalar (fun fuel rest ends => ?_) (.real written spelled)
    rw [Value.chars, written]
    exact readValue?_spelled spelled ends

theorem reads_text (s : String) : Reads (.text s) := by
  intro fuel rest _ enough
  obtain ⟨pieces, symbols, same, read, value⟩ := exists_readText?_quote s rest
  cases fuel with
  | zero => simp [Value.chars, quote] at enough
  | succ fuel =>
    refine ⟨.text pieces, ?_, .text value⟩
    rw [Value.chars, same, readValue?, skipBlank_cons (by decide)]
    simp only [read, Option.map_some]

/-! ## Lists and records -/

/-- The items are read from their texts, up to the closing bracket. -/
def ReadsItems (values : List Value) : Prop := ∀ fuel rest,
  2 * (Value.itemsChars values).length + 1 ≤ fuel → ∃ items,
    readItems? fuel ((Value.itemsChars values).map some ++ some ']' :: rest) = some (items, rest) ∧
      Raw.ItemsShow items values

/-- The members are read from their texts, up to the closing brace. -/
def ReadsMembers (values : List (String × Value)) : Prop := ∀ fuel rest,
  2 * (Value.membersChars values).length + 1 ≤ fuel → ∃ members,
    readMembers? fuel ((Value.membersChars values).map some ++ some '\x7d' :: rest) =
      some (members, rest) ∧ Raw.MembersShow members values

/-- The first item is read from its text, and then what is behind it. -/
theorem exists_item {v : Value} (reads : Reads v) (ends : Ends rest)
    (enough : 2 * v.chars.length ≤ fuel) :
    ∃ r : Raw, r.Shows v ∧ readItems? (fuel + 1) (v.chars.map some ++ rest) =
      match skipBlank rest with
      | some ']' :: rest => some ([r], rest)
      | some ',' :: rest => (readItems? fuel rest).bind fun (items, rest) => some (r :: items, rest)
      | _ => none := by
  obtain ⟨r, read, shows⟩ := reads fuel rest ends enough
  refine ⟨r, shows, ?_⟩
  rw [readItems?, read]
  rfl

/-- The first member is read from its text, and then what is behind it. -/
theorem exists_member (k : String) {v : Value} (reads : Reads v) (ends : Ends rest)
    (enough : 2 * v.chars.length ≤ fuel) :
    ∃ (key : List Piece) (r : Raw), stringOf? key = some k ∧ r.Shows v ∧
      readMembers? (fuel + 1) ((quote k.toList ++ ':' :: v.chars).map some ++ rest) =
        match skipBlank rest with
        | some '\x7d' :: rest => some ([(key, r)], rest)
        | some ',' :: rest =>
          (readMembers? fuel rest).bind fun (members, rest) => some ((key, r) :: members, rest)
        | _ => none := by
  obtain ⟨r, read, shows⟩ := reads fuel rest ends enough
  obtain ⟨key, symbols, same, readKey, name⟩ := exists_readText?_quote k
    (some ':' :: (v.chars.map some ++ rest))
  refine ⟨key, r, name, shows, ?_⟩
  rw [List.map_append, List.map_cons, List.append_assoc, List.cons_append, same, readMembers?,
    skipBlank_cons (by decide)]
  have colon : isJsonBlank (some ':') = false := by decide
  simp only [Option.bind_eq_bind, readKey, Option.bind_some, skipBlank_cons colon, read]
  rfl

theorem readsItems_single {v : Value} (reads : Reads v) : ReadsItems [v] := by
  intro fuel rest enough
  rw [Value.itemsChars] at enough ⊢
  cases fuel with
  | zero => omega
  | succ fuel =>
    have ends : Ends (some ']' :: rest) := ends_cons (by decide)
    obtain ⟨r, shows, read⟩ := exists_item reads ends (by omega : _ ≤ fuel)
    rw [read, skipBlank_cons (by decide)]
    exact ⟨[r], rfl, .cons shows .nil⟩

theorem readsItems_cons {v w : Value} {values : List Value} (reads : Reads v)
    (later : ReadsItems (w :: values)) : ReadsItems (v :: w :: values) := by
  intro fuel rest enough
  rw [Value.itemsChars] at enough ⊢
  rw [List.length_append, List.length_cons] at enough
  rw [List.map_append, List.map_cons, List.append_assoc, List.cons_append]
  cases fuel with
  | zero => omega
  | succ fuel =>
    have ends : ∀ more, Ends (some ',' :: more) := fun more => ends_cons (by decide)
    obtain ⟨r, shows, read⟩ := exists_item reads (ends _) (by omega : _ ≤ fuel)
    obtain ⟨items, readItems, itemsShow⟩ := later fuel rest (by omega)
    refine ⟨r :: items, ?_, .cons shows itemsShow⟩
    rw [read, skipBlank_cons (by decide)]
    simp only [readItems, Option.bind_some]

theorem readsMembers_single {k : String} {v : Value} (reads : Reads v) :
    ReadsMembers [(k, v)] := by
  intro fuel rest enough
  rw [Value.membersChars] at enough ⊢
  rw [List.length_append, List.length_cons] at enough
  cases fuel with
  | zero => omega
  | succ fuel =>
    have ends : Ends (some '\x7d' :: rest) := ends_cons (by decide)
    obtain ⟨key, r, name, shows, read⟩ := exists_member k reads ends (by omega : _ ≤ fuel)
    rw [read, skipBlank_cons (by decide)]
    exact ⟨[(key, r)], rfl, .cons name shows .nil⟩

theorem readsMembers_cons {k : String} {v : Value} {m : String × Value}
    {values : List (String × Value)} (reads : Reads v) (later : ReadsMembers (m :: values)) :
    ReadsMembers ((k, v) :: m :: values) := by
  intro fuel rest enough
  rw [Value.membersChars] at enough ⊢
  simp only [List.length_append, List.length_cons] at enough
  rw [List.map_append, List.map_cons, List.append_assoc, List.cons_append]
  cases fuel with
  | zero => omega
  | succ fuel =>
    have ends : ∀ more, Ends (some ',' :: more) := fun more => ends_cons (by decide)
    obtain ⟨key, r, name, shows, read⟩ := exists_member k reads (ends _) (by omega : _ ≤ fuel)
    obtain ⟨members, readMembers, membersShow⟩ := later fuel rest (by omega)
    refine ⟨(key, r) :: members, ?_, .cons name shows membersShow⟩
    rw [read, skipBlank_cons (by decide)]
    simp only [readMembers, Option.bind_some]

/-- Behind an opening bracket stand items, unless the closing one does. -/
theorem readValue?_list (visible : isJsonBlank (some c) = false) (other : c ≠ ']') :
    readValue? (fuel + 1) (some '[' :: some c :: rest) =
      (readItems? fuel (some c :: rest)).map fun (items, cs) => (.list items, cs) := by
  rw [readValue?, skipBlank_cons (by decide)]
  simp only [skipBlank_cons visible]
  split
  next same => exact (other (Option.some.inj (List.cons.inj same).1)).elim
  next => rfl

theorem readValue?_record :
    readValue? (fuel + 1) (some '\x7b' :: some '"' :: rest) =
      (readMembers? fuel (some '"' :: rest)).map fun (members, cs) => (.record members, cs) := by
  have visible : isJsonBlank (some '"') = false := by decide
  rw [readValue?, skipBlank_cons (by decide)]
  simp only [skipBlank_cons visible]
  split
  next same => cases same
  next => rfl

theorem exists_cons_itemsChars (v : Value) (values : List Value) :
    ∃ c more, Value.itemsChars (v :: values) = c :: more ∧ isJsonBlank (some c) = false ∧
      c ≠ ']' := by
  obtain ⟨c, more, same, first⟩ := exists_cons_chars v
  cases values with
  | nil => exact ⟨c, more, by rw [Value.itemsChars, same], first⟩
  | cons w values => exact ⟨c, _, by rw [Value.itemsChars, same, List.cons_append], first⟩

theorem exists_cons_membersChars (m : String × Value) (values : List (String × Value)) :
    ∃ more, Value.membersChars (m :: values) = '"' :: more := by
  obtain ⟨k, v⟩ := m
  cases values with
  | nil => exact ⟨_, by rw [Value.membersChars, quote, List.cons_append, List.cons_append]⟩
  | cons w values =>
    exact ⟨_, by rw [Value.membersChars, quote, List.cons_append, List.cons_append,
      List.cons_append]⟩

theorem reads_list {values : List Value} (reads : values ≠ [] → ReadsItems values) :
    Reads (.list values) := by
  intro fuel rest _ enough
  rw [Value.chars] at enough ⊢
  simp only [List.length_append, List.length_cons, List.length_nil] at enough
  cases fuel with
  | zero => omega
  | succ fuel =>
  cases values with
  | nil => exact ⟨.list [], rfl, .list .nil⟩
  | cons v values =>
    obtain ⟨items, read, shows⟩ := reads (List.cons_ne_nil v values) fuel rest (by omega)
    obtain ⟨c, more, same, visible, other⟩ := exists_cons_itemsChars v values
    refine ⟨.list items, ?_, .list shows⟩
    rw [same, List.map_cons, List.cons_append] at read
    simp only [same, List.cons_append, List.map_cons, List.map_append, List.map_nil,
      List.append_assoc, List.nil_append]
    rw [readValue?_list visible other, read]
    rfl

theorem reads_record {values : List (String × Value)} (reads : values ≠ [] → ReadsMembers values) :
    Reads (.record values) := by
  intro fuel rest _ enough
  rw [Value.chars] at enough ⊢
  simp only [List.length_append, List.length_cons, List.length_nil] at enough
  cases fuel with
  | zero => omega
  | succ fuel =>
  cases values with
  | nil => exact ⟨.record [], rfl, .record .nil⟩
  | cons m values =>
    obtain ⟨members, read, shows⟩ := reads (List.cons_ne_nil m values) fuel rest (by omega)
    obtain ⟨more, same⟩ := exists_cons_membersChars m values
    refine ⟨.record members, ?_, .record shows⟩
    rw [same, List.map_cons, List.cons_append] at read
    simp only [same, List.cons_append, List.map_cons, List.map_append, List.map_nil,
      List.append_assoc, List.nil_append]
    rw [readValue?_record, read]
    rfl

/-! ## Documents -/

mutual

/-- Every value is read from its text. -/
theorem reads : ∀ v : Value, Reads v
  | .null => reads_null
  | .bool b => reads_bool b
  | .whole i => reads_whole i
  | .real x => reads_real x
  | .text s => reads_text s
  | .list values => reads_list (readsItems values)
  | .record values => reads_record (readsMembers values)

theorem readsItems : ∀ values : List Value, values ≠ [] → ReadsItems values
  | [], nonempty => (nonempty rfl).elim
  | [v], _ => readsItems_single (reads v)
  | v :: w :: values, _ => readsItems_cons (reads v) (readsItems (w :: values) nofun)

theorem readsMembers : ∀ values : List (String × Value), values ≠ [] → ReadsMembers values
  | [], nonempty => (nonempty rfl).elim
  | [(_, v)], _ => readsMembers_single (reads v)
  | (_, v) :: m :: values, _ =>
    readsMembers_cons (reads v) (readsMembers (m :: values) nofun)

end

/-- **Every written value is a document that holds the value.** -/
theorem exists_ofText?_render (v : Value) : ∃ r, Raw.ofText? v.render = some r ∧ r.Shows v := by
  obtain ⟨r, read, shows⟩ := reads v (2 * (v.chars.map some).length + 2) [] ends_nil (by simp)
  rw [List.append_nil] at read
  refine ⟨r, ?_, shows⟩
  rw [Raw.ofText?, Value.render, String.toList_ofList, Raw.parse?, read]
  rfl

/-- A written string is a document, of the string. -/
theorem ofText?_render_text (s : String) :
    ∃ r, Raw.ofText? (Value.text s).render = some r ∧ r.string? = some s := by
  obtain ⟨r, read, shows⟩ := exists_ofText?_render (.text s)
  cases shows with
  | text held => exact ⟨_, read, held⟩

/-- A document is the same in bytes and in characters. -/
theorem ofBytes?_encode (s : String) : Raw.ofBytes? (Utf8.encode s.toList) = Raw.ofText? s := by
  rw [Raw.ofBytes?, Utf8.scan_encode, Raw.ofText?]

end MarketDesk.Json
