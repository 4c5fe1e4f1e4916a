import MarketDesk.Proofs.Decimal.Nearest
import MarketDesk.Proofs.Json.Documents
import MarketDesk.Proofs.Json.KeyOrder
import MarketDesk.Proofs.Quote.EarningsDay
import MarketDesk.Quote.Document

/-!
# Fields and their keys

Which keys of a snapshot each field of an overview is read from, and what it makes of their values.
The table `Overview.fields` has one row for each of the seventeen fields; together they read
nineteen keys, each of them one key of its own, but for the name and the price, which have two. A
field is what the first of its keys gives that holds a usable value: `FirstUsable`. A null or a
value of the wrong kind is as good as none, and nothing else in the snapshot matters.
-/

namespace MarketDesk

open Json

/-- What a field of an overview holds. -/
inductive FieldKind where
  | text
  | number
  | count
  | earnings
  deriving DecidableEq, Repr

namespace FieldKind

/-- The data in a field. -/
def Content : FieldKind → Type
  | .text => String
  | .number => Float
  | .count => UInt64
  | .earnings => Earnings

/-- A value is usable in a field of the kind, as this content. -/
def Gives : (k : FieldKind) → Value → k.Content → Prop
  | .text, v, t => t ≠ "" ∧ v = .text t
  | .number, v, x => v = .real x ∨ ∃ n, v = .whole n ∧ x = floatOfInt n
  | .count, v, n => v = .whole (UInt64.toNat n)
  | .earnings, v, e => v ≠ .null ∧ EarningsRead v (some e)

/-- The written form of a content. -/
def toJson : (k : FieldKind) → k.Content → Value
  | .text, t => .text t
  | .number, x => .real x
  | .count, n => .whole (UInt64.toNat n)
  | .earnings, e => Earnings.toJson e

end FieldKind

/-- A field of an overview, with the member that it is written as and the keys that it is read
from. -/
structure Overview.Field where
  name : String
  keys : List String
  kind : FieldKind
  get : Overview → Option kind.Content

/-- The fields of an overview, in the order in which they are written. -/
def Overview.fields : List Overview.Field :=
  [⟨"name", ["longName", "shortName"], .text, Overview.name⟩,
    ⟨"price", ["currentPrice", "regularMarketPrice"], .number, Overview.price⟩,
    ⟨"pe_ratio", ["forwardPE"], .number, Overview.peRatio⟩,
    ⟨"pb_ratio", ["priceToBook"], .number, Overview.pbRatio⟩,
    ⟨"eps", ["trailingEps"], .number, Overview.eps⟩,
    ⟨"roe", ["returnOnEquity"], .number, Overview.roe⟩,
    ⟨"market_cap", ["marketCap"], .number, Overview.marketCap⟩,
    ⟨"recommendation", ["recommendationKey"], .text, Overview.recommendation⟩,
    ⟨"analyst_count", ["numberOfAnalystOpinions"], .count, Overview.analystCount⟩,
    ⟨"fifty_two_week_high", ["fiftyTwoWeekHigh"], .number, Overview.fiftyTwoWeekHigh⟩,
    ⟨"fifty_two_week_low", ["fiftyTwoWeekLow"], .number, Overview.fiftyTwoWeekLow⟩,
    ⟨"beta", ["beta"], .number, Overview.beta⟩,
    ⟨"sector", ["sector"], .text, Overview.sector⟩,
    ⟨"industry", ["industry"], .text, Overview.industry⟩,
    ⟨"earnings_date", ["earningsTimestamp"], .earnings, Overview.earnings⟩,
    ⟨"dividend_rate", ["dividendRate"], .number, Overview.dividendRate⟩,
    ⟨"trailing_annual_dividend_rate", ["trailingAnnualDividendRate"], .number,
      Overview.trailingDividendRate⟩]

/-- The content is what the first key gives that holds a usable value. -/
inductive FirstUsable (s : Snapshot) {k : FieldKind} : List String → k.Content → Prop where
  | here {key : String} {keys : List String} {v : Value} {a : k.Content} :
      Record.get? s key = some v → k.Gives v a → FirstUsable s (key :: keys) a
  | later {key : String} {keys : List String} {a : k.Content} :
      (∀ v b, Record.get? s key = some v → ¬ k.Gives v b) → FirstUsable s keys a →
      FirstUsable s (key :: keys) a

variable {s s' : Snapshot} {k : FieldKind} {key : String} {keys : List String} {v : Value}
  {a : k.Content} {f : Overview.Field}

/-! ## One key -/

/-- Earnings are read from a value in one way. -/
theorem EarningsRead.eq {e : Option Earnings} (read : EarningsRead v e) :
    e = some (Snapshot.earningsOf v) := by
  have made := Snapshot.earningsOf_read v
  by_cases falls : ∃ d, v.FallsOn d
  · obtain ⟨d, falls⟩ := falls
    exact ((read.on_iff d).2 falls).trans ((made.on_iff d).2 falls).symm
  · have never : ∀ d, ¬ v.FallsOn d := not_exists.1 falls
    by_cases text : ∃ t, v = .text t
    · obtain ⟨t, same⟩ := text
      exact (read.verbatim t same).trans (made.verbatim t same).symm
    · exact (read.rendered (not_exists.1 text) never).trans
        (made.rendered (not_exists.1 text) never).symm

namespace FieldKind

/-- What a value is read as in a field of the kind. -/
def ofValue? : (k : FieldKind) → Value → Option k.Content
  | .text, v => v.text?.filter fun t => !t.isEmpty
  | .number, v => v.float?
  | .count, v => Snapshot.countOf? v
  | .earnings, v => if v.isNull then none else some (Snapshot.earningsOf v)

theorem text?_filter_eq_some_iff {t : String} :
    v.text?.filter (fun t => !t.isEmpty) = some t ↔ t ≠ "" ∧ v = .text t := by
  rw [Option.filter_eq_some_iff, and_comm]
  refine and_congr (by simp) ?_
  cases v with
  | text => simp [Value.text?]
  | null | bool | whole | real | list | record => simp [Value.text?]

theorem float?_eq_some_iff {x : Float} :
    v.float? = some x ↔ v = .real x ∨ ∃ n, v = .whole n ∧ x = floatOfInt n := by
  cases v with
  | whole n => simp [Value.float?, eq_comm]
  | real y => simp [Value.float?]
  | null | bool | text | list | record => simp [Value.float?]

theorem countOf?_eq_some_iff {n : UInt64} :
    Snapshot.countOf? v = some n ↔ v = .whole n.toNat := by
  cases v with
  | whole m =>
    rw [Snapshot.countOf?, Value.whole.injEq]
    have bound : n.toNat < 2 ^ 64 := n.toNat_lt
    split
    next fits =>
      unfold Word.IsUnsigned64 at fits
      rw [Option.some.injEq, ← UInt64.toNat_inj, UInt64.toNat_ofNat',
        Nat.mod_eq_of_lt (by omega)]
      omega
    next wide =>
      unfold Word.IsUnsigned64 at wide
      refine iff_of_false nofun ?_
      rintro rfl
      omega
  | null | bool | real | text | list | record => simp [Snapshot.countOf?]

theorem earnings_eq_some_iff {e : Earnings} :
    (if v.isNull then none else some (Snapshot.earningsOf v)) = some e ↔
      v ≠ .null ∧ EarningsRead v (some e) := by
  have read : ∀ e, EarningsRead v (some e) ↔ Snapshot.earningsOf v = e := by
    intro e
    constructor
    · intro read
      exact (Option.some.inj read.eq).symm
    · rintro rfl
      exact Snapshot.earningsOf_read v
  rw [read]
  cases v with
  | null => simp [Value.isNull]
  | bool | whole | real | text | list | record => simp [Value.isNull]

theorem ofValue?_eq_some_iff : k.ofValue? v = some a ↔ k.Gives v a := by
  cases k with
  | text => exact text?_filter_eq_some_iff
  | number => exact float?_eq_some_iff
  | count => exact countOf?_eq_some_iff
  | earnings => exact earnings_eq_some_iff

end FieldKind

/-! ## The keys of a field -/

/-- What the first key gives that holds a usable value. -/
def FieldKind.read? (k : FieldKind) (s : Snapshot) (keys : List String) : Option k.Content :=
  keys.findSome? fun key => (Record.get? s key).bind k.ofValue?

theorem read?_eq_some_iff : k.read? s keys = some a ↔ FirstUsable s keys a := by
  have one : ∀ key, (Record.get? s key).bind k.ofValue? = none ↔
      ∀ v b, Record.get? s key = some v → ¬ k.Gives v b := by
    intro key
    rw [Option.eq_none_iff_forall_ne_some]
    simp only [ne_eq, Option.bind_eq_some_iff, FieldKind.ofValue?_eq_some_iff, not_exists, not_and]
    exact forall_comm
  induction keys with
  | nil =>
    refine iff_of_false nofun ?_
    rintro ⟨⟩
  | cons key keys ih =>
    rw [FieldKind.read?, List.findSome?_cons]
    cases found : (Record.get? s key).bind k.ofValue? with
    | some b =>
      obtain ⟨v, there, given⟩ := Option.bind_eq_some_iff.1 found
      rw [FieldKind.ofValue?_eq_some_iff] at given
      constructor
      · rintro ⟨⟩
        exact .here there given
      · intro first
        cases first with
        | here there' given' =>
          rw [there] at there'
          cases there'
          rw [← FieldKind.ofValue?_eq_some_iff] at given given'
          exact given.symm.trans given'
        | later none => exact (none v b there given).elim
    | none =>
      have none := (one key).1 found
      constructor
      · exact fun later => .later none (ih.1 later)
      · intro first
        cases first with
        | here there given => exact (none _ _ there given).elim
        | later _ first => exact ih.2 first

theorem read?_single (k : FieldKind) (s : Snapshot) (key : String) :
    k.read? s [key] = (Record.get? s key).bind k.ofValue? := by
  rw [FieldKind.read?, List.findSome?_singleton]

theorem read?_pair (k : FieldKind) (s : Snapshot) (key key' : String) :
    k.read? s [key, key'] =
      ((Record.get? s key).bind k.ofValue? <|> (Record.get? s key').bind k.ofValue?) := by
  rw [FieldKind.read?, List.findSome?_cons, List.findSome?_singleton]
  cases (Record.get? s key).bind k.ofValue? <;> rfl

theorem text?_eq (s : Snapshot) (key : String) :
    Snapshot.text? s key = (Record.get? s key).bind (FieldKind.ofValue? .text) := by
  rw [Snapshot.text?]
  cases Record.get? s key <;> rfl

theorem earnings?_eq (s : Snapshot) :
    Snapshot.earnings? s =
      (Record.get? s "earningsTimestamp").bind (FieldKind.ofValue? .earnings) := by
  rw [Snapshot.earnings?]
  cases Record.get? s "earningsTimestamp" with
  | none => rfl
  | some v => cases v <;> rfl

/-- Each field is read from its keys. -/
theorem get_overview (mem : f ∈ Overview.fields) (s : Snapshot) :
    f.get (Snapshot.overview s) = f.kind.read? s f.keys := by
  have text : ∀ key, Snapshot.text? s key = FieldKind.text.read? s [key] := fun key =>
    (text?_eq s key).trans (read?_single .text s key).symm
  have number : ∀ key, Snapshot.number? s key = FieldKind.number.read? s [key] := fun key =>
    (read?_single .number s key).symm
  have texts : ∀ key key', (Snapshot.text? s key <|> Snapshot.text? s key') =
      FieldKind.text.read? s [key, key'] := fun key key' => by
    rw [read?_pair, text?_eq, text?_eq]
    rfl
  have numbers : ∀ key key', (Snapshot.number? s key <|> Snapshot.number? s key') =
      FieldKind.number.read? s [key, key'] := fun key key' => (read?_pair .number s key key').symm
  have count : ∀ key, Snapshot.count? s key = FieldKind.count.read? s [key] := fun key =>
    (read?_single .count s key).symm
  have earnings := (earnings?_eq s).trans (read?_single .earnings s "earningsTimestamp").symm
  simp only [Overview.fields, List.mem_cons, List.not_mem_nil, or_false] at mem
  rcases mem with rfl | rfl | rfl | rfl | rfl | rfl | rfl | rfl | rfl | rfl | rfl | rfl | rfl |
    rfl | rfl | rfl | rfl
  · exact texts _ _
  · exact numbers _ _
  all_goals first | exact number _ | exact text _ | exact count _ | exact earnings

/-- Snapshots with the same values under the keys give the same content. -/
theorem read?_congr (k : FieldKind)
    (agree : ∀ key ∈ keys, Record.get? s key = Record.get? s' key) :
    k.read? s keys = k.read? s' keys := by
  induction keys with
  | nil => rfl
  | cons key keys ih =>
    obtain ⟨here, later⟩ := List.forall_mem_cons.1 agree
    have rest := ih later
    rw [FieldKind.read?] at rest ⊢
    rw [List.findSome?_cons, here, rest]
    rfl

/-! ## Documents -/

/-- The value of the member that a field is written as. -/
def Overview.Field.write (f : Overview.Field) (o : Overview) : Value :=
  Value.ofOption f.kind.toJson (f.get o)

/-- The written form of an overview has a member for each field. -/
theorem toJson_eq_fields (o : Overview) :
    o.toJson = .record (Overview.fields.map fun f => (f.name, f.write o)) := rfl

theorem toJson_ne_null (a : k.Content) : k.toJson a ≠ .null := by
  cases k with
  | text | number | count => exact nofun
  | earnings =>
    show Earnings.toJson a ≠ .null
    cases a <;> exact nofun

theorem write_eq_null_iff (f : Overview.Field) (o : Overview) :
    f.write o = .null ↔ f.get o = none := by
  rw [Overview.Field.write]
  cases f.get o with
  | none => exact iff_of_true rfl rfl
  | some a => exact iff_of_false (toJson_ne_null a) nofun

/-- A number that a document can hold: an integer of 64 bits, or a double that is finite. -/
def Json.Value.Fits : Value → Prop
  | .whole n => Word.IsSigned64 n ∨ Word.IsUnsigned64 n
  | .real x => Decimal.exactly? x ≠ none
  | _ => True

/-- Just the finite doubles have numerals. -/
theorem numeral?_eq_none_iff {x : Float} :
    Decimal.numeral? x = none ↔ Decimal.exactly? x = none := by
  have infinite : Decimal.exactly? x = none ↔
      x.toBits.toNat / 0x10000000000000 % 0x800 = 2047 := by
    rw [Decimal.exactly?_eq, Option.map_eq_none_iff, Decimal.Binary.ofFloat?]
    split
    next last => exact iff_of_true rfl last
    next other => split <;> exact iff_of_false (Option.some_ne_none _) other
  rw [infinite, Decimal.numeral?]
  have beyond : 0x7FF0000000000000 ≤ x.toBits % 0x8000000000000000 ↔
      x.toBits.toNat / 0x10000000000000 % 0x800 = 2047 := by
    rw [UInt64.le_iff_toNat_le, UInt64.toNat_mod]
    have bound : x.toBits.toNat < 2 ^ 64 := x.toBits.toNat_lt
    show 0x7FF0000000000000 ≤ x.toBits.toNat % 0x8000000000000000 ↔ _
    omega
  split
  next large => exact iff_of_true rfl (beyond.1 large)
  next small =>
    refine iff_of_false ?_ (beyond.not.1 small)
    split <;> exact Option.some_ne_none _

theorem FirstUsable.exists_gives (first : FirstUsable s keys a) :
    ∃ key ∈ keys, ∃ v, Record.get? s key = some v ∧ k.Gives v a := by
  induction first with
  | here there given => exact ⟨_, List.mem_cons_self, _, there, given⟩
  | later _ _ ih =>
    obtain ⟨key, mem, v, found⟩ := ih
    exact ⟨key, List.mem_cons_of_mem _ mem, v, found⟩

/-- A usable number that fits is written with a numeral. -/
theorem numeral?_ne_none {x : Float} (given : FieldKind.number.Gives v x) (fits : v.Fits) :
    Decimal.numeral? x ≠ none := by
  rw [ne_eq, numeral?_eq_none_iff]
  rcases given with rfl | ⟨n, rfl, rfl⟩
  · exact fits
  · obtain ⟨w, nearest⟩ := Decimal.exists_isNearest fits
    rw [nearest.value]
    exact nofun

/-- A content that is there is not read back as a null. -/
theorem ne_null_of_shows {r : Raw} (given : k.Gives v a) (fits : v.Fits)
    (shows : r.Shows (k.toJson a)) : r ≠ .null := by
  rintro rfl
  cases k with
  | text =>
    change Raw.Shows .null (.text a) at shows
    cases shows
  | number =>
    change Raw.Shows .null (.real a) at shows
    cases shows with
    | unwritten none => exact numeral?_ne_none given fits none
  | count =>
    change Raw.Shows .null (.whole (UInt64.toNat a)) at shows
    cases shows
  | earnings =>
    change Raw.Shows .null (Earnings.toJson a) at shows
    cases a <;> cases shows

theorem membersShow_map {α : Type} {g : α → String × Value} {members : List (List Piece × Raw)}
    {l : List α} (shows : Raw.MembersShow members (l.map g)) :
    List.Forall₂ (fun x m => stringOf? m.1 = some (g x).1 ∧ m.2.Shows (g x).2) l members := by
  induction l generalizing members with
  | nil =>
    cases shows
    exact .nil
  | cons x l ih =>
    rw [List.map_cons] at shows
    generalize same : g x = m at shows
    cases shows with
    | cons key value rest =>
      refine .cons ?_ (ih rest)
      rw [same]
      exact ⟨key, value⟩

/-! ## All fields -/

/-- How a field of an overview depends on the snapshot. -/
structure Overview.Field.ReadsItsKeys (f : Overview.Field) : Prop where
  /-- The field has the content that its first usable value gives. -/
  content : ∀ s a, f.get (Snapshot.overview s) = some a ↔ FirstUsable s f.keys a
  /-- It is absent just if none of its keys holds a usable value. -/
  absent : ∀ s, f.get (Snapshot.overview s) = none ↔
    ∀ key ∈ f.keys, ∀ v a, Record.get? s key = some v → ¬ f.kind.Gives v a
  /-- Nothing else in the snapshot matters. -/
  own : ∀ s s', (∀ key ∈ f.keys, Record.get? s key = Record.get? s' key) →
    f.get (Snapshot.overview s) = f.get (Snapshot.overview s')

theorem readsItsKeys (mem : f ∈ Overview.fields) : f.ReadsItsKeys where
  content s a := by rw [get_overview mem, read?_eq_some_iff]
  absent s := by
    rw [get_overview mem, FieldKind.read?, List.findSome?_eq_none_iff]
    refine forall₂_congr fun key _ => ?_
    rw [Option.eq_none_iff_forall_ne_some]
    simp only [ne_eq, Option.bind_eq_some_iff, FieldKind.ofValue?_eq_some_iff, not_exists, not_and]
    exact forall_comm
  own s s' agree := by rw [get_overview mem, get_overview mem, read?_congr f.kind agree]

/-- The document of an overview has the members of all fields, and those of absent ones are null. -/
theorem exists_document (fits : ∀ key v, Record.get? s key = some v → v.Fits) :
    ∃ members, Raw.ofText? (Snapshot.overview s).toJson.render = some (.record members) ∧
      List.Forall₂ (fun f m => stringOf? m.1 = some f.name ∧
        (m.2 = .null ↔ f.get (Snapshot.overview s) = none)) Overview.fields members := by
  obtain ⟨r, read, shows⟩ := exists_ofText?_render (Snapshot.overview s).toJson
  rw [toJson_eq_fields] at shows
  cases shows with
  | @record members _ shows =>
  refine ⟨members, read, ?_⟩
  have listed := (List.forall₂_and_left _ _).2 ⟨fun f mem => mem, membersShow_map shows⟩
  refine listed.imp ?_
  rintro f ⟨key, r⟩ ⟨mem, name, shows⟩
  refine ⟨name, ?_⟩
  dsimp only at shows ⊢
  rw [Overview.Field.write] at shows
  cases content : f.get (Snapshot.overview s) with
  | none =>
    rw [content] at shows
    cases shows
    exact iff_of_true rfl rfl
  | some a =>
    rw [content] at shows
    obtain ⟨key, -, v, there, given⟩ := (((readsItsKeys mem).content s a).1 content).exists_gives
    exact iff_of_false (ne_null_of_shows given (fits key v there) shows) nofun

/-- An overview is nothing but its fields. -/
theorem eq_of_fields {o o' : Overview} (same : ∀ f ∈ Overview.fields, f.get o = f.get o') :
    o = o' := by
  simp only [Overview.fields, List.forall_mem_cons] at same
  obtain ⟨h1, h2, h3, h4, h5, h6, h7, h8, h9, h10, h11, h12, h13, h14, h15, h16, h17, -⟩ := same
  cases o
  cases o'
  rw [Overview.mk.injEq]
  exact ⟨h1, h2, h3, h4, h5, h6, h7, h8, h9, h10, h11, h12, h13, h14, h15, h16, h17⟩

/-- **Fields are read from their own keys.** No key belongs to two fields and an overview is nothing
but its fields. Each of them has the content that the first of its keys gives that holds a usable
value, whatever else is in the snapshot, and is absent if there is none; an integer gives the
nearest double. The written form has the members of all fields, `null` just for those that are
absent, and that is also what is read back from its text. -/
theorem fields_read_own_keys :
    (Overview.fields.flatMap Overview.Field.keys).Nodup ∧
    (Overview.fields.map Overview.Field.name).Nodup ∧
    (∀ o o' : Overview, (∀ f ∈ Overview.fields, f.get o = f.get o') → o = o') ∧
    (∀ f ∈ Overview.fields, f.ReadsItsKeys) ∧
    (∀ n, Word.IsSigned64 n ∨ Word.IsUnsigned64 n →
      ∃ v, Decimal.IsNearest n (floatOfInt n) v) ∧
    (∀ o : Overview, ∃ written : Overview.Field → Value,
      o.toJson = .record (Overview.fields.map fun f => (f.name, written f)) ∧
      ∀ f, written f = .null ↔ f.get o = none) ∧
    ∀ s : Snapshot, (∀ key v, Record.get? s key = some v → v.Fits) →
      ∃ members, Raw.ofText? (Snapshot.overview s).toJson.render = some (.record members) ∧
        List.Forall₂ (fun f m => stringOf? m.1 = some f.name ∧
          (m.2 = .null ↔ f.get (Snapshot.overview s) = none)) Overview.fields members := by
  refine ⟨by decide, by decide, fun o o' => eq_of_fields, fun f => readsItsKeys,
    fun n => Decimal.exists_isNearest, fun o => ?_, fun s => exists_document⟩
  exact ⟨fun f => f.write o, toJson_eq_fields o, fun f => write_eq_null_iff f o⟩

/-- A snapshot with an empty name and a null price before usable ones, an integer that is no double
and a sector that is no text. -/
def mixed : Snapshot :=
  [("currentPrice", .null), ("longName", .text ""), ("regularMarketPrice", .whole 9007199254740993),
    ("sector", .whole 7), ("shortName", .text "A")]

theorem fields_read_own_keys_mixed :
    (Snapshot.overview mixed).name = some "A" ∧
      (∃ x v, (Snapshot.overview mixed).price = some x ∧ Decimal.IsNearest 9007199254740993 x v) ∧
      (Snapshot.overview mixed).sector = none ∧
      ∃ members, Raw.ofText? (Snapshot.overview mixed).toJson.render = some (.record members) ∧
        members.length = 17 := by
  obtain ⟨-, -, -, own, nearest, -, document⟩ := fields_read_own_keys
  have row : ∀ i, (h : i < Overview.fields.length) → Overview.fields[i].ReadsItsKeys :=
    fun i h => own _ (List.getElem_mem h)
  have fits : ∀ key v, Record.get? mixed key = some v → v.Fits := by
    intro key v there
    have among : ∀ m ∈ mixed, m.2.Fits := by
      simp only [mixed, List.forall_mem_cons]
      exact ⟨trivial, trivial, .inl (by decide), .inl (by decide), trivial, nofun⟩
    obtain ⟨m, found, rfl⟩ := Option.map_eq_some_iff.1 there
    exact among m (List.mem_of_find?_eq_some found)
  refine ⟨?_, ?_, ?_, ?_⟩
  · have nonempty : ("A" : String) ≠ "" := by decide
    refine ((row 0 (by decide)).content mixed "A").2 (.later ?_ (.here rfl ⟨nonempty, rfl⟩))
    rintro v b ⟨⟩ ⟨nonempty, same⟩
    exact nonempty (Value.text.inj same).symm
  · obtain ⟨v, nearest⟩ := nearest 9007199254740993 (.inl (by decide))
    refine ⟨_, v, ?_, nearest⟩
    refine ((row 1 (by decide)).content mixed _).2 (.later ?_ (.here rfl (.inr ⟨_, rfl, rfl⟩)))
    rintro v b ⟨⟩ (same | ⟨n, same, -⟩) <;> cases same
  · refine ((row 12 (by decide)).absent mixed).2 ?_
    intro key mem v a there given
    cases List.mem_singleton.1 mem
    cases there
    cases given.2
  · obtain ⟨members, read, listed⟩ := document mixed fits
    exact ⟨members, read, listed.length_eq.symm⟩

end MarketDesk
