import MarketDesk.Net.Address
import MarketDesk.Proofs.Calendar.DateText

/-!
# Texts of addresses

`IsIpv6` is the grammar of IPv6 addresses; IPv4 addresses have one text each, their written form.
Readers take as much as they can, and each theorem here says what a reader takes in front of which
rest: `takeIpv4_eq_some_iff` for IPv4 addresses, and `exists_of_takeIpv6` and `takeIpv6_append` for
IPv6 addresses in both directions. A rest must not go on with what was read.
-/

namespace MarketDesk.Net

open MarketDesk.Text
open MarketDesk.Calendar.Date (Clear clear_cons clear_dropWhile dropWhile_of_clear
  takeWhile_of_clear)

variable {cs rest run : List Char} {c : Char} {n : Nat}

/-! ## Single characters -/

theorem takeChar_eq_some_iff {mark : Char} {u : Unit} :
    takeChar mark cs = some (u, rest) ↔ cs = mark :: rest := by
  cases cs with
  | nil => simp [takeChar]
  | cons c cs =>
    rw [takeChar]
    split
    next same => simp [same]
    next other => simp [other]

/-! ## Numbers -/

/-- The text is a run of digits, with values below some base, and denotes the number. -/
structure IsRun (value : Char → Option Nat) (base : Nat) (run : List Char) (n : Nat) : Prop where
  nonempty : run ≠ []
  digits : ∀ c ∈ run, (value c).isSome = true
  number : ofDigits base (run.filterMap value) = n

theorem drop_takeWhile (p : Char → Bool) (cs : List Char) :
    cs.drop (cs.takeWhile p).length = cs.dropWhile p := by
  have dropped : (cs.takeWhile p ++ cs.dropWhile p).drop (cs.takeWhile p).length =
      cs.dropWhile p := List.drop_left
  rwa [List.takeWhile_append_dropWhile] at dropped

/-- A number is read as far as its digits go. -/
theorem takeNumber_eq_some_iff {value : Char → Option Nat} {base : Nat} :
    takeNumber value base cs = some ((n, run), rest) ↔
      IsRun value base run n ∧ cs = run ++ rest ∧ Clear (fun c => (value c).isSome) rest := by
  rw [takeNumber]
  constructor
  · intro taken
    split at taken
    next => cases taken
    next nonempty =>
      cases taken
      rw [drop_takeWhile]
      refine ⟨⟨?_, List.all_eq_true.1 List.all_takeWhile, rfl⟩,
        List.takeWhile_append_dropWhile.symm, clear_dropWhile _ cs⟩
      simpa using nonempty
  · rintro ⟨⟨nonempty, digits, rfl⟩, rfl, clear⟩
    have all : (run ++ rest).takeWhile (fun c => (value c).isSome) = run := by
      rw [List.takeWhile_append_of_pos digits, takeWhile_of_clear clear, List.append_nil]
    simp [all, nonempty]

/-- Decimal runs are those that denote a number. -/
theorem isRun_digit?_iff : IsRun digit? 10 run n ↔ run ≠ [] ∧ Denotes run n := by
  rw [denotes_iff]
  constructor
  · exact fun ⟨nonempty, digits, number⟩ => ⟨nonempty, digits, number⟩
  · exact fun ⟨nonempty, digits, number⟩ => ⟨nonempty, digits, number⟩

theorem isRun_natChars (n : Nat) : IsRun digit? 10 (natChars n) n :=
  isRun_digit?_iff.2 ⟨natChars_ne_nil n, denotes_natChars n⟩

/-! ## IPv4 -/

theorem takeOctet_eq_some_iff {o : UInt8} :
    takeOctet cs = some (o, rest) ↔ cs = natChars o.toNat ++ rest ∧ Clear isDigit rest := by
  simp only [takeOctet, Option.bind_eq_bind, Option.bind_eq_some_iff, Prod.exists]
  constructor
  · rintro ⟨n, run, rest', taken, checked⟩
    obtain ⟨isRun, rfl, clear⟩ := takeNumber_eq_some_iff.1 taken
    obtain ⟨nonempty, denotes⟩ := isRun_digit?_iff.1 isRun
    split at checked
    next fits =>
      cases checked
      have written := denotes.eq_natChars nonempty fits.2.1
      have same : (UInt8.ofNat n).toNat = n := UInt8.toNat_ofNat_of_lt' fits.2.2
      rw [same, ← written]
      exact ⟨rfl, clear⟩
    next => cases checked
  · rintro ⟨rfl, clear⟩
    refine ⟨_, _, _, takeNumber_eq_some_iff.2 ⟨isRun_natChars o.toNat, rfl, clear⟩, ?_⟩
    have small : o.toNat < 256 := o.toNat_lt
    have short : (natChars o.toNat).length ≤ 3 :=
      (Nat.length_toDigits_le_iff (by decide) (by decide)).2 (by omega)
    rw [if_pos ⟨short, isPlain_natChars _, small⟩, UInt8.ofNat_toNat]
    rfl

/-- A mark is no digit. -/
theorem clear_dot (rest : List Char) : Clear isDigit ('.' :: rest) := clear_cons rfl

/-- IPv4 addresses are read from their written form, and from no other text. -/
theorem takeIpv4_eq_some_iff {v : Ipv4} :
    takeIpv4 cs = some (v, rest) ↔ cs = ipv4Chars v ++ rest ∧ Clear isDigit rest := by
  simp only [takeIpv4, Option.bind_eq_bind, Option.bind_eq_some_iff, Prod.exists,
    takeOctet_eq_some_iff, takeChar_eq_some_iff]
  constructor
  · rintro ⟨a, _, ⟨rfl, -⟩, _, _, rfl, b, _, ⟨rfl, -⟩, _, _, rfl, c, _, ⟨rfl, -⟩, _, _, rfl, d, _,
      ⟨rfl, clear⟩, same⟩
    cases same
    exact ⟨by simp [ipv4Chars], clear⟩
  · rintro ⟨rfl, clear⟩
    refine ⟨v.a, _, ⟨?_, clear_dot _⟩, (), _, rfl, v.b, _, ⟨rfl, clear_dot _⟩, (), _, rfl, v.c, _,
      ⟨rfl, clear_dot _⟩, (), _, rfl, v.d, rest, ⟨rfl, clear⟩, rfl⟩
    simp [ipv4Chars]

/-! ## Groups -/

/-- The character is a hexadecimal digit, of either case. -/
def isHexDigit (c : Char) : Bool := (hexDigit? c).isSome

/-- A group: one to four hexadecimal digits. -/
structure IsGroup (text : List Char) (g : UInt16) : Prop where
  run : IsRun hexDigit? 16 text g.toNat
  short : text.length ≤ 4

theorem hexDigit?_lt {d : Nat} (read : hexDigit? c = some d) : d < 16 := by
  have nine : ('9' : Char).toNat = 0x39 := rfl
  have small : ('f' : Char).toNat = 0x66 := rfl
  have capital : ('F' : Char).toNat = 0x46 := rfl
  unfold hexDigit? at read
  split at read
  next inside =>
    have upper : c.toNat ≤ ('9' : Char).toNat := inside.2
    have value : c.toNat - 0x30 = d := Option.some.inj read
    omega
  split at read
  next inside =>
    have upper : c.toNat ≤ ('f' : Char).toNat := inside.2
    have value : c.toNat - 0x61 + 10 = d := Option.some.inj read
    omega
  split at read
  next inside =>
    have upper : c.toNat ≤ ('F' : Char).toNat := inside.2
    have value : c.toNat - 0x41 + 10 = d := Option.some.inj read
    omega
  next => cases read

/-- A run of digits denotes less than the power of the base with that many digits. -/
theorem ofDigits_lt {base : Nat} (ds : List Nat) (small : ∀ d ∈ ds, d < base) :
    ofDigits base ds < base ^ ds.length := by
  induction ds using List.reverseRecOn with
  | nil => simp [ofDigits]
  | append_singleton ds d ih =>
    have front := ih fun d' among => small d' (List.mem_append_left _ among)
    have last := small d (by simp)
    rw [ofDigits_concat, List.length_append, List.length_singleton, Nat.pow_succ]
    calc base * ofDigits base ds + d < base * ofDigits base ds + base := by omega
      _ = (ofDigits base ds + 1) * base := by rw [Nat.add_mul, Nat.mul_comm, Nat.one_mul]
      _ ≤ base ^ ds.length * base := Nat.mul_le_mul_right base front

theorem takeGroup_eq_some_iff {g : UInt16} :
    takeGroup cs = some (g, rest) ↔
      ∃ text, IsGroup text g ∧ cs = text ++ rest ∧ Clear isHexDigit rest := by
  simp only [takeGroup, Option.bind_eq_bind, Option.bind_eq_some_iff, Prod.exists]
  constructor
  · rintro ⟨n, run, rest', taken, checked⟩
    obtain ⟨isRun, rfl, clear⟩ := takeNumber_eq_some_iff.1 taken
    split at checked
    next short =>
      cases checked
      have bound : n < 0x10000 := by
        have digits : ∀ d ∈ run.filterMap hexDigit?, d < 16 := by
          intro d among
          obtain ⟨c, -, read⟩ := List.mem_filterMap.1 among
          exact hexDigit?_lt read
        have length : (run.filterMap hexDigit?).length ≤ 4 :=
          Nat.le_trans (List.length_filterMap_le ..) short
        calc n = ofDigits 16 (run.filterMap hexDigit?) := isRun.number.symm
          _ < 16 ^ (run.filterMap hexDigit?).length := ofDigits_lt _ digits
          _ ≤ 16 ^ 4 := Nat.pow_le_pow_right (by decide) length
      have same : (UInt16.ofNat n).toNat = n := UInt16.toNat_ofNat_of_lt' bound
      exact ⟨run, ⟨same.symm ▸ isRun, short⟩, rfl, clear⟩
    next => cases checked
  · rintro ⟨text, ⟨run, short⟩, rfl, clear⟩
    refine ⟨_, _, _, takeNumber_eq_some_iff.2 ⟨run, rfl, clear⟩, ?_⟩
    rw [if_pos short, UInt16.ofNat_toNat]
    rfl

/-- What stands in front of a group. -/
def separator (first : Bool) : List Char := if first then [] else [':']

/-- Groups with a colon in front of each, except that the first one of all has none. The last two may
be written as an IPv4 address, which makes the groups `dotted`. -/
inductive Groups : (first dotted : Bool) → List Char → List UInt16 → Prop where
  | none {first : Bool} : Groups first false [] []
  | group {first dotted : Bool} {text more : List Char} {g : UInt16} {gs : List UInt16} :
      IsGroup text g → Groups false dotted more gs →
      Groups first dotted (separator first ++ (text ++ more)) (g :: gs)
  | address {first : Bool} (v : Ipv4) : Groups first true (separator first ++ ipv4Chars v) v.asGroups

/-- What may stand behind a group that does not begin an IPv4 address. -/
def EndsGroup (rest : List Char) : Prop := Clear (fun c => isHexDigit c || c == '.') rest

/-- There is no further group in front. -/
def NoGroup (first : Bool) (rest : List Char) : Prop :=
  ∀ inner, rest = separator first ++ inner → Clear isHexDigit inner

theorem EndsGroup.clear (ends : EndsGroup rest) : Clear isHexDigit rest := by
  intro c first
  have either := ends c first
  rw [Bool.or_eq_false_iff] at either
  exact either.1

theorem isHexDigit_of_isDigit (digit : isDigit c = true) : isHexDigit c = true := by
  have range : '0' ≤ c ∧ c ≤ '9' := isDigit_iff.1 digit
  rw [isHexDigit, hexDigit?, if_pos range]
  rfl

theorem takeSeparator_eq_some_iff {first : Bool} {u : Unit} :
    takeSeparator first cs = some (u, rest) ↔ cs = separator first ++ rest := by
  cases first with
  | false => exact takeChar_eq_some_iff
  | true => simp [takeSeparator, separator]

theorem exists_ipv4Chars (v : Ipv4) (rest : List Char) :
    ∃ more, ipv4Chars v ++ rest = natChars v.a.toNat ++ '.' :: more :=
  ⟨_, by rw [ipv4Chars, List.append_assoc, List.append_assoc, List.append_assoc]; rfl⟩

/-- The digits in front of an IPv4 address end at a dot. -/
theorem not_ipv4_of_endsGroup {text : List Char} (digits : ∀ c ∈ text, isHexDigit c = true)
    (ends : EndsGroup rest) : takeIpv4 (text ++ rest) = none := by
  rw [Option.eq_none_iff_forall_ne_some]
  rintro ⟨v, rest'⟩ taken
  obtain ⟨same, -⟩ := takeIpv4_eq_some_iff.1 taken
  obtain ⟨more, octet⟩ := exists_ipv4Chars v rest'
  have inOctet : ∀ c ∈ natChars v.a.toNat, isHexDigit c = true := fun c among =>
    isHexDigit_of_isDigit (isDigit_of_denotes (denotes_natChars _) c among)
  have dropped := congrArg (List.dropWhile isHexDigit) (same.trans octet)
  rw [List.dropWhile_append_of_pos digits, List.dropWhile_append_of_pos inOctet,
    dropWhile_of_clear ends.clear] at dropped
  have dot := ends '.' (by rw [dropped]; rfl)
  cases dot

theorem takeIpv4_of_clear (clear : Clear isHexDigit rest) : takeIpv4 rest = none := by
  rw [Option.eq_none_iff_forall_ne_some]
  rintro ⟨v, rest'⟩ taken
  obtain ⟨rfl, -⟩ := takeIpv4_eq_some_iff.1 taken
  obtain ⟨more, octet⟩ := exists_ipv4Chars v rest'
  obtain ⟨c, cs, first⟩ := List.exists_cons_of_ne_nil (natChars_ne_nil v.a.toNat)
  have digit := isDigit_of_denotes (denotes_natChars v.a.toNat) c (by simp [first])
  have none := clear c (by rw [octet, first]; rfl)
  rw [isHexDigit_of_isDigit digit] at none
  cases none

theorem takeGroup_of_clear (clear : Clear isHexDigit rest) : takeGroup rest = none := by
  rw [Option.eq_none_iff_forall_ne_some]
  rintro ⟨g, rest'⟩ taken
  obtain ⟨text, ⟨run, -⟩, rfl, -⟩ := takeGroup_eq_some_iff.1 taken
  obtain ⟨c, cs, rfl⟩ := List.exists_cons_of_ne_nil run.nonempty
  have digit := run.digits c List.mem_cons_self
  have none := clear c rfl
  rw [isHexDigit, digit] at none
  cases none

/-- Where no group is in front, none is taken. -/
theorem takeGroups_of_noGroup {first : Bool} (stop : NoGroup first rest) (room : Nat) :
    takeGroups room first rest = (([], false), rest) := by
  cases room with
  | zero => rfl
  | succ room =>
    rw [takeGroups]
    cases taken : takeSeparator first rest with
    | none => rfl
    | some pair =>
      obtain ⟨u, inner⟩ := pair
      have clear := stop inner (takeSeparator_eq_some_iff.1 taken)
      have none : (if 0 < room then takeIpv4 inner else none) = none := by
        rw [takeIpv4_of_clear clear, ite_self]
      dsimp only
      rw [none, takeGroup_of_clear clear]

theorem Groups.endsGroup {dotted : Bool} {more : List Char} {gs : List UInt16}
    (groups : Groups false dotted more gs) (ends : EndsGroup rest) : EndsGroup (more ++ rest) := by
  cases groups with
  | none => exact ends
  | group | address => exact clear_cons rfl

/-- Groups are taken as far as they go. -/
theorem takeGroups_append {first dotted : Bool} {text : List Char} {gs : List UInt16} {room : Nat}
    (groups : Groups first dotted text gs) (fits : gs.length ≤ room) (ends : EndsGroup rest)
    (stop : dotted = false → NoGroup false rest) :
    takeGroups room first (text ++ rest) = ((gs, dotted), rest) := by
  induction groups generalizing room with
  | @none first =>
    apply takeGroups_of_noGroup
    cases first with
    | false => exact stop rfl
    | true =>
      rintro inner rfl
      exact ends.clear
  | @group first dotted text more g gs isGroup later ih =>
    cases room with
    | zero => cases fits
    | succ room =>
      have ends' := later.endsGroup ends
      have front : takeSeparator first (separator first ++ (text ++ (more ++ rest))) =
          some ((), text ++ (more ++ rest)) := takeSeparator_eq_some_iff.2 rfl
      -- An IPv4 address is tried first, and fails at the end of the group, where no dot is.
      have none : (if 0 < room then takeIpv4 (text ++ (more ++ rest)) else none) = none := by
        rw [not_ipv4_of_endsGroup isGroup.run.digits ends', ite_self]
      have taken : takeGroup (text ++ (more ++ rest)) = some (g, more ++ rest) :=
        takeGroup_eq_some_iff.2 ⟨text, isGroup, rfl, ends'.clear⟩
      rw [List.append_assoc, List.append_assoc, takeGroups, front]
      dsimp only
      rw [none, taken]
      dsimp only
      rw [ih (Nat.le_of_succ_le_succ fits) stop]
  | @address first v =>
    have two : 2 ≤ room := fits
    obtain ⟨room, rfl⟩ : ∃ room', room = room' + 2 := ⟨room - 2, by omega⟩
    have front : takeSeparator first (separator first ++ (ipv4Chars v ++ rest)) =
        some ((), ipv4Chars v ++ rest) := takeSeparator_eq_some_iff.2 rfl
    have clear : Clear isDigit rest := by
      intro c first
      have none := ends.clear c first
      cases digit : isDigit c with
      | false => rfl
      | true =>
        rw [isHexDigit_of_isDigit digit] at none
        cases none
    rw [List.append_assoc, takeGroups, front]
    dsimp only
    rw [if_pos (Nat.succ_pos room), takeIpv4_eq_some_iff.2 ⟨rfl, clear⟩]

/-- What is taken as groups is the text of groups. -/
theorem exists_of_takeGroups {first dotted : Bool} {gs : List UInt16} {room : Nat}
    (taken : takeGroups room first cs = ((gs, dotted), rest)) :
    ∃ text, Groups first dotted text gs ∧ cs = text ++ rest ∧ gs.length ≤ room := by
  induction room generalizing first dotted cs gs with
  | zero =>
    cases taken
    exact ⟨[], .none, rfl, Nat.le_refl 0⟩
  | succ room ih =>
    rw [takeGroups] at taken
    split at taken
    next =>
      cases taken
      exact ⟨[], .none, rfl, Nat.zero_le _⟩
    next inner front =>
      obtain rfl := takeSeparator_eq_some_iff.1 front
      split at taken
      next v rest' address =>
        cases taken
        split at address
        next space =>
          obtain ⟨rfl, -⟩ := takeIpv4_eq_some_iff.1 address
          exact ⟨_, .address v, (List.append_assoc ..).symm, Nat.succ_le_succ space⟩
        next => cases address
      next =>
        split at taken
        next =>
          cases taken
          exact ⟨[], .none, rfl, Nat.zero_le _⟩
        next g rest' group =>
          obtain ⟨text, isGroup, rfl, -⟩ := takeGroup_eq_some_iff.1 group
          cases later : takeGroups room false rest' with
          | mk pair rest'' =>
            obtain ⟨gs', dotted'⟩ := pair
            rw [later] at taken
            cases taken
            obtain ⟨more, groups, rfl, fits⟩ := ih later
            exact ⟨_, .group isGroup groups, by simp, Nat.succ_le_succ fits⟩

/-! ## IPv6 -/

/-- The text of an IPv6 address: eight groups, or fewer around a double colon, which stands for all
groups of zeros that are missing, and for one at least. -/
inductive IsIpv6 : List Char → Ipv6 → Prop where
  | full {dotted : Bool} {text : List Char} {v : Ipv6} : Groups true dotted text v.groups →
      IsIpv6 text v
  | compressed {dotted : Bool} {front back : List Char} {fs bs : List UInt16} {v : Ipv6} :
      Groups true false front fs → Groups true dotted back bs → fs.length + bs.length < 8 →
      v.groups = fs ++ List.replicate (8 - fs.length - bs.length) 0 ++ bs →
      IsIpv6 (front ++ ':' :: ':' :: back) v

theorem ofGroups?_eq_some_iff {gs : List UInt16} {v : Ipv6} :
    ofGroups? gs = some v ↔ v.groups = gs := by
  rw [ofGroups?]
  constructor
  · intro made
    split at made
    · cases made
      rfl
    · cases made
  · rintro rfl
    rw [dif_pos v.eight]

/-- What is taken as an IPv6 address is the text of one. -/
theorem exists_of_takeIpv6 {v : Ipv6} (taken : takeIpv6 cs = some (v, rest)) :
    ∃ text, IsIpv6 text v ∧ cs = text ++ rest := by
  rw [takeIpv6] at taken
  cases before : takeGroups 8 true cs with
  | mk pair middle =>
    obtain ⟨fs, dotted⟩ := pair
    obtain ⟨front, groups, rfl, room⟩ := exists_of_takeGroups before
    rw [before] at taken
    dsimp only at taken
    split at taken
    next eight =>
      simp only [Option.bind_eq_bind, Option.bind_eq_some_iff, Option.pure_def,
        Option.some.injEq] at taken
      obtain ⟨v', made, same⟩ := taken
      cases same
      have whole : v.groups = fs := ofGroups?_eq_some_iff.1 made
      exact ⟨front, .full (whole ▸ groups), rfl⟩
    next fewer =>
      split at taken
      next => cases taken
      next plain =>
        simp only [Option.bind_eq_bind, Option.bind_eq_some_iff, Option.pure_def, Prod.exists,
          takeChar_eq_some_iff] at taken
        obtain ⟨_, _, rfl, _, behind, rfl, taken⟩ := taken
        cases after : takeGroups (7 - fs.length) true behind with
        | mk pair rest' =>
          obtain ⟨bs, dotted'⟩ := pair
          obtain ⟨back, groups', rfl, room'⟩ := exists_of_takeGroups after
          rw [after] at taken
          simp only [Option.some.injEq] at taken
          obtain ⟨v', made, same⟩ := taken
          cases same
          rw [Bool.not_eq_true] at plain
          subst plain
          exact ⟨_, .compressed groups groups' (by omega) (ofGroups?_eq_some_iff.1 made), by simp⟩

/-- What may stand behind an IPv6 address. -/
def EndsIpv6 (rest : List Char) : Prop :=
  Clear (fun c => isHexDigit c || c == '.' || c == ':') rest

theorem EndsIpv6.endsGroup (ends : EndsIpv6 rest) : EndsGroup rest := by
  intro c first
  have each := ends c first
  rw [Bool.or_eq_false_iff] at each
  exact each.1

theorem EndsIpv6.noGroup (ends : EndsIpv6 rest) : NoGroup false rest := by
  rintro inner rfl
  have colon := ends ':' rfl
  cases colon

/-- The text of an IPv6 address is taken as that address. -/
theorem takeIpv6_append {text : List Char} {v : Ipv6} (spelled : IsIpv6 text v)
    (ends : EndsIpv6 rest) : takeIpv6 (text ++ rest) = some (v, rest) := by
  cases spelled with
  | full groups =>
    have taken := takeGroups_append groups (Nat.le_of_eq v.eight) ends.endsGroup
      fun _ => ends.noGroup
    rw [takeIpv6, taken]
    dsimp only
    rw [if_pos v.eight, ofGroups?_eq_some_iff.2 rfl]
    rfl
  | @compressed dotted front back fs bs _ before after fewer whole =>
    -- Behind the first colon of the two comes no digit, so the groups in front end there.
    have double : NoGroup false (':' :: ':' :: (back ++ rest)) := by
      rintro inner ⟨⟩
      exact clear_cons rfl
    have first : takeGroups 8 true (front ++ ':' :: ':' :: (back ++ rest)) =
        ((fs, false), ':' :: ':' :: (back ++ rest)) :=
      takeGroups_append before (by omega) (clear_cons rfl) fun _ => double
    have second : takeGroups (7 - fs.length) true (back ++ rest) = ((bs, dotted), rest) :=
      takeGroups_append after (by omega) ends.endsGroup fun _ => ends.noGroup
    have ordered : (front ++ ':' :: ':' :: back) ++ rest = front ++ ':' :: ':' :: (back ++ rest) := by
      simp
    rw [ordered, takeIpv6, first]
    dsimp only
    rw [if_neg (by omega), if_neg Bool.false_ne_true]
    simp only [takeChar, if_true, Option.bind_eq_bind, Option.bind_some, second]
    rw [ofGroups?_eq_some_iff.2 whole]
    rfl

end MarketDesk.Net
