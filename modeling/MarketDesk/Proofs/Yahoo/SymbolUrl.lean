import MarketDesk.Proofs.Url.Segments
import MarketDesk.Yahoo.Client

/-!
# Symbols in addresses

A service is asked for a symbol at its own address with the symbol appended as an escaped segment.
A plain symbol can be read off that segment, so two of them never share an address. Other symbols
lose something: tabs and line ends are dropped, dot segments add nothing, and a drive is brought
into its written form. `symbols_are_kept_iff` says which symbols are kept at which addresses.
-/

namespace MarketDesk

open MarketDesk.Text

namespace Url

variable {scheme symbol : List Char} {before L R : List (List Char)}

/-! ## What is kept of a text -/

/-- The segments are those before, without one empty segment at their end, and one more that decodes
to the text. -/
def Carries (before after : List (List Char)) (symbol : List Char) : Prop :=
  ∃ segment, after = withoutTrailing before ++ [segment] ∧
    Percent.decode? segment = some symbol

/-- The text is no dot segment, has no tabs and line ends, and is no drive with a bar at the root of
a file. -/
structure IsPlain (scheme : List Char) (L : List (List Char)) (symbol : List Char) : Prop where
  single : symbol ≠ ['.']
  double : symbol ≠ ['.', '.']
  whole : ∀ c ∈ symbol, isDropped c = false
  noDrive : scheme = "file".toList → L = [[]] → ∀ letter, isLetter letter = true →
    symbol ≠ [letter, '|']

theorem IsPlain.decode?_escaped (plain : IsPlain scheme L symbol) :
    Percent.decode? (escaped scheme symbol) = some symbol := by
  rw [Url.decode?_escaped, unbroken_eq_self plain.whole]

theorem decode?_drive {letter mark : Char} (isLetter : isLetter letter = true)
    (marked : mark = ':' ∨ mark = '|') :
    Percent.decode? [letter, mark] = some [letter, mark] := by
  apply Percent.decode?_plain
  simp only [List.mem_cons, List.not_mem_nil, or_false, forall_eq_or_imp, forall_eq]
  refine ⟨⟨ascii_of_isLetter isLetter, (kept_of_isLetter isLetter).2.2⟩, ?_⟩
  rcases marked with rfl | rfl <;> decide

/-- A plain text is appended as one escaped segment. -/
theorem Pushes.eq_of_isPlain (pushes : Pushes scheme L symbol R) (plain : IsPlain scheme L symbol) :
    R = stem L ++ [escaped scheme symbol] := by
  have decoded := plain.decode?_escaped
  cases pushes with
  | ignored dots => exact (dots.elim plain.single plain.double).elim
  | up dots =>
    rw [decode?_of_isDoubleDot dots] at decoded
    exact (plain.double (Option.some.inj decoded).symm).elim
  | here dot =>
    rw [decode?_of_isSingleDot dot] at decoded
    exact (plain.single (Option.some.inj decoded).symm).elim
  | @drive letter mark file root isLetter marked text =>
    rw [text, decode?_drive isLetter marked] at decoded
    obtain rfl | rfl := marked
    · rw [text, root]
      rfl
    · exact (plain.noDrive file root letter isLetter (Option.some.inj decoded).symm).elim
  | brokenDrive _ _ _ broken =>
    obtain ⟨front, c, rest, rfl, -, dropped⟩ := exists_break broken
    rw [plain.whole c (by simp)] at dropped
    cases dropped
  | appended => rfl

theorem length_of_carries (carries : Carries L R symbol) :
    R.length = (withoutTrailing L).length + 1 := by
  obtain ⟨segment, rfl, -⟩ := carries
  simp

/-- Of two empty segments both are dropped, so nothing can be appended to one of them. -/
theorem Pushes.ne_double_of_carries (pushes : Pushes scheme L symbol R)
    (carries : Carries L R symbol) : L ≠ [[], []] := by
  rintro rfl
  have long : R.length = 2 := length_of_carries carries
  cases pushes with
  | ignored => exact absurd long (by decide)
  | up => exact absurd long (by decide)
  | here => exact absurd long (by decide)
  | drive _ root => cases root
  | brokenDrive _ root => cases root
  | appended => exact absurd long (by simp [stem, dropTrailing])

/-- An empty segment at the end carries only the empty text. -/
theorem eq_nil_of_carries_concat (carries : Carries L (before ++ [[]]) symbol) : symbol = [] := by
  obtain ⟨segment, whole, decoded⟩ := carries
  obtain rfl : [] = segment := by simpa using congrArg List.getLast? whole
  cases decoded
  rfl

theorem escaped_nil (scheme : List Char) : escaped scheme [] = [] := rfl

theorem escaped_drive {letter : Char} (isLetter : isLetter letter = true) :
    escaped scheme [letter, '|'] = [letter, '|'] := by
  obtain ⟨kept, whole, -⟩ := kept_of_isLetter isLetter
  have bar : (∀ special, keptInSegment special '|' = true) ∧ isDropped '|' = false := by decide
  have both : unbroken [letter, '|'] = [letter, '|'] :=
    unbroken_eq_self (by simp [whole, bar.2])
  rw [escaped, both]
  apply Percent.encode_eq_self
  simp [ascii_of_isLetter isLetter, kept, bar.1]

/-- A text is kept as one more segment just if it is plain and the path before it is not two
slashes. -/
theorem Pushes.carries_iff (pushes : Pushes scheme L symbol R) :
    Carries L R symbol ↔ IsPlain scheme L symbol ∧ L ≠ [[], []] := by
  constructor
  · intro carries
    have nontrivial := pushes.ne_double_of_carries carries
    refine ⟨?_, nontrivial⟩
    have long := length_of_carries carries
    cases pushes with
    | ignored dots =>
      by_cases root : L = [[]]
      · subst root
        have last : Carries [[]] ([] ++ [[]]) symbol := carries
        obtain rfl := eq_nil_of_carries_concat last
        simp at dots
      · rw [dropTrailing_eq root] at long
        omega
    | up dots =>
      obtain rfl := eq_nil_of_carries_concat carries
      rw [escaped_nil] at dots
      exact absurd dots (by decide)
    | here dot =>
      obtain rfl := eq_nil_of_carries_concat carries
      rw [escaped_nil] at dot
      exact absurd dot (by decide)
    | @drive letter mark file root isLetter marked text =>
      subst root
      obtain ⟨segment, whole, decoded⟩ := carries
      obtain rfl : [letter, ':'] = segment := by simpa [withoutTrailing] using whole
      rw [decode?_drive isLetter (.inl rfl)] at decoded
      obtain rfl : [letter, ':'] = symbol := Option.some.inj decoded
      have whole := (kept_of_isLetter isLetter).2.1
      have colon : isDropped ':' = false := rfl
      exact {
        single := by simp
        double := by simp
        whole := by simp [whole, colon]
        noDrive := by simp }
    | brokenDrive _ root =>
      subst root
      exact absurd long (by simp [withoutTrailing])
    | appended single double noDrive =>
      obtain ⟨segment, whole, decoded⟩ := carries
      rw [stem_eq nontrivial] at whole
      obtain rfl : escaped scheme symbol = segment := by simpa using whole
      rw [decode?_escaped] at decoded
      have same : unbroken symbol = symbol := Option.some.inj decoded
      have whole : ∀ c ∈ symbol, isDropped c = false := by
        rw [← same]
        exact fun c => isDropped_of_mem_unbroken
      refine ⟨single, double, whole, fun file root letter isLetter drive => ?_⟩
      have apart := noDrive file root
      rw [drive, escaped_drive isLetter, isDrive_pair.2 ⟨isLetter, .inr rfl⟩] at apart
      cases apart
  · rintro ⟨plain, nontrivial⟩
    rw [pushes.eq_of_isPlain plain, stem_eq nontrivial]
    exact ⟨_, rfl, plain.decode?_escaped⟩

/-- Plain texts that are appended to the same segments give different paths. -/
theorem Pushes.inj_of_isPlain {other : List Char} (pushes : Pushes scheme L symbol R)
    (pushes' : Pushes scheme L other R) (plain : IsPlain scheme L symbol)
    (plain' : IsPlain scheme L other) : symbol = other := by
  have same := (pushes.eq_of_isPlain plain).symm.trans (pushes'.eq_of_isPlain plain')
  have escapes : escaped scheme symbol = escaped scheme other := by simpa using same
  have decoded := plain.decode?_escaped
  rw [escapes, plain'.decode?_escaped] at decoded
  exact (Option.some.inj decoded).symm

end Url

namespace Yahoo

open MarketDesk.Url

variable {base : String} {u : Url} {L : List (List Char)}

/-- At an address with segments the symbol is appended to these. -/
theorem symbolUrl?_eq (parsed : Url.ofText? base = .ok u) (segmented : u.path = .segments L)
    (symbol : Symbol) :
    symbolUrl? base symbol = .ok
      { u with path := .segments (pushSegment u.scheme (dropTrailing L) symbol.text.toList) } := by
  simp only [symbolUrl?, parsed, Url.push?, segmented]

theorem symbolUrl?_pushes (parsed : Url.ofText? base = .ok u) (segmented : u.path = .segments L)
    (symbol : Symbol) :
    ∃ R, Pushes u.scheme L symbol.text.toList R ∧
      symbolUrl? base symbol = .ok { u with path := .segments R } :=
  ⟨_, pushSegment_pushes (beginsOnce_of_ofText? parsed segmented),
    symbolUrl?_eq parsed segmented symbol⟩

/-- **Which symbols are kept.** Every symbol can be appended at a service whose address has
segments. The address has the segments of the service then, without one empty segment at their end,
and one more that decodes to the symbol, just if the symbol is plain and the path of the service is
not two slashes. Different symbols that are plain have different addresses. -/
theorem symbols_are_kept_iff (parsed : Url.ofText? base = .ok u)
    (segmented : u.path = .segments L) :
    (∀ symbol : Symbol, ∃ url R, symbolUrl? base symbol = .ok url ∧ url.path = .segments R ∧
      (Carries L R symbol.text.toList ↔
        IsPlain u.scheme L symbol.text.toList ∧ L ≠ [[], []])) ∧
    ∀ s t : Symbol, IsPlain u.scheme L s.text.toList → IsPlain u.scheme L t.text.toList →
      symbolUrl? base s = symbolUrl? base t → s = t := by
  constructor
  · intro symbol
    obtain ⟨R, pushes, url⟩ := symbolUrl?_pushes parsed segmented symbol
    exact ⟨_, R, url, rfl, pushes.carries_iff⟩
  · intro s t plain plain' same
    obtain ⟨R, pushes, url⟩ := symbolUrl?_pushes parsed segmented s
    obtain ⟨R', pushes', url'⟩ := symbolUrl?_pushes parsed segmented t
    rw [url, url'] at same
    obtain rfl : R = R' := by simpa using same
    have texts := pushes.inj_of_isPlain pushes' plain plain'
    cases s
    cases t
    exact congrArg Symbol.mk (String.toList_inj.1 texts)

/-- A service with an empty segment at the end of its path. -/
def trailing : Url where
  scheme := "http".toList
  authority := some ⟨[], "[::1]".toList, none⟩
  guarded := false
  path := .segments ["chart".toList, []]
  query := none
  fragment := none

/-- A symbol of slashes, dots, escapes and characters beyond ASCII is kept. -/
theorem symbols_are_kept_iff_escapes :
    Url.ofText? "http://[::1]/chart/" = .ok trailing ∧
      trailing.path = .segments ["chart".toList, []] ∧
      ∃ url R, symbolUrl? "http://[::1]/chart/" ⟨"../%2e?é#\\"⟩ = .ok url ∧
        url.path = .segments R ∧ Carries ["chart".toList, []] R "../%2e?é#\\".toList := by
  have parsed : Url.ofText? "http://[::1]/chart/" = .ok trailing := rfl
  obtain ⟨url, R, made, path, kept⟩ := (symbols_are_kept_iff parsed rfl).1 ⟨"../%2e?é#\\"⟩
  have plain : IsPlain trailing.scheme ["chart".toList, []] "../%2e?é#\\".toList := {
    single := by decide
    double := by decide
    whole := by simp [isDropped]
    noDrive := fun file => absurd file (by decide) }
  exact ⟨parsed, rfl, url, R, made, path, kept.2 ⟨plain, by decide⟩⟩

/-- A tab is dropped from a symbol, which shares its address with the symbol without it. -/
theorem tab_is_lost :
    Url.ofText? "http://[::1]/chart/" = .ok trailing ∧
      symbolUrl? "http://[::1]/chart/" ⟨"A\tB"⟩ = symbolUrl? "http://[::1]/chart/" ⟨"AB"⟩ ∧
      ∃ url, symbolUrl? "http://[::1]/chart/" ⟨"A\tB"⟩ = .ok url ∧
        url.path = .segments ["chart".toList, "AB".toList] ∧
        ¬ Carries ["chart".toList, []] ["chart".toList, "AB".toList] "A\tB".toList := by
  refine ⟨rfl, rfl, _, rfl, rfl, ?_⟩
  rintro ⟨segment, whole, decoded⟩
  obtain rfl : "AB".toList = segment := by simpa [withoutTrailing] using whole
  exact absurd decoded (by decide)

end Yahoo

end MarketDesk
