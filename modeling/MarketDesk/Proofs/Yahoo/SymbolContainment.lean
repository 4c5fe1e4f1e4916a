import MarketDesk.Proofs.Yahoo.Exchange
import MarketDesk.Proofs.Yahoo.SymbolUrl

/-!
# Symbols cannot redirect requests

Whatever a symbol holds, appending it to the address of a service leaves everything but the path as
it is, and adds at most one segment to the path. The text that it adds can neither end the segment
nor begin another part of the address, so the parameters that are added afterwards are read back as
they were meant. `symbols_stay_in_path` says so; the one symbol that it does not count is a drive
with a break in it, at the root of a file.
-/

namespace MarketDesk

open MarketDesk.Text

namespace Url

variable {scheme symbol : List Char} {special : Bool} {cs : List Char} {L R : List (List Char)}

/-! ## Texts of segments -/

/-- The character is visible ASCII and no mark that a path escapes. A backslash is such a mark under
a special scheme. -/
def IsSegmentChar (special : Bool) (c : Char) : Prop :=
  0x20 < c.toNat ∧ c.toNat < 0x7F ∧ c ∉ ['/', '?', '#', '"', '<', '>', '`', '\x7b', '\x7d'] ∧
    (special = true → c ≠ '\\')

instance (special : Bool) (c : Char) : Decidable (IsSegmentChar special c) :=
  inferInstanceAs (Decidable (_ ∧ _ ∧ _ ∧ _))

/-- The text has only characters that may stand in a segment, and each percent sign begins an
escape. -/
inductive IsSegmentText (special : Bool) : List Char → Prop where
  | nil : IsSegmentText special []
  | char {c : Char} {cs : List Char} : c ≠ '%' → IsSegmentChar special c →
    IsSegmentText special cs → IsSegmentText special (c :: cs)
  | escape {high low : Char} {cs : List Char} : (hexDigit? high).isSome → (hexDigit? low).isSome →
    IsSegmentText special cs → IsSegmentText special ('%' :: high :: low :: cs)

namespace IsSegmentText

theorem append {ds : List Char} (first : IsSegmentText special cs)
    (second : IsSegmentText special ds) : IsSegmentText special (cs ++ ds) := by
  induction first with
  | nil => exact second
  | char plain may _ ih => exact .char plain may ih
  | escape high low _ ih => exact .escape high low ih

theorem flatMap {α : Type} {f : α → List Char} {as : List α}
    (each : ∀ a ∈ as, IsSegmentText special (f a)) : IsSegmentText special (as.flatMap f) := by
  induction as with
  | nil => exact .nil
  | cons a as ih =>
    rw [List.flatMap_cons]
    exact (each a (.head as)).append (ih fun b mem => each b (.tail a mem))

/-- What comes after a character that is no percent sign. -/
theorem of_cons {c : Char} (text : IsSegmentText special (c :: cs)) (plain : c ≠ '%') :
    IsSegmentText special cs := by
  cases text with
  | char _ _ rest => exact rest
  | escape => exact (plain rfl).elim

end IsSegmentText

theorem isSegmentText_escapeByte (b : UInt8) : IsSegmentText special (Percent.escapeByte b) := by
  have high := (Percent.hexDigit?_escapeDigit (b.toNat / 16) (by have := b.toNat_lt; omega)).1
  have low := (Percent.hexDigit?_escapeDigit (b.toNat % 16) (by omega)).1
  rw [Percent.escapeByte_eq]
  exact .escape (by simp [high]) (by simp [low]) .nil

theorem isSegmentChar_of_kept {c : Char} (ascii : c.toNat < 0x80)
    (kept : keptInSegment special c = true) : c ≠ '%' ∧ IsSegmentChar special c := by
  have every : ∀ d : Char, d.toNat < 0x80 → ∀ special, keptInSegment special d = true →
      d ≠ '%' ∧ IsSegmentChar special d := forall_ascii (by decide)
  exact every c ascii special kept

/-- An escaped segment holds no mark, whatever it was before. -/
theorem isSegmentText_encode (special : Bool) (cs : List Char) :
    IsSegmentText special (Percent.encode (keptInSegment special) cs) := by
  refine .flatMap fun c _ => ?_
  rcases Percent.encodeChar_cases (keptInSegment special) c with ⟨ascii, kept, self⟩ | escapes
  · obtain ⟨plain, may⟩ := isSegmentChar_of_kept ascii kept
    rw [self]
    exact .char plain may .nil
  · rw [escapes]
    exact .flatMap fun b _ => isSegmentText_escapeByte b

theorem isSegmentText_drive {letter : Char} (isLetter : isLetter letter = true) :
    IsSegmentText special [letter, ':'] := by
  have kept := (kept_of_isLetter isLetter).1 special
  obtain ⟨plain, may⟩ := isSegmentChar_of_kept (ascii_of_isLetter isLetter) kept
  have colon : ∀ special, IsSegmentChar special ':' := by decide
  exact .char plain may (.char (by decide) (colon special) .nil)

/-! ## What is added -/

/-- The text is a drive with its colon, a break right after that and more text, at the root of a
file. -/
def SplitsDrive (scheme : List Char) (L : List (List Char)) (symbol : List Char) : Prop :=
  scheme = "file".toList ∧ L = [[]] ∧
    ∃ letter front c rest, symbol = front ++ ':' :: c :: rest ∧ unbroken front = [letter] ∧
      isLetter letter = true ∧ isDropped c = true ∧ unbroken rest ≠ []

/-- The drive that becomes a segment of its own is a letter before a break. -/
theorem splitsDrive_of_escaped {letter : Char} {written : List Char}
    (file : scheme = "file".toList) (root : L = [[]]) (isLetter : isLetter letter = true)
    (broken : breaksAfterColon symbol = true) (more : written ≠ [])
    (text : escaped scheme symbol = letter :: ':' :: written) : SplitsDrive scheme L symbol := by
  obtain ⟨front, c, rest, rfl, free, dropped⟩ := exists_break broken
  have colon : isDropped ':' = false := rfl
  have whole : unbroken (front ++ ':' :: c :: rest) = unbroken front ++ ':' :: unbroken rest := by
    simp [unbroken, colon, dropped]
  rw [escaped, whole] at text
  -- The first two characters are no escapes, so they are the first two of the text as well.
  obtain ⟨others, first, others_text⟩ :=
    Percent.encode_eq_cons text (kept_of_isLetter isLetter).2.2
  obtain ⟨tail, rfl, tail_text⟩ := Percent.encode_eq_cons others_text (by decide)
  have apart : ':' ∉ unbroken front := fun mem => free (List.mem_filter.1 mem).1
  have apart' : ':' ∉ [letter] := by
    rw [List.mem_singleton]
    rintro rfl
    exact absurd isLetter (by decide)
  have cut : unbroken front ++ ':' :: unbroken rest = [letter] ++ ':' :: tail := first
  have parts := congrArg (splitOn ':') cut
  rw [splitOn_append_mark apart, splitOn_append_mark apart'] at parts
  have drive : unbroken front = [letter] := (List.cons.inj parts).1
  have after : unbroken rest = tail := by simpa [drive] using cut
  refine ⟨file, root, letter, front, c, rest, rfl, drive, isLetter, dropped, ?_⟩
  rw [after]
  rintro rfl
  exact more tail_text.symm

/-- A text adds at most one segment to those that stay, unless it splits a drive; and all that it
adds are texts of segments. -/
theorem Pushes.contained (pushes : Pushes scheme L symbol R) :
    ∃ stay added, R = stay ++ added ∧ stay <+: withoutTrailing L ∧
      (∀ segment ∈ added, IsSegmentText (isSpecial scheme) segment) ∧
      (¬ SplitsDrive scheme L symbol → added.length ≤ 1) := by
  have written : IsSegmentText (isSpecial scheme) (escaped scheme symbol) :=
    isSegmentText_encode _ _
  have one {stay : List (List Char)} {segment : List Char} (before : stay <+: withoutTrailing L)
      (text : IsSegmentText (isSpecial scheme) segment) :
      ∃ stay' added, stay ++ [segment] = stay' ++ added ∧ stay' <+: withoutTrailing L ∧
        (∀ segment ∈ added, IsSegmentText (isSpecial scheme) segment) ∧
        (¬ SplitsDrive scheme L symbol → added.length ≤ 1) :=
    ⟨stay, [segment], rfl, before, by simpa using text, by simp⟩
  cases pushes with
  | ignored =>
    by_cases root : L = [[]]
    · subst root
      exact one List.nil_prefix .nil
    · rw [dropTrailing_eq root]
      exact ⟨_, [], (List.append_nil _).symm, List.prefix_rfl, by simp, by simp⟩
  | up => exact one ((above_isPrefix _).trans (stem_isPrefix L)) .nil
  | here => exact one (stem_isPrefix L) .nil
  | drive _ _ isLetter => exact one List.nil_prefix (isSegmentText_drive isLetter)
  | @brokenDrive letter rest file root isLetter broken more text =>
    have splits := splitsDrive_of_escaped file root isLetter broken more text
    rw [text] at written
    have after := (written.of_cons (kept_of_isLetter isLetter).2.2).of_cons (by decide)
    refine ⟨[], _, rfl, List.nil_prefix, ?_, fun whole => (whole splits).elim⟩
    simpa using ⟨isSegmentText_drive isLetter, after⟩
  | appended => exact one (stem_isPrefix L) written

end Url

namespace Yahoo

open MarketDesk.Url

variable {base : String} {u url full : Url} {L : List (List Char)}

/-- The text of an address shows the segments of its path in their order. -/
theorem chars_segments_append (u : Url) (stay added : List (List Char)) :
    { u with path := .segments (stay ++ added) }.chars =
      u.front ++ pathChars (.segments stay) ++ pathChars (.segments added) ++
        marked '?' u.query ++ marked '#' u.fragment := by
  have path : pathChars (.segments (stay ++ added)) =
      pathChars (.segments stay) ++ pathChars (.segments added) := List.flatMap_append
  show u.front ++ pathChars (.segments (stay ++ added)) ++ _ ++ _ = _
  rw [path, ← List.append_assoc]

/-- The address that is requested is the one with the parameters, less its user info. -/
theorem eq_of_requestUrl? {ps : List (String × String)} (prepared : requestUrl? url ps = .ok full) :
    full = { url.append (parameterChars ps) with authority := url.withoutUserInfo.authority } := by
  rw [eq_append_of_requestUrl? prepared]
  unfold Url.append
  split <;> rfl

/-- **Symbols stay in the path.** At a service whose address has segments, appending a symbol leaves
everything but the path as it is: scheme, user info, host, port, query and fragment. The path keeps
segments from its beginning, and at most one is added, unless a drive is split. What is added to the
text are texts of segments after slashes. So every list of parameters, be it that of a chart or that
of a summary with any crumb, is read back after the pairs that the query of the service has. -/
theorem symbols_stay_in_path (parsed : Url.ofText? base = .ok u)
    (segmented : u.path = .segments L) (symbol : Symbol) :
    ∃ url stay added, symbolUrl? base symbol = .ok url ∧
      url = { u with path := .segments (stay ++ added) } ∧
      stay <+: withoutTrailing L ∧
      (¬ SplitsDrive u.scheme L symbol.text.toList → added.length ≤ 1) ∧
      url.chars = u.front ++ pathChars (.segments stay) ++ pathChars (.segments added) ++
        marked '?' u.query ++ marked '#' u.fragment ∧
      (∀ segment ∈ added, IsSegmentText (isSpecial u.scheme) segment) ∧
      ∀ ps : List (String × String),
        Form.pairs ((url.append (parameterChars ps)).query.getD []) =
          Form.pairs (u.query.getD []) ++ parameterChars ps ∧
        ∀ full, requestUrl? url ps = .ok full →
          full = { url.append (parameterChars ps) with
            authority := url.withoutUserInfo.authority } := by
  obtain ⟨R, pushes, made⟩ := symbolUrl?_pushes parsed segmented symbol
  obtain ⟨stay, added, rfl, before, texts, one⟩ := pushes.contained
  refine ⟨_, stay, added, made, rfl, before, one, chars_segments_append u stay added, texts, ?_⟩
  intro ps
  exact ⟨pairs_append_query _ _, fun full => eq_of_requestUrl?⟩

/-- A service with every part that an address can have. -/
def furnished : Url where
  scheme := "http".toList
  authority := some ⟨"u:p".toList, "[::1]".toList, some 8080⟩
  guarded := false
  path := .segments ["c".toList, []]
  query := some "q=1".toList
  fragment := some "f".toList

/-- The address of a symbol of delimiters. -/
def defused : Url :=
  { furnished with path := .segments ["c".toList, "@evil%2F..%5C%3Fx=%25%23%22".toList] }

/-- A symbol of delimiters is requested with a crumb of delimiters. -/
theorem symbols_stay_in_path_delimiters :
    Url.ofText? "http://u:p@[::1]:8080/c/?q=1#f" = .ok furnished ∧
      furnished.path = .segments ["c".toList, []] ∧
      symbolUrl? "http://u:p@[::1]:8080/c/?q=1#f" ⟨"@evil/..\\?x=%#\""⟩ = .ok defused ∧
      (∃ stay added, defused.path = .segments (stay ++ added) ∧ added.length ≤ 1) ∧
      ∃ full, requestUrl? defused (summaryParameters ⟨"sid", "x&crumb=y+ %#"⟩) = .ok full ∧
        Form.pairs (full.query.getD []) =
          [("q".toList, "1".toList), ("modules".toList, infoModules.toList),
            ("crumb".toList, "x&crumb=y+ %#".toList)] := by
  have parsed : Url.ofText? "http://u:p@[::1]:8080/c/?q=1#f" = .ok furnished := rfl
  have made : symbolUrl? "http://u:p@[::1]:8080/c/?q=1#f" ⟨"@evil/..\\?x=%#\""⟩ = .ok defused := rfl
  have prepared : (requestUrl? defused (summaryParameters
      ⟨"sid", "x&crumb=y+ %#"⟩)).toOption.isSome = true := by decide +kernel
  obtain ⟨url, stay, added, made', same, -, one, -, -, pairs⟩ :=
    symbols_stay_in_path parsed rfl ⟨"@evil/..\\?x=%#\""⟩
  obtain rfl : defused = url := Except.ok.inj (made.symm.trans made')
  have whole : added.length ≤ 1 := one fun splits => absurd splits.1 (by decide)
  refine ⟨parsed, rfl, made, ⟨stay, added, congrArg Url.path same, whole⟩, ?_⟩
  cases request : requestUrl? defused (summaryParameters ⟨"sid", "x&crumb=y+ %#"⟩) with
  | error e =>
    rw [request] at prepared
    cases prepared
  | ok full =>
    refine ⟨full, rfl, ?_⟩
    rw [(pairs _).2 full request]
    exact (pairs _).1

/-- A backslash stands as it is under a scheme that is not special, and a drive with a break in it
adds two segments. -/
theorem symbols_reach_further :
    (∃ url, symbolUrl? "foo://h.test/c" ⟨"A\\B"⟩ = .ok url ∧
      url.path = .segments ["c".toList, "A\\B".toList] ∧
      ¬ IsSegmentText true "A\\B".toList) ∧
    ∃ u url, Url.ofText? "file:///" = .ok u ∧ u.path = .segments [[]] ∧
      symbolUrl? "file:///" ⟨"C:\tfoo"⟩ = .ok url ∧
      url.path = .segments ["C:".toList, "foo".toList] ∧
      ¬ ["C:".toList, "foo".toList].length ≤ (withoutTrailing [[]]).length + 1 := by
  refine ⟨⟨_, rfl, rfl, ?_⟩, _, _, rfl, rfl, rfl, rfl, by decide⟩
  intro text
  cases text with
  | char _ _ rest =>
    cases rest with
    | char _ may _ => exact may.2.2.2 rfl rfl

end Yahoo

end MarketDesk
