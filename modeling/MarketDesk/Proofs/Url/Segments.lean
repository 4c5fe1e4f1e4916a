import Mathlib.Data.List.Basic
import MarketDesk.Proofs.Text.Escapes
import MarketDesk.Url.Extend
import MarketDesk.Url.Parse

/-!
# Appended segments

Appending a text to a path mostly adds it as one escaped segment, which decodes to the text without
its tabs and line ends. `Pushes` lists what else can happen: dot segments add nothing or go up, also
if they become dot segments only when characters are dropped, and at the root of a file a letter
with a colon or a bar is a drive. `pushSegment_pushes` says that there is nothing else. For files it
needs that their paths begin with one slash, as those that are read do.
-/

namespace MarketDesk.Url

open MarketDesk.Text

variable {scheme symbol : List Char} {before L R : List (List Char)}

/-! ## What is appended to -/

/-- The segments without one empty segment at their end. -/
def withoutTrailing (segments : List (List Char)) : List (List Char) :=
  if segments.getLast? = some [] then segments.dropLast else segments

/-- The segments that another one is appended to. -/
def stem (segments : List (List Char)) : List (List Char) :=
  if dropTrailing segments = [[]] then [] else dropTrailing segments

theorem withoutTrailing_concat (before : List (List Char)) :
    withoutTrailing (before ++ [[]]) = before := by
  simp [withoutTrailing]

theorem withoutTrailing_of_getLast? (there : L.getLast? ≠ some []) : withoutTrailing L = L :=
  if_neg there

theorem withoutTrailing_isPrefix (L : List (List Char)) : withoutTrailing L <+: L := by
  unfold withoutTrailing
  split
  · exact L.dropLast_prefix
  · exact List.prefix_rfl

theorem exists_concat_of_getLast? (trailing : L.getLast? = some []) :
    ∃ before, L = before ++ [[]] := by
  obtain ⟨before, rfl⟩ := List.getLast?_eq_some_iff.1 trailing
  exact ⟨before, rfl⟩

theorem dropTrailing_eq (nontrivial : L ≠ [[]]) : dropTrailing L = withoutTrailing L := by
  by_cases trailing : L.getLast? = some []
  · obtain ⟨before, rfl⟩ := exists_concat_of_getLast? trailing
    have nonempty : 0 < before.length := by
      rw [List.length_pos_iff]
      rintro rfl
      exact nontrivial rfl
    rw [withoutTrailing_concat, dropTrailing, if_pos ⟨by simpa using nonempty, trailing⟩,
      List.dropLast_concat]
  · rw [withoutTrailing_of_getLast? trailing, dropTrailing, if_neg fun both => trailing both.2]

/-- A segment is appended to what is there without one empty segment. Only if there are two empty
segments and nothing else, both are dropped. -/
theorem stem_eq (nontrivial : L ≠ [[], []]) : stem L = withoutTrailing L := by
  by_cases root : L = [[]]
  · subst root
    rfl
  · rw [stem, dropTrailing_eq root, if_neg]
    by_cases trailing : L.getLast? = some []
    · obtain ⟨before, rfl⟩ := exists_concat_of_getLast? trailing
      rw [withoutTrailing_concat]
      rintro rfl
      exact nontrivial rfl
    · rwa [withoutTrailing_of_getLast? trailing]

theorem stem_isPrefix (L : List (List Char)) : stem L <+: withoutTrailing L := by
  by_cases double : L = [[], []]
  · subst double
    exact List.nil_prefix
  · have same := stem_eq double
    exact same ▸ List.prefix_rfl

/-- No empty segment comes to be the first one when segments at the end are dropped. -/
theorem head?_of_isPrefix (inside : before <+: L) (solid : L.head? ≠ some []) :
    before.head? ≠ some [] := by
  obtain ⟨dropped, rfl⟩ := inside
  cases before with
  | nil => simp
  | cons first rest => simpa using solid

/-! ## Paths of files -/

/-- The path begins with one slash: an empty segment is first only if it is all there is. -/
inductive BeginsOnce : List (List Char) → Prop where
  | root : BeginsOnce [[]]
  | first {segment : List Char} {rest : List (List Char)} : segment ≠ [] →
    BeginsOnce (segment :: rest)

theorem withOneSlash_beginsOnce (L : List (List Char)) : BeginsOnce (withOneSlash L) := by
  induction L with
  | nil => exact .root
  | cons segment rest ih =>
    cases segment with
    | nil => exact ih
    | cons c cs => exact .first (List.cons_ne_nil c cs)

namespace BeginsOnce

theorem withOneSlash_eq (once : BeginsOnce L) : withOneSlash L = L := by
  cases once with
  | root => rfl
  | first nonempty => simp [withOneSlash, nonempty]

theorem ne_double (once : BeginsOnce L) : L ≠ [[], []] := by
  rintro rfl
  cases once with
  | first nonempty => exact nonempty rfl

theorem head?_stem (once : BeginsOnce L) : (stem L).head? ≠ some [] := by
  cases once with
  | root => simp [stem, dropTrailing]
  | @first segment rest nonempty =>
    have inside := (stem_isPrefix (segment :: rest)).trans (withoutTrailing_isPrefix _)
    exact head?_of_isPrefix inside (by simpa using nonempty)

/-- Nothing is before what is appended only at the root. -/
theorem eq_root_of_stem (once : BeginsOnce L) (empty : stem L = []) : L = [[]] := by
  rw [stem_eq once.ne_double] at empty
  by_cases trailing : L.getLast? = some []
  · obtain ⟨before, rfl⟩ := exists_concat_of_getLast? trailing
    rw [withoutTrailing_concat] at empty
    rw [empty]
    rfl
  · rw [withoutTrailing_of_getLast? trailing] at empty
    subst empty
    cases once

theorem of_head? {last : List Char} (solid : before.head? ≠ some []) :
    BeginsOnce (before ++ [last]) := by
  cases before with
  | nil =>
    cases last with
    | nil => exact .root
    | cons c cs => exact .first (List.cons_ne_nil c cs)
  | cons first rest => exact .first (by simpa using solid)

end BeginsOnce

/-! ## Paths that are read -/

theorem Hierarchy.file_path (host cs : List Char) :
    ∃ L, (Hierarchy.file host cs).path = .segments (withOneSlash L) := ⟨_, rfl⟩

theorem Hierarchy.ofFile?_path {cs : List Char} {h : Hierarchy}
    (read : Hierarchy.ofFile? cs = .ok h) : ∃ L, h.path = .segments (withOneSlash L) := by
  unfold Hierarchy.ofFile? at read
  dsimp only at read
  split at read
  · cases read
    exact Hierarchy.file_path _ _
  next rest _ =>
    split at read
    · cases read
      exact Hierarchy.file_path _ _
    · cases named : fileHost? (unbroken (splitAt (endsAuthority true) rest).1) with
      | error e =>
        rw [named] at read
        cases read
      | ok host =>
        rw [named] at read
        cases read
        exact Hierarchy.file_path _ _

theorem exists_hierarchy_of_parse? {cs : List Char} {u : Url} (parsed : parse? cs = .ok u) :
    ∃ rest h, hierarchy? u.scheme rest = .ok h ∧ u.path = h.path := by
  unfold parse? at parsed
  split at parsed
  next => cases parsed
  next scheme rest _ =>
    cases read : hierarchy? scheme rest with
    | error e =>
      rw [read] at parsed
      cases parsed
    | ok h =>
      rw [read] at parsed
      cases parsed
      exact ⟨rest, h, read, rfl⟩

/-- The path of a file that is read begins with one slash. -/
theorem beginsOnce_of_ofText? {base : String} {u : Url} (parsed : ofText? base = .ok u)
    (segmented : u.path = .segments L) (file : u.scheme = "file".toList) : BeginsOnce L := by
  obtain ⟨rest, h, read, path⟩ := exists_hierarchy_of_parse? parsed
  rw [hierarchy?, if_pos file] at read
  obtain ⟨raw, rooted⟩ := Hierarchy.ofFile?_path read
  rw [segmented, rooted] at path
  cases path
  exact withOneSlash_beginsOnce raw

/-! ## Dot segments -/

section Dots

variable {c d : Char} {segment : List Char}

theorem eq_or_upper_of_toLower (h : c.toLower = d) :
    c = d ∨ 0x41 ≤ c.toNat ∧ c.toNat ≤ 0x5A ∧ d.toNat = c.toNat + 0x20 := by
  subst h
  unfold Char.toLower
  split
  next upper =>
    right
    simp only [Char.toNat, ge_iff_le, UInt32.le_iff_toNat_le, UInt32.toNat_add] at upper ⊢
    simp at upper ⊢
    omega
  next => exact .inl rfl

theorem eq_of_toLower (h : c.toLower = d) (below : d.toNat < 0x61) : c = d := by
  rcases eq_or_upper_of_toLower h with same | ⟨upper, -, code⟩
  · exact same
  · omega

/-- The ways to write a dot. -/
def dots : List (List Char) := [['.'], ['%', '2', 'e'], ['%', '2', 'E']]

theorem mem_dots (h : segment.map Char.toLower = ['.'] ∨
    segment.map Char.toLower = ['%', '2', 'e']) : segment ∈ dots := by
  rcases h with dot | escape
  · obtain ⟨c, rfl, hc⟩ := List.map_eq_singleton_iff.1 dot
    rw [eq_of_toLower hc (by decide)]
    decide
  · obtain ⟨c, rest, rfl, hc, escape⟩ := List.map_eq_cons_iff.1 escape
    obtain ⟨d, rest, rfl, hd, escape⟩ := List.map_eq_cons_iff.1 escape
    obtain ⟨e, rfl, he⟩ := List.map_eq_singleton_iff.1 escape
    rw [eq_of_toLower hc (by decide), eq_of_toLower hd (by decide)]
    rcases eq_or_upper_of_toLower he with rfl | ⟨-, -, code⟩
    · decide
    · have lower : 'e'.toNat = 0x65 := rfl
      have capital : e.toNat = 'E'.toNat := by
        show e.toNat = 0x45
        omega
      rw [Char.toNat_inj.1 capital]
      decide

theorem decode?_of_isSingleDot (dot : isSingleDot segment = true) :
    Percent.decode? segment = some ['.'] := by
  have decoded : ∀ s ∈ dots, Percent.decode? s = some ['.'] := by decide
  refine decoded _ (mem_dots ?_)
  simpa [isSingleDot, ← String.toList_inj] using dot

theorem decode?_of_isDoubleDot (twice : isDoubleDot segment = true) :
    Percent.decode? segment = some ['.', '.'] := by
  have decoded : ∀ s ∈ dots, ∀ t ∈ dots, Percent.decode? (s ++ t) = some ['.', '.'] := by decide
  have cut : ∃ a b, (a = ['.'] ∨ a = ['%', '2', 'e']) ∧ (b = ['.'] ∨ b = ['%', '2', 'e']) ∧
      segment.map Char.toLower = a ++ b := by
    simp only [isDoubleDot, List.contains_eq_mem, List.mem_cons, List.not_mem_nil, or_false,
      decide_eq_true_eq, ← String.toList_inj, String.toList_ofList] at twice
    rcases twice with plain | second | first | both
    · exact ⟨_, _, .inl rfl, .inl rfl, plain⟩
    · exact ⟨_, _, .inl rfl, .inr rfl, second⟩
    · exact ⟨_, _, .inr rfl, .inl rfl, first⟩
    · exact ⟨_, _, .inr rfl, .inr rfl, both⟩
  obtain ⟨a, b, first, second, whole⟩ := cut
  obtain ⟨s, t, rfl, rfl, rfl⟩ := List.map_eq_append_iff.1 whole
  exact decoded s (mem_dots first) t (mem_dots second)

end Dots

/-! ## Escaped segments -/

/-- The segment that a text becomes when it is appended. -/
def escaped (scheme symbol : List Char) : List Char :=
  Percent.encode (keptInSegment (isSpecial scheme)) (unbroken symbol)

theorem isDropped_of_mem_unbroken {c : Char} {cs : List Char} (mem : c ∈ unbroken cs) :
    isDropped c = false := by
  simpa using (List.mem_filter.1 mem).2

theorem unbroken_eq_self {cs : List Char} (whole : ∀ c ∈ cs, isDropped c = false) :
    unbroken cs = cs :=
  List.filter_eq_self.2 fun c mem => by simp [whole c mem]

theorem decode?_escaped (scheme symbol : List Char) :
    Percent.decode? (escaped scheme symbol) = some (unbroken symbol) :=
  Percent.decode?_encode (by simp [keptInSegment]) _

/-- What holds of the first characters holds of all of ASCII. -/
theorem forall_ascii {P : Char → Prop} (first : ∀ n < 0x80, P (Char.ofNat n)) :
    ∀ c, c.toNat < 0x80 → P c := by
  intro c ascii
  have here := first c.toNat ascii
  rwa [Char.ofNat_toNat] at here

theorem ascii_of_isLetter {c : Char} (letter : isLetter c = true) : c.toNat < 0x80 := by
  simp only [isLetter, Bool.or_eq_true, Bool.and_eq_true, decide_eq_true_eq, Char.le_def,
    UInt32.le_iff_toNat_le] at letter
  have code : c.toNat = c.val.toNat := rfl
  have z : 'z'.val.toNat = 0x7A := rfl
  have capital : 'Z'.val.toNat = 0x5A := rfl
  omega

/-- A letter is kept in segments, and is neither dropped nor the mark of an escape. -/
theorem kept_of_isLetter {c : Char} (letter : isLetter c = true) :
    (∀ special, keptInSegment special c = true) ∧ isDropped c = false ∧ c ≠ '%' := by
  have every : ∀ d : Char, d.toNat < 0x80 → isLetter d = true →
      (∀ special, keptInSegment special d = true) ∧ isDropped d = false ∧ d ≠ '%' :=
    forall_ascii (by decide)
  exact every c (ascii_of_isLetter letter) letter

/-! ## Appending -/

/-- What the segments of a path become when a text is appended. -/
inductive Pushes (scheme : List Char) (L : List (List Char)) (symbol : List Char) :
    List (List Char) → Prop where
  | ignored : symbol = ['.'] ∨ symbol = ['.', '.'] → Pushes scheme L symbol (dropTrailing L)
  | up : isDoubleDot (escaped scheme symbol) = true →
    Pushes scheme L symbol (above (stem L) ++ [[]])
  | here : isSingleDot (escaped scheme symbol) = true → Pushes scheme L symbol (stem L ++ [[]])
  | drive {letter mark : Char} : scheme = "file".toList → L = [[]] → isLetter letter = true →
    mark = ':' ∨ mark = '|' → escaped scheme symbol = [letter, mark] →
    Pushes scheme L symbol [[letter, ':']]
  | brokenDrive {letter : Char} {rest : List Char} : scheme = "file".toList → L = [[]] →
    isLetter letter = true → breaksAfterColon symbol = true → rest ≠ [] →
    escaped scheme symbol = letter :: ':' :: rest →
    Pushes scheme L symbol [[letter, ':'], rest]
  | appended : symbol ≠ ['.'] → symbol ≠ ['.', '.'] →
    (scheme = "file".toList → L = [[]] → isDrive (escaped scheme symbol) = false) →
    Pushes scheme L symbol (stem L ++ [escaped scheme symbol])

theorem isDrive_pair {letter mark : Char} :
    isDrive [letter, mark] = true ↔ isLetter letter = true ∧ (mark = ':' ∨ mark = '|') := by
  simp [isDrive, beginsWithDrive]

theorem exists_pair_of_isDrive {segment : List Char} (drive : isDrive segment = true) :
    ∃ letter mark, segment = [letter, mark] := by
  rw [isDrive, Bool.and_eq_true, beq_iff_eq] at drive
  exact List.length_eq_two.1 drive.1

/-- At the root of a file a drive is written with a colon, and may be a segment of its own. -/
theorem firstOfFile_pushes (file : scheme = "file".toList) (root : L = [[]])
    (single : symbol ≠ ['.']) (double : symbol ≠ ['.', '.']) :
    Pushes scheme L symbol (firstOfFile symbol (escaped scheme symbol)) := by
  have alone (noDrive : isDrive (escaped scheme symbol) = false) :
      Pushes scheme L symbol [escaped scheme symbol] := by
    have empty : stem L = [] := by
      rw [root]
      rfl
    have appended := Pushes.appended (L := L) single double fun _ _ => noDrive
    rwa [empty] at appended
  generalize text : escaped scheme symbol = written at alone
  unfold firstOfFile
  split
  next letter mark =>
    split
    next drive =>
      rw [isDrive_pair] at drive
      exact .drive file root drive.1 drive.2 text
    next noDrive => exact alone (by simpa using noDrive)
  next letter rest long =>
    split
    next broken =>
      rw [Bool.and_eq_true] at broken
      exact .brokenDrive file root broken.1 broken.2 (fun empty => long empty) text
    next =>
      refine alone (Bool.eq_false_iff.2 fun drive => ?_)
      obtain ⟨l, m, pair⟩ := exists_pair_of_isDrive drive
      cases pair
      exact long rfl
  next noPair _ =>
    refine alone (Bool.eq_false_iff.2 fun drive => ?_)
    obtain ⟨l, m, pair⟩ := exists_pair_of_isDrive drive
    exact noPair l m pair

/-- Nothing else happens when a text is added to the segments. -/
theorem addSegment_pushes (once : scheme = "file".toList → BeginsOnce L)
    (single : symbol ≠ ['.']) (double : symbol ≠ ['.', '.']) :
    Pushes scheme L symbol (addSegment (scheme == "file".toList)
      (keptInSegment (isSpecial scheme)) (stem L) symbol true) := by
  unfold addSegment
  simp only [if_true]
  split
  next up => exact .up up
  split
  next here => exact .here here
  split
  next root =>
    simp only [Bool.and_eq_true, beq_iff_eq, List.isEmpty_iff] at root
    exact firstOfFile_pushes root.1 ((once root.1).eq_root_of_stem root.2) single double
  next elsewhere =>
    refine .appended single double fun file root => ?_
    subst root
    simp [file, stem, dropTrailing] at elsewhere

theorem above_isPrefix (L : List (List Char)) : above L <+: L := by
  unfold above
  split
  · exact List.prefix_rfl
  · exact L.dropLast_prefix

/-- The path of a file that a text is appended to begins with one slash again. -/
theorem Pushes.beginsOnce (pushes : Pushes scheme L symbol R) (once : BeginsOnce L)
    (single : symbol ≠ ['.']) (double : symbol ≠ ['.', '.']) : BeginsOnce R := by
  cases pushes with
  | ignored dots => exact (dots.elim single double).elim
  | up => exact .of_head? (head?_of_isPrefix (above_isPrefix _) once.head?_stem)
  | here => exact .of_head? once.head?_stem
  | drive => exact .first (by simp)
  | brokenDrive => exact .first (by simp)
  | appended => exact .of_head? once.head?_stem

/-- Nothing else happens when a text is appended to a path. -/
theorem pushSegment_pushes (once : scheme = "file".toList → BeginsOnce L) :
    Pushes scheme L symbol (pushSegment scheme (dropTrailing L) symbol) := by
  unfold pushSegment
  split
  next dots => exact .ignored dots
  next plain =>
    obtain ⟨single, double⟩ := not_or.1 plain
    have added : Pushes scheme L symbol _ := addSegment_pushes once single double
    by_cases file : scheme = "file".toList
    · have rooted := (added.beginsOnce (once file) single double).withOneSlash_eq
      simp only [file, beq_self_eq_true, if_true] at added rooted ⊢
      rw [← stem, rooted]
      exact added
    · have other : (scheme == "file".toList) = false := by simpa using file
      simp only [other] at added ⊢
      exact added

/-- The break is right after the first colon. -/
theorem exists_break (broken : breaksAfterColon symbol = true) :
    ∃ front c rest, symbol = front ++ ':' :: c :: rest ∧ ':' ∉ front ∧ isDropped c = true := by
  have parts := List.takeWhile_append_dropWhile (p := (· != ':')) (l := symbol)
  unfold breaksAfterColon at broken
  have free : ':' ∉ symbol.takeWhile (· != ':') := by
    intro mem
    have passed := List.all_eq_true.1 List.all_takeWhile _ mem
    simp at passed
  cases colon : symbol.dropWhile (· != ':') with
  | nil => simp [colon] at broken
  | cons d others =>
    have first : d = ':' := by
      have stopped := List.head?_dropWhile_not (· != ':') symbol
      simpa [colon] using stopped
    cases others with
    | nil => simp [colon] at broken
    | cons c rest =>
      subst first
      rw [colon] at broken parts
      exact ⟨_, c, rest, parts.symm, free, broken⟩

end MarketDesk.Url
