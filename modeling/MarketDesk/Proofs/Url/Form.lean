import MarketDesk.Proofs.Text.Escapes
import MarketDesk.Proofs.Text.Split
import MarketDesk.Url.Extend

/-!
# Reading parameters back

Form encoding writes no ampersand and no equals sign of its own, and each character of a text as
bytes that decode to it; so the pairs of a query are the pairs that were joined in it, whatever
characters they hold. Parameters that are added to a query come after those that it had.
-/

namespace MarketDesk

open MarketDesk.Text

namespace Url.Form

open MarketDesk.Text.Percent

variable {c mark : Char}

/-! ## Texts -/

/-- How a character is written. -/
def written (c : Char) : List Char := if c = ' ' then ['+'] else encodeChar kept c

/-- A text with spaces for its plus signs. -/
def spaced (cs : List Char) : List Char := cs.map fun c => if c = '+' then ' ' else c

/-- Neither a plus sign nor a mark is kept, and no escape holds one. -/
theorem not_mem_encodeChar (h : mark ∈ ['+', '&', '=']) : mark ∉ encodeChar kept c := by
  rcases encodeChar_cases kept c with ⟨-, keep, self⟩ | escapes
  · rw [self, List.mem_singleton]
    rintro rfl
    simp only [List.mem_cons, List.not_mem_nil, or_false] at h
    rcases h with rfl | rfl | rfl <;> exact absurd keep (by decide)
  · rw [escapes]
    intro mem
    obtain ⟨b, -, mem⟩ := List.mem_flatMap.1 mem
    exact not_mem_escapeByte h mem

theorem not_mem_written (h : mark = '&' ∨ mark = '=') : mark ∉ written c := by
  by_cases space : c = ' '
  · rw [written, if_pos space]
    rcases h with rfl | rfl <;> decide
  · rw [written, if_neg space]
    apply not_mem_encodeChar
    rcases h with rfl | rfl <;> decide

/-- Form encoding writes no mark. -/
theorem not_mem_encode (h : mark = '&' ∨ mark = '=') (cs : List Char) : mark ∉ encode cs := by
  intro mem
  obtain ⟨c, -, mem⟩ := List.mem_flatMap.1 mem
  exact not_mem_written h mem

theorem spaced_of_not_mem {cs : List Char} (h : '+' ∉ cs) : spaced cs = cs := by
  have same : ∀ c ∈ cs, (if c = '+' then ' ' else c) = c := by
    intro c mem
    rw [if_neg]
    rintro rfl
    exact h mem
  rw [spaced, List.map_congr_left same, List.map_id']

/-- What a character is written as decodes to its bytes. -/
theorem decodeBytes_written (c : Char) (bs : List UInt8) :
    decodeBytes (Utf8.encode (spaced (written c)) ++ bs) =
      String.utf8EncodeChar c ++ decodeBytes bs := by
  by_cases space : c = ' '
  · subst space
    exact decodeBytes_cons (by decide) bs
  · rw [written, if_neg space, spaced_of_not_mem (not_mem_encodeChar (by decide))]
    exact decodeBytes_encodeChar (by decide) c bs

theorem decodeBytes_encode (cs : List Char) :
    decodeBytes (Utf8.encode (spaced (encode cs))) = Utf8.encode cs := by
  induction cs with
  | nil => rfl
  | cons c cs ih =>
    have cut : Utf8.encode (spaced (encode (c :: cs))) =
        Utf8.encode (spaced (written c)) ++ Utf8.encode (spaced (encode cs)) := by
      simp only [encode, written, spaced, Utf8.encode, List.flatMap_cons, List.map_append,
        List.flatMap_append]
    rw [cut, decodeBytes_written, ih, Utf8.encode, Utf8.encode, List.flatMap_cons]

/-- A text in form encoding decodes to the text. -/
theorem decode_encode (cs : List Char) : decode (encode cs) = cs := by
  show Utf8.decodeLossy (decodeBytes (Utf8.encode (spaced (encode cs)))) = cs
  rw [decodeBytes_encode, Utf8.decodeLossy_encode]

/-! ## Pairs -/

/-- The first equals sign of a pair is the one between its name and its value. -/
theorem splitAt_pair (name value : List Char) :
    splitAt (· == '=') (pair name value) = (encode name, '=' :: encode value) := by
  have plain : ∀ c ∈ encode name, (!(c == '=')) = true := by
    intro c mem
    rw [Bool.not_eq_true', beq_eq_false_iff_ne]
    rintro rfl
    exact not_mem_encode (Or.inr rfl) name mem
  rw [splitAt, pair, List.takeWhile_append_of_pos plain, List.dropWhile_append_of_pos plain,
    List.takeWhile_cons_of_neg (by decide), List.dropWhile_cons_of_neg (by decide),
    List.append_nil]

theorem pairs_pair (name value : List Char) : pairs (pair name value) = [(name, value)] := by
  have plain : '&' ∉ pair name value := by
    rw [pair, List.mem_append, List.mem_cons]
    rintro (mem | mem | mem)
    · exact not_mem_encode (Or.inl rfl) name mem
    · exact absurd mem (by decide)
    · exact not_mem_encode (Or.inl rfl) value mem
  have nonempty : (pair name value).isEmpty = false := by
    rw [pair]
    cases encode name <;> rfl
  rw [pairs, splitOn_of_not_mem plain, List.filter_cons_of_pos (by rw [nonempty]; rfl),
    List.filter_nil, List.map_singleton, splitAt_pair]
  show [(decode (encode name), decode (encode value))] = _
  rw [decode_encode, decode_encode]

/-- The pairs on both sides of an ampersand. -/
theorem pairs_append (query rest : List Char) :
    pairs (query ++ '&' :: rest) = pairs query ++ pairs rest := by
  rw [pairs, splitOn_append, List.filter_append, List.map_append]
  rfl

/-- The pairs of a query are those that were joined in it. -/
theorem pairs_join (ps : List (List Char × List Char)) : pairs (join ps) = ps := by
  induction ps using join.induct with
  | case1 => rfl
  | case2 name value => exact pairs_pair name value
  | case3 name value rest nonempty ih =>
    rw [join, pairs_append, pairs_pair, ih, List.singleton_append]
    exact nonempty

end Url.Form

/-! ## Addresses -/

namespace Url

/-- The address `full` is `u` with parameters added behind the query that it has. -/
def Extends (u full : Url) (parameters : List (List Char × List Char)) : Prop :=
  ∃ query, full = { u with query } ∧
    ((parameters = [] ∧ query = u.query) ∨
      ∃ added, Form.pairs added = parameters ∧
        query = some (if (u.query.getD []).isEmpty then added else u.query.getD [] ++ '&' :: added))

theorem append_extends (u : Url) (parameters : List (List Char × List Char)) :
    u.Extends (u.append parameters) parameters := by
  cases parameters with
  | nil => exact ⟨u.query, rfl, Or.inl ⟨rfl, rfl⟩⟩
  | cons p ps => exact ⟨_, rfl, Or.inr ⟨Form.join (p :: ps), Form.pairs_join _, rfl⟩⟩

/-- The pairs of a query with parameters added to it are those it had and these. -/
theorem pairs_append_query (u : Url) (parameters : List (List Char × List Char)) :
    Form.pairs ((u.append parameters).query.getD []) =
      Form.pairs (u.query.getD []) ++ parameters := by
  obtain ⟨query, same, ⟨rfl, rfl⟩ | ⟨added, pairs, rfl⟩⟩ := append_extends u parameters
  · rw [same, List.append_nil]
  · rw [same, Option.getD_some]
    by_cases none : u.query.getD [] = []
    · rw [none]
      exact pairs
    · rw [if_neg (by simpa using none), Form.pairs_append, pairs]

end Url

end MarketDesk
