import MarketDesk.Proofs.Calendar.DateText
import MarketDesk.Proofs.Json.Documents
import MarketDesk.Quote.Document

/-!
# Earnings as text

Earnings are written as a bare string, and the reader takes every string that spells a date for a
day. So a text that spells a date comes back as that day, and everything else comes back as it was,
days in particular: `earnings_are_read_back`. What was read and written once does not change again.
-/

namespace MarketDesk

open MarketDesk.Calendar MarketDesk.Json

namespace Earnings

/-- Reads earnings from the text of a document. -/
def read? (text : String) : Option Earnings := (Raw.ofText? text).bind ofJson?

/-- The string that earnings are written as. -/
def text : Earnings → String
  | .on d => d.text
  | .raw s => s

variable {e : Earnings} {s : String} {d : Date}

theorem toJson_eq (e : Earnings) : e.toJson = .text e.text := by
  cases e <;> rfl

theorem ofText_of_some (spelled : Date.ofText? s = some d) : ofText s = .on d := by
  rw [ofText, spelled]

theorem ofText_of_none (unspelled : Date.ofText? s = none) : ofText s = .raw s := by
  rw [ofText, unspelled]

/-- Written earnings are read as what their text stands for. -/
theorem read?_render (e : Earnings) : read? e.toJson.render = some (ofText e.text) := by
  obtain ⟨r, document, string⟩ := ofText?_render_text e.text
  rw [read?, toJson_eq, document, Option.bind_some, ofJson?, string, Option.map_some]

/-- What a text stands for is what its own text stands for. -/
theorem ofText_text (s : String) : ofText (ofText s).text = ofText s := by
  cases spelled : Date.ofText? s with
  | some d =>
    rw [ofText_of_some spelled]
    exact ofText_of_some (Date.ofText?_text d)
  | none =>
    rw [ofText_of_none spelled]
    exact ofText_of_none spelled

/-- Only the text of a date stands for something else. -/
theorem ofText_text_eq_iff :
    ofText e.text = e ↔ ¬ ∃ s d, e = .raw s ∧ Date.ofText? s = some d := by
  cases e with
  | on d =>
    have same := ofText_of_some (Date.ofText?_text d)
    refine iff_of_true same ?_
    rintro ⟨s, d', other, -⟩
    cases other
  | raw s =>
    cases spelled : Date.ofText? s with
    | some d =>
      refine iff_of_false ?_ fun absent => absent ⟨s, d, rfl, spelled⟩
      intro same
      rw [text, ofText_of_some spelled] at same
      cases same
    | none =>
      refine iff_of_true (ofText_of_none spelled) ?_
      rintro ⟨s', d, same, spelled'⟩
      cases same
      rw [spelled] at spelled'
      cases spelled'

theorem normalize?_eq (text : String) :
    DocumentKind.earnings.normalize? text = (read? text).map toJson := by
  rw [DocumentKind.normalize?, read?]
  cases Raw.ofText? text <;> rfl

theorem exists_of_read? {text : String} (h : read? text = some e) : ∃ s, e = ofText s := by
  obtain ⟨r, -, read⟩ := Option.bind_eq_some_iff.1 h
  obtain ⟨s, -, same⟩ := Option.map_eq_some_iff.1 read
  exact ⟨s, same.symm⟩

end Earnings

/-- **Earnings are read back.** The reader of dates accepts what spells a date. Written earnings are
always read again, as what they were, unless they are a text that spells a date: then they are read
as that day. To read and write any document of earnings a second time changes nothing. -/
theorem earnings_are_read_back :
    (∀ s d, Date.ofText? s = some d ↔ Date.Spells s.toList d) ∧
    (∀ e : Earnings, ∃ e', Earnings.read? e.toJson.render = some e' ∧
      (e' = e ↔ ¬ ∃ s d, e = .raw s ∧ Date.Spells s.toList d) ∧
      ∀ s d, e = .raw s → Date.Spells s.toList d → e' = .on d) ∧
    ∀ text v, DocumentKind.earnings.normalize? text = some v →
      DocumentKind.earnings.normalize? v.render = some v := by
  have spells : ∀ s d, Date.ofText? s = some d ↔ Date.Spells s.toList d :=
    fun s d => Date.parse?_eq_some_iff
  refine ⟨spells, fun e => ⟨_, e.read?_render, ?_, ?_⟩, ?_⟩
  · simp only [Earnings.ofText_text_eq_iff, spells]
  · rintro s d rfl spelled
    exact Earnings.ofText_of_some ((spells s d).2 spelled)
  · intro text v normal
    rw [Earnings.normalize?_eq] at normal
    obtain ⟨e, read, rfl⟩ := Option.map_eq_some_iff.1 normal
    obtain ⟨s, rfl⟩ := Earnings.exists_of_read? read
    rw [Earnings.normalize?_eq, Earnings.read?_render, Earnings.ofText_text, Option.map_some]

/-- A text with a sign, zeros and white space spells a date, and is read as that day once it was
written. -/
theorem earnings_are_read_back_spelled :
    let day : Date := ⟨2024, 6, 1, by decide⟩
    Date.Spells " +02024 -6-\t1\n".toList day ∧
      Earnings.read? (Earnings.raw " +02024 -6-\t1\n").toJson.render = some (.on day) ∧
      DocumentKind.earnings.normalize? (Earnings.on day).toJson.render =
        some (Earnings.on day).toJson := by
  intro day
  obtain ⟨spells, back, again⟩ := earnings_are_read_back
  have spelled : Date.Spells " +02024 -6-\t1\n".toList day := (spells _ day).1 (by decide)
  obtain ⟨e', read, -, day'⟩ := back (.raw " +02024 -6-\t1\n")
  rw [day' _ day rfl spelled] at read
  refine ⟨spelled, read, again (Earnings.raw " +02024 -6-\t1\n").toJson.render _ ?_⟩
  rw [Earnings.normalize?_eq, read]
  rfl

end MarketDesk
