import MarketDesk.Proofs.Desk.Fetching
import MarketDesk.Proofs.Http.Fetches
import MarketDesk.Proofs.Json.Documents

/-!
# Refusals that name a segment

A malformed request is refused with the text of a segment, in which broken bytes are replaced:
`Offends` says that it should be the period if that is no wire form, and otherwise the symbol. If
all segments are texts, the period has been read off the route. If one is none, the segment is
looked for once more, among the pieces of the path that are not empty; that is the segment of the
route unless an empty one stands before it. Only the symbol of a history can be empty, so what
`refusals_name_segment_iff` excludes is a history of no symbol whose period is no text.
-/

namespace MarketDesk.Http

open MarketDesk.Text

/-! ## What should be named -/

/-- The text that is shown for a segment. -/
def shown (cs : List Char) : String := String.ofList (Percent.decodeLossy cs)

/-- The text is the wire form of a period. -/
def IsWireForm (s : String) : Prop := s ∈ Period.all.map Period.text

instance (s : String) : Decidable (IsWireForm s) := inferInstanceAs (Decidable (s ∈ _))

/-- The route is malformed, and the message names the segment that makes it so. -/
inductive Offends : Route → String → Prop where
  | period {x y : List Char} : ¬ IsWireForm (shown y) →
      Offends (.history x y) ("Invalid period: " ++ shown y)
  | symbol {x y : List Char} : IsWireForm (shown y) → segment? x = none →
      Offends (.history x y) ("Invalid symbol: " ++ shown x)
  | dividends {x : List Char} : segment? x = none →
      Offends (.dividends x) ("Invalid symbol: " ++ shown x)
  | info {x : List Char} : segment? x = none → Offends (.info x) ("Invalid symbol: " ++ shown x)

/-- The route is the history of no symbol, and its period is no text. -/
def Route.IsNameless : Route → Prop
  | .history symbol period => symbol = [] ∧ segment? period = none
  | _ => False

/-- The segments of the route are found again in the path. -/
def Route.IsLocated (path : List Char) : Route → Prop
  | .history symbol period =>
    lossySegment path 1 = shown symbol ∧ lossySegment path 2 = shown period
  | .dividends symbol => lossySegment path 1 = shown symbol
  | .info symbol => lossySegment path 1 = shown symbol
  | .health => True
  | .unknown => True

/-! ## Texts of segments -/

variable {cs path x y : List Char} {r : Route} {message : String}

theorem shown_of_segment? {text : String} (decoded : segment? cs = some text) :
    shown cs = text := by
  obtain ⟨chars, bytes, rfl⟩ := Option.map_eq_some_iff.1 decoded
  rw [shown, Percent.decodeLossy, Utf8.decodeLossy_of_decode? bytes]

theorem shown_eq_empty_iff : shown cs = "" ↔ cs = [] := by
  have chars : shown cs = "" ↔ Percent.decodeLossy cs = [] := by
    rw [shown, ← String.toList_inj, String.toList_ofList]
    simp
  rw [chars, Percent.decodeLossy, Utf8.decodeLossy_eq_nil_iff, Percent.decodeBytes_eq_nil_iff,
    Utf8.encode_eq_nil_iff]

/-- No wire form has a replaced byte. -/
theorem not_isWireForm_of_segment? (undecoded : segment? cs = none) : ¬ IsWireForm (shown cs) := by
  have replaced : '\uFFFD' ∈ (shown cs).toList := by
    rw [shown, String.toList_ofList]
    exact Utf8.mem_decodeLossy_of_decode? (Option.map_eq_none_iff.1 undecoded)
  have plain : ∀ s ∈ Period.all.map Period.text, '\uFFFD' ∉ s.toList := by decide
  exact fun wire => plain _ wire replaced

theorem segment?_nil_ne_none : segment? [] ≠ none := by decide

/-! ## Segments of paths -/

theorem lossySegment_of_matches (matched : Matches path r) (index : Nat) :
    lossySegment path index = shown ((r.pieces.filter (!·.isEmpty))[index]?.getD []) := by
  rw [lossySegment, matched.splitOn_eq, shown]

/-- The last segment of a route is not empty. -/
theorem getLast?_pieces_of_matches (matched : Matches path r) : r.pieces.getLast? ≠ some [] := by
  cases matched <;> simp_all [Route.pieces]

/-- Segments are found again unless there is no symbol before the period. -/
theorem isLocated_iff (matched : Matches path r) : r.IsLocated path ↔ ∀ y, r ≠ .history [] y := by
  have found := lossySegment_of_matches matched
  have there := getLast?_pieces_of_matches matched
  cases r with
  | history x y =>
    simp only [Route.pieces, List.getLast?_cons_cons, List.getLast?_singleton, ne_eq,
      Option.some.injEq] at found there
    by_cases nameless : x = []
    · -- Without a symbol the first piece after the name of the route is the period.
      subst nameless
      have next : lossySegment path 1 = shown y := by simpa [there] using found 1
      have strayed : ¬ (Route.history [] y).IsLocated path := by
        rintro ⟨first, -⟩
        rw [next, shown_eq_empty_iff.2 rfl, shown_eq_empty_iff] at first
        exact there first
      simp [strayed]
    · simp [Route.IsLocated, found, there, nameless]
  | dividends x =>
    have nonempty : x ≠ [] := by simpa [Route.pieces] using there
    simp [Route.IsLocated, found, Route.pieces, nonempty]
  | info x =>
    have nonempty : x ≠ [] := by simpa [Route.pieces] using there
    simp [Route.IsLocated, found, Route.pieces, nonempty]
  | health => simp [Route.IsLocated]
  | unknown => simp [Route.IsLocated]

/-! ## What is named -/

theorem period?_of_not_isWireForm {s : String} (unknown : ¬ IsWireForm s) :
    period? s = .error (.data (.invalidPeriod s)) := by
  rw [period?, ofText?_eq_none_iff.2 unknown]

theorem period?_of_isWireForm {s : String} (known : IsWireForm s) : ∃ p, period? s = .ok p := by
  rcases period?_cases s with ⟨-, p, named⟩ | ⟨unknown, -⟩
  · exact ⟨p, named⟩
  · exact (unknown known).elim

/-- If a segment of a history is no text, both are looked for in the path. -/
theorem historyParameters_of_none (undecoded : segment? x = none ∨ segment? y = none) :
    historyParameters path x y = (do
      let _ ← period? (lossySegment path 2)
      throw (.invalidSymbol (lossySegment path 1))) := by
  unfold historyParameters
  split
  next hx hy => simp [hx, hy] at undecoded
  next => rfl

/-- A history is refused for its period if that is no wire form, and its segments are located or are
texts. -/
theorem refused?_of_period (unknown : ¬ IsWireForm (shown y))
    (located : lossySegment path 2 = shown y ∨ segment? x ≠ none ∧ segment? y ≠ none) :
    refused? path (.history x y) = some (.data (.invalidPeriod (shown y))) := by
  rw [refused?, errorOf_eq_some_iff]
  by_cases undecoded : segment? x = none ∨ segment? y = none
  · have found : lossySegment path 2 = shown y := by
      rcases located with found | ⟨hx, hy⟩
      · exact found
      · rcases undecoded with none | none
        · exact (hx none).elim
        · exact (hy none).elim
    rw [historyParameters_of_none undecoded, found, period?_of_not_isWireForm unknown]
    rfl
  · rw [not_or, ← ne_eq, ← ne_eq, Option.ne_none_iff_exists', Option.ne_none_iff_exists']
      at undecoded
    obtain ⟨⟨symbol, hx⟩, text, hy⟩ := undecoded
    rw [historyParameters, hx, hy]
    have same := shown_of_segment? hy
    rw [same] at unknown ⊢
    dsimp only
    rw [period?_of_not_isWireForm unknown]
    rfl

/-- A history with a wire form is refused for its symbol if that is no text. -/
theorem refused?_of_symbol (known : IsWireForm (shown y)) (undecoded : segment? x = none)
    (located : (Route.history x y).IsLocated path) :
    refused? path (.history x y) = some (.invalidSymbol (shown x)) := by
  obtain ⟨first, second⟩ := located
  obtain ⟨p, named⟩ := period?_of_isWireForm known
  rw [refused?, errorOf_eq_some_iff, historyParameters_of_none (.inl undecoded), first, second,
    named]
  rfl

theorem symbolParameter_of_none (undecoded : segment? x = none)
    (found : lossySegment path 1 = shown x) :
    symbolParameter path x = .error (.invalidSymbol (shown x)) := by
  rw [symbolParameter, undecoded, found]

/-- What offends is named, unless the route is the history of no symbol with a broken period. -/
theorem exists_refused?_of_offends (matched : Matches path r) (named : ¬ r.IsNameless)
    (offends : Offends r message) :
    ∃ e, refused? path r = some e ∧ e.response = .failure 400 message := by
  have located := isLocated_iff matched
  cases offends with
  | @period x y unknown =>
    refine ⟨_, refused?_of_period unknown ?_, rfl⟩
    by_cases nameless : x = []
    · subst nameless
      exact .inr ⟨segment?_nil_ne_none, fun none => named ⟨rfl, none⟩⟩
    · exact .inl (located.2 (by simp [nameless])).2
  | @symbol x y known undecoded =>
    have there : x ≠ [] := by
      rintro rfl
      exact segment?_nil_ne_none undecoded
    exact ⟨_, refused?_of_symbol known undecoded (located.2 (by simp [there])), rfl⟩
  | @dividends x undecoded =>
    have found : lossySegment path 1 = shown x := located.2 (by simp)
    exact ⟨_, errorOf_eq_some_iff.2 (symbolParameter_of_none undecoded found), rfl⟩
  | @info x undecoded =>
    have found : lossySegment path 1 = shown x := located.2 (by simp)
    exact ⟨_, errorOf_eq_some_iff.2 (symbolParameter_of_none undecoded found), rfl⟩

/-- The history of no symbol with a broken period is refused for a period that is empty. -/
theorem refused?_of_isNameless (matched : Matches path r) (nameless : r.IsNameless) :
    refused? path r = some (.data (.invalidPeriod "")) := by
  have found := lossySegment_of_matches matched 2
  have there := getLast?_pieces_of_matches matched
  cases r with
  | history x y =>
    obtain ⟨rfl, undecoded⟩ := nameless
    have nonempty : y ≠ [] := by simpa [Route.pieces] using there
    have absent : lossySegment path 2 = "" := by
      rw [found]
      simp [Route.pieces, nonempty, shown_eq_empty_iff.2 rfl]
    rw [refused?, errorOf_eq_some_iff, historyParameters_of_none (.inr undecoded), absent]
    rfl
  | dividends => exact nameless.elim
  | info => exact nameless.elim
  | health => exact nameless.elim
  | unknown => exact nameless.elim

/-! ## Responses -/

/-- A failure shows its message. -/
theorem failure_inj (status : Nat) {a b : String}
    (same : Response.failure status a = Response.failure status b) : a = b := by
  have quoted : (Json.Value.text a).render = (Json.Value.text b).render := by
    have bodies := congrArg String.toList (congrArg Response.body same)
    simp only [Response.failure, Response.json, Json.Value.render, String.toList_ofList,
      Json.Value.chars, Json.Value.membersChars] at bodies ⊢
    exact congrArg String.ofList (by simpa using bodies)
  obtain ⟨r, read, text⟩ := Json.ofText?_render_text a
  obtain ⟨r', read', text'⟩ := Json.ofText?_render_text b
  rw [quoted, read'] at read
  cases read
  exact Option.some.inj (text.symm.trans text')

section Requests

variable {W : Type} {p : Provider W} {d : Desk W} {target : String}

/-- A `GET` that is refused with a failure leaves the desk as it is. -/
theorem get_of_refused? {e : ApiError} (valid : Target.path? target.toList = some path)
    (matched : Matches path r) (refused : refused? path r = some e)
    (failure : e.response = .failure 400 message) :
    (Session.step p (.http "GET" target)).outcome d =
      (.ok (.response (.failure 400 message)), d) := by
  obtain rfl := matched.ofPath_eq
  have response : refusal .get path = .failure 400 message := by
    simp only [refusal, refused, Option.getD_some, failure]
    rfl
  rw [request_of_path .get rfl valid, respond_of_refused refused rfl, response]

end Requests

/-- **Refusals name the offending segment.** Replacing broken bytes changes no text, and the
segments of a route are found again in its path unless it is the history of no symbol. On every
desk, with every provider, a `GET` of a malformed route is refused with the segment that offends and
has no effect, unless the route is the history of no symbol whose period is no text; that one is
refused with an empty period. -/
theorem refusals_name_segment_iff {W : Type} (p : Provider W) (d : Desk W) :
    (∀ cs text, segment? cs = some text → shown cs = text) ∧
    (∀ path r, Matches path r → (r.IsLocated path ↔ ∀ y, r ≠ .history [] y)) ∧
    ∀ (target : String) (path : List Char) (r : Route),
      Target.path? target.toList = some path → Matches path r →
      ((∀ message, Offends r message → (Session.step p (.http "GET" target)).outcome d =
          (.ok (.response (.failure 400 message)), d)) ↔ ¬ r.IsNameless) ∧
      (r.IsNameless → (Session.step p (.http "GET" target)).outcome d =
        (.ok (.response (.failure 400 "Invalid period: ")), d)) := by
  refine ⟨fun cs text => shown_of_segment?, fun path r => isLocated_iff, ?_⟩
  intro target path r valid matched
  have empty : r.IsNameless → (Session.step p (.http "GET" target)).outcome d =
      (.ok (.response (.failure 400 "Invalid period: ")), d) := fun nameless =>
    get_of_refused? valid matched (refused?_of_isNameless matched nameless) rfl
  refine ⟨⟨fun names nameless => ?_, fun named message offends => ?_⟩, empty⟩
  · cases matched with
    | @history x y _ _ there =>
      have offends := names _ (.period (not_isWireForm_of_segment? nameless.2))
      rw [empty nameless] at offends
      have same : "Invalid period: " = "Invalid period: " ++ shown y := by
        apply failure_inj 400
        simpa using offends
      have nothing : shown y = "" := by simpa using same.symm
      exact there (shown_eq_empty_iff.1 nothing)
    | dividends => exact nameless
    | info => exact nameless
    | health => exact nameless
  · obtain ⟨e, refused, failure⟩ := exists_refused?_of_offends matched named offends
    exact get_of_refused? valid matched refused failure

/-- A provider that opens no handle. -/
def silent : Provider Tally := (Canned.refusing (.network "down")).provider

/-- The period of this history is written with an escape; its symbol ends in a broken byte. -/
theorem refusals_name_segment_iff_brokenSymbol :
    segment? "1%6Do".toList = some "1mo" ∧
      Target.path? "/history/A%2F%FF/1%6Do?x=/5Y".toList = some "/history/A%2F%FF/1%6Do".toList ∧
      Matches "/history/A%2F%FF/1%6Do".toList (.history "A%2F%FF".toList "1%6Do".toList) ∧
      Offends (.history "A%2F%FF".toList "1%6Do".toList) "Invalid symbol: A/\uFFFD" ∧
      (Session.step silent (.http "GET" "/history/A%2F%FF/1%6Do?x=/5Y")).outcome
        Canned.freshDesk =
          (.ok (.response (.failure 400 "Invalid symbol: A/\uFFFD")), Canned.freshDesk) := by
  have wire : IsWireForm (shown "1%6Do".toList) := by
    rw [(refusals_name_segment_iff silent Canned.freshDesk).1 _ "1mo" (by decide)]
    decide
  have valid : Target.path? "/history/A%2F%FF/1%6Do?x=/5Y".toList =
      some "/history/A%2F%FF/1%6Do".toList := by decide
  have matched : Matches "/history/A%2F%FF/1%6Do".toList
      (.history "A%2F%FF".toList "1%6Do".toList) :=
    matches_of_ofPath (by decide) nofun
  have offends : Offends (.history "A%2F%FF".toList "1%6Do".toList) "Invalid symbol: A/\uFFFD" :=
    .symbol wire (by decide)
  refine ⟨by decide, valid, matched, offends, ?_⟩
  have named : ¬ (Route.history "A%2F%FF".toList "1%6Do".toList).IsNameless := by
    rintro ⟨nothing, -⟩
    cases nothing
  exact ((refusals_name_segment_iff _ _).2.2 _ _ _ valid matched).1.2 named _ offends

/-- A broken period after no symbol offends, but what is refused is an empty period. -/
theorem broken_period_is_not_named :
    Matches "/history//%FF".toList (.history [] "%FF".toList) ∧
      Offends (.history [] "%FF".toList) "Invalid period: \uFFFD" ∧
      (Session.step silent (.http "GET" "/history//%FF")).outcome Canned.freshDesk =
        (.ok (.response (.failure 400 "Invalid period: ")), Canned.freshDesk) ∧
      (Response.failure 400 "Invalid period: ").body ≠
        (Response.failure 400 "Invalid period: \uFFFD").body := by
  have offends : ¬ IsWireForm (shown "%FF".toList) := by decide
  exact ⟨matches_of_ofPath (by decide) nofun, .period offends, rfl, by decide⟩

end MarketDesk.Http
