import MarketDesk.Proofs.Http.Paths
import MarketDesk.Proofs.Yahoo.Blame
import MarketDesk.Provider.Canned
import MarketDesk.Session

/-!
# Which requests are refused, and which are answered

A request is refused because of its method and path alone, before the desk is asked. Every other
request is answered with the data or with one fixed failure, provided the provider blames no
caller: then a status between 400 and 499 always means that the request itself was wrong.
`refused_or_answered` says so for every provider, desk, method and path.
-/

namespace MarketDesk.Http

/-- The method asks for data. -/
def Method.reads : Method → Bool
  | .get | .head => true
  | .other _ => false

/-- A segment of the route is no text, or its period is none of the wire forms. -/
def Route.IsMalformed : Route → Prop
  | .history symbol period =>
    segment? symbol = none ∨ ∀ t, segment? period = some t → t ∉ Period.all.map Period.text
  | .dividends symbol => segment? symbol = none
  | .info symbol => segment? symbol = none
  | .health => False
  | .unknown => False

/-- The error of a result, if it is one. -/
def errorOf {ε α : Type} : Except ε α → Option ε
  | .ok _ => none
  | .error e => some e

theorem errorOf_eq_some_iff {ε α : Type} {r : Except ε α} {e : ε} :
    errorOf r = some e ↔ r = .error e := by
  cases r with
  | ok a => simp [errorOf]
  | error e' => simp [errorOf]

/-- Why a `GET` is refused, if it is. -/
def refused? (path : List Char) : Route → Option ApiError
  | .history symbol period => errorOf (historyParameters path symbol period)
  | .dividends symbol => errorOf (symbolParameter path symbol)
  | .info symbol => errorOf (symbolParameter path symbol)
  | .health => none
  | .unknown => some .notFound

/-- What a refused request is answered with; the desk is not asked. -/
def refusal (method : Method) (path : List Char) : Response :=
  let e := (refused? path (Route.ofPath path)).getD .notFound
  match method, Route.ofPath path with
  | .get, _ => e.response.withDefaultAge
  | .head, _ => e.response.withDefaultAge.withoutBody
  | .other _, .unknown => ApiError.notFound.response
  | .other _, _ => .methodNotAllowed

/-- What a request is answered with, and what it leaves behind. -/
structure Verdict {W : Type} (p : Provider W) (method : Method) (path : List Char)
    (d : Desk W) : Prop where
  /-- A path of no route is not found. -/
  unmatched : (∀ r, ¬ Matches path r) →
    (respond p method path).run d = (refusal method path, d) ∧ (refusal method path).status = 404
  /-- A known path with another method is not allowed. -/
  notAllowed : ∀ r, Matches path r → method.reads = false →
    (respond p method path).run d = (refusal method path, d) ∧ (refusal method path).status = 405
  /-- A malformed route is a bad request. -/
  malformed : ∀ r, Matches path r → method.reads = true → r.IsMalformed →
    (respond p method path).run d = (refusal method path, d) ∧ (refusal method path).status = 400
  /-- The health of the server is always reported, and changes nothing. -/
  health : Matches path .health → method.reads = true →
    ((respond p method path).run d).1.status = 200 ∧ ((respond p method path).run d).2 = d
  /-- Every other request is answered with data or with the one fixed failure. -/
  answered : ∀ r, Matches path r → method.reads = true → r ≠ .health → ¬ r.IsMalformed →
    ((respond p method path).run d).1.status = 200 ∨
    (((respond p method path).run d).1.status = 500 ∧
      ((respond p method path).run d).1.body =
        if method = .head then "" else "\x7b\"error\":\"An internal error occurred\"\x7d")

/-! ## Refusals -/

section Refusals

variable {path symbol period : List Char}

theorem ofText?_eq_none_iff {s : String} :
    Period.ofText? s = none ↔ s ∉ Period.all.map Period.text := by
  simp [Period.ofText?, List.find?_eq_none]

/-- A period is refused just if its text is no wire form, and then as a bad request. -/
theorem period?_cases (s : String) :
    (s ∈ Period.all.map Period.text ∧ ∃ p, period? s = .ok p) ∨
      (s ∉ Period.all.map Period.text ∧ ∃ e, period? s = .error e ∧ e.response.status = 400) := by
  rw [period?]
  cases h : Period.ofText? s with
  | none => exact Or.inr ⟨ofText?_eq_none_iff.1 h, _, rfl, rfl⟩
  | some p =>
    refine Or.inl ⟨?_, p, rfl⟩
    apply Decidable.byContradiction
    intro unknown
    rw [ofText?_eq_none_iff.2 unknown] at h
    cases h

/-- Parameters of a history are refused just if the route is malformed, and then as a bad
request. -/
theorem historyParameters_cases (path symbol period : List Char) :
    (¬ (Route.history symbol period).IsMalformed ∧
      ∃ a, historyParameters path symbol period = .ok a) ∨
    ((Route.history symbol period).IsMalformed ∧
      ∃ e, historyParameters path symbol period = .error e ∧ e.response.status = 400) := by
  have lossy : ∃ e, (period? (lossySegment path 2) >>= fun _ =>
      (throw (.invalidSymbol (lossySegment path 1)) : Except ApiError (Symbol × Period))) =
        .error e ∧ e.response.status = 400 := by
    rcases period?_cases (lossySegment path 2) with ⟨-, p, h⟩ | ⟨-, e, h, status⟩
    · rw [h]
      exact ⟨_, rfl, rfl⟩
    · rw [h]
      exact ⟨e, rfl, status⟩
  cases hs : segment? symbol with
  | none =>
    refine Or.inr ⟨Or.inl hs, ?_⟩
    rw [historyParameters, hs]
    exact lossy
  | some s =>
    cases hp : segment? period with
    | none =>
      refine Or.inr ⟨Or.inr fun t h => ?_, ?_⟩
      · rw [hp] at h
        cases h
      · rw [historyParameters, hs, hp]
        exact lossy
    | some t =>
      rw [historyParameters, hs, hp]
      rcases period?_cases t with ⟨known, p, h⟩ | ⟨unknown, e, h, status⟩
      · refine Or.inl ⟨?_, (⟨s⟩, p), ?_⟩
        · rintro (none | bad)
          · rw [hs] at none
            cases none
          · exact bad t hp known
        · dsimp only
          rw [h]
          rfl
      · refine Or.inr ⟨Or.inr ?_, e, ?_, status⟩
        · intro t' h'
          rw [hp] at h'
          cases h'
          exact unknown
        · dsimp only
          rw [h]
          rfl

theorem symbolParameter_cases (path symbol : List Char) :
    (segment? symbol ≠ none ∧ ∃ a, symbolParameter path symbol = .ok a) ∨
    (segment? symbol = none ∧
      ∃ e, symbolParameter path symbol = .error e ∧ e.response.status = 400) := by
  rw [symbolParameter]
  cases h : segment? symbol with
  | none => exact Or.inr ⟨rfl, _, rfl, rfl⟩
  | some s => exact Or.inl ⟨by simp, _, rfl⟩

/-- A route of a path is refused just if it is malformed, and then as a bad request. -/
theorem refused?_of_matches {r : Route} (h : Matches path r) :
    (¬ r.IsMalformed ∧ refused? path r = none) ∨
      (r.IsMalformed ∧ ∃ e, refused? path r = some e ∧ e.response.status = 400) := by
  have single : ∀ symbol, (segment? symbol ≠ none ∧ errorOf (symbolParameter path symbol) = none) ∨
      (segment? symbol = none ∧
        ∃ e, errorOf (symbolParameter path symbol) = some e ∧ e.response.status = 400) := by
    intro symbol
    rcases symbolParameter_cases path symbol with ⟨good, a, h⟩ | ⟨bad, e, h, status⟩
    · exact Or.inl ⟨good, by rw [h]; rfl⟩
    · exact Or.inr ⟨bad, e, by rw [h]; rfl, status⟩
  cases r with
  | history symbol period =>
    rw [refused?]
    rcases historyParameters_cases path symbol period with ⟨good, a, h⟩ | ⟨bad, e, h, status⟩
    · exact Or.inl ⟨good, by rw [h]; rfl⟩
    · exact Or.inr ⟨bad, e, by rw [h]; rfl, status⟩
  | dividends symbol => exact single symbol
  | info symbol => exact single symbol
  | health => exact Or.inl ⟨id, rfl⟩
  | unknown => exact (h.ne_unknown rfl).elim

end Refusals

section Requests

variable {W : Type} {p : Provider W} {path : List Char} {d : Desk W} {r : Route}

/-- A refused route is answered without asking the desk. -/
theorem answer_of_refused {e : ApiError} (h : refused? path r = some e) :
    answer p path r = pure e.response := by
  cases r with
  | history symbol period => rw [answer, errorOf_eq_some_iff.1 h]
  | dividends symbol => rw [answer, errorOf_eq_some_iff.1 h]
  | info symbol => rw [answer, errorOf_eq_some_iff.1 h]
  | health => cases h
  | unknown =>
    rw [← Option.some.inj h]
    rfl

/-- A refused request is answered without asking the desk. -/
theorem respond_of_refused {method : Method} {e : ApiError}
    (h : refused? path (Route.ofPath path) = some e) (reads : method.reads = true) :
    (respond p method path).run d = (refusal method path, d) := by
  cases method with
  | get =>
    simp only [refusal, h, Option.getD_some]
    rw [respond, answer_of_refused h]
    rfl
  | head =>
    simp only [refusal, h, Option.getD_some]
    rw [respond, answer_of_refused h]
    rfl
  | other name => cases reads

/-- A request with another method is answered by its path alone. -/
theorem respond_of_not_reads {method : Method} (h : method.reads = false) :
    (respond p method path).run d = (refusal method path, d) := by
  cases method with
  | get => cases h
  | head => cases h
  | other name =>
    unfold respond refusal
    cases Route.ofPath path <;> rfl

/-- The status of a refusal is that of its error. -/
theorem refusal_status {method : Method} {e : ApiError}
    (h : refused? path (Route.ofPath path) = some e) (reads : method.reads = true)
    (bad : e.response.status = 400 ∨ e.response.status = 404) :
    (refusal method path).status = e.response.status := by
  have aged : e.response.withDefaultAge = e.response := by
    rw [Response.withDefaultAge, if_neg]
    rintro ⟨success, -⟩
    rcases bad with bad | bad <;> simp [Response.isSuccess, bad] at success
  cases method with
  | get => simp only [refusal, h, Option.getD_some, aged]
  | head => simp only [refusal, h, Option.getD_some, aged, Response.withoutBody]
  | other name => cases reads

/-! ## Answers -/

theorem ofFault_of_isBlameless {f : Fault} (h : f.IsBlameless) : ofFault f = .internal := by
  cases f with
  | abort => rfl
  | error e =>
    have blameless : e.isValidation = false := h
    simp [ofFault, ApiError.response, blameless]

/-- The data, or the fixed failure if the desk has a fault. -/
theorem serve_cases {α : Type} {q : Query (Desk W) α} (h : q.FailsOnly Fault.IsBlameless)
    (write : α → Response) :
    (∃ a, ((serve q write).run d).1 = write a) ∨ ((serve q write).run d).1 = .internal := by
  have faults := h d
  show (∃ a, (serve q write d).1 = write a) ∨ (serve q write d).1 = .internal
  rw [serve]
  cases outcome : q.outcome d with
  | mk result after =>
    rw [outcome] at faults
    cases result with
    | ok a => exact Or.inl ⟨a, rfl⟩
    | error f => exact Or.inr (ofFault_of_isBlameless (faults f rfl))

/-- A route that is not refused is answered with data or with the fixed failure. -/
theorem answer_cases (blameless : p.IsBlameless) (accepted : refused? path r = none) :
    ((answer p path r).run d).1.status = 200 ∨ ((answer p path r).run d).1 = .internal := by
  cases r with
  | history symbol period =>
    rw [answer]
    cases parameters : historyParameters path symbol period with
    | error e =>
      rw [refused?, parameters] at accepted
      cases accepted
    | ok a =>
      rcases serve_cases (d := d) (Desk.fetchHistory_failsOnly blameless a.1 a.2)
        (fun timeline => .cached (historyMaxAge a.2)
          (.list (timeline.days.map TradingDay.toJson))) with ⟨t, h⟩ | h
      · exact Or.inl (congrArg Response.status h)
      · exact Or.inr h
  | dividends symbol =>
    rw [answer]
    cases parameter : symbolParameter path symbol with
    | error e =>
      rw [refused?, parameter] at accepted
      cases accepted
    | ok s =>
      rcases serve_cases (d := d) (Desk.fetchDividends_failsOnly blameless s)
        (fun dividends => .cached dividendsMaxAge (.list (dividends.map Dividend.toJson)))
        with ⟨ds, h⟩ | h
      · exact Or.inl (congrArg Response.status h)
      · exact Or.inr h
  | info symbol =>
    rw [answer]
    cases parameter : symbolParameter path symbol with
    | error e =>
      rw [refused?, parameter] at accepted
      cases accepted
    | ok s =>
      rcases serve_cases (d := d) (Desk.fetchOverview_failsOnly blameless s)
        (fun overview => .cached infoMaxAge overview.toJson) with ⟨o, h⟩ | h
      · exact Or.inl (congrArg Response.status h)
      · exact Or.inr h
  | health => exact Or.inl rfl
  | unknown => cases accepted

theorem internal_body :
    Response.internal.body = "\x7b\"error\":\"An internal error occurred\"\x7d" := by
  decide

theorem withDefaultAge_status (r : Response) : r.withDefaultAge.status = r.status := by
  rw [Response.withDefaultAge]
  split <;> rfl

/-- A `GET` or `HEAD` has the status and the effect of its route. -/
theorem respond_of_reads {method : Method} (reads : method.reads = true) :
    ((respond p method path).run d).1.status =
        ((answer p path (Route.ofPath path)).run d).1.status ∧
      ((respond p method path).run d).2 = ((answer p path (Route.ofPath path)).run d).2 := by
  cases method with
  | get => exact ⟨withDefaultAge_status _, rfl⟩
  | head => exact ⟨withDefaultAge_status _, rfl⟩
  | other name => cases reads

/-- The body of the fixed failure, which a `HEAD` leaves out. -/
theorem respond_body_of_internal {method : Method} (reads : method.reads = true)
    (h : ((answer p path (Route.ofPath path)).run d).1 = .internal) :
    ((respond p method path).run d).1.body =
      if method = .head then "" else "\x7b\"error\":\"An internal error occurred\"\x7d" := by
  cases method with
  | get =>
    show ((answer p path (Route.ofPath path)).run d).1.withDefaultAge.body = _
    rw [h]
    exact internal_body
  | head => rfl
  | other name => cases reads

theorem verdict_of_isBlameless (blameless : p.IsBlameless) (method : Method) (path : List Char)
    (d : Desk W) : Verdict p method path d where
  unmatched none := by
    have unknown := ofPath_eq_unknown_iff.2 none
    cases reads : method.reads with
    | true =>
      have refused : refused? path (Route.ofPath path) = some .notFound := by rw [unknown]; rfl
      exact ⟨respond_of_refused refused reads, refusal_status refused reads (Or.inr rfl)⟩
    | false =>
      refine ⟨respond_of_not_reads reads, ?_⟩
      cases method with
      | get => cases reads
      | head => cases reads
      | other name =>
        simp only [refusal, unknown]
        rfl
  notAllowed r matched reads := by
    refine ⟨respond_of_not_reads reads, ?_⟩
    cases method with
    | get => cases reads
    | head => cases reads
    | other name =>
      obtain rfl := matched.ofPath_eq
      have known := matched.ne_unknown
      unfold refusal
      cases h : Route.ofPath path with
      | unknown => exact (known h).elim
      | _ => rfl
  malformed r matched reads bad := by
    obtain rfl := matched.ofPath_eq
    rcases refused?_of_matches matched with ⟨good, -⟩ | ⟨-, e, refused, status⟩
    · exact (good bad).elim
    · exact ⟨respond_of_refused refused reads,
        (refusal_status refused reads (Or.inl status)).trans status⟩
  health matched reads := by
    obtain ⟨status, after⟩ : ((respond p method path).run d).1.status = _ ∧
        ((respond p method path).run d).2 = _ := respond_of_reads reads
    rw [matched.ofPath_eq] at status after
    exact ⟨status, after⟩
  answered r matched reads _ good := by
    obtain rfl := matched.ofPath_eq
    rcases refused?_of_matches matched with ⟨-, accepted⟩ | ⟨bad, -⟩
    · have status : ((respond p method path).run d).1.status = _ := (respond_of_reads reads).1
      rcases answer_cases (d := d) blameless accepted with ok | failed
      · exact Or.inl (status.trans ok)
      · refine Or.inr ⟨status.trans (congrArg Response.status failed), ?_⟩
        exact respond_body_of_internal reads failed
    · exact (good bad).elim

end Requests

/-- **Requests are refused or answered.** The Yahoo provider blames no caller; and for every
provider that does not, every request on every desk is refused for its method and path alone,
without any effect, or answered with data or the one fixed failure. -/
theorem refused_or_answered :
    (∀ e, (Yahoo.provider e).IsBlameless) ∧
      ∀ {W : Type} (p : Provider W), p.IsBlameless →
        ∀ (method : Method) (path : List Char) (d : Desk W), Verdict p method path d :=
  ⟨Yahoo.provider_isBlameless, fun _ blameless method path d =>
    verdict_of_isBlameless blameless method path d⟩

/-- A provider that opens no handle blames no caller if its fault does not. -/
theorem isBlameless_of_no_handle {f : Fault} (h : f.IsBlameless) :
    (Canned.mk fun _ => .error f).provider.IsBlameless := by
  have script : FailsOnly Fault.IsBlameless (.error f : Except Fault Script) := .error h
  have answer : ∀ {α : Type} (handle : Handle) (part : Script → Except DataError α),
      ((Canned.mk fun _ => .error f).answer handle part).FailsOnly Fault.IsBlameless := by
    intro α handle part tally
    exact .error h
  exact {
    create := fun _ => (Query.FailsOnly.ofExcept script).bind fun _ =>
      Query.FailsOnly.get.bind fun _ => (Query.FailsOnly.set _).bind fun _ => .pure _
    history := fun handle period => answer handle _
    dividends := fun handle => answer handle _
    info := fun handle => answer handle _ }

/-- With a provider that breaks down whenever a handle is opened, a request for the dividends of
`A/B` is a verdict's last case. -/
theorem refused_or_answered_breakdown :
    (Canned.mk fun _ => .error .abort).provider.IsBlameless ∧
      Verdict (Canned.mk fun _ => .error .abort).provider .get "/dividends/A%2FB".toList
        (Session.fresh ⟨.epoch, true⟩ (.ofParts 300 0) ⟨0, 0⟩) ∧
      Matches "/dividends/A%2FB".toList (.dividends "A%2FB".toList) ∧
      ¬ (Route.dividends "A%2FB".toList).IsMalformed := by
  have blameless := isBlameless_of_no_handle (f := .abort) trivial
  refine ⟨blameless, ?_, ?_, ?_⟩
  · exact refused_or_answered.2 _ blameless _ _ _
  · exact .dividends (by decide) (by decide)
  · show segment? _ ≠ none
    decide

end MarketDesk.Http
