import MarketDesk.Proofs.Blame
import MarketDesk.Yahoo.Client

/-!
# The Yahoo client blames no caller

Whatever the services answer, and however an address is broken, the client reports a network
failure, a limit, a missing symbol or a fault of the provider. None of its errors says that the
request for data was not valid.
-/

namespace MarketDesk.Yahoo

section Results

variable {α : Type} (symbol : Symbol) (r : Reply)

theorem statusError?_isBlameless {status : Nat} {e : DataError}
    (h : statusError? symbol status = some e) : e.IsBlameless := by
  unfold statusError? at h
  split at h
  · cases h
    rfl
  split at h
  · cases h
    rfl
  split at h
  · cases h
  · cases h
    rfl

theorem Reply.bytes?_failsOnly : FailsOnly DataError.IsBlameless r.bytes? := by
  unfold Reply.bytes?
  split
  · exact .ok []
  · cases r.body with
    | complete bytes => exact .ok bytes
    | cut => exact .error rfl
    | stalled => exact .error rfl

theorem Reply.text?_failsOnly : FailsOnly DataError.IsBlameless r.text? :=
  r.bytes?_failsOnly.bind fun _ => .ok _

theorem document?_failsOnly (read : Json.Raw → Option α) :
    FailsOnly DataError.IsBlameless (document? symbol read r) := by
  unfold document?
  split
  next e refused => exact .error (statusError?_isBlameless symbol refused)
  next =>
    refine r.bytes?_failsOnly.bind fun bytes => ?_
    cases (Json.Raw.ofBytes? bytes).bind read with
    | some a => exact .ok a
    | none => exact .error rfl

theorem firstResult?_failsOnly (results : Option (List α)) :
    FailsOnly DataError.IsBlameless (firstResult? symbol results) := by
  unfold firstResult?
  split
  · exact .ok _
  · exact .error rfl

theorem chartOf?_failsOnly : FailsOnly DataError.IsBlameless (chartOf? symbol r) := by
  refine (document?_failsOnly symbol r _).bind fun reply => ?_
  cases reply.error with
  | some p =>
    refine .error ?_
    split <;> rfl
  | none => exact firstResult?_failsOnly symbol reply.results

theorem modulesOf?_failsOnly : FailsOnly DataError.IsBlameless (modulesOf? symbol r) := by
  refine (document?_failsOnly symbol r _).bind fun reply => ?_
  cases reply.error with
  | some p => exact .error rfl
  | none => exact firstResult?_failsOnly symbol reply.results

theorem crumbOf?_failsOnly : FailsOnly DataError.IsBlameless (crumbOf? symbol r) := by
  unfold crumbOf?
  split
  next e refused => exact .error (statusError?_isBlameless symbol refused)
  next =>
    refine r.text?_failsOnly.bind fun text => ?_
    dsimp only
    split
    · exact .error rfl
    · exact .ok _

theorem symbolUrl?_failsOnly (base : String) :
    FailsOnly DataError.IsBlameless (symbolUrl? base symbol) := by
  unfold symbolUrl?
  split
  · exact .error rfl
  · split
    · exact .ok _
    · exact .error rfl

theorem requestUrl?_failsOnly (url : Url) (parameters : List (String × String)) :
    FailsOnly DataError.IsBlameless (requestUrl? url parameters) := by
  unfold requestUrl?
  split
  · exact .error rfl
  · dsimp only
    split
    · exact .ok _
    · exact .error rfl

end Results

section Queries

variable {σ α : Type} (e : Endpoints) (h : Handle)

theorem orFail_failsOnly {r : Except DataError α} (hr : FailsOnly DataError.IsBlameless r) :
    (orFail r : Query σ α).FailsOnly Fault.IsBlameless :=
  .ofExcept (hr.mapError fun _ blameless => blameless)

theorem send_failsOnly (url : Url) (cookie : Option String) :
    (send url cookie).FailsOnly Fault.IsBlameless := by
  refine Query.FailsOnly.get.bind fun network => ?_
  split
  · exact .fail rfl
  · refine (Query.FailsOnly.set _).bind fun _ => ?_
    split
    · exact .fail rfl
    · exact .fail rfl
    · exact .pure _

theorem request_failsOnly (url : Url) (parameters : List (String × String))
    (cookie : Option String) : (request url parameters cookie).FailsOnly Fault.IsBlameless :=
  (orFail_failsOnly (requestUrl?_failsOnly url parameters)).bind fun full =>
    (send_failsOnly full cookie).onPart

theorem requestService_failsOnly (address : String) (cookie : Option String) :
    (requestService address cookie).FailsOnly Fault.IsBlameless := by
  refine (orFail_failsOnly ?_).bind fun url => request_failsOnly url [] cookie
  cases Url.ofText? address with
  | ok url => exact .ok url
  | error _ => exact .error rfl

theorem fetchChart_failsOnly (range interval : String) :
    (fetchChart e h range interval).FailsOnly Fault.IsBlameless :=
  (orFail_failsOnly (symbolUrl?_failsOnly h.symbol e.chart)).bind fun url =>
    (request_failsOnly url _ none).bind fun reply =>
    orFail_failsOnly (chartOf?_failsOnly h.symbol reply)

theorem negotiate_failsOnly : (negotiate e h).FailsOnly Fault.IsBlameless := by
  refine (requestService_failsOnly e.cookie none).bind fun reply => ?_
  cases reply.cookie? with
  | none => exact .fail rfl
  | some cookie =>
    exact (requestService_failsOnly e.crumb (some cookie)).bind fun reply =>
      (orFail_failsOnly (crumbOf?_failsOnly h.symbol reply)).bind fun crumb => .pure _

theorem session_failsOnly : (session e h).FailsOnly Fault.IsBlameless := by
  refine (Query.FailsOnly.get.bind fun w => .pure _).bind fun memo => ?_
  split
  · exact .pure _
  · exact (negotiate_failsOnly e h).bind fun s => (Query.FailsOnly.modify _).bind fun _ =>
      .pure s

theorem fetchModules_failsOnly : (fetchModules e h).FailsOnly Fault.IsBlameless := by
  refine (session_failsOnly e h).bind fun s =>
    (orFail_failsOnly (symbolUrl?_failsOnly h.symbol e.quoteSummary)).bind fun url =>
    (request_failsOnly url _ _).bind fun reply => ?_
  have last := orFail_failsOnly (σ := World) (modulesOf?_failsOnly h.symbol reply)
  split
  · exact (Query.FailsOnly.modify _).bind fun _ => last
  · exact last

/-- Neither opening a handle nor asking one ever blames the caller. -/
theorem provider_isBlameless (e : Endpoints) : (provider e).IsBlameless where
  create _ := Query.FailsOnly.get.bind fun _ => (Query.FailsOnly.set _).bind fun _ => .pure _
  history h period := (fetchChart_failsOnly e h period.text "1d").bind fun chart => .pure _
  dividends h := by
    refine (Query.FailsOnly.get.bind fun w => .pure _).bind fun memo => ?_
    split
    · exact .pure _
    · exact (fetchChart_failsOnly e h Period.max.text "1mo").bind fun chart =>
        (Query.FailsOnly.modify _).bind fun _ => .pure _
  info h := (fetchModules_failsOnly e h).bind fun modules => .pure _

end Queries

end MarketDesk.Yahoo
