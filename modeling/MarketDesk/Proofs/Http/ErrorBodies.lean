import MarketDesk.Proofs.Desk.Fetching
import MarketDesk.Proofs.Http.Fetches
import MarketDesk.Proofs.Json.Documents

/-!
# What a failure says

The body of every failure is a document with one member, and its value is one message: for a
refusal the text of the error, whatever characters the client put into it, and for everything else
the one fixed text. `Discloses` pairs each failure with its status and message; the server answers
with nothing else, provided that it answers with a body at all.
-/

namespace MarketDesk.Http

open MarketDesk.Json MarketDesk.Text

/-- Why a request is not answered with data: an error, or the breakdown of what should answer,
with what it leaves behind. -/
inductive Failure where
  | error (e : ApiError)
  | breakdown (b : Breakdown)

/-- The response to a failure. -/
def Failure.response : Failure → Response
  | .error e => e.response
  | .breakdown b => b.response

/-- The client is told about a failure with a status and a message. -/
inductive Discloses : Failure → Nat → String → Prop where
  | invalidPeriod (t : String) :
      Discloses (.error (.data (.invalidPeriod t))) 400 ("Invalid period: " ++ t)
  | invalidSymbol (s : String) :
      Discloses (.error (.invalidSymbol s)) 400 ("Invalid symbol: " ++ s)
  | notFound : Discloses (.error .notFound) 404 "Not found"
  | internal {e : DataError} : (∀ t, e ≠ .invalidPeriod t) →
      Discloses (.error (.data e)) 500 "An internal error occurred"
  | breakdown (b : Breakdown) : Discloses (.breakdown b) 500 "An internal error occurred"

/-- The bytes of a body are a strict document, a record whose only member is `error`, with the
message as its value. -/
def SaysOnly (body message : String) : Prop :=
  ∃ key value, Raw.ofBytes? (Utf8.encode body.toList) = some (.record [(key, value)]) ∧
    stringOf? key = some "error" ∧ value.string? = some message

/-- The response is a success, or tells about one failure. -/
inductive Told (r : Response) : Prop where
  | success : r.isSuccess = true → Told r
  | failure {e : Failure} {message : String} : Discloses e r.status message →
      SaysOnly r.body message → Told r

variable {W : Type} {p : Provider W} {d : Desk W} {path : List Char} {r : Response}
  {method : Method} {e : Failure} {status status' : Nat} {message message' body : String}

/-! ## Messages -/

/-- A failure is told about in one way. -/
theorem Discloses.unique (told : Discloses e status message)
    (told' : Discloses e status' message') : status' = status ∧ message' = message := by
  cases told with
  | invalidPeriod t =>
    cases told' with
    | invalidPeriod => exact ⟨rfl, rfl⟩
    | internal other => exact (other t rfl).elim
  | invalidSymbol | notFound | breakdown =>
    cases told'
    exact ⟨rfl, rfl⟩
  | internal other =>
    cases told' with
    | invalidPeriod t => exact (other t rfl).elim
    | internal => exact ⟨rfl, rfl⟩

/-- A body has one message at most. -/
theorem SaysOnly.unique (said : SaysOnly body message) (said' : SaysOnly body message') :
    message' = message := by
  obtain ⟨key, value, read, -, text⟩ := said
  obtain ⟨key', value', read', -, text'⟩ := said'
  rw [read] at read'
  cases read'
  exact Option.some.inj (text'.symm.trans text)

/-- Whatever the message is, the body of a failure says it and nothing else. -/
theorem saysOnly_failure (status : Nat) (message : String) :
    SaysOnly (Response.failure status message).body message := by
  obtain ⟨r, read, shows⟩ := exists_ofText?_render (.record [("error", .text message)])
  cases shows with
  | record members =>
  cases members with
  | cons key value none =>
  cases none
  cases value with
  | text text => exact ⟨_, _, (ofBytes?_encode _).trans read, key, text⟩

/-! ## Responses -/

theorem exists_discloses (e : Failure) : ∃ message, Discloses e e.response.status message ∧
    SaysOnly e.response.body message := by
  cases e with
  | error e =>
    cases e with
    | data e =>
      cases e with
      | invalidPeriod t => exact ⟨_, .invalidPeriod t, saysOnly_failure 400 _⟩
      | _ => exact ⟨_, .internal nofun, saysOnly_failure 500 _⟩
    | invalidSymbol s => exact ⟨_, .invalidSymbol s, saysOnly_failure 400 _⟩
    | notFound => exact ⟨_, .notFound, saysOnly_failure 404 _⟩
  | breakdown b => exact ⟨_, .breakdown b, saysOnly_failure 500 _⟩

namespace Told

theorem of_failure (e : Failure) : Told e.response := by
  obtain ⟨message, told, said⟩ := exists_discloses e
  exact .failure told said

theorem of_fetch (f : Fetch) (result : Except Fault Fetched) : Told (f.response result) := by
  cases result with
  | ok a => exact .success rfl
  | error fault =>
    rw [response_error]
    cases fault with
    | error e => exact of_failure (.error (.data e))
    | abort => exact of_failure (.breakdown .other)

/-- An age changes neither status nor body. -/
theorem withDefaultAge (told : Told r) : Told r.withDefaultAge := by
  rw [Response.withDefaultAge]
  split
  · cases told with
    | success ok => exact .success ok
    | failure told said => exact .failure told said
  · exact told

end Told

/-- A `GET` is answered with a success, or told about one failure. -/
theorem respond_get_told (p : Provider W) (d : Desk W) (path : List Char) :
    Told ((respond p .get path).run d).1 := by
  show Told ((answer p path (Route.ofPath path)).run d).1.withDefaultAge
  refine Told.withDefaultAge ?_
  have answered := answer_answered p path d
  generalize ((answer p path (Route.ofPath path)).run d).1 = r at answered
  cases answered with
  | fetch => exact .of_fetch _ _
  | health => exact .success rfl
  | refused e => exact .of_failure (.error e)

/-- Other requests are answered without a body, unless they are not found. -/
theorem respond_told (p : Provider W) (d : Desk W) (method : Method) (path : List Char) :
    Told ((respond p method path).run d).1 ∨
      ((method = .head ∨ ((respond p method path).run d).1.status = 405) ∧
        ((respond p method path).run d).1.body = "") := by
  cases method with
  | get => exact .inl (respond_get_told p d path)
  | head => exact .inr ⟨.inl rfl, rfl⟩
  | other name =>
    unfold respond
    cases Route.ofPath path with
    | unknown => exact .inl (.of_failure (.error .notFound))
    | _ => exact .inr ⟨.inr rfl, rfl⟩

/-- **Failures say one message.** The response to an error or a breakdown has the one status and
the one message that the client is told about it, and its body says that message and nothing else,
whatever texts the error carries and whatever the breakdown leaves behind. And every valid request,
on every desk and with every provider, whatever its path holds, is answered with a success, with
such a body, or with no body, since it is a `HEAD` or its method is not allowed. -/
theorem failures_say_one_message :
    (∀ e : Failure, ∃ message, Discloses e e.response.status message ∧
      (∀ status' message', Discloses e status' message' →
        status' = e.response.status ∧ message' = message) ∧
      SaysOnly e.response.body message ∧
      (∀ message', SaysOnly e.response.body message' → message' = message)) ∧
    ∀ {W : Type} (p : Provider W) (d : Desk W) {name target : String} {method : Method}
      {path : List Char}, Method.ofText? name = some method →
      Target.path? target.toList = some path →
      ∃ r d', (Session.step p (.http name target)).outcome d = (.ok (.response r), d') ∧
        (Told r ∨ (method = .head ∨ r.status = 405) ∧ r.body = "") := by
  refine ⟨fun e => ?_, fun p d name target method path known valid => ?_⟩
  · obtain ⟨message, told, said⟩ := exists_discloses e
    exact ⟨message, told, fun _ _ told' => told.unique told', said, fun _ said' =>
      said.unique said'⟩
  · exact ⟨_, _, request_of_path method known valid, respond_told p d method path⟩

/-- A period that would close the string and add a member, if it were not escaped. -/
theorem failures_say_one_message_quoted :
    Method.ofText? "GET" = some .get ∧
      Target.path? "/history/A/%22,%22x%22:%22".toList =
        some "/history/A/%22,%22x%22:%22".toList ∧
      ∃ r d', (Session.step (Canned.mk fun _ => .error .abort).provider
          (.http "GET" "/history/A/%22,%22x%22:%22")).outcome Canned.freshDesk =
            (.ok (.response r), d') ∧
        r.status = 400 ∧ SaysOnly r.body "Invalid period: \",\"x\":\"" := by
  have known : Method.ofText? "GET" = some .get := rfl
  have valid : Target.path? "/history/A/%22,%22x%22:%22".toList =
      some "/history/A/%22,%22x%22:%22".toList := by decide
  obtain ⟨r, d', served, told⟩ := failures_say_one_message.2
    (Canned.mk fun _ => .error .abort).provider Canned.freshDesk known valid
  refine ⟨known, valid, r, d', served, ?_⟩
  have found : ((Session.step (Canned.mk fun _ => .error .abort).provider
      (.http "GET" "/history/A/%22,%22x%22:%22")).outcome Canned.freshDesk).1 =
        .ok (.response (Failure.error (.data (.invalidPeriod "\",\"x\":\""))).response) := rfl
  rw [served] at found
  cases found
  obtain ⟨message, told, -, said, -⟩ := failures_say_one_message.1
    (.error (.data (.invalidPeriod "\",\"x\":\"")))
  obtain ⟨-, rfl⟩ := told.unique (.invalidPeriod _)
  exact ⟨rfl, said⟩

end MarketDesk.Http
