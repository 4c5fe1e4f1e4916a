import MarketDesk.Proofs.Desk.Inquiry
import MarketDesk.Provider.Canned
import MarketDesk.Session

/-!
# What a fetch comes to

The outcome of each fetch from those of the questions that it asks, through a handle that has been
acquired. The first question that fails gives its fault, and no later one is asked. Frames are read
after all questions have been asked, so a frame that cannot be read does not change what has been
done to the world.
-/

namespace MarketDesk.Desk

variable {W α : Type} {p : Provider W} {s : Symbol} {period : Period} {h : Handle} {d d' : Desk W}
  {w w' : W} {f : Fault} {prices payments : Frame} {fields : Snapshot}

/-- A question to the world of a desk comes to what it comes to there. -/
theorem onWorld_of_outcome {q : Query W α} {r : Except Fault α}
    (asked : q.outcome d.world = (r, w)) : (onWorld q).outcome d = (r, { d with world := w }) := by
  rw [outcome_onWorld, asked]

/-- The timeline of two frames, if both can be read. -/
def timeline (prices payments : Frame) : Except Fault Timeline := do
  let bars ← prices.bars
  let dividends ← payments.dividends
  pure (Timeline.make bars dividends)

/-- A history ends with the fault of its prices. -/
theorem fetchHistory_of_prices_error (acquired : (acquire p s).outcome d = (.ok h, d'))
    (failed : (p.history h period).outcome d'.world = (.error f, w)) :
    (fetchHistory p s period).outcome d = (.error f, { d' with world := w }) := by
  rw [fetchHistory, Query.outcome_bind_ok acquired,
    Query.outcome_bind_error (onWorld_of_outcome failed)]

/-- A history that has its prices ends with the fault of its dividends. -/
theorem fetchHistory_of_payments_error (acquired : (acquire p s).outcome d = (.ok h, d'))
    (answered : (p.history h period).outcome d'.world = (.ok prices, w))
    (failed : (p.dividends h).outcome w = (.error f, w')) :
    (fetchHistory p s period).outcome d = (.error f, { d' with world := w' }) := by
  have stopped : (onWorld (p.dividends h)).outcome { d' with world := w } =
      (.error f, { d' with world := w' }) := onWorld_of_outcome failed
  rw [fetchHistory, Query.outcome_bind_ok acquired,
    Query.outcome_bind_ok (onWorld_of_outcome answered), Query.outcome_bind_error stopped]

/-- A history that has both frames reads them. -/
theorem fetchHistory_of_frames (acquired : (acquire p s).outcome d = (.ok h, d'))
    (first : (p.history h period).outcome d'.world = (.ok prices, w))
    (second : (p.dividends h).outcome w = (.ok payments, w')) :
    (fetchHistory p s period).outcome d = (timeline prices payments, { d' with world := w' }) := by
  have answered : (onWorld (p.dividends h)).outcome { d' with world := w } =
      (.ok payments, { d' with world := w' }) := onWorld_of_outcome second
  rw [fetchHistory, Query.outcome_bind_ok acquired,
    Query.outcome_bind_ok (onWorld_of_outcome first), Query.outcome_bind_ok answered, timeline]
  cases prices.bars with
  | error f => rfl
  | ok bars => cases payments.dividends <;> rfl

theorem fetchDividends_of_error (acquired : (acquire p s).outcome d = (.ok h, d'))
    (failed : (p.dividends h).outcome d'.world = (.error f, w)) :
    (fetchDividends p s).outcome d = (.error f, { d' with world := w }) := by
  rw [fetchDividends, Query.outcome_bind_ok acquired,
    Query.outcome_bind_error (onWorld_of_outcome failed)]

theorem fetchDividends_of_frame (acquired : (acquire p s).outcome d = (.ok h, d'))
    (answered : (p.dividends h).outcome d'.world = (.ok payments, w)) :
    (fetchDividends p s).outcome d =
      (payments.dividends.map payouts, { d' with world := w }) := by
  rw [fetchDividends, Query.outcome_bind_ok acquired,
    Query.outcome_bind_ok (onWorld_of_outcome answered)]
  cases payments.dividends <;> rfl

theorem fetchOverview_of_error (acquired : (acquire p s).outcome d = (.ok h, d'))
    (failed : (p.info h).outcome d'.world = (.error f, w)) :
    (fetchOverview p s).outcome d = (.error f, { d' with world := w }) := by
  rw [fetchOverview, Query.outcome_bind_ok acquired,
    Query.outcome_bind_error (onWorld_of_outcome failed)]

end MarketDesk.Desk

namespace MarketDesk

variable {W α : Type} {p : Provider W} {s : Symbol} {d d' : Desk W} {f : Fault}

/-- An inquiry ends with the fault of acquiring. -/
theorem Inquiry.outcome_of_acquire_error {q : Query (Desk W) α} (inquiry : Inquiry p s q)
    (failed : (Desk.acquire p s).outcome d = (.error f, d')) : q.outcome d = (.error f, d') := by
  obtain ⟨ask, -, rfl⟩ := inquiry
  exact Query.outcome_bind_error failed _

/-! ## Canned answers -/

namespace Canned

/-- A desk in front of a canned provider, before anything was asked. -/
def freshDesk : Desk Tally := Session.fresh ⟨.epoch, true⟩ (.ofParts 300 0) ⟨0, 0⟩

variable {c : Canned}

theorem create_of_error {f : Fault} (refused : c.script s = .error f) (w : Tally) :
    (c.provider.create s).outcome w = (.error f, w) := by
  show (c.create s).outcome w = _
  rw [create, refused]
  rfl

theorem create_of_ok {script : Script} (known : c.script s = .ok script) (w : Tally) :
    (c.provider.create s).outcome w =
      (.ok ⟨w.created, s⟩, { w with created := w.created + 1 }) := by
  show (c.create s).outcome w = _
  rw [create, known]
  rfl

/-- A question is counted, and answered with what the script of the symbol says. -/
theorem answer_outcome (c : Canned) (h : Handle) (part : Script → Except DataError α) (w : Tally) :
    (c.answer h part).outcome w =
      ((c.script h.symbol).bind fun script => (part script).mapError Fault.error,
        { w with queried := w.queried + 1 }) := by
  rw [answer, Query.outcome_bind_ok (Query.outcome_modify _ w)]
  cases known : c.script h.symbol with
  | error f => rfl
  | ok script => exact Query.outcome_ofExcept _ _

end Canned

end MarketDesk
