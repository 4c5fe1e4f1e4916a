import MarketDesk.Fault

/-!
# Outcomes of queries

What `outcome` gives for each way to build a query. A query that is put together from others by
`>>=` stops at the first fault and keeps the state that it has reached by then; `outcome_bind`
says so once, and later proofs carry out a query by rewriting with these equations.
-/

namespace MarketDesk.Query

variable {σ τ α β : Type}

@[simp] theorem outcome_pure (a : α) (s : σ) : (pure a : Query σ α).outcome s = (.ok a, s) := rfl

/-- The second part runs on the state after the first, and only if the first has an answer. -/
theorem outcome_bind (q : Query σ α) (k : α → Query σ β) (s : σ) :
    (q >>= k).outcome s =
      match q.outcome s with
      | (.ok a, t) => (k a).outcome t
      | (.error f, t) => (.error f, t) := by
  simp only [outcome, ExceptT.run_bind, StateT.run_bind]
  cases h : q.run.run s with
  | mk r t => cases r <;> rfl

theorem outcome_bind_ok {q : Query σ α} {s t : σ} {a : α} (h : q.outcome s = (.ok a, t))
    (k : α → Query σ β) : (q >>= k).outcome s = (k a).outcome t := by
  rw [outcome_bind, h]

theorem outcome_bind_error {q : Query σ α} {s t : σ} {f : Fault}
    (h : q.outcome s = (.error f, t)) (k : α → Query σ β) :
    (q >>= k).outcome s = (.error f, t) := by
  rw [outcome_bind, h]

@[simp] theorem outcome_map (g : α → β) (q : Query σ α) (s : σ) :
    (g <$> q).outcome s = ((q.outcome s).1.map g, (q.outcome s).2) := by
  rw [map_eq_pure_bind, outcome_bind]
  cases h : q.outcome s with
  | mk r t => cases r <;> rfl

@[simp] theorem outcome_get (s : σ) : (get : Query σ σ).outcome s = (.ok s, s) := rfl

@[simp] theorem outcome_set (s t : σ) : (set t : Query σ PUnit).outcome s = (.ok ⟨⟩, t) := rfl

@[simp] theorem outcome_modify (g : σ → σ) (s : σ) :
    (modify g : Query σ PUnit).outcome s = (.ok ⟨⟩, g s) := rfl

@[simp] theorem outcome_throw (f : Fault) (s : σ) :
    (throw f : Query σ α).outcome s = (.error f, s) := rfl

@[simp] theorem outcome_fail (e : DataError) (s : σ) :
    (fail e : Query σ α).outcome s = (.error (.error e), s) := rfl

@[simp] theorem outcome_abort (s : σ) : (abort : Query σ α).outcome s = (.error .abort, s) := rfl

@[simp] theorem outcome_ofExcept (r : Except Fault α) (s : σ) :
    (ofExcept r : Query σ α).outcome s = (r, s) := by
  cases r <;> rfl

/-- A query on a part changes that part only. -/
@[simp] theorem outcome_onPart (get : τ → σ) (set : σ → τ → τ) (q : Query σ α) (t : τ) :
    (q.onPart get set).outcome t = ((q.outcome (get t)).1, set (q.outcome (get t)).2 t) := rfl

end MarketDesk.Query
