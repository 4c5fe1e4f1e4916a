import MarketDesk.Http.Routes
import MarketDesk.Proofs.Text.Split

/-!
# The paths of the routes

`Matches` writes out which paths belong to which route, and `ofPath_eq_iff_matches` says that
reading a path finds just that route.
-/

namespace MarketDesk.Http

open MarketDesk.Text

/-- The path is one of a route. Segments have no slash in them, and the last one is not empty. -/
inductive Matches : List Char → Route → Prop where
  | history {symbol period : List Char} : '/' ∉ symbol → '/' ∉ period → period ≠ [] →
    Matches ("/history/".toList ++ symbol ++ '/' :: period) (.history symbol period)
  | dividends {symbol : List Char} : '/' ∉ symbol → symbol ≠ [] →
    Matches ("/dividends/".toList ++ symbol) (.dividends symbol)
  | info {symbol : List Char} : '/' ∉ symbol → symbol ≠ [] →
    Matches ("/info/".toList ++ symbol) (.info symbol)
  | health : Matches "/health".toList .health

/-- What stands between the slashes of a path of a route. -/
def Route.pieces : Route → List (List Char)
  | .history symbol period => [[], "history".toList, symbol, period]
  | .dividends symbol => [[], "dividends".toList, symbol]
  | .info symbol => [[], "info".toList, symbol]
  | .health => [[], "health".toList]
  | .unknown => []

theorem Matches.splitOn_eq {path : List Char} {r : Route} (h : Matches path r) :
    splitOn '/' path = r.pieces := by
  cases h with
  | @history symbol period hs hp =>
    rw [List.append_assoc]
    show splitOn '/' ([] ++ '/' :: ("history".toList ++ '/' :: (symbol ++ '/' :: period))) = _
    rw [splitOn_append_mark (by simp), splitOn_append_mark (by decide), splitOn_append_mark hs,
      splitOn_of_not_mem hp]
    rfl
  | @dividends symbol hs =>
    show splitOn '/' ([] ++ '/' :: ("dividends".toList ++ '/' :: symbol)) = _
    rw [splitOn_append_mark (by simp), splitOn_append_mark (by decide), splitOn_of_not_mem hs]
    rfl
  | @info symbol hs =>
    show splitOn '/' ([] ++ '/' :: ("info".toList ++ '/' :: symbol)) = _
    rw [splitOn_append_mark (by simp), splitOn_append_mark (by decide), splitOn_of_not_mem hs]
    rfl
  | health => decide

/-- A path of a route is read as that route. -/
theorem Matches.ofPath_eq {path : List Char} {r : Route} (h : Matches path r) :
    Route.ofPath path = r := by
  rw [Route.ofPath, h.splitOn_eq]
  cases h with
  | history _ _ nonempty => simp [Route.pieces, nonempty]
  | dividends _ nonempty => simp [Route.pieces, nonempty]
  | info _ nonempty => simp [Route.pieces, nonempty]
  | health => decide

/-- The pieces of a path, from their texts. -/
theorem path_eq_of_pieces {path : List Char} {texts : List String}
    (h : (splitOn '/' path).map String.ofList = texts) :
    path = joinWith '/' (texts.map String.toList) ∧ ∀ t ∈ texts, '/' ∉ t.toList := by
  subst h
  constructor
  · rw [List.map_map]
    simp only [Function.comp_def, String.toList_ofList, List.map_id', joinWith_splitOn]
  · intro t mem
    obtain ⟨piece, hp, rfl⟩ := List.mem_map.1 mem
    rw [String.toList_ofList]
    exact not_mem_of_mem_splitOn hp

theorem matches_of_ofPath {path : List Char} {r : Route} (h : Route.ofPath path = r)
    (known : r ≠ .unknown) : Matches path r := by
  unfold Route.ofPath at h
  split at h
  next pieces =>
    obtain ⟨rfl, -⟩ := path_eq_of_pieces pieces
    exact h ▸ .health
  next symbol pieces =>
    obtain ⟨rfl, clean⟩ := path_eq_of_pieces pieces
    split at h
    · exact (known h.symm).elim
    next nonempty =>
      exact h ▸ .info (clean symbol (by simp)) (by simpa using nonempty)
  next symbol pieces =>
    obtain ⟨rfl, clean⟩ := path_eq_of_pieces pieces
    split at h
    · exact (known h.symm).elim
    next nonempty =>
      exact h ▸ .dividends (clean symbol (by simp)) (by simpa using nonempty)
  next symbol period pieces =>
    obtain ⟨rfl, clean⟩ := path_eq_of_pieces pieces
    split at h
    · exact (known h.symm).elim
    next nonempty =>
      exact h ▸ .history (clean symbol (by simp)) (clean period (by simp))
        (by simpa [joinWith] using nonempty)
  next => exact (known h.symm).elim

/-- Reading a path finds a route just if the path is one of that route. -/
theorem ofPath_eq_iff_matches {path : List Char} {r : Route} (known : r ≠ .unknown) :
    Route.ofPath path = r ↔ Matches path r :=
  ⟨fun h => matches_of_ofPath h known, Matches.ofPath_eq⟩

theorem Matches.ne_unknown {path : List Char} {r : Route} (h : Matches path r) : r ≠ .unknown := by
  rintro rfl
  cases h

/-- A path is unknown just if it is one of no route. -/
theorem ofPath_eq_unknown_iff {path : List Char} :
    Route.ofPath path = .unknown ↔ ∀ r, ¬ Matches path r := by
  constructor
  · intro h r matched
    exact matched.ne_unknown (matched.ofPath_eq.symm.trans h)
  · intro unmatched
    apply Decidable.byContradiction
    intro known
    exact unmatched _ (matches_of_ofPath rfl known)

end MarketDesk.Http
