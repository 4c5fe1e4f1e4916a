import MarketDesk.Text.Digits
import MarketDesk.Word

/-!
# Punycode

The ASCII form of a text with other characters, as domain labels use it: the ASCII characters in
front, then, for each further code point in increasing order, how far the insertion point moves,
as a number of variable length in base 36 whose digit thresholds adapt to the numbers before it.
-/

namespace MarketDesk.Text.Punycode

/-- The character stands for itself. -/
def isBasic (c : Char) : Bool := decide (c.toNat < 0x80)

/-- The digit with a value below 36: letters first, then `0` to `9`. -/
def digitChar (d : Nat) : Char :=
  if d < 26 then Char.ofNat ('a'.toNat + d) else Char.ofNat ('0'.toNat + (d - 26))

/-- The threshold of the digit at place `k`. -/
def threshold (k bias : Nat) : Nat :=
  if k ≤ bias then 1 else if bias + 26 ≤ k then 26 else k - bias

/-- Divides by 35 until at most 455 is left, and counts 36 for each time. -/
def scaleDown (delta k : Nat) : Nat × Nat :=
  if 455 < delta then scaleDown (delta / 35) (k + 36) else (delta, k)
termination_by delta
decreasing_by exact Nat.div_lt_self (by omega) (by omega)

/-- The bias after a number has been written. -/
def adapt (delta count : Nat) (first : Bool) : Nat :=
  let delta := if first then delta / 700 else delta / 2
  let (delta, k) := scaleDown (delta + delta / count) 0
  k + 36 * delta / (delta + 38)

theorem threshold_pos (k bias : Nat) : 0 < threshold k bias := by
  unfold threshold
  split
  · omega
  · split <;> omega

theorem threshold_lt (k bias : Nat) : threshold k bias < 36 := by
  unfold threshold
  split
  · omega
  · split <;> omega

/-- Writes a number from place `k` on. -/
def writeNumber (q k bias : Nat) : List Char :=
  let t := threshold k bias
  if h : q < t then [digitChar q]
  else digitChar (t + (q - t) % (36 - t)) :: writeNumber ((q - t) / (36 - t)) (k + 36) bias
termination_by q
decreasing_by
  have := threshold_pos k bias
  have := threshold_lt k bias
  exact Nat.lt_of_le_of_lt (Nat.div_le_self ..) (by omega)

/-- The value of a digit, in either case. -/
def digitValue? (c : Char) : Option Nat :=
  if isLetter c then some (c.toLower.toNat - 'a'.toNat) else (digit? c).map (· + 26)

/-- Reads a number from place `k` on, where a digit counts `weight` times, and adds it to `total`.
Gives the sum and the text after the number. -/
def readNumber? (bias : Nat) (k weight total : Nat) : List Char → Option (Nat × List Char)
  | [] => none
  | c :: cs =>
    match digitValue? c with
    | none => none
    | some d =>
      let total := total + d * weight
      let t := threshold k bias
      if Word.size32 ≤ total then none
      else if d < t then some (total, cs)
      else if Word.size32 ≤ weight * (36 - t) then none
      else readNumber? bias (k + 36) (weight * (36 - t)) total cs

theorem readNumber?_length {bias k weight total n : Nat} {cs rest : List Char}
    (h : readNumber? bias k weight total cs = some (n, rest)) : rest.length < cs.length := by
  fun_induction readNumber? bias k weight total cs with
  | case1 => simp at h
  | case2 => simp at h
  | case3 => simp at h
  | case4 => simp_all
  | case5 => simp at h
  | case6 k weight total c cs d hd total' t hs hd' hw ih =>
    have := ih h
    simp only [List.length_cons]
    omega

/-- The state of the writer: what has been written, the distance since the last insertion, the
bias, and the number of code points handled. -/
structure State where
  out : List Char
  delta : Nat
  bias : Nat
  handled : Nat

/-- Passes over one character of the text while code point `n` is being inserted; `basic` counts
the ASCII characters of the text. -/
def visit (basic n : Nat) (s : State) (c : Char) : State :=
  if c.toNat < n then { s with delta := s.delta + 1 }
  else if c.toNat = n then
    { out := s.out ++ writeNumber s.delta 36 s.bias
      delta := 0
      bias := adapt s.delta (s.handled + 1) (s.handled == basic)
      handled := s.handled + 1 }
  else s

/-- The distinct code points beyond ASCII in increasing order. -/
def further (cs : List Char) : List Nat :=
  (((cs.map Char.toNat).filter (0x80 ≤ ·)).mergeSort (· ≤ ·)).eraseDups

/-- Inserts the code points in turn; `start` is the first one that has not been considered. -/
def insertAll (cs : List Char) (basic : Nat) : (start : Nat) → List Nat → State → State
  | _, [], s => s
  | start, n :: ns, s =>
    let s := { s with delta := s.delta + (n - start) * (s.handled + 1) }
    let s := cs.foldl (visit basic n) s
    insertAll cs basic (n + 1) ns { s with delta := s.delta + 1 }

/-- The ASCII form of a text. -/
def encode (cs : List Char) : List Char :=
  let ascii := cs.filter isBasic
  let front := if ascii.isEmpty then [] else ascii ++ ['-']
  (insertAll cs ascii.length 0x80 (further cs) ⟨front, 0, 72, ascii.length⟩).out

/-- Inserts code points into `out` as the numbers say. `n` is the code point inserted last, or
the first that could be, and `i` the place after it. -/
def insertRead? (n i bias : Nat) (out : List Char) (cs : List Char) : Option (List Char) :=
  match cs with
  | [] => some out
  | c :: cs =>
    match _h : readNumber? bias 36 1 i (c :: cs) with
    | none => none
    | some (total, rest) =>
      let places := out.length + 1
      let n := n + total / places
      let place := total % places
      if n.isValidChar then
        insertRead? n (place + 1) (adapt (total - i) places (i == 0))
          (out.insertIdx place (Char.ofNat n)) rest
      else none
termination_by cs.length
decreasing_by exact readNumber?_length _h

/-- The text before the last hyphen and the text after it. A text without a hyphen, or with its
only one in front, is all in the second. -/
def splitLast (cs : List Char) : List Char × List Char :=
  let tail := (cs.reverse.takeWhile (· != '-')).reverse
  let front := cs.take (cs.length - tail.length - 1)
  if front.isEmpty then ([], cs) else (front, tail)

/-- The text behind an ASCII form. -/
def decode? (cs : List Char) : Option (List Char) :=
  let (front, numbers) := splitLast cs
  if front.all isBasic then insertRead? 0x80 0 72 front numbers else none

end MarketDesk.Text.Punycode
