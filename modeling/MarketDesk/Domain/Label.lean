import MarketDesk.Domain.Mapping
import MarketDesk.Text.Joining
import MarketDesk.Text.Mark
import MarketDesk.Text.Punycode

/-!
# Labels

A label is a part of a domain between dots. It has a text and an ASCII form, which is the text
itself, or `xn--` and the text in Punycode where the text has other characters. A label may be
given in either form; both lead to the same label.
-/

namespace MarketDesk.Domain

open MarketDesk.Text

/-- A label, as it is read and as it is written. -/
structure Label where
  text : List Char
  ascii : List Char
  deriving DecidableEq, Repr

namespace Label

/-- The character must not stand in a domain, since it delimits parts of an address or cannot be
seen. -/
def isForbidden (c : Char) : Bool :=
  decide (c.toNat ≤ 0x20) || c.toNat == 0x7F || "%#/:<>?@[\\]^|".toList.contains c

/-- A joiner or a non-joiner has a meaning where it stands; `before` is given from its end. Both
may follow a virama, and a non-joiner may keep two letters apart. -/
def joinerFits (before : List Char) (c : Char) (after : List Char) : Bool :=
  if c = '\u200D' then before.head?.any isVirama
  else if c = '\u200C' then before.head?.any isVirama || connects before after
  else true

/-- Each joiner and non-joiner after `before` has a meaning where it stands. -/
def joinersFit (before : List Char) : List Char → Bool
  | [] => true
  | c :: cs => joinerFits before c cs && joinersFit (c :: before) cs

/-- The greatest length of the text of a label with characters beyond ASCII. -/
def maxLength : Nat := 1000

/-- The greatest length of the Punycode of a label. -/
def maxCodeLength : Nat := 2000

/-- A text with characters beyond ASCII may be that of a label. -/
def isWellFormed (text : List Char) : Bool :=
  decide (text.length ≤ maxLength) && !text.head?.any isMark && joinersFit [] text

/-- What ASCII forms of other characters begin with. -/
def mark : List Char := "xn--".toList

/-- The text behind Punycode. It has to be spelled as its label would be. -/
def ofCode? (code : List Char) : Option (List Char) :=
  if maxCodeLength < code.length ∨ code.isEmpty ∨ code.getLast? = some '-' then none
  else
    (Punycode.decode? code).filter fun text =>
      isMapped text && !text.any isForbidden && isWellFormed text

/-- The label with a given text or ASCII form, in its one spelling. -/
def ofSpelled? (cs : List Char) : Option Label :=
  if cs.any isForbidden then none
  else if mark.isPrefixOf cs then
    if cs.all Punycode.isBasic then (ofCode? (cs.drop mark.length)).map fun text => ⟨text, cs⟩
    else none
  else if cs.all Punycode.isBasic then some ⟨cs, cs⟩
  else if isWellFormed cs then some ⟨cs, mark ++ Punycode.encode cs⟩
  else none

end Label

end MarketDesk.Domain
