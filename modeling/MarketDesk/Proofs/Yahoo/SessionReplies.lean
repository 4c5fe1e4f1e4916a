import MarketDesk.Proofs.Text.Charset
import MarketDesk.Proofs.Text.Trimming
import MarketDesk.Yahoo.Client

/-!
# Cookies and crumbs

Which replies set a cookie and which give a crumb. `SetsCookie` and `GivesCrumb` say it of the
headers, the status and the body as they arrive, and do not say how the client looks for the one or
the other; `cookie?_eq_some_iff` and `crumbOf?_eq_ok_iff` say that it finds just these.
-/

namespace MarketDesk.Yahoo

open MarketDesk.Text

/-- The part of a text before the first occurrence of a character, or the whole text. -/
def UpTo (mark : Char) (cs part : List Char) : Prop :=
  ∃ rest, cs = part ++ rest ∧ mark ∉ part ∧ ∀ c, rest.head? = some c → c = mark

/-- Visible ASCII, spaces and tabs. -/
def Plain (s : String) : Prop :=
  ∀ c ∈ s.toList, (0x20 ≤ c.toNat ∧ c.toNat < 0x7F) ∨ c = '\t'

namespace Reply

/-- The first header with a name has the value. The name is given in lower case. -/
def HasHeader (r : Reply) (name value : String) : Prop :=
  ∃ before written after, r.headers = before ++ (written, value) :: after ∧
    written.toLower = name ∧ ∀ h ∈ before, h.1.toLower ≠ name

/-- The reply sets a cookie: its first `Set-Cookie` is plain, and the cookie is what stands there
before a semicolon, less the white space around it. -/
def SetsCookie (r : Reply) (cookie : String) : Prop :=
  ∃ value part, r.HasHeader "set-cookie" value ∧ Plain value ∧ UpTo ';' value.toList part ∧
    Trims part cookie.toList ∧ cookie ≠ ""

/-- The body of the reply arrives, and this is its text. -/
inductive HasText (r : Reply) : List Char → Prop where
  /-- Without a content type it is what was written in UTF-8, unless that begins with a mark. -/
  | written {cs : List Char} : (∀ h ∈ r.headers, h.1.toLower ≠ "content-type") →
      r.body = .complete (Utf8.encode cs) → cs.head? ≠ some '\uFEFF' → HasText r cs
  /-- Plain ASCII is what it spells, whatever set is named, if the set has ASCII in it. -/
  | plain {bytes : List UInt8} : r.charset.ExtendsAscii → (∀ b ∈ bytes, IsPlainByte b) →
      r.body = .complete bytes → HasText r (plainText bytes)
  | decoded {bytes : List UInt8} : r.body = .complete bytes → HasText r (r.charset.decode bytes)

/-- The reply gives a crumb: it is a success with content, and its text, less the white space around
it, is the crumb, which is not empty and no page. -/
structure GivesCrumb (r : Reply) (crumb : String) : Prop where
  success : 200 ≤ r.status ∧ r.status < 300
  content : r.status ≠ 204
  text : ∃ cs, r.HasText cs ∧ Trims cs crumb.toList
  nonempty : crumb ≠ ""
  noPage : '<' ∉ crumb.toList

end Reply

variable {r : Reply} {name value cookie crumb : String} {mark : Char} {cs part : List Char}
  {bytes : List UInt8} {symbol : Symbol}

/-! ## Cookies -/

theorem upTo_iff : UpTo mark cs part ↔ cs.takeWhile (· != mark) = part := by
  constructor
  · rintro ⟨rest, rfl, free, marked⟩
    have before : ∀ c ∈ part, (c != mark) = true := by
      intro c mem
      rw [bne_iff_ne]
      rintro rfl
      exact free mem
    rw [List.takeWhile_append_of_pos before]
    cases rest with
    | nil => simp
    | cons c rest => rw [marked c rfl, List.takeWhile_cons_of_neg (by simp), List.append_nil]
  · rintro rfl
    refine ⟨cs.dropWhile (· != mark), List.takeWhile_append_dropWhile.symm, ?_, ?_⟩
    · intro mem
      simpa using List.all_eq_true.1 List.all_takeWhile _ mem
    · intro c first
      simpa using Calendar.Date.clear_dropWhile (· != mark) cs c first

theorem header?_eq_some_iff : r.header? name = some value ↔ r.HasHeader name value := by
  rw [Reply.header?, Option.map_eq_some_iff]
  simp only [List.find?_eq_some_iff_append, Reply.HasHeader, beq_iff_eq, Bool.not_eq_true',
    beq_eq_false_iff_ne]
  constructor
  · rintro ⟨⟨written, value⟩, ⟨named, before, after, split, others⟩, rfl⟩
    exact ⟨before, written, after, split, named, others⟩
  · rintro ⟨before, written, after, split, named, others⟩
    exact ⟨(written, value), ⟨named, before, after, split, others⟩, rfl⟩

theorem plainHeader?_eq_some_iff :
    r.plainHeader? name = some value ↔ r.HasHeader name value ∧ Plain value := by
  rw [Reply.plainHeader?, Option.filter_eq_some_iff, header?_eq_some_iff]
  simp [Plain]

/-- The client finds the cookie that a reply sets. -/
theorem cookie?_eq_some_iff : r.cookie? = some cookie ↔ r.SetsCookie cookie := by
  have nonempty : (!cookie.isEmpty) = true ↔ cookie ≠ "" := by simp
  rw [Reply.cookie?, Option.filter_eq_some_iff, Option.map_eq_some_iff, nonempty]
  constructor
  · rintro ⟨⟨value, header, rfl⟩, some⟩
    obtain ⟨has, plain⟩ := plainHeader?_eq_some_iff.1 header
    refine ⟨value, _, has, plain, upTo_iff.2 rfl, ?_, some⟩
    rw [String.toList_ofList]
    exact trims_trimBlank _
  · rintro ⟨value, part, has, plain, upTo, trims, some⟩
    refine ⟨⟨value, plainHeader?_eq_some_iff.2 ⟨has, plain⟩, ?_⟩, some⟩
    rw [upTo_iff.1 upTo, trims.trimBlank_eq, String.ofList_toList]

/-! ## Crumbs -/

theorem statusError?_eq_none_iff {status : Nat} :
    statusError? symbol status = none ↔ 200 ≤ status ∧ status < 300 := by
  unfold statusError?
  split
  · simp [*]
  · split
    · simp [*]
    · split <;> simp [*]

/-- A text begins as its UTF-8 is scanned to begin. -/
theorem head?_of_encode {c : Option Char} {rest : List (Option Char)}
    (same : Utf8.encode cs = bytes) (scanned : Utf8.scan bytes = c :: rest) :
    cs.head?.map some = some c := by
  rw [← same, Utf8.scan_encode] at scanned
  rw [← List.head?_map, scanned, List.head?_cons]

/-- A text in UTF-8 is read as it is, if it does not begin with a byte order mark. -/
theorem decode_encode (first : cs.head? ≠ some '\uFEFF') :
    Charset.utf8.decode (Utf8.encode cs) = cs := by
  unfold Charset.decode
  split
  next bytes same =>
    have head : cs.head?.map some = some (some '\uFEFF') := head?_of_encode same rfl
    simp at head
    exact absurd head first
  next bytes same =>
    have head : cs.head?.map some = some none := head?_of_encode same rfl
    simp at head
  next bytes same =>
    have head : cs.head?.map some = some none := head?_of_encode same rfl
    simp at head
  next => exact Utf8.decodeLossy_encode cs

theorem charset_of_unnamed (unnamed : ∀ h ∈ r.headers, h.1.toLower ≠ "content-type") :
    r.charset = .utf8 := by
  have none : r.header? "content-type" = none := by
    cases header : r.header? "content-type" with
    | none => rfl
    | some value =>
      obtain ⟨before, written, after, split, named, -⟩ := header?_eq_some_iff.1 header
      have mem : (written, value) ∈ r.headers := by simp [split]
      exact absurd named (unnamed _ mem)
  rw [Reply.charset, Reply.plainHeader?, none]
  rfl

theorem Reply.HasText.exists_bytes (has : r.HasText cs) :
    ∃ bytes, r.body = .complete bytes ∧ r.charset.decode bytes = cs := by
  cases has with
  | written unnamed arrived unmarked =>
    rw [charset_of_unnamed unnamed]
    exact ⟨_, arrived, decode_encode unmarked⟩
  | plain same plain arrived => exact ⟨_, arrived, Charset.decode_plain same plain⟩
  | decoded arrived => exact ⟨_, arrived, rfl⟩

/-- The bytes of a success with content are those that arrive. -/
theorem bytes?_eq_ok_iff (success : 200 ≤ r.status ∧ r.status < 300) (content : r.status ≠ 204) :
    r.bytes? = .ok bytes ↔ r.body = .complete bytes := by
  have bodied : r.isBodiless = false := by
    have other : r.status ≠ 304 := by omega
    simp [Reply.isBodiless, content, other, success.1]
  rw [Reply.bytes?, bodied]
  cases r.body <;> simp

theorem text?_eq_ok_iff {text : String} (success : 200 ≤ r.status ∧ r.status < 300)
    (content : r.status ≠ 204) : r.text? = .ok text ↔ r.HasText text.toList := by
  rw [Reply.text?]
  constructor
  · intro read
    cases arrived : r.bytes? with
    | error f =>
      rw [arrived] at read
      cases read
    | ok bytes =>
      rw [arrived] at read
      cases read
      rw [String.toList_ofList]
      exact .decoded ((bytes?_eq_ok_iff success content).1 arrived)
  · intro has
    obtain ⟨bytes, arrived, decoded⟩ := has.exists_bytes
    rw [(bytes?_eq_ok_iff success content).2 arrived]
    show Except.ok (String.ofList (r.charset.decode bytes)) = _
    rw [decoded, String.ofList_toList]

/-- A reply without content has an empty text. -/
theorem text?_of_no_content (status : r.status = 204) : r.text? = .ok "" := by
  have bodiless : r.isBodiless = true := by simp [Reply.isBodiless, status]
  rw [Reply.text?, Reply.bytes?, if_pos bodiless]
  show Except.ok (String.ofList (r.charset.decode [])) = _
  rw [Charset.decode_nil]

theorem trim_eq_iff {text : String} : trim text = crumb ↔ Trims text.toList crumb.toList := by
  rw [trim, ← trimBlank_eq_iff, ← String.toList_inj, String.toList_ofList]

theorem crumbOf?_eq_ok_iff_text? : crumbOf? symbol r = .ok crumb ↔
    statusError? symbol r.status = none ∧
      ∃ text, r.text? = .ok text ∧ trim text = crumb ∧ crumb ≠ "" ∧ '<' ∉ crumb.toList := by
  unfold crumbOf?
  cases statusError? symbol r.status with
  | some e => simp
  | none =>
    cases r.text? with
    | error f => simp [bind, Except.bind]
    | ok text =>
      simp only [bind, Except.bind]
      split
      next refused =>
        rw [String.isEmpty_iff, List.contains_iff_mem] at refused
        constructor
        · nofun
        · rintro ⟨-, _, ⟨⟩, rfl, nonempty, noPage⟩
          exact (refused.elim nonempty noPage).elim
      next accepted =>
        rw [String.isEmpty_iff, List.contains_iff_mem, not_or] at accepted
        constructor
        · rintro ⟨⟩
          exact ⟨trivial, text, rfl, rfl, accepted.1, accepted.2⟩
        · rintro ⟨-, _, ⟨⟩, rfl, -, -⟩
          rfl

/-- The client takes for a crumb just what a reply gives. -/
theorem crumbOf?_eq_ok_iff : crumbOf? symbol r = .ok crumb ↔ r.GivesCrumb crumb := by
  rw [crumbOf?_eq_ok_iff_text?, statusError?_eq_none_iff]
  constructor
  · rintro ⟨success, text, read, trimmed, nonempty, noPage⟩
    have content : r.status ≠ 204 := by
      intro status
      rw [text?_of_no_content status] at read
      cases read
      exact nonempty trimmed.symm
    exact ⟨success, content, ⟨_, (text?_eq_ok_iff success content).1 read, trim_eq_iff.1 trimmed⟩,
      nonempty, noPage⟩
  · rintro ⟨success, content, ⟨cs, has, trims⟩, nonempty, noPage⟩
    refine ⟨success, String.ofList cs, ?_, ?_, nonempty, noPage⟩
    · rw [text?_eq_ok_iff success content, String.toList_ofList]
      exact has
    · rw [trim_eq_iff, String.toList_ofList]
      exact trims

end MarketDesk.Yahoo
