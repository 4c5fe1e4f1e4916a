import MarketDesk.Proofs.Net.Address
import MarketDesk.Settings.Basic

/-!
# The address to bind

Host and port are read together, as one text, and there are hosts that contain colons. `IsHost` says
what a host text denotes. The port is a run of digits at the very end, so the text is cut at its last
colon, which is the one that settings put there: `host_decides_address` says that settings
give an address exactly if their host denotes its host, and that it has their port.
-/

namespace MarketDesk.Net

open MarketDesk.Text
open MarketDesk.Calendar.Date (Clear clear_nil clear_cons dropWhile_of_clear)

variable {cs rest : List Char} {n : Nat}

/-- An address without a port. -/
inductive Host where
  | v4 (address : Ipv4)
  | v6 (address : Ipv6) (scope : UInt32)
  deriving DecidableEq, Repr

/-- The host of a socket address. -/
def SocketAddress.host : SocketAddress → Host
  | .v4 address _ => .v4 address
  | .v6 address scope _ => .v6 address scope

/-- A host with a port. -/
def Host.socket (port : UInt16) : Host → SocketAddress
  | .v4 address => .v4 address port
  | .v6 address scope => .v6 address scope port

/-- A scope: a percent sign and a number, or nothing, which is scope zero. -/
inductive IsScope : List Char → UInt32 → Prop where
  | absent : IsScope [] 0
  | number {digits : List Char} {scope : UInt32} : IsRun digit? 10 digits scope.toNat →
      IsScope ('%' :: digits) scope

/-- The text of a host: an IPv4 address in its written form, or an IPv6 address in brackets, with a
scope or without. -/
inductive IsHost : List Char → Host → Prop where
  | v4 (address : Ipv4) : IsHost (ipv4Chars address) (.v4 address)
  | v6 {text mark : List Char} {address : Ipv6} {scope : UInt32} : IsIpv6 text address →
      IsScope mark scope → IsHost ('[' :: (text ++ (mark ++ [']']))) (.v6 address scope)

theorem IsScope.endsIpv6 {mark : List Char} {scope : UInt32} (spelled : IsScope mark scope) :
    EndsIpv6 (mark ++ ']' :: rest) := by
  cases spelled with
  | absent | number => exact clear_cons rfl

namespace SocketAddress

@[simp] theorem host_socket (port : UInt16) (host : Host) : (host.socket port).host = host := by
  cases host <;> rfl

@[simp] theorem port_socket (port : UInt16) (host : Host) : (host.socket port).port = port := by
  cases host <;> rfl

/-! ## Ports and scopes -/

theorem takeBelow_eq_some_iff {bound : Nat} :
    takeBelow bound cs = some (n, rest) ↔
      ∃ digits, IsRun digit? 10 digits n ∧ n < bound ∧ cs = digits ++ rest ∧ Clear isDigit rest := by
  simp only [takeBelow, Option.bind_eq_bind, Option.bind_eq_some_iff, Prod.exists]
  constructor
  · rintro ⟨n, digits, rest', taken, checked⟩
    obtain ⟨run, rfl, clear⟩ := takeNumber_eq_some_iff.1 taken
    split at checked
    next below =>
      cases checked
      exact ⟨digits, run, below, rfl, clear⟩
    next => cases checked
  · rintro ⟨digits, run, below, rfl, clear⟩
    refine ⟨_, _, _, takeNumber_eq_some_iff.2 ⟨run, rfl, clear⟩, ?_⟩
    rw [if_pos below]
    rfl

theorem takePort_eq_some_iff {port : UInt16} :
    takePort cs = some (port, []) ↔
      ∃ digits, IsRun digit? 10 digits port.toNat ∧ cs = ':' :: digits := by
  simp only [takePort, Option.bind_eq_bind, Option.bind_eq_some_iff, Prod.exists,
    takeChar_eq_some_iff, takeBelow_eq_some_iff]
  constructor
  · rintro ⟨-, _, rfl, n, rest, ⟨digits, run, below, rfl, -⟩, same⟩
    cases same
    have value : (UInt16.ofNat n).toNat = n := UInt16.toNat_ofNat_of_lt' below
    exact ⟨digits, value.symm ▸ run, by rw [List.append_nil]⟩
  · rintro ⟨digits, run, rfl⟩
    refine ⟨(), digits, rfl, port.toNat, [], ⟨digits, run, port.toNat_lt, ?_, clear_nil _⟩, ?_⟩
    · rw [List.append_nil]
    · rw [UInt16.ofNat_toNat]
      rfl

/-- The number of a scope is taken with the percent sign in front of it. -/
theorem takeMarked_eq_some_iff :
    (do let ((), cs) ← takeChar '%' cs; takeBelow Word.size32 cs) = some (n, rest) ↔
      ∃ digits, IsRun digit? 10 digits n ∧ n < Word.size32 ∧ cs = '%' :: digits ++ rest ∧
        Clear isDigit rest := by
  simp only [Option.bind_eq_bind, Option.bind_eq_some_iff, Prod.exists, takeChar_eq_some_iff,
    takeBelow_eq_some_iff]
  constructor
  · rintro ⟨-, _, rfl, digits, run, below, rfl, clear⟩
    exact ⟨digits, run, below, rfl, clear⟩
  · rintro ⟨digits, run, below, rfl, clear⟩
    exact ⟨(), _, rfl, digits, run, below, rfl, clear⟩

/-- In front of a bracket, a scope is taken as it is written. -/
theorem takeScope_eq_iff {scope : UInt32} :
    takeScope cs = (scope, ']' :: rest) ↔
      ∃ mark, IsScope mark scope ∧ cs = mark ++ ']' :: rest := by
  rw [takeScope]
  constructor
  · intro taken
    split at taken
    next n rest' found =>
      cases taken
      obtain ⟨digits, run, below, rfl, -⟩ := takeMarked_eq_some_iff.1 found
      have value : (UInt32.ofNat n).toNat = n := UInt32.toNat_ofNat_of_lt' below
      exact ⟨'%' :: digits, .number (value.symm ▸ run), rfl⟩
    next =>
      cases taken
      exact ⟨[], .absent, rfl⟩
  · rintro ⟨mark, spelled, rfl⟩
    cases spelled with
    | absent => rfl
    | number run =>
      have clear : Clear isDigit (']' :: rest) := clear_cons rfl
      rw [takeMarked_eq_some_iff.2 ⟨_, run, scope.toNat_lt, rfl, clear⟩]
      dsimp only
      rw [UInt32.ofNat_toNat]

/-! ## Whole addresses -/

theorem takeV4_eq_some_iff {a : SocketAddress} :
    takeV4 cs = some (a, []) ↔
      ∃ v port digits, IsRun digit? 10 digits port.toNat ∧ cs = ipv4Chars v ++ ':' :: digits ∧
        a = .v4 v port := by
  simp only [takeV4, Option.bind_eq_bind, Option.bind_eq_some_iff, Prod.exists,
    takeIpv4_eq_some_iff]
  constructor
  · rintro ⟨v, rest, ⟨rfl, -⟩, port, rest', taken, same⟩
    cases same
    obtain ⟨digits, run, rfl⟩ := takePort_eq_some_iff.1 taken
    exact ⟨v, port, digits, run, rfl, rfl⟩
  · rintro ⟨v, port, digits, run, rfl, rfl⟩
    exact ⟨v, _, ⟨rfl, clear_cons rfl⟩, port, [], takePort_eq_some_iff.2 ⟨digits, run, rfl⟩, rfl⟩

theorem takeV6_eq_some_iff {a : SocketAddress} :
    takeV6 cs = some (a, []) ↔
      ∃ text v mark scope port digits, IsIpv6 text v ∧ IsScope mark scope ∧
        IsRun digit? 10 digits port.toNat ∧
        cs = '[' :: (text ++ (mark ++ ']' :: ':' :: digits)) ∧ a = .v6 v scope port := by
  simp only [takeV6, Option.bind_eq_bind, Option.bind_eq_some_iff, Prod.exists,
    takeChar_eq_some_iff]
  constructor
  · rintro ⟨-, _, rfl, v, behind, address, -, after, closed, port, rest, taken, same⟩
    cases same
    obtain ⟨text, spelled, rfl⟩ := exists_of_takeIpv6 address
    obtain ⟨digits, run, rfl⟩ := takePort_eq_some_iff.1 taken
    obtain ⟨mark, marked, rfl⟩ := takeScope_eq_iff.1 (Prod.ext rfl closed)
    exact ⟨text, v, mark, _, port, digits, spelled, marked, run, rfl, rfl⟩
  · rintro ⟨text, v, mark, scope, port, digits, spelled, marked, run, rfl, rfl⟩
    have behind : takeScope (mark ++ ']' :: ':' :: digits) = (scope, ']' :: ':' :: digits) :=
      takeScope_eq_iff.2 ⟨mark, marked, rfl⟩
    refine ⟨(), _, rfl, v, _, takeIpv6_append spelled marked.endsIpv6, (), ':' :: digits, ?_, port,
      [], takePort_eq_some_iff.2 ⟨digits, run, rfl⟩, ?_⟩
    · rw [behind]
    · rw [behind]
      rfl

theorem parse?_eq_some_iff_or {a : SocketAddress} :
    parse? cs = some a ↔ takeV4 cs = some (a, []) ∨ takeV6 cs = some (a, []) := by
  have bracket : ∀ {b}, takeV6 cs = some b → takeV4 cs = none := by
    rintro ⟨b, rest⟩ taken
    simp only [takeV6, Option.bind_eq_bind, Option.bind_eq_some_iff, Prod.exists,
      takeChar_eq_some_iff] at taken
    obtain ⟨-, behind, rfl, -⟩ := taken
    rw [takeV4, takeIpv4_of_clear (clear_cons rfl)]
    rfl
  rw [parse?]
  cases first : takeV4 cs with
  | none =>
    rcases second : takeV6 cs with _ | ⟨b, _ | ⟨c, rest⟩⟩ <;> simp
  | some pair =>
    have other : takeV6 cs ≠ some (a, []) := by
      intro taken
      rw [bracket taken] at first
      cases first
    obtain ⟨b, _ | ⟨c, rest⟩⟩ := pair <;> simp [other]

/-- A text is read as a socket address if it is a host and, behind a colon, a port. -/
theorem parse?_eq_some_iff {a : SocketAddress} :
    parse? cs = some a ↔
      ∃ host digits, IsHost host a.host ∧ IsRun digit? 10 digits a.port.toNat ∧
        cs = host ++ ':' :: digits := by
  rw [parse?_eq_some_iff_or, takeV4_eq_some_iff, takeV6_eq_some_iff]
  constructor
  · rintro (⟨v, port, digits, run, rfl, rfl⟩ |
      ⟨text, v, mark, scope, port, digits, spelled, marked, run, rfl, rfl⟩)
    · exact ⟨_, digits, .v4 v, run, rfl⟩
    · exact ⟨_, digits, .v6 spelled marked, run, by simp⟩
  · rintro ⟨host, digits, isHost, run, rfl⟩
    cases a with
    | v4 v port =>
      cases isHost
      exact .inl ⟨v, port, digits, run, rfl, rfl⟩
    | v6 v scope port =>
      cases isHost with
      | v6 spelled marked =>
        exact .inr ⟨_, v, _, scope, port, digits, spelled, marked, run, by simp, rfl⟩

/-- Behind the last colon of a text there is one run of digits only. -/
theorem append_colon_inj {host host' digits digits' : List Char} {n n' : Nat}
    (run : IsRun digit? 10 digits n) (run' : IsRun digit? 10 digits' n')
    (same : host ++ ':' :: digits = host' ++ ':' :: digits') : host = host' ∧ digits = digits' := by
  have reversed : digits.reverse ++ ':' :: host.reverse = digits'.reverse ++ ':' :: host'.reverse := by
    simpa using congrArg List.reverse same
  have all {ds : List Char} {m : Nat} (run : IsRun digit? 10 ds m) :
      ∀ c ∈ ds.reverse, isDigit c = true := fun c among => run.digits c (List.mem_reverse.1 among)
  -- A host may have colons and digits of its own, so the text is read from its end.
  have dropped := congrArg (List.dropWhile isDigit) reversed
  rw [List.dropWhile_append_of_pos (all run), List.dropWhile_append_of_pos (all run'),
    dropWhile_of_clear (clear_cons rfl), dropWhile_of_clear (clear_cons rfl)] at dropped
  obtain rfl := List.reverse_inj.1 (List.cons.inj dropped).2
  exact ⟨rfl, (List.cons.inj (List.append_cancel_left same)).2⟩

/-- A text with a port behind it is read as the host that it denotes, with that port. -/
theorem parse?_append_port {host : List Char} {port : UInt16} {a : SocketAddress} :
    parse? (host ++ ':' :: natChars port.toNat) = some a ↔ IsHost host a.host ∧ a.port = port := by
  rw [parse?_eq_some_iff]
  constructor
  · rintro ⟨host', digits, isHost, run, same⟩
    obtain ⟨rfl, rfl⟩ := append_colon_inj (isRun_natChars _) run same
    have value : a.port.toNat = port.toNat := run.number.symm.trans (isRun_natChars _).number
    exact ⟨isHost, UInt16.toNat_inj.1 value⟩
  · rintro ⟨isHost, rfl⟩
    exact ⟨host, _, isHost, isRun_natChars _, rfl⟩

end SocketAddress

/-- A text denotes one host at most. -/
theorem IsHost.unique {text : List Char} {host host' : Host} (h : IsHost text host)
    (h' : IsHost text host') : host = host' := by
  have read {x : Host} (isHost : IsHost text x) :
      SocketAddress.parse? (text ++ ':' :: natChars (0 : UInt16).toNat) = some (x.socket 0) :=
    SocketAddress.parse?_append_port.2 ⟨by rwa [SocketAddress.host_socket], by simp⟩
  have same := Option.some.inj ((read h).symm.trans (read h'))
  simpa using congrArg SocketAddress.host same

end MarketDesk.Net

namespace MarketDesk.Settings

open MarketDesk.Net

/-- **The host text decides the address, and never the port.** Settings have a socket address just if
their host denotes a host, of which there is one at most; it is that host's, with the port that is
set. -/
theorem host_decides_address (s : Settings) :
    (∀ a, s.socketAddress? = some a ↔ IsHost s.host.toList a.host ∧ a.port = s.port) ∧
      ∀ x y, IsHost s.host.toList x → IsHost s.host.toList y → x = y :=
  ⟨fun _ => SocketAddress.parse?_append_port, fun _ _ h h' => h.unique h'⟩

/-- A host with a double colon, capital digits, an IPv4 address at its end and a scope. -/
theorem host_decides_address_scoped :
    IsHost "[1::FFFF:1.2.3.4%007]".toList (.v6 ⟨[1, 0, 0, 0, 0, 0xFFFF, 0x102, 0x304], rfl⟩ 7) :=
  (((host_decides_address ⟨"[1::FFFF:1.2.3.4%007]", 80, 300, 30, none⟩).1
    (.v6 ⟨[1, 0, 0, 0, 0, 0xFFFF, 0x102, 0x304], rfl⟩ 7 80)).1 (by decide)).1

example : socketAddress? ⟨"1.2.3.4:5", 80, 300, 30, none⟩ = none := by decide

end MarketDesk.Settings
