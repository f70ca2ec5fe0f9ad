import RouteMonitor.Proofs.Bytes
import RouteMonitor.Whois.Server

/-!
# What describes a server

A text names a server by its host, or, if it has exactly one colon, by its host and its port; an
object names one by its member `host` and may add a query. `Describes` says this of the JSON value
alone, and the reader of entries accepts exactly what describes a server.
-/

namespace RouteMonitor.Whois.Server

/-- The text is a run of digits, with any leading zeros, for a port from 1 up. -/
structure IsPortText (text : Bytes) (port : Port) : Prop where
  nonempty : text ≠ []
  digits : ∀ b ∈ text, b.isDigit = true
  value : Decimal.value text = port.toNat
  positive : 1 ≤ port.toNat

def HasHostAndPort (text host : Bytes) (port : Port) : Prop :=
  text.count (byte ':') ≠ 1 ∧ host = text ∧ port = 43 ∨
    ∃ digits, text = host ++ byte ':' :: digits ∧ byte ':' ∉ host ∧ IsPortText digits port

/-- The text is `host` or `host:port`. -/
structure Names (text : Bytes) (server : Server) : Prop where
  place : HasHostAndPort text server.host server.port
  host_ne_nil : server.host ≠ []
  query : server.query = utf8 "$addr\r\n"

inductive Describes : Json → Server → Prop
  | text {text : Bytes} {server : Server} : Names text server → Describes (.string text) server
  | object {members : List (Bytes × Json)} {host : Bytes} {server : Server} :
    (Table.ofList members).get? (utf8 "host") = some (.string host) → Names host server →
    (Table.ofList members).get? (utf8 "query") = none → Describes (.object members) server
  | objectWithQuery {members : List (Bytes × Json)} {host query : Bytes} {server : Server} :
    (Table.ofList members).get? (utf8 "host") = some (.string host) → Names host server →
    (Table.ofList members).get? (utf8 "query") = some (.string query) →
    Describes (.object members) { server with query }

/-- A server that can be asked. -/
structure IsReachable (server : Server) : Prop where
  host : server.host ≠ []
  port : 1 ≤ server.port.toNat ∧ server.port.toNat ≤ 65535

variable {text host digits : Bytes} {port : Port} {server : Server}

/-! ### What is described can be asked -/

theorem HasHostAndPort.port_positive (hplace : HasHostAndPort text host port) :
    1 ≤ port.toNat := by
  rcases hplace with ⟨-, -, rfl⟩ | ⟨digits, -, -, hport⟩
  · decide
  · exact hport.positive

theorem Names.isReachable (hnames : Names text server) : server.IsReachable :=
  ⟨hnames.host_ne_nil, hnames.place.port_positive, Nat.le_of_lt_succ server.port.toNat_lt⟩

theorem Describes.isReachable {json : Json} (hdescribes : Describes json server) :
    server.IsReachable := by
  cases hdescribes with
  | text hnames => exact hnames.isReachable
  | object _ hnames _ => exact hnames.isReachable
  | objectWithQuery _ hnames _ => exact ⟨hnames.isReachable.host, hnames.isReachable.port⟩

/-! ### Texts -/

theorem readPort_eq_ok_iff : readPort text = .ok port ↔ IsPortText text port := by
  rw [readPort, Decimal.nat?]
  constructor
  · intro hread
    split at hread
    · cases hread
    · rename_i number hnumber
      obtain ⟨⟨hne, hdigits⟩, hvalue⟩ := Option.ite_none_right_eq_some.1 hnumber
      obtain rfl := Option.some.inj hvalue
      split at hread
      · rename_i hrange
        obtain rfl := Except.ok.inj hread
        have hport : (UInt16.ofNat (Decimal.value text)).toNat = Decimal.value text := by
          rw [UInt16.toNat_ofNat']
          omega
        exact ⟨hne, List.all_eq_true.1 hdigits, hport.symm, by omega⟩
      · cases hread
  · intro hport
    have hrange := hport.value ▸ port.toNat_lt
    have hpositive := hport.value ▸ hport.positive
    rw [if_pos ⟨hport.nonempty, List.all_eq_true.2 hport.digits⟩]
    show (if _ then _ else _) = _
    rw [if_pos ⟨hpositive, hrange⟩, hport.value, UInt16.ofNat_toNat]

theorem IsPortText.colon_not_mem (hport : IsPortText digits port) : byte ':' ∉ digits := by
  intro hcolon
  exact absurd (hport.digits _ hcolon) (by decide)

theorem exists_one_colon (hcount : text.count (byte ':') = 1) :
    ∃ front back, text = front ++ byte ':' :: back ∧ byte ':' ∉ front ∧ byte ':' ∉ back := by
  obtain ⟨front, back, rfl, hfront⟩ :=
    List.eq_append_cons_of_mem (List.count_pos_iff.1 (by omega : 0 < text.count (byte ':')))
  rw [List.count_append, List.count_cons_self, List.count_eq_zero.2 hfront] at hcount
  exact ⟨front, back, rfl, hfront, List.count_eq_zero.1 (by omega)⟩

theorem splitText_of_count_ne_one (hcount : text.count (byte ':') ≠ 1) :
    splitText text = .ok (text, defaultPort) := by
  have hlength := Bytes.length_splitOn (byte ':') text
  rw [splitText]
  split
  · rename_i hpieces
    rw [hpieces] at hlength
    simp only [List.length_cons, List.length_nil] at hlength
    omega
  · rfl

theorem splitText_append (hhost : byte ':' ∉ host) (hdigits : byte ':' ∉ digits) :
    splitText (host ++ byte ':' :: digits) =
      (readPort digits).map fun port => (host, port) := by
  rw [splitText, List.splitOn_append_cons_self_of_not_mem hhost, List.splitOn_eq_singleton hdigits]

theorem splitText_eq_ok_iff :
    splitText text = .ok (host, port) ↔ HasHostAndPort text host port := by
  by_cases hcount : text.count (byte ':') = 1
  · obtain ⟨front, back, rfl, hfront, hback⟩ := exists_one_colon hcount
    rw [splitText_append hfront hback]
    constructor
    · intro hmap
      cases hread : readPort back with
      | error fault => simp [hread, Except.map] at hmap
      | ok read =>
        rw [hread] at hmap
        obtain ⟨rfl, rfl⟩ := Prod.mk.inj (Except.ok.inj hmap)
        exact .inr ⟨back, rfl, hfront, readPort_eq_ok_iff.1 hread⟩
    · intro hplace
      rcases hplace with ⟨hne, -, -⟩ | ⟨digits, htext, hhost, hport⟩
      · exact absurd hcount hne
      · -- The first colon of a text stands in one place only.
        obtain ⟨rfl, rfl⟩ : front = host ∧ back = digits := by
          have hleft := List.splitOn_append_cons_self_of_not_mem hfront back
          rw [htext, List.splitOn_append_cons_self_of_not_mem hhost,
            List.splitOn_eq_singleton hback, List.splitOn_eq_singleton hport.colon_not_mem] at hleft
          simpa [eq_comm] using hleft
        rw [readPort_eq_ok_iff.2 hport]
        rfl
  · rw [splitText_of_count_ne_one hcount]
    constructor
    · intro hread
      obtain ⟨rfl, rfl⟩ := Prod.mk.inj (Except.ok.inj hread)
      exact .inl ⟨hcount, rfl, rfl⟩
    · intro hplace
      rcases hplace with ⟨-, rfl, rfl⟩ | ⟨digits, rfl, hhost, hport⟩
      · rfl
      · rw [List.count_append, List.count_cons_self, List.count_eq_zero.2 hhost,
          List.count_eq_zero.2 hport.colon_not_mem] at hcount
        exact absurd rfl hcount

/-- The host of a text is checked after its port is read. -/
theorem ofText_eq_bind (text : Bytes) :
    ofText text = (splitText text).bind fun parts =>
      if parts.1 = [] then .error .emptyHost else .ok ⟨parts.1, parts.2, defaultQuery⟩ := by
  rw [ofText]
  cases splitText text with
  | error fault => rfl
  | ok parts =>
    obtain ⟨host, port⟩ := parts
    by_cases hhost : host = []
    · subst hhost
      rfl
    · simp [hhost, bind, Except.bind, pure, Except.pure]

theorem ofText_eq_ok_iff : ofText text = .ok server ↔ Names text server := by
  have hsplit : ∀ {host port}, splitText text = .ok (host, port) ↔ _ := splitText_eq_ok_iff
  rw [ofText_eq_bind]
  constructor
  · intro hread
    cases hparts : splitText text with
    | error fault => simp [hparts, Except.bind] at hread
    | ok parts =>
      obtain ⟨host, port⟩ := parts
      rw [hparts, Except.bind] at hread
      split at hread
      · cases hread
      · rename_i hhost
        obtain rfl := Except.ok.inj hread
        exact ⟨hsplit.1 hparts, hhost, rfl⟩
  · intro hnames
    obtain ⟨host, port, query⟩ := server
    obtain rfl : query = defaultQuery := hnames.query
    rw [hsplit.2 hnames.place, Except.bind]
    exact if_neg hnames.host_ne_nil

/-! ### Entries -/

theorem text?_eq_some_iff {json : Json} : json.text? = some text ↔ json = .string text := by
  cases json <;> simp [Json.text?]

theorem ofMembers_eq_ok_iff {members : List (Bytes × Json)} :
    ofMembers (.ofList members) = .ok server ↔ Describes (.object members) server := by
  rw [ofMembers]
  constructor
  · intro hread
    split at hread
    · cases hread
    · rename_i host hhost
      obtain ⟨json, hjson, htext⟩ := Option.bind_eq_some_iff.1 hhost
      obtain rfl := text?_eq_some_iff.1 htext
      cases hplain : ofText host with
      | error fault => simp [hplain, bind, Except.bind] at hread
      | ok plain =>
        rw [hplain] at hread
        simp only [bind, Except.bind] at hread
        have hnames := ofText_eq_ok_iff.1 hplain
        split at hread
        · rename_i hquery
          obtain rfl := Except.ok.inj hread
          exact .object hjson hnames hquery
        · rename_i query hquery
          obtain rfl := Except.ok.inj hread
          exact .objectWithQuery hjson hnames hquery
        · cases hread
  · intro hdescribes
    cases hdescribes with
    | object hhost hnames hquery =>
      simp [hhost, hquery, Json.text?, ofText_eq_ok_iff.2 hnames, bind, Except.bind, pure,
        Except.pure]
    | objectWithQuery hhost hnames hquery =>
      simp [hhost, hquery, Json.text?, ofText_eq_ok_iff.2 hnames, bind, Except.bind, pure,
        Except.pure]

/-- The reader of entries accepts exactly the values that describe a server. -/
theorem ofJson_eq_ok_iff {json : Json} : ofJson json = .ok server ↔ Describes json server := by
  cases json with
  | string text =>
    refine ofText_eq_ok_iff.trans ⟨.text, fun hdescribes => ?_⟩
    cases hdescribes
    assumption
  | object members => exact ofMembers_eq_ok_iff
  | null | bool value | number text | array items =>
    constructor
    · intro hread
      cases hread
    · intro hdescribes
      cases hdescribes

end RouteMonitor.Whois.Server
