import RouteMonitor.Proofs.Bytes.Digits
import RouteMonitor.Proofs.Whois.Entries

/-!
# Which entries are refused

`Refused` is the other half of `Describes`: an entry that describes no server is refused for exactly
one reason, stated on the JSON value alone, and `Says` gives the words of each reason. A text is
refused for its port before it is refused for its host. So the text of a stored server can be told
from its host and port again: a host has no colon, or it stands alone with the default port.
-/

namespace RouteMonitor.Whois

namespace Server

/-- The text names no server. -/
inductive TextRefused : Bytes → EntryFault → Prop
  | badPort {host digits : Bytes} : byte ':' ∉ host → byte ':' ∉ digits →
    (∀ port, ¬IsPortText digits port) → TextRefused (host ++ byte ':' :: digits) (.badPort digits)
  | emptyText : TextRefused [] .emptyHost
  | emptyHost {digits : Bytes} {port : Port} : IsPortText digits port →
    TextRefused (byte ':' :: digits) .emptyHost

/-- The entry describes no server. -/
inductive Refused : Json → EntryFault → Prop
  | text {text : Bytes} {fault : EntryFault} : TextRefused text fault →
    Refused (.string text) fault
  | hostText {members : List (Bytes × Json)} {text : Bytes} {fault : EntryFault} :
    (Table.ofList members).get? (utf8 "host") = some (.string text) → TextRefused text fault →
    Refused (.object members) fault
  | hostNotText {members : List (Bytes × Json)} :
    (∀ text, (Table.ofList members).get? (utf8 "host") ≠ some (.string text)) →
    Refused (.object members) .hostNotText
  | queryNotText {members : List (Bytes × Json)} {text : Bytes} {server : Server} {query : Json} :
    (Table.ofList members).get? (utf8 "host") = some (.string text) → Names text server →
    (Table.ofList members).get? (utf8 "query") = some query → (∀ text, query ≠ .string text) →
    Refused (.object members) .queryNotText
  | wrongKind {json : Json} : (∀ text, json ≠ .string text) → (∀ members, json ≠ .object members) →
    Refused json .wrongKind

/-- What the message of a refused entry says after the name of the entry. -/
inductive Says : EntryFault → Bytes → Prop
  | badPort {digits : Bytes} :
    Says (.badPort digits) (utf8 "bad port '" ++ digits ++ utf8 "'")
  | emptyHost : Says .emptyHost (utf8 "empty host")
  | hostNotText : Says .hostNotText (utf8 "'host' must be a string")
  | queryNotText : Says .queryNotText (utf8 "'query' must be a string")
  | wrongKind : Says .wrongKind (utf8 "expected string or object")

/-- Host and port as a text may give them: a host with a port of its own has no colon. -/
structure IsUnambiguous (server : Server) : Prop extends IsReachable server where
  colons : server.host.count (byte ':') ≠ 1
  default_port : byte ':' ∈ server.host → server.port = 43

variable {text host digits : Bytes} {port : Port} {server : Server} {fault : EntryFault}

/-! ### Texts -/

theorem readPort_eq_error_iff :
    readPort digits = .error fault ↔
      (∀ port, ¬IsPortText digits port) ∧ fault = .badPort digits := by
  constructor
  · intro hread
    refine ⟨fun port hport => ?_, ?_⟩
    · rw [readPort_eq_ok_iff.2 hport] at hread
      cases hread
    · rw [readPort] at hread
      split at hread
      · exact (Except.error.inj hread).symm
      · split at hread
        · cases hread
        · exact (Except.error.inj hread).symm
  · rintro ⟨hnone, rfl⟩
    rw [readPort]
    split
    · rfl
    · rename_i number hnumber
      rw [if_neg]
      intro hrange
      have hread : readPort digits = .ok (UInt16.ofNat number) := by
        rw [readPort, hnumber]
        exact if_pos hrange
      exact hnone _ (readPort_eq_ok_iff.1 hread)

theorem ofText_of_count_ne_one (hcount : text.count (byte ':') ≠ 1) :
    ofText text =
      if text = [] then .error .emptyHost else .ok ⟨text, defaultPort, defaultQuery⟩ := by
  rw [ofText_eq_bind, splitText_of_count_ne_one hcount]
  rfl

theorem ofText_append (hhost : byte ':' ∉ host) (hdigits : byte ':' ∉ digits) :
    ofText (host ++ byte ':' :: digits) =
      match readPort digits with
      | .error fault => .error fault
      | .ok port =>
        if host = [] then .error .emptyHost else .ok ⟨host, port, defaultQuery⟩ := by
  rw [ofText_eq_bind, splitText_append hhost hdigits]
  cases readPort digits with
  | error fault => rfl
  | ok port => rfl

theorem ofText_eq_error_iff : ofText text = .error fault ↔ TextRefused text fault := by
  constructor
  · intro hread
    by_cases hcount : text.count (byte ':') = 1
    · obtain ⟨host, digits, rfl, hhost, hdigits⟩ := exists_one_colon hcount
      rw [ofText_append hhost hdigits] at hread
      split at hread
      · rename_i other hport
        obtain rfl := Except.error.inj hread
        obtain ⟨hnone, rfl⟩ := readPort_eq_error_iff.1 hport
        exact .badPort hhost hdigits hnone
      · rename_i port hport
        split at hread
        · rename_i hempty
          obtain rfl := Except.error.inj hread
          rw [hempty]
          exact .emptyHost (readPort_eq_ok_iff.1 hport)
        · cases hread
    · rw [ofText_of_count_ne_one hcount] at hread
      split at hread
      · rename_i hempty
        obtain rfl := Except.error.inj hread
        rw [hempty]
        exact .emptyText
      · cases hread
  · intro hrefused
    cases hrefused with
    | badPort hhost hdigits hnone =>
      rw [ofText_append hhost hdigits, readPort_eq_error_iff.2 ⟨hnone, rfl⟩]
    | emptyText => rfl
    | emptyHost hport =>
      have hread := @ofText_append [] _ List.not_mem_nil hport.colon_not_mem
      rwa [readPort_eq_ok_iff.2 hport] at hread

/-! ### Entries -/

theorem ofMembers_eq_error_iff {members : List (Bytes × Json)} :
    ofMembers (.ofList members) = .error fault ↔ Refused (.object members) fault := by
  rw [ofMembers]
  constructor
  · intro hread
    split at hread
    · rename_i hnone
      obtain rfl := Except.error.inj hread
      refine .hostNotText fun text htext => ?_
      rw [htext] at hnone
      cases hnone
    · rename_i host hhost
      obtain ⟨json, hjson, htext⟩ := Option.bind_eq_some_iff.1 hhost
      obtain rfl := text?_eq_some_iff.1 htext
      cases hplain : ofText host with
      | error other =>
        rw [hplain] at hread
        obtain rfl := Except.error.inj hread
        exact .hostText hjson (ofText_eq_error_iff.1 hplain)
      | ok plain =>
        rw [hplain] at hread
        simp only [bind, Except.bind] at hread
        split at hread
        · cases hread
        · cases hread
        · rename_i query hquery hnot
          obtain rfl := Except.error.inj hread
          exact .queryNotText hjson (ofText_eq_ok_iff.1 hplain) hnot hquery
  · intro hrefused
    cases hrefused with
    | hostText hhost htext =>
      simp [hhost, Json.text?, ofText_eq_error_iff.2 htext, bind, Except.bind]
    | hostNotText hhost =>
      have hnone : ((Table.ofList members).get? (utf8 "host")).bind Json.text? = none := by
        rw [Option.bind_eq_none_iff]
        intro json hjson
        rw [Option.eq_none_iff_forall_ne_some]
        intro text htext
        exact hhost text (text?_eq_some_iff.1 htext ▸ hjson)
      rw [hnone]
      rfl
    | queryNotText hhost hnames hquery hnot =>
      simp only [hhost, hquery, Json.text?, ofText_eq_ok_iff.2 hnames, bind, Except.bind,
        Option.bind_some]
      rfl
    | wrongKind _ hobject => exact absurd rfl (hobject members)

theorem ofJson_eq_error_iff {json : Json} : ofJson json = .error fault ↔ Refused json fault := by
  cases json with
  | string text =>
    refine ofText_eq_error_iff.trans ⟨.text, fun hrefused => ?_⟩
    cases hrefused with
    | text htext => exact htext
    | wrongKind hstring => exact absurd rfl (hstring text)
  | object members => exact ofMembers_eq_error_iff
  | null | bool value | number text | array items =>
    constructor
    · intro hread
      obtain rfl := Except.error.inj hread
      exact .wrongKind (by simp) (by simp)
    · intro hrefused
      cases hrefused
      rfl

theorem message_badPort (digits : Bytes) :
    (EntryFault.badPort digits).message = utf8 "bad port '" ++ digits ++ utf8 "'" := by
  rfl

theorem says_iff {words : Bytes} : Says fault words ↔ fault.message = words := by
  constructor
  · intro hsays
    cases hsays with
    | badPort => exact message_badPort _
    | emptyHost | hostNotText | queryNotText | wrongKind => rfl
  · rintro rfl
    cases fault with
    | badPort digits =>
      rw [message_badPort]
      exact .badPort
    | emptyHost => exact .emptyHost
    | hostNotText => exact .hostNotText
    | queryNotText => exact .queryNotText
    | wrongKind => exact .wrongKind

/-! ### Stored servers -/

theorem Names.isUnambiguous (hnames : Names text server) : IsUnambiguous server := by
  refine ⟨hnames.isReachable, ?_, ?_⟩
  · obtain ⟨hcount, hhost, -⟩ | ⟨digits, -, hcolon, -⟩ := hnames.place
    · rwa [hhost]
    · rw [List.count_eq_zero.2 hcolon]
      exact Nat.zero_ne_one
  · obtain ⟨-, -, hport⟩ | ⟨digits, -, hcolon, -⟩ := hnames.place
    · exact fun _ => hport
    · exact fun hmem => absurd hmem hcolon

theorem Describes.isUnambiguous {json : Json} (hdescribes : Describes json server) :
    IsUnambiguous server := by
  cases hdescribes with
  | text hnames => exact hnames.isUnambiguous
  | object _ hnames _ => exact hnames.isUnambiguous
  | objectWithQuery _ hnames _ =>
    obtain ⟨⟨hhost, hport⟩, hcolons, hdefault⟩ := hnames.isUnambiguous
    exact ⟨⟨hhost, hport⟩, hcolons, hdefault⟩

theorem isUnambiguous_of_read {reader : Json.Reader} {document suffix : Bytes} {registry : Registry}
    (hread : Registry.read reader document = .ok registry)
    (hserver : registry.servers.get? suffix = some server) : IsUnambiguous server := by
  obtain ⟨name, json, -, hdescribes⟩ :=
    Registry.exists_describes_of_read hread (Table.get?_eq_some_iff.1 hserver)
  exact hdescribes.isUnambiguous

theorem isPortText_render (hport : 1 ≤ port.toNat) : IsPortText port.render port where
  nonempty := Decimal.ofNat_ne_nil
  digits _ hb := Decimal.isDigit_of_mem_ofNat hb
  value := Decimal.value_ofNat port.toNat
  positive := hport

theorem ofText_host_port (hhost : host ≠ []) (hcolon : byte ':' ∉ host)
    (hport : 1 ≤ port.toNat) :
    ofText (host ++ byte ':' :: port.render) = .ok ⟨host, port, defaultQuery⟩ := by
  have hrender := isPortText_render hport
  rw [ofText_append hcolon hrender.colon_not_mem, readPort_eq_ok_iff.2 hrender]
  exact if_neg hhost

/-- A text with one colon is a host and a port, any other text a host. What describes a server and
what is refused are stated for texts and for whole entries; a stored server has a host and a port
that its text gives back, and every host without a colon can be given any port. -/
theorem entry_texts_give_host_and_port :
    (∀ text server, ofText text = .ok server ↔ Names text server) ∧
      (∀ text fault, ofText text = .error fault ↔ TextRefused text fault) ∧
      (∀ json server, ofJson json = .ok server ↔ Describes json server) ∧
      (∀ json fault, ofJson json = .error fault ↔ Refused json fault) ∧
      (∀ reader document registry, Registry.read reader document = .ok registry →
        ∀ suffix server, registry.servers.get? suffix = some server → IsUnambiguous server) ∧
      ∀ (host : Bytes) (port : Port), host ≠ [] → byte ':' ∉ host → 1 ≤ port.toNat →
        ofText (host ++ byte ':' :: port.render) = .ok ⟨host, port, utf8 "$addr\r\n"⟩ := by
  refine ⟨fun text server => ofText_eq_ok_iff, fun text fault => ofText_eq_error_iff,
    fun json server => ofJson_eq_ok_iff, fun json fault => ofJson_eq_error_iff, ?stored, ?given⟩
  case stored => exact fun _ _ _ hread _ _ hserver => isUnambiguous_of_read hread hserver
  case given => exact fun _ _ hhost hcolon hport => ofText_host_port hhost hcolon hport

/-- An IPv6 address stands alone, with the default port; a port is never reduced to sixteen bits,
and a bad one is reported before the host that is missing. -/
theorem address_stands_alone :
    let document := utf8 "\x7b\"a\":\"::1\"\x7d"
    let reader : Json.Reader := fun _ => .ok (.object [(utf8 "a", .string (utf8 "::1"))])
    (∃ registry server, Registry.read reader document = .ok registry ∧
        registry.servers.get? (utf8 "a") = some server ∧ server.host = utf8 "::1" ∧
        IsUnambiguous server) ∧
      TextRefused (utf8 ":65579") (.badPort (utf8 "65579")) ∧
      Refused (.object [(utf8 "host", .string (utf8 ":043"))]) .emptyHost ∧
      ofText (utf8 "h" ++ byte ':' :: Port.render 65535) =
        .ok ⟨utf8 "h", 65535, utf8 "$addr\r\n"⟩ := by
  intro document reader
  obtain ⟨-, hrefused, -, hentry, hstored, hgiven⟩ := entry_texts_give_host_and_port
  have hread : Registry.read reader document =
      .ok ⟨.ofList [(utf8 "a", ⟨utf8 "::1", 43, utf8 "$addr\r\n"⟩)]⟩ := by
    rfl
  exact ⟨⟨_, ⟨utf8 "::1", 43, utf8 "$addr\r\n"⟩, hread, by rfl, rfl,
    hstored _ _ _ hread (utf8 "a") _ (by rfl)⟩, (hrefused _ _).1 (by rfl), (hentry _ _).1 (by rfl),
    hgiven (utf8 "h") 65535 (by decide) (by decide) (by decide)⟩

end Server

end RouteMonitor.Whois
