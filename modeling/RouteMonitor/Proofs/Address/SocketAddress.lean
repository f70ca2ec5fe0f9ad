import RouteMonitor.Address.SocketAddress
import RouteMonitor.Proofs.Address.Literal

/-!
# The two forms of a socket address

A text is a socket address exactly if it is an IPv4 literal, a colon and a port, or an IPv6 literal
in brackets, a colon and a port. A text has at most one of these forms, and in one way only: the
port holds no colon, the literal in brackets holds no closing bracket, and no IPv4 literal starts
with a bracket. So a literal alone is no socket address, and neither is a literal of one family in
the form of the other.
-/

namespace RouteMonitor

namespace Port

/-- One to five digits, leading zeros included, that stand for the port. -/
structure IsNumeral (text : Bytes) (port : Port) : Prop where
  digits : ∀ b ∈ text, b.isDigit = true
  ne_nil : text ≠ []
  length_le : text.length ≤ 5
  value : Decimal.value text = port.toNat

variable {text : Bytes} {port : Port}

theorem read?_eq_some_iff : read? text = some port ↔ IsNumeral text port := by
  rw [read?, Decimal.nat?]
  constructor
  · intro hread
    split at hread
    · rename_i number hnumber
      obtain ⟨⟨hne, hdigits⟩, hvalue⟩ := Option.ite_none_right_eq_some.1 hnumber
      obtain rfl := Option.some.inj hvalue
      obtain ⟨⟨hlength, hrange⟩, hport⟩ := Option.ite_none_right_eq_some.1 hread
      obtain rfl := Option.some.inj hport
      exact ⟨List.all_eq_true.1 hdigits, hne, hlength, (UInt16.toNat_ofNat_of_lt' hrange).symm⟩
    · cases hread
  · intro hnumeral
    have hrange : Decimal.value text < 65536 := hnumeral.value ▸ port.toNat_lt
    rw [if_pos ⟨hnumeral.ne_nil, List.all_eq_true.2 hnumeral.digits⟩]
    dsimp only
    rw [if_pos ⟨hnumeral.length_le, hrange⟩, hnumeral.value, UInt16.ofNat_toNat]

theorem IsNumeral.unique {other : Port} (hnumeral : IsNumeral text port)
    (hother : IsNumeral text other) : port = other :=
  UInt16.toNat.inj (hnumeral.value.symm.trans hother.value)

theorem IsNumeral.colon_not_mem (hnumeral : IsNumeral text port) : byte ':' ∉ text := by
  intro hcolon
  exact absurd (hnumeral.digits _ hcolon) (by decide)

end Port

namespace SocketAddress

/-- The text is `host:port`, and the host is an IPv4 literal. -/
structure IsPlain (text host numeral : Bytes) (address : SocketAddress) : Prop where
  text_eq : text = host ++ byte ':' :: numeral
  host : ∃ ip, Ipv4.read? host = some ip ∧ address.ip = .v4 ip
  numeral : Port.IsNumeral numeral address.port

/-- The text is `[host]:port`, and the host is an IPv6 literal. -/
structure IsBracketed (text host numeral : Bytes) (address : SocketAddress) : Prop where
  text_eq : text = byte '[' :: (host ++ byte ']' :: byte ':' :: numeral)
  closes_first : byte ']' ∉ host
  host : IpAddress.read? host = some address.ip
  family : address.ip.family = .v6
  numeral : Port.IsNumeral numeral address.port

variable {text host numeral rest otherHost otherNumeral : Bytes} {address other : SocketAddress}

/-! ### Reading each form -/

theorem readV4?_eq_some_iff :
    readV4? text = some address ↔ ∃ host numeral, IsPlain text host numeral address := by
  constructor
  · intro hread
    rw [readV4?] at hread
    split at hread
    · cases hread
    · rename_i host numeral hcut
      split at hread
      · rename_i ip port hip hport
        obtain rfl := Option.some.inj hread
        obtain ⟨htext, -⟩ := Bytes.cutLast?_eq_some_iff.1 hcut
        exact ⟨host, numeral, htext, ⟨ip, hip, rfl⟩, Port.read?_eq_some_iff.1 hport⟩
      · cases hread
  · intro hplain
    obtain ⟨host, numeral, rfl, ⟨ip, hip, haddress⟩, hnumeral⟩ := hplain
    rw [readV4?, Bytes.cutLast?_append_cons hnumeral.colon_not_mem]
    dsimp only
    rw [hip, Port.read?_eq_some_iff.2 hnumeral]
    dsimp only
    rw [← haddress]

theorem readV6?_eq_some_iff : readV6? rest = some address ↔
    ∃ host numeral, IsBracketed (byte '[' :: rest) host numeral address := by
  have hclose : utf8 "]" = [byte ']'] := by decide
  constructor
  · intro hread
    rw [readV6?, hclose] at hread
    split at hread
    · rename_i host colon numeral hcut
      split at hread
      · rename_i ip port hip hport
        obtain ⟨rfl, haddress⟩ := Option.ite_none_right_eq_some.1 hread
        obtain rfl := Option.some.inj haddress
        obtain ⟨hrest, hnot⟩ := Bytes.cut?_eq_some_iff.1 hcut
        exact ⟨host, numeral, by rw [hrest], hnot, hip, rfl, Port.read?_eq_some_iff.1 hport⟩
      · cases hread
    · cases hread
  · intro hbracketed
    obtain ⟨host, numeral, htext, hnot, hip, hfamily, hnumeral⟩ := hbracketed
    obtain ⟨ip, port⟩ := address
    rw [readV6?, hclose, Bytes.cut?_eq_some_iff.2 ⟨(List.cons.inj htext).2, hnot⟩]
    cases ip with
    | v4 ip => cases hfamily
    | v6 ip =>
      dsimp only at hip ⊢
      rw [hip, Port.read?_eq_some_iff.2 hnumeral]
      dsimp only
      rw [if_pos rfl]

/-! ### At most one form, in one way -/

theorem IsPlain.head?_ne (hplain : IsPlain text host numeral address) :
    text.head? ≠ some (byte '[') := by
  obtain ⟨ip, hip, -⟩ := hplain.host
  obtain ⟨first, more, rfl, hfirst⟩ := Ipv4.exists_cons_of_read? hip
  rw [hplain.text_eq]
  intro hhead
  obtain rfl := Option.some.inj hhead
  exact absurd hfirst (by decide)

theorem IsBracketed.head?_eq (hbracketed : IsBracketed text host numeral address) :
    text.head? = some (byte '[') := by
  rw [hbracketed.text_eq]
  rfl

theorem IsPlain.not_isBracketed (hplain : IsPlain text host numeral address) :
    ¬IsBracketed text otherHost otherNumeral other :=
  fun hbracketed => hplain.head?_ne hbracketed.head?_eq

theorem IsPlain.unique (hplain : IsPlain text host numeral address)
    (hother : IsPlain text otherHost otherNumeral other) :
    otherHost = host ∧ otherNumeral = numeral := by
  have hcut := Bytes.cutLast?_eq_some_iff.2 ⟨hplain.text_eq, hplain.numeral.colon_not_mem⟩
  have hsame := Bytes.cutLast?_eq_some_iff.2 ⟨hother.text_eq, hother.numeral.colon_not_mem⟩
  exact Prod.mk.inj (Option.some.inj (hsame.symm.trans hcut))

theorem IsBracketed.unique (hbracketed : IsBracketed text host numeral address)
    (hother : IsBracketed text otherHost otherNumeral other) :
    otherHost = host ∧ otherNumeral = numeral := by
  have hrest := (List.cons.inj (hbracketed.text_eq.symm.trans hother.text_eq)).2
  have hcut := Bytes.cut?_eq_some_iff.2 ⟨hrest, hother.closes_first⟩
  rw [Bytes.cut?_eq_some_iff.2 ⟨rfl, hbracketed.closes_first⟩] at hcut
  obtain ⟨hhost, htail⟩ := Prod.mk.inj (Option.some.inj hcut)
  exact ⟨hhost.symm, (List.cons.inj htail).2.symm⟩

theorem read?_eq_some_iff : read? text = some address ↔
    (∃ host numeral, IsPlain text host numeral address) ∨
      ∃ host numeral, IsBracketed text host numeral address := by
  cases text with
  | nil =>
    constructor
    · intro hread
      cases hread
    · rintro (⟨host, numeral, hplain⟩ | ⟨host, numeral, hbracketed⟩)
      · exact absurd hplain.text_eq (by simp)
      · exact absurd hbracketed.text_eq (by simp)
  | cons first rest =>
    rw [read?]
    by_cases hfirst : first = byte '['
    · subst hfirst
      rw [if_pos rfl, readV6?_eq_some_iff, or_iff_right]
      rintro ⟨host, numeral, hplain⟩
      exact hplain.head?_ne rfl
    · rw [if_neg hfirst, readV4?_eq_some_iff, or_iff_left]
      rintro ⟨host, numeral, hbracketed⟩
      exact hfirst (Option.some.inj hbracketed.head?_eq)

/-! ### A port put behind a text -/

/-- A text to which a port is added is read if it is a host: an IPv4 literal, or an IPv6 literal in
brackets. -/
theorem read?_append_numeral_iff {port : Port} (hnumeral : Port.IsNumeral numeral port) :
    read? (text ++ byte ':' :: numeral) = some address ↔
      (∃ ip, Ipv4.read? text = some ip ∧ address = ⟨.v4 ip, port⟩) ∨
        ∃ host, text = byte '[' :: (host ++ [byte ']']) ∧ byte ']' ∉ host ∧
          IpAddress.read? host = some address.ip ∧ address.ip.family = .v6 ∧
          address.port = port := by
  have hcut := Bytes.cutLast?_append_cons hnumeral.colon_not_mem text
  constructor
  · intro hread
    rcases read?_eq_some_iff.1 hread with ⟨host, other, hplain⟩ | ⟨host, other, hbracketed⟩
    · have hsame :=
        Bytes.cutLast?_eq_some_iff.2 ⟨hplain.text_eq, hplain.numeral.colon_not_mem⟩
      obtain ⟨rfl, rfl⟩ := Prod.mk.inj (Option.some.inj (hcut.symm.trans hsame))
      obtain ⟨ip, hip, haddress⟩ := hplain.host
      refine .inl ⟨ip, hip, ?_⟩
      rw [hnumeral.unique hplain.numeral, ← haddress]
    · have htext : text ++ byte ':' :: numeral =
          (byte '[' :: (host ++ [byte ']'])) ++ byte ':' :: other := by
        rw [hbracketed.text_eq]
        simp
      have hsame := Bytes.cutLast?_eq_some_iff.2 ⟨htext, hbracketed.numeral.colon_not_mem⟩
      obtain ⟨rfl, rfl⟩ := Prod.mk.inj (Option.some.inj (hcut.symm.trans hsame))
      exact .inr ⟨host, rfl, hbracketed.closes_first, hbracketed.host, hbracketed.family,
        hbracketed.numeral.unique hnumeral⟩
  · rintro (⟨ip, hip, rfl⟩ | ⟨host, rfl, hclosed, hip, hfamily, rfl⟩)
    · exact read?_eq_some_iff.2 (.inl ⟨text, numeral, rfl, ⟨ip, hip, rfl⟩, hnumeral⟩)
    · exact read?_eq_some_iff.2 (.inr ⟨host, numeral, by simp, hclosed, hip, hfamily, hnumeral⟩)

/-! ### Literals out of place -/

/-- Only what stands behind a NUL byte could be taken for a port. -/
theorem read?_eq_none_of_ip {ip : IpAddress} (hip : IpAddress.read? text = some ip)
    (hnul : 0 ∉ text) : read? text = none := by
  have hwhole := Bytes.untilNul_eq_self hnul
  rw [Option.eq_none_iff_forall_ne_some]
  intro address hread
  rcases read?_eq_some_iff.1 hread with ⟨host, numeral, hplain⟩ | ⟨host, numeral, hbracketed⟩
  · obtain ⟨quad, hquad, -⟩ := hplain.host
    have hcolon : byte ':' ∈ text := by simp [hplain.text_eq]
    have hhost : byte ':' ∉ host := by
      intro hmem
      have hdotted := Ipv4.readDotted?_of_read? hquad
      rw [Bytes.untilNul_eq_self fun hzero => hnul (by simp [hplain.text_eq, hzero])] at hdotted
      rw [Ipv4.readDotted?_eq_none_of_colon hmem] at hdotted
      cases hdotted
    cases ip with
    | v4 ip =>
      have hdotted := Ipv4.readDotted?_of_read? (IpAddress.read?_eq_v4_iff.1 hip)
      rw [hwhole, Ipv4.readDotted?_eq_none_of_colon hcolon] at hdotted
      cases hdotted
    | v6 ip =>
      have hcount : text.count (byte ':') = 1 := by
        rw [hplain.text_eq, List.count_append, List.count_cons_self, List.count_eq_zero.2 hhost,
          List.count_eq_zero.2 hplain.numeral.colon_not_mem]
      have hcolons :=
        (Ipv6.readText?_spec (Ipv6.readText?_of_read? (IpAddress.read?_eq_v6_iff.1 hip).2)).2
      rw [hwhole] at hcolons
      omega
  · obtain ⟨first, rest, rfl, hfirst⟩ := IpAddress.exists_cons_of_read? hip
    obtain rfl := Option.some.inj hbracketed.head?_eq
    exact absurd hfirst (by decide)

/-- An IPv6 literal without brackets is no host. -/
theorem read?_append_colon_of_v6 {ip : IpAddress} (hip : IpAddress.read? host = some ip)
    (hfamily : ip.family = .v6) (rest : Bytes) : read? (host ++ byte ':' :: rest) = none := by
  rw [Option.eq_none_iff_forall_ne_some]
  intro address hread
  rcases read?_eq_some_iff.1 hread with ⟨quadText, numeral, hplain⟩ | ⟨_, _, hbracketed⟩
  · obtain ⟨quad, hquad, -⟩ := hplain.host
    -- The last colon stands behind the literal, so the host holds the whole of it.
    obtain ⟨more, rfl⟩ : ∃ more, quadText = host ++ more := by
      rcases List.append_eq_append_iff.1 hplain.text_eq with ⟨more, hmore, -⟩ | ⟨more, hhost, htail⟩
      · exact ⟨more, hmore⟩
      · cases more with
        | nil => exact ⟨[], by rw [hhost, List.append_nil, List.append_nil]⟩
        | cons first more =>
          have hnumeral := (List.cons.inj htail).2
          exact absurd (by simp [hnumeral]) hplain.numeral.colon_not_mem
    cases ip with
    | v4 ip => cases hfamily
    | v6 ip =>
      have hcolons :=
        (Ipv6.readText?_spec (Ipv6.readText?_of_read? (IpAddress.read?_eq_v6_iff.1 hip).2)).2
      have hcolon : byte ':' ∈ host.untilNul := List.count_pos_iff.1 (by omega)
      have hdotted := Ipv4.readDotted?_of_read? hquad
      rw [Ipv4.readDotted?_eq_none_of_colon (Bytes.mem_untilNul_append hcolon more)] at hdotted
      cases hdotted
  · obtain ⟨first, more, rfl, hfirst⟩ := IpAddress.exists_cons_of_read? hip
    obtain rfl := Option.some.inj hbracketed.head?_eq
    exact absurd hfirst (by decide)

/-- An IPv4 literal in brackets is no host. -/
theorem read?_bracket_of_v4 {quad : Ipv4} (hquad : Ipv4.read? host = some quad) (rest : Bytes) :
    read? (byte '[' :: (host ++ byte ']' :: rest)) = none := by
  rw [Option.eq_none_iff_forall_ne_some]
  intro address hread
  rcases read?_eq_some_iff.1 hread with ⟨_, _, hplain⟩ | ⟨inner, numeral, hbracketed⟩
  · exact absurd rfl hplain.head?_ne
  · have htext := (List.cons.inj hbracketed.text_eq).2
    -- The first closing bracket ends the host or stands behind the NUL byte in it.
    have hinner : Ipv4.read? inner = some quad := by
      rcases List.append_eq_append_iff.1 htext with ⟨more, hmore, htail⟩ | ⟨more, rfl, htail⟩
      · cases more with
        | nil => rwa [hmore, List.append_nil]
        | cons first more =>
          obtain rfl := (List.cons.inj htail).1
          exact absurd (by simp [hmore]) hbracketed.closes_first
      · cases more with
        | nil => rwa [List.append_nil] at hquad
        | cons first more =>
          obtain rfl := (List.cons.inj htail).1
          refine Ipv4.read?_of_append_of_mem ?_ hquad
          by_contra hnul
          have hdotted := Ipv4.isDotted_of_readDotted? (Ipv4.readDotted?_of_read? hquad)
          have hbracket : byte ']' ∈ Bytes.untilNul (byte ']' :: more) := by
            rw [Bytes.untilNul, List.takeWhile_cons_of_pos (by decide)]
            exact List.mem_cons_self
          rw [Bytes.untilNul_append_of_not_mem hnul] at hdotted
          exact absurd (hdotted _ (List.mem_append_right inner hbracket)) (by decide)
    have hip := hbracketed.host
    rw [IpAddress.read?_eq_v4_iff.2 hinner] at hip
    have hfamily := hbracketed.family
    rw [← Option.some.inj hip] at hfamily
    cases hfamily

/-- A text is read exactly if it has one of the two forms, of which it has one at most and in one
way; a literal without a port, an IPv6 literal without brackets and an IPv4 literal in brackets are
refused. A literal ends at a NUL byte, so a text with such a byte may hold a port behind it. -/
theorem read?_accepts_two_forms :
    (∀ text address, read? text = some address ↔
        (∃ host numeral, IsPlain text host numeral address) ∨
          ∃ host numeral, IsBracketed text host numeral address) ∧
      (∀ text host numeral address, IsPlain text host numeral address →
        ∀ otherHost otherNumeral other,
          (IsPlain text otherHost otherNumeral other →
            otherHost = host ∧ otherNumeral = numeral) ∧
          ¬IsBracketed text otherHost otherNumeral other) ∧
      (∀ text host numeral address, IsBracketed text host numeral address →
        ∀ otherHost otherNumeral other, IsBracketed text otherHost otherNumeral other →
          otherHost = host ∧ otherNumeral = numeral) ∧
      (∀ text ip, IpAddress.read? text = some ip → 0 ∉ text → read? text = none) ∧
      (∀ host rest ip, IpAddress.read? host = some ip → ip.family = .v6 →
        read? (host ++ byte ':' :: rest) = none) ∧
      ∀ host rest quad, Ipv4.read? host = some quad →
        read? (byte '[' :: (host ++ byte ']' :: rest)) = none := by
  refine ⟨fun text address => read?_eq_some_iff, ?plain, ?bracketed, ?bare, ?unbracketed, ?quad⟩
  case plain =>
    exact fun _ _ _ _ hplain _ _ _ => ⟨hplain.unique, hplain.not_isBracketed⟩
  case bracketed =>
    exact fun _ _ _ _ hbracketed _ _ _ => hbracketed.unique
  case bare =>
    exact fun _ _ hip hnul => read?_eq_none_of_ip hip hnul
  case unbracketed =>
    exact fun _ rest _ hip hfamily => read?_append_colon_of_v6 hip hfamily rest
  case quad =>
    exact fun _ rest _ hquad => read?_bracket_of_v4 hquad rest

/-- The port may have leading zeros; without its brackets, or with another literal in them, the text
is refused. -/
theorem brackets_hold_one_family :
    (∃ host numeral, IsBracketed (utf8 "[::1]:00080") host numeral
        ⟨.v6 ⟨[0, 0, 0, 0, 0, 0, 0, 1], rfl⟩, 80⟩) ∧
      (∀ host numeral address, IsBracketed (utf8 "[::1]:00080") host numeral address →
        host = utf8 "::1" ∧ numeral = utf8 "00080") ∧
      (∀ host numeral address, IsPlain (utf8 "1.2.3.4:80") host numeral address →
        host = utf8 "1.2.3.4" ∧ numeral = utf8 "80") ∧
      read? (utf8 "::1") = none ∧ read? (utf8 "::1:80") = none ∧
      read? (utf8 "[1.2.3.4]:80") = none := by
  obtain ⟨hread, hplain, hbracketed, hbare, hunbracketed, hquad⟩ := read?_accepts_two_forms
  have hone : IpAddress.read? (utf8 "::1") = some (.v6 ⟨[0, 0, 0, 0, 0, 0, 0, 1], rfl⟩) := by decide
  have hdotted : Ipv4.read? (utf8 "1.2.3.4") = some ⟨1, 2, 3, 4⟩ := by decide
  have hclosed : IsBracketed (utf8 "[::1]:00080") (utf8 "::1") (utf8 "00080")
      ⟨.v6 ⟨[0, 0, 0, 0, 0, 0, 0, 1], rfl⟩, 80⟩ :=
    ⟨by decide, by decide, hone, rfl, Port.read?_eq_some_iff.1 (by decide)⟩
  have hopen : IsPlain (utf8 "1.2.3.4:80") (utf8 "1.2.3.4") (utf8 "80") ⟨.v4 ⟨1, 2, 3, 4⟩, 80⟩ :=
    ⟨by decide, ⟨_, hdotted, rfl⟩, Port.read?_eq_some_iff.1 (by decide)⟩
  refine ⟨?_, fun _ _ _ => hbracketed _ _ _ _ hclosed _ _ _,
    fun _ _ _ => (hplain _ _ _ _ hopen _ _ _).1, hbare _ _ hone (by decide),
    hunbracketed _ (utf8 "80") _ hone rfl, hquad _ (utf8 ":80") _ hdotted⟩
  have hsome : read? (utf8 "[::1]:00080") = some ⟨.v6 ⟨[0, 0, 0, 0, 0, 0, 0, 1], rfl⟩, 80⟩ := by
    decide
  refine ((hread _ _).1 hsome).resolve_left ?_
  rintro ⟨host, numeral, hother⟩
  exact (hplain _ _ _ _ hother _ _ _).2 hclosed

end SocketAddress

end RouteMonitor
