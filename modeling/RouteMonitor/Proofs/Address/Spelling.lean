import RouteMonitor.Proofs.Address.Literal
import RouteMonitor.Proofs.Setting
import RouteMonitor.Service.Load

/-!
# The spelling of an IPv4 address

Up to its first NUL byte, a text is read as an IPv4 address exactly if it is the written form of
that address: every octet has one spelling, and dots are the only bytes between them. Behind the NUL
byte anything may stand, as long as the whole is not too long to be looked at. So among the texts
without a NUL byte each address has one spelling, and no byte can be put before or after it.
-/

namespace RouteMonitor

namespace Ipv4

variable {text : Bytes} {address : Ipv4}

/-! ### One octet -/

theorem readOctet?_eq_some_iff {octet : Byte} :
    readOctet? text = some octet ↔ text = Decimal.ofNat octet.toNat := by
  constructor
  · intro hread
    rw [readOctet?] at hread
    split at hread
    · cases hread
    · rename_i number hnumber
      obtain ⟨⟨hbound, hzero⟩, hoctet⟩ := Option.ite_none_right_eq_some.1 hread
      obtain rfl := Option.some.inj hoctet
      obtain ⟨hne, hdigits, hvalue⟩ := Decimal.nat?_eq_some_iff.1 hnumber
      rw [UInt8.toNat_ofNat_of_lt' hbound, ← hvalue, Decimal.ofNat_value hne hdigits hzero]
  · intro htext
    rw [htext, readOctet?_ofNat]

theorem map_readOctet?_eq_iff {pieces : List Bytes} {octets : Bytes} :
    pieces.map readOctet? = octets.map some ↔
      pieces = octets.map fun octet => Decimal.ofNat octet.toNat := by
  induction pieces generalizing octets with
  | nil => cases octets <;> simp
  | cons piece pieces ih =>
    cases octets with
    | nil => simp
    | cons octet octets =>
      rw [List.map_cons, List.map_cons, List.cons_eq_cons, readOctet?_eq_some_iff, ih,
        List.map_cons, List.cons_eq_cons]

/-! ### The whole address -/

theorem readDotted?_eq_some_iff : readDotted? text = some address ↔ text = address.render := by
  constructor
  · intro hread
    rw [readDotted?] at hread
    split at hread
    · rename_i first second third fourth hmap
      obtain rfl := Option.some.inj hread
      have hpieces : text.splitOn (byte '.') =
          (octets ⟨first, second, third, fourth⟩).map fun octet => Decimal.ofNat octet.toNat :=
        map_readOctet?_eq_iff.1 hmap
      rw [render, ← hpieces, List.intercalate_splitOn]
    · cases hread
  · intro htext
    rw [htext, readDotted?_render]

/-- The written form of the address, alone or before a NUL byte that hides the rest. -/
def IsSpelling (text : Bytes) (address : Ipv4) : Prop :=
  text = address.render ∨
    ∃ hidden, text = address.render ++ 0 :: hidden ∧ text.length ≤ textLimit

theorem read?_eq_some_iff : read? text = some address ↔ IsSpelling text address := by
  have hnul : 0 ∉ address.render := not_mem_render (by decide) address
  rw [read?, Option.ite_none_right_eq_some, readDotted?_eq_some_iff, Bytes.untilNul_eq_iff]
  constructor
  · intro hread
    obtain ⟨hlength, -, htext | ⟨hidden, htext⟩⟩ := hread
    · exact .inl htext
    · exact .inr ⟨hidden, htext, hlength⟩
  · intro hspelling
    rcases hspelling with htext | ⟨hidden, htext, hlength⟩
    · rw [htext]
      exact ⟨length_render_le address, hnul, .inl rfl⟩
    · exact ⟨hlength, hnul, .inr ⟨hidden, htext⟩⟩

theorem IsSpelling.render_eq_iff (hspelling : IsSpelling text address) :
    address.render = text ↔ 0 ∉ text := by
  constructor
  · intro hrender
    rw [← hrender]
    exact not_mem_render (by decide) address
  · intro hnul
    rcases hspelling with htext | ⟨hidden, htext, -⟩
    · exact htext.symm
    · rw [htext] at hnul
      simp at hnul

/-- Without a NUL byte, nothing stands around the written form of the address that is read. -/
theorem read?_surrounded_iff {before after : Bytes}
    (hnul : 0 ∉ before ++ address.render ++ after) :
    read? (before ++ address.render ++ after) = some address ↔ before = [] ∧ after = [] := by
  constructor
  · intro hread
    have hlength := congrArg List.length ((read?_eq_some_iff.1 hread).render_eq_iff.2 hnul)
    simp only [List.length_append] at hlength
    exact ⟨List.length_eq_zero_iff.1 (by omega), List.length_eq_zero_iff.1 (by omega)⟩
  · intro hnothing
    rw [hnothing.1, hnothing.2, List.nil_append, List.append_nil, read?_render]

theorem read_eq_ok_iff : read text = .ok address ↔ read? text = some address := by
  rw [read]
  cases read? text with
  | none => simp
  | some other => simp

end Ipv4

theorem Service.read?_of_require_routerId {settings : Settings} {session text : Bytes}
    {address : Ipv4} (hstored : settings.get? session (utf8 "routerid") = some text)
    (hload : ((routerId session).require settings).result = .ok address) :
    Ipv4.read? text = some address :=
  Ipv4.read_eq_ok_iff.1 (Setting.read_of_require rfl (Settings.get?_eq_some_iff.1 hstored) hload)

theorem IpAddress.isSpelling_of_read? {text : Bytes} {address : Ipv4}
    (hread : IpAddress.read? text = some (.v4 address)) : Ipv4.IsSpelling text address :=
  Ipv4.read?_eq_some_iff.1 (IpAddress.read?_eq_v4_iff.1 hread)

/-- What is read as an IPv4 address is its written form, up to a NUL byte and whatever that hides.
So it is the written form alone exactly if it has no NUL byte; then nothing stands around the form,
and two such texts that give one router identifier are the same. -/
theorem ipv4_literals_are_written_forms (text : Bytes) :
    (∀ address, Ipv4.read? text = some address ↔ Ipv4.IsSpelling text address) ∧
      (∀ address, IpAddress.read? text = some (.v4 address) ↔ Ipv4.IsSpelling text address) ∧
      (∀ address, Ipv4.read? text = some address → (address.render = text ↔ 0 ∉ text)) ∧
      (∀ ip, IpAddress.read? text = some ip → ip.family = .v4 →
        (ip.render = text ↔ 0 ∉ text)) ∧
      (0 ∉ text → ∀ before address after, text = before ++ Ipv4.render address ++ after →
        (Ipv4.read? text = some address ↔ before = [] ∧ after = [])) ∧
      ∀ other left right leftSession rightSession address,
        Settings.get? left leftSession (utf8 "routerid") = some text →
        Settings.get? right rightSession (utf8 "routerid") = some other →
        ((Service.routerId leftSession).require left).result = .ok address →
        ((Service.routerId rightSession).require right).result = .ok address →
        0 ∉ text → 0 ∉ other → text = other := by
  refine ⟨fun address => Ipv4.read?_eq_some_iff, fun address => ?_, fun address hread => ?_,
    fun ip hread hfamily => ?_, fun hnul before address after htext => ?_, ?_⟩
  · rw [IpAddress.read?_eq_v4_iff, Ipv4.read?_eq_some_iff]
  · exact (Ipv4.read?_eq_some_iff.1 hread).render_eq_iff
  · cases ip with
    | v4 address => exact (IpAddress.isSpelling_of_read? hread).render_eq_iff
    | v6 address => cases hfamily
  · subst htext
    exact Ipv4.read?_surrounded_iff hnul
  · intro other left right leftSession rightSession address hleft hright hloadLeft hloadRight
      hnul hnulOther
    have hspelling := Ipv4.read?_eq_some_iff.1 (Service.read?_of_require_routerId hleft hloadLeft)
    have hspellingOther :=
      Ipv4.read?_eq_some_iff.1 (Service.read?_of_require_routerId hright hloadRight)
    rw [← hspelling.render_eq_iff.2 hnul, ← hspellingOther.render_eq_iff.2 hnulOther]

/-- A text with a hidden tail spells the address that the visible part spells, and a router
identifier that loads as this address is spelled like the visible part. -/
theorem hidden_tail_leaves_the_address :
    Ipv4.IsSpelling (utf8 "10.0.0.1\x00tail") ⟨10, 0, 0, 1⟩ ∧
      0 ∉ utf8 "10.0.0.1" ∧ Ipv4.read? (utf8 "10.0.0.1") = some ⟨10, 0, 0, 1⟩ ∧
      Ipv4.render ⟨10, 0, 0, 1⟩ = utf8 "10.0.0.1" ∧
      Ipv4.read? (utf8 "010.0.0.1") ≠ some ⟨10, 0, 0, 1⟩ ∧
      ∀ text, 0 ∉ text →
        ((Service.routerId (utf8 "s")).require
          (Settings.empty.put (utf8 "s") (utf8 "routerid") (.value text))).result =
            .ok ⟨10, 0, 0, 1⟩ → utf8 "10.0.0.1" = text := by
  have hread : Ipv4.read? (utf8 "10.0.0.1") = some ⟨10, 0, 0, 1⟩ := by decide
  have hnul : 0 ∉ utf8 "10.0.0.1" := by decide
  obtain ⟨hspelling, -⟩ := ipv4_literals_are_written_forms (utf8 "10.0.0.1\x00tail")
  obtain ⟨-, -, hplain, -, -, hrouter⟩ := ipv4_literals_are_written_forms (utf8 "10.0.0.1")
  obtain ⟨-, -, -, -, hsurrounded, -⟩ := ipv4_literals_are_written_forms (utf8 "010.0.0.1")
  refine ⟨(hspelling _).1 (by decide), hnul, hread, (hplain _ hread).2 hnul,
    fun hzero => ?_, fun text htext hload => ?_⟩
  · obtain ⟨hnothing, -⟩ :=
      (hsurrounded (by decide) (utf8 "0") ⟨10, 0, 0, 1⟩ [] (by decide)).1 hzero
    exact absurd hnothing (by decide)
  · exact hrouter _ (Settings.empty.put (utf8 "s") (utf8 "routerid") (.value (utf8 "10.0.0.1")))
      _ (utf8 "s") _ _ (by decide) (by simp [Settings.get?_eq_some_iff, Settings.find?_put])
      (by rfl) hload hnul htext

/-- A NUL byte makes room for text that takes no part in the address. -/
theorem not_every_literal_is_a_written_form :
    ¬∀ text address, Ipv4.read? text = some address → address.render = text := by
  intro hwritten
  have hread : Ipv4.read? (utf8 "1.2.3.4\x00x") = some ⟨1, 2, 3, 4⟩ := by decide
  exact absurd (hwritten _ _ hread) (by decide)

end RouteMonitor
