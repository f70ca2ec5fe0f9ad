import RouteMonitor.Address.Ipv4
import RouteMonitor.Proofs.Bytes
import RouteMonitor.Proofs.Bytes.Digits
import RouteMonitor.Proofs.Bytes.Pieces

/-!
# Dotted quads

The written form of an IPv4 address is read back as the address. It is made of digits and dots, and
no text with another byte is read, which is what keeps the two address families apart.
-/

namespace RouteMonitor.Ipv4

/-- The bytes of a dotted quad. -/
def isDotted (b : Byte) : Bool := b == byte '.' || b.isDigit

theorem isDotted_dot : isDotted (byte '.') = true := by decide

theorem isDotted_of_isDigit {b : Byte} (hdigit : b.isDigit = true) : isDotted b = true := by
  simp [isDotted, hdigit]

/-! ### One octet -/

theorem readOctet?_ofNat (octet : Byte) :
    readOctet? (Decimal.ofNat octet.toNat) = some octet := by
  have hbound : octet.toNat < 256 := octet.toNat_lt
  rw [readOctet?, Decimal.nat?_ofNat]
  simp only [hbound, Decimal.ofNat_not_zero_first, and_self, if_true]
  rw [UInt8.ofNat_toNat]

theorem length_ofNat_octet_le (octet : Byte) : (Decimal.ofNat octet.toNat).length ≤ 3 :=
  Decimal.length_ofNat_le (by omega) (octet.toNat_lt.trans (by omega))

theorem isDigit_of_readOctet? {text : Bytes} {octet : Byte}
    (hread : readOctet? text = some octet) : ∀ b ∈ text, b.isDigit = true := by
  rw [readOctet?] at hread
  split at hread
  · cases hread
  · rename_i number hnumber
    exact Decimal.isDigit_of_mem_of_nat? hnumber

/-! ### The whole address -/

variable {text : Bytes} {address : Ipv4}

theorem isDotted_of_mem_render {b : Byte} (hmem : b ∈ address.render) : isDotted b = true := by
  rcases Bytes.eq_or_mem_of_mem_intercalate hmem with hdot | hpiece
  · rw [hdot]
    exact isDotted_dot
  · obtain ⟨piece, hpiece, hb⟩ := hpiece
    obtain ⟨octet, -, rfl⟩ := List.mem_map.1 hpiece
    exact isDotted_of_isDigit (Decimal.isDigit_of_mem_ofNat hb)

theorem not_mem_render {b : Byte} (hb : isDotted b = false) (address : Ipv4) :
    b ∉ address.render := by
  intro hmem
  have hdotted := isDotted_of_mem_render hmem
  rw [hb] at hdotted
  cases hdotted

theorem isUnspaced_render (address : Ipv4) : address.render.IsUnspaced := by
  have hblank : ∀ b : Byte, isDotted b = true → b.isBlank = false :=
    Byte.forall_of_codes (by decide +kernel)
  exact fun b hb => hblank b (isDotted_of_mem_render hb)

theorem length_render_le (address : Ipv4) : address.render.length ≤ textLimit := by
  have hpieces : ∀ piece ∈ address.octets.map fun octet => Decimal.ofNat octet.toNat,
      piece.length ≤ 3 := by
    intro piece hpiece
    obtain ⟨octet, -, rfl⟩ := List.mem_map.1 hpiece
    exact length_ofNat_octet_le octet
  exact Bytes.length_intercalate_le hpieces

/-- A dotted quad is longer than any group of an IPv6 address. -/
theorem four_lt_length_render (address : Ipv4) : 4 < address.render.length := by
  have hpos : ∀ octet : Byte, 0 < (Decimal.ofNat octet.toNat).length := fun octet =>
    List.length_pos_iff.2 Decimal.ofNat_ne_nil
  have hfirst := hpos address.first
  have hsecond := hpos address.second
  simp only [render, octets, List.map_cons, List.map_nil, List.intercalate_cons_cons,
    List.intercalate_singleton, List.length_append, List.length_singleton]
  omega

theorem readDotted?_render (address : Ipv4) : readDotted? address.render = some address := by
  have hdot : ∀ piece ∈ address.octets.map fun octet => Decimal.ofNat octet.toNat,
      byte '.' ∉ piece := by
    intro piece hpiece hmem
    obtain ⟨octet, -, rfl⟩ := List.mem_map.1 hpiece
    exact absurd (Decimal.isDigit_of_mem_ofNat hmem) (by decide)
  rw [readDotted?, render, List.splitOn_intercalate _ hdot (by simp [octets])]
  simp [octets, readOctet?_ofNat]

theorem untilNul_render (address : Ipv4) : address.render.untilNul = address.render :=
  Bytes.untilNul_eq_self (not_mem_render (by decide) address)

theorem read?_render (address : Ipv4) : read? address.render = some address := by
  rw [read?, if_pos (length_render_le address), untilNul_render, readDotted?_render]

theorem isDotted_of_readDotted? (hread : readDotted? text = some address) :
    ∀ b ∈ text, isDotted b = true := by
  have hpieces : ∀ piece ∈ text.splitOn (byte '.'), ∃ octet, readOctet? piece = some octet := by
    rw [readDotted?] at hread
    split at hread
    · rename_i first second third fourth hmap
      intro piece hpiece
      have hmem : readOctet? piece ∈ [some first, some second, some third, some fourth] := by
        rw [← hmap]
        exact List.mem_map_of_mem hpiece
      grind
    · cases hread
  have hjoin : [byte '.'].intercalate (text.splitOn (byte '.')) = text :=
    List.intercalate_splitOn (byte '.')
  intro b hb
  rw [← hjoin] at hb
  rcases Bytes.eq_or_mem_of_mem_intercalate hb with hdot | hpiece
  · rw [hdot]
    exact isDotted_dot
  · obtain ⟨piece, hpiece, hb⟩ := hpiece
    obtain ⟨octet, hoctet⟩ := hpieces piece hpiece
    exact isDotted_of_isDigit (isDigit_of_readOctet? hoctet b hb)

theorem readDotted?_eq_none_of_colon (hcolon : byte ':' ∈ text) : readDotted? text = none := by
  cases hread : readDotted? text with
  | none => rfl
  | some address => exact absurd (isDotted_of_readDotted? hread _ hcolon) (by decide)

end RouteMonitor.Ipv4
