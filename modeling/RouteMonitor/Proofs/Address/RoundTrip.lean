import RouteMonitor.Address.SocketAddress
import RouteMonitor.Proofs.Address.Ipv6

/-!
# Addresses and their texts

Every IP address and every socket address is read back from its written form, and never as an
address of the other family: an IPv6 literal has a colon, which no dotted quad has, and brackets
keep the port of a socket address apart from it. So the written form determines the address, and two
texts that are read give the same family and the same stored bytes exactly if they are rendered
alike.
-/

namespace RouteMonitor

/-- A written form that is read back determines what is written. -/
theorem written_inj {α : Type} {write : α → Bytes} {read? : Bytes → Option α}
    (hread : ∀ value, read? (write value) = some value) {left right : α} :
    write left = write right ↔ left = right := by
  constructor
  · intro hwrite
    have hleft := hread left
    rw [hwrite, hread right] at hleft
    exact (Option.some.inj hleft).symm
  · intro heq
    rw [heq]

namespace IpAddress

theorem read?_render (ip : IpAddress) : read? ip.render = some ip := by
  cases ip with
  | v4 address => rw [read?, render, Ipv4.read?_render]
  | v6 address =>
    have hnot : Ipv4.read? address.render = none := by
      rw [Ipv4.read?, address.untilNul_render,
        Ipv4.readDotted?_eq_none_of_colon address.colon_mem_render, ite_self]
    rw [read?, render, hnot]
    dsimp only
    rw [Ipv6.read?_render, Option.map_some]

theorem render_inj {left right : IpAddress} : left.render = right.render ↔ left = right :=
  written_inj read?_render

/-- An IPv4 address leaves the last twelve stored bytes zero. -/
theorem storage_v4 (address : Ipv4) :
    (v4 address).storage = address.octets ++ List.replicate 12 0 := rfl

theorem drop_storage_of_v4 {ip : IpAddress} (hfamily : ip.family = .v4) :
    ip.storage.drop 4 = List.replicate 12 0 := by
  cases ip with
  | v4 address =>
    rw [storage_v4]
    rfl
  | v6 address => cases hfamily

end IpAddress

theorem Port.read?_render (port : Port) : Port.read? port.render = some port := by
  have hbound : port.toNat < 65536 := port.toNat_lt
  have hlength : (Decimal.ofNat port.toNat).length ≤ 5 :=
    Decimal.length_ofNat_le (by omega) (by omega)
  rw [Port.read?, Port.render, Decimal.nat?_ofNat]
  dsimp only
  rw [if_pos ⟨hlength, hbound⟩, UInt16.ofNat_toNat]

theorem Port.colon_not_mem_render (port : Port) : byte ':' ∉ port.render := by
  intro hmem
  exact absurd (Decimal.isDigit_of_mem_ofNat hmem) (by decide)

namespace SocketAddress

theorem read?_eq_readV4? {text : Bytes} (hbracket : byte '[' ∉ text) (hempty : text ≠ []) :
    read? text = readV4? text := by
  obtain ⟨b, rest, rfl⟩ := List.exists_cons_of_ne_nil hempty
  have hb : b ≠ byte '[' := ne_of_mem_of_not_mem List.mem_cons_self hbracket
  rw [read?, if_neg hb]

theorem read?_render_v4 (address : Ipv4) (port : Port) :
    read? (render ⟨.v4 address, port⟩) = some ⟨.v4 address, port⟩ := by
  have hcolon : utf8 ":" = [byte ':'] := by decide
  have hrender : render ⟨.v4 address, port⟩ = address.render ++ byte ':' :: port.render := by
    calc render ⟨.v4 address, port⟩ = address.render ++ utf8 ":" ++ port.render := rfl
      _ = address.render ++ byte ':' :: port.render := by
        rw [hcolon, List.append_assoc, List.singleton_append]
  have hbracket : byte '[' ∉ address.render ++ byte ':' :: port.render := by
    intro hmem
    rcases List.mem_append.1 hmem with hhost | hrest
    · exact Ipv4.not_mem_render (by decide) address hhost
    rcases List.mem_cons.1 hrest with hcolon | hport
    · exact absurd hcolon (by decide)
    · exact absurd (Decimal.isDigit_of_mem_ofNat hport) (by decide)
  rw [hrender, read?_eq_readV4? hbracket (by simp), readV4?,
    Bytes.cutLast?_append_cons port.colon_not_mem_render]
  dsimp only
  rw [Ipv4.read?_render, Port.read?_render]

theorem read?_render_v6 (address : Ipv6) (port : Port) :
    read? (render ⟨.v6 address, port⟩) = some ⟨.v6 address, port⟩ := by
  have hopen : utf8 "[" = [byte '['] := by decide
  have hclose : utf8 "]:" = [byte ']', byte ':'] := by decide
  have hbracket : utf8 "]" = [byte ']'] := by decide
  have hrender : render ⟨.v6 address, port⟩ =
      byte '[' :: (address.render ++ byte ']' :: byte ':' :: port.render) := by
    calc render ⟨.v6 address, port⟩ =
          utf8 "[" ++ address.render ++ utf8 "]:" ++ port.render := rfl
      _ = byte '[' :: (address.render ++ byte ']' :: byte ':' :: port.render) := by
        rw [hopen, hclose]
        simp
  have hcut : Bytes.cut? (address.render ++ byte ']' :: byte ':' :: port.render) (utf8 "]") =
      some (address.render, byte ':' :: port.render) := by
    rw [hbracket, Bytes.cut?_eq_some_iff]
    exact ⟨rfl, Ipv6.not_mem_render (by decide) address⟩
  have hhost : IpAddress.read? address.render = some (.v6 address) :=
    IpAddress.read?_render (.v6 address)
  rw [hrender, read?, if_pos rfl, readV6?, hcut]
  dsimp only
  rw [hhost, Port.read?_render]
  dsimp only
  rw [if_pos rfl]

theorem read?_render (address : SocketAddress) : read? address.render = some address := by
  obtain ⟨ip, port⟩ := address
  cases ip with
  | v4 ip => exact read?_render_v4 ip port
  | v6 ip => exact read?_render_v6 ip port

theorem render_inj {left right : SocketAddress} : left.render = right.render ↔ left = right :=
  written_inj read?_render

theorem eq_iff_storage {left right : SocketAddress} :
    left.ip.family = right.ip.family ∧ left.ip.storage = right.ip.storage ∧
      left.port = right.port ↔ left = right := by
  rw [← and_assoc, IpAddress.eq_iff_storage]
  cases left
  cases right
  simp

end SocketAddress

namespace SocketAddress

/-! ### The bytes of the written form -/

/-- The bytes of a written address: those of a literal, and the brackets around one. -/
def isLiteral (b : Byte) : Bool := Ipv6.isLiteral b || b == byte '[' || b == byte ']'

theorem isLiteral_of_isLiteral {b : Byte} (hliteral : Ipv6.isLiteral b = true) :
    isLiteral b = true := by
  simp [isLiteral, hliteral]

theorem isLiteral_of_mem_port {port : Port} {b : Byte} (hmem : b ∈ port.render) :
    isLiteral b = true :=
  isLiteral_of_isLiteral (Ipv6.isLiteral_of_isDotted
    (Ipv4.isDotted_of_isDigit (Decimal.isDigit_of_mem_ofNat hmem)))

theorem isLiteral_of_mem_render {address : SocketAddress} {b : Byte}
    (hmem : b ∈ address.render) : isLiteral b = true := by
  have hsigns : ∀ sign ∈ [utf8 ":", utf8 "[", utf8 "]:"], sign.all isLiteral = true := by decide
  obtain ⟨ip, port⟩ := address
  cases ip with
  | v4 ip =>
    rcases List.mem_append.1 hmem with hfront | hport
    · rcases List.mem_append.1 hfront with hip | hcolon
      · exact isLiteral_of_isLiteral
          (Ipv6.isLiteral_of_isDotted (Ipv4.isDotted_of_mem_render hip))
      · exact List.all_eq_true.1 (hsigns _ (by simp)) b hcolon
    · exact isLiteral_of_mem_port hport
  | v6 ip =>
    rcases List.mem_append.1 hmem with hfront | hport
    · rcases List.mem_append.1 hfront with hopened | hclose
      · rcases List.mem_append.1 hopened with hopen | hip
        · exact List.all_eq_true.1 (hsigns _ (by simp)) b hopen
        · exact isLiteral_of_isLiteral (Ipv6.isLiteral_of_mem_render hip)
      · exact List.all_eq_true.1 (hsigns _ (by simp)) b hclose
    · exact isLiteral_of_mem_port hport

theorem isUnspaced_render (address : SocketAddress) : address.render.IsUnspaced := by
  have hblank : ∀ b : Byte, isLiteral b = true → b.isBlank = false :=
    Byte.forall_of_codes (by decide +kernel)
  exact fun b hb => hblank b (isLiteral_of_mem_render hb)

end SocketAddress

/-- Addresses of both kinds come back from their texts; the unused bytes of an IPv4 address are
zero; and two texts that are read give equal addresses exactly if these are rendered alike. -/
theorem addresses_come_back_and_are_told_apart :
    (∀ ip : IpAddress, IpAddress.read? ip.render = some ip) ∧
      (∀ address : SocketAddress, SocketAddress.read? address.render = some address) ∧
      (∀ ip : IpAddress, ip.family = .v4 → ip.storage.drop 4 = List.replicate 12 0) ∧
      (∀ leftText rightText left right,
        IpAddress.read? leftText = some left → IpAddress.read? rightText = some right →
        (left.family = right.family ∧ left.storage = right.storage ↔
          left.render = right.render)) ∧
      ∀ leftText rightText left right,
        SocketAddress.read? leftText = some left → SocketAddress.read? rightText = some right →
        (left.ip.family = right.ip.family ∧ left.ip.storage = right.ip.storage ∧
            left.port = right.port ↔
          left.render = right.render) := by
  refine ⟨IpAddress.read?_render, SocketAddress.read?_render,
    fun _ => IpAddress.drop_storage_of_v4, ?_, ?_⟩
  · intro leftText rightText left right _ _
    rw [IpAddress.eq_iff_storage, IpAddress.render_inj]
  · intro leftText rightText left right _ _
    rw [SocketAddress.eq_iff_storage, SocketAddress.render_inj]

/-- The IPv4 address and the IPv6 address that embeds it are written differently, and two spellings
of one socket address are written alike. -/
theorem mapped_address_is_told_apart :
    IpAddress.read? (utf8 "0:0::FFFF:1.2.3.4") =
        some (.v6 ⟨[0, 0, 0, 0, 0, 0xffff, 0x102, 0x304], rfl⟩) ∧
      IpAddress.read? (utf8 "1.2.3.4") = some (.v4 ⟨1, 2, 3, 4⟩) ∧
      IpAddress.render (.v6 ⟨[0, 0, 0, 0, 0, 0xffff, 0x102, 0x304], rfl⟩) ≠
        IpAddress.render (.v4 ⟨1, 2, 3, 4⟩) ∧
      ∃ left right, SocketAddress.read? (utf8 "[0::1]:080") = some left ∧
        SocketAddress.read? (utf8 "[::0.0.0.1]:80") = some right ∧
        left.render = right.render := by
  obtain ⟨-, -, -, happart, hsockets⟩ := addresses_come_back_and_are_told_apart
  have hmapped : IpAddress.read? (utf8 "0:0::FFFF:1.2.3.4") =
      some (.v6 ⟨[0, 0, 0, 0, 0, 0xffff, 0x102, 0x304], rfl⟩) := by decide
  have hquad : IpAddress.read? (utf8 "1.2.3.4") = some (.v4 ⟨1, 2, 3, 4⟩) := by decide
  refine ⟨hmapped, hquad, fun hrender => ?_, ⟨.v6 ⟨[0, 0, 0, 0, 0, 0, 0, 1], rfl⟩, 80⟩,
    ⟨.v6 ⟨[0, 0, 0, 0, 0, 0, 0, 1], rfl⟩, 80⟩, by decide, by decide, ?_⟩
  · obtain ⟨hfamily, -⟩ := (happart _ _ _ _ hmapped hquad).2 hrender
    exact absurd hfamily (by decide)
  · exact (hsockets (utf8 "[0::1]:080") (utf8 "[::0.0.0.1]:80") _ _ (by decide) (by decide)).1
      ⟨rfl, rfl, rfl⟩

end RouteMonitor
