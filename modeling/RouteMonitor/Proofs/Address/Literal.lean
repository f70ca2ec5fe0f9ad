import RouteMonitor.Address.IpAddress
import RouteMonitor.Proofs.Address.Ipv6

/-!
# What literals are made of

An IPv4 literal starts with a digit. An IPv6 literal is made of hexadecimal digits, colons and dots,
and has at least two colons. A text may go on after its literal, behind a NUL byte, so none of this
holds of what stands there; but a literal stays the same however the text goes on.
-/

namespace RouteMonitor

namespace Ipv4

variable {text : Bytes} {address : Ipv4}

theorem readDotted?_of_read? (hread : read? text = some address) :
    readDotted? text.untilNul = some address :=
  (Option.ite_none_right_eq_some.1 hread).2

theorem exists_cons_of_read? (hread : read? text = some address) :
    ∃ first rest, text = first :: rest ∧ isDotted first = true := by
  have hdotted := readDotted?_of_read? hread
  cases text with
  | nil => cases hdotted
  | cons first rest =>
    refine ⟨first, rest, rfl, ?_⟩
    by_cases hfirst : first = 0
    · rw [hfirst] at hdotted
      cases hdotted
    · apply isDotted_of_readDotted? hdotted
      simp [Bytes.untilNul, hfirst]

/-- What follows the NUL byte that ends a literal has no influence, except on the length. -/
theorem read?_of_append_of_mem {more : Bytes} (hnul : 0 ∈ text)
    (hread : read? (text ++ more) = some address) : read? text = some address := by
  obtain ⟨hlength, hdotted⟩ := Option.ite_none_right_eq_some.1 hread
  rw [Bytes.untilNul_append_of_mem hnul] at hdotted
  rw [List.length_append] at hlength
  rw [read?, if_pos (by omega), hdotted]

end Ipv4

namespace Ipv6

variable {text : Bytes} {address : Ipv6}

theorem isLiteral_of_group {group : Group} (hread : Group.read? text = some group) :
    ∀ b ∈ text, isLiteral b = true := by
  obtain ⟨-, hnumber⟩ := Option.ite_none_right_eq_some.1 hread
  obtain ⟨number, hnumber, -⟩ := Option.map_eq_some_iff.1 hnumber
  intro b hb
  simp [isLiteral, Hexadecimal.isSome_readDigit?_of_nat? hnumber b hb]

/-- Pieces that are read are made of literal bytes, and each but the last gives one group. -/
theorem readPieces?_spec {endsAddress : Bool} {pieces : List Bytes} {groups : List Group}
    (hread : readPieces? endsAddress pieces = some groups) :
    (∀ piece ∈ pieces, ∀ b ∈ piece, isLiteral b = true) ∧ groups.length ≤ pieces.length + 1 := by
  fun_induction readPieces? endsAddress pieces generalizing groups with
  | case1 =>
    obtain rfl := Option.some.inj hread
    simp
  | case2 piece group hgroup =>
    obtain rfl := Option.some.inj hread
    simpa using isLiteral_of_group hgroup
  | case3 piece hgroup hends =>
    obtain ⟨quad, hquad, rfl⟩ := Option.map_eq_some_iff.1 hread
    refine ⟨?_, by simp [groupsOfQuad]⟩
    simpa using fun b hb => isLiteral_of_isDotted (Ipv4.isDotted_of_readDotted? hquad b hb)
  | case4 => cases hread
  | case5 piece pieces hpieces group hgroup ih =>
    obtain ⟨others, hothers, rfl⟩ := Option.map_eq_some_iff.1 hread
    obtain ⟨hliteral, hlength⟩ := ih hothers
    refine ⟨List.forall_mem_cons.2 ⟨isLiteral_of_group hgroup, hliteral⟩, ?_⟩
    rw [List.length_cons, List.length_cons]
    omega
  | case6 => cases hread

theorem readSide?_spec {endsAddress : Bool} {groups : List Group}
    (hread : readSide? endsAddress text = some groups) :
    (∀ b ∈ text, isLiteral b = true) ∧ groups.length ≤ text.count (byte ':') + 2 := by
  rw [readSide?] at hread
  split at hread
  · rename_i hnil
    obtain rfl := Option.some.inj hread
    simp [hnil]
  · obtain ⟨hliteral, hlength⟩ := readPieces?_spec hread
    rw [Bytes.length_splitOn] at hlength
    refine ⟨fun b hb => ?_, hlength⟩
    have hjoin : [byte ':'].intercalate (text.splitOn (byte ':')) = text :=
      List.intercalate_splitOn (byte ':')
    rw [← hjoin] at hb
    rcases Bytes.eq_or_mem_of_mem_intercalate hb with hcolon | hpiece
    · rw [hcolon]
      decide
    · obtain ⟨piece, hpiece, hb⟩ := hpiece
      exact hliteral piece hpiece b hb

theorem readText?_spec (hread : readText? text = some address) :
    (∀ b ∈ text, isLiteral b = true) ∧ 2 ≤ text.count (byte ':') := by
  rw [readText?] at hread
  cases hcut : text.cut? (utf8 "::") with
  | none =>
    rw [hcut] at hread
    obtain ⟨groups, hgroups, haddress⟩ := Option.bind_eq_some_iff.1 hread
    obtain ⟨hliteral, hlength⟩ := readSide?_spec hgroups
    rw [ofGroups?] at haddress
    split at haddress
    · exact ⟨hliteral, by omega⟩
    · cases haddress
  | some parts =>
    obtain ⟨before, after⟩ := parts
    rw [hcut] at hread
    dsimp only at hread
    split at hread
    · rename_i left right hleft hright
      have hcolons : utf8 "::" = [byte ':', byte ':'] := by decide
      have htext := Bytes.eq_append_of_cut? hcut
      rw [htext, hcolons]
      refine ⟨fun b hb => ?_, by simp [List.count_append]; omega⟩
      simp only [List.mem_append, List.mem_cons, List.not_mem_nil, or_false, or_self] at hb
      rcases hb with (hb | rfl) | hb
      · exact (readSide?_spec hleft).1 b hb
      · decide
      · exact (readSide?_spec hright).1 b hb
    · cases hread

theorem readText?_of_read? (hread : read? text = some address) :
    readText? text.untilNul = some address :=
  (Option.ite_none_right_eq_some.1 hread).2

theorem exists_cons_of_read? (hread : read? text = some address) :
    ∃ first rest, text = first :: rest ∧ isLiteral first = true := by
  have hliteral := readText?_of_read? hread
  cases text with
  | nil => cases hliteral
  | cons first rest =>
    refine ⟨first, rest, rfl, ?_⟩
    by_cases hfirst : first = 0
    · rw [hfirst] at hliteral
      cases hliteral
    · apply (readText?_spec hliteral).1
      simp [Bytes.untilNul, hfirst]

end Ipv6

namespace IpAddress

variable {text : Bytes}

theorem read?_eq_v4_iff {address : Ipv4} :
    read? text = some (.v4 address) ↔ Ipv4.read? text = some address := by
  rw [read?]
  cases Ipv4.read? text with
  | none => simp
  | some other => simp

theorem read?_eq_v6_iff {address : Ipv6} :
    read? text = some (.v6 address) ↔ Ipv4.read? text = none ∧ Ipv6.read? text = some address := by
  rw [read?]
  cases Ipv4.read? text with
  | none => simp
  | some other => simp

theorem exists_cons_of_read? {ip : IpAddress} (hread : read? text = some ip) :
    ∃ first rest, text = first :: rest ∧ Ipv6.isLiteral first = true := by
  cases ip with
  | v4 address =>
    obtain ⟨first, rest, htext, hdotted⟩ := Ipv4.exists_cons_of_read? (read?_eq_v4_iff.1 hread)
    exact ⟨first, rest, htext, Ipv6.isLiteral_of_isDotted hdotted⟩
  | v6 address => exact Ipv6.exists_cons_of_read? (read?_eq_v6_iff.1 hread).2

end IpAddress

end RouteMonitor
