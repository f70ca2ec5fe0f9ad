import RouteMonitor.Address.Ipv6
import RouteMonitor.Proofs.Address.Ipv4

/-!
# Colon-separated addresses

The written form of an IPv6 address is read back as the address. Its double colon stands for the
first longest run of zero groups, around which the groups split: each part is read by itself, where
a dotted quad at the end gives its two groups, and the reader fills in as many zero groups as the
run had.
-/

namespace RouteMonitor

/-! ### Groups -/

namespace Group

variable {group : Group}

theorem render_ne_nil : group.render ≠ [] := Hexadecimal.ofNat_ne_nil

theorem length_render_le (group : Group) : group.render.length ≤ 4 :=
  Hexadecimal.length_ofNat_le (by omega) (group.toNat_lt.trans_le (by omega))

theorem colon_not_mem_render (group : Group) : byte ':' ∉ group.render := by
  intro hmem
  exact absurd (Hexadecimal.isSome_readDigit?_of_mem_ofNat hmem) (by decide)

theorem read?_render (group : Group) : Group.read? group.render = some group := by
  rw [Group.read?, if_pos (length_render_le group), render, Hexadecimal.nat?_ofNat,
    Option.map_some, UInt16.ofNat_toNat]

theorem length_renderAll_le (groups : List Group) :
    (renderAll groups).length ≤ groups.length * 5 := by
  have hpieces : ∀ piece ∈ groups.map render, piece.length ≤ 4 := by
    intro piece hpiece
    obtain ⟨group, -, rfl⟩ := List.mem_map.1 hpiece
    exact length_render_le group
  calc (renderAll groups).length ≤ (groups.map render).length * 5 :=
        Bytes.length_intercalate_le hpieces
    _ = groups.length * 5 := by rw [List.length_map]

theorem forall_pieces (groups : List Group) :
    ∀ piece ∈ groups.map render, piece ≠ [] ∧ byte ':' ∉ piece := by
  intro piece hpiece
  obtain ⟨group, -, rfl⟩ := List.mem_map.1 hpiece
  exact ⟨render_ne_nil, colon_not_mem_render group⟩

theorem renderAll_ne_nil {groups : List Group} (hgroups : groups ≠ []) : renderAll groups ≠ [] := by
  cases groups with
  | nil => exact absurd rfl hgroups
  | cons group groups =>
    have hne : group.render ≠ [] := render_ne_nil
    obtain ⟨first, others, hrender⟩ := List.exists_cons_of_ne_nil hne
    rw [renderAll, List.map_cons, hrender, List.intercalate_cons_cons_left]
    exact List.cons_ne_nil _ _

theorem splitOn_renderAll {groups : List Group} (hgroups : groups ≠ []) :
    (renderAll groups).splitOn (byte ':') = groups.map render := by
  apply List.splitOn_intercalate
  · exact fun piece hpiece => (forall_pieces groups piece hpiece).2
  · simpa using hgroups

end Group

namespace Ipv6

/-! ### One side of the double colon -/

theorem readPieces?_cons {endsAddress : Bool} {piece : Bytes} {pieces : List Bytes} {group : Group}
    (hread : Group.read? piece = some group) (hpieces : pieces ≠ []) :
    readPieces? endsAddress (piece :: pieces) =
      (readPieces? endsAddress pieces).map (group :: ·) := by
  cases pieces with
  | nil => exact absurd rfl hpieces
  | cons next pieces => simp [readPieces?, hread]

theorem readPieces?_map_render (endsAddress : Bool) (groups : List Group) :
    readPieces? endsAddress (groups.map Group.render) = some groups := by
  induction groups with
  | nil => rfl
  | cons group groups ih =>
    cases groups with
    | nil => simp [readPieces?, Group.read?_render]
    | cons next groups =>
      rw [List.map_cons, readPieces?_cons (Group.read?_render group) (by simp), ih]
      rfl

theorem readSide?_renderAll (endsAddress : Bool) (groups : List Group) :
    readSide? endsAddress (Group.renderAll groups) = some groups := by
  rw [readSide?]
  by_cases hgroups : groups = []
  · rw [hgroups]
    rfl
  · rw [if_neg (Group.renderAll_ne_nil hgroups), Group.splitOn_renderAll hgroups,
      readPieces?_map_render]

@[simp] theorem groupsOfQuad_quadOfGroups (left right : Group) :
    groupsOfQuad (quadOfGroups left right) = [left, right] := by
  simp [groupsOfQuad, quadOfGroups]

theorem readPieces?_quad (quad : Ipv4) :
    readPieces? true [quad.render] = some (groupsOfQuad quad) := by
  have hgroup : Group.read? quad.render = none := by
    rw [Group.read?, if_neg (by have := quad.four_lt_length_render; omega)]
  simp [readPieces?, hgroup, Ipv4.readDotted?_render]

theorem colon_not_mem_quad (quad : Ipv4) : byte ':' ∉ quad.render :=
  Ipv4.not_mem_render (by decide) quad

/-- A dotted quad stands for the last two groups, whether it follows the zeros or `ffff`. -/
theorem readSide?_renderTail (start : Nat) (groups : List Group) :
    readSide? true (renderTail start groups) = some groups := by
  unfold renderTail
  split
  · rename_i left right
    have hquad := (quadOfGroups left right).four_lt_length_render
    rw [readSide?, if_neg (List.ne_nil_of_length_pos (by omega)),
      List.splitOn_eq_singleton (colon_not_mem_quad _), readPieces?_quad,
      groupsOfQuad_quadOfGroups]
  · rename_i left right
    have hsplit : utf8 "ffff:" = utf8 "ffff" ++ [byte ':'] := by decide
    have hffff : Group.read? (utf8 "ffff") = some 0xffff := by decide
    rw [readSide?, if_neg (by simp [hsplit]), hsplit, List.append_assoc, List.singleton_append,
      List.splitOn_append_cons_self_of_not_mem (by decide),
      List.splitOn_eq_singleton (colon_not_mem_quad _),
      readPieces?_cons hffff (List.cons_ne_nil _ _), readPieces?_quad, groupsOfQuad_quadOfGroups]
    rfl
  · exact readSide?_renderAll true groups

/-! ### The run of zeros -/

/-- Some groups in a row are zero, given where they start and how many they are. -/
def IsZeroRun (groups : List Group) (start length : Nat) : Prop :=
  ∃ before after, before.length = start ∧ groups = before ++ List.replicate length 0 ++ after

/-- No run of zeros is longer, and none that starts earlier is as long. -/
def IsFirstLongest (groups : List Group) (start length : Nat) : Prop :=
  ∀ other size, IsZeroRun groups other size → size ≤ length ∧ (size = length → start ≤ other)

theorem eq_replicate_append_drop (groups : List Group) :
    groups = List.replicate (groups.takeWhile (· == 0)).length 0 ++
      groups.drop (groups.takeWhile (· == 0)).length := by
  induction groups with
  | nil => rfl
  | cons group groups ih =>
    by_cases hzero : group = 0
    · subst hzero
      simpa [List.takeWhile_cons, List.replicate_succ] using ih
    · simp [hzero]

theorem le_length_takeWhile (length : Nat) (after : List Group) :
    length ≤ ((List.replicate length 0 ++ after).takeWhile (· == 0)).length := by
  have hzeros : ∀ group ∈ List.replicate length (0 : Group), (group == 0) = true := by
    intro group hgroup
    rw [List.eq_of_mem_replicate hgroup]
    rfl
  rw [List.takeWhile_append_of_pos hzeros, List.length_append, List.length_replicate]
  exact Nat.le_add_right _ _

theorem isZeroRun_longestZeroRun (groups : List Group) :
    IsZeroRun groups (longestZeroRun groups).1 (longestZeroRun groups).2 := by
  induction groups with
  | nil => exact ⟨[], [], rfl, rfl⟩
  | cons group groups ih =>
    rw [longestZeroRun]
    dsimp only
    split
    · exact ⟨[], _, rfl, eq_replicate_append_drop (group :: groups)⟩
    · obtain ⟨before, after, hlength, hgroups⟩ := ih
      refine ⟨group :: before, after, by simp [hlength], ?_⟩
      rw [List.cons_append, List.cons_append, ← hgroups]

theorem isFirstLongest_longestZeroRun (groups : List Group) :
    IsFirstLongest groups (longestZeroRun groups).1 (longestZeroRun groups).2 := by
  induction groups with
  | nil =>
    intro other size hrun
    obtain ⟨before, after, -, hgroups⟩ := hrun
    have hlength := congrArg List.length hgroups
    simp only [List.length_append, List.length_replicate, List.length_nil] at hlength
    exact ⟨by omega, fun _ => Nat.zero_le _⟩
  | cons group groups ih =>
    intro other size hrun
    obtain ⟨before, after, hother, hgroups⟩ := hrun
    have hhere : before = [] →
        size ≤ ((group :: groups).takeWhile (· == 0)).length := by
      intro hbefore
      rw [hgroups, hbefore]
      exact le_length_takeWhile size after
    have hlater : ∀ first front, before = first :: front → size ≤ (longestZeroRun groups).2 ∧
        (size = (longestZeroRun groups).2 → (longestZeroRun groups).1 + 1 ≤ other) := by
      intro first front hbefore
      subst hbefore
      obtain ⟨-, htail⟩ := List.cons.inj hgroups
      have hrest := ih front.length size ⟨front, after, rfl, htail⟩
      rw [List.length_cons] at hother
      exact ⟨hrest.1, fun heq => by have := hrest.2 heq; omega⟩
    rw [longestZeroRun]
    dsimp only
    split
    · cases before with
      | nil => exact ⟨hhere rfl, fun _ => Nat.zero_le _⟩
      | cons first front =>
        have hrest := hlater first front rfl
        exact ⟨by omega, fun _ => Nat.zero_le _⟩
    · cases before with
      | nil =>
        have hsize := hhere rfl
        exact ⟨by omega, by omega⟩
      | cons first front => exact hlater first front rfl

/-! ### The written form -/

variable {address : Ipv6}

/-- Without two zero groups in a row all groups are written; otherwise the double colon stands for
the first longest run of zero groups, between the two parts of the address around it. -/
theorem render_eq_or_exists_run (address : Ipv6) :
    (∀ start length, IsZeroRun address.groups start length → length < 2) ∧
        address.render = Group.renderAll address.groups ∨
      ∃ before length after, 2 ≤ length ∧ IsFirstLongest address.groups before.length length ∧
        address.groups = before ++ List.replicate length 0 ++ after ∧
        address.render =
          Group.renderAll before ++ (utf8 "::" ++ renderTail before.length after) := by
  obtain ⟨before, after, hlength, hgroups⟩ := isZeroRun_longestZeroRun address.groups
  have hfirst := isFirstLongest_longestZeroRun address.groups
  rw [render]
  dsimp only
  split
  · rename_i hrun
    right
    refine ⟨before, (longestZeroRun address.groups).2, after, hrun, hlength ▸ hfirst, hgroups, ?_⟩
    have htake : address.groups.take before.length = before := by
      rw [hgroups, List.append_assoc, List.take_left]
    have hdrop : address.groups.drop (before.length + (longestZeroRun address.groups).2) =
        after := by
      calc _ = (before ++ List.replicate (longestZeroRun address.groups).2 0 ++ after).drop
            (before.length + (longestZeroRun address.groups).2) := by rw [← hgroups]
        _ = after := List.drop_left' (by simp)
    rw [← hlength, htake, hdrop, List.append_assoc]
  · rename_i hshort
    left
    refine ⟨fun start length hrun => ?_, rfl⟩
    have hlongest := (hfirst start length hrun).1
    omega

theorem length_of_run {before after : List Group} {length : Nat}
    (hgroups : address.groups = before ++ List.replicate length 0 ++ after) :
    before.length + length + after.length = 8 := by
  rw [← address.length_groups, hgroups]
  simp [Nat.add_assoc]

theorem length_renderTail_le (start : Nat) (groups : List Group) :
    (renderTail start groups).length ≤ groups.length * 5 + 6 := by
  unfold renderTail
  split
  · rename_i left right
    exact (quadOfGroups left right).length_render_le
  · rename_i left right
    have hquad := (quadOfGroups left right).length_render_le
    have hsplit : (utf8 "ffff:").length = 5 := by decide
    rw [List.length_append, hsplit]
    exact Nat.add_le_add_left hquad 5
  · exact (Group.length_renderAll_le groups).trans (Nat.le_add_right _ 6)

theorem length_render_le (address : Ipv6) : address.render.length ≤ textLimit := by
  rcases render_eq_or_exists_run address with
    ⟨-, hrender⟩ | ⟨before, length, after, hrun, -, hgroups, hrender⟩
  · rw [hrender]
    have hall := Group.length_renderAll_le address.groups
    rw [address.length_groups] at hall
    exact hall.trans (by decide)
  · have hfront := Group.length_renderAll_le before
    have hback := length_renderTail_le before.length after
    have htotal := length_of_run hgroups
    have hcolons : (utf8 "::").length = 2 := by decide
    rw [hrender, List.length_append, List.length_append, hcolons, textLimit]
    omega

/-! ### The bytes of the written form -/

/-- The bytes of a literal: the colon, the dot and the digits of both bases. -/
def isLiteral (b : Byte) : Bool :=
  b == byte ':' || b == byte '.' || (Hexadecimal.readDigit? b).isSome

theorem isLiteral_of_isDotted {b : Byte} (hdotted : Ipv4.isDotted b = true) :
    isLiteral b = true := by
  rcases Bool.or_eq_true _ _ ▸ hdotted with hdot | hdigit
  · simp [isLiteral, hdot]
  · simp [isLiteral, Hexadecimal.readDigit?, hdigit]

theorem isLiteral_of_mem_renderAll {groups : List Group} {b : Byte}
    (hmem : b ∈ Group.renderAll groups) : isLiteral b = true := by
  rcases Bytes.eq_or_mem_of_mem_intercalate hmem with hcolon | hpiece
  · rw [hcolon]
    decide
  · obtain ⟨piece, hpiece, hb⟩ := hpiece
    obtain ⟨group, -, rfl⟩ := List.mem_map.1 hpiece
    simp [isLiteral, Hexadecimal.isSome_readDigit?_of_mem_ofNat hb]

theorem isLiteral_of_mem_renderTail {start : Nat} {groups : List Group} {b : Byte}
    (hmem : b ∈ renderTail start groups) : isLiteral b = true := by
  have hffff : (utf8 "ffff:").all isLiteral = true := by decide
  unfold renderTail at hmem
  split at hmem
  · exact isLiteral_of_isDotted (Ipv4.isDotted_of_mem_render hmem)
  · rcases List.mem_append.1 hmem with hfront | hquad
    · exact List.all_eq_true.1 hffff b hfront
    · exact isLiteral_of_isDotted (Ipv4.isDotted_of_mem_render hquad)
  · exact isLiteral_of_mem_renderAll hmem

theorem isLiteral_of_mem_render {b : Byte} (hmem : b ∈ address.render) : isLiteral b = true := by
  have hcolons : (utf8 "::").all isLiteral = true := by decide
  rcases render_eq_or_exists_run address with
    ⟨-, hrender⟩ | ⟨before, length, after, -, -, -, hrender⟩
  · rw [hrender] at hmem
    exact isLiteral_of_mem_renderAll hmem
  · rw [hrender] at hmem
    rcases List.mem_append.1 hmem with hfront | hrest
    · exact isLiteral_of_mem_renderAll hfront
    rcases List.mem_append.1 hrest with hcolon | hback
    · exact List.all_eq_true.1 hcolons b hcolon
    · exact isLiteral_of_mem_renderTail hback

theorem not_mem_render {b : Byte} (hb : isLiteral b = false) (address : Ipv6) :
    b ∉ address.render := by
  intro hmem
  have hliteral := isLiteral_of_mem_render hmem
  rw [hb] at hliteral
  cases hliteral

theorem colon_mem_render (address : Ipv6) : byte ':' ∈ address.render := by
  rcases render_eq_or_exists_run address with
    ⟨-, hrender⟩ | ⟨before, length, after, -, -, -, hrender⟩
  · obtain ⟨groups, hlength⟩ := address
    rw [hrender]
    match groups, hlength with
    | first :: second :: groups, _ => exact Bytes.mem_intercalate_cons_cons _ _ _
  · have hcolon : byte ':' ∈ utf8 "::" := by decide
    rw [hrender]
    exact List.mem_append_right _ (List.mem_append_left _ hcolon)

/-! ### Reading it back -/

theorem cut?_renderAll_append (groups : List Group) (text : Bytes) :
    Bytes.cut? (Group.renderAll groups ++ text) (utf8 "::") =
      (text.cut? (utf8 "::")).map fun (before, after) =>
        (Group.renderAll groups ++ before, after) := by
  have hcolons : utf8 "::" = [byte ':', byte ':'] := by decide
  rw [hcolons]
  exact Bytes.cut?_double_intercalate_append (Group.forall_pieces groups) text

theorem ofGroups?_groups (address : Ipv6) : ofGroups? address.groups = some address := by
  rw [ofGroups?, dif_pos address.length_groups]

theorem readText?_render (address : Ipv6) : readText? address.render = some address := by
  rcases render_eq_or_exists_run address with
    ⟨-, hrender⟩ | ⟨before, length, after, hrun, -, hgroups, hrender⟩
  · have hcut : address.render.cut? (utf8 "::") = none := by
      have happend := cut?_renderAll_append address.groups []
      rwa [List.append_nil, ← hrender] at happend
    rw [readText?, hcut]
    dsimp only
    rw [hrender, readSide?_renderAll, Option.bind_some, ofGroups?_groups]
  · have hcolons : utf8 "::" = [byte ':', byte ':'] := by decide
    have hcut : address.render.cut? (utf8 "::") =
        some (Group.renderAll before, renderTail before.length after) := by
      rw [hrender, cut?_renderAll_append, hcolons, Bytes.cut?_double_append_self]
      simp
    have htotal := length_of_run hgroups
    have hfill : 8 - (before.length + after.length) = length := by omega
    rw [readText?, hcut]
    dsimp only
    rw [readSide?_renderAll, readSide?_renderTail]
    dsimp only
    rw [if_pos (by omega), hfill, ← hgroups, ofGroups?_groups]

theorem untilNul_render (address : Ipv6) : address.render.untilNul = address.render :=
  Bytes.untilNul_eq_self (not_mem_render (by decide) address)

theorem read?_render (address : Ipv6) : read? address.render = some address := by
  rw [read?, if_pos (length_render_le address), untilNul_render, readText?_render]

end Ipv6

end RouteMonitor
