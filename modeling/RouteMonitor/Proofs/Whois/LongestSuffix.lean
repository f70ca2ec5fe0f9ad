import Mathlib.Data.List.DropRight
import RouteMonitor.Whois.Registry

/-!
# The server of the longest suffix

A name is looked up in lower case and without the dots that end it. What matches it is said here on
the name alone: the name as a whole, or what follows one of its dots, as long as that is not empty.
The look-up visits exactly these suffixes, from longer to shorter, so it answers with the entry of
the longest one that has an entry, and the entry of the empty suffix answers only where none has.
-/

namespace RouteMonitor.Whois.Registry

/-! ### Names without trailing dots -/

/-- The name in lower case, without the dots that end it. -/
structure IsNormalForm (name normal : Bytes) : Prop where
  dots : ∃ count, name.toLower = normal ++ List.replicate count (byte '.')
  last : normal.getLast? ≠ some (byte '.')

variable {registry : Registry} {name suffix : Bytes} {server : Server}

theorem rdropWhile_append_dots (text : Bytes) (count : Nat) :
    List.rdropWhile (· = byte '.') (text ++ List.replicate count (byte '.')) =
      List.rdropWhile (· = byte '.') text := by
  induction count with
  | zero => simp
  | succ count ih =>
    rw [List.replicate_succ', ← List.append_assoc, List.rdropWhile_concat_pos _ _ _ (by simp), ih]

theorem normalizeName_append_dots (name : Bytes) (count : Nat) :
    normalizeName (name ++ List.replicate count (byte '.')) = normalizeName name := by
  have hdot : Byte.toLower (byte '.') = byte '.' := by decide
  have hlower : Bytes.toLower (name ++ List.replicate count (byte '.')) =
      name.toLower ++ List.replicate count (byte '.') := by
    simp [Bytes.toLower, hdot]
  calc normalizeName (name ++ List.replicate count (byte '.'))
      = List.rdropWhile (· = byte '.') (name.toLower ++ List.replicate count (byte '.')) := by
        rw [← hlower]
        rfl
    _ = List.rdropWhile (· = byte '.') name.toLower := rdropWhile_append_dots name.toLower count
    _ = normalizeName name := rfl

theorem isNormalForm_normalizeName (name : Bytes) : IsNormalForm name (normalizeName name) := by
  have hall : ∀ b ∈ List.rtakeWhile (· = byte '.') name.toLower, b = byte '.' :=
    fun b hb => by simpa using List.mem_rtakeWhile_imp hb
  have hsplit : normalizeName name ++ List.rtakeWhile (· = byte '.') name.toLower = name.toLower :=
    List.rdropWhile_append_rtakeWhile
  rw [List.eq_replicate_of_mem hall] at hsplit
  refine ⟨⟨_, hsplit.symm⟩, fun hlast => ?_⟩
  obtain ⟨hne, hdot⟩ := List.mem_getLast?_eq_getLast hlast
  exact List.rdropWhile_last_not (· = byte '.') name.toLower hne (decide_eq_true hdot.symm)

theorem IsNormalForm.eq_normalizeName {normal : Bytes} (hnormal : IsNormalForm name normal) :
    normal = normalizeName name := by
  obtain ⟨count, hdots⟩ := hnormal.dots
  have hself : List.rdropWhile (· = byte '.') normal = normal := by
    rw [List.rdropWhile_eq_self_iff]
    intro hne hdot
    exact hnormal.last (by rw [List.getLast?_eq_some_getLast hne, of_decide_eq_true hdot])
  calc normal = List.rdropWhile (· = byte '.') normal := hself.symm
    _ = List.rdropWhile (· = byte '.') name.toLower := by rw [hdots, rdropWhile_append_dots]
    _ = normalizeName name := rfl

/-! ### Suffixes that start at a label -/

/-- The whole name or what follows one of its dots, unless it is empty. -/
def IsLabelSuffix (name suffix : Bytes) : Prop :=
  suffix ≠ [] ∧ (suffix = name ∨ byte '.' :: suffix <:+ name)

theorem mem_afterDots_iff : suffix ∈ afterDots name ↔ byte '.' :: suffix <:+ name := by
  induction name with
  | nil => simp [afterDots]
  | cons b rest ih =>
    rw [afterDots, List.suffix_cons_iff]
    split
    · rename_i hdot
      rw [List.mem_cons, ih, hdot]
      simp
    · rename_i hother
      rw [ih]
      simp [Ne.symm hother]

theorem mem_labelSuffixes_iff : suffix ∈ labelSuffixes name ↔ IsLabelSuffix name suffix := by
  rw [labelSuffixes, List.mem_filter, List.mem_cons, mem_afterDots_iff, IsLabelSuffix, and_comm,
    decide_eq_true_iff]

theorem length_lt_of_mem_afterDots (hmem : suffix ∈ afterDots name) :
    suffix.length < name.length := by
  have hlength := (mem_afterDots_iff.1 hmem).length_le
  rw [List.length_cons] at hlength
  omega

theorem pairwise_afterDots (name : Bytes) :
    (afterDots name).Pairwise fun left right => right.length < left.length := by
  induction name with
  | nil => exact .nil
  | cons b rest ih =>
    rw [afterDots]
    split
    · exact .cons (fun suffix hmem => length_lt_of_mem_afterDots hmem) ih
    · exact ih

/-- The suffixes of a name are visited from longer to shorter. -/
theorem pairwise_labelSuffixes (name : Bytes) :
    (labelSuffixes name).Pairwise fun left right => right.length < left.length :=
  .filter _ (.cons (fun _ hmem => length_lt_of_mem_afterDots hmem) (pairwise_afterDots name))

/-! ### What the look-up answers -/

/-- The longest suffix of the name that has an entry, and this entry. -/
structure IsLongestEntry (registry : Registry) (name suffix : Bytes) (server : Server) :
    Prop where
  isLabelSuffix : IsLabelSuffix name suffix
  entry : registry.servers.get? suffix = some server
  longest : ∀ other, IsLabelSuffix name other → registry.servers.contains other = true →
    other.length ≤ suffix.length

/-- No suffix of the name has an entry. -/
def IsUnmatched (registry : Registry) (name : Bytes) : Prop :=
  ∀ suffix, IsLabelSuffix name suffix → registry.servers.get? suffix = none

theorem findSome?_labelSuffixes_eq_some_iff :
    (labelSuffixes name).findSome? registry.servers.get? = some server ↔
      ∃ suffix, registry.IsLongestEntry name suffix server := by
  have hsorted := pairwise_labelSuffixes name
  constructor
  · intro hfound
    obtain ⟨before, suffix, after, hsplit, hentry, hbefore⟩ := List.findSome?_eq_some_iff.1 hfound
    rw [hsplit, List.pairwise_append, List.pairwise_cons] at hsorted
    obtain ⟨-, ⟨hafter, -⟩, -⟩ := hsorted
    have hmem : suffix ∈ labelSuffixes name := by simp [hsplit]
    refine ⟨suffix, mem_labelSuffixes_iff.1 hmem, hentry, fun other hother hcontains => ?_⟩
    rw [← mem_labelSuffixes_iff, hsplit, List.mem_append, List.mem_cons] at hother
    rcases hother with hearlier | rfl | hlater
    · rw [Table.contains, hbefore other hearlier] at hcontains
      cases hcontains
    · exact le_rfl
    · exact Nat.le_of_lt (hafter other hlater)
  · intro hlongest
    obtain ⟨suffix, hsuffix, hentry, hlongest⟩ := hlongest
    obtain ⟨before, after, hsplit⟩ := List.append_of_mem (mem_labelSuffixes_iff.2 hsuffix)
    rw [hsplit, List.pairwise_append] at hsorted
    obtain ⟨-, -, hbefore⟩ := hsorted
    refine List.findSome?_eq_some_iff.2 ⟨before, suffix, after, hsplit, hentry, ?_⟩
    intro other hother
    -- An entry of a suffix visited earlier would belong to a longer suffix.
    have hlonger := hbefore other hother suffix List.mem_cons_self
    cases hother' : registry.servers.get? other with
    | none => rfl
    | some found =>
      have hmem : other ∈ labelSuffixes name := by simp [hsplit, hother]
      have hle := hlongest other (mem_labelSuffixes_iff.1 hmem) (by simp [Table.contains, hother'])
      omega

theorem findSome?_labelSuffixes_eq_none_iff :
    (labelSuffixes name).findSome? registry.servers.get? = none ↔ registry.IsUnmatched name := by
  simp only [List.findSome?_eq_none_iff, mem_labelSuffixes_iff, IsUnmatched]

theorem serverFor?_eq_some_iff :
    registry.serverFor? name = some server ↔
      (∃ suffix, registry.IsLongestEntry (normalizeName name) suffix server) ∨
        registry.IsUnmatched (normalizeName name) ∧ registry.servers.get? [] = some server := by
  rw [serverFor?, Option.or_eq_some_iff, findSome?_labelSuffixes_eq_some_iff,
    findSome?_labelSuffixes_eq_none_iff, defaultServer?]

theorem serverFor?_eq_none_iff :
    registry.serverFor? name = none ↔
      registry.IsUnmatched (normalizeName name) ∧ registry.servers.get? [] = none := by
  rw [serverFor?, Option.or_eq_none_iff, findSome?_labelSuffixes_eq_none_iff, defaultServer?]

theorem normalizeName_of_dots (hdots : ∀ b ∈ name, b = byte '.') : normalizeName name = [] := by
  have hname : name = [] ++ List.replicate name.length (byte '.') := by
    rw [List.nil_append]
    exact List.eq_replicate_of_mem hdots
  rw [hname, normalizeName_append_dots]
  rfl

theorem isUnmatched_nil (registry : Registry) : registry.IsUnmatched [] := by
  intro suffix hsuffix
  obtain ⟨hne, rfl | hdot⟩ := hsuffix
  · exact absurd rfl hne
  · exact absurd (List.suffix_nil.1 hdot) (by simp)

/-- The look-up of a name answers with the entry of the longest suffix of its normal form, or, if no
suffix has an entry, with that of the empty suffix, which alone answers for a name made of dots. -/
theorem serverFor?_answers_longest_suffix (registry : Registry) (name : Bytes) :
    ∃ normal, IsNormalForm name normal ∧ (∀ other, IsNormalForm name other → other = normal) ∧
      (∀ server, registry.serverFor? name = some server ↔
        (∃ suffix, registry.IsLongestEntry normal suffix server) ∨
          registry.IsUnmatched normal ∧ registry.servers.get? [] = some server) ∧
      (registry.serverFor? name = none ↔
        registry.IsUnmatched normal ∧ registry.servers.get? [] = none) ∧
      ((∀ b ∈ name, b = byte '.') → registry.serverFor? name = registry.servers.get? []) := by
  refine ⟨normalizeName name, isNormalForm_normalizeName name,
    fun other hother => hother.eq_normalizeName, fun server => serverFor?_eq_some_iff,
    serverFor?_eq_none_iff, fun hdots => ?_⟩
  have hnone : (labelSuffixes []).findSome? registry.servers.get? = none :=
    findSome?_labelSuffixes_eq_none_iff.2 registry.isUnmatched_nil
  rw [serverFor?, normalizeName_of_dots hdots, hnone, Option.none_or, defaultServer?]

/-- Neither case nor trailing dots keep a name from the longer of its two suffixes, and dots alone
leave the default. -/
theorem longer_suffix_wins :
    let longer : Server := ⟨utf8 "whois.example.net", 4343, Server.defaultQuery⟩
    let shorter : Server := ⟨utf8 "whois.verisign-grs.com", 43, Server.defaultQuery⟩
    let registry : Registry := ⟨.ofList [([], shorter), (utf8 "com", shorter),
      (utf8 "example.com", longer)]⟩
    (∃ suffix, registry.IsLongestEntry (utf8 "www..example.com") suffix longer) ∧
      registry.serverFor? (utf8 "..") = some shorter := by
  intro longer shorter registry
  obtain ⟨normal, -, hunique, hsome, -⟩ :=
    serverFor?_answers_longest_suffix registry (utf8 "WWW..Example.com..")
  obtain ⟨-, -, -, -, -, hdots⟩ := serverFor?_answers_longest_suffix registry (utf8 "..")
  have hnormal := hunique (utf8 "www..example.com") ⟨⟨2, by decide⟩, by decide⟩
  have hunmatched : ¬registry.IsUnmatched normal := by
    intro hnone
    have hcom := hnone (utf8 "com") (hnormal ▸ ⟨by decide, .inr (by decide)⟩)
    exact absurd hcom (by decide)
  have hname : utf8 ".." = [byte '.', byte '.'] := by decide
  refine ⟨?_, (hdots (by simp [hname])).trans (by decide)⟩
  rw [hnormal]
  exact ((hsome longer).1 (by decide)).resolve_right fun hdefault => hunmatched hdefault.1

end RouteMonitor.Whois.Registry
