import RouteMonitor.Proofs.Whois.Entries
import RouteMonitor.Proofs.Whois.LongestSuffix

/-!
# Which entries answer

A registry stores its suffixes in lower case and with the dots that end them, while a name is looked
up without such dots. So the stored suffixes and the names that are looked up do not have the same
normal form, and the last byte of a suffix decides what becomes of its entry. An entry whose suffix
ends in another byte, or is empty, answers for its own suffix. An entry whose suffix ends in a dot
answers for no name at all, for every suffix that is looked up ends as its name does: whichever
server stands there, all answers stay the same. What is asked for under such a suffix gets the
answer of the suffix without its last dots.
-/

namespace RouteMonitor.Whois.Registry

def EndsInDot (suffix : Bytes) : Prop := suffix.getLast? = some (byte '.')

instance (suffix : Bytes) : Decidable (EndsInDot suffix) :=
  inferInstanceAs (Decidable (suffix.getLast? = some (byte '.')))

/-- The registry with another server under a suffix. -/
def withServer (registry : Registry) (suffix : Bytes) (server : Server) : Registry :=
  ⟨registry.servers.insert suffix server⟩

/-- Some name is answered with the server under the suffix, whichever stands there. -/
def IsConsulted (registry : Registry) (suffix : Bytes) : Prop :=
  ∃ name, ∀ server, (registry.withServer suffix server).serverFor? name = some server

variable {left right registry : Registry} {name suffix : Bytes} {server : Server}

theorem get?_withServer (registry : Registry) (suffix asked : Bytes) (server : Server) :
    (registry.withServer suffix server).servers.get? asked =
      if asked = suffix then some server else registry.servers.get? asked :=
  Table.get?_insert registry.servers suffix server asked

/-! ### A suffix in normal form -/

theorem normalizeName_eq_self (hlower : suffix.toLower = suffix) (hlast : ¬EndsInDot suffix) :
    normalizeName suffix = suffix := by
  have hnormal : IsNormalForm suffix suffix := ⟨⟨0, by simp [hlower]⟩, hlast⟩
  exact hnormal.eq_normalizeName.symm

/-- A name in normal form is its own longest suffix. -/
theorem serverFor?_of_normal (hnormal : normalizeName suffix = suffix)
    (hentry : registry.servers.get? suffix = some server) :
    registry.serverFor? suffix = some server := by
  rw [serverFor?_eq_some_iff, hnormal]
  by_cases hempty : suffix = []
  · rw [hempty] at hentry ⊢
    exact .inr ⟨registry.isUnmatched_nil, hentry⟩
  · refine .inl ⟨suffix, ⟨hempty, .inl rfl⟩, hentry, fun shorter hshorter _ => ?_⟩
    rcases hshorter.2 with rfl | hdot
    · exact le_rfl
    · exact Nat.le_of_succ_le hdot.length_le

theorem isConsulted_of_normal (hnormal : normalizeName suffix = suffix) :
    registry.IsConsulted suffix := by
  refine ⟨suffix, fun server => serverFor?_of_normal hnormal ?_⟩
  rw [get?_withServer, if_pos rfl]

/-! ### A suffix that ends in a dot -/

/-- Every suffix of a name ends as the name does. -/
theorem IsLabelSuffix.getLast?_eq (hsuffix : IsLabelSuffix name suffix) :
    suffix.getLast? = name.getLast? := by
  obtain ⟨hne, rfl | hdot⟩ := hsuffix
  · rfl
  · obtain ⟨front, rfl⟩ := hdot
    rw [List.append_cons, List.getLast?_append_of_ne_nil _ hne]

/-- The look-up asks for the suffixes of the normal form and for the empty one. -/
theorem serverFor?_congr
    (hsuffixes : ∀ suffix, IsLabelSuffix (normalizeName name) suffix →
      left.servers.get? suffix = right.servers.get? suffix)
    (hempty : left.servers.get? [] = right.servers.get? []) :
    left.serverFor? name = right.serverFor? name := by
  have hsame : ∀ suffix ∈ labelSuffixes (normalizeName name),
      left.servers.get? suffix = right.servers.get? suffix :=
    fun suffix hmem => hsuffixes suffix (mem_labelSuffixes_iff.1 hmem)
  rw [serverFor?, serverFor?, defaultServer?, defaultServer?, hempty, ← List.head?_filterMap,
    ← List.head?_filterMap, List.filterMap_congr hsame]

theorem serverFor?_withServer (hdot : EndsInDot suffix) (server : Server) (name : Bytes) :
    (registry.withServer suffix server).serverFor? name = registry.serverFor? name := by
  apply serverFor?_congr
  · intro asked hasked
    have hne : asked ≠ suffix := by
      rintro rfl
      have hlast := (isNormalForm_normalizeName name).last
      rw [← hasked.getLast?_eq] at hlast
      exact hlast hdot
    rw [get?_withServer, if_neg hne]
  · have hne : [] ≠ suffix := by
      rintro rfl
      cases hdot
    rw [get?_withServer, if_neg hne]

theorem serverFor?_append_dots (name : Bytes) (count : Nat) :
    registry.serverFor? (name ++ List.replicate count (byte '.')) = registry.serverFor? name := by
  rw [serverFor?, serverFor?, normalizeName_append_dots]

/-- In every registry that was read, an entry answers for its own suffix unless a dot ends the
suffix; and an entry under a suffix that ends in a dot has no part in any answer, not even for its
own suffix, which is answered as it would be without the dots. -/
theorem entries_answer_unless_a_dot_ends_them {reader : Json.Reader} {text : Bytes}
    {registry : Registry} (hread : read reader text = .ok registry) :
    ∀ suffix server, registry.servers.get? suffix = some server →
      (¬EndsInDot suffix →
        registry.serverFor? suffix = some server ∧ registry.IsConsulted suffix) ∧
      (EndsInDot suffix → ¬registry.IsConsulted suffix ∧
        (∀ name other,
          (registry.withServer suffix other).serverFor? name = registry.serverFor? name) ∧
        ∀ stem count, suffix = stem ++ List.replicate count (byte '.') →
          registry.serverFor? suffix = registry.serverFor? stem) := by
  intro suffix server hentry
  obtain ⟨-, hlower⟩ := isReachable_of_read hread (Table.get?_eq_some_iff.1 hentry)
  refine ⟨fun hlast => ?_, fun hdot => ⟨fun hconsulted => ?_, fun name other =>
    serverFor?_withServer hdot other name, fun stem count hsuffix => ?_⟩⟩
  · have hnormal := normalizeName_eq_self hlower hlast
    exact ⟨serverFor?_of_normal hnormal hentry, isConsulted_of_normal hnormal⟩
  · obtain ⟨name, hanswer⟩ := hconsulted
    -- One name cannot be answered with every server that might stand there.
    have hsame : ∀ other, registry.serverFor? name = some other := fun other =>
      (serverFor?_withServer hdot other name).symm.trans (hanswer other)
    have hfirst := hsame { server with query := [] }
    rw [hsame { server with query := [0] }] at hfirst
    simp at hfirst
  · rw [hsuffix, serverFor?_append_dots]

/-- The entry of `net` answers; what stands under `com.` does not matter even for `com.`, which is
answered as `com` is. -/
theorem only_the_suffix_without_final_dot_answers :
    let text := utf8 "\x7b\"com.\":\"x\",\"net\":\"y:9\"\x7d"
    let reader : Json.Reader := fun _ =>
      .ok (.object [(utf8 "com.", .string (utf8 "x")), (utf8 "net", .string (utf8 "y:9"))])
    ∃ registry, read reader text = .ok registry ∧
      registry.serverFor? (utf8 "net") = some ⟨utf8 "y", 9, utf8 "$addr\r\n"⟩ ∧
      (∀ other, (registry.withServer (utf8 "com.") other).serverFor? (utf8 "com.") =
        registry.serverFor? (utf8 "com.")) ∧
      registry.serverFor? (utf8 "com.") = registry.serverFor? (utf8 "com") := by
  intro text reader
  have hread : read reader text = .ok ⟨.ofList [(utf8 "com.", ⟨utf8 "x", 43, utf8 "$addr\r\n"⟩),
      (utf8 "net", ⟨utf8 "y", 9, utf8 "$addr\r\n"⟩)]⟩ := by
    rfl
  have hentries := entries_answer_unless_a_dot_ends_them hread
  obtain ⟨hnet, -⟩ := hentries (utf8 "net") _ (by rfl)
  obtain ⟨-, hcom⟩ := hentries (utf8 "com.") _ (by rfl)
  obtain ⟨-, hother, hstem⟩ := hcom (by decide)
  exact ⟨_, hread, (hnet (by decide)).1, hother (utf8 "com."),
    hstem (utf8 "com") 1 (by decide)⟩

/-- A registry may hold an entry that does not answer for its own suffix. -/
theorem not_every_entry_answers :
    let text := utf8 "\x7b\"com.\":\"x\"\x7d"
    let reader : Json.Reader := fun _ => .ok (.object [(utf8 "com.", .string (utf8 "x"))])
    ¬∀ registry suffix server, read reader text = .ok registry →
      registry.servers.get? suffix = some server → registry.serverFor? suffix = some server := by
  intro text reader hanswers
  have hread : read reader text =
      .ok ⟨.ofList [(utf8 "com.", ⟨utf8 "x", 43, utf8 "$addr\r\n"⟩)]⟩ := by
    rfl
  have hcom := hanswers _ (utf8 "com.") _ hread (by rfl)
  rw [show Registry.serverFor? _ _ = none by rfl] at hcom
  cases hcom

end RouteMonitor.Whois.Registry
