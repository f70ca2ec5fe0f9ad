import RouteMonitor.Proofs.Whois.EntryFaults

/-!
# The member behind an entry

A registry is made from the members of an object in byte order of their names, and stores each under
its name in lower case. So the members that fold to one suffix compete, and the one with the
greatest name stands: each later insertion overrides the earlier ones. Capitals come before small
letters, which is why the spelling without capitals always stands. One bad member spoils the whole
registry, and of several the first in byte order is reported.
-/

namespace RouteMonitor

namespace Bytes

/-- No name comes after the one that it folds to. -/
theorem le_toLower (text : Bytes) : text ≤ text.toLower := by
  induction text with
  | nil => exact List.nil_le _
  | cons b rest ih =>
    have hbyte : ∀ b : Byte, b < b.toLower ∨ b = b.toLower :=
      Byte.forall_of_codes (by decide +kernel)
    show b :: rest ≤ b.toLower :: Bytes.toLower rest
    rw [List.cons_le_cons_iff]
    exact (hbyte b).imp_right fun heq => ⟨heq, ih⟩

end Bytes

namespace Whois

theorem Server.Describes.unique {json : Json} {left right : Server}
    (hleft : Describes json left) (hright : Describes json right) : left = right :=
  Except.ok.inj ((ofJson_eq_ok_iff.2 hleft).symm.trans (ofJson_eq_ok_iff.2 hright))

namespace Registry

/-- Of the members whose names fold to the suffix, the one with the greatest name. -/
structure IsGreatestSpelling (members : List (Bytes × Json)) (suffix name : Bytes) (json : Json) :
    Prop where
  member : (name, json) ∈ members
  folds : name.toLower = suffix
  greatest : ∀ other ∈ members, other.1.toLower = suffix → other.1 ≤ name

/-- Of the members that describe no server, the one with the least name. -/
structure IsFirstInvalid (members : List (Bytes × Json)) (name : Bytes) (json : Json) : Prop where
  member : (name, json) ∈ members
  invalid : ¬∃ server, Server.Describes json server
  first : ∀ other ∈ members, other.1 < name → ∃ server, Server.Describes other.2 server

/-- The table holds what the members visited so far have left in it. -/
structure Collects (members : List (Bytes × Json)) (servers : Table Server) : Prop where
  suffixes : ∀ suffix, servers.contains suffix = true ↔
    ∃ member ∈ members, member.1.toLower = suffix
  entries : ∀ suffix server, servers.get? suffix = some server ↔
    ∃ name json, IsGreatestSpelling members suffix name json ∧ Server.Describes json server

variable {members rest : List (Bytes × Json)} {servers : Table Server} {suffix name : Bytes}
  {json : Json} {server : Server}

/-! ### Visiting the members -/

theorem collects_nil : Collects [] .empty where
  suffixes suffix := by simp [Table.contains]
  entries suffix server := by
    refine ⟨fun hget => absurd hget (by simp), fun hgreatest => ?_⟩
    obtain ⟨name, json, hspelling, -⟩ := hgreatest
    exact absurd hspelling.member List.not_mem_nil

/-- A member with a greater name than all before is the greatest spelling of its own suffix. -/
theorem isGreatestSpelling_append_self (hgreater : ∀ member ∈ members, member.1 < name)
    {found : Bytes} {foundJson : Json} :
    IsGreatestSpelling (members ++ [(name, json)]) name.toLower found foundJson ↔
      found = name ∧ foundJson = json := by
  constructor
  · intro hspelling
    rcases List.mem_append.1 hspelling.member with hearlier | hlast
    · have hle := hspelling.greatest (name, json) (by simp) rfl
      exact absurd (hgreater _ hearlier) (List.not_lt.2 hle)
    · exact Prod.mk.inj (List.mem_singleton.1 hlast)
  · intro hsame
    obtain ⟨rfl, rfl⟩ := hsame
    refine ⟨by simp, rfl, fun other hother _ => ?_⟩
    rcases List.mem_append.1 hother with hearlier | hlast
    · exact List.le_of_lt (hgreater other hearlier)
    · rw [List.mem_singleton.1 hlast]
      exact List.le_refl _

/-- A member that folds to another suffix leaves the greatest spelling of this one. -/
theorem isGreatestSpelling_append_other (hsuffix : name.toLower ≠ suffix) {found : Bytes}
    {foundJson : Json} :
    IsGreatestSpelling (members ++ [(name, json)]) suffix found foundJson ↔
      IsGreatestSpelling members suffix found foundJson := by
  constructor
  · intro hspelling
    refine ⟨?_, hspelling.folds, fun other hother =>
      hspelling.greatest other (List.mem_append_left _ hother)⟩
    refine (List.mem_append.1 hspelling.member).resolve_right fun hlast => ?_
    obtain ⟨rfl, -⟩ := Prod.mk.inj (List.mem_singleton.1 hlast)
    exact hsuffix hspelling.folds
  · intro hspelling
    refine ⟨List.mem_append_left _ hspelling.member, hspelling.folds, fun other hother hfolds => ?_⟩
    rcases List.mem_append.1 hother with hearlier | hlast
    · exact hspelling.greatest other hearlier hfolds
    · rw [List.mem_singleton.1 hlast] at hfolds
      exact absurd hfolds hsuffix

theorem Collects.insert (hcollects : Collects members servers)
    (hgreater : ∀ member ∈ members, member.1 < name) (hserver : Server.Describes json server) :
    Collects (members ++ [(name, json)]) (servers.insert name.toLower server) where
  suffixes suffix := by
    have hearlier := hcollects.suffixes suffix
    rw [Table.contains] at hearlier ⊢
    rw [Table.get?_insert]
    by_cases hsuffix : suffix = name.toLower
    · simp [hsuffix]
    · simp [hsuffix, hearlier, Ne.symm hsuffix]
  entries suffix found := by
    rw [Table.get?_insert]
    by_cases hsuffix : suffix = name.toLower
    · subst hsuffix
      simp only [if_true, isGreatestSpelling_append_self hgreater]
      constructor
      · intro hfound
        obtain rfl := Option.some.inj hfound
        exact ⟨name, json, ⟨rfl, rfl⟩, hserver⟩
      · intro hfound
        obtain ⟨_, _, ⟨rfl, rfl⟩, hdescribes⟩ := hfound
        rw [hserver.unique hdescribes]
    · rw [if_neg hsuffix, hcollects.entries]
      simp only [isGreatestSpelling_append_other (Ne.symm hsuffix)]

theorem Collects.foldl_insert {entries : List (Bytes × Server)}
    (hcollects : Collects members servers)
    (hsorted : (members ++ rest).Pairwise fun left right => left.1 < right.1)
    (hentries : List.Forall₂ (fun member entry => readEntry member.1 member.2 = .ok entry)
      rest entries) :
    Collects (members ++ rest)
      (entries.foldl (fun table entry => table.insert entry.1 entry.2) servers) := by
  induction hentries generalizing members servers with
  | nil => rwa [List.append_nil]
  | @cons member entry rest entries hread _ ih =>
    obtain ⟨hname, hserver⟩ := readEntry_eq_ok_iff.1 hread
    have hgreater : ∀ earlier ∈ members, earlier.1 < member.1 := fun earlier hearlier =>
      (List.pairwise_append.1 hsorted).2.2 earlier hearlier member List.mem_cons_self
    rw [List.append_cons] at hsorted ⊢
    rw [List.foldl_cons, hname]
    exact ih (hcollects.insert hgreater (Server.ofJson_eq_ok_iff.1 hserver)) hsorted

/-! ### The registry of an object -/

theorem exists_readEntry_eq_ok_iff :
    (∃ entry, readEntry name json = .ok entry) ↔ ∃ server, Server.Describes json server := by
  simp only [readEntry_eq_ok_iff, Server.ofJson_eq_ok_iff]
  constructor
  · intro hentry
    obtain ⟨entry, -, hdescribes⟩ := hentry
    exact ⟨entry.2, hdescribes⟩
  · intro hserver
    obtain ⟨server, hdescribes⟩ := hserver
    exact ⟨(name.toLower, server), rfl, hdescribes⟩

theorem readEntry_eq_error_iff {fault : Fault} :
    readEntry name json = .error fault ↔
      ∃ reason, Server.ofJson json = .error reason ∧ fault = .entry name reason := by
  rw [readEntry]
  cases Server.ofJson json with
  | ok server => simp
  | error reason => simp [eq_comm]

theorem collects_of_ofMembers {members : Table Json} {registry : Registry}
    (hread : ofMembers members = .ok registry) : Collects members.toList registry.servers := by
  obtain ⟨entries, hentries, rfl⟩ := ofMembers_eq_ok_iff.1 hread
  exact collects_nil.foldl_insert members.sorted (mapM_eq_ok_iff.1 hentries)

theorem exists_ofMembers_eq_ok_iff {members : Table Json} :
    (∃ registry, ofMembers members = .ok registry) ↔
      ∀ member ∈ members.toList, ∃ server, Server.Describes member.2 server := by
  have hmapM : (∃ entries, members.toList.mapM (fun member => readEntry member.1 member.2) =
      .ok entries) ↔ ∀ member ∈ members.toList, ∃ server, Server.Describes member.2 server := by
    rw [exists_mapM_eq_ok_iff]
    simp only [exists_readEntry_eq_ok_iff]
  rw [← hmapM]
  simp [ofMembers_eq_ok_iff]

theorem ofMembers_eq_error_iff {members : Table Json} {fault : Fault} :
    ofMembers members = .error fault ↔
      ∃ name json reason, IsFirstInvalid members.toList name json ∧
        Server.Refused json reason ∧ fault = .entry name reason := by
  have hmapM : ofMembers members = .error fault ↔
      members.toList.mapM (fun member => readEntry member.1 member.2) = .error fault := by
    rw [ofMembers_eq_map]
    cases members.toList.mapM fun member => readEntry member.1 member.2 <;> simp [Except.map]
  rw [hmapM, mapM_eq_error_iff]
  have hsorted := members.sorted
  constructor
  · intro hfails
    obtain ⟨before, ⟨name, json⟩, after, hsplit, hbefore, hfault⟩ := hfails
    obtain ⟨reason, hreason, rfl⟩ := readEntry_eq_error_iff.1 hfault
    refine ⟨name, json, reason, ⟨by simp [hsplit], ?_, fun other hother hless => ?_⟩,
      Server.ofJson_eq_error_iff.1 hreason, rfl⟩
    · intro hserver
      obtain ⟨server, hdescribes⟩ := hserver
      rw [Server.ofJson_eq_ok_iff.2 hdescribes] at hreason
      cases hreason
    · rw [hsplit] at hother hsorted
      rcases List.mem_append.1 hother with hearlier | hlater
      · exact exists_readEntry_eq_ok_iff.1 (hbefore other hearlier)
      · have hnot : name ≤ other.1 := by
          rcases List.mem_cons.1 hlater with rfl | hlater
          · exact List.le_refl _
          · have hafter := (List.pairwise_append.1 hsorted).2.1
            exact List.le_of_lt ((List.pairwise_cons.1 hafter).1 other hlater)
        exact absurd hless (List.not_lt.2 hnot)
  · intro hfirst
    obtain ⟨name, json, reason, hinvalid, hreason, rfl⟩ := hfirst
    obtain ⟨before, after, hsplit⟩ := List.append_of_mem hinvalid.member
    rw [hsplit] at hsorted
    refine ⟨before, (name, json), after, hsplit, fun earlier hearlier => ?_,
      readEntry_eq_error_iff.2 ⟨reason, Server.ofJson_eq_error_iff.2 hreason, rfl⟩⟩
    have hless := (List.pairwise_append.1 hsorted).2.2 earlier hearlier _ List.mem_cons_self
    exact exists_readEntry_eq_ok_iff.2
      (hinvalid.first earlier (by simp [hsplit, hearlier]) hless)

/-- The spelling of a suffix that is in lower case comes after every other. -/
theorem isGreatestSpelling_of_lower {members : Table Json} (hlower : suffix.toLower = suffix)
    (hmember : members.get? suffix = some json) :
    IsGreatestSpelling members.toList suffix suffix json := by
  refine ⟨Table.get?_eq_some_iff.1 hmember, hlower, fun other _ hfolds => ?_⟩
  rw [← hfolds]
  exact Bytes.le_toLower other.1

theorem read_eq_ofMembers {reader : Json.Reader} {text : Bytes} {members : Table Json}
    (hjson : reader text = .ok json) (hobject : json.members? = some members) :
    read reader text = ofMembers members := by
  rw [read, hjson]
  show ofJson json = _
  rw [ofJson, hobject]

theorem message_entry (name : Bytes) (reason : EntryFault) :
    (Fault.entry name reason).message =
      utf8 "entry '" ++ name ++ utf8 "': " ++ reason.message := by
  rw [Fault.message, quoted]
  simp only [List.append_assoc]
  rfl

/-- Whatever reads the documents: an object gives a registry exactly if each of its members
describes a server; otherwise the error is that of the first member that does not, and its message
names the member and the reason. The suffixes are the folded names, and the entry of each is that of
the greatest name that folds to it, hence of the name in lower case, if there is one. -/
theorem read_takes_greatest_spellings {reader : Json.Reader} {text : Bytes} {json : Json}
    {members : Table Json} (hjson : reader text = .ok json)
    (hobject : json.members? = some members) :
    ((∃ registry, read reader text = .ok registry) ↔
        ∀ member ∈ members.toList, ∃ server, Server.Describes member.2 server) ∧
      (∀ fault, read reader text = .error fault ↔
        ∃ name json reason, IsFirstInvalid members.toList name json ∧
          Server.Refused json reason ∧ fault = .entry name reason) ∧
      (∀ fault, read reader text = .error fault →
        ∃ name json reason words, IsFirstInvalid members.toList name json ∧
          Server.Refused json reason ∧ Server.Says reason words ∧
          fault.message = utf8 "entry '" ++ name ++ utf8 "': " ++ words) ∧
      ∀ registry, read reader text = .ok registry →
        (∀ suffix, registry.servers.contains suffix = true ↔
          ∃ member ∈ members.toList, member.1.toLower = suffix) ∧
        (∀ suffix server, registry.servers.get? suffix = some server ↔
          ∃ name json, IsGreatestSpelling members.toList suffix name json ∧
            Server.Describes json server) ∧
        ∀ suffix json, suffix.toLower = suffix → members.get? suffix = some json →
          ∃ server, registry.servers.get? suffix = some server ∧
            Server.Describes json server := by
  rw [read_eq_ofMembers hjson hobject]
  refine ⟨exists_ofMembers_eq_ok_iff, fun fault => ofMembers_eq_error_iff, fun fault hfails => ?_,
    fun registry hread => ?_⟩
  · obtain ⟨name, json, reason, hfirst, hrefused, rfl⟩ := ofMembers_eq_error_iff.1 hfails
    exact ⟨name, json, reason, reason.message, hfirst, hrefused, Server.says_iff.2 rfl,
      message_entry name reason⟩
  · have hcollects := collects_of_ofMembers hread
    refine ⟨hcollects.suffixes, hcollects.entries, fun suffix json hlower hmember => ?_⟩
    have hspelling := isGreatestSpelling_of_lower hlower hmember
    obtain ⟨server, hdescribes⟩ :=
      exists_ofMembers_eq_ok_iff.1 ⟨registry, hread⟩ _ hspelling.member
    exact ⟨server, (hcollects.entries suffix server).2 ⟨suffix, json, hspelling, hdescribes⟩,
      hdescribes⟩

/-- Two spellings of one suffix: the one in lower case stands, though it comes first in the text. -/
theorem lower_case_spelling_stands :
    let text := utf8 "\x7b\"a\":\"y:9\",\"A\":\"x\"\x7d"
    let reader : Json.Reader := fun _ =>
      .ok (.object [(utf8 "a", .string (utf8 "y:9")), (utf8 "A", .string (utf8 "x"))])
    ∃ registry, read reader text = .ok registry ∧
      registry.servers.get? (utf8 "a") = some ⟨utf8 "y", 9, utf8 "$addr\r\n"⟩ ∧
      ∀ suffix, registry.servers.contains suffix = true ↔ suffix = utf8 "a" := by
  intro text reader
  have hjson : reader text =
      .ok (.object [(utf8 "a", .string (utf8 "y:9")), (utf8 "A", .string (utf8 "x"))]) := rfl
  have hmembers : Table.toList (.ofList [(utf8 "a", Json.string (utf8 "y:9")),
      (utf8 "A", .string (utf8 "x"))]) =
        [(utf8 "A", .string (utf8 "x")), (utf8 "a", .string (utf8 "y:9"))] := by rfl
  obtain ⟨hvalid, -, -, hread⟩ := read_takes_greatest_spellings hjson rfl
  rw [hmembers] at hvalid hread
  have hcapital : Server.Describes (.string (utf8 "x")) ⟨utf8 "x", 43, utf8 "$addr\r\n"⟩ :=
    Server.ofJson_eq_ok_iff.1 (by rfl)
  have hsmall : Server.Describes (.string (utf8 "y:9")) ⟨utf8 "y", 9, utf8 "$addr\r\n"⟩ :=
    Server.ofJson_eq_ok_iff.1 (by rfl)
  obtain ⟨registry, hregistry⟩ := hvalid.2
    (List.forall_mem_cons.2 ⟨⟨_, hcapital⟩, List.forall_mem_singleton.2 ⟨_, hsmall⟩⟩)
  obtain ⟨hsuffixes, -, hlower⟩ := hread registry hregistry
  obtain ⟨server, hget, hdescribes⟩ := hlower (utf8 "a") _ (by decide) (by rfl)
  refine ⟨registry, hregistry, ?_, fun suffix => ?_⟩
  · rw [hget, hdescribes.unique hsmall]
  · have hfolds : Bytes.toLower (utf8 "A") = utf8 "a" ∧ Bytes.toLower (utf8 "a") = utf8 "a" := by
      decide
    rw [hsuffixes suffix]
    simp [hfolds, eq_comm]

end Registry

end Whois

end RouteMonitor
