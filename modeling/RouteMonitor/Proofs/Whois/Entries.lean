import Mathlib.Data.List.Forall2
import RouteMonitor.Proofs.Whois.ServerText
import RouteMonitor.Whois.Registry

/-!
# What a registry holds

Each entry of a registry that was read comes from a member of its document: the suffix is the name
of the member in lower case, and the server is what the member describes, so it can be asked.
-/

namespace RouteMonitor

/-! ### Entries of a table made from a list -/

namespace Table

variable {α : Type}

theorem mem_foldl_insert {entries : List (Bytes × α)} {table : Table α} {entry : Bytes × α}
    (hmem : entry ∈
      (entries.foldl (fun table entry => table.insert entry.1 entry.2) table).toList) :
    entry ∈ entries ∨ entry ∈ table.toList := by
  induction entries generalizing table with
  | nil => exact .inr hmem
  | cons head entries ih =>
    rcases ih hmem with hentries | htable
    · exact .inl (List.mem_cons_of_mem _ hentries)
    · rcases mem_insertEntry htable with rfl | htable
      · exact .inl List.mem_cons_self
      · exact .inr htable

theorem mem_of_mem_ofList {entries : List (Bytes × α)} {entry : Bytes × α}
    (hmem : entry ∈ (ofList entries).toList) : entry ∈ entries :=
  (mem_foldl_insert hmem).resolve_right List.not_mem_nil

end Table

/-! ### Checked traversals -/

section Traversal

variable {α β ε : Type} {check : α → Except ε β} {items : List α} {checked : List β}

theorem mapM_eq_ok_iff :
    items.mapM check = .ok checked ↔
      List.Forall₂ (fun item found => check item = .ok found) items checked := by
  induction items generalizing checked with
  | nil => simp [pure, Except.pure, eq_comm]
  | cons head items ih =>
    rw [List.mapM_cons, List.forall₂_cons_left_iff]
    cases hhead : check head with
    | error fault => simp [bind, Except.bind]
    | ok first =>
      simp only [← ih]
      cases hrest : items.mapM check with
      | error fault => simp [bind, Except.bind]
      | ok rest => simp [bind, Except.bind, pure, Except.pure, eq_comm]

/-- A checked traversal fails at the first item that fails its check. -/
theorem mapM_eq_error_iff {fault : ε} :
    items.mapM check = .error fault ↔ ∃ before item after, items = before ++ item :: after ∧
      (∀ earlier ∈ before, ∃ found, check earlier = .ok found) ∧ check item = .error fault := by
  induction items with
  | nil => simp [pure, Except.pure]
  | cons head items ih =>
    rw [List.mapM_cons]
    constructor
    · intro hfails
      cases hhead : check head with
      | error other =>
        rw [hhead] at hfails
        obtain rfl := Except.error.inj hfails
        exact ⟨[], head, items, rfl, by simp, hhead⟩
      | ok first =>
        cases hrest : items.mapM check with
        | error other =>
          rw [hhead, hrest] at hfails
          obtain rfl := Except.error.inj hfails
          obtain ⟨before, item, after, rfl, hbefore, hitem⟩ := ih.1 hrest
          exact ⟨head :: before, item, after, rfl,
            List.forall_mem_cons.2 ⟨⟨first, hhead⟩, hbefore⟩, hitem⟩
        | ok rest =>
          rw [hhead, hrest] at hfails
          cases hfails
    · intro hfails
      obtain ⟨before, item, after, hitems, hbefore, hitem⟩ := hfails
      cases before with
      | nil =>
        obtain ⟨rfl, rfl⟩ := List.cons.inj hitems
        rw [hitem]
        rfl
      | cons first before =>
        obtain ⟨rfl, rfl⟩ := List.cons.inj hitems
        obtain ⟨⟨found, hfound⟩, hbefore⟩ := List.forall_mem_cons.1 hbefore
        rw [hfound, ih.2 ⟨before, item, after, rfl, hbefore, hitem⟩]
        rfl

theorem exists_mapM_eq_ok_iff :
    (∃ checked, items.mapM check = .ok checked) ↔
      ∀ item ∈ items, ∃ found, check item = .ok found := by
  constructor
  · intro hok
    obtain ⟨checked, hchecked⟩ := hok
    have hall := mapM_eq_ok_iff.1 hchecked
    clear hchecked
    induction hall with
    | nil => simp
    | @cons head first items rest hhead _ ih => exact List.forall_mem_cons.2 ⟨⟨first, hhead⟩, ih⟩
  · intro hall
    cases hmapM : items.mapM check with
    | ok checked => exact ⟨checked, rfl⟩
    | error fault =>
      obtain ⟨before, item, after, hitems, -, hitem⟩ := mapM_eq_error_iff.1 hmapM
      obtain ⟨found, hfound⟩ := hall item (by simp [hitems])
      rw [hitem] at hfound
      cases hfound

/-- Each item that a checked traversal gives comes from one that it was given. -/
theorem exists_of_mem_mapM (hcheck : items.mapM check = .ok checked) {found : β}
    (hfound : found ∈ checked) : ∃ item ∈ items, check item = .ok found := by
  have hall := mapM_eq_ok_iff.1 hcheck
  clear hcheck
  induction hall with
  | nil => exact absurd hfound List.not_mem_nil
  | @cons head first items rest hhead _ ih =>
    rcases List.mem_cons.1 hfound with rfl | hfound
    · exact ⟨head, List.mem_cons_self, hhead⟩
    · obtain ⟨item, hitem, hfound⟩ := ih hfound
      exact ⟨item, List.mem_cons_of_mem _ hitem, hfound⟩

end Traversal

namespace Whois

/-! ### Registries -/

namespace Registry

variable {reader : Json.Reader} {registry : Registry} {suffix : Bytes} {server : Server}

theorem readEntry_eq_ok_iff {name : Bytes} {json : Json} {entry : Bytes × Server} :
    readEntry name json = .ok entry ↔
      entry.1 = name.toLower ∧ Server.ofJson json = .ok entry.2 := by
  rw [readEntry]
  cases Server.ofJson json with
  | ok server => simp [Prod.ext_iff, eq_comm]
  | error fault => simp

theorem ofMembers_eq_map (members : Table Json) :
    ofMembers members =
      (members.toList.mapM fun member => readEntry member.1 member.2).map
        fun entries => ⟨.ofList entries⟩ := by
  have hopened : ofMembers members =
      (members.toList.mapM fun member => readEntry member.1 member.2).bind
        fun entries => .ok ⟨.ofList entries⟩ := rfl
  rw [hopened]
  cases members.toList.mapM fun member => readEntry member.1 member.2 <;> rfl

theorem ofMembers_eq_ok_iff {members : Table Json} :
    ofMembers members = .ok registry ↔
      ∃ entries, members.toList.mapM (fun member => readEntry member.1 member.2) = .ok entries ∧
        registry = ⟨.ofList entries⟩ := by
  rw [ofMembers_eq_map]
  cases members.toList.mapM fun member => readEntry member.1 member.2 with
  | error fault => simp [Except.map]
  | ok entries => simp [Except.map, eq_comm]

/-- The member from which an entry comes. -/
theorem exists_member_of_ofMembers {members : Table Json} (hread : ofMembers members = .ok registry)
    (hentry : (suffix, server) ∈ registry.servers.toList) :
    ∃ name json, (name, json) ∈ members.toList ∧ suffix = name.toLower ∧
      Server.ofJson json = .ok server := by
  obtain ⟨entries, hentries, rfl⟩ := ofMembers_eq_ok_iff.1 hread
  obtain ⟨⟨name, json⟩, hmember, hread⟩ :=
    exists_of_mem_mapM hentries (Table.mem_of_mem_ofList hentry)
  obtain ⟨hsuffix, hserver⟩ := readEntry_eq_ok_iff.1 hread
  exact ⟨name, json, hmember, hsuffix, hserver⟩

theorem exists_members_of_read {text : Bytes} (hread : read reader text = .ok registry) :
    ∃ members, ofMembers members = .ok registry := by
  rw [read] at hread
  split at hread
  · rename_i json _
    rw [ofJson] at hread
    split at hread
    · rename_i members _
      exact ⟨members, hread⟩
    · cases hread
  · cases hread

theorem exists_text_of_ofFile {files : Files} {path : Bytes}
    (hread : ofFile reader files path = .ok registry) :
    ∃ text, files path = some text ∧ read reader text = .ok registry := by
  rw [ofFile] at hread
  split at hread
  · cases hread
  · rename_i text htext
    cases hregistry : read reader text with
    | error fault => simp [hregistry, Except.mapError] at hread
    | ok other =>
      rw [hregistry] at hread
      obtain rfl := Except.ok.inj hread
      exact ⟨text, htext, hregistry⟩

/-- The value behind an entry of a registry that was read, and the name of its member. -/
theorem exists_describes_of_read {text : Bytes} (hread : read reader text = .ok registry)
    (hentry : (suffix, server) ∈ registry.servers.toList) :
    ∃ (name : Bytes) (json : Json), suffix = name.toLower ∧ Server.Describes json server := by
  obtain ⟨members, hmembers⟩ := exists_members_of_read hread
  obtain ⟨name, json, -, hsuffix, hjson⟩ := exists_member_of_ofMembers hmembers hentry
  exact ⟨name, json, hsuffix, Server.ofJson_eq_ok_iff.1 hjson⟩

/-- Every entry of a registry that was read is a server that can be asked, under a suffix in lower
case. -/
theorem isReachable_of_read {text : Bytes} (hread : read reader text = .ok registry)
    (hentry : (suffix, server) ∈ registry.servers.toList) :
    server.IsReachable ∧ suffix.toLower = suffix := by
  obtain ⟨name, json, rfl, hdescribes⟩ := exists_describes_of_read hread hentry
  exact ⟨hdescribes.isReachable, Bytes.toLower_toLower name⟩

end Registry

end Whois

end RouteMonitor
