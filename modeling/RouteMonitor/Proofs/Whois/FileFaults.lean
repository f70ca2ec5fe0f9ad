import RouteMonitor.Proofs.Whois.Spellings

/-!
# Which registry files are refused

A registry file is refused because it cannot be opened or because of its document, and a document is
refused in the words of the reader of JSON, because it is no object, or for its first entry that is
none. What the message says is stated on the file alone, so the message can be checked against it.
-/

namespace RouteMonitor.Whois.Registry

/-- What a message says of a document that gives no registry. -/
inductive DocumentRefused (reader : Json.Reader) (document : Bytes) : Bytes → Prop
  | notJson {details : Bytes} : reader document = .error details →
    DocumentRefused reader document (utf8 "JSON parse error: " ++ details)
  | notObject {json : Json} : reader document = .ok json → (∀ members, json ≠ .object members) →
    DocumentRefused reader document (utf8 "JSON root must be an object")
  | entry {members : List (Bytes × Json)} {name words : Bytes} {json : Json} {fault : EntryFault} :
    reader document = .ok (.object members) →
    IsFirstInvalid (Table.ofList members).toList name json → Server.Refused json fault →
    Server.Says fault words →
    DocumentRefused reader document (utf8 "entry '" ++ name ++ utf8 "': " ++ words)

/-- What a message says of a file that gives no registry. -/
inductive FileRefused (reader : Json.Reader) (files : Files) (path : Bytes) : Bytes → Prop
  | unopened : files path = none →
    FileRefused reader files path (utf8 "cannot open '" ++ path ++ utf8 "'")
  | unusable {document words : Bytes} : files path = some document →
    DocumentRefused reader document words →
    FileRefused reader files path (path ++ utf8 ": " ++ words)

variable {reader : Json.Reader} {files : Files} {document path : Bytes}

theorem exists_object_of_members? {json : Json} {members : Table Json}
    (hobject : json.members? = some members) :
    ∃ entries, json = .object entries ∧ .ofList entries = members := by
  cases json with
  | object entries => exact ⟨entries, rfl, Option.some.inj hobject⟩
  | null | bool value | number text | string text | array items => cases hobject

theorem read_eq_notObject {json : Json} (hjson : reader document = .ok json)
    (hobject : json.members? = none) : read reader document = .error .notObject := by
  rw [read, hjson]
  simp only [ofJson, hobject]

theorem documentRefused_of_read {fault : Fault} (hread : read reader document = .error fault) :
    DocumentRefused reader document fault.message := by
  cases hjson : reader document with
  | error details =>
    rw [read, hjson] at hread
    obtain rfl := Except.error.inj hread
    exact .notJson hjson
  | ok json =>
    cases hobject : json.members? with
    | none =>
      rw [read_eq_notObject hjson hobject] at hread
      obtain rfl := Except.error.inj hread
      refine .notObject hjson fun members hmembers => ?_
      rw [hmembers] at hobject
      cases hobject
    | some members =>
      obtain ⟨entries, rfl, rfl⟩ := exists_object_of_members? hobject
      rw [read_eq_ofMembers hjson hobject] at hread
      obtain ⟨name, json, reason, hfirst, hrefused, rfl⟩ := ofMembers_eq_error_iff.1 hread
      rw [message_entry]
      exact .entry hjson hfirst hrefused (Server.says_iff.2 rfl)

theorem exists_fault_of_documentRefused {words : Bytes}
    (hrefused : DocumentRefused reader document words) :
    ∃ fault, read reader document = .error fault ∧ fault.message = words := by
  cases hrefused with
  | @notJson details hjson => exact ⟨.notJson details, by rw [read, hjson], rfl⟩
  | @notObject json hjson hobject =>
    refine ⟨.notObject, read_eq_notObject hjson ?_, rfl⟩
    cases hmembers : json.members? with
    | none => rfl
    | some members =>
      obtain ⟨entries, hentries, -⟩ := exists_object_of_members? hmembers
      exact absurd hentries (hobject entries)
  | @entry members name words json reason hjson hfirst hentry hsays =>
    refine ⟨.entry name reason, ?_, by rw [message_entry, Server.says_iff.1 hsays]⟩
    rw [read_eq_ofMembers hjson rfl]
    exact ofMembers_eq_error_iff.2 ⟨name, json, reason, hfirst, hentry, rfl⟩

/-- A registry file is refused exactly as the messages say. -/
theorem exists_ofFile_eq_error_iff {words : Bytes} :
    (∃ fault, ofFile reader files path = .error fault ∧ fault.message = words) ↔
      FileRefused reader files path words := by
  constructor
  · rintro ⟨fault, hfile, rfl⟩
    rw [ofFile] at hfile
    split at hfile
    · rename_i hunopened
      obtain rfl := Except.error.inj hfile
      exact .unopened hunopened
    · rename_i document hdocument
      cases hread : read reader document with
      | ok registry => simp [hread, Except.mapError] at hfile
      | error fault =>
        rw [hread] at hfile
        obtain rfl := Except.error.inj hfile
        exact .unusable hdocument (documentRefused_of_read hread)
  · intro hrefused
    cases hrefused with
    | unopened hunopened => exact ⟨.unopened path, by rw [ofFile, hunopened], rfl⟩
    | unusable hdocument hwords =>
      obtain ⟨fault, hread, rfl⟩ := exists_fault_of_documentRefused hwords
      refine ⟨.unusable path fault, ?_, rfl⟩
      simp only [ofFile, hdocument, hread]
      rfl

end RouteMonitor.Whois.Registry
