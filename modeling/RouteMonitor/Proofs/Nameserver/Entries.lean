import RouteMonitor.Nameserver
import RouteMonitor.Proofs.Address.SocketAddress

/-!
# What a list of name servers yields

The entries of a list are the pieces between its commas, without the blanks around them. An entry
yields one address or is dropped, and which of the two, and which address, shows in the entry alone.
So a list is read as what its entries yield, in their order, with one warning for each of the
others; only where no entry yields does the fallback stand in. Two lists that both yield something
can therefore be joined.
-/

namespace RouteMonitor.Nameserver

/-- The pieces between the commas, without the blanks around them. -/
def entries (text : Bytes) : List Bytes := (text.splitOn (byte ',')).map Bytes.trim

/-- An entry is a socket address, or a host that gets the port of DNS: an IPv4 literal, or an IPv6
literal in brackets. -/
inductive Yields : Bytes → SocketAddress → Prop
  | address {entry : Bytes} {address : SocketAddress} :
    SocketAddress.read? entry = some address → Yields entry address
  | quad {entry : Bytes} {ip : Ipv4} : SocketAddress.read? entry = none →
    Ipv4.read? entry = some ip → Yields entry ⟨.v4 ip, 53⟩
  | bracketed {entry host : Bytes} {ip : IpAddress} : SocketAddress.read? entry = none →
    entry = byte '[' :: (host ++ [byte ']']) → byte ']' ∉ host →
    IpAddress.read? host = some ip → ip.family = .v6 → Yields entry ⟨ip, 53⟩

/-- The record that a dropped entry leaves. -/
def warning (entry : Bytes) : Record := ⟨.warn, utf8 "Invalid DNS: '" ++ entry ++ utf8 "'"⟩

variable {entry : Bytes} {address : SocketAddress}

theorem isNumeral_port : Port.IsNumeral (utf8 "53") 53 :=
  Port.read?_eq_some_iff.1 (by decide)

theorem read?_eq_some_iff : read? entry = some address ↔ Yields entry address := by
  have hport : entry ++ utf8 ":" ++ port.render = entry ++ byte ':' :: utf8 "53" := by
    rw [List.append_assoc, List.append_right_inj]
    decide
  rw [read?]
  cases hread : SocketAddress.read? entry with
  | some stated =>
    constructor
    · intro hsome
      exact .address (hread.trans hsome)
    · intro hyields
      cases hyields with
      | address hsame => exact hread.symm.trans hsame
      | quad hnone => simp [hread] at hnone
      | bracketed hnone => simp [hread] at hnone
  | none =>
    dsimp only
    rw [hport, SocketAddress.read?_append_numeral_iff isNumeral_port]
    constructor
    · rintro (⟨ip, hip, rfl⟩ | ⟨host, hentry, hclosed, hip, hfamily, hfifty⟩)
      · exact .quad hread hip
      · obtain ⟨ip, port⟩ := address
        obtain rfl : port = 53 := hfifty
        exact .bracketed hread hentry hclosed hip hfamily
    · intro hyields
      cases hyields with
      | address hsame => simp [hread] at hsame
      | quad _ hip => exact .inl ⟨_, hip, rfl⟩
      | bracketed _ hentry hclosed hip hfamily =>
        exact .inr ⟨_, hentry, hclosed, hip, hfamily, rfl⟩

theorem readEntries_value (entries : List Bytes) :
    (readEntries entries).value = entries.filterMap read? := by
  induction entries with
  | nil => rfl
  | cons entry entries ih =>
    rw [readEntries]
    cases hread : read? entry with
    | some address =>
      rw [List.filterMap_cons_some hread, ← ih]
      rfl
    | none =>
      rw [List.filterMap_cons_none hread, ← ih]
      rfl

theorem readEntries_records (entries : List Bytes) : (readEntries entries).records =
    (entries.filter fun entry => read? entry = none).map warning := by
  induction entries with
  | nil => rfl
  | cons entry entries ih =>
    rw [readEntries]
    cases hread : read? entry with
    | some address =>
      rw [List.filter_cons_of_neg (by simp [hread]), ← ih]
      exact List.append_nil _
    | none =>
      rw [List.filter_cons_of_pos (by simp [hread]), List.map_cons, ← ih]
      rfl

theorem readList_value (text : Bytes) : (readList text).value =
    if (entries text).filterMap read? = [] then [fallback] else (entries text).filterMap read? := by
  rw [readList, ← entries, Logged.value_bind, Logged.value_pure, readEntries_value]

theorem readList_records (text : Bytes) : (readList text).records =
    ((entries text).filter fun entry => read? entry = none).map warning := by
  rw [readList, ← entries, Logged.records_bind, Logged.records_pure, List.append_nil,
    readEntries_records]

theorem entries_append_comma (left right : Bytes) :
    entries (left ++ byte ',' :: right) = entries left ++ entries right := by
  have hsplit : (left ++ byte ',' :: right).splitOn (byte ',') =
      left.splitOn (byte ',') ++ right.splitOn (byte ',') :=
    List.splitOnP_append_cons left right (beq_self_eq_true (byte ','))
  rw [entries, hsplit, List.map_append]
  rfl

theorem filterMap_read?_ne_nil {text : Bytes}
    (hyields : ∃ entry ∈ entries text, ∃ address, Yields entry address) :
    (entries text).filterMap read? ≠ [] := by
  obtain ⟨entry, hentry, address, hyields⟩ := hyields
  exact List.ne_nil_of_mem (List.mem_filterMap.2 ⟨entry, hentry, read?_eq_some_iff.2 hyields⟩)

theorem readList_append_comma {left right : Bytes}
    (hleft : ∃ entry ∈ entries left, ∃ address, Yields entry address)
    (hright : ∃ entry ∈ entries right, ∃ address, Yields entry address) :
    (readList (left ++ byte ',' :: right)).value =
        (readList left).value ++ (readList right).value ∧
      (readList (left ++ byte ',' :: right)).records =
        (readList left).records ++ (readList right).records := by
  have hboth : (entries left).filterMap read? ++ (entries right).filterMap read? ≠ [] :=
    List.append_ne_nil_of_left_ne_nil (filterMap_read?_ne_nil hleft) _
  constructor
  · simp only [readList_value, entries_append_comma, List.filterMap_append, if_neg hboth,
      if_neg (filterMap_read?_ne_nil hleft), if_neg (filterMap_read?_ne_nil hright)]
  · simp only [readList_records, entries_append_comma, List.filter_append, List.map_append]

/-- A list has one entry more than commas. It is read as what its entries yield, or as the fallback
where none yields, with a warning for each entry that is dropped; and two lists that yield something
are read together as one after the other. -/
theorem readList_keeps_yields_and_warns :
    (∀ entry address, read? entry = some address ↔ Yields entry address) ∧
      (∀ text, (entries text).length = text.count (byte ',') + 1 ∧
        (readList text).value = (if (entries text).filterMap read? = [] then
          [⟨.v4 ⟨1, 1, 1, 1⟩, 53⟩] else (entries text).filterMap read?) ∧
        (readList text).records =
          ((entries text).filter fun entry => read? entry = none).map warning) ∧
      ∀ left right, (∃ entry ∈ entries left, ∃ address, Yields entry address) →
        (∃ entry ∈ entries right, ∃ address, Yields entry address) →
        (readList (left ++ byte ',' :: right)).value =
            (readList left).value ++ (readList right).value ∧
          (readList (left ++ byte ',' :: right)).records =
            (readList left).records ++ (readList right).records := by
  refine ⟨fun entry address => read?_eq_some_iff,
    fun text => ⟨?count, readList_value text, readList_records text⟩,
    fun left right hleft hright => readList_append_comma hleft hright⟩
  rw [entries, List.length_map, Bytes.length_splitOn]

/-- The entries around the comma are kept and dropped as they are alone, the empty one too. -/
theorem joined_lists_are_read_in_order :
    let left := utf8 "192.0.2.1, ::1"
    let right := utf8 " [::1] ,,192.0.2.1:54"
    (∃ entry ∈ entries left, ∃ address, Yields entry address) ∧
      (∃ entry ∈ entries right, ∃ address, Yields entry address) ∧
      (readList (left ++ byte ',' :: right)).value =
        [⟨.v4 ⟨192, 0, 2, 1⟩, 53⟩, ⟨.v6 ⟨[0, 0, 0, 0, 0, 0, 0, 1], rfl⟩, 53⟩,
          ⟨.v4 ⟨192, 0, 2, 1⟩, 54⟩] ∧
      (readList (left ++ byte ',' :: right)).records =
        [⟨.warn, utf8 "Invalid DNS: '::1'"⟩, ⟨.warn, utf8 "Invalid DNS: ''"⟩] := by
  intro left right
  have hleft : ∃ entry ∈ entries left, ∃ address, Yields entry address :=
    ⟨utf8 "192.0.2.1", by decide, ⟨.v4 ⟨192, 0, 2, 1⟩, 53⟩, .quad (by decide) (by decide)⟩
  have hright : ∃ entry ∈ entries right, ∃ address, Yields entry address :=
    ⟨utf8 "192.0.2.1:54", by decide, ⟨.v4 ⟨192, 0, 2, 1⟩, 54⟩, .address (by decide)⟩
  obtain ⟨hvalue, hrecords⟩ := readList_keeps_yields_and_warns.2.2 left right hleft hright
  refine ⟨hleft, hright, ?_, ?_⟩
  · rw [hvalue]
    decide
  · rw [hrecords]
    decide

end RouteMonitor.Nameserver
