import RouteMonitor.Proofs.Settings.Rejection

/-!
# Which lines leave a trace

Reading writes one trace for each line that stores an entry, in the order of the lines, down to the
first bad line. Which lines these are is stated on the lines alone: the traces of a text are those
of a list of stored lines, sorted by number, that holds every stored line above the first bad one.

The induction adds lines at the end. A reader that comes back reflects the lines it has read, so the
next line is stored or bad as those say; where reading has already failed, a bad line stands above,
and nothing below it is stored.
-/

namespace RouteMonitor.Settings.Ini

/-- The line of a number, counted from zero, is bad. -/
def IsBadAt (lines : List Bytes) (number : Nat) : Prop :=
  ∃ line, lines[number]? = some line ∧ IsBad (lines.take number) (Bytes.trim line)

structure Stored where
  number : Nat
  sectionName : Bytes
  key : Bytes
  entry : Entry

def Stored.trace (origin : Bytes) (stored : Stored) : Record :=
  ⟨.trace, Reader.traceText origin stored.sectionName stored.key stored.entry⟩

/-- In order, the lines that store an entry and have no bad line at or above them. -/
structure AreStored (lines : List Bytes) (stored : List Stored) : Prop where
  sorted : stored.Pairwise fun first second => first.number < second.number
  mem_iff : ∀ one : Stored, one ∈ stored ↔
    StoresAt lines one.number one.sectionName one.key one.entry ∧
      ∀ number ≤ one.number, ¬IsBadAt lines number

variable {lines : List Bytes} {line name key : Bytes} {entry : Entry} {reader : Reader}
variable {stored : List Stored} {origin : Bytes}

/-! ### One more line -/

theorem isBadAt_append_iff {number : Nat} :
    IsBadAt (lines ++ [line]) number ↔
      IsBadAt lines number ∨ number = lines.length ∧ IsBad lines line.trim :=
  @exists_getElem?_append_iff lines line (fun above text => IsBad above (Bytes.trim text)) number

theorem IsBadAt.lt_length {number : Nat} (hbad : IsBadAt lines number) : number < lines.length := by
  obtain ⟨line, hline, -⟩ := hbad
  exact (List.getElem?_eq_some_iff.1 hline).1

theorem areStored_nil : AreStored [] [] where
  sorted := .nil
  mem_iff one := by simp [StoresAt]

/-- A line that stores nothing, or has a bad line at or above it, adds nothing. -/
theorem AreStored.append_other (hstored : AreStored lines stored)
    (hother : ∀ name key entry, IsEntry line.trim key entry → OpenSection lines name →
      ∃ number ≤ lines.length, IsBadAt (lines ++ [line]) number) :
    AreStored (lines ++ [line]) stored where
  sorted := hstored.sorted
  mem_iff one := by
    rw [hstored.mem_iff]
    constructor
    · intro hone
      obtain ⟨hstores, hgood⟩ := hone
      refine ⟨storesAt_append_iff.2 (.inl hstores), fun number hnumber hbad => ?_⟩
      have hlength := hstores.lt_length
      rcases isBadAt_append_iff.1 hbad with hbad | ⟨heq, -⟩
      · exact hgood number hnumber hbad
      · omega
    · intro hone
      obtain ⟨hstores, hgood⟩ := hone
      rcases storesAt_append_iff.1 hstores with hstores | ⟨hlast, hentry, hopen⟩
      · exact ⟨hstores, fun number hnumber hbad =>
          hgood number hnumber (isBadAt_append_iff.2 (.inl hbad))⟩
      · obtain ⟨number, hnumber, hbad⟩ := hother _ _ _ hentry hopen
        exact absurd hbad (hgood number (hlast ▸ hnumber))

theorem isBad_of_isEntry (hentry : IsEntry line.trim key entry)
    (hread : ∀ key entry, Line.read line.trim ≠ .store key entry) : IsBad lines line.trim := by
  refine isBad_iff.2 (.inr (.inl ?_))
  by_cases hkey : key = []
  · rw [hentry.read_eq, if_pos hkey]
  · exact absurd (Line.read_eq_store_iff.2 ⟨hentry, hkey⟩) (hread key entry)

/-- A line that stores an entry below good lines is the next stored one. -/
theorem AreStored.append_stored (hstored : AreStored lines stored)
    (hreflects : Reflects lines reader) (hcurrent : reader.current = some name)
    (hentry : IsEntry line.trim key entry)
    (hgood : ∀ number, ¬IsBadAt (lines ++ [line]) number) :
    AreStored (lines ++ [line]) (stored ++ [⟨lines.length, name, key, entry⟩]) where
  sorted := by
    refine List.pairwise_append.2 ⟨hstored.sorted, List.pairwise_singleton _ _, ?_⟩
    intro earlier hearlier last hlast
    rw [List.mem_singleton.1 hlast]
    exact ((hstored.mem_iff earlier).1 hearlier).1.lt_length
  mem_iff one := by
    have hgoodAbove : ∀ number, ¬IsBadAt lines number := fun number hbad =>
      hgood number (isBadAt_append_iff.2 (.inl hbad))
    rw [List.mem_append, List.mem_singleton, hstored.mem_iff, storesAt_append_iff,
      and_iff_left fun number _ => hgoodAbove number, and_iff_left fun number _ => hgood number]
    refine or_congr_right ⟨fun hone => ?_, fun hone => ?_⟩
    · rw [hone]
      exact ⟨rfl, hentry, (hreflects.current name).1 hcurrent⟩
    · obtain ⟨number, sectionName, otherKey, otherEntry⟩ := one
      obtain ⟨hnumber, hother, hopen⟩ := hone
      obtain ⟨rfl, rfl⟩ := hentry.unique hother
      have hsection := hcurrent.symm.trans ((hreflects.current sectionName).2 hopen)
      obtain rfl := Option.some.inj hsection
      rw [show number = lines.length from hnumber]

/-- A reader below good lines traces the next line exactly if it stores it. -/
theorem AreStored.step (hstored : AreStored lines stored) (hreflects : Reflects lines reader)
    (hgood : ∀ number, ¬IsBadAt lines number) (origin : Bytes) (number : Nat) (line : Bytes) :
    ∃ added, AreStored (lines ++ [line]) (stored ++ added) ∧
      (reader.step origin number line.trim).run.records = added.map (Stored.trace origin) := by
  by_cases hread : ∃ key entry, Line.read line.trim = .store key entry
  · obtain ⟨key, entry, hread⟩ := hread
    obtain ⟨hentry, -⟩ := Line.read_eq_store_iff.1 hread
    rw [Reader.step, hread]
    cases hcurrent : reader.current with
    | none =>
      refine ⟨[], ?_, rfl⟩
      rw [List.append_nil]
      refine hstored.append_other fun name _ _ _ hopen => ?_
      rw [(hreflects.current name).2 hopen] at hcurrent
      cases hcurrent
    | some name =>
      have hline : ¬IsBad lines line.trim := by
        simp [isBad_iff, hread, ← hreflects.current_eq_none_iff, hcurrent]
      refine ⟨[⟨lines.length, name, key, entry⟩], ?_, rfl⟩
      refine hstored.append_stored hreflects hcurrent hentry fun number hbad => ?_
      exact (isBadAt_append_iff.1 hbad).elim (hgood number) fun hlast => hline hlast.2
  · have hread : ∀ key entry, Line.read line.trim ≠ .store key entry := by simpa using hread
    refine ⟨[], ?_, ?_⟩
    · rw [List.append_nil]
      refine hstored.append_other fun _ _ _ hentry _ => ⟨lines.length, Nat.le_refl _, ?_⟩
      exact isBadAt_append_iff.2 (.inr ⟨rfl, isBad_of_isEntry hentry hread⟩)
    · rw [Reader.step]
      split
      · rfl
      · rfl
      · rfl
      · rfl
      · rename_i hstore
        exact absurd hstore (hread _ _)

/-! ### All lines -/

theorem run_append_singleton (origin : Bytes) (lines : List Bytes) (line : Bytes) :
    Reader.run origin 1 (lines ++ [line]) .initial =
      Reader.run origin 1 lines .initial >>=
        Reader.step origin (1 + lines.length) line.trim := by
  rw [Reader.run_append]
  refine congrArg _ (funext fun reader => ?_)
  rw [Reader.run]
  exact bind_pure _

theorem Reflects.step_accepts_iff (hreflects : Reflects lines reader) {number : Nat}
    {text : Bytes} :
    (∃ next, (reader.step origin number text).result = .ok next) ↔ ¬IsBad lines text := by
  cases hstep : (reader.step origin number text).result with
  | error error => simpa using (hreflects.step_result_eq_error_iff.1 hstep).1
  | ok next =>
    have hgood : ¬IsBad lines text := fun hbad => by
      have herror : (reader.step origin number text).result = .error _ :=
        hreflects.step_result_eq_error_iff.2 ⟨hbad, rfl⟩
      rw [hstep] at herror
      cases herror
    simpa using hgood

/-- Reading comes back exactly if no line is bad. -/
theorem run_result_eq_ok_iff_good :
    (∃ reader, (Reader.run origin 1 lines .initial).result = .ok reader) ↔
      ∀ number, ¬IsBadAt lines number := by
  induction lines using List.reverseRecOn with
  | nil => simp [Reader.run, IsBadAt]
  | append_singleton lines line ih =>
    rw [run_append_singleton]
    simp only [isBadAt_append_iff, not_or, forall_and]
    rw [← ih]
    cases hrun : (Reader.run origin 1 lines .initial).result with
    | error error => simp [LoadM.result_bind_of_error hrun]
    | ok reader =>
      have hreflects : Reflects lines reader := by simpa using reflects_initial.run hrun
      rw [LoadM.result_bind_of_ok hrun, hreflects.step_accepts_iff]
      simp

theorem run_records (origin : Bytes) (lines : List Bytes) :
    ∃ stored, AreStored lines stored ∧
      (Reader.run origin 1 lines .initial).run.records = stored.map (Stored.trace origin) := by
  induction lines using List.reverseRecOn with
  | nil => exact ⟨[], areStored_nil, rfl⟩
  | append_singleton lines line ih =>
    obtain ⟨stored, hstored, hrecords⟩ := ih
    rw [run_append_singleton]
    cases hrun : (Reader.run origin 1 lines .initial).result with
    | error error =>
      have hbad : ∃ number, IsBadAt lines number := by
        by_contra hnone
        obtain ⟨reader, hreader⟩ := run_result_eq_ok_iff_good.2 (not_exists.1 hnone)
        rw [hrun] at hreader
        cases hreader
      obtain ⟨number, hbad⟩ := hbad
      refine ⟨stored, hstored.append_other fun _ _ _ _ _ => ⟨number, ?_, ?_⟩, ?_⟩
      · exact Nat.le_of_lt hbad.lt_length
      · exact isBadAt_append_iff.2 (.inl hbad)
      · rw [LoadM.records_bind_of_error hrun, hrecords]
    | ok reader =>
      have hreflects : Reflects lines reader := by simpa using reflects_initial.run hrun
      obtain ⟨added, hadded, hstep⟩ := hstored.step hreflects
        (run_result_eq_ok_iff_good.1 ⟨reader, hrun⟩) origin (1 + lines.length) line
      refine ⟨stored ++ added, hadded, ?_⟩
      rw [LoadM.records_bind_of_ok hrun, hrecords, hstep, List.map_append]

/-- The traces of a text are those of the lines that it stores. -/
theorem read_records (origin text : Bytes) :
    ∃ stored, AreStored text.lines stored ∧
      (read origin text).run.records = stored.map (Stored.trace origin) := by
  obtain ⟨stored, hstored, hrecords⟩ := run_records origin text.lines
  refine ⟨stored, hstored, ?_⟩
  rw [read, ← hrecords]
  cases hrun : (Reader.run origin 1 text.lines .initial).result with
  | error error => exact LoadM.records_bind_of_error hrun _
  | ok reader => exact (LoadM.records_bind_of_ok hrun _).trans (List.append_nil _)

/-- Reading writes traces to the log and nothing else. -/
theorem read_writesOnly_trace (origin text : Bytes) : (read origin text).WritesOnly .trace := by
  intro record hrecord
  obtain ⟨stored, -, hrecords⟩ := read_records origin text
  rw [hrecords] at hrecord
  obtain ⟨_, -, rfl⟩ := List.mem_map.1 hrecord
  rfl

end RouteMonitor.Settings.Ini
