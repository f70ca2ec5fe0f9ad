import RouteMonitor.Log

/-!
# Levels as filters

A level is known by its name, and it shows every severity from the least that it shows upwards. So
what a level shows of the records that a more verbose one shows is what it shows of all of them.
-/

namespace RouteMonitor

namespace Level

/-- The order of the levels by how much they show, with `off` as the last. -/
def IsAtLeastAsVerboseAs : Level → Level → Prop
  | .showing least, .showing otherLeast => least.rank ≤ otherLeast.rank
  | .off, .showing _ => False
  | _, .off => True

variable {level other : Level} {severity greater : Severity}

theorem shows_of_rank_le (hshows : level.shows severity = true)
    (hrank : severity.rank ≤ greater.rank) : level.shows greater = true := by
  cases level with
  | showing least =>
    rw [shows, decide_eq_true_iff] at hshows ⊢
    exact Nat.le_trans hshows hrank
  | off => exact hshows

/-- A level shows what the quieter ones show. -/
theorem IsAtLeastAsVerboseAs.shows (hverbose : level.IsAtLeastAsVerboseAs other)
    (hshows : other.shows severity = true) : level.shows severity = true := by
  cases other with
  | off => cases hshows
  | showing otherLeast =>
    cases level with
    | off => exact hverbose.elim
    | showing least =>
      rw [Level.shows, decide_eq_true_iff] at hshows ⊢
      exact Nat.le_trans hverbose hshows

theorem mem_all (level : Level) : level ∈ all := by
  cases level with
  | showing least => cases least <;> decide
  | off => decide

theorem ofName?_name (level : Level) : ofName? level.name = some level := by
  cases level with
  | showing least => cases least <;> rfl
  | off => rfl

theorem ofName?_eq_none_iff {name : Bytes} :
    ofName? name = none ↔ ∀ level : Level, name ≠ level.name := by
  rw [ofName?, List.find?_eq_none]
  simp [mem_all, eq_comm]

theorem filter_eq_self {records : List Record}
    (hshows : ∀ record ∈ records, level.shows record.severity = true) :
    level.filter records = records :=
  List.filter_eq_self.2 hshows

theorem filter_filter_of_verbose (hverbose : level.IsAtLeastAsVerboseAs other)
    (records : List Record) : other.filter (level.filter records) = other.filter records := by
  rw [filter, filter, filter, List.filter_filter]
  apply List.filter_congr
  intro record _
  cases hshows : other.shows record.severity with
  | false => rw [Bool.false_and]
  | true => rw [hverbose.shows hshows, Bool.and_self]

end Level

end RouteMonitor
