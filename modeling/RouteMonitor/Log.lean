import RouteMonitor.Bytes

/-!
# Log records

A computation that logs runs under the level of a logger. Each record it writes is shown or dropped
there and then, as the level says, so the level reaches every part of the computation. `Logged` is
closed under sequencing all the same: a computation comes with the laws that its value is the same
under every level, and that each level shows what it shows of the records of the most verbose run.
-/

namespace RouteMonitor

inductive Severity
  | trace
  | debug
  | info
  | warn
  | error
deriving DecidableEq, Repr

namespace Severity

def rank : Severity → Nat
  | .trace => 0
  | .debug => 1
  | .info => 2
  | .warn => 3
  | .error => 4

def name : Severity → Bytes
  | .trace => utf8 "trace"
  | .debug => utf8 "debug"
  | .info => utf8 "info"
  | .warn => utf8 "warn"
  | .error => utf8 "error"

def all : List Severity := [.trace, .debug, .info, .warn, .error]

end Severity

structure Record where
  severity : Severity
  text : Bytes
deriving DecidableEq, Repr

/-- Which records a logger shows: those of some severity and above, or none. -/
inductive Level
  | showing (least : Severity)
  | off
deriving DecidableEq, Repr

namespace Level

def all : List Level := Severity.all.map showing ++ [off]

def name : Level → Bytes
  | .showing least => least.name
  | .off => utf8 "off"

def ofName? (name : Bytes) : Option Level := all.find? fun level => level.name = name

def shows : Level → Severity → Bool
  | .showing least, severity => least.rank ≤ severity.rank
  | .off, _ => false

def everything : Level := .showing .trace

def filter (level : Level) (records : List Record) : List Record :=
  records.filter fun record => level.shows record.severity

theorem shows_everything (severity : Severity) : everything.shows severity = true :=
  decide_eq_true (Nat.zero_le severity.rank)

theorem filter_append (level : Level) (first second : List Record) :
    level.filter (first ++ second) = level.filter first ++ level.filter second :=
  List.filter_append first second

end Level

/-- How a computation that logs ended under some level, and which records were shown. -/
structure Shown (α : Type) where
  value : α
  records : List Record
deriving DecidableEq

/-- A computation that logs. The level decides what is shown of its records and nothing more. -/
structure Logged (α : Type) where
  under : Level → Shown α
  sameValue : ∀ level, (under level).value = (under .everything).value
  filtered : ∀ level, (under level).records = level.filter (under .everything).records

namespace Logged

variable {α β : Type}

def value (logged : Logged α) : α := (logged.under .everything).value

/-- Every record, of whatever severity. -/
def records (logged : Logged α) : List Record := (logged.under .everything).records

@[simp] theorem value_under (logged : Logged α) (level : Level) :
    (logged.under level).value = logged.value :=
  logged.sameValue level

/-- To emit records under a level is to filter all of them by it. -/
@[simp] theorem records_under (logged : Logged α) (level : Level) :
    (logged.under level).records = level.filter logged.records :=
  logged.filtered level

/-- A computation is its value and its records. -/
theorem ext {first second : Logged α} (hvalue : first.value = second.value)
    (hrecords : first.records = second.records) : first = second := by
  have hunder : first.under = second.under := by
    funext level
    show Shown.mk (first.under level).value (first.under level).records =
      Shown.mk (second.under level).value (second.under level).records
    rw [value_under, value_under, records_under, records_under, hvalue, hrecords]
  cases first
  cases second
  obtain rfl := hunder
  rfl

protected def pure (value : α) : Logged α where
  under _ := ⟨value, []⟩
  sameValue _ := rfl
  filtered _ := rfl

protected def bind (first : Logged α) (next : α → Logged β) : Logged β where
  under level :=
    let begun := first.under level
    let ended := (next begun.value).under level
    ⟨ended.value, begun.records ++ ended.records⟩
  sameValue level := by
    show ((next (first.under level).value).under level).value = _
    rw [first.sameValue level, (next _).sameValue level]
  filtered level := by
    show (first.under level).records ++ ((next (first.under level).value).under level).records = _
    rw [first.sameValue level, first.filtered level, (next _).filtered level, ← level.filter_append]

instance : Monad Logged where
  pure := Logged.pure
  bind := Logged.bind

instance : LawfulMonad Logged := LawfulMonad.mk' Logged
  (fun logged => ext rfl (List.append_nil logged.records))
  (fun _ _ => ext rfl rfl)
  (fun _ _ _ => ext rfl (List.append_assoc _ _ _))

@[simp] theorem value_pure (value : α) : (pure value : Logged α).value = value := rfl

@[simp] theorem records_pure (value : α) : (pure value : Logged α).records = [] := rfl

@[simp] theorem value_bind (first : Logged α) (next : α → Logged β) :
    (first >>= next).value = (next first.value).value := rfl

@[simp] theorem records_bind (first : Logged α) (next : α → Logged β) :
    (first >>= next).records = first.records ++ (next first.value).records := rfl

/-- Writes a record, which the logger shows if its level does. -/
def write (severity : Severity) (text : Bytes) : Logged Unit where
  under level := ⟨(), if level.shows severity then [⟨severity, text⟩] else []⟩
  sameValue _ := rfl
  filtered level := by
    rw [Level.shows_everything, Level.filter, if_pos rfl, List.filter_cons]
    rfl

@[simp] theorem records_write (severity : Severity) (text : Bytes) :
    (write severity text).records = [⟨severity, text⟩] := by
  cases severity <;> rfl

end Logged

end RouteMonitor
