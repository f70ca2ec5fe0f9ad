import RouteMonitor.ConfigError

/-!
# How a computation ends

A computation that loads writes records and ends in a value or in an error. Here the records are
left out: `result` is the value or the error alone, and it passes through each operation on
computations as that operation does on plain results.

A computation made of steps fails where its first faulty step does. `EndsAt` states this for a whole
list of faults, one for each step, each of them known without running the steps before it. A value
that comes back may be known to have a property, so the faults of a later step can depend on it.
-/

namespace RouteMonitor.LoadM

variable {α β : Type}

/-- The end of a computation, without the records it wrote. -/
def result (computation : LoadM α) : Except ConfigError α := computation.run.value

@[simp] theorem result_pure (value : α) : (pure value : LoadM α).result = .ok value := rfl

@[simp] theorem result_throw (error : ConfigError) :
    (throw error : LoadM α).result = .error error := rfl

@[simp] theorem result_liftM (logged : Logged α) :
    (liftM logged : LoadM α).result = .ok logged.value := rfl

theorem result_bind (first : LoadM α) (next : α → LoadM β) :
    (first >>= next).result = first.result >>= fun value => (next value).result := by
  show ((first.run >>= ExceptT.bindCont next : Logged _).value) = _
  rw [Logged.value_bind]
  show _ = first.run.value >>= _
  cases first.run.value <;> rfl

@[simp] theorem result_map (function : α → β) (computation : LoadM α) :
    (function <$> computation).result = computation.result.map function := by
  rw [← bind_pure_comp, result_bind]
  cases computation.result <;> rfl

theorem result_bind_of_ok {first : LoadM α} {value : α} (hfirst : first.result = .ok value)
    (next : α → LoadM β) : (first >>= next).result = (next value).result := by
  rw [result_bind, hfirst]
  rfl

theorem result_bind_of_error {first : LoadM α} {error : ConfigError}
    (hfirst : first.result = .error error) (next : α → LoadM β) :
    (first >>= next).result = .error error := by
  rw [result_bind, hfirst]
  rfl

theorem result_bind_eq_ok_iff {first : LoadM α} {next : α → LoadM β} {value : β} :
    (first >>= next).result = .ok value ↔
      ∃ between, first.result = .ok between ∧ (next between).result = .ok value := by
  rw [result_bind]
  cases first.result with
  | error error => simp [bind, Except.bind]
  | ok between => simp [bind, Except.bind]

theorem result_bind_eq_error_iff {first : LoadM α} {next : α → LoadM β} {error : ConfigError} :
    (first >>= next).result = .error error ↔ first.result = .error error ∨
      ∃ between, first.result = .ok between ∧ (next between).result = .error error := by
  rw [result_bind]
  cases first.result with
  | error other => simp [bind, Except.bind]
  | ok between => simp [bind, Except.bind]

/-! ### Records -/

/-- A computation is its result and its records. -/
theorem ext {first second : LoadM α} (hresult : first.result = second.result)
    (hrecords : first.run.records = second.run.records) : first = second :=
  Logged.ext hresult hrecords

theorem records_bind_of_ok {first : LoadM α} {value : α} (hfirst : first.result = .ok value)
    (next : α → LoadM β) :
    (first >>= next).run.records = first.run.records ++ (next value).run.records := by
  show first.run.records ++ (ExceptT.bindCont next first.run.value).records = _
  rw [show first.run.value = .ok value from hfirst]
  rfl

theorem records_bind_of_error {first : LoadM α} {error : ConfigError}
    (hfirst : first.result = .error error) (next : α → LoadM β) :
    (first >>= next).run.records = first.run.records := by
  show first.run.records ++ (ExceptT.bindCont next first.run.value).records = _
  rw [show first.run.value = .error error from hfirst]
  exact List.append_nil _

/-- What follows a computation matters only for the value that comes back. -/
theorem bind_congr_of_result {first : LoadM α} {next other : α → LoadM β}
    (hnext : ∀ value, first.result = .ok value → next value = other value) :
    first >>= next = first >>= other := by
  cases hresult : first.result with
  | error error =>
    apply ext
    · rw [result_bind_of_error hresult, result_bind_of_error hresult]
    · rw [records_bind_of_error hresult, records_bind_of_error hresult]
  | ok value =>
    apply ext
    · rw [result_bind_of_ok hresult, result_bind_of_ok hresult, hnext value hresult]
    · rw [records_bind_of_ok hresult, records_bind_of_ok hresult, hnext value hresult]

@[simp] theorem records_liftM (logged : Logged α) :
    (liftM logged : LoadM α).run.records = logged.records :=
  List.append_nil _

/-- The second computation ends as the first does and writes the same records, with or without some
extra records at one place among them. -/
structure AddsAtMost (extra : List Record) (first second : LoadM α) : Prop where
  result : second.result = first.result
  records : ∃ before after, first.run.records = before ++ after ∧
    (second.run.records = before ++ after ∨ second.run.records = before ++ extra ++ after)

theorem AddsAtMost.refl (extra : List Record) (computation : LoadM α) :
    computation.AddsAtMost extra computation :=
  ⟨rfl, computation.run.records, [], by simp, .inl (by simp)⟩

theorem AddsAtMost.eq_of_nil {first second : LoadM α} (hadds : first.AddsAtMost [] second) :
    second = first := by
  obtain ⟨before, after, hfirst, hsecond⟩ := hadds.records
  apply ext hadds.result
  rw [hfirst]
  simpa using hsecond

theorem AddsAtMost.bind_left {extra : List Record} {first second : LoadM α}
    (hadds : first.AddsAtMost extra second) (next : α → LoadM β) :
    AddsAtMost extra (first >>= next) (second >>= next) := by
  refine ⟨by rw [result_bind, result_bind, hadds.result], ?_⟩
  obtain ⟨before, after, hfirst, hsecond⟩ := hadds.records
  cases hresult : first.result with
  | error error =>
    rw [records_bind_of_error hresult, records_bind_of_error (hadds.result.trans hresult)]
    exact ⟨before, after, hfirst, hsecond⟩
  | ok value =>
    rw [records_bind_of_ok hresult, records_bind_of_ok (hadds.result.trans hresult)]
    refine ⟨before, after ++ (next value).run.records, by rw [hfirst, List.append_assoc], ?_⟩
    rcases hsecond with hsecond | hsecond
    · exact .inl (by rw [hsecond, List.append_assoc])
    · exact .inr (by rw [hsecond, List.append_assoc])

theorem AddsAtMost.bind_right {extra : List Record} {first : LoadM α} {next other : α → LoadM β}
    (hnext : ∀ value, first.result = .ok value → (next value).AddsAtMost extra (other value)) :
    AddsAtMost extra (first >>= next) (first >>= other) := by
  cases hresult : first.result with
  | error error =>
    have hsame : first >>= next = first >>= other :=
      bind_congr_of_result fun value hvalue => by rw [hresult] at hvalue; cases hvalue
    rw [hsame]
    exact .refl extra _
  | ok value =>
    have hadds := hnext value hresult
    refine ⟨by rw [result_bind_of_ok hresult, result_bind_of_ok hresult, hadds.result], ?_⟩
    rw [records_bind_of_ok hresult, records_bind_of_ok hresult]
    obtain ⟨before, after, hfirst, hsecond⟩ := hadds.records
    refine ⟨first.run.records ++ before, after, by rw [hfirst, List.append_assoc], ?_⟩
    rcases hsecond with hsecond | hsecond
    · exact .inl (by rw [hsecond, List.append_assoc])
    · exact .inr (by simp only [hsecond, List.append_assoc])

/-- Every record that the computation writes is of this severity. -/
def WritesOnly (computation : LoadM α) (severity : Severity) : Prop :=
  ∀ record ∈ computation.run.records, record.severity = severity

variable {severity : Severity}

theorem WritesOnly.pure (value : α) : (pure value : LoadM α).WritesOnly severity :=
  fun _ hrecord => absurd hrecord List.not_mem_nil

theorem WritesOnly.bind {first : LoadM α} {next : α → LoadM β}
    (hfirst : first.WritesOnly severity)
    (hnext : ∀ value, first.result = .ok value → (next value).WritesOnly severity) :
    (first >>= next).WritesOnly severity := by
  intro record hrecord
  cases hresult : first.result with
  | ok value =>
    rw [records_bind_of_ok hresult] at hrecord
    exact (List.mem_append.1 hrecord).elim (hfirst record) (hnext value hresult record)
  | error error =>
    rw [records_bind_of_error hresult] at hrecord
    exact hfirst record hrecord

/-- A logger that leaves out the severity shows nothing of the computation. -/
theorem WritesOnly.filter_eq_nil {computation : LoadM α}
    (hwrites : computation.WritesOnly severity) {level : Level}
    (hlevel : level.shows severity = false) : level.filter computation.run.records = [] := by
  rw [Level.filter, List.filter_eq_nil_iff]
  intro record hrecord
  simp [hwrites record hrecord, hlevel]

/-! ### Faults in order -/

/-- The computation ends in the first fault that the list holds, or, if it holds none, in a value
with the given property. -/
def EndsAt (computation : LoadM α) (faults : List (Option ConfigError)) (Holds : α → Prop) :
    Prop :=
  match faults.findSome? id with
  | some error => computation.result = .error error
  | none => ∃ value, computation.result = .ok value ∧ Holds value

theorem EndsAt.pure {Holds : α → Prop} {value : α} (hvalue : Holds value) :
    EndsAt (pure value) [] Holds :=
  ⟨value, rfl, hvalue⟩

theorem EndsAt.liftM (logged : Logged α) :
    EndsAt (liftM logged) [] fun value => value = logged.value :=
  ⟨logged.value, rfl, rfl⟩

theorem EndsAt.of_value {computation : LoadM α} {fault : Option ConfigError} {Holds : α → Prop}
    {value : α} (hfault : fault = none) (hresult : computation.result = .ok value)
    (hvalue : Holds value) : computation.EndsAt [fault] Holds := by
  subst hfault
  exact ⟨value, hresult, hvalue⟩

theorem EndsAt.of_error {computation : LoadM α} {fault : Option ConfigError} {Holds : α → Prop}
    {error : ConfigError} (hfault : fault = some error)
    (hresult : computation.result = .error error) :
    computation.EndsAt [fault] Holds := by
  subst hfault
  exact hresult

theorem EndsAt.mono {computation : LoadM α} {faults : List (Option ConfigError)}
    {Holds Weaker : α → Prop} (hends : computation.EndsAt faults Holds)
    (hweaker : ∀ value, Holds value → Weaker value) : computation.EndsAt faults Weaker := by
  unfold EndsAt at *
  cases hfault : faults.findSome? id with
  | some error => rwa [hfault] at hends
  | none =>
    rw [hfault] at hends
    obtain ⟨value, hvalue, hholds⟩ := hends
    exact ⟨value, hvalue, hweaker value hholds⟩

theorem EndsAt.bind {first : LoadM α} {next : α → LoadM β}
    {faults later : List (Option ConfigError)} {Holds : α → Prop} {Then : β → Prop}
    (hfirst : first.EndsAt faults Holds)
    (hnext : ∀ value, Holds value → (next value).EndsAt later Then) :
    EndsAt (first >>= next) (faults ++ later) Then := by
  unfold EndsAt at *
  rw [List.findSome?_append]
  cases hfault : faults.findSome? id with
  | some error =>
    rw [hfault] at hfirst
    exact result_bind_of_error hfirst next
  | none =>
    rw [hfault] at hfirst
    obtain ⟨value, hvalue, hholds⟩ := hfirst
    rw [result_bind_of_ok hvalue]
    exact hnext value hholds

theorem EndsAt.result_eq_error_iff {computation : LoadM α} {faults : List (Option ConfigError)}
    {Holds : α → Prop} (hends : computation.EndsAt faults Holds) {error : ConfigError} :
    computation.result = .error error ↔ faults.findSome? id = some error := by
  unfold EndsAt at hends
  cases hfault : faults.findSome? id with
  | some first =>
    rw [hfault] at hends
    simp [hends]
  | none =>
    rw [hfault] at hends
    obtain ⟨value, hvalue, -⟩ := hends
    simp [hvalue]

/-- A computation that comes back with a value had no fault. -/
theorem EndsAt.of_result_eq_ok {computation : LoadM α} {faults : List (Option ConfigError)}
    {Holds : α → Prop} (hends : computation.EndsAt faults Holds) {value : α}
    (hresult : computation.result = .ok value) : faults.findSome? id = none ∧ Holds value := by
  unfold EndsAt at hends
  cases hfault : faults.findSome? id with
  | some first =>
    rw [hfault, hresult] at hends
    cases hends
  | none =>
    rw [hfault, hresult] at hends
    obtain ⟨other, hother, hholds⟩ := hends
    obtain rfl := Except.ok.inj hother
    exact ⟨rfl, hholds⟩

end RouteMonitor.LoadM
