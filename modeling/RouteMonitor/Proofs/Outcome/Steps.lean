import RouteMonitor.Proofs.Outcome

/-!
# What a computation writes on its way

A computation made of steps writes what each of them writes, in order, and it ends at the first that
has a fault. So the records of a computation that fails are those of the steps before the faulty
one, and the log tells how far the computation came.
-/

namespace RouteMonitor.LoadM

variable {α β : Type}

/-- The fault that a step may have, and what it writes if it has none. -/
structure Step where
  fault? : Option ConfigError
  written : List Record

/-- The steps before the first that has a fault. -/
def passed (steps : List Step) : List Step := steps.takeWhile fun step => step.fault?.isNone

/-- The computation ends at the first of its steps that has a fault, and it writes what the steps
before that one write. -/
structure Takes (computation : LoadM α) (steps : List Step) (Holds : α → Prop) : Prop where
  endsAt : computation.EndsAt (steps.map Step.fault?) Holds
  records : computation.run.records = (passed steps).flatMap Step.written

theorem passed_of_good {steps : List Step} (hgood : ∀ step ∈ steps, step.fault? = none)
    (later : List Step) : passed (steps ++ later) = steps ++ passed later := by
  rw [passed, List.takeWhile_append_of_pos fun step hstep => by simp [hgood step hstep]]
  rfl

theorem passed_eq_self {steps : List Step} (hgood : ∀ step ∈ steps, step.fault? = none) :
    passed steps = steps := by
  simpa [passed] using passed_of_good hgood []

theorem passed_of_first_fault {before : List Step} {step : Step}
    (hgood : ∀ earlier ∈ before, earlier.fault? = none) (hfault : step.fault? ≠ none)
    (after : List Step) : passed (before ++ step :: after) = before := by
  have hstop : ¬step.fault?.isNone = true := by simpa using hfault
  rw [passed_of_good hgood, passed, List.takeWhile_cons, if_neg hstop, List.append_nil]

namespace Takes

theorem pure {Holds : α → Prop} {value : α} (hvalue : Holds value) :
    Takes (pure value) [] Holds :=
  ⟨.pure hvalue, rfl⟩

theorem of_good {computation : LoadM α} {step : Step} {Holds : α → Prop}
    (hends : computation.EndsAt [step.fault?] Holds) (hgood : step.fault? = none)
    (hrecords : computation.run.records = step.written) : computation.Takes [step] Holds := by
  refine ⟨hends, ?_⟩
  rw [hrecords, passed_eq_self (by simpa using hgood), List.flatMap_singleton]

theorem of_faulty {computation : LoadM α} {step : Step} {Holds : α → Prop}
    (hends : computation.EndsAt [step.fault?] Holds) (hfault : step.fault? ≠ none)
    (hrecords : computation.run.records = []) : computation.Takes [step] Holds := by
  have hpassed : passed [step] = [] :=
    passed_of_first_fault (fun _ hearlier => absurd hearlier List.not_mem_nil) hfault []
  exact ⟨hends, by rw [hrecords, hpassed]; rfl⟩

theorem mono {computation : LoadM α} {steps : List Step} {Holds Weaker : α → Prop}
    (htakes : computation.Takes steps Holds) (hweaker : ∀ value, Holds value → Weaker value) :
    computation.Takes steps Weaker :=
  ⟨htakes.endsAt.mono hweaker, htakes.records⟩

theorem bind {first : LoadM α} {next : α → LoadM β} {steps later : List Step} {Holds : α → Prop}
    {Then : β → Prop} (hfirst : first.Takes steps Holds)
    (hnext : ∀ value, Holds value → (next value).Takes later Then) :
    Takes (first >>= next) (steps ++ later) Then where
  endsAt := by
    rw [List.map_append]
    exact hfirst.endsAt.bind fun value hvalue => (hnext value hvalue).endsAt
  records := by
    cases hresult : first.result with
    | error error =>
      have hfault := hfirst.endsAt.result_eq_error_iff.1 hresult
      rw [List.findSome?_map, List.findSome?_eq_some_iff] at hfault
      obtain ⟨before, step, after, rfl, hstep, hgood⟩ := hfault
      have hne : step.fault? ≠ none := Option.ne_none_iff_exists'.2 ⟨error, hstep⟩
      rw [records_bind_of_error hresult, hfirst.records, List.append_assoc, List.cons_append,
        passed_of_first_fault hgood hne, passed_of_first_fault hgood hne]
    | ok value =>
      obtain ⟨hgood, hvalue⟩ := hfirst.endsAt.of_result_eq_ok hresult
      rw [List.findSome?_map, List.findSome?_eq_none_iff] at hgood
      rw [records_bind_of_ok hresult, hfirst.records, (hnext value hvalue).records,
        passed_eq_self hgood, passed_of_good hgood, List.flatMap_append]

/-- What is known of the value that comes back includes that it came back. -/
theorem with_result {computation : LoadM α} {steps : List Step} {Holds : α → Prop}
    (htakes : computation.Takes steps Holds) :
    computation.Takes steps fun value => computation.result = .ok value := by
  refine ⟨?_, htakes.records⟩
  have hends := htakes.endsAt
  unfold EndsAt at *
  split at hends
  · exact hends
  · obtain ⟨value, hvalue, -⟩ := hends
    exact ⟨value, hvalue, hvalue⟩

theorem records_of_ok {computation : LoadM α} {steps : List Step} {Holds : α → Prop}
    (htakes : computation.Takes steps Holds) {value : α}
    (hresult : computation.result = .ok value) :
    computation.run.records = steps.flatMap Step.written := by
  obtain ⟨hgood, -⟩ := htakes.endsAt.of_result_eq_ok hresult
  rw [List.findSome?_map, List.findSome?_eq_none_iff] at hgood
  rw [htakes.records, passed_eq_self hgood]

end Takes

end RouteMonitor.LoadM
