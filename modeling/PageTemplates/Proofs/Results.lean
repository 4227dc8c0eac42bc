import Mathlib.Data.List.Forall2

/-!
Results that may be problems. When a chain of them comes to a value, and when it comes to a problem.
-/

namespace PageTemplates.Results

variable {Problem First Second Item Result : Type}

theorem bind_ok {result : Except Problem First} {next : First → Except Problem Second}
    {value : Second} :
    result.bind next = .ok value ↔ ∃ first, result = .ok first ∧ next first = .ok value := by
  cases result <;> simp [Except.bind]

theorem bind_error {result : Except Problem First} {next : First → Except Problem Second}
    {problem : Problem} :
    result.bind next = .error problem ↔
      result = .error problem ∨ ∃ first, result = .ok first ∧ next first = .error problem := by
  cases result <;> simp [Except.bind]

theorem map_ok {result : Except Problem First} {function : First → Second} {value : Second} :
    result.map function = .ok value ↔ ∃ first, result = .ok first ∧ function first = value := by
  cases result <;> simp [Except.map]

theorem map_error {result : Except Problem First} {function : First → Second} {problem : Problem} :
    result.map function = .error problem ↔ result = .error problem := by
  cases result <;> simp [Except.map]

theorem mapError_ok {Fault : Type} {result : Except Problem First} {function : Problem → Fault}
    {value : First} : result.mapError function = .ok value ↔ result = .ok value := by
  cases result <;> simp [Except.mapError]

theorem mapM_cons (function : Item → Except Problem Result) (item : Item) (rest : List Item) :
    (item :: rest).mapM function =
      (function item).bind fun first => (rest.mapM function).map fun others => first :: others := by
  rw [List.mapM_cons]
  cases function item with
  | error problem => rfl
  | ok first =>
      change (rest.mapM function).bind _ = (rest.mapM function).map _
      cases rest.mapM function <;> rfl

theorem mapM_append (function : Item → Except Problem Result) (items more : List Item) :
    (items ++ more).mapM function =
      (items.mapM function).bind fun results =>
        (more.mapM function).map fun others => results ++ others := by
  rw [List.mapM_append]
  change (items.mapM function).bind _ = _
  cases items.mapM function with
  | error problem => rfl
  | ok results =>
      change (more.mapM function).bind _ = _
      cases more.mapM function <;> rfl

/-- Going through items comes to a value for each item, in order. -/
theorem mapM_ok {function : Item → Except Problem Result} {items : List Item}
    {results : List Result} :
    items.mapM function = .ok results ↔
      List.Forall₂ (fun item result => function item = .ok result) items results := by
  induction items generalizing results with
  | nil =>
      rw [List.forall₂_nil_left_iff, List.mapM_nil]
      exact ⟨fun same => (Except.ok.inj same).symm, fun same => congrArg Except.ok same.symm⟩
  | cons item rest ih =>
      simp only [mapM_cons, bind_ok, map_ok, ih, List.forall₂_cons_left_iff]
      constructor
      · rintro ⟨first, here, others, later, rfl⟩
        exact ⟨first, others, here, later, rfl⟩
      · rintro ⟨first, others, here, later, rfl⟩
        exact ⟨first, here, others, later, rfl⟩

/-- A result comes from an item. -/
theorem source_of_result {read : Item → Result → Prop} {items : List Item} {results : List Result}
    (each : List.Forall₂ read items results) {result : Result} (member : result ∈ results) :
    ∃ item ∈ items, read item result := by
  induction each with
  | nil => cases member
  | cons first _ ih =>
      rcases List.mem_cons.mp member with rfl | later
      · exact ⟨_, List.mem_cons_self, first⟩
      · obtain ⟨item, among, same⟩ := ih later
        exact ⟨item, List.mem_cons_of_mem _ among, same⟩

/-- Going through items ends with the problem of the first item that has one. -/
theorem mapM_error {function : Item → Except Problem Result} {items : List Item}
    {problem : Problem} :
    items.mapM function = .error problem ↔
      ∃ before item after, items = before ++ item :: after ∧
        (∀ earlier ∈ before, ∃ result, function earlier = .ok result) ∧
        function item = .error problem := by
  induction items with
  | nil => simp [pure, Except.pure]
  | cons first rest ih =>
      simp only [mapM_cons, bind_error, map_error, ih]
      constructor
      · rintro (failed | ⟨value, fine, before, item, after, rfl, others, fails⟩)
        · exact ⟨[], first, rest, rfl, by simp, failed⟩
        · refine ⟨first :: before, item, after, rfl, ?_, fails⟩
          exact List.forall_mem_cons.mpr ⟨⟨value, fine⟩, others⟩
      · rintro ⟨before, item, after, split, fine, fails⟩
        cases before with
        | nil =>
            cases split
            exact .inl fails
        | cons earlier others =>
            cases split
            obtain ⟨⟨value, here⟩, later⟩ := List.forall_mem_cons.mp fine
            exact .inr ⟨value, here, others, item, after, rfl, later, fails⟩

end PageTemplates.Results
