import PageTemplates.Proofs.Entries
import PageTemplates.TemplateSet

/-!
Template sets as lists of programs. Templates with different names stand in a set in the order in which
they were added, so a set can be told by its programs. Compilation of one of them fails in three ways.
-/

namespace PageTemplates

namespace TemplateSet

theorem put_fresh (name : Text) (entry : Entry) {templates : List (Text × Entry)}
    (fresh : name ∉ templates.map Prod.fst) :
    put name entry templates = templates ++ [(name, entry)] := by
  induction templates with
  | nil => rfl
  | cons first rest ih =>
      obtain ⟨other, old⟩ := first
      simp only [List.map_cons, List.mem_cons, not_or] at fresh
      rw [put, if_neg (Ne.symm fresh.1), ih fresh.2, List.cons_append]

/-- The set of different templates that were added in order. -/
def composed (recipe : Recipe) (programs : List (Text × Template.Program)) : TemplateSet :=
  ⟨recipe, programs.map fun (name, program) => (name, ⟨0, program⟩)⟩

theorem composed_names (recipe : Recipe) (programs : List (Text × Template.Program)) :
    (composed recipe programs).templates.map Prod.fst = programs.map Prod.fst := by
  simp [composed, Function.comp_def]

theorem composed_holding (recipe : Recipe) {programs : List (Text × Template.Program)}
    {name : Text} (program : Template.Program) (fresh : name ∉ programs.map Prod.fst) :
    (composed recipe programs).holding name program =
      composed recipe (programs ++ [(name, program)]) := by
  rw [← composed_names recipe] at fresh
  have unknown : (composed recipe programs).get? name = none := Entries.lookup_absent fresh
  simp only [holding, unknown, put_fresh name _ fresh]
  simp [composed]

/-- To add a template is to compile it and to hold its program. -/
theorem add_compiles (set : TemplateSet) (name source : Text) (path : Option Text) :
    set.add name source path = (compile set.recipe name source path).map (set.holding name) := by
  rw [add]
  cases compile set.recipe name source path <;> rfl

/-- Compilation ends with a problem of the source, of a constant in it, or of the path, and the path
counts before the source but after the constants. -/
theorem compile_error {recipe : Recipe} {name source : Text} {path : Option Text}
    {problem : Problem} :
    compile recipe name source path = .error problem ↔
      (∃ fault, translated recipe name source = .error (.source fault) ∧ fitsCode path = true ∧
        problem = problemOf name (.source fault)) ∨
      (∃ failure, translated recipe name source = .error (.failure failure) ∧
        problem = .failure failure) ∨
      ((∀ failure, translated recipe name source ≠ .error (.failure failure)) ∧
        fitsCode path = false ∧ problem = .failure badPath) := by
  rw [compile]
  cases outcome : translated recipe name source with
  | ok program =>
      cases fits : fitsCode path with
      | false =>
          constructor
          · intro failed
            cases failed
            exact .inr (.inr ⟨nofun, rfl, rfl⟩)
          · rintro (⟨_, impossible, _⟩ | ⟨_, impossible, _⟩ | ⟨_, _, rfl⟩)
            · cases impossible
            · cases impossible
            · rfl
      | true => simp
  | error fault =>
      cases fault with
      | failure failure =>
          constructor
          · intro failed
            cases failed
            exact .inr (.inl ⟨failure, rfl, rfl⟩)
          · rintro (⟨_, impossible, _⟩ | ⟨_, same, rfl⟩ | ⟨computed, _⟩)
            · cases impossible
            · cases same
              rfl
            · exact absurd rfl (computed failure)
      | source fault =>
          cases fits : fitsCode path with
          | false =>
              constructor
              · intro failed
                cases failed
                exact .inr (.inr ⟨nofun, rfl, rfl⟩)
              · rintro (⟨_, _, impossible, _⟩ | ⟨_, impossible, _⟩ | ⟨_, _, rfl⟩)
                · cases impossible
                · cases impossible
                · rfl
          | true =>
              constructor
              · intro failed
                cases failed
                exact .inl ⟨fault, rfl, rfl, rfl⟩
              · rintro (⟨_, same, _, rfl⟩ | ⟨_, impossible, _⟩ | ⟨_, impossible, _⟩)
                · cases same
                  rfl
                · cases impossible
                · cases impossible

end TemplateSet

end PageTemplates
