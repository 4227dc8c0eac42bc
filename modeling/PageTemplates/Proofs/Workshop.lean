import PageTemplates.Proofs.Renderer.Requests
import PageTemplates.Proofs.TemplateSet
import PageTemplates.Workshop

/-!
Template sets that do not influence each other. Whatever is done in a workshop, and in whatever order, a set
is what it would be if it stood alone: if the successful additions to the sets it was cloned from, up to
that moment, had been made to it, and then everything that was done with the set itself.
-/

namespace PageTemplates

namespace Session.KeepAlike

variable {now elsewhere : Session} {number place : Nat}

theorem leaving (alike : now.KeepAlike elsewhere number place) (world : World) :
    (now.leaving number world).KeepAlike (elsewhere.leaving place world) number place := by
  refine ⟨?_, ?_, fun ticks => ?_⟩
  · simpa [Session.leaving, Session.sets] using alike.known
  · simpa [Session.leaving, Session.sets] using alike.there
  · rw [home_counting, home_counting, home_left alike.known, home_left alike.there]

theorem leaving_other (alike : now.KeepAlike elsewhere number place) {other : Nat}
    (apart : number ≠ other) (world : World) :
    (now.leaving other world).KeepAlike elsewhere number place := by
  refine ⟨?_, alike.there, fun ticks => ?_⟩
  · simpa [Session.leaving, Session.sets] using alike.known
  · rw [home_counting, home_leaving apart]
    exact alike.homes ticks

theorem opening (alike : now.KeepAlike elsewhere number place) (count : Nat) :
    (now.opening count).KeepAlike elsewhere number place := by
  refine ⟨?_, alike.there, fun ticks => ?_⟩
  · have known := alike.known
    simp only [Session.opening, Session.sets, List.length_append] at known ⊢
    omega
  · rw [home_counting, home_opening alike.known]
    exact alike.homes ticks

theorem counting (alike : now.KeepAlike elsewhere number place) (ticks : Nat) :
    now.KeepAlike (elsewhere.counting ticks) number place :=
  ⟨alike.known, alike.there, alike.homes⟩

theorem home (alike : now.KeepAlike elsewhere number place) :
    now.home number = (elsewhere.counting now.ticks).home place := alike.homes now.ticks

/-- Renders of the same page in sets that have kept the same have the same answer. -/
theorem rendered_answer (alike : now.KeepAlike elsewhere number place) (name : Text) (data : Data)
    (set : TemplateSet) (response : Response) :
    ((PageRender.make name data (some (number, set)) none).render now response).2.answer =
      ((PageRender.make name data (some (place, set)) none).render (elsewhere.counting now.ticks)
        response).2.answer := by
  refine @PageRender.render_answer (.make name data (some (number, set)) none)
    (.make name data (some (place, set)) none) _ _ rfl rfl rfl rfl ?_ response
  intro first one second twin found there
  cases found
  cases there
  exact alike.home

theorem rendered (alike : now.KeepAlike elsewhere number place) (name : Text) (data : Data)
    (set : TemplateSet) (response : Response) :
    ((PageRender.make name data (some (number, set)) none).render now response).2.session.KeepAlike
      ((PageRender.make name data (some (place, set)) none).render (elsewhere.counting now.ticks)
        response).2.session number place := by
  have there := (alike.counting now.ticks).there
  refine ⟨?_, ?_, fun ticks => ?_⟩
  · rw [PageRender.render_sets]
    exact alike.known
  · rw [PageRender.render_sets]
    exact there
  · rw [home_counting, home_counting, PageRender.render_home rfl alike.known,
      PageRender.render_home rfl there, alike.home]
    rfl

theorem rendered_other (alike : now.KeepAlike elsewhere number place) {other : Nat}
    (apart : number ≠ other) (name : Text) (data : Data) (set : TemplateSet) (response : Response) :
    ((PageRender.make name data (some (other, set)) none).render now
      response).2.session.KeepAlike elsewhere number place := by
  refine ⟨?_, alike.there, fun ticks => ?_⟩
  · rw [PageRender.render_sets]
    exact alike.known
  · rw [home_counting, PageRender.render_other_home]
    · exact alike.homes ticks
    · intro spot twin found
      cases found
      exact apart

end Session.KeepAlike

namespace SetTables

/-- Both tables have the same names in the same order, and a template is the code of its name, bound to the
environment of the set. -/
structure InStep (tables : SetTables) (number : Nat) : Prop where
  own : tables.environment = number
  bound : tables.templates = tables.codes.map fun (name, code) => (name, ⟨number, code⟩)

theorem binding_in_step (number : Nat) (codes : List (Text × Entry)) :
    (binding number codes).InStep number := ⟨rfl, rfl⟩

theorem put_map {Item Other : Type} (change : Item → Other) (name : Text) (item : Item)
    (items : List (Text × Item)) :
    (TemplateSet.put name item items).map (fun (name, item) => (name, change item)) =
      TemplateSet.put name (change item) (items.map fun (name, item) => (name, change item)) := by
  induction items with
  | nil => rfl
  | cons entry rest ih =>
      obtain ⟨other, old⟩ := entry
      simp only [TemplateSet.put, List.map_cons]
      split
      · rfl
      · rw [List.map_cons, ih]

variable {tables : SetTables} {number : Nat} {recipe : Recipe}

theorem adding_in_step (inStep : tables.InStep number) (name : Text)
    (program : Template.Program) : (tables.adding name program).InStep number := by
  refine ⟨inStep.own, ?_⟩
  simp only [adding, inStep.own, inStep.bound]
  exact (put_map (BoundTemplate.mk number) name _ tables.codes).symm

theorem served_codes (inStep : tables.InStep number) :
    tables.served recipe = ⟨recipe, tables.codes⟩ := by
  rw [served, inStep.bound, List.map_map]
  exact congrArg _ (List.map_id tables.codes)

/-- To put a program into both tables is to hold it in the set that is served. -/
theorem adding_served (recipe : Recipe) (inStep : tables.InStep number) (name : Text)
    (program : Template.Program) :
    (tables.adding name program).served recipe = (tables.served recipe).holding name program := by
  rw [served_codes (adding_in_step inStep name program), served_codes inStep, adding, coded,
    TemplateSet.holding, TemplateSet.get?]
  cases tables.codes.lookup name <;> rfl

end SetTables

/-- A set that stands alone, with the session of its renders. -/
structure LoneSet where
  set : TemplateSet
  session : Session

/-- What has been done with a set, each time with how often the counting function had been called. -/
abbrev History := List (Nat × SetStep)

namespace LoneSet

def fresh (recipe : Recipe) : LoneSet := ⟨.empty recipe, Session.start.opening 1⟩

def counting (lone : LoneSet) (ticks : Nat) : LoneSet :=
  { lone with session := lone.session.counting ticks }

def step (lone : LoneSet) : SetStep → WorkshopAnswer × LoneSet
  | .add name source path =>
    match lone.set.add name source path with
    | .error problem => (.failed problem, lone)
    | .ok set => (.added set.names, { lone with set := set })
  | .text name data =>
    match lone.set.get? name with
    | none => (.missing, lone)
    | some code =>
      let (rendered, session) := lone.session.renderText 0 lone.set name code data
      (.text rendered, { lone with session := session })
  | .page name data response =>
    let page := PageRender.make name data (some (0, lone.set)) none
    let outcome := (page.render lone.session response).2
    (.page outcome.response outcome.problem, { lone with session := outcome.session })

def after (lone : LoneSet) (history : History) : LoneSet :=
  history.foldl (fun lone (ticks, step) => ((lone.counting ticks).step step).2) lone

/-- The set that is built from scratch by its history. -/
def rebuilt (recipe : Recipe) (history : History) : LoneSet := (fresh recipe).after history

end LoneSet

/-- Whether a clone of a set takes over what a step does: additions that succeed. -/
def SetStep.isInherited (recipe : Recipe) : SetStep → Bool
  | .add name source path => (TemplateSet.compile recipe name source path).isOk
  | _ => false

def inheritedHistory (recipe : Recipe) (history : History) : History :=
  history.filter fun (_, step) => step.isInherited recipe

/-- A workshop with the histories of its sets. -/
structure Story where
  workshop : Workshop
  histories : List History

namespace Story

def start (recipe : Recipe) : Story := ⟨.opened recipe, []⟩

/-- The histories of sets after one more step. -/
def told (story : Story) : WorkshopStep → List History
  | .newSet => story.histories ++ [[]]
  | .clone number =>
    story.histories ++
      (story.histories[number]?.map (inheritedHistory story.workshop.recipe)).toList
  | .use number step =>
    story.histories.modify number fun history => history ++ [(story.workshop.session.ticks, step)]

def next (story : Story) (step : WorkshopStep) : Story :=
  ⟨(story.workshop.step step).2, story.told step⟩

def ofSteps (recipe : Recipe) (steps : List WorkshopStep) : Story :=
  steps.foldl next (start recipe)

end Story

namespace Workshop

variable {workshop : Workshop} {number : Nat} {lone : LoneSet}

/-- A set of a workshop is as one that stands alone. -/
structure Stands (workshop : Workshop) (number : Nat) (lone : LoneSet) : Prop where
  tables : ∃ tables, workshop.sets[number]? = some tables ∧ tables.InStep number ∧
    tables.served workshop.recipe = lone.set
  alike : workshop.session.KeepAlike lone.session number 0

section

variable {tables : SetTables} (listed : workshop.sets[number]? = some tables)
  (inStep : tables.InStep number)

include listed inStep

theorem template_in_step (name : Text) :
    workshop.template? tables name =
      ((tables.served workshop.recipe).get? name).map fun code =>
        (number, tables.served workshop.recipe, code) := by
  have found : tables.templates.lookup name =
      (tables.codes.lookup name).map (BoundTemplate.mk number) := by
    rw [inStep.bound]
    exact Entries.lookup_map_items (fun _ => BoundTemplate.mk number) name tables.codes
  rw [template?, found, SetTables.served_codes inStep, TemplateSet.get?]
  cases tables.codes.lookup name with
  | none => rfl
  | some code => simp [listed, SetTables.served_codes inStep]

theorem render_page_in_step (name : Text) (data : Data) (response : Response) :
    workshop.renderPage tables name data response =
      ((PageRender.make name data (some (number, tables.served workshop.recipe)) none).render
        workshop.session response).2 := by
  simp only [renderPage, PageRender.render, PageRender.announce]
  cases response.writeContentType with
  | error failure => rfl
  | ok announced =>
      simp only [bind, Except.bind, pure, Except.pure, PageRender.writeBody, PageRender.make,
        PageRender.template?, Option.bind, template_in_step listed inStep]
      cases (tables.served workshop.recipe).get? name <;> rfl

omit inStep in
theorem step_used (step : SetStep) :
    workshop.step (.use number step) = workshop.use number tables step := by
  simp only [Workshop.step, listed]

end

theorem stands_added (stands : workshop.Stands number lone) (name source : Text)
    (path : Option Text) :
    let alone := (lone.counting workshop.session.ticks).step (.add name source path)
    let (answer, after) := workshop.step (.use number (.add name source path))
    answer = alone.1 ∧ after.Stands number alone.2 := by
  obtain ⟨tables, listed, inStep, served⟩ := stands.tables
  have recipes : lone.set.recipe = workshop.recipe := by
    rw [← served]
    rfl
  simp only [step_used listed, use, LoneSet.step, LoneSet.counting, TemplateSet.add_compiles, recipes]
  cases TemplateSet.compile workshop.recipe name source path with
  | error problem => exact ⟨rfl, ⟨tables, listed, inStep, served⟩, stands.alike.counting _⟩
  | ok program =>
      -- Both tables of the set take the program, so what it serves grows as the lone set does.
      have grown := SetTables.adding_served workshop.recipe inStep name program
      have inside := (List.getElem?_eq_some_iff.mp listed).1
      rw [served] at grown
      refine ⟨congrArg (fun set => WorkshopAnswer.added set.names) grown,
        ⟨_, List.getElem?_set_self inside, ?_, grown⟩, stands.alike.counting _⟩
      exact SetTables.adding_in_step inStep name program

theorem stands_rendered (stands : workshop.Stands number lone) (name : Text) (data : Data) :
    let alone := (lone.counting workshop.session.ticks).step (.text name data)
    let (answer, after) := workshop.step (.use number (.text name data))
    answer = alone.1 ∧ after.Stands number alone.2 := by
  obtain ⟨tables, listed, inStep, served⟩ := stands.tables
  simp only [step_used listed, use, LoneSet.step, LoneSet.counting, template_in_step listed inStep,
    served]
  cases lone.set.get? name with
  | none => exact ⟨rfl, ⟨tables, listed, inStep, served⟩, stands.alike.counting _⟩
  | some code =>
      simp only [Option.map_some, Session.renderText, stands.alike.home]
      exact ⟨trivial, ⟨tables, listed, inStep, served⟩, (stands.alike.counting _).leaving _⟩

theorem stands_shown (stands : workshop.Stands number lone) (name : Text) (data : Data)
    (response : Response) :
    let alone := (lone.counting workshop.session.ticks).step (.page name data response)
    let (answer, after) := workshop.step (.use number (.page name data response))
    answer = alone.1 ∧ after.Stands number alone.2 := by
  obtain ⟨tables, listed, inStep, served⟩ := stands.tables
  simp only [step_used listed, use, LoneSet.step, LoneSet.counting,
    render_page_in_step listed inStep, served]
  have same := stands.alike.rendered_answer name data lone.set response
  exact ⟨congrArg (fun answer => WorkshopAnswer.page answer.1 answer.2) same,
    ⟨tables, listed, inStep, served⟩, stands.alike.rendered name data lone.set response⟩

/-- What is done with a set has the answer of a set that stands alone, and the set still stands. -/
theorem stands_used (stands : workshop.Stands number lone) (step : SetStep) :
    let alone := (lone.counting workshop.session.ticks).step step
    let (answer, after) := workshop.step (.use number step)
    answer = alone.1 ∧ after.Stands number alone.2 := by
  cases step with
  | add name source path => exact stands_added stands name source path
  | text name data => exact stands_rendered stands name data
  | page name data response => exact stands_shown stands name data response

theorem stands_beside (stands : workshop.Stands number lone) (codes : List (Text × Entry)) :
    (workshop.making codes).Stands number lone := by
  obtain ⟨tables, listed, inStep, served⟩ := stands.tables
  refine ⟨⟨tables, ?_, inStep, served⟩, stands.alike.opening 1⟩
  exact (List.getElem?_append_left (List.getElem?_eq_some_iff.mp listed).1).trans listed

/-- A set stands as it did whatever is done with another set that is in step. -/
theorem stands_apart (stands : workshop.Stands number lone) {other : Nat} (apart : number ≠ other)
    {twin : SetTables} (beside : workshop.sets[other]? = some twin) (inStep : twin.InStep other)
    (step : SetStep) : (workshop.step (.use other step)).2.Stands number lone := by
  rw [step_used beside]
  obtain ⟨tables, listed, own, served⟩ := stands.tables
  cases step with
  | add name source path =>
      simp only [use]
      cases TemplateSet.compile workshop.recipe name source path with
      | error problem => exact stands
      | ok program =>
          exact ⟨⟨tables, (List.getElem?_set_ne (Ne.symm apart)).trans listed, own, served⟩,
            stands.alike⟩
  | text name data =>
      simp only [use, template_in_step beside inStep]
      cases (twin.served workshop.recipe).get? name with
      | none => exact stands
      | some code =>
          exact ⟨⟨tables, listed, own, served⟩, stands.alike.leaving_other apart _⟩
  | page name data response =>
      simp only [use, render_page_in_step beside inStep]
      exact ⟨⟨tables, listed, own, served⟩,
        stands.alike.rendered_other apart name data _ response⟩

/-- A set that is made of code stands as one that has the code and has kept nothing. -/
theorem stands_made (numbered : workshop.session.sets = workshop.sets.length)
    {codes : List (Text × Entry)} (holds : lone.set = ⟨workshop.recipe, codes⟩)
    (bare : lone.session.homes = [.empty]) :
    (workshop.making codes).Stands workshop.sets.length lone := by
  have inStep := SetTables.binding_in_step workshop.sets.length codes
  refine ⟨⟨_, by simp [making], inStep, ?_⟩, ?_, ?_, fun ticks => ?_⟩
  · rw [SetTables.served_codes inStep, holds]
    rfl
  · rw [← numbered]
    simp [making, Session.opening, Session.sets]
  · simp [Session.sets, bare]
  · -- A new set starts its renders from a bare home, as does a lone set that has rendered nothing.
    have new := Session.home_of_new (workshop.session.counting ticks) 1 (Nat.le_of_eq numbered)
    refine new.trans ?_
    simp [Session.home, Session.counting, bare, World.bare]

end Workshop

namespace LoneSet

theorem after_append (lone : LoneSet) (history : History) (ticks : Nat) (step : SetStep) :
    lone.after (history ++ [(ticks, step)]) = (((lone.after history).counting ticks).step step).2 := by
  simp [after, List.foldl_append]

def held (set : TemplateSet) : SetStep → TemplateSet
  | .add name source path =>
    match set.add name source path with
    | .ok grown => grown
    | .error _ => set
  | _ => set

theorem step_set (lone : LoneSet) (step : SetStep) :
    (lone.step step).2.set = held lone.set step := by
  cases step with
  | add name source path =>
      simp only [LoneSet.step, held]
      cases lone.set.add name source path <;> rfl
  | text name data =>
      simp only [LoneSet.step]
      cases lone.set.get? name <;> rfl
  | page name data response => rfl

theorem held_recipe (set : TemplateSet) (step : SetStep) : (held set step).recipe = set.recipe := by
  cases step with
  | add name source path =>
      rw [held, TemplateSet.add_compiles]
      cases TemplateSet.compile set.recipe name source path <;> rfl
  | text name data => rfl
  | page name data response => rfl

theorem held_not_inherited {set : TemplateSet} {step : SetStep}
    (passed : step.isInherited set.recipe = false) : held set step = set := by
  cases step with
  | add name source path =>
      rw [SetStep.isInherited] at passed
      rw [held, TemplateSet.add_compiles]
      cases compiled : TemplateSet.compile set.recipe name source path with
      | error problem => rfl
      | ok program =>
          rw [compiled] at passed
          cases passed
  | text name data => rfl
  | page name data response => rfl

theorem rebuilt_recipe (recipe : Recipe) (history : History) :
    (rebuilt recipe history).set.recipe = recipe := by
  induction history using List.reverseRecOn with
  | nil => rfl
  | append_singleton history last ih =>
      rw [rebuilt, after_append, step_set, held_recipe]
      exact ih

/-- What is inherited lets a set keep what it has kept. -/
theorem step_inherited {recipe : Recipe} {step : SetStep}
    (inherited : step.isInherited recipe = true) (lone : LoneSet) :
    (lone.step step).2.session = lone.session := by
  cases step with
  | add name source path =>
      simp only [LoneSet.step]
      cases lone.set.add name source path <;> rfl
  | text name data => cases inherited
  | page name data response => cases inherited

theorem rebuilt_append (recipe : Recipe) (history : History) (ticks : Nat) (step : SetStep) :
    rebuilt recipe (history ++ [(ticks, step)]) =
      (((rebuilt recipe history).counting ticks).step step).2 :=
  after_append (fresh recipe) history ticks step

/-- A set that takes over the inherited part of a history holds the same, and has kept nothing. -/
theorem rebuilt_inherited (recipe : Recipe) (history : History) :
    let clone := rebuilt recipe (inheritedHistory recipe history)
    clone.set = (rebuilt recipe history).set ∧ clone.session.homes = [.empty] := by
  induction history using List.reverseRecOn with
  | nil => exact ⟨rfl, rfl⟩
  | append_singleton history last ih =>
      -- The last step adds what it also adds to the clone, or is passed over and adds nothing.
      obtain ⟨ticks, step⟩ := last
      rw [rebuilt_append, step_set, inheritedHistory, List.filter_append]
      cases inherits : step.isInherited recipe with
      | false =>
          rw [List.filter_cons_of_neg (by simp [inherits]), List.filter_nil, List.append_nil,
            held_not_inherited]
          · exact ih
          · exact (congrArg step.isInherited (rebuilt_recipe recipe history)).trans inherits
      | true =>
          rw [List.filter_cons_of_pos (by simp [inherits]), List.filter_nil]
          simp only [rebuilt_append, step_set, step_inherited inherits]
          exact ⟨congrArg (fun set => held set step) ih.1, ih.2⟩

end LoneSet

namespace Story

/-- The histories of a story are those of its sets, and each set stands as its history alone makes it. -/
structure Sound (story : Story) : Prop where
  counted : story.histories.length = story.workshop.sets.length
  numbered : story.workshop.session.sets = story.workshop.sets.length
  stands : ∀ number history, story.histories[number]? = some history →
    story.workshop.Stands number (.rebuilt story.workshop.recipe history)

variable {story : Story}

theorem Sound.in_step (sound : story.Sound) {number : Nat} {tables : SetTables}
    (listed : story.workshop.sets[number]? = some tables) : tables.InStep number := by
  have inside := (List.getElem?_eq_some_iff.mp listed).1
  rw [← sound.counted] at inside
  obtain ⟨own, found, inStep, _⟩ :=
    (sound.stands number _ (List.getElem?_eq_getElem inside)).tables
  cases listed.symm.trans found
  exact inStep

theorem made_sound (sound : story.Sound) {codes : List (Text × Entry)} {history : History}
    (holds : (LoneSet.rebuilt story.workshop.recipe history).set = ⟨story.workshop.recipe, codes⟩)
    (bare : (LoneSet.rebuilt story.workshop.recipe history).session.homes = [.empty]) :
    Sound ⟨story.workshop.making codes, story.histories ++ [history]⟩ := by
  refine ⟨?_, ?_, fun number told found => ?_⟩
  · simp [Workshop.making, sound.counted]
  · have numbered := sound.numbered
    simp [Workshop.making, Session.opening, Session.sets] at numbered ⊢
    exact numbered
  · rcases Entries.place_of_concat found with earlier | ⟨rfl, rfl⟩
    · exact Workshop.stands_beside (sound.stands number told earlier) codes
    · simp only [sound.counted]
      exact Workshop.stands_made sound.numbered holds bare

theorem use_counts (workshop : Workshop) (number : Nat) (step : SetStep) :
    let after := (workshop.step (.use number step)).2
    after.recipe = workshop.recipe ∧ after.sets.length = workshop.sets.length ∧
      after.session.sets = workshop.session.sets := by
  simp only [Workshop.step]
  cases workshop.sets[number]? with
  | none => exact ⟨rfl, rfl, rfl⟩
  | some tables =>
      cases step with
      | add name source path =>
          simp only [Workshop.use]
          cases TemplateSet.compile workshop.recipe name source path with
          | error problem => exact ⟨rfl, rfl, rfl⟩
          | ok program => exact ⟨rfl, List.length_set, rfl⟩
      | text name data =>
          simp only [Workshop.use]
          cases workshop.template? tables name with
          | none => exact ⟨rfl, rfl, rfl⟩
          | some found => exact ⟨rfl, rfl, List.length_set⟩
      | page name data response =>
          refine ⟨rfl, rfl, ?_⟩
          simp only [Workshop.use, Workshop.renderPage]
          cases PageRender.announce (.make name data none none) response with
          | error failure => rfl
          | ok announced =>
              simp only
              cases workshop.template? tables name with
              | none => rfl
              | some found => exact List.length_set

theorem used_sound (sound : story.Sound) (number : Nat) (step : SetStep) :
    (story.next (.use number step)).Sound := by
  obtain ⟨recipes, counts, numbers⟩ := use_counts story.workshop number step
  refine ⟨?_, numbers.trans (sound.numbered.trans counts.symm), fun place told found => ?_⟩
  · simp only [next, Story.told, List.length_modify, counts, sound.counted]
  · simp only [next, Story.told, List.getElem?_modify] at found
    obtain ⟨history, earlier, rfl⟩ := Option.map_eq_some_iff.mp found
    have stands := sound.stands place history earlier
    simp only [next, recipes]
    -- Only the history of the set that is used gets longer; every other set stands as it did.
    by_cases here : number = place
    · subst here
      rw [if_pos rfl, LoneSet.rebuilt_append]
      exact (Workshop.stands_used stands step).2
    · rw [if_neg here]
      cases beside : story.workshop.sets[number]? with
      | none =>
          simp only [Workshop.step, beside]
          exact stands
      | some twin =>
          exact Workshop.stands_apart stands (Ne.symm here) beside (sound.in_step beside) step

theorem next_sound (sound : story.Sound) (step : WorkshopStep) : (story.next step).Sound := by
  cases step with
  | newSet => exact @made_sound story sound [] [] rfl rfl
  | clone number =>
      cases listed : story.workshop.sets[number]? with
      | none =>
          have untold : story.histories[number]? = none := by
            rw [List.getElem?_eq_none_iff] at listed ⊢
            rw [sound.counted]
            exact listed
          simpa [next, Story.told, Workshop.step, listed, untold] using sound
      | some tables =>
          have inside := (List.getElem?_eq_some_iff.mp listed).1
          rw [← sound.counted] at inside
          have found := List.getElem?_eq_getElem inside
          obtain ⟨own, again, inStep, served⟩ := (sound.stands number _ found).tables
          cases listed.symm.trans again
          -- The inherited history leads to the code that the cloned set serves, but to none of what
          -- its renders have kept, and that is what a clone is made of.
          obtain ⟨same, bare⟩ :=
            LoneSet.rebuilt_inherited story.workshop.recipe story.histories[number]
          simp only [next, Story.told, Workshop.step, listed, found, Option.map_some,
            Option.toList_some]
          refine made_sound sound (same.trans ?_) bare
          rw [← served, SetTables.served_codes inStep]
  | use number step => exact used_sound sound number step

theorem next_recipe (story : Story) (step : WorkshopStep) :
    (story.next step).workshop.recipe = story.workshop.recipe := by
  cases step with
  | newSet => rfl
  | clone number =>
      simp only [next, Workshop.step]
      cases story.workshop.sets[number]? <;> rfl
  | use number step => exact (use_counts story.workshop number step).1

theorem of_steps_sound (recipe : Recipe) (steps : List WorkshopStep) :
    (ofSteps recipe steps).Sound ∧ (ofSteps recipe steps).workshop.recipe = recipe := by
  induction steps using List.reverseRecOn with
  | nil => exact ⟨⟨rfl, rfl, nofun⟩, rfl⟩
  | append_singleton steps last ih =>
      rw [ofSteps, List.foldl_append]
      exact ⟨next_sound ih.1 last, (next_recipe _ last).trans ih.2⟩

end Story

/-- Why an addition is refused. -/
inductive Refusal (recipe : Recipe) (name source : Text) (path : Option Text) : Problem → Prop where
  /-- The source is at fault. -/
  | source {fault : Template.SyntaxFault}
    (wrong : TemplateSet.translated recipe name source = .error (.source fault))
    (fits : TemplateSet.fitsCode path = true) :
    Refusal recipe name source path
      (.fault (.parse (.text name) (.text fault.reason) (.int fault.line)))
  /-- A constant of the source cannot be computed. That is no fault of templates. -/
  | constant {failure : Failure}
    (wrong : TemplateSet.translated recipe name source = .error (.failure failure)) :
    Refusal recipe name source path (.failure failure)
  /-- Code cannot be filed under the path. That is no fault of templates either. -/
  | path (computed : ∀ failure, TemplateSet.translated recipe name source ≠ .error (.failure failure))
    (unfit : TemplateSet.fitsCode path = false) :
    Refusal recipe name source path (.failure TemplateSet.badPath)

theorem refusal_of_compile {recipe : Recipe} {name source : Text} {path : Option Text}
    {problem : Problem} :
    TemplateSet.compile recipe name source path = .error problem ↔
      Refusal recipe name source path problem := by
  rw [TemplateSet.compile_error]
  constructor
  · rintro (⟨fault, wrong, fits, rfl⟩ | ⟨failure, wrong, rfl⟩ | ⟨computed, unfit, rfl⟩)
    · exact .source wrong fits
    · exact .constant wrong
    · exact .path computed unfit
  · rintro (⟨wrong, fits⟩ | wrong | ⟨computed, unfit⟩)
    · exact .inl ⟨_, wrong, fits, rfl⟩
    · exact .inr (.inl ⟨_, wrong, rfl⟩)
    · exact .inr (.inr ⟨computed, unfit, rfl⟩)

namespace Workshop

/-- A set of a workshop behaves as one that stands alone. -/
structure StandsAlone (workshop : Workshop) (number : Nat) (lone : LoneSet) : Prop where
  /-- Its tables are in step, and serve what the lone set holds: the same code under the same names. -/
  tables : ∃ tables, workshop.sets[number]? = some tables ∧ tables.InStep number ∧
    tables.served workshop.recipe = lone.set
  /-- Its loader gives the templates of the lone set, bound to the environment of this set. -/
  loads : ∀ tables, workshop.sets[number]? = some tables → ∀ name,
    workshop.template? tables name =
      (lone.set.get? name).map fun code => (number, lone.set, code)
  /-- Whatever is done with it next has the answer of the lone set after as many calls. -/
  answers : ∀ step, (workshop.step (.use number step)).1 =
    ((lone.counting workshop.session.ticks).step step).1
  /-- An addition fails exactly if it is refused. -/
  refuses : ∀ name source path problem,
    (workshop.step (.use number (.add name source path))).1 = .failed problem ↔
      Refusal workshop.recipe name source path problem
  /-- An addition that fails leaves the whole workshop as it was. -/
  unchanged : ∀ name source path problem,
    (workshop.step (.use number (.add name source path))).1 = .failed problem →
      (workshop.step (.use number (.add name source path))).2 = workshop

theorem Stands.alone {workshop : Workshop} {number : Nat} {lone : LoneSet}
    (stands : workshop.Stands number lone) : workshop.StandsAlone number lone := by
  obtain ⟨tables, listed, inStep, served⟩ := stands.tables
  refine ⟨⟨tables, listed, inStep, served⟩, fun same again name => ?_,
    fun step => (stands_used stands step).1, fun name source path problem => ?_,
    fun name source path problem => ?_⟩
  · cases listed.symm.trans again
    rw [template_in_step listed inStep, served]
  · rw [← refusal_of_compile, step_used listed, use]
    cases TemplateSet.compile workshop.recipe name source path <;> simp
  · rw [step_used listed, use]
    cases TemplateSet.compile workshop.recipe name source path <;> simp

/-- A set and a clone of it, of which the one gets another template and the other one more. -/
def cloneSteps : List WorkshopStep :=
  [ .newSet,
    .use 0 (.add "base.html" "old" none),
    .clone 0,
    .use 0 (.add "base.html" "new" none),
    .use 1 (.add "page.html" "\x7b% include 'base.html' %\x7d" none),
    .use 1 (.text "page.html" .none) ]

def unfinished : SetStep := .add "base.html" "\x7b% if %\x7d" none

end Workshop

end PageTemplates
