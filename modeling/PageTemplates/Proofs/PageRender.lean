import Mathlib.Data.List.GetD
import PageTemplates.PageRender

/-!
What a render depends on, and what it leaves. The number of a template set only says where the world
is that the set has kept. So what a page shows follows from its name, its data, its set and that world,
and renders that agree on these leave the same response, end the same way and let their sets keep the
same, in whatever sessions they take place. No render touches what other sets have kept.
-/

namespace PageTemplates

/-- The world of a set that has kept nothing. -/
def World.bare (ticks : Nat) : World := { World.empty with ticks := ticks }

namespace Session

@[simp] theorem home_logging (session : Session) (lines : List LogLine) (number : Nat) :
    (session.logging lines).home number = session.home number := rfl

/-- A set that was just made has kept nothing. -/
theorem home_of_new (session : Session) (count : Nat) {number : Nat}
    (new : session.sets ≤ number) : (session.opening count).home number = .bare session.ticks := by
  simp only [home, opening, World.bare]
  rw [List.getD_append_right _ _ _ _ new, List.getD_eq_getElem?_getD, List.getElem?_replicate]
  split <;> rfl

/-- A set keeps what it has kept when others are made. -/
theorem home_opening {session : Session} {number : Nat} (known : number < session.sets)
    (count : Nat) : (session.opening count).home number = session.home number := by
  simp only [home, opening]
  rw [List.getD_append _ _ _ _ known]

/-- What a set leaves is of no concern to other sets, except for the calls that were counted. -/
theorem home_leaving {session : Session} {number other : Nat} (apart : other ≠ number)
    (world : World) :
    (session.leaving number world).home other =
      { session.home other with ticks := world.ticks } := by
  simp only [home, leaving, List.getD_eq_getElem?_getD]
  rw [List.getElem?_set_ne (Ne.symm apart)]

theorem home_left {session : Session} {number : Nat} (known : number < session.sets)
    (world : World) :
    (session.leaving number world).home number = { world.kept with ticks := world.ticks } := by
  simp only [home, leaving, List.getD_eq_getElem?_getD]
  rw [List.getElem?_set_self known, Option.getD_some]

theorem home_modules {session : Session} (nothing : ∀ home ∈ session.homes, home.modules = [])
    (number : Nat) : (session.home number).modules = [] := by
  simp only [home, List.getD_eq_getElem?_getD]
  cases found : session.homes[number]? with
  | none => rfl
  | some world => exact nothing world (List.mem_of_getElem? found)

end Session

namespace PageRender

/-- What a client and a host see of a render: the response, and what went wrong. -/
def Outcome.answer (outcome : Outcome) : Response × Option Problem :=
  (outcome.response, outcome.problem)

theorem write_template_answer {page other : PageRender} {session elsewhere : Session}
    {number place : Nat} (set : TemplateSet) (entry : Entry) (response : Response)
    (names : page.name = other.name) (payloads : page.data = other.data)
    (homes : session.home number = elsewhere.home place) :
    (page.writeTemplate number set entry session response).2.answer =
      (other.writeTemplate place set entry elsewhere response).2.answer := by
  simp only [writeTemplate, Outcome.answer, names, payloads, homes]

theorem write_body_answer {page other : PageRender} {session elsewhere : Session}
    (names : page.name = other.name) (payloads : page.data = other.data)
    (faults : page.fault = other.fault)
    (sets : page.found.map Prod.snd = other.found.map Prod.snd)
    (homes : ∀ number set place same, page.found = some (number, set) →
      other.found = some (place, same) → session.home number = elsewhere.home place)
    (response : Response) :
    (page.writeBody session response).2.answer =
      (other.writeBody elsewhere response).2.answer := by
  simp only [writeBody, template?, faults, names]
  cases other.fault with
  | some fault => rfl
  | none =>
      cases mine : page.found with
      | none =>
          have theirs : other.found = none := by simpa [mine] using sets.symm
          rw [theirs]
          rfl
      | some pair =>
          obtain ⟨number, set⟩ := pair
          cases theirs : other.found with
          | none => simp [mine, theirs] at sets
          | some pair =>
              obtain ⟨place, same⟩ := pair
              have equal : set = same := by simpa [mine, theirs] using sets
              subst equal
              simp only [Option.bind_some]
              cases set.get? other.name with
              | none => rfl
              | some entry =>
                  exact write_template_answer set entry response names payloads
                    (homes number set place set mine theirs)

/-- Renders of the same name, data and set leave the same response and end the same way if the set
has kept the same in both places. -/
theorem render_answer {page other : PageRender} {session elsewhere : Session}
    (names : page.name = other.name) (payloads : page.data = other.data)
    (faults : page.fault = other.fault)
    (sets : page.found.map Prod.snd = other.found.map Prod.snd)
    (homes : ∀ number set place same, page.found = some (number, set) →
      other.found = some (place, same) → session.home number = elsewhere.home place)
    (response : Response) :
    (page.render session response).2.answer = (other.render elsewhere response).2.answer := by
  simp only [render, announce]
  cases response.writeContentType with
  | error failure => rfl
  | ok announced =>
      exact @write_body_answer { page with announced := true } { other with announced := true }
        session elsewhere names payloads faults sets homes announced

/-- How the render of a template ends, given what its set has kept. -/
def ending (page : PageRender) (set : TemplateSet) (entry : Entry) (home : World)
    (response : Response) : Ending :=
  let placed := page.data.placed home
  let trace := set.trace placed.2 page.name entry placed.1
  writeAll page.name (ended page.name trace) trace.emissions response

/-- The session stays as it is in a render without a template; with one, the set keeps what is left of
the world in which the template ran. -/
theorem render_session (page : PageRender) (session : Session) (response : Response) :
    (page.render session response).2.session =
      match page.fault, page.template?, response.writeContentType with
      | none, some (number, set, entry), .ok announced =>
        (session.leaving number
          (page.ending set entry (session.home number) announced).world).logging
          (page.ending set entry (session.home number) announced).lines
      | _, _, _ => session := by
  cases written : response.writeContentType with
  | error failure =>
      simp only [render, announce, written, bind, Except.bind]
      split <;> simp_all
  | ok announced =>
      have body : page.render session response =
          ({ page with announced := true } : PageRender).writeBody session announced := by
        simp only [render, announce, written, bind, Except.bind, pure, Except.pure]
      have template : ({ page with announced := true } : PageRender).template? =
          page.template? := rfl
      rw [body, writeBody, template]
      cases page.fault with
      | some fault => rfl
      | none =>
          cases page.template? with
          | none => rfl
          | some triple => rfl

theorem render_session_absent {page : PageRender} (absent : page.template? = none)
    (session : Session) (response : Response) :
    (page.render session response).2.session = session := by
  rw [render_session, absent]
  split
  · rename_i found _
    cases found
  · rfl

theorem render_sets (page : PageRender) (session : Session) (response : Response) :
    (page.render session response).2.session.sets = session.sets := by
  rw [render_session]
  split
  · exact List.length_set
  · rfl

/-- A render does not touch what another set has kept. -/
theorem render_other_home (page : PageRender) (session : Session) (response : Response)
    {number : Nat} (apart : ∀ place set, page.found = some (place, set) → number ≠ place) :
    (page.render session response).2.session.home number =
      { session.home number with
        ticks := (page.render session response).2.session.ticks } := by
  rw [render_session]
  split
  · rename_i place set entry announced _ found _
    have differ : number ≠ place := by
      obtain ⟨pair, here, there⟩ := Option.bind_eq_some_iff.mp found
      obtain ⟨_, _, same⟩ := Option.map_eq_some_iff.mp there
      cases same
      exact apart _ _ here
    rw [Session.home_logging, Session.home_leaving differ]
    rfl
  · rfl

/-- What a set has kept after a render of one of its templates, given what it has kept before. -/
def lasting (page : PageRender) (set : TemplateSet) (home : World) (response : Response) : World :=
  match page.fault, set.get? page.name, response.writeContentType with
  | none, some entry, .ok announced =>
    let left := (page.ending set entry home announced).world
    { left.kept with ticks := left.ticks }
  | _, _, _ => home

/-- A render leaves its set a world that follows from what the set has kept before. -/
theorem render_home {page : PageRender} {session : Session} {number : Nat} {set : TemplateSet}
    (found : page.found = some (number, set)) (known : number < session.sets)
    (response : Response) :
    (page.render session response).2.session.home number =
      page.lasting set (session.home number) response := by
  have template : page.template? =
      (set.get? page.name).map fun entry => (number, set, entry) := by
    rw [template?, found, Option.bind_some]
  rw [render_session, lasting, template]
  cases page.fault with
  | some fault => rfl
  | none =>
      cases set.get? page.name with
      | none => rfl
      | some entry =>
          cases response.writeContentType with
          | error failure => rfl
          | ok announced =>
              simp only [Option.map_some, Session.home_logging]
              exact Session.home_left known _

theorem kept_without_modules {world : World} (nothing : world.kept.modules = []) :
    { world.kept with ticks := world.ticks } = World.bare world.ticks := by
  have empty : world.kept = .empty := by
    rw [World.kept] at nothing ⊢
    cases modules : world.modules with
    | nil => rfl
    | cons first rest =>
        simp only [modules, List.isEmpty_cons, Bool.false_eq_true, if_false] at nothing
        cases nothing
  rw [empty, World.bare]

/-- A set that has kept nothing and keeps no module has still kept nothing. -/
theorem lasting_bare {page : PageRender} {set : TemplateSet} {ticks : Nat} {response : Response}
    (nothing : (page.lasting set (World.bare ticks) response).modules = []) :
    page.lasting set (World.bare ticks) response =
      World.bare (page.lasting set (World.bare ticks) response).ticks := by
  rw [lasting] at nothing ⊢
  split at nothing
  · exact kept_without_modules nothing
  · rfl

end PageRender

end PageTemplates
