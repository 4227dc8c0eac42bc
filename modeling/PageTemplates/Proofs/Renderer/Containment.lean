import PageTemplates.Proofs.Build.Wrong
import PageTemplates.Proofs.Renderer
import PageTemplates.Proofs.Response

/-!
What a debug renderer keeps to itself. It is made whatever the source holds, and a fault that goes wrong
with a page is kept for the render of that page, which announces the page first and writes nothing. What
is not kept is a failure that is no fault: such a failure ends the request for the page itself.
-/

namespace PageTemplates

/-- A page that keeps a fault announces itself to a client and ends with the fault. -/
theorem PageRender.render_kept_fault {page : PageRender} {fault : Fault}
    (kept : page.fault = some fault) (session : Session) {response : Response}
    (named : response.headers.TextNamed) :
    ∃ headers, response.headers.writeContentType = .ok headers ∧
      headers.hasContentType = .ok true ∧
      page.render session response =
        ({ page with announced := true },
          ⟨{ response with headers := headers }, session, some (.fault fault)⟩) := by
  obtain ⟨headers, written, announced⟩ := HeaderMap.write_content_type_ok named
  refine ⟨headers, written, announced, ?_⟩
  simp only [render, announce, Response.writeContentType, written, bind, Except.bind, pure,
    Except.pure, writeBody, kept]

namespace Renderer

/-- How a debug renderer takes what goes wrong with a page of a name. -/
structure Contains (renderer : Renderer) (disk : Node) (session : Session) (name : Text)
    (data : Data) (wrong : Problem → Prop) : Prop where
  /-- A fault is kept, with one warning, until a render has announced the page. -/
  kept : ∀ fault, wrong (.fault fault) → fault.kind.isTemplate = true ∧
    ∃ page, renderer.page disk session name data =
        (.ok page, session.logging [deferral name fault]) ∧
      page.fault = some fault ∧
      ∀ later response, response.headers.TextNamed →
        ∃ headers, response.headers.writeContentType = .ok headers ∧
          headers.hasContentType = .ok true ∧
          page.render later response =
            ({ page with announced := true },
              ⟨{ response with headers := headers }, later, some (.fault fault)⟩)
  /-- Where nothing is wrong, nothing is kept or logged. -/
  clean : (∀ problem, ¬wrong problem) → ∃ page after,
    renderer.page disk session name data = (.ok page, after) ∧ page.fault = none ∧
      after.log = session.log
  /-- A request ends with a failure exactly if what goes wrong is one. -/
  escapes : ∀ failure, renderer.page disk session name data = (.error (.failure failure), session) ↔
    wrong (.failure failure)
  /-- A request ends in no other way than with a page or such a failure. -/
  ends : (∃ page after, renderer.page disk session name data = (.ok page, after)) ∨
    ∃ failure, renderer.page disk session name data = (.error (.failure failure), session)

theorem contains_of_wrong {options : RendererOptions} {root : Text}
    (rooted : Discovery.rootText options.root = .ok root) (disk : Node) (source : Source)
    (session : Session) (name : Text) (data : Data) :
    (watching options source).Contains disk session name data
      (Build.Wrong options.recipe disk source root options.extensions name) := by
  have compiled := compiled_watching options disk source rooted name
  have told : ∀ problem, (watching options source).compiled disk name = .error problem ↔
      Build.Wrong options.recipe disk source root options.extensions name problem := by
    intro problem
    rw [compiled]
    exact Build.one_set_wrong
  have faulty : ∀ fault, (watching options source).compiled disk name = .error (.fault fault) →
      fault.kind.isTemplate = true := by
    intro fault failed
    rw [compiled] at failed
    exact Build.one_set_faults _ _ _ _ _ _ _ failed
  have pages : ∀ result, (watching options source).compiled disk name = .ok result →
      ∃ page after, (watching options source).page disk session name data = (.ok page, after) ∧
        page.fault = none ∧ after.log = session.log := by
    intro result built
    cases result with
    | none => exact ⟨_, _, page_of_none data built, rfl, rfl⟩
    | some set => exact ⟨_, _, page_of_set data built, rfl, rfl⟩
  constructor
  case kept =>
    intro fault wrong
    have failed := (told _).mpr wrong
    have isTemplate := faulty fault failed
    exact ⟨isTemplate, _, page_of_fault data failed isTemplate, rfl,
      fun later response named => PageRender.render_kept_fault rfl later named⟩
  case clean =>
    intro fine
    cases outcome : (watching options source).compiled disk name with
    | error problem => exact absurd ((told problem).mp outcome) (fine problem)
    | ok result => exact pages result outcome
  case escapes =>
    intro failure
    rw [← told]
    refine ⟨fun ended => ?_, fun failed => page_of_failure data failed⟩
    cases outcome : (watching options source).compiled disk name with
    | ok result =>
        obtain ⟨page, after, asked, _⟩ := pages result outcome
        rw [asked] at ended
        cases ended
    | error problem =>
        cases problem with
        | fault fault =>
            rw [page_of_fault data outcome (faulty fault outcome)] at ended
            cases ended
        | failure other =>
            rw [page_of_failure data outcome] at ended
            cases ended
            rfl
  case ends =>
    cases outcome : (watching options source).compiled disk name with
    | ok result =>
        obtain ⟨page, after, asked, _⟩ := pages result outcome
        exact .inl ⟨page, after, asked⟩
    | error problem =>
        cases problem with
        | fault fault => exact .inl ⟨_, _, page_of_fault data outcome (faulty fault outcome)⟩
        | failure failure => exact .inr ⟨failure, page_of_failure data outcome⟩

/-- A page with a tag that is not finished. -/
def unfinishedSource : Source := .ofTexts [("templates/index.html", "{% if %}")]

/-- A page at a path that no code can be filed under. -/
def unfiledSource : Source := .ofTexts [("templates/\x00.html", "hello")]

end Renderer

end PageTemplates
