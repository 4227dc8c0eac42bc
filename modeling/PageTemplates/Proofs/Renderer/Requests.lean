import PageTemplates.Proofs.Renderer

/-!
Requests that a release renderer serves one after the other. The only thing that one render hands to
the next is a module that its page set keeps, made of a template that was imported without a context. So
requests for other pages never matter, and a request is served as if it were the first one, unless an
earlier request for the same page has left a module behind.
-/

namespace PageTemplates

/-- What a client asks for: a page, with the data to show in it and the response to write to. -/
structure Request where
  name : Text
  data : Data
  response : Response

/-- A request, with how often the counting function has been called before it. -/
structure Visit where
  ticks : Nat
  request : Request

namespace Session

/-- The session with another count of calls. -/
def counting (session : Session) (ticks : Nat) : Session := { session with ticks := ticks }

/-- Sets of two sessions that have kept the same, whatever calls are counted. -/
structure KeepAlike (now elsewhere : Session) (number place : Nat) : Prop where
  known : number < now.sets
  there : place < elsewhere.sets
  homes : ∀ ticks, (now.counting ticks).home number = (elsewhere.counting ticks).home place

/-- Sets that were just made have kept the same. -/
theorem numbering_alike (session other : Session) {sets : List (Text × TemplateSet)} {name : Text}
    {number place : Nat} {set twin : TemplateSet}
    (found : (session.numbering sets).1.lookup name = some (number, set))
    (too : (other.numbering sets).1.lookup name = some (place, twin)) :
    KeepAlike (session.numbering sets).2 (other.numbering sets).2 number place := by
  have known := numbering_known found
  have there := numbering_known too
  refine ⟨known.2, there.2, fun ticks => ?_⟩
  have bare := home_of_new (session.counting ticks) sets.length known.1
  exact bare.trans (home_of_new (other.counting ticks) sets.length there.1).symm

theorem home_counting (session : Session) (ticks number : Nat) :
    (session.counting ticks).home number = { session.home number with ticks := ticks } := rfl

theorem KeepAlike.refl {session : Session} {number : Nat} (known : number < session.sets) :
    KeepAlike session session number number :=
  ⟨known, known, fun _ => rfl⟩

theorem KeepAlike.trans {first second third : Session} {number place spot : Nat}
    (left : KeepAlike first second number place) (right : KeepAlike second third place spot) :
    KeepAlike first third number spot :=
  ⟨left.known, right.there, fun ticks => (left.homes ticks).trans (right.homes ticks)⟩

end Session

namespace Renderer

/-- Serves a request. -/
def serve (renderer : Renderer) (disk : Node) (session : Session) (request : Request) :
    PageRender.Outcome :=
  renderer.render disk session request.name request.data request.response

/-- The session after requests that were served in order. -/
def serveAll (renderer : Renderer) (disk : Node) (session : Session) (requests : List Request) :
    Session :=
  requests.foldl (fun session request => (renderer.serve disk session request).session) session

/-- Serves the request of a visit, after as many calls as it says. -/
def serveVisit (renderer : Renderer) (disk : Node) (session : Session) (visit : Visit) :
    PageRender.Outcome :=
  renderer.serve disk (session.counting visit.ticks) visit.request

/-- The session after visits in order. -/
def serveVisits (renderer : Renderer) (disk : Node) (session : Session) (visits : List Visit) :
    Session :=
  visits.foldl (fun session visit => (renderer.serveVisit disk session visit).session) session

/-- The visits of one page among requests that are served in order. -/
def visits (renderer : Renderer) (disk : Node) (name : Text) : Session → List Request → List Visit
  | _, [] => []
  | session, request :: rest =>
    let later := visits renderer disk name (renderer.serve disk session request).session rest
    if request.name = name then ⟨session.ticks, request⟩ :: later else later

section

variable (options : RendererOptions) (disk : Node) (source : Source)

/-- A visit to a release renderer that was made for it and for some visits before it. -/
def anew (before : List Visit) (visit : Visit) : Except Problem PageRender.Outcome :=
  (make (options.inMode .release) disk source .start).map fun (renderer, session) =>
    renderer.serveVisit disk (renderer.serveVisits disk session before) visit

/-- A request after which no set has kept a module if it is served alone. -/
def KeepsNothing (request : Request) : Prop :=
  ∀ ticks outcome, anew options disk source [] ⟨ticks, request⟩ = .ok outcome →
    ∀ home ∈ outcome.session.homes, home.modules = []

end

theorem visits_named (renderer : Renderer) (disk : Node) (name : Text) (session : Session)
    (requests : List Request) :
    ∀ visit ∈ renderer.visits disk name session requests,
      visit.request ∈ requests ∧ visit.request.name = name := by
  induction requests generalizing session with
  | nil => intro visit member; cases member
  | cons request rest ih =>
      intro visit member
      have later := ih (renderer.serve disk session request).session visit
      rw [visits] at member
      by_cases here : request.name = name
      · rcases List.mem_cons.mp (by simpa only [if_pos here] using member) with rfl | inRest
        · exact ⟨List.mem_cons_self, here⟩
        · exact ⟨List.mem_cons_of_mem _ (later inRest).1, (later inRest).2⟩
      · have inRest := later (by simpa only [if_neg here] using member)
        exact ⟨List.mem_cons_of_mem _ inRest.1, inRest.2⟩

section

variable {options : RendererOptions} {disk : Node} {source : Source} {start : Session}

/-- What release renderers are made of does not depend on the session. -/
theorem release_made {release : Renderer} {session : Session}
    (made : make (options.inMode .release) disk source start = .ok (release, session)) :
    ∃ sets, release = serving options source (start.numbering sets).1 ∧
      session = (start.numbering sets).2 ∧
      ∀ other : Session, make (options.inMode .release) disk source other =
        .ok (serving options source (other.numbering sets).1, (other.numbering sets).2) := by
  cases rooted : Discovery.rootText options.root with
  | error failure => rw [make_release_unrooted _ _ _ _ rooted] at made; cases made
  | ok root =>
      have outcomes := fun other => make_release options disk source other rooted
      rw [outcomes] at made
      obtain ⟨sets, built, same⟩ := Results.map_ok.mp made
      cases same
      refine ⟨sets, rfl, rfl, fun other => ?_⟩
      rw [outcomes, built]
      rfl

theorem anew_outcome {sets : List (Text × TemplateSet)}
    (remade : ∀ other : Session, make (options.inMode .release) disk source other =
      .ok (serving options source (other.numbering sets).1, (other.numbering sets).2))
    (before : List Visit) (visit : Visit) :
    let release := serving options source (Session.start.numbering sets).1
    anew options disk source before visit =
      .ok (release.serveVisit disk
        (release.serveVisits disk (Session.start.numbering sets).2 before) visit) := by
  rw [anew, remade]
  rfl

theorem serve_answer {now elsewhere : Session} {registry other : Registry} (request : Request)
    (found : (registry.lookup request.name).map Prod.snd =
      (other.lookup request.name).map Prod.snd)
    (homes : ∀ number set place same, registry.lookup request.name = some (number, set) →
      other.lookup request.name = some (place, same) → now.home number = elsewhere.home place) :
    ((serving options source registry).serve disk now request).answer =
      ((serving options source other).serve disk elsewhere request).answer := by
  rw [serve, serve, render_of_page (page_of_registry registry request.data),
    render_of_page (page_of_registry other request.data)]
  refine PageRender.render_answer ?_ ?_ ?_ found homes request.response
  all_goals rfl

theorem serve_session (registry : Registry) (now : Session) (request : Request) :
    ((serving options source registry).serve disk now request).session =
      ((PageRender.make request.name request.data (registry.lookup request.name) none).render now
        request.response).2.session :=
  congrArg PageRender.Outcome.session (render_of_page (page_of_registry registry request.data) _)

theorem visit_sets (registry : Registry) (now : Session) (visit : Visit) :
    ((serving options source registry).serveVisit disk now visit).session.sets = now.sets := by
  rw [serveVisit, serve_session, PageRender.render_sets]
  rfl

section

variable (options disk source)
variable {now elsewhere : Session} {registry other : Registry} {name : Text} {number place : Nat}
  {set : TemplateSet}

/-- What a set keeps after a visit of its page follows from what it has kept before. -/
theorem visit_home {visit : Visit}
    (found : registry.lookup visit.request.name = some (number, set)) (known : number < now.sets) :
    ((serving options source registry).serveVisit disk now visit).session.home number =
      (PageRender.make visit.request.name visit.request.data none none).lasting set
        ((now.counting visit.ticks).home number) visit.request.response := by
  have listed : (PageRender.make visit.request.name visit.request.data
      (registry.lookup visit.request.name) none).found = some (number, set) := found
  have known' : number < (now.counting visit.ticks).sets := known
  rw [serveVisit, serve_session, PageRender.render_home listed known']
  rfl

/-- Sets that have kept the same keep the same after the same visit of their page. -/
theorem visit_alike (found : registry.lookup name = some (number, set))
    (too : other.lookup name = some (place, set)) (alike : now.KeepAlike elsewhere number place)
    {visit : Visit} (named : visit.request.name = name) :
    ((serving options source registry).serveVisit disk now visit).session.KeepAlike
      ((serving options source other).serveVisit disk elsewhere visit).session number place := by
  subst named
  refine ⟨?_, ?_, fun ticks => ?_⟩
  · rw [visit_sets]
    exact alike.known
  · rw [visit_sets]
    exact alike.there
  · rw [Session.home_counting, Session.home_counting, visit_home _ _ _ found alike.known,
      visit_home _ _ _ too alike.there, alike.homes]

/-- Sets that have kept the same keep the same over the same visits of their page. -/
theorem visit_all_alike (found : registry.lookup name = some (number, set))
    (too : other.lookup name = some (place, set)) {visits : List Visit}
    (named : ∀ visit ∈ visits, visit.request.name = name)
    (alike : now.KeepAlike elsewhere number place) :
    ((serving options source registry).serveVisits disk now visits).KeepAlike
      ((serving options source other).serveVisits disk elsewhere visits) number place := by
  induction visits generalizing now elsewhere with
  | nil => exact alike
  | cons visit rest ih =>
      have next := visit_alike options disk source found too alike
        (named visit List.mem_cons_self)
      exact ih (fun later member => named later (List.mem_cons_of_mem visit member)) next

/-- A visit of another page leaves what a set has kept as it was. -/
theorem visit_other {visit : Visit}
    (apart : ∀ spot twin, registry.lookup visit.request.name = some (spot, twin) → number ≠ spot)
    (alike : now.KeepAlike elsewhere number place) :
    ((serving options source registry).serveVisit disk now visit).session.KeepAlike elsewhere number
      place := by
  refine ⟨?_, alike.there, fun ticks => ?_⟩
  · rw [visit_sets]
    exact alike.known
  · have untouched := PageRender.render_other_home (PageRender.make visit.request.name
      visit.request.data (registry.lookup visit.request.name) none) (now.counting visit.ticks)
      visit.request.response apart
    rw [Session.home_counting, serveVisit, serve_session, untouched]
    exact alike.homes ticks

end

section

variable {now elsewhere : Session} {sets : List (Text × TemplateSet)} {name : Text}
  {number place : Nat} {set : TemplateSet}

variable (options disk source) in
/-- Over a run of requests, the set of a page keeps what it keeps over the visits of the page alone. -/
theorem serve_all_alike (found : (start.numbering sets).1.lookup name = some (number, set))
    {other : Registry} (too : other.lookup name = some (place, set)) (requests : List Request)
    (alike : now.KeepAlike elsewhere number place) :
    ((serving options source (start.numbering sets).1).serveAll disk now requests).KeepAlike
      ((serving options source other).serveVisits disk elsewhere
        ((serving options source (start.numbering sets).1).visits disk name now requests))
      number place := by
  induction requests generalizing now elsewhere with
  | nil => exact alike
  | cons request rest ih =>
      let visit : Visit := ⟨now.ticks, request⟩
      rw [visits]
      by_cases here : request.name = name
      · rw [if_pos here]
        exact ih (@visit_alike options disk source _ _ _ _ _ _ _ _ found too alike visit here)
      · rw [if_neg here]
        have apart : ∀ spot twin,
            (start.numbering sets).1.lookup visit.request.name = some (spot, twin) →
              number ≠ spot :=
          fun _ _ there => Session.numbering_apart (Ne.symm here) found there
        exact ih (visit_other options disk source apart alike)

/-- A set that has kept nothing keeps nothing over visits that keep nothing when they are made alone. -/
theorem visit_all_bare
    (remade : ∀ other : Session, make (options.inMode .release) disk source other =
      .ok (serving options source (other.numbering sets).1, (other.numbering sets).2))
    (found : (Session.start.numbering sets).1.lookup name = some (number, set))
    {visits : List Visit} (named : ∀ visit ∈ visits, visit.request.name = name)
    (tidy : ∀ visit ∈ visits, KeepsNothing options disk source visit.request)
    (alike : now.KeepAlike (Session.start.numbering sets).2 number number) :
    ((serving options source (Session.start.numbering sets).1).serveVisits disk now visits).KeepAlike
      (Session.start.numbering sets).2 number number := by
  induction visits generalizing now with
  | nil => exact alike
  | cons visit rest ih =>
      have here := named visit List.mem_cons_self
      have next := visit_alike options disk source found found alike here
      refine ih (fun later member => named later (List.mem_cons_of_mem visit member))
        (fun later member => tidy later (List.mem_cons_of_mem visit member)) (next.trans ?_)
      refine ⟨next.there, alike.there, fun ticks => ?_⟩
      subst here
      let fresh := (Session.start.numbering sets).2
      have bare : ∀ count, (fresh.counting count).home number = .bare count := fun count =>
        Session.home_of_new (Session.start.counting count) sets.length (Nat.zero_le number)
      have left := visit_home options disk source found alike.there
      have nothing : (((serving options source _).serveVisit disk fresh visit).session.home
          number).modules = [] :=
        Session.home_modules (tidy visit List.mem_cons_self visit.ticks _
          (anew_outcome remade [] visit)) number
      rw [left, bare] at nothing
      rw [Session.home_counting, left, bare, bare, PageRender.lasting_bare nothing]
      rfl

end

/-- A request for a page that is not there keeps nothing. -/
theorem unknown_keeps_nothing {release : Renderer} {session : Session}
    (made : make (options.inMode .release) disk source start = .ok (release, session))
    {request : Request}
    (unknown : ∀ registry, release.registry = some registry → registry.lookup request.name = none) :
    KeepsNothing options disk source request := by
  obtain ⟨sets, rfl, rfl, remade⟩ := release_made made
  intro ticks outcome served home member
  rw [anew_outcome remade] at served
  cases served
  have absent : (Session.start.numbering sets).1.lookup request.name = none := by
    have listed := (Session.numbering_lookup .start sets request.name).trans
      (Session.numbering_lookup start sets request.name).symm
    rw [unknown _ rfl] at listed
    exact Option.map_eq_none_iff.mp listed
  rw [serveVisit, serve_session, PageRender.render_session_absent (by rw [absent]; rfl)] at member
  have fresh : home ∈ [] ++ List.replicate sets.length World.empty := member
  rw [List.nil_append] at fresh
  rw [(List.mem_replicate.mp fresh).2]
  rfl

/-- Over a run of requests, the set of a page keeps what the set of a new renderer keeps over the
visits of the page, less those at the start that keep nothing. -/
theorem serve_all_skipping {sets : List (Text × TemplateSet)} {name : Text} {number place : Nat}
    {set : TemplateSet}
    (remade : ∀ other : Session, make (options.inMode .release) disk source other =
      .ok (serving options source (other.numbering sets).1, (other.numbering sets).2))
    (found : (start.numbering sets).1.lookup name = some (number, set))
    (again : (Session.start.numbering sets).1.lookup name = some (place, set))
    (requests : List Request) {skipped rest : List Visit}
    (split : (serving options source (start.numbering sets).1).visits disk name
      (start.numbering sets).2 requests = skipped ++ rest)
    (tidy : ∀ visit ∈ skipped, KeepsNothing options disk source visit.request) :
    ((serving options source (start.numbering sets).1).serveAll disk (start.numbering sets).2
        requests).KeepAlike
      ((serving options source (Session.start.numbering sets).1).serveVisits disk
        (Session.start.numbering sets).2 rest) number place := by
  have named : ∀ visit ∈ skipped ++ rest, visit.request.name = name := by
    intro visit member
    rw [← split] at member
    exact (visits_named _ _ _ _ _ visit member).2
  have served := serve_all_alike options disk source found again requests
    (Session.numbering_alike start .start found again)
  have bare := visit_all_bare remade again
    (fun visit member => named visit (List.mem_append_left rest member)) tidy
    (Session.numbering_alike .start .start again again)
  have rests := visit_all_alike options disk source again again
    (fun visit member => named visit (List.mem_append_right skipped member)) bare
  rw [split, serveVisits, List.foldl_append] at served
  exact served.trans rests

end

/-- A page that keeps the module of a partial, and one that keeps nothing. -/
def guestSource : Source :=
  .ofTexts [
    ("templates/guest.html", "\x7b% include 'partials/name.html' without context %\x7d"),
    ("templates/index.html", "{{ n }}"),
    ("templates/partials/name.html", "guest") ]

/-- A request for a page without data. -/
def asking (name : String) : Request := ⟨name, .none, .recorder⟩

end Renderer

end PageTemplates
