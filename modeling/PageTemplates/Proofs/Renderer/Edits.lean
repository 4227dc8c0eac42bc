import PageTemplates.Proofs.Renderer.Requests

/-!
Renderers over a disk that changes. A release renderer is done with the disk once it is made: whatever is
written or deleted later, it answers as if nothing had been. A debug renderer keeps nothing of the disk:
it answers as one that was made just now would, and a page that it has given out holds its own set of
templates, which no later change and no other render touches.
-/

namespace PageTemplates

inductive Edit where
  | write (path : Text) (content : Bytes)
  | delete (path : Text)
  | deleteTree (path : Text)

namespace Edit

/-- What a change makes of the disk, unless it fails. -/
def changed (disk : Node) : Edit → Except PathFault Node
  | .write path content => .ok (disk.write path content)
  | .delete path => disk.deleteFile path
  | .deleteTree path => disk.deleteFolder path

/-- The disk after a change; one that fails leaves it as it is. -/
def applied (edit : Edit) (disk : Node) : Node :=
  match edit.changed disk with
  | .ok changed => changed
  | .error _ => disk

end Edit

/-- What a host sees of a page that it has been given. -/
structure PageView where
  name : Text
  data : Payload
  set : Option TemplateSet
  fault : Option Fault
  announced : Bool

namespace PageRender

/-- A page without the number of its set, which nobody sees. -/
def view (page : PageRender) : PageView :=
  ⟨page.name, page.data, page.found.map Prod.snd, page.fault, page.announced⟩

/-- Pages that look the same render the same, if their sets have kept the same. -/
theorem render_answer_of_view {page other : PageRender} {session elsewhere : Session}
    (same : page.view = other.view)
    (homes : ∀ number set place twin, page.found = some (number, set) →
      other.found = some (place, twin) → session.home number = elsewhere.home place)
    (response : Response) :
    (page.render session response).2.answer = (other.render elsewhere response).2.answer := by
  simp only [view, PageView.mk.injEq] at same
  obtain ⟨names, payloads, sets, faults, _⟩ := same
  exact render_answer names payloads faults sets homes response

theorem render_found (page : PageRender) (session : Session) (response : Response) :
    (page.render session response).1.found = page.found := by
  simp only [render, announce]
  cases response.writeContentType with
  | error failure => rfl
  | ok announced =>
      simp only [bind, Except.bind, pure, Except.pure, writeBody]
      split
      · rfl
      · split <;> rfl

end PageRender

/-- A move in the work of a host: a change to the disk, or something asked of a renderer. A page that is
asked for is kept, and may be rendered at any later time. -/
inductive Move where
  | edit (edit : Edit)
  | pages
  | page (name : Text) (data : Data)
  | render (place : Nat) (response : Response)
  | serve (request : Request)

namespace Move

def isEdit : Move → Bool
  | .edit _ => true
  | _ => false

/-- The place of the kept page that a move renders. -/
def place? : Move → Option Nat
  | .render place _ => some place
  | _ => none

end Move

inductive Answer where
  | pages (names : Except Problem (List Text))
  | page (given : Except Problem PageView)
  | rendered (left : Response × Option Problem)
  | notKept

namespace Answer

def isPage : Answer → Bool
  | .page (.ok _) => true
  | _ => false

def shows (body : Bytes) : Answer → Bool
  | .rendered (response, none) => response.body == body
  | _ => false

theorem of_is_page {answer : Answer} (given : answer.isPage = true) :
    ∃ view, answer = .page (.ok view) := by
  rw [isPage.eq_def] at given
  split at given
  · exact ⟨_, rfl⟩
  · cases given

theorem of_shows {answer : Answer} {body : Bytes} (shown : answer.shows body = true) :
    ∃ response, answer = .rendered (response, none) ∧ response.body = body := by
  rw [shows.eq_def] at shown
  split at shown
  · exact ⟨_, rfl, eq_of_beq shown⟩
  · cases shown

end Answer

/-- What a host works with: the disk, the session, and the pages that it has been given, in order. -/
structure Host where
  disk : Node
  session : Session
  pages : List PageRender

/-- Every set of a page that a host has been given is known to the session. -/
def Host.Known (host : Host) : Prop :=
  ∀ page ∈ host.pages, ∀ number set, page.found = some (number, set) → number < host.session.sets

/-- A kept page that has not been rendered: its set has kept nothing, and no other page has the set. -/
structure Host.Untouched (host : Host) (place : Nat) (page : PageRender) : Prop where
  stored : host.pages[place]? = some page
  home : ∀ number set, page.found = some (number, set) →
    host.session.home number = .bare host.session.ticks
  apart : ∀ other twin, other ≠ place → host.pages[other]? = some twin →
    ∀ number set spot same, page.found = some (number, set) → twin.found = some (spot, same) →
      number ≠ spot

namespace Renderer

/-- What a move comes to. A change to the disk has no answer. -/
def turn (renderer : Renderer) (host : Host) : Move → Option Answer × Host
  | .edit edit => (none, { host with disk := edit.applied host.disk })
  | .pages => (some (.pages (renderer.pages host.disk)), host)
  | .page name data =>
    match renderer.page host.disk host.session name data with
    | (.ok page, session) =>
      (some (.page (.ok page.view)), ⟨host.disk, session, host.pages ++ [page]⟩)
    | (.error problem, session) => (some (.page (.error problem)), { host with session := session })
  | .render place response =>
    match host.pages[place]? with
    | none => (some .notKept, host)
    | some page =>
      let (page, outcome) := page.render host.session response
      (some (.rendered outcome.answer), ⟨host.disk, outcome.session, host.pages.set place page⟩)
  | .serve request =>
    let outcome := renderer.serve host.disk host.session request
    (some (.rendered outcome.answer), { host with session := outcome.session })

def afterMoves (renderer : Renderer) (host : Host) (moves : List Move) : Host :=
  moves.foldl (fun host move => (renderer.turn host move).2) host

def answers (renderer : Renderer) : Host → List Move → List Answer
  | _, [] => []
  | host, move :: moves =>
    let (answer, host) := renderer.turn host move
    answer.toList ++ answers renderer host moves

/-- The answer of a debug renderer that is made for a move. -/
def newly (options : RendererOptions) (source : Source) (disk : Node) (session : Session)
    (move : Move) : Except Problem (Option Answer) :=
  (make (options.inMode .debug) disk source session).map fun (renderer, session) =>
    (renderer.turn ⟨disk, session, []⟩ move).1

/-- How a debug renderer follows the disk of its host. -/
structure Follows (options : RendererOptions) (source : Source) (renderer : Renderer)
    (host : Host) : Prop where
  /-- The names of pages are those that a new renderer finds. -/
  pages : ∀ session,
    newly options source host.disk session .pages = .ok (renderer.turn host .pages).1
  /-- A page is given as by a new renderer. -/
  page : ∀ session name data,
    newly options source host.disk session (.page name data) =
      .ok (renderer.turn host (.page name data)).1
  /-- A request is served as by a new renderer. -/
  served : ∀ (session : Session) request,
    newly options source host.disk (session.counting host.session.ticks) (.serve request) =
      .ok (renderer.turn host (.serve request)).1
  /-- A page that is kept is rendered for the first time as by a renderer that was new when the page was
  given, whatever happens in between. -/
  kept : ∀ (session : Session) name data view moves response,
    let given := renderer.turn host (.page name data)
    let now := renderer.afterMoves given.2 moves
    given.1 = some (.page (.ok view)) →
      (∀ move ∈ moves, move.place? ≠ some host.pages.length) →
      newly options source host.disk (session.counting now.session.ticks)
          (.serve ⟨name, data, response⟩) =
        .ok (renderer.turn now (.render host.pages.length response)).1

section

variable (options : RendererOptions) (source : Source)

/-- What a release renderer answers has nothing to do with the disk. -/
theorem turn_serving (registry : Registry) (host : Host) (disk : Node) {move : Move}
    (noEdit : move.isEdit = false) :
    let release := serving options source registry
    release.turn { host with disk := disk } move =
      ((release.turn host move).1, { (release.turn host move).2 with disk := disk }) := by
  cases move with
  | edit edit => cases noEdit
  | pages => rfl
  | page name data => rfl
  | render place response =>
      simp only [turn]
      cases host.pages[place]? <;> rfl
  | serve request => rfl

theorem answers_serving (registry : Registry) (host : Host) (disk : Node) (moves : List Move) :
    (serving options source registry).answers host moves =
      (serving options source registry).answers { host with disk := disk }
        (moves.filter fun move => !move.isEdit) := by
  induction moves generalizing host disk with
  | nil => rfl
  | cons move moves ih =>
      cases edits : move.isEdit with
      | true =>
          -- The move is left out on one side only. The disks differ from here on, which they may.
          obtain ⟨edit, rfl⟩ : ∃ edit, move = .edit edit := by
            cases move <;> cases edits
            exact ⟨_, rfl⟩
          rw [List.filter_cons_of_neg (by simp [edits]), answers]
          exact ih { host with disk := edit.applied host.disk } disk
      | false =>
          rw [List.filter_cons_of_pos (by simp [edits]), answers, answers,
            turn_serving options source registry host disk edits]
          exact congrArg _ (ih _ disk)

end

section

variable {options : RendererOptions} {source : Source} {disk : Node} {name : Text} {data : Data}

/-- How a debug renderer gives a page: what it compiles decides, and a set gets the next number. -/
theorem page_watching (session : Session) :
    (watching options source).page disk session name data =
      match (watching options source).compiled disk name with
      | .ok none => (.ok (.make name data none none), session)
      | .ok (some set) => (.ok (.make name data (some (session.sets, set)) none), session.opening 1)
      | .error (.fault fault) =>
        if fault.kind.isTemplate then
          (.ok (.make name data none (some fault)), session.logging [deferral name fault])
        else (.error (.fault fault), session)
      | .error (.failure failure) => (.error (.failure failure), session) := by
  cases built : (watching options source).compiled disk name with
  | ok found =>
      cases found with
      | none => exact page_of_none data built
      | some set => exact page_of_set data built
  | error problem =>
      cases problem with
      | failure failure => exact page_of_failure data built
      | fault fault =>
          simp only
          split
          · rename_i told
            exact page_of_fault data built told
          · rename_i untold
            have unlisted : (watching options source).registry = none := rfl
            simp only [page, unlisted, built, untold]
            rfl

theorem page_session (session : Session) :
    let after := ((watching options source).page disk session name data).2
    after.ticks = session.ticks ∧ session.sets ≤ after.sets ∧
      ∀ number < session.sets, after.home number = session.home number := by
  rw [page_watching]
  split
  · exact ⟨rfl, Nat.le_refl _, fun _ _ => rfl⟩
  · refine ⟨rfl, ?_, fun number known => Session.home_opening known 1⟩
    simp only [Session.opening, Session.sets, List.length_append]
    omega
  · split <;> exact ⟨rfl, Nat.le_refl _, fun _ _ => rfl⟩
  · exact ⟨rfl, Nat.le_refl _, fun _ _ => rfl⟩

/-- The set of a page that was just given has the next number, and has kept nothing. -/
theorem page_number {session after : Session} {page : PageRender} {number : Nat} {set : TemplateSet}
    (given : (watching options source).page disk session name data = (.ok page, after))
    (found : page.found = some (number, set)) :
    number = session.sets ∧ number < after.sets ∧ after.home number = .bare after.ticks := by
  rw [page_watching] at given
  split at given
  · cases given
    cases found
  · cases given
    cases found
    refine ⟨rfl, ?_, Session.home_of_new session 1 (Nat.le_refl _)⟩
    simp only [Session.opening, Session.sets, List.length_append, List.length_replicate]
    omega
  · split at given <;> cases given
    cases found
  · cases given

theorem page_alike (session elsewhere : Session) :
    ((watching options source).page disk session name data).1.map PageRender.view =
      ((watching options source).page disk elsewhere name data).1.map PageRender.view := by
  rw [page_watching, page_watching]
  split
  · rfl
  · rfl
  · split <;> rfl
  · rfl

/-- A request is served as the page is rendered that another debug renderer has given over the same disk,
as long as the set of the page has kept nothing. -/
theorem serve_as_given {session after elsewhere now : Session} {page : PageRender}
    (given : (watching options source).page disk session name data = (.ok page, after))
    (home : ∀ number set, page.found = some (number, set) → now.home number = .bare now.ticks)
    (ticks : elsewhere.ticks = now.ticks) (response : Response) :
    ((watching options source).serve disk elsewhere ⟨name, data, response⟩).answer =
      (page.render now response).2.answer := by
  have same := @page_alike options source disk name data elsewhere session
  have counted := (@page_session options source disk name data elsewhere).1
  rw [given] at same
  simp only [serve, Renderer.render]
  split <;> rename_i too <;> rw [too] at same
  · rename_i other later
    rw [too] at counted
    have views : other.view = page.view := by injection same
    refine PageRender.render_answer_of_view views (fun number set place twin found there => ?_) response
    rw [home place twin there, (page_number too found).2.2, counted, ticks]
  · cases same

theorem serve_alike {session elsewhere : Session} (ticks : elsewhere.ticks = session.ticks)
    (request : Request) :
    ((watching options source).serve disk elsewhere request).answer =
      ((watching options source).serve disk session request).answer := by
  obtain ⟨name, data, response⟩ := request
  have counted := (@page_session options source disk name data session).1
  cases given : (watching options source).page disk session name data with
  | mk result after =>
      rw [given] at counted
      cases result with
      | ok page =>
          have served : (watching options source).serve disk session ⟨name, data, response⟩ =
              (page.render after response).2 := render_of_page given response
          rw [served]
          exact serve_as_given given (fun number set found => (page_number given found).2.2)
            (ticks.trans counted.symm) response
      | error problem =>
          have same := @page_alike options source disk name data elsewhere session
          rw [given] at same
          simp only [serve, Renderer.render, given]
          split <;> rename_i too <;> rw [too] at same <;> cases same
          rfl

end

section

variable {options : RendererOptions} {source : Source} {host : Host}

/-- A move leaves alone what a set has kept, unless a page of the set is rendered. -/
theorem turn_session (move : Move) :
    let after := ((watching options source).turn host move).2.session
    host.session.sets ≤ after.sets ∧
      ∀ number < host.session.sets,
        (∀ place page spot set, move.place? = some place → host.pages[place]? = some page →
          page.found = some (spot, set) → number ≠ spot) →
        after.home number = { host.session.home number with ticks := after.ticks } := by
  have same : ∀ number, host.session.home number =
      { host.session.home number with ticks := host.session.ticks } := fun _ => rfl
  cases move with
  | edit edit => exact ⟨Nat.le_refl _, fun number _ _ => same number⟩
  | pages => exact ⟨Nat.le_refl _, fun number _ _ => same number⟩
  | page name data =>
      obtain ⟨ticks, more, homes⟩ := @page_session options source host.disk name data host.session
      simp only [turn]
      split <;> rename_i given <;> simp only [given] at ticks more homes <;>
        exact ⟨more, fun number known _ => by rw [homes number known, ticks]; rfl⟩
  | render place response =>
      simp only [turn]
      cases stored : host.pages[place]? with
      | none => exact ⟨Nat.le_refl _, fun number _ _ => same number⟩
      | some page =>
          refine ⟨Nat.le_of_eq (page.render_sets host.session response).symm, fun number _ apart => ?_⟩
          exact page.render_other_home host.session response fun spot set found =>
            apart place page spot set rfl stored found
  | serve request =>
      obtain ⟨ticks, more, homes⟩ :=
        @page_session options source host.disk request.name request.data host.session
      simp only [turn, serve, Renderer.render]
      split <;> rename_i given <;> simp only [given] at ticks more homes
      · rename_i page after
        rw [PageRender.render_sets]
        refine ⟨more, fun number known _ => ?_⟩
        -- The page that is rendered has just got its set, so it is not one that was known.
        have apart : ∀ place set, page.found = some (place, set) → number ≠ place :=
          fun place set found => by
            have next := (page_number given found).1
            omega
        rw [page.render_other_home after request.response apart, homes number known]
      · exact ⟨more, fun number known _ => by rw [homes number known, ticks]; rfl⟩

theorem turn_stored {place : Nat} {page : PageRender} (stored : host.pages[place]? = some page)
    {move : Move} (other : move.place? ≠ some place) :
    ((watching options source).turn host move).2.pages[place]? = some page := by
  cases move with
  | edit edit => exact stored
  | pages => exact stored
  | page name data =>
      simp only [turn]
      split
      · rw [List.getElem?_append_left (List.getElem?_eq_some_iff.mp stored).1]
        exact stored
      · exact stored
  | render spot response =>
      simp only [turn]
      cases host.pages[spot]? with
      | none => exact stored
      | some twin =>
          have differ : spot ≠ place := fun same => other (congrArg some same)
          exact (List.getElem?_set_ne differ).trans stored
  | serve request => exact stored

/-- Each page after a move was there before, with the same set, or has a new one. -/
theorem turn_pages (move : Move) {place : Nat} {page : PageRender}
    (stored : ((watching options source).turn host move).2.pages[place]? = some page) :
    (∃ old, host.pages[place]? = some old ∧ page.found = old.found) ∨
      ∀ number set, page.found = some (number, set) → number = host.session.sets ∧
        number < ((watching options source).turn host move).2.session.sets := by
  cases move with
  | edit edit => exact .inl ⟨page, stored, rfl⟩
  | pages => exact .inl ⟨page, stored, rfl⟩
  | page name data =>
      simp only [turn] at stored ⊢
      split at stored
      · rename_i given after asked
        rcases Entries.place_of_concat stored with earlier | ⟨_, rfl⟩
        · exact .inl ⟨page, earlier, rfl⟩
        · refine .inr fun number set found => ?_
          exact ⟨(page_number asked found).1, (page_number asked found).2.1⟩
      · exact .inl ⟨page, stored, rfl⟩
  | render spot response =>
      left
      simp only [turn] at stored
      cases before : host.pages[spot]? with
      | none =>
          rw [before] at stored
          exact ⟨page, stored, rfl⟩
      | some twin =>
          rw [before] at stored
          by_cases same : spot = place
          · subst same
            have bound := (List.getElem?_eq_some_iff.mp before).1
            rw [List.getElem?_set_self bound] at stored
            cases stored
            exact ⟨twin, before, twin.render_found host.session response⟩
          · rw [List.getElem?_set_ne same] at stored
            exact ⟨page, stored, rfl⟩
  | serve request => exact .inl ⟨page, stored, rfl⟩

theorem turn_known (known : host.Known) (move : Move) :
    ((watching options source).turn host move).2.Known := by
  intro page member number set found
  obtain ⟨place, stored⟩ := List.mem_iff_getElem?.mp member
  rcases turn_pages move stored with ⟨old, before, same⟩ | new
  · have more := (@turn_session options source host move).1
    exact Nat.lt_of_lt_of_le
      (known old (List.mem_of_getElem? before) number set (same ▸ found)) more
  · exact (new number set found).2

/-- A kept page stays untouched until it is rendered. -/
theorem turn_untouched {place : Nat} {page : PageRender} (known : host.Known)
    (untouched : host.Untouched place page) {move : Move} (other : move.place? ≠ some place) :
    ((watching options source).turn host move).2.Untouched place page := by
  have listed := known page (List.mem_of_getElem? untouched.stored)
  refine ⟨turn_stored untouched.stored other, fun number set found => ?_, ?_⟩
  -- The move may render another page, but that one has another set.
  · have spared := (@turn_session options source host move).2 number (listed number set found)
      fun spot twin place' set' asked stored there =>
        untouched.apart spot twin (fun same => other (same ▸ asked)) stored number set place' set'
          found there
    rw [spared, untouched.home number set found]
    rfl
  · intro spot twin apart stored number set number' set' found there
    rcases turn_pages move stored with ⟨old, before, same⟩ | new
    · exact untouched.apart spot old apart before number set number' set' found (same ▸ there)
    · have bound := listed number set found
      have next := (new number' set' there).1
      omega

theorem after_known (known : host.Known) (moves : List Move) :
    ((watching options source).afterMoves host moves).Known := by
  induction moves generalizing host with
  | nil => exact known
  | cons move moves ih => exact ih (turn_known known move)

theorem after_untouched {place : Nat} {page : PageRender} (known : host.Known)
    (untouched : host.Untouched place page) {moves : List Move}
    (others : ∀ move ∈ moves, move.place? ≠ some place) :
    ((watching options source).afterMoves host moves).Untouched place page := by
  induction moves generalizing host with
  | nil => exact untouched
  | cons move moves ih =>
      exact ih (turn_known known move) (turn_untouched known untouched (others move List.mem_cons_self))
        fun later member => others later (List.mem_cons_of_mem move member)

theorem given_untouched {name : Text} {data : Data} {page : PageRender} {after : Session}
    (known : host.Known)
    (given : (watching options source).page host.disk host.session name data = (.ok page, after)) :
    Host.Untouched ⟨host.disk, after, host.pages ++ [page]⟩ host.pages.length page := by
  refine ⟨by simp, fun number set found => (page_number given found).2.2, ?_⟩
  intro spot twin apart stored number set number' set' found there
  rcases Entries.place_of_concat stored with earlier | ⟨last, _⟩
  · have bound := known twin (List.mem_of_getElem? earlier) number' set' there
    have next := (page_number given found).1
    omega
  · exact absurd last apart

theorem newly_answer (disk : Node) (session : Session) (move : Move) :
    newly options source disk session move =
      .ok ((watching options source).turn ⟨disk, session, []⟩ move).1 := rfl

theorem turn_page (renderer : Renderer) (host : Host) (name : Text) (data : Data) :
    (renderer.turn host (.page name data)).1 = some (.page
      ((renderer.page host.disk host.session name data).1.map PageRender.view)) := by
  simp only [turn]
  split <;> rename_i given <;> rw [given] <;> rfl

theorem follows_of_known (known : host.Known) :
    Follows options source (watching options source) host where
  pages := fun _ => rfl
  page := fun session name data => by
    rw [newly_answer, turn_page, turn_page, page_alike session host.session]
  served := fun session request => by
    have same := @serve_alike options source host.disk host.session
      (session.counting host.session.ticks) rfl request
    rw [newly_answer]
    simp only [turn, same]
  kept := by
    intro session name data view moves response given now answered others
    cases asked : (watching options source).page host.disk host.session name data with
    | mk result after =>
        have shown : given.1 = some (.page (result.map PageRender.view)) := by
          rw [turn_page, asked]
        cases result with
        | error problem =>
            rw [shown] at answered
            cases answered
        | ok page =>
            have left : given.2 = ⟨host.disk, after, host.pages ++ [page]⟩ := by
              simp only [given, turn, asked]
            -- Until it is rendered the page stays untouched, and then its set is as bare as the one
            -- that the new renderer makes for the request.
            have untouched : now.Untouched host.pages.length page := by
              have start : given.2.Untouched host.pages.length page := left ▸ given_untouched known asked
              exact after_untouched (turn_known known _) start others
            have served := serve_as_given asked untouched.home
              (show (session.counting now.session.ticks).ticks = now.session.ticks from rfl) response
            rw [newly_answer]
            simp only [turn, served, untouched.stored]

end

def onePage : Node :=
  .folder [("templates", .folder [("index.html", .file [0x6f, 0x6c, 0x64])])]

/-- Changes after which the page is another one, and then none. -/
def pageLost : List Move :=
  [.edit (.write "templates/index.html" [0x6e, 0x65, 0x77]), .edit (.deleteTree "templates")]

end Renderer

end PageTemplates
