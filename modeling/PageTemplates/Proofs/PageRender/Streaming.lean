import PageTemplates.Proofs.PageRender
import PageTemplates.Proofs.Text.Utf8

/-!
How a render streams. What a template writes goes out chunk by chunk: a response that takes only so
many chunks has the first of those that a response without a limit takes, and the limit shows as the
failure of the response itself. Where the limit is not reached, both renders end the same way. The body
is made of whole chunks, so it can be decoded wherever it was cut off.
-/

namespace PageTemplates

/-- A text with the bytes that it is sent as. -/
structure Chunk where
  text : Text
  bytes : Bytes
  encoded : Text.encode text = .ok bytes

namespace Chunk

theorem encode_texts (chunks : List Chunk) :
    Text.encode (chunks.map Chunk.text).flatten = .ok (chunks.map Chunk.bytes).flatten := by
  refine Text.encode_flatten ?_
  induction chunks with
  | nil => exact .nil
  | cons chunk _ ih => exact .cons chunk.encoded ih

end Chunk

/-- The chunk that a piece of output is sent as, unless it is no text or cannot be encoded. -/
def Emission.sent? (emission : Emission) : Option Chunk :=
  match emission.chunk.text? with
  | none => none
  | some text =>
    match encoded : Text.encode text with
    | .ok bytes => some ⟨text, bytes, encoded⟩
    | .error _ => none

namespace Response

def unlimited (response : Response) : Response :=
  { response with capacity := ⟨none, response.capacity.refusal⟩ }

/-- A response that takes `count` chunks more, and ends in `refusal` at the next. -/
def taking (response : Response) (count : Nat) (refusal : Problem) : Response :=
  { response with capacity := ⟨some (response.pieces.size + count), refusal⟩ }

def HasRoom (response : Response) (count : Nat) : Prop :=
  ∀ limit, response.capacity.count = some limit → response.pieces.size + count ≤ limit

def receiving (response : Response) (chunks : List Chunk) : Response :=
  chunks.foldl (fun so chunk => so.adding chunk.bytes) response

@[simp] theorem receiving_headers (response : Response) (chunks : List Chunk) :
    (response.receiving chunks).headers = response.headers := by
  induction chunks generalizing response with
  | nil => rfl
  | cons chunk _ ih => exact ih (response.adding chunk.bytes)

@[simp] theorem receiving_pieces (response : Response) (chunks : List Chunk) :
    (response.receiving chunks).pieces.toList =
      response.pieces.toList ++ chunks.map Chunk.bytes := by
  induction chunks generalizing response with
  | nil => simp [receiving]
  | cons chunk _ ih =>
      rw [receiving, List.foldl_cons]
      refine (ih (response.adding chunk.bytes)).trans ?_
      simp [adding]

theorem not_full_of_room {response : Response} {count : Nat}
    (room : response.HasRoom (count + 1)) : response.isFull = false := by
  rw [isFull]
  cases limited : response.capacity.count with
  | none => rfl
  | some limit =>
      have within := room limit limited
      simp only [Option.any_some, decide_eq_false_iff_not]
      omega

theorem room_after_adding {response : Response} {count : Nat} (piece : Bytes)
    (room : response.HasRoom (count + 1)) : (response.adding piece).HasRoom count := by
  intro limit limited
  have within := room limit limited
  simp only [adding, Array.size_push]
  omega

theorem unlimited_room (response : Response) (count : Nat) :
    response.unlimited.HasRoom count := by
  intro limit limited
  cases limited

theorem taking_room {response : Response} {count wanted : Nat} {refusal : Problem}
    (enough : wanted ≤ count) : (response.taking count refusal).HasRoom wanted := by
  intro limit limited
  cases limited
  exact Nat.add_le_add_left enough response.pieces.size

theorem taking_nothing_full (response : Response) (refusal : Problem) :
    (response.taking 0 refusal).isFull = true := by
  simp [taking, isFull]

theorem taking_adding (response : Response) (count : Nat) (refusal : Problem) (piece : Bytes) :
    (response.taking (count + 1) refusal).adding piece =
      (response.adding piece).taking count refusal := by
  simp only [taking, adding, Array.size_push]
  congr 3
  omega

end Response

namespace PageRender

variable (name : Text) (ending : Response → Ending) {before : List Emission} {chunks : List Chunk}

theorem write_sent {emission : Emission} {chunk : Chunk} (sent : emission.sent? = some chunk)
    (rest : List Emission) (response : Response) :
    writeAll name ending (emission :: rest) response =
      if response.isFull then
        ⟨response, emission.world, some response.capacity.refusal, []⟩
      else writeAll name ending rest (response.adding chunk.bytes) := by
  rw [Emission.sent?] at sent
  split at sent
  · cases sent
  · rename_i text isText
    split at sent
    · rename_i bytes encoded
      cases sent
      simp only [writeAll, isText, encoded]
    · cases sent

/-- A response with room for chunks takes them all, and the render goes on behind them. -/
theorem write_all_room (sent : before.map Emission.sent? = chunks.map some)
    (rest : List Emission) {response : Response} (room : response.HasRoom chunks.length) :
    writeAll name ending (before ++ rest) response =
      writeAll name ending rest (response.receiving chunks) := by
  induction chunks generalizing before response with
  | nil =>
      rw [List.map_nil, List.map_eq_nil_iff] at sent
      rw [sent]
      rfl
  | cons chunk chunks ih =>
      obtain ⟨emission, before, rfl, first, others⟩ := List.map_eq_cons_iff.mp sent
      have notFull := Response.not_full_of_room room
      rw [List.cons_append, write_sent name ending first, if_neg (by simp [notFull]),
        ih others (Response.room_after_adding chunk.bytes room)]
      rfl

/-- A response with room for some of the chunks only takes these, and fails at the next. -/
theorem write_all_full (sent : before.map Emission.sent? = chunks.map some)
    (rest : List Emission) (response : Response) (refusal : Problem) {count : Nat}
    (short : count < chunks.length) :
    ∃ world, writeAll name ending (before ++ rest) (response.taking count refusal) =
      ⟨(response.receiving (chunks.take count)).taking 0 refusal, world, some refusal, []⟩ := by
  induction chunks generalizing before response count with
  | nil => cases short
  | cons chunk chunks ih =>
      obtain ⟨emission, before, rfl, first, others⟩ := List.map_eq_cons_iff.mp sent
      rw [List.cons_append, write_sent name ending first]
      -- The refusal shows at the chunk for which no place is left, before anything is written of it.
      cases count with
      | zero =>
          rw [if_pos (Response.taking_nothing_full response refusal)]
          exact ⟨emission.world, rfl⟩
      | succ count =>
          have room : (response.taking (count + 1) refusal).HasRoom (0 + 1) :=
            Response.taking_room (by omega)
          rw [if_neg (by simp [Response.not_full_of_room room]), Response.taking_adding]
          exact ih others (response.adding chunk.bytes) (Nat.lt_of_succ_lt_succ short)

/-- Output that is not sent as a chunk ends the writing, and the response stays as it is. -/
theorem write_unsent {emission : Emission} (unsent : emission.sent? = none)
    (rest : List Emission) :
    (∃ text fault, emission.chunk.text? = some text ∧ Text.encode text = .error fault ∧
      ∀ response, writeAll name ending (emission :: rest) response =
        failing name fault.message response emission.world) ∨
    (emission.chunk.text? = none ∧
      ∀ response, writeAll name ending (emission :: rest) response =
        ⟨response, emission.world,
          some (.failure (emission.chunk.encodingFailure emission.world)), []⟩) := by
  rw [Emission.sent?] at unsent
  split at unsent
  · rename_i notText
    refine .inr ⟨notText, fun response => ?_⟩
    simp only [writeAll, notText]
  · rename_i text isText
    split at unsent
    · cases unsent
    · rename_i fault failed
      refine .inl ⟨text, fault, isText, failed, fun response => ?_⟩
      simp only [writeAll, isText, failed]

/-- Output starts with chunks, up to its end or to something that is not sent as one. -/
theorem output_starts (emissions : List Emission) :
    ∃ (before : List Emission) (chunks : List Chunk) (rest : List Emission),
      emissions = before ++ rest ∧
      before.map Emission.sent? = chunks.map some ∧
      ∀ emission after, rest = emission :: after → emission.sent? = none := by
  induction emissions with
  | nil => exact ⟨[], [], [], rfl, rfl, nofun⟩
  | cons emission rest ih =>
      cases first : emission.sent? with
      | none =>
          refine ⟨[], [], emission :: rest, rfl, rfl, ?_⟩
          rintro _ _ same
          cases same
          exact first
      | some chunk =>
          obtain ⟨before, chunks, others, rfl, sent, stops⟩ := ih
          exact ⟨emission :: before, chunk :: chunks, others, rfl, by simp [first, sent], stops⟩

/-- How a render of a template ends when the response takes all chunks. -/
inductive Ends (name : Text) (trace : Trace) : List Chunk → Option Problem → Prop where
  /-- Everything was sent, and the template came to its end. -/
  | finished {chunks : List Chunk} (sent : trace.emissions.map Emission.sent? = chunks.map some)
    (fine : trace.failure = none) : Ends name trace chunks none
  /-- Everything was sent that the template wrote before it failed. -/
  | failed {chunks : List Chunk} {failure : Failure}
    (sent : trace.emissions.map Emission.sent? = chunks.map some)
    (wrong : trace.failure = some failure) :
    Ends name trace chunks (some (.fault (.execution (.text name) (.text failure.message))))
  /-- A text that cannot be encoded is a fault of the render, and nothing of it is sent. -/
  | unencodable {before after : List Emission} {emission : Emission} {chunks : List Chunk}
    {text : Text} {fault : Text.EncodeFault} (split : trace.emissions = before ++ emission :: after)
    (sent : before.map Emission.sent? = chunks.map some)
    (isText : emission.chunk.text? = some text) (wrong : Text.encode text = .error fault) :
    Ends name trace chunks (some (.fault (.execution (.text name) (.text fault.message))))
  /-- Output that is no text is no fault of the render but a failure of its own. -/
  | noText {before after : List Emission} {emission : Emission} {chunks : List Chunk}
    (split : trace.emissions = before ++ emission :: after)
    (sent : before.map Emission.sent? = chunks.map some) (notText : emission.chunk.text? = none) :
    Ends name trace chunks
      (some (.failure (emission.chunk.encodingFailure emission.world)))

theorem write_end {trace : Trace} {rest : List Emission}
    (split : trace.emissions = before ++ rest)
    (sent : before.map Emission.sent? = chunks.map some)
    (stops : ∀ emission after, rest = emission :: after → emission.sent? = none) :
    ∃ problem, Ends name trace chunks problem ∧
      ∀ response, (writeAll name (ended name trace) rest response).response = response ∧
        (writeAll name (ended name trace) rest response).problem = problem := by
  cases rest with
  | nil =>
      rw [List.append_nil] at split
      rw [← split] at sent
      cases outcome : trace.failure with
      | none =>
          refine ⟨_, .finished sent outcome, fun response => ?_⟩
          simp [writeAll, ended, outcome]
      | some failure =>
          refine ⟨_, .failed sent outcome, fun response => ?_⟩
          simp [writeAll, ended, outcome, failing]
  | cons emission after =>
      rcases write_unsent name (ended name trace) (stops emission after rfl) after with
        ⟨text, fault, isText, wrong, written⟩ | ⟨notText, written⟩
      · refine ⟨_, .unencodable split sent isText wrong, fun response => ?_⟩
        rw [written]
        exact ⟨rfl, rfl⟩
      · refine ⟨_, .noText split sent notText, fun response => ?_⟩
        rw [written]
        exact ⟨rfl, rfl⟩

theorem write_all_streams (name : Text) (trace : Trace) :
    ∃ (chunks : List Chunk) (problem : Option Problem), Ends name trace chunks problem ∧
      (∀ response : Response, response.HasRoom chunks.length →
        let ending := writeAll name (ended name trace) trace.emissions response
        ending.response = response.receiving chunks ∧ ending.problem = problem) ∧
      ∀ (response : Response) count refusal, count < chunks.length →
        let ending :=
          writeAll name (ended name trace) trace.emissions (response.taking count refusal)
        ending.response = (response.receiving (chunks.take count)).taking 0 refusal ∧
          ending.problem = some refusal := by
  obtain ⟨before, chunks, rest, split, sent, stops⟩ := output_starts trace.emissions
  obtain ⟨problem, ends, written⟩ := write_end name split sent stops
  refine ⟨chunks, problem, ends, fun response room => ?_, fun response count refusal short => ?_⟩
  · simp only [split, write_all_room name _ sent rest room]
    exact written (response.receiving chunks)
  · obtain ⟨world, stopped⟩ :=
      write_all_full name (ended name trace) sent rest response refusal short
    simp only [split, stopped, and_self]

section

variable (page : PageRender) (session : Session) (response : Response)

/-- What the template of a page writes, given what its set has kept. -/
def output (set : TemplateSet) (entry : Entry) (home : World) : Trace :=
  let placed := page.data.placed home
  set.trace placed.2 page.name entry placed.1

/-- How a render of a page ends when the response takes all chunks. -/
inductive Concludes : List Chunk → Option Problem → Prop where
  | unannounced {failure : Failure} (wrong : response.headers.writeContentType = .error failure) :
    Concludes [] (some (.failure failure))
  | kept {headers : HeaderMap} {fault : Fault}
    (announced : response.headers.writeContentType = .ok headers) (known : page.fault = some fault) :
    Concludes [] (some (.fault fault))
  | unknown {headers : HeaderMap} (announced : response.headers.writeContentType = .ok headers)
    (fine : page.fault = none) (absent : page.template? = none) :
    Concludes [] (some (.fault (.notFound (.text page.name))))
  | written {headers : HeaderMap} {number : Nat} {set : TemplateSet} {entry : Entry}
    {chunks : List Chunk} {problem : Option Problem}
    (announced : response.headers.writeContentType = .ok headers) (fine : page.fault = none)
    (found : page.template? = some (number, set, entry))
    (ends : Ends page.name (page.output set entry (session.home number)) chunks problem) :
    Concludes chunks problem

/-- What a response with a limit is left with, told by what one without is left with. -/
structure Streams (chunks : List Chunk) : Prop where
  /-- Without a limit all chunks are sent. -/
  whole : (page.render session response.unlimited).2.response.pieces.toList =
    response.pieces.toList ++ chunks.map Chunk.bytes
  /-- The end of the render follows from the page. -/
  concludes : Concludes page session response chunks
    (page.render session response.unlimited).2.problem
  /-- Under a limit the first chunks are sent. -/
  starts : ∀ count refusal,
    (page.render session (response.taking count refusal)).2.response.pieces.toList =
      response.pieces.toList ++ (chunks.take count).map Chunk.bytes
  headers : ∀ count refusal,
    (page.render session (response.taking count refusal)).2.response.headers =
      (page.render session response.unlimited).2.response.headers
  /-- Only a limit that is passed changes the end of the render, to the refusal of the response. -/
  ends : ∀ count refusal,
    (page.render session (response.taking count refusal)).2.problem =
      if count < chunks.length then some refusal
      else (page.render session response.unlimited).2.problem
  /-- The body can be decoded, to the texts of the chunks that were sent. -/
  decodes : ∀ shown, Text.encode shown = .ok response.body →
    Text.decode (page.render session response.unlimited).2.response.body =
      .ok (shown ++ (chunks.map Chunk.text).flatten) ∧
    ∀ count refusal,
      Text.decode (page.render session (response.taking count refusal)).2.response.body =
        .ok (shown ++ ((chunks.take count).map Chunk.text).flatten)

end

theorem decode_after {shown : Text} {before after : Response}
    (encoded : Text.encode shown = .ok before.body) (chunks : List Chunk)
    (pieces : after.pieces.toList = before.pieces.toList ++ chunks.map Chunk.bytes) :
    Text.decode after.body = .ok (shown ++ (chunks.map Chunk.text).flatten) := by
  have body : after.body = before.body ++ (chunks.map Chunk.bytes).flatten := by
    simp only [Response.body, pieces, List.flatten_append]
  rw [body]
  exact Text.decode_encode (Text.encode_from_append encoded (Chunk.encode_texts chunks))

/-- What a render leaves and how it ends, whatever the limit of the response. -/
theorem render_limited (page : PageRender) (session : Session) (response : Response)
    (capacity : Capacity) :
    let limited := { response with capacity := capacity }
    (page.render session limited).2.answer =
      match response.headers.writeContentType, page.fault, page.template? with
      | .error failure, _, _ => (limited, some (.failure failure))
      | .ok headers, some fault, _ => ({ limited with headers := headers }, some (.fault fault))
      | .ok headers, none, none =>
        ({ limited with headers := headers }, some (.fault (.notFound (.text page.name))))
      | .ok headers, none, some (number, set, entry) =>
        let trace := page.output set entry (session.home number)
        let ending := writeAll page.name (ended page.name trace) trace.emissions
          { limited with headers := headers }
        (ending.response, ending.problem) := by
  intro limited
  simp only [render, announce, Response.writeContentType]
  cases response.headers.writeContentType with
  | error failure => rfl
  | ok headers =>
      have template : ({ page with announced := true } : PageRender).template? =
          page.template? := rfl
      simp only [bind, Except.bind, pure, Except.pure, writeBody, template]
      cases page.fault with
      | some fault => rfl
      | none =>
          cases page.template? with
          | none => rfl
          | some triple => rfl

/-- The chunks of a page and what it ends in, with what a response is left with that has room for all
of them, or for some of them only. -/
theorem render_chunks (page : PageRender) (session : Session) (response : Response) :
    ∃ headers chunks problem, Concludes page session response chunks problem ∧
      (∀ capacity, let limited := { response with capacity := capacity }
        limited.HasRoom chunks.length → (page.render session limited).2.answer =
          (({ limited with headers := headers }).receiving chunks, problem)) ∧
      ∀ count refusal, count < chunks.length →
        (page.render session (response.taking count refusal)).2.answer =
          ((({ response with headers := headers }).receiving (chunks.take count)).taking 0 refusal,
            some refusal) := by
  have limited := page.render_limited session response
  -- Only a template writes chunks. Any other end comes before the limit can show.
  cases announced : response.headers.writeContentType with
  | error failure =>
      simp only [announced] at limited
      exact ⟨response.headers, [], _, .unannounced announced, fun capacity _ => limited capacity,
        nofun⟩
  | ok headers =>
      cases known : page.fault with
      | some fault =>
          simp only [announced, known] at limited
          exact ⟨headers, [], _, .kept announced known, fun capacity _ => limited capacity, nofun⟩
      | none =>
          cases found : page.template? with
          | none =>
              simp only [announced, known, found] at limited
              exact ⟨headers, [], _, .unknown announced known found,
                fun capacity _ => limited capacity, nofun⟩
          | some triple =>
              obtain ⟨number, set, entry⟩ := triple
              simp only [announced, known, found] at limited
              obtain ⟨chunks, problem, ends, whole, short⟩ :=
                write_all_streams page.name (page.output set entry (session.home number))
              refine ⟨headers, chunks, problem, .written announced known found ends,
                fun capacity room => ?_, fun count refusal less => ?_⟩
              · have written := whole { response with capacity := capacity, headers := headers } room
                rw [limited, written.1, written.2]
              · have written := short { response with headers := headers } count refusal less
                exact (limited _).trans (Prod.ext written.1 written.2)

end PageRender

end PageTemplates
