import PageTemplates.Proofs.Headers
import PageTemplates.Proofs.PageRender.Streaming
import PageTemplates.Proofs.Response

/-!
What comes of a render. On every path the content type is set first and no header that was there is
touched. Then a fault that is known already comes before a page without a template, and only a template
writes to the body. The log gets one line for a fault that arose in the render, and none otherwise.
-/

namespace PageTemplates

namespace HeaderMap

/-- Headers that all have a text for a name. Those with several values to a name hold a multimap. -/
def Sound : HeaderMap → Prop
  | .multi headers => ∃ map : Multimap, headers = map.filed
  | .plain entries => ∀ entry ∈ entries, entry.1.text?.isSome

theorem Sound.text_named {headers : HeaderMap} (sound : headers.Sound) : headers.TextNamed := by
  cases headers with
  | multi headers => trivial
  | plain entries => exact sound

/-- Headers with a content type besides what was there: the one that was there, or that of pages behind
all others. -/
inductive Announced (before : HeaderMap) : HeaderMap → Prop where
  | kept (isThere : before.hasContentType = .ok true) : Announced before before
  | added {after : HeaderMap} (missing : before.hasContentType = .ok false)
    (isThere : after.hasContentType = .ok true)
    (flat : after.flat = before.flat ++ [(.text contentTypeName, .text pageContentType)]) :
    Announced before after

theorem put_absent {key value : Data} {entries : List (Data × Data)}
    (absent : ∀ entry ∈ entries, entry.1.equals key = false) :
    Data.put key value entries = entries ++ [(key, value)] := by
  induction entries with
  | nil => rfl
  | cons entry rest ih =>
      obtain ⟨other, old⟩ := entry
      have differs := absent (other, old) List.mem_cons_self
      rw [Data.put, if_neg (Bool.eq_false_iff.mp differs),
        ih fun entry inside => absent entry (List.mem_cons_of_mem _ inside), List.cons_append]

theorem set_flat {headers : HeaderMap} (sound : headers.Sound)
    (missing : headers.hasContentType = .ok false) (value : Data) :
    (headers.set contentTypeName value).flat =
      headers.flat ++ [(.text contentTypeName, value)] := by
  cases headers with
  | multi headers =>
      obtain ⟨map, rfl⟩ := sound
      have absent : map.find? contentTypeName = none := by
        simp only [hasContentType, Headers.get_all_filed, Except.ok.injEq] at missing
        cases found : map.find? contentTypeName with
        | none => rfl
        | some field =>
            rw [found] at missing
            cases missing
      have behind : (map.assign contentTypeName value).fields =
          map.fields ++ [⟨contentTypeName, value, []⟩] := by
        refine if_neg fun there => ?_
        obtain ⟨field, inside, answers⟩ := List.any_eq_true.mp there
        exact List.find?_eq_none.mp absent field inside answers
      simp only [set, flat, Headers.set_filed, (Headers.shows_filed _).flat, behind]
      simp [Field.values]
  | plain entries =>
      have named : (HeaderMap.plain entries).TextNamed := sound.text_named
      rw [plain_has_content_type named, Except.ok.injEq, List.any_eq_false] at missing
      refine put_absent fun entry inside => ?_
      obtain ⟨text, holds⟩ := Option.isSome_iff_exists.mp (sound entry inside)
      rw [Data.equals_texts holds rfl, decide_eq_false_iff_not]
      rintro rfl
      exact missing entry inside (by simp [holds])

theorem write_content_type_announces {headers : HeaderMap} (sound : headers.Sound) :
    ∃ written, headers.writeContentType = .ok written ∧ headers.Announced written := by
  have named := sound.text_named
  obtain ⟨isThere, told⟩ := has_content_type_total named
  cases isThere with
  | true =>
      refine ⟨headers, ?_, .kept told⟩
      simp [writeContentType, told, bind, Except.bind]
  | false =>
      refine ⟨_, ?_, .added told (has_content_type_set named (.text pageContentType))
        (set_flat sound told _)⟩
      simp [writeContentType, told, bind, Except.bind]

theorem Announced.has_content_type {before after : HeaderMap} (announced : before.Announced after) :
    after.hasContentType = .ok true := by
  cases announced with
  | kept isThere | added _ isThere _ => exact isThere

end HeaderMap

namespace Response

theorem receiving_concat (response : Response) (chunks : List Chunk) (chunk : Chunk) :
    response.receiving (chunks ++ [chunk]) = (response.receiving chunks).adding chunk.bytes := by
  rw [receiving, List.foldl_concat, receiving]

@[simp] theorem receiving_capacity (response : Response) (chunks : List Chunk) :
    (response.receiving chunks).capacity = response.capacity := by
  induction chunks generalizing response with
  | nil => rfl
  | cons chunk _ ih => exact ih (response.adding chunk.bytes)

theorem receiving_full {response : Response} {chunks : List Chunk}
    (full : (response.receiving chunks).isFull) :
    ∃ limit, response.capacity.count = some limit ∧
      limit ≤ response.pieces.size + chunks.length := by
  have size : (response.receiving chunks).pieces.size = response.pieces.size + chunks.length := by
    rw [← Array.length_toList, receiving_pieces, List.length_append, Array.length_toList,
      List.length_map]
  rw [isFull, receiving_capacity, Option.any_eq_true] at full
  obtain ⟨limit, limited, reached⟩ := full
  exact ⟨limit, limited, size ▸ of_decide_eq_true reached⟩

end Response

namespace PageRender

/-- The line that the log gets for a fault of a render. -/
def failureLine (name reason : Text) : LogLine :=
  ⟨.error, "Template '" ++ name ++ "' failed during render: " ++ reason⟩

/-- How the writing of what a template wrote ends in a response: the chunks that the response gets, the
problem, and the lines for the log. -/
inductive Closes (name : Text) (trace : Trace) (response : Response) :
    List Chunk → Option Problem → List LogLine → Prop where
  /-- Everything was sent, and the template came to its end. -/
  | finished {chunks : List Chunk} (sent : trace.emissions.map Emission.sent? = chunks.map some)
    (fine : trace.failure = none) : Closes name trace response chunks none []
  /-- Everything was sent that the template wrote before it failed. -/
  | failed {chunks : List Chunk} {failure : Failure}
    (sent : trace.emissions.map Emission.sent? = chunks.map some)
    (wrong : trace.failure = some failure) :
    Closes name trace response chunks
      (some (.fault (.execution (.text name) (.text failure.message))))
      [failureLine name failure.message]
  /-- A text came that cannot be encoded. -/
  | unencodable {before after : List Emission} {emission : Emission} {chunks : List Chunk}
    {text : Text} {fault : Text.EncodeFault} (split : trace.emissions = before ++ emission :: after)
    (sent : before.map Emission.sent? = chunks.map some)
    (isText : emission.chunk.text? = some text) (wrong : Text.encode text = .error fault) :
    Closes name trace response chunks
      (some (.fault (.execution (.text name) (.text fault.message))))
      [failureLine name fault.message]
  /-- The response takes no more chunks. -/
  | refused {before after : List Emission} {emission : Emission} {chunks : List Chunk} {next : Chunk}
    {limit : Nat} (split : trace.emissions = before ++ emission :: after)
    (sent : before.map Emission.sent? = chunks.map some) (more : emission.sent? = some next)
    (limited : response.capacity.count = some limit)
    (full : limit ≤ response.pieces.size + chunks.length) :
    Closes name trace response chunks (some response.capacity.refusal) []
  /-- Output came that is no text. This is a failure of its own, of which the log has no line. -/
  | noText {before after : List Emission} {emission : Emission} {chunks : List Chunk}
    (split : trace.emissions = before ++ emission :: after)
    (sent : before.map Emission.sent? = chunks.map some) (notText : emission.chunk.text? = none) :
    Closes name trace response chunks
      (some (.failure (emission.chunk.encodingFailure emission.world))) []

/-- How a render of a page ends once the content type is set. -/
inductive Closing (page : PageRender) (session : Session) (response : Response) :
    List Chunk → Option Problem → List LogLine → Prop where
  | kept {fault : Fault} (known : page.fault = some fault) :
    Closing page session response [] (some (.fault fault)) []
  | unknown (fine : page.fault = none) (absent : page.template? = none) :
    Closing page session response [] (some (.fault (.notFound (.text page.name)))) []
  | written {number : Nat} {set : TemplateSet} {entry : Entry} {chunks : List Chunk}
    {problem : Option Problem} {lines : List LogLine} (fine : page.fault = none)
    (found : page.template? = some (number, set, entry))
    (closes : Closes page.name (page.output set entry (session.home number)) response chunks problem
      lines) :
    Closing page session response chunks problem lines

/-- What a render comes to: the page, and what it leaves. -/
structure ComesTo (page : PageRender) (session : Session) (response : Response) (after : PageRender)
    (outcome : Outcome) : Prop where
  announced : after.announced = true
  contentType : outcome.response.headers.hasContentType = .ok true
  headers : response.headers.Announced outcome.response.headers
  closing : ∃ chunks lines, Closing page session response chunks outcome.problem lines ∧
    outcome.response.pieces.toList = response.pieces.toList ++ chunks.map Chunk.bytes ∧
    outcome.session.log = lines ++ session.log

theorem write_all_closes (name : Text) (trace : Trace) (response : Response) (headers : HeaderMap)
    {before rest : List Emission} {chunks : List Chunk} (split : trace.emissions = before ++ rest)
    (sent : before.map Emission.sent? = chunks.map some) :
    let announced := { response with headers := headers }
    let ending := writeAll name (ended name trace) rest (announced.receiving chunks)
    ∃ all, Closes name trace response all ending.problem ending.lines ∧
      ending.response = announced.receiving all := by
  induction rest generalizing before chunks with
  | nil =>
      rw [List.append_nil] at split
      rw [← split] at sent
      refine ⟨chunks, ?_⟩
      rw [writeAll, ended]
      cases outcome : trace.failure with
      | none => exact ⟨.finished sent outcome, rfl⟩
      | some failure => exact ⟨.failed sent outcome, rfl⟩
  | cons emission after ih =>
      cases first : emission.sent? with
      | none =>
          rcases write_unsent name (ended name trace) first after with
            ⟨text, fault, isText, wrong, written⟩ | ⟨notText, written⟩
          · simp only [written]
            exact ⟨chunks, .unencodable split sent isText wrong, rfl⟩
          · simp only [written]
            exact ⟨chunks, .noText split sent notText, rfl⟩
      | some chunk =>
          simp only [write_sent name _ first]
          split
          · rename_i full
            obtain ⟨limit, limited, reached⟩ := Response.receiving_full full
            rw [Response.receiving_capacity]
            exact ⟨chunks, .refused split sent first limited reached, rfl⟩
          · rw [← Response.receiving_concat]
            have split : trace.emissions = (before ++ [emission]) ++ after := by simp [split]
            exact ih split (by simp [sent, first])

theorem render_announced (page : PageRender) (session : Session) {response : Response}
    {headers : HeaderMap} (written : response.headers.writeContentType = .ok headers) :
    page.render session response =
      let announced : PageRender := { page with announced := true }
      let responding : Response := { response with headers := headers }
      match page.fault, page.template? with
      | some fault, _ => (announced, ⟨responding, session, some (.fault fault)⟩)
      | none, none => (announced, ⟨responding, session, some (.fault (.notFound (.text page.name)))⟩)
      | none, some (number, set, entry) =>
        announced.writeTemplate number set entry session responding := by
  have template : ({ page with announced := true } : PageRender).template? = page.template? := rfl
  simp only [render, announce, Response.writeContentType, written, bind, Except.bind, pure,
    Except.pure, writeBody, template]
  cases page.fault with
  | some fault => rfl
  | none =>
      cases page.template? with
      | none => rfl
      | some triple => rfl

end PageRender

end PageTemplates
