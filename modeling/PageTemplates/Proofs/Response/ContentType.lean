import PageTemplates.Proofs.PageRender.Outcome

/-!
The content type is announced once. Whether headers have one can be told of headers of both kinds by going
through their names, though headers with several values to a name are asked for the values instead; and to
set it any number of times leaves what was there, followed by one entry where there was no such name.
-/

namespace PageTemplates

namespace HeaderMap

/-- The names of headers in order, as they are gone through. -/
def names : HeaderMap → List Data
  | .multi headers => headers.names.map .text
  | .plain entries => entries.map Prod.fst

/-- Whether a name is that of the content type, in any spelling. -/
def isContentType (name : Data) : Bool :=
  name.text?.any fun text => Text.lower text = "content-type"

/-- Headers with the content type of pages behind all others, as its only value. -/
def followed : HeaderMap → HeaderMap
  | .multi headers =>
    .multi ⟨headers.entries ++
      [(Text.ofString "content-type", ⟨contentTypeName, [.text pageContentType]⟩)]⟩
  | .plain entries => .plain (entries ++ [(.text contentTypeName, .text pageContentType)])

/-- Headers that come about: made of pairs and changed by operations, or a mapping with texts as keys. -/
inductive ComesAbout : HeaderMap → Prop where
  | multi (pairs : List (Text × Data)) (operations : List Headers.Operation) :
    ComesAbout (.multi (Headers.Operation.inTurn Headers.Operation.perform operations
      (Headers.ofList pairs)).2)
  | plain {entries : List (Data × Data)} (texts : ∀ entry ∈ entries, entry.1.text?.isSome) :
    ComesAbout (.plain entries)

theorem ComesAbout.sound {headers : HeaderMap} (about : headers.ComesAbout) : headers.Sound := by
  cases about with
  | multi pairs operations =>
      rw [Headers.of_list_filed, Headers.in_turn_filed]
      exact ⟨_, rfl⟩
  | plain texts => exact texts

theorem lower_content_type : Text.lower contentTypeName = "content-type" := by decide +kernel

theorem scan_names {headers : HeaderMap} (sound : headers.Sound) :
    anyContentType headers.names = .ok (headers.names.any isContentType) := by
  have texts : ∀ name ∈ headers.names, name.text?.isSome := by
    intro name inside
    cases headers with
    | multi headers =>
        obtain ⟨spelled, -, rfl⟩ := List.mem_map.mp inside
        rfl
    | plain entries =>
        obtain ⟨entry, among, rfl⟩ := List.mem_map.mp inside
        exact sound entry among
  rw [any_content_type texts, lower_content_type]
  rfl

/-- A multimap has values for a name exactly if one of its fields is spelled like it. -/
theorem asked_of_filed (map : Multimap) :
    (HeaderMap.multi map.filed).hasContentType =
      .ok ((HeaderMap.multi map.filed).names.any isContentType) := by
  have shows := Headers.shows_filed map
  have spelled : (HeaderMap.multi map.filed).names.any isContentType =
      map.fields.any fun field => field.answersTo contentTypeName := by
    rw [names, shows.names, List.map_map, List.any_map]
    simp only [Function.comp_def, isContentType, Data.text?, Option.any_some, Field.answersTo,
      lower_content_type]
  have found : (map.find? contentTypeName).isSome =
      map.fields.any fun field => field.answersTo contentTypeName := by
    rw [Multimap.find?, Bool.eq_iff_iff, List.find?_isSome, List.any_eq_true]
  have valued := shows.contains contentTypeName
  rw [Headers.contains] at valued
  rw [spelled, hasContentType, valued, found]

/-- Headers of both kinds are asked for the content type as if their names were gone through. -/
theorem asked_by_names {headers : HeaderMap} (sound : headers.Sound) :
    headers.hasContentType = .ok (headers.names.any isContentType) := by
  cases headers with
  | multi headers =>
      obtain ⟨map, rfl⟩ := sound
      exact asked_of_filed map
  | plain entries => exact scan_names sound

theorem set_missing {headers : HeaderMap} (sound : headers.Sound)
    (missing : headers.names.any isContentType = false) :
    headers.set contentTypeName (.text pageContentType) = headers.followed := by
  cases headers with
  | multi headers =>
      obtain ⟨map, rfl⟩ := sound
      have absent : (map.fields.any fun old => old.answersTo contentTypeName) = false := by
        rw [names, (Headers.shows_filed map).names, List.map_map, List.any_map] at missing
        simpa only [Function.comp_def, isContentType, Data.text?, Option.any_some,
          Field.answersTo, lower_content_type] using missing
      have behind : (map.assign contentTypeName (.text pageContentType)).fields =
          map.fields ++ [⟨contentTypeName, .text pageContentType, []⟩] :=
        if_neg (Bool.not_eq_true _ ▸ absent)
      rw [set, Headers.set_filed, followed, Multimap.filed, behind, List.map_append, Multimap.filed,
        ← lower_content_type]
      rfl
  | plain entries =>
      refine congrArg HeaderMap.plain (put_absent fun entry inside => ?_)
      obtain ⟨text, holds⟩ := Option.isSome_iff_exists.mp (sound entry inside)
      rw [Data.equals_texts holds rfl, decide_eq_false_iff_not]
      rintro rfl
      have passed := List.any_eq_false.mp missing entry.1 (List.mem_map_of_mem inside)
      simp [isContentType, holds, lower_content_type] at passed

theorem Sound.set {headers : HeaderMap} (sound : headers.Sound) (name : Text) (value : Data) :
    (headers.set name value).Sound := by
  cases headers with
  | multi headers =>
      obtain ⟨map, rfl⟩ := sound
      exact ⟨map.assign name value, Headers.set_filed map name value⟩
  | plain entries =>
      have named : (HeaderMap.plain entries).TextNamed := sound
      exact set_text_named named name value

theorem followed_announced (headers : HeaderMap) :
    headers.followed.names.any isContentType = true := by
  have last : isContentType (.text contentTypeName) = true := by
    simp [isContentType, Data.text?, lower_content_type]
  cases headers <;> simp [followed, names, Headers.names, last]

end HeaderMap

namespace Response

/-- The content type is set several times, one after another. -/
def writeContentTypeTimes : (times : Nat) → Response → Except Failure Response
  | 0, response => .ok response
  | times + 1, response => response.writeContentType >>= writeContentTypeTimes times

section

variable {response : Response} (sound : response.headers.Sound)

include sound

/-- To set the content type once leaves headers with a name for it, and puts one behind all others. -/
theorem write_content_type_once :
    response.writeContentType =
      .ok (if response.headers.names.any HeaderMap.isContentType then response
        else { response with headers := response.headers.followed }) := by
  have asked := HeaderMap.asked_by_names sound
  rw [writeContentType, HeaderMap.writeContentType, asked]
  cases isThere : response.headers.names.any HeaderMap.isContentType with
  | true => rfl
  | false =>
      rw [← HeaderMap.set_missing sound isThere]
      rfl

theorem written_again (announced : response.headers.names.any HeaderMap.isContentType = true)
    (times : Nat) : response.writeContentTypeTimes times = .ok response := by
  induction times with
  | zero => rfl
  | succ times ih =>
      rw [writeContentTypeTimes, write_content_type_once sound, if_pos announced]
      exact ih

end

/-- Headers of both kinds are asked for the content type as if their names were gone through. However often
it is set, headers stay as they are where a name is that of the content type, whatever its values, and are
followed by the content type of pages, once, where none is. -/
theorem content_type_guarded {response : Response} (about : response.headers.ComesAbout) :
    response.headers.hasContentType = HeaderMap.anyContentType response.headers.names ∧
      HeaderMap.anyContentType response.headers.names =
        .ok (response.headers.names.any HeaderMap.isContentType) ∧
      ∀ times, response.writeContentTypeTimes (times + 1) =
        .ok (if response.headers.names.any HeaderMap.isContentType then response
          else { response with headers := response.headers.followed }) := by
  have sound := about.sound
  have scanned := HeaderMap.scan_names sound
  refine ⟨(HeaderMap.asked_by_names sound).trans scanned.symm, scanned, fun times => ?_⟩
  rw [writeContentTypeTimes, write_content_type_once sound]
  cases isThere : response.headers.names.any HeaderMap.isContentType with
  | true => exact written_again sound isThere times
  | false =>
      let written := { response with headers := response.headers.followed }
      have after : response.headers.followed.Sound :=
        HeaderMap.set_missing sound isThere ▸ sound.set _ _
      have announced : written.headers.names.any HeaderMap.isContentType = true :=
        HeaderMap.followed_announced _
      exact @written_again written after announced times

/-- Headers that had a content type until it was deleted get that of pages; a mapping that has one in
another spelling and without a value keeps it. -/
theorem content_type_guarded_in_both_kinds :
    let deleted := (Headers.Operation.inTurn Headers.Operation.perform
      [.append "CONTENT-TYPE" (.text []), .delete "content-type"]
      (Headers.ofList [("Content-Type", .text "text/plain"), ("X-A", .text "1")])).2
    let mapping : List (Data × Data) :=
      [(.text "x-a", .text "1"), (.markup "cONTENT-tYPE", .text [])]
    ({ recorder with headers := .multi deleted }.writeContentTypeTimes 3 =
      .ok { recorder with headers := .multi ⟨[("x-a", ⟨"X-A", [.text "1"]⟩),
        ("content-type", ⟨"Content-Type", [.text "text/html; charset=utf-8"]⟩)]⟩ }) ∧
      { recorder with headers := .plain mapping }.writeContentTypeTimes 2 =
        .ok { recorder with headers := .plain mapping } := by
  intro deleted mapping
  constructor
  · have about : ({ recorder with headers := .multi deleted } : Response).headers.ComesAbout :=
      .multi _ _
    exact (content_type_guarded about).2.2 2
  · have about : ({ recorder with headers := .plain mapping } : Response).headers.ComesAbout :=
      .plain (by decide)
    exact (content_type_guarded about).2.2 1

end Response

end PageTemplates
