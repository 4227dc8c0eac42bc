import PageTemplates.Data.Equal
import PageTemplates.Fault
import PageTemplates.Headers
import PageTemplates.Text.Utf8

/-!
Responses: where a render goes. A response has headers, kept as `Headers` or as a plain mapping, and
takes pieces of its body one by one; it may stop taking them after a number of pieces. The content
type is set once, and never over one that is there.
-/

namespace PageTemplates

/-- The headers of a response: with several values to a name, or a plain mapping. -/
inductive HeaderMap where
  | multi (headers : Headers)
  | plain (entries : List (Data × Data))

/-- How many pieces a response takes, if it does not take any number of them, and what a piece beyond
these ends in. -/
structure Capacity where
  count : Option Nat
  refusal : Problem

/-- A response. `pieces` are the accepted pieces of the body in order; no more than `capacity` of
them are accepted. -/
structure Response where
  headers : HeaderMap
  pieces : Array Bytes
  capacity : Capacity

/-- The content type of pages. -/
def pageContentType : Text := "text/html; charset=utf-8"

/-- The name of the header for the content type. -/
def contentTypeName : Text := "Content-Type"

namespace HeaderMap

/-- A header name in small letters, which only a text has. -/
def smallName (name : Data) : Except Failure Text :=
  match name.text? with
  | some text => .ok (Text.lower text)
  | none => .error (.missingAttribute (Text.ofString name.typeName) "lower")

/-- Whether one of the names is that of the content type. Names are read up to the first that is. -/
def anyContentType : List Data → Except Failure Bool
  | [] => .ok false
  | name :: names => do
    if (← smallName name) = Text.lower contentTypeName then .ok true else anyContentType names

/-- Whether there is a content type, whatever its value. -/
def hasContentType : HeaderMap → Except Failure Bool
  | .multi headers => .ok !(headers.getAll contentTypeName).isEmpty
  | .plain entries => anyContentType (entries.map Prod.fst)

/-- Gives a name a single value. -/
def set (headers : HeaderMap) (name : Text) (value : Data) : HeaderMap :=
  match headers with
  | .multi headers => .multi (headers.set name value)
  | .plain entries => .plain (Data.put (.text name) value entries)

/-- Sets the content type of pages unless there is a content type. -/
def writeContentType (headers : HeaderMap) : Except Failure HeaderMap := do
  if ← headers.hasContentType then .ok headers
  else .ok (headers.set contentTypeName (.text pageContentType))

/-- Every value with its name, in order. -/
def flat : HeaderMap → List (Data × Data)
  | .multi headers => headers.flat.map fun (name, value) => (.text name, value)
  | .plain entries => entries

end HeaderMap

namespace Response

/-- The failure of a response whose client is gone. -/
def disconnected : Failure := ⟨.disconnected, "client went away"⟩

/-- A number of pieces, after which the client is gone. -/
instance : Coe (Option Nat) Capacity := ⟨fun count => ⟨count, .failure disconnected⟩⟩

/-- A response that records everything. -/
def recorder : Response := ⟨.multi .empty, #[], (none : Option Nat)⟩

/-- Whether a response takes no more pieces. -/
def isFull (response : Response) : Bool :=
  response.capacity.count.any (· ≤ response.pieces.size)

/-- A response with a piece added to its body. -/
def adding (response : Response) (piece : Bytes) : Response :=
  { response with pieces := response.pieces.push piece }

/-- Takes data as a piece of the body and yields its length. What has no length is taken all the
same. -/
def writeData (response : Response) (data : Data) : Except Failure Nat × Response :=
  match data.toBytes with
  | .error failure => (.error failure, response)
  | .ok piece =>
    let written := response.adding piece
    match data.length? with
    | some length => (.ok length, written)
    | none => (.error (.noLength (Text.ofString data.typeName)), written)

/-- The body so far. -/
def body (response : Response) : Bytes := response.pieces.toList.flatten

/-- The body as text. -/
def text (response : Response) : Except Text.DecodeFault Text := Text.decode response.body

/-- Sets the content type of pages unless there is a content type. -/
def writeContentType (response : Response) : Except Failure Response := do
  return { response with headers := ← response.headers.writeContentType }

/-- The quoted form of a recorder. -/
def quoted (response : Response) : Text :=
  let headers := match response.headers with
    | .multi headers => headers.quoted
    | .plain entries => (Data.dict entries).quoted
  "ResponseRecorder(headers=" ++ headers ++ ", size=" ++ Text.ofNat response.body.length ++ ")"

end Response

end PageTemplates
