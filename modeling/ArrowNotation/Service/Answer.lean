/-
# The diagram service

The answer to a request.  The path is matched to an endpoint first, then the method is checked,
then the body, and only then is the endpoint asked; each of these steps has its own kind of
refusal.
-/
import ArrowNotation.Diagram.Strict
import ArrowNotation.Json.Encode
import ArrowNotation.Samples.Directory
import ArrowNotation.Service.Body
import ArrowNotation.Service.Endpoint

namespace ArrowNotation.Service

/-! ## 1. Answers -/

/-- Why a request has no answer: a sample cannot be read, or the answer cannot be written,
because it holds a number that is not finite or a text that cannot be encoded. -/
inductive Failure where
  | unreadableSample (cause : SampleDirectory.FetchError)
  | nonFiniteNumber
  | unencodableRefusal
  | unencodableReply
  deriving DecidableEq

/-- An answer: a status with a body, or a failure. -/
inductive Answer where
  | reply (status : Nat) (body : Json)
  | failure (cause : Failure)

/-- The answer to a request that is granted. -/
def Answer.success (body : Json) : Answer :=
  if body.isEncodable then reply 200 body else failure .unencodableReply

/-- The answer to a request that is refused.  Beside its body a refusal quotes the values that it
objects to, so it can only be written if they can. -/
def Answer.refusal (status : Nat) (body : Json) (quoted : List Json) : Answer :=
  if !quoted.all Json.isFinite then failure .nonFiniteNumber
  else if body.isEncodable && quoted.all Json.isEncodable then reply status body
  else failure .unencodableRefusal

/-- The body of a refusal. -/
def detail (reason : Json) : Json := .object [("detail".toText, reason)]

/-! ## 2. Answers of endpoints -/

/-- The answer to a body that makes no request. -/
def BodyError.answer : BodyError → Answer
  | faulty faults =>
    .refusal 422 (.array (faults.map Fault.toJson)) (faults.map Fault.value)
  | unreadable => .refusal 400 (detail (.string "There was an error parsing the body".toText)) []

/-- The answer to a request, if there is one. -/
def answerTo {α : Type} (request : Except BodyError α) (answer : α → Answer) : Answer :=
  match request with
  | .ok a => answer a
  | .error e => e.answer

def readErrorDetail (e : Diagram.ReadError) : Json :=
  let (lineNumber, line) := match e with
    | .unrecognizedLine lineNumber content => (Json.ofNat lineNumber, Json.string content)
    | .noNodes => (.null, .null)
  .object [
    ("message".toText, .string e.message), ("line_number".toText, lineNumber),
    ("line".toText, line)]

def strictAnswer (text : Text) : Answer :=
  match Diagram.strictGraph text with
  | .ok g => .success g.toJson
  | .error e => .refusal 400 (detail (readErrorDetail e)) []

def listedJson (s : SampleDirectory.Listed) : Json :=
  .object [("name".toText, .string s.name), ("description".toText, .string s.description)]

/-- A sample as JSON, with its text and its graph. -/
def fetchedJson (s : SampleDirectory.Fetched) : Json :=
  .object [
    ("name".toText, .string s.name), ("content".toText, .string s.content),
    ("graph".toText, s.graph.toJson)]

/-- The answer to the request for a sample. -/
def sampleAnswer (d : SampleDirectory) (name : Text) : Answer :=
  match d.fetch name with
  | .ok s => .success (fetchedJson s)
  | .error (.notFound name available) =>
    .refusal 404 (detail (.string (SampleDirectory.notFoundMessage name available))) []
  | .error cause => .failure (.unreadableSample cause)

/-- The answer of an endpoint. -/
def Endpoint.answer (d : SampleDirectory) (body : Body) (contentType : Option Text) :
    Endpoint → Answer
  | graph => answerTo (requestOf TextRequest.ofMembers body contentType) fun request =>
    .success (Diagram.graph request.text).toJson
  | strictGraph => answerTo (requestOf TextRequest.ofMembers body contentType) fun request =>
    strictAnswer request.text
  | lineCheck => answerTo (requestOf LineRequest.ofMembers body contentType) fun request =>
    .success (.object [
      ("line".toText, .string request.line),
      ("valid".toText, .bool (isWellFormedLine request.line))])
  | diagnostics => answerTo (requestOf TextRequest.ofMembers body contentType) fun request =>
    .success (.array ((Diagram.diagnostics request.text).map Diagram.Diagnostic.toJson))
  | summary => answerTo (requestOf TextRequest.ofMembers body contentType) fun request =>
    .success (((Diagram.summary? request.text).map Diagram.Summary.toJson).getD .null)
  | completions => .success (.array (Diagram.completions.map Diagram.Completion.toJson))
  | template => .success (.object [("content".toText, .string Diagram.template)])
  | listing => .success (.array (d.listing.map listedJson))
  | sample name => sampleAnswer d name
  | health => .success (.object [("status".toText, .string "ok".toText)])

/-! ## 3. Requests -/

structure Request where
  method : Method
  path : Text
  body : Body
  contentType : Option Text

/-- The answer to a request, where the samples lie in the given directory. -/
def answer (d : SampleDirectory) (r : Request) : Answer :=
  match endpointAt? r.path with
  | some endpoint =>
    if r.method = endpoint.method then endpoint.answer d r.body r.contentType
    else .refusal 405 (detail (.string "Method Not Allowed".toText)) []
  | none =>
    match redirectTarget? r.path with
    | some _ => .reply 307 .null
    | none => .refusal 404 (detail (.string "Not Found".toText)) []

end ArrowNotation.Service
