/-
# Endpoints

What the service can be asked for, at which paths, and by which methods.  A path leads to at
most one endpoint, and each endpoint allows one method.
-/
import ArrowNotation.Text.Basic

namespace ArrowNotation.Service

/-! ## 1. Paths -/

/-- What the service can be asked for. -/
inductive Endpoint where
  | graph
  | strictGraph
  | lineCheck
  | diagnostics
  | summary
  | completions
  | template
  | listing
  | sample (name : Text)
  | health
  deriving DecidableEq

/-- The paths of all diagram endpoints begin with this text. -/
def basePath : Text := "/api/v1/diagram".toText

/-- The endpoints with a path of their own. -/
def fixedPaths : List (Text × Endpoint) := [
  (basePath ++ "/parse".toText, .graph),
  (basePath ++ "/parse/strict".toText, .strictGraph),
  (basePath ++ "/validate-line".toText, .lineCheck),
  (basePath ++ "/diagnostics".toText, .diagnostics),
  (basePath ++ "/hover".toText, .summary),
  (basePath ++ "/completions".toText, .completions),
  (basePath ++ "/template".toText, .template),
  (basePath ++ "/samples".toText, .listing),
  ("/health".toText, .health)]

/-- The path of a sample is this text and then its name. -/
def samplePath : Text := basePath ++ "/samples/".toText

/-- The endpoint at a path.  One line feed at the end of a fixed path does not count, and the name
of a sample is any text without a slash that is not empty. -/
def endpointAt? (path : Text) : Option Endpoint :=
  match fixedPaths.find? fun (fixed, _) => path = fixed ∨ path = fixed ++ [Text.lineFeed] with
  | some (_, endpoint) => some endpoint
  | none =>
    match Text.afterStart? samplePath path with
    | some name => if name = [] ∨ Text.slash ∈ name then none else some (.sample name)
    | none => none

theorem endpointAt?_of_mem_fixedPaths :
    ∀ entry ∈ fixedPaths, endpointAt? entry.1 = some entry.2 := by decide +kernel

/-! ## 2. Methods -/

/-- A request method.  Of all methods only two are ever allowed. -/
inductive Method where
  | get
  | post
  | other
  deriving DecidableEq

/-- The method that a name stands for; letter case counts. -/
def Method.ofName (name : Text) : Method :=
  if name = "GET".toText then get else if name = "POST".toText then post else other

/-- The method that an endpoint allows. -/
def Endpoint.method : Endpoint → Method
  | graph | strictGraph | lineCheck | diagnostics | summary => .post
  | completions | template | listing | sample _ | health => .get

/-! ## 3. Paths without an endpoint -/

/-- A path without the slashes at its end. -/
def trimSlashes (path : Text) : Text := (path.reverse.dropWhile (· = Text.slash)).reverse

/-- The path that a request for a path without an endpoint is sent on to, if there is an
endpoint there: the path without the slashes at its end, or with one if it has none. -/
def redirectTarget? (path : Text) : Option Text :=
  if path = [Text.slash] then none
  else
    let target := if path.getLast? = some Text.slash then trimSlashes path else path ++ [Text.slash]
    if (endpointAt? target).isSome then some target else none

end ArrowNotation.Service
