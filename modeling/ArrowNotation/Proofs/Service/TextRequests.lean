/-
# Requests about a text

Four paths of the service take a JSON value and ask it for a text.  What they answer follows from
the value alone, in two steps.

* **Refusals.**  A value that is not an object with a string at the name asked for has exactly one
  fault (`objectionTo`), and the request is refused with it, whatever the path
  (`answerTo_of_none`).  A refusal quotes the value at fault, so where that cannot be written, the
  refusal becomes a server error (`status_refusal`).
* **Answers.**  Of any other value only the text counts.  The graph, the diagnostics and the
  summary are those of the text, and the strict reading answers with the graph or refuses with the
  first diagnostic, or for want of nodes (`Diagram.strictGraph_of_diagnostics_cons`,
  `Diagram.strictGraph_of_diagnostics_eq_nil`).  Again an answer that cannot be written becomes a
  server error, and that happens only to texts with a surrogate in them.
-/
import ArrowNotation.Proofs.Json.Encodable

namespace ArrowNotation

/-! ## 1. Strings asked for -/

namespace Service

theorem Body.read_value {contentType : Text} (h : announcesJson contentType = true) (v : Json) :
    (Body.value v).read (some contentType) = .ok v := by
  simp [Body.read, h]

/-- The string at a name of a value that is an object with a string there. -/
def stringAt? (name : Text) : Json → Option Text
  | .object members =>
    match Json.member? name members with
    | some (.string s) => some s
    | _ => none
  | _ => none

/-- What is wrong with a value that is not an object with a string at a name: it is no object, or
it has nothing there, or what it has there is no string. -/
def objectionTo (name : Text) : Json → Fault
  | .object members =>
    match Json.member? name members with
    | some value => ⟨.notString, [.field "body".toText, .field name], value⟩
    | none => ⟨.missing, [.field "body".toText, .field name], .object members⟩
  | value => ⟨.notFields, [.field "body".toText], value⟩

/-- **A request for a string is a string or has one fault.** -/
theorem requestOf_string {α : Type} {mk : Text → α} {name : Text} {body : Body}
    {contentType : Option Text} {v : Json} (hread : body.read contentType = .ok v) :
    requestOf (fun members => (required name decodeString members).map mk) body contentType
      = match stringAt? name v with
        | some s => .ok (mk s)
        | none => .error (.faulty [objectionTo name v]) := by
  simp only [requestOf, hread, bind, Except.bind]
  cases v with
  | object members =>
    simp only [decodeObject, required, stringAt?, objectionTo]
    cases hm : Json.member? name members with
    | none => rfl
    | some value => cases value <;> rfl
  | _ => rfl

section Requests

variable {α : Type} {mk : Text → α} {name : Text} {body : Body} {contentType : Option Text}
  {v : Json} (hread : body.read contentType = .ok v) (f : α → Answer)

include hread

/-- A value with a string at the name is answered by that string alone. -/
theorem answerTo_of_some {s : Text} (hs : stringAt? name v = some s) :
    answerTo (requestOf (fun members => (required name decodeString members).map mk) body
      contentType) f = f (mk s) := by
  rw [requestOf_string hread, hs]
  rfl

/-- Any other value is refused with its one fault. -/
theorem answerTo_of_none (hs : stringAt? name v = none) :
    answerTo (requestOf (fun members => (required name decodeString members).map mk) body
      contentType) f
      = .refusal 422 (.array [(objectionTo name v).toJson]) [(objectionTo name v).value] := by
  rw [requestOf_string hread, hs]
  rfl

end Requests

/-! ## 2. Answers that cannot be written -/

/-- The status of an answer.  Where the service fails to answer, the request ends in an internal
error. -/
def Answer.status : Answer → Nat
  | reply status _ => status
  | failure _ => 500

/-- An answer is a given reply if that can be written, and an internal error if some text in the
body of the reply cannot be encoded. -/
def Answer.Gives (a : Answer) (status : Nat) (body : Json) : Prop :=
  if body.isEncodable then a = .reply status body else a.status = 500

theorem Answer.gives_success (body : Json) : (Answer.success body).Gives 200 body := by
  unfold Answer.success Answer.Gives
  cases body.isEncodable <;> rfl

/-- A refusal that quotes nothing. -/
theorem Answer.gives_refusal (status : Nat) (body : Json) :
    (Answer.refusal status body []).Gives status body := by
  unfold Answer.refusal Answer.Gives
  cases body.isEncodable <;> rfl

/-- A reply with a body that can be written is given as it is. -/
theorem Answer.Gives.eq_reply {a : Answer} {status : Nat} {body : Json} (h : a.Gives status body)
    (hbody : body.isEncodable = true) : a = .reply status body := by
  rwa [Answer.Gives, if_pos hbody] at h

theorem Answer.Gives.status_eq {a : Answer} {status : Nat} {body : Json} (h : a.Gives status body) :
    a.status = status ∨ a.status = 500 := by
  rw [Answer.Gives] at h
  split at h
  · exact Or.inl (by rw [h, Answer.status])
  · exact Or.inr h

/-- **A refusal that quotes a value needs that value written.** -/
theorem Answer.status_refusal {status : Nat} {body quoted : Json}
    (hbody : body.isEncodable = true) :
    (Answer.refusal status body [quoted]).status = if quoted.isWritable then status else 500 := by
  unfold Answer.refusal Json.isWritable
  cases hfinite : quoted.isFinite <;> cases hencodable : quoted.isEncodable <;>
    simp [Answer.status, hbody, hfinite, hencodable]

/-- The fault itself can be written: it holds the name asked for and fixed words. -/
theorem isEncodable_objectionTo {name : Text} (hname : Text.isEncodable name = true) (v : Json) :
    (Json.array [(objectionTo name v).toJson]).isEncodable = true := by
  have hplace : ∀ step ∈ (objectionTo name v).place, step.toJson.isEncodable = true := by
    unfold objectionTo
    split
    · split <;> simp [PlaceStep.toJson, Text.isEncodable_toText, hname]
    · simp [PlaceStep.toJson, Text.isEncodable_toText]
  simp [Json.isEncodable_array_iff, Fault.isEncodable_toJson hplace]

/-! ## 3. Paths -/

/-- The answer to a body that is posted to a path of the diagram part of the service. -/
def post (d : SampleDirectory) (path : String) (body : Body) (contentType : Option Text) :
    Answer :=
  answer d ⟨.post, basePath ++ path.toText, body, contentType⟩

/-- The paths that take a text. -/
def textPaths : List String := ["/parse", "/parse/strict", "/diagnostics", "/hover"]

section Paths

variable (d : SampleDirectory) (body : Body) (contentType : Option Text)

theorem post_eq_answer {path : String} {e : Endpoint}
    (hpath : endpointAt? (basePath ++ path.toText) = some e) (hmethod : e.method = .post) :
    post d path body contentType = e.answer d body contentType := by
  simp only [post, answer, hpath, hmethod, if_true]

theorem post_parse : post d "/parse" body contentType = Endpoint.graph.answer d body contentType :=
  post_eq_answer d body contentType (endpointAt?_of_mem_fixedPaths _ (.head _)) rfl

theorem post_parse_strict :
    post d "/parse/strict" body contentType = Endpoint.strictGraph.answer d body contentType :=
  post_eq_answer d body contentType (endpointAt?_of_mem_fixedPaths _ (.tail _ (.head _))) rfl

theorem post_diagnostics :
    post d "/diagnostics" body contentType = Endpoint.diagnostics.answer d body contentType :=
  post_eq_answer d body contentType
    (endpointAt?_of_mem_fixedPaths _ (.tail _ (.tail _ (.tail _ (.head _))))) rfl

theorem post_hover :
    post d "/hover" body contentType = Endpoint.summary.answer d body contentType :=
  post_eq_answer d body contentType
    (endpointAt?_of_mem_fixedPaths _ (.tail _ (.tail _ (.tail _ (.tail _ (.head _)))))) rfl

/-- **Each of these paths asks the body for a text, and then only the text counts.** -/
theorem exists_answerTo_of_mem_textPaths {path : String} (hpath : path ∈ textPaths) :
    ∃ f : TextRequest → Answer, ∀ body contentType,
      post d path body contentType
        = answerTo (requestOf TextRequest.ofMembers body contentType) f := by
  simp only [textPaths, List.mem_cons, List.not_mem_nil, or_false] at hpath
  rcases hpath with rfl | rfl | rfl | rfl
  · exact ⟨_, post_parse d⟩
  · exact ⟨_, post_parse_strict d⟩
  · exact ⟨_, post_diagnostics d⟩
  · exact ⟨_, post_hover d⟩

end Paths

/-! ## 4. The strict reading as an answer -/

/-- A text without diagnostics and with a node is answered with its graph. -/
theorem strictAnswer_of_node {s : Text} (hnil : Diagram.diagnostics s = [])
    (hnode : Diagram.summary? s ≠ none) : strictAnswer s = .success (Diagram.graph s).toJson := by
  have hempty : ¬ (Diagram.graph s).isEmpty = true := fun h =>
    hnode (Diagram.summary?_eq_none_iff.mpr h)
  rw [strictAnswer, Diagram.strictGraph_of_diagnostics_eq_nil hnil, if_neg hempty]

/-- A text with a diagnostic is refused with the first. -/
theorem strictAnswer_of_diagnostics_cons {s : Text} {first : Diagram.Diagnostic}
    {rest : List Diagram.Diagnostic} (h : Diagram.diagnostics s = first :: rest) :
    strictAnswer s = .refusal 400 (detail (readErrorDetail
      (.unrecognizedLine (first.line + 1) (Text.trim (s.lineAt first.line))))) [] := by
  rw [strictAnswer, Diagram.strictGraph_of_diagnostics_cons h]

/-- A text without diagnostics and without nodes is refused for want of nodes. -/
theorem strictAnswer_of_no_node {s : Text} (hnil : Diagram.diagnostics s = [])
    (hnode : Diagram.summary? s = none) :
    strictAnswer s = .refusal 400 (detail (readErrorDetail .noNodes)) [] := by
  rw [strictAnswer, Diagram.strictGraph_of_diagnostics_eq_nil hnil,
    if_pos (Diagram.summary?_eq_none_iff.mp hnode)]

/-- The refusal for want of nodes quotes nothing of the text, so it can be written. -/
theorem isEncodable_noNodes : (detail (readErrorDetail .noNodes)).isEncodable = true := by
  have hdetail := isEncodable_readErrorDetail (e := .noNodes) (by rintro _ _ ⟨⟩)
  simpa [detail, Json.isEncodable_object_iff, Text.isEncodable_toText] using hdetail

/-- **The strict reading grants or refuses, and what it says can be written if the text can.** -/
theorem exists_gives_strictAnswer (s : Text) : ∃ status body, (status = 200 ∨ status = 400) ∧
    (strictAnswer s).Gives status body ∧ (Text.isEncodable s = true → body.isEncodable = true) := by
  cases hfaults : Diagram.diagnostics s with
  | cons first rest =>
    rw [strictAnswer_of_diagnostics_cons hfaults]
    refine ⟨400, _, Or.inr rfl, Answer.gives_refusal 400 _, fun hs => ?_⟩
    have hline := Diagram.isEncodable_lineAt hs
      (Diagram.line_mem_faultyLines (hfaults ▸ List.mem_cons_self))
    have hdetail := isEncodable_readErrorDetail
      (e := .unrecognizedLine (first.line + 1) (Text.trim (s.lineAt first.line))) <| by
        rintro _ _ ⟨⟩
        exact Text.isEncodable_trim hline
    simpa [detail, Json.isEncodable_object_iff, Text.isEncodable_toText] using hdetail
  | nil =>
    by_cases hnode : Diagram.summary? s = none
    · rw [strictAnswer_of_no_node hfaults hnode]
      exact ⟨400, _, Or.inr rfl, Answer.gives_refusal 400 _, fun _ => isEncodable_noNodes⟩
    · rw [strictAnswer_of_node hfaults hnode]
      exact ⟨200, _, Or.inl rfl, Answer.gives_success _, Diagram.isEncodable_toJson_graph⟩

/-! ## 5. Answers to a value -/

/-- **A value without a text is refused, if the refusal can be written.** -/
theorem status_post_of_no_text (d : SampleDirectory) {body : Body} {contentType : Option Text}
    {v : Json} (hread : body.read contentType = .ok v) (hnone : stringAt? "text".toText v = none)
    {path : String} (hpath : path ∈ textPaths) :
    (post d path body contentType).status
      = if (objectionTo "text".toText v).value.isWritable then 422 else 500 := by
  obtain ⟨f, hf⟩ := exists_answerTo_of_mem_textPaths d hpath
  have hfault := isEncodable_objectionTo (Text.isEncodable_toText "text") v
  rw [hf, ← Answer.status_refusal hfault]
  exact congrArg Answer.status (answerTo_of_none hread f hnone)

section Answers

variable (d : SampleDirectory) {body : Body} {contentType : Option Text} {v : Json} {s : Text}
  (hread : body.read contentType = .ok v) (hs : stringAt? "text".toText v = some s)

include hread hs

theorem post_parse_of_text :
    post d "/parse" body contentType = .success (Diagram.graph s).toJson := by
  rw [post_parse]
  exact answerTo_of_some hread _ hs

theorem post_parse_strict_of_text : post d "/parse/strict" body contentType = strictAnswer s := by
  rw [post_parse_strict]
  exact answerTo_of_some hread _ hs

theorem post_diagnostics_of_text :
    post d "/diagnostics" body contentType
      = .success (.array ((Diagram.diagnostics s).map Diagram.Diagnostic.toJson)) := by
  rw [post_diagnostics]
  exact answerTo_of_some hread _ hs

theorem post_hover_of_text :
    post d "/hover" body contentType
      = .success (((Diagram.summary? s).map Diagram.Summary.toJson).getD .null) := by
  rw [post_hover]
  exact answerTo_of_some hread _ hs

/-- **A text is answered or refused with 400, and what is said of it can be written if the text
can.** -/
theorem exists_gives_of_text {path : String} (hpath : path ∈ textPaths) :
    ∃ status reply, (status = 200 ∨ status = 400) ∧
      (post d path body contentType).Gives status reply ∧
      (Text.isEncodable s = true → reply.isEncodable = true) := by
  simp only [textPaths, List.mem_cons, List.not_mem_nil, or_false] at hpath
  rcases hpath with rfl | rfl | rfl | rfl
  · rw [post_parse_of_text d hread hs]
    exact ⟨200, _, Or.inl rfl, Answer.gives_success _, Diagram.isEncodable_toJson_graph⟩
  · rw [post_parse_strict_of_text d hread hs]
    exact exists_gives_strictAnswer s
  · rw [post_diagnostics_of_text d hread hs]
    exact ⟨200, _, Or.inl rfl, Answer.gives_success _, Diagram.isEncodable_diagnostics⟩
  · rw [post_hover_of_text d hread hs]
    exact ⟨200, _, Or.inl rfl, Answer.gives_success _, fun _ => Diagram.isEncodable_summary s⟩

/-- **The strict reading answers like the plain one exactly where there is no diagnostic and a
summary.** -/
theorem post_parse_strict_granted_iff (hencodable : Text.isEncodable s = true) :
    (∃ reply, post d "/parse/strict" body contentType = .reply 200 reply ∧
        post d "/parse" body contentType = .reply 200 reply) ↔
      post d "/diagnostics" body contentType = .reply 200 (.array []) ∧
        post d "/hover" body contentType ≠ .reply 200 .null := by
  have hgraph := Diagram.isEncodable_toJson_graph hencodable
  rw [post_parse_of_text d hread hs, post_parse_strict_of_text d hread hs,
    post_diagnostics_of_text d hread hs, post_hover_of_text d hread hs,
    (Answer.gives_success _).eq_reply hgraph,
    (Answer.gives_success _).eq_reply (Diagram.isEncodable_diagnostics hencodable),
    (Answer.gives_success _).eq_reply (Diagram.isEncodable_summary s)]
  have hrefused : ∀ {reply}, (strictAnswer s).status = 400 ∨ (strictAnswer s).status = 500 →
      strictAnswer s ≠ .reply 200 reply := by
    intro reply hstatus heq
    simp [heq, Answer.status] at hstatus
  constructor
  · rintro ⟨reply, hstrict, -⟩
    cases hfaults : Diagram.diagnostics s with
    | cons first rest =>
      refine absurd hstrict (hrefused ?_)
      rw [strictAnswer_of_diagnostics_cons hfaults]
      exact (Answer.gives_refusal 400 _).status_eq
    | nil =>
      refine ⟨rfl, ?_⟩
      cases hnode : Diagram.summary? s with
      | some summary => simp [Diagram.Summary.toJson]
      | none =>
        refine absurd hstrict (hrefused ?_)
        rw [strictAnswer_of_no_node hfaults hnode]
        exact (Answer.gives_refusal 400 _).status_eq
  · rintro ⟨hnil, hsummary⟩
    have hfaults : Diagram.diagnostics s = [] := by simpa using hnil
    have hnode : Diagram.summary? s ≠ none := by
      intro hnone
      simp [hnone] at hsummary
    rw [strictAnswer_of_node hfaults hnode]
    exact ⟨_, (Answer.gives_success _).eq_reply hgraph, rfl⟩

end Answers

/-! ## 6. All answers -/

end Service

end ArrowNotation
