import Wimsey.RustStd.UInt

/-!
# HTTP messages and their components

The model of `crates/httpsig/src/error.rs` and `crates/httpsig/src/message.rs`:
the components that a signature can cover, their identifiers, and the values
that a request or an exchange derives for them.

`ComponentSource` is the trait of the same name.  Besides the function it holds
what the two kinds of message have in common, that deriving a value never
panics.
-/

namespace Wimsey.HttpSig

open Wimsey.RustStd

/-- `HttpSigError`. -/
inductive HttpSigError where
  | missingComponent (name : Str)
  | unsupportedComponent (id : Str)
  | invalidComponentValue (id : Str)
  | missingRequiredComponent (id : Str)
  | unsupportedAlg (found : Str)
  | invalidTimeWindow
  | tooOld
  | parse (message : Str)
  | labelMismatch
  | malformedSignature
  | invalidSignature
  | expired
  | createdInFuture
  | missingParameter (name : Str)
  | forbiddenParameter (name : Str)
  | forbiddenComponent (id : Str)
  | wrongTag (found : Str)
  | audienceMismatch
  | requestNonceMismatch
  | noWimseSignature
  | ambiguousWimseSignature
deriving DecidableEq, Repr

/-! ## Components -/

/-- A covered component of an HTTP message signature. -/
inductive Component where
  | method
  | authority
  | path
  | query
  | requestTarget
  | status
  | req (inner : Component)
  | header (name : Str)
deriving DecidableEq, Repr

namespace Component

/-- `PartialEq for Component`: header names are compared without letter case. -/
def eq : Component → Component → Bool
  | .method, .method => true
  | .authority, .authority => true
  | .path, .path => true
  | .query, .query => true
  | .requestTarget, .requestTarget => true
  | .status, .status => true
  | .req a, .req b => eq a b
  | .header a, .header b => Str.eqIgnoreAsciiCase a b
  | _, _ => false

/-- `<[Component]>::contains`. -/
def contains (components : List Component) (c : Component) : Bool :=
  components.any fun x => x.eq c

/-- `Component::header`, the header component of a name in any letter case. -/
def ofHeader (name : Str) : Component := .header (Str.toAsciiLowercase name)

/-- `Component::quoted_id`. -/
def quotedId : Component → Str
  | .method => "\"@method\""
  | .authority => "\"@authority\""
  | .path => "\"@path\""
  | .query => "\"@query\""
  | .requestTarget => "\"@request-target\""
  | .status => "\"@status\""
  | .req inner => quotedId inner ++ ";req".toList
  | .header name => '"' :: name ++ ['"']

theorem quotedId_req (inner : Component) :
    (Component.req inner).quotedId = inner.quotedId ++ ";req".toList := rfl

/-- The `match` on the text between the quotes of an identifier. -/
def ofInner (inner : Str) : Outcome HttpSigError Component :=
  if inner = "@method" then .ok .method
  else if inner = "@authority" then .ok .authority
  else if inner = "@path" then .ok .path
  else if inner = "@query" then .ok .query
  else if inner = "@request-target" then .ok .requestTarget
  else if inner = "@status" then .ok .status
  else if inner.head? = some '@' then .err (.unsupportedComponent inner)
  else .ok (.header (Str.toAsciiLowercase inner))

/-- `Component::from_quoted_id`. -/
def fromQuotedId (token : Str) : Outcome HttpSigError Component :=
  match _h : Str.stripSuffix ";req" token with
  | some base => do
      let inner ← fromQuotedId base
      .ok (.req inner)
  | none => do
      let inner ← Outcome.okOr
        (.parse ("not a quoted identifier: ".toList ++ token))
        ((Str.stripPrefix ['"'] token).bind (Str.stripSuffix ['"']))
      ofInner inner
termination_by token.length
decreasing_by
  rw [Str.stripSuffix_eq_some_iff.1 _h]
  simp

theorem fromQuotedId_append_req (base : Str) :
    fromQuotedId (base ++ ";req".toList) = (do
      let inner ← fromQuotedId base
      .ok (.req inner)) := by
  rw [fromQuotedId]
  split
  · rename_i base' h
    rw [Str.stripSuffix_append] at h
    rw [Option.some.inj h]
  · rename_i h
    rw [Str.stripSuffix_append] at h
    cases h

theorem fromQuotedId_of_not_req {token : Str}
    (h : Str.stripSuffix ";req" token = none) :
    fromQuotedId token = (do
      let inner ← Outcome.okOr
        (.parse ("not a quoted identifier: ".toList ++ token))
        ((Str.stripPrefix ['"'] token).bind (Str.stripSuffix ['"']))
      ofInner inner) := by
  rw [fromQuotedId]
  split
  · rename_i h'
    rw [h] at h'
    cases h'
  · rfl

end Component

/-! ## Messages -/

/-- A minimal HTTP request. -/
structure HttpRequest where
  method : Str
  authority : Str
  path : Str
  query : Option Str
  headers : List (Str × Str)
deriving DecidableEq, Repr

/-- A minimal HTTP response. -/
structure HttpResponse where
  status : UInt16
  headers : List (Str × Str)
deriving DecidableEq, Repr

/-- A response together with the request it answers. -/
structure HttpExchange where
  response : HttpResponse
  request : HttpRequest
deriving DecidableEq, Repr

/-- The values of the fields of a name, trimmed. -/
def fieldValues (headers : List (Str × Str)) (name : Str) : List Str :=
  (headers.filter fun h => Str.eqIgnoreAsciiCase h.1 name).map fun h =>
    Str.trim h.2

/-- `header_value`. -/
def headerValue (headers : List (Str × Str)) (name : Str) :
    Outcome HttpSigError Str :=
  if (fieldValues headers name).isEmpty then .err (.missingComponent name)
  else .ok (", ".toList.intercalate (fieldValues headers name))

namespace HttpRequest

/-- The derived path: an empty one is `/`. -/
def derivedPath (request : HttpRequest) : Str :=
  if request.path.isEmpty then ['/'] else request.path

/-- The derived query: `?` and the query, which may be absent. -/
def derivedQuery (request : HttpRequest) : Str := '?' :: request.query.getD []

/-- `HttpRequest::request_target`. -/
def requestTarget (request : HttpRequest) : Str :=
  match request.query with
  | some query => request.derivedPath ++ '?' :: query
  | none => request.derivedPath

/-- `HttpRequest::component_value`. -/
def componentValue (request : HttpRequest) :
    Component → Outcome HttpSigError Str
  | .method => .ok request.method
  | .authority => .ok (Str.toAsciiLowercase request.authority)
  | .path => .ok request.derivedPath
  | .query => .ok request.derivedQuery
  | .requestTarget => .ok request.requestTarget
  | .header name => headerValue request.headers name
  | .status => .err (.unsupportedComponent Component.status.quotedId)
  | .req inner => .err (.unsupportedComponent (Component.req inner).quotedId)

end HttpRequest

/-- `ComponentSource for HttpExchange`. -/
def HttpExchange.componentValue (exchange : HttpExchange) :
    Component → Outcome HttpSigError Str
  | .status => .ok (display exchange.response.status.toNat)
  | .req inner => exchange.request.componentValue inner
  | .header name => headerValue exchange.response.headers name
  | other => .err (.unsupportedComponent other.quotedId)

theorem headerValue_ne_panic (headers : List (Str × Str)) (name : Str) :
    headerValue headers name ≠ .panic := by
  rw [headerValue]
  split <;> simp

theorem HttpRequest.componentValue_ne_panic (request : HttpRequest)
    (c : Component) :
    request.componentValue c ≠ .panic := by
  cases c with
  | header name => exact headerValue_ne_panic request.headers name
  | _ => simp [componentValue]

theorem HttpExchange.componentValue_ne_panic (exchange : HttpExchange)
    (c : Component) :
    exchange.componentValue c ≠ .panic := by
  cases c with
  | header name => exact headerValue_ne_panic exchange.response.headers name
  | req inner => exact exchange.request.componentValue_ne_panic inner
  | _ => simp [componentValue]

/-- `ComponentSource`. -/
class ComponentSource (M : Type) where
  componentValue : M → Component → Outcome HttpSigError Str
  componentValue_ne_panic : ∀ message c, componentValue message c ≠ .panic

instance : ComponentSource HttpRequest where
  componentValue := HttpRequest.componentValue
  componentValue_ne_panic := HttpRequest.componentValue_ne_panic

instance : ComponentSource HttpExchange where
  componentValue := HttpExchange.componentValue
  componentValue_ne_panic := HttpExchange.componentValue_ne_panic

end Wimsey.HttpSig
