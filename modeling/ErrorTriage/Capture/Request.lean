import ErrorTriage.Capture.NameValues

/-!
# Capture.Request — the request that was served when an error occurred

A textual index on a request searches four of its collections in a fixed order: query string,
form, cookies, server variables.  The context around a request adds the user and further items.
-/

namespace ErrorTriage

structure Request where
  httpMethod : String := ""
  path : String := ""
  url : String := ""
  userAgent : String := ""
  userHostAddress : String := ""
  isLocal : Bool := false
  serverVariables : NameValues := {}
  queryString : NameValues := {}
  form : NameValues := {}
  cookies : NameValues := {}
  headers : NameValues := {}
deriving DecidableEq, Repr, Inhabited

namespace Request

def member? (r : Request) (name : String) : Option Value :=
  match name with
  | "HttpMethod" => some (.str r.httpMethod)
  | "Path" => some (.str r.path)
  | "Url" => some (.str r.url)
  | "RawUrl" => some (.str r.url)
  | "UserAgent" => some (.str r.userAgent)
  | "UserHostAddress" => some (.str r.userHostAddress)
  | "IsLocal" => some (.bool r.isLocal)
  | "ServerVariables" => some r.serverVariables.toValue
  | "QueryString" => some r.queryString.toValue
  | "Form" => some r.form.toValue
  | "Cookies" => some r.cookies.toValue
  | "Headers" => some r.headers.toValue
  | _ => none

def searched (r : Request) : List NameValues :=
  [r.queryString, r.form, r.cookies, r.serverVariables]

/-- A textual index finds the first collection that has the name, and null if none has it. -/
def item? (r : Request) : Index → Option Value
  | .str key => some (Value.ofOption (r.searched.findSome? fun m => m.get? key))
  | .int _ => none

def text (r : Request) : String := r.httpMethod ++ " " ++ r.url

def toValue (r : Request) : Value :=
  .object "HttpRequest" [] r.text r.member? r.item?

/-- Reads a request; all fields may be missing. -/
def ofJson? (j : Json) : Option Request := do
  match ← j.fields? ["httpMethod", "path", "url", "userAgent", "userHostAddress", "isLocal",
      "serverVariables", "queryString", "form", "cookies", "headers"] with
  | [method, path, url, agent, address, isLocal, server, query, form, cookies, headers] =>
    return {
      httpMethod := ← Json.orElse "" Json.string? method
      path := ← Json.orElse "" Json.string? path
      url := ← Json.orElse "" Json.string? url
      userAgent := ← Json.orElse "" Json.string? agent
      userHostAddress := ← Json.orElse "" Json.string? address
      isLocal := ← Json.orElse false Json.bool? isLocal
      serverVariables := ← Json.orElse {} NameValues.ofJson? server
      queryString := ← Json.orElse {} NameValues.ofJson? query
      form := ← Json.orElse {} NameValues.ofJson? form
      cookies := ← Json.orElse {} NameValues.ofJson? cookies
      headers := ← Json.orElse {} NameValues.ofJson? headers }
  | _ => none

end Request

/-! ## The context of a request -/

structure RequestContext where
  request : Request := {}
  /-- The name of the user, if one is known. -/
  user : Option String := none
  items : NameValues := {}
deriving DecidableEq, Repr, Inhabited

namespace RequestContext

/-- The user as an object with an identity; an empty name is not authenticated. -/
def principal (user : String) : Value :=
  let identity := ((Record.mk "GenericIdentity" ["IIdentity"] .empty).withMember "Name"
    (.str user)).withMember "IsAuthenticated" (.bool (user ≠ ""))
  ((Record.mk "GenericPrincipal" ["IPrincipal"] .empty).withMember "Identity"
    identity.toValue).toValue

def member? (c : RequestContext) (name : String) : Option Value :=
  match name with
  | "Request" => some c.request.toValue
  | "Items" => some c.items.toValue
  | "User" =>
    match c.user with
    | some user => some (principal user)
    | none => some .null
  | _ => none

def toValue (c : RequestContext) : Value :=
  .object "HttpContext" [] "HttpContext" c.member? fun _ => none

/-- Reads a context; all fields may be missing. -/
def ofJson? (j : Json) : Option RequestContext := do
  match ← j.fields? ["request", "user", "items"] with
  | [request, user, items] =>
    return {
      request := ← Json.orElse {} Request.ofJson? request
      user := ← Json.orElse none (Json.nullable? Json.string?) user
      items := ← Json.orElse {} NameValues.ofJson? items }
  | _ => none

end RequestContext
end ErrorTriage
