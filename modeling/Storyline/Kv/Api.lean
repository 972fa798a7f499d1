import Storyline.Http.Target
import Storyline.Kv.Store
import Storyline.Schema.Scalars

/-!
# The key-value service

The store behind requests: a health check, listings, and reading, writing and
deleting single keys.  Keys may hold any characters but line breaks.

- `Route`: what a path and a method ask for;
- `respond`: the reply to a request, and the store after it;
- `transport`: the service as a way of sending.

The checks come in a fixed order: the route, the form of the body, the key of the
caller, the parameters.
-/

namespace Storyline.Kv

open Http

/-- A path that the service knows. -/
inductive Place where
  | health
  | listing
  | entry (key : String)
  deriving DecidableEq, Repr

/-- What a path and a method ask for. -/
inductive Route where
  | health
  | listing
  | read (key : String)
  | write (key : String)
  | delete (key : String)
  deriving DecidableEq, Repr

/-- The path up to which keys are not part of it. -/
def entryStart : List Char := "/api/kv/".toList

/-- The place of a decoded path.  A line break at its end does not count. -/
def Place.ofPath? (path : List Char) : Option Place :=
  let path := if path.getLast? = some '\n' then path.dropLast else path
  if path = "/api/health".toList then some .health
  else if path = "/api/kv".toList then some .listing
  else if entryStart.isPrefixOf path then
    let key := path.drop entryStart.length
    if key.contains '\n' then none else some (.entry (String.ofList key))
  else none

/-- What is asked for at a place. -/
def Place.route? (method : String) : Place → Option Route
  | .health => if method = "GET" then some .health else none
  | .listing => if method = "GET" then some .listing else none
  | .entry key =>
    if method = "GET" then some (.read key)
    else if method = "PUT" then some (.write key)
    else if method = "DELETE" then some (.delete key)
    else none

/-- The path with its slashes at the end taken away, or with one added. -/
def otherSlash (path : List Char) : List Char :=
  if path.getLast? = some '/' then (path.reverse.dropWhile (· = '/')).reverse else path ++ ['/']

/-- A reply that only explains itself. -/
def detail (status : Nat) (s : String) : Reply :=
  ⟨status, .json (.obj [("detail", .str s)])⟩

/-- A step to an issue, in JSON. -/
def stepJson : Schema.Step → Json
  | .member name => .str name
  | .item index => .int index

/-- Issues in JSON. -/
def issuesJson (issues : List Schema.Issue) : Json :=
  .arr <| issues.map fun i =>
    .obj [("type", .str i.kind.code), ("loc", .arr (i.path.map stepJson))]

/-- A reply to a request of the wrong form. -/
def unprocessable (issues : List Schema.Issue) : Reply := ⟨422, .json (issuesJson issues)⟩

/-- A reply to something that was done. -/
def done : Reply := ⟨200, .json (.obj [("ok", .bool true)])⟩

/-- The media type of a content type header announces JSON; without a header JSON is
assumed. -/
def announcesJson (contentType : String) : Bool :=
  let media := (contentType.toList.takeWhile (· != ';')).filter (! Text.isBlank ·)
  let media := media.map Char.toLower
  contentType = "" || media = "application/json".toList
    || ("application/".toList.isPrefixOf media && "+json".toList.isSuffixOf media)

/-- What a body of a writing request is: nothing, a value, or octets of another
kind. -/
inductive Payload where
  | nothing
  | value (v : Json)
  | other

/-- The body of a writing request, or the reply to one that cannot be parsed. -/
def payload (r : Request) : Except Reply Payload :=
  if r.body = "" then .ok .nothing
  else if announcesJson r.contentType then
    match jsonOfBody r.body with
    | .ok v => .ok (.value v)
    | .error .malformed => .error (unprocessable [⟨.notJson, [.member "body"]⟩])
    | .error .numberTooLong => .error (detail 400 "There was an error parsing the body")
  else .ok .other

/-- The value to be written. -/
def valueOf : Payload → Schema.Checked String
  | .nothing => .bad [⟨.missing, [.member "body"]⟩]
  | .other => .bad [⟨.notTagged, [.member "body"]⟩]
  | .value (.obj ms) => (Schema.required "value" Schema.string ms).inMember "body"
  | .value _ => .bad [⟨.notTagged, [.member "body"]⟩]

/-- The last value of a query parameter. -/
def parameter? (name : String) (query : List (String × String)) : Option String :=
  (query.reverse.find? (·.1 = name)).map (·.2)

/-- The greatest number of keys on a page. -/
def maxPage : Int := 1000

/-- The number of keys that a listing asks for. -/
def limitOf (query : List (String × String)) : Schema.Checked Int :=
  match parameter? "limit" query with
  | none => .good 100
  | some s =>
    ((Schema.integerBetween 1 maxPage (.str s)).inMember "limit").inMember "query"

/-- A page in JSON. -/
def pageJson (p : Store.Page) : Json :=
  .obj [("keys", .texts p.keys), ("cursor", .ofOption p.cursor),
    ("list_complete", .bool p.cursor.isNone)]

/-- The caller knows the key of the service, if it has one. -/
def admits (serverKey : String) (r : Request) : Bool :=
  serverKey = "" || r.authorization.getD "" = "Bearer " ++ serverKey

/-- The reply to a request that may pass, and the store after it. -/
def serve (route : Route) (query : List (String × String)) (body : Payload) (s : Store) :
    Reply × Store :=
  match route with
  | .health => (⟨200, .json (.obj [("status", .str "ok")])⟩, s)
  | .listing =>
    match limitOf query with
    | .bad issues => (unprocessable issues, s)
    | .good limit =>
      match s.page ((parameter? "prefix" query).getD "") (parameter? "cursor" query) limit with
      | some p => (⟨200, .json (pageJson p)⟩, s)
      | none => (detail 500 "Internal Server Error", s)
  | .read key =>
    match s.get? key with
    | some value => (⟨200, .json (.obj [("key", .str key), ("value", .str value)])⟩, s)
    | none => (detail 404 "Key not found", s)
  | .write key =>
    match valueOf body with
    | .good value => (done, s.put key value)
    | .bad issues => (unprocessable issues, s)
  | .delete key =>
    match s.delete key with
    | (true, s) => (done, s)
    | (false, s) => (detail 404 "Key not found", s)

/-- The reply to a request, and the store after it. -/
def respond (serverKey : String) (r : Request) (s : Store) : Reply × Store :=
  let path := Text.Percent.decode r.path.toList
  match Place.ofPath? path with
  | none =>
    if path != ['/'] && (Place.ofPath? (otherSlash path)).isSome then (⟨307, .text ""⟩, s)
    else (detail 404 "Not Found", s)
  | some place =>
    match place.route? r.method with
    | none => (detail 405 "Method Not Allowed", s)
    | some route =>
      match (match route with | .write _ => payload r | _ => .ok .nothing) with
      | .error reply => (reply, s)
      | .ok body =>
        if route != .health && ! admits serverKey r then
          (detail 401 "Invalid or missing API key", s)
        else serve route r.query body s

/-- The service as a way of sending.  A listing has at most one page more than there
are keys. -/
def transport (serverKey : String) : Transport Store where
  send r := do
    let (reply, s) := respond serverKey r (← get)
    set s
    return .reply reply
  patience s := s.size + 1

end Storyline.Kv
