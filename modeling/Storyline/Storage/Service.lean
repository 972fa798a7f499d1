import Storyline.Http.Message
import Storyline.Json.Display
import Storyline.Storage.Backend

/-!
# Storage behind a service

Records as keys of a key-value service.  A key joins the prefix, the session, the
kind and the id by colons, so that every session has keys of its own.

Keys and cursors are texts of Unicode here.  Half of a surrogate pair that stands alone
has no octets, so that no path and no query can carry it: sending one would fail in the
encoder, and that is left out.

- `Client`: what a storage knows of its service;
- `Client.key`: the key of a record;
- `Client.request`: a request, and what its failures are reported as;
- `Client.backend`: the primitives over a transport.
-/

namespace Storyline.Storage

open Http

/-- A time in seconds, whole or not. -/
inductive Duration where
  | whole (n : Int)
  | exact (x : Float)

/-- A time as messages give it. -/
def Duration.show : Duration → String
  | .whole n => Decimal.renderInt n
  | .exact x => Decimal.Layout.plain.render x

/-- What a storage knows of its service. -/
structure Client where
  origin : String
  session : String
  namespaceName : String
  apiKey : String
  timeout : Duration
  pageSize : Int

namespace Client

variable {τ : Type}

/-- The address of a service without slashes at its end. -/
def trimOrigin (address : String) : String :=
  String.ofList (Text.trimEnd (· = '/') address.toList)

/-- The key of a record; with an empty id, the start of the keys of a kind. -/
def key (c : Client) (kind : Kind) (id : String) : String :=
  c.namespaceName ++ ":" ++ c.session ++ ":" ++ kind.name ++ ":" ++ id

/-- The path of a key. -/
def keyPath (key : String) : String :=
  "/api/kv/" ++ String.ofList (Text.Percent.encode (· = ':') key.toList)

/-- The body that carries a text. -/
def valueBody (text : String) : String := (Json.obj [("value", .str text)]).write .compact

/-- The authorization of requests. -/
def authorization (c : Client) : Option String :=
  if c.apiKey = "" then none else some ("Bearer " ++ c.apiKey)

/-- A request to the service. -/
def message (c : Client) (method path : String) (query : List (String × String))
    (body : String) : Request :=
  ⟨method, c.origin, path, query, c.authorization, "application/json", body⟩

/-- The reply of an outcome, or the fault that it is reported as.  Where a record may
be missing, the status for that is no fault. -/
def accept (c : Client) (mayBeMissing : Bool) : Outcome → Except Failure (Option Reply)
  | .reply r =>
    if mayBeMissing && r.status = 404 then .ok none
    else if r.succeeded then .ok (some r)
    else .error (.fault (.status r.status))
  | .unreachable => .error (.fault (.cannotConnect c.origin))
  | .timedOut => .error (.fault (.timedOut c.timeout.show))
  | .failed cause text => .error (.fault (.requestFailed cause text))
  | .notAddress => .error (.escape .notAddress)

/-- Send a request. -/
def request (c : Client) (t : Transport τ) (mayBeMissing : Bool) (r : Request) :
    Act τ (Option Reply) := do
  if c.apiKey.toList.any (0x80 ≤ ·.toNat) then throw (.escape .headerNotAscii)
  let outcome ← t.send r
  Act.ofExcept (c.accept mayBeMissing outcome)

/-- The value of a reply's body. -/
def jsonOf (r : Reply) : Except Failure Json :=
  match r.body.json? with
  | some v => .ok v
  | none => .error (.fault .notJson)

/-- The text in the reply to a read. -/
def valueOf (v : Json) : Except Failure String :=
  match v.member? "value" with
  | some (.str s) => .ok s
  | _ => .error (.fault .unexpectedFormat)

/-- The text of a record. -/
def read (c : Client) (t : Transport τ) (kind : Kind) (id : String) :
    Act τ (Option String) := do
  match ← c.request t true (c.message "GET" (keyPath (c.key kind id)) [] "") with
  | none => return none
  | some r =>
    let v ← Act.ofExcept (jsonOf r)
    some <$> Act.ofExcept (valueOf v)

/-- Write a record. -/
def write (c : Client) (t : Transport τ) (kind : Kind) (id text : String) : Act τ Unit := do
  let _ ← c.request t false (c.message "PUT" (keyPath (c.key kind id)) [] (valueBody text))

/-- Remove a record, if it is there. -/
def remove (c : Client) (t : Transport τ) (kind : Kind) (id : String) : Act τ Unit := do
  let _ ← c.request t true (c.message "DELETE" (keyPath (c.key kind id)) [] "")

/-- The ids of the keys that start with a text. -/
def idsOf (start : String) : List Json → Except Failure (List String)
  | [] => .ok []
  | .str k :: ks => do
    let rest ← idsOf start ks
    if start.toList.isPrefixOf k.toList then
      return String.ofList (k.toList.drop start.length) :: rest
    else return rest
  | _ :: _ => .error (.escape .keyNotText)

/-- A value as a query parameter. -/
def parameterText : Json → String
  | .null => ""
  | .bool b => if b then "true" else "false"
  | v => v.display

/-- The parameters of a page's cursor; a list gives one for each of its items. -/
def cursorParameters : Json → List (String × String)
  | .arr xs => xs.map fun x => ("cursor", parameterText x)
  | v => [("cursor", parameterText v)]

/-- The ids on a page, and the cursor to go on from. -/
def readPage (start : String) (v : Json) : Except Failure (List String × Option Json) :=
  match v.member? "keys" with
  | some (.arr ks) => do
    let ids ← idsOf start ks
    let cursor := (v.member? "cursor").getD .null
    let complete := (v.member? "list_complete").elim true Json.isTruthy
    return (ids, if complete || ! cursor.isTruthy then none else some cursor)
  | _ => .error (.fault .unexpectedFormat)

/-- The ids from a cursor on, over at most `fuel` pages. -/
def idsFrom (c : Client) (t : Transport τ) (kind : Kind) :
    Nat → List (String × String) → Act τ (List String)
  | 0, _ => throw (.escape .endlessListing)
  | fuel + 1, cursor => do
    let start := c.key kind ""
    let query :=
      [("prefix", start), ("limit", Decimal.renderInt c.pageSize)] ++ cursor
    match ← c.request t false (c.message "GET" "/api/kv" query "") with
    | none => return []
    | some r =>
      let v ← Act.ofExcept (jsonOf r)
      let (ids, next) ← Act.ofExcept (readPage start v)
      match next with
      | none => return ids
      | some cursor => return ids ++ (← c.idsFrom t kind fuel (cursorParameters cursor))

/-- The ids of a kind, page after page. -/
def ids (c : Client) (t : Transport τ) (kind : Kind) : Act τ (List String) := do
  c.idsFrom t kind (t.patience (← get)) []

/-- The service answers. -/
def available (c : Client) (t : Transport τ) : Act τ Bool := fun s =>
  match c.request t false (c.message "GET" "/api/health" [] "") s with
  | (.ok _, s) => (.ok true, s)
  | (.error (.fault _), s) => (.ok false, s)
  | (.error (.escape e), s) => (.error (.escape e), s)

/-- The primitives of a storage behind a service. -/
def backend (c : Client) (t : Transport τ) : Backend τ where
  read := c.read t
  write := c.write t
  remove := c.remove t
  ids := c.ids t
  available := c.available t

end Client

end Storyline.Storage
