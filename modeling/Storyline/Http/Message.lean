import Storyline.Json.Reader
import Storyline.Text.Percent

/-!
# Requests and replies

What passes between a client and a service.

- `Request`, `Reply`: the two messages;
- `Request.url`: the address of a request;
- `Outcome`: a reply, or why there is none;
- `Transport`: a way of sending, over a state;
- `jsonOfBody`: the value of a body.
-/

namespace Storyline.Http

/-- What a client asks.  The path is percent-encoded, the query is not. -/
structure Request where
  method : String
  origin : String
  path : String
  query : List (String × String)
  authorization : Option String
  contentType : String
  body : String
  deriving DecidableEq, Repr

/-- The body of a reply. -/
inductive Body where
  | json (v : Json)
  | text (s : String)

/-- What a service answers. -/
structure Reply where
  status : Nat
  body : Body

/-- A reply, or why there is none: no connection, no answer in time, another failure
with its name and wording, or nothing was sent since the address is none. -/
inductive Outcome where
  | reply (r : Reply)
  | unreachable
  | timedOut
  | failed (cause message : String)
  | notAddress

/-- A way of sending requests.  `patience` bounds how many replies a listing waits
for. -/
structure Transport (τ : Type) where
  send : Request → StateM τ Outcome
  patience : τ → Nat

/-- A query part: blanks are plus signs, and all but unreserved characters are
percent-encoded. -/
def encodeQueryPart (s : String) : List Char :=
  s.toList.flatMap fun c => if c = ' ' then ['+'] else Text.Percent.encodeChar (fun _ => false) c

/-- The text of a query. -/
def encodeQuery (query : List (String × String)) : String :=
  "&".intercalate <| query.map fun q =>
    String.ofList (encodeQueryPart q.1 ++ '=' :: encodeQueryPart q.2)

/-- The address of a request. -/
def Request.url (r : Request) : String :=
  r.origin ++ r.path ++ if r.query.isEmpty then "" else "?" ++ encodeQuery r.query

/-- The characters of a body, which may start with a byte order mark. -/
def bodyChars (body : String) : List Char :=
  match body.toList with
  | '\ufeff' :: cs => cs
  | cs => cs

/-- The value of a body. -/
def jsonOfBody (body : String) : Except Json.Fault Json :=
  Json.readChars (some Json.maxDigits) (bodyChars body)

/-- The body of a reply as a value, if it is one. -/
def Body.json? : Body → Option Json
  | .json v => some v
  | .text s => (jsonOfBody s).toOption

/-- A status that reports success. -/
def Reply.succeeded (r : Reply) : Bool := 200 ≤ r.status && r.status < 300

end Storyline.Http
