import Storyline.Http.Message

/-!
# Targets of requests

The path and query that a request line names.

- `splitTarget`: path and query of a target;
- `normalizePath`: the path without steps up and in place;
- `decodeQuery`: the pairs of a query.
-/

namespace Storyline.Http

/-- The path and the query of a target; a fragment is dropped. -/
def splitTarget (target : String) : String × String :=
  let cs := target.toList.takeWhile (· != '#')
  (String.ofList (cs.takeWhile (· != '?')), String.ofList ((cs.dropWhile (· != '?')).drop 1))

/-- A step of a path: stay, go up, or go on. -/
def followStep (done : List String) (name : String) : List String :=
  if name = "." then done
  else if name = ".." then if done = [] || done = [""] then done else done.dropLast
  else done ++ [name]

/-- The path without steps up and in place. -/
def normalizePath (path : String) : String :=
  let names := path.splitOn "/"
  if names.contains "." || names.contains ".." then "/".intercalate (names.foldl followStep [])
  else path

/-- The text of a query part. -/
def decodeQueryPart (s : String) : String :=
  String.ofList (Text.Percent.decode (s.toList.map fun c => if c = '+' then ' ' else c))

/-- The pairs of a query; a part without an equals sign has an empty value. -/
def decodeQuery (query : String) : List (String × String) :=
  ((query.splitOn "&").filter (· != "")).map fun part =>
    let cs := part.toList
    (decodeQueryPart (String.ofList (cs.takeWhile (· != '='))),
      decodeQueryPart (String.ofList ((cs.dropWhile (· != '=')).drop 1)))

end Storyline.Http
