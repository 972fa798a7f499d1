import Storyline.Json.Value

/-!
# Checked values

Reading a record from JSON either gives the record or a list of issues, one for
each place where the value has the wrong shape.  Issues are collected: a record
with three wrong fields has three issues, in the order in which its fields are
declared.

- `Issue`: what is wrong, and where;
- `Checked`: a value or its issues, an applicative functor that collects;
- `Checked.under`, `Checked.inMember`: issues moved one step further out;
- `required`, `withDefault`, `orNone`: the three kinds of field;
- `list`, `tagged`: lists, and records told apart by a tag.
-/

namespace Storyline.Schema

/-- What is wrong with a value. -/
inductive IssueKind where
  | missing
  | notRecord
  | notTagged
  | tagMissing
  | tagUnknown
  | notText
  | notListed
  | notList
  | notMap
  | notInteger
  | integerText
  | integerSize
  | fraction
  | notFinite
  | tooSmall
  | tooLarge
  | notBool
  | boolText
  | notNumber
  | numberText
  | notPath
  | notJson
  deriving DecidableEq, Repr

/-- The code under which an issue is reported. -/
def IssueKind.code : IssueKind → String
  | .missing => "missing"
  | .notRecord => "model_type"
  | .notTagged => "model_attributes_type"
  | .tagMissing => "union_tag_not_found"
  | .tagUnknown => "union_tag_invalid"
  | .notText => "string_type"
  | .notListed => "literal_error"
  | .notList => "list_type"
  | .notMap => "dict_type"
  | .notInteger => "int_type"
  | .integerText => "int_parsing"
  | .integerSize => "int_parsing_size"
  | .fraction => "int_from_float"
  | .notFinite => "finite_number"
  | .tooSmall => "greater_than_equal"
  | .tooLarge => "less_than_equal"
  | .notBool => "bool_type"
  | .boolText => "bool_parsing"
  | .notNumber => "float_type"
  | .numberText => "float_parsing"
  | .notPath => "path_type"
  | .notJson => "json_invalid"

/-- One step into a value: a member of an object or an item of a list. -/
inductive Step where
  | member (name : String)
  | item (index : Nat)
  deriving DecidableEq, Repr

/-- One thing that is wrong, and the way to it from the outermost value. -/
structure Issue where
  kind : IssueKind
  path : List Step
  deriving DecidableEq, Repr

/-- The issue one step further out. -/
def Issue.under (step : Step) (issue : Issue) : Issue :=
  { issue with path := step :: issue.path }

/-- A value, or everything that is wrong with it. -/
inductive Checked (α : Type) where
  | good (value : α)
  | bad (issues : List Issue)

namespace Checked

variable {α β : Type}

/-- A single issue at the value itself. -/
def fail (kind : IssueKind) : Checked α := .bad [⟨kind, []⟩]

/-- Apply a function to a good value. -/
def map (f : α → β) : Checked α → Checked β
  | .good a => .good (f a)
  | .bad issues => .bad issues

/-- Apply a checked function to a checked value; the issues of both are kept. -/
def seq (f : Checked (α → β)) (x : Checked α) : Checked β :=
  match f, x with
  | .good f, .good a => .good (f a)
  | .good _, .bad issues => .bad issues
  | .bad issues, .good _ => .bad issues
  | .bad issues, .bad more => .bad (issues ++ more)

instance : Applicative Checked where
  pure := .good
  map := map
  seq f x := seq f (x ())

/-- Go on with a good value.  Unlike `seq` this stops at the first issues. -/
def andThen (x : Checked α) (f : α → Checked β) : Checked β :=
  match x with
  | .good a => f a
  | .bad issues => .bad issues

/-- The issues moved one step further out. -/
def under (step : Step) : Checked α → Checked α
  | .good a => .good a
  | .bad issues => .bad (issues.map (Issue.under step))

/-- The issues moved under a member. -/
def inMember (name : String) (x : Checked α) : Checked α := x.under (.member name)

/-- The value, if there are no issues. -/
def toOption : Checked α → Option α
  | .good a => some a
  | .bad _ => none

@[simp] theorem pure_def (a : α) : (pure a : Checked α) = .good a := rfl

@[simp] theorem map_good (f : α → β) (a : α) : (f <$> (.good a : Checked α)) = .good (f a) := rfl

@[simp] theorem seq_good (f : α → β) (a : α) :
    ((.good f : Checked (α → β)) <*> (.good a : Checked α)) = .good (f a) := rfl

@[simp] theorem inMember_good (name : String) (a : α) : (Checked.good a).inMember name = .good a := rfl

theorem map_eq_good {f : α → β} {x : Checked α} {b : β} :
    f <$> x = .good b ↔ ∃ a, x = .good a ∧ f a = b := by
  cases x with
  | good a =>
    constructor
    · intro h; exact ⟨a, rfl, by simpa using h⟩
    · rintro ⟨_, h, rfl⟩; cases h; rfl
  | bad issues =>
    constructor
    · intro h; cases h
    · rintro ⟨_, h, _⟩; cases h

theorem seq_eq_good {f : Checked (α → β)} {x : Checked α} {b : β} :
    f <*> x = .good b ↔ ∃ g a, f = .good g ∧ x = .good a ∧ g a = b := by
  cases f <;> cases x <;> simp [Seq.seq, seq]

theorem under_eq_good {step : Step} {x : Checked α} {a : α} :
    x.under step = .good a ↔ x = .good a := by
  cases x <;> simp [under]

end Checked

/-- A reader of JSON values. -/
abbrev Reader (α : Type) := Json → Checked α

/-- A member that has to be there. -/
def required {α : Type} (name : String) (read : Reader α) (ms : Json.Members) : Checked α :=
  match ms.get? name with
  | some v => (read v).inMember name
  | none => .bad [⟨.missing, [.member name]⟩]

/-- A member with a value of its own when it is not there. -/
def withDefault {α : Type} (name : String) (default : α) (read : Reader α)
    (ms : Json.Members) : Checked α :=
  match ms.get? name with
  | some v => (read v).inMember name
  | none => .good default

/-- A value that may be null. -/
def nullable {α : Type} (read : Reader α) : Reader (Option α)
  | .null => .good none
  | v => some <$> read v

/-- A member that may be null or not there. -/
def orNone {α : Type} (name : String) (read : Reader α) (ms : Json.Members) :
    Checked (Option α) :=
  withDefault name none (nullable read) ms

/-- The members of a record. -/
def record : Reader Json.Members
  | .obj ms => .good ms
  | _ => .fail .notRecord

/-- A record read member by member. -/
def ofRecord {α : Type} (read : Json.Members → Checked α) : Reader α
  | .obj ms => read ms
  | _ => .fail .notRecord

/-- Items read one after another, the first one at `index`. -/
def itemsFrom {α : Type} (read : Reader α) (index : Nat) : List Json → Checked (List α)
  | [] => .good []
  | x :: xs => List.cons <$> (read x).under (.item index) <*> itemsFrom read (index + 1) xs

/-- A list of values. -/
def list {α : Type} (read : Reader α) : Reader (List α)
  | .arr xs => itemsFrom read 0 xs
  | _ => .fail .notList

/-- One of several records, told apart by the text of their member `type`.  Issues
inside a record are moved under that text. -/
def tagged {α : Type} (read? : String → Option (Json.Members → Checked α)) : Reader α
  | .obj ms =>
    match Json.Members.get? "type" ms with
    | none => .fail .tagMissing
    | some (.str tag) =>
      match read? tag with
      | some read => (read ms).inMember tag
      | none => .fail .tagUnknown
    | some _ => .fail .tagUnknown
  | _ => .fail .notTagged

end Storyline.Schema
