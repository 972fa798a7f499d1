import Storyline.Bus.Basic
import Storyline.Json.Display

/-!
# Telling events

When an event is told, everyone who is registered for its kind at that moment is
called once.  A listener may do anything with the bus while it is called: register,
take registrations back, and tell events of its own.  What fails inside a listener
ends that listener's doings and nothing else.  A failure here is an exception of the
ordinary kind; the signals that end a program, such as an exit or a keyboard
interrupt, are not caught where events are told and are not modelled.

- `Deed`: what can be done with a bus;
- `Bus.tell`: an event told, with what each listener does;
- `Bus.perform`: a deed, where listeners do what a given behaviour says.

Listeners act inside at most `depth` nested events; deeper ones are called and do
nothing.
-/

namespace Storyline

/-- Something done with a bus. -/
inductive Deed where
  | on (kind listener : String)
  | off (kind listener : String)
  | release (listener : String)
  | clear
  | count (kind : String)
  | setClock (seconds : Float)
  | tell (kind : String) (payload : Json)
  | fail

namespace Bus

/-- What comes of a deed. -/
inductive Outcome where
  | nothing
  | number (n : Nat)
  | event (e : Event)

/-- Why a deed is not done. -/
inductive Fault where
  | invalid (issues : List Schema.Issue)
  | neverRegistered
  | failed
  deriving DecidableEq, Repr

open Schema in
/-- The event of a kind at a moment.  A payload that counts as nothing is empty. -/
def readEvent (kind : String) (payload : Json) (moment : Float) : Checked Event :=
  Event.mk <$> (oneOf EventKind.ofName? (.str kind)).inMember "type"
    <*> (if ! payload.isTruthy then .good [] else (anyMap payload).inMember "payload")
    <*> .good moment

/-- Tell an event: every listener of its kind is called and then acts. -/
def tellEvent (act : String → Bus → Bus) (level : Nat) (event : Event) (b : Bus) : Bus :=
  (b.listenersOf event.kind.name).foldl (fun b l => act l (b.record level event l)) b

/-- Tell an event of a kind, unless there is no such event. -/
def tell (act : String → Bus → Bus) (level : Nat) (kind : String) (payload : Json) (b : Bus) :
    Except Fault Outcome × Bus :=
  let b := b.stamp
  match readEvent kind payload b.latest with
  | .bad issues => (.error (.invalid issues), b)
  | .good event => (.ok (.event event), b.tellEvent act level event)

/-- Carry out deeds up to the first one that fails. -/
def performAll (perform : Deed → Bus → Except Fault Outcome × Bus) : List Deed → Bus → Bus
  | [], b => b
  | d :: ds, b =>
    match perform d b with
    | (.ok _, b) => performAll perform ds b
    | (.error _, b) => b

/-- Carry out a deed at a level of nesting. -/
def perform (behaviour : String → List Deed) (depth level : Nat) (deed : Deed) (b : Bus) :
    Except Fault Outcome × Bus :=
  match deed with
  | .on kind listener => (.ok .nothing, b.on kind listener)
  | .off kind listener => (.ok .nothing, b.off kind listener)
  | .release listener =>
    match b.release? listener with
    | some b => (.ok .nothing, b)
    | none => (.error .neverRegistered, b)
  | .clear => (.ok .nothing, b.clear)
  | .count kind => (.ok (.number (b.count kind)), b)
  | .setClock seconds => (.ok .nothing, b.setClock seconds)
  | .fail => (.error .failed, b)
  | .tell kind payload =>
    match depth with
    | 0 => b.tell (fun _ b => b) level kind payload
    | depth + 1 =>
      b.tell (fun l => performAll (perform behaviour depth (level + 1)) (behaviour l)) level kind
        payload

/-- Tell an event to listeners that do nothing with the bus. -/
def announce (b : Bus) (kind : EventKind) (payload : Json.Members) : Bus :=
  b.stamp.tellEvent (fun _ b => b) 0 ⟨kind, payload, b.moment⟩

end Bus

end Storyline
