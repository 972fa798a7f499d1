import Storyline.Event
import Storyline.Table

/-!
# The event bus

Listeners register for kinds of events and are called, in the order of their
registration, when an event of the kind is told.  A listener is known by its name
and is registered for a kind at most once.

- `Bus`: the registrations, the clock, and the record of calls;
- `Bus.on`, `Bus.off`, `Bus.release`, `Bus.clear`: registrations;
- `Bus.stamp`: the moment of the next event;
- `Bus.record`: a call of a listener.

The moments of events never decrease, whatever the clock reads.
-/

namespace Storyline

/-- A call of a listener.  `level` counts the events that were being told when this
one was. -/
structure Call where
  listener : String
  event : Event
  level : Nat

/-- The registrations by kind and listener, the kind that each listener last
registered for, the clock in seconds, the last moment given to an event, and the
calls, the latest first. -/
structure Bus where
  registered : List (String × String)
  distinct : registered.Nodup
  handles : Table String
  clock : Float
  latest : Float
  calls : List Call

namespace Bus

/-- The bus without registrations, its clock at zero. -/
def empty : Bus := ⟨[], List.nodup_nil, ∅, 0.0, 0.0, []⟩

instance : Inhabited Bus := ⟨empty⟩

/-- The listeners of a kind, in the order of their registration. -/
def listenersOf (b : Bus) (kind : String) : List String :=
  (b.registered.filter (·.1 = kind)).map Prod.snd

/-- The number of listeners of a kind. -/
def count (b : Bus) (kind : String) : Nat := (b.listenersOf kind).length

/-- Some registrations with one more, unless it is there. -/
def enroll (entry : String × String) (es : List (String × String)) : List (String × String) :=
  if entry ∈ es then es else es ++ [entry]

theorem nodup_enroll (entry : String × String) {es : List (String × String)} (h : es.Nodup) :
    (enroll entry es).Nodup := by
  unfold enroll
  split
  · exact h
  · rename_i hn
    rw [List.nodup_append]
    refine ⟨h, by simp, ?_⟩
    intro a ha b hb hab
    rw [List.mem_singleton] at hb
    exact hn (hb ▸ hab ▸ ha)

/-- Register a listener for a kind. -/
def on (b : Bus) (kind listener : String) : Bus :=
  { b with
    registered := enroll (kind, listener) b.registered
    distinct := nodup_enroll (kind, listener) b.distinct
    handles := b.handles.insert listener kind }

/-- Take a registration back. -/
def off (b : Bus) (kind listener : String) : Bus :=
  { b with
    registered := b.registered.erase (kind, listener)
    distinct := b.distinct.erase (kind, listener) }

/-- Take the last registration of a listener back; `none` if it never registered. -/
def release? (b : Bus) (listener : String) : Option Bus :=
  (b.handles.get? listener).map fun kind => b.off kind listener

/-- Take all registrations back. -/
def clear (b : Bus) : Bus := { b with registered := [], distinct := List.nodup_nil }

/-- Set the clock. -/
def setClock (b : Bus) (seconds : Float) : Bus := { b with clock := seconds }

/-- The moment of the next event, in milliseconds. -/
def moment (b : Bus) : Float :=
  if b.clock * 1000.0 < b.latest then b.latest else b.clock * 1000.0

/-- Let the next event have its moment. -/
def stamp (b : Bus) : Bus := { b with latest := b.moment }

/-- Record a call. -/
def record (b : Bus) (level : Nat) (event : Event) (listener : String) : Bus :=
  { b with calls := ⟨listener, event, level⟩ :: b.calls }

@[simp] theorem registered_clear (b : Bus) : b.clear.registered = [] := rfl

@[simp] theorem registered_stamp (b : Bus) : b.stamp.registered = b.registered := rfl

@[simp] theorem registered_record (b : Bus) (level : Nat) (event : Event) (listener : String) :
    (b.record level event listener).registered = b.registered := rfl

/-- The listeners of a kind are those registered for it. -/
theorem mem_listenersOf {b : Bus} {kind listener : String} :
    listener ∈ b.listenersOf kind ↔ (kind, listener) ∈ b.registered := by
  simp [listenersOf]

/-- No listener is called twice for an event. -/
theorem nodup_listenersOf (b : Bus) (kind : String) : (b.listenersOf kind).Nodup := by
  unfold listenersOf
  refine List.Pairwise.map Prod.snd (fun p q h => h) ?_
  refine List.Pairwise.imp_of_mem ?_ (b.distinct.filter _)
  intro p q hp hq hne
  rw [List.mem_filter, decide_eq_true_eq] at hp hq
  exact fun h => hne (Prod.ext (hp.2.trans hq.2.symm) h)

@[simp] theorem listenersOf_clear (b : Bus) (kind : String) : b.clear.listenersOf kind = [] := rfl

@[simp] theorem listenersOf_stamp (b : Bus) (kind : String) :
    b.stamp.listenersOf kind = b.listenersOf kind := rfl

/-- A listener that registers is registered. -/
theorem mem_registered_on (b : Bus) (kind listener : String) :
    (kind, listener) ∈ (b.on kind listener).registered := by
  simp only [on, enroll]
  split <;> simp_all

end Bus

end Storyline
