import Storyline.Bus.Telling

/-!
# What listeners hear

An event that the engine tells reaches each listener of its kind exactly once, and nobody
else.  So what a listener has heard is a record of what was told.

* `Report`: an event without its moment;
* `Bus.announceAll`: events told one after another;
* `Bus.heard`: what a listener was told, the earliest first;
* `Bus.heard_announce`: what one more event adds to it;
* `Bus.Attends`: a listener that misses nothing.
-/

namespace Storyline

/-- What an event reports: its kind and its payload. -/
abbrev Report := EventKind × Json.Members

namespace Bus

/-- Tell events one after another. -/
def announceAll (b : Bus) (rs : List Report) : Bus := rs.foldl (fun b r => b.announce r.1 r.2) b

@[simp] theorem announceAll_nil (b : Bus) : b.announceAll [] = b := rfl

@[simp] theorem announceAll_cons (b : Bus) (r : Report) (rs : List Report) :
    b.announceAll (r :: rs) = (b.announce r.1 r.2).announceAll rs := rfl

theorem announceAll_append (b : Bus) (rs qs : List Report) :
    b.announceAll (rs ++ qs) = (b.announceAll rs).announceAll qs := by
  simp [announceAll]

/-- What a listener was told, the earliest first. -/
def heard (b : Bus) (listener : String) : List Report :=
  ((b.calls.filter (·.listener = listener)).map fun c => (c.event.kind, c.event.payload)).reverse

/-- The listener is registered for events of every kind. -/
def Attends (b : Bus) (listener : String) : Prop :=
  ∀ kind : EventKind, (kind.name, listener) ∈ b.registered

/-- Calls of listeners one after another. -/
theorem foldl_record (event : Event) (ls : List String) (b : Bus) :
    ls.foldl (fun b l => b.record 0 event l) b =
      { b with calls := (ls.map fun l => ⟨l, event, 0⟩).reverse ++ b.calls } := by
  induction ls generalizing b with
  | nil => rfl
  | cons l ls ih =>
    rw [List.foldl_cons, ih, List.map_cons, List.reverse_cons, List.append_assoc]
    rfl

/-- Every listener of the kind is called once. -/
theorem announce_eq (b : Bus) (kind : EventKind) (payload : Json.Members) :
    b.announce kind payload =
      { b.stamp with
        calls := ((b.listenersOf kind.name).map fun l =>
          ⟨l, ⟨kind, payload, b.moment⟩, 0⟩).reverse ++ b.calls } := by
  rw [announce, tellEvent, foldl_record, listenersOf_stamp]
  rfl

@[simp] theorem registered_announce (b : Bus) (kind : EventKind) (payload : Json.Members) :
    (b.announce kind payload).registered = b.registered := by
  rw [announce_eq]
  rfl

@[simp] theorem registered_announceAll (b : Bus) (rs : List Report) :
    (b.announceAll rs).registered = b.registered := by
  induction rs generalizing b with
  | nil => rfl
  | cons r rs ih => rw [announceAll_cons, ih, registered_announce]

/-- A listener is told of an event once if it is registered for the kind, and not at all
otherwise. -/
theorem heard_announce (b : Bus) (kind : EventKind) (payload : Json.Members) (listener : String) :
    (b.announce kind payload).heard listener =
      b.heard listener ++ if (kind.name, listener) ∈ b.registered then [(kind, payload)] else [] := by
  have hcalled : ((b.listenersOf kind.name).filter (· = listener)).map
        (fun _ : String => ((kind, payload) : Report)) =
      if (kind.name, listener) ∈ b.registered then [(kind, payload)] else [] := by
    rw [List.filter_eq, (b.nodup_listenersOf kind.name).count]
    simp only [mem_listenersOf]
    split <;> rfl
  rw [announce_eq, heard, heard]
  simp only [List.filter_append, List.map_append, List.reverse_append, List.filter_reverse,
    List.map_reverse, List.reverse_reverse, List.filter_map, List.map_map]
  exact congrArg _ hcalled

/-- A listener hears those events for the kinds of which it is registered. -/
theorem heard_announceAll (b : Bus) (rs : List Report) (listener : String) :
    (b.announceAll rs).heard listener =
      b.heard listener ++ rs.filter fun r => (r.1.name, listener) ∈ b.registered := by
  induction rs generalizing b with
  | nil => rw [announceAll_nil, List.filter_nil, List.append_nil]
  | cons r rs ih =>
    rw [announceAll_cons, ih, heard_announce, registered_announce, List.append_assoc]
    by_cases h : (r.1.name, listener) ∈ b.registered <;> simp [h]

/-- A listener of a kind hears all events of that kind. -/
theorem filter_heard_announceAll {b : Bus} {kind : EventKind} {listener : String}
    (h : (kind.name, listener) ∈ b.registered) (rs : List Report) :
    ((b.announceAll rs).heard listener).filter (·.1 = kind) =
      (b.heard listener).filter (·.1 = kind) ++ rs.filter (·.1 = kind) := by
  rw [heard_announceAll, List.filter_append, List.filter_filter]
  congr 1
  refine List.filter_congr fun r _ => ?_
  by_cases hkind : r.1 = kind
  · simp [hkind, h]
  · simp [hkind]

theorem Attends.announceAll {b : Bus} {listener : String} (h : b.Attends listener)
    (rs : List Report) : (b.announceAll rs).Attends listener := by
  intro kind
  rw [registered_announceAll]
  exact h kind

/-- Whoever misses nothing hears everything. -/
theorem Attends.heard_announceAll {b : Bus} {listener : String} (h : b.Attends listener)
    (rs : List Report) : (b.announceAll rs).heard listener = b.heard listener ++ rs := by
  rw [Bus.heard_announceAll, List.filter_eq_self.mpr fun r _ => decide_eq_true (h r.1)]

end Bus

end Storyline
