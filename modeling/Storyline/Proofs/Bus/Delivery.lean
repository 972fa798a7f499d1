import Storyline.Bus.Telling
import Storyline.Proofs.Decimal.Order

/-!
# What telling an event comes to

Listeners may do anything with a bus while they are called: register and take registrations back,
set the clock, tell events of their own, and fail.  None of this bears on who else is called for
the event, and no event is older than one that was told before it.

* `Bus.Telling`: an event told to listeners;
* `Bus.Enrolls`, `Bus.enrolls`: who is registered for a kind, and in which order;
* `Bus.Acts`, `Bus.Hears`: what anyone may do with a bus, with the events told on the way;
* `Bus.acts_perform`: deeds are of that kind, whatever listeners do;
* `Bus.Deepens`, `Bus.exists_deepens_hears`: who is called;
* `Bus.Telling.Delivered`, `Bus.delivered_of_acts`: everyone is called once, in order;
* `Bus.Ordered`, `Bus.ordered_of_acts`: the moments of events;
* `Bus.delivers_of_acts`: all of it, from the empty bus.
-/

namespace Storyline

namespace Bus

/-- An event told: the bus before, what each listener does when it is called, and the event.  What
a listener does may depend on all calls so far, since the bus records them. -/
structure Telling where
  before : Bus
  act : String → Bus → Bus
  level : Nat
  kind : String
  payload : Json
  event : Event

/-- What comes back, and the bus after. -/
def Telling.ended (t : Telling) : Except Fault Outcome × Bus :=
  t.before.tell t.act t.level t.kind t.payload

/-! ## Registrations -/

/-- Who is registered for a kind after a change: a newcomer comes last, and whoever is there
already keeps its place. -/
structure Enrolls (b : Bus) : Prop where
  on : ∀ kind listener other, (b.on kind listener).listenersOf other =
    if other = kind ∧ listener ∉ b.listenersOf kind then b.listenersOf other ++ [listener]
    else b.listenersOf other
  off : ∀ kind listener other, (b.off kind listener).listenersOf other =
    if other = kind then (b.listenersOf other).erase listener else b.listenersOf other
  clear : ∀ other, b.clear.listenersOf other = []

theorem listenersOf_on (b : Bus) (kind listener other : String) :
    (b.on kind listener).listenersOf other =
      if other = kind ∧ listener ∉ b.listenersOf kind then b.listenersOf other ++ [listener]
      else b.listenersOf other := by
  by_cases hmem : listener ∈ b.listenersOf kind
  · have hsame : (b.on kind listener).registered = b.registered :=
      if_pos (mem_listenersOf.mp hmem)
    rw [if_neg fun h => h.2 hmem, listenersOf, hsame, listenersOf]
  · have hnew : (b.on kind listener).registered = b.registered ++ [(kind, listener)] :=
      if_neg (mt mem_listenersOf.mpr hmem)
    rw [listenersOf, hnew, List.filter_append, List.map_append, List.filter_singleton]
    by_cases hother : other = kind
    · rw [if_pos ⟨hother, hmem⟩, hother, decide_eq_true rfl]
      rfl
    · rw [if_neg fun h => hother h.1, decide_eq_false fun h => hother h.symm]
      exact List.append_nil _

theorem listenersOf_off (b : Bus) (kind listener other : String) :
    (b.off kind listener).listenersOf other =
      if other = kind then (b.listenersOf other).erase listener else b.listenersOf other := by
  have herase : (b.off kind listener).registered =
      b.registered.filter (· != (kind, listener)) := b.distinct.erase_eq_filter _
  rw [listenersOf, herase, List.filter_filter]
  split
  · rename_i hother
    rw [(b.nodup_listenersOf other).erase_eq_filter, listenersOf, List.filter_map,
      List.filter_filter]
    refine congrArg _ (List.filter_congr fun p _ => ?_)
    by_cases hp : p.1 = other
    · simp [hp, hother, bne, Prod.ext_iff]
    · simp [hp]
  · rename_i hother
    refine congrArg _ (List.filter_congr fun p _ => ?_)
    by_cases hp : p.1 = other
    · have hne : p ≠ (kind, listener) := fun h => hother (hp.symm.trans (congrArg Prod.fst h))
      simp [hp, hne]
    · simp [hp]

theorem enrolls (b : Bus) : b.Enrolls :=
  ⟨b.listenersOf_on, b.listenersOf_off, b.listenersOf_clear⟩

/-! ## Doings with a bus -/

mutual

/-- Someone does things with a bus, one after another, and stops.  A failure is a way to stop.
The tellings are those of everyone who acts on the way, as the events came.  A clock reads a
number. -/
inductive Acts : Nat → Bus → List Telling → Bus → Prop
  | done {level : Nat} {b : Bus} : Acts level b [] b
  | on {level : Nat} {b c : Bus} {ts : List Telling} (kind listener : String)
      (rest : Acts level (b.on kind listener) ts c) : Acts level b ts c
  | off {level : Nat} {b c : Bus} {ts : List Telling} (kind listener : String)
      (rest : Acts level (b.off kind listener) ts c) : Acts level b ts c
  | clear {level : Nat} {b c : Bus} {ts : List Telling} (rest : Acts level b.clear ts c) :
      Acts level b ts c
  | setClock {level : Nat} {b c : Bus} {ts : List Telling} {seconds : Float}
      (h : seconds.isNaN = false) (rest : Acts level (b.setClock seconds) ts c) :
      Acts level b ts c
  | refused {level : Nat} {b c : Bus} {ts : List Telling} {act : String → Bus → Bus}
      {kind : String} {payload : Json} {issues : List Schema.Issue}
      (h : readEvent kind payload b.moment = .bad issues)
      (rest : Acts level (b.tell act level kind payload).2 ts c) : Acts level b ts c
  | told {c : Bus} {ts us : List Telling} (t : Telling)
      (h : readEvent t.kind t.payload t.before.moment = .good t.event)
      (heard : Hears t.act t.level t.event (t.before.listenersOf t.event.kind.name)
        t.before.stamp ts)
      (rest : Acts t.level t.ended.2 us c) : Acts t.level t.before (t :: (ts ++ us)) c

/-- Listeners are called for an event, one after another, and each of them acts a level deeper. -/
inductive Hears : (String → Bus → Bus) → Nat → Event → List String → Bus → List Telling → Prop
  | nil {act : String → Bus → Bus} {level : Nat} {event : Event} {b : Bus} :
      Hears act level event [] b []
  | cons {act : String → Bus → Bus} {level : Nat} {event : Event} {l : String} {ls : List String}
      {b : Bus} {ts us : List Telling}
      (acts : Acts (level + 1) (b.record level event l) ts (act l (b.record level event l)))
      (rest : Hears act level event ls (act l (b.record level event l)) us) :
      Hears act level event (l :: ls) b (ts ++ us)

end

section Tell

variable {b : Bus} {act : String → Bus → Bus} {level : Nat} {kind : String} {payload : Json}

theorem tell_of_good {event : Event} (h : readEvent kind payload b.moment = .good event) :
    b.tell act level kind payload =
      (.ok (.event event), (b.listenersOf event.kind.name).foldl
        (fun b l => act l (b.record level event l)) b.stamp) := by
  have hread : readEvent kind payload b.stamp.latest = .good event := h
  rw [tell, hread]
  rfl

theorem tell_of_bad {issues : List Schema.Issue}
    (h : readEvent kind payload b.moment = .bad issues) :
    b.tell act level kind payload = (.error (.invalid issues), b.stamp) := by
  have hread : readEvent kind payload b.stamp.latest = .bad issues := h
  rw [tell, hread]

theorem timestamp_of_good {event : Event} {moment : Float}
    (h : readEvent kind payload moment = .good event) : event.timestamp = moment := by
  obtain ⟨make, x, hmake, hx, rfl⟩ := Schema.Checked.seq_eq_good.mp h
  obtain ⟨make', y, hmake', hy, rfl⟩ := Schema.Checked.seq_eq_good.mp hmake
  obtain ⟨k, hk, rfl⟩ := Schema.Checked.map_eq_good.mp hmake'
  cases hx
  rfl

/-- The event of one of the kinds.  Without a payload it has an empty one. -/
theorem readEvent_name (kind : EventKind) (payload : Option Json.Members) (moment : Float) :
    readEvent kind.name (payload.elim .null .obj) moment =
      .good ⟨kind, payload.getD [], moment⟩ := by
  have hkind : Schema.oneOf EventKind.ofName? (.str kind.name) = .good kind := by
    rw [Schema.oneOf, EventKind.ofName?_name]
  rw [readEvent, hkind]
  rcases payload with _ | _ | ⟨m, ms⟩ <;> rfl

/-- An event of one of the kinds is told, whatever the listeners do, and comes back. -/
theorem tell_name (b : Bus) (act : String → Bus → Bus) (level : Nat) (kind : EventKind)
    (payload : Option Json.Members) :
    (b.tell act level kind.name (payload.elim .null .obj)).1 =
      .ok (.event ⟨kind, payload.getD [], b.moment⟩) := by
  rw [tell_of_good (readEvent_name kind payload b.moment)]

end Tell

/-! ## Deeds -/

/-- The deed does not set the clock to what is no number. -/
def ReadsNumbers : Deed → Prop
  | .setClock seconds => seconds.isNaN = false
  | _ => True

section Deeds

variable {act : String → Bus → Bus} {level : Nat}

theorem Acts.append : ∀ {level : Nat} {b c d : Bus} {ts us : List Telling},
    Acts level b ts c → Acts level c us d → Acts level b (ts ++ us) d
  | _, _, _, _, _, _, .done, h => h
  | _, _, _, _, _, _, .on kind listener rest, h => .on kind listener (rest.append h)
  | _, _, _, _, _, _, .off kind listener rest, h => .off kind listener (rest.append h)
  | _, _, _, _, _, _, .clear rest, h => .clear (rest.append h)
  | _, _, _, _, _, _, .setClock hnumber rest, h => .setClock hnumber (rest.append h)
  | _, _, _, _, _, _, .refused hbad rest, h => .refused hbad (rest.append h)
  | _, _, _, _, _, _, .told t hgood heard rest, h => by
    rw [List.cons_append, List.append_assoc]
    exact .told t hgood heard (rest.append h)

/-- Listeners are heard out if each of them, by itself, does what may be done. -/
theorem exists_hears (h : ∀ l b, ∃ ts, Acts (level + 1) b ts (act l b)) (event : Event)
    (ls : List String) (b : Bus) : ∃ ts, Hears act level event ls b ts := by
  induction ls generalizing b with
  | nil => exact ⟨[], .nil⟩
  | cons l ls ih =>
    obtain ⟨ts, hts⟩ := h l (b.record level event l)
    obtain ⟨us, hus⟩ := ih (act l (b.record level event l))
    exact ⟨ts ++ us, .cons hts hus⟩

theorem acts_tell (h : ∀ l b, ∃ ts, Acts (level + 1) b ts (act l b)) (kind : String)
    (payload : Json) (b : Bus) : ∃ ts, Acts level b ts (b.tell act level kind payload).2 := by
  cases hread : readEvent kind payload b.moment with
  | bad issues => exact ⟨[], .refused hread .done⟩
  | good event =>
    obtain ⟨ts, hts⟩ := exists_hears h event (b.listenersOf event.kind.name) b.stamp
    exact ⟨_, .told ⟨b, act, level, kind, payload, event⟩ hread hts .done⟩

theorem acts_performAll {perform : Deed → Bus → Except Fault Outcome × Bus} {ds : List Deed}
    (h : ∀ d ∈ ds, ∀ b, ∃ ts, Acts level b ts (perform d b).2) (b : Bus) :
    ∃ ts, Acts level b ts (performAll perform ds b) := by
  induction ds generalizing b with
  | nil => exact ⟨[], .done⟩
  | cons d ds ih =>
    obtain ⟨hd, hds⟩ := List.forall_mem_cons.mp h
    obtain ⟨ts, hts⟩ := hd b
    rw [performAll]
    cases hperform : perform d b with
    | mk r c =>
      rw [hperform] at hts
      cases r with
      | error e => exact ⟨ts, hts⟩
      | ok o =>
        obtain ⟨us, hus⟩ := ih hds c
        exact ⟨ts ++ us, hts.append hus⟩

/-- A deed other than a telling is one step, or none. -/
theorem acts_perform_of_ne (behaviour : String → List Deed) (depth level : Nat) {deed : Deed}
    (hdeed : ReadsNumbers deed) (htell : ∀ kind payload, deed ≠ .tell kind payload) (b : Bus) :
    ∃ ts, Acts level b ts (perform behaviour depth level deed b).2 := by
  refine ⟨[], ?_⟩
  unfold perform
  cases deed with
  | on kind listener => exact .on kind listener .done
  | off kind listener => exact .off kind listener .done
  | release listener =>
    dsimp only
    cases hrelease : b.release? listener with
    | none => exact .done
    | some c =>
      obtain ⟨kind, -, rfl⟩ := Option.map_eq_some_iff.mp hrelease
      exact .off kind listener .done
  | clear => exact .clear .done
  | count kind => exact .done
  | setClock seconds => exact .setClock hdeed .done
  | tell kind payload => exact absurd rfl (htell kind payload)
  | fail => exact .done

/-- A deed is something that may be done with a bus, whatever behaviour listeners have. -/
theorem acts_perform {behaviour : String → List Deed}
    (hbehaviour : ∀ l, ∀ d ∈ behaviour l, ReadsNumbers d) (depth level : Nat) {deed : Deed}
    (hdeed : ReadsNumbers deed) (b : Bus) :
    ∃ ts, Acts level b ts (perform behaviour depth level deed b).2 := by
  induction depth generalizing level deed b with
  | zero =>
    cases deed with
    | tell kind payload => exact acts_tell (fun _ b => ⟨[], .done⟩) kind payload b
    | _ => exact acts_perform_of_ne behaviour 0 level hdeed nofun b
  | succ depth ih =>
    cases deed with
    | tell kind payload =>
      exact acts_tell (fun l b => acts_performAll (fun d hd b => ih (level + 1)
        (hbehaviour l d hd) b) b) kind payload b
    | _ => exact acts_perform_of_ne behaviour (depth + 1) level hdeed nofun b

end Deeds

/-! ## Who is called -/

/-- Between the buses calls were made, all at the level or deeper. -/
def Deepens (level : Nat) (b c : Bus) (added : List Call) : Prop :=
  c.calls = added ++ b.calls ∧ ∀ call ∈ added, level ≤ call.level

theorem Deepens.refl (level : Nat) (b : Bus) : Deepens level b b [] := ⟨rfl, nofun⟩

theorem Deepens.append {level : Nat} {b c d : Bus} {added more : List Call}
    (h : Deepens level b c added) (hd : Deepens level c d more) :
    Deepens level b d (more ++ added) := by
  refine ⟨by rw [hd.1, h.1, List.append_assoc], fun call hcall => ?_⟩
  exact (List.mem_append.mp hcall).elim (hd.2 call) (h.2 call)

mutual

theorem exists_deepens_acts : ∀ {level : Nat} {b c : Bus} {ts : List Telling},
    Acts level b ts c → ∃ added, Deepens level b c added
  | level, b, _, _, .done => ⟨[], .refl level b⟩
  | _, _, _, _, .on _ _ rest => (exists_deepens_acts rest).imp fun _ h => ⟨h.1, h.2⟩
  | _, _, _, _, .off _ _ rest => (exists_deepens_acts rest).imp fun _ h => ⟨h.1, h.2⟩
  | _, _, _, _, .clear rest => (exists_deepens_acts rest).imp fun _ h => ⟨h.1, h.2⟩
  | _, _, _, _, .setClock _ rest => (exists_deepens_acts rest).imp fun _ h => ⟨h.1, h.2⟩
  | _, _, _, _, .refused h rest => by
    obtain ⟨added, hadded⟩ := exists_deepens_acts rest
    rw [tell_of_bad h] at hadded
    exact ⟨added, hadded⟩
  | _, _, _, _, .told t h heard rest => by
    obtain ⟨added, hadded, -⟩ := exists_deepens_hears heard
    obtain ⟨more, hmore⟩ := exists_deepens_acts rest
    rw [Telling.ended, tell_of_good h] at hmore
    exact ⟨more ++ added, .append hadded hmore⟩

/-- What a listener does to the registrations bears on nobody's call: the calls at the level of
the event are those of the listeners, in their order. -/
theorem exists_deepens_hears : ∀ {act : String → Bus → Bus} {level : Nat} {event : Event}
    {ls : List String} {b : Bus} {ts : List Telling}, Hears act level event ls b ts →
    ∃ added, Deepens level b (ls.foldl (fun b l => act l (b.record level event l)) b) added ∧
      (added.filter (·.level = level)).reverse = ls.map (⟨·, event, level⟩)
  | _, level, _, _, b, _, .nil => ⟨[], .refl level b, rfl⟩
  | act, level, event, l :: ls, b, _, .cons acts rest => by
    obtain ⟨deeper, hdeeper⟩ := exists_deepens_acts acts
    obtain ⟨added, hadded, hls⟩ := exists_deepens_hears rest
    -- The listener is called, then it acts deeper, and then the others are called.
    have hcall : Deepens level b (b.record level event l) [⟨l, event, level⟩] :=
      ⟨rfl, List.forall_mem_singleton.mpr (Nat.le_refl level)⟩
    have hact : Deepens level (b.record level event l) (act l (b.record level event l)) deeper :=
      ⟨hdeeper.1, fun call h => Nat.le_of_succ_le (hdeeper.2 call h)⟩
    have hnone : deeper.filter (·.level = level) = [] :=
      List.filter_eq_nil_iff.mpr fun call h => by have := hdeeper.2 call h; simp; omega
    have hself : [(⟨l, event, level⟩ : Call)].filter (·.level = level) = [⟨l, event, level⟩] :=
      List.filter_eq_self.mpr (List.forall_mem_singleton.mpr (decide_eq_true rfl))
    rw [List.foldl_cons]
    refine ⟨_, (hcall.append hact).append hadded, ?_⟩
    rw [List.filter_append, List.filter_append, hnone, hself, List.nil_append,
      List.reverse_append, hls]
    rfl

end

/-- Everyone registered for the kind of the event when it was told was called with it once, in the
order of registration, and nobody else was; other calls on the way were for events told deeper.
The event came back. -/
structure Telling.Delivered (t : Telling) : Prop where
  returned : t.ended.1 = .ok (.event t.event)
  called : ∃ added, t.ended.2.calls = added ++ t.before.calls ∧
    (∀ call ∈ added, t.level ≤ call.level) ∧
    (added.filter (·.level = t.level)).reverse =
      (t.before.listenersOf t.event.kind.name).map (⟨·, t.event, t.level⟩)
  once : (t.before.listenersOf t.event.kind.name).Nodup

theorem Telling.delivered {t : Telling}
    (h : readEvent t.kind t.payload t.before.moment = .good t.event) {ts : List Telling}
    (heard : Hears t.act t.level t.event (t.before.listenersOf t.event.kind.name)
      t.before.stamp ts) : t.Delivered := by
  obtain ⟨added, hadded, hls⟩ := exists_deepens_hears heard
  have hended : t.ended = (.ok (.event t.event), (t.before.listenersOf t.event.kind.name).foldl
      (fun b l => t.act l (b.record t.level t.event l)) t.before.stamp) := tell_of_good h
  refine ⟨by rw [hended], ⟨added, ?_, hadded.2, hls⟩, nodup_listenersOf _ _⟩
  rw [hended]
  exact hadded.1

mutual

theorem delivered_of_acts : ∀ {level : Nat} {b c : Bus} {ts : List Telling},
    Acts level b ts c → ∀ t ∈ ts, t.Delivered
  | _, _, _, _, .done => nofun
  | _, _, _, _, .on _ _ rest => delivered_of_acts rest
  | _, _, _, _, .off _ _ rest => delivered_of_acts rest
  | _, _, _, _, .clear rest => delivered_of_acts rest
  | _, _, _, _, .setClock _ rest => delivered_of_acts rest
  | _, _, _, _, .refused _ rest => delivered_of_acts rest
  | _, _, _, _, .told _ h heard rest =>
    List.forall_mem_cons.mpr ⟨Telling.delivered h heard,
      List.forall_mem_append.mpr ⟨delivered_of_hears heard, delivered_of_acts rest⟩⟩

theorem delivered_of_hears : ∀ {act : String → Bus → Bus} {level : Nat} {event : Event}
    {ls : List String} {b : Bus} {ts : List Telling}, Hears act level event ls b ts →
    ∀ t ∈ ts, t.Delivered
  | _, _, _, _, _, _, .nil => nofun
  | _, _, _, _, _, _, .cons acts rest =>
    List.forall_mem_append.mpr ⟨delivered_of_acts acts, delivered_of_hears rest⟩

end

/-! ## Moments -/

open Decimal (rank)

/-- The clock and the latest moment are numbers. -/
def Clocked (b : Bus) : Prop := b.clock.isNaN = false ∧ b.latest.isNaN = false

theorem isNaN_milliseconds {b : Bus} (h : b.Clocked) : (b.clock * 1000.0).isNaN = false := by
  have hthousand : (1000.0 : Float).toModel.unpack =
      .finite .positive 8796093022208000 (-43) (by decide) := rfl
  exact Decimal.isNaN_mul h.1 hthousand

theorem clocked_stamp {b : Bus} (h : b.Clocked) : b.stamp.Clocked := by
  refine ⟨h.1, ?_⟩
  show b.moment.isNaN = false
  unfold moment
  split
  · exact h.2
  · exact isNaN_milliseconds h

/-- The moment of the next event is not before the latest. -/
theorem rank_latest_le {b : Bus} (h : b.Clocked) : rank b.latest ≤ rank b.stamp.latest := by
  show rank b.latest ≤ rank b.moment
  unfold moment
  split
  · rfl
  · rename_i hlt
    rw [Decimal.lt_iff_rank (isNaN_milliseconds h) h.2] at hlt
    exact le_of_not_gt hlt

/-- The events told between two buses have moments that do not decrease. -/
structure Ordered (b : Bus) (ts : List Telling) (c : Bus) : Prop where
  clocked : c.Clocked
  le : rank b.latest ≤ rank c.latest
  number : ∀ t ∈ ts, t.event.timestamp.isNaN = false
  from_latest : ∀ t ∈ ts, rank b.latest ≤ rank t.event.timestamp
  to_latest : ∀ t ∈ ts, rank t.event.timestamp ≤ rank c.latest
  pairwise : ts.Pairwise fun t u => rank t.event.timestamp ≤ rank u.event.timestamp

namespace Ordered

variable {b c d : Bus} {ts us : List Telling}

theorem refl (h : b.Clocked) : Ordered b [] b := ⟨h, le_rfl, nofun, nofun, nofun, .nil⟩

theorem append (h : Ordered b ts c) (hd : Ordered c us d) : Ordered b (ts ++ us) d where
  clocked := hd.clocked
  le := h.le.trans hd.le
  number := List.forall_mem_append.mpr ⟨h.number, hd.number⟩
  from_latest := List.forall_mem_append.mpr
    ⟨h.from_latest, fun t ht => h.le.trans (hd.from_latest t ht)⟩
  to_latest := List.forall_mem_append.mpr
    ⟨fun t ht => (h.to_latest t ht).trans hd.le, hd.to_latest⟩
  pairwise := List.pairwise_append.mpr ⟨h.pairwise, hd.pairwise,
    fun t ht u hu => (h.to_latest t ht).trans (hd.from_latest u hu)⟩

theorem of_le (h : Ordered c ts d) (hle : rank b.latest ≤ rank c.latest) : Ordered b ts d :=
  ⟨h.clocked, hle.trans h.le, h.number, fun t ht => hle.trans (h.from_latest t ht), h.to_latest,
    h.pairwise⟩

/-- An event has the latest moment when it is made. -/
theorem cons {t : Telling} (h : Ordered b ts c) (ht : t.event.timestamp = b.latest)
    (hb : b.Clocked) : Ordered b (t :: ts) c where
  clocked := h.clocked
  le := h.le
  number := List.forall_mem_cons.mpr ⟨ht ▸ hb.2, h.number⟩
  from_latest := List.forall_mem_cons.mpr ⟨ht ▸ le_rfl, h.from_latest⟩
  to_latest := List.forall_mem_cons.mpr ⟨ht ▸ h.le, h.to_latest⟩
  pairwise := List.pairwise_cons.mpr ⟨ht ▸ h.from_latest, h.pairwise⟩

end Ordered

mutual

theorem ordered_of_acts : ∀ {level : Nat} {b c : Bus} {ts : List Telling},
    Acts level b ts c → b.Clocked → Ordered b ts c
  | _, _, _, _, .done, h => .refl h
  | _, _, _, _, .on _ _ rest, h => .of_le (ordered_of_acts rest h) le_rfl
  | _, _, _, _, .off _ _ rest, h => .of_le (ordered_of_acts rest h) le_rfl
  | _, _, _, _, .clear rest, h => .of_le (ordered_of_acts rest h) le_rfl
  | _, _, _, _, .setClock hnumber rest, h => by
    have hrest := ordered_of_acts rest ⟨hnumber, h.2⟩
    exact hrest.of_le le_rfl
  | _, _, _, _, .refused hbad rest, h => by
    have hrest := ordered_of_acts rest
    rw [tell_of_bad hbad] at hrest
    exact (hrest (clocked_stamp h)).of_le (rank_latest_le h)
  | _, _, _, _, .told t hgood heard rest, h => by
    have hheard := ordered_of_hears heard (clocked_stamp h)
    have hrest := ordered_of_acts rest
    rw [Telling.ended, tell_of_good hgood] at hrest
    have hmoment : t.event.timestamp = t.before.stamp.latest := timestamp_of_good hgood
    have hafter := hheard.append (hrest hheard.clocked)
    exact (hafter.cons hmoment (clocked_stamp h)).of_le (rank_latest_le h)

theorem ordered_of_hears : ∀ {act : String → Bus → Bus} {level : Nat} {event : Event}
    {ls : List String} {b : Bus} {ts : List Telling}, Hears act level event ls b ts →
    b.Clocked → Ordered b ts (ls.foldl (fun b l => act l (b.record level event l)) b)
  | _, _, _, _, _, _, .nil, h => .refl h
  | _, _, _, _, _, _, .cons acts rest, h => by
    have hacts := ordered_of_acts acts h
    have hrest := ordered_of_hears rest hacts.clocked
    exact (hacts.append hrest).of_le le_rfl

end

/-! ## From the empty bus -/

theorem clocked_empty : empty.Clocked := ⟨by decide, by decide⟩

theorem Ordered.pairwise_le {b c : Bus} {ts : List Telling} (h : Ordered b ts c) :
    ts.Pairwise fun t u => t.event.timestamp ≤ u.event.timestamp :=
  h.pairwise.imp_of_mem fun ht hu hle =>
    (Decimal.le_iff_rank (h.number _ ht) (h.number _ hu)).mpr hle

/-- Whatever was done with a bus, by listeners too, every event was delivered to those who were
registered for it when it was told, and events were told in the order of their moments.  Nobody is
registered twice for a kind, registrations are kept in their order, and the next event comes
back. -/
theorem delivers_of_acts {b : Bus} {ts : List Telling} (h : Acts 0 empty ts b) :
    (∀ t ∈ ts, t.Delivered) ∧
      (ts.Pairwise fun t u => t.event.timestamp ≤ u.event.timestamp) ∧
      (∀ kind, empty.listenersOf kind = [] ∧ (b.listenersOf kind).Nodup) ∧
      (∀ c : Bus, c.Enrolls) ∧
      ∀ (act : String → Bus → Bus) (level : Nat) (kind : EventKind)
        (payload : Option Json.Members),
        (b.tell act level kind.name (payload.elim .null .obj)).1 =
          .ok (.event ⟨kind, payload.getD [], b.moment⟩) :=
  ⟨delivered_of_acts h, (ordered_of_acts h clocked_empty).pairwise_le,
    fun kind => ⟨rfl, b.nodup_listenersOf kind⟩, enrolls, b.tell_name⟩

/-- A flag change told to whoever listens, and done with. -/
def flagTelling (b : Bus) : Telling :=
  ⟨b, fun _ b => b, 1, "flag_changed", .null, ⟨.flagChanged, [], b.moment⟩⟩

/-- One listener takes its registration back, one tells an event of its own, and others fail. -/
def answers (listener : String) (b : Bus) : Bus :=
  if listener = "once" then b.off "error" "once"
  else if listener = "nested" then (flagTelling b).ended.2
  else b

/-- Three listeners are told of an error. -/
def errorTelling : Telling where
  before := ((empty.on "error" "once").on "error" "broken").on "error" "nested"
  act := answers
  level := 0
  kind := "error"
  payload := .null
  event := ⟨.error, [], empty.moment⟩

theorem delivers_error :
    ∃ ts, Acts 0 empty ts errorTelling.ended.2 ∧
      ts.map (·.event.kind) = [.error, .flagChanged] ∧ (∀ t ∈ ts, t.Delivered) ∧
      ts.Pairwise fun t u => t.event.timestamp ≤ u.event.timestamp := by
  have hflag : ∀ b : Bus, b.listenersOf "flag_changed" = [] →
      Acts 1 b [flagTelling b] (flagTelling b).ended.2 := by
    intro b hb
    have hread : readEvent "flag_changed" .null b.moment = .good ⟨.flagChanged, [], b.moment⟩ :=
      readEvent_name .flagChanged none b.moment
    have hheard : Hears (fun _ b => b) 1 (flagTelling b).event
        ((flagTelling b).before.listenersOf "flag_changed") b.stamp [] := hb ▸ .nil
    have htold := Acts.told (flagTelling b) hread hheard .done
    exact htold
  have hread : readEvent "error" .null empty.moment = .good ⟨.error, [], empty.moment⟩ :=
    readEvent_name .error none empty.moment
  obtain ⟨b, hb⟩ : ∃ b, Hears answers 0 errorTelling.event ["once", "broken", "nested"]
      errorTelling.before.stamp ([] ++ ([] ++ ([flagTelling b] ++ []))) :=
    ⟨_, .cons (.off "error" "once" .done) (.cons .done (.cons (hflag _ rfl) .nil))⟩
  have htold := Acts.told errorTelling hread hb .done
  have hacts : Acts 0 empty [errorTelling, flagTelling b] errorTelling.ended.2 :=
    .on "error" "once" (.on "error" "broken" (.on "error" "nested" htold))
  exact ⟨_, hacts, rfl, (delivers_of_acts hacts).1, (delivers_of_acts hacts).2.1⟩

-- All three are called, and the one that took its registration back is not called again.
example : errorTelling.ended.2.calls.reverse.map (·.listener) = ["once", "broken", "nested"] ∧
    errorTelling.ended.2.listenersOf "error" = ["broken", "nested"] := ⟨rfl, rfl⟩

end Bus

end Storyline
