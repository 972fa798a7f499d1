import Storyline.Proofs.Engine.Course

/-!
# The guard against chains of landings

An effect may land on a node whose own effects land on further nodes.  The engine counts
how deep it is and gives up at the thirty-third level.  This file says exactly when.

* `Content.Index.Chain`: nodes each of which is landed on by an effect of the one before;
* `Content.Index.Deep`: there is a chain of a given length;
* `Engine.course_loops_iff`: a course runs into the guard exactly if there is such a chain;
* `Engine.Nests`: the recursion on a counter, which nothing but the guard bounds;
* `Engine.nests_iff`: it ends in one way only, and brings the counter back;
* `Engine.execute_loops_iff`: the guard is exact;
* `Engine.execute_of_cycle`: it stops every cycle.
-/

namespace Storyline

open Content

/-! ## Chains -/

namespace Content.Index

/-- An effect of a list lands on the node. -/
def Lands (i : Index) (es : List Effect) (n : DialogNode) : Prop :=
  ∃ x ∈ es, (i.landing? x).map (·.node) = some n

/-- The first node is landed on by an effect of the list, and each further one by an effect
of the node before it. -/
def Chain (i : Index) : List Effect → List DialogNode → Prop
  | _, [] => True
  | es, n :: ns => i.Lands es n ∧ i.Chain n.effects ns

/-- There is a chain of so many nodes. -/
def Deep (i : Index) (depth : Nat) (es : List Effect) : Prop :=
  ∃ ns : List DialogNode, ns.length = depth ∧ i.Chain es ns

variable {i : Index}

theorem lands_cons {x : Effect} {es : List Effect} {n : DialogNode} :
    i.Lands (x :: es) n ↔ (i.landing? x).map (·.node) = some n ∨ i.Lands es n := by
  simp [Lands]

theorem deep_zero (es : List Effect) : i.Deep 0 es := ⟨[], rfl, trivial⟩

theorem not_deep_nil (depth : Nat) : ¬ i.Deep (depth + 1) [] := by
  rintro ⟨_ | ⟨n, ns⟩, hlength, hchain⟩
  · cases hlength
  · obtain ⟨⟨x, hx, -⟩, -⟩ := hchain
    cases hx

/-- A chain starts with the landing of the first effect or with one of the others. -/
theorem deep_cons {depth : Nat} {x : Effect} {es : List Effect} :
    i.Deep (depth + 1) (x :: es) ↔
      (∃ p, i.landing? x = some p ∧ i.Deep depth p.node.effects) ∨ i.Deep (depth + 1) es := by
  constructor
  · rintro ⟨_ | ⟨n, ns⟩, hlength, hchain⟩
    · cases hlength
    · obtain ⟨hlands, hrest⟩ := hchain
      rcases lands_cons.mp hlands with hfirst | hother
      · obtain ⟨p, hp, rfl⟩ := Option.map_eq_some_iff.mp hfirst
        exact .inl ⟨p, hp, ns, Nat.succ.inj hlength, hrest⟩
      · exact .inr ⟨n :: ns, hlength, hother, hrest⟩
  · rintro (⟨p, hp, ns, hlength, hrest⟩ | ⟨_ | ⟨n, ns⟩, hlength, hchain⟩)
    · refine ⟨p.node :: ns, congrArg Nat.succ hlength, ?_, hrest⟩
      exact lands_cons.mpr (.inl (by rw [hp]; rfl))
    · cases hlength
    · exact ⟨n :: ns, hlength, lands_cons.mpr (.inr hchain.1), hchain.2⟩

theorem Chain.append {es : List Effect} {ns ms : List DialogNode} {n : DialogNode}
    (h : i.Chain es (ns ++ [n])) (hm : i.Chain n.effects ms) : i.Chain es (ns ++ n :: ms) := by
  induction ns generalizing es with
  | nil => exact ⟨h.1, hm⟩
  | cons m ns ih => exact ⟨h.1, ih h.2⟩

theorem Chain.take {es : List Effect} {ns : List DialogNode} (h : i.Chain es ns) (k : Nat) :
    i.Chain es (ns.take k) := by
  induction ns generalizing es k with
  | nil =>
    rw [List.take_nil]
    exact h
  | cons n ns ih =>
    cases k with
    | zero => trivial
    | succ k => exact ⟨h.1, ih h.2 k⟩

/-- A chain that comes back to its first node goes on for ever. -/
theorem deep_of_cycle {n : DialogNode} {ns : List DialogNode}
    (h : i.Chain n.effects (ns ++ [n])) (depth : Nat) : i.Deep depth n.effects := by
  induction depth with
  | zero => exact deep_zero _
  | succ depth ih =>
    -- Once round the cycle and on along the shorter chain is long enough to cut off.
    obtain ⟨ms, hlength, hchain⟩ := ih
    refine ⟨(ns ++ n :: ms).take (depth + 1), ?_, (h.append hchain).take _⟩
    simp only [List.length_take, List.length_append, List.length_cons]
    omega

end Content.Index

namespace Engine

variable {σ : Type} {i : Index}

/-! ## Courses and the guard -/

/-- What is told when a chain is too deep. -/
def looped : Report := (.error, [("message", .str loopMessage)])

/-- The errors that beats tell. -/
def failures (t : List Beat) : List Report :=
  (t.filterMap fun | .tell r => some r | _ => none).filter (·.1 = .error)

theorem failures_append (t u : List Beat) : failures (t ++ u) = failures t ++ failures u := by
  simp [failures]

/-- Effects themselves tell no errors. -/
theorem filter_reportsOn (s : Stage) (x : Effect) :
    (s.reportsOn x).filter (·.1 = .error) = [] := by
  cases x with
  | changeScene sceneId =>
    dsimp only [Stage.reportsOn]
    split <;> rfl
  | _ => rfl

theorem filter_reports (s : Stage) (t : List Beat) :
    (s.reports t).filter (·.1 = .error) = failures t := by
  induction t generalizing s with
  | nil => rfl
  | cons b t ih =>
    have hhead : (s.reportsOf b).filter (·.1 = .error) = failures [b] := by
      cases b with
      | command c => rfl
      | tell r => rfl
      | effect x => exact filter_reportsOn s x
    rw [Stage.reports_cons, List.filter_append, ih, hhead, ← failures_append]
    rfl

/-- The course goes well and tells no errors, or it runs into the guard and tells that
once. -/
inductive Course.Guarded (c : Course) : Prop where
  | well (result : c.result = .ok ()) (told : failures c.beats = [])
  | loops (result : c.result = .error .effectLoop) (told : failures c.beats = [looped])

theorem Course.Guarded.andThen {c d : Course} (hc : c.Guarded) (hd : d.Guarded) :
    (c.andThen d).Guarded := by
  cases hc with
  | loops hresult htold =>
    rw [Course.andThen_of_error hresult]
    exact .loops hresult htold
  | well hresult htold =>
    have hbeats : failures (c.beats ++ d.beats) = failures d.beats := by
      rw [failures_append, htold, List.nil_append]
    rw [Course.andThen_of_ok hresult]
    cases hd with
    | well hresult' htold' => exact .well hresult' (hbeats.trans htold')
    | loops hresult' htold' => exact .loops hresult' (hbeats.trans htold')

/-- One of two courses runs into the guard. -/
theorem Course.Guarded.andThen_loops_iff {c d : Course} (hc : c.Guarded) :
    (c.andThen d).result = .error .effectLoop ↔
      c.result = .error .effectLoop ∨ d.result = .error .effectLoop := by
  cases hc with
  | well hresult _ =>
    rw [Course.andThen_of_ok hresult, hresult]
    simp
  | loops hresult _ =>
    rw [Course.andThen_of_error hresult, hresult]
    simp

theorem guarded_courseOf {inner : DialogNode → Course} (hinner : ∀ n, (inner n).Guarded)
    (x : Effect) : (courseOf i inner (.effect x)).Guarded := by
  cases h : i.landing? x with
  | none =>
    rw [courseOf_of_none h]
    exact .well rfl rfl
  | some p =>
    rw [courseOf_of_some h]
    exact Course.Guarded.andThen (.well rfl rfl) (hinner p.node)

theorem guarded_course (depth : Nat) (es : List Effect) :
    (course i depth (es.map .effect)).Guarded := by
  induction depth generalizing es with
  | zero => exact .loops rfl rfl
  | succ depth ihdepth =>
    induction es with
    | nil => exact .well rfl rfl
    | cons x es ih =>
      rw [List.map_cons, course_cons]
      exact (guarded_courseOf (fun n => ihdepth n.effects) x).andThen ih

theorem courseOf_loops_iff {inner : DialogNode → Course} {x : Effect} :
    (courseOf i inner (.effect x)).result = .error .effectLoop ↔
      ∃ p, i.landing? x = some p ∧ (inner p.node).result = .error .effectLoop := by
  cases h : i.landing? x with
  | none =>
    rw [courseOf_of_none h]
    simp [Course.ofBeats]
  | some p =>
    rw [courseOf_of_some h, Course.andThen_ofBeats]
    simp

/-- A course runs into the guard exactly if there is a chain of as many nodes as there are
levels left. -/
theorem course_loops_iff (depth : Nat) (es : List Effect) :
    (course i depth (es.map .effect)).result = .error .effectLoop ↔ i.Deep depth es := by
  induction depth generalizing es with
  | zero => exact iff_of_true rfl (Index.deep_zero es)
  | succ depth ihdepth =>
    induction es with
    | nil => exact iff_of_false nofun (Index.not_deep_nil depth)
    | cons x es ih =>
      have hfirst : (courseOf i (fun n => course i depth (instructionsOf n))
          (.effect x)).Guarded := guarded_courseOf (fun n => guarded_course depth n.effects) x
      rw [List.map_cons, course_cons, Index.deep_cons, ← ih, hfirst.andThen_loops_iff,
        courseOf_loops_iff]
      simp only [← ihdepth]
      rfl

/-! ## The counter -/

/-- What a computation on a level comes to: its result, the engine and the counter. -/
abbrev Outcome (σ : Type) := Except Fault Unit × Engine σ × Nat

mutual

/-- Carrying out instructions one level deeper than `depth` comes to an outcome.  Beyond
`maxDepth` levels an error is told instead.  Whichever way it ends, the level is left again. -/
inductive Nests : List Instruction → Engine σ → Nat → Outcome σ → Prop
  | stopped {is : List Instruction} {e : Engine σ} {depth : Nat} (h : depth + 1 > maxDepth) :
      Nests is e depth (.error .effectLoop, e.playAll [.tell looped], depth + 1 - 1)
  | level {is : List Instruction} {e d : Engine σ} {depth reached : Nat} {r : Except Fault Unit}
      (h : ¬ depth + 1 > maxDepth) (hwalk : Walks is e (depth + 1) (r, d, reached)) :
      Nests is e depth (r, d, reached - 1)

/-- Carrying out instructions on a level, up to the first that fails, comes to an outcome.  Each
landing is a level of its own, and what follows it goes on from where it leaves the counter. -/
inductive Walks : List Instruction → Engine σ → Nat → Outcome σ → Prop
  | done {e : Engine σ} {depth : Nat} : Walks [] e depth (.ok (), e, depth)
  | unknown {kind : String} {is : List Instruction} {e : Engine σ} {depth : Nat} :
      Walks (.unknown kind :: is) e depth (.error (.unknownEffect ⟨kind⟩), e, depth)
  | stays {x : Effect} {is : List Instruction} {e : Engine σ} {depth : Nat} {out : Outcome σ}
      (hlands : e.stage.content.landing? x = none)
      (hrest : Walks is (e.playAll [.effect x]) depth out) : Walks (.effect x :: is) e depth out
  | lands {x : Effect} {is : List Instruction} {e d : Engine σ} {depth reached : Nat} {p : Spot}
      {out : Outcome σ} (hlands : e.stage.content.landing? x = some p)
      (hnest : Nests (instructionsOf p.node) (e.playAll [.effect x, .tell p.started]) depth
        (.ok (), d, reached))
      (hrest : Walks is d reached out) : Walks (.effect x :: is) e depth out
  | fails {x : Effect} {is : List Instruction} {e d : Engine σ} {depth reached : Nat} {p : Spot}
      {fault : Fault} (hlands : e.stage.content.landing? x = some p)
      (hnest : Nests (instructionsOf p.node) (e.playAll [.effect x, .tell p.started]) depth
        (.error fault, d, reached)) : Walks (.effect x :: is) e depth (.error fault, d, reached)

end

/-- What comes of a computation on a level that is left as it was found. -/
def levelled (m : Run σ Unit) (e : Engine σ) (depth : Nat) : Outcome σ := ((m e).1, (m e).2, depth)

section Inversion

variable {x : Effect} {is : List Instruction} {e : Engine σ} {depth : Nat} {out : Outcome σ}

theorem walks_nil_iff : Walks [] e depth out ↔ out = (.ok (), e, depth) := by
  constructor
  · rintro ⟨⟩
    rfl
  · rintro rfl
    exact .done

theorem walks_unknown_iff {kind : String} : Walks (.unknown kind :: is) e depth out ↔
    out = (.error (.unknownEffect ⟨kind⟩), e, depth) := by
  constructor
  · rintro ⟨⟩
    rfl
  · rintro rfl
    exact .unknown

/-- An effect that lands nowhere is followed by what comes after it. -/
theorem walks_iff_of_none (h : e.stage.content.landing? x = none) :
    Walks (.effect x :: is) e depth out ↔ Walks is (e.playAll [.effect x]) depth out := by
  constructor
  · intro hwalk
    cases hwalk with
    | stays _ hrest => exact hrest
    | lands hlands => exact absurd (h.symm.trans hlands) (Option.some_ne_none _).symm
    | fails hlands => exact absurd (h.symm.trans hlands) (Option.some_ne_none _).symm
  · exact .stays h

/-- An effect whose landing ends well is followed by what comes after it. -/
theorem walks_iff_of_lands {p : Spot} {d : Engine σ} {reached : Nat}
    (h : e.stage.content.landing? x = some p)
    (hnest : ∀ out, Nests (instructionsOf p.node) (e.playAll [.effect x, .tell p.started]) depth
      out ↔ out = (.ok (), d, reached)) :
    Walks (.effect x :: is) e depth out ↔ Walks is d reached out := by
  constructor
  · intro hwalk
    cases hwalk with
    | stays hlands => exact absurd (h.symm.trans hlands) (Option.some_ne_none _)
    | lands hlands hnest' hrest =>
      cases Option.some.inj (h.symm.trans hlands)
      cases (hnest _).mp hnest'
      exact hrest
    | fails hlands hnest' =>
      cases Option.some.inj (h.symm.trans hlands)
      cases (hnest _).mp hnest'
  · exact .lands h ((hnest _).mpr rfl)

/-- An effect whose landing fails is the last. -/
theorem walks_iff_of_fails {p : Spot} {f : Fault} {d : Engine σ} {reached : Nat}
    (h : e.stage.content.landing? x = some p)
    (hnest : ∀ out, Nests (instructionsOf p.node) (e.playAll [.effect x, .tell p.started]) depth
      out ↔ out = (.error f, d, reached)) :
    Walks (.effect x :: is) e depth out ↔ out = (.error f, d, reached) := by
  constructor
  · intro hwalk
    cases hwalk with
    | stays hlands => exact absurd (h.symm.trans hlands) (Option.some_ne_none _)
    | lands hlands hnest' =>
      cases Option.some.inj (h.symm.trans hlands)
      cases (hnest _).mp hnest'
    | fails hlands hnest' =>
      cases Option.some.inj (h.symm.trans hlands)
      exact (hnest _).mp hnest'
  · rintro rfl
    exact .fails h ((hnest _).mpr rfl)

theorem nests_iff_of_gt (h : depth + 1 > maxDepth) : Nests is e depth out ↔
    out = (.error .effectLoop, e.playAll [.tell looped], depth + 1 - 1) := by
  constructor
  · intro hnest
    cases hnest with
    | stopped => rfl
    | level hle => exact absurd h hle
  · rintro rfl
    exact .stopped h

theorem nests_iff_of_not_gt (h : ¬ depth + 1 > maxDepth) : Nests is e depth out ↔
    ∃ r d reached, Walks is e (depth + 1) (r, d, reached) ∧ out = (r, d, reached - 1) := by
  constructor
  · intro hnest
    cases hnest with
    | stopped hgt => exact absurd hgt h
    | level _ hwalk => exact ⟨_, _, _, hwalk, rfl⟩
  · rintro ⟨r, d, reached, hwalk, rfl⟩
    exact .level h hwalk

end Inversion

/-- If landings come to what the engine does with the levels that are left, and to nothing else,
then so does a level with landings on it. -/
theorem walks_iff_of_nests {depth left : Nat}
    (h : ∀ js (e : Engine σ) out, Nests js e depth out ↔ out = levelled (drain left js) e depth)
    (is : List Instruction) (e : Engine σ) (out : Outcome σ) :
    Walks is e depth out ↔ out = levelled (drain (left + 1) is) e depth := by
  induction is generalizing e with
  | nil => exact walks_nil_iff
  | cons instruction is ih =>
    rw [levelled, drain_cons]
    cases instruction with
    | unknown kind => exact walks_unknown_iff
    | effect x =>
      dsimp only [follow]
      rw [bind_apply, carryOut_apply]
      cases hlands : e.stage.content.landing? x with
      | none => exact (walks_iff_of_none hlands).trans (ih _)
      | some p =>
        dsimp only
        have hnest := h (instructionsOf p.node) (e.playAll [.effect x, .tell p.started])
        rw [levelled] at hnest
        generalize drain left (instructionsOf p.node) (e.playAll [.effect x, .tell p.started]) =
          landed at hnest ⊢
        obtain ⟨fault | ⟨⟩, d⟩ := landed
        · exact walks_iff_of_fails hlands hnest
        · exact (walks_iff_of_lands hlands hnest).trans (ih d)

/-- The recursion on the counter ends in one way only: it does what the engine does with the
levels that are left, and brings the counter back. -/
theorem nests_iff {depth left : Nat} (h : depth + left = maxDepth) (is : List Instruction)
    (e : Engine σ) (out : Outcome σ) :
    Nests is e depth out ↔ out = levelled (drain left is) e depth := by
  induction left generalizing depth is e out with
  | zero => exact nests_iff_of_gt (by omega)
  | succ left ih =>
    have hlevel : depth + 1 + left = maxDepth := by omega
    rw [nests_iff_of_not_gt (by omega)]
    simp [walks_iff_of_nests (fun js d out => ih hlevel js d out), levelled, and_assoc]

/-! ## The guard is exact -/

/-- Whatever the content, the state and the effects: carrying them out ends and leaves the
counter where it was.  It fails exactly if there is a chain of thirty-two landings, and
then whoever listens to errors has heard of one. -/
theorem execute_loops_iff (e : Engine σ) (es : List Effect) :
    ∃ r d, execute (es.map .effect) e = (r, d) ∧
      (∀ out, Nests (es.map .effect) e 0 out ↔ out = (r, d, 0)) ∧
      (r = .ok () ∨ r = .error .effectLoop) ∧
      (r = .error .effectLoop ↔
        ∃ ns : List DialogNode, ns.length = 32 ∧ e.stage.content.Chain es ns) ∧
      (r = .error .effectLoop → ∀ l, (EventKind.error.name, l) ∈ e.bus.registered →
        (d.bus.heard l).filter (·.1 = .error) =
          (e.bus.heard l).filter (·.1 = .error) ++ [looped]) := by
  have hcourse := drain_apply maxDepth (es.map .effect) e
  have hnest := nests_iff (Nat.zero_add maxDepth) (es.map .effect) e
  simp only [levelled, hcourse] at hnest
  have hguarded : (course e.stage.content maxDepth (es.map .effect)).Guarded :=
    guarded_course maxDepth es
  refine ⟨_, _, hcourse, hnest, ?_, course_loops_iff maxDepth es, fun hloops l hl => ?_⟩
  · cases hguarded with
    | well hresult _ => exact .inl hresult
    | loops hresult _ => exact .inr hresult
  · rw [bus_playAll, Bus.filter_heard_announceAll hl, filter_reports]
    cases hguarded with
    | well hresult _ =>
      rw [hresult] at hloops
      cases hloops
    | loops _ htold => rw [htold]

/-- Content in which a node leads back to itself is stopped there. -/
theorem execute_of_cycle {e : Engine σ} {n : DialogNode} {ns : List DialogNode}
    (h : e.stage.content.Chain n.effects (ns ++ [n])) :
    (execute (instructionsOf n) e).1 = .error .effectLoop := by
  have hcourse : execute (instructionsOf n) e = _ := drain_apply maxDepth _ e
  rw [hcourse]
  exact (course_loops_iff maxDepth n.effects).mpr (Index.deep_of_cycle h maxDepth)

end Engine

end Storyline
