import Storyline.Proofs.Json.Numbers
import Storyline.Proofs.Json.Shape
import Storyline.Proofs.Json.Strings

/-!
# Values written and read

The text of a value, in any of the styles, is read as the value again.  Two things can
come between: a whole number with more digits than the reader allows is a fault, and a
style may write a double that is no number as null.

* `Style.Readable`: what a style must look like;
* `Style.Reads`: what the text of a double is read as;
* `readValue_writeAt`: a value in its place inside a text;
* `readChars_write`: a whole text.
-/

namespace Storyline.Json

/-- Separators are a comma and a colon with nothing but gaps after them. -/
structure Style.Readable (s : Style) : Prop where
  comma : ∃ gap, s.comma = ',' :: gap ∧ ∀ c ∈ gap, isGap c = true
  colon : ∃ gap, s.colon = ':' :: gap ∧ ∀ c ∈ gap, isGap c = true

theorem readable_compact : Style.compact.Readable := ⟨⟨[], rfl, nofun⟩, ⟨[], rfl, nofun⟩⟩

theorem readable_indented : Style.indented.Readable :=
  ⟨⟨[], rfl, nofun⟩, ⟨[' '], rfl, by simp [isGap]⟩⟩

theorem readable_spaced : Style.spaced.Readable :=
  ⟨⟨[' '], rfl, by simp [isGap]⟩, ⟨[' '], rfl, by simp [isGap]⟩⟩

/-- In the style the text of the double is read as a given value, whatever follows. -/
def Style.Reads (s : Style) (f : Float → Json) (x : Float) : Prop :=
  ∀ (limit : Option Nat) (width : Nat) (rest : List Char), EndsNumber rest →
    readScalar limit width ((s.doubles.render x).toList ++ rest) = .ok (f x, rest)

/-- Going on with a value that is there. -/
theorem ok_bind {ε α β : Type} (a : α) (f : α → Except ε β) : (Except.ok a >>= f) = f a := rfl

/-! ## Gaps -/

theorem skipGap_append {gap : List Char} (h : ∀ c ∈ gap, isGap c = true) (cs : List Char) :
    skipGap (gap ++ cs) = skipGap cs := by
  induction gap with
  | nil => rfl
  | cons c gap ih =>
    have hc : isGap c = true := h c (List.mem_cons_self ..)
    rw [List.cons_append, skipGap, List.dropWhile_cons_of_pos hc]
    exact ih fun d hd => h d (List.mem_cons_of_mem c hd)

theorem skipGap_cons {c : Char} (h : isGap c = false) (cs : List Char) :
    skipGap (c :: cs) = c :: cs := by
  rw [skipGap, List.dropWhile_cons_of_neg (by simp [h])]

/-- A line break and its indentation are a gap. -/
theorem isGap_of_mem_break {s : Style} {level : Nat} {c : Char} (h : c ∈ s.break level) :
    isGap c = true := by
  unfold Style.break at h
  split at h
  · rcases List.mem_cons.mp h with rfl | h
    · rfl
    · rw [List.eq_of_mem_replicate h]
      rfl
  · cases h

/-- A separator's gap and the line break after it are a gap. -/
theorem isGap_of_mem_gap_break {s : Style} {level : Nat} {gap : List Char}
    (h : ∀ c ∈ gap, isGap c = true) : ∀ c ∈ gap ++ s.break level, isGap c = true := by
  intro c hc
  rcases List.mem_append.mp hc with hc | hc
  · exact h c hc
  · exact isGap_of_mem_break hc

/-- What comes after a value: a gap, then a character that no number goes on with. -/
theorem endsNumber_break (s : Style) (level : Nat) {c : Char} (hc : continuesNumber c = false)
    (cs : List Char) : EndsNumber (s.break level ++ c :: cs) := by
  unfold Style.break
  split
  · exact endsNumber_cons (by decide) _
  · exact endsNumber_cons hc cs

/-! ## Where values begin -/

/-- A scalar that is read begins neither with a gap nor with a bracket. -/
theorem head_of_readScalar {limit : Option Nat} {width : Nat} {cs : List Char}
    {r : Json × List Char} (h : readScalar limit width cs = .ok r) :
    ∃ c ds, cs = c :: ds ∧ isGap c = false ∧ c ≠ ']' ∧ c ≠ '[' ∧ c ≠ '{' := by
  rw [readScalar.eq_def] at h
  split at h
  case h_9 =>
    obtain ⟨d, ds, rfl, hd⟩ := head_of_readNumber h
    refine ⟨d, ds, rfl, ?_, ?_, ?_, ?_⟩
    · simp only [isGap, Bool.or_eq_false_iff, decide_eq_false_iff_not]
      refine ⟨⟨⟨?_, ?_⟩, ?_⟩, ?_⟩ <;> (rintro rfl; exact absurd hd (by decide))
    all_goals rintro rfl; exact absurd hd (by decide)
  all_goals exact ⟨_, _, rfl, by decide, by decide, by decide, by decide⟩

/-- A value is a scalar unless it begins with a bracket. -/
theorem readValue_scalar {limit : Option Nat} {width fuel : Nat} {c : Char} (hlist : c ≠ '[')
    (hobject : c ≠ '{') (cs : List Char) :
    readValue limit width (fuel + 1) (c :: cs) = readScalar limit width (c :: cs) := by
  rw [readValue.eq_def]
  dsimp only
  split
  · rename_i h
    exact absurd (List.cons.inj h).1 hlist
  · rename_i h
    exact absurd (List.cons.inj h).1 hobject
  · rfl

theorem intChars_eq_cons (n : Int) :
    ∃ c cs, Decimal.intChars n = c :: cs ∧ isGap c = false ∧ c ≠ ']' ∧ c ≠ '[' ∧ c ≠ '{' := by
  obtain ⟨c, cs, hcs, hc⟩ :=
    head_of_readScalar ((readScalar_intChars none 0 n endsNumber_nil).trans (if_neg (by simp)))
  rw [List.append_nil] at hcs
  exact ⟨c, cs, hcs, hc⟩

theorem render_eq_cons {s : Style} {f : Float → Json} {x : Float} (h : s.Reads f x) :
    ∃ c cs, (s.doubles.render x).toList = c :: cs ∧ isGap c = false ∧ c ≠ ']' ∧ c ≠ '[' ∧
      c ≠ '{' := by
  obtain ⟨c, cs, hcs, hc⟩ := head_of_readScalar (h none 0 [] endsNumber_nil)
  rw [List.append_nil] at hcs
  exact ⟨c, cs, hcs, hc⟩

/-- The text of a value begins neither with a gap nor with a closing bracket. -/
theorem writeAt_eq_cons {s : Style} {f : Float → Json} {v : Json}
    (h : ∀ x ∈ v.doubles, s.Reads f x) (level : Nat) :
    ∃ c cs, writeAt s level v = c :: cs ∧ isGap c = false ∧ c ≠ ']' := by
  cases v with
  | null => exact ⟨_, _, by rw [writeAt], by decide, by decide⟩
  | bool b => cases b <;> exact ⟨_, _, by rw [writeAt], by decide, by decide⟩
  | int n =>
    obtain ⟨c, cs, hcs, hgap, hc, -⟩ := intChars_eq_cons n
    exact ⟨c, cs, by rw [writeAt, hcs], hgap, hc⟩
  | float x =>
    obtain ⟨c, cs, hcs, hgap, hc, -⟩ := render_eq_cons (h x (by simp))
    exact ⟨c, cs, by rw [writeAt, hcs], hgap, hc⟩
  | str t => exact ⟨_, _, by rw [writeAt, writeString, List.cons_append], by decide, by decide⟩
  | arr xs =>
    cases xs with
    | nil => exact ⟨_, _, by rw [writeAt], by decide, by decide⟩
    | cons x xs =>
      exact ⟨_, _, by rw [writeAt]; simp only [List.cons_append]; rfl, by decide, by decide⟩
  | obj ms =>
    cases ms with
    | nil => exact ⟨_, _, by rw [writeAt], by decide, by decide⟩
    | cons m ms =>
      exact ⟨_, _, by rw [writeAt]; simp only [List.cons_append]; rfl, by decide, by decide⟩

/-- A reader that has a step for each character of a value's text has a step to take. -/
theorem exists_succ_of_length {s : Style} {f : Float → Json} {v : Json}
    (h : ∀ x ∈ v.doubles, s.Reads f x) {level fuel : Nat}
    (hfuel : (writeAt s level v).length ≤ fuel) : ∃ n, fuel = n + 1 := by
  obtain ⟨c, cs, hcs, -⟩ := writeAt_eq_cons h level
  rw [hcs, List.length_cons] at hfuel
  exact ⟨fuel - 1, by omega⟩

/-- A gap before a value is passed over. -/
theorem skipGap_writeAt {s : Style} {f : Float → Json} {v : Json}
    (h : ∀ x ∈ v.doubles, s.Reads f x) (level : Nat) {gap : List Char}
    (hgap : ∀ c ∈ gap, isGap c = true) (rest : List Char) :
    skipGap (gap ++ (writeAt s level v ++ rest)) = writeAt s level v ++ rest := by
  obtain ⟨c, cs, hcs, hc, -⟩ := writeAt_eq_cons h level
  rw [skipGap_append hgap, hcs, List.cons_append, skipGap_cons hc]

/-! ## Steps of the reader -/

section

variable {limit : Option Nat} {width fuel : Nat} {cs rest more : List Char} {v : Json}

/-- After an item and a comma the other items are read. -/
theorem readItems_comma (hv : readValue limit width fuel cs = .ok (v, rest))
    (hrest : skipGap rest = ',' :: more) :
    readItems limit width (fuel + 1) cs =
      (readItems limit width fuel (skipGap more)).map fun p => (v :: p.1, p.2) := by
  rw [readItems, hv, ok_bind]
  dsimp only
  rw [hrest]
  show (readItems limit width fuel (skipGap more) >>= _) = _
  cases readItems limit width fuel (skipGap more) <;> rfl

/-- After an item and the closing bracket nothing is read. -/
theorem readItems_close (hv : readValue limit width fuel cs = .ok (v, rest))
    (hrest : skipGap rest = ']' :: more) :
    readItems limit width (fuel + 1) cs = .ok ([v], more) := by
  rw [readItems, hv, ok_bind]
  dsimp only
  rw [hrest]
  rfl

theorem readItems_error {e : Fault} (hv : readValue limit width fuel cs = .error e) :
    readItems limit width (fuel + 1) cs = .error e := by
  rw [readItems, hv]
  rfl

variable {name : String} {after value : List Char}

/-- After a member and a comma the other members are read. -/
theorem readMembers_comma (hname : readString width cs = .ok (name, after))
    (hcolon : skipGap after = ':' :: value)
    (hv : readValue limit width fuel (skipGap value) = .ok (v, rest))
    (hrest : skipGap rest = ',' :: more) :
    readMembers limit width (fuel + 1) ('"' :: cs) =
      (readMembers limit width fuel (skipGap more)).map fun p => ((name, v) :: p.1, p.2) := by
  rw [readMembers, hname, ok_bind]
  dsimp only
  rw [hcolon]
  show (readValue limit width fuel (skipGap value) >>= _) = _
  rw [hv, ok_bind]
  dsimp only
  rw [hrest]
  show (readMembers limit width fuel (skipGap more) >>= _) = _
  cases readMembers limit width fuel (skipGap more) <;> rfl

/-- After a member and the closing brace nothing is read. -/
theorem readMembers_close (hname : readString width cs = .ok (name, after))
    (hcolon : skipGap after = ':' :: value)
    (hv : readValue limit width fuel (skipGap value) = .ok (v, rest))
    (hrest : skipGap rest = '}' :: more) :
    readMembers limit width (fuel + 1) ('"' :: cs) = .ok ([(name, v)], more) := by
  rw [readMembers, hname, ok_bind]
  dsimp only
  rw [hcolon]
  show (readValue limit width fuel (skipGap value) >>= _) = _
  rw [hv, ok_bind]
  dsimp only
  rw [hrest]
  rfl

theorem readMembers_error {e : Fault} (hname : readString width cs = .ok (name, after))
    (hcolon : skipGap after = ':' :: value)
    (hv : readValue limit width fuel (skipGap value) = .error e) :
    readMembers limit width (fuel + 1) ('"' :: cs) = .error e := by
  rw [readMembers, hname, ok_bind]
  dsimp only
  rw [hcolon]
  show (readValue limit width fuel (skipGap value) >>= _) = _
  rw [hv]
  rfl

end

/-! ## Values, items and members -/

/-- What reading the text of a value comes to. -/
def outcome (limit : Option Nat) (f : Float → Json) (v : Json) (rest : List Char) :
    Reading Json :=
  if v.fits limit then .ok (v.withDoubles f, rest) else .error .numberTooLong

/-- The value is read wherever it is written. -/
def ReadsBack (s : Style) (f : Float → Json) (limit : Option Nat) (width : Nat) (v : Json) :
    Prop :=
  ∀ (level fuel : Nat) (rest : List Char), EndsNumber rest →
    (writeAt s level v).length ≤ fuel →
    readValue limit width fuel (writeAt s level v ++ rest) = outcome limit f v rest

section

variable {s : Style} {f : Float → Json} {limit : Option Nat} {width : Nat}

/-- After an item comes a comma, or a gap and the closing bracket. -/
theorem endsNumber_writeItems (hs : s.Readable) (level inner : Nat) (xs : List Json)
    (rest : List Char) :
    EndsNumber (writeItems s inner xs ++ (s.break level ++ ']' :: rest)) := by
  cases xs with
  | nil =>
    rw [writeItems_nil, List.nil_append]
    exact endsNumber_break s level (by decide) rest
  | cons x xs =>
    obtain ⟨gap, hcomma, -⟩ := hs.comma
    rw [writeItems, hcomma]
    exact endsNumber_cons (by decide) _

theorem endsNumber_writeMembers (hs : s.Readable) (level inner : Nat) (ms : Members)
    (rest : List Char) :
    EndsNumber (writeMembers s inner ms ++ (s.break level ++ '}' :: rest)) := by
  cases ms with
  | nil =>
    rw [writeMembers_nil, List.nil_append]
    exact endsNumber_break s level (by decide) rest
  | cons m ms =>
    obtain ⟨gap, hcomma, -⟩ := hs.comma
    obtain ⟨k, v⟩ := m
    rw [writeMembers, hcomma]
    exact endsNumber_cons (by decide) _

/-- Items are read up to the closing bracket, if each of them is read wherever it is
written. -/
theorem readItems_write (hs : s.Readable) {x : Json} {xs : List Json}
    (hread : ∀ y ∈ x :: xs, ReadsBack s f limit width y)
    (hdoubles : ∀ y ∈ x :: xs, ∀ z ∈ y.doubles, s.Reads f z) (level inner fuel : Nat)
    (rest : List Char)
    (hfuel : (writeAt s inner x).length + (writeItems s inner xs).length + 1 ≤ fuel) :
    readItems limit width fuel
        (writeAt s inner x ++ (writeItems s inner xs ++ (s.break level ++ ']' :: rest))) =
      if (x :: xs).all (fits limit) then .ok ((x :: xs).map (withDoubles f), rest)
      else .error .numberTooLong := by
  induction xs generalizing x fuel with
  | nil =>
    obtain ⟨fuel, rfl⟩ : ∃ n, fuel = n + 1 := ⟨fuel - 1, by omega⟩
    have hx := hread x (List.mem_cons_self ..) inner fuel _
      (endsNumber_writeItems hs level inner [] rest) (by omega)
    rw [outcome] at hx
    by_cases hfits : x.fits limit = true
    · rw [if_pos hfits, writeItems_nil, List.nil_append] at hx
      have hclose : skipGap (s.break level ++ ']' :: rest) = ']' :: rest := by
        rw [skipGap_append (fun c hc => isGap_of_mem_break hc), skipGap_cons (by decide)]
      rw [writeItems_nil, List.nil_append, readItems_close hx hclose, if_pos (by simp [hfits])]
      rfl
    · rw [if_neg hfits] at hx
      rw [readItems_error hx, if_neg (by simp [hfits])]
  | cons y ys ih =>
    obtain ⟨fuel, rfl⟩ : ∃ n, fuel = n + 1 := ⟨fuel - 1, by omega⟩
    have hx := hread x (List.mem_cons_self ..) inner fuel _
      (endsNumber_writeItems hs level inner (y :: ys) rest) (by omega)
    obtain ⟨gap, hcomma, hgap⟩ := hs.comma
    have hlength : (writeItems s inner (y :: ys)).length =
        1 + gap.length + (s.break inner).length + (writeAt s inner y).length +
          (writeItems s inner ys).length := by
      rw [writeItems, hcomma]
      simp only [List.length_append, List.length_cons]
      omega
    have htail := ih (x := y) (fun z hz => hread z (List.mem_cons_of_mem x hz))
      (fun z hz => hdoubles z (List.mem_cons_of_mem x hz)) fuel (by omega)
    have hskip : skipGap (writeItems s inner (y :: ys) ++ (s.break level ++ ']' :: rest)) =
        ',' :: (gap ++ s.break inner ++ (writeAt s inner y ++
          (writeItems s inner ys ++ (s.break level ++ ']' :: rest)))) := by
      rw [writeItems, hcomma]
      simp only [List.cons_append, List.append_assoc]
      exact skipGap_cons (by decide) _
    rw [outcome] at hx
    by_cases hfits : x.fits limit = true
    · rw [if_pos hfits] at hx
      rw [readItems_comma hx hskip,
        skipGap_writeAt (hdoubles y (by simp)) inner (isGap_of_mem_gap_break hgap), htail,
        List.all_cons (a := x), hfits, Bool.true_and]
      split <;> rfl
    · rw [if_neg hfits] at hx
      rw [readItems_error hx, if_neg (by simp [hfits])]

/-- Members are read up to the closing brace, if each of their values is read wherever it
is written. -/
theorem readMembers_write (hs : s.Readable) {m : String × Json} {ms : Members}
    (hread : ∀ n ∈ m :: ms, ReadsBack s f limit width n.2)
    (hdoubles : ∀ n ∈ m :: ms, ∀ z ∈ n.2.doubles, s.Reads f z) (level inner fuel : Nat)
    (rest : List Char)
    (hfuel : (writeAt s inner m.2).length + (writeMembers s inner ms).length + 1 ≤ fuel) :
    readMembers limit width fuel
        (writeString s.ascii m.1 ++ (s.colon ++ (writeAt s inner m.2 ++
          (writeMembers s inner ms ++ (s.break level ++ '}' :: rest))))) =
      if (m :: ms).all (fun n => n.2.fits limit) then
        .ok ((m :: ms).map fun n => (n.1, withDoubles f n.2), rest)
      else .error .numberTooLong := by
  obtain ⟨colonGap, hcolon, hcolonGap⟩ := hs.colon
  have hcolonSkip : ∀ cs, skipGap (s.colon ++ cs) = ':' :: (colonGap ++ cs) := by
    intro cs
    rw [hcolon, List.cons_append, skipGap_cons (by decide)]
  induction ms generalizing m fuel with
  | nil =>
    obtain ⟨fuel, rfl⟩ : ∃ n, fuel = n + 1 := ⟨fuel - 1, by omega⟩
    have hv := hread m (List.mem_cons_self ..) inner fuel _
      (endsNumber_writeMembers hs level inner [] rest) (by omega)
    rw [← skipGap_writeAt (hdoubles m (by simp)) inner hcolonGap, outcome] at hv
    rw [writeString_append]
    by_cases hfits : m.2.fits limit = true
    · rw [if_pos hfits] at hv
      have hclose : skipGap (writeMembers s inner [] ++ (s.break level ++ '}' :: rest)) =
          '}' :: rest := by
        rw [writeMembers_nil, List.nil_append, skipGap_append (fun c hc => isGap_of_mem_break hc),
          skipGap_cons (by decide)]
      rw [readMembers_close (readString_write _ _ _) (hcolonSkip _) hv hclose,
        if_pos (by simp [hfits])]
      rfl
    · rw [if_neg hfits] at hv
      rw [readMembers_error (readString_write _ _ _) (hcolonSkip _) hv, if_neg (by simp [hfits])]
  | cons n ns ih =>
    obtain ⟨fuel, rfl⟩ : ∃ n, fuel = n + 1 := ⟨fuel - 1, by omega⟩
    have hv := hread m (List.mem_cons_self ..) inner fuel _
      (endsNumber_writeMembers hs level inner (n :: ns) rest) (by omega)
    obtain ⟨gap, hcomma, hgap⟩ := hs.comma
    have hlength : (writeMembers s inner (n :: ns)).length =
        1 + gap.length + (s.break inner).length + (writeString s.ascii n.1).length +
          s.colon.length + (writeAt s inner n.2).length + (writeMembers s inner ns).length := by
      rw [writeMembers, hcomma]
      simp only [List.length_append, List.length_cons]
      omega
    have htail := ih (m := n) (fun z hz => hread z (List.mem_cons_of_mem m hz))
      (fun z hz => hdoubles z (List.mem_cons_of_mem m hz)) fuel (by omega)
    have hskip : skipGap (writeMembers s inner (n :: ns) ++ (s.break level ++ '}' :: rest)) =
        ',' :: (gap ++ s.break inner ++ (writeString s.ascii n.1 ++ (s.colon ++
          (writeAt s inner n.2 ++
            (writeMembers s inner ns ++ (s.break level ++ '}' :: rest)))))) := by
      rw [writeMembers, hcomma]
      simp only [List.cons_append, List.append_assoc]
      exact skipGap_cons (by decide) _
    have hname : ∀ cs : List Char,
        skipGap (gap ++ s.break inner ++ (writeString s.ascii n.1 ++ cs)) =
          writeString s.ascii n.1 ++ cs := by
      intro cs
      rw [skipGap_append (isGap_of_mem_gap_break hgap), writeString_append,
        skipGap_cons (by decide)]
    rw [← skipGap_writeAt (hdoubles m (by simp)) inner hcolonGap, outcome] at hv
    rw [writeString_append]
    by_cases hfits : m.2.fits limit = true
    · rw [if_pos hfits] at hv
      rw [readMembers_comma (readString_write _ _ _) (hcolonSkip _) hv hskip, hname, htail,
        List.all_cons (a := m), hfits, Bool.true_and]
      split <;> rfl
    · rw [if_neg hfits] at hv
      rw [readMembers_error (readString_write _ _ _) (hcolonSkip _) hv, if_neg (by simp [hfits])]

/-- A list is read wherever it is written, if its items are. -/
theorem readsBack_arr (hs : s.Readable) {xs : List Json}
    (hread : ∀ x ∈ xs, ReadsBack s f limit width x)
    (hdoubles : ∀ x ∈ xs, ∀ z ∈ x.doubles, s.Reads f z) : ReadsBack s f limit width (.arr xs) := by
  intro level fuel rest _ hfuel
  cases xs with
  | nil =>
    obtain ⟨fuel, rfl⟩ := exists_succ_of_length (f := f) (v := .arr []) (by simp) hfuel
    rw [writeAt, List.cons_append, readValue]
    rfl
  | cons x xs =>
    have hlength : (writeAt s level (.arr (x :: xs))).length =
        2 + (s.break (level + 1)).length + (writeAt s (level + 1) x).length +
          (writeItems s (level + 1) xs).length + (s.break level).length := by
      rw [writeAt]
      simp only [List.length_append, List.length_cons, List.length_nil]
      omega
    obtain ⟨fuel, rfl⟩ : ∃ n, fuel = n + 1 := ⟨fuel - 1, by omega⟩
    have hitems := readItems_write hs hread hdoubles level (level + 1) fuel rest (by omega)
    obtain ⟨c, cs, hcs, hgap, hbracket⟩ :=
      writeAt_eq_cons (hdoubles x (List.mem_cons_self ..)) (level + 1)
    have hskip : skipGap (s.break (level + 1) ++ (writeAt s (level + 1) x ++
        (writeItems s (level + 1) xs ++ (s.break level ++ ']' :: rest)))) =
        writeAt s (level + 1) x ++
          (writeItems s (level + 1) xs ++ (s.break level ++ ']' :: rest)) :=
      skipGap_writeAt (hdoubles x (List.mem_cons_self ..)) _ (fun c hc => isGap_of_mem_break hc) _
    rw [writeAt]
    simp only [List.cons_append, List.append_assoc, List.nil_append]
    rw [readValue, hskip]
    split
    · rename_i h
      rw [hcs, List.cons_append] at h
      exact absurd (List.cons.inj h).1 hbracket
    · rw [hitems, outcome, fits_arr, withDoubles_arr]
      split <;> rfl

/-- An object is read wherever it is written, if the values of its members are. -/
theorem readsBack_obj (hs : s.Readable) {ms : Members} (hnames : (ms.map Prod.fst).Nodup)
    (hread : ∀ m ∈ ms, ReadsBack s f limit width m.2)
    (hdoubles : ∀ m ∈ ms, ∀ z ∈ m.2.doubles, s.Reads f z) :
    ReadsBack s f limit width (.obj ms) := by
  intro level fuel rest _ hfuel
  cases ms with
  | nil =>
    obtain ⟨fuel, rfl⟩ := exists_succ_of_length (f := f) (v := .obj []) (by simp) hfuel
    rw [writeAt, List.cons_append, readValue]
    rfl
  | cons m ms =>
    obtain ⟨k, v⟩ := m
    have hlength : (writeAt s level (.obj ((k, v) :: ms))).length =
        2 + (s.break (level + 1)).length + (writeString s.ascii k).length + s.colon.length +
          (writeAt s (level + 1) v).length + (writeMembers s (level + 1) ms).length +
          (s.break level).length := by
      rw [writeAt]
      simp only [List.length_append, List.length_cons, List.length_nil]
      omega
    obtain ⟨fuel, rfl⟩ : ∃ n, fuel = n + 1 := ⟨fuel - 1, by omega⟩
    have hmembers := readMembers_write hs hread hdoubles level (level + 1) fuel rest
      (by dsimp only; omega)
    have hsettled : Members.ofList (((k, v) :: ms).map fun n => (n.1, withDoubles f n.2)) =
        ((k, v) :: ms).map fun n => (n.1, withDoubles f n.2) := by
      refine Members.ofList_of_nodup ?_
      rw [List.map_map]
      exact hnames
    rw [writeString_append] at hmembers
    rw [writeAt]
    simp only [List.cons_append, List.append_assoc, List.nil_append]
    rw [readValue, skipGap_append (fun c hc => isGap_of_mem_break hc), writeString_append,
      skipGap_cons (by decide)]
    dsimp only at hmembers
    show (readMembers limit width fuel _).map _ = _
    rw [hmembers, outcome, fits_obj, withDoubles_obj]
    split
    · show Except.ok (Json.obj (Members.ofList _), rest) = _
      rw [hsettled]
    · rfl

/-- A value is read wherever it is written. -/
theorem readsBack (hs : s.Readable) {v : Json} (hv : v.Distinct)
    (hdoubles : ∀ x ∈ v.doubles, s.Reads f x) : ReadsBack s f limit width v := by
  induction v using induct with
  | null =>
    intro level fuel rest _ hfuel
    obtain ⟨fuel, rfl⟩ := exists_succ_of_length hdoubles hfuel
    rw [writeAt]
    exact readValue_scalar (by decide) (by decide) _
  | bool b =>
    intro level fuel rest _ hfuel
    cases b <;>
    · obtain ⟨fuel, rfl⟩ := exists_succ_of_length hdoubles hfuel
      rw [writeAt]
      exact readValue_scalar (by decide) (by decide) _
  | int n =>
    intro level fuel rest hrest hfuel
    obtain ⟨c, cs, hcs, -, -, hlist, hobject⟩ := intChars_eq_cons n
    obtain ⟨fuel, rfl⟩ := exists_succ_of_length hdoubles hfuel
    rw [writeAt, hcs, List.cons_append, readValue_scalar hlist hobject, ← List.cons_append, ← hcs,
      readScalar_intChars limit width n hrest, outcome, fits_int, withDoubles_int]
    cases limit.any (· < Decimal.digitCount n.natAbs) <;> rfl
  | float x =>
    intro level fuel rest hrest hfuel
    have hx : s.Reads f x := hdoubles x (by simp)
    obtain ⟨c, cs, hcs, -, -, hlist, hobject⟩ := render_eq_cons hx
    obtain ⟨fuel, rfl⟩ := exists_succ_of_length hdoubles hfuel
    rw [writeAt, hcs, List.cons_append, readValue_scalar hlist hobject, ← List.cons_append, ← hcs,
      hx limit width rest hrest]
    rfl
  | str t =>
    intro level fuel rest _ hfuel
    obtain ⟨fuel, rfl⟩ := exists_succ_of_length hdoubles hfuel
    rw [writeAt, writeString_append, readValue_scalar (by decide) (by decide), readScalar,
      readString_write]
    rfl
  | arr xs ih =>
    cases hv with
    | arr hitems =>
      have hall : ∀ x ∈ xs, ∀ z ∈ x.doubles, s.Reads f z := fun x hx z hz =>
        hdoubles z (by rw [doubles_arr, List.mem_flatMap]; exact ⟨x, hx, hz⟩)
      exact readsBack_arr hs (fun x hx => ih x hx (hitems x hx) (hall x hx)) hall
  | obj ms ih =>
    cases hv with
    | obj hnames hvalues =>
      have hall : ∀ m ∈ ms, ∀ z ∈ m.2.doubles, s.Reads f z := fun m hm z hz =>
        hdoubles z (by rw [doubles_obj, List.mem_flatMap]; exact ⟨m, hm, hz⟩)
      exact readsBack_obj hs hnames (fun m hm => ih m hm (hvalues m hm) (hall m hm)) hall

/-- The text of a value is read as the value with its doubles as the style keeps them,
unless a whole number is too long. -/
theorem readChars_write (hs : s.Readable) {v : Json} (hv : v.Distinct)
    (hdoubles : ∀ x ∈ v.doubles, s.Reads f x) :
    readChars limit (v.write s).toList =
      if v.fits limit then .ok (v.withDoubles f) else .error .numberTooLong := by
  have htext : (v.write s).toList = writeAt s 0 v := String.toList_ofList
  have hback : ReadsBack s f limit (markWidth (writeAt s 0 v)) v := readsBack hs hv hdoubles
  have hread := hback 0 (2 * (writeAt s 0 v).length + 2) [] endsNumber_nil (by omega)
  have hskip := skipGap_writeAt hdoubles 0 (List.forall_mem_nil (isGap · = true)) []
  rw [List.nil_append, List.append_nil] at hskip
  rw [List.append_nil] at hread
  rw [readChars, htext, hskip, hread, outcome]
  split
  · rw [ok_bind]
    rfl
  · rfl

end

end Storyline.Json
