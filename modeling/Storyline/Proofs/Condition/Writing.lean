import Mathlib.Data.List.Chain
import Mathlib.Data.List.Forall2
import Mathlib.Data.List.TakeWhile
import Storyline.Condition
import Storyline.Proofs.Decimal.Digits

/-!
# Conditions mean what is written

A condition is read with four cuts: at `&&`, at blanks, at the first `===` and at quotation
marks.  None of them meets a character that was written for something else: a name has no
character at which something is cut, and a literal stands between quotation marks, so that the
ampersands, blanks, signs and marks inside it are out of reach.

* `Clause.Spelled`, `Writes`: the texts that write clauses;
* `trim_padded`: trimming takes off what was put around;
* `splitClauses_intercalate`: the stretches of a text are those that were joined;
* `clauses_of_writes`: the clauses that are read are those that were written;
* `Clause.Means`, `Stuck`: what clauses say of flags, and where reading them ends in a fault;
* `allHold_eq_ok_true_iff`, `allHold_eq_error_iff`: what comes of clauses;
* `evaluate_of_writes`: what comes of a condition that writes them.
-/

namespace Storyline.Condition

open Text

/-! ## Writing -/

/-- Nothing but blanks. -/
def IsGap (cs : List Char) : Prop := ∀ c ∈ cs, isBlank c = true

instance (cs : List Char) : Decidable (IsGap cs) :=
  decidable_of_iff (cs.all isBlank = true) List.all_eq_true

/-- A name that has no character with a meaning of its own. -/
structure IsName (name : List Char) : Prop where
  ne_nil : name ≠ []
  plain : ∀ c ∈ name, isBlank c = false ∧ c ≠ '!' ∧ c ≠ '&' ∧ c ≠ '='

theorem isName_iff {name : List Char} : IsName name ↔
    name ≠ [] ∧ name.all (fun c => ! isBlank c && c != '!' && c != '&' && c != '=') = true := by
  constructor
  · intro h
    refine ⟨h.ne_nil, List.all_eq_true.mpr fun c hc => ?_⟩
    simpa [and_assoc] using h.plain c hc
  · rintro ⟨hne, hall⟩
    refine ⟨hne, fun c hc => ?_⟩
    simpa [and_assoc] using List.all_eq_true.mp hall c hc

instance (name : List Char) : Decidable (IsName name) := decidable_of_iff _ isName_iff.symm

/-- A literal that can stand between quotation marks. -/
structure IsLiteral (literal : List Char) : Prop where
  undivided : ¬ ['&', '&'] <:+: literal
  first : ∀ c ∈ literal.head?, isQuote c = false
  last : ∀ c ∈ literal.getLast?, isQuote c = false

/-- The texts of a clause, without what is around them. -/
inductive Clause.Spelled : Clause → List Char → Prop
  | set {name : String} (hname : IsName name.toList) : Spelled (.set name) name.toList
  | unset {name : String} {gap : List Char} (hgap : IsGap gap) (hname : IsName name.toList) :
      Spelled (.unset name) ('!' :: (gap ++ name.toList))
  | equals {name literal : String} {before after : List Char} {quote : Char}
      (hname : IsName name.toList) (hbefore : IsGap before) (hafter : IsGap after)
      (hquote : isQuote quote = true) (hliteral : IsLiteral literal.toList) :
      Spelled (.equals name literal)
        (name.toList ++ before ++
          '=' :: '=' :: '=' :: (after ++ quote :: (literal.toList ++ [quote])))

/-- The texts of a clause, with blanks around it. -/
def Clause.Written (clause : Clause) (part : List Char) : Prop :=
  ∃ before body after, IsGap before ∧ clause.Spelled body ∧ IsGap after ∧
    part = before ++ (body ++ after)

/-- The text writes the clauses: one at least, joined by double ampersands. -/
structure Writes (e : String) (cs : List Clause) : Prop where
  ne_nil : cs ≠ []
  joined : ∃ parts, List.Forall₂ Clause.Written cs parts ∧
    e.toList = ['&', '&'].intercalate parts

/-! ## Trimming -/

section Trimming

variable {p : Char → Bool} {before body after : List Char}

theorem dropWhile_append_of_all (hbefore : ∀ c ∈ before, p c = true) (cs : List Char) :
    (before ++ cs).dropWhile p = cs.dropWhile p := by
  induction before with
  | nil => rfl
  | cons c before ih =>
    rw [List.cons_append, List.dropWhile_cons_of_pos (hbefore c List.mem_cons_self),
      ih fun d hd => hbefore d (List.mem_cons_of_mem c hd)]

theorem dropWhile_of_head {cs : List Char} (hfirst : ∀ c ∈ cs.head?, p c = false) :
    cs.dropWhile p = cs := by
  cases cs with
  | nil => rfl
  | cons c cs => exact List.dropWhile_cons_of_neg (Bool.eq_false_iff.mp (hfirst c rfl))

/-- Trimming takes off what was put around a text that begins and ends with other characters. -/
theorem trim_padded (hbefore : ∀ c ∈ before, p c = true) (hafter : ∀ c ∈ after, p c = true)
    (hfirst : ∀ c ∈ body.head?, p c = false) (hlast : ∀ c ∈ body.getLast?, p c = false) :
    trim p (before ++ (body ++ after)) = body := by
  unfold trim trimEnd trimStart
  rw [dropWhile_append_of_all hbefore]
  cases hbody : body with
  | nil =>
    have hnil : after.dropWhile p = [] := List.dropWhile_eq_nil_iff.mpr hafter
    rw [List.nil_append, hnil]
    rfl
  | cons c cs =>
    have hhead : ∀ d ∈ (c :: cs ++ after).head?, p d = false := by
      rw [hbody] at hfirst
      exact hfirst
    rw [dropWhile_of_head hhead, List.reverse_append,
      dropWhile_append_of_all fun d hd => hafter d (List.mem_reverse.mp hd), dropWhile_of_head,
      List.reverse_reverse]
    rw [List.head?_reverse, ← hbody]
    exact hlast

/-- Trimming a text with nothing before it. -/
theorem trim_append (hafter : ∀ c ∈ after, p c = true) (hfirst : ∀ c ∈ body.head?, p c = false)
    (hlast : ∀ c ∈ body.getLast?, p c = false) : trim p (body ++ after) = body := by
  have htrim := trim_padded (List.forall_mem_nil fun c => p c = true) hafter hfirst hlast
  exact htrim

/-- Trimming a text with nothing after it. -/
theorem trim_prepend (hbefore : ∀ c ∈ before, p c = true) (hfirst : ∀ c ∈ body.head?, p c = false)
    (hlast : ∀ c ∈ body.getLast?, p c = false) : trim p (before ++ body) = body := by
  have htrim := trim_padded hbefore (List.forall_mem_nil fun c => p c = true) hfirst hlast
  rwa [List.append_nil] at htrim

end Trimming

/-! ## Clauses joined by ampersands -/

/-- Two characters that do not divide a text together. -/
def Apart (a b : Char) : Prop := ¬ (a = '&' ∧ b = '&')

/-- A stretch of text at whose end, and nowhere else, it is cut off from what follows it. -/
structure Undivided (part : List Char) : Prop where
  chain : part.IsChain Apart
  last : '&' ∉ part.getLast?

theorem splitClauses_eq_singleton {part : List Char} (h : part.IsChain Apart) :
    splitClauses part = [part] := by
  fun_induction splitClauses part with
  | case1 => rfl
  | case2 cs ih => exact absurd ⟨rfl, rfl⟩ (List.isChain_cons_cons.mp h).1
  | case3 c cs hdivides hnone ih =>
    rw [ih h.tail] at hnone
    cases hnone
  | case4 c cs hdivides s ss hsome ih =>
    rw [ih h.tail] at hsome
    obtain ⟨rfl, rfl⟩ := List.cons.inj hsome
    rfl

/-- The first stretch of a text is cut off at the ampersands behind it. -/
theorem splitClauses_append {part : List Char} (h : Undivided part) (rest : List Char) :
    splitClauses (part ++ '&' :: '&' :: rest) = part :: splitClauses rest := by
  induction part with
  | nil => rfl
  | cons c part ih =>
    have hrest : Undivided part := by
      refine ⟨h.chain.tail, fun hlast => h.last ?_⟩
      rw [List.getLast?_cons, Option.mem_def.mp hlast]
      rfl
    -- the first character is not an ampersand before another one
    have hnot : ∀ cs, c = '&' → part ++ '&' :: '&' :: rest = '&' :: cs → False := by
      rintro cs rfl hcs
      cases part with
      | nil => exact h.last rfl
      | cons d part =>
        refine (List.isChain_cons_cons.mp h.chain).1 ⟨rfl, ?_⟩
        exact (List.cons.inj hcs).1
    rw [List.cons_append, splitClauses, ih hrest]
    exact hnot

/-- The stretches of a text are those that were joined. -/
theorem splitClauses_intercalate {parts : List (List Char)} (hne : parts ≠ [])
    (h : ∀ part ∈ parts, Undivided part) : splitClauses (['&', '&'].intercalate parts) = parts := by
  induction parts with
  | nil => exact absurd rfl hne
  | cons part parts ih =>
    have hpart := h part List.mem_cons_self
    cases parts with
    | nil =>
      rw [List.intercalate_singleton]
      exact splitClauses_eq_singleton hpart.chain
    | cons next parts =>
      rw [List.intercalate_cons_cons, List.append_assoc]
      refine (splitClauses_append hpart _).trans (congrArg (part :: ·) ?_)
      exact ih (List.cons_ne_nil _ _) fun other hother => h other (List.mem_cons_of_mem part hother)

/-! ## Clauses -/

/-- Text before the first `===`, in which there is no such sign, and the text after it. -/
theorem splitEquals?_append {front : List Char} (hfront : '=' ∉ front) (rest : List Char) :
    splitEquals? (front ++ '=' :: '=' :: '=' :: rest) = some (front, rest) := by
  induction front with
  | nil => rfl
  | cons c front ih =>
    rw [List.mem_cons, not_or] at hfront
    obtain ⟨hc, hfront⟩ := hfront
    rw [List.cons_append, splitEquals?, ih hfront]
    · rfl
    · rintro cs rfl
      exact absurd rfl hc

theorem splitEquals?_eq_none {cs : List Char} (h : '=' ∉ cs) : splitEquals? cs = none := by
  induction cs with
  | nil => rfl
  | cons c cs ih =>
    rw [List.mem_cons, not_or] at h
    obtain ⟨hc, hcs⟩ := h
    rw [splitEquals?, ih hcs]
    · rfl
    · rintro ds rfl
      exact absurd rfl hc

section Characters

variable {name gap literal : List Char}

theorem IsName.first (h : IsName name) : ∀ c ∈ name.head?, isBlank c = false := fun c hc =>
  (h.plain c (List.mem_of_mem_head? hc)).1

theorem IsName.last (h : IsName name) : ∀ c ∈ name.getLast?, isBlank c = false := fun c hc =>
  (h.plain c (List.mem_of_mem_getLast? hc)).1

theorem IsName.no_ampersand (h : IsName name) : '&' ∉ name := fun hmem =>
  (h.plain '&' hmem).2.2.1 rfl

theorem IsName.no_equals (h : IsName name) : '=' ∉ name := fun hmem =>
  (h.plain '=' hmem).2.2.2 rfl

theorem IsName.head_ne (h : IsName name) (rest : List Char) : name ≠ '!' :: rest := by
  rintro rfl
  exact (h.plain '!' List.mem_cons_self).2.1 rfl

theorem IsGap.not_mem (h : IsGap gap) {c : Char} (hc : isBlank c = false) : c ∉ gap := by
  intro hmem
  rw [h c hmem] at hc
  cases hc

theorem IsGap.no_ampersand (h : IsGap gap) : '&' ∉ gap := h.not_mem (by decide)

theorem isQuote_iff {c : Char} : isQuote c = true ↔ c = '\'' ∨ c = '"' := by
  unfold isQuote
  rw [Bool.or_eq_true, decide_eq_true_eq, decide_eq_true_eq]

/-- A quotation mark is no blank and no ampersand. -/
theorem plain_of_isQuote {c : Char} (h : isQuote c = true) : isBlank c = false ∧ c ≠ '&' := by
  rcases isQuote_iff.mp h with rfl | rfl
  · exact ⟨by decide, by decide⟩
  · exact ⟨by decide, by decide⟩

theorem isChain_of_not_mem {cs : List Char} (h : '&' ∉ cs) : cs.IsChain Apart := by
  refine List.isChain_iff_forall_rel_of_append_cons_cons.mpr ?_
  rintro a b l₁ l₂ rfl ⟨rfl, -⟩
  exact h (List.mem_append_right l₁ List.mem_cons_self)

theorem isChain_append_left {cs ds : List Char} (h : '&' ∉ cs) (hds : ds.IsChain Apart) :
    (cs ++ ds).IsChain Apart := by
  refine List.isChain_append.mpr ⟨isChain_of_not_mem h, hds, ?_⟩
  rintro a ha b - ⟨rfl, -⟩
  exact h (List.mem_of_mem_getLast? ha)

theorem isChain_append_right {cs ds : List Char} (hcs : cs.IsChain Apart) (h : '&' ∉ ds) :
    (cs ++ ds).IsChain Apart := by
  refine List.isChain_append.mpr ⟨hcs, isChain_of_not_mem h, ?_⟩
  rintro a - b hb ⟨-, rfl⟩
  exact h (List.mem_of_mem_head? hb)

theorem IsLiteral.chain (h : IsLiteral literal) : literal.IsChain Apart := by
  refine List.isChain_iff_forall_rel_of_append_cons_cons.mpr ?_
  rintro a b l₁ l₂ hsplit ⟨rfl, rfl⟩
  refine h.undivided ⟨l₁, l₂, ?_⟩
  rw [hsplit, List.append_assoc]
  rfl

end Characters

namespace Clause.Spelled

variable {clause : Clause} {body : List Char}

/-- What a clause is written with is not divided. -/
theorem chain (h : clause.Spelled body) : body.IsChain Apart := by
  cases h with
  | set hname => exact isChain_of_not_mem hname.no_ampersand
  | @unset name gap hgap hname =>
    have hfront : '&' ∉ '!' :: gap := by
      rw [List.mem_cons, not_or]
      exact ⟨by decide, hgap.no_ampersand⟩
    exact isChain_append_left hfront (isChain_of_not_mem hname.no_ampersand)
  | @equals name literal before after quote hname hbefore hafter hquote hliteral =>
    have hfront : '&' ∉ name.toList ++ before := by
      rw [List.mem_append, not_or]
      exact ⟨hname.no_ampersand, hbefore.no_ampersand⟩
    have hmark : '&' ∉ [quote] := fun hmem =>
      (plain_of_isQuote hquote).2 (List.mem_singleton.mp hmem).symm
    have hquoted : (quote :: (literal.toList ++ [quote])).IsChain Apart :=
      isChain_append_left hmark (isChain_append_right hliteral.chain hmark)
    have hsign : '&' ∉ ['=', '=', '='] := by decide
    exact isChain_append_left hfront
      (isChain_append_left hsign (isChain_append_left hafter.no_ampersand hquoted))

/-- What a clause is written with begins with no blank. -/
theorem first (h : clause.Spelled body) : ∀ c ∈ body.head?, isBlank c = false := by
  cases h with
  | set hname => exact hname.first
  | unset hgap hname =>
    rintro c ⟨⟩
    decide
  | equals hname hbefore hafter hquote hliteral =>
    rw [List.append_assoc, List.head?_append_of_ne_nil _ hname.ne_nil]
    exact hname.first

/-- It ends with no blank and no ampersand. -/
theorem last (h : clause.Spelled body) : ∀ c ∈ body.getLast?, isBlank c = false ∧ c ≠ '&' := by
  have hlast : ∀ {name : List Char}, IsName name → ∀ c ∈ name.getLast?,
      isBlank c = false ∧ c ≠ '&' := fun hname c hc =>
    ⟨hname.last c hc, (hname.plain c (List.mem_of_mem_getLast? hc)).2.2.1⟩
  cases h with
  | set hname => exact hlast hname
  | @unset name gap hgap hname =>
    rw [← List.cons_append, List.getLast?_append_of_ne_nil _ hname.ne_nil]
    exact hlast hname
  | @equals name literal before after quote hname hbefore hafter hquote hliteral =>
    have hend : (name.toList ++ before ++
        '=' :: '=' :: '=' :: (after ++ quote :: (literal.toList ++ [quote]))).getLast? =
          some quote := by
      simp [List.getLast?_append, List.getLast?_cons]
    rw [hend]
    rintro c ⟨⟩
    exact plain_of_isQuote hquote

end Clause.Spelled

namespace Clause.Written

variable {clause : Clause} {part : List Char}

theorem undivided (h : clause.Written part) : Undivided part := by
  obtain ⟨before, body, after, hbefore, hbody, hafter, rfl⟩ := h
  refine ⟨isChain_append_left hbefore.no_ampersand
    (isChain_append_right hbody.chain hafter.no_ampersand), ?_⟩
  rw [List.getLast?_append, List.getLast?_append, Option.mem_def, Option.or_eq_some_iff,
    Option.or_eq_some_iff]
  rintro ((hlast | ⟨-, hlast⟩) | ⟨-, hlast⟩)
  · exact hafter.no_ampersand (List.mem_of_mem_getLast? hlast)
  · exact (hbody.last '&' hlast).2 rfl
  · exact hbefore.no_ampersand (List.mem_of_mem_getLast? hlast)

/-- The clause that is read from a text is the one that was written. -/
theorem ofChars_eq (h : clause.Written part) : Clause.ofChars part = clause := by
  obtain ⟨before, body, after, hbefore, hbody, hafter, rfl⟩ := h
  have htrim := trim_padded hbefore hafter hbody.first fun c hc => (hbody.last c hc).1
  unfold Clause.ofChars
  rw [htrim]
  cases hbody with
  | @set name hname =>
    dsimp only
    split
    · rename_i heq
      exact absurd heq (hname.head_ne _)
    · rw [splitEquals?_eq_none hname.no_equals, String.ofList_toList]
  | @unset name gap hgap hname =>
    show Clause.unset (String.ofList (trim isBlank (gap ++ name.toList))) = _
    rw [trim_prepend hgap hname.first hname.last, String.ofList_toList]
  | @equals name literal gap gap' quote hname hgap hgap' hquote hliteral =>
    have hfront : '=' ∉ name.toList ++ gap := by
      rw [List.mem_append, not_or]
      exact ⟨hname.no_equals, hgap.not_mem (by decide)⟩
    have hmark : ∀ c ∈ [quote], isQuote c = true := by
      simpa using hquote
    -- the name and the literal come out of what was put around them
    have hbegin : ∀ c ∈ (quote :: (literal.toList ++ [quote])).head?, isBlank c = false := by
      rintro c ⟨⟩
      exact (plain_of_isQuote hquote).1
    have hend : ∀ c ∈ (quote :: (literal.toList ++ [quote])).getLast?, isBlank c = false := by
      rw [← List.cons_append, List.getLast?_concat]
      rintro c ⟨⟩
      exact (plain_of_isQuote hquote).1
    have hinner : trim isQuote (quote :: (literal.toList ++ [quote])) = literal.toList :=
      trim_padded hmark hmark hliteral.first hliteral.last
    have hname' : trim isBlank (name.toList ++ gap) = name.toList :=
      trim_append hgap hname.first hname.last
    dsimp only
    split
    · rename_i rest heq
      obtain ⟨c, cs, hcons⟩ := List.exists_cons_of_ne_nil hname.ne_nil
      rw [hcons, List.cons_append, List.cons_append] at heq
      exact absurd ((List.cons.inj heq).1 ▸ hcons) (hname.head_ne cs)
    · rw [splitEquals?_append hfront]
      show Clause.equals (String.ofList (trim isBlank (name.toList ++ gap)))
        (String.ofList (trim isQuote (trim isBlank _))) = _
      rw [hname', trim_prepend hgap' hbegin hend, hinner, String.ofList_toList,
        String.ofList_toList]

theorem ne_set_empty (h : clause.Written part) : clause ≠ .set "" := by
  rintro rfl
  obtain ⟨before, body, after, -, hbody, -, -⟩ := h
  cases hbody with
  | set hname => exact hname.ne_nil rfl

end Clause.Written

/-! ## Conditions -/

variable {cs : List Clause} {parts : List (List Char)}

theorem undivided_of_written (h : List.Forall₂ Clause.Written cs parts) :
    ∀ part ∈ parts, Undivided part := by
  induction h with
  | nil => nofun
  | cons hwritten hrest ih => exact List.forall_mem_cons.mpr ⟨hwritten.undivided, ih⟩

theorem map_ofChars_of_written (h : List.Forall₂ Clause.Written cs parts) :
    parts.map Clause.ofChars = cs := by
  induction h with
  | nil => rfl
  | cons hwritten hrest ih => rw [List.map_cons, hwritten.ofChars_eq, ih]

variable {e : String}

/-- The clauses that are read are those that were written. -/
theorem clauses_of_writes (h : Writes e cs) : clauses e = cs := by
  obtain ⟨hne, parts, hparts, hjoined⟩ := h
  have hsome : parts ≠ [] := by
    rintro rfl
    exact hne (List.forall₂_nil_right_iff.mp hparts)
  unfold clauses
  rw [hjoined, splitClauses_intercalate hsome (undivided_of_written hparts),
    map_ofChars_of_written hparts]

/-- A text writes one list of clauses at most. -/
theorem Writes.unique {ds : List Clause} (h : Writes e cs) (hds : Writes e ds) : cs = ds :=
  (clauses_of_writes h).symm.trans (clauses_of_writes hds)

/-- A condition that writes clauses has text. -/
theorem Writes.ne_empty (h : Writes e cs) : e ≠ "" := by
  rintro rfl
  have hcs : cs = [.set ""] := (clauses_of_writes h).symm
  obtain ⟨-, parts, hparts, -⟩ := h
  rw [hcs] at hparts
  cases hparts with
  | cons hwritten hrest => exact hwritten.ne_set_empty rfl

/-! ## Meaning -/

/-- The flag that a clause is about. -/
def Clause.flag : Clause → String
  | .set name | .unset name | .equals name _ => name

/-- What a clause says of flags: the flag is true; it is missing or not true; it is spelled like
the literal, and if it is missing the literal is `undefined`. -/
def Clause.Means (flags : Flags) : Clause → Prop
  | .set name => ∃ value, flags.get? name = some value ∧ value.isTrue = true
  | .unset name => ∀ value, flags.get? name = some value → value.isTrue = false
  | .equals name literal =>
    (∃ value, flags.get? name = some value ∧ value.spelling = .ok literal) ∨
      flags.get? name = none ∧ literal = "undefined"

/-- The clause compares a flag that is a whole number with more digits than are written. -/
def Clause.Overlong (flags : Flags) : Clause → Prop
  | .set _ | .unset _ => False
  | .equals name _ => ∃ n, flags.get? name = some (.int n) ∧
    Json.maxDigits < Decimal.digitCount n.natAbs

/-- From the left, clauses mean so up to one that compares a number which is too long. -/
def Stuck (flags : Flags) (cs : List Clause) : Prop :=
  ∃ before clause after, cs = before ++ clause :: after ∧ (∀ c ∈ before, c.Means flags) ∧
    clause.Overlong flags

theorem spelling_eq_error_iff {value : FlagValue} (fault : FlagValue.Fault) :
    value.spelling = .error fault ↔
      ∃ n, value = .int n ∧ Json.maxDigits < Decimal.digitCount n.natAbs := by
  cases value with
  | bool b => simp [FlagValue.spelling]
  | str s => simp [FlagValue.spelling]
  | int n =>
    cases fault
    by_cases hlong : Json.maxDigits < Decimal.digitCount n.natAbs
    · simp [FlagValue.spelling, hlong]
    · simp [FlagValue.spelling, hlong]
  | float x =>
    rw [FlagValue.spelling]
    split
    · split <;> simp
    · simp

theorem holds_eq_ok_true_iff {flags : Flags} {clause : Clause} :
    clause.holds flags = .ok true ↔ clause.Means flags := by
  cases clause with
  | set name =>
    rw [Clause.holds, isSet, Clause.Means]
    cases hvalue : flags.get? name <;> simp
  | unset name =>
    rw [Clause.holds, isSet, Clause.Means]
    cases hvalue : flags.get? name <;> simp
  | equals name literal =>
    rw [Clause.holds, spellingOf, Clause.Means]
    cases hvalue : flags.get? name with
    | none => simpa [Except.map] using eq_comm
    | some value => cases hspelling : value.spelling <;> simp [Except.map, hspelling]

theorem holds_eq_error_iff {flags : Flags} {clause : Clause} (fault : FlagValue.Fault) :
    clause.holds flags = .error fault ↔ clause.Overlong flags := by
  cases clause with
  | set name | unset name => simp [Clause.holds, Clause.Overlong]
  | equals name literal =>
    rw [Clause.holds, spellingOf, Clause.Overlong]
    cases hvalue : flags.get? name with
    | none => simp [Except.map]
    | some value =>
      simp only [Option.elim_some, Option.some_inj]
      rw [← spelling_eq_error_iff fault]
      cases value.spelling <;> simp [Except.map]

/-- A clause is about its flag alone. -/
theorem holds_congr {flags others : Flags} {clause : Clause}
    (h : flags.get? clause.flag = others.get? clause.flag) :
    clause.holds flags = clause.holds others := by
  cases clause with
  | set name | unset name | equals name literal =>
    simp only [Clause.flag] at h
    simp only [Clause.holds, isSet, h]

section Evaluating

variable {flags : Flags} {clause : Clause} {cs : List Clause}

theorem allHold_cons_of_means (h : clause.Means flags) (cs : List Clause) :
    allHold flags (clause :: cs) = allHold flags cs := by
  rw [allHold, holds_eq_ok_true_iff.mpr h]
  rfl

/-- Clauses hold if and only if all of them mean so. -/
theorem allHold_eq_ok_true_iff :
    allHold flags cs = .ok true ↔ ∀ clause ∈ cs, clause.Means flags := by
  induction cs with
  | nil => exact iff_of_true rfl (List.forall_mem_nil _)
  | cons clause cs ih =>
    rw [List.forall_mem_cons, ← ih]
    constructor
    · intro h
      have hclause : clause.holds flags = .ok true := by
        rw [allHold] at h
        cases hholds : clause.holds flags with
        | error fault =>
          rw [hholds] at h
          cases h
        | ok b =>
          cases b with
          | true => rfl
          | false =>
            rw [hholds] at h
            cases h
      have hmeans := holds_eq_ok_true_iff.mp hclause
      exact ⟨hmeans, (allHold_cons_of_means hmeans cs).symm.trans h⟩
    · rintro ⟨hmeans, hrest⟩
      exact (allHold_cons_of_means hmeans cs).trans hrest

theorem stuck_cons_of_means (h : clause.Means flags) :
    Stuck flags (clause :: cs) ↔ Stuck flags cs := by
  have hclear : ¬ clause.Overlong flags := fun hlong => by
    have herror := (holds_eq_error_iff .numberTooLong).mpr hlong
    rw [holds_eq_ok_true_iff.mpr h] at herror
    cases herror
  constructor
  · rintro ⟨before, stop, after, hcs, hbefore, hlong⟩
    cases before with
    | nil =>
      obtain ⟨rfl, -⟩ := List.cons.inj hcs
      exact absurd hlong hclear
    | cons first before =>
      obtain ⟨rfl, rfl⟩ := List.cons.inj hcs
      exact ⟨before, stop, after, rfl, (List.forall_mem_cons.mp hbefore).2, hlong⟩
  · rintro ⟨before, stop, after, rfl, hbefore, hlong⟩
    exact ⟨clause :: before, stop, after, rfl, List.forall_mem_cons.mpr ⟨h, hbefore⟩, hlong⟩

/-- There is a fault if and only if a comparison is reached that has one. -/
theorem allHold_eq_error_iff {fault : FlagValue.Fault} :
    allHold flags cs = .error fault ↔ Stuck flags cs := by
  induction cs with
  | nil =>
    refine iff_of_false (fun h => by cases h) ?_
    rintro ⟨before, clause, after, hcs, -⟩
    exact absurd hcs.symm (by simp)
  | cons clause cs ih =>
    by_cases hmeans : clause.Means flags
    · rw [allHold_cons_of_means hmeans, stuck_cons_of_means hmeans, ih]
    · have hfirst : Stuck flags (clause :: cs) ↔ clause.Overlong flags := by
        constructor
        · rintro ⟨before, stop, after, hcs, hbefore, hlong⟩
          cases before with
          | nil => exact (List.cons.inj hcs).1 ▸ hlong
          | cons first before =>
            have hsame : clause = first := (List.cons.inj hcs).1
            exact absurd (hsame ▸ hbefore first List.mem_cons_self) hmeans
        · exact fun hlong => ⟨[], clause, cs, rfl, List.forall_mem_nil _, hlong⟩
      rw [hfirst, ← holds_eq_error_iff fault, allHold]
      cases hholds : clause.holds flags with
      | error other =>
        cases other
        cases fault
        exact Iff.rfl
      | ok b =>
        cases b with
        | true => exact absurd (holds_eq_ok_true_iff.mp hholds) hmeans
        | false => exact iff_of_false (fun h => by cases h) fun h => by cases h

/-- If no comparison has a fault, the truth value says whether all clauses mean so. -/
theorem allHold_eq_ok {b : Bool} (h : ¬ Stuck flags cs)
    (hb : b = true ↔ ∀ clause ∈ cs, clause.Means flags) : allHold flags cs = .ok b := by
  cases hall : allHold flags cs with
  | error fault => exact absurd (allHold_eq_error_iff.mp hall) h
  | ok a =>
    have hsame : a = true ↔ b = true := by
      rw [hb, ← allHold_eq_ok_true_iff, hall, Except.ok.injEq]
    exact congrArg _ (Bool.eq_iff_iff.mpr hsame)

theorem not_stuck (h : ∀ clause ∈ cs, ¬ clause.Overlong flags) : ¬ Stuck flags cs := by
  rintro ⟨before, clause, after, rfl, -, hlong⟩
  exact h clause (List.mem_append_right before List.mem_cons_self) hlong

/-- Clauses in another order hold as before, if no comparison among them has a fault. -/
theorem allHold_perm {ds : List Clause} (hperm : ds.Perm cs)
    (h : ∀ clause ∈ cs, ¬ clause.Overlong flags) : allHold flags ds = allHold flags cs := by
  have hds : ∀ clause ∈ ds, ¬ clause.Overlong flags := fun clause hclause =>
    h clause (hperm.mem_iff.mp hclause)
  cases hall : allHold flags cs with
  | error fault => exact absurd (allHold_eq_error_iff.mp hall) (not_stuck h)
  | ok b =>
    refine allHold_eq_ok (not_stuck hds) ?_
    have hsame : b = true ↔ allHold flags cs = .ok true := by rw [hall, Except.ok.injEq]
    rw [hsame, allHold_eq_ok_true_iff]
    exact forall_congr' fun clause => by rw [hperm.mem_iff]

theorem allHold_congr {others : Flags}
    (h : ∀ clause ∈ cs, flags.get? clause.flag = others.get? clause.flag) :
    allHold flags cs = allHold others cs := by
  induction cs with
  | nil => rfl
  | cons clause cs ih =>
    obtain ⟨hfirst, hrest⟩ := List.forall_mem_cons.mp h
    rw [allHold, allHold, holds_congr hfirst, ih hrest]

end Evaluating

theorem evaluate_eq_allHold (h : Writes e cs) (flags : Flags) :
    evaluate (some e) flags = allHold flags cs := by
  rw [evaluate_some h.ne_empty, clauses_of_writes h]

/-- A condition that writes clauses holds exactly when all of them mean so, and does not hold when
one of them does not, unless the clauses before a comparison mean so and the flag compared is a
whole number too long to be spelled: that is a fault.  Where no comparison is with such a flag,
there is a truth value, and it does not matter in which order the clauses are written.  It never
matters how they are written, nor what other flags are. -/
theorem evaluate_of_writes {e : String} {cs : List Clause} (h : Writes e cs) :
    (∀ flags,
      (evaluate (some e) flags = .ok true ↔ ∀ clause ∈ cs, clause.Means flags) ∧
      (evaluate (some e) flags = .error .numberTooLong ↔ Stuck flags cs) ∧
      ((∀ clause ∈ cs, ¬ clause.Overlong flags) →
        ∃ b, evaluate (some e) flags = .ok b ∧ (b = true ↔ ∀ clause ∈ cs, clause.Means flags))) ∧
    (∀ e' cs', Writes e' cs' → cs'.Perm cs →
      ∀ flags, (∀ clause ∈ cs, ¬ clause.Overlong flags) →
        evaluate (some e') flags = evaluate (some e) flags) ∧
    (∀ e', Writes e' cs → ∀ flags, evaluate (some e') flags = evaluate (some e) flags) ∧
    ∀ flags others : Flags,
      (∀ clause ∈ cs, flags.get? clause.flag = others.get? clause.flag) →
        evaluate (some e) flags = evaluate (some e) others := by
  have heval := evaluate_eq_allHold h
  refine ⟨fun flags => ⟨?_, ?_, fun hshort => ?_⟩, fun e' cs' h' hperm flags hshort => ?_,
    fun e' h' flags => ?_, fun flags others hflags => ?_⟩
  · rw [heval, allHold_eq_ok_true_iff]
  · rw [heval, allHold_eq_error_iff]
  · rw [heval]
    cases hall : allHold flags cs with
    | error fault => exact absurd (allHold_eq_error_iff.mp hall) (not_stuck hshort)
    | ok b =>
      refine ⟨b, rfl, ?_⟩
      rw [← allHold_eq_ok_true_iff, hall, Except.ok.injEq]
  · rw [heval, evaluate_eq_allHold h', allHold_perm hperm hshort]
  · rw [heval, evaluate_eq_allHold h']
  · rw [heval, heval, allHold_congr hflags]

/-- The flags of a save where the destination is a number with a digit too many. -/
def longFlags : Flags := Table.insert ∅ "dest" (.int (Nat.pow 10 Json.maxDigits : Nat))

/-- A condition in whose literal there are the marks that divide others.  It is a fault where the
flag that it compares is a number with a digit too many. -/
theorem evaluate_of_marks_in_literal :
    Writes " ! seen&&dest=== 'a===\"b & !c' && vip"
        [.unset "seen", .equals "dest" "a===\"b & !c", .set "vip"] ∧
      (∀ flags, evaluate (some " ! seen&&dest=== 'a===\"b & !c' && vip") flags = .ok true ↔
        ∀ clause ∈ [Clause.unset "seen", .equals "dest" "a===\"b & !c", .set "vip"],
          clause.Means flags) ∧
      evaluate (some " ! seen&&dest=== 'a===\"b & !c' && vip") longFlags =
        .error .numberTooLong := by
  have hseen : Clause.Written (.unset "seen") " ! seen".toList := by
    have hspelled := @Clause.Spelled.unset "seen" [' '] (by decide) (by decide)
    exact ⟨[' '], _, [], by decide, hspelled, by decide, by decide⟩
  have hdest : Clause.Written (.equals "dest" "a===\"b & !c")
      "dest=== 'a===\"b & !c' ".toList := by
    have hchars : "a===\"b & !c".toList =
        ['a', '=', '=', '=', '"', 'b', ' ', '&', ' ', '!', 'c'] := by decide
    have hliteral : IsLiteral "a===\"b & !c".toList := by
      rw [hchars]
      refine ⟨by decide, ?_, ?_⟩
      · rintro c ⟨⟩
        decide
      · rintro c ⟨⟩
        decide
    have hspelled := @Clause.Spelled.equals "dest" _ [] [' '] '\'' (by decide) (by decide)
      (by decide) (by decide) hliteral
    exact ⟨[], _, [' '], by decide, hspelled, by decide, by decide⟩
  have hvip : Clause.Written (.set "vip") " vip".toList :=
    ⟨[' '], _, [], by decide, .set (by decide), by decide, by decide⟩
  have hwrites : Writes " ! seen&&dest=== 'a===\"b & !c' && vip"
      [.unset "seen", .equals "dest" "a===\"b & !c", .set "vip"] :=
    ⟨List.cons_ne_nil _ _, _, .cons hseen (.cons hdest (.cons hvip .nil)), by decide⟩
  have hmeaning := (evaluate_of_writes hwrites).1
  have hstuck : Stuck longFlags [.unset "seen", .equals "dest" "a===\"b & !c", .set "vip"] := by
    refine ⟨[.unset "seen"], _, [.set "vip"], rfl, List.forall_mem_singleton.mpr nofun, _,
      Table.get?_insert_self _ _ _, ?_⟩
    rw [Int.natAbs_natCast]
    exact Decimal.lt_digitCount_pow (by decide)
  exact ⟨hwrites, fun flags => (hmeaning flags).1, (hmeaning longFlags).2.1.mpr hstuck⟩

end Storyline.Condition
