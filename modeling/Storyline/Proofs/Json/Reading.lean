import Storyline.Proofs.Json.Numbers
import Storyline.Proofs.Json.Shape

/-!
# What a text can be read as

Not every value has a text.  An object that was read names no member twice, since of two
members of one name the later value is kept, and a whole number that was read is no longer than
the limit allowed.

* `Json.Plain`: the value is of that kind;
* `Members.nodup_ofList`, `Members.mem_ofList`: members written one after another;
* `plain_of_readNumber`, `plain_of_readScalar`: what is no list and no object;
* `readsPlain`: the three readers that call each other;
* `plain_of_readChars`: a whole text.
-/

namespace Storyline

/-- What went well after something else: both went well. -/
theorem ok_of_bind {ε α β : Type} {x : Except ε α} {f : α → Except ε β} {b : β}
    (h : x >>= f = .ok b) : ∃ a, x = .ok a ∧ f a = .ok b := by
  cases x with
  | error e => cases h
  | ok a => exact ⟨a, rfl, h⟩

theorem ok_of_map {ε α β : Type} {x : Except ε α} {f : α → β} {b : β}
    (h : x.map f = .ok b) : ∃ a, x = .ok a ∧ f a = b := by
  cases x with
  | error e => cases h
  | ok a => exact ⟨a, rfl, Except.ok.inj h⟩

/-! ## Digits -/

namespace Decimal

/-- A number has no more digits than it was written with. -/
theorem digitCount_natOfDigits_le {cs : List Char} (hne : cs ≠ [])
    (hcs : ∀ c ∈ cs, isDigit c = true) : digitCount (natOfDigits cs) ≤ cs.length := by
  have hlt : ∀ (cs : List Char) (n : Nat), (∀ c ∈ cs, isDigit c = true) →
      cs.foldl (fun n c => n * 10 + (c.toNat - 0x30)) n < (n + 1) * 10 ^ cs.length := by
    intro cs
    induction cs with
    | nil => intro n _; simp
    | cons c cs ih =>
      intro n hcs
      have hrest := ih (n * 10 + (c.toNat - 0x30)) fun d hd => hcs d (List.mem_cons_of_mem c hd)
      have hc : c.toNat - 0x30 < 10 := by
        have hdigit : isDigit c = true := hcs c (List.mem_cons_self ..)
        simp only [isDigit, Char.isDigit, Bool.and_eq_true, decide_eq_true_eq] at hdigit
        have hle : c.toNat ≤ 57 := hdigit.2
        omega
      rw [List.foldl_cons, List.length_cons, Nat.pow_succ']
      calc _ < (n * 10 + (c.toNat - 0x30) + 1) * 10 ^ cs.length := hrest
        _ ≤ ((n + 1) * 10) * 10 ^ cs.length := Nat.mul_le_mul_right _ (by omega)
        _ = (n + 1) * (10 * 10 ^ cs.length) := Nat.mul_assoc ..
  have hpos : 0 < cs.length := List.length_pos_iff.mpr hne
  refine (Nat.length_toDigits_le_iff (by decide) hpos).mpr ?_
  have hbound := hlt cs 0 hcs
  rwa [Nat.zero_add, Nat.one_mul] at hbound

end Decimal

namespace Json

/-- No object in the value names a member twice, and no whole number in it is longer than the
limit allows. -/
structure Plain (limit : Option Nat) (v : Json) : Prop where
  distinct : v.Distinct
  fits : v.fits limit = true

section Members

variable {name : String} {value : Json} {ms : Members}

theorem Members.mem_insert {m : String × Json} (h : m ∈ ms.insert name value) :
    m = (name, value) ∨ m ∈ ms := by
  induction ms with
  | nil => exact Or.inl (List.mem_singleton.mp h)
  | cons n ms ih =>
    unfold insert at h
    split at h
    · rename_i hname
      rcases List.mem_cons.mp h with rfl | h
      · exact Or.inl (by rw [hname])
      · exact Or.inr (List.mem_cons_of_mem n h)
    · rcases List.mem_cons.mp h with rfl | h
      · exact Or.inr (List.mem_cons_self ..)
      · exact (ih h).imp_right (List.mem_cons_of_mem n)

theorem Members.nodup_insert (h : (ms.map Prod.fst).Nodup) :
    ((ms.insert name value).map Prod.fst).Nodup := by
  induction ms with
  | nil => exact List.nodup_cons.mpr ⟨List.not_mem_nil, List.nodup_nil⟩
  | cons m ms ih =>
    obtain ⟨hfirst, hrest⟩ := List.nodup_cons.mp h
    unfold insert
    split
    · exact h
    · rename_i hname
      refine List.nodup_cons.mpr ⟨fun hmem => ?_, ih hrest⟩
      obtain ⟨n, hn, heq⟩ := List.mem_map.mp hmem
      rcases mem_insert hn with rfl | hn
      · exact hname heq.symm
      · exact hfirst (List.mem_map.mpr ⟨n, hn, heq⟩)

/-- Members written one after another have names of their own. -/
theorem Members.nodup_ofList (ms : List (String × Json)) :
    ((Members.ofList ms).map Prod.fst).Nodup := by
  have hfold : ∀ (ms acc : Members), (acc.map Prod.fst).Nodup →
      ((ms.foldl (fun acc m => acc.insert m.1 m.2) acc).map Prod.fst).Nodup := by
    intro ms
    induction ms with
    | nil => exact fun _ hacc => hacc
    | cons m ms ih => exact fun acc hacc => ih _ (nodup_insert hacc)
  exact hfold ms [] List.nodup_nil

/-- Of members written one after another no other ones are left. -/
theorem Members.mem_ofList {ms : List (String × Json)} {m : String × Json}
    (h : m ∈ Members.ofList ms) : m ∈ ms := by
  have hfold : ∀ (ms acc : Members), m ∈ ms.foldl (fun acc m => acc.insert m.1 m.2) acc →
      m ∈ ms ∨ m ∈ acc := by
    intro ms
    induction ms with
    | nil => exact fun _ hacc => Or.inr hacc
    | cons n ms ih =>
      intro acc hacc
      rcases ih _ hacc with hrest | hinsert
      · exact Or.inl (List.mem_cons_of_mem n hrest)
      · exact (mem_insert hinsert).imp_left fun heq => List.mem_cons.mpr (Or.inl heq)
  exact (hfold ms [] h).resolve_right List.not_mem_nil

end Members

/-! ## Values that are read -/

section Reading

variable {limit : Option Nat} {width : Nat}

theorem Plain.arr {xs : List Json} (h : ∀ x ∈ xs, x.Plain limit) : (Json.arr xs).Plain limit where
  distinct := .arr fun x hx => (h x hx).distinct
  fits := by
    rw [fits_arr, List.all_eq_true]
    exact fun x hx => (h x hx).fits

theorem Plain.obj {ms : Members} (hnames : (ms.map Prod.fst).Nodup)
    (h : ∀ m ∈ ms, m.2.Plain limit) : (Json.obj ms).Plain limit where
  distinct := .obj hnames fun m hm => (h m hm).distinct
  fits := by
    rw [fits_obj, List.all_eq_true]
    exact fun m hm => (h m hm).fits

theorem Plain.names {ms : Members} (h : (Json.obj ms).Plain limit) :
    (ms.map Prod.fst).Nodup := by
  cases h.distinct
  assumption

theorem Plain.member {ms : Members} (h : (Json.obj ms).Plain limit) {m : String × Json}
    (hm : m ∈ ms) : m.2.Plain limit where
  distinct := by
    cases h.distinct with
    | obj _ hvalues => exact hvalues m hm
  fits := by
    have hall := h.fits
    rw [fits_obj, List.all_eq_true] at hall
    exact hall m hm

/-- The digits before the point are digits, and there are some. -/
theorem digits_of_readWhole {cs : List Char} {p : List Char × List Char}
    (h : readWhole cs = some p) : p.1 ≠ [] ∧ ∀ c ∈ p.1, Decimal.isDigit c = true := by
  obtain ⟨c, ds, rfl, -⟩ := head_of_readWhole h
  by_cases hc : c = '0'
  · subst hc
    rw [readWhole] at h
    rw [← Option.some_inj.mp h]
    exact ⟨List.cons_ne_nil _ _, fun d hd => by rw [List.mem_singleton.mp hd]; decide⟩
  · rw [readWhole_of_ne_zero hc] at h
    split at h
    · cases h
    · rename_i hne
      rw [← Option.some_inj.mp h]
      exact ⟨fun hnil => hne _ (Prod.ext hnil rfl), fun d hd => List.all_eq_true.mp List.all_takeWhile d hd⟩

theorem plain_of_readNumber {negative : Bool} {cs : List Char} {v : Json} {rest : List Char}
    (h : readNumber limit negative cs = .ok (v, rest)) : v.Plain limit := by
  cases hw : readWhole cs with
  | none =>
    rw [readNumber_of_no_whole hw] at h
    cases h
  | some p =>
    rw [readNumber_of_whole hw] at h
    unfold readAfterWhole numberOf at h
    split at h
    · split at h
      · cases h
      · rename_i hlimit
        obtain ⟨hne, hdigits⟩ := digits_of_readWhole hw
        have hcount := Decimal.digitCount_natOfDigits_le hne hdigits
        cases h
        refine ⟨.int _, ?_⟩
        have habs : (if negative then -(Decimal.natOfDigits p.1 : Int)
            else Decimal.natOfDigits p.1).natAbs = Decimal.natOfDigits p.1 := by
          split <;> omega
        rw [fits_int, habs]
        cases limit with
        | none => rfl
        | some n =>
          simp only [Option.any_some, decide_eq_true_eq, Bool.not_eq_true',
            decide_eq_false_iff_not] at hlimit ⊢
          omega
    · cases h
      exact ⟨.float _, rfl⟩

theorem plain_of_readScalar {cs : List Char} {v : Json} {rest : List Char}
    (h : readScalar limit width cs = .ok (v, rest)) : v.Plain limit := by
  rw [readScalar.eq_def] at h
  split at h
  case h_1 =>
    obtain ⟨p, -, hp⟩ := ok_of_map h
    cases hp
    exact ⟨.str _, rfl⟩
  case h_8 => exact plain_of_readNumber h
  case h_9 => exact plain_of_readNumber h
  case h_2 => cases h; exact ⟨.null, rfl⟩
  case h_3 => cases h; exact ⟨.bool _, rfl⟩
  case h_4 => cases h; exact ⟨.bool _, rfl⟩
  all_goals cases h; exact ⟨.float _, rfl⟩

/-- With so much fuel whatever is read of a value, of items and of members is plain. -/
structure ReadsPlain (limit : Option Nat) (width fuel : Nat) : Prop where
  value : ∀ {cs v rest}, readValue limit width fuel cs = .ok (v, rest) → v.Plain limit
  items : ∀ {cs xs rest}, readItems limit width fuel cs = .ok (xs, rest) → ∀ x ∈ xs, x.Plain limit
  members : ∀ {cs ms rest}, readMembers limit width fuel cs = .ok (ms, rest) →
    ∀ m ∈ ms, m.2.Plain limit

theorem readsPlain_zero : ReadsPlain limit width 0 where
  value h := by
    rw [readValue] at h
    cases h
  items h := by
    rw [readItems] at h
    cases h
  members h := by
    rw [readMembers] at h
    cases h

section Step

variable {fuel : Nat} (ih : ReadsPlain limit width fuel) {cs rest : List Char}

include ih

theorem plain_of_readValue {v : Json} (h : readValue limit width (fuel + 1) cs = .ok (v, rest)) :
    v.Plain limit := by
  rw [readValue.eq_def] at h
  dsimp only at h
  split at h
  · split at h
    · cases h
      exact .arr nofun
    · obtain ⟨p, hp, heq⟩ := ok_of_map h
      cases heq
      exact .arr (ih.items hp)
  · split at h
    · cases h
      exact .obj List.nodup_nil nofun
    · obtain ⟨p, hp, heq⟩ := ok_of_map h
      cases heq
      exact .obj (Members.nodup_ofList _) fun m hm => ih.members hp m (Members.mem_ofList hm)
  · exact plain_of_readScalar h

theorem plain_of_readItems {xs : List Json}
    (h : readItems limit width (fuel + 1) cs = .ok (xs, rest)) : ∀ x ∈ xs, x.Plain limit := by
  rw [readItems] at h
  obtain ⟨⟨first, after⟩, hfirst, h⟩ := ok_of_bind h
  have hplain := ih.value hfirst
  dsimp only at h
  split at h
  · obtain ⟨⟨more, left⟩, hmore, h⟩ := ok_of_bind h
    cases h
    exact List.forall_mem_cons.mpr ⟨hplain, ih.items hmore⟩
  · cases h
    exact List.forall_mem_singleton.mpr hplain
  · cases h

theorem plain_of_readMembers {ms : Members}
    (h : readMembers limit width (fuel + 1) cs = .ok (ms, rest)) : ∀ m ∈ ms, m.2.Plain limit := by
  rw [readMembers.eq_def] at h
  dsimp only at h
  split at h
  · obtain ⟨⟨name, afterName⟩, -, h⟩ := ok_of_bind h
    dsimp only at h
    split at h
    · obtain ⟨⟨first, after⟩, hfirst, h⟩ := ok_of_bind h
      have hplain := ih.value hfirst
      dsimp only at h
      split at h
      · obtain ⟨⟨more, left⟩, hmore, h⟩ := ok_of_bind h
        cases h
        exact List.forall_mem_cons.mpr ⟨hplain, ih.members hmore⟩
      · cases h
        exact List.forall_mem_singleton.mpr hplain
      · cases h
    · cases h
  · cases h

end Step

theorem readsPlain (fuel : Nat) : ReadsPlain limit width fuel := by
  induction fuel with
  | zero => exact readsPlain_zero
  | succ fuel ih =>
    exact ⟨plain_of_readValue ih, plain_of_readItems ih, plain_of_readMembers ih⟩

/-- What is read of a whole text is plain. -/
theorem plain_of_readChars {cs : List Char} {v : Json} (h : readChars limit cs = .ok v) :
    v.Plain limit := by
  obtain ⟨⟨w, rest⟩, hw, h⟩ := ok_of_bind h
  dsimp only at h
  split at h
  · cases h
    exact (readsPlain _).value hw
  · cases h

end Reading

end Json

end Storyline
