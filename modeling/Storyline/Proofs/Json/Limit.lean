import Storyline.Proofs.Json.Reading

/-!
# The limit on digits

A text is read under a limit as it is read without one, unless a whole number in it is too long.

* `Relaxes`: a reading under a limit against the same without one;
* `relaxes_readNumber`, `relaxes_readScalar`: what is no list and no object;
* `readsRelaxed`: the three readers that call each other;
* `readChars_eq_tooLong_iff`: a whole text.
-/

namespace Storyline.Json

/-- A reading under a limit against the same without one: they agree, or the limit was exceeded.
Without a limit there is nothing to exceed. -/
structure Relaxes {α : Type} (limited free : Except Fault α) : Prop where
  agree : limited = free ∨ limited = .error .numberTooLong
  never : free ≠ .error .numberTooLong

namespace Relaxes

variable {α β : Type} {limited free : Except Fault α}

theorem refl (h : free ≠ .error .numberTooLong) : Relaxes free free := ⟨.inl rfl, h⟩

theorem ok (a : α) : Relaxes (.ok a) (.ok a) := refl nofun

theorem malformed : Relaxes (.error .malformed : Except Fault α) (.error .malformed) := refl nofun

theorem bind (h : Relaxes limited free) {f g : α → Except Fault β}
    (hnext : ∀ a, Relaxes (f a) (g a)) : Relaxes (limited >>= f) (free >>= g) := by
  obtain ⟨rfl | rfl, hnever⟩ := h
  · cases limited with
    | ok a => exact hnext a
    | error e => exact refl fun he => hnever (congrArg _ (Except.error.inj he))
  · cases free with
    | ok a => exact ⟨.inr rfl, (hnext a).never⟩
    | error e => exact ⟨.inr rfl, fun he => hnever (congrArg _ (Except.error.inj he))⟩

theorem map (h : Relaxes limited free) (f : α → β) : Relaxes (limited.map f) (free.map f) := by
  obtain ⟨rfl | rfl, hnever⟩ := h
  · cases limited with
    | ok a => exact ok _
    | error e => exact refl fun he => hnever (congrArg _ (Except.error.inj he))
  · cases free with
    | ok a => exact ⟨.inr rfl, nofun⟩
    | error e => exact ⟨.inr rfl, fun he => hnever (congrArg _ (Except.error.inj he))⟩

end Relaxes

theorem readUnits_ne_tooLong (cs : List Char) : readUnits cs ≠ .error .numberTooLong := by
  have hmap : ∀ {r : Reading (List Nat)} (f : List Nat × List Char → List Nat × List Char),
      r ≠ .error .numberTooLong → r.map f ≠ .error .numberTooLong :=
    fun f h => ((Relaxes.refl h).map f).never
  fun_induction readUnits cs with
  | case1 => exact nofun
  | case2 => exact nofun
  | case3 _ _ _ _ _ _ _ ih => exact hmap _ ih
  | case4 => exact nofun
  | case5 _ _ _ _ _ ih => exact hmap _ ih
  | case6 => exact nofun
  | case7 => exact nofun
  | case8 _ _ _ _ _ _ ih => exact hmap _ ih

theorem relaxes_readString (width : Nat) (cs : List Char) :
    Relaxes (readString width cs) (readString width cs) :=
  (Relaxes.refl (readUnits_ne_tooLong cs)).map _

section Limit

variable (limit : Option Nat) (width : Nat)

theorem relaxes_readNumber (negative : Bool) (cs : List Char) :
    Relaxes (readNumber limit negative cs) (readNumber none negative cs) := by
  cases hw : readWhole cs with
  | none =>
    rw [readNumber_of_no_whole hw, readNumber_of_no_whole hw]
    exact .malformed
  | some p =>
    rw [readNumber_of_whole hw, readNumber_of_whole hw]
    unfold readAfterWhole numberOf
    split
    · rw [Option.any_none, if_neg Bool.false_ne_true]
      split
      · exact ⟨.inr rfl, nofun⟩
      · exact .ok _
    · exact .ok _

theorem relaxes_readScalar (cs : List Char) :
    Relaxes (readScalar limit width cs) (readScalar none width cs) := by
  rw [readScalar.eq_def, readScalar.eq_def]
  split
  case h_1 => exact (relaxes_readString width _).map _
  case h_8 => exact relaxes_readNumber limit true _
  case h_9 => exact relaxes_readNumber limit false _
  all_goals exact .ok _

/-- With so much fuel the limit bears on nothing but whole numbers. -/
structure ReadsRelaxed (fuel : Nat) : Prop where
  value : ∀ cs, Relaxes (readValue limit width fuel cs) (readValue none width fuel cs)
  items : ∀ cs, Relaxes (readItems limit width fuel cs) (readItems none width fuel cs)
  members : ∀ cs, Relaxes (readMembers limit width fuel cs) (readMembers none width fuel cs)

variable {limit width} {fuel : Nat}

theorem relaxes_readValue (ih : ReadsRelaxed limit width fuel) (cs : List Char) :
    Relaxes (readValue limit width (fuel + 1) cs) (readValue none width (fuel + 1) cs) := by
  rw [readValue.eq_def, readValue.eq_def]
  dsimp only
  split
  · split
    · exact .ok _
    · exact (ih.items _).map _
  · split
    · exact .ok _
    · exact (ih.members _).map _
  · exact relaxes_readScalar limit width _

theorem relaxes_readItems (ih : ReadsRelaxed limit width fuel) (cs : List Char) :
    Relaxes (readItems limit width (fuel + 1) cs) (readItems none width (fuel + 1) cs) := by
  rw [readItems, readItems]
  refine (ih.value cs).bind fun first => ?_
  dsimp only
  split
  · exact (ih.items _).bind fun more => .ok _
  · exact .ok _
  · exact .malformed

theorem relaxes_readMembers (ih : ReadsRelaxed limit width fuel) (cs : List Char) :
    Relaxes (readMembers limit width (fuel + 1) cs) (readMembers none width (fuel + 1) cs) := by
  rw [readMembers.eq_def, readMembers.eq_def]
  dsimp only
  split
  · refine (relaxes_readString width _).bind fun name => ?_
    split
    · refine (ih.value _).bind fun first => ?_
      split
      · exact (ih.members _).bind fun more => .ok _
      · exact .ok _
      · exact .malformed
    · exact .malformed
  · exact .malformed

theorem readsRelaxed (fuel : Nat) : ReadsRelaxed limit width fuel := by
  induction fuel with
  | zero =>
    refine ⟨fun cs => ?_, fun cs => ?_, fun cs => ?_⟩
    · rw [readValue, readValue]
      exact .malformed
    · rw [readItems, readItems]
      exact .malformed
    · rw [readMembers, readMembers]
      exact .malformed
  | succ fuel ih => exact ⟨relaxes_readValue ih, relaxes_readItems ih, relaxes_readMembers ih⟩

theorem relaxes_readChars (cs : List Char) : Relaxes (readChars limit cs) (readChars none cs) := by
  refine ((readsRelaxed _).value _).bind fun read => ?_
  dsimp only
  split
  · exact .ok _
  · exact .malformed

/-- A number is too long exactly if the limit bears on the text. -/
theorem readChars_eq_tooLong_iff {cs : List Char} :
    readChars limit cs = .error .numberTooLong ↔ readChars limit cs ≠ readChars none cs := by
  have hrelaxes : Relaxes (readChars limit cs) (readChars none cs) := relaxes_readChars cs
  exact ⟨fun h heq => hrelaxes.never (heq ▸ h), hrelaxes.agree.resolve_left⟩

end Limit

end Storyline.Json
