import Mathlib.Data.List.Forall2
import Storyline.Schema.Scalars

/-!
# Fields that are read

What a field, a list or a record must have been for its reading to be good, and the
readings of fields that were written.

* `Checked.exists_seq_eq_good`, `Checked.exists_map_eq_good`: the fields of a record that is
  good, one after the other;
* `required_eq_good`, `withDefault_eq_good`: a field that is good;
* `list_eq_good`: a list whose items are all good;
* `list_map`: a list that was written item by item;
* `tagged_eq_good`: a record told apart by its tag.
-/

namespace Storyline.Schema

namespace Checked

variable {α β : Type}

theorem eq_good_iff {x : Checked α} {a : α} : x = .good a ↔ ∃ b, x = .good b ∧ b = a := by
  constructor
  · intro h
    exact ⟨a, h, rfl⟩
  · rintro ⟨b, h, rfl⟩
    exact h

/-- The last field of a record that is good, before the fields that stand in front of it. -/
theorem exists_seq_eq_good {f : Checked (α → β)} {x : Checked α} {p : β → Prop} :
    (∃ b, f <*> x = .good b ∧ p b) ↔ ∃ a, x = .good a ∧ ∃ g, f = .good g ∧ p (g a) := by
  constructor
  · rintro ⟨b, h, hb⟩
    obtain ⟨g, a, hg, ha, rfl⟩ := seq_eq_good.mp h
    exact ⟨a, ha, g, hg, hb⟩
  · rintro ⟨a, ha, g, hg, hb⟩
    exact ⟨g a, seq_eq_good.mpr ⟨g, a, hg, ha, rfl⟩, hb⟩

/-- The first field of a record that is good. -/
theorem exists_map_eq_good {f : α → β} {x : Checked α} {p : β → Prop} :
    (∃ b, f <$> x = .good b ∧ p b) ↔ ∃ a, x = .good a ∧ p (f a) := by
  constructor
  · rintro ⟨b, h, hb⟩
    obtain ⟨a, ha, rfl⟩ := map_eq_good.mp h
    exact ⟨a, ha, hb⟩
  · rintro ⟨a, ha, hb⟩
    exact ⟨f a, map_eq_good.mpr ⟨a, ha, rfl⟩, hb⟩

end Checked

variable {α : Type} {read : Reader α} {name : String} {ms : Json.Members} {v : Json} {a : α}

/-- A good value that went on with good ones was good itself. -/
theorem andThen_eq_good {β : Type} {x : Checked α} {f : α → Checked β} {b : β}
    (h : x.andThen f = .good b) : ∃ a, x = .good a ∧ f a = .good b := by
  cases x with
  | good a => exact ⟨a, rfl, h⟩
  | bad issues => cases h

theorem required_of_get? (h : ms.get? name = some v) (hv : read v = .good a) :
    required name read ms = .good a := by
  rw [required, h]
  dsimp only
  rw [hv, Checked.inMember_good]

/-- A field that has to be there is good if it is there and good. -/
theorem required_eq_good :
    required name read ms = .good a ↔ ∃ v, ms.get? name = some v ∧ read v = .good a := by
  constructor
  · intro h
    unfold required at h
    split at h
    · rename_i v hv
      exact ⟨v, hv, Checked.under_eq_good.mp h⟩
    · cases h
  · rintro ⟨v, hv, ha⟩
    exact required_of_get? hv ha

/-- A field with a default is good if it is good or not there. -/
theorem withDefault_eq_good {default : α} (h : withDefault name default read ms = .good a) :
    a = default ∨ ∃ v, ms.get? name = some v ∧ read v = .good a := by
  unfold withDefault at h
  split at h
  · rename_i v hv
    exact Or.inr ⟨v, hv, Checked.under_eq_good.mp h⟩
  · exact Or.inl (Checked.good.inj h).symm

/-- A field that is there is read, whatever its default. -/
theorem read_of_withDefault {default : α} (hget : ms.get? name = some v)
    (h : withDefault name default read ms = .good a) : read v = .good a := by
  rw [withDefault, hget] at h
  exact Checked.under_eq_good.mp h

/-- A value that may be null is good if it is null or good. -/
theorem nullable_eq_good {o : Option α} (h : nullable read v = .good o) :
    o = none ∨ ∃ a, o = some a ∧ read v = .good a := by
  unfold nullable at h
  split at h
  · exact Or.inl (Checked.good.inj h).symm
  · obtain ⟨a, ha, rfl⟩ := Checked.map_eq_good.mp h
    exact Or.inr ⟨a, rfl, ha⟩

theorem ofRecord_eq_good {readMembers : Json.Members → Checked α}
    (h : ofRecord readMembers v = .good a) : ∃ ms, v = .obj ms ∧ readMembers ms = .good a := by
  unfold ofRecord at h
  split at h
  · exact ⟨_, rfl, h⟩
  · cases h

/-- Items are good if each of them is. -/
theorem itemsFrom_eq_good {index : Nat} {xs : List Json} {as : List α}
    (h : itemsFrom read index xs = .good as) :
    List.Forall₂ (fun x a => read x = .good a) xs as := by
  induction xs generalizing index as with
  | nil =>
    cases h
    exact List.Forall₂.nil
  | cons x xs ih =>
    obtain ⟨g, tail, hg, htail, rfl⟩ := Checked.seq_eq_good.mp h
    obtain ⟨a, ha, rfl⟩ := Checked.map_eq_good.mp hg
    exact List.Forall₂.cons (Checked.under_eq_good.mp ha) (ih htail)

/-- A list is good if each of its items is. -/
theorem list_eq_good {as : List α} (h : list read v = .good as) :
    ∃ xs, v = .arr xs ∧ List.Forall₂ (fun x a => read x = .good a) xs as := by
  unfold list at h
  split at h
  · exact ⟨_, rfl, itemsFrom_eq_good h⟩
  · cases h

theorem exists_of_mem_right {β γ : Type} {R : β → γ → Prop} {bs : List β} {cs : List γ}
    (h : List.Forall₂ R bs cs) {c : γ} (hc : c ∈ cs) : ∃ b ∈ bs, R b c := by
  induction h with
  | nil => cases hc
  | cons hfirst _ ih =>
    rcases List.mem_cons.mp hc with rfl | hc
    · exact ⟨_, List.mem_cons_self .., hfirst⟩
    · obtain ⟨b, hb, hR⟩ := ih hc
      exact ⟨b, List.mem_cons_of_mem _ hb, hR⟩

/-- What is in a good list was read from one of the items. -/
theorem exists_item_of_mem {xs : List Json} {as : List α} (h : list read (.arr xs) = .good as)
    (ha : a ∈ as) : ∃ x ∈ xs, read x = .good a :=
  exists_of_mem_right (itemsFrom_eq_good h) ha

/-- What was read from an item of a good list. -/
theorem exists_read_of_mem {as : List α} (h : list read v = .good as) (ha : a ∈ as) :
    ∃ x, read x = .good a := by
  obtain ⟨xs, rfl, -⟩ := list_eq_good h
  obtain ⟨x, -, hread⟩ := exists_item_of_mem h ha
  exact ⟨x, hread⟩

/-- Each item of a good list was good. -/
theorem exists_good_of_mem {xs : List Json} {as : List α} (h : list read (.arr xs) = .good as)
    {x : Json} (hx : x ∈ xs) : ∃ a, read x = .good a := by
  have hflip : List.Forall₂ (fun a x => read x = .good a) as xs :=
    List.Forall₂.flip (itemsFrom_eq_good h)
  obtain ⟨a, -, hread⟩ := exists_of_mem_right hflip hx
  exact ⟨a, hread⟩

/-- A list that was written item by item is read item by item. -/
theorem list_map {write : α → Json} {as : List α} (h : ∀ a ∈ as, read (write a) = .good a) :
    list read (.arr (as.map write)) = .good as := by
  have hfrom : ∀ (index : Nat) (as : List α), (∀ a ∈ as, read (write a) = .good a) →
      itemsFrom read index (as.map write) = .good as := by
    intro index as
    induction as generalizing index with
    | nil => intro _; rfl
    | cons a as ih =>
      intro h
      rw [List.map_cons, itemsFrom, h a (List.mem_cons_self ..),
        ih _ fun b hb => h b (List.mem_cons_of_mem a hb)]
      rfl
  exact hfrom 0 as h

/-- A record told apart by its tag is good if its kind is known and the rest is good. -/
theorem tagged_eq_good {read? : String → Option (Json.Members → Checked α)}
    (h : tagged read? v = .good a) :
    ∃ ms tag readMembers, v = .obj ms ∧ Json.Members.get? "type" ms = some (.str tag) ∧
      read? tag = some readMembers ∧ readMembers ms = .good a := by
  unfold tagged at h
  split at h
  · rename_i ms
    split at h
    · cases h
    · rename_i tag htag
      split at h
      · rename_i readMembers hread
        exact ⟨ms, tag, readMembers, rfl, htag, hread, Checked.under_eq_good.mp h⟩
      · cases h
    · cases h
  · cases h

theorem tagged_of_get? {read? : String → Option (Json.Members → Checked α)} {tag : String}
    {readMembers : Json.Members → Checked α} (htag : ms.get? "type" = some (.str tag))
    (hread : read? tag = some readMembers) (h : readMembers ms = .good a) :
    tagged read? (.obj ms) = .good a := by
  unfold tagged
  dsimp only
  rw [htag]
  dsimp only
  rw [hread]
  dsimp only
  rw [h, Checked.inMember_good]

@[simp] theorem nullable_ofOption (o : Option String) :
    nullable string (.ofOption o) = .good o := by
  cases o <;> rfl

@[simp] theorem list_texts (ss : List String) : list string (.texts ss) = .good ss :=
  list_map fun _ _ => rfl

end Storyline.Schema
