import Storyline.Proofs.Json.Shape
import Storyline.Proofs.Save.Wholes

/-!
# Names respelt and spelt back

The old layout of a save writes its names in camel case, and bringing it up to date writes them
with low lines again.  A name made of words of two or more small letters comes back as it was: each
capital stands after a small letter, so that the low line is put where it had been.  A word of one
letter would lose its line, since the next capital would follow a capital.

* `Migration.camelCase`, `Migration.Worded`: the old spelling, and the names that it keeps;
* `Migration.snakeCase_camelCase`: such a name comes back;
* `Json.rename`, `Json.Named`: a value with its names respelt, and what holds of its names;
* `Migration.snakeNames_rename`: a value whose objects name no member twice comes back.
-/

namespace Storyline

/-! ## One name -/

namespace Migration

/-- The word with its first letter capital. -/
def capitalised : List Char → List Char
  | [] => []
  | c :: cs => c.toUpper :: cs

/-- Words run together, where each but the first begins with a capital. -/
def joinWords : List (List Char) → List Char
  | [] => []
  | w :: ws => w ++ ws.flatMap capitalised

/-- The old spelling of a name: its words run together. -/
def camelCase (name : String) : String := String.ofList (joinWords (name.toList.splitOn '_'))

/-- Two or more small letters of ASCII. -/
def isWord (w : List Char) : Bool := decide (2 ≤ w.length) && w.all Char.isLower

/-- The name is made of words with low lines between them. -/
def Worded (name : String) : Prop := ∀ w ∈ name.toList.splitOn '_', isWord w = true

instance (name : String) : Decidable (Worded name) :=
  inferInstanceAs (Decidable (∀ w ∈ name.toList.splitOn '_', isWord w = true))

theorem toNat_lt_of_isLower {c : Char} (h : c.isLower = true) : c.toNat < 128 := by
  obtain ⟨-, hle⟩ := (Bool.and_eq_true ..).mp h
  have hle : c.toNat ≤ 'z'.toNat := of_decide_eq_true hle
  exact Nat.lt_of_le_of_lt hle (by decide)

/-- What a small letter of ASCII is beside its capital. -/
structure IsLetter (c : Char) : Prop where
  ascii : c.toNat < 128
  small : c.isUpper = false
  kept : c.toLower = c
  capital : c.toUpper.isUpper = true
  lowered : c.toUpper.toLower = c
  capitalAscii : c.toUpper.toNat < 128

theorem isLetter_of_isLower {c : Char} (h : c.isLower = true) : IsLetter c := by
  have hall : ∀ n < 128, (Char.ofNat n).isLower = true →
      (Char.ofNat n).isUpper = false ∧ (Char.ofNat n).toLower = Char.ofNat n ∧
        (Char.ofNat n).toUpper.isUpper = true ∧ (Char.ofNat n).toUpper.toLower = Char.ofNat n ∧
        (Char.ofNat n).toUpper.toNat < 128 := by
    decide
  have hascii := toNat_lt_of_isLower h
  have hletter := hall c.toNat hascii
  rw [Char.ofNat_toNat] at hletter
  obtain ⟨hsmall, hkept, hcapital, hlowered, hcapitalAscii⟩ := hletter h
  exact ⟨hascii, hsmall, hkept, hcapital, hlowered, hcapitalAscii⟩

/-- Small letters after anything are left alone, and leave a small letter behind. -/
theorem markWords_append {cs : List Char} (hcs : cs.all Char.isLower = true) {b : Char}
    (hb : b.isLower = true) (rest : List Char) :
    ∃ e : Char, e.isLower = true ∧
      markWords (some b) (cs ++ rest) = cs ++ markWords (some e) rest := by
  induction cs generalizing b with
  | nil => exact ⟨b, hb, rfl⟩
  | cons c cs ih =>
    rw [List.all_cons, Bool.and_eq_true] at hcs
    obtain ⟨e, he, hmark⟩ := ih hcs.2 hcs.1
    refine ⟨e, he, ?_⟩
    rw [List.cons_append, markWords, (isLetter_of_isLower hcs.1).small, Bool.false_and,
      if_neg Bool.false_ne_true, hmark, List.cons_append]

/-- A capital after a small letter has a low line put before it, and the rest of its word is left
alone. -/
theorem markWords_capitalised {w : List Char} (hw : isWord w = true) {b : Char}
    (hb : b.isLower = true) (rest : List Char) :
    ∃ e : Char, e.isLower = true ∧
      markWords (some b) (capitalised w ++ rest) = '_' :: capitalised w ++ markWords (some e) rest := by
  obtain ⟨hlength, hall⟩ := (Bool.and_eq_true ..).mp hw
  match w with
  | [] | [_] => simp at hlength
  | c :: d :: cs =>
    simp only [List.all_cons, Bool.and_eq_true] at hall
    obtain ⟨hc, hd, hcs⟩ := hall
    obtain ⟨e, he, hmark⟩ := markWords_append hcs hd rest
    refine ⟨e, he, ?_⟩
    have hends : (some b).any endsWord = true := by
      rw [Option.any_some, endsWord, hb, Bool.true_or]
    simp only [capitalised, List.cons_append]
    rw [markWords, (isLetter_of_isLower hc).capital, hends, Bool.and_self, if_pos rfl, markWords,
      (isLetter_of_isLower hd).small, Bool.false_and, if_neg Bool.false_ne_true, hmark]

/-- Every word but the first gets its low line back. -/
theorem markWords_flatMap {ws : List (List Char)} (hws : ∀ w ∈ ws, isWord w = true) {b : Char}
    (hb : b.isLower = true) :
    markWords (some b) (ws.flatMap capitalised) = ws.flatMap fun w => '_' :: capitalised w := by
  induction ws generalizing b with
  | nil => rfl
  | cons w ws ih =>
    obtain ⟨hw, hrest⟩ := List.forall_mem_cons.mp hws
    obtain ⟨e, he, hmark⟩ := markWords_capitalised hw hb (ws.flatMap capitalised)
    rw [List.flatMap_cons, hmark, ih hrest he, List.flatMap_cons]

theorem markWords_joinWords {w : List Char} {ws : List (List Char)}
    (hall : ∀ v ∈ w :: ws, isWord v = true) :
    markWords none (joinWords (w :: ws)) = w ++ ws.flatMap fun v => '_' :: capitalised v := by
  obtain ⟨hw, hws⟩ := List.forall_mem_cons.mp hall
  obtain ⟨hlength, hsmall⟩ := (Bool.and_eq_true ..).mp hw
  match w with
  | [] => simp at hlength
  | c :: cs =>
    rw [List.all_cons, Bool.and_eq_true] at hsmall
    obtain ⟨e, he, hmark⟩ := markWords_append hsmall.2 hsmall.1 (ws.flatMap capitalised)
    rw [joinWords, List.cons_append, markWords, (isLetter_of_isLower hsmall.1).small,
      Bool.false_and, if_neg Bool.false_ne_true, hmark, markWords_flatMap hws he, List.cons_append]

/-- In ASCII every letter is lowered by itself. -/
theorem lowerFrom_of_ascii {cs : List Char} (hcs : ∀ c ∈ cs, c.toNat < 128) (before : List Char) :
    Text.lowerFrom before cs = cs.map Char.toLower := by
  induction cs generalizing before with
  | nil => rfl
  | cons c cs ih =>
    obtain ⟨hc, hrest⟩ := List.forall_mem_cons.mp hcs
    have hsigma : c ≠ 'Σ' := by
      rintro rfl
      exact absurd hc (by decide)
    rw [Text.lowerFrom_cons hsigma, Text.lowerChar_of_ascii hc, ih hrest, List.map_cons,
      List.singleton_append]

theorem forall_isLower {w : List Char} (hw : isWord w = true) : ∀ c ∈ w, c.isLower = true :=
  List.all_eq_true.mp ((Bool.and_eq_true ..).mp hw).2

theorem map_toLower_eq_self {cs : List Char} (h : ∀ c ∈ cs, c.isLower = true) :
    cs.map Char.toLower = cs :=
  (List.map_congr_left fun c hc => (isLetter_of_isLower (h c hc)).kept).trans (List.map_id cs)

theorem map_toLower_capitalised {w : List Char} (h : ∀ c ∈ w, c.isLower = true) :
    (capitalised w).map Char.toLower = w := by
  cases w with
  | nil => rfl
  | cons c cs =>
    obtain ⟨hc, hcs⟩ := List.forall_mem_cons.mp h
    rw [capitalised, List.map_cons, (isLetter_of_isLower hc).lowered, map_toLower_eq_self hcs]

theorem ascii_capitalised {w : List Char} (h : ∀ c ∈ w, c.isLower = true) :
    ∀ c ∈ capitalised w, c.toNat < 128 := by
  cases w with
  | nil => exact nofun
  | cons c cs =>
    obtain ⟨hc, hcs⟩ := List.forall_mem_cons.mp h
    exact List.forall_mem_cons.mpr
      ⟨(isLetter_of_isLower hc).capitalAscii, fun d hd => (isLetter_of_isLower (hcs d hd)).ascii⟩

theorem intercalate_cons (c : Char) (w : List Char) (ws : List (List Char)) :
    [c].intercalate (w :: ws) = w ++ ws.flatMap (c :: ·) := by
  induction ws generalizing w with
  | nil => simp [List.intercalate]
  | cons v vs ih =>
    have hnext := ih v
    simp only [List.intercalate, List.intersperse_cons_cons, List.flatten_cons] at hnext ⊢
    rw [hnext, List.flatMap_cons]
    rfl

/-- A name of words comes back from its old spelling. -/
theorem snakeCase_camelCase {name : String} (h : Worded name) :
    snakeCase (camelCase name) = name := by
  obtain ⟨w, ws, hsplit⟩ := List.exists_cons_of_ne_nil (List.splitOn_ne_nil '_' name.toList)
  rw [Worded, hsplit] at h
  obtain ⟨hw, hws⟩ := List.forall_mem_cons.mp h
  have hascii : ∀ c ∈ w ++ ws.flatMap fun v => '_' :: capitalised v, c.toNat < 128 := by
    intro c hc
    rcases List.mem_append.mp hc with hc | hc
    · exact (isLetter_of_isLower (forall_isLower hw c hc)).ascii
    · obtain ⟨v, hv, hc⟩ := List.mem_flatMap.mp hc
      rcases List.mem_cons.mp hc with rfl | hc
      · decide
      · exact ascii_capitalised (forall_isLower (hws v hv)) c hc
  have hlower : (ws.flatMap fun v => '_' :: capitalised v).map Char.toLower =
      ws.flatMap ('_' :: ·) := by
    rw [List.map_flatMap]
    refine List.flatMap_congr fun v hv => ?_
    rw [List.map_cons, map_toLower_capitalised (forall_isLower (hws v hv))]
    rfl
  have hname : w ++ ws.flatMap ('_' :: ·) = name.toList := by
    rw [← intercalate_cons, ← hsplit, List.intercalate_splitOn]
  rw [snakeCase, camelCase, hsplit, String.toList_ofList, markWords_joinWords h, Text.lower,
    String.toList_ofList, lowerFrom_of_ascii hascii, List.map_append,
    map_toLower_eq_self (forall_isLower hw), hlower, hname, String.ofList_toList]

end Migration

/-! ## All names of a value -/

namespace Json

mutual

/-- A value with every name inside it respelt. -/
def rename (f : String → String) : Json → Json
  | .arr xs => .arr (renameItems f xs)
  | .obj ms => .obj (renameMembers f ms)
  | v => v

/-- The items with every name inside them respelt. -/
def renameItems (f : String → String) : List Json → List Json
  | [] => []
  | x :: xs => rename f x :: renameItems f xs

/-- The members with their names and every name inside them respelt. -/
def renameMembers (f : String → String) : List (String × Json) → List (String × Json)
  | [] => []
  | (k, v) :: ms => (f k, rename f v) :: renameMembers f ms

end

theorem rename_arr (f : String → String) (xs : List Json) :
    (Json.arr xs).rename f = .arr (xs.map (rename f)) := by
  rw [rename]
  congr 1
  induction xs with
  | nil => rfl
  | cons x xs ih => rw [renameItems, ih, List.map_cons]

theorem renameMembers_eq_map (f : String → String) (ms : Members) :
    renameMembers f ms = ms.map fun m => (f m.1, m.2.rename f) := by
  induction ms with
  | nil => rfl
  | cons m ms ih => rw [renameMembers, ih, List.map_cons]

/-- Every name in the value is of a kind. -/
inductive Named (P : String → Prop) : Json → Prop
  | null : Named P .null
  | bool (b : Bool) : Named P (.bool b)
  | int (n : Int) : Named P (.int n)
  | float (x : Float) : Named P (.float x)
  | str (s : String) : Named P (.str s)
  | arr {xs : List Json} (items : ∀ x ∈ xs, Named P x) : Named P (.arr xs)
  | obj {ms : Members} (names : ∀ m ∈ ms, P m.1) (values : ∀ m ∈ ms, Named P m.2) :
    Named P (.obj ms)

theorem Named.mono {P Q : String → Prop} (h : ∀ name, P name → Q name) {v : Json}
    (hv : v.Named P) : v.Named Q := by
  induction hv with
  | null => exact .null
  | bool b => exact .bool b
  | int n => exact .int n
  | float x => exact .float x
  | str s => exact .str s
  | arr _ ih => exact .arr ih
  | obj names _ ih => exact .obj (fun m hm => h m.1 (names m hm)) ih

theorem named_map {α : Type} {P : String → Prop} {write : α → Json} {as : List α}
    (h : ∀ a ∈ as, (write a).Named P) : (Json.arr (as.map write)).Named P := by
  refine .arr fun x hx => ?_
  obtain ⟨a, ha, rfl⟩ := List.mem_map.mp hx
  exact h a ha

end Json

namespace Migration

/-- A value whose names are made of words comes back from its old spelling, if no object in it
names a member twice. -/
theorem snakeNames_rename {v : Json} (hnamed : v.Named Worded) (hdistinct : v.Distinct) :
    snakeNames (v.rename camelCase) = v := by
  induction hnamed with
  | null | bool | int | float | str => rfl
  | @arr xs _ ih =>
    cases hdistinct with
    | arr hitems =>
      rw [Json.rename_arr, snakeNames, snakeItems_eq_map, List.map_map]
      congr 1
      exact (List.map_congr_left fun x hx => ih x hx (hitems x hx)).trans (List.map_id xs)
  | @obj ms hnames _ ih =>
    cases hdistinct with
    | obj hnodup hvalues =>
      have hback : (ms.map fun m => (camelCase m.1, m.2.rename camelCase)).map
          (fun m => (snakeCase m.1, snakeNames m.2)) = ms := by
        rw [List.map_map]
        refine (List.map_congr_left fun m hm => ?_).trans (List.map_id ms)
        exact Prod.ext (snakeCase_camelCase (hnames m hm)) (ih m hm (hvalues m hm))
      rw [Json.rename, Json.renameMembers_eq_map, snakeNames, snakeMembers_eq_map, hback,
        Json.Members.ofList_of_nodup hnodup]

end Migration

end Storyline
