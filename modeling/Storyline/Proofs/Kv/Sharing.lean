import Mathlib.Data.List.Forall2
import Mathlib.Data.List.Perm.Subperm
import Storyline.Proofs.Kv.Paging

/-!
# Listings beside other writers

A listing asks for one page after another, and between two of them other clients may put and
delete what they like, the cursor among it.  What is listed all the same depends on the order
of the keys alone: a page begins above all that was listed before and leaves out no key that
its store holds below its own last one.

* `Change`: what another client does to the store; `Store.storeAt`: the store after some of
  their batches of changes;
* `Store.Pages`: the pages of a listing, each from a store of its own;
* `Store.Pages.sorted`, `Store.Pages.present`, `Store.Pages.complete`: the keys ascend, each is
  in the store of its page, and a key that all the stores hold is among them;
* `Store.length_ahead_foldl`: a change brings at most one key more to come.
-/

namespace Storyline.Kv

/-- What another client does to the store. -/
inductive Change where
  | put (key value : String)
  | delete (key : String)
  deriving DecidableEq, Repr

/-- The store after a change. -/
def Change.apply (s : Store) : Change → Store
  | .put key value => s.put key value
  | .delete key => (s.delete key).2

namespace Store

/-- The store after the first `k` batches of changes. -/
def storeAt (s : Store) (batches : List (List Change)) (k : Nat) : Store :=
  (batches.take k).flatten.foldl Change.apply s

theorem storeAt_succ (s : Store) (batches : List (List Change)) (k : Nat) :
    s.storeAt batches (k + 1) =
      ((batches.headD []).foldl Change.apply s).storeAt batches.tail k := by
  cases batches with
  | nil => simp [storeAt]
  | cons batch batches =>
    rw [storeAt, List.take_succ_cons, List.flatten_cons, List.foldl_append]
    rfl

variable {s : Store} {start : String} {cursor : Option String} {n : Nat} {page : Page}

/-! ## One page -/

/-- A page holds the next keys; it has no cursor if they are all that is left, and its last key
is the cursor otherwise. -/
theorem page_spec (hne : cursor ≠ some "") (hn : 0 < n)
    (hcursor : ∀ last ∈ cursor, startsWith start last = true)
    (hpage : s.page start cursor n = some page) :
    page.keys = (s.ahead start cursor).take n ∧
      (page.cursor = none → page.keys = s.ahead start cursor) ∧
      ∀ last ∈ page.cursor, page.keys.getLast? = some last ∧ n < (s.ahead start cursor).length := by
  obtain rfl := Option.some_inj.mp ((page_of_cursor hne hcursor hn).symm.trans hpage)
  by_cases hlength : (s.ahead start cursor).length ≤ n
  · simp [hlength, List.take_of_length_le hlength]
  · refine ⟨rfl, fun hnone => ?_, fun last hlast => ?_⟩
    · rw [if_neg hlength] at hnone
      have hzero := congrArg List.length (List.getLast?_eq_none_iff.mp hnone)
      rw [List.length_take, List.length_nil] at hzero
      omega
    · rw [if_neg hlength] at hlast
      exact ⟨hlast, Nat.lt_of_not_le hlength⟩

/-- The cursor of a page has the start and is above the cursor before. -/
theorem mem_ahead_of_cursor (hne : cursor ≠ some "") (hn : 0 < n)
    (hcursor : ∀ last ∈ cursor, startsWith start last = true)
    (hpage : s.page start cursor n = some page) {last : String} (hlast : page.cursor = some last) :
    last ∈ s.ahead start cursor := by
  obtain ⟨hkeys, -, hmore⟩ := page_spec hne hn hcursor hpage
  have hmem := List.mem_of_getLast? (hmore last hlast).1
  rw [hkeys] at hmem
  exact List.mem_of_mem_take hmem

/-- Behind a page there are the keys that it left out. -/
theorem ahead_of_page (hne : cursor ≠ some "") (hn : 0 < n)
    (hcursor : ∀ last ∈ cursor, startsWith start last = true)
    (hpage : s.page start cursor n = some page) {last : String} (hlast : page.cursor = some last) :
    s.ahead start (some last) = (s.ahead start cursor).drop n := by
  obtain ⟨hkeys, -, hmore⟩ := page_spec hne hn hcursor hpage
  have hend := (hmore last hlast).1
  have habove : ∀ c ∈ cursor, c < last :=
    (mem_ahead.mp (mem_ahead_of_cursor hne hn hcursor hpage hlast)).2
  have hsplit : page.keys ++ (s.ahead start cursor).drop n = s.ahead start cursor := by
    rw [hkeys, List.take_append_drop]
  have hsorted := sorted_ahead s start cursor
  rw [← hsplit] at hsorted
  rw [← filter_above_last hsorted hend, hsplit, ahead, ahead, List.filter_filter]
  -- what is above the new cursor is above the old one too
  refine List.filter_congr fun key _ => Bool.eq_iff_iff.mpr ?_
  rw [Bool.and_eq_true, Option.all_some]
  refine ⟨fun h => ⟨h, ?_⟩, And.left⟩
  cases cursor with
  | none => rfl
  | some c => exact decide_eq_true (String.lt_trans (habove c rfl) (of_decide_eq_true h))

/-! ## Pages from different stores -/

/-- The pages of a listing after a cursor, each from a store of its own: every page but the
last one has the cursor of the next. -/
inductive Pages (start : String) (n : Nat) : Option String → List Store → List Page → Prop
  | last {cursor : Option String} {s : Store} {page : Page}
      (hpage : s.page start cursor n = some page) (hnone : page.cursor = none) :
      Pages start n cursor [s] [page]
  | more {cursor : Option String} {s : Store} {page : Page} {last : String} {stores : List Store}
      {pages : List Page} (hpage : s.page start cursor n = some page)
      (hlast : page.cursor = some last) (hrest : Pages start n (some last) stores pages) :
      Pages start n cursor (s :: stores) (page :: pages)

namespace Pages

variable {stores : List Store} {pages : List Page}

/-- Each key of a page has the start and was in the store of that page. -/
theorem present (hstart : start ≠ "") (hn : 0 < n) (h : Pages start n cursor stores pages)
    (hcursor : ∀ last ∈ cursor, startsWith start last = true) :
    List.Forall₂ (fun s page => ∀ key ∈ page.keys, key ∈ s.listed start) stores pages := by
  have hfound : ∀ {cursor : Option String} {s : Store} {page : Page},
      (∀ last ∈ cursor, startsWith start last = true) → s.page start cursor n = some page →
        ∀ key ∈ page.keys, key ∈ s.listed start := by
    intro cursor s page hcursor hpage key hkey
    rw [(page_spec (cursor_ne_empty hstart hcursor) hn hcursor hpage).1] at hkey
    exact (mem_ahead.mp (List.mem_of_mem_take hkey)).1
  induction h with
  | last hpage hnone => exact .cons (hfound hcursor hpage) .nil
  | more hpage hlast hrest ih =>
    have hmem := mem_ahead_of_cursor (cursor_ne_empty hstart hcursor) hn hcursor hpage hlast
    refine .cons (hfound hcursor hpage) (ih fun c hc => ?_)
    obtain rfl := Option.some_inj.mp hc
    exact startsWith_of_mem_listed (mem_ahead.mp hmem).1

/-- All keys are above the cursor, and they ascend. -/
theorem above_sorted (hstart : start ≠ "") (hn : 0 < n) (h : Pages start n cursor stores pages)
    (hcursor : ∀ last ∈ cursor, startsWith start last = true) :
    (∀ key ∈ pages.flatMap Page.keys, ∀ c ∈ cursor, c < key) ∧
      (pages.flatMap Page.keys).Pairwise (· < ·) := by
  induction h with
  | last hpage hnone =>
    obtain ⟨-, hall, -⟩ := page_spec (cursor_ne_empty hstart hcursor) hn hcursor hpage
    rw [List.flatMap_singleton, hall hnone]
    exact ⟨fun key hkey => (mem_ahead.mp hkey).2, sorted_ahead _ _ _⟩
  | @more cursor s page last stores pages hpage hlast hrest ih =>
    obtain ⟨hkeys, -, hmore⟩ := page_spec (cursor_ne_empty hstart hcursor) hn hcursor hpage
    have hmem := mem_ahead_of_cursor (cursor_ne_empty hstart hcursor) hn hcursor hpage hlast
    obtain ⟨habove, hsorted⟩ := ih fun c hc =>
      Option.some_inj.mp hc ▸ startsWith_of_mem_listed (mem_ahead.mp hmem).1
    have hpageAbove : ∀ key ∈ page.keys, ∀ c ∈ cursor, c < key := by
      intro key hkey
      rw [hkeys] at hkey
      exact (mem_ahead.mp (List.mem_of_mem_take hkey)).2
    have hpageSorted : page.keys.Pairwise (· < ·) := by
      rw [hkeys]
      exact (sorted_ahead s start cursor).sublist (List.take_sublist n _)
    have hpageBelow : ∀ key ∈ page.keys, key ≤ last := by
      intro key hkey
      obtain ⟨before, hbefore⟩ := List.getLast?_eq_some_iff.mp (hmore last hlast).1
      rw [hbefore] at hkey hpageSorted
      rcases List.mem_append.mp hkey with hkey | hkey
      · exact String.not_lt.mp (String.lt_asymm ((List.pairwise_append.mp hpageSorted).2.2
          key hkey last (List.mem_singleton_self last)))
      · exact List.mem_singleton.mp hkey ▸ String.le_refl last
    rw [List.flatMap_cons]
    constructor
    · intro key hkey c hc
      rcases List.mem_append.mp hkey with hkey | hkey
      · exact hpageAbove key hkey c hc
      · exact String.lt_trans ((mem_ahead.mp hmem).2 c hc) (habove key hkey last rfl)
    · refine List.pairwise_append.mpr ⟨hpageSorted, hsorted, fun a ha b hb => ?_⟩
      exact String.not_le.mp fun hle => String.not_le.mpr (habove b hb last rfl)
        (String.le_trans hle (hpageBelow a ha))

/-- The keys of a listing ascend. -/
theorem sorted (hstart : start ≠ "") (hn : 0 < n) (h : Pages start n cursor stores pages)
    (hcursor : ∀ last ∈ cursor, startsWith start last = true) :
    (pages.flatMap Page.keys).Pairwise (· < ·) := (above_sorted hstart hn h hcursor).2

/-- A key above the cursor that every store of the listing has is listed: the page that would
have to leave it out ends at a cursor below it. -/
theorem complete (hstart : start ≠ "") (hn : 0 < n) (h : Pages start n cursor stores pages)
    (hcursor : ∀ last ∈ cursor, startsWith start last = true) {key : String}
    (hkey : ∀ s ∈ stores, key ∈ s.listed start) (habove : ∀ c ∈ cursor, c < key) :
    key ∈ pages.flatMap Page.keys := by
  induction h with
  | last hpage hnone =>
    obtain ⟨-, hall, -⟩ := page_spec (cursor_ne_empty hstart hcursor) hn hcursor hpage
    rw [List.flatMap_singleton, hall hnone]
    exact mem_ahead.mpr ⟨hkey _ (List.mem_singleton_self _), habove⟩
  | @more cursor s page last stores pages hpage hlast hrest ih =>
    obtain ⟨hkeys, -, -⟩ := page_spec (cursor_ne_empty hstart hcursor) hn hcursor hpage
    have hmem := mem_ahead_of_cursor (cursor_ne_empty hstart hcursor) hn hcursor hpage hlast
    have hahead : key ∈ s.ahead start cursor := mem_ahead.mpr ⟨hkey s List.mem_cons_self, habove⟩
    rw [← List.take_append_drop n (s.ahead start cursor), ← hkeys,
      ← ahead_of_page (cursor_ne_empty hstart hcursor) hn hcursor hpage hlast] at hahead
    rw [List.flatMap_cons, List.mem_append]
    refine (List.mem_append.mp hahead).imp_right fun hbehind => ?_
    refine ih (fun c hc => ?_) (fun t ht => hkey t (List.mem_cons_of_mem s ht))
      (mem_ahead.mp hbehind).2
    obtain rfl := Option.some_inj.mp hc
    exact startsWith_of_mem_listed (mem_ahead.mp hmem).1

end Pages

/-! ## What changes bring -/

theorem mem_keys_apply {change : Change} {key : String} (h : key ∈ (change.apply s).keys) :
    key ∈ s.keys ∨ ∃ value, change = .put key value := by
  rw [mem_keys] at h
  cases change with
  | put other value =>
    by_cases hkey : key = other
    · exact .inr ⟨value, by rw [hkey]⟩
    · rw [Change.apply, get?_put, if_neg hkey] at h
      exact .inl (mem_keys.mpr h)
  | delete other =>
    rw [Change.apply, delete, get?_erase] at h
    by_cases hkey : key = other
    · exact absurd (if_pos hkey) h
    · rw [if_neg hkey] at h
      exact .inl (mem_keys.mpr h)

/-- A change brings at most one key more to come. -/
theorem length_ahead_apply (s : Store) (change : Change) (start : String)
    (cursor : Option String) :
    ((change.apply s).ahead start cursor).length ≤ (s.ahead start cursor).length + 1 := by
  have hnodup : ((change.apply s).ahead start cursor).Nodup :=
    (sorted_ahead _ start cursor).imp String.ne_of_lt
  -- the key that a change may put stands in front, so that all keys have their place
  obtain ⟨new, hnew⟩ : ∃ new, ∀ key value, change = .put key value → key = new := by
    cases change with
    | put key value => exact ⟨key, fun _ _ heq => by injection heq with hkey; exact hkey.symm⟩
    | delete key => exact ⟨key, fun _ _ heq => by cases heq⟩
  have hsub : (change.apply s).ahead start cursor ⊆ new :: s.ahead start cursor := by
    intro key hkey
    obtain ⟨hlisted, habove⟩ := mem_ahead.mp hkey
    obtain ⟨hmem, hstarts⟩ := List.mem_filter.mp hlisted
    rcases mem_keys_apply hmem with hold | ⟨value, hput⟩
    · exact List.mem_cons_of_mem new (mem_ahead.mpr ⟨List.mem_filter.mpr ⟨hold, hstarts⟩, habove⟩)
    · exact hnew key value hput ▸ List.mem_cons_self
  simpa using (List.subperm_of_subset hnodup hsub).length_le

theorem length_ahead_foldl (s : Store) (changes : List Change) (start : String)
    (cursor : Option String) :
    ((changes.foldl Change.apply s).ahead start cursor).length ≤
      (s.ahead start cursor).length + changes.length := by
  induction changes generalizing s with
  | nil => exact Nat.le_refl _
  | cons change changes ih =>
    have hstep := length_ahead_apply s change start cursor
    have hrest := ih (change.apply s)
    rw [List.foldl_cons, List.length_cons]
    omega

end Store

end Storyline.Kv
