import Storyline.Proofs.Kv.Register

/-!
# A listing, from its first page to its last

Who wants all keys asks for a page, gives its cursor with the next call, and stops at a page
without one.  A page after a cursor begins above it, so each call leaves fewer keys, and the
pages are together the keys with the start.  One cursor does not mark a place: the empty text,
which is taken for none.  It ends a page only if the empty key is on a page of one.

* `Register.Browses`: the pages of a listing up to its last;
* `Register.exists_browses_of_some`: from a cursor that marks a place the listing ends;
* `Register.Endless`: the listing whose first page has the empty key alone;
* `Register.browses_iff`: every other listing ends, and has exactly the keys with the start.
-/

namespace Storyline.Kv.Register

open Store

/-- The pages of a listing from a cursor on: every page but the last one has the cursor of the
next. -/
inductive Browses (r : Register) (start : String) (limit : Int) :
    Option String → List (List String) → Prop
  | last {cursor : Option String} {page : Page} (hpage : r.list start cursor limit = some page)
      (hnone : page.cursor = none) : Browses r start limit cursor [page.keys]
  | more {cursor : Option String} {page : Page} {last : String} {pages : List (List String)}
      (hpage : r.list start cursor limit = some page) (hlast : page.cursor = some last)
      (hrest : Browses r start limit (some last) pages) :
      Browses r start limit cursor (page.keys :: pages)

variable {r : Register} {s : Store} {start : String} {cursor : Option String}

/-- There is one way to go through a listing. -/
theorem Browses.unique {limit : Int} {pages others : List (List String)}
    (h : r.Browses start limit cursor pages) (hothers : r.Browses start limit cursor others) :
    pages = others := by
  induction h generalizing others with
  | last hpage hnone =>
    cases hothers with
    | last hpage' hnone' =>
      rw [hpage] at hpage'
      rw [Option.some_inj.mp hpage']
    | more hpage' hlast' hrest' =>
      obtain rfl := Option.some_inj.mp (hpage.symm.trans hpage')
      rw [hnone] at hlast'
      cases hlast'
  | more hpage hlast hrest ih =>
    cases hothers with
    | last hpage' hnone' =>
      obtain rfl := Option.some_inj.mp (hpage.symm.trans hpage')
      rw [hlast] at hnone'
      cases hnone'
    | more hpage' hlast' hrest' =>
      obtain rfl := Option.some_inj.mp (hpage.symm.trans hpage')
      obtain rfl := Option.some_inj.mp (hlast.symm.trans hlast')
      rw [ih hrest']

theorem not_lt_empty (key : String) : ¬ key < "" := fun h =>
  List.not_lt_nil _ (String.lt_iff.mp h)

/-! ## Cursors that mark a place -/

section Places

variable {limit : Nat} (hkeys : r.keys = s.keys) (hlimit : 0 < limit)

include hkeys hlimit

/-- A listing ends with what was ahead of its cursor, if it does so from the cursor of its first
page on. -/
theorem exists_browses_of_page (hne : cursor ≠ some "")
    (hcursor : ∀ last ∈ cursor, startsWith start last = true)
    (hnext : ∀ last ∈ s.ahead start cursor,
      (s.page start cursor limit).bind Page.cursor = some last →
      ∃ pages, r.Browses start limit (some last) pages ∧
        pages.flatten = s.ahead start (some last)) :
    ∃ pages, r.Browses start limit cursor pages ∧ pages.flatten = s.ahead start cursor := by
  obtain ⟨page, hpage⟩ : ∃ page, s.page start cursor limit = some page :=
    ⟨_, page_of_cursor hne hcursor hlimit⟩
  have hlist := (list_eq_page hkeys start cursor limit).trans hpage
  obtain ⟨htake, hall, -⟩ := page_spec hne hlimit hcursor hpage
  cases hlast : page.cursor with
  | none => exact ⟨_, .last hlist hlast, (List.flatten_singleton).trans (hall hlast)⟩
  | some last =>
    have hmem := mem_ahead_of_cursor hne hlimit hcursor hpage hlast
    obtain ⟨pages, hrest, hflat⟩ := hnext last hmem (by rw [hpage, Option.bind_some, hlast])
    refine ⟨_, .more hlist hlast hrest, ?_⟩
    rw [List.flatten_cons, hflat, htake, ahead_of_page hne hlimit hcursor hpage hlast,
      List.take_append_drop]

/-- From a cursor that marks a place the listing ends, with all that was ahead. -/
theorem exists_browses_of_some {c : String} (hc : c ≠ "") (hstart : startsWith start c = true) :
    ∃ pages, r.Browses start limit (some c) pages ∧ pages.flatten = s.ahead start (some c) := by
  obtain ⟨n, hn⟩ : ∃ n, n = (s.ahead start (some c)).length := ⟨_, rfl⟩
  induction n using Nat.strong_induction_on generalizing c with
  | _ n ih =>
    have hne : some c ≠ some "" := fun heq => hc (Option.some_inj.mp heq)
    have hcursor : ∀ last ∈ some c, startsWith start last = true := by
      rintro last ⟨⟩
      exact hstart
    refine exists_browses_of_page hkeys hlimit hne hcursor fun last hmem hlast => ?_
    obtain ⟨page, hpage, hlast⟩ := Option.bind_eq_some_iff.mp hlast
    obtain ⟨hlisted, habove⟩ := mem_ahead.mp hmem
    -- the next cursor is above this one, and a page of keys less is ahead of it
    have hplace : last ≠ "" := by
      rintro rfl
      exact not_lt_empty c (habove c rfl)
    have hfewer : (s.ahead start (some last)).length < n := by
      have hpos := List.length_pos_of_mem hmem
      rw [ahead_of_page hne hlimit hcursor hpage hlast, List.length_drop]
      omega
    exact ih _ hfewer hplace (startsWith_of_mem_listed hlisted) rfl

end Places

/-! ## The empty key -/

/-- The listing of all keys, one to a page, when the empty key is there and is not the only
one. -/
structure Endless (m : String → Option String) (start : String) (limit : Nat) : Prop where
  start : start = ""
  limit : limit = 1
  empty : m "" ≠ none
  other : ∃ key, key ≠ "" ∧ m key ≠ none

/-- The empty key comes first. -/
theorem eq_nil_of_concat_empty {front rest : List String}
    (h : (front ++ "" :: rest).Pairwise (· < ·)) : front = [] := by
  refine List.eq_nil_iff_forall_not_mem.mpr fun key hkey => ?_
  exact not_lt_empty key ((List.pairwise_append.mp h).2.2 key hkey "" List.mem_cons_self)

/-- The first page has the empty cursor exactly if the listing is endless. -/
theorem cursor_eq_empty_iff {limit : Nat} (hlimit : 0 < limit) :
    (s.page start none limit).bind Page.cursor = some "" ↔ Endless s.get? start limit := by
  have hsorted := s.sorted_listed start
  rw [page_of_cursor (Option.some_ne_none "").symm nofun hlimit, Option.bind_some, ahead_none]
  constructor
  · intro hcursor
    by_cases hall : (s.listed start).length ≤ limit
    · rw [if_pos hall] at hcursor
      cases hcursor
    rw [if_neg hall] at hcursor
    obtain ⟨front, hfront⟩ := List.getLast?_eq_some_iff.mp hcursor
    have hsplit := List.take_append_drop limit (s.listed start)
    rw [hfront, List.append_assoc, List.singleton_append] at hsplit
    rw [← hsplit] at hsorted
    obtain rfl := eq_nil_of_concat_empty hsorted
    have hempty : "" ∈ s.listed start := hsplit ▸ List.mem_cons_self
    obtain ⟨hkey, hwith⟩ := List.mem_filter.mp hempty
    obtain ⟨key, rest, hrest⟩ : ∃ key rest, (s.listed start).drop limit = key :: rest := by
      refine List.exists_cons_of_ne_nil fun hnil => hall (List.drop_eq_nil_iff.mp hnil)
    have hother : key ∈ s.listed start := by
      rw [← hsplit, hrest]
      exact List.mem_cons_of_mem _ List.mem_cons_self
    refine ⟨?_, ?_, mem_keys.mp hkey, key, ?_, mem_keys.mp (List.mem_filter.mp hother).1⟩
    · exact String.toList_inj.mp (List.prefix_nil.mp (startsWith_iff.mp hwith))
    · have hone := congrArg List.length hfront
      rw [List.length_take, List.nil_append, List.length_singleton] at hone
      omega
    · rintro rfl
      refine String.lt_irrefl "" ((List.pairwise_cons.mp hsorted).1 "" ?_)
      rw [hrest]
      exact List.mem_cons_self
  · rintro ⟨rfl, rfl, hempty, other, hne, hother⟩
    have hlisted : ∀ key, s.get? key ≠ none → key ∈ s.listed "" := fun key hkey =>
      List.mem_filter.mpr ⟨mem_keys.mpr hkey, startsWith_iff.mpr List.nil_prefix⟩
    obtain ⟨front, rest, hsplit⟩ := List.append_of_mem (hlisted "" hempty)
    rw [hsplit] at hsorted
    obtain rfl := eq_nil_of_concat_empty hsorted
    have hrest : other ∈ rest := by
      have hmem := hlisted other hother
      rw [hsplit] at hmem
      exact (List.mem_cons.mp hmem).resolve_left hne
    have hpos := List.length_pos_of_mem hrest
    have hmore : ¬ (s.listed "").length ≤ 1 := by
      rw [hsplit, List.nil_append, List.length_cons]
      omega
    rw [if_neg hmore, hsplit]
    rfl

/-- Whose first page is followed by itself never comes to a last one. -/
theorem not_browses_of_same {limit : Int} {page : Page}
    (hpage : r.list start none limit = some page) (hcursor : page.cursor = some "")
    (pages : List (List String)) : ¬ r.Browses start limit none pages := by
  have hrounds : ∀ cursor pages, r.Browses start limit cursor pages →
      r.list start cursor limit = some page → False := by
    intro cursor pages h
    induction h with
    | last hpage' hnone =>
      intro hsame
      obtain rfl := Option.some_inj.mp (hpage'.symm.trans hsame)
      rw [hcursor] at hnone
      cases hnone
    | more hpage' hlast hrest ih =>
      intro hsame
      obtain rfl := Option.some_inj.mp (hpage'.symm.trans hsame)
      obtain rfl := Option.some_inj.mp (hcursor.symm.trans hlast)
      exact ih hpage
  exact fun h => hrounds none pages h hpage

/-! ## Listings of a register -/

/-- The first page of an endless listing, which every call gives again. -/
theorem list_of_endless {limit : Nat} (hkeys : r.keys = s.keys) (h : Endless s.get? start limit) :
    r.list start none limit = some ⟨[""], some ""⟩ := by
  have hlimit : 0 < limit := h.limit ▸ Nat.one_pos
  have hcursor := (cursor_eq_empty_iff (s := s) hlimit).mpr h
  obtain ⟨page, hpage, hcursor⟩ := Option.bind_eq_some_iff.mp hcursor
  obtain ⟨htake, -, hmore⟩ := page_spec (Option.some_ne_none "").symm hlimit nofun hpage
  obtain ⟨hlast, -⟩ := hmore "" hcursor
  have hone : page.keys = [""] := by
    obtain ⟨front, hfront⟩ := List.getLast?_eq_some_iff.mp hlast
    have hsorted := (s.sorted_ahead start none).sublist (List.take_sublist limit _)
    rw [← htake, hfront] at hsorted
    rw [hfront, eq_nil_of_concat_empty hsorted, List.nil_append]
  rw [list_eq_page hkeys, hpage, ← hone, ← hcursor]

/-- After any changes, a listing comes to its last page unless it is endless, and it has then
all keys with the start, ascending, each once. -/
theorem browses_iff (changes : List Change) (start : String) {limit : Nat} (hlimit : 0 < limit) :
    ∃ r, empty.changeAll changes = some r ∧
      ((∃ pages, r.Browses start limit none pages) ↔
        ¬ Endless (valuesAfter changes) start limit) ∧
      (∀ pages, r.Browses start limit none pages →
        Finds (valuesAfter changes) start none pages.flatten) ∧
      (Endless (valuesAfter changes) start limit → ∀ cursor, cursor = none ∨ cursor = some "" →
        r.list start cursor limit = some ⟨[""], some ""⟩) := by
  obtain ⟨r, hchanges, hkeeps⟩ := exists_changeAll keeps_empty changes
  obtain ⟨s, hs⟩ := exists_store changes
  have hkeys := hkeeps.keys_eq hs
  have hends : ¬ Endless (valuesAfter changes) start limit →
      ∃ pages, r.Browses start limit none pages ∧ pages.flatten = s.ahead start none := by
    intro h
    refine exists_browses_of_page hkeys hlimit nofun nofun fun last hmem hlast => ?_
    refine exists_browses_of_some hkeys hlimit ?_ (startsWith_of_mem_listed (mem_ahead.mp hmem).1)
    rintro rfl
    exact h (hs ▸ (cursor_eq_empty_iff hlimit).mp hlast)
  have hstays : Endless (valuesAfter changes) start limit →
      r.list start none limit = some ⟨[""], some ""⟩ := fun h =>
    list_of_endless (s := s) hkeys (hs ▸ h)
  have hnever : ∀ pages, r.Browses start limit none pages →
      ¬ Endless (valuesAfter changes) start limit := fun pages hpages h =>
    not_browses_of_same (hstays h) rfl pages hpages
  refine ⟨r, hchanges, ⟨fun ⟨pages, hpages⟩ => hnever pages hpages, fun h => ?_⟩,
    fun pages hpages => ?_, fun h cursor hcursor => ?_⟩
  · obtain ⟨pages, hpages, -⟩ := hends h
    exact ⟨pages, hpages⟩
  · obtain ⟨others, hothers, hflat⟩ := hends (hnever pages hpages)
    rw [hpages.unique hothers, hflat, ← hs]
    exact finds_ahead s start none
  · rcases hcursor with rfl | rfl
    · exact hstays h
    · exact hstays h

/-- Two keys, one of them empty: one to a page the listing has no end, two to a page it has. -/
theorem browses_with_empty_key :
    ∃ r, empty.changeAll [.put "a" "y", .put "" "x"] = some r ∧
      (¬ ∃ pages, r.Browses "" 1 none pages) ∧
      r.list "" (some "") 1 = some ⟨[""], some ""⟩ ∧
      ∃ pages, r.Browses "" 2 none pages ∧ pages.flatten = ["", "a"] := by
  obtain ⟨r, hr, hends, -, hstays⟩ := browses_iff [.put "a" "y", .put "" "x"] "" Nat.one_pos
  obtain ⟨r', hr', hends', hfinds, -⟩ := browses_iff [.put "a" "y", .put "" "x"] "" Nat.two_pos
  obtain rfl := Option.some_inj.mp (hr.symm.trans hr')
  have hendless : Endless (valuesAfter [.put "a" "y", .put "" "x"]) "" 1 :=
    ⟨rfl, rfl, by decide, "a", by decide, by decide⟩
  obtain ⟨pages, hpages⟩ := hends'.mpr fun h => absurd h.limit (by decide)
  refine ⟨r, hr, fun h => hends.mp h hendless, hstays hendless _ (Or.inr rfl), pages, hpages, ?_⟩
  -- what is found is the keys of the register, in order
  refine Storage.Ascends.eq (m := valuesAfter [.put "a" "y", .put "" "x"])
    ⟨(hfinds pages hpages).sorted, fun key => ?_⟩ ⟨by decide, fun key => ?_⟩
  · rw [(hfinds pages hpages).mem]
    simp
  · by_cases hempty : key = ""
    · simp [valuesAfter, Change.record, hempty]
    · simp [valuesAfter, Change.record, Function.update_apply, hempty]

end Storyline.Kv.Register
