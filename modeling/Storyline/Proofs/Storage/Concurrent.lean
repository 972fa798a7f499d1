import Storyline.Proofs.Kv.Sharing
import Storyline.Proofs.Storage.Agreement

/-!
# Listings while other clients write

A listing goes over several requests, and other clients of the service may write between
them.  The listing ends nevertheless, since each change brings at most one key more, and it
gives every id that stayed and no id that was not there.

* `Shared`: a service and what its other clients will do;
* `shared`: the way of sending to it;
* `Client.Listed`: what a listing gives, over the stores that its requests found;
* `Client.ids_shared`: every listing that is let in ends with that, whatever the others do.
-/

namespace Storyline.Storage

open Http Kv

/-- A service that has other clients: its store, the batches of changes that the others make
after the next requests, one batch a request, and the stores that the requests so far
found. -/
structure Shared where
  store : Kv.Store
  others : List (List Change)
  found : List Kv.Store

/-- What a request leaves that takes the store to another one: the others have had their
turn. -/
def Shared.after (x : Shared) (t : Kv.Store) : Shared :=
  ⟨(x.others.headD []).foldl Change.apply t, x.others.tail, x.found ++ [x.store]⟩

/-- The way of sending to a service with other clients, for one that waits for so many
replies. -/
def shared (serverKey : String) (patience : Nat) : Transport Shared where
  send r := do
    let x ← get
    let (reply, t) := respond serverKey r x.store
    set (x.after t)
    return .reply reply
  patience _ := patience

namespace Client

variable {c : Client} {serverKey : String} {kind : Kind}

/-- The ids on a page of keys of a kind. -/
def idsOn (c : Client) (kind : Kind) (page : Kv.Store.Page) : List String :=
  page.keys.map (afterStart (c.key kind ""))

/-- What the listing of a kind gives over the stores that its requests found, which are those
that the changes of the others lead to. -/
structure Listed (c : Client) (kind : Kind) (kv : Kv.Store) (others : List (List Change))
    (found : List Kv.Store) (ids : List String) : Prop where
  found_eq : found = (List.range found.length).map (kv.storeAt others)
  /-- The ids are those on the pages, and each was there when its page was served. -/
  pages : ∃ pages, Kv.Store.Pages (c.key kind "") 100 none found pages ∧
    ids = pages.flatMap (c.idsOn kind) ∧
    List.Forall₂ (fun s page => ∀ id ∈ c.idsOn kind page, s.get? (c.key kind id) ≠ none) found
      pages
  ascending : ids.Pairwise (· < ·)
  complete : ∀ id, (∀ s ∈ found, s.get? (c.key kind id) ≠ none) → id ∈ ids

/-! ## The pages -/

theorem list_shared (h : c.Reaches serverKey) (patience : Nat) {start : String}
    {cursor : Option String} {page : Kv.Store.Page} {x : Shared}
    (hpage : x.store.page start cursor 100 = some page) :
    c.request (shared serverKey patience) false
        (c.message "GET" "/api/kv" (listQuery start cursor) "") x =
      (.ok (some ⟨200, .json (pageJson page)⟩), x.after x.store) := by
  have hsend : (shared serverKey patience).send
      (c.message "GET" "/api/kv" (listQuery start cursor) "") x =
        (.reply ⟨200, .json (pageJson page)⟩, x.after x.store) := by
    show (Outcome.reply (respond serverKey _ x.store).1, x.after (respond serverKey _ x.store).2) = _
    rw [respond_of_page h hpage]
  rw [c.request_of_send hsend, if_neg (Bool.eq_false_iff.mp h.ascii)]
  rfl

/-- A service that does not let a client in replies to its listings with a fault. -/
theorem list_refused (hpage : c.pageSize = 100) (h : ¬ c.Reaches serverKey) (patience : Nat)
    (start : String) (cursor : Option String) (x : Shared) :
    ∃ f y, f ≠ .escape .endlessListing ∧ c.request (shared serverKey patience) false
      (c.message "GET" "/api/kv" (listQuery start cursor) "") x = (.error f, y) := by
  by_cases hascii : c.apiKey.toList.any (0x80 ≤ ·.toNat) = true
  · refine ⟨.escape .headerNotAscii, x, by decide, ?_⟩
    rw [c.request_of_send rfl, if_pos hascii]
  · have hrefused : ¬ (serverKey = "" ∨ c.apiKey = serverKey) := fun hadmits =>
      h ⟨Bool.eq_false_iff.mpr hascii, hadmits, hpage⟩
    have hsend : (shared serverKey patience).send
        (c.message "GET" "/api/kv" (listQuery start cursor) "") x =
          (.reply (detail 401 "Invalid or missing API key"), x.after x.store) := by
      show (Outcome.reply (respond serverKey _ x.store).1, x.after (respond serverKey _ x.store).2) =
        _
      rw [respond_listing, if_neg hrefused]
    refine ⟨.fault (.status 401), x.after x.store, by decide, ?_⟩
    rw [c.request_of_send hsend, if_neg hascii]
    rfl

/-- Ascending keys of a kind are ascending ids. -/
theorem sorted_ids {keys : List String}
    (hstarts : ∀ key ∈ keys, Kv.Store.startsWith (c.key kind "") key = true)
    (h : keys.Pairwise (· < ·)) :
    (keys.map (afterStart (c.key kind ""))).Pairwise (· < ·) := by
  refine List.pairwise_map.mpr (h.imp_of_mem fun {a b} ha hb hab => ?_)
  rw [String.lt_iff, ← key_afterStart (hstarts a ha), ← key_afterStart (hstarts b hb), toList_key,
    toList_key c kind (afterStart _ b), append_lt_append_iff] at hab
  exact hab

/-- The requests from a cursor on go over pages up to the last one.  What is still to come and
what the others may still bring are fewer with each page. -/
theorem idsFrom_shared (h : c.Reaches serverKey) (patience : Nat) {fuel : Nat}
    (cursor : Option String) {x : Shared}
    (hcursor : ∀ last ∈ cursor, Kv.Store.startsWith (c.key kind "") last = true)
    (hfuel : (x.store.ahead (c.key kind "") cursor).length + x.others.flatten.length < fuel) :
    ∃ pages y, c.idsFrom (shared serverKey patience) kind fuel (cursorQuery cursor) x =
        (.ok (pages.flatMap (c.idsOn kind)), y) ∧
      y.found = x.found ++ (List.range pages.length).map (x.store.storeAt x.others) ∧
      Kv.Store.Pages (c.key kind "") 100 cursor
        ((List.range pages.length).map (x.store.storeAt x.others)) pages := by
  induction fuel generalizing cursor x with
  | zero => omega
  | succ fuel ih =>
    have hstart := key_ne_empty c kind ""
    have hnonempty := Kv.Store.cursor_ne_empty hstart hcursor
    have hpos : 0 < 100 := by decide
    obtain ⟨page, hpage⟩ : ∃ page, x.store.page (c.key kind "") cursor 100 = some page :=
      ⟨_, Kv.Store.page_of_cursor hnonempty hcursor hpos⟩
    obtain ⟨hkeys, -, hmore⟩ := Kv.Store.page_spec hnonempty hpos hcursor hpage
    have hlist := list_shared h patience hpage
    have hstarts : ∀ key ∈ page.keys, Kv.Store.startsWith (c.key kind "") key = true := by
      intro key hkey
      rw [hkeys] at hkey
      exact Kv.Store.startsWith_of_mem_listed
        (Kv.Store.mem_ahead.mp (List.mem_of_mem_take hkey)).1
    have hne : page.cursor ≠ some "" := by
      intro hlast
      have hempty := hstarts "" (List.mem_of_getLast? (hmore "" hlast).1)
      exact hstart (String.toList_inj.mp (List.prefix_nil.mp (startsWith_iff.mp hempty)))
    have hread := readPage_pageJson hstarts hne
    unfold idsFrom
    rw [h.page]
    cases hlast : page.cursor with
    | none =>
      refine ⟨[page], x.after x.store, ?_, rfl, .last hpage hlast⟩
      refine (bind_of_ok hlist _).trans ?_
      refine (bind_of_ok (Act.ofExcept_ok _ _) _).trans ?_
      rw [hread, hlast, List.flatMap_singleton]
      rfl
    | some last =>
      have hmem := Kv.Store.mem_ahead_of_cursor hnonempty hpos hcursor hpage hlast
      have hcursor' : ∀ c' ∈ some last, Kv.Store.startsWith (c.key kind "") c' = true := by
        intro c' hc'
        obtain rfl := Option.some_inj.mp hc'
        exact hstarts last (List.mem_of_getLast? (hmore last hlast).1)
      have hfuel' : (((x.after x.store).store.ahead (c.key kind "") (some last)).length +
          (x.after x.store).others.flatten.length) < fuel := by
        have hbehind := Kv.Store.ahead_of_page hnonempty hpos hcursor hpage hlast
        have hbring := Kv.Store.length_ahead_foldl x.store (x.others.headD []) (c.key kind "")
          (some last)
        have hsplit : x.others.flatten.length =
            (x.others.headD []).length + x.others.tail.flatten.length := by
          cases x.others <;> simp
        have hlong := (hmore last hlast).2
        rw [hbehind, List.length_drop] at hbring
        show (((x.others.headD []).foldl Change.apply x.store).ahead _ _).length +
          x.others.tail.flatten.length < fuel
        omega
      obtain ⟨pages, y, hnext, hfound, hpages⟩ := ih (some last) hcursor' hfuel'
      have hstores : (List.range (page :: pages).length).map (x.store.storeAt x.others) =
          x.store :: (List.range pages.length).map
            ((x.after x.store).store.storeAt (x.after x.store).others) := by
        rw [List.length_cons, List.range_succ_eq_map, List.map_cons, List.map_map]
        refine congrArg (x.store :: ·) (List.map_congr_left fun k _ => ?_)
        exact Kv.Store.storeAt_succ x.store x.others k
      refine ⟨page :: pages, y, ?_, ?_, ?_⟩
      · refine (bind_of_ok hlist _).trans ?_
        refine (bind_of_ok (Act.ofExcept_ok _ _) _).trans ?_
        rw [hread, hlast, List.flatMap_cons]
        refine (bind_of_ok (Act.ofExcept_ok _ _) _).trans ?_
        refine (bind_of_ok hnext _).trans ?_
        rfl
      · rw [hfound, hstores]
        exact List.append_assoc x.found [x.store] _
      · rw [hstores]
        exact .more hpage hlast hpages

/-! ## The listing -/

theorem listed_of_pages {kv : Kv.Store} {others : List (List Change)} {found : List Kv.Store}
    {pages : List Kv.Store.Page} (hfound : found = (List.range found.length).map (kv.storeAt others))
    (h : Kv.Store.Pages (c.key kind "") 100 none found pages) :
    c.Listed kind kv others found (pages.flatMap (c.idsOn kind)) := by
  have hstart := key_ne_empty c kind ""
  have hpos : 0 < 100 := by decide
  have hnone : ∀ last ∈ (none : Option String),
      Kv.Store.startsWith (c.key kind "") last = true := by
    rintro _ ⟨⟩
  have hpresent := h.present hstart hpos hnone
  have hids : pages.flatMap (c.idsOn kind) =
      (pages.flatMap Kv.Store.Page.keys).map (afterStart (c.key kind "")) :=
    (List.map_flatMap ..).symm
  refine ⟨hfound, ⟨pages, h, rfl, hpresent.imp fun s page hkeys id hid => ?_⟩, ?_, fun id hid => ?_⟩
  · obtain ⟨key, hkey, rfl⟩ := List.mem_map.mp hid
    have hlisted := hkeys key hkey
    rw [key_afterStart (Kv.Store.startsWith_of_mem_listed hlisted)]
    exact Kv.Store.mem_keys.mp (List.mem_filter.mp hlisted).1
  · rw [hids]
    refine sorted_ids (fun key hkey => ?_) (h.sorted hstart hpos hnone)
    obtain ⟨page, hpage, hkey⟩ := List.mem_flatMap.mp hkey
    obtain ⟨s, -, hs⟩ := Schema.exists_of_mem_right hpresent hpage
    exact Kv.Store.startsWith_of_mem_listed (hs key hkey)
  · rw [hids]
    refine List.mem_map.mpr ⟨c.key kind id, ?_, afterStart_key c kind id⟩
    refine h.complete hstart hpos hnone (fun s hs => ?_) (by rintro _ ⟨⟩)
    exact List.mem_filter.mpr ⟨Kv.Store.mem_keys.mpr (hid s hs), startsWith_key c kind id⟩

/-- A listing over a service that other clients write to, whatever they put and delete between
its requests, ends.  If the service lets it in it gives ids that ascend, each of which was there
when its page was served, and leaves out none that was there all the time. -/
theorem ids_shared (hpage : c.pageSize = 100) (kind : Kind) (kv : Kv.Store)
    (others : List (List Change)) {patience : Nat}
    (hpatience : kv.size + others.flatten.length < patience) :
    (c.ids (shared serverKey patience) kind ⟨kv, others, []⟩).1 ≠
        .error (.escape .endlessListing) ∧
      (c.Reaches serverKey →
        ∃ ids, (c.ids (shared serverKey patience) kind ⟨kv, others, []⟩).1 = .ok ids) ∧
      ∀ ids x, c.ids (shared serverKey patience) kind ⟨kv, others, []⟩ = (.ok ids, x) →
        c.Listed kind kv others x.found ids := by
  have hget : (get : Act Shared Shared) ⟨kv, others, []⟩ =
    (.ok ⟨kv, others, []⟩, ⟨kv, others, []⟩) := rfl
  have hrun : c.ids (shared serverKey patience) kind ⟨kv, others, []⟩ =
      c.idsFrom (shared serverKey patience) kind patience (cursorQuery none) ⟨kv, others, []⟩ :=
    bind_of_ok hget _
  rw [hrun]
  by_cases hreaches : c.Reaches serverKey
  · have hfuel : (kv.ahead (c.key kind "") none).length + others.flatten.length < patience := by
      have hle := List.length_filter_le (Kv.Store.startsWith (c.key kind "")) kv.keys
      have hsize : kv.keys.length = kv.size := List.length_map ..
      rw [Kv.Store.ahead_none, Kv.Store.listed]
      omega
    obtain ⟨pages, y, hids, hfound, hpages⟩ := idsFrom_shared (x := ⟨kv, others, []⟩) hreaches
      patience none (by rintro _ ⟨⟩) hfuel
    rw [hids]
    refine ⟨by rintro ⟨⟩, fun _ => ⟨_, rfl⟩, fun ids x heq => ?_⟩
    obtain ⟨hvalue, rfl⟩ := Prod.mk.inj heq
    obtain rfl := Except.ok.inj hvalue
    rw [List.nil_append] at hfound
    rw [← hfound] at hpages
    refine listed_of_pages ?_ hpages
    rw [hfound, List.length_map, List.length_range]
  · obtain ⟨f, y, hf, hfails⟩ := list_refused hpage hreaches patience (c.key kind "") none
      ⟨kv, others, []⟩
    obtain ⟨fuel, rfl⟩ : ∃ fuel, patience = fuel + 1 := Nat.exists_eq_succ_of_ne_zero (by omega)
    have hfrom : c.idsFrom (shared serverKey (fuel + 1)) kind (fuel + 1) (cursorQuery none)
        ⟨kv, others, []⟩ = (.error f, y) := by
      rw [idsFrom, hpage]
      exact bind_of_error hfails _
    rw [hfrom]
    exact ⟨fun heq => hf (Except.error.inj heq), fun h => absurd h hreaches,
      by rintro _ _ ⟨⟩⟩

/-- A service that holds two saves of a client. -/
def gateShelf : Kv.Store :=
  (Kv.Store.empty.put "narrative:ann:save:1" "one").put "narrative:ann:save:2" "two"

/-- What the others do to it between two requests. -/
def gateChanges : List Change :=
  [.delete "narrative:ann:save:2", .put "narrative:ann:save:0" "none"]

/-- A save that stays is listed while others come and go. -/
theorem ids_shared_gate :
    gateClient.pageSize = 100 ∧ gateShelf.size + [gateChanges].flatten.length < 5 ∧
      ∃ ids x, gateClient.ids (shared "" 5) .save ⟨gateShelf, [gateChanges], []⟩ = (.ok ids, x) ∧
        gateClient.Listed .save gateShelf [gateChanges] x.found ids ∧ "1" ∈ ids := by
  have hreaches : gateClient.Reaches "" := ⟨by decide, .inl rfl, rfl⟩
  obtain ⟨-, hok, hlisted⟩ := ids_shared (c := gateClient) rfl .save gateShelf
    [gateChanges] (by decide : gateShelf.size + [gateChanges].flatten.length < 5)
  obtain ⟨ids, hids⟩ := hok hreaches
  have hlisted' := hlisted ids _ (Prod.ext hids rfl)
  refine ⟨rfl, by decide, ids, _, Prod.ext hids rfl, hlisted', hlisted'.complete "1" fun s hs => ?_⟩
  rw [hlisted'.found_eq] at hs
  obtain ⟨k, -, rfl⟩ := List.mem_map.mp hs
  cases k with
  | zero => decide
  | succ k =>
    have htake : [gateChanges].take (k + 1) = [gateChanges] := by simp
    rw [Kv.Store.storeAt, htake]
    decide

end Client

end Storyline.Storage
