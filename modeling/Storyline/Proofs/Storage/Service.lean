import Storyline.Proofs.Kv.Paging
import Storyline.Proofs.Kv.Replies
import Storyline.Proofs.Storage.Serving
import Storyline.Storage.Service

/-!
# A service serves

A storage behind the key-value service has keys of its own there, whatever other keys the
service holds: one for each text.

* `Client.Reaches`: the service lets the client in;
* `Client.Carries`: the service takes the path of a key for that key;
* `Client.idsFrom_of_listed`: the listing over all pages;
* `Client.Holds`: the service has the texts of a shelf under the keys of the client;
* `Client.serves`: reading, writing, removing and listing do what they should.
-/

namespace Storyline.Storage.Client

open Http Kv

/-- The service lets the client in: the client's key for it can be sent, and it is the
service's key if that has one.  A page is of a hundred keys. -/
structure Reaches (c : Client) (serverKey : String) : Prop where
  ascii : c.apiKey.toList.any (0x80 ≤ ·.toNat) = false
  admitted : serverKey = "" ∨ c.apiKey = serverKey
  page : c.pageSize = 100

variable {c : Client} {serverKey : String} {kv : Kv.Store}

/-! ## Requests -/

/-- A request is not sent if the client's key cannot be, and otherwise has the outcome of its
sending. -/
theorem request_of_send {τ : Type} (c : Client) {t : Transport τ} {r : Request}
    {outcome : Outcome} {x y : τ} (hsend : t.send r x = (outcome, y)) (missing : Bool) :
    c.request t missing r x =
      if c.apiKey.toList.any (0x80 ≤ ·.toNat) = true then (.error (.escape .headerNotAscii), x)
      else (c.accept missing outcome, y) := by
  have hlift : (t.send r : Act τ Outcome) x = (.ok outcome, y) := by
    show ((fun o => Except.ok o) <$> t.send r) x = _
    show (Except.ok (t.send r x).1, (t.send r x).2) = _
    rw [hsend]
  unfold request
  split
  · rfl
  · show ((t.send r : Act τ Outcome) >>= fun outcome => Act.ofExcept (c.accept missing outcome)) x =
      _
    rw [bind_of_ok hlift]
    cases c.accept missing outcome <;> rfl

theorem request_apply (c : Client) (serverKey : String) (missing : Bool) (r : Request)
    (s : Kv.Store) :
    c.request (transport serverKey) missing r s =
      if c.apiKey.toList.any (0x80 ≤ ·.toNat) = true then (.error (.escape .headerNotAscii), s)
      else (c.accept missing (.reply (respond serverKey r s).1), (respond serverKey r s).2) :=
  c.request_of_send rfl missing

theorem request_of_respond (h : c.Reaches serverKey) {r : Request} {reply : Reply}
    {s t : Kv.Store} (hr : respond serverKey r s = (reply, t)) (missing : Bool) :
    c.request (transport serverKey) missing r s = (c.accept missing (.reply reply), t) := by
  rw [request_apply, if_neg (Bool.eq_false_iff.mp h.ascii), hr]

/-- A request passes if the service has no key of its own or the client has that key. -/
theorem admits_message_iff (c : Client) (serverKey method path : String)
    (query : List (String × String)) (body : String) :
    admits serverKey (c.message method path query body) = true ↔
      serverKey = "" ∨ c.apiKey = serverKey := by
  have hauth : (c.message method path query body).authorization =
      if c.apiKey = "" then none else some ("Bearer " ++ c.apiKey) := rfl
  unfold admits
  rw [hauth, Bool.or_eq_true, decide_eq_true_eq, decide_eq_true_eq]
  refine or_congr_right' fun hkey => ?_
  by_cases hempty : c.apiKey = ""
  · rw [if_pos hempty, hempty]
    refine iff_of_false (fun h => ?_) (Ne.symm hkey)
    have hnil := congrArg String.toList h
    simp at hnil
  · rw [if_neg hempty, Option.getD_some]
    exact String.append_right_inj "Bearer "

theorem admits_message (h : c.Reaches serverKey) (method path : String)
    (query : List (String × String)) (body : String) :
    admits serverKey (c.message method path query body) = true :=
  (admits_message_iff c serverKey method path query body).mpr h.admitted

theorem decode_keyPath (key : String) :
    Text.Percent.decode (keyPath key).toList = entryStart ++ key.toList := by
  have hsafe : ∀ ch : Char, decide (ch = ':') = true → Text.Percent.IsPlain ch := by
    intro ch hch
    rw [of_decide_eq_true hch]
    exact ⟨by decide, by decide⟩
  have hstart : ∀ ch ∈ entryStart, Text.Percent.IsPlain ch := Text.Percent.plain_of_all rfl
  have htext : (keyPath key).toList =
      entryStart ++ Text.Percent.encode (· = ':') key.toList :=
    String.toList_append.trans (congrArg (entryStart ++ ·) String.toList_ofList)
  rw [htext]
  exact Text.Percent.decode_append_encode hsafe hstart key.toList

/-- The service takes the path of the key for that key. -/
def Carries (key : String) : Prop :=
  Place.ofPath? (Text.Percent.decode (keyPath key).toList) = some (.entry key)

/-- All keys are carried but those with line breaks. -/
theorem carries_iff (key : String) : Carries key ↔ '\n' ∉ key.toList := by
  rw [Carries, decode_keyPath]
  exact ofPath?_append_iff key

theorem jsonOfBody_valueBody (text : String) :
    jsonOfBody (valueBody text) = .ok (.obj [("value", .str text)]) := by
  have hdistinct : (Json.obj [("value", .str text)]).Distinct :=
    .obj (by simp) fun m hm => by rw [List.mem_singleton.mp hm]; exact .str text
  have hread : Json.readChars (some Json.maxDigits) (valueBody text).toList =
      if (Json.obj [("value", .str text)]).fits (some Json.maxDigits) then
        .ok ((Json.obj [("value", .str text)]).withDoubles .float)
      else .error .numberTooLong :=
    Json.readChars_write Json.readable_compact hdistinct fun x hx => by simp at hx
  have hbrace : ∃ rest, (valueBody text).toList = '{' :: rest := by
    unfold valueBody Json.write
    rw [String.toList_ofList, Json.writeAt]
    exact ⟨_, rfl⟩
  obtain ⟨rest, hbrace⟩ := hbrace
  rw [if_pos (by simp), Json.withDoubles_eq_self fun _ _ => rfl, hbrace] at hread
  unfold jsonOfBody bodyChars
  rw [hbrace]
  exact hread

theorem payload_valueBody (c : Client) (path text : String) :
    payload (c.message "PUT" path [] (valueBody text)) =
      .ok (.value (.obj [("value", .str text)])) := by
  have hread := jsonOfBody_valueBody text
  have hjson : announcesJson "application/json" = true := by decide
  refine payload_of_json (fun h => ?_) hjson hread
  have hempty : valueBody text = "" := h
  rw [hempty] at hread
  cases hread

theorem get_of_key (h : c.Reaches serverKey) {key : String} (hkey : Carries key) :
    c.request (transport serverKey) true (c.message "GET" (keyPath key) [] "") kv =
      (.ok ((kv.get? key).map fun value =>
        ⟨200, .json (.obj [("key", .str key), ("value", .str value)])⟩), kv) := by
  have hrespond : respond serverKey (c.message "GET" (keyPath key) [] "") kv =
      serve (.read key) [] .nothing kv :=
    respond_of_route hkey rfl rfl (admits_message h _ _ _ _)
  cases hget : kv.get? key with
  | none =>
    have hserve : serve (.read key) [] .nothing kv = (detail 404 "Key not found", kv) := by
      simp only [serve, hget]
    rw [request_of_respond h (hrespond.trans hserve)]
    rfl
  | some value =>
    have hserve : serve (.read key) [] .nothing kv =
        (⟨200, .json (.obj [("key", .str key), ("value", .str value)])⟩, kv) := by
      simp only [serve, hget]
    rw [request_of_respond h (hrespond.trans hserve)]
    rfl

theorem put_of_key (h : c.Reaches serverKey) {key : String} (hkey : Carries key)
    (text : String) :
    c.request (transport serverKey) false (c.message "PUT" (keyPath key) [] (valueBody text)) kv =
      (.ok (some done), kv.put key text) := by
  have hrespond : respond serverKey (c.message "PUT" (keyPath key) [] (valueBody text)) kv =
      serve (.write key) [] (.value (.obj [("value", .str text)])) kv :=
    respond_of_route hkey rfl (payload_valueBody c (keyPath key) text) (admits_message h _ _ _ _)
  have hserve : serve (.write key) [] (.value (.obj [("value", .str text)])) kv =
      (done, kv.put key text) := rfl
  rw [request_of_respond h (hrespond.trans hserve)]
  rfl

theorem delete_of_key (h : c.Reaches serverKey) {key : String} (hkey : Carries key) :
    ∃ reply, c.request (transport serverKey) true (c.message "DELETE" (keyPath key) [] "") kv =
      (.ok reply, kv.erase key) := by
  have hrespond : respond serverKey (c.message "DELETE" (keyPath key) [] "") kv =
      serve (.delete key) [] .nothing kv :=
    respond_of_route hkey rfl rfl (admits_message h _ _ _ _)
  cases hget : kv.get? key with
  | none =>
    have hserve : serve (.delete key) [] .nothing kv =
        (detail 404 "Key not found", kv.erase key) := by
      simp only [serve, Kv.Store.delete, hget, Option.isSome]
    exact ⟨none, request_of_respond h (hrespond.trans hserve) true⟩
  | some value =>
    have hserve : serve (.delete key) [] .nothing kv = (done, kv.erase key) := by
      simp only [serve, Kv.Store.delete, hget, Option.isSome]
    exact ⟨some done, request_of_respond h (hrespond.trans hserve) true⟩

/-- The parameter that asks for what follows a key. -/
def cursorQuery : Option String → List (String × String)
  | none => []
  | some last => [("cursor", last)]

/-- What a listing asks for. -/
def listQuery (start : String) (cursor : Option String) : List (String × String) :=
  [("prefix", start), ("limit", Decimal.renderInt 100)] ++ cursorQuery cursor

theorem parameter?_listQuery (start : String) (cursor : Option String) :
    parameter? "prefix" (listQuery start cursor) = some start ∧
      parameter? "limit" (listQuery start cursor) = some "100" ∧
      parameter? "cursor" (listQuery start cursor) = cursor := by
  cases cursor <;> exact ⟨rfl, rfl, rfl⟩

/-- The path of listings. -/
theorem ofPath?_listing : Place.ofPath? (Text.Percent.decode "/api/kv".toList) = some .listing := by
  have hplain : ∀ ch ∈ "/api/kv".toList, Text.Percent.IsPlain ch := Text.Percent.plain_of_all rfl
  rw [Text.Percent.decode_plain hplain]
  decide

/-- A listing is served if it may pass. -/
theorem respond_listing (c : Client) (serverKey : String) (query : List (String × String))
    (s : Kv.Store) :
    respond serverKey (c.message "GET" "/api/kv" query "") s =
      if serverKey = "" ∨ c.apiKey = serverKey then serve .listing query .nothing s
      else (detail 401 "Invalid or missing API key", s) := by
  rw [respond_of_body (r := c.message "GET" "/api/kv" query "") ofPath?_listing rfl rfl]
  by_cases hadmits : serverKey = "" ∨ c.apiKey = serverKey
  · rw [if_pos hadmits, (admits_message_iff c serverKey _ _ _ _).mpr hadmits]
    rfl
  · rw [if_neg hadmits, Bool.eq_false_iff.mpr fun h =>
      hadmits ((admits_message_iff c serverKey _ _ _ _).mp h)]
    rfl

theorem respond_of_page (h : c.Reaches serverKey) {start : String} {cursor : Option String}
    {page : Kv.Store.Page} (hpage : kv.page start cursor 100 = some page) :
    respond serverKey (c.message "GET" "/api/kv" (listQuery start cursor) "") kv =
      (⟨200, .json (pageJson page)⟩, kv) := by
  obtain ⟨hstart, hlimit, hcursor⟩ := parameter?_listQuery start cursor
  rw [respond_listing, if_pos h.admitted]
  simp only [serve, limitOf_hundred hlimit, hstart, hcursor, Option.getD_some, hpage]

theorem list_of_page (h : c.Reaches serverKey) {start : String} {cursor : Option String}
    {page : Kv.Store.Page} (hpage : kv.page start cursor 100 = some page) :
    c.request (transport serverKey) false
        (c.message "GET" "/api/kv" (listQuery start cursor) "") kv =
      (.ok (some ⟨200, .json (pageJson page)⟩), kv) := by
  rw [request_of_respond h (respond_of_page h hpage)]
  rfl

/-- A key without its start. -/
def afterStart (start key : String) : String := String.ofList (key.toList.drop start.length)

theorem idsOf_texts {start : String} {keys : List String}
    (h : ∀ key ∈ keys, Kv.Store.startsWith start key = true) :
    idsOf start (keys.map .str) = .ok (keys.map (afterStart start)) := by
  induction keys with
  | nil => rfl
  | cons key keys ih =>
    have hkey : start.toList.isPrefixOf key.toList = true := h key (List.mem_cons_self ..)
    rw [List.map_cons, idsOf, ih fun k hk => h k (List.mem_cons_of_mem key hk)]
    show (if start.toList.isPrefixOf key.toList = true then _ else _) = _
    rw [if_pos hkey]
    rfl

theorem readPage_pageJson {start : String} {page : Kv.Store.Page}
    (h : ∀ key ∈ page.keys, Kv.Store.startsWith start key = true)
    (hcursor : page.cursor ≠ some "") :
    readPage start (pageJson page) =
      .ok (page.keys.map (afterStart start), page.cursor.map .str) := by
  obtain ⟨keys, cursor⟩ := page
  have hids := idsOf_texts h
  show (idsOf start (keys.map .str) >>= fun ids => _) = _
  rw [hids]
  cases cursor with
  | none => rfl
  | some last =>
    have hlast : (last != "") = true := bne_iff_ne.mpr fun heq => hcursor (by rw [heq])
    show Except.ok (_, if (false || ! (last != "")) = true then none else some (Json.str last)) = _
    rw [hlast]
    rfl


/-! ## Listings -/

/-- A key is its id after the start of the keys of its kind. -/
theorem toList_key (c : Client) (kind : Kind) (id : String) :
    (c.key kind id).toList = (c.key kind "").toList ++ id.toList := by
  simp [key, String.toList_append]

theorem key_ne_empty (c : Client) (kind : Kind) (id : String) : c.key kind id ≠ "" := by
  intro h
  have hnil := congrArg String.toList h
  simp [key, String.toList_append] at hnil

/-- The pages from some key on: what is left of the keys with the start, each once. -/
theorem idsFrom_of_listed (h : c.Reaches serverKey) {kind : Kind} {done rest : List String}
    (hlisted : kv.listed (c.key kind "") = done ++ rest) {fuel : Nat} (hfuel : rest.length < fuel) :
    c.idsFrom (transport serverKey) kind fuel (cursorQuery done.getLast?) kv =
      (.ok (rest.map (afterStart (c.key kind ""))), kv) := by
  induction fuel generalizing done rest with
  | zero => omega
  | succ fuel ih =>
    have hlast : ∀ last ∈ done.getLast?, Kv.Store.startsWith (c.key kind "") last = true := by
      intro last hlast
      refine Kv.Store.startsWith_of_mem_listed (s := kv) ?_
      rw [hlisted]
      exact List.mem_append_left _ (List.mem_of_getLast? hlast)
    have hpage := Kv.Store.page_of_cursor (s := kv)
      (Kv.Store.cursor_ne_empty (key_ne_empty c kind "") hlast) hlast
      (by decide : 0 < 100)
    rw [Kv.Store.ahead_of_listed hlisted] at hpage
    have hlist := list_of_page h hpage
    have hstarts : ∀ key ∈ rest, Kv.Store.startsWith (c.key kind "") key = true := by
      intro key hkey
      refine Kv.Store.startsWith_of_mem_listed (s := kv) ?_
      rw [hlisted]
      exact List.mem_append_right _ hkey
    have htake : ∀ key ∈ rest.take 100, Kv.Store.startsWith (c.key kind "") key = true :=
      fun key hkey => hstarts key (List.mem_of_mem_take hkey)
    unfold idsFrom
    rw [h.page]
    refine (bind_of_ok hlist _).trans ?_
    refine (bind_of_ok (Act.ofExcept_ok _ kv) _).trans ?_
    by_cases hlength : rest.length ≤ 100
    · have hread : readPage (c.key kind "") (pageJson ⟨rest.take 100, none⟩) = _ :=
        readPage_pageJson htake (Option.some_ne_none "").symm
      rw [if_pos hlength, hread, List.take_of_length_le hlength]
      rfl
    · obtain ⟨last, hlast⟩ : ∃ last, (rest.take 100).getLast? = some last := by
        refine Option.ne_none_iff_exists'.mp fun hnone => ?_
        have hzero := congrArg List.length (List.getLast?_eq_none_iff.mp hnone)
        rw [List.length_take, List.length_nil] at hzero
        omega
      have hne : last ≠ "" := by
        rintro rfl
        have hnil := Kv.startsWith_iff.mp (htake "" (List.mem_of_getLast? hlast))
        exact key_ne_empty c kind "" (String.toList_inj.mp (List.prefix_nil.mp hnil))
      have hcursor : (done ++ rest.take 100).getLast? = some last := by
        rw [List.getLast?_append, hlast]
        rfl
      -- the next page begins where the last key of this one ends
      have hlisted' : kv.listed (c.key kind "") = (done ++ rest.take 100) ++ rest.drop 100 := by
        rw [List.append_assoc, List.take_append_drop, hlisted]
      have hnext := ih hlisted' (by rw [List.length_drop]; omega)
      rw [hcursor] at hnext
      rw [if_neg hlength, hlast, readPage_pageJson htake fun heq => hne (Option.some_inj.mp heq)]
      refine (bind_of_ok (Act.ofExcept_ok _ kv) _).trans ?_
      refine (bind_of_ok hnext _).trans ?_
      show (Except.ok ((rest.take 100).map _ ++ (rest.drop 100).map _), kv) = _
      rw [← List.map_append, List.take_append_drop]

/-- The listing of a kind: the keys of the kind without their start. -/
theorem ids_of_reaches (h : c.Reaches serverKey) (kind : Kind) :
    c.ids (transport serverKey) kind kv =
      (.ok ((kv.listed (c.key kind "")).map (afterStart (c.key kind ""))), kv) := by
  have hget : (get : Act Kv.Store Kv.Store) kv = (.ok kv, kv) := rfl
  have hfuel : (kv.listed (c.key kind "")).length < kv.size + 1 := by
    have hle := List.length_filter_le (Kv.Store.startsWith (c.key kind "")) kv.keys
    have hsize : kv.keys.length = kv.size := List.length_map ..
    unfold Kv.Store.listed
    omega
  have hlisted : kv.listed (c.key kind "") = [] ++ kv.listed (c.key kind "") := rfl
  unfold ids
  rw [bind_of_ok hget]
  exact idsFrom_of_listed h hlisted hfuel

/-! ## Keys and ids -/

theorem startsWith_key (c : Client) (kind : Kind) (id : String) :
    Kv.Store.startsWith (c.key kind "") (c.key kind id) = true := by
  rw [Kv.startsWith_iff, toList_key c kind id]
  exact List.prefix_append _ _

theorem toList_afterStart (start key : String) :
    (afterStart start key).toList = key.toList.drop start.toList.length := by
  unfold afterStart
  rw [String.toList_ofList, String.length_toList]

theorem afterStart_key (c : Client) (kind : Kind) (id : String) :
    afterStart (c.key kind "") (c.key kind id) = id := by
  refine String.toList_inj.mp ?_
  rw [toList_afterStart, toList_key c kind id, List.drop_left]

/-- A key with the start of a kind is the key of an id. -/
theorem key_afterStart {kind : Kind} {key : String}
    (h : Kv.Store.startsWith (c.key kind "") key = true) :
    c.key kind (afterStart (c.key kind "") key) = key := by
  obtain ⟨rest, hrest⟩ := Kv.startsWith_iff.mp h
  refine String.toList_inj.mp ?_
  rw [toList_key, toList_afterStart, ← hrest, List.drop_left]

/-- Two records never share a key. -/
theorem key_inj {j k : Kind} {a b : String} (h : c.key j a = c.key k b) : j = k ∧ a = b := by
  have hkeys := congrArg String.toList h
  simp only [key, String.toList_append, List.append_assoc, List.append_cancel_left_eq] at hkeys
  cases j <;> cases k
  · exact ⟨rfl, String.toList_inj.mp (List.append_cancel_left (List.append_cancel_left hkeys))⟩
  · cases hkeys
  · cases hkeys
  · exact ⟨rfl, String.toList_inj.mp (List.append_cancel_left (List.append_cancel_left hkeys))⟩

theorem key_inj_iff {j k : Kind} {a b : String} : c.key j a = c.key k b ↔ j = k ∧ a = b := by
  constructor
  · exact key_inj
  · rintro ⟨rfl, rfl⟩
    rfl

/-! ## The service as a storage -/

/-- The service has the texts of the shelf under the keys of the client, which it takes as
they are. -/
structure Holds (c : Client) (m : Shelf) (kv : Kv.Store) : Prop where
  values : ∀ kind id, kv.get? (c.key kind id) = m kind id
  carried : ∀ kind id, m kind id ≠ none → Carries (c.key kind id)

variable {m : Shelf} {kind : Kind} {id : String}

theorem read_of_holds (h : c.Reaches serverKey) (hkv : c.Holds m kv)
    (hid : Carries (c.key kind id)) :
    c.read (transport serverKey) kind id kv = (.ok (m kind id), kv) := by
  unfold read
  rw [bind_of_ok (get_of_key h hid), hkv.values]
  cases m kind id <;> rfl

theorem write_of_carries (h : c.Reaches serverKey) (hid : Carries (c.key kind id))
    (text : String) :
    c.write (transport serverKey) kind id text kv = (.ok (), kv.put (c.key kind id) text) := by
  unfold write
  rw [bind_of_ok (put_of_key h hid text)]
  rfl

theorem holds_put (hkv : c.Holds m kv) (hid : Carries (c.key kind id)) (text : String) :
    c.Holds (m.set kind id (some text)) (kv.put (c.key kind id) text) := by
  refine ⟨fun k i => ?_, Shelf.forall_set hkv.carried hid _⟩
  rw [Kv.Store.get?_put, Shelf.set_eq_ite _ _ key_inj_iff, hkv.values]

theorem write_of_holds (h : c.Reaches serverKey) (hkv : c.Holds m kv)
    (hid : Carries (c.key kind id)) (text : String) :
    ∃ t, c.write (transport serverKey) kind id text kv = (.ok (), t) ∧
      c.Holds (m.set kind id (some text)) t :=
  ⟨kv.put (c.key kind id) text, write_of_carries h hid text, holds_put hkv hid text⟩

theorem remove_of_holds (h : c.Reaches serverKey) (hkv : c.Holds m kv)
    (hid : Carries (c.key kind id)) :
    ∃ t, c.remove (transport serverKey) kind id kv = (.ok (), t) ∧
      c.Holds (m.set kind id none) t := by
  obtain ⟨reply, hdelete⟩ : ∃ reply, c.request (transport serverKey) true
      (c.message "DELETE" (keyPath (c.key kind id)) [] "") kv =
        (.ok reply, kv.erase (c.key kind id)) := delete_of_key h hid
  refine ⟨kv.erase (c.key kind id), ?_, fun k i => ?_, fun k i hi =>
    hkv.carried k i (Shelf.ne_none_of_set hi)⟩
  · unfold remove
    rw [bind_of_ok hdelete]
    rfl
  · rw [Kv.Store.get?_erase, Shelf.set_eq_ite _ _ key_inj_iff, hkv.values]

/-- The ids that are listed are those of the keys of the client with a text, in order. -/
theorem ascends_listed (c : Client) (kv : Kv.Store) (kind : Kind) :
    Ascends (fun id => kv.get? (c.key kind id))
      ((kv.listed (c.key kind "")).map (afterStart (c.key kind ""))) := by
  refine ⟨List.pairwise_map.mpr ?_, fun id => ?_⟩
  · refine (Kv.Store.sorted_listed kv (c.key kind "")).imp_of_mem fun {a b} ha hb hab => ?_
    have ha' := key_afterStart (Kv.Store.startsWith_of_mem_listed ha)
    have hb' := key_afterStart (Kv.Store.startsWith_of_mem_listed hb)
    rw [String.lt_iff, ← ha', ← hb', toList_key, toList_key c kind (afterStart _ b),
      Kv.append_lt_append_iff] at hab
    exact hab
  · rw [List.mem_map, ← Kv.Store.mem_keys]
    constructor
    · rintro ⟨key, hkey, rfl⟩
      rw [key_afterStart (Kv.Store.startsWith_of_mem_listed hkey)]
      exact (List.mem_filter.mp hkey).1
    · intro hkey
      exact ⟨c.key kind id, List.mem_filter.mpr ⟨hkey, startsWith_key c kind id⟩,
        afterStart_key c kind id⟩

/-- A service serves as long as it takes the keys as they are. -/
theorem serves (h : c.Reaches serverKey) :
    (c.backend (transport serverKey)).Serves (fun kind id => Carries (c.key kind id)) c.Holds where
  read hkv hid := read_of_holds h hkv hid
  write text hkv hid := write_of_holds h hkv hid text
  remove hkv hid := remove_of_holds h hkv hid
  ids kind hkv := ⟨_, ids_of_reaches h kind,
    funext (hkv.values kind) ▸ ascends_listed c _ kind⟩
  fits hkv hrecord := hkv.carried _ _ hrecord

/-- A service without keys of the client holds nothing for it. -/
theorem holds_of_foreign (h : ∀ kind, kv.listed (c.key kind "") = []) :
    c.Holds (fun _ _ => none) kv := by
  refine ⟨fun kind id => Decidable.byContradiction fun hsome => ?_, nofun⟩
  have hmem : c.key kind id ∈ kv.listed (c.key kind "") :=
    List.mem_filter.mpr ⟨Kv.Store.mem_keys.mpr hsome, startsWith_key c kind id⟩
  rw [h kind] at hmem
  cases hmem

end Storyline.Storage.Client
