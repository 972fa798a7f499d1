import Storyline.Proofs.Storage.Agreement
import Storyline.Proofs.Storage.Composing

/-!
# Sessions apart

Clients of one service keep to their own keys.  Keys of two sessions differ as long as
neither session goes on from the other with a colon and the name of a kind; otherwise all
records of the one are records of the other too.

* `Client.Owns`: the keys of a client; `Client.Agree`: two services with the same texts there;
* `Client.KeepsTo`: what is done depends on those keys alone, and changes no others;
* `Client.keepsTo_obey`: every order of a storage behind the service keeps to its keys;
* `Client.Nests`: the records of one session are among those of another;
* `sessions_isolated`: clients that are not nested get the answers that each would get
  alone, and nested ones lose what they wrote.
-/

namespace Storyline.Storage

open Http Kv

/-- Of two lists that are the same, the first part of the one is at the start of the first part
of the other if it has no separator and both go on with one. -/
theorem prefix_of_separator {α : Type} {x : α} {as bs cs ds : List α} (hx : x ∉ as)
    (h : as ++ x :: cs = bs ++ x :: ds) : as ++ [x] <+: bs ++ [x] := by
  rcases List.append_eq_append_iff.mp h with ⟨es, rfl, htail⟩ | ⟨es, rfl, htail⟩
  · cases es with
    | nil => exact ⟨[], by simp⟩
    | cons e es =>
      obtain ⟨rfl, -⟩ := List.cons.inj htail
      exact ⟨es ++ [x], by simp⟩
  · cases es with
    | nil => exact ⟨[], by simp⟩
    | cons e es =>
      obtain ⟨rfl, -⟩ := List.cons.inj htail
      exact absurd (by simp) hx

namespace Client

/-! ## The keys of a client -/

/-- The key is that of a record of the client. -/
def Owns (c : Client) (key : String) : Prop := ∃ kind id, key = c.key kind id

/-- The services have the same texts under the keys of the client. -/
def Agree (c : Client) (s t : Kv.Store) : Prop := ∀ key, c.Owns key → s.get? key = t.get? key

variable {c : Client}

theorem owns_key (c : Client) (kind : Kind) (id : String) : c.Owns (c.key kind id) :=
  ⟨kind, id, rfl⟩

theorem Agree.refl (c : Client) (s : Kv.Store) : c.Agree s s := fun _ _ => rfl

/-- What is done to the service has an outcome that depends on the keys of the client alone,
and so do the texts that it leaves there; those of other keys it leaves as they are. -/
structure KeepsTo (c : Client) {β : Type} (f : Kv.Store → β × Kv.Store) : Prop where
  outcome : ∀ {s t}, c.Agree s t → (f s).1 = (f t).1
  own : ∀ {s t}, c.Agree s t → c.Agree (f s).2 (f t).2
  others : ∀ s key, ¬ c.Owns key → (f s).2.get? key = s.get? key

theorem keepsTo_const {β : Type} (b : β) : c.KeepsTo fun s => (b, s) where
  outcome _ := rfl
  own h := h
  others _ _ _ := rfl

/-- Computations that keep to the keys of a client can follow one another. -/
theorem composes_keepsTo (c : Client) :
    Composes (fun α (m : Act Kv.Store α) => c.KeepsTo m) where
  pure a := keepsTo_const (Except.ok a)
  throw f := keepsTo_const (Except.error f)
  bind {α β m f} hm hf := by
    have hagree : ∀ {s t}, c.Agree s t →
        ((m >>= f) s).1 = ((m >>= f) t).1 ∧ c.Agree ((m >>= f) s).2 ((m >>= f) t).2 := by
      intro s t hst
      have houtcome := hm.outcome hst
      have hown := hm.own hst
      cases hs : m s with
      | mk r s' =>
        cases ht : m t with
        | mk r' t' =>
          rw [hs, ht] at houtcome hown
          have hr : r' = r := houtcome.symm
          rw [hr] at ht
          cases r with
          | ok a =>
            rw [bind_of_ok hs, bind_of_ok ht]
            exact ⟨(hf a).outcome hown, (hf a).own hown⟩
          | error e =>
            rw [bind_of_error hs, bind_of_error ht]
            exact ⟨rfl, hown⟩
    refine ⟨fun h => (hagree h).1, fun h => (hagree h).2, fun s key hkey => ?_⟩
    have hothers := hm.others s key hkey
    cases hs : m s with
    | mk r s' =>
      rw [hs] at hothers
      cases r with
      | ok a =>
        rw [bind_of_ok hs]
        exact ((hf a).others s' key hkey).trans hothers
      | error e =>
        rw [bind_of_error hs]
        exact hothers

/-! ## Requests for records -/

/-- The service takes the path of a record for a record of the same client. -/
theorem owns_of_ofPath? {kind : Kind} {id : String} {place : Place}
    (h : Place.ofPath? (Text.Percent.decode (keyPath (c.key kind id)).toList) = some place) :
    ∃ key, place = .entry key ∧ c.Owns key := by
  rw [decode_keyPath, ofPath?_entryStart] at h
  dsimp only at h
  have hpath : ∃ id', (if (c.key kind id).toList.getLast? = some '\n' then
      (c.key kind id).toList.dropLast else (c.key kind id).toList) = (c.key kind id').toList := by
    split
    · rename_i hlast
      -- the keys of a kind begin with a colon before the id, so the line break is in the id
      have hid : id.toList ≠ [] := by
        intro hnil
        have hcolon : (c.key kind id).toList =
            (c.namespaceName ++ ":" ++ c.session ++ ":" ++ kind.name).toList ++ [':'] := by
          simp [key, hnil, String.toList_append]
        rw [hcolon, List.getLast?_concat] at hlast
        cases hlast
      refine ⟨String.ofList id.toList.dropLast, ?_⟩
      have hkey := toList_key c kind (String.ofList id.toList.dropLast)
      rw [hkey, String.toList_ofList, toList_key, List.dropLast_append_of_ne_nil hid]
    · exact ⟨id, rfl⟩
  obtain ⟨id', hid'⟩ := hpath
  rw [hid', String.ofList_toList] at h
  split at h
  · cases h
  · exact ⟨c.key kind id', (Option.some_inj.mp h).symm, owns_key c kind id'⟩

theorem keepsTo_serve_read {key : String} (hkey : c.Owns key)
    (query : List (String × String)) (body : Payload) : c.KeepsTo (serve (.read key) query body) := by
  refine ⟨fun {s t} h => ?_, fun {s t} h => ?_, fun s k _ => ?_⟩
  · simp only [serve, h key hkey]
    cases t.get? key <;> rfl
  · simp only [serve, h key hkey]
    cases t.get? key <;> exact h
  · simp only [serve]
    cases s.get? key <;> rfl

theorem keepsTo_serve_write {key : String} (hkey : c.Owns key)
    (query : List (String × String)) (body : Payload) :
    c.KeepsTo (serve (.write key) query body) := by
  cases hvalue : Kv.valueOf body with
  | good value =>
    have hserve : serve (.write key) query body = fun s => (done, s.put key value) := by
      funext s
      simp only [serve, hvalue]
    rw [hserve]
    refine ⟨fun _ => rfl, fun h k hk => ?_, fun s k hk => ?_⟩
    · rw [Kv.Store.get?_put, Kv.Store.get?_put, h k hk]
    · rw [Kv.Store.get?_put, if_neg fun (heq : k = key) => hk (heq ▸ hkey)]
  | bad issues =>
    have hserve : serve (.write key) query body = fun s => (unprocessable issues, s) := by
      funext s
      simp only [serve, hvalue]
    rw [hserve]
    exact keepsTo_const _

theorem keepsTo_serve_delete {key : String} (hkey : c.Owns key)
    (query : List (String × String)) (body : Payload) :
    c.KeepsTo (serve (.delete key) query body) := by
  have hafter : ∀ s, (serve (.delete key) query body s).2 = s.erase key := by
    intro s
    simp only [serve, Kv.Store.delete]
    cases s.get? key <;> rfl
  refine ⟨fun {s t} h => ?_, fun {s t} h k hk => ?_, fun s k hk => ?_⟩
  · simp only [serve, Kv.Store.delete, h key hkey]
    cases t.get? key <;> rfl
  · rw [hafter, hafter, Kv.Store.get?_erase, Kv.Store.get?_erase, h k hk]
  · rw [hafter, Kv.Store.get?_erase, if_neg fun (heq : k = key) => hk (heq ▸ hkey)]

/-- Whatever is served at a record of the client keeps to its keys. -/
theorem keepsTo_serve {key : String} (hkey : c.Owns key) {method : String} {route : Kv.Route}
    (hroute : (Place.entry key).route? method = some route) (query : List (String × String))
    (body : Payload) : c.KeepsTo (serve route query body) := by
  unfold Place.route? at hroute
  dsimp only at hroute
  split at hroute
  · rw [← Option.some_inj.mp hroute]
    exact keepsTo_serve_read hkey query body
  · split at hroute
    · rw [← Option.some_inj.mp hroute]
      exact keepsTo_serve_write hkey query body
    · split at hroute
      · rw [← Option.some_inj.mp hroute]
        exact keepsTo_serve_delete hkey query body
      · cases hroute

/-- Whatever a request for a record asks, the service touches records of that client only. -/
theorem keepsTo_respond (c : Client) (serverKey method : String) (kind : Kind) (id body : String) :
    c.KeepsTo (respond serverKey (c.message method (keyPath (c.key kind id)) [] body)) := by
  generalize hr : c.message method (keyPath (c.key kind id)) [] body = r
  have hpath : r.path = keyPath (c.key kind id) := by rw [← hr]; rfl
  have hfixed : ∀ reply, (∀ s, respond serverKey r s = (reply, s)) →
      c.KeepsTo (respond serverKey r) := by
    intro reply hrespond
    rw [funext hrespond]
    exact keepsTo_const reply
  cases hplace : Place.ofPath? (Text.Percent.decode r.path.toList) with
  | none =>
    by_cases hslash : (Text.Percent.decode r.path.toList != ['/'] &&
        (Place.ofPath? (otherSlash (Text.Percent.decode r.path.toList))).isSome) = true
    · refine hfixed ⟨307, .text ""⟩ fun s => ?_
      simp only [respond, hplace, if_pos hslash]
    · refine hfixed (detail 404 "Not Found") fun s => ?_
      simp only [respond, hplace, if_neg hslash]
  | some place =>
    have howns := hplace
    rw [hpath] at howns
    obtain ⟨key, rfl, hkey⟩ := owns_of_ofPath? howns
    cases hroute : (Place.entry key).route? r.method with
    | none =>
      refine hfixed (detail 405 "Method Not Allowed") fun s => ?_
      simp only [respond, hplace, hroute]
    | some route =>
      have hserved : ∀ body, (∀ s, respond serverKey r s =
          if (route != .health && ! admits serverKey r) = true then
            (detail 401 "Invalid or missing API key", s)
          else serve route r.query body s) → c.KeepsTo (respond serverKey r) := by
        intro body hrespond
        by_cases hrefused : (route != .health && ! admits serverKey r) = true
        · simp only [if_pos hrefused] at hrespond
          exact hfixed _ hrespond
        · simp only [if_neg hrefused] at hrespond
          rw [funext hrespond]
          exact keepsTo_serve hkey hroute r.query body
      cases route with
      | write written =>
        cases hbody : payload r with
        | error reply =>
          refine hfixed reply fun s => ?_
          simp only [respond, hplace, hroute, hbody]
        | ok body => exact hserved body (respond_of_body hplace hroute hbody)
      | health | listing | read | delete =>
        exact hserved .nothing (respond_of_body hplace hroute rfl)

theorem keepsTo_request (c : Client) (serverKey : String) (missing : Bool) (method : String)
    (kind : Kind) (id body : String) :
    c.KeepsTo (c.request (transport serverKey) missing
      (c.message method (keyPath (c.key kind id)) [] body)) := by
  have hrespond := keepsTo_respond c serverKey method kind id body
  generalize c.message method (keyPath (c.key kind id)) [] body = r at hrespond ⊢
  have hrequest := request_apply c serverKey missing r
  by_cases hascii : c.apiKey.toList.any (0x80 ≤ ·.toNat) = true
  · simp only [if_pos hascii] at hrequest
    rw [funext hrequest]
    exact keepsTo_const _
  · simp only [if_neg hascii] at hrequest
    rw [funext hrequest]
    refine ⟨fun h => ?_, hrespond.own, hrespond.others⟩
    rw [hrespond.outcome h]

/-! ## Orders -/

theorem keepsTo_ids (c : Client) (serverKey : String) (hpage : c.pageSize = 100) (kind : Kind) :
    c.KeepsTo (c.ids (transport serverKey) kind) := by
  by_cases hreaches : c.Reaches serverKey
  · have hids : c.ids (transport serverKey) kind = fun s =>
        (.ok ((s.listed (c.key kind "")).map (afterStart (c.key kind ""))), s) :=
      funext fun s => ids_of_reaches hreaches kind
    rw [hids]
    refine ⟨fun {s t} h => ?_, fun h => h, fun _ _ _ => rfl⟩
    have hsame : (fun id => s.get? (c.key kind id)) = fun id => t.get? (c.key kind id) :=
      funext fun id => h _ (owns_key c kind id)
    have hs := ascends_listed c s kind
    rw [hsame] at hs
    exact congrArg Except.ok (hs.eq (ascends_listed c t kind))
  · -- a client that is not let in fails at the first page, whatever the service holds
    have hfails : ∃ f, ∀ s, c.request (transport serverKey) false
        (c.message "GET" "/api/kv" (listQuery (c.key kind "") none) "") s = (.error f, s) := by
      by_cases hascii : c.apiKey.toList.any (0x80 ≤ ·.toNat) = true
      · refine ⟨.escape .headerNotAscii, fun s => ?_⟩
        rw [request_apply, if_pos hascii]
      · have hrefused : ¬ (serverKey = "" ∨ c.apiKey = serverKey) := fun hadmits =>
          hreaches ⟨Bool.eq_false_iff.mpr hascii, hadmits, hpage⟩
        refine ⟨.fault (.status 401), fun s => ?_⟩
        rw [request_apply, if_neg hascii, respond_listing, if_neg hrefused]
        rfl
    obtain ⟨f, hfails⟩ := hfails
    have hids : c.ids (transport serverKey) kind = fun s => (.error f, s) := by
      funext s
      have hget : (get : Act Kv.Store Kv.Store) s = (.ok s, s) := rfl
      have hfuel : (transport serverKey).patience s = s.size + 1 := rfl
      unfold ids
      rw [bind_of_ok hget, hfuel, idsFrom, hpage]
      exact bind_of_error (hfails s) _
    rw [hids]
    exact keepsTo_const _

/-- The primitives of a storage behind the service keep to its keys. -/
theorem has_keepsTo (c : Client) (serverKey : String) (hpage : c.pageSize = 100) :
    (c.backend (transport serverKey)).Has fun _ m => c.KeepsTo m where
  read kind id := by
    refine (composes_keepsTo c).bind (keepsTo_request c serverKey true "GET" kind id "")
      fun reply => ?_
    cases reply with
    | none => exact keepsTo_const _
    | some r =>
      exact (composes_keepsTo c).bind ((composes_keepsTo c).ofExcept (jsonOf r)) fun v =>
        (composes_keepsTo c).map ((composes_keepsTo c).ofExcept (valueOf v)) some
  write kind id text :=
    (composes_keepsTo c).bind (keepsTo_request c serverKey false "PUT" kind id (valueBody text))
      fun _ => (composes_keepsTo c).pure ()
  remove kind id :=
    (composes_keepsTo c).bind (keepsTo_request c serverKey true "DELETE" kind id "")
      fun _ => (composes_keepsTo c).pure ()
  ids kind := keepsTo_ids c serverKey hpage kind

/-- The storage of a client behind the service. -/
def store (c : Client) (serverKey : String) (version : Int) : Store Kv.Store :=
  ⟨c.backend (transport serverKey), version⟩

/-- Every order of a storage behind the service keeps to the keys of its client. -/
theorem keepsTo_obey (c : Client) (serverKey : String) (hpage : c.pageSize = 100) (version : Int)
    (now : String) (o : Order) : c.KeepsTo ((c.store serverKey version).obey now o) :=
  (composes_keepsTo c).obey (has_keepsTo c serverKey hpage) now o

/-! ## Sessions that go on from another -/

/-- The session of the second client goes on from that of the first with a colon and the name
of a kind. -/
def Nests (a b : Client) : Prop :=
  ∃ kind : Kind,
    Kv.Store.startsWith (a.session ++ ":" ++ kind.name ++ ":") (b.session ++ ":") = true

variable {a b : Client}

theorem toList_key_append (c : Client) (kind : Kind) (id : String) :
    (c.key kind id).toList = c.namespaceName.toList ++ ':' ::
      (c.session.toList ++ ':' :: (kind.name.toList ++ ':' :: id.toList)) := by
  simp [key, String.toList_append]

theorem nests_of_append {kind : Kind} {es is rest : List Char}
    (hb : b.session.toList = a.session.toList ++ es) (hes : es ≠ [])
    (h : ':' :: (kind.name.toList ++ ':' :: is) = es ++ ':' :: rest) : a.Nests b := by
  obtain ⟨ch, es, rfl⟩ := List.exists_cons_of_ne_nil hes
  obtain ⟨rfl, htail⟩ := List.cons.inj h
  have hcolon : ':' ∉ kind.name.toList := by cases kind <;> decide
  obtain ⟨ds, hds⟩ := prefix_of_separator hcolon htail
  refine ⟨kind, Kv.startsWith_iff.mpr ⟨ds, ?_⟩⟩
  have hlists : a.session.toList ++ ':' :: (kind.name.toList ++ [':'] ++ ds) =
      b.session.toList ++ [':'] := by
    rw [hds, hb]
    simp
  simpa [String.toList_append] using hlists

/-- Two sessions of one namespace share a record only if one of them goes on from the other. -/
theorem nests_of_owns (hnamespace : a.namespaceName = b.namespaceName)
    (hsession : a.session ≠ b.session) {key : String} (ha : a.Owns key) (hb : b.Owns key) :
    a.Nests b ∨ b.Nests a := by
  obtain ⟨j, id, rfl⟩ := ha
  obtain ⟨k, other, hkey⟩ := hb
  have hlists := congrArg String.toList hkey
  rw [toList_key_append, toList_key_append, hnamespace] at hlists
  have hrest := (List.cons.inj (List.append_cancel_left hlists)).2
  have hne : a.session.toList ≠ b.session.toList := fun h => hsession (String.toList_inj.mp h)
  rcases List.append_eq_append_iff.mp hrest with ⟨es, hlonger, htail⟩ | ⟨es, hlonger, htail⟩
  · refine Or.inl (nests_of_append hlonger (fun hes => hne ?_) htail)
    rw [hlonger, hes, List.append_nil]
  · refine Or.inr (nests_of_append hlonger (fun hes => hne ?_) htail)
    rw [hlonger, hes, List.append_nil]

/-- All records of a session that goes on from another are records of that one too. -/
theorem owns_of_nests (hnamespace : a.namespaceName = b.namespaceName) (h : a.Nests b)
    {key : String} (hb : b.Owns key) : a.Owns key := by
  obtain ⟨kind, hstarts⟩ := h
  obtain ⟨k, id, rfl⟩ := hb
  obtain ⟨rest, hrest⟩ := Kv.startsWith_iff.mp hstarts
  refine ⟨kind, String.ofList (rest ++ k.name.toList ++ ':' :: id.toList), ?_⟩
  have hsession : b.session.toList ++ [':'] =
      a.session.toList ++ ':' :: (kind.name.toList ++ ':' :: rest) := by
    simpa [String.toList_append] using hrest.symm
  refine String.toList_inj.mp ?_
  rw [toList_key_append, toList_key_append, String.toList_ofList, hnamespace]
  calc b.namespaceName.toList ++ ':' ::
        (b.session.toList ++ ':' :: (k.name.toList ++ ':' :: id.toList))
      = b.namespaceName.toList ++ ':' ::
          ((b.session.toList ++ [':']) ++ (k.name.toList ++ ':' :: id.toList)) := by simp
    _ = b.namespaceName.toList ++ ':' :: (a.session.toList ++ ':' :: (kind.name.toList ++ ':' ::
          (rest ++ k.name.toList ++ ':' :: id.toList))) := by rw [hsession]; simp

example : Nests { gateClient with session := "team" }
    { gateClient with session := "team:save" } := ⟨.save, by decide⟩

theorem not_nests_self (c : Client) : ¬ c.Nests c := by
  rintro ⟨kind, hstarts⟩
  have hle := (Kv.startsWith_iff.mp hstarts).length_le
  simp only [String.toList_append, List.length_append] at hle
  have hcolon : (":" : String).toList.length = 1 := rfl
  omega

end Client

/-! ## Orders to several storages -/

section Exchange

variable {σ ι : Type}

/-- What comes back from orders to several storages over one state, each with the storage that
it went to. -/
def exchange (stores : ι → Store σ) (s : σ) :
    List (ι × String × Order) → List (ι × Except Failure Answer)
  | [] => []
  | o :: orders =>
    (o.1, ((stores o.1).obey o.2.1 o.2.2 s).1) ::
      exchange stores ((stores o.1).obey o.2.1 o.2.2 s).2 orders

variable [DecidableEq ι]

/-- The part of a list that belongs to one of several. -/
def part {α : Type} (i : ι) (xs : List (ι × α)) : List α :=
  xs.filterMap fun x => if x.1 = i then some x.2 else none

theorem part_cons_self {α : Type} (i : ι) (a : α) (xs : List (ι × α)) :
    part i ((i, a) :: xs) = a :: part i xs := by
  simp [part]

theorem part_cons_of_ne {α : Type} {i j : ι} (h : j ≠ i) (a : α) (xs : List (ι × α)) :
    part i ((j, a) :: xs) = part i xs := by
  simp [part, h]

variable {c : ι → Client} {serverKey : String} {version : Int}

/-- As long as no two clients share a key, each of them gets the answers that it would get
without the others. -/
theorem part_exchange (hpage : ∀ i, (c i).pageSize = 100)
    (hapart : ∀ i j, i ≠ j → ∀ key, (c i).Owns key → ¬ (c j).Owns key) (i : ι)
    (orders : List (ι × String × Order)) {s t : Kv.Store} (h : (c i).Agree s t) :
    part i (exchange (fun j => (c j).store serverKey version) s orders) =
      ((c i).store serverKey version).answers t (part i orders) := by
  induction orders generalizing s t with
  | nil => rfl
  | cons o orders ih =>
    obtain ⟨j, now, order⟩ := o
    have hkeeps := (c j).keepsTo_obey serverKey (hpage j) version now order
    by_cases hj : j = i
    · subst hj
      rw [exchange, part_cons_self, part_cons_self, Store.answers, hkeeps.outcome h,
        ih (hkeeps.own h)]
    · rw [exchange, part_cons_of_ne hj, part_cons_of_ne hj]
      refine ih fun key hkey => ?_
      rw [hkeeps.others s key (hapart i j (Ne.symm hj) key hkey), h key hkey]

end Exchange

/-! ## The loss of nested sessions -/

section Nested

variable {a b : Client} {serverKey : String} {version : Int} {key : String} {v : Json}

/-- Clearing a session takes away the setting of one that goes on from it. -/
theorem getSetting_of_cleared (hnamespace : a.namespaceName = b.namespaceName)
    (h : a.Nests b) (ha : a.Reaches serverKey) (hb : b.Reaches serverKey)
    (hkey : Client.Carries (b.key .setting key)) {s : Kv.Store}
    (hs : s = Kv.Store.empty.put (b.key .setting key) (v.write .spaced)) :
    ∃ t, (a.store serverKey version).clear s = (.ok (), t) ∧
      (b.store serverKey version).getSetting key t = (.ok none, t) := by
  obtain ⟨kind, id, hshared⟩ := Client.owns_of_nests hnamespace h (b.owns_key .setting key)
  have hget : ∀ other, s.get? other =
      if other = b.key .setting key then some (v.write .spaced) else none := by
    intro other
    rw [hs, Kv.Store.get?_put]
    rfl
  have hholds : a.Holds (fun k i => s.get? (a.key k i)) s := by
    refine ⟨fun _ _ => rfl, fun k i hi => ?_⟩
    rw [hget] at hi
    split at hi
    · rename_i hsame
      rw [hsame]
      exact hkey
    · exact absurd rfl hi
  have hserves : (a.store serverKey version).backend.Serves _ a.Holds := Client.serves ha
  obtain ⟨t, hclear, ht⟩ := clear_of_holds hserves hholds
  have hgone : t.get? (b.key .setting key) = none := by
    rw [hshared]
    exact ht.values kind id
  have hread : (b.store serverKey version).backend.read .setting key t = (.ok none, t) := by
    show b.read (Kv.transport serverKey) .setting key t = _
    unfold Client.read
    rw [bind_of_ok (Client.get_of_key hb hkey), hgone]
    rfl
  refine ⟨t, hclear, ?_⟩
  unfold Store.getSetting
  rw [bind_of_ok hread]
  rfl

/-- A setting that was given a value has it, if nobody else is there. -/
theorem answers_of_setting (hb : b.Reaches serverKey)
    (hkey : Client.Carries (b.key .setting key)) (hv : v.Storable) (now : String) :
    (b.store serverKey version).answers Kv.Store.empty
        [(now, .setSetting key (some v)), (now, .getSetting key)] =
      [.ok .nothing, .ok (.setting (some v))] := by
  have hstart : InStep b.Holds Ledger.empty Kv.Store.empty :=
    inStep_empty (Client.holds_of_foreign fun kind => rfl)
  have hserves : (b.store serverKey version).backend.Serves _ b.Holds := Client.serves hb
  rw [answers_of_serves hserves hstart fun o ho => ?_]
  · have hget : ((Ledger.empty.holdSetting (key, v)).settings.get? key) = some v := by
      rw [Ledger.get?_holdSetting, if_pos rfl]
    simp only [Ledger.answers, Ledger.obey, hget]
  · rcases List.mem_cons.mp ho with rfl | ho
    · refine ⟨hkey, fun w hw => ?_⟩
      rw [← Option.some_inj.mp hw]
      exact hv
    · rw [List.mem_singleton.mp ho]
      exact hkey

end Nested

/-- Clients of one service and one namespace, with sessions of their own.  If no session goes
on from another one with a colon and the name of a kind, then each client gets the answers to
its orders that it would get without the others, whatever these are, and no order of another
changes a record of it.  If one does, and both clients are let in, then clearing the other one
takes away every setting that it has. -/
theorem sessions_isolated {ι : Type} [DecidableEq ι] {c : ι → Client} {namespaceName : String}
    (hnamespace : ∀ i, (c i).namespaceName = namespaceName)
    (hsession : ∀ i j, i ≠ j → (c i).session ≠ (c j).session)
    (hpage : ∀ i, (c i).pageSize = 100) (serverKey : String) (version : Int) :
    ((∀ i j, ¬ (c i).Nests (c j)) →
      (∀ kv orders i, part i (exchange (fun j => (c j).store serverKey version) kv orders) =
        ((c i).store serverKey version).answers kv (part i orders)) ∧
      ∀ kv i j, i ≠ j → ∀ now o kind id,
        (((c i).store serverKey version).obey now o kv).2.get? ((c j).key kind id) =
          kv.get? ((c j).key kind id)) ∧
    ∀ i j, (c i).Nests (c j) → (c i).Reaches serverKey → (c j).Reaches serverKey →
      ∀ key v now, Client.Carries ((c j).key .setting key) → v.Storable →
        part j (exchange (fun k => (c k).store serverKey version) Kv.Store.empty
            [(j, now, .setSetting key (some v)), (i, now, .clear), (j, now, .getSetting key)]) =
          [.ok .nothing, .ok (.setting none)] ∧
        ((c j).store serverKey version).answers Kv.Store.empty
            [(now, .setSetting key (some v)), (now, .getSetting key)] =
          [.ok .nothing, .ok (.setting (some v))] := by
  refine ⟨fun hflat => ?_, fun i j hnests hi hj key v now hkey hv => ?_⟩
  · have hapart : ∀ i j, i ≠ j → ∀ key, (c i).Owns key → ¬ (c j).Owns key := by
      intro i j hij key howns howns'
      have hsame : (c i).namespaceName = (c j).namespaceName :=
        (hnamespace i).trans (hnamespace j).symm
      rcases Client.nests_of_owns hsame (hsession i j hij) howns howns' with hnests | hnests
      · exact hflat i j hnests
      · exact hflat j i hnests
    refine ⟨fun kv orders i => ?_, fun kv i j hij now o kind id => ?_⟩
    · exact part_exchange hpage hapart i orders (Client.Agree.refl (c i) kv)
    · have hforeign : ¬ (c i).Owns ((c j).key kind id) := fun howns =>
        hapart i j hij _ howns (Client.owns_key (c j) kind id)
      exact ((c i).keepsTo_obey serverKey (hpage i) version now o).others kv _ hforeign
  · refine ⟨?_, answers_of_setting hj hkey hv now⟩
    have hij : i ≠ j := by
      rintro rfl
      exact (c i).not_nests_self hnests
    have hsame : (c i).namespaceName = (c j).namespaceName :=
      (hnamespace i).trans (hnamespace j).symm
    have hwritten : ((c j).store serverKey version).setSetting key (some v) Kv.Store.empty =
        (.ok (), Kv.Store.empty.put ((c j).key .setting key) (v.write .spaced)) := by
      rw [setSetting_of_fits _ hv.fits]
      exact Client.write_of_carries hj hkey (v.write .spaced)
    have hset : ((c j).store serverKey version).obey now (.setSetting key (some v))
        Kv.Store.empty = (.ok .nothing, Kv.Store.empty.put ((c j).key .setting key)
          (v.write .spaced)) := map_of_ok hwritten _
    obtain ⟨t, hclear, hget⟩ : ∃ t, ((c i).store serverKey version).clear _ = (.ok (), t) ∧ _ :=
      getSetting_of_cleared hsame hnests hi hj hkey (v := v) rfl
    have hclear' : ((c i).store serverKey version).obey now .clear
        (Kv.Store.empty.put ((c j).key .setting key) (v.write .spaced)) = (.ok .nothing, t) :=
      map_of_ok hclear _
    have hget' : ((c j).store serverKey version).obey now (.getSetting key) t =
        (.ok (.setting none), t) := map_of_ok hget _
    simp only [exchange, hset, hclear', hget']
    rw [part_cons_self, part_cons_of_ne hij, part_cons_self]
    rfl

/-- Two clients at the gate. -/
def gateClients (first second : String) : Bool → Client
  | false => { gateClient with session := first }
  | true => { gateClient with session := second }

/-- Ann and Bob do not disturb each other at the gate; a session of a team loses its language
when the team clears its own records. -/
theorem sessions_isolated_gate :
    (∀ kv orders i,
      part i (exchange (fun j => (gateClients "ann" "bob" j).store "" 1) kv orders) =
        ((gateClients "ann" "bob" i).store "" 1).answers kv (part i orders)) ∧
    part true (exchange (fun j => (gateClients "team" "team:save:x" j).store "" 1) Kv.Store.empty
        [(true, "5", .setSetting "lang" (some (.str "en"))), (false, "5", .clear),
          (true, "5", .getSetting "lang")]) =
      [.ok .nothing, .ok (.setting none)] := by
  have hnamespace : ∀ a b i, (gateClients a b i).namespaceName = "narrative" := by
    intro a b i
    cases i <;> rfl
  have hpage : ∀ a b i, (gateClients a b i).pageSize = 100 := by
    intro a b i
    cases i <;> rfl
  have hsession : ∀ a b, a ≠ b → ∀ i j, i ≠ j →
      (gateClients a b i).session ≠ (gateClients a b j).session := by
    intro a b hab i j hij
    cases i <;> cases j
    · exact absurd rfl hij
    · exact hab
    · exact hab.symm
    · exact absurd rfl hij
  constructor
  · have hflat : ∀ i j, ¬ (gateClients "ann" "bob" i).Nests (gateClients "ann" "bob" j) := by
      rintro i j ⟨kind, hstarts⟩
      revert hstarts
      cases i <;> cases j <;> cases kind <;> decide
    exact ((sessions_isolated (hnamespace "ann" "bob") (hsession "ann" "bob" (by decide))
      (hpage "ann" "bob") "" 1).1 hflat).1
  · have hnests : (gateClients "team" "team:save:x" false).Nests
        (gateClients "team" "team:save:x" true) := ⟨.save, by decide⟩
    have hkey : Client.Carries ((gateClients "team" "team:save:x" true).key .setting "lang") := by
      rw [Client.carries_iff]
      decide
    exact ((sessions_isolated (hnamespace "team" "team:save:x")
      (hsession "team" "team:save:x" (by decide)) (hpage "team" "team:save:x") "" 1).2
      false true hnests ⟨rfl, Or.inl rfl, rfl⟩ ⟨rfl, Or.inl rfl, rfl⟩ "lang" (.str "en") "5"
      hkey ⟨.str "en", rfl, nofun⟩).1

end Storyline.Storage
