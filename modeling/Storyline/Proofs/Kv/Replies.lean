import Storyline.Kv.Api
import Storyline.Proofs.Text.Percent

/-!
# Replies of the service

What the service answers to requests whose route is known.

* `respond_of_body`, `respond_of_route`: the checks before a request is served;
* `ofPath?_entryStart`: where the path of a key leads to; `ofPath?_append_iff`: to the key, if
  that has no line breaks;
* `payload_of_json`: a body that is a value;
* `limitOf_hundred`: a listing of a hundred keys at a time.
-/

namespace Storyline.Kv

open Http

/-- A request of a known route whose body can be parsed is served if it may pass. -/
theorem respond_of_body {r : Request} {place : Place} {route : Kv.Route} {body : Payload}
    (hplace : Place.ofPath? (Text.Percent.decode r.path.toList) = some place)
    (hroute : place.route? r.method = some route)
    (hbody : (match route with | .write _ => payload r | _ => .ok .nothing) = .ok body)
    (s : Kv.Store) : respond serverKey r s =
      if (route != .health && ! admits serverKey r) = true then
        (detail 401 "Invalid or missing API key", s)
      else serve route r.query body s := by
  unfold respond
  dsimp only
  rw [hplace]
  dsimp only
  rw [hroute]
  dsimp only
  cases route with
  | write key =>
    have hpayload : payload r = .ok body := hbody
    dsimp only
    rw [hpayload]
  | health | listing | read | delete =>
    have hnothing : Payload.nothing = body := Except.ok.inj hbody
    dsimp only
    rw [hnothing]

theorem respond_of_route {r : Request} {place : Place} {route : Kv.Route} {body : Payload}
    {s : Kv.Store} (hplace : Place.ofPath? (Text.Percent.decode r.path.toList) = some place)
    (hroute : place.route? r.method = some route)
    (hbody : (match route with | .write _ => payload r | _ => .ok .nothing) = .ok body)
    (hadmits : admits serverKey r = true) : respond serverKey r s = serve route r.query body s := by
  rw [respond_of_body hplace hroute hbody, hadmits, Bool.not_true, Bool.and_false,
    if_neg Bool.false_ne_true]

/-- The place of a path that begins as those of keys do: all that follows is the key, but for
a line break at its end. -/
theorem ofPath?_entryStart (rest : List Char) :
    Place.ofPath? (entryStart ++ rest) =
      let key := if rest.getLast? = some '\n' then rest.dropLast else rest
      if key.contains '\n' then none else some (.entry (String.ofList key)) := by
  have hlast : (entryStart ++ rest).getLast? = some '\n' ↔ rest.getLast? = some '\n' := by
    cases rest with
    | nil => decide
    | cons ch rest =>
      rw [List.getLast?_append, List.getLast?_cons]
      rfl
  have hpath : (if (entryStart ++ rest).getLast? = some '\n' then (entryStart ++ rest).dropLast
      else entryStart ++ rest) =
      entryStart ++ (if rest.getLast? = some '\n' then rest.dropLast else rest) := by
    by_cases h : rest.getLast? = some '\n'
    · have hne : rest ≠ [] := by
        rintro rfl
        cases h
      rw [if_pos (hlast.mpr h), if_pos h, List.dropLast_append_of_ne_nil hne]
    · rw [if_neg (mt hlast.mp h), if_neg h]
  unfold Place.ofPath?
  dsimp only
  rw [hpath]
  generalize (if rest.getLast? = some '\n' then rest.dropLast else rest) = key
  have hhealth : entryStart ++ key ≠ "/api/health".toList := by
    intro heq
    have h5 := congrArg (·[5]?) heq
    revert h5
    show ¬ (some 'k' = some 'h')
    decide
  have hlisting : entryStart ++ key ≠ "/api/kv".toList := by
    intro heq
    have hlength := congrArg List.length heq
    rw [List.length_append] at hlength
    have h8 : entryStart.length = 8 := rfl
    have h7 : "/api/kv".toList.length = 7 := rfl
    omega
  have hstarts : entryStart.isPrefixOf (entryStart ++ key) = true :=
    List.isPrefixOf_iff_prefix.mpr (List.prefix_append _ _)
  rw [if_neg hhealth, if_neg hlisting, if_pos hstarts, List.drop_left]

/-- A path leads to the key that is all of what follows its start if and only if that has no
line breaks. -/
theorem ofPath?_append_iff (key : String) :
    Place.ofPath? (entryStart ++ key.toList) = some (.entry key) ↔ '\n' ∉ key.toList := by
  rw [ofPath?_entryStart]
  dsimp only
  constructor
  · intro h hmem
    generalize (if key.toList.getLast? = some '\n' then key.toList.dropLast else key.toList) =
      rest at h
    split at h
    · cases h
    · rename_i hnone
      have hkey := Place.entry.inj (Option.some_inj.mp h)
      rw [← hkey, String.toList_ofList] at hmem
      exact hnone (List.contains_iff_mem.mpr hmem)
  · intro h
    rw [if_neg fun hlast => h (List.mem_of_getLast? hlast), String.ofList_toList,
      if_neg fun hmem => h (List.contains_iff_mem.mp hmem)]

theorem payload_of_json {r : Request} {v : Json} (hbody : r.body ≠ "")
    (hjson : announcesJson r.contentType = true) (hread : jsonOfBody r.body = .ok v) :
    payload r = .ok (.value v) := by
  unfold payload
  rw [if_neg hbody, if_pos hjson, hread]

/-! ## Listings -/

theorem integerOfText_hundred : Schema.integerOfText "100" = .good 100 := by
  have hread : Schema.integerOfText? "100" = some 100 := by decide
  have hpow : ∀ n, 3 ≤ n → 100 < Nat.pow 10 n := fun n hn =>
    Nat.lt_of_lt_of_le (by decide : 100 < Nat.pow 10 3) (Nat.pow_le_pow_right (by decide) hn)
  have hbound : (100 : Int).natAbs < Schema.textIntegerBound := by
    unfold Schema.textIntegerBound
    exact hpow 4300 (by decide)
  unfold Schema.integerOfText
  rw [hread]
  dsimp only
  rw [if_pos hbound]

theorem limitOf_hundred {query : List (String × String)}
    (h : parameter? "limit" query = some "100") : limitOf query = .good 100 := by
  have hread : Schema.integer (.str "100") = .good 100 := integerOfText_hundred
  unfold limitOf
  rw [h]
  dsimp only
  rw [Schema.integerBetween, hread]
  rfl

end Storyline.Kv
