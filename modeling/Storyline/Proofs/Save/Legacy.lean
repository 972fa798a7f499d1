import Mathlib.Data.List.Nodup
import Mathlib.Data.List.Perm.Basic
import Storyline.Proofs.Save.Respelling

/-!
# Saves of the old layout

Version 1 of the layout spells the names of a save in camel case, at every depth, and keeps the
names of flags, which are the authors' own.  It may hold two members more, and it may leave its
version out.  Such a save is brought up to date and read as the save that it stands for: no field
is lost, and none falls back to its default.

* `Json.Members.get?_eq_of_mem`, `Json.Members.get?_congr`: look-ups that do not depend on the
  order of members;
* `Record.names`: the names of the fields of all records in a save;
* `Save.fieldNamed_fields`: the names in a save, its flags apart, are among them;
* `Save.Legacy`: the members of a save in version 1;
* `Save.read_upgrade_of_legacy`: they are read as the save.
-/

namespace Storyline

/-! ## Look-ups in any order -/

namespace Json.Members

variable {name : String} {v : Json} {ms ns : Members}

/-- A member is found wherever it stands, if no other value goes by its name. -/
theorem get?_eq_of_mem (h : (name, v) ∈ ms) (honly : ∀ w, (name, w) ∈ ms → w = v) :
    ms.get? name = some v := by
  cases hget : ms.get? name with
  | some w => rw [honly w (mem_of_get? hget)]
  | none =>
    exfalso
    induction ms with
    | nil => cases h
    | cons m ms ih =>
      rw [get?_cons] at hget
      split at hget
      · cases hget
      · rename_i hname
        rcases List.mem_cons.mp h with rfl | h
        · exact hname rfl
        · exact ih h (fun w hw => honly w (List.mem_cons_of_mem _ hw)) hget

theorem get?_eq_some_iff (hnodup : (ms.map Prod.fst).Nodup) :
    ms.get? name = some v ↔ (name, v) ∈ ms := by
  refine ⟨mem_of_get?, fun h => get?_eq_of_mem h fun w hw => ?_⟩
  have hpair : (name, w) = (name, v) := List.inj_on_of_nodup_map hnodup hw h rfl
  exact (Prod.ext_iff.mp hpair).2

/-- Objects that hold the same members of a name have the same value for it. -/
theorem get?_congr (hms : (ms.map Prod.fst).Nodup) (hns : (ns.map Prod.fst).Nodup)
    (h : ∀ v, (name, v) ∈ ms ↔ (name, v) ∈ ns) : ms.get? name = ns.get? name := by
  ext v
  rw [get?_eq_some_iff hms, get?_eq_some_iff hns, h]

end Json.Members

open Json

/-! ## The names in a record -/

/-- The names of the fields of saves, players, items, effects and memories. -/
def Record.names : List String :=
  ["id", "version", "created_at", "updated_at", "name", "thumbnail", "player", "avatar",
   "current_phase", "current_scene_id", "current_dialog_id", "current_dialog_script_id",
   "read_dialog_ids", "inventory", "memories", "achievements", "flags", "play_time",
   "description", "type", "icon", "quantity", "usable", "use_effects", "payload", "key", "value",
   "item", "item_id", "memory", "achievement_id", "scene_id", "phase", "sound", "intensity",
   "duration", "title", "image", "acquired_at"]

theorem Record.worded_of_mem : ∀ name ∈ Record.names, Migration.Worded name := by
  decide +kernel

/-- Every name in the value is that of a field. -/
def Json.FieldNamed (v : Json) : Prop := v.Named (· ∈ Record.names)

namespace Json

theorem FieldNamed.worded {v : Json} (h : v.FieldNamed) : v.Named Migration.Worded :=
  h.mono Record.worded_of_mem

theorem fieldNamed_str (s : String) : (Json.str s).FieldNamed := .str s

theorem fieldNamed_int (n : Int) : (Json.int n).FieldNamed := .int n

theorem fieldNamed_float (x : Float) : (Json.float x).FieldNamed := .float x

theorem fieldNamed_bool (b : Bool) : (Json.bool b).FieldNamed := .bool b

theorem fieldNamed_ofOption (o : Option String) : (ofOption o).FieldNamed := by
  cases o with
  | none => exact .null
  | some s => exact .str s

theorem fieldNamed_texts (ss : List String) : (texts ss).FieldNamed :=
  named_map fun s _ => .str s

theorem fieldNamed_obj {ms : Members} :
    (Json.obj ms).FieldNamed ↔ ∀ m ∈ ms, m.1 ∈ Record.names ∧ m.2.FieldNamed := by
  constructor
  · intro h
    cases h with
    | obj hnames hvalues => exact fun m hm => ⟨hnames m hm, hvalues m hm⟩
  · exact fun h => .obj (fun m hm => (h m hm).1) fun m hm => (h m hm).2

end Json

theorem Phase.fieldNamed_toJson (p : Phase) : p.toJson.FieldNamed := .str _

theorem FlagValue.fieldNamed_toJson (f : FlagValue) : f.toJson.FieldNamed := by
  cases f with
  | bool b => exact .bool b
  | int n => exact .int n
  | float x => exact .float x
  | str s => exact .str s

theorem Memory.fieldNamed_toJson (m : Memory) : m.toJson.FieldNamed := by
  have hphase : (m.phase.elim .null Phase.toJson).FieldNamed := by
    cases m.phase with
    | none => exact .null
    | some p => exact p.fieldNamed_toJson
  rw [Memory.toJson, fieldNamed_obj]
  simp [Memory.members, Record.names, fieldNamed_str, hphase]

theorem Player.fieldNamed_toJson (p : Player) : p.toJson.FieldNamed := by
  rw [Player.toJson, fieldNamed_obj]
  simp [Record.names, fieldNamed_str, fieldNamed_ofOption]

/-- The names in an effect, if those in the item that it adds are fine. -/
theorem Effect.fieldNamed_toJson_of {e : Effect}
    (h : ∀ j, e = .addItem j → j.toJson.FieldNamed) : e.toJson.FieldNamed := by
  have hpayload : (Json.obj e.payload).FieldNamed := by
    rw [fieldNamed_obj]
    cases e with
    | addItem item => simpa [payload, Record.names, Item.toJson] using h item rfl
    | setFlag key value =>
      simp [payload, settingMembers, Record.names, fieldNamed_str, value.fieldNamed_toJson]
    | removeItem itemId quantity =>
      simp [payload, removalMembers, Record.names, fieldNamed_str, fieldNamed_int]
    | addMemory memory => simp [payload, Record.names, memory.fieldNamed_toJson]
    | changePhase phase => simp [payload, Record.names, phase.fieldNamed_toJson]
    | unlockAchievement | changeScene | playSound =>
      simp [payload, Record.names, fieldNamed_str]
    | shakeScreen => simp [payload, Record.names, fieldNamed_float, fieldNamed_int]
  rw [Effect.toJson, effectRecord, fieldNamed_obj]
  simp [Record.names, fieldNamed_str, hpayload]

theorem Item.fieldNamed_toJson {i : Item} (h : i.Valid) : i.toJson.FieldNamed := by
  induction h with
  | @intro i _ _ _ ih =>
    have heffects : (Json.arr (i.useEffects.map Effect.toJson)).FieldNamed :=
      named_map fun e he => Effect.fieldNamed_toJson_of (ih e he)
    rw [Item.toJson_eq, fieldNamed_obj]
    simp [Record.names, fieldNamed_str, fieldNamed_int, fieldNamed_bool, heffects]

/-! ## Version 1 -/

namespace Save

open Migration

/-- The members of the record of a save. -/
def members (s : Save) : Members :=
  match s.toJson with
  | .obj ms => ms
  | _ => []

theorem toJson_eq (s : Save) : s.toJson = .obj s.members := rfl

/-- The members that are respelt: all but the version and the flags. -/
def fields (s : Save) : Members := s.members.filter fun m => m.1 != "version" && m.1 != "flags"

/-- How a save of version 1 may tell its version. -/
def firstVersions : List Members := [[], [("version", .null)], [("version", .int 1)]]

/-- The members of a save in version 1, in any order: names are in camel case at every depth,
flags are as they are, and members that version 2 has no place for may stand among them. -/
structure LegacyWith (s : Save) (version dropped ms : Members) : Prop where
  version_mem : version ∈ firstVersions
  dropped_mem : ∀ m ∈ dropped, m.1 ∈ droppedNames
  perm : ms.Perm
    (renameMembers camelCase s.fields ++ ("flags", s.flags.toJson) :: (version ++ dropped))

/-- The members are those of the save in version 1. -/
def Legacy (s : Save) (ms : Members) : Prop := ∃ version dropped, s.LegacyWith version dropped ms

variable {s : Save}

theorem nodup_members (hs : s.Valid) : (s.members.map Prod.fst).Nodup := by
  have hdistinct := distinct_toJson hs
  rw [toJson_eq] at hdistinct
  cases hdistinct with
  | obj hnames _ => exact hnames

theorem mem_fields {m : String × Json} :
    m ∈ s.fields ↔ m ∈ s.members ∧ m.1 ≠ "version" ∧ m.1 ≠ "flags" := by
  rw [fields, List.mem_filter, Bool.and_eq_true, bne_iff_ne, bne_iff_ne]

/-- The flags apart, the names in a save are those of fields. -/
theorem fieldNamed_fields (hs : s.Valid) : (Json.obj s.fields).FieldNamed := by
  have hinventory : (Json.arr (s.inventory.map Item.toJson)).FieldNamed :=
    named_map fun i hi => Item.fieldNamed_toJson (hs.inventory i hi)
  have hmemories : (Json.arr (s.memories.map Memory.toJson)).FieldNamed :=
    named_map fun m _ => m.fieldNamed_toJson
  rw [fieldNamed_obj]
  simp [fields, members, toJson, Record.names, fieldNamed_str, fieldNamed_float,
    fieldNamed_ofOption, fieldNamed_texts, Phase.fieldNamed_toJson, Player.fieldNamed_toJson,
    hinventory, hmemories]

/-- The members that are respelt come back. -/
theorem snakeMembers_fields (hs : s.Valid) :
    snakeMembers (renameMembers camelCase s.fields) = s.fields := by
  have hdistinct := distinct_toJson hs
  rw [toJson_eq] at hdistinct
  cases hdistinct with
  | obj _ hvalues =>
    rw [renameMembers_eq_map, snakeMembers_eq_map, List.map_map]
    refine (List.map_congr_left fun m hm => ?_).trans (List.map_id _)
    obtain ⟨hname, hvalue⟩ := fieldNamed_obj.mp (fieldNamed_fields hs) m hm
    exact Prod.ext (snakeCase_camelCase (Record.worded_of_mem m.1 hname))
      (snakeNames_rename hvalue.worded (hvalues m (mem_fields.mp hm).1))

/-- The old spelling of a field, version and flags apart, is none of the names that are treated
on their own. -/
theorem camelCase_ne : ∀ name ∈ Record.names, name ≠ "version" → name ≠ "flags" →
    camelCase name ≠ "version" ∧ camelCase name ≠ "flags" ∧ camelCase name ∉ droppedNames := by
  decide +kernel

theorem camelCase_ne_of_mem (hs : s.Valid) {m : String × Json}
    (hm : m ∈ renameMembers camelCase s.fields) :
    m.1 ≠ "version" ∧ m.1 ≠ "flags" ∧ m.1 ∉ droppedNames := by
  rw [renameMembers_eq_map] at hm
  obtain ⟨n, hn, rfl⟩ := List.mem_map.mp hm
  obtain ⟨-, hversion, hflags⟩ := mem_fields.mp hn
  exact camelCase_ne n.1 (fieldNamed_obj.mp (fieldNamed_fields hs) n hn).1 hversion hflags

theorem ne_of_mem_droppedNames :
    ∀ name ∈ droppedNames, name ≠ "version" ∧ name ≠ "flags" := by
  decide

theorem name_of_mem_version {version : Members} (h : version ∈ firstVersions) {m : String × Json}
    (hm : m ∈ version) : m.1 = "version" := by
  simp only [firstVersions, List.mem_cons, List.not_mem_nil, or_false] at h
  rcases h with rfl | rfl | rfl
  · cases hm
  · rw [List.mem_singleton.mp hm]
  · rw [List.mem_singleton.mp hm]

namespace LegacyWith

variable {version dropped ms : Members}

theorem mem_iff (h : s.LegacyWith version dropped ms) {m : String × Json} :
    m ∈ ms ↔ m ∈ renameMembers camelCase s.fields ∨ m = ("flags", s.flags.toJson) ∨ m ∈ version ∨
      m ∈ dropped := by
  rw [h.perm.mem_iff, List.mem_append, List.mem_cons, List.mem_append]

theorem version_mem_iff (h : s.LegacyWith version dropped ms) (hs : s.Valid) (v : Json) :
    ("version", v) ∈ ms ↔ ("version", v) ∈ version := by
  refine h.mem_iff.trans ⟨?_, fun hv => Or.inr (Or.inr (Or.inl hv))⟩
  rintro (hv | hv | hv | hv)
  · exact absurd rfl (camelCase_ne_of_mem hs hv).1
  · exact absurd (Prod.ext_iff.mp hv).1 (by simp)
  · exact hv
  · exact absurd rfl (ne_of_mem_droppedNames _ (h.dropped_mem _ hv)).1

theorem flags_mem_iff (h : s.LegacyWith version dropped ms) (hs : s.Valid) (v : Json) :
    ("flags", v) ∈ ms ↔ v = s.flags.toJson := by
  refine h.mem_iff.trans ⟨?_, fun hv => Or.inr (Or.inl (by rw [hv]))⟩
  rintro (hv | hv | hv | hv)
  · exact absurd rfl (camelCase_ne_of_mem hs hv).2.1
  · exact (Prod.ext_iff.mp hv).2
  · exact absurd (name_of_mem_version h.version_mem hv) (by simp)
  · exact absurd rfl (ne_of_mem_droppedNames _ (h.dropped_mem _ hv)).2

/-- The version counts as the first one. -/
theorem versionOf (h : s.LegacyWith version dropped ms) (hs : s.Valid) :
    Migration.versionOf ms = .ok 1 := by
  have hmem := h.version_mem_iff hs
  have hversion := h.version_mem
  simp only [firstVersions, List.mem_cons, List.not_mem_nil, or_false] at hversion
  rw [Migration.versionOf]
  rcases hversion with rfl | rfl | rfl
  · have hget : ms.get? "version" = none := by
      refine Option.eq_none_iff_forall_not_mem.mpr fun v hv => ?_
      exact absurd ((hmem v).mp (Members.mem_of_get? hv)) List.not_mem_nil
    rw [hget]
  · have hget : ms.get? "version" = some .null :=
      Members.get?_eq_of_mem ((hmem _).mpr (by simp)) fun w hw => by simpa using (hmem w).mp hw
    rw [hget]
  · have hget : ms.get? "version" = some (.int 1) :=
      Members.get?_eq_of_mem ((hmem _).mpr (by simp)) fun w hw => by simpa using (hmem w).mp hw
    rw [hget]

/-- The flags are found as they are. -/
theorem flagsOf (h : s.LegacyWith version dropped ms) (hs : s.Valid) :
    ∃ flags, Migration.flagsOf ms = .ok flags ∧ s.flags.toJson = .obj flags := by
  have hmem := h.flags_mem_iff hs
  have hget : ms.get? "flags" = some s.flags.toJson :=
    Members.get?_eq_of_mem ((hmem _).mpr rfl) fun w hw => (hmem w).mp hw
  refine ⟨_, ?_, rfl⟩
  rw [Migration.flagsOf, hget]
  rfl

/-- Once what has no place is gone, the flags are taken out and names are respelt, the members of
version 2 are there. -/
theorem perm_snakeMembers (h : s.LegacyWith version dropped ms) (hs : s.Valid) :
    (snakeMembers (ms.filter fun m => ! droppedNames.contains m.1 && m.1 != "flags")).Perm
      (s.fields ++ version) := by
  have hfields : (renameMembers camelCase s.fields).filter
      (fun m => ! droppedNames.contains m.1 && m.1 != "flags") =
      renameMembers camelCase s.fields := by
    refine List.filter_eq_self.mpr fun m hm => ?_
    obtain ⟨-, hflags, hkept⟩ := camelCase_ne_of_mem hs hm
    simp [hflags, hkept]
  have hversion : version.filter (fun m => ! droppedNames.contains m.1 && m.1 != "flags") =
      version := by
    refine List.filter_eq_self.mpr fun m hm => ?_
    rw [name_of_mem_version h.version_mem hm]
    decide
  have hgone : dropped.filter (fun m => ! droppedNames.contains m.1 && m.1 != "flags") = [] := by
    refine List.filter_eq_nil_iff.mpr fun m hm => ?_
    simp [h.dropped_mem m hm]
  have hspelt : snakeMembers version = version := by
    have hmem := h.version_mem
    simp only [firstVersions, List.mem_cons, List.not_mem_nil, or_false] at hmem
    rcases hmem with rfl | rfl | rfl <;> rfl
  have hfilter := h.perm.filter fun m => ! droppedNames.contains m.1 && m.1 != "flags"
  rw [List.filter_append, List.filter_cons_of_neg (by simp), List.filter_append, hfields, hversion,
    hgone, List.append_nil] at hfilter
  have hmap := hfilter.map fun m => (snakeCase m.1, snakeNames m.2)
  rwa [List.map_append, ← snakeMembers_eq_map, ← snakeMembers_eq_map, ← snakeMembers_eq_map,
    snakeMembers_fields hs, hspelt] at hmap

end LegacyWith

theorem nodup_fields_append (hs : s.Valid) {version : Members} (h : version ∈ firstVersions) :
    ((s.fields ++ version).map Prod.fst).Nodup := by
  have hfields : (s.fields.map Prod.fst).Nodup :=
    (nodup_members hs).sublist (List.filter_sublist.map Prod.fst)
  have hversion : (version.map Prod.fst).Nodup := by
    simp only [firstVersions, List.mem_cons, List.not_mem_nil, or_false] at h
    rcases h with rfl | rfl | rfl <;> simp
  rw [List.map_append]
  refine List.nodup_append.mpr ⟨hfields, hversion, fun name hname other hother => ?_⟩
  obtain ⟨m, hm, rfl⟩ := List.mem_map.mp hname
  obtain ⟨n, hn, rfl⟩ := List.mem_map.mp hother
  rw [name_of_mem_version h hn]
  exact (mem_fields.mp hm).2.1

/-- Reading looks at members by their names. -/
theorem read_congr {ms ns : Members} (h : ∀ name, ms.get? name = ns.get? name) :
    read (.obj ms) = read (.obj ns) := by
  simp only [read, Schema.ofRecord, Schema.orNone, Schema.required, Schema.withDefault, h]

theorem upgradeFirst_of_flagsOf {ms flags : Members} (h : Migration.flagsOf ms = .ok flags) :
    upgradeFirst ms = .ok ((Members.insert "flags" (.obj flags) (Members.ofList (snakeMembers
      (ms.filter fun m => ! droppedNames.contains m.1 && m.1 != "flags")))).insert
        "version" (.int 2)) := by
  rw [upgradeFirst, h]
  rfl

/-- The step to version 2, for members of version 1. -/
theorem LegacyWith.upgrade {version dropped ms : Members} (h : s.LegacyWith version dropped ms)
    (hs : s.Valid) : ∃ body flags : Members, body.Perm (s.fields ++ version) ∧
      (body.map Prod.fst).Nodup ∧ s.flags.toJson = .obj flags ∧
      Migration.upgrade (.obj ms) =
        .ok (.obj ((Members.insert "flags" (.obj flags) body).insert "version" (.int 2))) := by
  obtain ⟨flags, hflags, hjson⟩ := h.flagsOf hs
  have hperm := h.perm_snakeMembers hs
  have hnodup := (hperm.map Prod.fst).nodup_iff.mpr (nodup_fields_append hs h.version_mem)
  refine ⟨_, flags, hperm, hnodup, hjson, ?_⟩
  have hstep : upgradeMembers 1 currentVersion ms = upgradeFirst ms := rfl
  rw [Migration.upgrade, upgradeTo, h.versionOf hs]
  dsimp only [Except.bind]
  rw [hstep, upgradeFirst_of_flagsOf hflags, Members.ofList_of_nodup hnodup]
  rfl

/-- A save of version 1 is brought up to date and read as the save that it stands for, whatever
order its members have. -/
theorem read_upgrade_of_legacy (hs : s.Valid) {ms : Members} (h : s.Legacy ms) :
    ∃ v, upgrade (.obj ms) = .ok v ∧ read v = .good s := by
  obtain ⟨version, dropped, h⟩ := h
  obtain ⟨body, flags, hperm, hnodup, hjson, hupgrade⟩ := h.upgrade hs
  refine ⟨_, hupgrade, ?_⟩
  rw [← read_toJson hs, toJson_eq]
  refine read_congr fun name => ?_
  by_cases hversion : name = "version"
  · have hsecond : s.members.get? "version" = some (.int s.version) := rfl
    rw [hversion, Members.get?_insert_self, hsecond, hs.version]
    rfl
  · rw [Members.get?_insert_of_ne hversion]
    by_cases hflags : name = "flags"
    · rw [hflags, Members.get?_insert_self, ← hjson]
      rfl
    · rw [Members.get?_insert_of_ne hflags]
      refine Members.get?_congr hnodup (nodup_members hs) fun v => ?_
      rw [hperm.mem_iff, List.mem_append, mem_fields]
      constructor
      · rintro (hv | hv)
        · exact hv.1
        · exact absurd (name_of_mem_version h.version_mem hv) hversion
      · exact fun hv => Or.inl ⟨hv, hversion, hflags⟩

/-! ## An example -/

/-- A game in which a camera, once used, adds an album that adds a memory. -/
def cameraSave : Save where
  id := "ann 1"
  version := 2
  createdAt := "2024-05-01"
  updatedAt := "2024-05-02"
  name := none
  thumbnail := none
  player := ⟨"Ann", none⟩
  currentPhase := .planning
  currentSceneId := "gate"
  currentDialogId := none
  currentDialogScriptId := none
  readDialogIds := ["gate_hello"]
  inventory := [⟨"camera", "", "", .keyItem, "", 1, true,
    [.addItem ⟨"album", "", "", .souvenir, "", 1, true,
      [.addMemory ⟨"gate_view", "", "", "", "2024-05-02", "gate", none⟩]⟩]⟩]
  memories := []
  achievements := []
  flags := Table.empty.insert "hasTicket" (.bool true)
  playTime := 0.5

/-- The same game in version 1, with a flight that was chosen and no version. -/
def cameraMembers : Members :=
  [("id", .str "ann 1"), ("createdAt", .str "2024-05-01"), ("updatedAt", .str "2024-05-02"),
   ("name", .null), ("thumbnail", .null),
   ("player", .obj [("name", .str "Ann"), ("avatar", .null)]), ("currentPhase", .str "planning"),
   ("currentSceneId", .str "gate"), ("currentDialogId", .null), ("currentDialogScriptId", .null),
   ("readDialogIds", .arr [.str "gate_hello"]),
   ("inventory", .arr [.obj [("id", .str "camera"), ("name", .str ""), ("description", .str ""),
     ("type", .str "key_item"), ("icon", .str ""), ("quantity", .int 1), ("usable", .bool true),
     ("useEffects", .arr [.obj [("type", .str "add_item"), ("payload", .obj [("item",
       .obj [("id", .str "album"), ("name", .str ""), ("description", .str ""),
         ("type", .str "souvenir"), ("icon", .str ""), ("quantity", .int 1),
         ("usable", .bool true), ("useEffects", .arr [.obj [("type", .str "add_memory"),
           ("payload", .obj [("memory", .obj [("id", .str "gate_view"), ("title", .str ""),
             ("description", .str ""), ("image", .str ""), ("acquiredAt", .str "2024-05-02"),
             ("sceneId", .str "gate"), ("phase", .null)])])]])])])]])]]),
   ("memories", .arr []), ("achievements", .arr []), ("playTime", .float 0.5),
   ("flags", .obj [("hasTicket", .bool true)]), ("selectedFlight", .str "FL 7")]

theorem valid_cameraSave : cameraSave.Valid := by
  have halbum : Item.Valid ⟨"album", "", "", .souvenir, "", 1, true,
      [.addMemory ⟨"gate_view", "", "", "", "2024-05-02", "gate", none⟩]⟩ :=
    Item.valid_iff.mpr ⟨by decide, List.forall_mem_singleton.mpr ⟨nofun, nofun⟩⟩
  refine ⟨rfl, Phase.known_planning, List.forall_mem_singleton.mpr ?_, nofun⟩
  refine Item.valid_iff.mpr ⟨by decide, List.forall_mem_singleton.mpr ⟨trivial, fun j hj => ?_⟩⟩
  cases hj
  exact halbum

/-- The game with the camera comes back as it was: the effects in its items are spelt as they were,
and its flag keeps the capital in its name. -/
theorem read_upgrade_camera : cameraSave.Legacy cameraMembers ∧
    ∃ v, upgrade (.obj cameraMembers) = .ok v ∧ read v = .good cameraSave := by
  have hlegacy : cameraSave.Legacy cameraMembers := by
    refine ⟨[], [("selectedFlight", .str "FL 7")], by simp [firstVersions],
      List.forall_mem_singleton.mpr (by decide), ?_⟩
    exact List.Perm.of_eq rfl
  exact ⟨hlegacy, read_upgrade_of_legacy valid_cameraSave hlegacy⟩

end Save

end Storyline
