import Storyline.Proofs.Decimal.Bits
import Storyline.Proofs.Json.RoundTrip

/-!
# Doubles in the styles

Stored saves and bundles write a double that is no number as null; settings spell it
out, and there every double is kept.

* `stored`: what the text of a double in a save stands for;
* `reads_stored`: doubles in saves and bundles;
* `reads_float`: doubles in settings.
-/

namespace Storyline

namespace Json

open Decimal

/-- What the text of a double in a save stands for: itself if it is finite, and null
otherwise. -/
def stored (x : Float) : Json := if isFinite x then .float x else .null

theorem stored_of_finite {x : Float} (h : isFinite x = true) : stored x = .float x := if_pos h

/-- The text of a double in saves and bundles. -/
theorem reads_stored {s : Style} (hs : s.doubles = .compact) {x : Float}
    (h : isFinite x = true → Layout.compact.Keeps x) : s.Reads stored x := by
  intro limit width rest hrest
  rw [hs]
  by_cases hx : isFinite x = true
  · rw [stored_of_finite hx]
    exact readScalar_render (h hx) hx limit width hrest
  · have hnull : (Layout.compact.render x).toList = ['n', 'u', 'l', 'l'] := by
      unfold Layout.render
      unfold isFinite at hx
      cases hb : Binary.ofFloat x with
      | notANumber => rfl
      | infinite negative => cases negative <;> rfl
      | finite negative mantissa exponent =>
        rw [hb] at hx
        exact absurd rfl hx
    rw [hnull, stored, if_neg hx]
    rfl

/-- The text of a double in settings. -/
theorem reads_float {s : Style} (hs : s.doubles = .settings) {x : Float}
    (h : isFinite x = true → Layout.settings.Keeps x) : s.Reads .float x := by
  intro limit width rest hrest
  rw [hs]
  cases hb : Binary.ofFloat x with
  | finite negative mantissa exponent =>
    have hx : isFinite x = true := by rw [isFinite, hb]; rfl
    exact readScalar_render (h hx) hx limit width hrest
  | notANumber =>
    rw [eq_of_notANumber hb]
    rfl
  | infinite negative =>
    rw [eq_of_infinite hb]
    cases negative <;> rfl

end Json

end Storyline
