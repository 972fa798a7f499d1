import Storyline.CommandLine
import Storyline.Proofs.Json.Limit
import Storyline.Proofs.Text.Utf8

/-!
# What loading a pack comes to

The octets of a file become a text, the text a value, the value a pack and the pack an index.
Each stage has failures of its own.  Those of the last two are faults of content, and so is a text
without a value; octets without a text and numbers that are too long are not.

* `Source.Escapes`: the files whose failure is not reported as a fault of content;
* `Index.load_cases`: the three ends of loading, whatever the path;
* `Settles`: loading ends as it should, and the exit code of the check says how;
* `settles_iff`: exactly if nothing escapes.
-/

namespace Storyline.Content

open CommandLine

/-- A failure that is not reported as a fault of content: the octets are the form of no text, or
the limit on digits bears on their text. -/
def Source.Escapes : Source → Prop
  | .missing => False
  | .octets bs => (∀ cs, Text.Utf8.encode cs ≠ bs) ∨
    ∃ cs, Text.Utf8.encode cs = bs ∧
      Json.readChars (some Json.maxDigits) cs ≠ Json.readChars none cs

/-! ## The stages -/

/-- Text is read from the octets that are its form, and the limit on digits is what is left to
escape. -/
theorem escapes_octets_encode {cs : List Char} :
    (Source.octets (Text.Utf8.encode cs)).Escapes ↔
      Json.readChars (some Json.maxDigits) cs = .error .numberTooLong := by
  have hunique : ∀ ds, Text.Utf8.encode ds = Text.Utf8.encode cs → ds = cs := fun ds h =>
    Option.some_inj.mp ((Text.Utf8.decodeStrict?_eq_some_iff.mpr h).symm.trans
      (Text.Utf8.decodeStrict?_eq_some_iff.mpr rfl))
  rw [Json.readChars_eq_tooLong_iff]
  constructor
  · rintro (hnone | ⟨ds, hds, hbears⟩)
    · exact absurd rfl (hnone cs)
    · rwa [hunique ds hds] at hbears
  · exact fun h => Or.inr ⟨cs, rfl, h⟩

namespace Index

theorem readSource_of_notText {bs : List Nat} (h : ∀ cs, Text.Utf8.encode cs ≠ bs)
    (path : String) : readSource path (.octets bs) = .error .notText := by
  rw [readSource, Text.Utf8.decodeStrict?_eq_none_iff.mpr h]

theorem readSource_encode (path : String) (cs : List Char) :
    readSource path (.octets (Text.Utf8.encode cs)) =
      (Json.readChars (some Json.maxDigits) cs).mapError fun
        | .malformed => .unreadable path
        | .numberTooLong => .numberTooLong := by
  rw [readSource, Text.Utf8.decodeStrict?_eq_some_iff.mpr rfl]
  dsimp only
  rcases Json.readChars (some Json.maxDigits) cs with (- | -) | v <;> rfl

/-- What is wrong with a value is a fault of content. -/
theorem message_of_ofJson {v : Json} {f : LoadFault} (h : ofJson v = .error f) :
    ∃ message, f.message? = some message := by
  rw [ofJson] at h
  split at h
  · cases h
    exact ⟨_, rfl⟩
  · rename_i p _
    cases hp : ofPack p with
    | ok index =>
      rw [hp] at h
      cases h
    | error d =>
      rw [hp] at h
      cases h
      exact ⟨_, rfl⟩

/-- A file that was read gives an index or a fault of content. -/
theorem load_of_readSource {path : String} {source : Source} {v : Json}
    (h : readSource path source = .ok v) : load path source = ofJson v := by
  rw [load, h]
  rfl

theorem load_of_error {path : String} {source : Source} {f : LoadFault}
    (h : readSource path source = .error f) : load path source = .error f := by
  rw [load, h]
  rfl

/-- How loading ends does not depend on the path: with an index, with a fault of content, or with
an escape. -/
theorem load_cases (source : Source) :
    (¬ source.Escapes ∧ ∃ index, ∀ path, load path source = .ok index) ∨
    (¬ source.Escapes ∧ ∀ path, ∃ f message,
      load path source = .error f ∧ f.message? = some message) ∨
    (source.Escapes ∧ ∃ f, f.message? = none ∧ ∀ path, load path source = .error f) := by
  cases source with
  | missing => exact Or.inr (Or.inl ⟨id, fun path => ⟨_, _, rfl, rfl⟩⟩)
  | octets bs =>
    by_cases htext : ∃ cs, Text.Utf8.encode cs = bs
    · obtain ⟨cs, rfl⟩ := htext
      rw [escapes_octets_encode]
      rcases hread : Json.readChars (some Json.maxDigits) cs with (- | -) | v
      · have hload : ∀ path, load path (.octets (Text.Utf8.encode cs)) =
            .error (.unreadable path) := fun path =>
          load_of_error (by rw [readSource_encode, hread]; rfl)
        exact Or.inr (Or.inl ⟨nofun, fun path => ⟨_, _, hload path, rfl⟩⟩)
      · have hload : ∀ path, load path (.octets (Text.Utf8.encode cs)) = .error .numberTooLong :=
          fun path => load_of_error (by rw [readSource_encode, hread]; rfl)
        exact Or.inr (Or.inr ⟨rfl, _, rfl, hload⟩)
      · have hload : ∀ path, load path (.octets (Text.Utf8.encode cs)) = ofJson v :=
          fun path => load_of_readSource (by rw [readSource_encode, hread]; rfl)
        cases hindex : ofJson v with
        | ok index => exact Or.inl ⟨nofun, index, fun path => (hload path).trans hindex⟩
        | error f =>
          obtain ⟨message, hmessage⟩ := message_of_ofJson hindex
          exact Or.inr (Or.inl ⟨nofun, fun path =>
            ⟨f, message, (hload path).trans hindex, hmessage⟩⟩)
    · have hnone : ∀ cs, Text.Utf8.encode cs ≠ bs := fun cs h => htext ⟨cs, h⟩
      exact Or.inr (Or.inr ⟨Or.inl hnone, _, rfl, fun path =>
        load_of_error (readSource_of_notText hnone path)⟩)

end Index

/-! ## The check -/

theorem checkReport_of_load {path : String} {source : Source} {index : Index}
    (h : Index.load (Storage.Route.read path).written source = .ok index) :
    checkReport path source = .ok (packReport index) := by
  rw [checkReport, h]

theorem checkReport_of_message {path : String} {source : Source} {f : LoadFault}
    {message : String} (h : Index.load (Storage.Route.read path).written source = .error f)
    (hmessage : f.message? = some message) :
    checkReport path source = .ok (failure message) := by
  rw [checkReport, h]
  dsimp only
  rw [hmessage]

theorem checkReport_of_escape {path : String} {source : Source} {f : LoadFault}
    (h : Index.load (Storage.Route.read path).written source = .error f)
    (hescape : f.message? = none) : checkReport path source = .error f := by
  rw [checkReport, h]
  dsimp only
  rw [hescape]

/-- Loading the file at a path ends with an index or with a fault of content.  The check of the
file exits with 0 or 1 in the first case, according to whether there are problems, and with 2 in
the second. -/
inductive Settles (path : String) (source : Source) : Prop where
  | found (index : Index) (report : CommandLine.Report) (load : Index.load path source = .ok index)
      (check : checkReport path source = .ok report)
      (exit : report.exit = if index.problems = [] then 0 else 1)
  | refused (f : LoadFault) (message : String) (report : CommandLine.Report)
      (load : Index.load path source = .error f) (reported : f.message? = some message)
      (check : checkReport path source = .ok report) (exit : report.exit = 2)

/-- Loading and the check of a file end as they should, exactly if the octets of the file have a
text and the limit on digits does not bear on it.  Otherwise both end with the same failure, which
is no fault of content. -/
theorem settles_iff (path : String) (source : Source) :
    (Settles path source ↔ ¬ source.Escapes) ∧
      (source.Escapes → ∃ f, f.message? = none ∧ Index.load path source = .error f ∧
        checkReport path source = .error f) := by
  obtain ⟨hkept, index, hload⟩ | ⟨hkept, hload⟩ | ⟨hescapes, f, hf, hload⟩ :=
    Index.load_cases source
  · have hsettles : Settles path source :=
      .found index _ (hload path) (checkReport_of_load (hload _)) (exit_packReport index)
    exact ⟨iff_of_true hsettles hkept, fun h => absurd h hkept⟩
  · obtain ⟨f, message, hf, hmessage⟩ := hload path
    obtain ⟨g, worded, hg, hworded⟩ := hload (Storage.Route.read path).written
    have hsettles : Settles path source :=
      .refused f message _ hf hmessage (checkReport_of_message hg hworded) rfl
    exact ⟨iff_of_true hsettles hkept, fun h => absurd h hkept⟩
  · refine ⟨iff_of_false ?_ (not_not_intro hescapes), fun _ =>
      ⟨f, hf, hload path, checkReport_of_escape (hload _) hf⟩⟩
    rintro (⟨index, _, hindex, -, -⟩ | ⟨g, message, _, hg, hmessage, -, -⟩)
    · rw [hload path] at hindex
      cases hindex
    · rw [hload path] at hg
      cases hg
      rw [hf] at hmessage
      cases hmessage

/-- A file of one octet that starts no character escapes, and one with an empty pack does not. -/
theorem settles_gate :
    ¬ Settles "gate.json" (.octets [0xff]) ∧
      Settles "gate.json" (.octets [0x7b, 0x7d]) := by
  have hbroken : Text.Utf8.decodeStrict? [0xff] = none := by
    rw [Text.Utf8.decodeStrict?, Text.Utf8.decode_cons]
    rfl
  have hpack : Json.readChars (some Json.maxDigits) ['\x7b', '\x7d'] = .ok (.obj []) := by rfl
  constructor
  · rw [(settles_iff "gate.json" (.octets [0xff])).1, not_not]
    exact Or.inl (Text.Utf8.decodeStrict?_eq_none_iff.mp hbroken)
  · rw [(settles_iff "gate.json" (.octets [0x7b, 0x7d])).1]
    have hform : [0x7b, 0x7d] = Text.Utf8.encode ['\x7b', '\x7d'] := by decide
    rw [hform, escapes_octets_encode, hpack]
    exact fun h => by cases h

end Storyline.Content
