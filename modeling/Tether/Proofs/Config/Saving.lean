import Tether.Config
import Tether.Proofs.Toml.Lines

/-!
# A configuration saved and loaded

What is saved is a document of three lines, whatever the path is made of, and what is loaded from
it is what was saved, up to the two checks. These stand on different sides: a waiting time that is
too large is refused before anything is written, and one of zero only when it is read
(`parse_render`). So nothing but the configuration itself ever comes back, and it comes back
exactly if its waiting times pass both (`saved_then_loaded`).

A configuration without a path means the usual one, and a file always names it. So configurations
are compared with the path written out (`resolved`).
-/

namespace Tether.Config

/-- The configuration with the usual path written out if it has none of its own. -/
def resolved (usual : String) (c : Config) : Config :=
  { c with settingsPath := some (c.settingsPath.getD usual) }

/-- The waiting times are integers of a file. -/
def Fits (c : Config) : Prop :=
  c.pairingTimeout ≤ maxInteger ∧ c.payloadTimeout ≤ maxInteger

variable {c : Config} {usual path : String} {place : Place}

/-! ## The document -/

/-- The lines of the document. -/
def pairs (c : Config) (path : String) (h : c.Fits) : List Toml.Pair :=
  [⟨pairingKey, Json.Number.natChars c.pairingTimeout, .integer c.pairingTimeout, by decide,
      Toml.reads_natChars (Nat.lt_succ_of_le h.1)⟩,
    ⟨payloadKey, Json.Number.natChars c.payloadTimeout, .integer c.payloadTimeout, by decide,
      Toml.reads_natChars (Nat.lt_succ_of_le h.2)⟩,
    ⟨pathKey, Toml.Text.write path, .string path, by decide, Toml.reads_write path⟩]

theorem render_eq (h : c.Fits) :
    c.render path = .ok (String.ofList ((c.pairs path h).flatMap Toml.Pair.chars)) := by
  have hchars : line pairingKey (Json.Number.natChars c.pairingTimeout)
      ++ line payloadKey (Json.Number.natChars c.payloadTimeout)
      ++ line pathKey (Toml.Text.write path) = (c.pairs path h).flatMap Toml.Pair.chars := by
    simp [pairs, Toml.Pair.chars, line]
  rw [← hchars]
  exact if_pos h

theorem ofToml?_pairs (h : c.Fits) :
    ofToml? (.table .header (Dict.ofEntries ((c.pairs path h).map Toml.Pair.entry))) =
      some { c with settingsPath := some path } := by
  have hpairing : pathKey ≠ pairingKey ∧ payloadKey ≠ pairingKey := by decide
  have hpayload : pathKey ≠ payloadKey := by decide
  simp [pairs, Toml.Pair.entry, Dict.ofEntries, ofToml?, nat?, text?, Toml.find?,
    Dict.find?_put_of_ne hpairing.1, Dict.find?_put_of_ne hpairing.2,
    Dict.find?_put_of_ne hpayload]

/-- What is written is read as what it was, and then checked. -/
theorem parse_render (path : String) (h : c.Fits) :
    ∃ text, c.render path = .ok text ∧
      parse text = validate { c with settingsPath := some path } := by
  have hkeys : ((c.pairs path h).map Toml.Pair.key).Nodup := by
    show [pairingKey, payloadKey, pathKey].Nodup
    decide
  refine ⟨_, render_eq h, ?_⟩
  rw [parse, Toml.parse?_pairs hkeys, Option.bind_some, ofToml?_pairs h]

/-! ## Checks -/

theorem validate_of_pos (hpairing : 0 < c.pairingTimeout) (hpayload : 0 < c.payloadTimeout) :
    c.validate = .ok c := by
  rw [validate, if_neg (Nat.ne_of_gt hpairing), if_neg (Nat.ne_of_gt hpayload)]

theorem validate_of_zero (h : c.pairingTimeout = 0 ∨ c.payloadTimeout = 0) :
    c.validate = .error (.configuration
      ((if c.pairingTimeout = 0 then pairingKey else payloadKey)
        ++ " must be greater than zero")) := by
  rw [validate]
  split
  · rfl
  · next hpairing => rw [if_pos (h.resolve_left hpairing)]

/-! ## Saving -/

/-- Whatever keeps a configuration from being saved leaves the place as it was. -/
theorem saveAt_error {writable : Bool} {e : Fault}
    (h : (c.saveAt usual writable place).1 = .error e) :
    (c.saveAt usual writable place).2 = place := by
  rw [saveAt] at h ⊢
  split
  · next hwritable =>
      rw [if_pos hwritable] at h
      split
      · next heq =>
          rw [heq] at h
          cases h
      · rfl
  · rfl

theorem saveAt_of_render {text : String} (h : c.render (c.settingsPath.getD usual) = .ok text)
    (hplace : place ≠ .directory) :
    c.saveAt usual true place = (.ok (), .file text) := by
  have hwritten : (Except.ok text).bind place.overwrite = .ok (.file text) := by
    cases place <;> first | rfl | contradiction
  rw [saveAt, if_pos rfl, h, hwritten]

/-- What can be written is there to be loaded afterwards. -/
theorem load_saveAt (usual : String) (h : c.Fits) (hplace : place ≠ .directory) :
    (c.saveAt usual true place).1 = .ok () ∧
      load (c.saveAt usual true place).2 = validate (c.resolved usual) := by
  obtain ⟨text, hrender, hparse⟩ := parse_render (c.settingsPath.getD usual) h
  rw [saveAt_of_render hrender hplace]
  exact ⟨rfl, hparse⟩

theorem saveAt_not_fits (usual : String) (place : Place) (h : ¬c.Fits) :
    (c.saveAt usual true place).1 =
      .error (.configuration "Failed to serialize: out of range") := by
  have hrender : c.render (c.settingsPath.getD usual) =
      .error (.configuration "Failed to serialize: out of range") := if_neg h
  rw [saveAt, if_pos rfl, hrender]
  rfl

/-- Whatever comes back is the configuration, and its waiting times have passed both checks. -/
theorem eq_of_load_saveAt {d : Config} (hplace : place ≠ .directory)
    (hsaved : (c.saveAt usual true place).1 = .ok ())
    (hload : load (c.saveAt usual true place).2 = .ok d) :
    c.Fits ∧ 0 < c.pairingTimeout ∧ 0 < c.payloadTimeout ∧ d = c.resolved usual := by
  by_cases hfits : c.Fits
  · rw [(load_saveAt usual hfits hplace).2] at hload
    by_cases hzero : c.pairingTimeout = 0 ∨ c.payloadTimeout = 0
    · rw [validate_of_zero (c := c.resolved usual) hzero] at hload
      cases hload
    · obtain ⟨hpairing, hpayload⟩ := not_or.mp hzero
      have hpairing := Nat.pos_of_ne_zero hpairing
      have hpayload := Nat.pos_of_ne_zero hpayload
      rw [validate_of_pos (c := c.resolved usual) hpairing hpayload] at hload
      exact ⟨hfits, hpairing, hpayload, (Except.ok.inj hload).symm⟩
  · rw [saveAt_not_fits usual place hfits] at hsaved
    cases hsaved

/-- A configuration comes back as it was saved if its waiting times are integers of the file and
not zero. If one is too large the place is left as it was, and otherwise the first that is zero is
what loading complains of. No other configuration ever comes back. -/
theorem saved_then_loaded (c : Config) (usual : String) (place : Place)
    (hplace : place ≠ .directory) :
    let saved := c.saveAt usual true place
    ((saved.1 = .ok () ∧ ∃ d, load saved.2 = .ok d ∧ d.resolved usual = c.resolved usual) ↔
      (1 ≤ c.pairingTimeout ∧ c.pairingTimeout ≤ maxInteger) ∧
        1 ≤ c.payloadTimeout ∧ c.payloadTimeout ≤ maxInteger) ∧
    (maxInteger < c.pairingTimeout ∨ maxInteger < c.payloadTimeout →
      (∃ detail, saved.1 = .error (.configuration ("Failed to serialize: " ++ detail))) ∧
        saved.2 = place) ∧
    (c.pairingTimeout ≤ maxInteger ∧ c.payloadTimeout ≤ maxInteger →
      c.pairingTimeout = 0 ∨ c.payloadTimeout = 0 →
      saved.1 = .ok () ∧ load saved.2 = .error (.configuration
        ((if c.pairingTimeout = 0 then pairingKey else payloadKey)
          ++ " must be greater than zero"))) ∧
    ∀ d, saved.1 = .ok () → load saved.2 = .ok d → d.resolved usual = c.resolved usual := by
  intro saved
  refine ⟨⟨?_, ?_⟩, ?_, ?_, ?_⟩
  · rintro ⟨hsaved, d, hload, -⟩
    obtain ⟨hfits, hpairing, hpayload, -⟩ := eq_of_load_saveAt hplace hsaved hload
    exact ⟨⟨hpairing, hfits.1⟩, hpayload, hfits.2⟩
  · rintro ⟨⟨hpairing, hleast⟩, hpayload, hmost⟩
    obtain ⟨hsaved, hload⟩ := load_saveAt usual ⟨hleast, hmost⟩ hplace
    exact ⟨hsaved, _, hload.trans (validate_of_pos hpairing hpayload), rfl⟩
  · intro hover
    have hnot : ¬c.Fits := fun hfits =>
      hover.elim (Nat.not_lt_of_le hfits.1) (Nat.not_lt_of_le hfits.2)
    have hsaved := saveAt_not_fits usual place hnot
    exact ⟨⟨"out of range", hsaved⟩, saveAt_error hsaved⟩
  · intro hfits hzero
    obtain ⟨hsaved, hload⟩ := load_saveAt usual hfits hplace
    exact ⟨hsaved, hload.trans (validate_of_zero hzero)⟩
  · intro d hsaved hload
    obtain ⟨-, -, -, rfl⟩ := eq_of_load_saveAt hplace hsaved hload
    rfl

/-- A path that only escapes can hold, saved over an older file with the least waiting time and
the greatest. With a second more the older file stays, and with none at all what is saved cannot
be loaded. -/
theorem saved_then_loaded_escaped :
    let c : Config :=
      { pairingTimeout := 1, payloadTimeout := 9223372036854775807,
        settingsPath := some "\\\"\"\"'''\n\r\t\x7f" }
    let longer : Config := { c with payloadTimeout := 9223372036854775808 }
    let never : Config := { c with pairingTimeout := 0 }
    let place := Place.file "pairing_timeout_secs = 30"
    ((c.saveAt "peers.json" true place).1 = .ok () ∧
      ∃ d, load (c.saveAt "peers.json" true place).2 = .ok d ∧
        d.resolved "peers.json" = c.resolved "peers.json") ∧
    (longer.saveAt "peers.json" true place).2 = place ∧
    load (never.saveAt "peers.json" true place).2 =
      .error (.configuration (pairingKey ++ " must be greater than zero")) := by
  intro c longer never place
  have hplace : place ≠ .directory := nofun
  obtain ⟨hback, -⟩ := saved_then_loaded c "peers.json" place hplace
  obtain ⟨-, hkept, -⟩ := saved_then_loaded longer "peers.json" place hplace
  obtain ⟨-, -, hrefused, -⟩ := saved_then_loaded never "peers.json" place hplace
  exact ⟨hback.mpr (by decide), (hkept (.inr (by decide))).2,
    (hrefused (by decide) (.inl rfl)).2⟩

end Tether.Config
