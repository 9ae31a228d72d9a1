import Launchpad.Proofs.Config.Grammar

/-!
# Writing and reading configurations

What a configuration or a section is written as gives all its parts (`spellsOut`), so reading it
gives the configuration back, whatever its parts are and whether or not it is valid. A value that is
read need not be what the configuration is written as, but it says the same.
-/

namespace Launchpad

open Json

namespace Json

theorem keysOnce_nat (n : Nat) : (nat n).KeysOnce := .int _

theorem keysOnce_ofText? (s? : Option String) : (ofText? s?).KeysOnce := by
  cases s? with
  | none => exact .null
  | some s => exact .text s

theorem keysOnce_texts (items : List String) : (texts items).KeysOnce := by
  refine .list fun j hj => ?_
  obtain ⟨s, -, rfl⟩ := List.mem_map.mp hj
  exact .text s

theorem means_ofText? (s? : Option String) : (Language.optional .text).means (ofText? s?) s? := by
  cases s? with
  | none => rfl
  | some s => exact ⟨s, rfl, rfl⟩

theorem means_ofPath? (p? : Option Path) :
    (Language.optional .path).means (ofText? (p?.map Path.text)) p? := by
  cases p? with
  | none => rfl
  | some p => exact ⟨p, rfl, rfl⟩

/-- The value is an object that gives all parts of the record in their order. -/
def SpellsOut {δ : Type} (parts : List (Json.Part δ)) (d : δ) : Json → Prop
  | .object fields => List.Forall₂ (fun p e => p.key = e.1 ∧ e.2.KeysOnce ∧
      ∃ a, p.language.means e.2 a ∧ p.get d = some a) parts fields
  | _ => False

namespace SpellsOut

variable {γ δ : Type} {parts : List (Json.Part δ)} {d : δ} {fields : List (String × Json)}
  {j : Json}

theorem keys_eq (h : SpellsOut parts d (.object fields)) :
    parts.map Json.Part.key = fields.map Prod.fst := by
  have hkeys := List.forall₂_map_left_iff.mpr (List.forall₂_map_right_iff.mpr
    (List.Forall₂.imp (fun _ _ => And.left) h))
  exact List.forall₂_eq_eq_eq ▸ hkeys

theorem keysOnce (h : SpellsOut parts d j) (hn : (parts.map Json.Part.key).Nodup) : j.KeysOnce := by
  cases j with
  | object fields =>
    refine .object (h.keys_eq ▸ hn) fun e he => ?_
    obtain ⟨p, -, -, hvalue, -⟩ := exists_of_forall₂ (List.Forall₂.flip h) he
    exact hvalue
  | _ => exact h.elim

theorem written (h : SpellsOut parts d j) (hn : (parts.map Json.Part.key).Nodup) :
    Written parts j d := by
  cases j with
  | object fields =>
    refine ⟨trivial, fun p hp => ?_⟩
    obtain ⟨e, he, hkey, -, hvalue⟩ := exists_of_forall₂ h hp
    have hgiven : given parts (.object fields) p = some e.2 :=
      (lookup_eq_some_iff_mem (h.keys_eq ▸ hn)).mpr (hkey ▸ he)
    rw [hgiven]
    exact Json.Part.holds_some.mpr hvalue
  | _ => exact h.elim

end SpellsOut

end Json

namespace BrowserConfig

theorem spellsOut (c : BrowserConfig) : SpellsOut parts c c.toJson :=
  .cons ⟨rfl, .bool _, _, rfl, rfl⟩ <| .cons ⟨rfl, .text _, _, rfl, rfl⟩ <|
    .cons ⟨rfl, keysOnce_nat _, _, rfl, rfl⟩ <|
    .cons ⟨rfl, keysOnce_ofText? _, _, means_ofText? _, rfl⟩ .nil

theorem keysOnce_toJson (c : BrowserConfig) : c.toJson.KeysOnce :=
  c.spellsOut.keysOnce layout.nodup_keys

theorem written_toJson (c : BrowserConfig) : Written parts c.toJson c :=
  c.spellsOut.written layout.nodup_keys

end BrowserConfig

namespace ReadinessConfig

theorem spellsOut (c : ReadinessConfig) : SpellsOut parts c c.toJson :=
  .cons ⟨rfl, keysOnce_nat _, _, rfl, rfl⟩ <| .cons ⟨rfl, keysOnce_nat _, _, rfl, rfl⟩ <|
    .cons ⟨rfl, keysOnce_nat _, _, rfl, rfl⟩ <| .cons ⟨rfl, keysOnce_nat _, _, rfl, rfl⟩ <|
    .cons ⟨rfl, keysOnce_nat _, _, rfl, rfl⟩ <| .cons ⟨rfl, .text _, _, rfl, rfl⟩ <|
    .cons ⟨rfl, .text _, _, rfl, rfl⟩ <| .cons ⟨rfl, .text _, _, rfl, rfl⟩ .nil

theorem keysOnce_toJson (c : ReadinessConfig) : c.toJson.KeysOnce :=
  c.spellsOut.keysOnce layout.nodup_keys

theorem written_toJson (c : ReadinessConfig) : Written parts c.toJson c :=
  c.spellsOut.written layout.nodup_keys

end ReadinessConfig

namespace TerminationConfig

theorem spellsOut (c : TerminationConfig) : SpellsOut parts c c.toJson :=
  .cons ⟨rfl, keysOnce_nat _, _, rfl, rfl⟩ <| .cons ⟨rfl, keysOnce_nat _, _, rfl, rfl⟩ .nil

theorem keysOnce_toJson (c : TerminationConfig) : c.toJson.KeysOnce :=
  c.spellsOut.keysOnce layout.nodup_keys

theorem written_toJson (c : TerminationConfig) : Written parts c.toJson c :=
  c.spellsOut.written layout.nodup_keys

end TerminationConfig

namespace LaunchConfig

theorem spellsOut (c : LaunchConfig) : SpellsOut parts c.toDraft c.toJson :=
  .cons ⟨rfl, .text _, _, rfl, rfl⟩ <| .cons ⟨rfl, .text _, _, rfl, rfl⟩ <|
    .cons ⟨rfl, .text _, _, rfl, rfl⟩ <|
    .cons ⟨rfl, keysOnce_ofText? _, _, means_ofPath? _, rfl⟩ <|
    .cons ⟨rfl, keysOnce_texts _, _, rfl, rfl⟩ <|
    .cons ⟨rfl, keysOnce_ofText? _, _, means_ofText? _, rfl⟩ <|
    .cons ⟨rfl, keysOnce_ofText? _, _, means_ofPath? _, rfl⟩ <|
    .cons ⟨rfl, .bool _, _, rfl, rfl⟩ <| .cons ⟨rfl, .bool _, _, rfl, rfl⟩ <|
    .cons ⟨rfl, c.browser.keysOnce_toJson, _, c.browser.written_toJson, rfl⟩ <|
    .cons ⟨rfl, c.readiness.keysOnce_toJson, _, c.readiness.written_toJson, rfl⟩ <|
    .cons ⟨rfl, c.termination.keysOnce_toJson, _, c.termination.written_toJson, rfl⟩ .nil

end LaunchConfig

/-- Reading what a configuration or a section is written as gives it back, and so does writing and
reading once more what was read. -/
structure RoundTrip {γ : Type} (write : γ → Json) (read : Reader γ) : Prop where
  read_write : ∀ c, read (write c) = .ok c
  read_again : ∀ j c, read j = .ok c → read (write c) = .ok c

theorem Json.Grammar.roundTrip {γ δ : Type} {read : Reader γ} {parts : List (Json.Part δ)}
    {view : γ → δ} {optionals : List String} {write : γ → Json}
    (h : Grammar read parts view optionals) (hn : (parts.map Json.Part.key).Nodup)
    (hwrite : ∀ c, SpellsOut parts (view c) (write c)) : RoundTrip write read := by
  have hread (c : γ) : read (write c) = .ok c :=
    (h.reads ((hwrite c).keysOnce hn) c).mpr ((hwrite c).written hn)
  exact ⟨hread, fun _ c _ => hread c⟩

/-- Configurations and their sections come back from what they are written as. -/
theorem LaunchConfig.read_toJson :
    RoundTrip LaunchConfig.toJson LaunchConfig.read ∧
      RoundTrip BrowserConfig.toJson BrowserConfig.read ∧
      RoundTrip ReadinessConfig.toJson ReadinessConfig.read ∧
      RoundTrip TerminationConfig.toJson TerminationConfig.read :=
  ⟨grammar.roundTrip layout.nodup_keys spellsOut,
    BrowserConfig.grammar.roundTrip BrowserConfig.layout.nodup_keys BrowserConfig.spellsOut,
    ReadinessConfig.grammar.roundTrip ReadinessConfig.layout.nodup_keys ReadinessConfig.spellsOut,
    TerminationConfig.grammar.roundTrip TerminationConfig.layout.nodup_keys
      TerminationConfig.spellsOut⟩

end Launchpad
