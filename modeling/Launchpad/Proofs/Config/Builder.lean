import Launchpad.Config.Builder
import Launchpad.Proofs.Config.RoundTrip
import Mathlib.Data.List.Induction

/-!
# Building a configuration and reading it

A caller may set the parts of a configuration in any order, and a part more than once. An object
spells such calls if it gives, for every part that was set, the value of the last call for it, and
nothing else (`Spells`). Then reading the object comes to the same as building: to one and the same
configuration, which has the values that were set, or to the complaint about the first required part
that is missing (`build_eq_read`).

Both are compared with the draft of the calls. A builder is a draft that does not yet know the
defaults (`Builder.toDraft`), and the draft holds what the object gives for each part
(`holds_ofSettings`).
-/

namespace Launchpad

open Json

/-- The entries that a table gives for some keys. -/
theorem Json.lookup_filterMap {α : Type} (g : String → Option α) (keys : List String) (k : String) :
    (keys.filterMap fun k => (g k).map (k, ·)).lookup k = if k ∈ keys then g k else none := by
  induction keys with
  | nil => rfl
  | cons k' keys ih =>
    cases hg : g k' with
    | none =>
      rw [List.filterMap_cons_none (by rw [hg]; rfl), ih]
      by_cases hk : k = k'
      · simp [hk, hg]
      · simp [hk]
    | some v =>
      rw [List.filterMap_cons_some (by rw [hg]; rfl), List.lookup_cons]
      by_cases hk : k = k'
      · simp [hk, hg]
      · rw [beq_eq_false_iff_ne.mpr hk]
        simpa [hk] using ih

/-! ## Calls -/

namespace Setting

/-- The key of the part that is set. -/
def key : Setting → String
  | .camundaVersion _ => "camundaVersion"
  | .elasticsearchVersion _ => "elasticsearchVersion"
  | .parentDir _ => "parentDir"
  | .javaHome _ => "javaHome"
  | .extraArgs _ => "extraArgs"
  | .javaOpts _ => "javaOpts"
  | .camundaConfig _ => "camundaConfig"
  | .disableElasticsearch _ => "disableElasticsearch"
  | .checkJavaVersion _ => "checkJavaVersion"
  | .browser _ => "browser"
  | .readiness _ => "readiness"
  | .termination _ => "termination"

/-- The JSON value means the value that is set. -/
def MeantBy (v : Json) : Setting → Prop
  | .camundaVersion value => Language.text.means v value
  | .elasticsearchVersion value => Language.text.means v value
  | .parentDir value => Language.path.means v value
  | .javaHome value => (Language.optional .path).means v value
  | .extraArgs value => Language.texts.means v value
  | .javaOpts value => (Language.optional .text).means v value
  | .camundaConfig value => (Language.optional .path).means v value
  | .disableElasticsearch value => Language.flag.means v value
  | .checkJavaVersion value => Language.flag.means v value
  | .browser value => (Language.record BrowserConfig.parts id).means v value
  | .readiness value => (Language.record ReadinessConfig.parts id).means v value
  | .termination value => (Language.record TerminationConfig.parts id).means v value

/-- The configuration has the value that is set. -/
def HeldBy (c : LaunchConfig) : Setting → Prop
  | .camundaVersion value => c.camundaVersion = value
  | .elasticsearchVersion value => c.elasticsearchVersion = value
  | .parentDir value => c.parentDir = value
  | .javaHome value => c.javaHome = value
  | .extraArgs value => c.extraArgs = value
  | .javaOpts value => c.javaOpts = value
  | .camundaConfig value => c.camundaConfig = value
  | .disableElasticsearch value => c.disableElasticsearch = value
  | .checkJavaVersion value => c.checkJavaVersion = value
  | .browser value => c.browser = value
  | .readiness value => c.readiness = value
  | .termination value => c.termination = value

/-- The value that is set, as it is written in JSON. -/
def toJson : Setting → Json
  | .camundaVersion value => .text value
  | .elasticsearchVersion value => .text value
  | .parentDir value => .text value.text
  | .javaHome value => .ofText? (value.map Path.text)
  | .extraArgs value => .texts value
  | .javaOpts value => .ofText? value
  | .camundaConfig value => .ofText? (value.map Path.text)
  | .disableElasticsearch value => .bool value
  | .checkJavaVersion value => .bool value
  | .browser value => value.toJson
  | .readiness value => value.toJson
  | .termination value => value.toJson

/-- The last call that sets the part of a key. -/
def last? (calls : List Setting) (key : String) : Option Setting :=
  calls.reverse.find? (·.key == key)

variable {s : Setting} {calls : List Setting} {k : String}

theorem last?_concat (calls : List Setting) (s : Setting) (k : String) :
    last? (calls ++ [s]) k = if s.key = k then some s else last? calls k := by
  unfold last?
  rw [List.reverse_append, List.reverse_singleton, List.singleton_append, List.find?_cons]
  by_cases h : s.key = k
  · rw [if_pos h, beq_iff_eq.mpr h]
  · rw [if_neg h, beq_eq_false_iff_ne.mpr h]

theorem key_of_last? (h : last? calls k = some s) : s.key = k := by
  simpa using List.find?_some h

theorem meantBy_toJson (s : Setting) : s.MeantBy s.toJson := by
  cases s with
  | camundaVersion | elasticsearchVersion | parentDir | extraArgs => exact rfl
  | disableElasticsearch | checkJavaVersion => exact rfl
  | javaOpts value => exact means_ofText? value
  | javaHome value | camundaConfig value => exact means_ofPath? value
  | browser value => exact value.written_toJson
  | readiness value => exact value.written_toJson
  | termination value => exact value.written_toJson

theorem keysOnce_toJson (s : Setting) : s.toJson.KeysOnce := by
  cases s with
  | camundaVersion value | elasticsearchVersion value | parentDir value => exact .text _
  | javaHome value | javaOpts value | camundaConfig value => exact keysOnce_ofText? _
  | extraArgs value => exact keysOnce_texts value
  | disableElasticsearch value | checkJavaVersion value => exact .bool value
  | browser value => exact value.keysOnce_toJson
  | readiness value => exact value.keysOnce_toJson
  | termination value => exact value.keysOnce_toJson

theorem key_mem_keys (s : Setting) : s.key ∈ LaunchConfig.parts.map Json.Part.key := by
  cases s <;> simp [key, LaunchConfig.parts]

end Setting

/-- The entries of an object that spells the calls. -/
def Setting.spelling (calls : List Setting) : List (String × Json) :=
  (LaunchConfig.parts.map Json.Part.key).filterMap fun k =>
    ((Setting.last? calls k).map Setting.toJson).map (k, ·)

/-- The object gives what the last call for each part has set, and it gives nothing else. -/
structure Spells (fields : List (String × Json)) (calls : List Setting) : Prop where
  keysOnce : (Json.object fields).KeysOnce
  given : ∀ key, Option.Rel (fun v s => s.MeantBy v) (fields.lookup key) (Setting.last? calls key)

/-- Any calls are spelled by what they have set, in the order of the parts. -/
theorem spells_spelling (calls : List Setting) : Spells (Setting.spelling calls) calls where
  keysOnce := by
    refine .object ?_ fun e he => ?_
    · unfold Setting.spelling
      rw [List.map_filterMap]
      refine List.Nodup.filterMap (fun k k' a hk hk' => ?_) LaunchConfig.layout.nodup_keys
      simp only [Option.mem_def, Option.map_eq_some_iff] at hk hk'
      obtain ⟨_, ⟨_, _, rfl⟩, rfl⟩ := hk
      obtain ⟨_, ⟨_, _, rfl⟩, hk'⟩ := hk'
      exact hk'.symm
    · obtain ⟨k, -, hk⟩ := List.mem_filterMap.mp he
      obtain ⟨v, hv, rfl⟩ := Option.map_eq_some_iff.mp hk
      obtain ⟨s, -, rfl⟩ := Option.map_eq_some_iff.mp hv
      exact s.keysOnce_toJson
  given k := by
    unfold Setting.spelling
    rw [lookup_filterMap]
    cases hlast : Setting.last? calls k with
    | none => simp
    | some s =>
      rw [if_pos (Setting.key_of_last? hlast ▸ s.key_mem_keys)]
      exact .some s.meantBy_toJson

/-! ## Required parts -/

namespace RequiredPart

/-- The required parts in the order in which they are asked for. -/
def inOrder : List RequiredPart := [.camundaVersion, .elasticsearchVersion, .parentDir]

/-- The first required part that no call has set. -/
def firstUnset? (calls : List Setting) : Option RequiredPart :=
  inOrder.find? fun p => (Setting.last? calls p.key).isNone

/-- Whether a draft has no value for the part. -/
def lacks (d : Draft) : RequiredPart → Bool
  | .camundaVersion => d.camundaVersion.isNone
  | .elasticsearchVersion => d.elasticsearchVersion.isNone
  | .parentDir => d.parentDir.isNone

/-- It is one of the parts of a configuration and has no default. -/
theorem exists_part (p : RequiredPart) : ∃ q ∈ LaunchConfig.parts,
    q.key = p.key ∧ q.default? = none ∧ ∀ d, (q.get d).isNone = lacks d p := by
  cases p with
  | camundaVersion => exact ⟨_, .head _, rfl, rfl, fun _ => rfl⟩
  | elasticsearchVersion => exact ⟨_, .tail _ (.head _), rfl, rfl, fun _ => rfl⟩
  | parentDir => exact ⟨_, .tail _ (.tail _ (.head _)), rfl, rfl, fun _ => rfl⟩

theorem finish_eq (d : Draft) :
    match inOrder.find? (lacks d) with
    | some p => d.finish = .error p
    | none => ∃ c, d.finish = .ok c := by
  obtain ⟨version, search, dir, _⟩ := d
  cases version with
  | none => exact rfl
  | some =>
    cases search with
    | none => exact rfl
    | some =>
      cases dir with
      | none => exact rfl
      | some => exact ⟨_, rfl⟩

end RequiredPart

/-! ## The draft of the calls -/

namespace Draft

variable {s : Setting} {calls : List Setting} {p : Json.Part Draft} {v? : Option Json}

theorem ofSettings_concat (calls : List Setting) (s : Setting) :
    ofSettings (calls ++ [s]) = (ofSettings calls).set s := List.foldl_concat ..

/-- A setting leaves the other parts as they are. -/
theorem get_set_of_ne (hp : p ∈ LaunchConfig.parts) (hne : s.key ≠ p.key) (d : Draft) :
    p.get (d.set s) = p.get d := by
  cases s <;> revert p <;> simp [LaunchConfig.parts, Setting.key, set]

/-- What a part is set to does not depend on what there was before. -/
theorem get_set_of_eq (hp : p ∈ LaunchConfig.parts) (heq : s.key = p.key) (d d' : Draft) :
    p.get (d.set s) = p.get (d'.set s) := by
  cases s <;> revert p <;> simp [LaunchConfig.parts, Setting.key, set]

theorem holds_set (hp : p ∈ LaunchConfig.parts) (heq : s.key = p.key) {v : Json}
    (hv : s.MeantBy v) (d : Draft) : p.Holds (d.set s) (some v) := by
  cases s <;> revert p <;> simpa [LaunchConfig.parts, Setting.key, set, Setting.MeantBy] using hv

/-- Of all calls only the last one for a part counts for it. -/
theorem get_ofSettings (hp : p ∈ LaunchConfig.parts) (calls : List Setting) :
    p.get (ofSettings calls) = p.get ((Setting.last? calls p.key).elim {} (set {})) := by
  induction calls using List.reverseRecOn with
  | nil => rfl
  | append_singleton calls s ih =>
    rw [ofSettings_concat, Setting.last?_concat]
    by_cases hkey : s.key = p.key
    · rw [if_pos hkey]
      exact get_set_of_eq hp hkey _ _
    · rw [if_neg hkey, get_set_of_ne hp hkey, ih]

/-- The draft holds what an object gives that spells the calls. -/
theorem holds_ofSettings (hp : p ∈ LaunchConfig.parts)
    (hgiven : Option.Rel (fun v s => s.MeantBy v) v? (Setting.last? calls p.key)) :
    p.Holds (ofSettings calls) v? := by
  unfold Json.Part.Holds
  rw [get_ofSettings hp]
  cases hlast : Setting.last? calls p.key with
  | none =>
    rw [hlast] at hgiven
    cases hgiven
    exact LaunchConfig.layout.start p hp
  | some s =>
    rw [hlast] at hgiven
    cases hgiven with
    | some hv => exact holds_set hp (Setting.key_of_last? hlast) hv {}

/-- A part without a default is missing if and only if no call has set it. -/
theorem get_ofSettings_eq_none_iff (hp : p ∈ LaunchConfig.parts) (hdefault : p.default? = none) :
    p.get (ofSettings calls) = none ↔ Setting.last? calls p.key = none := by
  rw [get_ofSettings hp]
  cases hlast : Setting.last? calls p.key with
  | none => exact iff_of_true ((LaunchConfig.layout.start p hp).trans hdefault) rfl
  | some s =>
    obtain ⟨a, -, hget⟩ := holds_set hp (Setting.key_of_last? hlast) s.meantBy_toJson {}
    refine iff_of_false ?_ nofun
    rw [Option.elim_some, hget]
    exact nofun

theorem lacks_ofSettings (calls : List Setting) :
    RequiredPart.lacks (ofSettings calls) = fun p => (Setting.last? calls p.key).isNone := by
  funext p
  obtain ⟨q, hq, hkey, hdefault, hlacks⟩ := p.exists_part
  rw [← hlacks, ← hkey, Bool.eq_iff_iff, Option.isNone_iff_eq_none, Option.isNone_iff_eq_none]
  exact get_ofSettings_eq_none_iff hq hdefault

/-- To set a part once more to what the last call has set it to changes nothing. -/
theorem set_of_last? {key : String} (hlast : Setting.last? calls key = some s) :
    (ofSettings calls).set s = ofSettings calls := by
  obtain rfl := Setting.key_of_last? hlast
  refine LaunchConfig.layout.ext _ _ fun p hp => ?_
  by_cases hkey : s.key = p.key
  · rw [get_ofSettings hp calls, ← hkey, hlast]
    exact get_set_of_eq hp hkey _ _
  · exact get_set_of_ne hp hkey _

theorem heldBy_of_set {c : LaunchConfig} (h : c.toDraft.set s = c.toDraft) : s.HeldBy c := by
  cases s <;> simpa [set, LaunchConfig.toDraft, Setting.HeldBy, eq_comm] using h

end Draft

/-! ## Reading -/

theorem LaunchConfig.read_eq_finish {j : Json} {d : Draft} (h : Draft.schema.read {} j = .ok d) :
    LaunchConfig.read j = d.finish.mapError fun p => .missing p.key := by
  unfold LaunchConfig.read
  rw [h]
  change Except.bind (.ok d) _ = _
  cases hfinish : d.finish with
  | ok c => simp only [Except.bind, hfinish, Except.mapError]; rfl
  | error p => simp only [Except.bind, hfinish, Except.mapError]; rfl

/-- What spells some calls is read into their draft. -/
theorem Spells.read {fields : List (String × Json)} {calls : List Setting}
    (h : Spells fields calls) :
    Draft.schema.read {} (.object fields) = .ok (Draft.ofSettings calls) := by
  have hlayout := LaunchConfig.layout
  have hperm : Draft.schema.inKeyOrder.Perm Draft.schema.fields := sortBy_perm _ _
  have hvalues (key : String) (v : Json)
      (hv : valueFor Draft.schema.keys key (.object fields) = some v) : v.KeysOnce :=
    h.keysOnce.of_valueFor hv
  rw [Schema.read_object hlayout.nodup h.keysOnce.nodup, hlayout.fill_eq_ok_iff hvalues hperm]
  exact fun p hp => Draft.holds_ofSettings hp (h.given p.key)

/-! ## Building -/

namespace Builder

/-- The draft that a builder stands for, with the defaults of the parts that have not been set. -/
def toDraft (b : Builder) : Draft where
  camundaVersion := b.camundaVersion
  elasticsearchVersion := b.elasticsearchVersion
  parentDir := b.parentDir
  javaHome := b.javaHome.getD none
  extraArgs := b.extraArgs.getD []
  javaOpts := b.javaOpts.getD none
  camundaConfig := b.camundaConfig.getD none
  disableElasticsearch := b.disableElasticsearch.getD false
  checkJavaVersion := b.checkJavaVersion.getD true
  browser := b.browser.getD {}
  readiness := b.readiness.getD {}
  termination := b.termination.getD {}

theorem toDraft_set (b : Builder) (s : Setting) : (b.set s).toDraft = b.toDraft.set s := by
  cases s <;> rfl

theorem toDraft_ofSettings (calls : List Setting) :
    (ofSettings calls).toDraft = Draft.ofSettings calls := by
  induction calls using List.reverseRecOn with
  | nil => rfl
  | append_singleton calls s ih =>
    rw [Draft.ofSettings_concat, ← ih, ← toDraft_set]
    exact congrArg toDraft (List.foldl_concat ..)

theorem build_eq_finish (b : Builder) : b.build = b.toDraft.finish := by
  obtain ⟨version, search, dir, _⟩ := b
  cases version <;> cases search <;> cases dir <;> rfl

/-- Building a configuration by some calls, in whatever order and however often a part is set, comes
to the same as reading an object that gives what the last call for each part has set. If a required
part has not been set, both fail with the first such part. Otherwise both give one configuration,
and it has what was set last. -/
theorem build_eq_read (calls : List Setting) :
    (∃ fields, Spells fields calls) ∧
    ∀ fields, Spells fields calls →
      match RequiredPart.firstUnset? calls with
      | some p => (ofSettings calls).build = .error p ∧
          LaunchConfig.read (.object fields) = .error (.missing p.key)
      | none => ∃ c, (ofSettings calls).build = .ok c ∧
          LaunchConfig.read (.object fields) = .ok c ∧
          ∀ key s, Setting.last? calls key = some s → s.HeldBy c := by
  refine ⟨⟨_, spells_spelling calls⟩, fun fields hspells => ?_⟩
  have hbuild : (ofSettings calls).build = (Draft.ofSettings calls).finish := by
    rw [build_eq_finish, toDraft_ofSettings]
  have hread := LaunchConfig.read_eq_finish hspells.read
  have hfinish := RequiredPart.finish_eq (Draft.ofSettings calls)
  rw [Draft.lacks_ofSettings] at hfinish
  unfold RequiredPart.firstUnset?
  split at hfinish
  · next p _ =>
    rw [hbuild, hread, hfinish]
    exact ⟨rfl, rfl⟩
  · obtain ⟨c, hc⟩ := hfinish
    rw [hbuild, hread, hc]
    refine ⟨c, rfl, rfl, fun key s hlast => Draft.heldBy_of_set ?_⟩
    rw [← LaunchConfig.finish_eq_ok_iff.mp hc]
    exact Draft.set_of_last? hlast

section Example

/-- Calls in no particular order. The arguments are set twice. -/
def repeatedCalls : List Setting :=
  [.extraArgs ["--first"], .parentDir ⟨"c8"⟩, .elasticsearchVersion "8.17.3",
    .extraArgs ["--second"], .camundaVersion "8.7.0"]

theorem last_call_counts : ∃ c, (ofSettings repeatedCalls).build = .ok c ∧
    LaunchConfig.read (.object (Setting.spelling repeatedCalls)) = .ok c ∧
    c.extraArgs = ["--second"] := by
  obtain ⟨-, hagree⟩ := build_eq_read repeatedCalls
  have hset : RequiredPart.firstUnset? repeatedCalls = none := by decide
  have hall := hagree (Setting.spelling repeatedCalls) (spells_spelling repeatedCalls)
  rw [hset] at hall
  obtain ⟨c, hbuild, hread, hheld⟩ := hall
  exact ⟨c, hbuild, hread, hheld "extraArgs" (.extraArgs ["--second"]) (by decide)⟩

end Example

end Builder

end Launchpad
