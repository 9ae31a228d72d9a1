import Launchpad.Proofs.Config.RoundTrip
import Launchpad.Status

/-!
# What the JSON of statuses and reports tells

The fields of a status stand among those of its component, and the fields of the phase among those
of the report. A value says the same as another one (`Json.Same`) if it differs at most in the order
of its keys. Whatever says the same as the JSON of a status is read as this status, also with other
keys beside (`ProcessStatus.read_of_among`). No key comes twice in the JSON of a report, and no
value says the same as those of two different reports: `Report.json_loses_nothing`.
-/

namespace Launchpad

open Json

namespace Json

/-! ## Values that say the same -/

/-- Two values differ at most in the order of the keys of their objects. -/
inductive Same : Json → Json → Prop
  | null : Same .null .null
  | bool (b : Bool) : Same (.bool b) (.bool b)
  | int (n : Int) : Same (.int n) (.int n)
  | real (x : Double) : Same (.real x) (.real x)
  | text (s : String) : Same (.text s) (.text s)
  | list {items items' : List Json} (h : List.Forall₂ Same items items') :
    Same (.list items) (.list items')
  | object {fields fields' : List (String × Json)}
      (h : ∀ key, Option.Rel Same (fields.lookup key) (fields'.lookup key)) :
    Same (.object fields) (.object fields')

theorem Same.refl : (j : Json) → Same j j
  | .null => .null
  | .bool b => .bool b
  | .int n => .int n
  | .real x => .real x
  | .text s => .text s
  | .list items => .list (List.forall₂_same.mpr fun j _ => Same.refl j)
  | .object fields => .object fun key => by
    cases hv : fields.lookup key with
    | none => exact .none
    | some v => exact .some (Same.refl v)
termination_by j => sizeOf j
decreasing_by
  · have hlt := List.sizeOf_lt_of_mem ‹_ ∈ items›
    simp only [list.sizeOf_spec]
    omega
  · have hlt := List.sizeOf_lt_of_mem (mem_of_lookup hv)
    simp only [object.sizeOf_spec, Prod.mk.sizeOf_spec] at hlt ⊢
    omega

/-- The order of the keys does not count. -/
theorem same_of_perm {fields fields' : List (String × Json)}
    (hkeys : (fields.map Prod.fst).Nodup) (hp : fields.Perm fields') :
    Same (.object fields) (.object fields') := by
  have hkeys' : (fields'.map Prod.fst).Nodup := (hp.map Prod.fst).nodup hkeys
  refine .object fun key => ?_
  have hlookup : fields.lookup key = fields'.lookup key := by
    ext v
    rw [lookup_eq_some_iff_mem hkeys, lookup_eq_some_iff_mem hkeys', hp.mem_iff]
  rw [hlookup]
  cases fields'.lookup key with
  | none => exact .none
  | some v => exact .some (.refl v)

/-- What something is written as tells what it is, in whatever order the keys come. -/
def Tells {α : Type} (write : α → Json) : Prop := Relator.LeftUnique fun a j => Same (write a) j

section Tells

variable {α β : Type} {write : α → Json}

theorem tells_text : Tells Json.text := by
  intro s s' j h h'
  cases h
  cases h'
  rfl

theorem tells_nat : Tells nat := by
  intro n n' j h h'
  cases h
  cases h'
  rfl

theorem Tells.list (hwrite : Tells write) : Tells fun as : List α => .list (as.map write) := by
  intro as as' j h h'
  cases h with
  | list hitems =>
    cases h' with
    | list hitems' =>
      rw [List.forall₂_map_left_iff] at hitems hitems'
      exact Relator.LeftUnique.forall₂ hwrite hitems hitems'

theorem Tells.comp (hwrite : Tells write) {f : β → α} (hf : Function.Injective f) :
    Tells (write ∘ f) :=
  fun _ _ _ h h' => hf (hwrite h h')

theorem Tells.same_iff (hwrite : Tells write) {a a' : α} :
    Same (write a) (write a') ↔ a = a' :=
  ⟨fun h => hwrite h (.refl _), fun h => h ▸ .refl _⟩

end Tells

/-! ## Fields among others -/

def field? (key : String) : Json → Option Json
  | .object fields => fields.lookup key
  | _ => none

/-- Some fields stand among those of a value, or others that say the same. -/
def Among (fields : List (String × Json)) (j : Json) : Prop :=
  ∀ e ∈ fields, ∃ v, j.field? e.1 = some v ∧ e.2.Same v

section Among

variable {fields part part' : List (String × Json)} {j : Json} {key : String}

/-- The fields of an object without repeated keys stand in whatever says the same. -/
theorem among_of_same (hkeys : (fields.map Prod.fst).Nodup) (h : Same (.object fields) j) :
    Among fields j := by
  intro e he
  cases h with
  | object h =>
    have hrel := h e.1
    rw [(lookup_eq_some_iff_mem hkeys).mpr he] at hrel
    generalize hv : List.lookup e.1 _ = v? at hrel
    cases hrel with
    | some hsame => exact ⟨_, hv, hsame⟩

theorem Among.mono (h : Among fields j) (hsub : part ⊆ fields) : Among part j :=
  fun e he => h e (hsub he)

/-- What stands in one value under one key is the same, if its JSON tells what it is. -/
theorem Among.eq_of_tells {α : Type} {write : α → Json} {a a' : α} (h : Among part j)
    (h' : Among part' j) (hwrite : Tells write) (hm : (key, write a) ∈ part)
    (hm' : (key, write a') ∈ part') : a = a' := by
  obtain ⟨v, hv, hsame⟩ := h _ hm
  obtain ⟨_, hv', hsame'⟩ := h' _ hm'
  cases hv.symm.trans hv'
  exact hwrite hsame hsame'

theorem tells_object {α : Type} {fields : α → List (String × Json)}
    (hkeys : ∀ a, ((fields a).map Prod.fst).Nodup)
    (heq : ∀ {a a' j}, Among (fields a) j → Among (fields a') j → a = a') :
    Tells fun a => .object (fields a) :=
  fun a a' _ h h' => heq (among_of_same (hkeys a) h) (among_of_same (hkeys a') h')

end Among

end Json

/-! ## Statuses -/

namespace ProcessStatus

variable {s : ProcessStatus} {j : Json}

theorem keysOnce_fields (s : ProcessStatus) : ∀ e ∈ s.fields, e.2.KeysOnce := by
  cases s with
  | starting | ready | running => exact List.forall_mem_cons.mpr ⟨.text _, nofun⟩
  | exited code =>
    refine List.forall_mem_cons.mpr ⟨.text _, List.forall_mem_cons.mpr ⟨?_, nofun⟩⟩
    cases code with
    | none => exact .null
    | some c => exact .int _
  | failed reason =>
    exact List.forall_mem_cons.mpr ⟨.text _, List.forall_mem_cons.mpr ⟨.text _, nofun⟩⟩

theorem nodup_keys (s : ProcessStatus) : (s.fields.map Prod.fst).Nodup := by
  cases s <;> simp [fields]

theorem readInt32_toInt (c : Int32) : readInt32 (.int c.toInt) = .ok c := by
  have hlow := c.le_toInt
  have hhigh := c.toInt_lt
  unfold readInt32 readInt
  dsimp only
  rw [if_pos (by omega)]
  exact congrArg Except.ok c.ofInt_toInt

/-- The name of the status in a value decides what else is read of it. -/
theorem read_of_name {name : String} {tag : Tag} (h : Among s.fields j)
    (hm : ("status", .text name) ∈ s.fields) (htag : tags.lookup name = some tag) :
    ∃ fields, j = .object fields ∧ read j = ofFields fields tag := by
  obtain ⟨v, hv, hsame⟩ := h _ hm
  cases hsame
  cases j with
  | object fields =>
    have hname : fields.lookup "status" = some (.text name) := hv
    refine ⟨fields, rfl, ?_⟩
    unfold read
    dsimp only
    rw [hname]
    unfold readTag
    dsimp only
    rw [htag]
    rfl
  | _ => cases hv

/-- A value is read as the status whose fields stand in it. -/
theorem read_of_among (h : Among s.fields j) : read j = .ok s := by
  cases s with
  | starting | ready | running =>
    obtain ⟨fields, rfl, hread⟩ := read_of_name h List.mem_cons_self rfl
    exact hread
  | exited code =>
    obtain ⟨fields, rfl, hread⟩ := read_of_name h List.mem_cons_self rfl
    obtain ⟨v, hv, hsame⟩ := h _ (List.mem_cons_of_mem _ List.mem_cons_self)
    have hcode : fields.lookup "code" = some v := hv
    rw [hread, ofFields, hcode]
    cases code with
    | none =>
      cases hsame
      rfl
    | some c =>
      cases hsame
      exact congrArg (fun r => Except.map exited (Except.map some r)) (readInt32_toInt c)
  | failed reason =>
    obtain ⟨fields, rfl, hread⟩ := read_of_name h List.mem_cons_self rfl
    obtain ⟨v, hv, hsame⟩ := h _ (List.mem_cons_of_mem _ List.mem_cons_self)
    have hreason : fields.lookup "reason" = some v := hv
    cases hsame
    rw [hread, ofFields, hreason]
    rfl

end ProcessStatus

/-! ## Components -/

theorem Component.tells_key : Tells fun c : Component => .text c.key :=
  tells_text.comp fun _ _ => Component.key_injective

theorem Component.tells_listToJson : Tells Component.listToJson :=
  tells_text.list.comp (List.map_injective_iff.mpr fun _ _ => Component.key_injective)

theorem Pid.tells_toNat : Tells fun p : Pid => .nat p.toNat :=
  tells_nat.comp fun _ _ => Pid.toNat_injective

namespace Timestamp

variable {t t' : Timestamp} {j : Json}

def fields (t : Timestamp) : List (String × Json) :=
  [("secs_since_epoch", .nat t.secs), ("nanos_since_epoch", .nat t.nanos)]

theorem nodup_keys (t : Timestamp) : (t.fields.map Prod.fst).Nodup := by simp [fields]

theorem keysOnce_toJson (t : Timestamp) : t.toJson.KeysOnce :=
  .object t.nodup_keys (by simp [keysOnce_nat])

theorem eq_of_among (h : Among t.fields j) (h' : Among t'.fields j) : t = t' := by
  have hsecs : t.secs = t'.secs :=
    h.eq_of_tells h' tells_nat List.mem_cons_self List.mem_cons_self
  have hnanos : t.nanos = t'.nanos :=
    h.eq_of_tells h' tells_nat (List.mem_cons_of_mem _ List.mem_cons_self)
      (List.mem_cons_of_mem _ List.mem_cons_self)
  cases t
  cases t'
  cases hsecs
  cases hnanos
  rfl

theorem tells_toJson : Tells toJson := tells_object nodup_keys eq_of_among

end Timestamp

namespace ComponentStatus

variable {c c' : ComponentStatus} {j : Json}

def fields (c : ComponentStatus) : List (String × Json) :=
  [("kind", .text c.component.key), ("pid", .nat c.pid.toNat)] ++ c.status.fields ++
    [("startedAt", c.startedAt.toJson)]

theorem nodup_keys (c : ComponentStatus) : (c.fields.map Prod.fst).Nodup := by
  unfold fields
  cases c.status <;> simp [ProcessStatus.fields]

theorem kind_mem (c : ComponentStatus) : ("kind", .text c.component.key) ∈ c.fields := by
  simp [fields]

theorem pid_mem (c : ComponentStatus) : ("pid", .nat c.pid.toNat) ∈ c.fields := by simp [fields]

theorem status_subset (c : ComponentStatus) : c.status.fields ⊆ c.fields :=
  fun _ he => List.mem_append_left _ (List.mem_append_right _ he)

theorem startedAt_mem (c : ComponentStatus) : ("startedAt", c.startedAt.toJson) ∈ c.fields := by
  simp [fields]

theorem keysOnce_toJson (c : ComponentStatus) : c.toJson.KeysOnce := by
  refine .object c.nodup_keys ?_
  simp only [List.forall_mem_append, List.forall_mem_cons]
  exact ⟨⟨⟨.text _, keysOnce_nat _, nofun⟩, c.status.keysOnce_fields⟩,
    c.startedAt.keysOnce_toJson, nofun⟩

theorem eq_of_among (h : Among c.fields j) (h' : Among c'.fields j) : c = c' := by
  have hcomponent : c.component = c'.component :=
    h.eq_of_tells h' Component.tells_key c.kind_mem c'.kind_mem
  have hpid : c.pid = c'.pid := h.eq_of_tells h' Pid.tells_toNat c.pid_mem c'.pid_mem
  have hstatus : c.status = c'.status := by
    have hread := ProcessStatus.read_of_among (h.mono c.status_subset)
    rw [ProcessStatus.read_of_among (h'.mono c'.status_subset)] at hread
    exact (Except.ok.inj hread).symm
  have hstartedAt : c.startedAt = c'.startedAt :=
    h.eq_of_tells h' Timestamp.tells_toJson c.startedAt_mem c'.startedAt_mem
  cases c
  cases c'
  cases hcomponent
  cases hpid
  cases hstatus
  cases hstartedAt
  rfl

theorem tells_toJson : Tells toJson := tells_object nodup_keys eq_of_among

end ComponentStatus

/-! ## Reports -/

namespace Phase

variable {p p' : Phase} {j : Json}

def name : Phase → String
  | .degraded _ => "degraded"
  | .failed _ => "failed"
  | p => p.text

theorem name_mem (p : Phase) : ("state", .text p.name) ∈ p.fields := by
  cases p <;> simp [fields, name, text]

theorem eq_of_among (h : Among p.fields j) (h' : Among p'.fields j) : p = p' := by
  have hname : p.name = p'.name := h.eq_of_tells h' tells_text p.name_mem p'.name_mem
  cases p with
  | degraded exited =>
    cases p' with
    | degraded exited' =>
      have hexited : exited = exited' := h.eq_of_tells h' Component.tells_listToJson
        (List.mem_cons_of_mem _ List.mem_cons_self) (List.mem_cons_of_mem _ List.mem_cons_self)
      rw [hexited]
    | _ => simp [name, text] at hname
  | failed reason =>
    cases p' with
    | failed reason' =>
      have hreason : reason = reason' := h.eq_of_tells h' tells_text
        (List.mem_cons_of_mem _ List.mem_cons_self) (List.mem_cons_of_mem _ List.mem_cons_self)
      rw [hreason]
    | _ => simp [name, text] at hname
  | _ => cases p' <;> simp [name, text] at hname ⊢

theorem keysOnce_fields (p : Phase) : ∀ e ∈ p.fields, e.2.KeysOnce := by
  cases p with
  | degraded exited =>
    exact List.forall_mem_cons.mpr ⟨.text _, List.forall_mem_cons.mpr ⟨keysOnce_texts _, nofun⟩⟩
  | failed reason =>
    exact List.forall_mem_cons.mpr ⟨.text _, List.forall_mem_cons.mpr ⟨.text _, nofun⟩⟩
  | _ => exact List.forall_mem_cons.mpr ⟨.text _, nofun⟩

end Phase

namespace Report

variable {r r' : Report} {j : Json}

def fields (r : Report) : List (String × Json) :=
  r.phase.fields ++ [("components", .list (r.components.map ComponentStatus.toJson))]

theorem nodup_keys (r : Report) : (r.fields.map Prod.fst).Nodup := by
  unfold fields
  cases r.phase <;> simp [Phase.fields]

theorem phase_subset (r : Report) : r.phase.fields ⊆ r.fields := List.subset_append_left _ _

theorem components_mem (r : Report) :
    ("components", .list (r.components.map ComponentStatus.toJson)) ∈ r.fields := by
  simp [fields]

theorem keysOnce_toJson (r : Report) : r.toJson.KeysOnce := by
  have hcomponents : (Json.list (r.components.map ComponentStatus.toJson)).KeysOnce :=
    .list (List.forall_mem_map.mpr fun c _ => c.keysOnce_toJson)
  refine .object r.nodup_keys ?_
  simp only [List.forall_mem_append, List.forall_mem_cons]
  exact ⟨r.phase.keysOnce_fields, hcomponents, nofun⟩

theorem eq_of_among (h : Among r.fields j) (h' : Among r'.fields j) : r = r' := by
  have hphase : r.phase = r'.phase :=
    Phase.eq_of_among (h.mono r.phase_subset) (h'.mono r'.phase_subset)
  have hcomponents : r.components = r'.components :=
    h.eq_of_tells h' ComponentStatus.tells_toJson.list r.components_mem r'.components_mem
  cases r
  cases r'
  cases hphase
  cases hcomponents
  rfl

theorem tells_toJson : Tells toJson := tells_object nodup_keys eq_of_among

/-- A status is read back from its JSON, in whatever order the keys come. No key comes twice in the
JSON of a report or of a part of it, and the JSON of two reports says the same only if they are the
same. -/
theorem json_loses_nothing :
    (∀ (s : ProcessStatus) (j : Json), s.toJson.Same j → ProcessStatus.read j = .ok s) ∧
    (∀ r : Report, r.toJson.KeysOnce) ∧
    ∀ r r' : Report, r.toJson.Same r'.toJson ↔ r = r' := by
  refine ⟨fun s j h => ?_, keysOnce_toJson, fun r r' => tells_toJson.same_iff⟩
  exact ProcessStatus.read_of_among (among_of_same s.nodup_keys h)

/-- An exit code is read back with the keys in the other order. -/
theorem exit_code_is_read_back :
    ProcessStatus.read (.object [("code", .int 3), ("status", .text "exited")]) =
      .ok (.exited (some 3)) := by
  obtain ⟨hread, -⟩ := json_loses_nothing
  exact hread (.exited (some 3)) _
    (same_of_perm (ProcessStatus.nodup_keys (.exited (some 3))) (.swap _ _ _))

end Report

end Launchpad
