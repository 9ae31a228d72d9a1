import Launchpad.Proofs.Json.Record

/-!
# What JSON values mean

A `Language` says which value of a type a JSON value means, and which JSON values differ in nothing
that counts. A record has its own from those of its parts: the value has to be one of a record, what
is given for a part has to mean something, what is not given needs a default (`Written`), and other
keys do not count (`Alike`).

* `Reads r l`: the reader `r` takes exactly the values of `l`, for what they mean.
* `Layout s parts start`: the fields of a schema read one part each, and no field touches the part
  of another. Reading the record is then reading its language (`Layout.read_eq_ok_iff`,
  `Layout.isOk_read_iff`, `Layout.read_eq_of_alike`).
-/

namespace Launchpad

namespace Json

/-- What the values of a type are in JSON. -/
structure Language (α : Type) where
  /-- The JSON value means the value. -/
  means : Json → α → Prop
  /-- The JSON values differ in nothing that counts. -/
  alike : Json → Json → Prop := (· = ·)

/-- The reader takes exactly the values of the language. -/
structure Reads {α : Type} (r : Reader α) (l : Language α) : Prop where
  ok_iff : ∀ {j : Json}, j.KeysOnce → ∀ a, r j = .ok a ↔ l.means j a
  alike : ∀ {j j' : Json}, l.alike j j' → r j = r j'

/-! ## Single values -/

namespace Language

def flag : Language Bool := { means := fun j b => j = .bool b }

def text : Language String := { means := fun j s => j = .text s }

def path : Language Path := { means := fun j p => j = .text p.text }

def word16 : Language UInt16 := { means := fun j n => j = .nat n.toNat }

def word64 : Language UInt64 := { means := fun j n => j = .nat n.toNat }

def texts : Language (List String) := { means := fun j items => j = .texts items }

/-- A value, or null for none. -/
def optional {α : Type} (l : Language α) : Language (Option α) where
  means
    | .null, a? => a? = none
    | j, a? => ∃ a, l.means j a ∧ a? = some a

end Language

namespace Reads

theorem flag : Reads readBool .flag where
  ok_iff {j} _ b := by cases j <;> simp [readBool, Language.flag]
  alike := by rintro j _ rfl; rfl

theorem readText_eq_ok_iff {j : Json} {s : String} : readText j = .ok s ↔ j = .text s := by
  cases j <;> simp [readText]

theorem text : Reads readText .text where
  ok_iff _ _ := readText_eq_ok_iff
  alike := by rintro j _ rfl; rfl

theorem path : Reads readPath .path where
  ok_iff {j} _ p := by
    obtain ⟨p⟩ := p
    cases j <;> simp [readPath, Language.path]
  alike := by rintro j _ rfl; rfl

theorem readInt_eq_ok_iff {low high n : Int} {expected : String} {j : Json} :
    readInt low high expected j = .ok n ↔ j = .int n ∧ low ≤ n ∧ n < high := by
  cases j with
  | int m =>
    unfold readInt
    dsimp only
    split <;> simp <;> omega
  | _ => simp [readInt]

theorem map_eq_ok_iff {α β : Type} {f : α → β} {r : Except Fault α} {b : β} :
    r.map f = .ok b ↔ ∃ a, r = .ok a ∧ f a = b := by
  cases r <;> simp [Except.map]

theorem bind_eq_ok_iff {α β : Type} {f : α → Except Fault β} {r : Except Fault α} {b : β} :
    r >>= f = .ok b ↔ ∃ a, r = .ok a ∧ f a = .ok b := by
  cases r <;> simp [bind, Except.bind]

theorem word16 : Reads readUInt16 .word16 where
  ok_iff {j} _ n := by
    unfold readUInt16 Language.word16 Json.nat
    simp only [map_eq_ok_iff, readInt_eq_ok_iff]
    constructor
    · rintro ⟨m, ⟨rfl, hlow, hhigh⟩, rfl⟩
      rw [UInt16.toNat_ofNat_of_lt' (by omega), Int.toNat_of_nonneg hlow]
    · rintro rfl
      have hlt := n.toNat_lt_size
      exact ⟨n.toNat, ⟨rfl, by omega, by omega⟩, by simp⟩
  alike := by rintro j _ rfl; rfl

theorem word64 : Reads readUInt64 .word64 where
  ok_iff {j} _ n := by
    unfold readUInt64 Language.word64 Json.nat
    simp only [map_eq_ok_iff, readInt_eq_ok_iff]
    constructor
    · rintro ⟨m, ⟨rfl, hlow, hhigh⟩, rfl⟩
      rw [UInt64.toNat_ofNat_of_lt' (by omega), Int.toNat_of_nonneg hlow]
    · rintro rfl
      have hlt := n.toNat_lt_size
      exact ⟨n.toNat, ⟨rfl, by omega, by omega⟩, by simp⟩
  alike := by rintro j _ rfl; rfl

theorem mapM_readText_eq_ok_iff {values : List Json} {items : List String} :
    values.mapM readText = .ok items ↔ values = items.map .text := by
  induction values generalizing items with
  | nil => simp [pure, Except.pure, eq_comm]
  | cons v values ih =>
    rw [List.mapM_cons, bind_eq_ok_iff]
    simp only [readText_eq_ok_iff, bind_eq_ok_iff, ih, pure, Except.pure, Except.ok.injEq]
    constructor
    · rintro ⟨s, rfl, rest, rfl, rfl⟩
      rfl
    · intro h
      cases items with
      | nil => cases h
      | cons s rest =>
        obtain ⟨rfl, rfl⟩ := List.cons.inj h
        exact ⟨s, rfl, rest, rfl, rfl⟩

theorem texts : Reads (readList readText) .texts where
  ok_iff {j} _ items := by
    cases j with
    | list values => simpa [readList, Language.texts, Json.texts] using mapM_readText_eq_ok_iff
    | _ => simp [readList, Language.texts, Json.texts]
  alike := by rintro j _ rfl; rfl

theorem optional {α : Type} {r : Reader α} {l : Language α} (h : Reads r l) :
    Reads (readOption r) (.optional l) where
  ok_iff {j} hj a? := by
    cases j with
    | null => simp [readOption, Language.optional, eq_comm]
    | _ => simp only [readOption, Language.optional, map_eq_ok_iff, h.ok_iff hj, eq_comm (b := a?)]
  alike := by rintro j _ rfl; rfl

end Reads

/-! ## Records -/

/-- A part of a record that is built up in a `δ`. -/
structure Part (δ : Type) where
  key : String
  Value : Type
  language : Language Value
  /-- What the part is if nothing is given for it. Without a default it has to be given. -/
  default? : Option Value
  get : δ → Option Value

namespace Part

variable {δ : Type}

/-- The part of the record is what is given for it, or else its default. -/
def Holds (p : Part δ) (d : δ) : Option Json → Prop
  | some v => ∃ a, p.language.means v a ∧ p.get d = some a
  | none => p.get d = p.default?

/-- What is given for the part means something, or the part has a default. -/
def Admits (p : Part δ) : Option Json → Prop
  | some v => ∃ a, p.language.means v a
  | none => p.default?.isSome

@[simp] theorem holds_some {p : Part δ} {d : δ} {v : Json} :
    p.Holds d (some v) ↔ ∃ a, p.language.means v a ∧ p.get d = some a := Iff.rfl

@[simp] theorem holds_none {p : Part δ} {d : δ} : p.Holds d none ↔ p.get d = p.default? := Iff.rfl

@[simp] theorem admits_some {p : Part δ} {v : Json} :
    p.Admits (some v) ↔ ∃ a, p.language.means v a := Iff.rfl

@[simp] theorem admits_none {p : Part δ} : p.Admits none ↔ p.default?.isSome := Iff.rfl

/-- A part that is there holds what it may hold. -/
theorem Holds.admits {p : Part δ} {d : δ} {v? : Option Json} (h : p.Holds d v?)
    (hd : (p.get d).isSome) : p.Admits v? := by
  cases v? with
  | none => exact admits_none.mpr (holds_none.mp h ▸ hd)
  | some v =>
    obtain ⟨a, ha, -⟩ := h
    exact ⟨a, ha⟩

/-- A part that holds what it may hold is there. -/
theorem Holds.isSome {p : Part δ} {d : δ} {v? : Option Json} (h : p.Holds d v?)
    (hv : p.Admits v?) : (p.get d).isSome := by
  cases v? with
  | none => exact (holds_none.mp h).symm ▸ admits_none.mp hv
  | some v =>
    obtain ⟨a, -, hget⟩ := h
    exact hget.symm ▸ rfl

end Part

section Records

variable {δ : Type}

/-- No part is missing. -/
def Full (parts : List (Part δ)) (d : δ) : Prop := ∀ p ∈ parts, (p.get d).isSome

/-- What the value gives for a part. -/
def given (parts : List (Part δ)) (j : Json) (p : Part δ) : Option Json :=
  valueFor (parts.map Part.key) p.key j

/-- The value is one of the record: every part is what is given for it, or else its default. -/
def Written (parts : List (Part δ)) (j : Json) (d : δ) : Prop :=
  IsRecord parts.length j ∧ ∀ p ∈ parts, p.Holds d (given parts j p)

/-- The value is one of a record: what is given means something, and what has no default is
given. -/
def Acceptable (parts : List (Part δ)) (j : Json) : Prop :=
  IsRecord parts.length j ∧ ∀ p ∈ parts, p.Admits (given parts j p)

/-- The values give the same for every part. They may differ in other keys and in the order of all
keys, and so may what they give for the parts. -/
inductive Alike (parts : List (Part δ)) : Json → Json → Prop
  | refl (j : Json) : Alike parts j j
  | object {fields fields' : List (String × Json)} (hn : (fields.map Prod.fst).Nodup)
      (hn' : (fields'.map Prod.fst).Nodup)
      (h : ∀ p ∈ parts, Option.Rel p.language.alike (given parts (.object fields) p)
        (given parts (.object fields') p)) : Alike parts (.object fields) (.object fields')
  | list {items items' : List Json} (hlength : items.length = items'.length)
      (h : ∀ p ∈ parts, Option.Rel p.language.alike (given parts (.list items) p)
        (given parts (.list items') p)) : Alike parts (.list items) (.list items')

/-- What records are in JSON. -/
def Language.record {γ : Type} (parts : List (Part δ)) (view : γ → δ) : Language γ where
  means j c := Written parts j (view c)
  alike := Alike parts

end Records

/-! ## Fields and their parts -/

/-- The field reads the part. -/
structure Field.Reads {δ : Type} (f : Field δ) (p : Part δ) : Prop where
  key : f.key = p.key
  required : f.required = true → p.default? = none
  reader : ∃ (r : Reader p.Value) (put : p.Value → δ → δ), Json.Reads r p.language ∧
    (∀ a d, p.get (put a d) = some a) ∧ ∀ v d, f.read v d = (r v).map (put · d)

@[simp] theorem Field.of_key {α δ : Type} {key : String} {r : Reader α} {put : α → δ → δ} :
    (Field.of key r put).key = key := rfl

theorem Field.Reads.of {α δ : Type} {key : String} {r : Reader α} {put : α → δ → δ}
    {l : Language α} {default? : Option α} {get : δ → Option α} (hr : Json.Reads r l)
    (hget : ∀ a d, get (put a d) = some a) :
    (Field.of key r put).Reads ⟨key, α, l, default?, get⟩ where
  key := rfl
  required := nofun
  reader := ⟨r, put, hr, hget, fun _ _ => rfl⟩

/-- Reading the field leaves the part as it is. -/
def Field.Keeps {δ : Type} (f : Field δ) (p : Part δ) : Prop :=
  ∀ v d d', f.read v d = .ok d' → p.get d' = p.get d

theorem Field.Keeps.of {α δ : Type} {key : String} {r : Reader α} {put : α → δ → δ} {p : Part δ}
    (h : ∀ a d, p.get (put a d) = p.get d) : (Field.of key r put).Keeps p := by
  intro v d d' hread
  obtain ⟨a, -, rfl⟩ := Reads.map_eq_ok_iff.mp hread
  exact h a d

namespace Field.Reads

variable {δ : Type} {f : Field δ} {p : Part δ} {v v' : Json} {d d' : δ} {a b : p.Value}

theorem get_of_read (h : f.Reads p) (hv : v.KeysOnce) (hread : f.read v d = .ok d') :
    ∃ a, p.language.means v a ∧ p.get d' = some a := by
  obtain ⟨r, put, hr, hget, hf⟩ := h.reader
  rw [hf] at hread
  cases ha : r v with
  | error e => simp [ha, Except.map] at hread
  | ok a =>
    obtain rfl : put a d = d' := by simpa [ha, Except.map] using hread
    exact ⟨a, (hr.ok_iff hv a).mp ha, hget a d⟩

theorem isOk_read (h : f.Reads p) (hv : v.KeysOnce) (ha : p.language.means v a) (d : δ) :
    ∃ d', f.read v d = .ok d' := by
  obtain ⟨r, put, hr, -, hf⟩ := h.reader
  exact ⟨put a d, by rw [hf, (hr.ok_iff hv a).mpr ha]; rfl⟩

theorem means_unique (h : f.Reads p) (hv : v.KeysOnce) (ha : p.language.means v a)
    (hb : p.language.means v b) : a = b := by
  obtain ⟨r, -, hr, -, -⟩ := h.reader
  have heq := ((hr.ok_iff hv a).mpr ha).symm.trans ((hr.ok_iff hv b).mpr hb)
  exact Except.ok.inj heq

theorem sameFor (h : f.Reads p) (hv : p.language.alike v v') : Schema.SameFor f v v' := by
  obtain ⟨r, put, hr, -, hf⟩ := h.reader
  intro d
  rw [hf, hf, hr.alike hv]

end Field.Reads

/-- What is given for a part determines it. -/
theorem Part.Holds.get_eq {δ : Type} {f : Field δ} {p : Part δ} {d d' : δ} {v? : Option Json}
    (hf : f.Reads p) (hv : ∀ v, v? = some v → v.KeysOnce) (h : p.Holds d v?)
    (h' : p.Holds d' v?) : p.get d = p.get d' := by
  cases v? with
  | none => exact Eq.trans h h'.symm
  | some v =>
    obtain ⟨a, ha, hget⟩ := h
    obtain ⟨b, hb, hget'⟩ := h'
    rw [hget, hget', hf.means_unique (hv v rfl) ha hb]

/-! ## Records -/

/-- The fields of the schema read the parts, each its own. -/
structure Layout {δ : Type} (s : Schema δ) (parts : List (Part δ)) (start : δ) : Prop where
  fields : List.Forall₂ Field.Reads s.fields parts
  nodup : s.keys.Nodup
  keeps : ∀ f ∈ s.fields, ∀ p ∈ parts, f.key ≠ p.key → f.Keeps p
  start : ∀ p ∈ parts, p.get start = p.default?
  /-- A record is its parts. -/
  ext : ∀ d d', (∀ p ∈ parts, p.get d = p.get d') → d = d'

theorem exists_of_forall₂ {α β : Type*} {R : α → β → Prop} {xs : List α} {ys : List β} {x : α}
    (h : List.Forall₂ R xs ys) (hx : x ∈ xs) : ∃ y ∈ ys, R x y := by
  induction h with
  | nil => cases hx
  | cons hxy _ ih =>
    rcases List.mem_cons.mp hx with rfl | hx
    · exact ⟨_, List.mem_cons_self, hxy⟩
    · obtain ⟨y, hy, h⟩ := ih hx
      exact ⟨y, List.mem_cons_of_mem _ hy, h⟩

namespace Layout

open Schema

variable {δ : Type} {s : Schema δ} {parts : List (Part δ)} {start d d' : δ} {j j' : Json}
  {v? v?' : String → Option Json} {fs : List (Field δ)}

theorem keys_eq (l : Layout s parts start) : s.keys = parts.map Part.key := by
  have h := List.forall₂_map_left_iff.mpr (List.forall₂_map_right_iff.mpr
    (l.fields.imp fun _ _ => Field.Reads.key))
  exact List.forall₂_eq_eq_eq ▸ h

theorem nodup_keys (l : Layout s parts start) : (parts.map Part.key).Nodup := l.keys_eq ▸ l.nodup

theorem exists_part (l : Layout s parts start) {f : Field δ} (hf : f ∈ s.fields) :
    ∃ p ∈ parts, f.Reads p :=
  exists_of_forall₂ l.fields hf

theorem exists_field (l : Layout s parts start) {p : Part δ} (hp : p ∈ parts) :
    ∃ f ∈ s.fields, f.Reads p :=
  exists_of_forall₂ l.fields.flip hp

theorem key_injective (l : Layout s parts start) {f g : Field δ} (hf : f ∈ s.fields)
    (hg : g ∈ s.fields) (h : f.key = g.key) : f = g :=
  List.inj_on_of_nodup_map l.nodup hf hg h

theorem get_of_fill_of_notMem (l : Layout s parts start) (hsub : fs ⊆ s.fields) {p : Part δ}
    (hp : p ∈ parts) (hnot : p.key ∉ fs.map Field.key) (h : fill v? fs d = .ok d') :
    p.get d' = p.get d := by
  induction fs generalizing d with
  | nil =>
    obtain rfl : d = d' := Except.ok.inj h
    rfl
  | cons f fs ih =>
    obtain ⟨hf, hsub⟩ := List.cons_subset.mp hsub
    obtain ⟨hne, hnot⟩ := not_or.mp (List.mem_cons.not.mp hnot)
    rcases exists_of_fill_cons h with ⟨-, h⟩ | ⟨v, d₁, -, hread, h⟩
    · exact ih hsub hnot h
    · have hkeep := l.keeps f hf p hp (Ne.symm hne) v d d₁ hread
      rw [ih hsub hnot h, hkeep]

/-- Taking in what is given for some fields settles their parts. -/
theorem holds_of_fill (l : Layout s parts start) (hv : ∀ key v, v? key = some v → v.KeysOnce)
    (hsub : fs ⊆ s.fields) (hn : (fs.map Field.key).Nodup) {p : Part δ} (hp : p ∈ parts)
    (hmem : p.key ∈ fs.map Field.key) (hd : p.get d = p.default?) (h : fill v? fs d = .ok d') :
    p.Holds d' (v? p.key) := by
  induction fs generalizing d with
  | nil => cases hmem
  | cons f fs ih =>
    obtain ⟨hf, hfs⟩ := List.cons_subset.mp hsub
    obtain ⟨hnot, hnodup⟩ := List.nodup_cons.mp hn
    rcases List.mem_cons.mp hmem with hkey | hmem
    · -- This is the field of the part, and the others leave it as it is.
      obtain ⟨g, hg, hreads⟩ := l.exists_field hp
      obtain rfl := l.key_injective hg hf (hreads.key.trans hkey)
      have hrest {d : δ} (h : fill v? fs d = .ok d') : p.get d' = p.get d :=
        l.get_of_fill_of_notMem hfs hp (hkey ▸ hnot) h
      rw [hkey]
      rcases exists_of_fill_cons h with ⟨hnone, h⟩ | ⟨v, d₁, hsome, hread, h⟩
      · rw [hnone]
        exact (hrest h).trans hd
      · obtain ⟨a, ha, hget⟩ := hreads.get_of_read (hv _ v hsome) hread
        rw [hsome]
        exact ⟨a, ha, (hrest h).trans hget⟩
    · have hne : f.key ≠ p.key := fun hkey => hnot (hkey ▸ hmem)
      rcases exists_of_fill_cons h with ⟨-, h⟩ | ⟨v, d₁, -, hread, h⟩
      · exact ih hfs hnodup hmem hd h
      · exact ih hfs hnodup hmem ((l.keeps f hf p hp hne v d d₁ hread).trans hd) h

/-- What means something is taken in, whatever was taken in before. -/
theorem isOk_fill (l : Layout s parts start) (hv : ∀ key v, v? key = some v → v.KeysOnce)
    (hsub : fs ⊆ s.fields)
    (h : ∀ p ∈ parts, ∀ v, v? p.key = some v → ∃ a, p.language.means v a) (d : δ) :
    ∃ d', fill v? fs d = .ok d' := by
  induction fs generalizing d with
  | nil => exact ⟨d, rfl⟩
  | cons f fs ih =>
    obtain ⟨hf, hsub⟩ := List.cons_subset.mp hsub
    cases hgiven : v? f.key with
    | none =>
      rw [fill_cons_none hgiven]
      exact ih hsub d
    | some v =>
      obtain ⟨p, hp, hreads⟩ := l.exists_part hf
      obtain ⟨a, ha⟩ := h p hp v (hreads.key ▸ hgiven)
      obtain ⟨d₁, hread⟩ := hreads.isOk_read (hv _ v hgiven) ha d
      obtain ⟨d', hfill⟩ := ih hsub d₁
      exact ⟨d', by rw [fill_cons_some hgiven, hread]; exact hfill⟩

/-- Taking in what is given for all fields, in any order, gives the record that holds it. -/
theorem fill_eq_ok_iff (l : Layout s parts start) (hv : ∀ key v, v? key = some v → v.KeysOnce)
    (hperm : fs.Perm s.fields) :
    fill v? fs start = .ok d ↔ ∀ p ∈ parts, p.Holds d (v? p.key) := by
  have hsub := hperm.subset
  have hn : (fs.map Field.key).Nodup := (hperm.map Field.key).nodup_iff.mpr l.nodup
  have hholds {d : δ} (h : fill v? fs start = .ok d) : ∀ p ∈ parts, p.Holds d (v? p.key) := by
    intro p hp
    have hmem : p.key ∈ fs.map Field.key := by
      have hkeys : p.key ∈ s.keys := l.keys_eq.symm ▸ List.mem_map_of_mem hp
      exact (hperm.map Field.key).mem_iff.mpr hkeys
    exact l.holds_of_fill hv hsub hn hp hmem (l.start p hp) h
  refine ⟨hholds, fun h => ?_⟩
  have hmeans : ∀ p ∈ parts, ∀ v, v? p.key = some v → ∃ a, p.language.means v a := by
    intro p hp v hgiven
    obtain ⟨a, ha, -⟩ := by simpa only [hgiven] using h p hp
    exact ⟨a, ha⟩
  obtain ⟨d', hfill⟩ := l.isOk_fill hv hsub hmeans start
  have heq : d' = d := by
    refine l.ext d' d fun p hp => ?_
    obtain ⟨f, -, hreads⟩ := l.exists_field hp
    exact Part.Holds.get_eq hreads (hv p.key) (hholds hfill p hp) (h p hp)
  rw [hfill, heq]

theorem fill_eq_of_alike (l : Layout s parts start) (hsub : fs ⊆ s.fields)
    (h : ∀ p ∈ parts, Option.Rel p.language.alike (v? p.key) (v?' p.key)) :
    fill v? fs start = fill v?' fs start := by
  refine fill_congr fun f hf => ?_
  obtain ⟨p, hp, hreads⟩ := l.exists_part (hsub hf)
  have hrel := h p hp
  rw [← hreads.key] at hrel
  generalize v? f.key = a at hrel ⊢
  generalize v?' f.key = b at hrel ⊢
  cases hrel with
  | none => exact .none
  | some halike => exact .some (hreads.sameFor halike)

/-! ### Reading -/

theorem read_eq_of_alike (l : Layout s parts start) (h : Alike parts j j') :
    s.read start j = s.read start j' := by
  cases h with
  | refl => rfl
  | @object fields fields' hn hn' h =>
    have hsub : s.inKeyOrder ⊆ s.fields := (sortBy_perm _ s.fields).subset
    rw [read_object l.nodup hn, read_object l.nodup hn', l.keys_eq]
    exact l.fill_eq_of_alike hsub h
  | @list items items' hlength h =>
    have hfill : fill (valueFor (parts.map Part.key) · (.list items)) s.fields start =
        fill (valueFor (parts.map Part.key) · (.list items')) s.fields start :=
      l.fill_eq_of_alike (List.Subset.refl _) h
    rw [read_list l.nodup, read_list l.nodup, l.keys_eq, hlength, hfill]

/-- What has all its parts leaves out no required field. -/
theorem not_lacksRequired (l : Layout s parts start) {items : List Json} (hd : Full parts d)
    (h : Written parts (.list items) d) : s.lacksRequired items.length = false := by
  by_contra hlacks
  obtain ⟨f, hf, hrequired⟩ := List.any_eq_true.mp (Bool.of_not_eq_false hlacks)
  obtain ⟨p, hp, hreads⟩ := l.exists_part (List.mem_of_mem_drop hf)
  have hdisjoint := l.nodup
  rw [← List.take_append_drop items.length s.keys] at hdisjoint
  have hdrop : p.key ∈ s.keys.drop items.length := by
    rw [Schema.keys, ← List.map_drop, ← hreads.key]
    exact List.mem_map_of_mem hf
  have hadmits := (h.2 p hp).admits (hd p hp)
  cases hgiven : given parts (.list items) p with
  | none =>
    rw [hgiven, Part.admits_none, hreads.required hrequired] at hadmits
    cases hadmits
  | some v =>
    have hmem := mem_of_lookup hgiven
    rw [← l.keys_eq] at hmem
    exact (List.nodup_append.mp hdisjoint).2.2 _ (mem_take_of_mem_zip hmem) _ hdrop rfl

/-- Reading takes exactly what is written of a record that has all its parts. -/
theorem read_eq_ok_iff (l : Layout s parts start) (hj : j.KeysOnce) (hd : Full parts d) :
    s.read start j = .ok d ↔ Written parts j d := by
  have hv (key : String) (v : Json) (h : valueFor (parts.map Part.key) key j = some v) :
      v.KeysOnce := hj.of_valueFor h
  cases j with
  | object fields =>
    have hperm : s.inKeyOrder.Perm s.fields := sortBy_perm _ s.fields
    rw [read_object l.nodup hj.nodup, l.keys_eq, l.fill_eq_ok_iff hv hperm]
    exact (and_iff_right trivial).symm
  | list items =>
    rw [read_list_eq_ok_iff l.nodup, l.keys_eq, l.fill_eq_ok_iff hv (List.Perm.refl _),
      l.fields.length_eq]
    constructor
    · rintro ⟨h, hlength, -⟩
      exact ⟨hlength, h⟩
    · rintro ⟨hlength, h⟩
      exact ⟨h, hlength, l.not_lacksRequired hd ⟨hlength, h⟩⟩
  | _ => exact ⟨nofun, fun h => h.1.elim⟩

/-- A record with all its parts is read from exactly the acceptable values. -/
theorem isOk_read_iff (l : Layout s parts start) (hj : j.KeysOnce) :
    (∃ d, Full parts d ∧ s.read start j = .ok d) ↔ Acceptable parts j := by
  constructor
  · rintro ⟨d, hd, hread⟩
    obtain ⟨hrecord, hholds⟩ := (l.read_eq_ok_iff hj hd).mp hread
    exact ⟨hrecord, fun p hp => (hholds p hp).admits (hd p hp)⟩
  · rintro ⟨hrecord, hadmits⟩
    have hv (key : String) (v : Json) (h : valueFor (parts.map Part.key) key j = some v) :
        v.KeysOnce := hj.of_valueFor h
    have hmeans : ∀ p ∈ parts, ∀ v, given parts j p = some v →
        ∃ a, p.language.means v a := by
      intro p hp v hgiven
      exact Part.admits_some.mp (hgiven ▸ hadmits p hp)
    obtain ⟨d, hfill⟩ := l.isOk_fill hv (List.Subset.refl _) hmeans start
    have hholds := (l.fill_eq_ok_iff hv (List.Perm.refl _)).mp hfill
    have hd : Full parts d := fun p hp => (hholds p hp).isSome (hadmits p hp)
    exact ⟨d, hd, (l.read_eq_ok_iff hj hd).mpr ⟨hrecord, hholds⟩⟩

end Layout

/-! ## Grammars -/

/-- The values mean the same. -/
def Language.Same {α : Type} (l : Language α) (v v' : Json) : Prop :=
  ∀ a, l.means v a ↔ l.means v' a

section Grammars

variable {γ δ : Type} {parts : List (Part δ)} {view : γ → δ} {read : Reader γ} {j j' : Json}

theorem written_iff_of_same {d : δ} (hj : IsRecord parts.length j) (hj' : IsRecord parts.length j')
    (h : ∀ p ∈ parts, Option.Rel p.language.Same (given parts j p) (given parts j' p)) :
    Written parts j d ↔ Written parts j' d := by
  have hholds : ∀ p ∈ parts, p.Holds d (given parts j p) ↔ p.Holds d (given parts j' p) := by
    intro p hp
    have hsame := h p hp
    generalize given parts j p = v? at hsame
    generalize given parts j' p = v?' at hsame
    cases hsame with
    | none => exact Iff.rfl
    | some hsame => exact exists_congr fun a => and_congr_left fun _ => hsame a
  unfold Written
  rw [iff_true_intro hj, iff_true_intro hj', forall₂_congr hholds]

/-- The reader takes the records with these parts, and of these parts null may be given for those
with a key in `optionals`. -/
structure Grammar (read : Reader γ) (parts : List (Part δ)) (view : γ → δ)
    (optionals : List String) : Prop where
  /-- A value is taken if and only if what it gives for a part means something, and what has no
  default is given. -/
  accepts : ∀ {j : Json}, j.KeysOnce → ((∃ c, read j = .ok c) ↔ Acceptable parts j)
  /-- Every part of the record is what is given for it, or else its default. -/
  reads : ∀ {j : Json}, j.KeysOnce → ∀ c, read j = .ok c ↔ Written parts j (view c)
  /-- Other keys and the order of all keys do not count, neither here nor in the parts. -/
  alike : ∀ {j j' : Json}, Alike parts j j' → read j = read j'
  /-- A list that gives the same values in the order of the parts is read as the object is. -/
  positional : ∀ {fields : List (String × Json)} {items : List Json},
    (Json.object fields).KeysOnce → (Json.list items).KeysOnce → items.length ≤ parts.length →
    (∀ p ∈ parts, Option.Rel p.language.Same (given parts (.object fields) p)
      (given parts (.list items) p)) →
    ∀ c, read (.object fields) = .ok c ↔ read (.list items) = .ok c
  /-- Null is taken for nothing but the optional parts. -/
  nulls : ∀ p ∈ parts, (∃ a, p.language.means .null a) ↔ p.key ∈ optionals

/-- A reader that makes a record of what a schema reads, once no part is missing, has the grammar of
the parts. -/
theorem Layout.grammar {s : Schema δ} {start : δ} (l : Layout s parts start)
    {optionals : List String} (hread : ∀ j c, read j = .ok c ↔ s.read start j = .ok (view c))
    (hfull : ∀ d, Full parts d ↔ ∃ c, view c = d)
    (halike : ∀ j j', s.read start j = s.read start j' → read j = read j')
    (hnulls : ∀ p ∈ parts, (∃ a, p.language.means .null a) ↔ p.key ∈ optionals) :
    Grammar read parts view optionals := by
  have hreads {j : Json} (hj : j.KeysOnce) (c : γ) : read j = .ok c ↔ Written parts j (view c) := by
    rw [hread, l.read_eq_ok_iff hj ((hfull _).mpr ⟨c, rfl⟩)]
  constructor
  case accepts =>
    intro j hj
    rw [← l.isOk_read_iff hj]
    constructor
    · rintro ⟨c, hc⟩
      exact ⟨view c, (hfull _).mpr ⟨c, rfl⟩, (hread j c).mp hc⟩
    · rintro ⟨d, hd, h⟩
      obtain ⟨c, rfl⟩ := (hfull d).mp hd
      exact ⟨c, (hread j c).mpr h⟩
  case reads => exact hreads
  case alike => exact fun h => halike _ _ (l.read_eq_of_alike h)
  case positional =>
    intro fields items hfields hitems hlength hsame c
    rw [hreads hfields, hreads hitems]
    exact written_iff_of_same trivial hlength hsame
  case nulls => exact hnulls

/-- A section whose parts all have a default has the grammar of its parts. -/
theorem Layout.grammar_id {s : Schema δ} {start : δ} (l : Layout s parts start)
    {optionals : List String} (hfull : ∀ d, Full parts d)
    (hnulls : ∀ p ∈ parts, (∃ a, p.language.means .null a) ↔ p.key ∈ optionals) :
    Grammar (s.read start) parts id optionals :=
  l.grammar (fun _ _ => Iff.rfl) (fun d => iff_of_true (hfull d) ⟨d, rfl⟩) (fun _ _ h => h) hnulls

theorem Grammar.toReads {optionals : List String} (h : Grammar read parts view optionals) :
    Reads read (.record parts view) where
  ok_iff := h.reads
  alike := h.alike

end Grammars

end Json

end Launchpad
