import Launchpad.Text.Blank
import Mathlib.Data.List.DropRight
import Mathlib.Data.List.Induction

/-!
# The pieces of a text

What `splitOn`, `words` and `strip` give, said of the text itself:

* `IsPiece` : a part without separators, with a separator or an end of the text on either side;
* `FirstPiece` : the first piece with a property, which is what a search in the pieces finds
  (`find?_splitOn_eq_some_iff`);
* `Stripped` : what is left of a text without the characters of a class around it
  (`strip_eq_iff`);
* `splitOn_intercalate_eq_iff` : texts joined by a character are read back if and only if none of
  them has it.
-/

namespace Launchpad.Text

variable {p : Char → Bool} {sep : Char} {w t text before piece after b q a : List Char}

theorem splitOn_eq_splitOnP (p : Char → Bool) (cs : List Char) : splitOn p cs = cs.splitOnP p := by
  induction cs with
  | nil => rfl
  | cons c cs ih =>
    rw [splitOn, List.splitOnP_cons_eq_if_modifyHead, ih]
    cases h : cs.splitOnP p with
    | nil => exact absurd h (List.splitOnP_ne_nil p cs)
    | cons w ws => rfl

theorem splitOn_of_solid (hw : ∀ c ∈ w, p c = false) : splitOn p w = [w] := by
  rw [splitOn_eq_splitOnP, List.splitOnP_eq_singleton hw]

theorem splitOn_append_cons (hw : ∀ c ∈ w, p c = false) (hsep : p sep = true) (t : List Char) :
    splitOn p (w ++ sep :: t) = w :: splitOn p t := by
  rw [splitOn_eq_splitOnP, splitOn_eq_splitOnP,
    List.splitOnP_append_cons_of_forall_mem hw sep hsep t]

theorem splitOn_concat (hsep : p sep = true) (cs : List Char) :
    splitOn p (cs ++ [sep]) = splitOn p cs ++ [[]] := by
  rw [splitOn_eq_splitOnP, splitOn_eq_splitOnP, List.splitOnP_append_cons cs [] hsep,
    List.splitOnP_nil]

/-- A text goes on without separators up to its end or to the first of them. -/
theorem exists_cut (p : Char → Bool) (text : List Char) :
    ∃ w rest, text = w ++ rest ∧ (∀ c ∈ w, p c = false) ∧ ∀ c ∈ rest.head?, p c = true := by
  refine ⟨text.takeWhile fun c => !p c, text.dropWhile fun c => !p c, ?_, ?_, ?_⟩
  · rw [List.takeWhile_append_dropWhile]
  · intro c hc
    simpa using List.mem_takeWhile_imp hc
  · intro c hc
    have hhead := List.head?_dropWhile_not (fun c => !p c) text
    rw [Option.mem_def.mp hc] at hhead
    simpa using hhead

/-- Induction along the pieces: a text has no separator, or one behind its first piece. -/
theorem pieces_induction {motive : List Char → Prop} (p : Char → Bool)
    (solid : ∀ w, (∀ c ∈ w, p c = false) → motive w)
    (cons : ∀ w sep t, (∀ c ∈ w, p c = false) → p sep = true → motive t →
      motive (w ++ sep :: t)) (text : List Char) : motive text := by
  have hlen : ∀ n (text : List Char), text.length = n → motive text := by
    intro n
    induction n using Nat.strong_induction_on with
    | _ n ih =>
      intro text hn
      obtain ⟨w, rest, rfl, hw, hrest⟩ := exists_cut p text
      cases rest with
      | nil =>
        rw [List.append_nil]
        exact solid w hw
      | cons sep t =>
        rw [List.length_append, List.length_cons] at hn
        exact cons w sep t hw (hrest sep rfl) (ih t.length (by omega) t rfl)
  exact hlen text.length text rfl

/-! ## Pieces -/

/-- A part of a text without separators, with a separator or an end on either side. -/
structure IsPiece (p : Char → Bool) (text before piece after : List Char) : Prop where
  eq : text = before ++ piece ++ after
  solid : ∀ c ∈ piece, p c = false
  opens : ∀ c ∈ before.getLast?, p c = true
  closes : ∀ c ∈ after.head?, p c = true

theorem eq_nil_of_head? (hhead : ∀ c ∈ a.head?, p c = true) (ha : ∀ c ∈ a, p c = false) :
    a = [] := by
  cases a with
  | nil => rfl
  | cons c a =>
    have hc := hhead c rfl
    simp [ha c (by simp)] at hc

theorem eq_nil_of_getLast? (hlast : ∀ c ∈ b.getLast?, p c = true) (hb : ∀ c ∈ b, p c = false) :
    b = [] := by
  rw [← List.reverse_eq_nil_iff]
  apply eq_nil_of_head? (p := p)
  · rwa [List.head?_reverse]
  · simpa using hb

theorem takeWhile_solid_append (hw : ∀ c ∈ w, p c = false) (ha : ∀ c ∈ a.head?, p c = true) :
    (w ++ a).takeWhile (fun c => !p c) = w := by
  rw [List.takeWhile_append_of_pos (by simpa using hw)]
  cases a with
  | nil => simp
  | cons c a => simp [ha c rfl]

theorem isPiece_of_solid (hw : ∀ c ∈ w, p c = false) :
    IsPiece p w b q a ↔ b = [] ∧ q = w ∧ a = [] := by
  constructor
  · rintro ⟨rfl, -, hopens, hcloses⟩
    obtain rfl := eq_nil_of_getLast? hopens (fun c hc => hw c (by simp [hc]))
    obtain rfl := eq_nil_of_head? hcloses (fun c hc => hw c (by simp [hc]))
    simp
  · rintro ⟨rfl, rfl, rfl⟩
    exact ⟨by simp, hw, by simp, by simp⟩

/-- The piece at the beginning of a text ends with its first separator. -/
theorem isPiece_nil_iff (hw : ∀ c ∈ w, p c = false) (hsep : p sep = true) :
    IsPiece p (w ++ sep :: t) [] q a ↔ q = w ∧ a = sep :: t := by
  constructor
  · rintro ⟨heq, hsolid, -, hcloses⟩
    rw [List.nil_append] at heq
    have hq : q = w := by
      rw [← takeWhile_solid_append hsolid hcloses, ← heq,
        takeWhile_solid_append hw (by simpa using hsep)]
    subst hq
    exact ⟨rfl, (List.append_cancel_left heq).symm⟩
  · rintro ⟨rfl, rfl⟩
    exact ⟨by simp, hw, by simp, by simpa using hsep⟩

/-- The others are the pieces behind that separator. -/
theorem isPiece_append_cons_iff (hw : ∀ c ∈ w, p c = false) (hsep : p sep = true) (hb : b ≠ []) :
    IsPiece p (w ++ sep :: t) b q a ↔ ∃ b', b = w ++ sep :: b' ∧ IsPiece p t b' q a := by
  constructor
  · rintro ⟨heq, hsolid, hopens, hcloses⟩
    rw [List.append_assoc, List.append_eq_append_iff] at heq
    rcases heq with ⟨as, rfl, hrest⟩ | ⟨bs, rfl, -⟩
    · cases as with
      | nil =>
        rw [List.append_nil] at hopens hb
        exact absurd (eq_nil_of_getLast? hopens hw) hb
      | cons s b' =>
        obtain ⟨rfl, rfl⟩ := List.cons.inj hrest
        refine ⟨b', rfl, by simp, hsolid, ?_, hcloses⟩
        intro c hc
        apply hopens c
        simp [List.getLast?_append, List.getLast?_cons, Option.mem_def.mp hc]
    · exact absurd (eq_nil_of_getLast? hopens fun c hc => hw c (by simp [hc])) hb
  · rintro ⟨b', rfl, hpiece⟩
    refine ⟨by rw [hpiece.eq]; simp, hpiece.solid, ?_, hpiece.closes⟩
    intro c hc
    rw [List.getLast?_append, List.getLast?_cons] at hc
    cases hlast : b'.getLast? with
    | none =>
      obtain rfl : sep = c := by simpa [hlast] using hc
      exact hsep
    | some d =>
      obtain rfl : d = c := by simpa [hlast] using hc
      exact hpiece.opens d hlast

/-- The pieces of a text are the first one and those of the rest. -/
theorem isPiece_append_cons (hw : ∀ c ∈ w, p c = false) (hsep : p sep = true) :
    IsPiece p (w ++ sep :: t) b q a ↔
      (b = [] ∧ q = w ∧ a = sep :: t) ∨ ∃ b', b = w ++ sep :: b' ∧ IsPiece p t b' q a := by
  by_cases hb : b = []
  · subst hb
    rw [isPiece_nil_iff hw hsep]
    simp
  · rw [isPiece_append_cons_iff hw hsep hb]
    simp [hb]

theorem mem_splitOn_iff : q ∈ splitOn p text ↔ ∃ b a, IsPiece p text b q a := by
  induction text using pieces_induction p with
  | solid w hw =>
    rw [splitOn_of_solid hw, List.mem_singleton]
    simp [isPiece_of_solid hw]
  | cons w sep t hw hsep ih =>
    rw [splitOn_append_cons hw hsep, List.mem_cons, ih]
    constructor
    · rintro (rfl | ⟨b, a, h⟩)
      · exact ⟨[], sep :: t, (isPiece_append_cons hw hsep).mpr (.inl ⟨rfl, rfl, rfl⟩)⟩
      · exact ⟨w ++ sep :: b, a, (isPiece_append_cons hw hsep).mpr (.inr ⟨b, rfl, h⟩)⟩
    · rintro ⟨b, a, h⟩
      rcases (isPiece_append_cons hw hsep).mp h with ⟨-, rfl, -⟩ | ⟨b', -, h'⟩
      · exact .inl rfl
      · exact .inr ⟨b', a, h'⟩

/-- A piece that begins within a part with a separator at its end lies in this part. -/
theorem IsPiece.of_append (h : IsPiece p (t ++ text) b q a) (ht : ∀ c ∈ t.getLast?, p c = true)
    (hlt : b.length < t.length) : ∃ a', IsPiece p t b q a' := by
  obtain ⟨heq, hsolid, hopens, hcloses⟩ := h
  rw [List.append_assoc, List.append_eq_append_iff] at heq
  rcases heq with ⟨as, rfl, -⟩ | ⟨bs, rfl, hrest⟩
  · rw [List.length_append] at hlt
    omega
  · rw [List.append_eq_append_iff] at hrest
    have hbs : bs ≠ [] := by
      rintro rfl
      rw [List.append_nil] at hlt
      omega
    rcases hrest with ⟨as, rfl, hafter⟩ | ⟨qs, rfl, -⟩
    · refine ⟨as, by simp, hsolid, hopens, ?_⟩
      intro c hc
      apply hcloses c
      rw [hafter, List.head?_append, Option.mem_def.mp hc]
      rfl
    · refine absurd (eq_nil_of_getLast? (p := p) ?_ fun c hc => hsolid c (by simp [hc])) hbs
      intro c hc
      apply ht c
      simp [List.getLast?_append, Option.mem_def.mp hc]

/-! ## The first piece with a property -/

section First

variable {Q : List Char → Prop} {f : List Char → Bool}

/-- The first of the pieces of a text that have a property. -/
def FirstPiece (p : Char → Bool) (Q : List Char → Prop) (text piece : List Char) : Prop :=
  ∃ before after, IsPiece p text before piece after ∧ Q piece ∧
    ∀ b q a, IsPiece p text b q a → Q q → before.length ≤ b.length

theorem firstPiece_of_solid (hw : ∀ c ∈ w, p c = false) :
    FirstPiece p Q w piece ↔ piece = w ∧ Q w := by
  constructor
  · rintro ⟨before, after, hpiece, hQ, -⟩
    obtain ⟨-, rfl, -⟩ := (isPiece_of_solid hw).mp hpiece
    exact ⟨rfl, hQ⟩
  · rintro ⟨rfl, hQ⟩
    exact ⟨[], [], (isPiece_of_solid hw).mpr ⟨rfl, rfl, rfl⟩, hQ, by simp⟩

theorem firstPiece_append_cons_of_pos (hw : ∀ c ∈ w, p c = false) (hsep : p sep = true)
    (hQ : Q w) : FirstPiece p Q (w ++ sep :: t) piece ↔ piece = w := by
  have hfirst : IsPiece p (w ++ sep :: t) [] w (sep :: t) :=
    (isPiece_append_cons hw hsep).mpr (.inl ⟨rfl, rfl, rfl⟩)
  constructor
  · rintro ⟨before, after, hpiece, -, hleast⟩
    have hlen := hleast [] w (sep :: t) hfirst hQ
    rcases (isPiece_append_cons hw hsep).mp hpiece with ⟨-, rfl, -⟩ | ⟨b', rfl, -⟩
    · rfl
    · simp at hlen
  · rintro rfl
    exact ⟨[], sep :: t, hfirst, hQ, by simp⟩

theorem firstPiece_append_cons_of_neg (hw : ∀ c ∈ w, p c = false) (hsep : p sep = true)
    (hQ : ¬ Q w) : FirstPiece p Q (w ++ sep :: t) piece ↔ FirstPiece p Q t piece := by
  constructor
  · rintro ⟨before, after, hpiece, hq, hleast⟩
    rcases (isPiece_append_cons hw hsep).mp hpiece with ⟨-, rfl, -⟩ | ⟨b', rfl, hpiece'⟩
    · exact absurd hq hQ
    · refine ⟨b', after, hpiece', hq, ?_⟩
      intro b q a hother hq'
      have hlen := hleast _ q a ((isPiece_append_cons hw hsep).mpr (.inr ⟨b, rfl, hother⟩)) hq'
      simpa using hlen
  · rintro ⟨before, after, hpiece, hq, hleast⟩
    refine ⟨w ++ sep :: before, after,
      (isPiece_append_cons hw hsep).mpr (.inr ⟨before, rfl, hpiece⟩), hq, ?_⟩
    intro b q a hother hq'
    rcases (isPiece_append_cons hw hsep).mp hother with ⟨-, rfl, -⟩ | ⟨b', rfl, hother'⟩
    · exact absurd hq' hQ
    · simpa using hleast b' q a hother' hq'

/-- A search in the pieces finds the first one. -/
theorem find?_splitOn_eq_some_iff (hf : ∀ w, f w = true ↔ Q w) :
    (splitOn p text).find? f = some piece ↔ FirstPiece p Q text piece := by
  induction text using pieces_induction p with
  | solid w hw =>
    rw [splitOn_of_solid hw, firstPiece_of_solid hw, ← hf w, List.find?_singleton]
    by_cases h : f w = true
    · simp [h, eq_comm]
    · simp [h]
  | cons w sep t hw hsep ih =>
    rw [splitOn_append_cons hw hsep]
    by_cases h : f w = true
    · rw [List.find?_cons_of_pos h, firstPiece_append_cons_of_pos hw hsep ((hf w).mp h),
        Option.some.injEq, eq_comm]
    · rw [List.find?_cons_of_neg h, ih,
        firstPiece_append_cons_of_neg hw hsep (fun hQ => h ((hf w).mpr hQ))]

/-- A piece is the first one if those in front of it do not have the property. -/
theorem firstPiece_append (ht : ∀ c ∈ t.getLast?, p c = true)
    (hnone : ∀ b q a, IsPiece p t b q a → ¬ Q q) (hw : ∀ c ∈ w, p c = false) (hQ : Q w)
    (ha : ∀ c ∈ a.head?, p c = true) : FirstPiece p Q (t ++ (w ++ a)) w := by
  refine ⟨t, a, ⟨(List.append_assoc ..).symm, hw, ht, ha⟩, hQ, ?_⟩
  intro b q a' hpiece hq
  by_contra hlt
  obtain ⟨a'', hin⟩ := hpiece.of_append ht (by omega)
  exact hnone b q a'' hin hq

end First

/-! ## Stripping -/

/-- What is left of a text when the characters of a class around it are taken off. -/
structure Stripped (p : Char → Bool) (text core : List Char) : Prop where
  around : ∃ before after, text = before ++ core ++ after ∧ (∀ c ∈ before, p c = true) ∧
    ∀ c ∈ after, p c = true
  head : ∀ c ∈ core.head?, p c = false
  last : ∀ c ∈ core.getLast?, p c = false

theorem strip_eq_rdropWhile (p : Char → Bool) (cs : List Char) :
    strip p cs = (cs.dropWhile p).rdropWhile p := rfl

theorem last_rdropWhile (p : Char → Bool) (cs : List Char) :
    ∀ c ∈ (cs.rdropWhile p).getLast?, p c = false := by
  intro c hc
  have hne : cs.rdropWhile p ≠ [] := by
    intro hnil
    rw [hnil] at hc
    cases hc
  have hlast := List.rdropWhile_last_not p cs hne
  rw [List.getLast?_eq_some_getLast hne] at hc
  obtain rfl := Option.some.inj hc
  simpa using hlast

theorem stripped_strip (p : Char → Bool) (cs : List Char) : Stripped p cs (strip p cs) := by
  have hfront := List.takeWhile_append_dropWhile (p := p) (l := cs)
  have hhead := List.head?_dropWhile_not p cs
  rw [strip_eq_rdropWhile]
  generalize cs.dropWhile p = rest at hfront hhead
  refine ⟨⟨cs.takeWhile p, rest.rtakeWhile p, ?_, ?_, ?_⟩, ?_, last_rdropWhile p rest⟩
  · rw [List.append_assoc, List.rdropWhile_append_rtakeWhile, hfront]
  · intro c hc
    exact List.mem_takeWhile_imp hc
  · intro c hc
    exact List.mem_rtakeWhile_imp hc
  · intro c hc
    obtain ⟨tail, htail⟩ := List.rdropWhile_prefix p (l := rest)
    rw [← htail, List.head?_append, Option.mem_def.mp hc] at hhead
    exact hhead

theorem Stripped.eq_strip {core : List Char} (h : Stripped p text core) : strip p text = core := by
  obtain ⟨⟨before, after, rfl, hbefore, hafter⟩, hhead, hlast⟩ := h
  rw [strip_eq_rdropWhile, List.append_assoc, List.dropWhile_append_of_pos hbefore]
  cases core with
  | nil =>
    rw [List.nil_append, List.dropWhile_eq_nil_iff.mpr hafter]
    rfl
  | cons c core =>
    have hc : p c = false := hhead c rfl
    rw [List.cons_append, List.dropWhile_cons_of_neg (by simp [hc]), ← List.cons_append]
    have hne : c :: core ≠ [] := by simp
    have hdrop : (c :: core).rdropWhile p = c :: core := by
      rw [List.rdropWhile_eq_self_iff]
      intro hne
      simpa using hlast _ (List.getLast?_eq_some_getLast hne)
    unfold List.rdropWhile at hdrop ⊢
    rw [List.reverse_append, List.dropWhile_append_of_pos, hdrop]
    simpa using hafter

theorem strip_eq_iff {core : List Char} : strip p text = core ↔ Stripped p text core :=
  ⟨fun h => h ▸ stripped_strip p text, Stripped.eq_strip⟩

/-- Of what follows a core that ends otherwise, stripping leaves a beginning. -/
theorem exists_stripped_append {core : List Char} (hb : ∀ c ∈ b, p c = true)
    (hne : core ≠ []) (hcore : ∀ c ∈ core.head?, p c = false)
    (hlast : ∀ c ∈ core.getLast?, p c = false) (t : List Char) :
    ∃ t', t' <+: t ∧ Stripped p (b ++ (core ++ t)) (core ++ t') := by
  refine ⟨t.rdropWhile p, List.rdropWhile_prefix p t, ⟨b, t.rtakeWhile p, ?_, hb, ?_⟩, ?_, ?_⟩
  · rw [List.append_assoc, List.append_assoc, List.rdropWhile_append_rtakeWhile]
  · intro c hc
    exact List.mem_rtakeWhile_imp hc
  · rw [List.head?_append_of_ne_nil _ hne]
    exact hcore
  · intro c hc
    rw [List.getLast?_append] at hc
    cases h : (t.rdropWhile p).getLast? with
    | none =>
      rw [h] at hc
      exact hlast c hc
    | some d =>
      rw [h] at hc
      obtain rfl : d = c := by simpa using hc
      exact last_rdropWhile p t d h

/-! ## Joining -/

/-- Texts that are joined by a character are read back if and only if none of them has it. -/
theorem splitOn_intercalate_eq_iff {ws : List (List Char)} (hne : ws ≠ []) (sep : Char) :
    splitOn (· == sep) ([sep].intercalate ws) = ws ↔ ∀ w ∈ ws, sep ∉ w := by
  constructor
  · intro h w hw hsep
    rw [← h, mem_splitOn_iff] at hw
    obtain ⟨b, a, hpiece⟩ := hw
    simpa using hpiece.solid sep hsep
  · intro h
    rw [splitOn_eq_splitOnP, ← List.splitOn_eq_splitOnP]
    exact List.splitOn_intercalate sep h hne

end Launchpad.Text
