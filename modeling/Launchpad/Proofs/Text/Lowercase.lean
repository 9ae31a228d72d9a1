import Mathlib
import Launchpad.Text.Lowercase
import Launchpad.Text.Search

/-!
# What can be found in a lowercase text

The lowercase form of a text is made of the images of its characters. A character of ASCII has its
small letter as image, as `Char.toLower` has it; an image of any other one is not of ASCII, but for
two: that of the Kelvin sign is `k`, and that of the dotted capital I begins with `i`
(`foreign_image`). So two questions have the same answer for the lowercase form as for the text in
which only the letters from A to Z are small:

* `lower_eq_of_sameButCase` : the case of these letters does not count for the lowercase form, nor
  does it decide how a sigma is written;
* `occursIn_lower_iff` : a phrase occurs if and only if the text has it in some case of its letters,
  unless it has a `k` or ends with an `i`.
-/

namespace Launchpad.Text

variable {c : Char} {cs before text phrase : List Char}

/-! ## The letters from A to Z -/

theorem isUpper_iff : c.isUpper = true ↔ 65 ≤ c.toNat ∧ c.toNat ≤ 90 := by
  simp [Char.isUpper, UInt32.le_iff_toNat_le]

theorem toNat_toLower (hc : c.isUpper = true) : c.toLower.toNat = c.toNat + 32 := by
  obtain ⟨-, hle⟩ := isUpper_iff.mp hc
  have hvalid : (c.toNat + 32).isValidChar := .inl (by omega)
  rw [Char.toLower_eq_of_isUpper hc, Char.toNat_ofNat, if_pos hvalid]

theorem toLower_of_not_ascii (hc : 128 ≤ c.toNat) : c.toLower = c := by
  refine Char.toLower_eq_of_not_isUpper fun hupper => ?_
  have := isUpper_iff.mp hupper
  omega

theorem toLower_ascii (hc : c.toNat < 128) : c.toLower.toNat < 128 := by
  by_cases hupper : c.isUpper = true
  · have := isUpper_iff.mp hupper
    have hsmall := toNat_toLower hupper
    omega
  · rwa [Char.toLower_eq_of_not_isUpper hupper]

/-- It is enough to compare the letters from A to Z with their small ones. -/
theorem apply_toLower {α : Type} {f : Char → α} (hf : ∀ c, c.isUpper = true → f c.toLower = f c)
    (c : Char) : f c.toLower = f c := by
  by_cases hc : c.isUpper = true
  · exact hf c hc
  · rw [Char.toLower_eq_of_not_isUpper hc]

theorem cased_toLower (c : Char) : inRanges casedRanges c.toLower = inRanges casedRanges c := by
  refine apply_toLower (f := inRanges casedRanges) (fun c hc => ?_) c
  have hsmall := toNat_toLower hc
  have hbounds := isUpper_iff.mp hc
  have hcapitals : (65, 90) ∈ casedRanges := by decide +kernel
  have hsmalls : (97, 122) ∈ casedRanges := by decide +kernel
  rw [inRanges_eq_true_iff.mpr ⟨_, hcapitals, hbounds⟩,
    inRanges_eq_true_iff.mpr ⟨_, hsmalls, by omega, by omega⟩]

theorem caseIgnorable_toLower (c : Char) :
    inRanges caseIgnorableRanges c.toLower = inRanges caseIgnorableRanges c := by
  refine apply_toLower (f := inRanges caseIgnorableRanges) (fun c hc => ?_) c
  have hsmall := toNat_toLower hc
  have hbounds := isUpper_iff.mp hc
  have hnone : ∀ r ∈ caseIgnorableRanges, r.2 < 65 ∨ 90 < r.1 ∧ r.2 < 97 ∨ 122 < r.1 := by
    decide +kernel
  have hnot (d : Char) (hd : 65 ≤ d.toNat ∧ d.toNat ≤ 90 ∨ 97 ≤ d.toNat ∧ d.toNat ≤ 122) :
      inRanges caseIgnorableRanges d = false := by
    refine Bool.eq_false_iff.mpr fun hin => ?_
    obtain ⟨r, hr, hlow, hhigh⟩ := inRanges_eq_true_iff.mp hin
    have := hnone r hr
    omega
  rw [hnot c (.inl hbounds), hnot c.toLower (.inr (by omega))]

theorem meetsCased_map_toLower (cs : List Char) :
    meetsCased (cs.map Char.toLower) = meetsCased cs := by
  have hignorable : inRanges caseIgnorableRanges ∘ Char.toLower = inRanges caseIgnorableRanges :=
    funext caseIgnorable_toLower
  unfold meetsCased
  rw [List.dropWhile_map, hignorable, List.head?_map, Option.any_map]
  simp only [cased_toLower]

/-! ## The images of the characters -/

/-- What a character becomes between those before it, nearest first, and those behind it. -/
def image (before : List Char) (c : Char) (cs : List Char) : List Char :=
  if c = 'Σ' then if meetsCased before && !meetsCased cs then ['ς'] else ['σ'] else lowerChar c

theorem lowerAfter_cons (before : List Char) (c : Char) (cs : List Char) :
    lowerAfter before (c :: cs) = image before c cs ++ lowerAfter (c :: before) cs := rfl

/-- The letters from A to Z and the Kelvin sign are the only characters with a letter of ASCII as
their image, among those that are mapped to one character. -/
theorem lowerRuns_cases : ∀ r ∈ lowerRuns,
    (r.first = 65 ∧ r.last = 90 ∧ r.image = 97) ∨
    (128 ≤ r.first ∧ r.first = r.last ∧ r.image = 'k'.toNat) ∨
    (128 ≤ r.first ∧ 128 ≤ r.image ∧ (r.image + (r.last - r.first) < 0xd800 ∨
      0xdfff < r.image ∧ r.image + (r.last - r.first) < 0x110000)) := by
  decide +kernel

theorem CaseRun.has_iff {r : CaseRun} {n : Nat} :
    r.has n = true ↔ r.first ≤ n ∧ n ≤ r.last ∧ (n - r.first) % r.step = 0 := by
  simp [has, and_assoc]

/-- What a character that is not of ASCII can become. -/
def Foreign (image : List Char) : Prop :=
  image = ['k'] ∨ image = ['i', '\u0307'] ∨ ∃ d, 128 ≤ d.toNat ∧ image = [d]

theorem lowerChar_eq (hc : c.toNat ≠ 0x130) :
    (∃ r ∈ lowerRuns, r.has c.toNat = true ∧
      lowerChar c = [Char.ofNat (r.image + (c.toNat - r.first))]) ∨
    (∀ r ∈ lowerRuns, ¬ r.has c.toNat = true) ∧ lowerChar c = [c] := by
  unfold lowerChar
  rw [if_neg hc]
  split
  · next r hr =>
    have hhas := List.find?_some (p := fun r : CaseRun => r.has c.toNat) hr
    exact .inl ⟨r, List.mem_of_find?_eq_some hr, hhas, rfl⟩
  · next hnone => exact .inr ⟨List.find?_eq_none.mp hnone, rfl⟩

theorem lowerChar_of_ascii (hc : c.toNat < 128) : lowerChar c = [c.toLower] := by
  rcases lowerChar_eq (c := c) (by omega) with ⟨r, hr, hhas, heq⟩ | ⟨hnone, heq⟩
  · obtain ⟨hfirst, hlast, -⟩ := CaseRun.has_iff.mp hhas
    obtain ⟨h65, h90, h97⟩ := (lowerRuns_cases r hr).resolve_right (by omega)
    have hupper : c.isUpper = true := isUpper_iff.mpr (by omega)
    rw [heq, Char.toLower_eq_of_isUpper hupper]
    congr 2
    omega
  · have hcapitals : (⟨65, 90, 1, 97⟩ : CaseRun) ∈ lowerRuns := .head _
    have hnot := mt CaseRun.has_iff.mpr (hnone _ hcapitals)
    have hupper : ¬ c.isUpper = true := fun hupper =>
      hnot ⟨(isUpper_iff.mp hupper).1, (isUpper_iff.mp hupper).2, Nat.mod_one _⟩
    rw [heq, Char.toLower_eq_of_not_isUpper hupper]

theorem foreign_lowerChar (hc : 128 ≤ c.toNat) : Foreign (lowerChar c) := by
  by_cases hdotted : c.toNat = 0x130
  · exact .inr (.inl (if_pos hdotted))
  rcases lowerChar_eq hdotted with ⟨r, hr, hhas, heq⟩ | ⟨-, heq⟩
  · obtain ⟨hfirst, hlast, -⟩ := CaseRun.has_iff.mp hhas
    rcases (lowerRuns_cases r hr).resolve_left (by omega) with ⟨-, hone, hk⟩ | ⟨-, himage, hrange⟩
    · have hzero : c.toNat - r.first = 0 := by omega
      rw [heq, hzero, hk]
      exact .inl rfl
    · have hvalid : (r.image + (c.toNat - r.first)).isValidChar := by
        rcases hrange with hlow | hhigh
        · exact .inl (by omega)
        · exact .inr ⟨by omega, by omega⟩
      refine .inr (.inr ⟨_, ?_, heq⟩)
      rw [Char.toNat_ofNat, if_pos hvalid]
      omega
  · exact .inr (.inr ⟨c, hc, heq⟩)

theorem image_of_ascii (hc : c.toNat < 128) (before cs : List Char) :
    image before c cs = [c.toLower] := by
  have hsigma : c ≠ 'Σ' := by
    rintro rfl
    exact absurd hc (by decide)
  rw [image, if_neg hsigma, lowerChar_of_ascii hc]

theorem foreign_image (hc : 128 ≤ c.toNat) (before cs : List Char) :
    Foreign (image before c cs) := by
  unfold image
  split
  · split <;> exact .inr (.inr ⟨_, by decide, rfl⟩)
  · exact foreign_lowerChar hc

/-! ## Texts that differ in case -/

/-- Texts that differ at most in the case of letters from A to Z. -/
def SameButCase (a b : List Char) : Prop := a.map Char.toLower = b.map Char.toLower

theorem image_map_toLower (before : List Char) (c : Char) (cs : List Char) :
    image (before.map Char.toLower) c.toLower (cs.map Char.toLower) = image before c cs := by
  by_cases hc : c.toNat < 128
  · rw [image_of_ascii hc, image_of_ascii (toLower_ascii hc), Char.toLower_toLower_eq_toLower]
  · unfold image
    rw [toLower_of_not_ascii (by omega), meetsCased_map_toLower, meetsCased_map_toLower]

theorem lowerAfter_map_toLower (before cs : List Char) :
    lowerAfter (before.map Char.toLower) (cs.map Char.toLower) = lowerAfter before cs := by
  induction cs generalizing before with
  | nil => rfl
  | cons c cs ih =>
    rw [List.map_cons, lowerAfter_cons, lowerAfter_cons, image_map_toLower, ← ih (c :: before)]
    rfl

theorem lower_eq_of_sameButCase {a b : List Char} (h : SameButCase a b) : lower a = lower b := by
  have ha : lower (a.map Char.toLower) = lower a := lowerAfter_map_toLower [] a
  have hb : lower (b.map Char.toLower) = lower b := lowerAfter_map_toLower [] b
  rw [← ha, ← hb, h]

/-! ## Phrases in a lowercase text -/

/-- A phrase of ASCII without capital letters that no image of another character can be mistaken
for. -/
structure Plain (phrase : List Char) : Prop where
  ascii : phrase.all fun c => c.toNat < 128
  small : phrase.all fun c => c.toLower == c
  not_k : 'k' ∉ phrase
  last_ne_i : phrase.getLast? ≠ some 'i'

instance (phrase : List Char) : Decidable (Plain phrase) :=
  decidable_of_iff (_ ∧ _ ∧ _ ∧ _)
    ⟨fun ⟨ha, hs, hk, hi⟩ => ⟨ha, hs, hk, hi⟩, fun ⟨ha, hs, hk, hi⟩ => ⟨ha, hs, hk, hi⟩⟩

theorem Plain.tail (hp : Plain (c :: phrase)) : Plain phrase where
  ascii := (Bool.and_eq_true_iff.mp hp.ascii).2
  small := (Bool.and_eq_true_iff.mp hp.small).2
  not_k hk := hp.not_k (List.mem_cons_of_mem c hk)
  last_ne_i hi := hp.last_ne_i (by rw [List.getLast?_cons, hi]; rfl)

theorem Plain.ne_of_not_ascii (hp : Plain (c :: phrase)) {d : Char} (hd : 128 ≤ d.toNat) :
    (c == d) = false := by
  have hc : c.toNat < 128 := of_decide_eq_true (Bool.and_eq_true_iff.mp hp.ascii).1
  refine beq_eq_false_iff_ne.mpr ?_
  rintro rfl
  exact absurd hc (Nat.not_lt_of_ge hd)

/-- A plain phrase does not begin with what comes of a character that is not of ASCII. -/
theorem Plain.not_isPrefixOf (hp : Plain (c :: phrase)) {image : List Char} (hi : Foreign image)
    (rest : List Char) : (c :: phrase).isPrefixOf (image ++ rest) = false := by
  rcases hi with rfl | rfl | ⟨d, hd, rfl⟩
  · have hk : (c == 'k') = false := beq_eq_false_iff_ne.mpr fun hk => hp.not_k (hk ▸ .head _)
    simp [List.isPrefixOf, hk]
  · cases phrase with
    | nil =>
      have hi : (c == 'i') = false := beq_eq_false_iff_ne.mpr fun hi => hp.last_ne_i (hi ▸ rfl)
      simp [List.isPrefixOf, hi]
    | cons d phrase =>
      have hdot : (d == '\u0307') = false := hp.tail.ne_of_not_ascii (by decide)
      simp [List.isPrefixOf, hdot]
  · simp [List.isPrefixOf, hp.ne_of_not_ascii hd]

theorem Plain.isPrefixOf_lowerAfter (hp : Plain phrase) (before text : List Char) :
    phrase.isPrefixOf (lowerAfter before text) = phrase.isPrefixOf (text.map Char.toLower) := by
  induction phrase generalizing before text with
  | nil => rfl
  | cons d phrase ih =>
    cases text with
    | nil => rfl
    | cons c cs =>
      rw [lowerAfter_cons, List.map_cons]
      by_cases hc : c.toNat < 128
      · rw [image_of_ascii hc]
        exact congrArg (d == c.toLower && ·) (ih hp.tail (c :: before) cs)
      · -- Neither side has a character of ASCII here for the phrase to go on with.
        have hc : 128 ≤ c.toNat := Nat.le_of_not_lt hc
        rw [hp.not_isPrefixOf (foreign_image hc before cs), toLower_of_not_ascii hc]
        exact (hp.not_isPrefixOf (.inr (.inr ⟨c, hc, rfl⟩)) _).symm

/-- A plain phrase occurs nowhere inside of an image but at its beginning. -/
theorem Plain.occursIn_image (hp : Plain phrase) (hne : phrase ≠ []) (before : List Char) (c : Char)
    (cs rest : List Char) : occursIn phrase (image before c cs ++ rest) =
      (phrase.isPrefixOf (image before c cs ++ rest) || occursIn phrase rest) := by
  have hone (d : Char) : occursIn phrase ([d] ++ rest) =
      (phrase.isPrefixOf ([d] ++ rest) || occursIn phrase rest) := rfl
  by_cases hc : c.toNat < 128
  · rw [image_of_ascii hc, hone]
  · rcases foreign_image (Nat.le_of_not_lt hc) before cs with h | h | ⟨d, -, h⟩
    · rw [h, hone]
    · -- The phrase does not begin with the dot of the dotted capital.
      obtain ⟨d, phrase, rfl⟩ := List.exists_cons_of_ne_nil hne
      have hdot : (d == '\u0307') = false := hp.ne_of_not_ascii (by decide)
      rw [h]
      simp [occursIn, List.isPrefixOf, hdot]
    · rw [h, hone]

theorem Plain.occursIn_lowerAfter (hp : Plain phrase) (hne : phrase ≠ [])
    (before text : List Char) :
    occursIn phrase (lowerAfter before text) = occursIn phrase (text.map Char.toLower) := by
  induction text generalizing before with
  | nil => rfl
  | cons c cs ih =>
    have hhead := hp.isPrefixOf_lowerAfter before (c :: cs)
    rw [lowerAfter_cons] at hhead ⊢
    rw [hp.occursIn_image hne, hhead, ih]
    rfl

/-- Whether a text has a phrase in some case of its letters from A to Z. -/
def Mentions (phrase text : String) : Prop :=
  ∃ before words after, text.toList = before ++ words ++ after ∧ SameButCase words phrase.toList

theorem occursIn_map_toLower_iff {phrase text : String} :
    occursIn (phrase.toList.map Char.toLower) (text.toList.map Char.toLower) = true ↔
      Mentions phrase text := by
  rw [occursIn_iff]
  constructor
  · rintro ⟨before, after, h⟩
    obtain ⟨start, after, htext, hstart, -⟩ := List.map_eq_append_iff.mp h
    obtain ⟨before, words, rfl, -, hwords⟩ := List.map_eq_append_iff.mp hstart
    exact ⟨before, words, after, htext, hwords⟩
  · rintro ⟨before, words, after, htext, hwords⟩
    refine ⟨before.map Char.toLower, after.map Char.toLower, ?_⟩
    rw [htext, List.map_append, List.map_append, hwords]

instance (phrase text : String) : Decidable (Mentions phrase text) :=
  decidable_of_iff _ occursIn_map_toLower_iff

theorem occursIn_lower_iff {phrase text : String} (hp : Plain phrase.toList)
    (hne : phrase.toList ≠ []) :
    occursIn phrase.toList (lower text.toList) = true ↔ Mentions phrase text := by
  have hlower : occursIn phrase.toList (lower text.toList) =
      occursIn phrase.toList (text.toList.map Char.toLower) := hp.occursIn_lowerAfter hne [] _
  have hletter : ∀ c ∈ phrase.toList, c.toLower = c := fun c hc =>
    eq_of_beq (List.all_eq_true.mp hp.small c hc)
  have hsmall : phrase.toList.map Char.toLower = phrase.toList :=
    (List.map_congr_left (g := id) hletter).trans (List.map_id _)
  rw [hlower, ← occursIn_map_toLower_iff, hsmall]

end Launchpad.Text
