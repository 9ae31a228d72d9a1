import Launchpad.Java
import Launchpad.Proofs.Text.Pieces

/-!
# The release that java's answer tells

* `Begins` : a text begins with a number, in as many digits as there are;
* `Names` : a word begins with the release in the modern form, or behind a one in the older form;
* `Tells` : the first line that is not blank has a first word that begins with a digit when quotes
  are left out, and this word names the release;
* `release_read_iff_told` : that is what is read, whatever else the answer says, and it is accepted
  from the twenty-first release on.
-/

namespace Launchpad

namespace Text

variable {p : Char → Bool} {f : List Char → Bool}

theorem splitOn_eq_cons (p : Char → Bool) (cs : List Char) :
    splitOn p cs = cs.takeWhile (fun c => !p c) ::
      match cs.dropWhile fun c => !p c with
      | [] => []
      | _ :: t => splitOn p t := by
  induction cs using pieces_induction p with
  | solid w hw =>
    have htake : w.takeWhile (fun c => !p c) = w := by simpa using hw
    have hdrop : w.dropWhile (fun c => !p c) = [] := by simpa using hw
    rw [splitOn_of_solid hw, htake, hdrop]
  | cons w sep t hw hsep _ =>
    have hw' : ∀ c ∈ w, (!p c) = true := by simpa using hw
    rw [splitOn_append_cons hw hsep, List.takeWhile_append_of_pos hw',
      List.dropWhile_append_of_pos hw']
    simp [hsep]

theorem digit?_ten {c : Char} (hc : c.isDigit = true) :
    digit? 10 c = some (c.toNat - '0'.toNat) := by
  have hlt : c.toNat - '0'.toNat < 10 := by
    simp only [Char.isDigit, Bool.and_eq_true, decide_eq_true_eq, UInt32.le_iff_toNat_le] at hc
    have h9 : c.toNat ≤ 57 := hc.2
    have h0 : '0'.toNat = 48 := rfl
    omega
  simpa [digit?, hc] using hlt

theorem numeral?_ten {digits : List Char} (hne : digits ≠ [])
    (hdigits : ∀ c ∈ digits, c.isDigit = true) :
    numeral? 10 digits = some (Nat.ofDigitChars 10 digits 0) := by
  have hfold : ∀ (cs : List Char), (∀ c ∈ cs, c.isDigit = true) → ∀ n,
      cs.foldlM (fun n c => (digit? 10 c).map fun d => 10 * n + d) n =
        some (Nat.ofDigitChars 10 cs n) := by
    intro cs hcs
    induction cs with
    | nil => simp
    | cons c cs ih =>
      intro n
      rw [List.foldlM_cons, digit?_ten (hcs c (by simp)), Nat.ofDigitChars_cons]
      exact ih (fun d hd => hcs d (by simp [hd])) _
  rw [numeral?, if_neg (by simpa using hne)]
  exact hfold digits hdigits 0

/-! ## Lines and words -/

theorem words_dropReturn (l : List Char) : words (dropReturn l) = words l := by
  unfold dropReturn
  split
  · next hlast =>
    have hl := List.dropLast_append_getLast? '\r' hlast
    conv_rhs => rw [← hl]
    rw [words, words, splitOn_concat (by decide)]
    simp
  · rfl

theorem all_isBlank_dropReturn (l : List Char) :
    (dropReturn l).all isBlank = l.all isBlank := by
  unfold dropReturn
  split
  · next hlast =>
    have hl := List.dropLast_append_getLast? '\r' hlast
    conv_rhs => rw [← hl]
    simp [show isBlank '\r' = true by decide]
  · rfl

/-- Of a line that is not blank it does not matter whether the carriage return is dropped, as long
as only its words count. -/
theorem find?_lines_bind {α : Type} {g : List Char → Option α}
    (hg : ∀ l, g (dropReturn l) = g l) (cs : List Char) :
    ((lines cs).find? fun l => !l.all isBlank).bind g =
      ((splitOn (· == '\n') cs).find? fun l => !l.all isBlank).bind g := by
  unfold lines
  dsimp only
  generalize splitOn (· == '\n') cs = pieces
  induction pieces with
  | nil => rfl
  | cons l pieces ih =>
    cases pieces with
    | nil => cases l <;> simp [Option.filter]
    | cons l' pieces =>
      rw [List.dropLast_cons_of_ne_nil (by simp), List.map_cons, List.cons_append,
        List.find?_cons, all_isBlank_dropReturn]
      conv_rhs => rw [List.find?_cons]
      split
      · simp [hg]
      · simpa using ih

end Text

namespace Java

open Text

variable {text rest core digits : List Char} {m n : Nat}

/-! ## Numbers in front -/

/-- A text begins with a number and then goes on otherwise than with a digit. -/
def Begins (text : List Char) (n : Nat) (rest : List Char) : Prop :=
  ∃ digits, text = digits ++ rest ∧ digits ≠ [] ∧ (∀ c ∈ digits, c.isDigit = true) ∧
    (∀ c ∈ rest.head?, c.isDigit = false) ∧ Nat.ofDigitChars 10 digits 0 = n

theorem begins_iff : Begins text n rest ↔ text.takeWhile Char.isDigit ≠ [] ∧
    Nat.ofDigitChars 10 (text.takeWhile Char.isDigit) 0 = n ∧
    rest = text.dropWhile Char.isDigit := by
  constructor
  · rintro ⟨digits, rfl, hne, hdigits, hrest, hvalue⟩
    have htake : (digits ++ rest).takeWhile Char.isDigit = digits := by
      have h := takeWhile_solid_append (p := fun c => !c.isDigit) (w := digits) (a := rest)
        (by simpa using hdigits) (by simpa using hrest)
      simpa using h
    have hdrop := List.takeWhile_append_dropWhile (p := Char.isDigit) (l := digits ++ rest)
    rw [htake] at hdrop ⊢
    exact ⟨hne, hvalue, (List.append_cancel_left hdrop).symm⟩
  · rintro ⟨hne, hvalue, rfl⟩
    refine ⟨_, List.takeWhile_append_dropWhile.symm, hne, ?_, ?_, hvalue⟩
    · intro c hc
      exact List.mem_takeWhile_imp hc
    · intro c hc
      have hhead := List.head?_dropWhile_not Char.isDigit text
      rw [Option.mem_def.mp hc] at hhead
      exact hhead

theorem begins_toDigits (n : Nat) (hrest : ∀ c ∈ rest.head?, c.isDigit = false) :
    Begins (Nat.toDigits 10 n ++ rest) n rest := by
  refine ⟨_, rfl, ?_, ?_, hrest, Nat.ofDigitChars_ten_toDigits⟩
  · intro hnil
    have hpos := Nat.length_toDigits_pos (b := 10) (n := n)
    rw [hnil] at hpos
    simp at hpos
  · intro c hc
    exact Nat.isDigit_of_mem_toDigits (by omega) (by omega) hc

theorem wordOfDigits?_eq_some_iff : wordOfDigits? (text.takeWhile Char.isDigit) = some n ↔
    n < UInt32.size ∧ ∃ rest, Begins text n rest := by
  unfold wordOfDigits?
  by_cases hne : text.takeWhile Char.isDigit = []
  · simp [begins_iff, hne, numeral?]
  · rw [numeral?_ten hne fun c hc => List.mem_takeWhile_imp hc, Option.filter_some]
    by_cases hlt : Nat.ofDigitChars 10 (text.takeWhile Char.isDigit) 0 < UInt32.size
    · simp only [hlt, decide_true, if_true, Option.some.injEq, begins_iff]
      constructor
      · rintro rfl
        exact ⟨hlt, _, hne, rfl, rfl⟩
      · rintro ⟨-, -, -, h, -⟩
        exact h
    · simp only [hlt, decide_false, Bool.false_eq_true, if_false, reduceCtorEq, false_iff,
        begins_iff]
      rintro ⟨hn, -, -, rfl, -⟩
      exact hlt hn

/-! ## The release in a word -/

/-- A word names a release: it begins with it, or, in the older form, with a one and, behind one
other character, with the release. -/
def Names (core : List Char) (m : Nat) : Prop :=
  m < UInt32.size ∧ ((∃ rest, Begins core m rest ∧ m ≠ 1) ∨
    ∃ between second rest, Begins core 1 (between :: second) ∧ Begins second m rest)

theorem tokenMajor?_eq (core : List Char) : tokenMajor? core =
    (wordOfDigits? (core.takeWhile Char.isDigit)).bind fun major =>
      if major = 1 then
        match core.dropWhile Char.isDigit with
        | [] => none
        | _ :: second => wordOfDigits? (second.takeWhile Char.isDigit)
      else some major := by
  have hpieces (cs : List Char) := splitOn_eq_cons (fun c => !c.isDigit) cs
  simp only [Bool.not_not] at hpieces
  unfold tokenMajor?
  rw [hpieces core]
  simp only [List.head?_cons, Option.bind_eq_bind, Option.bind_some, List.getElem?_cons_succ]
  cases core.dropWhile Char.isDigit with
  | nil => simp
  | cons between second => simp [hpieces second]

theorem tokenMajor?_eq_some_iff : tokenMajor? core = some m ↔ Names core m := by
  rw [tokenMajor?_eq, Option.bind_eq_some_iff]
  constructor
  · rintro ⟨major, hfirst, h⟩
    obtain ⟨hlt, rest, hbegins⟩ := wordOfDigits?_eq_some_iff.mp hfirst
    by_cases hone : major = 1
    · rw [if_pos hone] at h
      have hrest := (begins_iff.mp hbegins).2.2
      rw [← hrest] at h
      cases rest with
      | nil => cases h
      | cons between second =>
        obtain ⟨hm, rest, hsecond⟩ := wordOfDigits?_eq_some_iff.mp h
        exact ⟨hm, .inr ⟨between, second, rest, hone ▸ hbegins, hsecond⟩⟩
    · rw [if_neg hone] at h
      obtain rfl := Option.some.inj h
      exact ⟨hlt, .inl ⟨rest, hbegins, hone⟩⟩
  · rintro ⟨hm, ⟨rest, hbegins, hne⟩ | ⟨between, second, rest, hbegins, hsecond⟩⟩
    · exact ⟨m, wordOfDigits?_eq_some_iff.mpr ⟨hm, rest, hbegins⟩, if_neg hne⟩
    · refine ⟨1, wordOfDigits?_eq_some_iff.mpr ⟨by decide, _, hbegins⟩, ?_⟩
      rw [if_pos rfl, ← (begins_iff.mp hbegins).2.2]
      exact wordOfDigits?_eq_some_iff.mpr ⟨hm, rest, hsecond⟩

/-! ## The word -/

/-- A word begins with a digit when the quotes around it are left out. -/
def Opens (word : List Char) : Prop :=
  ∃ core, Stripped (· == '"') word core ∧ ∃ c ∈ core.head?, c.isDigit = true

/-- Not all of a line is white space. -/
def Written (line : List Char) : Prop := ∃ c ∈ line, isBlank c = false

/-- Java's answer tells a release. -/
def Tells (answer : List Char) (m : Nat) : Prop :=
  ∃ line word core, FirstPiece (· == '\n') Written answer line ∧
    FirstPiece isBlank Opens line word ∧ Stripped (· == '"') word core ∧ Names core m

theorem opens_iff {word : List Char} :
    Opens word ↔ ((strip (· == '"') word).head?.any Char.isDigit) = true := by
  unfold Opens
  rw [Option.any_eq_true]
  constructor
  · rintro ⟨core, hcore, c, hc, hdigit⟩
    rw [hcore.eq_strip]
    exact ⟨c, hc, hdigit⟩
  · rintro ⟨c, hc, hdigit⟩
    exact ⟨_, stripped_strip _ word, c, hc, hdigit⟩

theorem versionToken?_eq_some_iff {line : List Char} : versionToken? line = some core ↔
    ∃ word, FirstPiece isBlank Opens line word ∧ Stripped (· == '"') word core := by
  unfold versionToken? words
  rw [List.find?_map, List.find?_filter, Option.map_eq_some_iff]
  apply exists_congr
  intro word
  rw [find?_splitOn_eq_some_iff (Q := Opens), strip_eq_iff]
  intro w
  rw [opens_iff]
  cases w with
  | nil => simp [strip]
  | cons c w => simp

theorem firstLine?_bind_eq_some_iff :
    (firstLine? text).bind versionToken? = some core ↔
      ∃ line, FirstPiece (· == '\n') Written text line ∧ versionToken? line = some core := by
  have hreturn : ∀ l, versionToken? (dropReturn l) = versionToken? l := by
    intro l
    rw [versionToken?, words_dropReturn, versionToken?]
  unfold firstLine?
  rw [find?_lines_bind hreturn, Option.bind_eq_some_iff]
  apply exists_congr
  intro line
  rw [find?_splitOn_eq_some_iff (Q := Written)]
  intro l
  simp [Written]

theorem majorVersion?_eq_some_iff {answer : String} :
    majorVersion? answer = some m ↔ Tells answer.toList m := by
  have hbind : majorVersion? answer =
      ((firstLine? answer.toList).bind versionToken?).bind tokenMajor? := by
    rw [Option.bind_assoc]
    rfl
  rw [hbind, Option.bind_eq_some_iff]
  constructor
  · rintro ⟨core, htoken, hmajor⟩
    obtain ⟨line, hline, htoken⟩ := firstLine?_bind_eq_some_iff.mp htoken
    obtain ⟨word, hword, hcore⟩ := versionToken?_eq_some_iff.mp htoken
    exact ⟨line, word, core, hline, hword, hcore, tokenMajor?_eq_some_iff.mp hmajor⟩
  · rintro ⟨line, word, core, hline, hword, hcore, hnames⟩
    have htoken := versionToken?_eq_some_iff.mpr ⟨word, hword, hcore⟩
    exact ⟨core, firstLine?_bind_eq_some_iff.mpr ⟨line, hline, htoken⟩,
      tokenMajor?_eq_some_iff.mpr hnames⟩

theorem checkVersion_eq_ok_iff {answer : String} :
    checkVersion answer = .ok m ↔ majorVersion? answer = some m ∧ 21 ≤ m := by
  unfold checkVersion minVersion
  cases majorVersion? answer with
  | none => simp
  | some found =>
    by_cases hlt : found < 21
    · simp only [hlt, if_true, reduceCtorEq, Option.some.injEq, false_iff]
      omega
    · simp only [hlt, if_false, Except.ok.injEq, Option.some.injEq]
      omega

/-! ## Answers of the usual form -/

/-- What may stand in front: blank lines, then words that do not begin with a digit. -/
structure Preamble (lead front : List Char) : Prop where
  blank : ∀ c ∈ lead, isBlank c = true
  ended : ∀ c ∈ lead.getLast?, c = '\n'
  line : '\n' ∉ front
  gap : ∀ c ∈ front.getLast?, isBlank c = true
  wordless : ∀ b w a, IsPiece isBlank front b w a → ¬ Opens w

theorem isBlank_of_isDigit {c : Char} (hc : c.isDigit = true) : isBlank c = false := by
  simp only [Char.isDigit, Bool.and_eq_true, decide_eq_true_eq, UInt32.le_iff_toNat_le] at hc
  have h0 : 48 ≤ c.toNat := hc.1
  have h9 : c.toNat ≤ 57 := hc.2
  simp only [isBlank, Bool.or_eq_false_iff, Bool.and_eq_false_iff, decide_eq_false_iff_not,
    beq_eq_false_iff_ne]
  omega

theorem ne_of_isDigit {c d : Char} (hc : c.isDigit = true) (hd : d.isDigit = false) : c ≠ d := by
  rintro rfl
  rw [hc] at hd
  cases hd

/-- A number in the words of an answer: solid, with a digit at either end. -/
structure IsNumber (number : List Char) : Prop where
  solid : ∀ c ∈ number, isBlank c = false
  head : ∃ c ∈ number.head?, c.isDigit = true
  last : ∃ c ∈ number.getLast?, c.isDigit = true

theorem isNumber_toDigits (n : Nat) : IsNumber (Nat.toDigits 10 n) := by
  have hdigit : ∀ c ∈ Nat.toDigits 10 n, c.isDigit = true := by
    intro c hc
    exact Nat.isDigit_of_mem_toDigits (by omega) (by omega) hc
  have hne : Nat.toDigits 10 n ≠ [] := by
    rw [← List.length_pos_iff]
    exact Nat.length_toDigits_pos
  refine ⟨fun c hc => isBlank_of_isDigit (hdigit c hc), ?_, ?_⟩
  · exact ⟨_, List.head?_eq_some_head hne, hdigit _ (List.head_mem hne)⟩
  · exact ⟨_, List.getLast?_eq_some_getLast hne, hdigit _ (List.getLast_mem hne)⟩

theorem isNumber_older (n : Nat) : IsNumber ('1' :: '.' :: Nat.toDigits 10 n) := by
  obtain ⟨hsolid, -, c, hc, hdigit⟩ := isNumber_toDigits n
  refine ⟨?_, ⟨'1', rfl, by decide⟩, ⟨c, ?_, hdigit⟩⟩
  · intro c hc
    rcases List.mem_cons.mp hc with rfl | hc
    · decide
    · rcases List.mem_cons.mp hc with rfl | hc
      · decide
      · exact hsolid c hc
  · simp [List.getLast?_cons, Option.mem_def.mp hc]

theorem IsNumber.ne_nil {number : List Char} (h : IsNumber number) : number ≠ [] := by
  rintro rfl
  obtain ⟨c, hc, -⟩ := h.head
  cases hc

/-- The word that a number is the core of, with quotes in front: it goes up to the next blank, and
its core goes on with a beginning of what follows the number. -/
theorem exists_word {quotes number : List Char} (hquotes : ∀ c ∈ quotes, c = '"')
    (hnumber : IsNumber number) (suffix : List Char) :
    ∃ word after tail, quotes ++ (number ++ suffix) = word ++ after ∧ tail <+: suffix ∧
      (∀ c ∈ word, isBlank c = false) ∧ (∀ c ∈ after.head?, isBlank c = true) ∧
      Stripped (· == '"') word (number ++ tail) := by
  obtain ⟨rest, after, rfl, hrest, hafter⟩ := exists_cut isBlank suffix
  have hne := hnumber.ne_nil
  obtain ⟨hsolid, ⟨first, hfirst, hfirstDigit⟩, ⟨final, hfinal, hfinalDigit⟩⟩ := hnumber
  have hquote : '"'.isDigit = false := by decide
  obtain ⟨tail, htail, hstripped⟩ : ∃ tail, tail <+: rest ∧
      Stripped (· == '"') (quotes ++ (number ++ rest)) (number ++ tail) := by
    apply exists_stripped_append
    · simpa using hquotes
    · exact hne
    · intro c hc
      obtain rfl : first = c := Option.some.inj (hfirst.symm.trans hc)
      simpa using ne_of_isDigit hfirstDigit hquote
    · intro c hc
      obtain rfl : final = c := Option.some.inj (hfinal.symm.trans hc)
      simpa using ne_of_isDigit hfinalDigit hquote
  refine ⟨quotes ++ (number ++ rest), after, tail, by simp only [List.append_assoc],
    htail.trans (List.prefix_append rest after), ?_, hafter, hstripped⟩
  intro c hc
  simp only [List.mem_append] at hc
  rcases hc with hc | hc | hc
  · rw [hquotes c hc]
    decide
  · exact hsolid c hc
  · exact hrest c hc

/-- Behind blank lines and words that do not begin with a digit, a number is told as the release
that it names, whatever follows. -/
theorem tells_of_preamble {lead front quotes number suffix : List Char}
    (hpre : Preamble lead front) (hquotes : ∀ c ∈ quotes, c = '"') (hnumber : IsNumber number)
    (hnames : ∀ rest, rest <+: suffix → Names (number ++ rest) m) :
    Tells (lead ++ (front ++ (quotes ++ (number ++ suffix)))) m := by
  obtain ⟨rest, after, rfl, hrest, hafter⟩ := exists_cut (· == '\n') suffix
  obtain ⟨word, gap, tail, hword, htail, hsolid, hgap, hstripped⟩ :=
    exists_word hquotes hnumber rest
  obtain ⟨first, hfirst, hdigit⟩ := hnumber.head
  have hline : lead ++ (front ++ (quotes ++ (number ++ (rest ++ after)))) =
      lead ++ (front ++ (word ++ gap) ++ after) := by
    rw [← hword]
    simp only [List.append_assoc]
  have hfirstWord : FirstPiece isBlank Opens (front ++ (word ++ gap)) word := by
    refine firstPiece_append hpre.gap hpre.wordless hsolid ⟨_, hstripped, first, ?_, hdigit⟩ hgap
    rw [List.head?_append_of_ne_nil _ hnumber.ne_nil]
    exact hfirst
  have hfirstLine : FirstPiece (· == '\n') Written
      (lead ++ (front ++ (word ++ gap) ++ after)) (front ++ (word ++ gap)) := by
    refine firstPiece_append (by simpa using hpre.ended) ?_ ?_ ?_ hafter
    · rintro b q a hpiece ⟨c, hc, hblank⟩
      have hlead : c ∈ lead := by
        rw [hpiece.eq]
        simp [hc]
      rw [hpre.blank c hlead] at hblank
      cases hblank
    · intro c hc
      rw [List.mem_append, ← hword] at hc
      simp only [List.mem_append] at hc
      rw [beq_eq_false_iff_ne]
      rintro rfl
      rcases hc with hc | hc | hc | hc
      · exact hpre.line hc
      · exact absurd (hquotes _ hc) (by decide)
      · exact absurd (hnumber.solid _ hc) (by decide)
      · simpa using hrest _ hc
    · refine ⟨first, ?_, isBlank_of_isDigit hdigit⟩
      rw [← hword]
      simp [List.mem_of_head? hfirst]
  rw [hline]
  exact ⟨_, _, _, hfirstLine, hfirstWord, hstripped,
    hnames tail (htail.trans (List.prefix_append rest after))⟩

theorem head?_not_isDigit {rest suffix : List Char} (h : rest <+: suffix)
    (hs : ∀ c ∈ suffix.head?, c.isDigit = false) : ∀ c ∈ rest.head?, c.isDigit = false := by
  obtain ⟨tail, rfl⟩ := h
  intro c hc
  apply hs c
  rw [List.head?_append, Option.mem_def.mp hc]
  rfl

/-- The release that is read is the one that the answer tells, and it is accepted from the
twenty-first on. Behind blank lines and words that do not begin with a digit, a number is read as
the release in the modern form, and behind `1.` in the older one, whatever follows. -/
theorem release_read_iff_told :
    (∀ answer m, majorVersion? answer = some m ↔ Tells answer.toList m) ∧
    (∀ answer m, checkVersion answer = .ok m ↔ Tells answer.toList m ∧ 21 ≤ m) ∧
    ∀ lead front quotes suffix n, Preamble lead front → (∀ c ∈ quotes, c = '"') → n < UInt32.size →
      (∀ c ∈ suffix.head?, c.isDigit = false) →
      (n ≠ 1 → majorVersion? (String.ofList
        (lead ++ (front ++ (quotes ++ (Nat.toDigits 10 n ++ suffix))))) = some n) ∧
      majorVersion? (String.ofList
        (lead ++ (front ++ (quotes ++ ('1' :: '.' :: Nat.toDigits 10 n ++ suffix))))) =
          some n := by
  refine ⟨fun answer m => majorVersion?_eq_some_iff, fun answer m => ?_, ?_⟩
  · rw [checkVersion_eq_ok_iff, majorVersion?_eq_some_iff]
  · intro lead front quotes suffix n hpre hquotes hn hsuffix
    constructor
    · intro hne
      rw [majorVersion?_eq_some_iff, String.toList_ofList]
      apply tells_of_preamble hpre hquotes (isNumber_toDigits n)
      intro rest hrest
      exact ⟨hn, .inl ⟨rest, begins_toDigits n (head?_not_isDigit hrest hsuffix), hne⟩⟩
    · rw [majorVersion?_eq_some_iff, String.toList_ofList]
      apply tells_of_preamble hpre hquotes (isNumber_older n)
      intro rest hrest
      have hone : Begins ('1' :: '.' :: Nat.toDigits 10 n ++ rest) 1
          ('.' :: (Nat.toDigits 10 n ++ rest)) :=
        ⟨['1'], rfl, by simp, List.forall_mem_singleton.mpr (by decide), by simp, by decide⟩
      exact ⟨hn, .inr ⟨'.', _, rest, hone, begins_toDigits n (head?_not_isDigit hrest hsuffix)⟩⟩

/-- The words in front of the release in the answer of an older java. -/
def olderFront : List Char := "java version ".toList

theorem preamble_olderFront : Preamble [] olderFront where
  blank := by simp
  ended := by simp
  line := by decide
  gap := by
    rintro _ ⟨⟩
    rfl
  wordless b w a hpiece := by
    have hw : w ∈ splitOn isBlank olderFront := mem_splitOn_iff.mpr ⟨b, a, hpiece⟩
    have hnone : ∀ w ∈ splitOn isBlank olderFront,
        ((strip (· == '"') w).head?.any Char.isDigit) = false := by decide
    rw [opens_iff, hnone w hw]
    exact Bool.false_ne_true

theorem older_release_is_read :
    Preamble [] olderFront ∧ majorVersion? "java version \"1.8.0_392\"\n21 again" = some 8 := by
  have hsuffix : ∀ c ∈ ".0_392\"\n21 again".toList.head?, c.isDigit = false := by
    rintro _ ⟨⟩
    rfl
  have hread := (release_read_iff_told.2.2 [] olderFront ['"'] _ 8 preamble_olderFront (by simp)
    (by decide) hsuffix).2
  exact ⟨preamble_olderFront, hread⟩

end Java

end Launchpad
