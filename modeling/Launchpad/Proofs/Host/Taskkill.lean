import Mathlib.Tactic.SplitIfs
import Launchpad.Host.Taskkill
import Launchpad.Proofs.Text.Lowercase

/-!
# How the words of a failed `taskkill` are read

Of the text of a failed run it counts which of three phrases it has, the first of them that it has,
in whatever case the letters from A to Z are (`classified_by_phrases`). A run with force never asks
for force, so that there are at most two runs for a signal (`signal_escalates_once`).
-/

namespace Launchpad.Taskkill

open Text

/-- None of the phrases has a `k` or ends with an `i`, so that they are searched for in the lowercase
form of a text as in the text itself. -/
theorem classify_eq (stderr : String) (force : Bool) : classify stderr force =
    if Mentions "not found" stderr then .done .noProcess
    else if Mentions "access is denied" stderr then .done .accessDenied
    else if force = false ∧ Mentions "terminated forcefully" stderr then .forceRequired
    else .done (.failed ("taskkill failed: " ++ String.ofList (trim (lower stderr.toList)))) := by
  have hfound : Plain "not found".toList := by decide
  have hdenied : Plain "access is denied".toList := by decide
  have hrefused : Plain "terminated forcefully".toList := by decide
  unfold classify
  simp only [occursIn_lower_iff hfound (by decide), occursIn_lower_iff hdenied (by decide),
    occursIn_lower_iff hrefused (by decide), Bool.and_eq_true, Bool.not_eq_true']

theorem classify_true_ne (stderr : String) : classify stderr true ≠ .forceRequired := by
  rw [classify_eq]
  split_ifs <;> simp_all

/-- A text is read by the first of the phrases "not found", "access is denied" and, unless there is
force already, "terminated forcefully" that it has in any case of the letters from A to Z, and it is
handed on in lowercase if it has none. So the case of these letters does not count at all, and force
counts only where it is what is required. -/
theorem classified_by_phrases (stderr : String) (force : Bool) :
    let found := Mentions "not found" stderr
    let denied := Mentions "access is denied" stderr
    let refused := Mentions "terminated forcefully" stderr
    (classify stderr force = .done .noProcess ↔ found) ∧
    (classify stderr force = .done .accessDenied ↔ ¬ found ∧ denied) ∧
    (classify stderr force = .forceRequired ↔ ¬ found ∧ ¬ denied ∧ force = false ∧ refused) ∧
    (∀ reason, classify stderr force = .done (.failed reason) ↔
      (¬ found ∧ ¬ denied ∧ ¬ (force = false ∧ refused)) ∧
      reason = "taskkill failed: " ++ String.ofList (trim (lower stderr.toList))) ∧
    (∀ other, SameButCase other.toList stderr.toList →
      classify other force = classify stderr force) ∧
    (classify stderr true = classify stderr false ↔ classify stderr false ≠ .forceRequired) ∧
    classify stderr true ≠ .forceRequired := by
  intro found denied refused
  have hread (force : Bool) := classify_eq stderr force
  refine ⟨?_, ?_, ?_, fun reason => ?_, fun other hcase => ?_, ?_, classify_true_ne stderr⟩
  · rw [hread]
    split_ifs <;> simp [found, *]
  · rw [hread]
    split_ifs <;> simp [found, denied, *]
  · rw [hread]
    split_ifs <;> simp_all [found, denied, refused]
  · rw [hread]
    split_ifs <;> simp_all [found, denied, refused, eq_comm]
  · unfold classify
    rw [lower_eq_of_sameButCase hcase]
  · rw [hread, hread]
    split_ifs <;> simp_all

/-- A dotted capital is no `i`, although its lowercase form begins with one. -/
example : classify "ERROR: Access İs denied.\r\n" true =
    .done (.failed "taskkill failed: error: access i̇s denied.") := by
  decide +kernel

/-! ## Runs of the command -/

theorem exists_outcome_true (run : Run) : ∃ result, run.outcome true = .done result := by
  cases hrun : run.outcome true with
  | done result => exact ⟨result, rfl⟩
  | forceRequired =>
    cases run with
    | unstarted => cases hrun
    | succeeded => cases hrun
    | failed => exact absurd hrun (classify_true_ne _)

/-- What is told of a signal is what its first run means, or what its second one does. There is a
second run just if the first one was without force and requires it, and no third one. -/
theorem signal_escalates_once {σ : Type} (run : List String → σ → Run × σ) (p : Pid) (force : Bool)
    (world : σ) :
    let first := run (arguments p force) world
    let second := run (arguments p true) first.2
    (∃ result, first.1.outcome force = .done result ∧
      signal run p force world = (result, first.2)) ∨
    (force = false ∧ first.1.outcome false = .forceRequired ∧
      ∃ result, second.1.outcome true = .done result ∧
        signal run p force world = (result, second.2)) := by
  intro first second
  cases hfirst : first.1.outcome force with
  | done result =>
    refine .inl ⟨result, rfl, ?_⟩
    unfold signal
    dsimp only
    rw [hfirst]
  | forceRequired =>
    have hforce : force = false := by
      refine Bool.eq_false_iff.mpr fun hforced => ?_
      rw [hforced] at hfirst
      obtain ⟨result, hdone⟩ := exists_outcome_true first.1
      cases hfirst.symm.trans hdone
    obtain ⟨result, hsecond⟩ := exists_outcome_true second.1
    refine .inr ⟨hforce, hforce ▸ hfirst, result, hsecond, ?_⟩
    unfold signal
    dsimp only
    rw [hfirst]
    dsimp only
    rw [hsecond]

end Launchpad.Taskkill
