import Launchpad.ProcessTree
import Mathlib.Data.Finset.Card
import Mathlib.Data.List.Nodup
import Mathlib.Data.Set.Insert
import Mathlib.Logic.Relation

/-!
# What a process tree holds, and in which order

`Visits` is the walk over a process table without a bound on its depth: what is found by visiting
some processes and all below them, when others have been seen before. The bounded walk from which a
tree is built is such a walk (`visits_visit`), because every descent meets another process of the
table. All that is said of trees follows by induction on `Visits`.

`ofLinks_lists_descendants` puts it together: a tree holds what can be reached from its root, each
process once and after those that it started, the root last, and it depends on nothing but the set
of links between different processes.
-/

namespace Launchpad.ProcessTree

open Relation

variable {links links' : List ParentLink} {root p q m : Pid} {ps ps' found found' : List Pid}
  {seen : Set Pid}

/-! ## Links -/

/-- One process started another, as the table has it. -/
def Started (links : List ParentLink) (p q : Pid) : Prop := ⟨q, p⟩ ∈ links

/-- A way from one process to another that does not lead to the root on its way. -/
def LeadsBeside (links : List ParentLink) (root : Pid) : Pid → Pid → Prop :=
  ReflTransGen fun p q => Started links p q ∧ q ≠ root

theorem mem_childrenOf : q ∈ childrenOf links p ↔ Started links p q ∧ p ≠ q := by
  unfold childrenOf Started
  rw [mem_sortBy, List.mem_map]
  constructor
  · rintro ⟨⟨q', p'⟩, hl, rfl⟩
    rw [List.mem_filter, Bool.and_eq_true, beq_iff_eq, bne_iff_ne] at hl
    obtain ⟨hl, rfl, hne⟩ := hl
    exact ⟨hl, hne.symm⟩
  · rintro ⟨hl, hne⟩
    refine ⟨_, List.mem_filter.mpr ⟨hl, ?_⟩, rfl⟩
    rw [Bool.and_eq_true, beq_iff_eq, bne_iff_ne]
    exact ⟨rfl, hne.symm⟩

/-- Ascending lists of processes. -/
def Ascending (ps : List Pid) : Prop := ps.Pairwise fun p q => p.le q = true

theorem ascending_childrenOf (links : List ParentLink) (p : Pid) :
    Ascending (childrenOf links p) := by
  refine pairwise_sortBy (fun a b => ?_) (fun a b c => ?_) _
  · simp only [Pid.le, decide_eq_true_eq]
    exact Nat.le_total _ _
  · simp only [Pid.le, decide_eq_true_eq]
    exact Nat.le_trans

/-! ## The walk without a bound -/

/-- The processes `found` are those that a visit to some processes finds, in the order in which it
leaves them for good, when others have been seen before. -/
inductive Visits (links : List ParentLink) : Set Pid → List Pid → List Pid → Prop
  | nothing {seen : Set Pid} : Visits links seen [] []
  | skips {seen : Set Pid} {p : Pid} {ps found : List Pid} (hp : p ∈ seen)
      (hrest : Visits links seen ps found) : Visits links seen (p :: ps) found
  | descends {seen : Set Pid} {p : Pid} {ps below rest : List Pid} (hp : p ∉ seen)
      (hbelow : Visits links (insert p seen) (childrenOf links p) below)
      (hrest : Visits links (insert p seen ∪ {q | q ∈ below}) ps rest) :
      Visits links seen (p :: ps) (below ++ p :: rest)

/-- The processes of the table that a walk has not seen. -/
def unseen (links : List ParentLink) (w : Walk) : Finset Pid :=
  (links.map (·.pid)).toFinset.filter fun q => q ∉ w.seen

theorem unseen_subset {w w' : Walk} (h : ∀ q, q ∈ w.seen → q ∈ w'.seen) :
    unseen links w' ⊆ unseen links w := by
  intro q hq
  obtain ⟨hmem, hnot⟩ := Finset.mem_filter.mp hq
  exact Finset.mem_filter.mpr ⟨hmem, fun hseen => hnot (h q hseen)⟩

/-- A descent leaves a process less that has not been seen. -/
theorem card_unseen_lt {w : Walk} (hp : p ∈ links.map (·.pid)) (hseen : p ∉ w.seen) :
    (unseen links { w with seen := p :: w.seen }).card < (unseen links w).card := by
  refine Finset.card_lt_card ⟨unseen_subset fun q => List.mem_cons_of_mem p, fun hsub => ?_⟩
  have hmem : p ∈ unseen links w := Finset.mem_filter.mpr ⟨List.mem_toFinset.mpr hp, hseen⟩
  exact (Finset.mem_filter.mp (hsub hmem)).2 List.mem_cons_self

theorem childrenOf_subset (links : List ParentLink) (p : Pid) :
    childrenOf links p ⊆ links.map (·.pid) := by
  intro q hq
  exact List.mem_map.mpr ⟨_, (mem_childrenOf.mp hq).1, rfl⟩

/-- A walk that may go deeper than there are processes to be seen meets no bound. -/
theorem visits_visit {depth : Nat} {w : Walk} (hps : ps ⊆ links.map (·.pid))
    (hdepth : (unseen links w).card < depth) :
    ∃ found, Visits links {q | q ∈ w.seen} ps found ∧
      (visit links depth ps w).done = w.done ++ found ∧
      ∀ q, q ∈ (visit links depth ps w).seen ↔ q ∈ w.seen ∨ q ∈ found := by
  fun_induction visit links depth ps w with
  | case1 => exact ⟨[], .nothing, (List.append_nil _).symm, by simp⟩
  | case2 => exact absurd hdepth (Nat.not_lt_zero _)
  | case3 depth p ps w hp ih =>
    obtain ⟨found, hvisits, hdone, hseen⟩ := ih (List.cons_subset.mp hps).2 hdepth
    exact ⟨found, .skips (List.contains_iff_mem.mp hp) hvisits, hdone, hseen⟩
  | case4 depth p ps w hp inner ihbelow ihrest =>
    have hp : p ∉ w.seen := fun hmem => hp (List.contains_iff_mem.mpr hmem)
    obtain ⟨hmem, hps⟩ := List.cons_subset.mp hps
    have hcard := card_unseen_lt hmem hp
    obtain ⟨below, hbelow, hdone, hseen⟩ := ihbelow (childrenOf_subset links p) (by omega)
    have hinner : (unseen links inner).card ≤ (unseen links w).card :=
      Finset.card_le_card
        (unseen_subset fun q hq => (hseen q).mpr (.inl (List.mem_cons_of_mem p hq)))
    obtain ⟨rest, hrest, hdone', hseen'⟩ := ihrest hps (Nat.lt_of_le_of_lt hinner hdepth)
    have hset : {q | q ∈ inner.seen} = insert p {q | q ∈ w.seen} ∪ {q | q ∈ below} := by
      ext q
      simp [inner, hseen q, List.mem_cons]
    refine ⟨below ++ p :: rest, .descends hp ?_ (hset ▸ hrest), ?_, fun q => ?_⟩
    · convert hbelow using 1
      ext q
      simp
    · rw [hdone', hdone]
      simp
    · rw [hseen' q, hseen q]
      simp only [List.mem_cons, List.mem_append]
      tauto

/-- The tree of a process is what a visit to its children finds when the process itself has been
seen. -/
theorem visits_ofLinks (root : Pid) (links : List ParentLink) :
    Visits links {root} (childrenOf links root) (ofLinks root links).descendants := by
  have hdepth : (unseen links ⟨[root], []⟩).card < links.length + 1 := by
    have hle := (Finset.card_filter_le (links.map (·.pid)).toFinset fun q => q ∉ [root]).trans
      (List.toFinset_card_le _)
    rw [List.length_map] at hle
    exact Nat.lt_succ_of_le hle
  obtain ⟨found, hvisits, hdone, -⟩ := visits_visit (childrenOf_subset links root) hdepth
  have hset : {q | q ∈ (⟨[root], []⟩ : Walk).seen} = {root} := by
    ext q
    simp
  rw [hset] at hvisits
  unfold ofLinks
  rw [hdone, List.nil_append]
  exact hvisits

/-! ## What a visit finds -/

namespace Visits

/-- Nothing is found twice, and nothing that has been seen before. -/
theorem fresh (h : Visits links seen ps found) : found.Nodup ∧ ∀ q ∈ found, q ∉ seen := by
  induction h with
  | nothing => exact ⟨.nil, List.forall_mem_nil _⟩
  | skips _ _ ih => exact ih
  | @descends seen p ps below rest hp _ _ ihbelow ihrest =>
    obtain ⟨hnodup, hbelow⟩ := ihbelow
    obtain ⟨hnodup', hrest⟩ := ihrest
    refine ⟨List.nodup_append.mpr ⟨hnodup, List.nodup_cons.mpr ⟨fun hmem => ?_, hnodup'⟩, ?_⟩, ?_⟩
    · exact hrest p hmem (.inl (Set.mem_insert p seen))
    · rintro q hq _ hq' rfl
      rcases List.mem_cons.mp hq' with rfl | hq'
      · exact hbelow q hq (Set.mem_insert q seen)
      · exact hrest q hq' (.inr hq)
    · intro q hq hseen
      rcases List.mem_append.mp hq with hq | hq
      · exact hbelow q hq (Set.mem_insert_of_mem p hseen)
      · rcases List.mem_cons.mp hq with rfl | hq
        · exact hp hseen
        · exact hrest q hq (.inl (Set.mem_insert_of_mem p hseen))

/-- All that is visited is found if it has not been seen, and so are the children of what is
found. -/
theorem covers (h : Visits links seen ps found) :
    (∀ p ∈ ps, p ∈ seen ∨ p ∈ found) ∧
      ∀ p ∈ found, ∀ q ∈ childrenOf links p, q ∈ seen ∨ q ∈ found := by
  induction h with
  | nothing => exact ⟨List.forall_mem_nil _, List.forall_mem_nil _⟩
  | skips hp _ ih => exact ⟨List.forall_mem_cons.mpr ⟨.inl hp, ih.1⟩, ih.2⟩
  | @descends seen p ps below rest hp _ _ ihbelow ihrest =>
    -- What the two visits count as seen has been seen before, or is found here.
    have hgoes (q : Pid) (hq : (q = p ∨ q ∈ seen) ∨ q ∈ below ∨ q ∈ rest) :
        q ∈ seen ∨ q ∈ below ++ p :: rest := by
      rw [List.mem_append, List.mem_cons]
      tauto
    refine ⟨List.forall_mem_cons.mpr ⟨hgoes p (.inl (.inl rfl)), fun q hq => ?_⟩, ?_⟩
    · rcases ihrest.1 q hq with (hq | hq) | hq
      · exact hgoes q (.inl hq)
      · exact hgoes q (.inr (.inl hq))
      · exact hgoes q (.inr (.inr hq))
    · intro a ha q hq
      rcases List.mem_append.mp ha with ha | ha
      · exact hgoes q ((ihbelow.2 a ha q hq).imp id .inl)
      · rcases List.mem_cons.mp ha with rfl | ha
        · exact hgoes q ((ihbelow.1 q hq).imp id .inl)
        · rcases ihrest.2 a ha q hq with (hq | hq) | hq
          · exact hgoes q (.inl hq)
          · exact hgoes q (.inr (.inl hq))
          · exact hgoes q (.inr (.inr hq))

/-- What is found has every property that goes from the visited processes down to children. -/
theorem inherits {P : Pid → Prop} (h : Visits links seen ps found)
    (hdown : ∀ p, P p → ∀ q ∈ childrenOf links p, P q) (hps : ∀ p ∈ ps, P p) :
    ∀ q ∈ found, P q := by
  induction h with
  | nothing => exact List.forall_mem_nil _
  | skips _ _ ih => exact ih (List.forall_mem_cons.mp hps).2
  | @descends seen p ps below rest _ _ _ ihbelow ihrest =>
    obtain ⟨hp, hps⟩ := List.forall_mem_cons.mp hps
    exact List.forall_mem_append.mpr
      ⟨ihbelow (hdown p hp), List.forall_mem_cons.mpr ⟨hp, ihrest hps⟩⟩

/-- A child of a process that is found has been left for good before the visit, or it leads to the
process, or it is found before it. The processes `path` are those that the visit has been let down
through and that it has not left yet; each of them leads to all that is visited anew. -/
theorem ordered {path : Set Pid} (h : Visits links seen ps found) (hroot : root ∈ seen)
    (hpath : ∀ a ∈ path, ∀ p ∈ ps, p ∉ seen → LeadsBeside links root a p) :
    ∀ p ∈ found, ∀ q ∈ childrenOf links p,
      (q ∈ seen ∧ q ∉ path) ∨ LeadsBeside links root q p ∨ [q, p].Sublist found := by
  induction h generalizing path with
  | nothing => exact List.forall_mem_nil _
  | skips _ _ ih => exact ih hroot fun a ha p hp => hpath a ha p (List.mem_cons_of_mem _ hp)
  | @descends seen p ps below rest hp hbelow hrest ihbelow ihrest =>
    have hfound : (p :: rest).Sublist (below ++ p :: rest) := List.sublist_append_right _ _
    intro a ha q hq
    rcases List.mem_append.mp ha with ha | ha
    · have hdown : ∀ b ∈ insert p path, ∀ c ∈ childrenOf links p, c ∉ insert p seen →
          LeadsBeside links root b c := by
        intro b hb c hc hnew
        have hne : c ≠ root := fun heq => hnew (.inr (heq ▸ hroot))
        have hstep : Started links p c ∧ c ≠ root := ⟨(mem_childrenOf.mp hc).1, hne⟩
        rcases hb with rfl | hb
        · exact .single hstep
        · exact (hpath b hb p List.mem_cons_self hp).tail hstep
      rcases ihbelow (.inr hroot) hdown a ha q hq with ⟨hseen, hnot⟩ | hleads | hbefore
      · have hne : q ≠ p := fun heq => hnot (.inl heq)
        exact .inl ⟨hseen.resolve_left hne, fun hmem => hnot (.inr hmem)⟩
      · exact .inr (.inl hleads)
      · exact .inr (.inr (hbefore.trans (List.sublist_append_left _ _)))
    · rcases List.mem_cons.mp ha with rfl | hlater
      · rcases hbelow.covers.1 q hq with (rfl | hseen) | hmem
        · exact .inr (.inl .refl)
        · by_cases hmem : q ∈ path
          · exact .inr (.inl (hpath q hmem a List.mem_cons_self hp))
          · exact .inl ⟨hseen, hmem⟩
        · exact .inr (.inr (.append (List.singleton_sublist.mpr hmem)
            (List.singleton_sublist.mpr List.mem_cons_self)))
      · have hbefore (hmem : q ∈ below ∨ q = p) : [q, a].Sublist (below ++ p :: rest) := by
          rcases hmem with hmem | rfl
          · exact .append (List.singleton_sublist.mpr hmem)
              (List.singleton_sublist.mpr (List.mem_cons_of_mem p hlater))
          · exact (List.cons_sublist_cons.mpr (List.singleton_sublist.mpr hlater)).trans hfound
        have hbeside : ∀ b ∈ path, ∀ c ∈ ps, c ∉ insert p seen ∪ {q | q ∈ below} →
            LeadsBeside links root b c :=
          fun b hb c hc hnew =>
            hpath b hb c (List.mem_cons_of_mem p hc) fun hmem => hnew (.inl (.inr hmem))
        rcases ihrest (.inl (.inr hroot)) hbeside a hlater q hq with
          ⟨(rfl | hseen) | hmem, hnot⟩ | hleads | hsub
        · exact .inr (.inr (hbefore (.inr rfl)))
        · exact .inl ⟨hseen, hnot⟩
        · exact .inr (.inr (hbefore (.inl hmem)))
        · exact .inr (.inl hleads)
        · exact .inr (.inr (hsub.trans ((List.sublist_cons_self p rest).trans hfound)))

/-! ## What a visit depends on -/

/-- A visit finds one thing. -/
theorem unique (h : Visits links seen ps found) (h' : Visits links seen ps found') :
    found = found' := by
  induction h generalizing found' with
  | nothing =>
    cases h'
    rfl
  | skips hp _ ih =>
    cases h' with
    | skips _ hrest => exact ih hrest
    | descends hnot => exact absurd hp hnot
  | descends hp _ _ ihbelow ihrest =>
    cases h' with
    | skips hmem => exact absurd hmem hp
    | descends _ hbelow hrest =>
      obtain rfl := ihbelow hbelow
      rw [ihrest hrest]

/-- Processes that have been seen make no difference in front of others. -/
theorem skips_all {pre : List Pid} (hpre : ∀ q ∈ pre, q ∈ seen) (h : Visits links seen ps found) :
    Visits links seen (pre ++ ps) found := by
  induction pre with
  | nil => exact h
  | cons p pre ih =>
    obtain ⟨hp, hpre⟩ := List.forall_mem_cons.mp hpre
    exact .skips hp (ih hpre)

/-- Of ascending processes only those count that have not been seen, however often they come. -/
theorem congr (hlinks : ∀ p q, q ∈ childrenOf links p ↔ q ∈ childrenOf links' p)
    (h : Visits links seen ps found) (hps : Ascending ps) (hps' : Ascending ps')
    (hsame : ∀ q, q ∉ seen → (q ∈ ps ↔ q ∈ ps')) : Visits links' seen ps' found := by
  induction h generalizing ps' with
  | nothing =>
    have hseen : ∀ q ∈ ps', q ∈ _ := fun q hq =>
      Classical.byContradiction fun hnot => List.not_mem_nil ((hsame q hnot).mpr hq)
    rw [← List.append_nil ps']
    exact skips_all hseen .nothing
  | skips hp _ ih =>
    refine ih (List.pairwise_cons.mp hps).2 hps' fun q hq => ?_
    rw [← hsame q hq, List.mem_cons]
    exact ⟨.inr, fun hmem => hmem.resolve_left fun heq => hq (heq ▸ hp)⟩
  | @descends seen p ps below rest hp _ _ ihbelow ihrest =>
    obtain ⟨hle, hps⟩ := List.pairwise_cons.mp hps
    obtain ⟨pre, post, rfl, hpre⟩ :=
      List.eq_append_cons_of_mem ((hsame p hp).mp List.mem_cons_self)
    obtain ⟨-, hpost, hbefore⟩ := List.pairwise_append.mp hps'
    -- What is not above `p`, and is not `p`, comes up for nothing: it has been seen.
    have hseen : ∀ q ∈ pre, q ∈ seen := by
      intro q hq
      by_contra hnot
      have hne : q ≠ p := fun heq => hpre (heq ▸ hq)
      have hmem := (hsame q hnot).mpr (List.mem_append_left _ hq)
      have hge := hle q ((List.mem_cons.mp hmem).resolve_left hne)
      have hle := hbefore q hq p List.mem_cons_self
      simp only [Pid.le, decide_eq_true_eq] at hge hle
      exact hne (Pid.toNat_injective (Nat.le_antisymm hle hge))
    have hbelow := ihbelow (ascending_childrenOf _ p) (ascending_childrenOf links' p)
      fun q _ => hlinks p q
    have hrest := ihrest hps (List.pairwise_cons.mp hpost).2 fun q hq => by
      have hne : q ≠ p := fun heq => hq (.inl (.inl heq))
      have hnot : q ∉ seen := fun hmem => hq (.inl (.inr hmem))
      have hpre : q ∉ pre := fun hmem => hnot (hseen q hmem)
      have hmem := hsame q hnot
      simp only [List.mem_cons, List.mem_append, hne, hpre, false_or] at hmem
      exact hmem
    exact skips_all hseen (.descends hp hbelow hrest)

end Visits

/-! ## Trees -/

theorem mem_members {t : ProcessTree} : p ∈ t.members ↔ p ∈ t.descendants ∨ p = t.root := by
  unfold members
  rw [List.mem_append, List.mem_singleton]

/-- A tree holds what can be reached from its root. -/
theorem mem_members_ofLinks :
    p ∈ (ofLinks root links).members ↔ ReflTransGen (Started links) root p := by
  have hvisits := visits_ofLinks root links
  obtain ⟨hroot, hfound⟩ := hvisits.covers
  rw [mem_members]
  constructor
  · rintro (hp | rfl)
    · refine hvisits.inherits (P := ReflTransGen (Started links) root) ?_ ?_ p hp
      · exact fun a ha q hq => ha.tail (mem_childrenOf.mp hq).1
      · exact fun q hq => .single (mem_childrenOf.mp hq).1
    · exact .refl
  · intro hreach
    induction hreach with
    | refl => exact .inr rfl
    | @tail a q _ hstarted ih =>
      by_cases hself : a = q
      · exact hself ▸ ih
      · have hq : q ∈ childrenOf links a := mem_childrenOf.mpr ⟨hstarted, hself⟩
        rcases ih with ha | rfl
        · exact (hfound a ha q hq).symm
        · exact (hroot q hq).symm

theorem nodup_members_ofLinks (root : Pid) (links : List ParentLink) :
    (ofLinks root links).members.Nodup := by
  obtain ⟨hnodup, hfresh⟩ := (visits_ofLinks root links).fresh
  refine List.nodup_append.mpr ⟨hnodup, List.nodup_singleton root, ?_⟩
  rintro p hp _ hroot rfl
  exact hfresh p hp (List.mem_singleton.mp hroot)

/-- A process comes before the one that started it, unless it leads back to that one. -/
theorem sublist_members_ofLinks (hstarted : Started links p m)
    (hm : m ∈ (ofLinks root links).members) (hp : p ∈ (ofLinks root links).members)
    (hroot : m ≠ root) (hback : ¬ LeadsBeside links root m p) :
    [m, p].Sublist (ofLinks root links).members := by
  have hvisits := visits_ofLinks root links
  have hm := (mem_members.mp hm).resolve_right hroot
  rcases mem_members.mp hp with hp | rfl
  · have hne : p ≠ m := fun heq => hback (heq ▸ .refl)
    rcases hvisits.ordered rfl (fun a (ha : a ∈ (∅ : Set Pid)) => ha.elim) p hp m
      (mem_childrenOf.mpr ⟨hstarted, hne⟩) with ⟨hseen, -⟩ | hleads | hbefore
    · exact absurd hseen hroot
    · exact absurd hleads hback
    · exact hbefore.trans (List.sublist_append_left _ _)
  · exact .append (List.singleton_sublist.mpr hm) (.refl _)

/-- With one parent for each process there is no way back to the parent of a process that can be
reached from the root. -/
theorem not_leadsBeside (hone : ∀ q a b, Started links a q → Started links b q → a = b)
    (hreach : ReflTransGen (Started links) root m) (hroot : m ≠ root)
    (hstarted : Started links p m) : ¬ LeadsBeside links root m p := by
  intro hback
  -- A way back would close a circle, of which nothing could be reached from the root.
  have hcircle : ∀ q, ReflTransGen (Started links) root q →
      ¬ (LeadsBeside links root m q ∧ LeadsBeside links root q p) := by
    intro q hq
    induction hq with
    | refl =>
      rintro ⟨hto, -⟩
      rcases hto.cases_tail with heq | ⟨_, -, -, hne⟩
      · exact hroot heq.symm
      · exact hne rfl
    | @tail a q _ hstarted' ih =>
      rintro ⟨hto, hfrom⟩
      rcases hto.cases_tail with rfl | ⟨b, hb, hstarted'', hne⟩
      · obtain rfl := hone q a p hstarted' hstarted
        exact ih ⟨hback, .refl⟩
      · obtain rfl := hone q a b hstarted' hstarted''
        exact ih ⟨hb, .head ⟨hstarted'', hne⟩ hfrom⟩
  exact hcircle m hreach ⟨.refl, hback⟩

/-- The table of processes is walked through to its end. The tree holds what can be reached from its
root, each process once and the root last. A process comes before those that started it, as long as
it does not lead back to them; so with one parent for each process it comes before its parent. The
order of the links, their repetitions and those from a process to itself make no difference. -/
theorem ofLinks_lists_descendants (root : Pid) (links : List ParentLink) :
    let t := ofLinks root links
    Visits links {root} (childrenOf links root) t.descendants ∧
    t.members.Nodup ∧ t.members.getLast? = some root ∧
    (∀ p, p ∈ t.members ↔ ReflTransGen (Started links) root p) ∧
    (∀ m p, Started links p m → m ∈ t.members → p ∈ t.members → m ≠ root →
      ¬ LeadsBeside links root m p → [m, p].Sublist t.members) ∧
    ((∀ q a b, Started links a q → Started links b q → a = b) →
      ∀ m p, Started links p m → m ∈ t.members → m ≠ root → [m, p].Sublist t.members) ∧
    ∀ links', (∀ p q, p ≠ q → (Started links p q ↔ Started links' p q)) →
      ofLinks root links' = t := by
  intro t
  have hvisits : Visits links {root} (childrenOf links root) t.descendants :=
    visits_ofLinks root links
  refine ⟨hvisits, nodup_members_ofLinks root links, List.getLast?_concat, fun p =>
    mem_members_ofLinks, fun m p => sublist_members_ofLinks, ?_, ?_⟩
  · intro hone m p hstarted hm hroot
    have hreach := mem_members_ofLinks.mp hm
    -- The way from the root to `m` comes through its only parent.
    have hp : p ∈ t.members := by
      rcases hreach.cases_tail with heq | ⟨a, ha, hstarted'⟩
      · exact absurd heq hroot
      · obtain rfl := hone m a p hstarted' hstarted
        exact mem_members_ofLinks.mpr ha
    exact sublist_members_ofLinks hstarted hm hp hroot (not_leadsBeside hone hreach hroot hstarted)
  · intro links' hsame
    have hlinks (p q : Pid) : q ∈ childrenOf links p ↔ q ∈ childrenOf links' p := by
      rw [mem_childrenOf, mem_childrenOf]
      exact and_congr_left fun hne => hsame p q hne
    have hcongr := hvisits.congr hlinks (ascending_childrenOf links root)
      (ascending_childrenOf links' root) fun q _ => hlinks root q
    have hdescendants := (visits_ofLinks root links').unique hcongr
    exact congrArg (ProcessTree.mk root) hdescendants

/-- On a circle through the root, on which the last process has been started twice. -/
example : (ofLinks ⟨1⟩ [⟨⟨2⟩, ⟨1⟩⟩, ⟨⟨3⟩, ⟨2⟩⟩, ⟨⟨1⟩, ⟨3⟩⟩, ⟨⟨3⟩, ⟨1⟩⟩]).members =
    [⟨3⟩, ⟨2⟩, ⟨1⟩] := by
  cbv

end Launchpad.ProcessTree
