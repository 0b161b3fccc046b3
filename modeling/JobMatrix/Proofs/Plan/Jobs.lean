import JobMatrix.Plan
import JobMatrix.Proofs.Resolution.References
import JobMatrix.Proofs.Text.ByteOrder
import Mathlib.Algebra.BigOperators.Group.Finset.Basic
import Mathlib.Algebra.Order.Group.Nat

/-!
The jobs of a plan are the jobs of its repros, each resolved alone. Sorting and collapsing put them
in order and drop repeated ones only: two jobs of one repro on one label have the same platform, so
nothing is lost with the second.
-/
namespace JobMatrix

namespace Ledger

variable {catalog : Catalog}

theorem record_jobs (ledger : Ledger) (outcome : Outcome) :
    (ledger.record outcome).jobs = ledger.jobs ++ outcome.jobs := by
  cases outcome with
  | scheduled jobs => rfl
  | skipped skip => exact (List.append_nil ledger.jobs).symm

theorem record_skips (ledger : Ledger) (outcome : Outcome) :
    (ledger.record outcome).findings.skips =
      ledger.findings.skips ++ outcome.skip?.toList := by
  cases outcome with
  | scheduled jobs => exact (List.append_nil ledger.findings.skips).symm
  | skipped skip => rfl

theorem record_unknown (ledger : Ledger) (outcome : Outcome) :
    (ledger.record outcome).findings.unknown = ledger.findings.unknown := by
  cases outcome with
  | scheduled jobs => rfl
  | skipped skip => rfl

theorem enter_jobs (ledger : Ledger) (repro : Repro) : (ledger.enter catalog repro).jobs =
    ledger.jobs ++ (catalog.resolve repro).outcome.jobs := by
  rw [enter, resolve_eq]
  exact record_jobs _ _

theorem enter_skips (ledger : Ledger) (repro : Repro) :
    (ledger.enter catalog repro).findings.skips =
      ledger.findings.skips ++ (catalog.resolve repro).outcome.skip?.toList := by
  rw [enter, resolve_eq]
  exact record_skips _ _

theorem enter_unknown (ledger : Ledger) (repro : Repro) :
    (ledger.enter catalog repro).findings.unknown =
      ledger.findings.unknown ∪ (catalog.resolve repro).unknown := by
  rw [enter, resolve_eq]
  exact record_unknown _ _

theorem foldl_enter_jobs (ledger : Ledger) (repros : List Repro) :
    (repros.foldl (enter catalog) ledger).jobs =
      ledger.jobs ++ repros.flatMap fun repro => (catalog.resolve repro).outcome.jobs := by
  induction repros generalizing ledger with
  | nil => simp
  | cons repro repros ih =>
    rw [List.foldl_cons, ih, enter_jobs, List.flatMap_cons, List.append_assoc]

theorem foldl_enter_skips (ledger : Ledger) (repros : List Repro) :
    (repros.foldl (enter catalog) ledger).findings.skips =
      ledger.findings.skips ++
        repros.filterMap fun repro => (catalog.resolve repro).outcome.skip? := by
  induction repros generalizing ledger with
  | nil => simp
  | cons repro repros ih =>
    rw [List.foldl_cons, ih, enter_skips, List.append_assoc]
    congr 1
    rw [List.filterMap_cons]
    split
    · rename_i none
      rw [none, Option.toList_none, List.nil_append]
    · rename_i skip some
      rw [some, Option.toList_some, List.singleton_append]

/-- The platforms or the labels among the unknown names; `side` is either of the two. -/
theorem mem_foldl_enter_unknown (side : Unknowns → NameSet)
    (union : ∀ a b, side (a ∪ b) = side a ∪ side b) (ledger : Ledger) (repros : List Repro)
    (name : String) : name ∈ side (repros.foldl (enter catalog) ledger).findings.unknown ↔
      name ∈ side ledger.findings.unknown ∨
        ∃ repro ∈ repros, name ∈ side (catalog.resolve repro).unknown := by
  induction repros generalizing ledger with
  | nil => simp
  | cons repro repros ih =>
    rw [List.foldl_cons, ih, enter_unknown, union, NameSet.mem_union, or_assoc]
    simp

end Ledger

namespace Job

def Before (a b : Job) : Prop := a.repro < b.repro ∨ a.repro = b.repro ∧ a.label < b.label

theorem notAfter_iff {a b : Job} : a.notAfter b = true ↔ a.Before b ∨ a.slot = b.slot := by
  unfold notAfter Before slot
  split
  · rename_i below
    simp [below]
  · rename_i notBelow
    split
    · rename_i above
      have differs : a.repro ≠ b.repro := by
        intro same
        rw [same] at above
        exact String.lt_irrefl _ above
      simp [notBelow, differs]
    · rename_i notAbove
      have same := NameSet.eq_of_not_lt notBelow notAbove
      simp only [same, String.lt_irrefl, decide_eq_true_eq, Std.le_iff_lt_or_eq, false_or, true_and,
        Prod.mk.injEq]

theorem before_trans {a b c : Job} (first : a.Before b) (second : b.Before c) : a.Before c := by
  rcases first with below | ⟨same, below⟩
  · rcases second with later | ⟨alike, _⟩
    · exact .inl (String.lt_trans below later)
    · exact .inl (alike ▸ below)
  · rcases second with later | ⟨alike, later⟩
    · exact .inl (same ▸ later)
    · exact .inr ⟨same.trans alike, String.lt_trans below later⟩

theorem before_irrefl (a : Job) : ¬a.Before a := by
  rintro (below | ⟨_, below⟩)
  · exact String.lt_irrefl _ below
  · exact String.lt_irrefl _ below

/-- Only the slots of two jobs tell which is earlier. -/
theorem before_congr {a b c d : Job} (left : a.slot = c.slot) (right : b.slot = d.slot) :
    a.Before b ↔ c.Before d := by
  obtain ⟨leftRepros, leftLabels⟩ := Prod.mk.inj left
  obtain ⟨rightRepros, rightLabels⟩ := Prod.mk.inj right
  unfold Before
  rw [leftRepros, leftLabels, rightRepros, rightLabels]

theorem before_or_slot_eq (a b : Job) : a.Before b ∨ a.slot = b.slot ∨ b.Before a := by
  by_cases below : a.repro < b.repro
  · exact .inl (.inl below)
  · by_cases above : b.repro < a.repro
    · exact .inr (.inr (.inl above))
    · have same := NameSet.eq_of_not_lt below above
      by_cases first : a.label < b.label
      · exact .inl (.inr ⟨same, first⟩)
      · by_cases second : b.label < a.label
        · exact .inr (.inr (.inr ⟨same.symm, second⟩))
        · exact .inr (.inl (Prod.ext same (NameSet.eq_of_not_lt first second)))

theorem before_of_before_of_notAfter {a b c : Job} (first : a.Before b)
    (second : b.notAfter c = true) : a.Before c := by
  rcases notAfter_iff.mp second with later | same
  · exact before_trans first later
  · exact (before_congr rfl same).mp first

theorem notAfter_trans (a b c : Job) (first : a.notAfter b = true) (second : b.notAfter c = true) :
    a.notAfter c = true := by
  rcases notAfter_iff.mp first with before | same
  · exact notAfter_iff.mpr (.inl (before_of_before_of_notAfter before second))
  · rw [notAfter_iff] at second ⊢
    rcases second with before | alike
    · exact .inl ((before_congr same rfl).mpr before)
    · exact .inr (same.trans alike)

theorem notAfter_total (a b : Job) : (a.notAfter b || b.notAfter a) = true := by
  rw [Bool.or_eq_true, notAfter_iff, notAfter_iff]
  rcases before_or_slot_eq a b with before | same | after
  · exact .inl (.inl before)
  · exact .inl (.inr same)
  · exact .inr (.inl after)

/-! Collapsing -/

theorem collapseAfter_sublist (kept : Job) (rest : List Job) :
    (collapseAfter kept rest).Sublist (kept :: rest) := by
  induction rest generalizing kept with
  | nil => exact List.Sublist.refl [kept]
  | cons job rest ih =>
    unfold collapseAfter
    split
    · exact (ih kept).trans ((List.sublist_cons_self job rest).cons_cons kept)
    · exact (ih job).cons_cons kept

theorem collapseAfter_ascending {kept : Job} {rest : List Job}
    (first : ∀ job ∈ rest, kept.notAfter job = true)
    (sorted : rest.Pairwise fun a b => a.notAfter b = true) :
    (collapseAfter kept rest).Pairwise Before := by
  induction rest generalizing kept with
  | nil => exact List.pairwise_singleton Before kept
  | cons job rest ih =>
    obtain ⟨next, tail⟩ := List.pairwise_cons.mp sorted
    unfold collapseAfter
    split
    · exact ih (fun later member => first later (List.mem_cons_of_mem job member)) tail
    · rename_i differs
      have before : kept.Before job := by
        rcases notAfter_iff.mp (first job List.mem_cons_self) with before | same
        · exact before
        · exact absurd same.symm differs
      apply List.pairwise_cons.mpr
      constructor
      · intro later member
        rcases List.mem_cons.mp ((collapseAfter_sublist job rest).subset member) with rfl | inside
        · exact before
        · exact before_of_before_of_notAfter before (next later inside)
      · exact ih next tail

theorem slot_mem_collapseAfter {kept : Job} {rest : List Job} {slot : String × String} :
    slot ∈ (collapseAfter kept rest).map Job.slot ↔ slot ∈ (kept :: rest).map Job.slot := by
  induction rest generalizing kept with
  | nil => rfl
  | cons job rest ih =>
    unfold collapseAfter
    split
    · rename_i same
      rw [ih]
      simp [same]
    · rw [List.map_cons, List.mem_cons, ih]
      simp

theorem collapse_sublist (jobs : List Job) : (collapse jobs).Sublist jobs := by
  cases jobs with
  | nil => exact List.Sublist.refl []
  | cons job rest => exact collapseAfter_sublist job rest

theorem collapse_ascending {jobs : List Job}
    (sorted : jobs.Pairwise fun a b => a.notAfter b = true) : (collapse jobs).Pairwise Before := by
  cases jobs with
  | nil => exact List.Pairwise.nil
  | cons job rest =>
    obtain ⟨first, tail⟩ := List.pairwise_cons.mp sorted
    exact collapseAfter_ascending first tail

theorem slot_mem_collapse {jobs : List Job} {slot : String × String} :
    slot ∈ (collapse jobs).map Job.slot ↔ slot ∈ jobs.map Job.slot := by
  cases jobs with
  | nil => rfl
  | cons job rest => exact slot_mem_collapseAfter

theorem nodup_slots_of_ascending {jobs : List Job} (ascending : jobs.Pairwise Before) :
    (jobs.map Job.slot).Nodup := by
  apply List.pairwise_map.mpr
  apply ascending.imp
  intro a b before same
  exact before_irrefl a ((before_congr rfl same).mpr before)

end Job

namespace Ledger

variable {ledger : Ledger}

theorem plan_ascending : ledger.plan.jobs.Pairwise Job.Before :=
  Job.collapse_ascending (List.pairwise_mergeSort Job.notAfter_trans Job.notAfter_total ledger.jobs)

theorem plan_jobs_subset {job : Job} (member : job ∈ ledger.plan.jobs) : job ∈ ledger.jobs :=
  (List.mergeSort_perm ledger.jobs Job.notAfter).mem_iff.mp
    ((Job.collapse_sublist _).subset member)

theorem slot_mem_plan {slot : String × String} :
    slot ∈ ledger.plan.jobs.map Job.slot ↔ slot ∈ ledger.jobs.map Job.slot :=
  Job.slot_mem_collapse.trans
    ((List.mergeSort_perm ledger.jobs Job.notAfter).map Job.slot).mem_iff

/-- How many jobs take a slot that is taken already. -/
def surplus (jobs : List Job) : Nat :=
  ∑ slot ∈ (jobs.map Job.slot).toFinset, (jobs.countP (fun job => job.slot = slot) - 1)

theorem sum_countP_slot (jobs : List Job) :
    ∑ slot ∈ (jobs.map Job.slot).toFinset, jobs.countP (fun job => job.slot = slot) =
      jobs.length := by
  have total := List.sum_toFinset_count_eq_length (jobs.map Job.slot)
  rw [List.length_map] at total
  rw [← total]
  apply Finset.sum_congr rfl
  intro slot _
  exact (List.countP_map (p := fun other => decide (other = slot)) (f := Job.slot)).symm

theorem surplus_eq_length_sub (jobs : List Job) :
    surplus jobs = jobs.length - (jobs.map Job.slot).toFinset.card := by
  have taken : ∀ slot ∈ (jobs.map Job.slot).toFinset,
      1 ≤ jobs.countP (fun job => job.slot = slot) := by
    intro slot member
    obtain ⟨job, among, same⟩ := List.mem_map.mp (List.mem_toFinset.mp member)
    exact List.countP_pos_iff.mpr ⟨job, among, decide_eq_true same⟩
  rw [surplus, Finset.sum_tsub_distrib _ taken, sum_countP_slot, Finset.card_eq_sum_ones]

theorem surplus_of_nodup {jobs : List Job} (distinct : (jobs.map Job.slot).Nodup) :
    surplus jobs = 0 := by
  rw [surplus_eq_length_sub, List.toFinset_card_of_nodup distinct, List.length_map, Nat.sub_self]

theorem plan_length : ledger.plan.jobs.length = (ledger.jobs.map Job.slot).toFinset.card := by
  have ascending : ledger.plan.jobs.Pairwise Job.Before := plan_ascending
  have distinct := Job.nodup_slots_of_ascending ascending
  have same : (ledger.plan.jobs.map Job.slot).toFinset = (ledger.jobs.map Job.slot).toFinset := by
    ext slot
    rw [List.mem_toFinset, List.mem_toFinset, slot_mem_plan]
  rw [← same, List.toFinset_card_of_nodup distinct, List.length_map]

theorem plan_collapsed : ledger.plan.collapsed = surplus ledger.jobs := by
  rw [surplus_eq_length_sub, ← plan_length]
  exact congrArg (· - ledger.plan.jobs.length) (List.length_mergeSort ledger.jobs)

end Ledger

namespace Catalog

def resolvedJobs (catalog : Catalog) (repros : List Repro) : List Job :=
  repros.flatMap fun repro => (catalog.alone repro).1.jobs

variable {catalog : Catalog} {repros : List Repro}

theorem ofRepros_jobs : (Ledger.ofRepros catalog repros).jobs = catalog.resolvedJobs repros :=
  Ledger.foldl_enter_jobs Ledger.empty repros

/-- The slot of a job tells the job. -/
theorem eq_of_slot_eq {a b : Job} (left : a ∈ catalog.resolvedJobs repros)
    (right : b ∈ catalog.resolvedJobs repros) (same : a.slot = b.slot) : a = b := by
  obtain ⟨repro, _, member⟩ := List.mem_flatMap.mp left
  obtain ⟨other, _, among⟩ := List.mem_flatMap.mp right
  obtain ⟨names, labels⟩ := Prod.mk.inj same
  have owner := (mem_resolve_jobs.mp member).2.1
  have owner' := (mem_resolve_jobs.mp among).2.1
  rw [labels, owner', Option.some.injEq] at owner
  obtain ⟨_, _, _⟩ := a
  obtain ⟨_, _, _⟩ := b
  simp_all

theorem mem_plan_jobs {job : Job} :
    job ∈ (catalog.plan repros).jobs ↔ job ∈ catalog.resolvedJobs repros := by
  constructor
  · intro member
    exact ofRepros_jobs ▸ Ledger.plan_jobs_subset member
  · intro member
    have slot : job.slot ∈ (catalog.plan repros).jobs.map Job.slot := by
      rw [plan, Ledger.slot_mem_plan, ofRepros_jobs]
      exact List.mem_map_of_mem member
    obtain ⟨kept, among, same⟩ := List.mem_map.mp slot
    -- The job kept in this slot may have come from another repro; its platform is the same.
    have resolved : kept ∈ catalog.resolvedJobs repros :=
      ofRepros_jobs ▸ Ledger.plan_jobs_subset among
    exact eq_of_slot_eq resolved member same ▸ among

theorem nodup_slots_of_nodup_names (distinct : (repros.map Repro.name).Nodup) :
    ((catalog.resolvedJobs repros).map Job.slot).Nodup := by
  rw [resolvedJobs, List.map_flatMap, List.nodup_flatMap]
  constructor
  · intro repro _
    have ascending : (catalog.resolve repro).outcome.jobs.Pairwise
        fun a b => a.label < b.label := by
      rw [resolve_jobs]
      exact jobsOn_ascending repro.name _
    apply List.pairwise_map.mpr
    apply ascending.imp
    intro a b below same
    rw [(Prod.mk.inj same).2] at below
    exact String.lt_irrefl _ below
  · apply (List.pairwise_map.mp distinct).imp
    intro a b differ slot left right
    apply differ
    obtain ⟨job, member, rfl⟩ := List.mem_map.mp left
    obtain ⟨other, among, same⟩ := List.mem_map.mp right
    have name : job.repro = a.name := (mem_resolve_jobs.mp member).2.2
    have name' : other.repro = b.name := (mem_resolve_jobs.mp among).2.2
    rw [← name, ← name']
    exact (Prod.mk.inj same).1.symm

theorem plan_skips (catalog : Catalog) (repros : List Repro) :
    (catalog.plan repros).findings.skips =
      repros.filterMap fun repro => (catalog.resolve repro).outcome.skip? :=
  Ledger.foldl_enter_skips Ledger.empty repros

/-- What is unknown to a plan, its platforms or its labels, is unknown to one of its resolutions. -/
theorem mem_plan_side (side : Unknowns → NameSet) (none : side Unknowns.none = ∅)
    (union : ∀ a b, side (a ∪ b) = side a ∪ side b) (name : String) :
    name ∈ side (catalog.plan repros).findings.unknown ↔
      ∃ repro ∈ repros, name ∈ side (catalog.resolve repro).unknown := by
  have empty : name ∉ side Ledger.empty.findings.unknown :=
    fun inside => NameSet.not_mem_empty name (none ▸ inside)
  have all := @Ledger.mem_foldl_enter_unknown catalog side union Ledger.empty repros name
  rw [or_iff_right empty] at all
  exact all

/-- A plan holds what its repros come to when each is resolved alone, in the order of the bytes of
repro and label. -/
theorem plan_collects_resolutions (catalog : Catalog) (repros : List Repro) :
    ((catalog.plan repros).jobs.Pairwise fun a b => Text.bytes a.repro < Text.bytes b.repro ∨
      a.repro = b.repro ∧ Text.bytes a.label < Text.bytes b.label) ∧
    (∀ job, job ∈ (catalog.plan repros).jobs ↔
      ∃ repro ∈ repros, job ∈ (catalog.alone repro).1.jobs) ∧
    (catalog.plan repros).collapsed =
      ∑ slot ∈ ((catalog.resolvedJobs repros).map Job.slot).toFinset,
        ((catalog.resolvedJobs repros).countP (fun job => job.slot = slot) - 1) ∧
    ((repros.map Repro.name).Nodup → (catalog.plan repros).collapsed = 0) ∧
    (catalog.plan repros).findings.skips =
      repros.filterMap (fun repro => (catalog.alone repro).1.skip?) ∧
    (∀ name, name ∈ (catalog.plan repros).findings.unknown.platforms ↔
      ∃ repro ∈ repros, name ∈ (catalog.alone repro).2.findings.unknown.platforms) ∧
    ∀ name, name ∈ (catalog.plan repros).findings.unknown.labels ↔
      ∃ repro ∈ repros, name ∈ (catalog.alone repro).2.findings.unknown.labels := by
  have collapsed : (catalog.plan repros).collapsed =
      Ledger.surplus (catalog.resolvedJobs repros) := by
    rw [plan, Ledger.plan_collapsed, ofRepros_jobs]
  refine ⟨?ascending, fun job => mem_plan_jobs.trans List.mem_flatMap, collapsed, ?distinct,
    Ledger.foldl_enter_skips Ledger.empty repros,
    mem_plan_side Unknowns.platforms rfl fun _ _ => rfl,
    mem_plan_side Unknowns.labels rfl fun _ _ => rfl⟩
  case ascending =>
    apply Ledger.plan_ascending.imp
    intro a b before
    rw [Text.bytes_lt_iff, Text.bytes_lt_iff]
    exact before
  case distinct =>
    intro distinct
    rw [collapsed, Ledger.surplus_of_nodup (nodup_slots_of_nodup_names distinct)]

theorem plan_of_two_names :
    ([Repro.mk "p" ∅ Limits.none, Repro.mk "q" ∅ Limits.none].map Repro.name).Nodup ∧
    ((ofDeclarations [("linux", ["a", "b"])]).plan
      [Repro.mk "p" ∅ Limits.none, Repro.mk "q" ∅ Limits.none]).collapsed = 0 := by
  have distinct :
      ([Repro.mk "p" ∅ Limits.none, Repro.mk "q" ∅ Limits.none].map Repro.name).Nodup := by decide
  exact ⟨distinct, (plan_collects_resolutions _ _).2.2.2.1 distinct⟩

end Catalog
end JobMatrix
