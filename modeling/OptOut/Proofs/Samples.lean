import Mathlib.Algebra.BigOperators.Group.Finset.Piecewise
import Mathlib.Algebra.GroupWithZero.Nat
import OptOut.Metrics

/-!
# What the metrics show

The samples of a metric by its name, as a collector gets them. Of a counter under labels, each label
that was counted has one sample, and the others have none.
-/

namespace OptOut

namespace Counters

variable (counters : Counters)

theorem getD_add (label other : String) (amount : UInt64) :
    (counters.add label amount).getD other 0 =
      if other = label then counters.getD label 0 + amount else counters.getD other 0 := by
  rw [add, Std.TreeMap.getD_insert]
  by_cases own : other = label
  · rw [own]
    simp
  · simp [own, Ne.symm own]

theorem mem_add {label other : String} {amount : UInt64} :
    other ∈ counters.add label amount ↔ other = label ∨ other ∈ counters := by
  rw [add, Std.TreeMap.mem_insert, Std.LawfulEqCmp.compare_eq_iff_eq, eq_comm]

theorem to_list_eq :
    counters.toList = counters.keys.map fun label => (label, counters.getD label 0) := by
  rw [← Std.TreeMap.map_fst_toList_eq_keys, List.map_map]
  refine (List.map_id _).symm.trans (List.map_congr_left fun ⟨label, count⟩ held => ?_)
  have counted : counters[label]? = some count :=
    Std.TreeMap.mem_toList_iff_getElem?_eq_some.1 held
  rw [Function.comp_apply, Std.TreeMap.getD_eq_getD_getElem?, counted]
  rfl

/-- What is summed up over the entries may as well be summed up over any labels that contain
theirs. -/
theorem sum_to_list (weigh : String → UInt64 → Nat) (nothing : ∀ label, weigh label 0 = 0)
    {labels : Finset String} (all : ∀ label ∈ counters, label ∈ labels) :
    (counters.toList.map fun (label, count) => weigh label count).sum =
      ∑ label ∈ labels, weigh label (counters.getD label 0) := by
  have distinct : counters.keys.Nodup := by
    refine Std.TreeMap.distinct_keys.imp fun apart same => apart ?_
    exact Std.LawfulEqCmp.compare_eq_iff_eq.2 same
  have among : counters.keys.toFinset ⊆ labels := by
    intro label held
    exact all label (Std.TreeMap.mem_keys.1 (List.mem_toFinset.1 held))
  rw [to_list_eq, List.map_map, ← Finset.sum_subset among, List.sum_toFinset _ distinct]
  · rfl
  · intro label _ absent
    have none : label ∉ counters := fun held =>
      absent (List.mem_toFinset.2 (Std.TreeMap.mem_keys.2 held))
    rw [Std.TreeMap.getD_eq_fallback none, nothing]

end Counters

namespace Metrics

variable (metrics : Metrics)

def samplesOf (name : String) : List Sample :=
  (metrics.families.filter (·.name = name)).flatMap Family.samples

def total (name : String) : Nat :=
  ((metrics.samplesOf name).map Sample.value).sum

/-- What a metric shows for a label, or without one. It shows nothing for a label that was never
counted. -/
def shown (name : String) (label : Option String) : Nat :=
  (((metrics.samplesOf name).filter fun sample => sample.label.map Prod.snd = label).map
    Sample.value).sum

theorem samples_of_decisions :
    metrics.samplesOf "vg_policy_decisions_total" = labelled "action" metrics.decisions :=
  List.append_nil _

theorem samples_of_failures :
    metrics.samplesOf "vg_store_failures_total" = labelled "operation" metrics.storeFailures :=
  List.append_nil _

theorem samples_of_requests :
    metrics.samplesOf "vg_vanish_requests_total" = labelled "target" metrics.vanishRequests :=
  List.append_nil _

theorem sum_labelled (kind : String) (counters : Counters) (label : String) :
    (((labelled kind counters).filter fun sample => sample.label.map Prod.snd = some label).map
      Sample.value).sum = (counters.getD label 0).toNat := by
  have weighed : (((labelled kind counters).filter fun sample =>
      sample.label.map Prod.snd = some label).map Sample.value).sum =
        (counters.toList.map fun (other, count) =>
          if other = label then count.toNat else 0).sum := by
    rw [labelled]
    induction counters.toList with
    | nil => rfl
    | cons entry rest induction =>
        obtain ⟨other, count⟩ := entry
        rw [List.map_cons, List.filter_cons, List.map_cons, List.sum_cons, ← induction]
        by_cases own : other = label <;> simp [own]
  have all : ∀ other ∈ counters, other ∈ insert label counters.keys.toFinset := by
    intro other held
    exact Finset.mem_insert_of_mem (List.mem_toFinset.2 (Std.TreeMap.mem_keys.2 held))
  rw [weighed, counters.sum_to_list (fun other count => if other = label then count.toNat else 0)
    (fun other => by simp) all, Finset.sum_ite_eq', if_pos (Finset.mem_insert_self _ _)]

theorem shown_decisions (action : String) :
    metrics.shown "vg_policy_decisions_total" (some action) =
      (metrics.decisions.getD action 0).toNat := by
  rw [shown, samples_of_decisions, sum_labelled]

theorem shown_failures (operation : String) :
    metrics.shown "vg_store_failures_total" (some operation) =
      (metrics.storeFailures.getD operation 0).toNat := by
  rw [shown, samples_of_failures, sum_labelled]

theorem shown_requests (target : String) :
    metrics.shown "vg_vanish_requests_total" (some target) =
      (metrics.vanishRequests.getD target 0).toNat := by
  rw [shown, samples_of_requests, sum_labelled]

theorem shown_malformed_lines :
    metrics.shown "vg_policy_malformed_lines_total" none = metrics.malformedLines.toNat :=
  rfl

theorem shown_members : metrics.shown "vg_vanish_cache_members" none = metrics.members :=
  rfl

theorem total_requests {labels : Finset String} (all : ∀ label ∈ metrics.vanishRequests,
    label ∈ labels) :
    metrics.total "vg_vanish_requests_total" =
      ∑ label ∈ labels, (metrics.vanishRequests.getD label 0).toNat := by
  rw [total, samples_of_requests, labelled, List.map_map]
  exact metrics.vanishRequests.sum_to_list (fun _ count => count.toNat) (fun _ => rfl) all

end Metrics

end OptOut
