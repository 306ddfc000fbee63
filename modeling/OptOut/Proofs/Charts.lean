import Mathlib.Data.Finmap
import OptOut.Proofs.Footprint

/-!
# Sorted sets as finite maps

A sorted set means a chart, a finite map from members to scores. What a call does to it and answers
is said of the chart alone: the order in which members are listed, and so their ranks, follow from
the chart.
-/

namespace OptOut

/-! ## Ranges -/

/-- The elements of a list at the positions between two ranks inclusive. -/
def between {α : Type} (start stop : Int64) (elements : List α) : List α :=
  (elements.zipIdx.filter fun (_, position) =>
    positionOf elements.length start ≤ position ∧
      (position : Int) ≤ positionOf elements.length stop).map Prod.fst

/-- The elements at the positions from the first to the last, counted on from `offset`. -/
theorem filter_zip_idx {α : Type} (elements : List α) (offset first last : Nat) :
    ((elements.zipIdx offset).filter fun (_, position) =>
        first ≤ position ∧ position ≤ last).map Prod.fst =
      (elements.take (last + 1 - offset)).drop (first - offset) := by
  induction elements generalizing offset with
  | nil => simp
  | cons element rest induction =>
      rw [List.zipIdx_cons, List.filter_cons]
      by_cases before : offset < first
      · have skipped : first - offset = first - (offset + 1) + 1 := by
          omega
        have outside : ¬(first ≤ offset ∧ offset ≤ last) := by
          omega
        rw [if_neg (by simpa using outside), induction, skipped]
        by_cases within : offset ≤ last
        · have taken : last + 1 - offset = last + 1 - (offset + 1) + 1 := by
            omega
          rw [taken, List.take_succ_cons, List.drop_succ_cons]
        · have none : last + 1 - offset = 0 ∧ last + 1 - (offset + 1) = 0 := by
            omega
          rw [none.1, none.2]
          simp
      · have started : first - offset = 0 ∧ first - (offset + 1) = 0 := by
          omega
        by_cases within : offset ≤ last
        · have taken : last + 1 - offset = last + 1 - (offset + 1) + 1 := by
            omega
          have inside : first ≤ offset ∧ offset ≤ last := by
            omega
          rw [if_pos (by simpa using inside), List.map_cons, induction, started.1, started.2, taken,
            List.take_succ_cons]
          rfl
        · have none : last + 1 - offset = 0 ∧ last + 1 - (offset + 1) = 0 := by
            omega
          have outside : ¬(first ≤ offset ∧ offset ≤ last) := by
            omega
          rw [if_neg (by simpa using outside), induction, none.1, none.2]
          simp

/-- The positions that two ranks select in a list that a rank can count. -/
theorem between_eq {α : Type} {elements : List α} (fits : elements.length < rankCount)
    (start stop : Int64) :
    between start stop elements = match rankSpan elements.length start stop with
      | some (first, last) => (elements.take (last + 1)).drop first
      | none => [] := by
  have span := rank_span_eq fits start stop
  dsimp only at span
  have position : ∀ element ∈ elements.zipIdx, element.2 < elements.length := fun element held =>
    (List.mem_zipIdx' held).1
  by_cases any : max (positionOf elements.length start) 0 ≤
      min (positionOf elements.length stop) (elements.length - 1)
  · rw [if_pos any] at span
    rw [span, between]
    dsimp only
    rw [← Nat.sub_zero (Int.toNat _ + 1), ← Nat.sub_zero (Int.toNat (max _ 0)), ← filter_zip_idx]
    refine congrArg (List.map Prod.fst) (List.filter_congr fun element held => ?_)
    have within := position element held
    rw [decide_eq_decide]
    omega
  · rw [if_neg any] at span
    rw [span, between, List.map_eq_nil_iff, List.filter_eq_nil_iff]
    intro element held
    have within := position element held
    simp only [decide_eq_true_eq]
    omega

theorem rank_span_bounds {length : Nat} (fits : length < rankCount) {start stop : Int64}
    {first last : Nat} (span : rankSpan length start stop = some (first, last)) :
    first ≤ last ∧ last < length := by
  rw [rank_span_eq fits] at span
  split at span
  · obtain ⟨rfl, rfl⟩ := Prod.mk.inj (Option.some.inj span)
    omega
  · exact nomatch span

theorem between_map {α β : Type} (convert : α → β) (start stop : Int64) (elements : List α) :
    between start stop (elements.map convert) = (between start stop elements).map convert := by
  simp only [between, List.length_map, List.zipIdx_map, List.filter_map, List.map_map]
  rfl

theorem between_sublist {α : Type} (start stop : Int64) (elements : List α) :
    (between start stop elements).Sublist elements := by
  have kept : (between start stop elements).Sublist (elements.zipIdx.map Prod.fst) :=
    List.filter_sublist.map _
  rwa [List.zipIdx_map_fst] at kept

theorem ScoredMember.not_before_self (entry : ScoredMember) : ¬entry.Before entry := by
  rintro (less | ⟨_, less⟩)
  · exact Nat.lt_irrefl _ less
  · exact String.lt_irrefl _ less

/-! ## Charts -/

abbrev Chart := Finmap fun _ : Sender => Score

namespace Chart

structure Lists (chart : Chart) (entries : List ScoredMember) : Prop where
    ascending : entries.Pairwise ScoredMember.Before
    complete : ∀ entry, entry ∈ entries ↔ chart.lookup entry.member = some entry.score

variable {chart : Chart} {entries others : List ScoredMember}

theorem Lists.nodup (lists : chart.Lists entries) : entries.Nodup := by
  refine lists.ascending.imp ?_
  rintro entry _ before rfl
  exact entry.not_before_self before

/-- There is one way to list a chart. -/
theorem Lists.unique (lists : chart.Lists entries) (also : chart.Lists others) :
    entries = others := by
  have perm : entries.Perm others :=
    (List.perm_ext_iff_of_nodup lists.nodup also.nodup).2 fun entry =>
      (lists.complete entry).trans (also.complete entry).symm
  refine perm.eq_of_pairwise (fun first second _ _ before after => ?_) lists.ascending also.ascending
  exact absurd (before.trans after) first.not_before_self

/-- Each member is listed once. -/
theorem Lists.distinct (lists : chart.Lists entries) :
    (entries.map ScoredMember.member).Nodup := by
  refine lists.nodup.map_on fun first held second also same => ?_
  obtain ⟨score, member⟩ := first
  obtain ⟨other, _⟩ := second
  obtain rfl : member = _ := same
  have scores := (lists.complete _).1 held
  rw [(lists.complete _).1 also] at scores
  have score : other = score := Option.some.inj scores
  rw [score]

theorem Lists.mem_keys (lists : chart.Lists entries) {member : Sender} :
    member ∈ chart.keys ↔ member ∈ entries.map ScoredMember.member := by
  rw [Finmap.mem_keys, Finmap.mem_iff, List.mem_map]
  constructor
  · rintro ⟨score, held⟩
    exact ⟨⟨score, member⟩, (lists.complete _).2 held, rfl⟩
  · rintro ⟨entry, held, rfl⟩
    exact ⟨entry.score, (lists.complete entry).1 held⟩

theorem Lists.card (lists : chart.Lists entries) : chart.keys.card = entries.length := by
  have keys : chart.keys = (entries.map ScoredMember.member).toFinset := by
    ext member
    rw [lists.mem_keys, List.mem_toFinset]
  rw [keys, List.toFinset_card_of_nodup lists.distinct, List.length_map]

def without (chart : Chart) (members : List Sender) : Chart :=
  members.foldl (fun chart member => chart.erase member) chart

theorem lookup_without (chart : Chart) (members : List Sender) (member : Sender) :
    (chart.without members).lookup member =
      if member ∈ members then none else chart.lookup member := by
  induction members generalizing chart with
  | nil => rfl
  | cons first rest induction =>
      rw [without, List.foldl_cons, ← without, induction]
      by_cases own : member = first
      · rw [own, Finmap.lookup_erase]
        simp
      · rw [Finmap.lookup_erase_ne own]
        simp [own]

end Chart

/-! ## Sorted sets as charts -/

namespace SortedSet

variable (set : SortedSet)

def chart : Chart :=
  (set.entries.map fun entry => (⟨entry.member, entry.score⟩ : Sigma fun _ : Sender => Score)).toFinmap

theorem lookup_chart {score : Score} {member : Sender} :
    set.chart.lookup member = some score ↔ ⟨score, member⟩ ∈ set.entries := by
  have keys : (set.entries.map fun entry =>
      (⟨entry.member, entry.score⟩ : Sigma fun _ : Sender => Score)).NodupKeys := by
    rw [List.NodupKeys, List.keys, List.map_map]
    exact set.distinct
  rw [chart, Finmap.dlookup_list_toFinmap, ← Option.mem_def, List.mem_dlookup_iff keys, List.mem_map]
  constructor
  · rintro ⟨entry, held, same⟩
    cases same
    exact held
  · intro held
    exact ⟨_, held, rfl⟩

theorem chart_lists : set.chart.Lists set.entries :=
  ⟨set.ascending, fun _ => set.lookup_chart.symm⟩

theorem score_eq_lookup (member : Sender) : set.score? member = set.chart.lookup member := by
  cases found : set.entries.find? (·.member = member) with
  | some entry =>
      obtain rfl : entry.member = member := by simpa using List.find?_some found
      rw [score?, found, Option.map_some]
      exact (set.lookup_chart.2 (List.mem_of_find?_eq_some found)).symm
  | none =>
      rw [score?, found, Option.map_none, eq_comm, Option.eq_none_iff_forall_ne_some]
      intro score scored
      have missed := List.find?_eq_none.1 found _ (set.lookup_chart.1 scored)
      simp at missed

theorem mem_entries_insert {score : Score} {member : Sender} {entry : ScoredMember} :
    entry ∈ (set.insert score member).entries ↔
      entry = ⟨score, member⟩ ∨ entry ∈ set.entries ∧ entry.member ≠ member := by
  have perm := ScoredMember.place_perm ⟨score, member⟩ (set.erase member).entries
  rw [insert, perm.mem_iff, List.mem_cons, erase, restrict, List.mem_filter, decide_eq_true_iff]

theorem chart_insert (score : Score) (member : Sender) :
    (set.insert score member).chart = set.chart.insert member score := by
  refine Finmap.ext_lookup fun other => Option.ext fun value => ?_
  rw [lookup_chart, mem_entries_insert]
  by_cases own : other = member
  · rw [own, Finmap.lookup_insert]
    simp [eq_comm]
  · rw [Finmap.lookup_insert_of_ne _ own, lookup_chart]
    simp [own]

theorem chart_erase (member : Sender) : (set.erase member).chart = set.chart.erase member := by
  refine Finmap.ext_lookup fun other => Option.ext fun value => ?_
  rw [lookup_chart, erase, restrict, List.mem_filter, decide_eq_true_iff]
  by_cases own : other = member
  · rw [own, Finmap.lookup_erase]
    simp
  · rw [Finmap.lookup_erase_ne own, lookup_chart]
    simp [own]

/-- The entries of a range and those that are left without it. -/
theorem perm_erase_range {start stop : Int64} (fits : set.size < rankCount) {first last : Nat}
    (span : rankSpan set.size start stop = some (first, last)) :
    set.entries.Perm (between start stop set.entries ++ (set.eraseRange first last).entries) := by
  obtain ⟨ordered, _⟩ := rank_span_bounds fits span
  have range : between start stop set.entries = (set.entries.take (last + 1)).drop first := by
    rw [between_eq fits, ← size, span]
  have left : (set.eraseRange first last).entries =
      set.entries.take first ++ set.entries.drop (last + 1) :=
    congrArg (fun position => set.entries.take first ++ set.entries.drop position)
      (Nat.max_eq_right (by omega))
  have front : set.entries.take first = (set.entries.take (last + 1)).take first := by
    rw [List.take_take, Nat.min_eq_left (by omega)]
  have all : set.entries = set.entries.take first ++
      (between start stop set.entries ++ set.entries.drop (last + 1)) := by
    rw [range, ← List.append_assoc, front, List.take_append_drop, List.take_append_drop]
  rw [left]
  exact (List.Perm.of_eq all).trans (List.perm_append_comm_assoc _ _ _)

/-- A sorted set is determined by what it means. -/
theorem eq_of_chart {other : SortedSet} (same : set.chart = other.chart) : set = other := by
  have entries : set.entries = other.entries :=
    set.chart_lists.unique (same ▸ other.chart_lists)
  cases set
  cases other
  simpa using entries

/-- What is left when the members of a range are erased. -/
theorem chart_erase_range {start stop : Int64} (fits : set.size < rankCount) {first last : Nat}
    (span : rankSpan set.size start stop = some (first, last)) :
    (set.eraseRange first last).chart = set.chart.without (between start stop set.members) := by
  have perm := set.perm_erase_range fits span
  have distinct := (perm.map ScoredMember.member).nodup_iff.1 set.distinct
  rw [List.map_append] at distinct
  refine Finmap.ext_lookup fun member => Option.ext fun score => ?_
  rw [lookup_chart, Chart.lookup_without, members, between_map]
  split
  · rename_i erased
    have gone : ⟨score, member⟩ ∉ (set.eraseRange first last).entries := fun left =>
      List.disjoint_of_nodup_append distinct erased (List.mem_map_of_mem left)
    simp [gone]
  · rename_i kept
    have outside : ⟨score, member⟩ ∉ between start stop set.entries := fun held =>
      kept (List.mem_map_of_mem held)
    rw [lookup_chart, perm.mem_iff, List.mem_append, or_iff_right outside]

end SortedSet

/-! ## Calls -/

inductive SetCall where
  | upsert (score : Score) (member : Sender)
  | remove (member : Sender)
  | trim (start stop : Int64)
  | range (start stop : Int64)
  | cardinality
deriving DecidableEq, Repr

inductive SetAnswer where
  | done
  | count (number : Nat)
  | members (listed : List Sender)
deriving DecidableEq, Repr

def SetCall.isUpsert : SetCall → Bool
  | upsert _ _ => true
  | _ => false

/-- What a call makes of a chart, and what it answers. Ranks count from the lowest entry up where
members are trimmed, and from the highest down where they are listed. -/
inductive Chart.Answered (chart : Chart) : SetCall → SetAnswer → Chart → Prop where
  | upsert (score : Score) (member : Sender) :
      chart.Answered (.upsert score member) .done (chart.insert member score)
  | remove (member : Sender) : chart.Answered (.remove member) .done (chart.erase member)
  | trim (start stop : Int64) {entries : List ScoredMember} (lists : chart.Lists entries) :
      chart.Answered (.trim start stop)
        (.count (between start stop (entries.map ScoredMember.member)).length)
        (chart.without (between start stop (entries.map ScoredMember.member)))
  | range (start stop : Int64) {entries : List ScoredMember} (lists : chart.Lists entries) :
      chart.Answered (.range start stop)
        (.members (between start stop (entries.map ScoredMember.member).reverse)) chart
  | cardinality : chart.Answered .cardinality (.count chart.keys.card) chart

namespace Chart

variable {chart rest : Chart} {call : SetCall} {answer : SetAnswer}

/-- A member that is put in again gets a new score, and nothing else changes. -/
theorem Answered.upserted {score : Score} {member : Sender}
    (answered : chart.Answered (.upsert score member) answer rest) (present : member ∈ chart) :
    rest.keys = chart.keys ∧ rest.lookup member = some score ∧
      ∀ other, other ≠ member → rest.lookup other = chart.lookup other := by
  cases answered
  refine ⟨?_, chart.lookup_insert, fun other apart => chart.lookup_insert_of_ne apart⟩
  ext other
  rw [Finmap.mem_keys, Finmap.mem_keys, Finmap.mem_insert, or_iff_right_of_imp]
  rintro rfl
  exact present

theorem keys_without (chart : Chart) (members : List Sender) :
    (chart.without members).keys = chart.keys \ members.toFinset := by
  ext member
  rw [Finset.mem_sdiff, List.mem_toFinset, Finmap.mem_keys, Finmap.mem_keys, ← Finmap.lookup_isSome,
    lookup_without, ← Finmap.lookup_isSome]
  split <;> simp_all

/-- A trim answers how many members it removes. -/
theorem Answered.trimmed {start stop : Int64} {count : Nat}
    (answered : chart.Answered (.trim start stop) (.count count) rest) :
    chart.keys.card = count + rest.keys.card := by
  cases answered with
  | @trim _ _ entries lists =>
      have removed := between_sublist start stop (entries.map ScoredMember.member)
      have among : (between start stop (entries.map ScoredMember.member)).toFinset ⊆ chart.keys := by
        intro member held
        exact lists.mem_keys.2 (removed.subset (List.mem_toFinset.1 held))
      have size := Finset.card_sdiff_add_card_eq_card among
      rw [List.toFinset_card_of_nodup (removed.nodup lists.distinct)] at size
      rw [keys_without, Nat.add_comm]
      exact size.symm

/-- A chart gets one member more at most, and that from an upsert only. -/
theorem Answered.card_le (answered : chart.Answered call answer rest) :
    rest.keys.card ≤ chart.keys.card + call.isUpsert.toNat := by
  cases answered with
  | upsert score member =>
      have keys : (chart.insert member score).keys = insert member chart.keys := by
        ext other
        rw [Finset.mem_insert, Finmap.mem_keys, Finmap.mem_keys, Finmap.mem_insert]
      rw [keys]
      exact Finset.card_insert_le _ _
  | remove member =>
      rw [Finmap.keys_erase]
      exact Finset.card_erase_le
  | trim start stop lists =>
      rw [keys_without]
      exact Finset.card_le_card Finset.sdiff_subset
  | range start stop lists => exact Nat.le_refl _
  | cardinality => exact Nat.le_refl _

theorem without_empty (members : List Sender) : (∅ : Chart).without members = ∅ := by
  refine Finmap.ext_lookup fun member => ?_
  rw [lookup_without, Finmap.lookup_empty, ite_self]

/-- Taking out a member that is not there changes nothing, and neither does any other call on an
empty chart but an upsert. -/
theorem Answered.idle (answered : chart.Answered call answer rest)
    (idle : (chart = ∅ ∧ call.isUpsert = false) ∨ ∃ member, call = .remove member ∧ member ∉ chart) :
    rest = chart := by
  cases answered with
  | upsert score member => simp [SetCall.isUpsert] at idle
  | remove member =>
      have absent : member ∉ chart := by
        rcases idle with ⟨rfl, _⟩ | ⟨other, same, absent⟩
        · exact Finmap.notMem_empty
        · obtain rfl := SetCall.remove.inj same
          exact absent
      refine Finmap.ext_lookup fun other => ?_
      by_cases own : other = member
      · rw [own, Finmap.lookup_erase, Finmap.lookup_eq_none.2 absent]
      · exact Finmap.lookup_erase_ne own
  | trim start stop lists =>
      obtain rfl : chart = ∅ := by simpa [SetCall.isUpsert] using idle
      exact without_empty _
  | range start stop lists => rfl
  | cardinality => rfl

end Chart

end OptOut
