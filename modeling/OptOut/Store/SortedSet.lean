import OptOut.Event
import OptOut.Score

/-!
# Sorted sets

A finite map from members to scores, held as its entries in ascending order of score, members of
equal score in alphabetical order.
-/

namespace OptOut

structure ScoredMember where
    score : Score
    member : Sender
deriving DecidableEq, Repr

def ScoredMember.Before (first second : ScoredMember) : Prop :=
  first.score.rank < second.score.rank ∨
    first.score.rank = second.score.rank ∧ first.member < second.member

instance (first second : ScoredMember) : Decidable (first.Before second) :=
  inferInstanceAs (Decidable (_ ∨ _))

namespace ScoredMember

theorem Before.trans {first second third : ScoredMember} (earlier : first.Before second)
    (later : second.Before third) : first.Before third := by
  rcases earlier with earlier | ⟨same, earlier⟩ <;> rcases later with later | ⟨alike, later⟩
  · exact .inl (by omega)
  · exact .inl (by omega)
  · exact .inl (by omega)
  · exact .inr ⟨by omega, String.lt_trans earlier later⟩

theorem before_of_not {first second : ScoredMember} (distinct : first.member ≠ second.member)
    (not : ¬first.Before second) : second.Before first := by
  by_cases ranks : first.score.rank = second.score.rank
  · refine .inr ⟨ranks.symm, ?_⟩
    rcases Std.lt_trichotomy first.member second.member with less | same | more
    · exact absurd (.inr ⟨ranks, less⟩) not
    · exact absurd same distinct
    · exact more
  · by_cases less : first.score.rank < second.score.rank
    · exact absurd (.inl less) not
    · exact .inl (by omega)

/-- Puts an entry in its place among entries in ascending order. -/
def place (entry : ScoredMember) : List ScoredMember → List ScoredMember
  | [] => [entry]
  | first :: rest =>
    if entry.Before first then entry :: first :: rest else first :: place entry rest

theorem place_perm (entry : ScoredMember) (entries : List ScoredMember) :
    (place entry entries).Perm (entry :: entries) := by
  induction entries with
  | nil => exact .refl _
  | cons first rest induction =>
      simp only [place]
      split
      · exact .refl _
      · exact (induction.cons first).trans (.swap entry first rest)

theorem place_ascending {entry : ScoredMember} {entries : List ScoredMember}
    (ascending : entries.Pairwise Before)
    (fresh : ∀ other ∈ entries, entry.member ≠ other.member) :
    (place entry entries).Pairwise Before := by
  induction entries with
  | nil => simp [place]
  | cons first rest induction =>
      have beyond := (List.pairwise_cons.1 ascending).1
      simp only [place]
      split
      next before =>
        refine ascending.cons fun other held => ?_
        rcases List.mem_cons.1 held with rfl | held
        · exact before
        · exact before.trans (beyond other held)
      next not =>
        have later := before_of_not (fresh first (by simp)) not
        refine (induction ascending.of_cons fun other held => fresh other (by simp [held])).cons ?_
        intro other held
        rcases List.mem_cons.1 ((place_perm entry rest).mem_iff.1 held) with rfl | held
        · exact later
        · exact beyond other held

end ScoredMember

structure SortedSet where
    entries : List ScoredMember
    ascending : entries.Pairwise ScoredMember.Before
    distinct : (entries.map ScoredMember.member).Nodup

namespace SortedSet

def empty : SortedSet :=
  ⟨[], .nil, .nil⟩

def size (set : SortedSet) : Nat :=
  set.entries.length

/-- The members in ascending order. -/
def members (set : SortedSet) : List Sender :=
  set.entries.map ScoredMember.member

def score? (set : SortedSet) (member : Sender) : Option Score :=
  (set.entries.find? (·.member = member)).map ScoredMember.score

/-- The part of a set that keeps the order of its entries. -/
def restrict (set : SortedSet) (entries : List ScoredMember)
    (kept : entries.Sublist set.entries) : SortedSet :=
  ⟨entries, set.ascending.sublist kept, set.distinct.sublist (kept.map _)⟩

def erase (set : SortedSet) (member : Sender) : SortedSet :=
  set.restrict (set.entries.filter (·.member ≠ member)) List.filter_sublist

theorem fresh_in_erase (set : SortedSet) (member : Sender) :
    ∀ other ∈ (set.erase member).entries, member ≠ other.member := by
  intro other held
  have kept := (List.mem_filter.1 held).2
  simp only [ne_eq, decide_not, Bool.not_eq_true', decide_eq_false_iff_not] at kept
  exact fun same => kept same.symm

/-- Gives a member a score, whether or not it had one. -/
def insert (set : SortedSet) (score : Score) (member : Sender) : SortedSet :=
  let entry : ScoredMember := ⟨score, member⟩
  { entries := entry.place (set.erase member).entries
    ascending := ScoredMember.place_ascending (set.erase member).ascending
      (set.fresh_in_erase member)
    distinct := by
      have perm := (ScoredMember.place_perm entry (set.erase member).entries).map
        ScoredMember.member
      refine perm.nodup_iff.2 (List.nodup_cons.2 ⟨?_, (set.erase member).distinct⟩)
      intro held
      obtain ⟨other, held, same⟩ := List.mem_map.1 held
      exact set.fresh_in_erase member other held same.symm }

/-- The members at positions `first` to `last`, counted from the highest score down. -/
def descending (set : SortedSet) (first last : Nat) : List Sender :=
  (set.members.reverse.take (last + 1)).drop first

/-- The set without the members at positions `first` to `last`, counted from the lowest score up. -/
def eraseRange (set : SortedSet) (first last : Nat) : SortedSet :=
  set.restrict (set.entries.take first ++ set.entries.drop (max first (last + 1))) (by
    have kept : (set.entries.drop (max first (last + 1))).Sublist (set.entries.drop first) :=
      List.drop_sublist_drop_left _ (Nat.le_max_left _ _)
    simpa using (List.Sublist.refl (set.entries.take first)).append kept)

end SortedSet

end OptOut
