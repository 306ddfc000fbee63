import OptOut.Proofs.Text.Normal
import OptOut.Scope

/-!
# Whom an event is addressed to

An event is addressed to the names that its address tags carry in second place, in normal form.
Nothing else of the event enters into its target on a relay, and of these names only whether the
relay's own and the one that stands for all relays are among them. A name in normal form stays as
it is when it is normalized again, so a relay is reached under its name as it was configured and
under the one in its scope alike.
-/

namespace OptOut

def Event.Addresses (event : Event) (name : String) : Prop :=
  ∃ tag ∈ event.tags, ∃ first second further, tag.elements = first :: second :: further ∧
    Text.normalize first = addressTag ∧ Text.normalize second = name

def Tag.isAddress (tag : Tag) : Bool :=
  tag.hasName addressTag && tag.value.isSome

/-- A tag without the elements that mean nothing. -/
def Tag.shortened (tag : Tag) : Tag :=
  ⟨tag.elements.take 2⟩

/-- How far a target reaches: nowhere, to this relay, or to all relays. -/
def Target.reach : Option Target → Nat
  | none => 0
  | some (.relay _) => 1
  | some .everyRelay => 2

/-- A tag with a name and a value. -/
theorem Tag.valued_iff {tag : Tag} {name value : String} :
    tag.hasName name = true ∧ tag.value = some value ↔ ∃ first further,
      tag.elements = first :: value :: further ∧ Text.normalize first = name := by
  obtain ⟨elements⟩ := tag
  match elements with
  | [] | [_] => simp [Tag.value]
  | first :: second :: further =>
    simp only [hasName, Tag.name, Tag.value, List.getElem?_cons_zero, List.getElem?_cons_succ,
      Option.any_some, decide_eq_true_eq, Option.some.injEq, List.cons.injEq]
    constructor
    · rintro ⟨named, same⟩
      exact ⟨first, further, ⟨rfl, same, rfl⟩, named⟩
    · rintro ⟨_, _, ⟨rfl, same, -⟩, named⟩
      exact ⟨named, same⟩

namespace Scope

theorem addresses_iff {event : Event} {name : String} :
    event.Addresses name ↔ name ∈ (event.valuesOf addressTag).map Text.normalize := by
  simp only [Event.valuesOf, List.mem_map, List.mem_filterMap, List.mem_filter]
  constructor
  · rintro ⟨tag, held, first, second, further, form, named, same⟩
    obtain ⟨named, value⟩ := Tag.valued_iff.2 ⟨first, further, form, named⟩
    exact ⟨second, ⟨tag, ⟨held, named⟩, value⟩, same⟩
  · rintro ⟨second, ⟨tag, ⟨held, named⟩, value⟩, same⟩
    obtain ⟨first, further, form, named⟩ := Tag.valued_iff.1 ⟨named, value⟩
    exact ⟨tag, held, first, second, further, form, named, same⟩

/-- Reading stops at the first value for all relays, and only there. -/
theorem seek_eq (scope : Scope) (found : Option Target) (values : List String) :
    scope.seek found values =
      if everyRelay ∈ values.map Text.normalize then some .everyRelay
      else if scope.name ∈ values.map Text.normalize then some (.relay scope.name)
      else found := by
  induction values generalizing found with
  | nil => rfl
  | cons value rest induction =>
      simp only [seek, induction, List.map_cons, List.mem_cons]
      by_cases every : Text.normalize value = everyRelay
      · simp only [every, true_or, if_true]
      · by_cases own : Text.normalize value = scope.name
        · simp only [own, true_or, if_true, if_neg (own ▸ every), Ne.symm (own ▸ every), false_or]
          split
          · rfl
          · exact ite_self _
        · simp only [if_neg every, if_neg own, Ne.symm every, Ne.symm own, false_or]

theorem target_eq (scope : Scope) (event : Event) :
    scope.target? event =
      if everyRelay ∈ (event.valuesOf addressTag).map Text.normalize then some .everyRelay
      else if scope.name ∈ (event.valuesOf addressTag).map Text.normalize then
        some (.relay scope.name)
      else none :=
  scope.seek_eq none _

/-- The three targets, told from the names that the event is addressed to. -/
theorem target_cases (scope : Scope) (event : Event) :
    (event.Addresses everyRelay ∧ scope.target? event = some .everyRelay) ∨
      (¬event.Addresses everyRelay ∧ event.Addresses scope.name ∧
        scope.target? event = some (.relay scope.name)) ∨
      (¬event.Addresses everyRelay ∧ ¬event.Addresses scope.name ∧
        scope.target? event = none) := by
  simp only [addresses_iff, target_eq]
  split
  · exact .inl ⟨‹_›, rfl⟩
  · split
    · exact .inr (.inl ⟨‹_›, ‹_›, rfl⟩)
    · exact .inr (.inr ⟨‹_›, ‹_›, rfl⟩)

/-- More addresses never lessen the reach of a target. -/
theorem reach_mono (scope : Scope) {event other : Event}
    (more : ∀ name, event.Addresses name → other.Addresses name) :
    Target.reach (scope.target? event) ≤ Target.reach (scope.target? other) := by
  have every := more everyRelay
  have own := more scope.name
  rcases scope.target_cases event with ⟨named, target⟩ | ⟨-, named, target⟩ | ⟨-, -, target⟩ <;>
    rcases scope.target_cases other with
      ⟨-, target'⟩ | ⟨absent, -, target'⟩ | ⟨absent, absent', target'⟩ <;>
    simp_all [Target.reach]

theorem target_congr (scope : Scope) {event other : Event}
    (same : ∀ name, event.Addresses name ↔ other.Addresses name) :
    scope.target? event = scope.target? other := by
  have listed : ∀ name, name ∈ (event.valuesOf addressTag).map Text.normalize ↔
      name ∈ (other.valuesOf addressTag).map Text.normalize :=
    fun name => addresses_iff.symm.trans ((same name).trans addresses_iff)
  simp only [target_eq, listed]

theorem addresses_shortened {event : Event} {name : String} :
    { event with tags := event.tags.map Tag.shortened }.Addresses name ↔ event.Addresses name := by
  constructor
  · rintro ⟨tag, held, first, second, further, form, named, same⟩
    obtain ⟨⟨elements⟩, own, rfl⟩ := List.mem_map.1 held
    match elements with
    | [] | [_] => simp [Tag.shortened] at form
    | first' :: second' :: others =>
      obtain ⟨rfl, rfl, -⟩ : first' = first ∧ second' = second ∧ _ := by
        simpa [Tag.shortened] using form
      exact ⟨_, own, first', second', others, rfl, named, same⟩
  · rintro ⟨tag, held, first, second, further, form, named, same⟩
    refine ⟨tag.shortened, List.mem_map_of_mem held, first, second, [], ?_, named, same⟩
    rw [Tag.shortened, form]
    rfl

theorem addresses_filtered {event : Event} {name : String} :
    { event with tags := event.tags.filter Tag.isAddress }.Addresses name ↔
      event.Addresses name := by
  constructor
  · rintro ⟨tag, held, address⟩
    exact ⟨tag, (List.mem_filter.1 held).1, address⟩
  · rintro ⟨tag, held, first, second, further, form, named, same⟩
    obtain ⟨own, value⟩ := Tag.valued_iff.2 ⟨first, further, form, named⟩
    refine ⟨tag, List.mem_filter.2 ⟨held, ?_⟩, first, second, further, form, named, same⟩
    rw [Tag.isAddress, own, value]
    rfl

/-- Which target an event has: to all relays if it is addressed so anywhere, else to this relay if
it is addressed so, else none. Order and repetition of the tags, their further elements and other
tags do not matter, and more tags can only extend the target. -/
theorem target_selection (scope : Scope) (event : Event) :
    (scope.target? event = some .everyRelay ↔ event.Addresses everyRelay) ∧
      (scope.target? event = some (.relay scope.name) ↔
        ¬event.Addresses everyRelay ∧ event.Addresses scope.name) ∧
      (scope.target? event = none ↔
        ¬event.Addresses everyRelay ∧ ¬event.Addresses scope.name) ∧
      scope.target? event ≠ some (.relay everyRelay) ∧
      (∀ tags : List Tag, (∀ tag, tag ∈ tags ↔ tag ∈ event.tags) →
        scope.target? { event with tags } = scope.target? event) ∧
      scope.target? { event with tags := event.tags.map Tag.shortened } = scope.target? event ∧
      scope.target? { event with tags := event.tags.filter Tag.isAddress } =
        scope.target? event ∧
      (∀ tags : List Tag, event.tags ⊆ tags →
        Target.reach (scope.target? event) ≤ Target.reach (scope.target? { event with tags })) := by
  have cases := scope.target_cases event
  refine ⟨?_, ?_, ?_, ?_, ?_, ?_, ?_, ?_⟩
  · rcases cases with ⟨every, target⟩ | ⟨none, own, target⟩ | ⟨none, foreign, target⟩ <;> simp [*]
  · rcases cases with ⟨every, target⟩ | ⟨none, own, target⟩ | ⟨none, foreign, target⟩ <;> simp [*]
  · rcases cases with ⟨every, target⟩ | ⟨none, own, target⟩ | ⟨none, foreign, target⟩ <;> simp [*]
  · rcases cases with ⟨every, target⟩ | ⟨none, own, target⟩ | ⟨none, foreign, target⟩
    · simp [target]
    · -- A relay of that very name is addressed only where all relays are.
      have other : scope.name ≠ everyRelay := fun same => none (same ▸ own)
      simp [target, other]
    · simp [target]
  · intro tags same
    refine scope.target_congr fun name => ?_
    simp only [Event.Addresses, same]
  · exact scope.target_congr fun name => addresses_shortened
  · exact scope.target_congr fun name => addresses_filtered
  · intro tags more
    refine scope.reach_mono fun name => ?_
    rintro ⟨tag, held, address⟩
    exact ⟨tag, more held, address⟩

/-- A relay that has the name for all relays, and an event that names it last, once the tags are
turned round, doubled and mixed with others. -/
theorem target_selection_of_namesake :
    let scope : Scope := ⟨everyRelay⟩
    let tags : List Tag := [⟨["relay"]⟩, ⟨["r", "all_relays"]⟩, ⟨["relay", "relay.example"]⟩]
    let event : Event := ⟨"e", "alice", optOutKind, 0, tags ++ [⟨[" Relay", "ALL_RELAYS ", "x"]⟩],
      "", none⟩
    let turned := event.tags.reverse ++ event.tags
    (∀ tag, tag ∈ turned ↔ tag ∈ event.tags) ∧
      scope.target? { event with tags := turned } = some .everyRelay ∧
      scope.target? { event with tags } = none ∧
      Target.reach (scope.target? { event with tags }) ≤ Target.reach (scope.target? event) := by
  intro scope tags event turned
  have same : ∀ tag, tag ∈ turned ↔ tag ∈ event.tags := by
    intro tag
    rw [List.mem_append, List.mem_reverse, or_self]
  have every : scope.target? event = some .everyRelay := by decide +kernel
  obtain ⟨-, -, -, -, turns, -⟩ := target_selection scope event
  obtain ⟨-, -, -, -, -, -, -, wider⟩ := target_selection scope { event with tags }
  exact ⟨same, (turns turned same).trans every, by decide +kernel,
    wider event.tags (List.subset_append_left _ _)⟩

/-! ## Names of a relay -/

theorem of_text_eq_some_iff {raw : String} {scope : Scope} :
    ofText? raw = some scope ↔ Text.normalize raw ≠ "" ∧ scope.name = Text.normalize raw := by
  obtain ⟨name⟩ := scope
  simp only [ofText?, String.isEmpty_iff]
  split
  · simp [*]
  · simp only [Option.some.injEq, Scope.mk.injEq, ne_eq, true_and, not_false_eq_true, *]
    exact eq_comm

theorem of_text_eq_none_iff {raw : String} : ofText? raw = none ↔ Text.blank raw = true := by
  simp only [ofText?, String.isEmpty_iff, ← Text.normalize_eq_empty_iff]
  split <;> simp [*]

/-- A name that is not blank gives a scope which gives itself again. -/
theorem of_text_name {raw : String} {scope : Scope} (given : ofText? raw = some scope) :
    ofText? scope.name = some scope := by
  obtain ⟨filled, name⟩ := of_text_eq_some_iff.1 given
  refine of_text_eq_some_iff.2 ?_
  rw [name, Text.normalize_normalize]
  exact ⟨filled, rfl⟩

/-- Normal forms do not change any more, and white space does not enter into them. Any name but a
blank one makes a scope, and an event reaches the relay under that name as under the scope's own,
whatever white space stands around either and around the name of the tag, in any letter case. -/
theorem reached_in_any_spelling (raw : String) :
    Text.normalize (Text.normalize raw) = Text.normalize raw ∧
      (∀ padded, Text.Padded raw padded → Text.normalize padded = Text.normalize raw) ∧
      (ofText? raw = none ↔ Text.blank raw = true) ∧
      ∀ scope, ofText? raw = some scope → ofText? scope.name = some scope ∧
        ∀ (event : Event) (tag : Tag) (spelling first second : String) (further : List String),
          tag ∈ event.tags → tag.elements = first :: second :: further →
          spelling.toLower = addressTag → Text.Padded spelling first →
          Text.Padded raw second ∨ Text.Padded scope.name second →
          (scope.target? event).isSome = true := by
  refine ⟨Text.normalize_normalize raw, fun padded => Text.Padded.normalize_eq,
    of_text_eq_none_iff, fun scope given => ⟨of_text_name given, ?_⟩⟩
  intro event tag spelling first second further held form case name value
  have named : Text.normalize first = addressTag := by
    rw [name.normalize_eq]
    exact Text.normalize_ascii (by decide) case
  have own : Text.normalize second = scope.name := by
    have normal := (of_text_eq_some_iff.1 given).2
    rcases value with raw | scope
    · rw [raw.normalize_eq, normal]
    · rw [scope.normalize_eq, normal, Text.normalize_normalize]
  have addressed : event.Addresses scope.name :=
    ⟨tag, held, first, second, further, form, named, own⟩
  rcases scope.target_cases event with ⟨-, target⟩ | ⟨-, -, target⟩ | ⟨-, absent, -⟩
  · rw [target]
    rfl
  · rw [target]
    rfl
  · exact absurd addressed absent

/-- A name in which sigma stands before a full stop, and a letter that becomes two. -/
theorem reached_in_any_spelling_of_sigma :
    let raw := "\u00a0ΟΔΟΣ.İ\u2003"
    let scope : Scope := ⟨"οδοσ.i\u0307"⟩
    let event : Event := ⟨"e", "alice", optOutKind, 0,
      [⟨["\tReLaY ", "\n\u00a0ΟΔΟΣ.İ\u2003\u3000"]⟩], "", none⟩
    ofText? raw = some scope ∧ ofText? scope.name = some scope ∧
      (scope.target? event).isSome = true := by
  intro raw scope event
  have given : ofText? raw = some scope := by decide +kernel
  obtain ⟨-, -, -, reached⟩ := reached_in_any_spelling raw
  obtain ⟨again, targets⟩ := reached scope given
  refine ⟨given, again, targets event _ "ReLaY" _ _ [] (List.mem_singleton_self _) rfl
    (by decide +kernel) ⟨"\t", " ", by decide, by decide, by decide⟩
    (.inl ⟨"\n", "\u3000", by decide, by decide, by decide⟩)⟩

end Scope

end OptOut
