import Mathlib.Data.List.Basic
import Mathlib.Data.List.Nodup

/-!
First-match selection from a list without duplicates, and the order of the items that it
depends on.
-/

namespace Fgw

universe u v

variable {α : Type u} {β : Type v}

/-- `first` stands before `second` in the list. -/
def Precedes : List α → α → α → Prop
  | [], _, _ => False
  | item :: rest, first, second => (item = first ∧ second ∈ rest) ∨ Precedes rest first second

theorem Precedes.mem_left {items : List α} {first second : α}
    (before : Precedes items first second) : first ∈ items := by
  induction items with
  | nil => exact before.elim
  | cons item rest ih =>
      rcases before with ⟨rfl, _⟩ | later
      · exact List.mem_cons_self
      · exact List.mem_cons_of_mem _ (ih later)

theorem Precedes.mem_right {items : List α} {first second : α}
    (before : Precedes items first second) : second ∈ items := by
  induction items with
  | nil => exact before.elim
  | cons item rest ih =>
      rcases before with ⟨_, member⟩ | later
      · exact List.mem_cons_of_mem _ member
      · exact List.mem_cons_of_mem _ (ih later)

theorem Precedes.rel {order : α → α → Prop} {items : List α} {first second : α}
    (pairs : items.Pairwise order) (before : Precedes items first second) :
    order first second := by
  induction items with
  | nil => exact before.elim
  | cons item rest ih =>
      obtain ⟨top, tail⟩ := List.pairwise_cons.mp pairs
      rcases before with ⟨rfl, member⟩ | later
      · exact top second member
      · exact ih tail later

theorem precedes_filter (items : List α) (keep : α → Bool) (first second : α) :
    Precedes (items.filter keep) first second ↔
      keep first = true ∧ keep second = true ∧ Precedes items first second := by
  induction items with
  | nil => simp [Precedes]
  | cons item rest ih =>
      by_cases kept : keep item = true
      · simp only [List.filter_cons_of_pos kept, Precedes, List.mem_filter, ih]
        constructor
        · rintro (⟨rfl, member, second⟩ | ⟨first, second, later⟩)
          · exact ⟨kept, second, Or.inl ⟨rfl, member⟩⟩
          · exact ⟨first, second, Or.inr later⟩
        · rintro ⟨first, second, ⟨rfl, member⟩ | later⟩
          · exact Or.inl ⟨rfl, member, second⟩
          · exact Or.inr ⟨first, second, later⟩
      · simp only [List.filter_cons_of_neg kept, ih, Precedes]
        constructor
        · rintro ⟨first, second, later⟩
          exact ⟨first, second, Or.inr later⟩
        · rintro ⟨first, second, ⟨rfl, _⟩ | later⟩
          · exact (kept first).elim
          · exact ⟨first, second, later⟩

theorem precedes_append (left right : List α) (first second : α) :
    Precedes (left ++ right) first second ↔
      Precedes left first second ∨ (first ∈ left ∧ second ∈ right) ∨
        Precedes right first second := by
  induction left with
  | nil => simp [Precedes]
  | cons item rest ih =>
      simp only [List.cons_append, Precedes, ih, List.mem_append, List.mem_cons]
      constructor
      · rintro (⟨rfl, here | there⟩ | here | ⟨here, there⟩ | later)
        · exact Or.inl (Or.inl ⟨rfl, here⟩)
        · exact Or.inr (Or.inl ⟨Or.inl rfl, there⟩)
        · exact Or.inl (Or.inr here)
        · exact Or.inr (Or.inl ⟨Or.inr here, there⟩)
        · exact Or.inr (Or.inr later)
      · rintro ((⟨rfl, here⟩ | here) | ⟨rfl | here, there⟩ | later)
        · exact Or.inl ⟨rfl, Or.inl here⟩
        · exact Or.inr (Or.inl here)
        · exact Or.inl ⟨rfl, Or.inr there⟩
        · exact Or.inr (Or.inr (Or.inl ⟨here, there⟩))
        · exact Or.inr (Or.inr (Or.inr later))

/-- The item a first-match search picks: nothing that stands before it is accepted. -/
theorem find?_eq_some_iff_precedes {items : List α} (once : items.Nodup) (accepts : α → Bool)
    (item : α) :
    items.find? accepts = some item ↔
      item ∈ items ∧ accepts item = true ∧
        ∀ earlier, Precedes items earlier item → accepts earlier = false := by
  induction items with
  | nil => simp
  | cons head rest ih =>
      obtain ⟨fresh, onceRest⟩ := List.nodup_cons.mp once
      by_cases accepted : accepts head = true
      · rw [List.find?_cons_of_pos accepted]
        constructor
        · rintro ⟨rfl⟩
          refine ⟨List.mem_cons_self, accepted, ?_⟩
          rintro earlier (⟨_, member⟩ | later)
          · exact (fresh member).elim
          · exact (fresh later.mem_right).elim
        · rintro ⟨member, _, none⟩
          rcases List.mem_cons.mp member with rfl | inside
          · rfl
          · simp [none head (Or.inl ⟨rfl, inside⟩)] at accepted
      · rw [List.find?_cons_of_neg accepted, ih onceRest]
        constructor
        · rintro ⟨member, accepted', none⟩
          refine ⟨List.mem_cons_of_mem _ member, accepted', ?_⟩
          rintro earlier (⟨rfl, _⟩ | later)
          · simpa using accepted
          · exact none earlier later
        · rintro ⟨member, accepted', none⟩
          rcases List.mem_cons.mp member with rfl | inside
          · exact (accepted accepted').elim
          · exact ⟨inside, accepted', fun earlier later => none earlier (Or.inr later)⟩

/-- As above, for what the picked item stands for: an accepted item with the label, and
nothing with another label accepted before it. -/
theorem find?_label_iff {items : List α} (once : items.Nodup) (accepts : α → Bool)
    (label : α → β) (tag : β) :
    (items.find? accepts).map label = some tag ↔
      ∃ item ∈ items, accepts item = true ∧ label item = tag ∧
        ∀ earlier, Precedes items earlier item → accepts earlier = true → label earlier = tag := by
  constructor
  · intro found
    obtain ⟨item, picked, rfl⟩ := Option.map_eq_some_iff.mp found
    obtain ⟨member, accepted, none⟩ := (find?_eq_some_iff_precedes once accepts item).mp picked
    refine ⟨item, member, accepted, rfl, ?_⟩
    intro earlier before acceptedEarlier
    simp [none earlier before] at acceptedEarlier
  · rintro ⟨item, member, accepted, rfl, uniform⟩
    induction items with
    | nil => cases member
    | cons head rest ih =>
        obtain ⟨fresh, onceRest⟩ := List.nodup_cons.mp once
        by_cases acceptedHead : accepts head = true
        · rw [List.find?_cons_of_pos acceptedHead, Option.map_some]
          rcases List.mem_cons.mp member with rfl | inside
          · rfl
          · rw [uniform head (Or.inl ⟨rfl, inside⟩) acceptedHead]
        · rw [List.find?_cons_of_neg acceptedHead]
          rcases List.mem_cons.mp member with rfl | inside
          · exact (acceptedHead accepted).elim
          · exact ih onceRest inside fun earlier before => uniform earlier (Or.inr before)

/-- When two searches agree on labels: the first is led to the label of what the second picks,
and finds nothing where the second does. -/
theorem find?_labels_eq_iff {left right : List α} (onceLeft : left.Nodup) (onceRight : right.Nodup)
    (passes accepts : α → Bool) (label : α → β) :
    (left.find? passes).map label = (right.find? accepts).map label ↔
      (∀ winner ∈ right, accepts winner = true →
        (∀ better, Precedes right better winner → accepts better = false) →
        ∃ item ∈ left, passes item = true ∧ label item = label winner ∧
          ∀ earlier, Precedes left earlier item → passes earlier = true →
            label earlier = label winner) ∧
      ((∀ item ∈ right, accepts item = false) → ∀ item ∈ left, passes item = false) := by
  cases picked : right.find? accepts with
  | none =>
      have refused : ∀ item ∈ right, accepts item = false := by
        simpa [List.find?_eq_none] using picked
      rw [Option.map_none, Option.map_eq_none_iff, List.find?_eq_none]
      constructor
      · intro none
        refine ⟨fun winner member accepted => ?_, fun _ item member => by simpa using none item member⟩
        simp [refused winner member] at accepted
      · rintro ⟨_, none⟩ item member
        simp [none refused item member]
  | some winner =>
      obtain ⟨member, accepted, best⟩ := (find?_eq_some_iff_precedes onceRight accepts winner).mp picked
      rw [Option.map_some, find?_label_iff onceLeft]
      constructor
      · intro found
        refine ⟨fun other otherMember otherAccepted otherBest => ?_, fun refused => ?_⟩
        · have same : some other = some winner := ((find?_eq_some_iff_precedes
            onceRight accepts other).mpr ⟨otherMember, otherAccepted, otherBest⟩).symm.trans picked
          cases same
          exact found
        · simp [refused winner member] at accepted
      · rintro ⟨led, _⟩
        exact led winner member accepted best

theorem precedes_or_precedes {items : List α} {first second : α} (firstMember : first ∈ items)
    (secondMember : second ∈ items) (different : first ≠ second) :
    Precedes items first second ∨ Precedes items second first := by
  induction items with
  | nil => cases firstMember
  | cons item rest ih =>
      rcases List.mem_cons.mp firstMember with rfl | firstInside
      · rcases List.mem_cons.mp secondMember with rfl | secondInside
        · exact (different rfl).elim
        · exact Or.inl (Or.inl ⟨rfl, secondInside⟩)
      · rcases List.mem_cons.mp secondMember with rfl | secondInside
        · exact Or.inr (Or.inl ⟨rfl, firstInside⟩)
        · rcases ih firstInside secondInside with before | after
          · exact Or.inl (Or.inr before)
          · exact Or.inr (Or.inr after)

/-- When a search picks a wanted item if there is one and nothing else: each unwanted item that
passes is preceded by a wanted one, and something passes where anything is wanted. -/
theorem find?_wanted_iff {items all : List α} (once : items.Nodup)
    (within : ∀ item ∈ items, item ∈ all) (passes : α → Bool) (wanted : α → Prop) :
    ((items.find? passes ≠ none ↔ ∃ item ∈ all, wanted item) ∧
        ∀ item, items.find? passes = some item → wanted item) ↔
      (∀ item ∈ items, passes item = true → ¬ wanted item →
        ∃ better, Precedes items better item ∧ passes better = true ∧ wanted better) ∧
      ((∃ item ∈ all, wanted item) → ∃ item ∈ items, passes item = true) := by
  constructor
  · rintro ⟨answered, right⟩
    refine ⟨fun item member passed unwanted => ?_, fun some => ?_⟩
    · cases picked : items.find? passes with
      | none => simp [List.find?_eq_none.mp picked item member] at passed
      | some first =>
          obtain ⟨firstMember, firstPasses, none⟩ :=
            (find?_eq_some_iff_precedes once passes first).mp picked
          have firstWanted := right first picked
          have different : first ≠ item := fun same => unwanted (same ▸ firstWanted)
          rcases precedes_or_precedes firstMember member different with before | after
          · exact ⟨first, before, firstPasses, firstWanted⟩
          · simp [none item after] at passed
    · obtain ⟨first, picked⟩ := Option.ne_none_iff_exists'.mp (answered.mpr some)
      exact ⟨first, List.mem_of_find?_eq_some picked, List.find?_some picked⟩
  · rintro ⟨led, answered⟩
    have right : ∀ item, items.find? passes = some item → wanted item := by
      intro item picked
      obtain ⟨member, passed, none⟩ := (find?_eq_some_iff_precedes once passes item).mp picked
      by_contra unwanted
      obtain ⟨better, before, betterPasses, _⟩ := led item member passed unwanted
      simp [none better before] at betterPasses
    refine ⟨⟨fun found => ?_, fun some => ?_⟩, right⟩
    · obtain ⟨first, picked⟩ := Option.ne_none_iff_exists'.mp found
      exact ⟨first, within first (List.mem_of_find?_eq_some picked), right first picked⟩
    · obtain ⟨item, member, passed⟩ := answered some
      intro none
      simp [List.find?_eq_none.mp none item member] at passed

/-- What is found is good exactly if every accepted item stands after a good one that is accepted,
or is one itself. -/
theorem find?_good_iff {items : List α} {accepts : α → Bool} {good : α → Prop} :
    (∀ item, items.find? accepts = some item → good item) ↔
      ∀ before item after, items = before ++ item :: after → accepts item = true →
        ∃ better ∈ before ++ [item], accepts better = true ∧ good better := by
  constructor
  · intro found before item after split accepted
    cases first : (before ++ [item]).find? accepts with
    | none => exact absurd accepted (List.find?_eq_none.mp first item (by simp))
    | some better =>
        refine ⟨better, List.mem_of_find?_eq_some first, List.find?_some first, found better ?_⟩
        rw [split, List.append_cons, List.find?_append, first, Option.some_or]
  · intro ordered item found
    obtain ⟨accepted, before, after, split, refused⟩ := List.find?_eq_some_iff_append.mp found
    obtain ⟨better, place, betterAccepted, betterGood⟩ := ordered before item after split accepted
    rcases List.mem_append.mp place with early | last
    · have refusal := refused better early
      rw [betterAccepted] at refusal
      exact absurd refusal Bool.false_ne_true
    · rw [← List.mem_singleton.mp last]
      exact betterGood

end Fgw
