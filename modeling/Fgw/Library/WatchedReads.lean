import Mathlib.Data.List.Basic
import Mathlib.Logic.Function.Basic

/-!
A reader that follows keyed values through change notices and slow reads.  A read returns the
value of some moment while it is under way, so reads of one key can be served out of order;
versions count the writes of a key and are not visible to the reader.
-/

namespace Fgw

universe u v

variable {K : Type u} {C : Type v}

/-- A read under way, with the version and value it has seen once it has seen one. -/
structure PendingRead (K : Type u) (C : Type v) where
  key : K
  seen : Option (Nat × C)

/-- `served` is the version the reader was last given, if any. -/
structure Watched (K : Type u) (C : Type v) where
  value : K → C
  version : K → Nat
  changed : List K
  reads : List (PendingRead K C)
  served : K → Option Nat

namespace Watched

section Steps

variable [DecidableEq K]

/-- A write, noted for the reader if it is watching. -/
def write (watching : Bool) (key : K) (value : C) (state : Watched K C) : Watched K C :=
  { state with
    value := Function.update state.value key value
    version := Function.update state.version key (state.version key + 1)
    changed := if watching then key :: state.changed else state.changed }

/-- The first reads, of all keys in a listing; a key that is not listed counts as served. -/
def list (keys : List K) (state : Watched K C) : Watched K C :=
  { state with
    reads := keys.map fun key => ⟨key, none⟩
    served := fun key => if key ∈ keys then none else some (state.version key) }

/-- A notice of changed keys, each of which is read. -/
def notify (keys : List K) (state : Watched K C) : Watched K C :=
  { state with
    changed := state.changed.filter fun key => key ∉ keys
    reads := state.reads ++ keys.map fun key => ⟨key, none⟩ }

/-- A read between `before` and `after` sees the value of this moment. -/
def sample (before : List (PendingRead K C)) (key : K) (after : List (PendingRead K C))
    (state : Watched K C) : Watched K C :=
  { state with reads := before ++ ⟨key, some (state.version key, state.value key)⟩ :: after }

/-- A read between `before` and `after` is served with what it has seen. -/
def serve (before : List (PendingRead K C)) (key : K) (version : Nat)
    (after : List (PendingRead K C)) (state : Watched K C) : Watched K C :=
  { state with
    reads := before ++ after
    served := Function.update state.served key (some version) }

end Steps

/-- What the read has seen, if anything, is the latest value. -/
def UpToDate (state : Watched K C) (read : PendingRead K C) : Prop :=
  read.seen = none ∨ read.seen = some (state.version read.key, state.value read.key)

/-- The latest value is yet to be noticed, or under way, or has been served. -/
def Accounted (state : Watched K C) (key : K) : Prop :=
  key ∈ state.changed ∨ (∃ read ∈ state.reads, read.key = key ∧ state.UpToDate read) ∨
    state.served key = some (state.version key)

structure Sound (state : Watched K C) : Prop where
  accounted : ∀ key, state.Accounted key
  served : ∀ key version, state.served key = some version → version ≤ state.version key
  seen : ∀ read ∈ state.reads, ∀ version value, read.seen = some (version, value) →
    version ≤ state.version read.key ∧
      (version = state.version read.key → value = state.value read.key)

variable {state : Watched K C}

/-- Once nothing is left to notice or to read, every key has been served its latest value. -/
theorem Sound.settled (sound : Sound state) (noticed : state.changed = [])
    (finished : state.reads = []) (key : K) : state.served key = some (state.version key) := by
  rcases sound.accounted key with waiting | ⟨read, underway, _⟩ | latest
  · simp [noticed] at waiting
  · simp [finished] at underway
  · exact latest

variable [DecidableEq K]

/-- A write is not lost if it is noticed, or if a read is under way that has seen nothing. -/
theorem Sound.write (sound : Sound state) {watching : Bool} {key : K} {value : C}
    (noticed : watching = true ∨ ∃ read ∈ state.reads, read.key = key ∧ read.seen = none) :
    Sound (state.write watching key value) := by
  refine ⟨fun other => ?_, fun other version given => ?_, fun read underway version old saw => ?_⟩
  · by_cases same : other = key
    · subst other
      rcases noticed with rfl | ⟨read, underway, same, unseen⟩
      · exact Or.inl (by simp [Watched.write])
      · exact Or.inr (Or.inl ⟨read, underway, same, Or.inl unseen⟩)
    · rcases sound.accounted other with waiting | ⟨read, underway, named, fresh⟩ | latest
      · refine Or.inl ?_
        simp only [Watched.write]
        split
        · exact List.mem_cons_of_mem key waiting
        · exact waiting
      · refine Or.inr (Or.inl ⟨read, underway, named, ?_⟩)
        rw [← named] at same
        simpa [UpToDate, Watched.write, Function.update_of_ne same] using fresh
      · exact Or.inr (Or.inr (by simpa [Watched.write, Function.update_of_ne same] using latest))
  · have bound := sound.served other version given
    by_cases same : other = key
    · subst other
      simp only [Watched.write, Function.update_self]
      omega
    · simpa [Watched.write, Function.update_of_ne same] using bound
  · have bound := sound.seen read underway version old saw
    by_cases same : read.key = key
    · rw [same] at bound
      simp only [Watched.write, same, Function.update_self]
      exact ⟨by omega, by omega⟩
    · simpa [Watched.write, Function.update_of_ne same] using bound

theorem sound_list (state : Watched K C) (keys : List K) : Sound (state.list keys) := by
  refine ⟨fun key => ?_, fun key version given => ?_, fun read underway version value saw => ?_⟩
  · by_cases listed : key ∈ keys
    · exact Or.inr (Or.inl ⟨⟨key, none⟩, List.mem_map.mpr ⟨key, listed, rfl⟩, rfl, Or.inl rfl⟩)
    · exact Or.inr (Or.inr (by simp [Watched.list, listed]))
  · simp only [Watched.list] at given ⊢
    split at given <;> simp_all
  · obtain ⟨key, _, rfl⟩ := List.mem_map.mp underway
    cases saw

theorem Sound.notify (sound : Sound state) (keys : List K) : Sound (state.notify keys) := by
  refine ⟨fun key => ?_, sound.served, fun read underway version value saw => ?_⟩
  · rcases sound.accounted key with waiting | ⟨read, underway, named, fresh⟩ | latest
    · by_cases told : key ∈ keys
      · refine Or.inr (Or.inl ⟨⟨key, none⟩, ?_, rfl, Or.inl rfl⟩)
        exact List.mem_append_right _ (List.mem_map.mpr ⟨key, told, rfl⟩)
      · exact Or.inl (by simp [Watched.notify, waiting, told])
    · exact Or.inr (Or.inl ⟨read, List.mem_append_left _ underway, named, fresh⟩)
    · exact Or.inr (Or.inr latest)
  · rcases List.mem_append.mp underway with old | new
    · exact sound.seen read old version value saw
    · obtain ⟨key, _, rfl⟩ := List.mem_map.mp new
      cases saw

omit [DecidableEq K] in
theorem Sound.sample (sound : Sound state) {before after : List (PendingRead K C)} {key : K}
    (underway : state.reads = before ++ ⟨key, none⟩ :: after) :
    Sound (state.sample before key after) := by
  have others {read : PendingRead K C} (other : read ∈ before ∨ read ∈ after) :
      read ∈ state.reads := by
    rw [underway]
    rcases other with front | back <;> simp [*]
  refine ⟨fun other => ?_, sound.served, fun read member version value saw => ?_⟩
  · rcases sound.accounted other with waiting | ⟨read, member, named, fresh⟩ | latest
    · exact Or.inl waiting
    · refine Or.inr (Or.inl ?_)
      rw [underway, List.mem_append, List.mem_cons] at member
      rcases member with front | rfl | back
      · exact ⟨read, List.mem_append_left _ front, named, fresh⟩
      · exact ⟨_, List.mem_append_right _ List.mem_cons_self, named, Or.inr rfl⟩
      · exact ⟨read, List.mem_append_right _ (List.mem_cons_of_mem _ back), named, fresh⟩
    · exact Or.inr (Or.inr latest)
  · rcases List.mem_append.mp member with front | rest
    · exact sound.seen read (others (Or.inl front)) version value saw
    rcases List.mem_cons.mp rest with rfl | back
    · cases saw
      exact ⟨Nat.le_refl _, fun _ => rfl⟩
    · exact sound.seen read (others (Or.inr back)) version value saw

/-- A read does no harm unless a later version has already been served. -/
theorem Sound.serve (sound : Sound state) {before after : List (PendingRead K C)} {key : K}
    {version : Nat} {value : C}
    (underway : state.reads = before ++ ⟨key, some (version, value)⟩ :: after)
    (ordered : ∀ old, state.served key = some old → old ≤ version) :
    Sound (state.serve before key version after) := by
  have bound := sound.seen ⟨key, some (version, value)⟩ (by simp [underway]) version value rfl
  refine ⟨fun other => ?_, fun other given same => ?_, fun read member => ?_⟩
  · rcases sound.accounted other with waiting | ⟨read, member, named, fresh⟩ | latest
    · exact Or.inl waiting
    · rw [underway, List.mem_append, List.mem_cons] at member
      rcases member with front | rfl | back
      · exact Or.inr (Or.inl ⟨read, List.mem_append_left _ front, named, fresh⟩)
      · refine Or.inr (Or.inr ?_)
        have seen : version = state.version key ∧ value = state.value key := by
          simpa [UpToDate] using fresh
        rw [← named]
        simp [Watched.serve, seen.1]
      · exact Or.inr (Or.inl ⟨read, List.mem_append_right _ back, named, fresh⟩)
    · refine Or.inr (Or.inr ?_)
      by_cases same : other = key
      · rw [same] at latest ⊢
        have reached : version = state.version key := Nat.le_antisymm bound.1 (ordered _ latest)
        simp [Watched.serve, reached]
      · simpa [Watched.serve, Function.update_of_ne same] using latest
  · by_cases this : other = key
    · subst other
      simp only [Watched.serve, Function.update_self, Option.some.injEq] at same
      exact same ▸ bound.1
    · simp only [Watched.serve, Function.update_of_ne this] at same
      exact sound.served other given same
  · refine sound.seen read ?_
    rw [underway]
    rcases List.mem_append.mp member with front | back <;> simp [*]

end Watched

end Fgw
