import Fgw.Library.Table

/-!
The table of updaters: callbacks registered by kind and key, which a flush takes out before
it runs them.
-/

namespace Fgw

/-- A callback, by the object that it updates and the key it captured. -/
inductive Callback
  | router (ref : Nat) (routerKey : String)
  | backend (ref : Nat) (backendName : String)
  | healthCheck (ref : Nat) (backendName : String)
  deriving DecidableEq, Repr

/-- The kinds and keys under which a callback is registered. -/
def Callback.homes : Callback → List (String × String)
  | router _ routerKey => [("Route", routerKey)]
  | backend _ backendName => [("Backend", backendName)]
  | healthCheck _ backendName => [("Backend", backendName), ("HealthCheckPolicy", backendName)]

theorem router_home (ref : Nat) (routerKey : String) :
    ("Route", routerKey) ∈ (Callback.router ref routerKey).homes := by
  simp [Callback.homes]

theorem backend_home (ref : Nat) (backendName : String) :
    ("Backend", backendName) ∈ (Callback.backend ref backendName).homes := by
  simp [Callback.homes]

theorem healthCheck_home (ref : Nat) (backendName : String) :
    ("Backend", backendName) ∈ (Callback.healthCheck ref backendName).homes ∧
      ("HealthCheckPolicy", backendName) ∈ (Callback.healthCheck ref backendName).homes := by
  simp [Callback.homes]

theorem home_unique {cb : Callback} {kind key other : String} (first : (kind, key) ∈ cb.homes)
    (second : (kind, other) ∈ cb.homes) : key = other := by
  cases cb <;> simp only [Callback.homes, List.mem_cons, List.not_mem_nil, or_false,
    Prod.mk.injEq] at first second <;> grind

def callbacksOf (lists : Table (Table (List Callback))) (kind key : String) : List Callback :=
  ((lists.get? kind).bind fun listMap => listMap.get? key).getD []

/-- A callback is registered at most once under a key, and only where it belongs. -/
structure Updaters where
  lists : Table (Table (List Callback))
  distinct : ∀ kind key, (callbacksOf lists kind key).Nodup
  home : ∀ kind key, ∀ cb ∈ callbacksOf lists kind key, (kind, key) ∈ cb.homes

theorem callbacksOf_set (lists : Table (Table (List Callback))) (kind key other name : String)
    (list : List Callback) :
    callbacksOf (lists.set kind (((lists.get? kind).getD Table.empty).set key list)) other name =
      if kind = other ∧ key = name then list else callbacksOf lists other name := by
  unfold callbacksOf
  rw [Table.get?_set]
  by_cases sameKind : kind = other
  · subst other
    simp only [if_true, Option.bind_some, Table.get?_set, true_and]
    by_cases sameKey : key = name
    · simp [sameKey]
    · simp only [sameKey, if_false]
      cases lists.get? kind <;> rfl
  · simp [sameKind]

theorem callbacksOf_erase (lists : Table (Table (List Callback))) (kind key other name : String)
    (listMap : Table (List Callback)) (found : lists.get? kind = some listMap) :
    callbacksOf (lists.set kind (listMap.erase key)) other name =
      if kind = other ∧ key = name then [] else callbacksOf lists other name := by
  unfold callbacksOf
  rw [Table.get?_set]
  by_cases sameKind : kind = other
  · subst other
    by_cases sameKey : key = name <;> simp [sameKey, Table.get?_erase, found]
  · simp [sameKind]

namespace Updaters

def empty : Updaters where
  lists := Table.empty
  distinct _ _ := List.nodup_nil
  home _ _ _ member := by cases member

def registered (updaters : Updaters) (kind key : String) : List Callback :=
  callbacksOf updaters.lists kind key

/-- `updaters[kind][key] = list` -/
def put (updaters : Updaters) (kind key : String) (list : List Callback)
    (distinct : list.Nodup) (home : ∀ cb ∈ list, (kind, key) ∈ cb.homes) : Updaters where
  lists := updaters.lists.set kind
    (((updaters.lists.get? kind).getD Table.empty).set key list)
  distinct other name := by
    rw [callbacksOf_set]
    split
    · exact distinct
    · exact updaters.distinct other name
  home other name cb member := by
    rw [callbacksOf_set] at member
    split at member
    · rename_i same
      exact same.1 ▸ same.2 ▸ home cb member
    · exact updaters.home other name cb member

def setUpdater (updaters : Updaters) (kind key : String) (cb : Callback)
    (home : (kind, key) ∈ cb.homes) : Updaters :=
  updaters.put kind key [cb] (List.nodup_singleton cb) fun _ member =>
    List.mem_singleton.mp member ▸ home

def addUpdater (updaters : Updaters) (kind key : String) (cb : Callback)
    (home : (kind, key) ∈ cb.homes) : Updaters :=
  if new : cb ∈ updaters.registered kind key then updaters
  else updaters.put kind key (updaters.registered kind key ++ [cb])
    (List.nodup_append.mpr ⟨updaters.distinct kind key, List.nodup_singleton cb,
      fun _ old _ last same => new (List.mem_singleton.mp last ▸ same ▸ old)⟩)
    fun other member => by
      rcases List.mem_append.mp member with old | last
      · exact updaters.home kind key other old
      · exact List.mem_singleton.mp last ▸ home

/-- `delete listMap[key]` -/
def drop (updaters : Updaters) (kind key : String) : Updaters :=
  match found : updaters.lists.get? kind with
  | none => updaters
  | some listMap =>
      { lists := updaters.lists.set kind (listMap.erase key)
        distinct := fun other name => by
          rw [callbacksOf_erase _ _ _ _ _ _ found]
          split
          · exact List.nodup_nil
          · exact updaters.distinct other name
        home := fun other name cb member => by
          rw [callbacksOf_erase _ _ _ _ _ _ found] at member
          split at member
          · cases member
          · exact updaters.home other name cb member }

/-- `delete updaters[kind]` -/
def dropKind (updaters : Updaters) (kind : String) : Updaters where
  lists := updaters.lists.erase kind
  distinct other name := by
    unfold callbacksOf
    rw [Table.get?_erase]
    split
    · exact List.nodup_nil
    · exact updaters.distinct other name
  home other name cb member := by
    unfold callbacksOf at member
    rw [Table.get?_erase] at member
    split at member
    · cases member
    · exact updaters.home other name cb member

/-- What a call takes out: the callbacks under the key, or all of the kind where the key is
`undefined`. -/
def taken (updaters : Updaters) (kind : String) : Option String → List Callback
  | some key => updaters.registered kind key
  | none => ((updaters.lists.get? kind).elim [] Table.values).flatten

def without (updaters : Updaters) (kind : String) : Option String → Updaters
  | some key => updaters.drop kind key
  | none => updaters.dropKind kind

theorem registered_setUpdater (updaters : Updaters) (kind key other name : String) (cb : Callback)
    (home : (kind, key) ∈ cb.homes) :
    (updaters.setUpdater kind key cb home).registered other name =
      if kind = other ∧ key = name then [cb] else updaters.registered other name :=
  callbacksOf_set _ _ _ _ _ _

theorem registered_addUpdater (updaters : Updaters) (kind key other name : String) (cb : Callback)
    (home : (kind, key) ∈ cb.homes) :
    (updaters.addUpdater kind key cb home).registered other name =
      if kind = other ∧ key = name ∧ cb ∉ updaters.registered kind key then
        updaters.registered other name ++ [cb]
      else updaters.registered other name := by
  unfold addUpdater
  split
  · rename_i present
    rw [if_neg (fun new => new.2.2 present)]
  · rename_i new
    refine (callbacksOf_set _ _ _ _ _ _).trans ?_
    by_cases same : kind = other ∧ key = name
    · rw [if_pos same, if_pos ⟨same.1, same.2, new⟩, same.1, same.2]
    · rw [if_neg same, if_neg (fun both => same ⟨both.1, both.2.1⟩)]
      rfl

theorem mem_registered_addUpdater (updaters : Updaters) (kind key other name : String)
    (cb new : Callback) (home : (kind, key) ∈ new.homes) :
    cb ∈ (updaters.addUpdater kind key new home).registered other name ↔
      cb ∈ updaters.registered other name ∨ (other = kind ∧ name = key ∧ cb = new) := by
  rw [registered_addUpdater]
  split
  · rename_i added
    rw [List.mem_append, List.mem_singleton]
    exact or_congr_right ⟨fun same => ⟨added.1.symm, added.2.1.symm, same⟩, fun all => all.2.2⟩
  · rename_i kept
    refine ⟨Or.inl, fun either => either.elim id ?_⟩
    rintro ⟨rfl, rfl, rfl⟩
    by_contra missing
    exact kept ⟨rfl, rfl, missing⟩

theorem registered_drop (updaters : Updaters) (kind key other name : String) :
    (updaters.drop kind key).registered other name =
      if kind = other ∧ key = name then [] else updaters.registered other name := by
  unfold drop
  split
  · rename_i missing
    split
    · rename_i same
      rw [← same.1, ← same.2]
      simp [registered, callbacksOf, missing]
    · rfl
  · rename_i listMap found
    exact callbacksOf_erase _ _ _ _ _ _ found

theorem registered_dropKind (updaters : Updaters) (kind other name : String) :
    (updaters.dropKind kind).registered other name =
      if kind = other then [] else updaters.registered other name := by
  unfold registered callbacksOf dropKind
  rw [Table.get?_erase]
  split <;> rfl

/-- The call takes out what is registered under this key. -/
def Covers (key : Option String) (name : String) : Prop := key = none ∨ key = some name

theorem registered_without (updaters : Updaters) (kind name : String) (key : Option String)
    (covered : Covers key name) : (updaters.without kind key).registered kind name = [] := by
  rcases covered with rfl | rfl
  · exact (registered_dropKind _ _ _ _).trans (if_pos rfl)
  · exact (registered_drop _ _ _ _ _).trans (if_pos ⟨rfl, rfl⟩)

theorem mem_registered_of_without {updaters : Updaters} {kind name : String}
    {key : Option String} {cb : Callback}
    (member : cb ∈ (updaters.without kind key).registered kind name) :
    cb ∈ updaters.registered kind name ∧ ¬ Covers key name := by
  have uncovered : ¬ Covers key name := fun covered => by
    rw [registered_without updaters kind name key covered] at member
    cases member
  refine ⟨?_, uncovered⟩
  cases key with
  | none => exact (uncovered (Or.inl rfl)).elim
  | some other =>
      have kept := (registered_drop updaters kind other kind name) ▸ member
      split at kept
      · cases kept
      · exact kept

theorem mem_taken (updaters : Updaters) (kind : String) (key : Option String) (cb : Callback) :
    cb ∈ updaters.taken kind key ↔ ∃ name, Covers key name ∧ cb ∈ updaters.registered kind name := by
  cases key with
  | some key => simp [taken, Covers]
  | none =>
      simp only [taken, Covers, true_or, true_and, List.mem_flatten, registered, callbacksOf]
      cases updaters.lists.get? kind with
      | none => simp
      | some listMap =>
          simp only [Option.elim_some, Option.bind_some, Table.mem_values]
          constructor
          · rintro ⟨list, ⟨name, found⟩, member⟩
            exact ⟨name, by simpa [found] using member⟩
          · rintro ⟨name, member⟩
            cases found : listMap.get? name with
            | none => simp [found] at member
            | some list => exact ⟨list, ⟨name, found⟩, by simpa [found] using member⟩

theorem nodup_taken (updaters : Updaters) (kind : String) (key : Option String) :
    (updaters.taken kind key).Nodup := by
  cases key with
  | some key => exact updaters.distinct kind key
  | none =>
      unfold taken
      cases found : updaters.lists.get? kind with
      | none => exact List.nodup_nil
      | some listMap =>
          have under {entry : String × List Callback} (inside : entry ∈ listMap.entries) :
              callbacksOf updaters.lists kind entry.1 = entry.2 := by
            simp [callbacksOf, found, (Table.get?_eq_some listMap entry.1 entry.2).mpr inside]
          rw [Option.elim_some, List.nodup_flatten, Table.values, List.pairwise_map]
          refine ⟨fun list member => ?_, ?_⟩
          · obtain ⟨entry, inside, rfl⟩ := List.mem_map.mp member
            exact under inside ▸ updaters.distinct kind entry.1
          · have keys := List.pairwise_map.mp listMap.distinct
            refine keys.imp_of_mem fun {left right} leftInside rightInside different => ?_
            rw [← under leftInside, ← under rightInside]
            intro cb first second
            exact different (home_unique (updaters.home kind _ cb first)
              (updaters.home kind _ cb second))

end Updaters

end Fgw
