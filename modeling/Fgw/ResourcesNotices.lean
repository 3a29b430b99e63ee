import Fgw.Library.Runs
import Fgw.ResourcesReload

/-!
The notifications of `changeFile` against the lists of the store.  A listener that replays them
follows the store as long as every document that a file changes to has a kind.
-/

namespace Fgw

/-- What `list` answers over all kinds. -/
def Store.listAll (store : Store) : List Resource := store.resourceMap.keys.flatMap store.list

/-- A listener does with the resources it holds what a notification says. -/
def Notification.replay (held : List Resource) : Notification → List Resource
  | create resource => held ++ [resource]
  | delete resource => held.filter fun other => other.ref ≠ resource.ref
  | update resource old => (held.filter fun other => other.ref ≠ old.ref) ++ [resource]

structure Listener where
  store : Store
  held : List Resource

namespace Listener

def start (listing : List (String × Value)) : Listener :=
  ⟨Store.init listing, (Store.init listing).listAll⟩

def change (listener : Listener) (change : Change) : Listener :=
  let changed := listener.store.changeFile change.pathname change.data
  ⟨changed.1, changed.2.foldl Notification.replay listener.held⟩

def Follows (listener : Listener) : Prop := listener.held.Perm listener.store.listAll

/-- What leaves the lists is carried by a deletion or an update. -/
def Announces (listener : Listener) (change : Change) : Prop :=
  ∀ resource ∈ listener.store.listAll, resource ∉ (listener.change change).store.listAll →
    ∃ notification ∈ (listener.store.changeFile change.pathname change.data).2,
      notification.oldResource = some resource

end Listener

/-- A file gets a document with a kind, or none. -/
def KindedChange (change : Change) : Prop :=
  change.data.truthy = true → (kindOf change.data).truthy = true

theorem kindKey_ne_none {data : Value} : kindKey data ≠ none ↔ (kindOf data).truthy = true := by
  unfold kindKey
  split
  · simp [*]
  · simp [*]

namespace Store

theorem mem_listAll (store : Store) (resource : Resource) :
    resource ∈ store.listAll ↔ ∃ kind, resource ∈ store.list kind := by
  rw [listAll, List.mem_flatMap]
  constructor
  · rintro ⟨kind, _, member⟩
    exact ⟨kind, member⟩
  · rintro ⟨kind, member⟩
    refine ⟨kind, ?_, member⟩
    unfold list kindMap at member
    cases found : store.resourceMap.get? kind with
    | none => simp [found, KindMap.empty] at member
    | some map => exact Table.mem_keys_of_lookupIn found

/-- `cur` of a change -/
def newContent (store : Store) (data : Value) : Option Resource :=
  if data.truthy then some ⟨store.nextRef, data⟩ else none

/-- The version whose end the notifications of a change tell. -/
def toldGone : Option Resource → Option Resource → Option Resource
  | some cur, some old =>
      if (kindOf cur.data).truthy && (kindOf old.data).truthy then some old else none
  | some _, none => none
  | none, old => old

theorem replay_changeNotifications (cur old : Option Resource) (held : List Resource) :
    (changeNotifications cur old).foldl Notification.replay held =
      (held.filter fun other => (toldGone cur old).all fun gone => other.ref ≠ gone.ref) ++
        cur.toList := by
  cases cur with
  | none =>
      cases old with
      | none => simp [changeNotifications, toldGone]
      | some old => simp [changeNotifications, toldGone, Notification.replay]
  | some cur =>
      cases old with
      | none => simp [changeNotifications, toldGone, Notification.replay]
      | some old =>
          by_cases kinded : (kindOf cur.data).truthy = true
          · by_cases same : (kindOf cur.data).strictEq (kindOf old.data) = true
            · have oldKinded : (kindOf old.data).truthy = true := by
                rw [← Value.eq_of_strictEq same]
                exact kinded
              simp [changeNotifications, toldGone, Notification.replay, kinded, same, oldKinded]
            · by_cases oldKinded : (kindOf old.data).truthy = true
              · simp [changeNotifications, toldGone, Notification.replay, kinded, same, oldKinded]
              · simp [changeNotifications, toldGone, Notification.replay, kinded, same, oldKinded]
          · simp [changeNotifications, toldGone, Notification.replay, kinded]

theorem toldGone_old {cur old : Option Resource} {gone : Resource}
    (told : toldGone cur old = some gone) : old = some gone := by
  cases cur with
  | none => exact told
  | some cur =>
      cases old with
      | none => cases told
      | some old =>
          simp only [toldGone] at told
          split at told
          · exact told
          · cases told

theorem toldGone_told {cur old : Option Resource} {gone : Resource}
    (told : toldGone cur old = some gone) :
    ∃ notification ∈ changeNotifications cur old, notification.oldResource = some gone := by
  cases cur with
  | none =>
      obtain rfl : old = some gone := told
      exact ⟨.delete gone, List.mem_singleton_self _, rfl⟩
  | some cur =>
      cases old with
      | none => cases told
      | some old =>
          simp only [toldGone] at told
          split at told
          · rename_i kinded
            cases told
            simp only [Bool.and_eq_true] at kinded
            by_cases same : (kindOf cur.data).strictEq (kindOf gone.data) = true
            · exact ⟨.update cur gone, by simp [changeNotifications, kinded, same], rfl⟩
            · exact ⟨.delete gone, by simp [changeNotifications, kinded, same], rfl⟩
          · cases told

end Store

namespace Tracks

variable {store : Store}

theorem mem_listAll (tracks : Tracks store) (resource : Resource) :
    resource ∈ store.listAll ↔
      (∃ pathname, store.files.get? pathname = some resource) ∧
        (kindOf resource.data).truthy = true := by
  rw [Store.mem_listAll, ← kindKey_ne_none, Option.ne_none_iff_exists']
  constructor
  · rintro ⟨kind, member⟩
    obtain ⟨pathname, present, kinded⟩ := (tracks.listed kind resource).mp member
    exact ⟨⟨pathname, present⟩, kind, kinded⟩
  · rintro ⟨⟨pathname, present⟩, kind, kinded⟩
    exact ⟨kind, (tracks.listed kind resource).mpr ⟨pathname, present, kinded⟩⟩

theorem nodup_listAll (tracks : Tracks store) : store.listAll.Nodup := by
  refine List.nodup_flatMap.mpr ⟨?_, store.resourceMap.distinct.imp ?_⟩
  · intro kind _
    exact (tracks.once kind).imp fun different same => different (by rw [same])
  · intro kind other different resource member twin
    obtain ⟨_, _, kinded⟩ := (tracks.listed kind resource).mp member
    obtain ⟨_, _, twinKinded⟩ := (tracks.listed other resource).mp twin
    exact different (Option.some.inj (kinded.symm.trans twinKinded))

end Tracks

namespace Listener

variable {listener : Listener}

/-- The resource of a file is still held after a change. -/
def Stays (listener : Listener) (change : Change) (resource : Resource) : Prop :=
  ∀ gone, Store.toldGone (listener.store.newContent change.data)
    (listener.store.files.get? change.pathname) = some gone → resource.ref ≠ gone.ref

theorem mem_held_change (listener : Listener) (change : Change) (resource : Resource) :
    resource ∈ (listener.change change).held ↔
      (resource ∈ listener.held ∧ listener.Stays change resource) ∨
        listener.store.newContent change.data = some resource := by
  simp only [Listener.change, Store.changeFile, Store.replay_changeNotifications, List.mem_append,
    List.mem_filter, Option.all_eq_true, decide_eq_true_eq, Option.mem_toList]
  rfl

theorem stays_iff (tracks : Tracks listener.store) {change : Change}
    (kinded : KindedChange change) {pathname : String} {resource : Resource}
    (present : listener.store.files.get? pathname = some resource)
    (kind : (kindOf resource.data).truthy = true) :
    listener.Stays change resource ↔ change.pathname ≠ pathname := by
  constructor
  · rintro stays rfl
    refine stays resource ?_ rfl
    rw [present, Store.newContent]
    by_cases loaded : change.data.truthy = true
    · simp [loaded, Store.toldGone, kinded loaded, kind]
    · simp [loaded, Store.toldGone]
  · intro different gone told same
    have held := Store.toldGone_old told
    exact different (tracks.injective _ _ _ _ held present same.symm)

theorem store_change (listener : Listener) (change : Change) :
    (listener.change change).store =
      (listener.store.changeFile change.pathname change.data).1 := rfl

theorem tracks_change (tracks : Tracks listener.store) (change : Change) :
    Tracks (listener.change change).store :=
  tracks.changeFile change.pathname change.data

theorem mem_listAll_change (tracks : Tracks listener.store) (change : Change)
    (resource : Resource) :
    resource ∈ (listener.change change).store.listAll ↔
      ((∃ pathname, change.pathname ≠ pathname ∧
          listener.store.files.get? pathname = some resource) ∨
        listener.store.newContent change.data = some resource) ∧
        (kindOf resource.data).truthy = true := by
  rw [(tracks_change tracks change).mem_listAll]
  refine and_congr_left fun _ => ?_
  rw [store_change]
  simp only [Store.file_changeFile_iff, Store.newContent]
  constructor
  · rintro ⟨pathname, ⟨_, loaded, rfl⟩ | other⟩
    · exact Or.inr (if_pos loaded)
    · exact Or.inl ⟨pathname, other⟩
  · rintro (⟨pathname, other⟩ | fresh)
    · exact ⟨pathname, Or.inr other⟩
    · split at fresh
      · rename_i loaded
        exact ⟨change.pathname, Or.inl ⟨rfl, loaded, (Option.some.inj fresh).symm⟩⟩
      · cases fresh

theorem nodup_held_change (tracks : Tracks listener.store) (follows : listener.Follows)
    (change : Change) : (listener.change change).held.Nodup := by
  have before : listener.held.Nodup := follows.nodup_iff.mpr tracks.nodup_listAll
  simp only [Listener.change, Store.changeFile, Store.replay_changeNotifications]
  refine List.nodup_append.mpr ⟨before.filter _, ?_, ?_⟩
  · split
    · exact List.nodup_singleton _
    · exact List.nodup_nil
  · rintro resource member twin fresh rfl
    obtain ⟨⟨pathname, present⟩, _⟩ :=
      (tracks.mem_listAll resource).mp (follows.mem_iff.mp (List.mem_filter.mp member).1)
    have below := tracks.fresh pathname resource present
    split at fresh
    · rw [List.mem_singleton.mp fresh] at below
      exact Nat.lt_irrefl _ below
    · cases fresh

theorem follows_change (tracks : Tracks listener.store) (follows : listener.Follows)
    {change : Change} (kinded : KindedChange change) : (listener.change change).Follows := by
  refine (List.perm_ext_iff_of_nodup (nodup_held_change tracks follows change)
    (tracks_change tracks change).nodup_listAll).mpr ?_
  intro resource
  rw [mem_held_change, mem_listAll_change tracks, follows.mem_iff, tracks.mem_listAll]
  constructor
  · rintro (⟨⟨⟨pathname, present⟩, kind⟩, stays⟩ | fresh)
    · exact ⟨Or.inl ⟨pathname, (stays_iff tracks kinded present kind).mp stays, present⟩, kind⟩
    · refine ⟨Or.inr fresh, ?_⟩
      unfold Store.newContent at fresh
      split at fresh
      · rename_i loaded
        rw [← Option.some.inj fresh]
        exact kinded loaded
      · cases fresh
  · rintro ⟨⟨pathname, different, present⟩ | fresh, kind⟩
    · exact Or.inl ⟨⟨⟨pathname, present⟩, kind⟩,
        (stays_iff tracks kinded present kind).mpr different⟩
    · exact Or.inr fresh

/-- A document without a kind is announced and never listed. -/
theorem follows_change_iff (tracks : Tracks listener.store) (follows : listener.Follows)
    (change : Change) : (listener.change change).Follows ↔ KindedChange change := by
  refine ⟨fun after loaded => ?_, follows_change tracks follows⟩
  have held : (⟨listener.store.nextRef, change.data⟩ : Resource) ∈ (listener.change change).held :=
    (mem_held_change listener change _).mpr (Or.inr (if_pos loaded))
  exact (((tracks_change tracks change).mem_listAll _).mp (after.mem_iff.mp held)).2

theorem announces (tracks : Tracks listener.store) {change : Change}
    (kinded : KindedChange change) : listener.Announces change := by
  intro resource member gone
  obtain ⟨⟨pathname, present⟩, kind⟩ := (tracks.mem_listAll resource).mp member
  rw [mem_listAll_change tracks] at gone
  by_cases different : change.pathname = pathname
  · have leaves : ¬listener.Stays change resource := by
      rw [stays_iff tracks kinded present kind]
      exact fun other => other different
    simp only [Stays, not_forall, not_not] at leaves
    obtain ⟨old, told, _⟩ := leaves
    have own := Store.toldGone_old told
    rw [different, present] at own
    rw [← Option.some.inj own] at told
    exact Store.toldGone_told told
  · exact absurd ⟨Or.inl ⟨pathname, different, present⟩, kind⟩ gone

theorem tracks_start (listing : Table Value) : Tracks (start listing.entries).store :=
  (loaded_init listing).tracks

theorem tracks_run (tracks : Tracks listener.store) (changes : List Change) :
    Tracks (changes.foldl change listener).store := by
  induction changes generalizing listener with
  | nil => exact tracks
  | cons event rest ih => exact ih (tracks_change tracks event)

/-- In every run the listener follows the store, and all that leaves the lists is announced,
exactly if every change brings a kind or nothing. -/
theorem notices_complete_iff (listing : Table Value) (changes : List Change) :
    ((∀ before after, changes = before ++ after →
        (before.foldl change (start listing.entries)).Follows) ∧
      EveryStep change Announces (start listing.entries) changes) ↔
      ∀ each ∈ changes, KindedChange each := by
  have agree : ∀ (listener : Listener) (event : Change),
      (Tracks listener.store ∧ listener.Follows) →
        ((Tracks (listener.change event).store ∧ (listener.change event).Follows) ↔
          KindedChange event) := by
    rintro listener event ⟨tracks, follows⟩
    rw [and_iff_right (tracks_change tracks event)]
    exact follows_change_iff tracks follows event
  have runs := everyState_iff agree ⟨tracks_start listing, List.Perm.refl _⟩ changes
  constructor
  · rintro ⟨follows, _⟩ each member
    have every := runs.mp fun before after same =>
      ⟨tracks_run (tracks_start listing) before, follows before after same⟩
    obtain ⟨before, after, same⟩ := List.append_of_mem member
    exact (everyStep_iff_split _ _ _ _).mp every before each after same
  · intro kinded
    have every : EveryStep change (fun _ => KindedChange) (start listing.entries) changes :=
      everyStep_of_forall kinded
    refine ⟨fun before after same => (runs.mpr every before after same).2, ?_⟩
    exact every.gives (fun _ event tracks _ => tracks_change tracks event)
      (fun _ _ tracks kind => announces tracks kind) (tracks_start listing)

end Listener

/-! A Backend whose file loses its kind. -/

theorem lostKind_unannounced :
    ¬ ∀ (listing : Table Value) (changes : List Change),
      (∀ before after, changes = before ++ after →
        (before.foldl Listener.change (Listener.start listing.entries)).Follows) ∧
      EveryStep Listener.change Listener.Announces (Listener.start listing.entries) changes := by
  intro claimed
  have follows := (claimed oneBackend [⟨"a.json", .obj []⟩]).1 [⟨"a.json", .obj []⟩] [] rfl
  have lengths := follows.length_eq
  exact absurd lengths (by decide +kernel)

end Fgw
