import Fgw.ResourcesCore
import Mathlib.Data.List.Perm.Lattice
import Mathlib.Data.List.Dedup

/-!
Incremental loading against a fresh load.  `Tracks` ties the lists of the store to its
files and holds in every run; `Indexed` ties the dictionaries to the files and survives a
change unless the content that leaves shares its kind and name with another file.
-/

namespace Fgw

/-- The kind a document is listed under. -/
def kindKey (data : Value) : Option String :=
  if (kindOf data).truthy then some (kindOf data).toKey else none

/-- The kind and name a document is found under. -/
def indexKey (data : Value) : Option (String × String) :=
  if (kindOf data).truthy && (nameOf data).truthy then
    some ((kindOf data).toKey, (nameOf data).toKey)
  else none

namespace Store

theorem kindMap_set (store : Store) (kind other : String) (map : KindMap) :
    ({ store with resourceMap := store.resourceMap.set kind map } : Store).kindMap other =
      if kind = other then map else store.kindMap other := by
  simp only [kindMap, Table.get?_set]
  split <;> rfl

theorem list_appendResource (store : Store) (resource : Resource) (kind : String) :
    (store.appendResource resource).list kind =
      if kindKey resource.data = some kind then store.list kind ++ [resource]
      else store.list kind := by
  unfold appendResource kindKey list
  by_cases kinded : (kindOf resource.data).truthy
  · simp only [kinded, if_true, Option.some.injEq, kindMap_set]
    by_cases same : (kindOf resource.data).toKey = kind
    · simp [same]
    · simp [same]
  · simp [kinded]

theorem find_appendResource (store : Store) (resource : Resource) (kind name : String) :
    (store.appendResource resource).find kind name =
      if indexKey resource.data = some (kind, name) then some resource
      else store.find kind name := by
  unfold appendResource indexKey find
  by_cases kinded : (kindOf resource.data).truthy
  · by_cases named : (nameOf resource.data).truthy
    · simp only [kinded, named, if_true, Bool.and_self, Option.some.injEq, Prod.mk.injEq,
        kindMap_set]
      by_cases same : (kindOf resource.data).toKey = kind
      · simp only [same, if_true, true_and, Table.get?_set]
      · simp [same]
    · simp only [kinded, named, if_true, kindMap_set]
      by_cases same : (kindOf resource.data).toKey = kind
      · simp [same]
      · simp [same]
  · simp [kinded]

theorem list_removeResource (store : Store) (resource : Resource) (kind : String) :
    (store.removeResource resource).list kind =
      if kindKey resource.data = some kind then
        (store.list kind).eraseP fun other => other.ref = resource.ref
      else store.list kind := by
  unfold removeResource kindKey list
  by_cases kinded : (kindOf resource.data).truthy
  · simp only [kinded, if_true, Option.some.injEq]
    cases found : store.resourceMap.get? (kindOf resource.data).toKey with
    | none =>
        by_cases same : (kindOf resource.data).toKey = kind
        · rw [same] at found
          simp [same, kindMap, found, KindMap.empty]
        · simp [same]
    | some map =>
        simp only [kindMap_set]
        by_cases same : (kindOf resource.data).toKey = kind
        · rw [same] at found
          simp [same, kindMap, found]
        · simp [same]
  · simp [kinded]

theorem find_removeResource (store : Store) (resource : Resource) (kind name : String) :
    (store.removeResource resource).find kind name =
      if indexKey resource.data = some (kind, name) then none else store.find kind name := by
  unfold removeResource indexKey find
  by_cases kinded : (kindOf resource.data).truthy
  · simp only [kinded, if_true, Bool.true_and]
    cases found : store.resourceMap.get? (kindOf resource.data).toKey with
    | none =>
        by_cases same : (kindOf resource.data).toKey = kind
        · rw [same] at found
          have empty : (store.kindMap kind).dict.get? name = none := by
            simp [kindMap, found, KindMap.empty]
          simp [empty]
        · by_cases named : (nameOf resource.data).truthy <;> simp [named, same]
    | some map =>
        simp only [kindMap_set]
        by_cases same : (kindOf resource.data).toKey = kind
        · rw [same] at found
          have current : store.kindMap kind = map := by simp [kindMap, found]
          by_cases named : (nameOf resource.data).truthy
          · simp [same, named, current, Table.get?_erase]
          · simp [same, named, current]
        · by_cases named : (nameOf resource.data).truthy <;> simp [named, same]
  · simp [kinded]

end Store

/-- The lists hold exactly the documents of the files, each once. -/
structure Tracks (store : Store) : Prop where
  fresh : ∀ pathname resource, store.files.get? pathname = some resource →
    resource.ref < store.nextRef
  injective : ∀ pathname other resource twin, store.files.get? pathname = some resource →
    store.files.get? other = some twin → resource.ref = twin.ref → pathname = other
  once : ∀ kind, (store.list kind).Pairwise fun first second => first.ref ≠ second.ref
  listed : ∀ kind resource, resource ∈ store.list kind ↔
    ∃ pathname, store.files.get? pathname = some resource ∧ kindKey resource.data = some kind

/-- Whatever a dictionary answers is a file's document of that kind and name, and it answers
for every such document. -/
structure Indexed (store : Store) : Prop where
  sound : ∀ kind name resource, store.find kind name = some resource →
    ∃ pathname, store.files.get? pathname = some resource ∧
      indexKey resource.data = some (kind, name)
  complete : ∀ kind name pathname resource, store.files.get? pathname = some resource →
    indexKey resource.data = some (kind, name) → store.find kind name ≠ none

namespace Store

theorem files_changeFile (store : Store) (pathname other : String) (data : Value) :
    (store.changeFile pathname data).1.files.get? other =
      if pathname = other then if data.truthy then some ⟨store.nextRef, data⟩ else none
      else store.files.get? other := by
  by_cases present : data.truthy
  · simp [changeFile, present, Table.get?_set]
  · simp [changeFile, present, Table.get?_erase]

theorem file_changeFile_iff (store : Store) (pathname other : String) (data : Value)
    (resource : Resource) :
    (store.changeFile pathname data).1.files.get? other = some resource ↔
      (pathname = other ∧ data.truthy ∧ resource = ⟨store.nextRef, data⟩) ∨
        (pathname ≠ other ∧ store.files.get? other = some resource) := by
  rw [files_changeFile]
  by_cases same : pathname = other
  · by_cases present : data.truthy
    · simp [same, present, eq_comm]
    · simp [same, present]
  · simp [same]

/-- The store after the old content of a file has left and before the new one comes. -/
def withoutFile (store : Store) (pathname : String) : Store :=
  (store.files.get? pathname).elim store store.removeResource

theorem list_changeFile (store : Store) (pathname kind : String) (data : Value) :
    (store.changeFile pathname data).1.list kind =
      if data.truthy ∧ kindKey data = some kind then
        (store.withoutFile pathname).list kind ++ [⟨store.nextRef, data⟩]
      else (store.withoutFile pathname).list kind := by
  by_cases present : data.truthy
  · simpa [changeFile, withoutFile, present, list, kindMap] using
      list_appendResource (store.withoutFile pathname) ⟨store.nextRef, data⟩ kind
  · simp [changeFile, withoutFile, present, list, kindMap]

theorem mem_list_changeFile (store : Store) (pathname kind : String) (data : Value)
    (resource : Resource) :
    resource ∈ (store.changeFile pathname data).1.list kind ↔
      (data.truthy ∧ kindKey data = some kind ∧ resource = ⟨store.nextRef, data⟩) ∨
        resource ∈ (store.withoutFile pathname).list kind := by
  rw [list_changeFile]
  by_cases appended : data.truthy ∧ kindKey data = some kind
  · simp [appended, or_comm]
  · rw [if_neg appended, or_iff_right fun fresh => appended ⟨fresh.1, fresh.2.1⟩]

theorem find_changeFile (store : Store) (pathname kind name : String) (data : Value) :
    (store.changeFile pathname data).1.find kind name =
      if data.truthy ∧ indexKey data = some (kind, name) then some ⟨store.nextRef, data⟩
      else (store.withoutFile pathname).find kind name := by
  by_cases present : data.truthy
  · simpa [changeFile, withoutFile, present, find, kindMap] using
      find_appendResource (store.withoutFile pathname) ⟨store.nextRef, data⟩ kind name
  · simp [changeFile, withoutFile, present, find, kindMap]

end Store

theorem changed_of_changeNotifications {cur old : Option Resource} {notification : Notification}
    (member : notification ∈ Store.changeNotifications cur old) :
    cur = some notification.changed ∨ old = some notification.changed := by
  unfold Store.changeNotifications at member
  split at member
  · dsimp only at member
    split at member
    · exact Or.inl (by rw [List.mem_singleton.mp member]; rfl)
    · split at member
      · rcases List.mem_cons.mp member with rfl | later
        · exact Or.inr rfl
        · exact Or.inl (by rw [List.mem_singleton.mp later]; rfl)
      · exact Or.inl (by rw [List.mem_singleton.mp member]; rfl)
  · exact Or.inl (by rw [List.mem_singleton.mp member]; rfl)
  · exact Or.inr (by rw [List.mem_singleton.mp member]; rfl)
  · cases member

theorem mem_eraseP_ref (resources : List Resource) (old resource : Resource)
    (once : resources.Pairwise fun first second => first.ref ≠ second.ref) :
    resource ∈ (resources.eraseP fun other => other.ref = old.ref) ↔
      resource ∈ resources ∧ resource.ref ≠ old.ref := by
  induction resources with
  | nil => simp
  | cons first rest ih =>
      have parts := List.pairwise_cons.mp once
      by_cases same : first.ref = old.ref
      · simp only [same, decide_true, List.eraseP_cons_of_pos, List.mem_cons]
        constructor
        · intro member
          exact ⟨Or.inr member, fun equal => parts.1 resource member (same.trans equal.symm)⟩
        · rintro ⟨equal | member, different⟩
          · exact (different (equal ▸ same)).elim
          · exact member
      · simp only [same, decide_false, Bool.false_eq_true, not_false_eq_true,
          List.eraseP_cons_of_neg, List.mem_cons, ih parts.2]
        constructor
        · rintro (equal | ⟨member, different⟩)
          · exact ⟨Or.inl equal, equal ▸ same⟩
          · exact ⟨Or.inr member, different⟩
        · rintro ⟨equal | member, different⟩
          · exact Or.inl equal
          · exact Or.inr ⟨member, different⟩

namespace Tracks

variable {store : Store}

/-- Once the old content of a file has left, the lists hold the other files' documents. -/
theorem listed_withoutFile (tracks : Tracks store) (pathname kind : String)
    (resource : Resource) :
    resource ∈ (store.withoutFile pathname).list kind ↔
      ∃ other, pathname ≠ other ∧ store.files.get? other = some resource ∧
        kindKey resource.data = some kind := by
  unfold Store.withoutFile
  cases found : store.files.get? pathname with
  | none =>
      simp only [Option.elim_none, tracks.listed]
      constructor
      · rintro ⟨other, present, kinded⟩
        refine ⟨other, ?_, present, kinded⟩
        rintro rfl
        simp [found] at present
      · rintro ⟨other, _, present, kinded⟩
        exact ⟨other, present, kinded⟩
  | some old =>
      simp only [Option.elim_some, Store.list_removeResource]
      constructor
      · intro member
        split at member
        · rename_i oldKind
          rw [mem_eraseP_ref _ _ _ (tracks.once kind)] at member
          obtain ⟨other, present, kinded⟩ := (tracks.listed kind resource).mp member.1
          refine ⟨other, ?_, present, kinded⟩
          rintro rfl
          simp only [found, Option.some.injEq] at present
          exact member.2 (by rw [present])
        · rename_i oldKind
          obtain ⟨other, present, kinded⟩ := (tracks.listed kind resource).mp member
          refine ⟨other, ?_, present, kinded⟩
          rintro rfl
          simp only [found, Option.some.injEq] at present
          exact oldKind (by rw [present]; exact kinded)
      · rintro ⟨other, different, present, kinded⟩
        have member := (tracks.listed kind resource).mpr ⟨other, present, kinded⟩
        split
        · rw [mem_eraseP_ref _ _ _ (tracks.once kind)]
          exact ⟨member, fun same => different
            (tracks.injective other pathname resource old present found same).symm⟩
        · exact member

theorem once_withoutFile (tracks : Tracks store) (pathname kind : String) :
    ((store.withoutFile pathname).list kind).Pairwise
      fun first second => first.ref ≠ second.ref := by
  unfold Store.withoutFile
  cases store.files.get? pathname with
  | none => exact tracks.once kind
  | some old =>
      simp only [Option.elim_some, Store.list_removeResource]
      split
      · exact (tracks.once kind).sublist List.eraseP_sublist
      · exact tracks.once kind

theorem changeFile (tracks : Tracks store) (pathname : String) (data : Value) :
    Tracks (store.changeFile pathname data).1 where
  fresh := by
    intro other resource present
    rcases (Store.file_changeFile_iff _ _ _ _ _).mp present with ⟨_, _, rfl⟩ | ⟨_, before⟩
    · exact Nat.lt_succ_self _
    · exact Nat.lt_succ_of_lt (tracks.fresh other resource before)
  injective := by
    intro other third resource twin present twinPresent same
    rcases (Store.file_changeFile_iff _ _ _ _ _).mp present with
      ⟨first, _, rfl⟩ | ⟨_, before⟩ <;>
    rcases (Store.file_changeFile_iff _ _ _ _ _).mp twinPresent with
      ⟨second, _, rfl⟩ | ⟨_, twinBefore⟩
    · exact first.symm.trans second
    · exact absurd same (Nat.ne_of_gt (tracks.fresh third twin twinBefore))
    · exact absurd same (Nat.ne_of_lt (tracks.fresh other resource before))
    · exact tracks.injective other third resource twin before twinBefore same
  once := by
    intro kind
    rw [Store.list_changeFile]
    split
    · rw [List.pairwise_append]
      refine ⟨tracks.once_withoutFile pathname kind, List.pairwise_singleton _ _, ?_⟩
      intro resource member cur fresh
      obtain ⟨other, _, present, _⟩ :=
        (tracks.listed_withoutFile pathname kind resource).mp member
      have below := tracks.fresh other resource present
      rw [List.mem_singleton.mp fresh]
      simp only
      omega
    · exact tracks.once_withoutFile pathname kind
  listed := by
    intro kind resource
    rw [Store.mem_list_changeFile, tracks.listed_withoutFile]
    constructor
    · rintro (⟨loaded, kinded, rfl⟩ | ⟨other, different, present, kinded⟩)
      · exact ⟨pathname, (Store.file_changeFile_iff _ _ _ _ _).mpr (Or.inl ⟨rfl, loaded, rfl⟩),
          kinded⟩
      · exact ⟨other, (Store.file_changeFile_iff _ _ _ _ _).mpr (Or.inr ⟨different, present⟩),
          kinded⟩
    · rintro ⟨other, present, kinded⟩
      rcases (Store.file_changeFile_iff _ _ _ _ _).mp present with
        ⟨_, loaded, rfl⟩ | ⟨different, before⟩
      · exact Or.inl ⟨loaded, kinded, rfl⟩
      · exact Or.inr ⟨other, different, before, kinded⟩

end Tracks

/-- No other file holds a document of the kind and name that `pathname` holds now. -/
def Unshared (store : Store) (pathname : String) : Prop :=
  ∀ old, store.files.get? pathname = some old → ∀ key, indexKey old.data = some key →
    ∀ other resource, store.files.get? other = some resource →
      indexKey resource.data = some key → other = pathname

namespace Indexed

variable {store : Store}

theorem find_withoutFile (indexed : Indexed store) {pathname : String}
    (unshared : Unshared store pathname) (kind name : String) :
    (∀ resource, (store.withoutFile pathname).find kind name = some resource →
      ∃ other, pathname ≠ other ∧ store.files.get? other = some resource ∧
        indexKey resource.data = some (kind, name)) ∧
    (∀ other resource, pathname ≠ other → store.files.get? other = some resource →
      indexKey resource.data = some (kind, name) →
      (store.withoutFile pathname).find kind name ≠ none) := by
  unfold Store.withoutFile
  cases found : store.files.get? pathname with
  | none =>
      refine ⟨?_, fun other resource _ => indexed.complete kind name other resource⟩
      intro resource answer
      obtain ⟨other, present, keyed⟩ := indexed.sound kind name resource answer
      refine ⟨other, ?_, present, keyed⟩
      rintro rfl
      simp [found] at present
  | some old =>
      simp only [Option.elim_some, Store.find_removeResource]
      constructor
      · intro resource answer
        split at answer
        · cases answer
        · rename_i different
          obtain ⟨other, present, keyed⟩ := indexed.sound kind name resource answer
          refine ⟨other, ?_, present, keyed⟩
          rintro rfl
          simp only [found, Option.some.injEq] at present
          exact different (by rw [present]; exact keyed)
      · intro other resource different present keyed
        split
        · rename_i same
          exact (different (unshared old found _ same other resource present keyed).symm).elim
        · exact indexed.complete kind name other resource present keyed

theorem changeFile (indexed : Indexed store) {pathname : String}
    (unshared : Unshared store pathname) (data : Value) :
    Indexed (store.changeFile pathname data).1 where
  sound := by
    intro kind name resource answer
    have kept := (indexed.find_withoutFile unshared kind name).1
    simp only [Store.find_changeFile] at answer
    simp only [Store.files_changeFile]
    split at answer
    · rename_i fresh
      cases answer
      exact ⟨pathname, by simp [fresh.1], fresh.2⟩
    · obtain ⟨other, different, present, keyed⟩ := kept resource answer
      exact ⟨other, by simpa [different] using present, keyed⟩
  complete := by
    intro kind name other resource present keyed
    have kept := (indexed.find_withoutFile unshared kind name).2
    simp only [Store.files_changeFile] at present
    simp only [Store.find_changeFile]
    split
    · simp
    · rename_i unset
      by_cases same : pathname = other
      · simp only [same, if_true] at present
        split at present
        · rename_i loaded
          cases present
          exact (unset ⟨loaded, keyed⟩).elim
        · cases present
      · simp only [same, if_false] at present
        exact kept other resource same present keyed

end Indexed

/-! The start-up loader is a run of `changeFile` over the files it keeps. -/

theorem tracks_empty : Tracks Store.empty where
  fresh := by intro pathname resource present; cases present
  injective := by intro pathname other resource twin present; cases present
  once := by intro kind; exact List.Pairwise.nil
  listed := by
    intro kind resource
    constructor
    · intro member; cases member
    · rintro ⟨pathname, present, _⟩; cases present

theorem indexed_empty : Indexed Store.empty where
  sound := by intro kind name resource answer; cases answer
  complete := by intro kind name pathname resource present; cases present

theorem loadFile_eq_changeFile (store : Store) (file : String × Value)
    (new : store.files.get? file.1 = none) (kept : Store.loadable file.2 = true) :
    store.loadFile file = (store.changeFile file.1 file.2).1 := by
  have present : file.2.truthy = true := by
    simp only [Store.loadable, Bool.and_eq_true] at kept
    exact kept.1.1
  simp only [Store.loadFile, kept, if_true, Store.changeFile, new, present, Option.elim_none,
    Option.elim_some]
  simp only [Store.appendResource]
  split <;> rfl

theorem unshared_new {store : Store} {pathname : String}
    (new : store.files.get? pathname = none) : Unshared store pathname := by
  intro old present
  simp [new] at present

/-- What the loader has built when it has gone through a listing. -/
structure Loaded (store : Store) (listing : List (String × Value)) : Prop where
  tracks : Tracks store
  indexed : Indexed store
  files : ∀ pathname, (store.files.get? pathname).map Resource.data =
    (Table.lookupIn pathname listing).filter Store.loadable

theorem loaded_loadFile {store : Store} {listing : List (String × Value)}
    (loaded : Loaded store listing) (file : String × Value)
    (new : file.1 ∉ listing.map Prod.fst) : Loaded (store.loadFile file) (listing ++ [file]) := by
  have absent : Table.lookupIn file.1 listing = none := by
    rw [Option.eq_none_iff_forall_ne_some]
    intro data found
    exact new (Table.mem_keys_of_lookupIn found)
  have unread : store.files.get? file.1 = none := by
    have data := loaded.files file.1
    rw [absent] at data
    simpa using data
  have lookup (pathname : String) : Table.lookupIn pathname (listing ++ [file]) =
      if file.1 = pathname then some file.2 else Table.lookupIn pathname listing := by
    rw [Table.lookupIn_append]
    by_cases same : file.1 = pathname
    · subst pathname
      simp [absent, Table.lookupIn]
    · simp [same, Table.lookupIn]
  by_cases kept : Store.loadable file.2 = true
  · rw [loadFile_eq_changeFile store file unread kept]
    refine ⟨loaded.tracks.changeFile file.1 file.2,
      loaded.indexed.changeFile (unshared_new unread) file.2, ?_⟩
    intro pathname
    rw [Store.files_changeFile, lookup]
    have present : file.2.truthy = true := by
      simp only [Store.loadable, Bool.and_eq_true] at kept
      exact kept.1.1
    by_cases same : file.1 = pathname
    · simp [same, present, Option.filter, kept]
    · simpa [same] using loaded.files pathname
  · have skipped : store.loadFile file = store := by simp [Store.loadFile, kept]
    rw [skipped]
    refine ⟨loaded.tracks, loaded.indexed, ?_⟩
    intro pathname
    rw [lookup]
    by_cases same : file.1 = pathname
    · subst pathname
      simp [unread, Option.filter, kept]
    · simpa [same] using loaded.files pathname

theorem loaded_init (table : Table Value) : Loaded (Store.init table.entries) table.entries := by
  have general : ∀ rest listing store, Loaded store listing →
      ((listing ++ rest).map Prod.fst).Nodup →
      Loaded (rest.foldl Store.loadFile store) (listing ++ rest) := by
    intro rest
    induction rest with
    | nil => intro listing store loaded _; simpa using loaded
    | cons file rest ih =>
        intro listing store loaded distinct
        have new : file.1 ∉ listing.map Prod.fst := by
          rw [List.map_append, List.nodup_append] at distinct
          intro member
          exact distinct.2.2 _ member _ (by simp) rfl
        have next := ih (listing ++ [file]) (store.loadFile file)
          (loaded_loadFile loaded file new) (by simpa using distinct)
        simpa using next
  exact general table.entries [] Store.empty ⟨tracks_empty, indexed_empty, fun _ => rfl⟩
    table.distinct

/-- A file created or replaced by a parsed document, or removed (`undefined`). -/
structure Change where
  pathname : String
  data : Value

/-- The configuration directory, and the store kept in step with it. -/
structure Directory where
  disk : Table Value
  store : Store

def Directory.start (initial : Table Value) : Directory := ⟨initial, Store.init initial.entries⟩

def Directory.change (directory : Directory) (change : Change) : Directory where
  disk := match change.data with
    | .undefined => directory.disk.erase change.pathname
    | data => directory.disk.set change.pathname data
  store := (directory.store.changeFile change.pathname change.data).1

def Directory.run (directory : Directory) (changes : List Change) : Directory :=
  changes.foldl Directory.change directory

/-- No two documents that a fresh load keeps have the same kind and name. -/
def DistinctNames (disk : Table Value) : Prop :=
  ∀ pathname other data twin key, disk.get? pathname = some data → disk.get? other = some twin →
    Store.loadable data = true → Store.loadable twin = true →
    indexKey data = some key → indexKey twin = some key → pathname = other

/-- The store answers as one built from the disk alone, however the directory is listed. -/
def MatchesFreshLoad (directory : Directory) : Prop :=
  ∀ listing, listing.Perm directory.disk.entries →
    (∀ kind, ((directory.store.list kind).map Resource.data).Perm
      (((Store.init listing).list kind).map Resource.data)) ∧
    ∀ kind name, (directory.store.find kind name).map Resource.data =
      ((Store.init listing).find kind name).map Resource.data

/-- A change the incremental path handles: a document with a kind has a spec, and what the
file held shares its kind and name with no other file. -/
def ChangeSound (directory : Directory) (change : Change) : Prop :=
  ((kindOf change.data).truthy = true → (change.data.opt "spec").truthy = true) ∧
    Unshared directory.store change.pathname

def ChangesSound : Directory → List Change → Prop
  | _, [] => True
  | directory, change :: rest =>
      ChangeSound directory change ∧ ChangesSound (directory.change change) rest

/-- Only documents with a kind are listed or indexed. -/
def kinded (resource : Option Resource) : Option Value :=
  (resource.map Resource.data).filter fun data => (kindOf data).truthy

/-- The invariant of a run of sound changes. -/
structure InStep (directory : Directory) : Prop where
  tracks : Tracks directory.store
  indexed : Indexed directory.store
  files : ∀ pathname, kinded (directory.store.files.get? pathname) =
    (directory.disk.get? pathname).filter Store.loadable

theorem truthy_of_opt {data : Value} {name : String} (present : (data.opt name).truthy = true) :
    data.truthy = true := by
  cases data <;> simp_all [Value.opt, Value.truthy]

theorem inStep_start (initial : Table Value) : InStep (Directory.start initial) := by
  have loaded := loaded_init initial
  refine ⟨loaded.tracks, loaded.indexed, ?_⟩
  intro pathname
  have files := loaded.files pathname
  simp only [Directory.start, Table.get?] at files ⊢
  rw [kinded, files, Option.filter_filter]
  congr 1
  funext data
  simp only [Store.loadable]
  cases data.truthy <;> cases (kindOf data).truthy <;> simp

theorem InStep.change {directory : Directory} (inStep : InStep directory) (change : Change)
    (sound : ChangeSound directory change) : InStep (directory.change change) := by
  refine ⟨inStep.tracks.changeFile change.pathname change.data,
    inStep.indexed.changeFile sound.2 change.data, ?_⟩
  intro pathname
  have disk : (directory.change change).disk.get? pathname =
      if change.pathname = pathname then
        match change.data with
        | .undefined => none
        | data => some data
      else directory.disk.get? pathname := by
    simp only [Directory.change]
    cases change.data <;> simp [Table.get?_erase, Table.get?_set]
  rw [disk]
  simp only [Directory.change, Store.files_changeFile, kinded]
  by_cases same : change.pathname = pathname
  · simp only [same, if_true]
    by_cases kinded : (kindOf change.data).truthy = true
    · have present := truthy_of_opt kinded
      have spec := sound.1 kinded
      have kept : Store.loadable change.data = true := by simp [Store.loadable, *]
      cases data : change.data <;>
        simp_all [Option.filter, Value.truthy]
    · have skipped : Store.loadable change.data = false := by simp [Store.loadable, kinded]
      cases data : change.data <;> simp_all [Option.filter] <;> split <;> simp_all
  · simpa [same, kinded] using inStep.files pathname

theorem InStep.run {directory : Directory} (inStep : InStep directory) (changes : List Change)
    (sound : ChangesSound directory changes) : InStep (directory.run changes) := by
  induction changes generalizing directory with
  | nil => exact inStep
  | cons change rest ih => exact ih (inStep.change change sound.1) sound.2

theorem Tracks.nodup_values {store : Store} (tracks : Tracks store) :
    store.files.values.Nodup := by
  have entries : store.files.entries.Nodup := List.Nodup.of_map Prod.fst store.files.distinct
  refine entries.map_on ?_
  intro entry inside other otherInside same
  have present := (Table.get?_eq_some store.files entry.1 entry.2).mpr inside
  have otherPresent := (Table.get?_eq_some store.files other.1 other.2).mpr otherInside
  exact Prod.ext (tracks.injective _ _ _ _ present otherPresent (by rw [same])) same

theorem Tracks.list_perm_files {store : Store} (tracks : Tracks store) (kind : String) :
    (store.list kind).Perm
      (store.files.values.filter fun resource => kindKey resource.data = some kind) := by
  have nodup : (store.list kind).Nodup :=
    (tracks.once kind).imp fun different same => different (by rw [same])
  rw [List.perm_ext_iff_of_nodup nodup (tracks.nodup_values.filter _)]
  intro resource
  rw [tracks.listed, List.mem_filter, Table.mem_values, decide_eq_true_eq]
  constructor
  · rintro ⟨pathname, present, kinded⟩
    exact ⟨⟨pathname, present⟩, kinded⟩
  · rintro ⟨⟨pathname, present⟩, kinded⟩
    exact ⟨pathname, present, kinded⟩

theorem list_data_perm {left right : Store} (tracksLeft : Tracks left) (tracksRight : Tracks right)
    (agree : ∀ pathname, kinded (left.files.get? pathname) = kinded (right.files.get? pathname))
    (kind : String) :
    ((left.list kind).map Resource.data).Perm ((right.list kind).map Resource.data) := by
  let select : Resource → Option Value := fun resource =>
    if kindKey resource.data = some kind then some resource.data else none
  have unfiltered (resources : List Resource) :
      (resources.filter fun resource => kindKey resource.data = some kind).map Resource.data =
        resources.filterMap select := by
    induction resources with
    | nil => rfl
    | cons resource rest ih =>
        by_cases same : kindKey resource.data = some kind <;> simp [select, same, ih]
  have selected (resource : Option Resource) : resource.bind select =
      (kinded resource).bind fun data => if kindKey data = some kind then some data else none := by
    cases resource with
    | none => rfl
    | some resource =>
        by_cases present : (kindOf resource.data).truthy <;>
          simp [select, kinded, Option.filter, kindKey, present]
  refine ((tracksLeft.list_perm_files kind).map _).trans
    (List.Perm.trans ?_ ((tracksRight.list_perm_files kind).map _).symm)
  rw [unfiltered, unfiltered]
  apply Table.perm_filterMap
  intro pathname
  rw [selected, selected, agree]

theorem kinded_eq_some {resource : Resource} {key : String × String}
    (keyed : indexKey resource.data = some key) : kinded (some resource) = some resource.data := by
  have present : (kindOf resource.data).truthy = true := by
    by_contra absent
    simp [indexKey, absent] at keyed
  simp [kinded, Option.filter, present]

theorem find_data_iff {store : Store} (indexed : Indexed store)
    (distinct : ∀ pathname other data twin key,
      kinded (store.files.get? pathname) = some data →
      kinded (store.files.get? other) = some twin →
      indexKey data = some key → indexKey twin = some key → pathname = other)
    (kind name : String) (data : Value) :
    (store.find kind name).map Resource.data = some data ↔
      ∃ pathname, kinded (store.files.get? pathname) = some data ∧
        indexKey data = some (kind, name) := by
  constructor
  · intro answer
    obtain ⟨resource, found, same⟩ := Option.map_eq_some_iff.mp answer
    obtain ⟨pathname, present, keyed⟩ := indexed.sound kind name resource found
    subst same
    exact ⟨pathname, by rw [present]; exact kinded_eq_some keyed, keyed⟩
  · rintro ⟨pathname, present, keyed⟩
    obtain ⟨source, sourceData⟩ :
        ∃ source, store.files.get? pathname = some source ∧ source.data = data := by
      rw [kinded, Option.filter_eq_some_iff] at present
      exact Option.map_eq_some_iff.mp present.1
    have answered := indexed.complete kind name pathname source sourceData.1
      (by rw [sourceData.2]; exact keyed)
    obtain ⟨found, answer⟩ := Option.ne_none_iff_exists'.mp answered
    obtain ⟨other, otherPresent, otherKeyed⟩ := indexed.sound kind name found answer
    have same : pathname = other := distinct pathname other data found.data (kind, name) present
      (by rw [otherPresent]; exact kinded_eq_some otherKeyed) keyed otherKeyed
    subst same
    rw [sourceData.1] at otherPresent
    cases otherPresent
    rw [answer, Option.map_some, sourceData.2]

theorem InStep.answers_eq {left right : Directory} (inStepLeft : InStep left)
    (inStepRight : InStep right) (disk : ∀ pathname,
      left.disk.get? pathname = right.disk.get? pathname) (distinct : DistinctNames left.disk) :
    (∀ kind, ((left.store.list kind).map Resource.data).Perm
      ((right.store.list kind).map Resource.data)) ∧
    ∀ kind name, (left.store.find kind name).map Resource.data =
      (right.store.find kind name).map Resource.data := by
  have agree (pathname : String) : kinded (left.store.files.get? pathname) =
      kinded (right.store.files.get? pathname) := by
    rw [inStepLeft.files, inStepRight.files, disk]
  have named : ∀ pathname other data twin key,
      kinded (left.store.files.get? pathname) = some data →
      kinded (left.store.files.get? other) = some twin →
      indexKey data = some key → indexKey twin = some key → pathname = other := by
    intro pathname other data twin key present twinPresent keyed twinKeyed
    rw [inStepLeft.files, Option.filter_eq_some_iff] at present twinPresent
    exact distinct pathname other data twin key present.1 twinPresent.1 present.2 twinPresent.2
      keyed twinKeyed
  refine ⟨list_data_perm inStepLeft.tracks inStepRight.tracks agree, ?_⟩
  intro kind name
  apply Option.ext
  intro data
  rw [find_data_iff inStepLeft.indexed named]
  rw [find_data_iff inStepRight.indexed (by simpa only [agree] using named)]
  simp only [agree]

/-- After any run of sound changes that ends with distinct names, the store answers as a
fresh load of the directory would. -/
theorem run_matchesFreshLoad (initial : Table Value) (changes : List Change)
    (sound : ChangesSound (Directory.start initial) changes)
    (distinct : DistinctNames ((Directory.start initial).run changes).disk) :
    MatchesFreshLoad ((Directory.start initial).run changes) := by
  have inStep := (inStep_start initial).run changes sound
  intro listing perm
  let relisted : Table Value :=
    ⟨listing, (perm.map Prod.fst).nodup_iff.mpr (Table.distinct _)⟩
  refine inStep.answers_eq (inStep_start relisted) ?_ distinct
  intro pathname
  apply Option.ext
  intro data
  rw [Table.get?_eq_some]
  exact perm.mem_iff.symm.trans (Table.get?_eq_some relisted pathname data).symm

/-! Two files that swap the names of their Backends. -/

def namedBackend (name : String) : Value :=
  .obj [("kind", .str "Backend"), ("metadata", .obj [("name", .str name)]), ("spec", .obj [])]

def twoBackends : Table Value :=
  (Table.empty.set "a.json" (namedBackend "one")).set "b.json" (namedBackend "two")

def swapNames : List Change :=
  [⟨"a.json", namedBackend "two"⟩, ⟨"b.json", namedBackend "one"⟩]

theorem distinctNames_swapped :
    DistinctNames ((Directory.start twoBackends).run swapNames).disk := by
  have entries : ((Directory.start twoBackends).run swapNames).disk.entries =
      [("a.json", namedBackend "two"), ("b.json", namedBackend "one")] := by rfl
  intro pathname other data twin key present twinPresent _ _ keyed twinKeyed
  rw [Table.get?_eq_some, entries] at present twinPresent
  have different : indexKey (namedBackend "two") ≠ indexKey (namedBackend "one") := by decide
  simp only [List.mem_cons, Prod.mk.injEq, List.not_mem_nil, or_false] at present twinPresent
  rcases present with ⟨rfl, rfl⟩ | ⟨rfl, rfl⟩ <;> rcases twinPresent with ⟨rfl, rfl⟩ | ⟨rfl, rfl⟩
  · rfl
  · exact (different (keyed.trans twinKeyed.symm)).elim
  · exact (different (twinKeyed.trans keyed.symm)).elim
  · rfl

theorem swapNames_loses_backend :
    ¬ ∀ (initial : Table Value) (changes : List Change),
      DistinctNames ((Directory.start initial).run changes).disk →
        MatchesFreshLoad ((Directory.start initial).run changes) := by
  intro claimed
  have same := (claimed twoBackends swapNames distinctNames_swapped _ (List.Perm.refl _)).2
    "Backend" "two"
  have lost : (((Directory.start twoBackends).run swapNames).store.find "Backend" "two").map
      Resource.data = none := by rfl
  have kept : ((Store.init ((Directory.start twoBackends).run swapNames).disk.entries).find
      "Backend" "two").map Resource.data = some (namedBackend "two") := by rfl
  rw [lost, kept] at same
  cases same

def oneBackend : Table Value := Table.empty.set "a.json" (namedBackend "one")

/-- Renaming the only Backend is a sound change. -/
theorem rename_matchesFreshLoad :
    MatchesFreshLoad ((Directory.start oneBackend).run [⟨"a.json", namedBackend "two"⟩]) := by
  have loadedFiles : (Directory.start oneBackend).store.files.entries =
      [("a.json", ⟨0, namedBackend "one"⟩)] := by rfl
  have diskFiles : ((Directory.start oneBackend).run [⟨"a.json", namedBackend "two"⟩]).disk.entries =
      [("a.json", namedBackend "two")] := by rfl
  apply run_matchesFreshLoad
  · refine ⟨⟨fun _ => by decide, ?_⟩, trivial⟩
    intro old _ key _ other resource present _
    rw [Table.get?_eq_some, loadedFiles] at present
    simp only [List.mem_singleton, Prod.mk.injEq] at present
    exact present.1
  · intro pathname other data twin key present twinPresent _ _ _ _
    rw [Table.get?_eq_some, diskFiles] at present twinPresent
    simp only [List.mem_singleton, Prod.mk.injEq] at present twinPresent
    exact present.1.trans twinPresent.1.symm

end Fgw
