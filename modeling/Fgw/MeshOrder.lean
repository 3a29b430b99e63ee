import Fgw.Library.Runs
import Fgw.MeshCore

/-!
Whether the store catches up with the mesh.  It does in runs where no write falls between an
initial read and the first watch, and no read is served after a later one of the same file.
-/

namespace Fgw

variable {Data : Type}

/-- The store has the document as the file's content, or nothing where it is no resource. -/
def HasContent (store : Store) (pathname : String) (data : Value) : Prop :=
  match store.files.get? pathname with
  | some resource => resource.data = data
  | none => Store.loadable data = false

/-- What the store has of a file is its last written content. -/
def ReflectedAt (decoders : Decoders Data) (state : MeshState Data) (pathname : String) : Prop :=
  HasContent state.store pathname (readFileZTM decoders pathname (state.mesh.value pathname))

/-- The store has the last written content of every file, and its lists and dictionaries are
those of the files. -/
structure Reflects (decoders : Decoders Data) (state : MeshState Data) : Prop where
  files : ∀ pathname, ReflectedAt decoders state pathname
  tracks : Tracks state.store
  indexed : Indexed state.store

/-- The directory has been listed, and no notification and no read is outstanding. -/
structure MeshQuiet (state : MeshState Data) : Prop where
  started : state.phase ≠ .listing
  noticed : state.mesh.changed = []
  finished : state.mesh.reads = []

namespace MeshEvent

/-- No write is missed before the first watch, and no read is served after a later one; what
a changed file held shares its kind and name with no other file. -/
def Orderly (state : MeshState Data) : MeshEvent Data → Prop
  | write pathname _ => state.phase = .loading →
      ∃ read ∈ state.mesh.reads, read.key = pathname ∧ read.seen = none
  | complete _ pathname version _ _ =>
      (∀ old, state.mesh.served pathname = some old → old ≤ version) ∧
        (state.phase = .watching → Unshared state.store pathname)
  | _ => True

end MeshEvent

/-- The invariant of an orderly run. -/
structure Followed (decoders : Decoders Data) (state : MeshState Data) : Prop where
  tracks : Tracks state.store
  indexed : Indexed state.store
  listing : state.phase = .listing →
    state.mesh.reads = [] ∧ ∀ pathname, state.store.files.get? pathname = none
  loading : state.phase = .loading → (state.mesh.reads.map PendingRead.key).Nodup ∧
    ∀ read ∈ state.mesh.reads, state.store.files.get? read.key = none
  sound : state.phase ≠ .listing → state.mesh.Sound
  current : state.phase ≠ .listing → ∀ pathname,
    state.mesh.served pathname = some (state.mesh.version pathname) →
      ReflectedAt decoders state pathname

variable {decoders : Decoders Data} {state : MeshState Data}

theorem followed_initial (files : String → Option Data) :
    Followed decoders (MeshState.initial files) := by
  refine ⟨tracks_empty, indexed_empty, fun _ => ⟨rfl, fun _ => rfl⟩, ?_, ?_, ?_⟩
  · rintro ⟨⟩
  · exact fun started => (started rfl).elim
  · exact fun started => (started rfl).elim

theorem Followed.write (followed : Followed decoders state) (pathname : String)
    (data : Option Data) (orderly : (MeshEvent.write pathname data).Orderly state) :
    Followed decoders ((MeshEvent.write pathname data).step decoders state) := by
  refine ⟨followed.tracks, followed.indexed, followed.listing, followed.loading,
    fun started => ?_, fun started other served => ?_⟩
  · refine (followed.sound started).write ?_
    cases phase : state.phase with
    | listing => exact (started phase).elim
    | loading => exact Or.inr (orderly phase)
    | watching => exact Or.inl (by simp)
  · have bound := (followed.sound started).served other
    by_cases same : other = pathname
    · subst other
      simp only [MeshEvent.step, Watched.write, Function.update_self] at served
      have := bound _ served
      omega
    · simp only [MeshEvent.step, Watched.write, Function.update_of_ne same] at served
      have before := followed.current started other served
      simpa [ReflectedAt, MeshEvent.step, Watched.write, Function.update_of_ne same] using before

theorem readFileZTM_none (pathname : String) :
    readFileZTM decoders pathname none = .undefined := by
  unfold readFileZTM
  split
  · rfl
  split <;> rfl

theorem Followed.list (followed : Followed decoders state) {pathnames : List String}
    (enabled : (MeshEvent.list pathnames).Enabled state) :
    Followed decoders ((MeshEvent.list pathnames).step decoders state) := by
  obtain ⟨phase, distinct, present⟩ := enabled
  obtain ⟨_, unread⟩ := followed.listing phase
  refine ⟨followed.tracks, followed.indexed, ?_, fun _ => ⟨?_, fun read _ => unread read.key⟩,
    fun _ => Watched.sound_list state.mesh pathnames, fun _ pathname served => ?_⟩
  · rintro ⟨⟩
  · simpa [MeshEvent.step, Watched.list, Function.comp_def] using distinct
  · by_cases listed : pathname ∈ pathnames
    · simp [MeshEvent.step, Watched.list, listed] at served
    · have missing : state.mesh.value pathname = none := by
        simpa using mt (present pathname).mpr listed
      simp [ReflectedAt, HasContent, MeshEvent.step, Watched.list, unread pathname, missing,
        readFileZTM_none, Store.loadable, Value.truthy]

theorem Followed.watch (followed : Followed decoders state)
    (enabled : (MeshEvent.watch : MeshEvent Data).Enabled state) :
    Followed decoders ((MeshEvent.watch : MeshEvent Data).step decoders state) := by
  have started : state.phase ≠ .listing := by rw [enabled.1]; decide
  refine ⟨followed.tracks, followed.indexed, ?_, ?_, fun _ => followed.sound started,
    fun _ => followed.current started⟩
  · rintro ⟨⟩
  · rintro ⟨⟩

theorem Followed.notify (followed : Followed decoders state) {pathnames : List String}
    (enabled : (MeshEvent.notify pathnames).Enabled state) :
    Followed decoders ((MeshEvent.notify pathnames).step decoders state) := by
  have phase : ((MeshEvent.notify pathnames).step decoders state).phase = .watching := enabled.1
  refine ⟨followed.tracks, followed.indexed, ?_, ?_,
    fun started => (followed.sound started).notify pathnames, followed.current⟩
  · rw [phase]
    rintro ⟨⟩
  · rw [phase]
    rintro ⟨⟩

theorem Followed.sample (followed : Followed decoders state)
    {before after : List (PendingRead String (Option Data))} {pathname : String}
    (enabled : (MeshEvent.sample before pathname after).Enabled state) :
    Followed decoders ((MeshEvent.sample before pathname after).step decoders state) := by
  have underway : state.mesh.reads = before ++ ⟨pathname, none⟩ :: after := enabled
  refine ⟨followed.tracks, followed.indexed, fun phase => ?_, fun phase => ?_,
    fun started => (followed.sound started).sample underway, followed.current⟩
  · have none := (followed.listing phase).1
    simp [underway] at none
  · have loading := followed.loading phase
    rw [underway] at loading
    simpa [MeshEvent.step, Watched.sample, or_imp, forall_and] using loading

theorem received_spec (followed : Followed decoders state) {pathname : String} {data : Value}
    (loading : state.phase = .loading → state.store.files.get? pathname = none)
    (started : state.phase ≠ .listing)
    (orderly : state.phase = .watching → Unshared state.store pathname) :
    Tracks (state.received pathname data) ∧ Indexed (state.received pathname data) ∧
      (∀ other, other ≠ pathname →
        (state.received pathname data).files.get? other = state.store.files.get? other) ∧
      HasContent (state.received pathname data) pathname data := by
  have changed (unshared : Unshared state.store pathname) :
      Tracks (state.store.changeFile pathname data).1 ∧
      Indexed (state.store.changeFile pathname data).1 ∧
      (∀ other, other ≠ pathname → (state.store.changeFile pathname data).1.files.get? other =
        state.store.files.get? other) ∧
      HasContent (state.store.changeFile pathname data).1 pathname data := by
    refine ⟨followed.tracks.changeFile pathname data, followed.indexed.changeFile unshared data,
      fun other different => ?_, ?_⟩
    · rw [Store.files_changeFile, if_neg (Ne.symm different)]
    · rw [HasContent, Store.files_changeFile, if_pos rfl]
      by_cases present : data.truthy = true
      · simp [present]
      · simp [present, Store.loadable]
  cases phase : state.phase with
  | listing => exact (started phase).elim
  | watching =>
      have callback : state.received pathname data =
          (state.store.changeFile pathname data).1 := by simp [MeshState.received, phase]
      rw [callback]
      exact changed (orderly phase)
  | loading =>
      have callback : state.received pathname data = state.store.loadFile (pathname, data) := by
        simp [MeshState.received, phase]
      rw [callback]
      by_cases kept : Store.loadable data = true
      · rw [loadFile_eq_changeFile state.store (pathname, data) (loading phase) kept]
        exact changed (unshared_new (loading phase))
      · have skipped : state.store.loadFile (pathname, data) = state.store := by
          simp [Store.loadFile, kept]
        rw [skipped, HasContent, loading phase]
        exact ⟨followed.tracks, followed.indexed, fun _ _ => rfl, by simpa using kept⟩

theorem Followed.complete (followed : Followed decoders state)
    {before after : List (PendingRead String (Option Data))} {pathname : String} {version : Nat}
    {data : Option Data}
    (enabled : (MeshEvent.complete before pathname version data after).Enabled state)
    (orderly : (MeshEvent.complete before pathname version data after).Orderly state) :
    Followed decoders ((MeshEvent.complete before pathname version data after).step
      decoders state) := by
  have underway : state.mesh.reads = before ++ ⟨pathname, some (version, data)⟩ :: after := enabled
  have started : state.phase ≠ .listing := by
    intro phase
    have none := (followed.listing phase).1
    simp [underway] at none
  have unread (phase : state.phase = .loading) : state.store.files.get? pathname = none :=
    (followed.loading phase).2 ⟨pathname, some (version, data)⟩ (by simp [underway])
  obtain ⟨tracks, indexed, others, here⟩ := @received_spec Data decoders state followed pathname
    (readFileZTM decoders pathname data) unread started orderly.2
  have seen := (followed.sound started).seen ⟨pathname, some (version, data)⟩ (by simp [underway])
    version data rfl
  refine ⟨tracks, indexed, fun phase => (started phase).elim, fun phase => ?_,
    fun _ => (followed.sound started).serve underway orderly.1, fun _ other served => ?_⟩
  · have loading := followed.loading phase
    have distinct := loading.1
    rw [underway, List.map_append, List.map_cons, List.nodup_middle, List.nodup_cons,
      ← List.map_append] at distinct
    refine ⟨distinct.2, fun read member => ?_⟩
    have different : read.key ≠ pathname := by
      rintro rfl
      exact distinct.1 (List.mem_map.mpr ⟨read, member, rfl⟩)
    refine (others read.key different).trans (loading.2 read ?_)
    rw [underway]
    rcases List.mem_append.mp member with front | back <;> simp [*]
  · by_cases same : other = pathname
    · subst other
      simp only [MeshEvent.step, Watched.serve, Function.update_self, Option.some.injEq] at served
      have latest : data = state.mesh.value pathname := seen.2 served
      change HasContent _ pathname (readFileZTM decoders pathname (state.mesh.value pathname))
      rw [← latest]
      exact here
    · simp only [MeshEvent.step, Watched.serve, Function.update_of_ne same] at served
      have kept := followed.current started other served
      unfold ReflectedAt HasContent at kept ⊢
      rw [← others other same] at kept
      exact kept

theorem Followed.step (followed : Followed decoders state) (event : MeshEvent Data)
    (enabled : event.Enabled state) (orderly : event.Orderly state) :
    Followed decoders (event.step decoders state) := by
  cases event with
  | write pathname data => exact followed.write pathname data orderly
  | list pathnames => exact followed.list enabled
  | watch => exact followed.watch enabled
  | notify pathnames => exact followed.notify enabled
  | sample before pathname after => exact followed.sample enabled
  | complete before pathname version data after => exact followed.complete enabled orderly

/-- A run of `initZTM`, with whatever happens to the files meanwhile. -/
def MeshState.run (decoders : Decoders Data) (files : String → Option Data)
    (events : List (MeshEvent Data)) : MeshState Data :=
  events.foldl (MeshEvent.step decoders) (MeshState.initial files)

/-- Once an orderly run has come to rest, the store reflects the mesh. -/
theorem orderlyRun_reflects (decoders : Decoders Data) (files : String → Option Data)
    (events : List (MeshEvent Data))
    (enabled : EveryStep (MeshEvent.step decoders) MeshEvent.Enabled (MeshState.initial files)
      events)
    (orderly : EveryStep (MeshEvent.step decoders) MeshEvent.Orderly (MeshState.initial files)
      events)
    (quiet : MeshQuiet (MeshState.run decoders files events)) :
    Reflects decoders (MeshState.run decoders files events) := by
  have followed : Followed decoders (MeshState.run decoders files events) :=
    (enabled.and orderly).invariant
      (fun state event followed step => followed.step event step.1 step.2) (followed_initial files)
  have settled := (followed.sound quiet.started).settled quiet.noticed quiet.finished
  exact ⟨fun pathname => followed.current quiet.started pathname (settled pathname),
    followed.tracks, followed.indexed⟩

/-! Two reads of one file, the later of which completes first. -/

def meshBackend (name : String) : Value :=
  .obj [("kind", .str "Backend"), ("metadata", .obj [("name", .str name)]), ("spec", .obj [])]

/-- Files that hold documents as they are. -/
def plainDecoders : Decoders Value := ⟨some, some⟩

def noFiles : String → Option Value := fun _ => none

def oldRead : PendingRead String (Option Value) := ⟨"a.json", some (1, some (meshBackend "old"))⟩

/-- Each write is noticed and read at once, but the reads complete in the opposite order. -/
def twoWrites : List (MeshEvent Value) :=
  [.list [], .watch,
    .write "a.json" (some (meshBackend "old")), .notify ["a.json"], .sample [] "a.json" [],
    .write "a.json" (some (meshBackend "new")), .notify ["a.json"], .sample [oldRead] "a.json" [],
    .complete [oldRead] "a.json" 2 (some (meshBackend "new")) [],
    .complete [] "a.json" 1 (some (meshBackend "old")) []]

theorem twoWrites_enabled :
    EveryStep (MeshEvent.step plainDecoders) MeshEvent.Enabled (MeshState.initial noFiles)
      twoWrites := by
  have listed : (MeshEvent.list []).Enabled (MeshState.initial noFiles) :=
    ⟨rfl, List.nodup_nil, fun pathname => by simp [MeshState.initial, noFiles]⟩
  refine ⟨listed, ⟨rfl, rfl⟩, trivial, ⟨rfl, ?_⟩, rfl, trivial, ⟨rfl, ?_⟩, rfl, rfl, rfl, trivial⟩
  · rintro pathname member
    exact member
  · rintro pathname member
    exact member

theorem reversedReads_lose_update :
    ¬ ∀ (decoders : Decoders Value) (files : String → Option Value)
      (events : List (MeshEvent Value))
      (_ : EveryStep (MeshEvent.step decoders) MeshEvent.Enabled (MeshState.initial files) events)
      (_ : MeshQuiet (MeshState.run decoders files events)),
      Reflects decoders (MeshState.run decoders files events) := by
  intro claimed
  have reflects := claimed plainDecoders noFiles twoWrites twoWrites_enabled ⟨by decide, rfl, rfl⟩
  have here : ReflectedAt plainDecoders (MeshState.run plainDecoders noFiles twoWrites) "a.json" :=
    reflects.files "a.json"
  have kept : (MeshState.run plainDecoders noFiles twoWrites).store.files.get? "a.json" =
    some ⟨1, meshBackend "old"⟩ := rfl
  rw [ReflectedAt, HasContent, kept] at here
  have written : readFileZTM plainDecoders "a.json"
    ((MeshState.run plainDecoders noFiles twoWrites).mesh.value "a.json") = meshBackend "new" := rfl
  rw [written] at here
  simp [meshBackend] at here

def newRead : PendingRead String (Option Value) := ⟨"a.json", some (2, some (meshBackend "new"))⟩

/-- The same writes, read in their order. -/
def servedInOrder : List (MeshEvent Value) :=
  [.list [], .watch,
    .write "a.json" (some (meshBackend "old")), .notify ["a.json"], .sample [] "a.json" [],
    .write "a.json" (some (meshBackend "new")), .notify ["a.json"], .sample [oldRead] "a.json" [],
    .complete [] "a.json" 1 (some (meshBackend "old")) [newRead],
    .complete [] "a.json" 2 (some (meshBackend "new")) []]

theorem servedInOrder_enabled :
    EveryStep (MeshEvent.step plainDecoders) MeshEvent.Enabled (MeshState.initial noFiles)
      servedInOrder := by
  have listed : (MeshEvent.list []).Enabled (MeshState.initial noFiles) :=
    ⟨rfl, List.nodup_nil, fun pathname => by simp [MeshState.initial, noFiles]⟩
  exact ⟨listed, ⟨rfl, rfl⟩, trivial, ⟨rfl, fun pathname member => member⟩, rfl, trivial,
    ⟨rfl, fun pathname member => member⟩, rfl, rfl, rfl, trivial⟩

theorem servedInOrder_reflects :
    Reflects plainDecoders (MeshState.run plainDecoders noFiles servedInOrder) := by
  refine orderlyRun_reflects plainDecoders noFiles servedInOrder servedInOrder_enabled
    ⟨trivial, trivial, ?_, trivial, trivial, ?_, trivial, trivial, ⟨?_, ?_⟩, ⟨?_, ?_⟩, trivial⟩
    ⟨by decide, rfl, rfl⟩
  · rintro ⟨⟩
  · rintro ⟨⟩
  · rintro old ⟨⟩
    decide
  · exact fun _ => unshared_new rfl
  · rintro old ⟨⟩
    decide
  · intro _ old _ key _ other resource found _
    have only : Table.lookupIn other [("a.json", (⟨0, meshBackend "old"⟩ : Resource))] =
        some resource := found
    by_contra differs
    simp [Table.lookupIn, Ne.symm differs] at only

end Fgw
