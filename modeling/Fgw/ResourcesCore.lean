import Fgw.Library.Table
import Fgw.ScriptValue

/-!
The resource store: documents indexed by kind and name, the configuration files they were
read from, and the two ways a file enters the store, `init` at start-up and `changeFile`
while watching.
-/

namespace Fgw

/-- A parsed document.  `ref` is its identity as an object of the script. -/
structure Resource where
  ref : Nat
  data : Value

def kindOf (data : Value) : Value := data.opt "kind"

def nameOf (data : Value) : Value := (data.opt "metadata").opt "name"

/-- The documents of one kind, in arrival order and by name. -/
structure KindMap where
  list : List Resource
  dict : Table Resource

def KindMap.empty : KindMap := ⟨[], Table.empty⟩

structure Store where
  resourceMap : Table KindMap
  files : Table Resource
  nextRef : Nat

/-- `notifyCreate`, `notifyDelete` and `notifyUpdate`, which call `onResourceChange` with a
new resource, an old one, or both. -/
inductive Notification
  | create (resource : Resource)
  | delete (resource : Resource)
  | update (resource old : Resource)

namespace Notification

def newResource : Notification → Option Resource
  | create resource => some resource
  | delete _ => none
  | update resource _ => some resource

def oldResource : Notification → Option Resource
  | create _ => none
  | delete resource => some resource
  | update _ old => some old

/-- `newResource || oldResource` -/
def changed : Notification → Resource
  | create resource => resource
  | delete resource => resource
  | update resource _ => resource

/-- `res.kind`, which the controller switches on. -/
def kind (notification : Notification) : Value := kindOf notification.changed.data

/-- The changed resource, and the version it replaced if that is another object. -/
def versions : Notification → List Resource
  | create resource => [resource]
  | delete resource => [resource]
  | update resource old => [resource, old]

end Notification

namespace Store

def empty : Store := ⟨Table.empty, Table.empty, 0⟩

def kindMap (store : Store) (kind : String) : KindMap :=
  (store.resourceMap.get? kind).getD KindMap.empty

def list (store : Store) (kind : String) : List Resource := (store.kindMap kind).list

def find (store : Store) (kind name : String) : Option Resource :=
  (store.kindMap kind).dict.get? name

def appendResource (store : Store) (resource : Resource) : Store :=
  let kind := kindOf resource.data
  if kind.truthy then
    let map := store.kindMap kind.toKey
    let name := nameOf resource.data
    let dict := if name.truthy then map.dict.set name.toKey resource else map.dict
    { store with resourceMap := store.resourceMap.set kind.toKey ⟨map.list ++ [resource], dict⟩ }
  else store

/-- The list entry goes by identity, the dictionary entry by name. -/
def removeResource (store : Store) (resource : Resource) : Store :=
  let kind := kindOf resource.data
  if kind.truthy then
    match store.resourceMap.get? kind.toKey with
    | none => store
    | some map =>
        let name := nameOf resource.data
        let dict := if name.truthy then map.dict.erase name.toKey else map.dict
        let list := map.list.eraseP fun other => other.ref = resource.ref
        { store with resourceMap := store.resourceMap.set kind.toKey ⟨list, dict⟩ }
  else store

/-- The documents the start-up loader keeps. -/
def loadable (data : Value) : Bool :=
  data.truthy && (kindOf data).truthy && (data.opt "spec").truthy

def loadFile (store : Store) (file : String × Value) : Store :=
  if loadable file.2 then
    let resource := ⟨store.nextRef, file.2⟩
    appendResource { store with
      files := store.files.set file.1 resource
      nextRef := store.nextRef + 1 } resource
  else store

/-- Start-up over a directory listing, each file with the document read from it. -/
def init (listing : List (String × Value)) : Store := listing.foldl loadFile empty

/-- A changed kind is told as a deletion and a creation.  A document that replaces another
without having a kind itself is told as a creation only. -/
def changeNotifications (cur old : Option Resource) : List Notification :=
  match cur, old with
  | some cur, some old =>
      let curKind := kindOf cur.data
      let oldKind := kindOf old.data
      if curKind.truthy && curKind.strictEq oldKind then [.update cur old]
      else if curKind.truthy && oldKind.truthy then [.delete old, .create cur]
      else [.create cur]
  | some cur, none => [.create cur]
  | none, some old => [.delete old]
  | none, none => []

/-- `data` is `undefined` when the file is gone or cannot be parsed.  The notifications are
sent in order once the store has changed. -/
def changeFile (store : Store) (pathname : String) (data : Value) :
    Store × List Notification :=
  let old := store.files.get? pathname
  let cur : Option Resource := if data.truthy then some ⟨store.nextRef, data⟩ else none
  let removed := old.elim store store.removeResource
  let appended := cur.elim removed removed.appendResource
  let files := cur.elim (store.files.erase pathname) (store.files.set pathname)
  ({ appended with files := files, nextRef := store.nextRef + 1 }, changeNotifications cur old)

end Store

end Fgw
