import Fgw.Library.SharedWrites
import Fgw.ScriptValue

/-!
Authorization by headers.  A request is known by the consumer whose header it has, and what is
known of it is kept in an object that the requests of a TLS connection share.
-/

namespace Fgw

namespace PjsAuth

/-- An entry of `config.Consumers`. -/
abbrev Consumer := Table Value

def authName : String := "Headers-Authorization"

def authEntries (consumer : Consumer) : List (String × String) :=
  match consumer.get? authName with
  | some (.obj fields) => fields.map fun field => (field.1, field.2.toKey)
  | _ => []

def addCredential (consumer : Consumer) (table : Table (Table Consumer))
    (entry : String × String) : Table (Table Consumer) :=
  table.set entry.1 (((table.get? entry.1).getD .empty).set entry.2 consumer)

def headersAuthorization (consumers : List Consumer) : Table (Table Consumer) :=
  consumers.foldl
    (fun table consumer => (authEntries consumer).foldl (addCredential consumer) table) .empty

/-- A header as the key of a property, which an absent one is too. -/
def headerKey (headers : Table Value) (name : String) : String :=
  ((headers.get? name).getD .undefined).toKey

/-- `_consumer` of `auth.js`. -/
def findConsumer (consumers : List Consumer) (headers : Table Value) : Option Consumer :=
  (headersAuthorization consumers).entries.findSome? fun entry =>
    entry.2.get? (headerKey headers entry.1)

def assignFields (object consumer : Table Value) : Table Value :=
  consumer.entries.foldl (fun object field => object.set field.1 field.2) object

/-- `shared` is the object of the connection, whose variable each request starts with a copy of,
and `own` has the variables of the requests that have started, where they hold another object. -/
structure Connection where
  shared : Option (Table Value)
  own : List (Option Consumer)

def plain : Connection := ⟨none, []⟩

/-- What `certificate` makes of a handshake. -/
def terminated (fields : Table Value) : Connection := ⟨some fields, []⟩

namespace Connection

def streamStart (consumers : List Consumer) (connection : Connection) (headers : Table Value) :
    Connection :=
  match findConsumer consumers headers, connection.shared with
  | some consumer, some object => ⟨some (assignFields object consumer), connection.own ++ [none]⟩
  | some consumer, none => ⟨none, connection.own ++ [some consumer]⟩
  | none, shared => ⟨shared, connection.own ++ [none]⟩

/-- `__consumer` for a request that has started. -/
def consumerOf (connection : Connection) (request : Nat) : Option (Table Value) :=
  connection.shared.or (connection.own[request]?).join

/-- `_unauthorized` of `service.js` -/
def unauthorized (connection : Connection) (request : Nat) (enabled : Bool) : Bool :=
  enabled && !((((connection.consumerOf request).bind (·.get? authName)).getD .undefined).truthy)

end Connection

def Carries (consumers : List Consumer) (headers : Table Value) : Prop :=
  ∃ consumer ∈ consumers, ∃ entry ∈ authEntries consumer, headerKey headers entry.1 = entry.2

def credential (table : Table (Table Consumer)) (name value : String) : Option Consumer :=
  (table.get? name).bind (·.get? value)

theorem credential_add (consumer : Consumer) (table : Table (Table Consumer))
    (entry : String × String) (name value : String) :
    credential (addCredential consumer table entry) name value =
      if entry = (name, value) then some consumer else credential table name value := by
  obtain ⟨own, text⟩ := entry
  simp only [credential, addCredential, Table.get?_set, Prod.mk.injEq]
  by_cases same : own = name
  · subst same
    by_cases also : text = value
    · simp [also]
    · cases table.get? own <;> simp [also, Table.get?_set]
  · simp [same]

theorem credential_foldl (consumer : Consumer) (entries : List (String × String))
    (table : Table (Table Consumer)) (name value : String) :
    credential (entries.foldl (addCredential consumer) table) name value =
      if (name, value) ∈ entries then some consumer else credential table name value := by
  induction entries generalizing table with
  | nil => simp
  | cons entry rest ih =>
      rw [List.foldl_cons, ih, credential_add]
      by_cases later : (name, value) ∈ rest
      · simp [later]
      · by_cases here : entry = (name, value)
        · simp [here]
        · simp [later, here, Ne.symm here]

theorem credential_consumers (consumers : List Consumer) (table : Table (Table Consumer))
    (name value : String) :
    let built := consumers.foldl (fun table consumer =>
      (authEntries consumer).foldl (addCredential consumer) table) table
    ((credential built name value).isSome ↔
      (∃ consumer ∈ consumers, (name, value) ∈ authEntries consumer) ∨
        (credential table name value).isSome) ∧
    ∀ consumer, credential built name value = some consumer →
      (name, value) ∈ authEntries consumer ∨ credential table name value = some consumer := by
  induction consumers generalizing table with
  | nil => exact ⟨by simp, fun consumer found => Or.inr found⟩
  | cons first rest ih =>
      have later := ih ((authEntries first).foldl (addCredential first) table)
      simp only [List.foldl_cons, credential_foldl] at later ⊢
      by_cases here : (name, value) ∈ authEntries first
      · refine ⟨by simp [later.1, here], fun consumer found => ?_⟩
        rcases later.2 consumer found with own | same
        · exact Or.inl own
        · rw [if_pos here, Option.some.injEq] at same
          exact Or.inl (same ▸ here)
      · simpa [here] using later

theorem findConsumer_isSome (consumers : List Consumer) (headers : Table Value) :
    (findConsumer consumers headers).isSome ↔ Carries consumers headers := by
  have each (name value : String) := (credential_consumers consumers .empty name value).1
  rw [findConsumer, List.findSome?_isSome_iff]
  constructor
  · rintro ⟨⟨name, values⟩, inside, found⟩
    have known : credential (headersAuthorization consumers) name (headerKey headers name) =
        values.get? (headerKey headers name) := by
      rw [credential, (Table.get?_eq_some _ name values).mpr inside, Option.bind_some]
    rw [← known] at found
    rcases (each name (headerKey headers name)).mp found with ⟨consumer, member, entry⟩ | none
    · exact ⟨consumer, member, _, entry, rfl⟩
    · cases none
  · rintro ⟨consumer, member, ⟨name, value⟩, entry, same⟩
    have found := (each name value).mpr (Or.inl ⟨consumer, member, entry⟩)
    obtain ⟨values, inside, some⟩ := Option.bind_eq_some_iff.mp (Option.eq_some_of_isSome found)
    exact ⟨(name, values), (Table.get?_eq_some _ name values).mp inside, by rw [same, some]; rfl⟩

/-- Who is found has the entry that names the headers it is looked for in. -/
theorem authName_of_found {consumers : List Consumer} {headers : Table Value} {consumer : Consumer}
    (found : findConsumer consumers headers = some consumer) :
    ∃ fields, consumer.get? authName = some (.obj fields) := by
  obtain ⟨⟨name, values⟩, inside, value⟩ := List.exists_of_findSome?_eq_some found
  have known : credential (headersAuthorization consumers) name (headerKey headers name) =
      some consumer := by
    rw [credential, (Table.get?_eq_some _ name values).mpr inside, Option.bind_some]
    exact value
  rcases (credential_consumers consumers .empty _ _).2 consumer known with entry | none
  · rw [authEntries] at entry
    split at entry
    · rename_i fields has
      exact ⟨fields, has⟩
    · cases entry
  · cases none

theorem get?_assignFields (object consumer : Table Value) (name : String) :
    (assignFields object consumer).get? name = (consumer.get? name).or (object.get? name) := by
  rw [assignFields, Table.get?_foldl_set, Table.lastWrite_entries]

theorem truthy_authName {consumers : List Consumer} {headers : Table Value} {consumer : Consumer}
    (found : findConsumer consumers headers = some consumer) (object : Table Value) :
    (((consumer.get? authName).or (object.get? authName)).getD .undefined).truthy = true := by
  obtain ⟨fields, has⟩ := authName_of_found found
  rw [has, Option.some_or, Option.getD_some]
  rfl

namespace Connection

variable {consumers : List Consumer}

theorem shared_plain (starts : List (Table Value)) {connection : Connection}
    (own : connection.shared = none) :
    (starts.foldl (streamStart consumers) connection).shared = none ∧
      (starts.foldl (streamStart consumers) connection).own =
        connection.own ++ starts.map (findConsumer consumers) := by
  induction starts generalizing connection with
  | nil => simp [own]
  | cons headers rest ih =>
      have next : (connection.streamStart consumers headers).shared = none ∧
          (connection.streamStart consumers headers).own =
            connection.own ++ [findConsumer consumers headers] := by
        rw [streamStart, own]
        cases findConsumer consumers headers <;> simp
      rw [List.foldl_cons, (ih next.1).1, (ih next.1).2, next.2, List.map_cons]
      simp

/-- Once a request is known, all later looks at the shared object find a consumer in it. -/
theorem shared_terminated (starts : List (Table Value)) {connection : Connection}
    {object : Table Value} (shared : connection.shared = some object) :
    ∃ later, (starts.foldl (streamStart consumers) connection).shared = some later ∧
      (((later.get? authName).getD .undefined).truthy = true ↔
        ((object.get? authName).getD .undefined).truthy = true ∨
          ∃ headers ∈ starts, Carries consumers headers) := by
  induction starts generalizing connection object with
  | nil => exact ⟨object, shared, by simp⟩
  | cons headers rest ih =>
      cases found : findConsumer consumers headers with
      | none =>
          have next : (connection.streamStart consumers headers).shared = some object := by
            rw [streamStart, found]
            exact shared
          have absent : ¬ Carries consumers headers := by
            rw [← findConsumer_isSome, found]
            exact Bool.false_ne_true
          obtain ⟨later, kept, known⟩ := ih next
          exact ⟨later, kept, by simp [known, absent]⟩
      | some consumer =>
          have next : (connection.streamStart consumers headers).shared =
              some (assignFields object consumer) := by
            rw [streamStart, found, shared]
          have carried : Carries consumers headers := by
            rw [← findConsumer_isSome, found]
            rfl
          obtain ⟨later, kept, known⟩ := ih next
          refine ⟨later, kept, ?_⟩
          rw [known, get?_assignFields, truthy_authName found]
          simp [carried]

end Connection

/-- On a plain connection each request is let in by its own headers, and on a terminated one by
those of any request that has started before it is looked at. -/
theorem unauthorized_iff (consumers : List Consumer) (starts : List (Table Value))
    {request : Nat} {headers : Table Value} (started : starts[request]? = some headers) :
    ((starts.foldl (Connection.streamStart consumers) plain).unauthorized request true = true ↔
      ¬ Carries consumers headers) ∧
    ∀ fields : Table Value, fields.get? authName = none →
      ((starts.foldl (Connection.streamStart consumers) (terminated fields)).unauthorized
          request true = true ↔
        ∀ other ∈ starts, ¬ Carries consumers other) := by
  constructor
  · obtain ⟨shared, own⟩ := @Connection.shared_plain consumers starts plain rfl
    have seen : (starts.foldl (Connection.streamStart consumers) plain).consumerOf request =
        findConsumer consumers headers := by
      rw [Connection.consumerOf, shared, own]
      simp [plain, started]
    rw [← findConsumer_isSome, Connection.unauthorized, seen]
    cases found : findConsumer consumers headers with
    | none => simp [Value.truthy]
    | some consumer =>
        have known := truthy_authName found .empty
        rw [Table.get?_empty, Option.or_none] at known
        simp [known]
  · intro fields fresh
    obtain ⟨later, kept, known⟩ := @Connection.shared_terminated consumers starts
      (terminated fields) fields rfl
    rw [fresh] at known
    simp only [Connection.unauthorized, Connection.consumerOf, kept, Option.some_or,
      Option.bind_some, Bool.true_and, Bool.not_eq_true', ← Bool.not_eq_true, known]
    simp [Value.truthy]

def basicConsumer : Consumer :=
  ⟨[("userid", .str "test"), ("password", .str "123456"),
    (authName, .obj [("authorization", .str "Basic dGVzdDoxMjM0NTY=")])], by decide⟩

def basicHeaders : Table Value :=
  ⟨[("authorization", .str "Basic dGVzdDoxMjM0NTY=")], by decide⟩

/-- The second of two requests has no credentials, and is let in where TLS is terminated. -/
theorem secondRequest_unauthorized_iff :
    ([basicHeaders, .empty].foldl (Connection.streamStart [basicConsumer]) plain).unauthorized 1
        true = true ∧
      ([basicHeaders, .empty].foldl (Connection.streamStart [basicConsumer])
        (terminated ⟨[("type", .str "terminate")], by decide⟩)).unauthorized 1 true = false := by
  have both := unauthorized_iff [basicConsumer] [basicHeaders, .empty]
    (show [basicHeaders, .empty][1]? = some .empty from rfl)
  have known : Carries [basicConsumer] basicHeaders :=
    ⟨basicConsumer, by simp, ("authorization", "Basic dGVzdDoxMjM0NTY="), by decide, by decide⟩
  refine ⟨both.1.mpr ?_, ?_⟩
  · rintro ⟨consumer, member, entry, inside, same⟩
    obtain rfl := List.mem_singleton.mp member
    obtain rfl := List.mem_singleton.mp (show entry ∈ [_] from inside)
    exact absurd same (by decide)
  · rw [← Bool.not_eq_true, both.2 _ (by decide)]
    exact fun none => none basicHeaders (by simp) known

end PjsAuth

end Fgw
