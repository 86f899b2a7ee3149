import Mathlib.Data.List.Induction
import SyncHistory.Proofs.DebugRecord
import SyncHistory.Proofs.Listing

/-!
# Debug records from records in memory

Records of connections and connectors that are kept in memory come about by changes made one after the
other (`ConnectorTables.after`). The connection that an identifier leads to is the one that was stored
last under it, unless it has been removed since (`ConnectorTables.connection?_after`).

An actor is given without a check while its definition is not stored. Such an actor never gets into a
debug record: its definition is looked up in the same table later on, and then it is missing. So the
configurations in a debug record have been checked, and under the very definitions that the record has
(`debug_record_consistent`).
-/

namespace SyncHistory

/-- The change stores a connection under an identifier, or removes the one that is stored there. -/
def ConnectorChange.TouchesConnection (id : Uuid) : ConnectorChange → Prop
  | .insertConnection record => record.id = id
  | .removeConnection removed => removed = id
  | _ => False

/-- Of the changes that touch the identifier of a connection, the last one stores this connection. -/
def ConnectorChange.StoresLast (changes : List ConnectorChange) (c : Connection) : Prop :=
  ∃ before since, changes = before ++ .insertConnection c :: since ∧
    ∀ change ∈ since, ¬ change.TouchesConnection c.id

namespace ConnectorChange

variable {changes : List ConnectorChange} {last : ConnectorChange} {c : Connection}

@[simp] theorem not_storesLast_nil : ¬ StoresLast [] c := by
  rintro ⟨before, since, none, -⟩
  exact List.append_ne_nil_of_right_ne_nil before (List.cons_ne_nil _ since) none.symm

/-- What is stored last was stored last before one more change that does not touch it, or is stored by
that change. -/
theorem storesLast_concat :
    StoresLast (changes ++ [last]) c ↔
      last = .insertConnection c ∨ ¬ last.TouchesConnection c.id ∧ StoresLast changes c := by
  constructor
  · rintro ⟨before, since, same, untouched⟩
    -- the last change is the one that stores the connection, or it came after that one
    rcases List.eq_nil_or_concat since with rfl | ⟨since, final, rfl⟩
    · exact .inl (List.singleton_inj.mp (List.append_inj' same rfl).2)
    · rw [List.concat_eq_append] at same untouched
      rw [← List.cons_append, ← List.append_assoc] at same
      obtain ⟨rfl, final_eq⟩ := List.append_inj' same rfl
      cases final_eq
      obtain ⟨untouched, kept⟩ := List.forall_mem_append.mp untouched
      exact .inr ⟨kept last (List.mem_singleton_self last), before, since, rfl, untouched⟩
  · rintro (rfl | ⟨kept, before, since, rfl, untouched⟩)
    · exact ⟨changes, [], rfl, fun _ mem => by cases mem⟩
    · refine ⟨before, since ++ [last], by rw [List.append_assoc, List.cons_append], ?_⟩
      exact List.forall_mem_append.mpr ⟨untouched, List.forall_mem_singleton.mpr kept⟩

end ConnectorChange

namespace ConnectorTables

/-! ## Tables after changes -/

/-- The connection that an identifier leads to, if there is one. -/
def connection? (t : ConnectorTables) (id : Uuid) : Option Connection :=
  t.connections.find? fun c => c.id == id

theorem connection?_id {t : ConnectorTables} {id : Uuid} {c : Connection}
    (found : t.connection? id = some c) : c.id = id :=
  beq_iff_eq.mp (List.find?_some (p := fun c : Connection => c.id == id) found)

theorem connection?_insert (t : ConnectorTables) (record : Connection) (id : Uuid) :
    (t.change (.insertConnection record)).connection? id =
      if record.id = id then some record else t.connection? id := by
  show (record :: t.connections).find? (fun c => c.id == id) = _
  by_cases own : record.id = id
  · rw [if_pos own, List.find?_cons_of_pos (by simpa using own)]
  · rw [if_neg own, List.find?_cons_of_neg (by simpa using own), connection?]

theorem connection?_remove (t : ConnectorTables) (removed id : Uuid) :
    (t.change (.removeConnection removed)).connection? id =
      if removed = id then none else t.connection? id := by
  show (t.connections.filter fun c => c.id != removed).find? (fun c => c.id == id) = _
  rw [List.find?_filter]
  by_cases own : removed = id
  · rw [if_pos own, List.find?_eq_none]
    simp [own]
  · rw [if_neg own, connection?]
    refine congrArg (List.find? · t.connections) (funext fun c => ?_)
    rw [Bool.eq_iff_iff, decide_eq_true_iff, and_iff_right_iff_imp, beq_iff_eq, bne_iff_ne]
    rintro rfl removes
    exact own removes.symm

/-- After a change an identifier leads to the connection that the change stores under it, or to the one
that it led to before if the change does not touch it. -/
theorem connection?_change (t : ConnectorTables) (change : ConnectorChange) {id : Uuid} {c : Connection} :
    (t.change change).connection? id = some c ↔ c.id = id ∧ (change = .insertConnection c ∨
      ¬ change.TouchesConnection id ∧ t.connection? id = some c) := by
  cases change with
  | insertConnection record =>
    rw [connection?_insert]
    by_cases own : record.id = id
    · rw [if_pos own]
      constructor
      · rintro ⟨⟩
        exact ⟨own, .inl rfl⟩
      · rintro ⟨-, same | ⟨untouched, -⟩⟩
        · cases same
          rfl
        · exact absurd own untouched
    · rw [if_neg own]
      constructor
      · exact fun found => ⟨connection?_id found, .inr ⟨own, found⟩⟩
      · rintro ⟨own', same | ⟨-, found⟩⟩
        · cases same
          exact absurd own' own
        · exact found
  | removeConnection removed =>
    rw [connection?_remove]
    by_cases own : removed = id
    · rw [if_pos own]
      refine iff_of_false (fun h => by cases h) ?_
      rintro ⟨-, same | ⟨untouched, -⟩⟩
      · cases same
      · exact untouched own
    · rw [if_neg own]
      constructor
      · exact fun found => ⟨connection?_id found, .inr ⟨own, found⟩⟩
      · rintro ⟨-, same | ⟨-, found⟩⟩
        · cases same
        · exact found
  | _ =>
    -- a change of another kind of record
    constructor
    · exact fun found => ⟨connection?_id found, .inr ⟨fun h => h, found⟩⟩
    · rintro ⟨-, same | ⟨-, found⟩⟩
      · cases same
      · exact found

/-- The tables after changes made one after the other. -/
def after (changes : List ConnectorChange) : ConnectorTables := changes.foldl change empty

theorem after_concat (changes : List ConnectorChange) (last : ConnectorChange) :
    after (changes ++ [last]) = (after changes).change last :=
  List.foldl_append ..

/-- An identifier leads to the connection that was stored last under it, if that is still there. -/
theorem connection?_after {changes : List ConnectorChange} {id : Uuid} {c : Connection} :
    (after changes).connection? id = some c ↔ c.id = id ∧ ConnectorChange.StoresLast changes c := by
  induction changes using List.reverseRecOn with
  | nil => exact iff_of_false (fun h => by cases h) fun h => ConnectorChange.not_storesLast_nil h.2
  | append_singleton changes last ih =>
    rw [after_concat, connection?_change, ConnectorChange.storesLast_concat, ih]
    refine and_congr_right fun own => or_congr_right ?_
    rw [own, and_iff_right rfl]

/-! ## Records that are given -/

theorem found_eq_ok {α : Type} {missing : LookupError} {record : Option α} {a : α} :
    found missing record = .ok a ↔ record = some a := by
  cases record with
  | none => exact iff_of_false (fun h => by cases h) fun h => by cases h
  | some b => exact ⟨fun h => congrArg some (Except.ok.inj h), fun h => congrArg Except.ok (Option.some.inj h)⟩

theorem definition_of_found {definitions : List Definition} {missing : LookupError} {id : Uuid}
    {d : Definition} (given : found missing (definitions.find? fun d => d.id == id) = .ok d) :
    d.id = id ∧ definitions.find? (fun d => d.id == id) = some d := by
  have stored := found_eq_ok.mp given
  exact ⟨by simpa using List.find?_some stored, stored⟩

/-- An actor that is given has the identifier that was asked for, and is valid under its definition if
that is stored. -/
theorem actor_eq_ok [SchemaChecker] {actors : List Actor} {definitions : List Definition}
    {missing : LookupError} {id : Uuid} {a : Actor} (given : actor actors definitions id missing = .ok a) :
    a.id = id ∧ ∀ d, definitions.find? (fun d => d.id == a.definitionId) = some d →
      validateConfiguration a.id a.configuration d.spec = .ok () := by
  rw [actor] at given
  cases stored : actors.find? fun a => a.id == id with
  | none =>
    rw [stored] at given
    cases given
  | some actor =>
    have own : actor.id = id := by simpa using List.find?_some stored
    simp only [stored] at given
    cases defined : definitions.find? fun d => d.id == actor.definitionId with
    | none =>
      -- given without a check, but then there is no definition to be valid under either
      simp only [defined] at given
      cases given
      refine ⟨own, fun d known => ?_⟩
      cases defined.symm.trans known
    | some definition =>
      simp only [defined] at given
      obtain ⟨⟨⟩, valid, rfl⟩ := map_eq_ok.mp given
      refine ⟨own, fun d known => ?_⟩
      cases defined.symm.trans known
      exact valid

/-- An actor and its definition that are both given. -/
theorem checked_of_given [SchemaChecker] {actors : List Actor} {definitions : List Definition}
    {missing missing' : LookupError} {id : Uuid} {a : Actor} {d : Definition}
    (actorGiven : actor actors definitions id missing = .ok a)
    (definitionGiven : found missing' (definitions.find? fun d => d.id == a.definitionId) = .ok d) :
    a.id = id ∧ d.id = a.definitionId ∧ validateConfiguration a.id a.configuration d.spec = .ok () := by
  obtain ⟨own, checked⟩ := actor_eq_ok actorGiven
  obtain ⟨refers, stored⟩ := definition_of_found definitionGiven
  exact ⟨own, refers, checked d stored⟩

end ConnectorTables

/-- **Debug records are consistent.** Whatever the store of jobs answers, and whoever checks configurations
under schemas, a debug record with records that were given from tables in memory hangs together: it has the
connection that its job belongs to, as it was stored last, the source and the destination of this
connection and their definitions, and the configurations of both are valid under the specifications of
these definitions. -/
theorem debug_record_consistent [SchemaChecker] (changes : List ConnectorChange) (logLines : Nat)
    (platformVersion : String) (asksWorkflow : Bool) (id : JobId) {t : List (Exchange surroundings)}
    {info : DebugInfo}
    (comes : (Inquiry.debugInfo logLines platformVersion asksWorkflow id).Converses t (.ok info))
    (given : ∀ (q : ConnectorQuery) (record : q.Result),
      (⟨.connectors q, .ok record⟩ : Exchange surroundings) ∈ t →
        (ConnectorTables.after changes).answer q = .ok record) :
    (∃ job, (⟨.jobs (.get id), .ok (some job)⟩ : Exchange surroundings) ∈ t ∧
      info.job.configId = job.scope ∧ Uuid.parse? job.scope = some info.connection.id) ∧
    ConnectorChange.StoresLast changes info.connection ∧
    info.source.id = info.connection.sourceId ∧
    info.destination.id = info.connection.destinationId ∧
    info.job.sourceDefinition.id = info.source.definitionId ∧
    info.job.destinationDefinition.id = info.destination.definitionId ∧
    validateConfiguration info.source.id info.source.configuration info.job.sourceDefinition.spec =
      .ok () ∧
    validateConfiguration info.destination.id info.destination.configuration
      info.job.destinationDefinition.spec = .ok () := by
  obtain ⟨_, ⟨f, rfl, rfl⟩, passed⟩ :=
    (Inquiry.follows_debugInfo logLines platformVersion asksWorkflow id).ok.mp comes
  have gives {q : ConnectorQuery} {r : q.Result}
      (stage : .asked (.connectors q) (.ok r) ∈ f.stages asksWorkflow id) :
      (ConnectorTables.after changes).answer q = .ok r := given q r (passed.mem stage)
  have connection := ConnectorTables.found_eq_ok.mp
    (gives (q := .connection f.owner) (r := f.connection) (by simp [DebugFindings.stages]))
  obtain ⟨leads, last⟩ := ConnectorTables.connection?_after.mp connection
  obtain ⟨source, sourceDefinition, sourceValid⟩ := ConnectorTables.checked_of_given
    (gives (q := .source f.connection.sourceId) (r := f.source) (by simp [DebugFindings.stages]))
    (gives (q := .sourceDefinition f.source.definitionId) (r := f.sourceDefinition)
      (by simp [DebugFindings.stages]))
  obtain ⟨destination, destinationDefinition, destinationValid⟩ := ConnectorTables.checked_of_given
    (gives (q := .destination f.connection.destinationId) (r := f.destination)
      (by simp [DebugFindings.stages]))
    (gives (q := .destinationDefinition f.destination.definitionId) (r := f.destinationDefinition)
      (by simp [DebugFindings.stages]))
  refine ⟨⟨f.job, ?_, rfl, ?_⟩, last, source, destination, sourceDefinition, destinationDefinition,
    sourceValid, destinationValid⟩
  · exact passed.mem (by simp [DebugFindings.stages])
  · have known : (Stage.owner f.job.scope).failure? = none :=
      passed.1 _ (by simp [DebugFindings.stages])
    cases read : Uuid.parse? f.job.scope with
    | none =>
      rw [Stage.failure?, read] at known
      cases known
    | some owner => exact congrArg some ((f.owner_eq owner read).symm.trans leads.symm)

/-- A connection that was stored twice, removed and stored again, and a source whose definition came after
it. -/
theorem debug_record_consistent_restored :
    let uuid (digit : Fin 16) : Uuid := ⟨.replicate 32 digit⟩
    let spec := Json.obj [("connectionSpecification", .obj [("required", .arr [.str "host"])])]
    let changes : List ConnectorChange :=
      [.insertConnection ⟨uuid 1, "first", uuid 8, uuid 3, "active"⟩,
        .insertConnection ⟨uuid 1, "second", uuid 2, uuid 3, "active"⟩, .removeConnection (uuid 1),
        .insertConnection ⟨uuid 1, "third", uuid 2, uuid 3, "active"⟩,
        .insertSource ⟨uuid 2, "", uuid 4, uuid 9, .obj [("host", .str "db")]⟩,
        .insertDestination ⟨uuid 3, "", uuid 5, uuid 9, .obj []⟩,
        .insertSourceDefinition ⟨uuid 4, "", "", "", spec⟩,
        .insertDestinationDefinition ⟨uuid 5, "", "", "", .obj []⟩]
    let job : Job := ⟨7, .sync, (uuid 1).text, none, .failed, ⟨0, 0⟩, ⟨0, 0⟩, none, []⟩
    let s := Session.setUp (.insertJob job :: changes.map .connectors)
    ∃ t info, s.outcome (.debugInfo 1000 "dev" false 7) = .ok info ∧
      (Inquiry.debugInfo 1000 "dev" false 7).Converses t (.ok info) ∧
      (∀ (q : ConnectorQuery) (record : q.Result),
        (⟨.connectors q, .ok record⟩ : Exchange surroundings) ∈ t →
          (ConnectorTables.after changes).answer q = .ok record) ∧
      info.connection.name = "third" ∧
      ConnectorChange.StoresLast changes info.connection ∧
      validateConfiguration info.source.id info.source.configuration info.job.sourceDefinition.spec =
        .ok () := by
  intro uuid spec changes job s
  obtain ⟨t, comes, same⟩ := Prog.exists_converses_eval (I := surroundings) s.reply
    (Inquiry.debugInfo 1000 "dev" false 7).run
  have given (q : ConnectorQuery) (record : q.Result)
      (mem : (⟨.connectors q, .ok record⟩ : Exchange surroundings) ∈ t) :
      (ConnectorTables.after changes).answer q = .ok record := (same _ mem).symm
  have names : ((Inquiry.debugInfo 1000 "dev" false 7).run.eval s.reply).toOption.map
      (·.connection.name) = some "third" := by decide +kernel
  cases answered : (Inquiry.debugInfo 1000 "dev" false 7).run.eval s.reply with
  | error e =>
    rw [answered] at names
    cases names
  | ok info =>
    rw [answered] at comes names
    obtain ⟨-, last, -, -, -, -, valid, -⟩ :=
      debug_record_consistent changes 1000 "dev" false 7 comes given
    exact ⟨t, info, (s.outcome_eq_eval _).trans answered, comes, given, Option.some.inj names, last, valid⟩

end SyncHistory
