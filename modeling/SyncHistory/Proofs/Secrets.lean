import Mathlib.Data.Multiset.ZeroCons
import SyncHistory.Proofs.CheckedConfigurations
import SyncHistory.Proofs.StoredConnectors

/-!
# Secrets

The configuration of an actor and the specification of a definition may hold secrets. To put a debug
record together they are looked up, checked by some `SchemaChecker` and carried along, so they can make it
fail; but nothing that they say gets into its document. This is a statement about two runs: over contents that differ in nothing
but secrets, the documents of two debug records are the same (`debug_document_hides_secrets`).

`Inquiry.Agree` relates two inquiries whose results correspond wherever both succeed. It holds of each
stage of a debug record and passes from the stages to the whole (`Inquiry.Agree.bind`). That the records
correspond which are looked up is a matter of what they are looked up in: of tables in memory, or of a
database, where a query may be answered from several tables but never looks at a secret to select its rows
(`ConnectorSql.Select.exists_alike`).
-/

namespace SyncHistory

open ConnectorSql

/-! ## Records without secrets -/

/-- The actor without its configuration. -/
def Actor.bare (a : Actor) : Actor := { a with configuration := .null }

/-- The definition without its specification. -/
def Definition.bare (d : Definition) : Definition := { d with spec := .null }

theorem Actor.toJson_bare (a : Actor) : a.bare.toJson = a.toJson := rfl

theorem Definition.toJson_bare (d : Definition) : d.bare.toJson = d.toJson := rfl

/-- The debug record without the secrets of its connectors. -/
def DebugInfo.bare (info : DebugInfo) : DebugInfo :=
  { info with
    job := { info.job with
      sourceDefinition := info.job.sourceDefinition.bare
      destinationDefinition := info.job.destinationDefinition.bare }
    source := info.source.bare
    destination := info.destination.bare }

theorem DebugInfo.toJson_bare (info : DebugInfo) : info.bare.toJson = info.toJson := by
  simp only [toJson, bare, DebugJob.toJson, Actor.toJson_bare, Definition.toJson_bare]

/-- What is no secret in a record. -/
def ConnectorQuery.bare : (q : ConnectorQuery) → q.Result → q.Result
  | connection _, c => c
  | source _, a | destination _, a => a.bare
  | sourceDefinition _, d | destinationDefinition _, d => d.bare

/-- A way of looking up records. -/
abbrev RecordLookup : Type := (q : ConnectorQuery) → Except LookupError q.Result

/-- Where both ways of looking up records find one, the records differ in nothing but secrets. -/
def RecordLookup.Alike (lookup lookup' : RecordLookup) : Prop :=
  ∀ (q : ConnectorQuery) (r r' : q.Result), lookup q = .ok r → lookup' q = .ok r' → q.bare r = q.bare r'

/-! ## Two runs of inquiries -/

/-- Looks up records, and has all else answered by somebody whose answers may depend on a state. -/
def RecordLookup.answer {σ : Type} (lookup : RecordLookup) (others : (q : Question) → StateM σ q.Answer) :
    (q : Question) → StateM σ q.Answer
  | .connectors q => pure (lookup q)
  | .jobs q => others (.jobs q)
  | .workflow connection => others (.workflow connection)
  | .file path => others (.file path)

namespace Inquiry

variable {σ α β γ δ : Type} {lookup lookup' : RecordLookup} {others : (q : Question) → StateM σ q.Answer}

/-- What comes of an inquiry, and the state after it. -/
def against (lookup : RecordLookup) (others : (q : Question) → StateM σ q.Answer) (p : Inquiry α) (s : σ) :
    Except HistoryError α × σ :=
  (Prog.run (I := surroundings) (lookup.answer others) p.run).run s

theorem against_bind (p : Inquiry α) (f : α → Inquiry β) (s : σ) :
    (p >>= f).against lookup others s =
      match p.against lookup others s with
      | (.ok a, s₁) => (f a).against lookup others s₁
      | (.error e, s₁) => (.error e, s₁) := by
  refine (congrFun (Prog.run_bind (lookup.answer others) p.run (ExceptT.bindCont f)) s).trans ?_
  show (fun x => (Prog.run (lookup.answer others) (ExceptT.bindCont f x.1)).run x.2)
    (p.against lookup others s) = _
  rcases p.against lookup others s with ⟨_ | _, _⟩
  · rfl
  · rfl

theorem against_bind_eq_ok {p : Inquiry α} {f : α → Inquiry β} {s s₂ : σ} {b : β} :
    (p >>= f).against lookup others s = (.ok b, s₂) ↔
      ∃ a s₁, p.against lookup others s = (.ok a, s₁) ∧ (f a).against lookup others s₁ = (.ok b, s₂) := by
  rw [against_bind]
  rcases p.against lookup others s with ⟨e | a, s₁⟩
  · refine iff_of_false (fun h => by cases h) ?_
    rintro ⟨_, _, h, -⟩
    cases h
  · constructor
    · exact fun h => ⟨a, s₁, rfl, h⟩
    · rintro ⟨_, _, h, h'⟩
      cases h
      exact h'

/-- Wherever two inquiries succeed that are made in the same state, one with each way of looking up
records, their results correspond and the state after them is the same. -/
def Agree (lookup lookup' : RecordLookup) (others : (q : Question) → StateM σ q.Answer)
    (R : α → β → Prop) (p : Inquiry α) (p' : Inquiry β) : Prop :=
  ∀ s a b s₁ s₂, p.against lookup others s = (.ok a, s₁) → p'.against lookup' others s = (.ok b, s₂) →
    R a b ∧ s₁ = s₂

namespace Agree

variable {R : α → β → Prop} {S : γ → δ → Prop}

theorem pure {a : α} {b : β} (same : R a b) : Agree lookup lookup' others R (pure a) (pure b) := by
  rintro s _ _ _ _ ⟨⟩ ⟨⟩
  exact ⟨same, rfl⟩

theorem throw {e : HistoryError} {p : Inquiry β} : Agree lookup lookup' others R (throw e) p := by
  rintro s _ _ _ _ ⟨⟩

theorem bind {p : Inquiry α} {p' : Inquiry β} {f : α → Inquiry γ} {f' : β → Inquiry δ}
    (first : Agree lookup lookup' others R p p')
    (rest : ∀ a b, R a b → Agree lookup lookup' others S (f a) (f' b)) :
    Agree lookup lookup' others S (p >>= f) (p' >>= f') := by
  intro s c d s₁ s₂ run run'
  obtain ⟨a, t, run, runRest⟩ := against_bind_eq_ok.mp run
  obtain ⟨b, t', run', runRest'⟩ := against_bind_eq_ok.mp run'
  obtain ⟨same, rfl⟩ := first s a b t t' run run'
  exact rest a b same t c d s₁ s₂ runRest runRest'

/-- What does not depend on records is the same with both ways of looking them up. -/
theorem of_eq {p : Inquiry α} (same : p.against lookup others = p.against lookup' others) :
    Agree lookup lookup' others Eq p p := by
  intro s a b s₁ s₂ run run'
  rw [same, run'] at run
  cases run
  exact ⟨rfl, rfl⟩

theorem jobs (q : JobQuery) : Agree lookup lookup' others Eq (Inquiry.jobs q) (Inquiry.jobs q) :=
  of_eq rfl

theorem workflow (connection : Uuid) :
    Agree lookup lookup' others Eq (Inquiry.workflow connection) (Inquiry.workflow connection) :=
  of_eq rfl

theorem file (path : String) : Agree lookup lookup' others Eq (Inquiry.file path) (Inquiry.file path) :=
  of_eq rfl

/-- Records that are looked up differ in nothing but secrets. -/
theorem connectors (alike : lookup.Alike lookup') (q : ConnectorQuery) :
    Agree lookup lookup' others (fun r r' => q.bare r = q.bare r') (Inquiry.connectors q)
      (Inquiry.connectors q) := by
  intro s r r' s₁ s₂ run run'
  obtain ⟨found, rfl⟩ := Prod.mk.inj run
  obtain ⟨found', rfl⟩ := Prod.mk.inj run'
  exact ⟨alike q r r' (mapError_eq_ok.mp found) (mapError_eq_ok.mp found'), rfl⟩

theorem mapM {f : α → Inquiry β} (each : ∀ a, Agree lookup lookup' others Eq (f a) (f a)) (as : List α) :
    Agree lookup lookup' others Eq (as.mapM f) (as.mapM f) := by
  induction as with
  | nil => exact pure rfl
  | cons a as ih =>
    rw [List.mapM_cons]
    refine bind (each a) ?_
    rintro b _ rfl
    refine bind ih ?_
    rintro bs _ rfl
    exact pure rfl

/-! ### The stages of a debug record -/

theorem job (id : JobId) : Agree lookup lookup' others Eq (Inquiry.job id) (Inquiry.job id) := by
  refine bind (jobs (.get id)) ?_
  rintro (_ | job) _ rfl
  · exact throw
  · exact pure rfl

theorem logTail (count : Nat) (path : Option String) :
    Agree lookup lookup' others Eq (Inquiry.logTail count path) (Inquiry.logTail count path) := by
  cases path with
  | none => exact pure rfl
  | some path =>
    refine bind (file path) ?_
    rintro (_ | _ | _) _ rfl
    · exact pure rfl
    · exact pure rfl
    · exact throw

theorem jobInfo (logLines : Nat) (job : Job) :
    Agree lookup lookup' others Eq (Inquiry.jobInfo logLines job) (Inquiry.jobInfo logLines job) := by
  have attempt (attempt : Attempt) : Agree lookup lookup' others Eq
      (attemptInfo logLines job.id attempt) (attemptInfo logLines job.id attempt) := by
    refine bind (logTail logLines attempt.logPath) ?_
    rintro lines _ rfl
    refine bind (jobs (.attemptStats job.id attempt.number)) ?_
    rintro stats _ rfl
    exact pure rfl
  refine bind (mapM attempt job.attempts) ?_
  rintro attempts _ rfl
  exact pure rfl

theorem owner (job : Job) :
    Agree lookup lookup' others Eq (Inquiry.owner job) (Inquiry.owner job) := by
  rw [Inquiry.owner]
  cases job.connectionId with
  | none => exact throw
  | some id => exact pure rfl

/-- Debug records differ in nothing but secrets. -/
theorem debugInfo (alike : lookup.Alike lookup') (logLines : Nat) (platformVersion : String)
    (asksWorkflow : Bool) (id : JobId) :
    Agree lookup lookup' others (fun info info' => info.bare = info'.bare)
      (Inquiry.debugInfo logLines platformVersion asksWorkflow id)
      (Inquiry.debugInfo logLines platformVersion asksWorkflow id) := by
  refine bind (job id) ?_
  rintro job _ rfl
  refine bind (jobInfo logLines job) ?_
  rintro info _ rfl
  refine bind (owner job) ?_
  rintro connectionId _ rfl
  refine bind (connectors alike (.connection connectionId)) ?_
  rintro connection _ rfl
  refine bind (connectors alike (.source connection.sourceId))
    fun (source source' : Actor) (sources : source.bare = source'.bare) => ?_
  refine bind (connectors alike (.destination connection.destinationId))
    fun (destination destination' : Actor) (destinations : destination.bare = destination'.bare) => ?_
  -- the definition that an actor refers to is no secret, so both runs ask for the same one
  have sourceRefers : source.definitionId = source'.definitionId := (Actor.mk.inj sources).2.2.1
  have destinationRefers : destination.definitionId = destination'.definitionId :=
    (Actor.mk.inj destinations).2.2.1
  rw [← sourceRefers, ← destinationRefers]
  refine bind (connectors alike (.sourceDefinition source.definitionId))
    fun (sourceDefinition sourceDefinition' : Definition)
      (sourceDefinitions : sourceDefinition.bare = sourceDefinition'.bare) => ?_
  refine bind (connectors alike (.destinationDefinition destination.definitionId))
    fun (destinationDefinition destinationDefinition' : Definition)
      (destinationDefinitions : destinationDefinition.bare = destinationDefinition'.bare) => ?_
  have records (state : Option WorkflowState) : Agree lookup lookup' others
      (fun info info' : DebugInfo => info.bare = info'.bare)
      (Pure.pure ⟨⟨job.id, job.configType, job.scope, job.status, platformVersion, sourceDefinition,
        destinationDefinition⟩, info.attempts, connection, source, destination, state⟩)
      (Pure.pure ⟨⟨job.id, job.configType, job.scope, job.status, platformVersion, sourceDefinition',
        destinationDefinition'⟩, info.attempts, connection, source', destination', state⟩) := by
    refine pure ?_
    simp only [DebugInfo.bare, sources, destinations, sourceDefinitions, destinationDefinitions]
  cases asksWorkflow with
  | true =>
    refine bind (workflow connectionId) ?_
    rintro state _ rfl
    exact records state
  | false => exact records none

end Agree

end Inquiry

/-! ## Contents in memory -/

namespace ConnectorTables

/-- The record that is stored under an identifier. -/
def record? (t : ConnectorTables) : (q : ConnectorQuery) → Option q.Result
  | .connection id => t.connections.find? fun c => c.id == id
  | .source id => t.sources.find? fun a => a.id == id
  | .destination id => t.destinations.find? fun a => a.id == id
  | .sourceDefinition id => t.sourceDefinitions.find? fun d => d.id == id
  | .destinationDefinition id => t.destinationDefinitions.find? fun d => d.id == id

/-- The tables hold the same records, but for their secrets. -/
def Alike (t t' : ConnectorTables) : Prop :=
  ∀ q : ConnectorQuery, (t.record? q).map q.bare = (t'.record? q).map q.bare

/-- An actor that is given is the one that is stored, whether it was checked or not. -/
theorem find?_of_actor [SchemaChecker] {actors : List Actor} {definitions : List Definition}
    {missing : LookupError} {id : Uuid} {a : Actor} (given : actor actors definitions id missing = .ok a) :
    actors.find? (fun a => a.id == id) = some a := by
  rw [actor] at given
  cases stored : actors.find? fun a => a.id == id with
  | none =>
    rw [stored] at given
    cases given
  | some actor =>
    simp only [stored] at given
    cases defined : definitions.find? fun d => d.id == actor.definitionId with
    | none =>
      simp only [defined] at given
      exact congrArg some (Except.ok.inj given)
    | some definition =>
      simp only [defined] at given
      obtain ⟨-, -, same⟩ := map_eq_ok.mp given
      exact congrArg some same

theorem record?_of_answer [SchemaChecker] {t : ConnectorTables} {q : ConnectorQuery} {r : q.Result}
    (given : t.answer q = .ok r) : t.record? q = some r := by
  cases q with
  | connection | sourceDefinition | destinationDefinition => exact found_eq_ok.mp given
  | source | destination => exact find?_of_actor given

theorem Alike.answer [SchemaChecker] {t t' : ConnectorTables} (alike : t.Alike t') :
    RecordLookup.Alike t.answer t'.answer := by
  intro q r r' given given'
  have same := alike q
  rw [record?_of_answer given, record?_of_answer given'] at same
  exact Option.some.inj same

end ConnectorTables

/-! ## Contents of a database -/

/-- Two rows of an answer have the same in every column that holds no secrets. -/
def Row.Alike (row row' : Row) : Prop :=
  ∀ name, name ≠ "configuration" → name ≠ "spec" → row.get name = row'.get name

namespace ConnectorSql

/-- Does the column hold secrets? -/
def Column.isSecret (c : Column) : Bool :=
  match c.table with
  | .actor => c.name == "configuration"
  | .version => c.name == "spec"
  | .connection | .definition => false

/-- Two rows of a table have the same in every column that holds no secrets. -/
structure TableRow.Alike (table : Table) (row row' : TableRow) : Prop where
  get : ∀ name, Column.isSecret ⟨table, name⟩ = false → row.get name = row'.get name
  flag : ∀ name, row.flags.lookup name = row'.flags.lookup name

theorem TableRow.Alike.symm {table : Table} {row row' : TableRow} (alike : row.Alike table row') :
    row'.Alike table row :=
  ⟨fun name isOpen => (alike.get name isOpen).symm, fun name => (alike.flag name).symm⟩

/-- The tables hold the same rows, in any order, but for secrets. -/
def Content.Alike (db db' : Content) : Prop :=
  ∀ table, Multiset.Rel (TableRow.Alike table) (db.rows table) (db'.rows table)

/-- Two combinations have the same in every column that holds no secrets. -/
structure Combination.Alike (c c' : Combination) : Prop where
  get : ∀ column : Column, column.isSecret = false → c.get column = c'.get column
  flag? : ∀ column : Column, c.flag? column = c'.flag? column

variable {db db' : Content} {c c' d : Combination} {table : Table} {row row' : TableRow}

theorem Content.Alike.symm (alike : db.Alike db') : db'.Alike db := fun table =>
  Multiset.rel_flip.mp ((alike table).mono fun _ _ _ _ rows => rows.symm)

theorem Content.Alike.exists_row (alike : db.Alike db') (stored : row ∈ db.rows table) :
    ∃ row' ∈ db'.rows table, row.Alike table row' :=
  Multiset.exists_mem_of_rel_of_mem (alike table) stored

theorem Combination.Alike.symm (alike : c.Alike c') : c'.Alike c :=
  ⟨fun column isOpen => (alike.get column isOpen).symm, fun column => (alike.flag? column).symm⟩

theorem Combination.Alike.add (alike : c.Alike c') (rows : row.Alike table row') :
    (c.add table row).Alike (c'.add table row') := by
  refine ⟨fun column isOpen => ?_, fun column => ?_⟩
  · by_cases own : column.table = table
    · subst own
      simp only [Combination.get, Combination.add, Function.update_self]
      exact rows.get column.name isOpen
    · simp only [Combination.get, Combination.add, Function.update_of_ne own]
      exact alike.get column isOpen
  · by_cases own : column.table = table
    · subst own
      simp only [Combination.flag?, Combination.add, Function.update_self]
      exact rows.flag column.name
    · simp only [Combination.flag?, Combination.add, Function.update_of_ne own]
      exact alike.flag? column

/-! ### Queries that select nothing by a secret -/

namespace Join

/-- The tables are not joined by a secret. -/
def IsOpen (j : Join) : Prop := j.key.isSecret = false ∧ j.target.isSecret = false

instance (j : Join) : Decidable j.IsOpen := inferInstanceAs (Decidable (_ ∧ _))

variable {j : Join}

theorem exists_alike_partner (isOpen : j.IsOpen) (alike : db.Alike db') (combinations : c.Alike c')
    (partner : row ∈ j.partners db c) : ∃ row' ∈ j.partners db' c', row.Alike j.key.table row' := by
  obtain ⟨stored, same, known⟩ := mem_partners.mp partner
  obtain ⟨row', stored', rows⟩ := alike.exists_row stored
  refine ⟨row', mem_partners.mpr ⟨stored', ?_, ?_⟩, rows⟩
  · rw [← rows.get j.key.name isOpen.1, same, combinations.get j.target isOpen.2]
  · rwa [← rows.get j.key.name isOpen.1]

theorem exists_alike (isOpen : j.IsOpen) (alike : db.Alike db') (combinations : c.Alike c')
    (mem : d ∈ j.extend db c) : ∃ d' ∈ j.extend db' c', d.Alike d' := by
  rw [extend] at mem
  split at mem
  · -- the combination stays without a partner in one content, and so it does in the other
    rename_i alone
    obtain ⟨outer, none⟩ := (Bool.and_eq_true _ _).mp alone
    have none' : j.partners db' c' = [] := by
      refine List.eq_nil_iff_forall_not_mem.mpr fun row' partner' => ?_
      obtain ⟨row, partner, -⟩ := exists_alike_partner isOpen alike.symm combinations.symm partner'
      rw [List.isEmpty_iff.mp none] at partner
      exact List.not_mem_nil partner
    refine ⟨c', ?_, List.mem_singleton.mp mem ▸ combinations⟩
    rw [extend, outer, none']
    exact List.mem_singleton_self c'
  · obtain ⟨row, partner, rfl⟩ := List.mem_map.mp mem
    obtain ⟨row', partner', rows⟩ := exists_alike_partner isOpen alike combinations partner
    exact ⟨_, mem_extend_of_partner partner', combinations.add rows⟩

/-- Tables joined one after the other. -/
theorem exists_alike_foldl (alike : db.Alike db') {joins : List Join} (isOpen : ∀ j ∈ joins, j.IsOpen)
    {cs cs' : List Combination} (covered : ∀ c ∈ cs, ∃ c' ∈ cs', c.Alike c') :
    ∀ d ∈ joins.foldl (fun cs j => cs.flatMap (j.extend db)) cs,
      ∃ d' ∈ joins.foldl (fun cs j => cs.flatMap (j.extend db')) cs', d.Alike d' := by
  induction joins generalizing cs cs' with
  | nil => exact covered
  | cons j joins ih =>
    obtain ⟨first, rest⟩ := List.forall_mem_cons.mp isOpen
    refine ih rest fun d mem => ?_
    obtain ⟨c, mem, joined⟩ := List.mem_flatMap.mp mem
    obtain ⟨c', mem', combinations⟩ := covered c mem
    obtain ⟨d', joined', combinations'⟩ := exists_alike first alike combinations joined
    exact ⟨d', List.mem_flatMap.mpr ⟨c', mem', joined'⟩, combinations'⟩

end Join

/-- The condition is not on a secret. -/
def Test.IsOpen : Test → Prop
  | isParam column _ _ => column.isSecret = false
  | isFalse _ => True

instance : (test : Test) → Decidable test.IsOpen
  | .isParam column _ _ => inferInstanceAs (Decidable (column.isSecret = false))
  | .isFalse _ => inferInstanceAs (Decidable True)

theorem Test.holds_eq {test : Test} (isOpen : test.IsOpen) (params : List SqlValue)
    (combinations : c.Alike c') : test.holds params c = test.holds params c' := by
  cases test with
  | isParam column cast place => rw [holds, holds, combinations.get column isOpen]
  | isFalse column => rw [holds, holds, combinations.flag? column]

namespace Select

/-- The query selects nothing by a secret. -/
structure IsOpen (s : Select) : Prop where
  joins : ∀ j ∈ s.joins, j.IsOpen
  tests : ∀ test ∈ s.tests, test.IsOpen

/-- Over contents that are alike a query that selects nothing by a secret selects combinations that are
alike. -/
theorem exists_alike {s : Select} (isOpen : s.IsOpen) (alike : db.Alike db') {params : List SqlValue}
    {row : Row} (mem : row ∈ s.rows db params) :
    ∃ c c', c.Alike c' ∧ s.row c = row ∧ s.row c' ∈ s.rows db' params := by
  obtain ⟨c, combined, holds, rfl⟩ := mem_rows.mp mem
  have start : ∀ c ∈ (db.rows s.source).map (Combination.empty.add s.source),
      ∃ c' ∈ (db'.rows s.source).map (Combination.empty.add s.source), c.Alike c' := by
    intro c mem
    obtain ⟨row, stored, rfl⟩ := List.mem_map.mp mem
    obtain ⟨row', stored', rows⟩ := alike.exists_row stored
    have empty : Combination.empty.Alike Combination.empty := ⟨fun _ _ => rfl, fun _ => rfl⟩
    exact ⟨_, List.mem_map_of_mem stored', empty.add rows⟩
  obtain ⟨c', combined', combinations⟩ := Join.exists_alike_foldl alike isOpen.joins start c combined
  refine ⟨c, c', combinations, rfl, mem_rows.mpr ⟨c', combined', ?_, rfl⟩⟩
  rw [List.all_eq_true] at holds ⊢
  exact fun test mem => (Test.holds_eq (isOpen.tests test mem) params combinations).symm.trans
    (holds test mem)

/-- What is selected from combinations that are alike is the same but for secrets. -/
theorem row_alike (s : Select) (combinations : c.Alike c') : (s.row c).Alike (s.row c') := by
  intro name noConfiguration noSpec
  refine congrArg (Option.getD · SqlValue.null) ?_
  simp only [row]
  induction s.columns with
  | nil => rfl
  | cons column columns ih =>
    rw [List.map_cons, List.map_cons, List.lookup_cons, List.lookup_cons, ih]
    by_cases own : name = column.1.name
    · have isOpen : column.1.isSecret = false := by
        rw [Column.isSecret]
        cases column.1.table with
        | actor => exact beq_false_of_ne (own ▸ noConfiguration)
        | version => exact beq_false_of_ne (own ▸ noSpec)
        | _ => rfl
      rw [combinations.get column.1 isOpen]
    · rw [beq_false_of_ne own]

theorem isOpen_of_select? {text : String} {s : Select} (known : select? text = some s) : s.IsOpen := by
  have mem := List.mem_of_find?_eq_some known
  simp only [List.mem_cons, List.not_mem_nil, or_false] at mem
  rcases mem with rfl | rfl | rfl
  · exact ⟨by decide, by decide⟩
  · exact ⟨by decide, by decide⟩
  · exact ⟨by decide, by decide⟩

end Select

/-- Where two contents that are alike have one row each for a statement, the rows are alike. -/
theorem Content.Alike.reply (alike : db.Alike db') {statement : Statement} {row row' : Row}
    (only : db.reply statement = [row]) (only' : db'.reply statement = [row']) : row.Alike row' := by
  rw [Content.reply] at only only'
  cases known : select? statement.text with
  | none =>
    simp only [known] at only
    cases only
  | some select =>
    simp only [known] at only only'
    obtain ⟨c, c', combinations, rfl, mem⟩ := Select.exists_alike (Select.isOpen_of_select? known) alike
      (only ▸ List.mem_singleton_self row)
    rw [only'] at mem
    rw [← List.mem_singleton.mp mem]
    exact select.row_alike combinations

end ConnectorSql

/-! ### Records in rows -/

namespace Postgres

variable {row row' : Row}

theorem connection_congr (rows : row.Alike row') : connection row = connection row' := by
  simp only [connection, readField, Columns.read, rows "id" (by decide) (by decide),
    rows "name" (by decide) (by decide), rows "source_id" (by decide) (by decide),
    rows "destination_id" (by decide) (by decide), rows "status" (by decide) (by decide)]

/-- Where an actor is read from a row, this is the actor without its configuration. -/
def bareActor? (row : Row) : Option Actor := do
  let id ← (row.get "id").uuid?
  let name ← (row.get "name").text?
  let definitionId ← (row.get "actor_definition_id").uuid?
  let workspaceId ← (row.get "workspace_id").uuid?
  some ⟨id, name, definitionId, workspaceId, .null⟩

theorem bareActor?_of_actor [SchemaChecker] {a : Actor} (read : actor row = .ok a) :
    bareActor? row = some a.bare := by
  obtain ⟨id, isId, read⟩ := bind_eq_ok.mp read
  obtain ⟨name, isName, read⟩ := bind_eq_ok.mp read
  obtain ⟨definitionId, refers, read⟩ := bind_eq_ok.mp read
  obtain ⟨workspaceId, isWorkspace, read⟩ := bind_eq_ok.mp read
  obtain ⟨configuration, -, read⟩ := bind_eq_ok.mp read
  obtain ⟨spec, -, read⟩ := bind_eq_ok.mp read
  rw [bareActor?, readField_eq_ok.mp isId, readField_eq_ok.mp isName, readField_eq_ok.mp refers,
    readField_eq_ok.mp isWorkspace]
  -- whether there is something to check makes no difference to the actor
  cases spec with
  | none =>
    cases read
    rfl
  | some spec =>
    obtain ⟨⟨⟩, -, read⟩ := bind_eq_ok.mp read
    cases read
    rfl

/-- Where a definition is read from a row, this is the definition without its specification. -/
def bareDefinition? (row : Row) : Option Definition := do
  let id ← (row.get "id").uuid?
  let name ← (row.get "name").text?
  let dockerRepository ← (row.get "docker_repository").text?
  let dockerImageTag ← (row.get "docker_image_tag").text?
  some ⟨id, name, dockerRepository, dockerImageTag, .null⟩

theorem bareDefinition?_of_definition {d : Definition} (read : definition row = .ok d) :
    bareDefinition? row = some d.bare := by
  obtain ⟨spec, -, read⟩ := bind_eq_ok.mp read
  obtain ⟨id, isId, read⟩ := bind_eq_ok.mp read
  obtain ⟨name, isName, read⟩ := bind_eq_ok.mp read
  obtain ⟨dockerRepository, isRepository, read⟩ := bind_eq_ok.mp read
  obtain ⟨dockerImageTag, isTag, read⟩ := bind_eq_ok.mp read
  cases read
  rw [bareDefinition?, readField_eq_ok.mp isId, readField_eq_ok.mp isName,
    readField_eq_ok.mp isRepository, readField_eq_ok.mp isTag]
  rfl

theorem bareActor?_congr (rows : row.Alike row') : bareActor? row = bareActor? row' := by
  simp only [bareActor?, rows "id" (by decide) (by decide), rows "name" (by decide) (by decide),
    rows "actor_definition_id" (by decide) (by decide), rows "workspace_id" (by decide) (by decide)]

theorem bareDefinition?_congr (rows : row.Alike row') : bareDefinition? row = bareDefinition? row' := by
  simp only [bareDefinition?, rows "id" (by decide) (by decide), rows "name" (by decide) (by decide),
    rows "docker_repository" (by decide) (by decide), rows "docker_image_tag" (by decide) (by decide)]

end Postgres

namespace ConnectorSql

variable {db db' : Content}

/-- Records that are found in contents that are alike differ in nothing but secrets. -/
theorem Content.Alike.finds [SchemaChecker] (alike : db.Alike db') {q : ConnectorQuery} {r r' : q.Result}
    (found : db.Finds q (.ok r)) (found' : db'.Finds q (.ok r')) : q.bare r = q.bare r' := by
  obtain ⟨t, found, answers⟩ := found
  obtain ⟨t', found', answers'⟩ := found'
  cases q with
  | connection =>
    obtain ⟨row, only, read⟩ := row_of_found found answers
    obtain ⟨row', only', read'⟩ := row_of_found found' answers'
    rw [Postgres.connection_congr (alike.reply only only'), read'] at read
    exact (Except.ok.inj read).symm
  | source | destination =>
    obtain ⟨row, only, read⟩ := row_of_found found answers
    obtain ⟨row', only', read'⟩ := row_of_found found' answers'
    refine Option.some.inj ((Postgres.bareActor?_of_actor read).symm.trans ?_)
    rw [Postgres.bareActor?_congr (alike.reply only only')]
    exact Postgres.bareActor?_of_actor read'
  | sourceDefinition | destinationDefinition =>
    obtain ⟨row, only, read⟩ := row_of_found found answers
    obtain ⟨row', only', read'⟩ := row_of_found found' answers'
    refine Option.some.inj ((Postgres.bareDefinition?_of_definition read).symm.trans ?_)
    rw [Postgres.bareDefinition?_congr (alike.reply only only')]
    exact Postgres.bareDefinition?_of_definition read'

end ConnectorSql

/-! ## Debug records over contents that differ in secrets -/

/-- Both ways look up records in contents that hold the same but for secrets: in tables in memory, or in
databases, whose rows come in any order and which may fail. -/
inductive RecordLookup.DifferInSecrets [SchemaChecker] : RecordLookup → RecordLookup → Prop
  | memory {t t' : ConnectorTables} (alike : t.Alike t') : DifferInSecrets t.answer t'.answer
  | database {db db' : Content} {lookup lookup' : RecordLookup} (alike : db.Alike db')
      (finds : ∀ q, db.Finds q (lookup q)) (finds' : ∀ q, db'.Finds q (lookup' q)) :
      DifferInSecrets lookup lookup'

theorem RecordLookup.DifferInSecrets.alike [SchemaChecker] {lookup lookup' : RecordLookup}
    (differ : lookup.DifferInSecrets lookup') : lookup.Alike lookup' := by
  cases differ with
  | memory alike => exact alike.answer
  | database alike finds finds' =>
    intro q r r' found found'
    exact alike.finds (found ▸ finds q) (found' ▸ finds' q)

/-- **Secrets stay secret.** Whoever checks configurations under schemas and whoever answers all other
questions, and whether records of connectors are looked up in memory or in a database: if debug records of
a job are given over two contents that hold the same but for the configurations of actors and the
specifications of definitions, their documents are the same. -/
theorem debug_document_hides_secrets [SchemaChecker] (settings : Settings) (asksWorkflow : Bool)
    (id : JobId) {σ : Type} (others : (q : Question) → StateM σ q.Answer) (s : σ)
    {lookup lookup' : RecordLookup} (differ : lookup.DifferInSecrets lookup')
    {document document' : Json} {after after' : σ}
    (given : ((Operation.debug id).answer settings asksWorkflow).against lookup others s =
      (.ok document, after))
    (given' : ((Operation.debug id).answer settings asksWorkflow).against lookup' others s =
      (.ok document', after')) :
    document = document' := by
  have same : Inquiry.Agree lookup lookup' others Eq ((Operation.debug id).answer settings asksWorkflow)
      ((Operation.debug id).answer settings asksWorkflow) := by
    refine .bind (.debugInfo differ.alike settings.logTailLines settings.platformVersion asksWorkflow id)
      fun info info' same => .pure ?_
    rw [← info.toJson_bare, same, info'.toJson_bare]
  exact (same s document document' after after' given given').1

/-- The configuration of the source and the specification of its definition make no difference to what is
no secret. -/
theorem ConnectorSql.Content.ofSource_alike (configuration configuration' : Json) (spec spec' : SqlValue) :
    (Content.ofSource configuration spec).Alike (Content.ofSource configuration' spec') := by
  have same (table : Table) (row : TableRow) : row.Alike table row := ⟨fun _ _ => rfl, fun _ => rfl⟩
  have rel {table : Table} {rows rows' : List TableRow}
      (each : List.Forall₂ (TableRow.Alike table) rows rows') :
      Multiset.Rel (TableRow.Alike table) rows rows' := by
    induction each with
    | nil => exact .zero
    | cons first _ ih => exact .cons first ih
  intro table
  cases table with
  | connection | definition => exact Multiset.rel_refl_of_refl_on fun row _ => same _ row
  | actor =>
    refine rel (.cons ⟨fun name isOpen => ?_, fun _ => rfl⟩ (.cons (same _ _) .nil))
    have other : (name == "configuration") = false := isOpen
    simp only [TableRow.get, Row.get, List.lookup_cons, other]
  | version =>
    refine rel (.cons ⟨fun name isOpen => ?_, fun _ => rfl⟩ (.cons (same _ _) .nil))
    have other : (name == "spec") = false := isOpen
    simp only [TableRow.get, Row.get, List.lookup_cons, other]

/-- What comes of a debug record in a session whose records of connectors are in a database. -/
def ConnectorSql.Content.debugIn [SchemaChecker] (db : Content) (s : Session) (id : JobId) :
    Except HistoryError Json × Session :=
  ((Operation.debug id).answer .standard false).against (fun q => (Postgres.recordFor q).run.eval db.answer)
    Session.ask s

/-- A source with a password, and one that has none and needs none. -/
theorem debug_document_hides_secrets_password :
    let spec := Json.obj [("connectionSpecification", .obj [("required", .arr [.str "password"])])]
    let db := Content.ofSource (.obj [("password", .str "secret")]) (.json spec)
    let db' := Content.ofSource (.obj []) .null
    ∃ document document' after after',
      db.debugIn .ofConnection 7 = (.ok document, after) ∧
      db'.debugIn .ofConnection 7 = (.ok document', after') ∧ document = document' := by
  intro spec db db'
  have gives (x : Except HistoryError Json × Session) (succeeds : x.1.toBool = true) :
      ∃ document after, x = (.ok document, after) := by
    rcases x with ⟨_ | document, after⟩
    · cases succeeds
    · exact ⟨document, after, rfl⟩
  obtain ⟨document, after, given⟩ := gives (db.debugIn .ofConnection 7) (by decide +kernel)
  obtain ⟨document', after', given'⟩ := gives (db'.debugIn .ofConnection 7) (by decide +kernel)
  exact ⟨document, document', after, after', given, given',
    debug_document_hides_secrets .standard false 7 Session.ask .ofConnection
      (.database (Content.ofSource_alike _ _ _ _) db.finds_eval db'.finds_eval) given given'⟩

end SyncHistory
