import SyncHistory.Proofs.InstantText
import SyncHistory.Proofs.JsonText
import SyncHistory.Proofs.Secrets
import SyncHistory.Proofs.StreamModes
import SyncHistory.Proofs.UuidText

/-!
# Records and their documents

Records are written to documents and read from them, each kind in its own format (`RecordFormat`): some
fields may be null, some may be missing, and those that hold secrets are not written at all. A record
survives this (`RecordFormat.Survives`): it comes back from the document that it is written to and from the
text of that document, as far as it is written.

Of each format there are three things to know: how a written document is read, that it is plain, so that its
text is read as that document, and that nothing is read but records that are well-formed.
-/

namespace SyncHistory

/-! ## Fields -/

namespace Json

theorem signed?_ofInt {bits : Nat} {n : Int} (fits : Digits.fitsSigned bits n = true) :
    signed? bits (.ofInt n) = some n :=
  Option.filter_eq_some_iff.mpr ⟨rfl, fits⟩

theorem fitsSigned_of_signed? {bits : Nat} {j : Json} {n : Int} (read : signed? bits j = some n) :
    Digits.fitsSigned bits n = true :=
  (Option.filter_eq_some_iff.mp read).2

/-- An optional value is read as it is written, if a value that is there is not written as `null`. -/
theorem nullable?_ofOption {α : Type} {write : α → Json} {read : Json → Option α} {a : Option α}
    (present : ∀ b ∈ a, nullable? read (write b) = some (some b)) :
    nullable? read (.ofOption write a) = some a := by
  cases a with
  | none => rfl
  | some b => exact present b rfl

theorem eq_some_of_nullable? {α : Type} {read : Json → Option α} {j : Json} {a : α}
    (found : nullable? read j = some (some a)) : read j = some a := by
  unfold nullable? at found
  split at found
  · cases found
  · obtain ⟨b, found, same⟩ := Option.map_eq_some_iff.mp found
    cases same
    exact found

namespace Record

variable {α : Type} {r : Record} {name : String} {read : Json → Option α}

/-- Whoever reads an object that has no field twice goes on with its fields. -/
theorem bind_ofJson?_obj {fields : List (String × Json)} (once : (fields.map (·.1)).Nodup)
    {names : List String} {f : Record → Option α} :
    (Record.ofJson? names (.obj fields) >>= f) = f ⟨false, fields⟩ := by
  rw [ofJson?_obj once]
  rfl

theorem exists_of_required? {a : α} (found : r.required? name read = some a) : ∃ j, read j = some a := by
  unfold required? at found
  split at found
  · exact ⟨_, found⟩
  · cases found

theorem fitsSigned_of_required? {bits : Nat} {n : Int}
    (found : r.required? name (signed? bits) = some n) : Digits.fitsSigned bits n = true := by
  obtain ⟨j, number⟩ := exists_of_required? found
  exact fitsSigned_of_signed? number

theorem exists_of_optional? {a : α} (found : r.optional? name read = some (some a)) :
    ∃ j, read j = some a := by
  unfold optional? at found
  split at found
  · exact ⟨_, eq_some_of_nullable? found⟩
  · split at found <;> cases found

end Record

end Json

theorem JobStatus.ofJson?_toJson (s : JobStatus) : JobStatus.ofJson? s.toJson = some s := by
  cases s <;> rfl

theorem Uuid.ofJson?_toJson (u : Uuid) : Uuid.ofJson? u.toJson = some u := Uuid.parse?_text u

theorem Instant.ofJson?_toJson {t : Instant} (regular : t.IsRegular) (nonneg : 0 ≤ t.year)
    (le : t.year ≤ 9999) : Instant.ofJson? t.toJson = some t := by
  rw [ofJson?, toJson, Json.string?, Option.bind_some]
  exact parse?_text regular nonneg le

/-! ## Formats -/

/-- How records of a kind are written to documents and read from them. -/
structure RecordFormat (α : Type) where
  write : α → Json
  read? : Json → Option α
  /-- Do the numbers of a record fit their bits, and is its instant regular? -/
  WellFormed : α → Prop := fun _ => True
  /-- Is the instant of a record one that documents can hold? -/
  InRange : α → Prop := fun _ => True
  /-- What is written of a record. -/
  kept : α → α := id

namespace RecordFormat

variable {α : Type} {f : RecordFormat α}

/-- The record is read from the document that it is written to, and from the text of that document. -/
def ComesBack (f : RecordFormat α) (a : α) : Prop :=
  f.read? (f.write a) = some (f.kept a) ∧
    (Json.read? (f.write a).compact).bind f.read? = some (f.kept a)

/-- Every record comes back, and so does everything that any document is read as. -/
structure Survives (f : RecordFormat α) : Prop where
  written : ∀ a, f.WellFormed a → f.InRange a → f.ComesBack a
  accepted : ∀ j a, f.read? j = some a → f.InRange a → f.ComesBack a

/-- What it takes: written documents are read, they are plain, and what is read is well-formed. -/
theorem survives (read : ∀ a, f.WellFormed a → f.InRange a → f.read? (f.write a) = some (f.kept a))
    (plain : ∀ a, f.WellFormed a → (f.write a).IsPlain Json.maxDepth)
    (wellFormed : ∀ j a, f.read? j = some a → f.WellFormed a) : f.Survives := by
  have written (a : α) (isWellFormed : f.WellFormed a) (inRange : f.InRange a) : f.ComesBack a := by
    refine ⟨read a isWellFormed inRange, ?_⟩
    rw [Json.read?_compact (plain a isWellFormed)]
    exact read a isWellFormed inRange
  exact ⟨written, fun j a accepted inRange => written a (wellFormed j a accepted) inRange⟩

end RecordFormat

open Json

namespace Catalog

def format : RecordFormat Catalog where
  write := toJson
  read? := ofJson?

theorem isPlain_toJson (c : Catalog) : IsPlain maxDepth c.toJson := by
  -- a catalog, the list of its streams, a stream and its key lie in one another
  refine ⟨by decide, ⟨by decide, arePlainItems_map c.streams fun s => ?_⟩, trivial⟩
  exact ⟨by decide, ⟨by decide, trivial, isPlain_ofOption fun _ _ => trivial, trivial⟩, trivial, trivial⟩

theorem format_survives : format.Survives :=
  RecordFormat.survives (fun c _ _ => (writtenIn_toJson c).read) (fun c _ => isPlain_toJson c)
    fun _ _ _ => trivial

end Catalog

namespace SyncOutput

/-- The counters are numbers of 64 bits. -/
def Fits (o : SyncOutput) : Prop :=
  Digits.fitsSigned 64 o.bytesSynced = true ∧ Digits.fitsSigned 64 o.recordsSynced = true

def format : RecordFormat SyncOutput where
  write := toJson
  read? := ofJson?
  WellFormed := Fits

theorem ofJson?_toJson {o : SyncOutput} (fits : o.Fits) : ofJson? o.toJson = some o := by
  rw [ofJson?, toJson, Record.bind_ofJson?_obj (by simp)]
  refine Option.bind_eq_some_iff.mpr ⟨_, signed?_ofInt fits.1, ?_⟩
  exact Option.bind_eq_some_iff.mpr ⟨_, signed?_ofInt fits.2, rfl⟩

theorem isPlain_toJson {o : SyncOutput} (fits : o.Fits) : IsPlain maxDepth o.toJson :=
  ⟨by decide, isShort_of_fitsSigned le_rfl fits.1, isShort_of_fitsSigned le_rfl fits.2, trivial⟩

theorem fits_of_ofJson? {j : Json} {o : SyncOutput} (read : ofJson? j = some o) : o.Fits := by
  obtain ⟨r, -, read⟩ := Option.bind_eq_some_iff.mp read
  obtain ⟨_, first, read⟩ := Option.bind_eq_some_iff.mp read
  obtain ⟨_, second, read⟩ := Option.bind_eq_some_iff.mp read
  cases read
  exact ⟨Record.fitsSigned_of_required? first, Record.fitsSigned_of_required? second⟩

theorem format_survives : format.Survives :=
  RecordFormat.survives (fun _ fits _ => ofJson?_toJson fits) (fun _ fits => isPlain_toJson fits)
    fun _ _ read => fits_of_ofJson? read

end SyncOutput

namespace SyncStats

/-- The counters are numbers of 64 bits. -/
structure Fits (s : SyncStats) : Prop where
  recordsEmitted : Digits.fitsSigned 64 s.recordsEmitted = true
  bytesEmitted : Digits.fitsSigned 64 s.bytesEmitted = true
  recordsCommitted : Digits.fitsSigned 64 s.recordsCommitted = true
  bytesCommitted : Digits.fitsSigned 64 s.bytesCommitted = true

def format : RecordFormat SyncStats where
  write := toJson
  read? := ofJson?
  WellFormed := Fits

/-- The counters are read from wherever they are found by their names. -/
theorem ofRecord?_of_lookup {s : SyncStats} (fits : s.Fits) {r : Record}
    (found : ∀ name ∈ fieldNames, r.fields.lookup name = s.toFields.lookup name) :
    ofRecord? r = some s := by
  have counter {name : String} {n : Int} (known : name ∈ fieldNames)
      (stored : s.toFields.lookup name = some (.ofInt n)) (fits : Digits.fitsSigned 64 n = true) :
      r.required? name (signed? 64) = some n := by
    rw [Record.required?, found name known, stored]
    exact signed?_ofInt fits
  refine Option.bind_eq_some_iff.mpr ⟨_, counter (by decide) rfl fits.recordsEmitted, ?_⟩
  refine Option.bind_eq_some_iff.mpr ⟨_, counter (by decide) rfl fits.bytesEmitted, ?_⟩
  refine Option.bind_eq_some_iff.mpr ⟨_, counter (by decide) rfl fits.recordsCommitted, ?_⟩
  exact Option.bind_eq_some_iff.mpr ⟨_, counter (by decide) rfl fits.bytesCommitted, rfl⟩

theorem arePlainFields_toFields {s : SyncStats} (fits : s.Fits) (depth : Nat) :
    ArePlainFields depth s.toFields :=
  ⟨isShort_of_fitsSigned le_rfl fits.recordsEmitted, isShort_of_fitsSigned le_rfl fits.bytesEmitted,
    isShort_of_fitsSigned le_rfl fits.recordsCommitted, isShort_of_fitsSigned le_rfl fits.bytesCommitted,
    trivial⟩

theorem fits_of_ofRecord? {r : Record} {s : SyncStats} (read : ofRecord? r = some s) : s.Fits := by
  obtain ⟨_, first, read⟩ := Option.bind_eq_some_iff.mp read
  obtain ⟨_, second, read⟩ := Option.bind_eq_some_iff.mp read
  obtain ⟨_, third, read⟩ := Option.bind_eq_some_iff.mp read
  obtain ⟨_, fourth, read⟩ := Option.bind_eq_some_iff.mp read
  cases read
  exact ⟨Record.fitsSigned_of_required? first, Record.fitsSigned_of_required? second,
    Record.fitsSigned_of_required? third, Record.fitsSigned_of_required? fourth⟩

theorem ofJson?_toJson {s : SyncStats} (fits : s.Fits) : ofJson? s.toJson = some s := by
  rw [ofJson?, toJson, Record.bind_ofJson?_obj (by simp [toFields])]
  exact ofRecord?_of_lookup fits fun _ _ => rfl

theorem format_survives : format.Survives := by
  refine RecordFormat.survives (fun _ fits _ => ofJson?_toJson fits)
    (fun _ fits => ⟨by decide, arePlainFields_toFields fits _⟩) ?_
  intro j s read
  obtain ⟨r, -, read⟩ := Option.bind_eq_some_iff.mp read
  exact fits_of_ofRecord? read

end SyncStats

namespace StreamStats

def format : RecordFormat StreamStats where
  write := toJson
  read? := ofJson?
  WellFormed s := s.stats.Fits

theorem ofJson?_toJson {s : StreamStats} (fits : s.stats.Fits) : ofJson? s.toJson = some s := by
  rw [ofJson?, toJson, Record.named?, Record.bind_ofJson?_obj (by simp [SyncStats.toFields])]
  refine Option.bind_eq_some_iff.mpr ⟨s.key.name, rfl, ?_⟩
  refine Option.bind_eq_some_iff.mpr ⟨s.key.nameSpace, nullable?_ofOption fun _ _ => rfl, ?_⟩
  refine Option.bind_eq_some_iff.mpr ⟨s.stats, SyncStats.ofRecord?_of_lookup fits ?_, rfl⟩
  simp [SyncStats.fieldNames, List.lookup_cons]

theorem isPlain_toJson {s : StreamStats} (fits : s.stats.Fits) : IsPlain maxDepth s.toJson :=
  ⟨by decide, trivial, isPlain_ofOption fun _ _ => trivial, SyncStats.arePlainFields_toFields fits _⟩

theorem fits_of_ofJson? {j : Json} {s : StreamStats} (read : ofJson? j = some s) : s.stats.Fits := by
  obtain ⟨r, -, read⟩ := Option.bind_eq_some_iff.mp read
  obtain ⟨_, -, read⟩ := Option.bind_eq_some_iff.mp read
  obtain ⟨_, -, read⟩ := Option.bind_eq_some_iff.mp read
  obtain ⟨_, stats, read⟩ := Option.bind_eq_some_iff.mp read
  cases read
  exact SyncStats.fits_of_ofRecord? stats

theorem format_survives : format.Survives :=
  RecordFormat.survives (fun _ fits _ => ofJson?_toJson fits) (fun _ fits => isPlain_toJson fits)
    fun _ _ read => fits_of_ofJson? read

end StreamStats

namespace NormalizationStatus

/-- The number of the attempt has 32 bits, the records that were committed are counted with 64. -/
def Fits (s : NormalizationStatus) : Prop :=
  Digits.fitsSigned 32 s.attemptNumber = true ∧
    ∀ n ∈ s.recordsCommitted, Digits.fitsSigned 64 n = true

def format : RecordFormat NormalizationStatus where
  write := toJson
  read? := ofJson?
  WellFormed := Fits

theorem ofJson?_toJson {s : NormalizationStatus} (fits : s.Fits) : ofJson? s.toJson = some s := by
  rw [ofJson?, toJson, Record.bind_ofJson?_obj (by simp)]
  refine Option.bind_eq_some_iff.mpr ⟨_, signed?_ofInt fits.1, ?_⟩
  refine Option.bind_eq_some_iff.mpr ⟨s.recordsCommitted, nullable?_ofOption ?_, rfl⟩
  intro n mem
  exact congrArg (Option.map some) (signed?_ofInt (fits.2 n mem))

theorem isPlain_toJson {s : NormalizationStatus} (fits : s.Fits) : IsPlain maxDepth s.toJson :=
  ⟨by decide, isShort_of_fitsSigned (by decide) fits.1,
    isPlain_ofOption fun n mem => isShort_of_fitsSigned le_rfl (fits.2 n mem), trivial, trivial⟩

theorem fits_of_ofJson? {j : Json} {s : NormalizationStatus} (read : ofJson? j = some s) : s.Fits := by
  obtain ⟨r, -, read⟩ := Option.bind_eq_some_iff.mp read
  obtain ⟨_, number, read⟩ := Option.bind_eq_some_iff.mp read
  obtain ⟨_, records, read⟩ := Option.bind_eq_some_iff.mp read
  obtain ⟨_, -, read⟩ := Option.bind_eq_some_iff.mp read
  cases read
  refine ⟨Record.fitsSigned_of_required? number, ?_⟩
  rintro n rfl
  obtain ⟨_, records⟩ := Record.exists_of_optional? records
  exact fitsSigned_of_signed? records

theorem format_survives : format.Survives :=
  RecordFormat.survives (fun _ fits _ => ofJson?_toJson fits) (fun _ fits => isPlain_toJson fits)
    fun _ _ read => fits_of_ofJson? read

end NormalizationStatus

namespace Connection

def format : RecordFormat Connection where
  write := toJson
  read? := ofJson?

theorem ofJson?_toJson (c : Connection) : ofJson? c.toJson = some c := by
  rw [ofJson?, toJson, Record.bind_ofJson?_obj (by simp)]
  refine Option.bind_eq_some_iff.mpr ⟨_, Uuid.ofJson?_toJson c.id, ?_⟩
  refine Option.bind_eq_some_iff.mpr ⟨c.name, rfl, ?_⟩
  refine Option.bind_eq_some_iff.mpr ⟨_, Uuid.ofJson?_toJson c.sourceId, ?_⟩
  exact Option.bind_eq_some_iff.mpr ⟨_, Uuid.ofJson?_toJson c.destinationId, rfl⟩

theorem isPlain_toJson (c : Connection) : IsPlain maxDepth c.toJson :=
  ⟨by decide, trivial, trivial, trivial, trivial, trivial, trivial⟩

theorem format_survives : format.Survives :=
  RecordFormat.survives (fun c _ _ => ofJson?_toJson c) (fun c _ => isPlain_toJson c) fun _ _ _ => trivial

end Connection

namespace WorkflowState

def format : RecordFormat WorkflowState where
  write := toJson
  read? := ofJson?

theorem ofJson?_toJson (s : WorkflowState) : ofJson? s.toJson = some s := by
  rw [ofJson?, toJson, Record.bind_ofJson?_obj (by simp)]
  rfl

theorem format_survives : format.Survives :=
  RecordFormat.survives (fun s _ _ => ofJson?_toJson s)
    (fun _ _ => ⟨by decide, trivial, trivial, trivial⟩) fun _ _ _ => trivial

end WorkflowState

namespace JobSummary

/-- The number of the job has 64 bits, and the instant is regular. -/
def WellFormed (s : JobSummary) : Prop :=
  Digits.fitsSigned 64 s.jobId = true ∧ s.createdAt.IsRegular

/-- The year that the job was created in has no more than four digits. -/
def InRange (s : JobSummary) : Prop :=
  0 ≤ s.createdAt.year ∧ s.createdAt.year ≤ 9999

def format : RecordFormat JobSummary where
  write := toJson
  read? := ofJson?
  WellFormed := WellFormed
  InRange := InRange

theorem ofJson?_toJson {s : JobSummary} (wellFormed : s.WellFormed) (inRange : s.InRange) :
    ofJson? s.toJson = some s := by
  rw [ofJson?, toJson, Record.bind_ofJson?_obj (by simp)]
  refine Option.bind_eq_some_iff.mpr ⟨_, signed?_ofInt wellFormed.1, ?_⟩
  refine Option.bind_eq_some_iff.mpr ⟨s.connectionId, rfl, ?_⟩
  refine Option.bind_eq_some_iff.mpr ⟨_, Instant.ofJson?_toJson wellFormed.2 inRange.1 inRange.2, ?_⟩
  exact Option.bind_eq_some_iff.mpr ⟨_, JobStatus.ofJson?_toJson s.status, rfl⟩

theorem isPlain_toJson {s : JobSummary} (wellFormed : s.WellFormed) : IsPlain maxDepth s.toJson :=
  ⟨by decide, isShort_of_fitsSigned le_rfl wellFormed.1, trivial, trivial, trivial, trivial⟩

theorem wellFormed_of_ofJson? {j : Json} {s : JobSummary} (read : ofJson? j = some s) :
    s.WellFormed := by
  obtain ⟨r, -, read⟩ := Option.bind_eq_some_iff.mp read
  obtain ⟨_, number, read⟩ := Option.bind_eq_some_iff.mp read
  obtain ⟨_, -, read⟩ := Option.bind_eq_some_iff.mp read
  obtain ⟨_, created, read⟩ := Option.bind_eq_some_iff.mp read
  obtain ⟨_, -, read⟩ := Option.bind_eq_some_iff.mp read
  cases read
  obtain ⟨_, created⟩ := Record.exists_of_required? created
  obtain ⟨_, -, created⟩ := Option.bind_eq_some_iff.mp created
  exact ⟨Record.fitsSigned_of_required? number, Instant.isRegular_of_parse? created⟩

theorem format_survives : format.Survives :=
  RecordFormat.survives (fun _ wellFormed inRange => ofJson?_toJson wellFormed inRange)
    (fun _ wellFormed => isPlain_toJson wellFormed) fun _ _ read => wellFormed_of_ofJson? read

end JobSummary

namespace Actor

def format : RecordFormat Actor where
  write := toJson
  read? := ofJson?
  kept := bare

theorem ofJson?_toJson (a : Actor) : ofJson? a.toJson = some a.bare := by
  rw [ofJson?, toJson, Record.bind_ofJson?_obj (by simp)]
  refine Option.bind_eq_some_iff.mpr ⟨_, Uuid.ofJson?_toJson a.id, ?_⟩
  refine Option.bind_eq_some_iff.mpr ⟨a.name, rfl, ?_⟩
  refine Option.bind_eq_some_iff.mpr ⟨_, Uuid.ofJson?_toJson a.definitionId, ?_⟩
  exact Option.bind_eq_some_iff.mpr ⟨_, Uuid.ofJson?_toJson a.workspaceId, rfl⟩

theorem format_survives : format.Survives :=
  RecordFormat.survives (fun a _ _ => ofJson?_toJson a)
    (fun _ _ => ⟨by decide, trivial, trivial, trivial, trivial, trivial⟩) fun _ _ _ => trivial

end Actor

namespace Definition

def format : RecordFormat Definition where
  write := toJson
  read? := ofJson?
  kept := bare

theorem ofJson?_toJson (d : Definition) : ofJson? d.toJson = some d.bare := by
  rw [ofJson?, toJson, Record.bind_ofJson?_obj (by simp)]
  exact Option.bind_eq_some_iff.mpr ⟨_, Uuid.ofJson?_toJson d.id, rfl⟩

theorem format_survives : format.Survives :=
  RecordFormat.survives (fun d _ _ => ofJson?_toJson d)
    (fun _ _ => ⟨by decide, trivial, trivial, trivial, trivial, trivial⟩) fun _ _ _ => trivial

end Definition

/-! ## All formats -/

/-- A counter of a summary is read from it. -/
theorem SyncOutput.counter_of_get? {summary : Json} {name : String} {n : Int}
    (stored : summary.get? name = some (.ofInt n)) (fits : Digits.fitsSigned 64 n = true) :
    counter summary name = n := by
  rw [counter, stored, Option.bind_some, signed?_ofInt fits, Option.getD_some]

/-- Totals are read from what an attempt left behind that has them as its summary of a sync. -/
theorem SyncOutput.ofAttemptOutput?_toJson {o : SyncOutput} (fits : o.Fits) :
    ofAttemptOutput? (.obj [("sync", .obj [("standardSyncSummary", o.toJson)])]) = some o := by
  show some (⟨counter o.toJson "bytesSynced", counter o.toJson "recordsSynced"⟩ : SyncOutput) = some o
  rw [counter_of_get? rfl fits.1, counter_of_get? rfl fits.2]

/-- **Records survive being written.** A record of any kind is read from the document that it is written to
and from the text of that document, but an actor without its configuration and a definition without its
specification. -/
theorem records_survive :
    Catalog.format.Survives ∧ SyncOutput.format.Survives ∧ SyncStats.format.Survives ∧
      StreamStats.format.Survives ∧ NormalizationStatus.format.Survives ∧ Connection.format.Survives ∧
      WorkflowState.format.Survives ∧ JobSummary.format.Survives ∧ Actor.format.Survives ∧
      Definition.format.Survives ∧
      ∀ o : SyncOutput, o.Fits → SyncOutput.ofAttemptOutput?
        (.obj [("sync", .obj [("standardSyncSummary", o.toJson)])]) = some o :=
  ⟨Catalog.format_survives, SyncOutput.format_survives, SyncStats.format_survives,
    StreamStats.format_survives, NormalizationStatus.format_survives, Connection.format_survives,
    WorkflowState.format_survives, JobSummary.format_survives, Actor.format_survives,
    Definition.format_survives, fun _ fits => SyncOutput.ofAttemptOutput?_toJson fits⟩

/-- The last leap second that documents can hold, for instance. -/
theorem records_survive_leap_second :
    let summary : JobSummary := ⟨-7, "scope \"\n", ⟨253402300799, 1999999999⟩, .cancelled⟩
    summary.WellFormed ∧ summary.InRange ∧ summary.createdAt.text = "9999-12-31T23:59:60.999999999Z" ∧
      (Json.read? summary.toJson.compact).bind JobSummary.ofJson? = some summary := by
  intro summary
  have wellFormed : summary.WellFormed := ⟨by decide, .inr ⟨by decide, by decide⟩⟩
  have inRange : summary.InRange := ⟨by decide, by decide⟩
  obtain ⟨-, -, -, -, -, -, -, survive, -⟩ := records_survive
  exact ⟨wellFormed, inRange, by decide, (survive.written summary wellFormed inRange).2⟩

end SyncHistory
