import Mathlib.Data.List.Nodup
import SyncHistory.History
import SyncHistory.Proofs.Conversation
import SyncHistory.Proofs.Failure
import SyncHistory.Proofs.Stream

/-!
# How the streams of a job are synced

The streams of a job stand in a catalog somewhere in the document of its configuration. `Catalog.WrittenIn`
says what a document of a catalog has, whatever else is in it, and such a document is read as the catalog
(`Catalog.WrittenIn.read`). Of the sections that may have one, the first that can be read counts
(`Catalog.ofJobConfig?_eq_some`).

Streams are then put in order one by one. One more stream goes where its key belongs, unless the key is
there already (`Catalog.insertMode?_cases`), so all of them end up in order if no key occurs twice, and
else the first one whose key occurred before ends it (`Catalog.sortModes_cases`). The order of the
document has no bearing on the result, for there is one list of the same streams in order
(`Catalog.InOrder.unique`).
-/

namespace SyncHistory

/-! ## Documents -/

namespace Json

/-- An object that has no field twice. -/
def IsRecord (j : Json) : Prop :=
  ∃ fields, j = .obj fields ∧ (fields.map (·.1)).Nodup

theorem length_filter_name_le_one {fields : List (String × Json)} (once : (fields.map (·.1)).Nodup)
    (name : String) : (fields.filter fun f => f.1 == name).length ≤ 1 := by
  have count := List.nodup_iff_count.mp once name
  rwa [List.count_eq_countP, List.countP_map, List.countP_eq_length_filter] at count

/-- An object that has no field twice is a record of its fields, whichever of them are known. -/
theorem Record.ofJson?_obj {fields : List (String × Json)} (once : (fields.map (·.1)).Nodup)
    (names : List String) : Record.ofJson? names (.obj fields) = some ⟨false, fields⟩ := by
  have unambiguous : Record.isUnambiguous names fields = true := by
    refine List.all_eq_true.mpr ?_
    intro name _
    exact decide_eq_true (length_filter_name_le_one once name)
  rw [Record.ofJson?, if_pos unambiguous]

/-- The fields of a record are found by name, whichever of them are known. -/
theorem IsRecord.fields {j : Json} (record : j.IsRecord) (names : List String) :
    ∃ r, Record.ofJson? names j = some r ∧ ∀ name, r.fields.lookup name = j.get? name := by
  obtain ⟨fields, rfl, once⟩ := record
  exact ⟨⟨false, fields⟩, Record.ofJson?_obj once names, fun _ => rfl⟩

end Json

theorem SyncMode.ofJson?_name (m : SyncMode) : SyncMode.ofJson? (.str m.name) = some m := by
  cases m <;> rfl

/-- The document has the name of a stream and its namespace, which may be null or missing if there is none. -/
structure StreamKey.WrittenIn (k : StreamKey) (j : Json) : Prop where
  record : j.IsRecord
  name : j.get? "name" = some (.str k.name)
  nameSpace : j.get? "namespace" = k.nameSpace.map Json.str ∨
    k.nameSpace = none ∧ j.get? "namespace" = some .null

theorem StreamKey.WrittenIn.read {k : StreamKey} {j : Json} (written : k.WrittenIn j) :
    StreamKey.ofJson? j = some k := by
  obtain ⟨r, known, found⟩ := written.record.fields ["name", "namespace"]
  obtain ⟨name, nameSpace⟩ := k
  have first : r.required? "name" Json.string? = some name := by
    rw [Json.Record.required?, found, written.name]
    rfl
  have second : r.withDefault? "namespace" none (Json.nullable? Json.string?) = some nameSpace := by
    rw [Json.Record.withDefault?, found]
    rcases written.nameSpace with own | ⟨absent, null⟩
    · rw [own]
      cases nameSpace <;> rfl
    · rw [null]
      exact congrArg some absent.symm
  simp [ofJson?, known, first, second]

/-- The document has a stream and how it is synced. -/
structure ConfiguredStream.WrittenIn (s : ConfiguredStream) (j : Json) : Prop where
  record : j.IsRecord
  key : ∃ key, j.get? "stream" = some key ∧ s.key.WrittenIn key
  mode : j.get? "sync_mode" = some (.str s.mode.name)

theorem ConfiguredStream.WrittenIn.read {s : ConfiguredStream} {j : Json} (written : s.WrittenIn j) :
    ConfiguredStream.ofJson? j = some s := by
  obtain ⟨r, known, found⟩ := written.record.fields ["stream", "sync_mode"]
  obtain ⟨key, stored, keyWritten⟩ := written.key
  have first : r.required? "stream" StreamKey.ofJson? = some s.key := by
    rw [Json.Record.required?, found, stored]
    exact keyWritten.read
  have second : r.required? "sync_mode" SyncMode.ofJson? = some s.mode := by
    rw [Json.Record.required?, found, written.mode]
    exact SyncMode.ofJson?_name s.mode
  simp [ofJson?, known, first, second]

namespace Catalog

/-- The document has the streams of a catalog, in order. -/
structure WrittenIn (c : Catalog) (j : Json) : Prop where
  record : j.IsRecord
  streams : ∃ items, j.get? "streams" = some (.arr items) ∧
    List.Forall₂ ConfiguredStream.WrittenIn c.streams items

theorem WrittenIn.read {c : Catalog} {j : Json} (written : c.WrittenIn j) : ofJson? j = some c := by
  obtain ⟨r, known, found⟩ := written.record.fields ["streams"]
  obtain ⟨items, stored, each⟩ := written.streams
  have streams : r.withDefault? "streams" [] (Json.list? ConfiguredStream.ofJson?) = some c.streams := by
    rw [Json.Record.withDefault?, found, stored]
    exact mapM_eq_some.mpr (each.flip.imp fun _ _ own => own.read)
  simp [ofJson?, known, streams]

/-- The document that a catalog is turned into is one of that catalog. -/
theorem writtenIn_toJson (c : Catalog) : c.WrittenIn c.toJson where
  record := ⟨_, rfl, by simp⟩
  streams := by
    refine ⟨_, rfl, List.forall₂_map_right_iff.mpr (List.forall₂_same.mpr ?_)⟩
    intro s _
    refine ⟨⟨_, rfl, by simp⟩, ⟨s.key.toJson, rfl, ⟨_, rfl, by simp⟩, rfl, ?_⟩, rfl⟩
    show some (Json.ofOption Json.str s.key.nameSpace) = s.key.nameSpace.map Json.str ∨
      s.key.nameSpace = none ∧ some (Json.ofOption Json.str s.key.nameSpace) = some .null
    cases s.key.nameSpace with
    | none => exact .inr ⟨rfl, rfl⟩
    | some nameSpace => exact .inl rfl

/-! ## Sections of a configuration -/

/-- The section has no catalog that can be read. -/
def Lacks (config : Json) (name : String) : Prop :=
  ∀ part document, config.get? name = some part → part.get? "configuredAirbyteCatalog" = some document →
    ofJson? document = none

theorem ofSection?_eq_none {config : Json} {name : String} :
    ofSection? config name = none ↔ Lacks config name := by
  unfold ofSection?
  constructor
  · intro none part document here stored
    simpa [here, stored] using none
  · intro lacks
    split
    · rename_i part here
      split
      · rename_i document stored
        exact lacks part document here stored
      · rfl
    · rfl

/-- The first section with a catalog that can be read counts. -/
theorem ofJobConfig?_eq_some {config part document : Json} {c : Catalog} {before after : List String}
    {name : String} (split : sections = before ++ name :: after)
    (earlier : ∀ other ∈ before, Lacks config other) (section_ : config.get? name = some part)
    (stored : part.get? "configuredAirbyteCatalog" = some document) (read : ofJson? document = some c) :
    ofJobConfig? config = some c := by
  have here : ofSection? config name = some c := by
    rw [ofSection?, section_]
    dsimp only
    rw [stored]
    exact read
  have none : before.findSome? (ofSection? config) = none := by
    refine List.findSome?_eq_none_iff.mpr ?_
    intro other mem
    exact ofSection?_eq_none.mpr (earlier other mem)
  rw [ofJobConfig?, split, List.findSome?_append, none, List.findSome?_cons, here]
  rfl

theorem ofJobConfig?_eq_none {config : Json} (lacking : ∀ name ∈ sections, Lacks config name) :
    ofJobConfig? config = none := by
  refine List.findSome?_eq_none_iff.mpr ?_
  intro name mem
  exact ofSection?_eq_none.mpr (lacking name mem)

/-! ## Streams in order -/

/-- The streams that a list has modes of. -/
def keys (xs : List ConfiguredStream) : List StreamKey := xs.map (·.key)

/-- Every stream once, in order. -/
def InOrder (xs : List ConfiguredStream) : Prop :=
  (keys xs).Pairwise fun a b => a.lt b = true

theorem inOrder_nil : InOrder [] := List.Pairwise.nil

theorem InOrder.nodup {xs : List ConfiguredStream} (inOrder : InOrder xs) : (keys xs).Nodup :=
  inOrder.imp StreamKey.ne_of_lt

/-- There is one list of the same streams in order. -/
theorem InOrder.unique {xs ys : List ConfiguredStream} (hx : InOrder xs) (hy : InOrder ys)
    (perm : xs.Perm ys) : xs = ys := by
  refine perm.eq_of_pairwise ?_ (List.pairwise_map.mp hx) (List.pairwise_map.mp hy)
  intro a b _ _ ab ba
  exact absurd rfl (StreamKey.ne_of_lt (StreamKey.lt_trans ab ba))

/-- One more stream goes where its key belongs, unless the key is there already. -/
theorem insertMode?_cases (s : ConfiguredStream) {xs : List ConfiguredStream} (inOrder : InOrder xs) :
    (s.key ∈ keys xs ∧ insertMode? s xs = none) ∨
      (s.key ∉ keys xs ∧ ∃ ys, insertMode? s xs = some ys ∧ ys.Perm (s :: xs) ∧ InOrder ys) := by
  induction xs with
  | nil => exact .inr ⟨List.not_mem_nil, [s], rfl, .refl _, List.pairwise_singleton _ _⟩
  | cons t rest ih =>
    obtain ⟨first, later⟩ := List.pairwise_cons.mp inOrder
    rw [insertMode?]
    by_cases same : s.key = t.key
    · exact .inl ⟨List.mem_cons.mpr (.inl same), if_pos same⟩
    · rw [if_neg same]
      by_cases before : s.key.lt t.key
      · rw [if_pos before]
        have ahead : ∀ k ∈ keys (t :: rest), s.key.lt k = true := by
          intro k mem
          rcases List.mem_cons.mp mem with rfl | mem
          · exact before
          · exact StreamKey.lt_trans before (first k mem)
        refine .inr ⟨?_, _, rfl, .refl _, List.pairwise_cons.mpr ⟨ahead, inOrder⟩⟩
        intro mem
        exact StreamKey.ne_of_lt (ahead _ mem) rfl
      · rw [if_neg before]
        rcases ih later with ⟨mem, full⟩ | ⟨new, ys, put, perm, ordered⟩
        · refine .inl ⟨List.mem_cons_of_mem _ mem, ?_⟩
          rw [full]
          rfl
        · refine .inr ⟨?_, t :: ys, ?_, (perm.cons t).trans (.swap s t rest), ?_⟩
          · intro mem
            exact (List.mem_cons.mp mem).elim same new
          · rw [put]
            rfl
          · refine List.pairwise_cons.mpr ⟨?_, ordered⟩
            intro k mem
            -- behind `t` there are the streams that were there before and the new one
            rcases List.mem_cons.mp ((perm.map (·.key)).mem_iff.mp mem) with rfl | mem
            · exact StreamKey.lt_of_not_lt same before
            · exact first k mem

/-- Streams put in order one by one all end up there, or the first one whose key occurred before ends it. -/
theorem sortModes_cases {sorted : List ConfiguredStream} (inOrder : InOrder sorted)
    (streams : List ConfiguredStream) :
    (∃ modes, sortModes sorted streams = .ok modes ∧ modes.Perm (sorted ++ streams) ∧ InOrder modes) ∨
      ∃ before s after, streams = before ++ s :: after ∧ sortModes sorted streams = .error s.key ∧
        (keys (sorted ++ before)).Nodup ∧ s.key ∈ keys (sorted ++ before) := by
  induction streams generalizing sorted with
  | nil => exact .inl ⟨sorted, rfl, by rw [List.append_nil], inOrder⟩
  | cons s rest ih =>
    rw [sortModes]
    rcases insertMode?_cases s inOrder with ⟨mem, full⟩ | ⟨-, more, put, perm, ordered⟩
    · rw [full]
      refine .inr ⟨[], s, rest, rfl, rfl, ?_, ?_⟩
      · rw [List.append_nil]
        exact inOrder.nodup
      · rwa [List.append_nil]
    · rw [put]
      dsimp only
      -- what is sorted now stands for what was sorted before with the new stream behind it
      have moved (streams : List ConfiguredStream) :
          (more ++ streams).Perm (sorted ++ s :: streams) := by
        refine (perm.append_right streams).trans ?_
        exact List.perm_middle.symm
      rcases ih ordered with ⟨modes, done, all, modesOrdered⟩ | ⟨before, t, after, rfl, failed, once, mem⟩
      · exact .inl ⟨modes, done, all.trans (moved rest), modesOrdered⟩
      · have same := (moved before).map (·.key)
        exact .inr ⟨s :: before, t, after, rfl, failed, same.nodup_iff.mp once, same.mem_iff.mp mem⟩

/-- The section has a document of the catalog. -/
def StoredIn (c : Catalog) (config : Json) (name : String) : Prop :=
  ∃ part document, config.get? name = some part ∧
    part.get? "configuredAirbyteCatalog" = some document ∧ c.WrittenIn document

/-- A stored catalog is read unless an earlier section has one that can be read. -/
theorem StoredIn.read {c : Catalog} {config : Json} {before after : List String} {name : String}
    (stored : c.StoredIn config name) (split : sections = before ++ name :: after)
    (earlier : ∀ other ∈ before, Lacks config other) : ofJobConfig? config = some c := by
  obtain ⟨part, document, here, there, written⟩ := stored
  exact ofJobConfig?_eq_some split earlier here there written.read

end Catalog

/-! ## Jobs -/

open Catalog

/-- Whoever stores the job, its streams come out as the job has them. -/
theorem Inquiry.syncModes_endsIn (id : JobId) (job : Job) :
    (ExceptT.run (Inquiry.syncModes id)).EndsIn [⟨.jobs (.get id), Except.ok (some job)⟩] job.syncModes := by
  have comes : (ExceptT.run (Inquiry.syncModes id)).Converses
      [⟨.jobs (.get id), Except.ok (some job)⟩] job.syncModes := .ask (.done _)
  exact comes.endsIn

/-- The failure of a job that has a stream twice. -/
def Job.repeatedStream (job : Job) (s : ConfiguredStream) : HistoryError :=
  .validation .job (Digits.intText job.id) ("stream " ++ s.key.text ++ " is configured more than once")

theorem Job.syncModes_cases {job : Job} {streams : List ConfiguredStream} (known : job.catalog = some ⟨streams⟩) :
    (∃ modes, job.syncModes = .ok modes ∧ modes.Perm streams ∧ InOrder modes) ∨
      ∃ first s rest, streams = first ++ s :: rest ∧ (keys first).Nodup ∧ s.key ∈ keys first ∧
        job.syncModes = .error (job.repeatedStream s) := by
  rw [syncModes, known, Option.getD_some, Catalog.syncModes]
  rcases sortModes_cases inOrder_nil streams with
    ⟨modes, done, perm, inOrder⟩ | ⟨first, s, rest, split, failed, once, mem⟩
  · exact .inl ⟨modes, by rw [done], perm, inOrder⟩
  · exact .inr ⟨first, s, rest, split, once, mem, by rw [failed]; rfl⟩

/-- **Sync modes are read back exactly, or the first repeated stream is reported.** A catalog, in the form
that catalogs are written in or any other that has the same streams, is what a configuration comes to if no
section before has one that can be read. Asked how the streams of a job with such a configuration are
synced, whoever stores it, the history answers with exactly these streams in strictly increasing order, by
name and then by namespace, of which none is the least, if no two of them have the same name and namespace;
there is one such list whatever the order of the document. If two have, the answer is the failure of the job
that names the first stream that was there before. A configuration without any catalog has no streams. -/
theorem stream_modes_or_first_repeat (config : Json) (job : Job)
    (configured : job.catalog = Catalog.ofJobConfig? config) (id : JobId) :
    let asked : List (Exchange surroundings) := [⟨.jobs (.get id), Except.ok (some job)⟩]
    let modesOf := ExceptT.run (Inquiry.syncModes id)
    (∀ catalog : Catalog, catalog.WrittenIn catalog.toJson) ∧
    (∀ (before after : List String) (name : String) (streams : List ConfiguredStream),
      ["sync", "resetConnection", "refresh"] = before ++ name :: after →
      (∀ earlier ∈ before, Catalog.Lacks config earlier) → Catalog.StoredIn ⟨streams⟩ config name →
      Catalog.ofJobConfig? config = some ⟨streams⟩ ∧
      ((streams.map (·.key)).Nodup → ∃ modes, modesOf.EndsIn asked (.ok modes) ∧ modes.Perm streams ∧
        (modes.map (·.key.place)).Pairwise (· < ·) ∧
        ∀ other : List ConfiguredStream, other.Perm streams →
          (other.map (·.key.place)).Pairwise (· < ·) → other = modes) ∧
      (¬ (streams.map (·.key)).Nodup → ∃ first s rest, streams = first ++ s :: rest ∧
        (first.map (·.key)).Nodup ∧ s.key ∈ first.map (·.key) ∧
        modesOf.EndsIn asked (.error (.validation .job (Digits.intText job.id)
          ("stream " ++ s.key.text ++ " is configured more than once"))))) ∧
    ((∀ name ∈ ["sync", "resetConnection", "refresh"], Catalog.Lacks config name) →
      Catalog.ofJobConfig? config = none ∧ modesOf.EndsIn asked (.ok [])) := by
  intro asked modesOf
  have ends : modesOf.EndsIn asked job.syncModes := Inquiry.syncModes_endsIn id job
  have inOrder_iff (modes : List ConfiguredStream) :
      (modes.map (·.key.place)).Pairwise (· < ·) ↔ InOrder modes := by
    simp only [InOrder, keys, List.pairwise_map, StreamKey.lt_iff]
  refine ⟨writtenIn_toJson, ?_, ?_⟩
  · intro before after name streams split earlier stored
    have read := stored.read split earlier
    refine ⟨read, ?_, ?_⟩
    · intro distinct
      rcases Job.syncModes_cases (configured.trans read) with
        ⟨modes, done, perm, inOrder⟩ | ⟨first, s, rest, rfl, once, mem, failed⟩
      · rw [done] at ends
        refine ⟨modes, ends, perm, (inOrder_iff modes).mpr inOrder, ?_⟩
        intro other otherPerm sorted
        exact ((inOrder_iff other).mp sorted).unique inOrder (otherPerm.trans perm.symm)
      · -- the repeated stream stands behind the one with the same key
        rw [List.map_append, List.map_cons] at distinct
        exact absurd mem ((List.nodup_middle.mp distinct).notMem ∘ List.mem_append_left _)
    · intro repeated
      rcases Job.syncModes_cases (configured.trans read) with
        ⟨modes, done, perm, inOrder⟩ | ⟨first, s, rest, split, once, mem, failed⟩
      · have same := perm.map ConfiguredStream.key
        exact absurd (same.nodup_iff.mp inOrder.nodup) repeated
      · rw [failed] at ends
        exact ⟨first, s, rest, split, once, mem, ends⟩
  · intro lacking
    have none := ofJobConfig?_eq_none lacking
    have empty : job.syncModes = .ok [] := by
      rw [Job.syncModes, configured, none]
      rfl
    rw [empty] at ends
    exact ⟨none, ends⟩

/-- Three streams in the second section, the first of which has no catalog that can be read; the same with
two of them repeated; and a configuration without any catalog. -/
theorem stream_modes_or_first_repeat_users :
    let stream (name : String) (nameSpace : Option String) : ConfiguredStream :=
      ⟨⟨name, nameSpace⟩, .incremental⟩
    let config (streams : List ConfiguredStream) : Json :=
      .obj [("sync", .obj [("configuredAirbyteCatalog", .str "none")]),
        ("resetConnection", .obj [("configuredAirbyteCatalog", Catalog.toJson ⟨streams⟩)])]
    let bare : Json := .obj [("configType", .str "sync")]
    let job (config : Json) : Job :=
      ⟨7, .resetConnection, "c", Catalog.ofJobConfig? config, .failed, ⟨0, 0⟩, ⟨0, 0⟩, none, []⟩
    let asked (config : Json) : List (Exchange surroundings) :=
      [⟨.jobs (.get 7), Except.ok (some (job config))⟩]
    let modesOf := ExceptT.run (Inquiry.syncModes 7)
    let three := [stream "users" (some "b"), stream "users" none, stream "orders" (some "z")]
    let repeated := three ++ [stream "users" (some "b"), stream "orders" (some "z")]
    modesOf.EndsIn (asked (config three))
      (.ok [stream "orders" (some "z"), stream "users" none, stream "users" (some "b")]) ∧
    modesOf.EndsIn (asked (config repeated))
      (.error (.validation .job "7" "stream b.users is configured more than once")) ∧
    modesOf.EndsIn (asked bare) (.ok []) := by
  intro stream config bare job asked modesOf three repeated
  have lacks (streams : List ConfiguredStream) :
      ∀ earlier ∈ ["sync"], Catalog.Lacks (config streams) earlier := by
    intro earlier mem part document here stored
    cases List.mem_singleton.mp mem
    cases here
    cases stored
    rfl
  have stored (streams : List ConfiguredStream) :
      Catalog.StoredIn ⟨streams⟩ (config streams) "resetConnection" :=
    ⟨_, _, rfl, rfl, writtenIn_toJson ⟨streams⟩⟩
  have laws (config : Json) := stream_modes_or_first_repeat config (job config) rfl 7
  refine ⟨?_, ?_, ?_⟩
  · obtain ⟨-, found, -⟩ := laws (config three)
    obtain ⟨-, distinct, -⟩ := found ["sync"] ["refresh"] "resetConnection" three rfl (lacks three) (stored three)
    obtain ⟨modes, ends, -, -, unique⟩ := distinct (by decide)
    rwa [← unique [stream "orders" (some "z"), stream "users" none, stream "users" (some "b")]
      (by decide) (by decide)] at ends
  · obtain ⟨-, found, -⟩ := laws (config repeated)
    obtain ⟨-, -, repeats⟩ :=
      found ["sync"] ["refresh"] "resetConnection" repeated rfl (lacks repeated) (stored repeated)
    obtain ⟨first, s, rest, split, once, mem, ends⟩ := repeats (by decide)
    have before : repeated.take first.length = first := by rw [split, List.take_left]
    have here : repeated[first.length]? = some s := by rw [split]; simp
    have short : first.length < 5 := by
      have total := congrArg List.length split
      simp only [List.length_append, List.length_cons] at total
      change 5 = _ at total
      omega
    have only : ∀ n < 5, (keys (repeated.take n)).Nodup →
        (repeated[n]?.map (·.key)) ∈ (keys (repeated.take n)).map some → n = 3 := by decide
    have third : first.length = 3 := by
      refine only _ short ?_ ?_
      · rwa [before]
      · rw [before, here]
        exact List.mem_map_of_mem mem
    rw [third] at here
    rwa [← Option.some.inj here] at ends
  · obtain ⟨-, -, lacking⟩ := laws bare
    refine (lacking ?_).2
    intro name mem part document here
    simp only [List.mem_cons, List.not_mem_nil, or_false] at mem
    rcases mem with rfl | rfl | rfl
    · cases here
    · cases here
    · cases here

end SyncHistory
