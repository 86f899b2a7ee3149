import SyncHistory.Deployment
import SyncHistory.Proofs.AttachedAttempts
import SyncHistory.Proofs.Cursor
import SyncHistory.Proofs.Statement

/-!
# The limit of a page up to a job

The number of rows of a page up to a job is computed from a place that a store reports, a number of 64 bits,
and a page size of 32 bits. The page size of an accepted request is not zero, whatever the settings, so the
pages can be counted, and so far below the end of the 64 bits their rows fit as well
(`toNat_wholePages_mul`). Hence words give the limit that is computed without bounds
(`cursorLimitWord_eq`): the least whole number of pages that reaches the place, or the most rows that can be
asked for.

`Prog.AsksNext` says what a program asks after an exchange. Where every question is answered by a program of
another interface, that is the question that the other one begins with (`Prog.AsksNext.run`), so the limit
in the question to a store is the one in the statement that is sent (`cursor_limit_safe`).
-/

namespace SyncHistory

/-! ## Words -/

/-- The pages up to a place, counted in words of 64 bits. -/
def wholePages (position size : UInt64) : UInt64 :=
  position / size + if position % size = 0 then 0 else 1

/-- The limit of a cursor page in words: the rows of the whole pages up to a place, or the most rows that can
be asked for if 32 bits do not hold them. -/
def cursorLimitWord (position : UInt64) (pageSize : UInt32) : UInt32 :=
  let rows := wholePages position pageSize.toUInt64 * pageSize.toUInt64
  if rows.toNat ≤ maxRows then rows.toUInt32 else .ofNat maxRows

/-- A quotient is rounded up by one where something is left over. -/
theorem div_add_eq_ceilDiv (n : Nat) {size : Nat} (pos : 0 < size) :
    (n / size + if n % size = 0 then 0 else 1) = n ⌈/⌉ size := by
  refine eq_of_forall_ge_iff fun k => ?_
  rw [ceilDiv_le_iff_le_mul pos, Nat.mul_comm]
  by_cases whole : n % size = 0
  · obtain ⟨pages, rfl⟩ := Nat.dvd_of_mod_eq_zero whole
    rw [if_pos whole, Nat.add_zero, Nat.mul_div_cancel_left pages pos, Nat.mul_comm k,
      Nat.mul_le_mul_left_iff pos]
  · rw [if_neg whole, Nat.add_one_le_iff, Nat.div_lt_iff_lt_mul pos]
    have uneven : n ≠ k * size := by
      rintro rfl
      exact whole (Nat.mul_mod_left k size)
    omega

/-- Rounding up adds less than a page. -/
theorem ceilDiv_mul_lt (n : Nat) {size : Nat} (pos : 0 < size) : n ⌈/⌉ size * size < n + size := by
  have whole := Nat.div_mul_le_self (n + size - 1) size
  rw [Nat.ceilDiv_eq_add_pred_div]
  omega

/-- Whole pages up to a place are the least number of rows that are whole pages and reach it. -/
theorem isLeast_ceilDiv_mul (n : Nat) {size : Nat} (pos : 0 < size) :
    IsLeast {rows | size ∣ rows ∧ n ≤ rows} (n ⌈/⌉ size * size) := by
  constructor
  · refine ⟨Nat.dvd_mul_left size _, ?_⟩
    rw [Nat.mul_comm]
    exact (ceilDiv_le_iff_le_mul pos).mp le_rfl
  · rintro _ ⟨⟨pages, rfl⟩, reaches⟩
    rw [Nat.mul_comm]
    exact Nat.mul_le_mul_left size ((ceilDiv_le_iff_le_mul pos).mpr reaches)

section

variable {position : Nat} (within : position < 2 ^ 63) {size : UInt32} (nonzero : size ≠ 0)

include within nonzero

/-- The rows of the pages up to a place fit words of 64 bits. -/
theorem toNat_wholePages_mul :
    (wholePages (.ofNat position) size.toUInt64 * size.toUInt64).toNat =
      position ⌈/⌉ size.toNat * size.toNat := by
  have pos : 0 < size.toNat := Nat.pos_of_ne_zero fun h => nonzero (UInt32.toNat_inj.mp h)
  have word : (UInt64.ofNat position).toNat = position :=
    UInt64.toNat_ofNat_of_lt' (Nat.lt_trans within (by decide))
  have below := ceilDiv_mul_lt position pos
  have small := size.toNat_lt
  have one : position ⌈/⌉ size.toNat ≤ position ⌈/⌉ size.toNat * size.toNat :=
    Nat.le_mul_of_pos_right _ pos
  have pages : (wholePages (.ofNat position) size.toUInt64).toNat = position ⌈/⌉ size.toNat := by
    have left : UInt64.ofNat position % size.toUInt64 = 0 ↔ position % size.toNat = 0 := by
      rw [← UInt64.toNat_inj, UInt64.toNat_mod, word, UInt32.toNat_toUInt64, UInt64.toNat_zero]
    have rest : (if UInt64.ofNat position % size.toUInt64 = 0 then (0 : UInt64) else 1).toNat =
        if position % size.toNat = 0 then 0 else 1 := by
      simp only [left]
      split <;> rfl
    rw [wholePages, UInt64.toNat_add, UInt64.toNat_div, word, UInt32.toNat_toUInt64, rest,
      div_add_eq_ceilDiv position pos]
    exact Nat.mod_eq_of_lt (by omega)
  rw [UInt64.toNat_mul, pages, UInt32.toNat_toUInt64]
  exact Nat.mod_eq_of_lt (by omega)

/-- Words give the limit of a cursor page. -/
theorem cursorLimitWord_eq : cursorLimitWord (.ofNat position) size = cursorLimit position size := by
  refine UInt32.toNat_inj.mp ?_
  have rows := toNat_wholePages_mul within nonzero
  rw [cursorLimit_toNat, cursorLimitWord, rows]
  by_cases fits : position ⌈/⌉ size.toNat * size.toNat ≤ maxRows
  · rw [if_pos fits, Nat.min_eq_left fits, UInt64.toNat_toUInt32, rows]
    exact Nat.mod_eq_of_lt (Nat.lt_of_le_of_lt fits (by decide))
  · rw [if_neg fits, Nat.min_eq_right (Nat.le_of_not_le fits)]
    rfl

end

/-! ## Next questions -/

namespace Prog

variable {I J : Interface} {α β : Type}

/-- After an exchange the program asks this question next. -/
inductive AsksNext : Prog I α → List (Exchange I) → I.Query → Prop
  | now (q : I.Query) (k : I.Answer q → Prog I α) : AsksNext (.ask q k) [] q
  | later {q next : I.Query} {k : I.Answer q → Prog I α} {r : I.Answer q} {t : List (Exchange I)}
      (rest : AsksNext (k r) t next) : AsksNext (.ask q k) (⟨q, r⟩ :: t) next

namespace AsksNext

/-- What comes after a program has no bearing on its questions. -/
theorem bind {p : Prog I α} {t : List (Exchange I)} {q : I.Query} (asks : p.AsksNext t q)
    (f : α → Prog I β) : (p.bind f).AsksNext t q := by
  induction asks with
  | now q k => exact .now q _
  | later _ ih => exact .later ih

/-- Where a program has come to its result, the one after it asks. -/
theorem behind {p : Prog I α} {f : α → Prog I β} {t t' : List (Exchange I)} {a : α} {q : I.Query}
    (comes : p.Converses t a) (asks : (f a).AsksNext t' q) : (p.bind f).AsksNext (t ++ t') q := by
  induction comes with
  | done a => exact asks
  | ask _ ih => exact .later (ih asks)

/-- Where every question is answered by a program of another interface, the next question is the first one of
the program that answers it. -/
theorem run {answer : (q : I.Query) → Prog J (I.Answer q)} {p : Prog I α} {t : List (Exchange I)}
    {q : I.Query} (asks : p.AsksNext t q) {parts : List (List (Exchange J))}
    (answered : List.Forall₂ (fun x part => (answer x.1).Converses part x.2) t parts) {next : J.Query}
    (first : (answer q).AsksNext [] next) : (p.run answer).AsksNext parts.flatten next := by
  induction asks generalizing parts with
  | now q k =>
    cases answered
    exact first.bind _
  | later _ ih =>
    cases answered with
    | cons comes answered => exact behind comes (ih answered first)

end AsksNext

end Prog

/-! ## Questions of a listing -/

namespace Inquiry

theorem listing_asksNext {settings : Settings} {request : JobListRequest} {plan : ListingPlan}
    (planned : request.plan settings.defaultPageSize = .ok plan) {t : List (Exchange surroundings)}
    {q : Question} (asks : (listJobs plan).run.AsksNext t q) (asksWorkflow : Bool) :
    ((Operation.listJobs request).answer settings asksWorkflow).run.AsksNext t q := by
  have listing : (listing settings request).run.AsksNext t q := by
    rw [listing, planned]
    exact asks.bind _
  exact listing.bind _

/-- The first question for a page up to a job is that for its place. -/
theorem listJobs_asksNext_position {plan : ListingPlan} {id : JobId} {size : UInt32}
    (page : plan.page = .includingJob id size) : (listJobs plan).run.AsksNext []
      (.jobs (.position plan.filter.cursorPart .newestFirst id)) := by
  rw [listJobs, page]
  exact .now _ _

/-- The second one is that for the rows up to the limit. -/
theorem listJobs_asksNext_list {plan : ListingPlan} {id : JobId} {size : UInt32}
    (page : plan.page = .includingJob id size) (position : Nat) : (listJobs plan).run.AsksNext
      [⟨.jobs (.position plan.filter.cursorPart .newestFirst id), Except.ok (some position)⟩]
      (.jobs (.list plan.filter.cursorPart .newestFirst (some ⟨cursorLimit position size, 0⟩))) := by
  rw [listJobs, page]
  exact .later (.now _ _)

end Inquiry

namespace Postgres

theorem position_asksNext (filter : JobFilter) (order : JobOrder) (id : JobId) :
    (answer (.position filter order id)).run.AsksNext [] (positionStatement filter order id) :=
  .now _ _

theorem list_asksNext (filter : JobFilter) (order : JobOrder) (window : Option Window) :
    (answer (.list filter order window)).run.AsksNext [] (listStatement filter order window) :=
  .now _ _

/-- A place that the database reports is the place that is answered. -/
theorem position_converses (filter : JobFilter) (order : JobOrder) (id : JobId) {row : Row} {n : Nat}
    (reported : row.get "position" = .int n) (within : n < 2 ^ 63) :
    (answer (.position filter order id)).run.Converses
      [⟨positionStatement filter order id, Except.ok [row]⟩] (.ok (some n)) := by
  have word : ((n : Int) % Nat.pow 2 64).toNat = n := by
    have bound : ((Nat.pow 2 64 : Nat) : Int) = 18446744073709551616 := rfl
    rw [bound]
    omega
  refine rows_converses (ofExcept_converses rfl (ofExcept_converses (read_int.mpr reported) ?_))
  rw [word]
  exact .done _

/-- The limit and the offset of a section are the values of the last two places. -/
theorem listStatement_window (filter : JobFilter) (order : JobOrder) (window : Window) :
    let s := listStatement filter order (some window)
    let next := filter.predicate.nextPlace
    (∃ front, s.text = front ++
      (" LIMIT " ++ Fragment.placeholder next ++ " OFFSET " ++ Fragment.placeholder (next + 1))) ∧
    Sql.paramAt s.params next = .int window.limit.toNat ∧
    Sql.paramAt s.params (next + 1) = .int window.offset.toNat := by
  refine ⟨⟨_, rfl⟩, Sql.paramAt_of_length rfl, ?_⟩
  have behind : (listStatement filter order (some window)).params =
      (filter.predicate.params ++ [.int window.limit.toNat]) ++ [.int window.offset.toNat] := by
    rw [List.append_assoc]
    rfl
  rw [behind]
  exact Sql.paramAt_of_length (by rw [List.length_append]; rfl)

end Postgres

namespace Deployment

variable {α : Type}

theorem jobsDatabase_asksNext {p : Prog database α} {statement : Statement}
    (first : p.AsksNext [] statement) : (jobsDatabase p).AsksNext [] (.jobs statement) :=
  first.run .nil (.now _ _)

/-- The database of jobs is asked for whatever a program asks a database. -/
theorem jobsDatabase_converses {p : Prog database α} {t : List (Exchange database)} {a : α}
    (comes : p.Converses t a) :
    (jobsDatabase p).Converses (t.map fun x => (⟨.jobs x.1, x.2⟩ : Exchange outside)) a := by
  induction comes with
  | done a => exact .done a
  | ask _ ih => exact .ask ih

variable [SchemaChecker] {settings : Settings} {endpoint : Option WorkflowEndpoint}
  {request : JobListRequest} {plan : ListingPlan} {id : JobId} {size : UInt32}

theorem perform_asksNext_position (planned : request.plan settings.defaultPageSize = .ok plan)
    (page : plan.page = .includingJob id size) :
    (perform settings endpoint (.listJobs request)).AsksNext []
      (.jobs (Postgres.positionStatement plan.filter.cursorPart .newestFirst id)) :=
  (Inquiry.listing_asksNext planned (Inquiry.listJobs_asksNext_position page) endpoint.isSome).run .nil
    (jobsDatabase_asksNext (Postgres.position_asksNext _ _ _))

/-- Once the place is reported, the rows up to the limit are asked for. -/
theorem perform_asksNext_list (planned : request.plan settings.defaultPageSize = .ok plan)
    (page : plan.page = .includingJob id size) {row : Row} {position : Nat}
    (reported : row.get "position" = .int position) (within : position < 2 ^ 63) :
    (perform settings endpoint (.listJobs request)).AsksNext
      [⟨.jobs (Postgres.positionStatement plan.filter.cursorPart .newestFirst id), Except.ok [row]⟩]
      (.jobs (Postgres.listStatement plan.filter.cursorPart .newestFirst
        (some ⟨cursorLimit position size, 0⟩))) := by
  have asks := Inquiry.listing_asksNext planned (Inquiry.listJobs_asksNext_list page position) endpoint.isSome
  have answered : (answer endpoint (.jobs (.position plan.filter.cursorPart .newestFirst id))).Converses
      [⟨.jobs (Postgres.positionStatement plan.filter.cursorPart .newestFirst id), Except.ok [row]⟩]
      (Except.ok (some position)) :=
    jobsDatabase_converses (Postgres.position_converses _ _ _ reported within)
  have first : (answer endpoint (.jobs (.list plan.filter.cursorPart .newestFirst
      (some ⟨cursorLimit position size, 0⟩)))).AsksNext [] (.jobs (Postgres.listStatement
        plan.filter.cursorPart .newestFirst (some ⟨cursorLimit position size, 0⟩))) :=
    jobsDatabase_asksNext (Postgres.list_asksNext _ _ _)
  exact Prog.AsksNext.run asks (.cons answered .nil) first

end Deployment

/-- **The limit of a page up to a job is safe.** Whatever the settings, an accepted request that has to
include a job has a page size that is not zero. For every place of 63 bits that a store may report, the rows
of the whole pages up to it are below the end of 64 bits, and counted in words of 64 bits they give the
limit in the next question to the store: as many rows, or as many as 32 bits hold. The limit reaches the
place if 32 bits hold the place, and is the least number of whole pages that reaches it if they hold that.
Over the database of jobs it is the value in the place of the limit, and the offset is zero. -/
theorem cursor_limit_safe [SchemaChecker] (settings : Settings) (request : JobListRequest)
    (plan : ListingPlan) (id : JobId) (planned : request.plan settings.defaultPageSize = .ok plan)
    (including : request.includingJobId = some id) (position : Nat) (within : position < 2 ^ 63) :
    let filter := plan.filter.cursorPart
    let asked : Question := .jobs (.position filter .newestFirst id)
    let sent : Demand := .jobs (Postgres.positionStatement filter .newestFirst id)
    ∃ size limit : UInt32, plan.page = .includingJob id size ∧ size ≠ 0 ∧
      position ⌈/⌉ size.toNat * size.toNat < 2 ^ 64 ∧
      cursorLimitWord (.ofNat position) size = limit ∧
      limit.toNat = min (position ⌈/⌉ size.toNat * size.toNat) (2 ^ 32 - 1) ∧
      (position < 2 ^ 32 → position ≤ limit.toNat) ∧
      (∀ least, IsLeast {rows | size.toNat ∣ rows ∧ position ≤ rows} least → least < 2 ^ 32 →
        limit.toNat = least) ∧
      (∀ asksWorkflow,
        let listing := ((Operation.listJobs request).answer settings asksWorkflow).run
        listing.AsksNext [] asked ∧ listing.AsksNext [⟨asked, Except.ok (some position)⟩]
          (.jobs (.list filter .newestFirst (some ⟨limit, 0⟩)))) ∧
      ∀ (endpoint : Option WorkflowEndpoint) (row : Row), row.get "position" = .int position →
        let listing := Deployment.perform settings endpoint (.listJobs request)
        let next := filter.predicate.nextPlace
        ∃ statement : Statement, listing.AsksNext [] sent ∧
          listing.AsksNext [⟨sent, Except.ok [row]⟩] (.jobs statement) ∧
          (∃ front, statement.text = front ++
            (" LIMIT " ++ Fragment.placeholder next ++ " OFFSET " ++ Fragment.placeholder (next + 1))) ∧
          Sql.paramAt statement.params next = .int limit.toNat ∧
          Sql.paramAt statement.params (next + 1) = .int 0 := by
  intro filter asked sent
  obtain ⟨nonzero, page⟩ := JobListRequest.plan_includingJob planned including
  generalize request.pageSize settings.defaultPageSize = size at nonzero page
  have pos : 0 < size.toNat := Nat.pos_of_ne_zero fun h => nonzero (UInt32.toNat_inj.mp h)
  have below := ceilDiv_mul_lt position pos
  have least := isLeast_ceilDiv_mul position pos
  have small := size.toNat_lt
  have limit : (cursorLimit position size).toNat =
      min (position ⌈/⌉ size.toNat * size.toNat) (2 ^ 32 - 1) := cursorLimit_toNat position size
  refine ⟨size, cursorLimit position size, page, nonzero, by omega, cursorLimitWord_eq within nonzero, limit,
    fun short => ?_, fun other isLeast fits => ?_, fun asksWorkflow => ⟨?_, ?_⟩,
    fun endpoint row reported => ⟨_, ?_, Deployment.perform_asksNext_list planned page reported within,
      Postgres.listStatement_window _ _ _⟩⟩
  · have reaches := least.1.2
    omega
  · have same := least.unique isLeast
    omega
  · exact Inquiry.listing_asksNext planned (Inquiry.listJobs_asksNext_position page) asksWorkflow
  · exact Inquiry.listing_asksNext planned (Inquiry.listJobs_asksNext_list page position) asksWorkflow
  · exact Deployment.perform_asksNext_position planned page

/-- The greatest place of 32 bits with pages that are so large that the second one cannot be asked for as a
whole, and a place in the middle of the second page of two rows. The settings have no page size. -/
theorem cursor_limit_safe_large :
    let settings : Settings := ⟨0, false, 1000, "dev"⟩
    let request (size : UInt32) : JobListRequest := ⟨⟨[.sync], none, .unbounded, .unbounded,
      some ⟨some size, some 7⟩, none, none⟩, some "c", some 3⟩
    let filter : JobFilter := .ofScope [.sync] (.scope "c")
    let asked : Question := .jobs (.position filter .newestFirst 3)
    let plan (size : UInt32) : ListingPlan := ⟨filter, .newestFirst, .includingJob 3 size⟩
    let listing (size : UInt32) := ((Operation.listJobs (request size)).answer settings false).run
    (request 3000000000).plan settings.defaultPageSize = .ok (plan 3000000000) ∧
    (request 2).plan settings.defaultPageSize = .ok (plan 2) ∧
    (listing 3000000000).AsksNext [⟨asked, Except.ok (some 4294967295)⟩]
      (.jobs (.list filter .newestFirst (some ⟨4294967295, 0⟩))) ∧
    (listing 2).AsksNext [⟨asked, Except.ok (some 3)⟩]
      (.jobs (.list filter .newestFirst (some ⟨4, 0⟩))) ∧
    ∃ statement : Statement, (Deployment.perform settings none (.listJobs (request 2))).AsksNext
        [⟨.jobs (Postgres.positionStatement filter .newestFirst 3), Except.ok [⟨[("position", .int 3)]⟩]⟩]
        (.jobs statement) ∧
      Sql.paramAt statement.params 3 = .int 4 ∧ Sql.paramAt statement.params 4 = .int 0 := by
  intro settings request filter asked plan listing
  have large : (request 3000000000).plan settings.defaultPageSize = .ok (plan 3000000000) := by decide
  have two : (request 2).plan settings.defaultPageSize = .ok (plan 2) := by decide
  refine ⟨large, two, ?_⟩
  obtain ⟨size, limit, page, -, -, -, bound, -, -, asks, -⟩ :=
    cursor_limit_safe settings _ _ 3 large rfl 4294967295 (by decide)
  obtain ⟨size', limit', page', -, -, -, -, -, least, asks', sent⟩ :=
    cursor_limit_safe settings _ _ 3 two rfl 3 (by decide)
  cases page
  cases page'
  have most : limit = 4294967295 := by
    rw [Nat.ceilDiv_eq_add_pred_div] at bound
    exact UInt32.toNat_inj.mp bound
  have four : limit'.toNat = 4 := by
    refine least 4 ⟨⟨by decide, by decide⟩, fun rows whole => ?_⟩ (by decide)
    obtain ⟨⟨pages, rfl⟩, reaches⟩ := whole
    change 3 ≤ 2 * pages at reaches
    change 4 ≤ 2 * pages
    omega
  obtain ⟨statement, -, next, -, limit_eq, offset_eq⟩ :=
    sent none ⟨[("position", .int 3)]⟩ rfl
  refine ⟨most ▸ (asks false).2, ?_, statement, next, ?_, offset_eq⟩
  · have word : limit' = 4 := UInt32.toNat_inj.mp four
    exact word ▸ (asks' false).2
  · rwa [four] at limit_eq

end SyncHistory
