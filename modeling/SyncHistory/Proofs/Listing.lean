import SyncHistory.Proofs.Filter
import SyncHistory.Proofs.Outcome
import SyncHistory.Proofs.Plan
import SyncHistory.Schema.Checker

/-!
# What a listing comes to

In a session whose job store can be reached, no question of a listing fails: a page of rows is what the
tables list (`Session.outcome_offset`, `Session.outcome_cursor`), the views of jobs are those of
`JobTables.view`, and an accepted request is answered (`Session.outcome_listing`). Whatever has been set
up, the store can be reached unless it was set out of reach (`Session.setUp_available`).

All of this holds whoever checks configurations under schemas. The sessions of examples, which are set up
by `Session.setUp`, have the checker that the program runs with.
-/

namespace SyncHistory

/-- The view of a stored job, with what is stored about its attempts if that is wanted. -/
def JobTables.view (t : JobTables) (wanted : Bool) (job : Job) : JobWithAttempts :=
  if wanted then (JobWithAttempts.ofJob job).hydrate (t.statsOf job.id) else .ofJob job

namespace Session

/-- The session after changes made one after the other. -/
def setUp (setups : List Setup) : Session := setups.foldl set empty

/-- Only a change of that kind puts a store out of reach. -/
theorem setUp_available {setups : List Setup} (h : ∀ value, .available value ∈ setups → value = true) :
    (setUp setups).store.available = true := by
  suffices ∀ s : Session, s.store.available = true → (setups.foldl set s).store.available = true from
    this empty rfl
  induction setups with
  | nil => exact fun _ hs => hs
  | cons setup setups ih =>
    intro s hs
    refine ih (fun value hv => h value (List.mem_cons_of_mem _ hv)) (s.set setup) ?_
    cases setup with
    | available value => exact h value List.mem_cons_self
    | _ => exact hs

variable [SchemaChecker] {s : Session}

/-- The views of jobs are those of each single job, in the same order. -/
theorem outcome_hydratedViews (available : s.store.available = true) (jobs : List Job)
    (wanted : Bool) :
    s.outcome (.hydratedViews jobs wanted) = .ok (jobs.map (s.store.tables.view wanted)) := by
  cases wanted with
  | false => rfl
  | true =>
    have fetched : s.outcome (jobs.mapM fun job => Inquiry.jobs (.jobStats job.id)) =
        .ok (jobs.map fun job => s.store.tables.statsOf job.id) :=
      outcome_mapM fun job _ => outcome_jobs available (.jobStats job.id)
    unfold Inquiry.hydratedViews Inquiry.hydrate
    simp only [Bool.not_true, Bool.false_eq_true, if_false, List.length_map, ne_eq, not_true_eq_false]
    rw [outcome_bind_ok fetched, outcome_pure, List.zipWith_map, List.zipWith_self]
    rfl

/-- An offset page is a window of what the tables list. -/
theorem outcome_offset (available : s.store.available = true) {plan : ListingPlan}
    {size offset : UInt32} (page : plan.page = .offset size offset) :
    s.outcome (.listJobs plan) =
      .ok (s.store.tables.list plan.filter plan.order (some ⟨size, offset⟩)) := by
  unfold Inquiry.listJobs
  rw [page]
  exact outcome_jobs available _

/-- A cursor page is the start of what the tables list by kinds and owners, the newest job first, up to
the end of the page with the job; it is empty if the job is not among these. -/
theorem outcome_cursor (available : s.store.available = true) {plan : ListingPlan} {id : JobId}
    {size : UInt32} (page : plan.page = .includingJob id size) :
    s.outcome (.listJobs plan) = .ok
      (match s.store.tables.position plan.filter.cursorPart .newestFirst id with
        | some position => s.store.tables.list plan.filter.cursorPart .newestFirst
            (some ⟨cursorLimit position size, 0⟩)
        | none => []) := by
  unfold Inquiry.listJobs
  rw [page]
  have reply := outcome_jobs available (.position plan.filter.cursorPart .newestFirst id)
  cases found : s.store.tables.position plan.filter.cursorPart .newestFirst id with
  | none => exact outcome_bind_ok (reply.trans (congrArg Except.ok found)) _
  | some position =>
    refine (outcome_bind_ok (reply.trans (congrArg Except.ok found)) _).trans ?_
    exact outcome_jobs available _

/-- Whatever the page, its rows can be had. -/
theorem outcome_listJobs_ok (available : s.store.available = true) (plan : ListingPlan) :
    ∃ rows, s.outcome (.listJobs plan) = .ok rows := by
  cases h : plan.page with
  | offset size offset => exact ⟨_, outcome_offset available h⟩
  | includingJob id size => exact ⟨_, outcome_cursor available h⟩

/-- An accepted request is answered by the views of its page and the number of all jobs that pass its
filter. -/
theorem outcome_listing (available : s.store.available = true) {settings : Settings}
    {request : JobListRequest} {plan : ListingPlan} {rows : List Job}
    (planned : request.plan settings.defaultPageSize = .ok plan)
    (listed : s.outcome (.listJobs plan) = .ok rows) :
    s.outcome (.listing settings request) =
      .ok ⟨rows.map (s.store.tables.view settings.hydrateAggregatedStats),
        s.store.tables.count plan.filter⟩ := by
  have counted : s.outcome (.countJobs plan) = .ok (s.store.tables.count plan.filter) :=
    outcome_jobs available _
  unfold Inquiry.listing
  rw [planned, outcome_bind_ok (outcome_ofExcept s _), Inquiry.countedListing,
    outcome_bind_ok listed, outcome_bind_ok counted,
    outcome_bind_ok (outcome_hydratedViews available rows _), outcome_pure]

end Session

end SyncHistory
