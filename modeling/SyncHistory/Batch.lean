import SyncHistory.Hydration

/-!
# Hydration in place

`Inquiry.hydrate` asks for the statistics of one job after the other and returns new views. The fetches can
as well be under way side by side, with the views changed where they are; a `Batch` is such a hydration.
Answers arrive in any order (`Batch.Event.arrival`). Once a failure is among them the batch may be given up
(`Batch.Event.failure`), whatever has not arrived yet; once all of them are statistics the views are filled,
in the order of the jobs (`Batch.Event.completion`). Nothing happens to a batch that is over.
-/

namespace SyncHistory

/-- The fetch of the statistics of one job, and its answer once that is there. -/
structure Fetch where
  id : JobId
  answer : Option (Except HistoryError (List AttemptStats))

namespace Fetch

/-- What a job store answers to the fetch at a place, which is for the job with a number. -/
abbrev Source : Type := Nat → JobId → Except HistoryError (List AttemptStats)

/-- The statistics that were fetched. -/
def stats? (f : Fetch) : Option (List AttemptStats) :=
  match f.answer with
  | some (.ok stats) => some stats
  | _ => none

end Fetch

/-- A hydration in place. -/
structure Batch where
  views : List JobWithAttempts
  fetches : List Fetch
  /-- What the hydration has come to, if it is over. -/
  outcome : Option (Except HistoryError Unit)

namespace Batch

/-- What can happen to a batch. -/
inductive Event where
  /-- The answer to the fetch at a place arrives. -/
  | arrival (place : Nat)
  /-- The answer at a place is found to be a failure, and the batch is given up. -/
  | failure (place : Nat)
  /-- Everything is found to be there, and the views are filled. -/
  | completion
deriving DecidableEq

/-- A batch of the views of jobs, the n-th view being that of the n-th job. Unless statistics are wanted
and the lists have the same length, it is over at once. -/
def start (views : List JobWithAttempts) (jobs : List Job) (wanted : Bool) : Batch :=
  if !wanted then ⟨views, [], some (.ok ())⟩
  else if views.length ≠ jobs.length then
    ⟨views, [], some (.error (.invalidArgument (.unevenViews views.length jobs.length)))⟩
  else ⟨views, jobs.map fun job => ⟨job.id, none⟩, none⟩

/-- Puts statistics into views, one after the other; a view that there are none for stays as it is. -/
def fill : List JobWithAttempts → List (List AttemptStats) → List JobWithAttempts
  | view :: views, stats :: rest => view.hydrate stats :: fill views rest
  | views, _ => views

/-- What was fetched for each job, if it was for all of them. -/
def fetched? (b : Batch) : Option (List (List AttemptStats)) :=
  b.fetches.mapM Fetch.stats?

/-- The batch after an event, if it can happen. -/
def step (source : Fetch.Source) (b : Batch) (event : Event) : Option Batch :=
  match b.outcome with
  | some _ => none
  | none =>
    match event with
    | .arrival place =>
      match b.fetches[place]? with
      | some ⟨id, none⟩ =>
        some { b with fetches := b.fetches.set place ⟨id, some (source place id)⟩ }
      | _ => none
    | .failure place =>
      match b.fetches[place]? with
      | some ⟨_, some (.error e)⟩ => some { b with outcome := some (.error e) }
      | _ => none
    | .completion =>
      match b.fetched? with
      | some stats => some { b with views := fill b.views stats, outcome := some (.ok ()) }
      | none => none

/-- The batch after events in a row, if they can happen. -/
def run (source : Fetch.Source) (b : Batch) (events : List Event) : Option Batch :=
  events.foldlM (step source) b

end Batch

end SyncHistory
