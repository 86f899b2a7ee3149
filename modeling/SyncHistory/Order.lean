import SyncHistory.Job

/-!
# Order of a listing

A listing is ordered by one of two times, in one of two directions; jobs of the same time follow each
other by number in the same direction, so that no two different jobs are tied.
-/

namespace SyncHistory

/-- The time that a listing is ordered by. -/
inductive OrderField where
  | createdAt
  | updatedAt
deriving DecidableEq

namespace OrderField

def name : OrderField → String
  | createdAt => "createdAt"
  | updatedAt => "updatedAt"

/-- Reads the exact name. -/
def parse (text : String) : Except HistoryError OrderField :=
  match [createdAt, updatedAt].find? fun f => f.name == text with
  | some f => .ok f
  | none => .error (.invalidArgument (.unknownOrderField text))

end OrderField

/-- The direction of a listing. -/
inductive Direction where
  | ascending
  | descending
deriving DecidableEq

namespace Direction

def name : Direction → String
  | ascending => "ASC"
  | descending => "DESC"

/-- Reads a name without regard to letter case. -/
def parse (text : String) : Except HistoryError Direction :=
  match [ascending, descending].find? fun d => Text.sameLetters d.name text with
  | some d => .ok d
  | none => .error (.invalidArgument (.unknownDirection text))

end Direction

/-- How a listing is ordered. -/
structure JobOrder where
  field : OrderField
  direction : Direction
deriving DecidableEq

namespace JobOrder

/-- The newest job first. -/
def newestFirst : JobOrder := ⟨.createdAt, .descending⟩

/-- The time of a job that counts. -/
def time (o : JobOrder) (job : Job) : Instant :=
  match o.field with
  | .createdAt => job.createdAt
  | .updatedAt => job.updatedAt

/-- How two jobs stand to each other in a listing. -/
def compare (o : JobOrder) (a b : Job) : Ordering :=
  let ascending := ((o.time a).compare (o.time b)).then (Ord.compare a.id b.id)
  match o.direction with
  | .ascending => ascending
  | .descending => ascending.swap

/-- The jobs in order; jobs that are tied keep their places. -/
def sort (o : JobOrder) (jobs : List Job) : List Job :=
  jobs.mergeSort fun a b => (o.compare a b).isLE

/-- Which of two jobs stands first; of jobs that are tied, the one that was met before. -/
def earlier (o : JobOrder) (met next : Job) : Job :=
  if (o.compare met next).isLE then met else next

/-- The job that stands first, found without sorting; of jobs that are tied, the first of the list. -/
def first? (o : JobOrder) : List Job → Option Job
  | [] => none
  | job :: rest => some (rest.foldl o.earlier job)

end JobOrder

end SyncHistory
