import Mathlib.Data.List.Forall2
import Mathlib.Data.List.Nodup
import SyncHistory.Batch
import SyncHistory.Proofs.Failure
import SyncHistory.Proofs.Outcome

/-!
# All views or none

A batch is all or nothing, and it goes by position, whatever the order in which its answers arrive. What
holds of every batch under way is `Batch.Sound`: its fetches are those for the jobs, each answer is that of
its own fetch, and no view is touched before the end. Every event keeps that (`Batch.Sound.step`) and
brings the end nearer (`Batch.left_step`), and until then another event can happen (`Batch.exists_step`), so
every batch comes to an end, and its end depends on the answers alone (`hydration_all_or_nothing`).
-/

namespace SyncHistory

/-! ## Fetching and filling -/

namespace Batch

theorem length_fill (views : List JobWithAttempts) (stats : List (List AttemptStats)) :
    (fill views stats).length = views.length := by
  induction views, stats using fill.induct with
  | case1 view views stats rest ih => rw [fill, List.length_cons, ih, List.length_cons]
  | case2 views stats none => rw [fill]; exact none

theorem getElem?_fill {views : List JobWithAttempts} {stats : List (List AttemptStats)} {i : Nat}
    {view : JobWithAttempts} {own : List AttemptStats} (hview : views[i]? = some view)
    (hown : stats[i]? = some own) : (fill views stats)[i]? = some (view.hydrate own) := by
  induction views, stats using fill.induct generalizing i with
  | case1 first views firstStats rest ih =>
    rw [fill]
    cases i with
    | zero =>
      cases hview
      cases hown
      rfl
    | succ i => exact ih hview hown
  | case2 views stats none =>
    cases views with
    | nil => cases hview
    | cons first views =>
      cases stats with
      | nil => cases hown
      | cons firstStats rest => exact absurd rfl (none _ _ _ _ rfl)

/-! ## Events -/

variable {source : Fetch.Source} {b b' : Batch} {event : Event}

/-- What an event does, and when it can happen. -/
theorem step_cases (happened : b.step source event = some b') : b.outcome = none ∧
    ((∃ place id, event = .arrival place ∧ b.fetches[place]? = some ⟨id, none⟩ ∧
        b' = { b with fetches := b.fetches.set place ⟨id, some (source place id)⟩ }) ∨
      (∃ place id e, event = .failure place ∧ b.fetches[place]? = some ⟨id, some (.error e)⟩ ∧
        b' = { b with outcome := some (.error e) }) ∨
      ∃ stats, event = .completion ∧ b.fetched? = some stats ∧
        b' = { b with views := fill b.views stats, outcome := some (.ok ()) }) := by
  unfold step at happened
  cases going : b.outcome with
  | some outcome =>
    rw [going] at happened
    cases happened
  | none =>
    rw [going] at happened
    refine ⟨rfl, ?_⟩
    cases event with
    | arrival place =>
      simp only at happened
      split at happened
      · rename_i id waiting
        cases happened
        exact .inl ⟨place, id, rfl, waiting, rfl⟩
      · cases happened
    | failure place =>
      simp only at happened
      split at happened
      · rename_i id e failed
        cases happened
        exact .inr (.inl ⟨place, id, e, rfl, failed, rfl⟩)
      · cases happened
    | completion =>
      simp only at happened
      split at happened
      · rename_i stats fetched
        cases happened
        exact .inr (.inr ⟨stats, rfl, fetched, rfl⟩)
      · cases happened

theorem step_arrival {place : Nat} {id : JobId} (going : b.outcome = none)
    (waiting : b.fetches[place]? = some ⟨id, none⟩) : b.step source (.arrival place) =
      some { b with fetches := b.fetches.set place ⟨id, some (source place id)⟩ } := by
  rw [step, going]
  simp only [waiting]

theorem step_failure {place : Nat} {id : JobId} {e : HistoryError} (going : b.outcome = none)
    (failed : b.fetches[place]? = some ⟨id, some (.error e)⟩) :
    b.step source (.failure place) = some { b with outcome := some (.error e) } := by
  rw [step, going]
  simp only [failed]

theorem step_completion {stats : List (List AttemptStats)} (going : b.outcome = none)
    (fetched : b.fetched? = some stats) : b.step source .completion =
      some { b with views := fill b.views stats, outcome := some (.ok ()) } := by
  rw [step, going]
  simp only [fetched]

theorem run_cons (source : Fetch.Source) (b : Batch) (event : Event) (events : List Event) :
    b.run source (event :: events) = (b.step source event).bind fun b' => b'.run source events :=
  List.foldlM_cons

theorem run_append (source : Fetch.Source) (b : Batch) (events more : List Event) :
    b.run source (events ++ more) = (b.run source events).bind fun b' => b'.run source more :=
  List.foldlM_append

/-! ## What every batch under way keeps -/

/-- A batch of the views of jobs keeps to these: its fetches are for the jobs and have the answers of the
source, and a view changes in no other way than by being filled when everything is there. -/
structure Sound (source : Fetch.Source) (views : List JobWithAttempts) (jobs : List Job) (b : Batch) :
    Prop where
  asked : ∀ place : Nat, (b.fetches[place]?).map (·.id) = (jobs[place]?).map (·.id)
  answers : ∀ (place : Nat) id answer, b.fetches[place]? = some ⟨id, some answer⟩ → answer = source place id
  untouched : b.outcome ≠ some (.ok ()) → b.views = views
  failed : ∀ e, b.outcome = some (.error e) →
    ∃ (place : Nat) (id : JobId), b.fetches[place]? = some ⟨id, some (.error e)⟩
  filled : b.outcome = some (.ok ()) → ∃ stats, b.fetched? = some stats ∧ b.views = fill views stats

variable {views : List JobWithAttempts} {jobs : List Job}

/-- An event keeps a batch sound. -/
theorem Sound.step (sound : b.Sound source views jobs) (happened : b.step source event = some b') :
    b'.Sound source views jobs := by
  obtain ⟨going, happened⟩ := step_cases happened
  have unended {o : Except HistoryError Unit} : b.outcome ≠ some o := by
    rw [going]
    exact nofun
  have untouched : b.views = views := sound.untouched unended
  rcases happened with ⟨place, id, -, waiting, rfl⟩ | ⟨place, id, e, -, failed, rfl⟩ | ⟨stats, -, fetched, rfl⟩
  · constructor
    case asked =>
      intro place'
      rw [← sound.asked place', List.getElem?_set]
      by_cases same : place = place'
      · obtain ⟨inside, -⟩ := List.getElem?_eq_some_iff.mp waiting
        rw [if_pos same, if_pos inside, ← same, waiting]
        rfl
      · rw [if_neg same]
    case answers =>
      intro place' id' answer there
      rw [List.getElem?_set] at there
      by_cases same : place = place'
      · obtain ⟨inside, -⟩ := List.getElem?_eq_some_iff.mp waiting
        rw [if_pos same, if_pos inside] at there
        cases there
        rw [same]
      · rw [if_neg same] at there
        exact sound.answers place' id' answer there
    case untouched => exact fun _ => untouched
    case failed => exact fun e ended => absurd ended unended
    case filled => exact fun ended => absurd ended unended
  · constructor
    case asked => exact sound.asked
    case answers => exact sound.answers
    case untouched => exact fun _ => untouched
    case failed =>
      intro e' ended
      cases ended
      exact ⟨place, id, failed⟩
    case filled =>
      intro ended
      cases ended
  · constructor
    case asked => exact sound.asked
    case answers => exact sound.answers
    case untouched => exact fun ended => absurd rfl ended
    case failed =>
      intro e ended
      cases ended
    case filled => exact fun _ => ⟨stats, fetched, by rw [← untouched]⟩

/-- So do events in a row. -/
theorem Sound.run {events : List Event} (sound : b.Sound source views jobs)
    (happened : b.run source events = some b') : b'.Sound source views jobs := by
  induction events generalizing b with
  | nil =>
    cases happened
    exact sound
  | cons event events ih =>
    rw [run_cons] at happened
    obtain ⟨next, first, rest⟩ := Option.bind_eq_some_iff.mp happened
    exact ih (sound.step first) rest

/-! ## The end -/

/-- How many events can still happen to a batch, at most. -/
def left (b : Batch) : Nat :=
  match b.outcome with
  | some _ => 0
  | none => b.fetches.countP (·.answer.isNone) + 1

theorem left_pos (going : b.outcome = none) : 0 < b.left := by
  rw [left, going]
  exact Nat.succ_pos _

/-- An event brings the end nearer. -/
theorem left_step (happened : b.step source event = some b') : b'.left < b.left := by
  obtain ⟨going, ⟨place, id, -, waiting, rfl⟩ | ⟨place, id, e, -, failed, rfl⟩ | ⟨stats, -, fetched, rfl⟩⟩ :=
    step_cases happened
  · obtain ⟨inside, waiting⟩ := List.getElem?_eq_some_iff.mp waiting
    have one := List.boole_getElem_le_countP (p := fun f : Fetch => f.answer.isNone) inside
    simp only [left, going, List.countP_set inside, waiting, Option.isNone_none, Option.isNone_some,
      if_true, Bool.false_eq_true, if_false] at one ⊢
    omega
  · simp only [left, going]
    omega
  · simp only [left, going]
    omega

theorem left_run {events : List Event} (happened : b.run source events = some b') :
    events.length + b'.left ≤ b.left := by
  induction events generalizing b with
  | nil =>
    cases happened
    exact Nat.le_of_eq (Nat.zero_add _)
  | cons event events ih =>
    rw [run_cons] at happened
    obtain ⟨next, first, rest⟩ := Option.bind_eq_some_iff.mp happened
    have nearer := left_step first
    have later := ih rest
    rw [List.length_cons]
    omega

/-- A fetch that is not there yet, or a failure, where not everything is fetched. -/
theorem exists_unfetched (missing : b.fetched? = none) :
    ∃ (place : Nat) (id : JobId), b.fetches[place]? = some ⟨id, none⟩ ∨
      ∃ e, b.fetches[place]? = some ⟨id, some (.error e)⟩ := by
  have unfetched : ∃ f ∈ b.fetches, f.stats? = none := by
    by_contra all
    have each : ∀ f ∈ b.fetches, ∃ stats, f.stats? = some stats := fun f mem =>
      Option.ne_none_iff_exists'.mp fun missing => all ⟨f, mem, missing⟩
    choose! stats each using each
    have fetched : b.fetched? = some (b.fetches.map stats) := by
      rw [fetched?, mapM_eq_some, List.forall₂_map_right_iff, List.forall₂_same]
      exact each
    rw [missing] at fetched
    cases fetched
  obtain ⟨⟨id, answer⟩, mem, unfetched⟩ := unfetched
  obtain ⟨place, there⟩ := List.mem_iff_getElem?.mp mem
  refine ⟨place, id, ?_⟩
  cases answer with
  | none => exact .inl there
  | some answer =>
    cases answer with
    | error e => exact .inr ⟨e, there⟩
    | ok stats => cases unfetched

/-- Something can happen to a batch that is not over. -/
theorem exists_step (source : Fetch.Source) (going : b.outcome = none) :
    ∃ event b', b.step source event = some b' := by
  cases fetched : b.fetched? with
  | some stats => exact ⟨.completion, _, step_completion going fetched⟩
  | none =>
    obtain ⟨place, id, waiting | ⟨e, failed⟩⟩ := exists_unfetched fetched
    · exact ⟨.arrival place, _, step_arrival going waiting⟩
    · exact ⟨.failure place, _, step_failure going failed⟩

/-- Nothing happens to a batch that is over. -/
theorem run_over {events : List Event} (ended : b.outcome ≠ none) (happened : b.run source events = some b') :
    b' = b := by
  cases events with
  | nil =>
    cases happened
    rfl
  | cons event events =>
    rw [run_cons] at happened
    obtain ⟨next, first, -⟩ := Option.bind_eq_some_iff.mp happened
    exact absurd (step_cases first).1 ended

/-- Where some places wait for an answer, their answers can arrive in any order. -/
theorem exists_run_arrivals (source : Fetch.Source) {order : List Nat} (going : b.outcome = none) (distinct : order.Nodup)
    (waiting : ∀ place ∈ order, ∃ id, b.fetches[place]? = some ⟨id, none⟩) :
    ∃ b', b.run source (order.map .arrival) = some b' ∧ b'.outcome = none := by
  induction order generalizing b with
  | nil => exact ⟨b, rfl, going⟩
  | cons place order ih =>
    obtain ⟨new, distinct⟩ := List.nodup_cons.mp distinct
    obtain ⟨⟨id, first⟩, waiting⟩ := List.forall_mem_cons.mp waiting
    rw [List.map_cons, run_cons, step_arrival going first]
    refine ih going distinct fun other mem => ?_
    obtain ⟨id', there⟩ := waiting other mem
    have apart : place ≠ other := by
      rintro rfl
      exact new mem
    exact ⟨id', by rw [List.getElem?_set_ne apart, there]⟩

/-! ## From the start -/

variable (even : views.length = jobs.length)
include even

theorem start_even : start views jobs true = ⟨views, jobs.map fun job => ⟨job.id, none⟩, none⟩ := by
  simp only [start, Bool.not_true, Bool.false_eq_true, if_false, even, ne_eq, not_true_eq_false]

theorem start_sound (source : Fetch.Source) : (start views jobs true).Sound source views jobs := by
  rw [start_even even]
  constructor
  case asked =>
    intro place
    rw [List.getElem?_map, Option.map_map]
    rfl
  case answers =>
    intro place id answer there
    obtain ⟨job, -, there⟩ := Option.map_eq_some_iff.mp (List.getElem?_map ▸ there)
    cases there
  case untouched => exact fun _ => rfl
  case failed =>
    intro e ended
    cases ended
  case filled =>
    intro ended
    cases ended

theorem left_start : (start views jobs true).left = jobs.length + 1 := by
  have waiting : ∀ f ∈ jobs.map fun job => (⟨job.id, none⟩ : Fetch), f.answer.isNone = true := by
    intro f mem
    obtain ⟨job, -, rfl⟩ := List.mem_map.mp mem
    rfl
  rw [start_even even, left, List.countP_eq_length.mpr waiting, List.length_map]

/-- Whatever the order in which the answers arrive, the next event after all of them is the end. -/
theorem exists_run_of_order (source : Fetch.Source) {order : List Nat}
    (perm : order.Perm (List.range jobs.length)) : ∃ last b,
      (start views jobs true).run source (order.map .arrival ++ [last]) = some b ∧ b.outcome ≠ none := by
  have waiting : ∀ place ∈ order, ∃ id, (start views jobs true).fetches[place]? = some ⟨id, none⟩ := by
    intro place mem
    have inside := List.mem_range.mp (perm.mem_iff.mp mem)
    refine ⟨jobs[place].id, ?_⟩
    rw [start_even even, List.getElem?_map, List.getElem?_eq_getElem inside]
    rfl
  have going : (start views jobs true).outcome = none := by rw [start_even even]
  obtain ⟨b, arrived, unended⟩ := exists_run_arrivals source going
    (perm.nodup_iff.mpr List.nodup_range) waiting
  obtain ⟨last, b', ends⟩ := exists_step source unended
  refine ⟨last, b', ?_, ?_⟩
  · rw [run_append, arrived, Option.bind_some, run_cons, ends]
    rfl
  · intro unended'
    have length := left_run arrived
    have nearer := left_step ends
    rw [List.length_map, perm.length_eq, List.length_range, left_start even] at length
    have more := left_pos unended'
    omega

omit even

/-! ## At the end -/

/-- Every fetch for the jobs has statistics for an answer. -/
def AllServed (source : Fetch.Source) (jobs : List Job) : Prop :=
  ∀ place job, jobs[place]? = some job → ∃ stats, source place job.id = .ok stats

/-- What a batch of the views of jobs has come to. Each view has the statistics that were fetched for the
job in its place, or no view has changed. -/
structure Settled (source : Fetch.Source) (views : List JobWithAttempts) (jobs : List Job) (b : Batch) :
    Prop where
  ok_iff : b.outcome = some (.ok ()) ↔ AllServed source jobs
  hydrated : b.outcome = some (.ok ()) → b.views.length = views.length ∧
    ∀ place view job stats, views[place]? = some view → jobs[place]? = some job →
      source place job.id = .ok stats → b.views[place]? = some (view.hydrate stats)
  kept : ∀ e, b.outcome = some (.error e) → b.views = views ∧
    ∃ place job, jobs[place]? = some job ∧ source place job.id = .error e

/-- What was fetched for a job is the source's answer for it. -/
theorem Sound.fetched (sound : b.Sound source views jobs) {stats : List (List AttemptStats)}
    (fetched : b.fetched? = some stats) {place : Nat} {job : Job} (hjob : jobs[place]? = some job) :
    ∃ own, stats[place]? = some own ∧ source place job.id = .ok own := by
  have asked := sound.asked place
  rw [hjob, Option.map_some, Option.map_eq_some_iff] at asked
  obtain ⟨⟨id, answer⟩, there, rfl⟩ := asked
  have each := mapM_eq_some.mp fetched
  obtain ⟨inside, here⟩ := List.getElem?_eq_some_iff.mp there
  have inside' : place < stats.length := each.length_eq ▸ inside
  have own : Fetch.stats? b.fetches[place] = some stats[place] := each.get inside inside'
  refine ⟨stats[place], List.getElem?_eq_getElem inside', ?_⟩
  rw [here] at own
  cases answer with
  | none => cases own
  | some answer =>
    cases answer with
    | error e => cases own
    | ok fetched =>
      cases own
      exact (sound.answers place _ _ there).symm

theorem Sound.settled (sound : b.Sound source views jobs) (atEnd : b.outcome ≠ none) :
    b.Settled source views jobs := by
  have kept : ∀ e, b.outcome = some (.error e) → b.views = views ∧
      ∃ place job, jobs[place]? = some job ∧ source place job.id = .error e := by
    intro e ended
    refine ⟨sound.untouched (by rw [ended]; exact nofun), ?_⟩
    obtain ⟨place, id, there⟩ := sound.failed e ended
    have asked := sound.asked place
    rw [there, Option.map_some] at asked
    obtain ⟨job, hjob, rfl⟩ := Option.map_eq_some_iff.mp asked.symm
    exact ⟨place, job, hjob, (sound.answers place _ _ there).symm⟩
  constructor
  case kept => exact kept
  case hydrated =>
    intro ended
    obtain ⟨stats, fetched, filled⟩ := sound.filled ended
    refine ⟨by rw [filled, length_fill], fun place view job own hview hjob answer => ?_⟩
    obtain ⟨own', hown, answer'⟩ := sound.fetched fetched hjob
    cases answer.symm.trans answer'
    rw [filled]
    exact getElem?_fill hview hown
  case ok_iff =>
    constructor
    · intro ended place job hjob
      obtain ⟨stats, fetched, -⟩ := sound.filled ended
      obtain ⟨own, -, answer⟩ := sound.fetched fetched hjob
      exact ⟨own, answer⟩
    · intro served
      cases ended : b.outcome with
      | none => exact absurd ended atEnd
      | some outcome =>
        cases outcome with
        | ok done => rfl
        | error e =>
          obtain ⟨-, place, job, hjob, failed⟩ := kept e ended
          obtain ⟨own, answer⟩ := served place job hjob
          cases failed.symm.trans answer

/-- A view gets what it would get in a batch of its own. -/
theorem Settled.alone {place : Nat} {view : JobWithAttempts} {job : Job}
    (settled : b.Settled source views jobs) (ok : b.outcome = some (.ok ()))
    (hview : views[place]? = some view) (hjob : jobs[place]? = some job)
    (alone : b'.Settled (fun _ => source place) [view] [job]) :
    b'.outcome = some (.ok ()) ∧ ∃ hydrated, b'.views = [hydrated] ∧ b.views[place]? = some hydrated := by
  obtain ⟨own, answer⟩ := settled.ok_iff.mp ok place job hjob
  have served : AllServed (fun _ => source place) [job] := by
    intro place' job' hjob'
    cases place' with
    | zero =>
      cases hjob'
      exact ⟨own, answer⟩
    | succ place' => cases hjob'
  have ok' := alone.ok_iff.mpr served
  obtain ⟨one, first⟩ := alone.hydrated ok'
  obtain ⟨hydrated, only⟩ := List.length_eq_one_iff.mp one
  have same := first 0 view job own rfl rfl answer
  rw [only] at same
  cases same
  exact ⟨ok', _, only, (settled.hydrated ok).2 place view job own hview hjob answer⟩

end Batch

/-! ## One fetch after the other -/

namespace Inquiry

variable {reply : (q : Question) → q.Answer} {views : List JobWithAttempts} {jobs : List Job}

theorem eval_hydrate (even : views.length = jobs.length) :
    (ExceptT.run (hydrate views jobs true)).eval reply =
      (jobs.mapM fun job => reply (.jobs (.jobStats job.id))).map
        (List.zipWith JobWithAttempts.hydrate views) := by
  unfold hydrate
  simp only [Bool.not_true, Bool.false_eq_true, if_false, even, ne_eq, not_true_eq_false]
  rw [eval_bind, eval_mapM]
  change (jobs.mapM fun job => reply (.jobs (.jobStats job.id))) >>= _ = _
  cases jobs.mapM fun job => reply (.jobs (.jobStats job.id)) <;> rfl

theorem run_hydrate_uneven (uneven : views.length ≠ jobs.length) :
    ExceptT.run (hydrate views jobs true) =
      .done (.error (.invalidArgument (.unevenViews views.length jobs.length))) := by
  unfold hydrate
  simp only [Bool.not_true, Bool.false_eq_true, if_false, if_pos uneven]
  rfl

end Inquiry

namespace Batch

variable {source : Fetch.Source} {b : Batch} {reply : (q : Question) → q.Answer}
  {views : List JobWithAttempts} {jobs : List Job}

/-- Where each fetch has the answer that a question for its job has, the batch comes to what asking one
question after the other comes to. -/
theorem Settled.eval_hydrate_iff (settled : b.Settled source views jobs) (even : views.length = jobs.length)
    (same : ∀ place id, source place id = reply (.jobs (.jobStats id))) {result : List JobWithAttempts} :
    (ExceptT.run (Inquiry.hydrate views jobs true)).eval reply = .ok result ↔
      b.outcome = some (.ok ()) ∧ b.views = result := by
  have fills {stats : List (List AttemptStats)}
      (fetched : (jobs.mapM fun job => reply (.jobs (.jobStats job.id))) = .ok stats) :
      b.outcome = some (.ok ()) ∧ b.views = List.zipWith JobWithAttempts.hydrate views stats := by
    have each := mapM_eq_ok.mp fetched
    have served : AllServed source jobs := by
      intro place job hjob
      rw [same]
      exact exists_mapM_eq_ok.mp ⟨stats, fetched⟩ job (List.mem_of_getElem? hjob)
    have ok := settled.ok_iff.mpr served
    obtain ⟨length, hydrated⟩ := settled.hydrated ok
    refine ⟨ok, List.ext_getElem ?_ fun place inside inside' => ?_⟩
    · rw [length, List.length_zipWith, even, each.length_eq, Nat.min_self]
    · have hview : place < views.length := length ▸ inside
      have hjob : place < jobs.length := even ▸ hview
      have hstats : place < stats.length := each.length_eq ▸ hjob
      have answer : source place jobs[place].id = .ok stats[place] :=
        (same place _).trans (each.get hjob hstats)
      have filled := hydrated place _ _ _ (List.getElem?_eq_getElem hview)
        (List.getElem?_eq_getElem hjob) answer
      rw [List.getElem_zipWith]
      exact (List.getElem?_eq_some_iff.mp filled).2
  rw [Inquiry.eval_hydrate even, map_eq_ok]
  constructor
  · rintro ⟨stats, fetched, rfl⟩
    exact fills fetched
  · rintro ⟨ok, rfl⟩
    have each : ∀ job ∈ jobs, ∃ stats, reply (.jobs (.jobStats job.id)) = .ok stats := by
      intro job mem
      obtain ⟨place, hjob⟩ := List.mem_iff_getElem?.mp mem
      rw [← same place]
      exact settled.ok_iff.mp ok place job hjob
    obtain ⟨stats, fetched⟩ := exists_mapM_eq_ok.mpr each
    exact ⟨stats, fetched, (fills fetched).2.symm⟩

end Batch

/-- A batch whose statistics are not wanted fetches nothing and changes no view, and one of uneven lists
fetches nothing either and fails. Any other batch comes to an end after as many events as there are jobs and
one more, if not before, with the answers arriving in whatever order; until then no view has changed. It ends
well if and only if every fetch has statistics for an answer. Then each view has those that were fetched for
the job in its place, as it would in a batch of its own, and the views are those that
`Inquiry.hydrate` returns; else no view has changed. -/
theorem hydration_all_or_nothing (source : Fetch.Source) (views : List JobWithAttempts) (jobs : List Job) :
    (ExceptT.run (Inquiry.hydrate views jobs false) = .done (.ok views) ∧
      ∀ events b, (Batch.start views jobs false).run source events = some b →
        b.fetches = [] ∧ b.views = views ∧ b.outcome = some (.ok ())) ∧
    (views.length ≠ jobs.length →
      ExceptT.run (Inquiry.hydrate views jobs true) =
        .done (.error (.invalidArgument (.unevenViews views.length jobs.length))) ∧
      ∀ events b, (Batch.start views jobs true).run source events = some b →
        b.fetches = [] ∧ b.views = views ∧
          b.outcome = some (.error (.invalidArgument (.unevenViews views.length jobs.length)))) ∧
    (views.length = jobs.length →
      (∀ order : List Nat, order.Perm (List.range jobs.length) → ∃ last b,
        (Batch.start views jobs true).run source (order.map .arrival ++ [last]) = some b ∧
          b.outcome ≠ none) ∧
      ∀ events b, (Batch.start views jobs true).run source events = some b →
        events.length ≤ jobs.length + 1 ∧
        (b.outcome = none → b.views = views ∧ ∃ event b', b.step source event = some b') ∧
        (b.outcome ≠ none → b.Settled source views jobs ∧
          (b.outcome = some (.ok ()) → ∀ place view job, views[place]? = some view →
            jobs[place]? = some job → ∀ events' alone,
              (Batch.start [view] [job] true).run (fun _ => source place) events' = some alone →
              alone.outcome ≠ none → alone.outcome = some (.ok ()) ∧
                ∃ hydrated, alone.views = [hydrated] ∧ b.views[place]? = some hydrated) ∧
          ∀ reply : (q : Question) → q.Answer,
            (∀ place id, source place id = reply (.jobs (.jobStats id))) →
            ∀ result, (ExceptT.run (Inquiry.hydrate views jobs true)).eval reply = .ok result ↔
              b.outcome = some (.ok ()) ∧ b.views = result)) := by
  refine ⟨⟨rfl, fun events b happened => ?_⟩, fun uneven => ⟨?_, fun events b happened => ?_⟩,
    fun even => ⟨fun order => ?_, fun events b happened => ?_⟩⟩
  · have ended : Batch.start views jobs false = ⟨views, [], some (.ok ())⟩ := rfl
    rw [ended] at happened
    rw [Batch.run_over (Option.some_ne_none _) happened]
    exact ⟨rfl, rfl, rfl⟩
  · exact Inquiry.run_hydrate_uneven uneven
  · have ended : Batch.start views jobs true =
        ⟨views, [], some (.error (.invalidArgument (.unevenViews views.length jobs.length)))⟩ := by
      simp only [Batch.start, Bool.not_true, Bool.false_eq_true, if_false, if_pos uneven]
    rw [ended] at happened
    rw [Batch.run_over (Option.some_ne_none _) happened]
    exact ⟨rfl, rfl, rfl⟩
  · exact Batch.exists_run_of_order even source
  · have sound := (Batch.start_sound even source).run happened
    have bound := Batch.left_run happened
    rw [Batch.left_start even] at bound
    refine ⟨Nat.le_trans (Nat.le_add_right _ _) bound, fun going => ?_, fun ended => ?_⟩
    · exact ⟨sound.untouched (by rw [going]; exact nofun), Batch.exists_step source going⟩
    · have settled := sound.settled ended
      refine ⟨settled, fun ok place view job hview hjob events' alone happened' ended' => ?_,
        fun reply same result => settled.eval_hydrate_iff even same⟩
      have one : [view].length = [job].length := rfl
      have sound' := (Batch.start_sound one fun _ => source place).run happened'
      exact settled.alone ok hview hjob (sound'.settled ended')

/-- Two jobs of which the second is answered first, with statistics or with a failure. -/
theorem hydration_all_or_nothing_two :
    let job (id : JobId) : Job := ⟨id, .sync, "c", none, .running, ⟨id, 0⟩, ⟨id, 0⟩, none, []⟩
    let jobs := [job 1, job 2]
    let views := jobs.map JobWithAttempts.ofJob
    let stats (id : JobId) : List AttemptStats := [⟨0, ⟨id, id, id, id⟩, []⟩]
    let failing : Fetch.Source := fun _ id => if id = 2 then .error (.transient .jobStore) else .ok (stats id)
    (∃ b, (Batch.start views jobs true).run (fun _ id => .ok (stats id))
        [.arrival 1, .arrival 0, .completion] = some b ∧ b.outcome = some (.ok ()) ∧
        b.views[1]? = some ((JobWithAttempts.ofJob (job 2)).hydrate (stats 2))) ∧
      ∃ b, (Batch.start views jobs true).run failing [.arrival 1, .failure 1] = some b ∧
        b.outcome = some (.error (.transient .jobStore)) ∧ b.views = views := by
  intro job jobs views stats failing
  constructor
  · obtain ⟨-, -, batches⟩ := hydration_all_or_nothing (fun _ id => .ok (stats id)) views jobs
    obtain ⟨-, ends⟩ := batches rfl
    have happened : (Batch.start views jobs true).run (fun _ id => .ok (stats id))
        [.arrival 1, .arrival 0, .completion] = some _ := rfl
    obtain ⟨-, -, ended⟩ := ends _ _ happened
    obtain ⟨settled, -⟩ := ended nofun
    exact ⟨_, happened, rfl, (settled.hydrated rfl).2 1 _ _ _ rfl rfl rfl⟩
  · obtain ⟨-, -, batches⟩ := hydration_all_or_nothing failing views jobs
    obtain ⟨-, ends⟩ := batches rfl
    have happened : (Batch.start views jobs true).run failing [.arrival 1, .failure 1] = some _ := rfl
    obtain ⟨-, -, ended⟩ := ends _ _ happened
    obtain ⟨settled, -⟩ := ended nofun
    exact ⟨_, happened, rfl, (settled.kept _ rfl).1⟩

end SyncHistory
