import SyncHistory.Proofs.Plan
import SyncHistory.Proofs.Words

/-!
# The first fault of a request

Which requests planning accepts, and what it says of the others. A request is valid if it asks for some kind
of job, names statuses by their names in any case, a field by its exact name and a direction in any case, and
has room for rows (`ListingRequest.Valid`). Of a request that is not valid, the first of these five that it
breaks is reported (`ListingRequest.FirstFault`).

`ListingRequest.PlannedAs` says what the plan of a request is like, and there is one such plan at most, so
requests that ask for the same are planned alike (`requests_checked_in_order`).
-/

namespace SyncHistory

/-! ## Kinds in order -/

namespace ConfigType

theorem normalize_increasing (requested : List ConfigType) :
    (normalize requested).Pairwise fun s t => s.rank < t.rank := by
  have increasing : all.Pairwise fun s t => s.rank < t.rank := by decide
  exact increasing.filter _

/-- There is one increasing list of the requested kinds. -/
theorem eq_normalize {kinds requested : List ConfigType}
    (increasing : kinds.Pairwise fun s t => s.rank < t.rank) (same : ∀ t, t ∈ kinds ↔ t ∈ requested) :
    kinds = normalize requested := by
  have distinct {ts : List ConfigType} (h : ts.Pairwise fun s t => s.rank < t.rank) : ts.Nodup :=
    h.imp fun less same => absurd (congrArg rank same) (Nat.ne_of_lt less)
  have perm : kinds.Perm (normalize requested) := by
    rw [List.perm_ext_iff_of_nodup (distinct increasing) (distinct (normalize_increasing requested))]
    intro t
    rw [same, mem_normalize]
  refine perm.eq_of_pairwise (fun s t _ _ less more => ?_) increasing (normalize_increasing requested)
  exact absurd less (Nat.lt_asymm more)

end ConfigType

/-! ## Valid requests -/

namespace ListingRequest

/-- The status tokens of a request, none if it has no list of them. -/
def tokens (r : ListingRequest) : List String :=
  r.statuses.getD []

/-- The field that a request is ordered by, in the word for it. -/
def fieldWord (r : ListingRequest) : String :=
  r.orderByField.getD "createdAt"

/-- The direction of a request, in the word for it. -/
def directionWord (r : ListingRequest) : String :=
  r.orderByMethod.getD "DESC"

/-- Every status token names a status. -/
def StatusesNamed (r : ListingRequest) : Prop :=
  ∀ token ∈ r.tokens, JobStatus.Names token

/-- The field to order by, if there is one, is named. -/
def FieldNamed (r : ListingRequest) : Prop :=
  ∀ word, r.orderByField = some word → OrderField.Names word

/-- The direction, if there is one, is named. -/
def DirectionNamed (r : ListingRequest) : Prop :=
  ∀ word, r.orderByMethod = some word → Direction.Names word

/-- What a request has to be like. -/
structure Valid (r : ListingRequest) (defaultSize : UInt32) : Prop where
  kinds : r.configTypes ≠ []
  statuses : r.StatusesNamed
  field : r.FieldNamed
  direction : r.DirectionNamed
  pageSize : r.pageSize defaultSize ≠ 0

/-- The failure reports the first thing that is wrong with the request. -/
inductive FirstFault (r : ListingRequest) (defaultSize : UInt32) : HistoryError → Prop
  | kinds : r.configTypes = [] → FirstFault r defaultSize (.invalidArgument .noConfigType)
  | status {known : List String} {token : String} {rest : List String} : r.configTypes ≠ [] →
      r.tokens = known ++ token :: rest → (∀ t ∈ known, JobStatus.Names t) → ¬ JobStatus.Names token →
      FirstFault r defaultSize (.unrecognizedStatus token)
  | field {word : String} : r.configTypes ≠ [] → r.StatusesNamed → r.orderByField = some word →
      ¬ OrderField.Names word → FirstFault r defaultSize (.invalidArgument (.unknownOrderField word))
  | direction {word : String} : r.configTypes ≠ [] → r.StatusesNamed → r.FieldNamed →
      r.orderByMethod = some word → ¬ Direction.Names word →
      FirstFault r defaultSize (.invalidArgument (.unknownDirection word))
  | pageSize : r.configTypes ≠ [] → r.StatusesNamed → r.FieldNamed → r.DirectionNamed →
      r.pageSize defaultSize = 0 → FirstFault r defaultSize (.invalidArgument .zeroPageSize)

/-- What the plan of a request is like. -/
structure PlannedAs (r : ListingRequest) (scope : ScopeSelector) (including : Option JobId)
    (defaultSize : UInt32) (plan : ListingPlan) : Prop where
  increasing : plan.filter.configTypes.Pairwise fun s t => s.rank < t.rank
  requested : ∀ t, t ∈ plan.filter.configTypes ↔ t ∈ r.configTypes
  statuses : ∃ named,
    List.Forall₂ (fun token (s : JobStatus) => Text.Alike s.name token) r.tokens named ∧
      plan.filter.statuses = if r.tokens = [] then none else some named
  scope : plan.filter.scope = scope
  createdAt : plan.filter.createdAt = r.createdAt
  updatedAt : plan.filter.updatedAt = r.updatedAt
  field : plan.order.field.name = r.fieldWord
  direction : Text.Alike plan.order.direction.name r.directionWord
  page : plan.page = match including with
    | some id => .includingJob id (r.pageSize defaultSize)
    | none => .offset (r.pageSize defaultSize) r.rowOffset

/-- The requests differ only in what makes no difference: the order and repetition of kinds, the case of
letters, and whether what goes without saying is left out. Rows are skipped only where no job is to be
included. -/
structure AsksSame (r r' : ListingRequest) (including : Option JobId) (defaultSize : UInt32) : Prop where
  kinds : ∀ t, t ∈ r.configTypes ↔ t ∈ r'.configTypes
  statuses : List.Forall₂ Text.Alike r.tokens r'.tokens
  createdAt : r.createdAt = r'.createdAt
  updatedAt : r.updatedAt = r'.updatedAt
  field : r.fieldWord = r'.fieldWord
  direction : Text.Alike r.directionWord r'.directionWord
  pageSize : r.pageSize defaultSize = r'.pageSize defaultSize
  rowOffset : including = none → r.rowOffset = r'.rowOffset

variable {r r' : ListingRequest} {scope : ScopeSelector} {including : Option JobId} {defaultSize : UInt32}
  {plan : ListingPlan} {e : HistoryError}

/-! ### Statuses -/

theorem planStatuses_eq (r : ListingRequest) : r.planStatuses =
    (JobStatus.ofTokens r.tokens).map fun named => if r.tokens = [] then none else some named := by
  unfold planStatuses tokens
  cases r.statuses with
  | none => rfl
  | some tokens =>
    cases tokens with
    | nil => rfl
    | cons token rest =>
      simp only [Option.getD_some, reduceCtorEq, if_false]

theorem planStatuses_eq_ok {statuses : Option (List JobStatus)} : r.planStatuses = .ok statuses ↔
    ∃ named, List.Forall₂ (fun token (s : JobStatus) => Text.Alike s.name token) r.tokens named ∧
      statuses = if r.tokens = [] then none else some named := by
  rw [planStatuses_eq, map_eq_ok]
  simp only [JobStatus.ofTokens_eq_ok, eq_comm (b := statuses)]

theorem planStatuses_eq_error : r.planStatuses = .error e ↔
    ∃ known token rest, r.tokens = known ++ token :: rest ∧ (∀ t ∈ known, JobStatus.Names t) ∧
      ¬ JobStatus.Names token ∧ e = .unrecognizedStatus token := by
  rw [planStatuses_eq, map_eq_error, JobStatus.ofTokens_eq_error]

theorem statusesNamed_iff : r.StatusesNamed ↔ ∃ statuses, r.planStatuses = .ok statuses := by
  have each : r.StatusesNamed ↔ ∃ named, JobStatus.ofTokens r.tokens = .ok named := by
    rw [JobStatus.ofTokens, exists_mapM_eq_ok]
    simp only [JobStatus.ofToken_eq_ok]
    exact Iff.rfl
  rw [each, planStatuses_eq]
  simp only [map_eq_ok]
  constructor
  · rintro ⟨named, done⟩
    exact ⟨_, named, done, rfl⟩
  · rintro ⟨_, named, done, -⟩
    exact ⟨named, done⟩

/-! ### Order -/

theorem planOrder_eq (r : ListingRequest) : r.planOrder = (do
    let field ← OrderField.parse r.fieldWord
    let direction ← Direction.parse r.directionWord
    return ⟨field, direction⟩) := by
  have createdAt : OrderField.parse "createdAt" = .ok .createdAt := OrderField.parse_eq_ok.mpr rfl
  have descending : Direction.parse "DESC" = .ok .descending :=
    Direction.parse_eq_ok.mpr (Text.Alike.refl "DESC")
  unfold planOrder fieldWord directionWord
  cases r.orderByField with
  | none =>
    cases r.orderByMethod with
    | none => simp only [Option.getD_none, createdAt, descending, JobOrder.newestFirst]
    | some word => simp only [Option.getD_none, Option.getD_some, createdAt, JobOrder.newestFirst]
  | some word =>
    cases r.orderByMethod with
    | none => simp only [Option.getD_none, Option.getD_some, descending, JobOrder.newestFirst]
    | some word => rfl

theorem planOrder_eq_ok {order : JobOrder} : r.planOrder = .ok order ↔
    order.field.name = r.fieldWord ∧ Text.Alike order.direction.name r.directionWord := by
  rw [planOrder_eq, bind_eq_ok]
  constructor
  · rintro ⟨field, parsed, rest⟩
    obtain ⟨direction, parsed', done⟩ := bind_eq_ok.mp rest
    cases done
    exact ⟨OrderField.parse_eq_ok.mp parsed, Direction.parse_eq_ok.mp parsed'⟩
  · rintro ⟨field, direction⟩
    exact ⟨_, OrderField.parse_eq_ok.mpr field,
      bind_eq_ok.mpr ⟨_, Direction.parse_eq_ok.mpr direction, rfl⟩⟩

theorem fieldNamed_iff : r.FieldNamed ↔ OrderField.Names r.fieldWord := by
  unfold FieldNamed fieldWord
  cases r.orderByField with
  | none => exact iff_of_true (fun word given => nomatch given) (.inl rfl)
  | some word => simp only [Option.some.injEq, forall_eq', Option.getD_some]

theorem directionNamed_iff : r.DirectionNamed ↔ Direction.Names r.directionWord := by
  unfold DirectionNamed directionWord
  cases r.orderByMethod with
  | none =>
    have names : Direction.Names "DESC" :=
      Direction.names_iff.mpr ⟨.descending, Text.Alike.refl "DESC"⟩
    exact iff_of_true (fun word given => nomatch given) names
  | some word => simp only [Option.some.injEq, forall_eq', Option.getD_some]

/-- A word for a field that names none was given. -/
theorem fieldWord_unnamed_iff {word : String} : r.fieldWord = word ∧ ¬ OrderField.Names word ↔
    r.orderByField = some word ∧ ¬ OrderField.Names word := by
  refine and_congr_left fun unnamed => ?_
  unfold fieldWord
  cases r.orderByField with
  | none => exact iff_of_false (fun same => unnamed (.inl same.symm)) fun given => nomatch given
  | some given => rw [Option.getD_some, Option.some.injEq]

/-- A word for a direction that names none was given. -/
theorem directionWord_unnamed_iff {word : String} : r.directionWord = word ∧ ¬ Direction.Names word ↔
    r.orderByMethod = some word ∧ ¬ Direction.Names word := by
  refine and_congr_left fun unnamed => ?_
  unfold directionWord
  cases r.orderByMethod with
  | none =>
    refine iff_of_false (fun same => unnamed ?_) fun given => nomatch given
    exact Direction.names_iff.mpr ⟨.descending, same ▸ Text.Alike.refl "DESC"⟩
  | some given => rw [Option.getD_some, Option.some.injEq]

theorem exists_planOrder_eq_ok :
    (∃ order, r.planOrder = .ok order) ↔ r.FieldNamed ∧ r.DirectionNamed := by
  rw [fieldNamed_iff, directionNamed_iff, OrderField.names_iff, Direction.names_iff]
  simp only [planOrder_eq_ok]
  constructor
  · rintro ⟨order, field, direction⟩
    exact ⟨⟨order.field, field⟩, order.direction, direction⟩
  · rintro ⟨⟨f, field⟩, d, direction⟩
    exact ⟨⟨f, d⟩, field, direction⟩

theorem planOrder_eq_error : r.planOrder = .error e ↔
    (∃ word, r.orderByField = some word ∧ ¬ OrderField.Names word ∧
        e = .invalidArgument (.unknownOrderField word)) ∨
      (r.FieldNamed ∧ ∃ word, r.orderByMethod = some word ∧ ¬ Direction.Names word ∧
        e = .invalidArgument (.unknownDirection word)) := by
  rw [planOrder_eq, bind_eq_error, OrderField.parse_eq_error, fieldNamed_iff]
  constructor
  · rintro (⟨unnamed, rfl⟩ | ⟨field, parsed, failed⟩)
    · obtain ⟨given, unnamed⟩ := fieldWord_unnamed_iff.mp ⟨rfl, unnamed⟩
      exact .inl ⟨_, given, unnamed, rfl⟩
    · rcases bind_eq_error.mp failed with failed | ⟨_, _, done⟩
      · obtain ⟨unnamed, rfl⟩ := Direction.parse_eq_error.mp failed
        obtain ⟨given, unnamed⟩ := directionWord_unnamed_iff.mp ⟨rfl, unnamed⟩
        exact .inr ⟨OrderField.names_iff.mpr ⟨field, OrderField.parse_eq_ok.mp parsed⟩,
          _, given, unnamed, rfl⟩
      · cases done
  · rintro (⟨word, given, unnamed, rfl⟩ | ⟨named, word, given, unnamed, rfl⟩)
    · obtain ⟨rfl, unnamed⟩ := fieldWord_unnamed_iff.mpr ⟨given, unnamed⟩
      exact .inl ⟨unnamed, rfl⟩
    · obtain ⟨field, isField⟩ := OrderField.names_iff.mp named
      obtain ⟨rfl, unnamed⟩ := directionWord_unnamed_iff.mpr ⟨given, unnamed⟩
      have failed := Direction.parse_eq_error.mpr ⟨unnamed, rfl⟩
      exact .inr ⟨field, OrderField.parse_eq_ok.mpr isField, bind_eq_error.mpr (.inl failed)⟩

/-! ### The plan -/

theorem exists_planFilter_eq_ok :
    (∃ filter, r.planFilter scope = .ok filter) ↔ r.configTypes ≠ [] ∧ r.StatusesNamed := by
  rw [statusesNamed_iff]
  simp only [planFilter_eq_ok]
  constructor
  · rintro ⟨_, kinds, statuses, named, -⟩
    exact ⟨kinds, statuses, named⟩
  · rintro ⟨kinds, statuses, named⟩
    exact ⟨_, kinds, statuses, named, rfl⟩

theorem planFilter_eq_error : r.planFilter scope = .error e ↔
    (r.configTypes = [] ∧ e = .invalidArgument .noConfigType) ∨
      (r.configTypes ≠ [] ∧ r.planStatuses = .error e) := by
  unfold planFilter
  rw [check_eq_error, List.isEmpty_iff, bind_eq_error]
  refine or_congr_right (and_congr_right fun _ => ?_)
  constructor
  · rintro (failed | ⟨_, _, done⟩)
    · exact failed
    · cases done
  · exact .inl

theorem planPage_eq_error : r.planPage including defaultSize = .error e ↔
    r.pageSize defaultSize = 0 ∧ e = .invalidArgument .zeroPageSize := by
  unfold planPage
  simp only [getD_pageSize]
  rw [check_eq_error, or_iff_left]
  rintro ⟨-, failed⟩
  cases including <;> cases failed

/-- A request is refused for the first thing that is wrong with it. -/
theorem plan_eq_error :
    r.plan scope including defaultSize = .error e ↔ r.FirstFault defaultSize e := by
  unfold plan
  rw [bind_eq_error, planFilter_eq_error, planStatuses_eq_error]
  constructor
  · rintro ((⟨kinds, rfl⟩ | ⟨kinds, known, token, rest, tokens, named, unnamed, rfl⟩) |
      ⟨filter, filtered, failed⟩)
    · exact .kinds kinds
    · exact .status kinds tokens named unnamed
    · obtain ⟨kinds, statuses⟩ := exists_planFilter_eq_ok.mp ⟨filter, filtered⟩
      rcases bind_eq_error.mp failed with failed | ⟨order, ordered, failed⟩
      · rcases planOrder_eq_error.mp failed with
          ⟨word, given, unnamed, rfl⟩ | ⟨named, word, given, unnamed, rfl⟩
        · exact .field kinds statuses given unnamed
        · exact .direction kinds statuses named given unnamed
      · obtain ⟨field, direction⟩ := exists_planOrder_eq_ok.mp ⟨order, ordered⟩
        rcases bind_eq_error.mp failed with failed | ⟨_, _, done⟩
        · obtain ⟨size, rfl⟩ := planPage_eq_error.mp failed
          exact .pageSize kinds statuses field direction size
        · cases done
  · intro fault
    -- Everything that is checked before the fault passes.
    cases fault with
    | kinds kinds => exact .inl (.inl ⟨kinds, rfl⟩)
    | status kinds tokens named unnamed =>
      exact .inl (.inr ⟨kinds, _, _, _, tokens, named, unnamed, rfl⟩)
    | field kinds statuses given unnamed =>
      obtain ⟨filter, filtered⟩ := exists_planFilter_eq_ok.mpr ⟨kinds, statuses⟩
      have failed := planOrder_eq_error.mpr (.inl ⟨_, given, unnamed, rfl⟩)
      exact .inr ⟨filter, filtered, bind_eq_error.mpr (.inl failed)⟩
    | direction kinds statuses named given unnamed =>
      obtain ⟨filter, filtered⟩ := exists_planFilter_eq_ok.mpr ⟨kinds, statuses⟩
      have failed := planOrder_eq_error.mpr (.inr ⟨named, _, given, unnamed, rfl⟩)
      exact .inr ⟨filter, filtered, bind_eq_error.mpr (.inl failed)⟩
    | pageSize kinds statuses field direction size =>
      obtain ⟨filter, filtered⟩ := exists_planFilter_eq_ok.mpr ⟨kinds, statuses⟩
      obtain ⟨order, ordered⟩ := exists_planOrder_eq_ok.mpr ⟨field, direction⟩
      have failed : r.planPage including defaultSize = .error (.invalidArgument .zeroPageSize) :=
        planPage_eq_error.mpr ⟨size, rfl⟩
      exact .inr ⟨filter, filtered,
        bind_eq_error.mpr (.inr ⟨order, ordered, bind_eq_error.mpr (.inl failed)⟩)⟩

theorem exists_plan_eq_ok :
    (∃ plan, r.plan scope including defaultSize = .ok plan) ↔ r.Valid defaultSize := by
  constructor
  · rintro ⟨plan, planned⟩
    obtain ⟨filter, order, page⟩ := plan_parts planned
    obtain ⟨kinds, statuses⟩ := exists_planFilter_eq_ok.mp ⟨_, filter⟩
    obtain ⟨field, direction⟩ := exists_planOrder_eq_ok.mp ⟨_, order⟩
    exact ⟨kinds, statuses, field, direction, (planPage_eq_ok.mp page).1⟩
  · intro valid
    obtain ⟨filter, filtered⟩ := exists_planFilter_eq_ok.mpr ⟨valid.kinds, valid.statuses⟩
    obtain ⟨order, ordered⟩ := exists_planOrder_eq_ok.mpr ⟨valid.field, valid.direction⟩
    exact ⟨⟨filter, order, _⟩, plan_of_parts filtered ordered
      (planPage_eq_ok.mpr ⟨valid.pageSize, rfl⟩)⟩

theorem plan_eq_ok : r.plan scope including defaultSize = .ok plan ↔
    r.Valid defaultSize ∧ r.PlannedAs scope including defaultSize plan := by
  constructor
  · intro planned
    obtain ⟨filter, order, page⟩ := plan_parts planned
    refine ⟨exists_plan_eq_ok.mp ⟨plan, planned⟩, ?_⟩
    obtain ⟨-, statuses, named, filter⟩ := planFilter_eq_ok.mp filter
    obtain ⟨field, direction⟩ := planOrder_eq_ok.mp order
    constructor
    case increasing => rw [filter]; exact ConfigType.normalize_increasing _
    case requested => rw [filter]; exact fun t => ConfigType.mem_normalize
    case statuses => rw [filter]; exact planStatuses_eq_ok.mp named
    case scope => rw [filter]
    case createdAt => rw [filter]
    case updatedAt => rw [filter]
    case field => exact field
    case direction => exact direction
    case page => exact (planPage_eq_ok.mp page).2
  · rintro ⟨valid, as⟩
    refine plan_of_parts ?_ (planOrder_eq_ok.mpr ⟨as.field, as.direction⟩)
      (planPage_eq_ok.mpr ⟨valid.pageSize, as.page⟩)
    refine planFilter_eq_ok.mpr ⟨valid.kinds, plan.filter.statuses, planStatuses_eq_ok.mpr as.statuses, ?_⟩
    rw [← ConfigType.eq_normalize as.increasing as.requested, ← as.scope, ← as.createdAt, ← as.updatedAt]

/-! ### Requests for the same -/

theorem AsksSame.symm (same : r.AsksSame r' including defaultSize) :
    r'.AsksSame r including defaultSize := by
  constructor
  case kinds => exact fun t => (same.kinds t).symm
  case statuses => exact same.statuses.flip.imp fun _ _ alike => Text.Alike.symm alike
  case createdAt => exact same.createdAt.symm
  case updatedAt => exact same.updatedAt.symm
  case field => exact same.field.symm
  case direction => exact same.direction.symm
  case pageSize => exact same.pageSize.symm
  case rowOffset => exact fun byOffset => (same.rowOffset byOffset).symm

/-- Tokens that differ in case alone name the same statuses. -/
theorem forall₂_names_of_alike {tokens tokens' : List String} {named : List JobStatus}
    (alike : List.Forall₂ Text.Alike tokens tokens')
    (names : List.Forall₂ (fun token (s : JobStatus) => Text.Alike s.name token) tokens named) :
    List.Forall₂ (fun token (s : JobStatus) => Text.Alike s.name token) tokens' named := by
  induction alike generalizing named with
  | nil =>
    cases names
    exact .nil
  | cons first _ ih =>
    cases names with
    | cons name names => exact .cons (name.trans first) (ih names)

theorem AsksSame.valid (same : r.AsksSame r' including defaultSize) (valid : r.Valid defaultSize) :
    r'.Valid defaultSize := by
  constructor
  case kinds =>
    obtain ⟨t, mem⟩ := List.exists_mem_of_ne_nil _ valid.kinds
    exact List.ne_nil_of_mem ((same.kinds t).mp mem)
  case statuses =>
    obtain ⟨statuses, planned⟩ := statusesNamed_iff.mp valid.statuses
    obtain ⟨named, names, -⟩ := planStatuses_eq_ok.mp planned
    exact statusesNamed_iff.mpr ⟨_, planStatuses_eq_ok.mpr
      ⟨named, forall₂_names_of_alike same.statuses names, rfl⟩⟩
  case field =>
    rw [fieldNamed_iff, ← same.field, ← fieldNamed_iff]
    exact valid.field
  case direction =>
    rw [directionNamed_iff, Direction.names_iff]
    obtain ⟨d, name⟩ := Direction.names_iff.mp (directionNamed_iff.mp valid.direction)
    exact ⟨d, name.trans same.direction⟩
  case pageSize =>
    rw [← same.pageSize]
    exact valid.pageSize

theorem AsksSame.plannedAs (same : r.AsksSame r' including defaultSize)
    (as : r.PlannedAs scope including defaultSize plan) :
    r'.PlannedAs scope including defaultSize plan := by
  have empty : r.tokens = [] ↔ r'.tokens = [] := by
    rw [← List.length_eq_zero_iff, same.statuses.length_eq, List.length_eq_zero_iff]
  constructor
  case increasing => exact as.increasing
  case requested => exact fun t => (as.requested t).trans (same.kinds t)
  case statuses =>
    obtain ⟨named, names, statuses⟩ := as.statuses
    simp only [← empty]
    exact ⟨named, forall₂_names_of_alike same.statuses names, statuses⟩
  case scope => exact as.scope
  case createdAt => exact as.createdAt.trans same.createdAt
  case updatedAt => exact as.updatedAt.trans same.updatedAt
  case field => exact as.field.trans same.field
  case direction => exact as.direction.trans same.direction
  case page =>
    rw [as.page, same.pageSize]
    cases including with
    | some id => rfl
    | none => rw [same.rowOffset rfl]

/-- Requests for the same are planned alike. -/
theorem AsksSame.plan_eq_ok_iff (same : r.AsksSame r' including defaultSize) :
    r.plan scope including defaultSize = .ok plan ↔ r'.plan scope including defaultSize = .ok plan := by
  rw [plan_eq_ok, plan_eq_ok]
  constructor
  · rintro ⟨valid, as⟩
    exact ⟨same.valid valid, same.plannedAs as⟩
  · rintro ⟨valid, as⟩
    exact ⟨same.symm.valid valid, same.symm.plannedAs as⟩

/-- The owners and the job to include only show in the parts of the plan that are about them. -/
theorem PlannedAs.replace (as : r.PlannedAs scope including defaultSize plan) (scope' : ScopeSelector) :
    r.PlannedAs scope' none defaultSize ⟨{ plan.filter with scope := scope' }, plan.order,
      .offset (r.pageSize defaultSize) r.rowOffset⟩ :=
  ⟨as.increasing, as.requested, as.statuses, rfl, as.createdAt, as.updatedAt, as.field, as.direction, rfl⟩

theorem plan_replace (r : ListingRequest) (scope scope' : ScopeSelector) (including : Option JobId)
    (defaultSize : UInt32) : r.plan scope' none defaultSize =
      (r.plan scope including defaultSize).map fun plan =>
        ⟨{ plan.filter with scope := scope' }, plan.order,
          .offset (r.pageSize defaultSize) r.rowOffset⟩ := by
  cases planned : r.plan scope including defaultSize with
  | ok plan =>
    obtain ⟨valid, as⟩ := plan_eq_ok.mp planned
    exact plan_eq_ok.mpr ⟨valid, as.replace scope'⟩
  | error e => exact plan_eq_error.mpr (plan_eq_error.mp planned)

end ListingRequest

/-! ## Requests for jobs -/

/-- A request for jobs succeeds in being planned if and only if it is valid; a request that is not valid is
refused for the first thing that is wrong with it, an unknown status as it is written. The plan of a valid
request is settled by `ListingRequest.PlannedAs`: its kinds are in strictly increasing order and its statuses
one for each token, in the order of the tokens. Blanks around a status are not put up with. Requests that
differ only in what makes no difference have the same plan. A request for the jobs of workspaces is planned
in the same way, but for its owners and for pages that go by offset alone. -/
theorem requests_checked_in_order (r : JobListRequest) (defaultSize : UInt32) :
    ((∃ plan, r.plan defaultSize = .ok plan) ↔ r.Valid defaultSize) ∧
      (∀ e, r.plan defaultSize = .error e ↔ r.FirstFault defaultSize e) ∧
      (∀ plan, r.plan defaultSize = .ok plan ↔
        r.Valid defaultSize ∧ r.PlannedAs r.selector r.includingJobId defaultSize plan) ∧
      (∀ token, JobStatus.Names token → Text.trim token = token) ∧
      (∀ r' : JobListRequest, r.AsksSame r'.toListingRequest r.includingJobId defaultSize →
        r.configId = r'.configId → r.includingJobId = r'.includingJobId →
        ∀ plan, r.plan defaultSize = .ok plan ↔ r'.plan defaultSize = .ok plan) ∧
      ∀ ids : List Uuid, (⟨r.toListingRequest, ids⟩ : WorkspaceListRequest).plan defaultSize =
        (r.plan defaultSize).map fun plan =>
          ⟨{ plan.filter with scope := .workspaces ids }, plan.order,
            .offset (r.pageSize defaultSize) r.rowOffset⟩ := by
  have plan_eq (r : JobListRequest) : r.plan defaultSize =
      r.toListingRequest.plan r.selector r.includingJobId defaultSize := rfl
  refine ⟨?_, fun e => ?_, fun plan => ?_, fun token => JobStatus.Names.trim_eq,
    fun r' same owners included plan => ?_, fun ids => ?_⟩
  · exact ListingRequest.exists_plan_eq_ok
  · exact ListingRequest.plan_eq_error
  · exact ListingRequest.plan_eq_ok
  · have owners : r.selector = r'.selector := by rw [JobListRequest.selector, owners, ← JobListRequest.selector]
    rw [plan_eq r, plan_eq r', ← owners, ← included]
    exact same.plan_eq_ok_iff
  · exact ListingRequest.plan_replace r.toListingRequest r.selector _ r.includingJobId defaultSize

/-- One request in two spellings, and a request with more than one fault, the first of them the blank in
front of a status. -/
theorem requests_checked_in_order_spellings :
    let r : JobListRequest := ⟨⟨[.refresh, .sync, .refresh], some ["Running", "FAILED"], .unbounded,
      .unbounded, none, none, some "asc"⟩, some "c", none⟩
    let r' : JobListRequest := ⟨⟨[.sync, .refresh], some ["running", "failed"], .unbounded, .unbounded,
      some ⟨some 200, none⟩, some "createdAt", some "ASC"⟩, some "c", none⟩
    let faulty : JobListRequest := ⟨⟨[.sync], some ["running", " failed", "lost"], .unbounded, .unbounded,
      some ⟨some 0, none⟩, some "id", none⟩, none, none⟩
    r.AsksSame r'.toListingRequest none 200 ∧
    (∃ plan, r.plan 200 = .ok plan ∧ r'.plan 200 = .ok plan ∧
      plan.filter.configTypes = [.sync, .refresh] ∧ plan.filter.statuses = some [.running, .failed]) ∧
    faulty.plan 200 = .error (.unrecognizedStatus " failed") := by
  intro r r' faulty
  have alike {a b : String} (same : Text.sameLetters a b = true) : Text.Alike a b :=
    Text.sameLetters_iff.mp same
  have same : r.AsksSame r'.toListingRequest none 200 := by
    constructor
    case kinds => intro t; cases t <;> decide
    case statuses => exact .cons (alike (by decide +kernel)) (.cons (alike (by decide +kernel)) .nil)
    case direction => exact alike (by decide +kernel)
    case rowOffset => exact fun _ => rfl
    all_goals rfl
  have planned : r.plan 200 = .ok ⟨⟨[.sync, .refresh], .scope "c", some [.running, .failed], .unbounded,
      .unbounded⟩, ⟨.createdAt, .ascending⟩, .offset 200 0⟩ := by decide +kernel
  obtain ⟨-, -, -, -, alikePlans, -⟩ := requests_checked_in_order r 200
  obtain ⟨-, faults, -, trimmed, -⟩ := requests_checked_in_order faulty 200
  have blank : ¬ JobStatus.Names " failed" := by
    intro names
    exact absurd (trimmed _ names) (by decide +kernel)
  have running : ∀ t ∈ ["running"], JobStatus.Names t := by
    intro t mem
    rw [List.mem_singleton.mp mem]
    exact ⟨.running, Text.Alike.refl "running"⟩
  refine ⟨same, ⟨_, planned, (alikePlans r' same rfl rfl _).mp planned, rfl, rfl⟩, (faults _).mpr ?_⟩
  exact .status (List.cons_ne_nil _ _) (show faulty.tokens = ["running"] ++ " failed" :: ["lost"] from rfl)
    running blank

end SyncHistory
