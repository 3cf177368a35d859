import YorkieHousekeeping.Loop

/-!
The four sweep entry points of `housekeeping.go`, one sweep at a time, against any
environment.

`Entry.Spec` says in the words of §4.1 what one sweep of an entry point does: take the lock
or return, list a page, look up each listed project in order until a lookup fails, act on
the concatenated batch, log a non-empty batch, and return the page's cursor, with the one
`Unlock` after all of it.  `Entry.sweep_spec` proves that every run of every entry point is
such a trace; the lock discipline and the loop's cursor on failure follow from it.
-/

namespace Yorkie

/-! ### The actions -/

/-- The deactivation of a batch: one `Deactivate` per candidate, in order, up to and
including the first that failed, with nothing rolled back; the count is how many were
deactivated. -/
def Deactivated (candidates : List ClientInfo) (acts : List Event) (result : Except Error Int) :
    Prop :=
  ∃ replies, Each (fun clientInfo : ClientInfo => Call.deactivate clientInfo.refKey) candidates
      acts replies ∧
    result = replies.map fun replies => (replies.length : Int)

/-- The hard deletion of a batch: one store call, passed the whole batch. -/
def Deleted (deletion : List DocInfo → Call .count) (candidates : List DocInfo)
    (acts : List Event) (result : Except Error Int) : Prop :=
  acts = [⟨deletion candidates, result⟩]

theorem deactivateAll_deactivated (env : Env) (history : List Event)
    (candidates : List ClientInfo) :
    ∃ result, ((deactivateAll candidates 0).run env history).outcome = .returned result ∧
      Deactivated candidates ((deactivateAll candidates 0).run env history).events result := by
  obtain ⟨replies, each, outcome⟩ := deactivateAll_run env candidates 0 history
  exact ⟨_, outcome, replies, each, by cases replies <;> simp [Except.map]⟩

theorem issue_deleted (env : Env) (history : List Event) (deletion : List DocInfo → Call .count)
    (candidates : List DocInfo) :
    ∃ result : Except Error Int,
      ((Prog.issue (deletion candidates)).run env history).outcome = .returned result ∧
        Deleted deletion candidates ((Prog.issue (deletion candidates)).run env history).events
          result :=
  ⟨_, rfl, rfl⟩

/-! ### Each entry point -/

namespace Entry

def projectFetchSize : Entry → Int
  | .deactivateCandidates h | .deleteDocument h => h.projectFetchSize
  | .deactivateInactives _ projectFetchSize | .deleteDocuments _ _ projectFetchSize =>
      projectFetchSize

def body : Entry → ID → Prog (ID × Option Error)
  | .deactivateCandidates h, cursor =>
      sweepBody (Housekeeping.findDeactivateCandidates
          h.clientDeactivationCandidateLimitPerProject h.projectFetchSize cursor)
        (fun candidates => deactivateAll candidates 0) "HSKP: candidates %d, deactivated %d, %s"
  | .deleteDocument h, cursor =>
      sweepBody (Housekeeping.findDocumentHardDeletionCandidates
          h.documentHardDeletionCandidateLimitPerProject h.projectFetchSize
          h.documentHardDeletionGracefulPeriod cursor)
        (fun candidates => Prog.issue (.deleteDocument candidates))
        "HSKP: candidates %d, hard deleted %d, %s"
  | .deactivateInactives limit projectFetchSize, cursor =>
      sweepBody (Clients.findDeactivateCandidates limit projectFetchSize cursor)
        (fun candidates => deactivateAll candidates 0) "HSKP: candidates %d, deactivated %d, %s"
  | .deleteDocuments limit gracefulPeriod projectFetchSize, cursor =>
      sweepBody (Clients.findDocumentHardDeletionCandidates limit projectFetchSize
          gracefulPeriod cursor)
        (fun candidates => Prog.issue (.deleteDocuments candidates))
        "HSKP: candidates %d, hard deleted %d, %s"

theorem sweep_eq (e : Entry) (cursor : ID) : e.sweep cursor = withLocker e.key (e.body cursor) := by
  cases e <;> rfl

/-- §4.1 steps 3–7 for the entry point: list the page after `cursor`; look up each listed
project in order, with the configured limit (and grace period), until a lookup fails; act on
the concatenated batch; log a non-empty batch; return the page's cursor. -/
def BodySpec : Entry → ID → List Event → Outcome (ID × Option Error) → Prop
  | .deactivateCandidates h, cursor =>
      Swept (Found (fun project => .findDeactivateCandidatesPerProject project
          h.clientDeactivationCandidateLimitPerProject) h.projectFetchSize cursor)
        Deactivated "HSKP: candidates %d, deactivated %d, %s"
  | .deleteDocument h, cursor =>
      Swept (Found (fun project => .findDocumentHardDeletionCandidatesPerProject project
          h.documentHardDeletionCandidateLimitPerProject h.documentHardDeletionGracefulPeriod)
          h.projectFetchSize cursor)
        (Deleted .deleteDocument) "HSKP: candidates %d, hard deleted %d, %s"
  | .deactivateInactives limit projectFetchSize, cursor =>
      Swept (Found (fun project => .findDeactivateCandidatesPerProject project limit)
          projectFetchSize cursor)
        Deactivated "HSKP: candidates %d, deactivated %d, %s"
  | .deleteDocuments limit gracefulPeriod projectFetchSize, cursor =>
      Swept (Found (fun project => .findDocumentHardDeletionCandidatesPerProject project limit
          gracefulPeriod) projectFetchSize cursor)
        (Deleted .deleteDocuments) "HSKP: candidates %d, hard deleted %d, %s"

/-- One sweep of the entry point (§4.1): the lock, and `BodySpec` under it. -/
def Spec (e : Entry) (cursor : ID) : List Event → Outcome (ID × Option Error) → Prop :=
  Locked e.key (e.BodySpec cursor)

theorem body_spec (e : Entry) (cursor : ID) (env : Env) (history : List Event) :
    e.BodySpec cursor ((e.body cursor).run env history).events
      ((e.body cursor).run env history).outcome := by
  cases e with
  | deactivateCandidates h =>
      exact @sweepBody_run env (Ty.denote .clientInfo) _ _ _ _ _ (findCandidates_run env _ _ _)
        (deactivateAll_deactivated env) history
  | deleteDocument h =>
      exact @sweepBody_run env (Ty.denote .docInfo) _ _ _ _ _ (findCandidates_run env _ _ _)
        (fun history => issue_deleted env history _) history
  | deactivateInactives limit projectFetchSize =>
      exact @sweepBody_run env (Ty.denote .clientInfo) _ _ _ _ _ (findCandidates_run env _ _ _)
        (deactivateAll_deactivated env) history
  | deleteDocuments limit gracefulPeriod projectFetchSize =>
      exact @sweepBody_run env (Ty.denote .docInfo) _ _ _ _ _ (findCandidates_run env _ _ _)
        (fun history => issue_deleted env history _) history

theorem sweep_spec (e : Entry) (cursor : ID) (env : Env) (history : List Event) :
    e.Spec cursor ((e.sweep cursor).run env history).events
      ((e.sweep cursor).run env history).outcome := by
  rw [sweep_eq]
  exact withLocker_run env e.key _ _ (body_spec e cursor env) history

theorem bodySpec_lockFree (e : Entry) (cursor : ID) {body : List Event}
    {outcome : Outcome (ID × Option Error)} (spec : e.BodySpec cursor body outcome) :
    LockFree body := by
  cases e <;>
    refine Swept.lockFree spec (fun _ _ found => found.lockFree fun _ => rfl) ?_ <;>
    intro candidates acts result acted
  all_goals first
    | (obtain ⟨replies, each, -⟩ := acted; exact each.lockFree fun _ => rfl)
    | (subst acted; simp [count_call_not_locking])

theorem body_noUnlock (e : Entry) (cursor : ID) (env : Env) (history : List Event) :
    ∀ event ∈ ((e.body cursor).run env history).events, event.call.isUnlock = false := by
  intro event member
  exact event.call.isUnlock_of_isLocking
    (bodySpec_lockFree e cursor (body_spec e cursor env history) event member)

end Entry

/-! ### The lock discipline -/

/-- Every entry point calls `NewLocker`; then, only if it succeeded, `Lock`; then, only if
that succeeded, its store calls, which never touch the lock service, followed by exactly one
`Unlock` of the same locker and nothing but the logging of its failure.  How `Unlock` is
answered never changes the returned cursor or error. -/
theorem entry_sweep_lock_discipline (e : Entry) (cursor : ID) (env : Env) :
    Locked e.key (fun body _ => LockFree body) ((e.sweep cursor).run env []).events
        ((e.sweep cursor).run env []).outcome ∧
      ∀ answer, ((e.sweep cursor).run (env.onUnlock answer) []).outcome =
        ((e.sweep cursor).run env []).outcome := by
  refine ⟨(e.sweep_spec cursor env []).mono fun _ _ spec => e.bodySpec_lockFree cursor spec,
    fun answer => ?_⟩
  rw [e.sweep_eq, withLocker_outcome, withLocker_outcome]
  simp only [Env.onUnlock_newLocker]
  cases env [] (.newLocker e.key) with
  | error err => rfl
  | ok locker =>
      simp only [Env.onUnlock_lock]
      cases env ([] ++ [⟨.newLocker e.key, .ok locker⟩]) (.lock locker) with
      | error err => rfl
      | ok u => simp only [Prog.run_onUnlock env answer _ _ (e.body_noUnlock cursor env _)]

/-! ### One sweep, store call by store call -/

theorem Attach.afterSweep_cursor (s : Attach) (outcome : Outcome (ID × Option Error))
    (failed : ∀ lastProjectID, outcome ≠ .returned (lastProjectID, none)) :
    (s.afterSweep outcome).housekeepingLastProjectID = s.housekeepingLastProjectID := by
  rcases outcome with ⟨lastProjectID, _ | err⟩ | reason
  · exact absurd rfl (failed lastProjectID)
  all_goals rfl

theorem Attach.sweep_keeps_cursor (sweep : ID → Prog (ID × Option Error)) {loop : Attach}
    (atTop : loop.pc = .sweep) (env : Env)
    (failed : ∀ lastProjectID,
      ((sweep loop.housekeepingLastProjectID).run env []).outcome ≠ .returned (lastProjectID, none)) :
    ∃ next happened, loop.step sweep (.sweep env) = some (next, happened) ∧
      next.housekeepingLastProjectID = loop.housekeepingLastProjectID :=
  ⟨_, .swept loop.housekeepingLastProjectID ((sweep loop.housekeepingLastProjectID).run env []),
    by simp only [Attach.step, atTop], loop.afterSweep_cursor _ failed⟩

/-- Every run of every entry point is the trace §4.1 describes (`Entry.Spec`): lookups once
per listed project, in order, with the configured limit and grace period, up to the first
failure; the batch is their concatenation; deactivation stops at the first failing
`Deactivate` with nothing rolled back, and deletion passes the whole batch in one call; and
the page's cursor is returned exactly when every call succeeded.  A loop whose sweep did not
succeed keeps its cursor. -/
theorem entry_sweep_batch (e : Entry) (cursor : ID) (env : Env) :
    e.Spec cursor ((e.sweep cursor).run env []).events ((e.sweep cursor).run env []).outcome ∧
      ∀ loop : Attach, loop.housekeepingLastProjectID = cursor → loop.pc = .sweep →
        (∀ lastProjectID, ((e.sweep cursor).run env []).outcome ≠ .returned (lastProjectID, none)) →
        ∃ next happened, loop.step e.sweep (.sweep env) = some (next, happened) ∧
          next.housekeepingLastProjectID = cursor := by
  refine ⟨e.sweep_spec cursor env [], fun loop atCursor atTop failed => ?_⟩
  subst atCursor
  exact Attach.sweep_keeps_cursor e.sweep atTop env failed

def grantingStore : Env := fun _ {τ} call =>
  match τ, call with
  | _, .newLocker key => .ok ⟨key, 0⟩
  | _, .lock _ => .ok ()
  | _, .unlock _ => .ok ()
  | _, .findNextNCyclingProjectInfos _ _ => .ok []
  | _, _ => .error "unexpected call"

/-- With a page size of zero, a sweep of `Housekeeping.deactivateCandidates` against a store
with no project has every call answered without error, and still returns no cursor: it panics
at `projects[len(projects)-1]`. -/
theorem deactivateCandidates_empty_page_panics :
    ((Entry.deactivateCandidates ⟨30000000000, 30000000000, 86400000000000, 500, 500, 0⟩).sweep
        defaultProjectID).run grantingStore [] =
      ⟨[⟨.newLocker Housekeeping.deactivateCandidatesKey,
            .ok ⟨Housekeeping.deactivateCandidatesKey, 0⟩⟩,
          ⟨.lock ⟨Housekeeping.deactivateCandidatesKey, 0⟩, .ok ()⟩,
          ⟨.findNextNCyclingProjectInfos 0 defaultProjectID, .ok []⟩,
          ⟨.unlock ⟨Housekeeping.deactivateCandidatesKey, 0⟩, .ok ()⟩],
        .aborted "index out of range [-1]"⟩ :=
  rfl

/-! ### Sweeps with nothing to do -/

def Env.NothingToSweep (env : Env) : Prop :=
  (∀ history pageSize lastProjectID, ∃ projects,
      env history (.findNextNCyclingProjectInfos pageSize lastProjectID) = .ok projects) ∧
    (∀ history project limit,
      env history (.findDeactivateCandidatesPerProject project limit) = .ok []) ∧
    (∀ history project limit deletedAfterTime,
      env history (.findDocumentHardDeletionCandidatesPerProject project limit deletedAfterTime) =
        .ok [])

def Answered (env : Env) (events : List Event) : Prop :=
  ∀ event ∈ events, ∃ earlier, event.reply = env earlier event.call

def actedOutcome (top : ID) : Except Error Int → Outcome (ID × Option Error)
  | .ok _ => .returned (top, none)
  | .error err => .returned (defaultProjectID, some err)

theorem Each.nothing_found {β : Type} {τ : Ty} {call : β → Call (.list τ)} {items : List β}
    {events : List Event} {result : Except Error (List (Ty.list τ).denote)}
    (each : Each call items events result) {env : Env} (answered : Answered env events)
    (empty : ∀ history x, env history (call x) = .ok []) :
    result = .ok (items.map fun _ => []) := by
  induction each with
  | nil => rfl
  | error x xs err =>
      obtain ⟨earlier, replied⟩ := answered _ (List.mem_singleton_self _)
      change Except.error err = env earlier (call x) at replied
      rw [empty] at replied
      cases replied
  | ok x xs reply rest ih =>
      obtain ⟨earlier, replied⟩ := answered _ (List.mem_cons_self _ _)
      change Except.ok reply = env earlier (call x) at replied
      rw [empty] at replied
      cases replied
      rw [ih fun event member => answered event (List.mem_cons_of_mem _ member)]
      rfl

theorem Found.nothing_found {τ : Ty} {lookup : ProjectInfo → Call (.list τ)}
    {projectFetchSize : Int} {cursor : ID} {events : List Event}
    {outcome : Outcome (ID × List τ.denote × Option Error)}
    (found : Found lookup projectFetchSize cursor events outcome) {env : Env}
    (answered : Answered env events)
    (listed : ∀ history, ∃ projects,
      env history (.findNextNCyclingProjectInfos projectFetchSize cursor) = .ok projects)
    (empty : ∀ history project, env history (lookup project) = .ok []) :
    ∃ projects, (⟨.findNextNCyclingProjectInfos projectFetchSize cursor, .ok projects⟩ : Event) ∈
        events ∧
      ((topProjectID projectFetchSize projects = none ∧
          outcome = .aborted "index out of range [-1]") ∨
        ∃ top, topProjectID projectFetchSize projects = some top ∧
          outcome = .returned (top, [], none)) := by
  cases found with
  | listingFailed err =>
      obtain ⟨earlier, replied⟩ := answered _ (List.mem_singleton_self _)
      obtain ⟨projects, ok⟩ := listed earlier
      change Except.error err = _ at replied
      rw [ok] at replied
      cases replied
  | lookupFailed projects lookups err each =>
      cases each.nothing_found (fun event member => answered event (List.mem_cons_of_mem _ member))
        empty
  | indexOutOfRange projects lookups infos each top =>
      exact ⟨projects, List.mem_cons_self _ _, .inl ⟨top, rfl⟩⟩
  | paged projects lookups infos top' each top =>
      cases each.nothing_found (fun event member => answered event (List.mem_cons_of_mem _ member))
        empty
      exact ⟨projects, List.mem_cons_self _ _, .inr ⟨top', top, by simp⟩⟩

theorem Found.offStore {τ : Ty} {lookup : ProjectInfo → Call (.list τ)}
    {projectFetchSize : Int} {cursor : ID} {events : List Event}
    {outcome : Outcome (ID × List τ.denote × Option Error)}
    (found : Found lookup projectFetchSize cursor events outcome)
    (offStore : ∀ project, (lookup project).isAction = false) :
    ∀ event ∈ events, event.call.isAction = false := by
  have lookups : ∀ {items events result}, Each lookup items events result →
      ∀ event ∈ events, event.call.isAction = false := fun each event member => by
    obtain ⟨x, -, reply, rfl⟩ := each.mem_events member
    exact offStore x
  cases found with
  | listingFailed err => exact List.forall_mem_singleton.mpr rfl
  | lookupFailed projects events err each => exact List.forall_mem_cons.mpr ⟨rfl, lookups each⟩
  | indexOutOfRange projects events infos each => exact List.forall_mem_cons.mpr ⟨rfl, lookups each⟩
  | paged projects events infos top each => exact List.forall_mem_cons.mpr ⟨rfl, lookups each⟩

theorem Logged.offStore {format : String} {count : Int} {size : Nat} {events : List Event}
    (line : Logged format count size events) : ∀ event ∈ events, event.call.isAction = false := by
  cases line with
  | empty => exact fun _ none => absurd none (List.not_mem_nil _)
  | line => exact List.forall_mem_singleton.mpr rfl

theorem filter_isAction_nil {events : List Event}
    (offStore : ∀ event ∈ events, event.call.isAction = false) :
    events.filter (fun event => event.call.isAction) = [] :=
  List.filter_eq_nil_iff.mpr fun event member => by simp [offStore event member]

theorem Swept.nothing_to_sweep {τ : Ty} {lookup : ProjectInfo → Call (.list τ)}
    {projectFetchSize : Int} {cursor : ID}
    {Act : List τ.denote → List Event → Except Error Int → Prop} {format : String}
    {body : List Event} {outcome : Outcome (ID × Option Error)}
    (swept : Swept (Found lookup projectFetchSize cursor) Act format body outcome) {env : Env}
    {Empty : List Event → Except Error Int → Prop}
    (answered : Answered env body)
    (listed : ∀ history, ∃ projects,
      env history (.findNextNCyclingProjectInfos projectFetchSize cursor) = .ok projects)
    (empty : ∀ history project, env history (lookup project) = .ok [])
    (offStore : ∀ project, (lookup project).isAction = false)
    (acting : ∀ acts result, Act [] acts result →
      Empty acts result ∧ ∀ event ∈ acts, event.call.isAction = true) :
    ∃ projects, (⟨.findNextNCyclingProjectInfos projectFetchSize cursor, .ok projects⟩ : Event) ∈
        body ∧
      ((topProjectID projectFetchSize projects = none ∧
          body.filter (fun event => event.call.isAction) = [] ∧
          outcome = .aborted "index out of range [-1]") ∨
        ∃ top acts result, topProjectID projectFetchSize projects = some top ∧ Empty acts result ∧
          body.filter (fun event => event.call.isAction) = acts ∧
          outcome = actedOutcome top result) := by
  have searched := fun {found} {result} (spec : Found lookup projectFetchSize cursor found result)
      (inBody : ∀ event ∈ found, event ∈ body) =>
    spec.nothing_found (fun event member => answered event (inBody event member)) listed empty
  have quiet := fun {found} {result} (spec : Found lookup projectFetchSize cursor found result) =>
    filter_isAction_nil (spec.offStore offStore)
  cases swept with
  | findFailed found _ _ err spec =>
      obtain ⟨projects, -, ⟨-, out⟩ | ⟨_, -, out⟩⟩ := searched spec fun _ => id <;> cases out
  | findAborted found reason spec =>
      obtain ⟨projects, listedIn, ⟨top, out⟩ | ⟨_, -, out⟩⟩ := searched spec fun _ => id
      · cases out
        exact ⟨projects, listedIn, .inl ⟨top, quiet spec, rfl⟩⟩
      · cases out
  | actFailed found acts _ _ err spec acted =>
      obtain ⟨projects, listedIn, ⟨-, out⟩ | ⟨top, atTop, out⟩⟩ :=
        searched spec fun _ member => List.mem_append_left _ member <;> cases out
      obtain ⟨emptyBatch, actions⟩ := acting acts _ acted
      refine ⟨projects, List.mem_append_left _ listedIn,
        .inr ⟨_, acts, _, atTop, emptyBatch, ?_, rfl⟩⟩
      rw [List.filter_append, quiet spec, List.filter_eq_self.mpr actions, List.nil_append]
  | done found acts logged _ _ count spec acted line =>
      obtain ⟨projects, listedIn, ⟨-, out⟩ | ⟨top, atTop, out⟩⟩ :=
        searched spec fun _ member => List.mem_append_left _ (List.mem_append_left _ member) <;>
        cases out
      obtain ⟨emptyBatch, actions⟩ := acting acts _ acted
      refine ⟨projects, List.mem_append_left _ (List.mem_append_left _ listedIn),
        .inr ⟨_, acts, _, atTop, emptyBatch, ?_, rfl⟩⟩
      rw [List.filter_append, List.filter_append, quiet spec, List.filter_eq_self.mpr actions,
        filter_isAction_nil line.offStore, List.nil_append, List.append_nil]

theorem Locked.answered {key : String} {Body : List Event → Outcome (ID × Option Error) → Prop}
    {events : List Event} {outcome : Outcome (ID × Option Error)}
    (locked : Locked key Body events outcome) {env : Env} (answered : Answered env events) :
    Locked key (fun body outcome => Body body outcome ∧ Answered env body) events outcome := by
  cases locked with
  | newLockerFailed err => exact .newLockerFailed err
  | lockFailed locker err => exact .lockFailed locker err
  | locked locker body unlocked outcome spec unlock =>
      refine .locked locker body unlocked outcome ⟨spec, fun event member => ?_⟩ unlock
      exact answered event (by simp [member])

theorem Deactivated.empty {acts : List Event} {result : Except Error Int}
    (deactivated : Deactivated [] acts result) : acts = [] ∧ result = .ok 0 := by
  obtain ⟨replies, each, rfl⟩ := deactivated
  cases each
  exact ⟨rfl, rfl⟩

def Entry.EmptyBatch : Entry → List Event → Except Error Int → Prop
  | .deactivateCandidates _, acts, result | .deactivateInactives _ _, acts, result =>
      acts = [] ∧ result = .ok 0
  | .deleteDocument _, acts, result => acts = [⟨.deleteDocument [], result⟩]
  | .deleteDocuments _ _ _, acts, result => acts = [⟨.deleteDocuments [], result⟩]

/-- What a sweep with nothing to collect does under its lock: it lists a page; on a page
the cursor rule cannot index it panics with no action; otherwise its actions are exactly
`EmptyBatch`, and it returns the page's cursor, or `database.DefaultProjectID` with the error
of a failed action. -/
def Entry.NothingSwept (e : Entry) (cursor : ID) (body : List Event)
    (outcome : Outcome (ID × Option Error)) : Prop :=
  ∃ projects,
    (⟨.findNextNCyclingProjectInfos e.projectFetchSize cursor, .ok projects⟩ : Event) ∈ body ∧
      ((topProjectID e.projectFetchSize projects = none ∧
          body.filter (fun event => event.call.isAction) = [] ∧
          outcome = .aborted "index out of range [-1]") ∨
        ∃ top acts result, topProjectID e.projectFetchSize projects = some top ∧
          e.EmptyBatch acts result ∧ body.filter (fun event => event.call.isAction) = acts ∧
          outcome = actedOutcome top result)

/-- With the listing answered and every lookup empty, a sweep that takes its lock lists a
page.  Unless that page makes it panic, deactivation makes no store write and returns the
page's cursor, while each deletion entry point passes the empty batch to the store in exactly
one call, and a failure there is the sweep's error, after which the loop keeps its cursor. -/
theorem entry_sweep_nothing_to_sweep (e : Entry) (cursor : ID) (env : Env)
    (nothing : env.NothingToSweep) :
    Locked e.key (e.NothingSwept cursor) ((e.sweep cursor).run env []).events
        ((e.sweep cursor).run env []).outcome ∧
      ∀ loop : Attach, loop.housekeepingLastProjectID = cursor → loop.pc = .sweep →
        (∀ lastProjectID, ((e.sweep cursor).run env []).outcome ≠ .returned (lastProjectID, none)) →
        ∃ next happened, loop.step e.sweep (.sweep env) = some (next, happened) ∧
          next.housekeepingLastProjectID = cursor := by
  obtain ⟨listed, deactivations, deletions⟩ := nothing
  refine ⟨((e.sweep_spec cursor env []).answered fun event member =>
    Prog.answered_of_mem env [] _ member).mono fun body outcome ⟨spec, answered⟩ => ?_,
    fun loop atCursor atTop failed => ?_⟩
  · have deactivated : ∀ acts result, Deactivated [] acts result →
        (acts = [] ∧ result = .ok 0) ∧ ∀ event ∈ acts, event.call.isAction = true :=
      fun _ _ acted => by
        obtain ⟨rfl, rfl⟩ := acted.empty
        exact ⟨⟨rfl, rfl⟩, fun _ member => absurd member (List.not_mem_nil _)⟩
    have deleted : ∀ (call : Call .count), call.isAction → ∀ (acts : List Event)
        (result : Except Error Int), acts = [⟨call, result⟩] → acts = [⟨call, result⟩] ∧ ∀ event ∈ acts, event.call.isAction = true :=
      fun call action acts result acted => ⟨acted, by subst acted; simpa using action⟩
    cases e with
    | deactivateCandidates h | deactivateInactives _ _ =>
        exact spec.nothing_to_sweep answered (fun history => listed history _ _)
          (fun _ _ => deactivations _ _ _) (fun _ => rfl) deactivated
    | deleteDocument h =>
        exact spec.nothing_to_sweep answered (fun history => listed history _ _)
          (fun _ _ => deletions _ _ _ _) (fun _ => rfl) (deleted (.deleteDocument []) rfl)
    | deleteDocuments _ _ _ =>
        exact spec.nothing_to_sweep answered (fun history => listed history _ _)
          (fun _ _ => deletions _ _ _ _) (fun _ => rfl) (deleted (.deleteDocuments []) rfl)
  · subst atCursor
    exact Attach.sweep_keeps_cursor e.sweep atTop env failed

def emptyBatchRefused : Env := fun _ {τ} call =>
  match τ, call with
  | _, .newLocker key => .ok ⟨key, 0⟩
  | _, .lock _ => .ok ()
  | _, .unlock _ => .ok ()
  | _, .findNextNCyclingProjectInfos _ _ => .ok [⟨"p1"⟩]
  | _, .findDeactivateCandidatesPerProject _ _ => .ok []
  | _, .findDocumentHardDeletionCandidatesPerProject _ _ _ => .ok []
  | _, .deleteDocument _ => .error "document deletion failed"
  | _, .deleteDocuments _ => .error "document deletion failed"
  | _, _ => .error "unexpected call"

/-- With nothing to delete, `Housekeeping.DeleteDocument` still calls the store's deletion,
and its failure fails the sweep, which returns `database.DefaultProjectID` instead of the
page's cursor. -/
theorem deleteDocument_nothing_to_delete_fails :
    emptyBatchRefused.NothingToSweep ∧
      ((Entry.deleteDocument ⟨30000000000, 30000000000, 86400000000000, 500, 500, 100⟩).sweep
          defaultProjectID).run emptyBatchRefused [] =
        ⟨[⟨.newLocker Housekeeping.documentHardDeletionLockKey,
            .ok ⟨Housekeeping.documentHardDeletionLockKey, 0⟩⟩,
          ⟨.lock ⟨Housekeeping.documentHardDeletionLockKey, 0⟩, .ok ()⟩,
          ⟨.findNextNCyclingProjectInfos 100 defaultProjectID, .ok [⟨"p1"⟩]⟩,
          ⟨.findDocumentHardDeletionCandidatesPerProject ⟨"p1"⟩ 500 86400000000000, .ok []⟩,
          ⟨.deleteDocument [], .error "document deletion failed"⟩,
          ⟨.unlock ⟨Housekeeping.documentHardDeletionLockKey, 0⟩, .ok ()⟩],
        .returned (defaultProjectID, some "document deletion failed")⟩ :=
  ⟨⟨fun _ _ _ => ⟨_, rfl⟩, fun _ _ _ => rfl, fun _ _ _ _ => rfl⟩, rfl⟩

theorem emptyBatchRefused_nothingSwept :
    emptyBatchRefused.NothingToSweep ∧
      Locked (Entry.deleteDocuments 500 86400000000000 100).key
          ((Entry.deleteDocuments 500 86400000000000 100).NothingSwept defaultProjectID)
          (((Entry.deleteDocuments 500 86400000000000 100).sweep defaultProjectID).run
            emptyBatchRefused []).events
          (((Entry.deleteDocuments 500 86400000000000 100).sweep defaultProjectID).run
            emptyBatchRefused []).outcome ∧
        ∀ loop : Attach, loop.housekeepingLastProjectID = defaultProjectID → loop.pc = .sweep →
          (∀ lastProjectID, (((Entry.deleteDocuments 500 86400000000000 100).sweep
              defaultProjectID).run emptyBatchRefused []).outcome ≠ .returned (lastProjectID, none)) →
          ∃ next happened, loop.step (Entry.deleteDocuments 500 86400000000000 100).sweep
              (.sweep emptyBatchRefused) = some (next, happened) ∧
            next.housekeepingLastProjectID = defaultProjectID :=
  have nothing : emptyBatchRefused.NothingToSweep :=
    ⟨fun _ _ _ => ⟨_, rfl⟩, fun _ _ _ => rfl, fun _ _ _ _ => rfl⟩
  ⟨nothing, entry_sweep_nothing_to_sweep _ _ _ nothing⟩

end Yorkie
