import YorkieHousekeeping.Sweep

/-!
What each piece of sweep code does against any environment.

Every function of `Sweep` gets one relation that lists its exits, and one theorem that its
run is in that relation for every environment and history.  The relations say nothing about
the environment's answers beyond what the code reads, so later proofs combine them and never
unfold the code again.
-/

namespace Yorkie

/-! ### Loops that make one call per item -/

/-- `events` answer the calls `call x` for the items `x` in order, up to and including the
first that failed; `result` holds every reply when none failed, and that failure otherwise. -/
inductive Each {β : Type} {τ : Ty} (call : β → Call τ) :
    List β → List Event → Except Error (List τ.denote) → Prop
  | nil : Each call [] [] (.ok [])
  | error (x : β) (xs : List β) (err : Error) :
      Each call (x :: xs) [⟨call x, .error err⟩] (.error err)
  | ok (x : β) (xs : List β) (reply : τ.denote) {events : List Event}
      {result : Except Error (List τ.denote)} :
      Each call xs events result →
      Each call (x :: xs) (⟨call x, .ok reply⟩ :: events) (result.map (reply :: ·))

namespace Each

variable {β : Type} {τ : Ty} {call : β → Call τ}

theorem mem_events {items : List β} {events : List Event} {result : Except Error (List τ.denote)}
    (each : Each call items events result) {event : Event} (member : event ∈ events) :
    ∃ x ∈ items, ∃ reply, event = ⟨call x, reply⟩ := by
  induction each with
  | nil => cases member
  | error x xs err =>
      obtain rfl := List.mem_singleton.mp member
      exact ⟨x, List.mem_cons_self _ _, _, rfl⟩
  | ok x xs reply _ ih =>
      rcases List.mem_cons.mp member with rfl | inRest
      · exact ⟨x, List.mem_cons_self _ _, _, rfl⟩
      · obtain ⟨y, inItems, reply', rfl⟩ := ih inRest
        exact ⟨y, List.mem_cons_of_mem _ inItems, reply', rfl⟩

end Each

theorem appendCandidates_run (env : Env) {τ : Ty} (lookup : ProjectInfo → Call (.list τ))
    (projects : List ProjectInfo) (candidates : List τ.denote) (history : List Event) :
    ∃ result, Each lookup projects
        ((appendCandidates lookup candidates projects).run env history).events result ∧
      ((appendCandidates lookup candidates projects).run env history).outcome =
        .returned (result.map fun infos => candidates ++ infos.flatten) := by
  induction projects generalizing candidates history with
  | nil => exact ⟨.ok [], .nil, by simp [appendCandidates, Except.map]⟩
  | cons project projects ih =>
      simp only [appendCandidates, Prog.bind_eq, Prog.issue_bind, Prog.run_call_events,
        Prog.run_call_outcome]
      cases answer : env history (lookup project) with
      | error err => exact ⟨.error err, .error _ _ _, rfl⟩
      | ok infos =>
          obtain ⟨result, each, outcome⟩ := ih (List.append candidates infos)
            (history ++ [⟨lookup project, .ok infos⟩])
          refine ⟨result.map (infos :: ·), .ok _ _ _ each, ?_⟩
          rw [outcome]
          cases result <;> simp [Except.map]; rfl

theorem deactivateAll_run (env : Env) (candidates : List ClientInfo)
    (deactivatedCount : Int) (history : List Event) :
    ∃ result, Each (fun clientInfo : ClientInfo => Call.deactivate clientInfo.refKey) candidates
        ((deactivateAll candidates deactivatedCount).run env history).events result ∧
      ((deactivateAll candidates deactivatedCount).run env history).outcome =
        .returned (result.map fun replies => deactivatedCount + replies.length) := by
  induction candidates generalizing deactivatedCount history with
  | nil => exact ⟨.ok [], .nil, by simp [deactivateAll, Except.map]⟩
  | cons clientInfo candidates ih =>
      simp only [deactivateAll, Prog.bind_eq, Prog.issue_bind, Prog.run_call_events,
        Prog.run_call_outcome]
      cases answer : env history (.deactivate clientInfo.refKey) with
      | error err => exact ⟨.error err, .error _ _ _, rfl⟩
      | ok info =>
          obtain ⟨result, each, outcome⟩ := ih (deactivatedCount + 1)
            (history ++ [⟨.deactivate clientInfo.refKey, .ok info⟩])
          refine ⟨result.map (info :: ·), .ok _ _ _ each, ?_⟩
          rw [outcome]
          cases result <;> simp [Except.map]; omega

/-! ### Candidate searches -/

/-- The exits of a candidate search (`findCandidates`): the listing fails, a lookup fails,
the cursor rule indexes an empty page, or the page is searched and the cursor computed. -/
inductive Found {τ : Ty} (lookup : ProjectInfo → Call (.list τ)) (projectFetchSize : Int)
    (lastProjectID : ID) : List Event → Outcome (ID × List τ.denote × Option Error) → Prop
  | listingFailed (err : Error) :
      Found lookup projectFetchSize lastProjectID
        [⟨.findNextNCyclingProjectInfos projectFetchSize lastProjectID, .error err⟩]
        (.returned (defaultProjectID, [], some err))
  | lookupFailed (projects : List ProjectInfo) (lookups : List Event) (err : Error) :
      Each lookup projects lookups (.error err) →
      Found lookup projectFetchSize lastProjectID
        (⟨.findNextNCyclingProjectInfos projectFetchSize lastProjectID, .ok projects⟩ :: lookups)
        (.returned (defaultProjectID, [], some err))
  | indexOutOfRange (projects : List ProjectInfo) (lookups : List Event)
      (infos : List (Ty.list τ).denote) :
      Each lookup projects lookups (.ok infos) →
      topProjectID projectFetchSize projects = none →
      Found lookup projectFetchSize lastProjectID
        (⟨.findNextNCyclingProjectInfos projectFetchSize lastProjectID, .ok projects⟩ :: lookups)
        (.aborted "index out of range [-1]")
  | paged (projects : List ProjectInfo) (lookups : List Event) (infos : List (Ty.list τ).denote)
      (topProjectID' : ID) :
      Each lookup projects lookups (.ok infos) →
      topProjectID projectFetchSize projects = some topProjectID' →
      Found lookup projectFetchSize lastProjectID
        (⟨.findNextNCyclingProjectInfos projectFetchSize lastProjectID, .ok projects⟩ :: lookups)
        (.returned (topProjectID', infos.flatten, none))

theorem findCandidates_run (env : Env) {τ : Ty} (lookup : ProjectInfo → Call (.list τ))
    (projectFetchSize : Int) (lastProjectID : ID) (history : List Event) :
    Found lookup projectFetchSize lastProjectID
      ((findCandidates lookup projectFetchSize lastProjectID).run env history).events
      ((findCandidates lookup projectFetchSize lastProjectID).run env history).outcome := by
  simp only [findCandidates, Prog.bind_eq, Prog.issue_bind, Prog.run_call_events,
    Prog.run_call_outcome]
  cases env history (.findNextNCyclingProjectInfos projectFetchSize lastProjectID) with
  | error err => exact .listingFailed err
  | ok projects =>
      obtain ⟨result, each, collected⟩ := appendCandidates_run env lookup projects []
        (history ++ [⟨.findNextNCyclingProjectInfos projectFetchSize lastProjectID, .ok projects⟩])
      simp only [Prog.run_bind, Run.andThen_of_returned collected]
      cases result with
      | error err => simpa [Except.map] using Found.lookupFailed projects _ err each
      | ok infos =>
          cases top : topProjectID projectFetchSize projects with
          | none => simpa [Except.map, top] using Found.indexOutOfRange projects _ infos each top
          | some topProjectID' =>
              simpa [Except.map, top] using Found.paged projects _ infos topProjectID' each top

/-! ### The lock -/

/-- The two ways the deferred `unlockLogged locker` can go. -/
inductive Unlocked (locker : Locker) : List Event → Prop
  | released : Unlocked locker [⟨.unlock locker, .ok ()⟩]
  | failed (err : Error) (logged : Except Error Unit) :
      Unlocked locker [⟨.unlock locker, .error err⟩, ⟨.logError err, logged⟩]

theorem unlockLogged_unlocked (env : Env) (locker : Locker) (history : List Event) :
    Unlocked locker ((unlockLogged locker).run env history).events := by
  simp only [unlockLogged, Prog.bind_eq, Prog.issue_bind, Prog.run_call_events]
  cases env history (.unlock locker) with
  | error err => exact .failed err _
  | ok u => exact .released

@[simp] theorem unlockLogged_outcome (env : Env) (locker : Locker) (history : List Event) :
    ((unlockLogged locker).run env history).outcome = .returned () := by
  simp only [unlockLogged, Prog.bind_eq, Prog.issue_bind, Prog.run_call_outcome]
  cases env history (.unlock locker) <;> rfl

/-- The call trace of a sweep that wraps its body in the lock `key`: a failed `NewLocker` or
`Lock` returns at once; otherwise the body runs between the `Lock` and one `Unlock` of the
same locker, and its outcome is the sweep's. -/
inductive Locked (key : String) (Body : List Event → Outcome (ID × Option Error) → Prop) :
    List Event → Outcome (ID × Option Error) → Prop
  | newLockerFailed (err : Error) :
      Locked key Body [⟨.newLocker key, .error err⟩] (.returned (defaultProjectID, some err))
  | lockFailed (locker : Locker) (err : Error) :
      Locked key Body [⟨.newLocker key, .ok locker⟩, ⟨.lock locker, .error err⟩]
        (.returned (defaultProjectID, some err))
  | locked (locker : Locker) (body unlocked : List Event) (outcome : Outcome (ID × Option Error)) :
      Body body outcome → Unlocked locker unlocked →
      Locked key Body (⟨.newLocker key, .ok locker⟩ :: ⟨.lock locker, .ok ()⟩ :: body ++ unlocked)
        outcome

theorem withLocker_run (env : Env) (key : String) (body : Prog (ID × Option Error))
    (Body : List Event → Outcome (ID × Option Error) → Prop)
    (bodySpec : ∀ history, Body (body.run env history).events (body.run env history).outcome)
    (history : List Event) :
    Locked key Body ((withLocker key body).run env history).events
      ((withLocker key body).run env history).outcome := by
  simp only [withLocker, Prog.bind_eq, Prog.issue_bind, Prog.run_call_events,
    Prog.run_call_outcome]
  cases env history (.newLocker key) with
  | error err => exact .newLockerFailed err
  | ok locker =>
      simp only [Prog.run_call_events, Prog.run_call_outcome]
      cases env (history ++ [⟨.newLocker key, .ok locker⟩]) (.lock locker) with
      | error err => exact .lockFailed locker err
      | ok u =>
          simp only [Prog.run_defer, unlockLogged_outcome]
          exact .locked locker _ _ _ (bodySpec _) (unlockLogged_unlocked env locker _)

theorem withLocker_outcome (env : Env) (key : String) (body : Prog (ID × Option Error))
    (history : List Event) :
    ((withLocker key body).run env history).outcome =
      match env history (.newLocker key) with
      | .error err => .returned (defaultProjectID, some err)
      | .ok locker =>
          match env (history ++ [⟨.newLocker key, .ok locker⟩]) (.lock locker) with
          | .error err => .returned (defaultProjectID, some err)
          | .ok u => (body.run env
              (history ++ [⟨.newLocker key, .ok locker⟩] ++ [⟨.lock locker, .ok u⟩])).outcome := by
  simp only [withLocker, Prog.bind_eq, Prog.issue_bind, Prog.run_call_outcome]
  cases env history (.newLocker key) with
  | error err => rfl
  | ok locker =>
      simp only [Prog.run_call_outcome]
      cases env (history ++ [⟨.newLocker key, .ok locker⟩]) (.lock locker) with
      | error err => rfl
      | ok u => simp only [Prog.run_defer, unlockLogged_outcome]

theorem Locked.mono {key : String} {Body Body' : List Event → Outcome (ID × Option Error) → Prop}
    {events : List Event} {outcome : Outcome (ID × Option Error)}
    (locked : Locked key Body events outcome)
    (weaken : ∀ body outcome, Body body outcome → Body' body outcome) :
    Locked key Body' events outcome := by
  cases locked with
  | newLockerFailed err => exact .newLockerFailed err
  | lockFailed locker err => exact .lockFailed locker err
  | locked locker body unlocked outcome spec unlock =>
      exact .locked locker body unlocked outcome (weaken _ _ spec) unlock

/-! ### The work under the lock -/

inductive Logged (format : String) (count : Int) : Nat → List Event → Prop
  | empty : Logged format count 0 []
  | line (size : Nat) (reply : Except Error Unit) :
      0 < size → Logged format count size [⟨.infof format size count, reply⟩]

/-- The exits of `sweepBody`: a failed or panicking search, a failed action, or an acted-on
batch followed by its log line. -/
inductive Swept {β : Type} (Find : List Event → Outcome (ID × List β × Option Error) → Prop)
    (Act : List β → List Event → Except Error Int → Prop) (format : String) :
    List Event → Outcome (ID × Option Error) → Prop
  | findFailed (found : List Event) (lastProjectID : ID) (candidates : List β) (err : Error) :
      Find found (.returned (lastProjectID, candidates, some err)) →
      Swept Find Act format found (.returned (defaultProjectID, some err))
  | findAborted (found : List Event) (reason : String) :
      Find found (.aborted reason) → Swept Find Act format found (.aborted reason)
  | actFailed (found acts : List Event) (lastProjectID : ID) (candidates : List β) (err : Error) :
      Find found (.returned (lastProjectID, candidates, none)) →
      Act candidates acts (.error err) →
      Swept Find Act format (found ++ acts) (.returned (defaultProjectID, some err))
  | done (found acts logged : List Event) (lastProjectID : ID) (candidates : List β)
      (count : Int) :
      Find found (.returned (lastProjectID, candidates, none)) →
      Act candidates acts (.ok count) →
      Logged format count candidates.length logged →
      Swept Find Act format (found ++ acts ++ logged) (.returned (lastProjectID, none))

theorem sweepBody_run (env : Env) {β : Type} (find : Prog (ID × List β × Option Error))
    (act : List β → Prog (Except Error Int)) (format : String)
    (Find : List Event → Outcome (ID × List β × Option Error) → Prop)
    (Act : List β → List Event → Except Error Int → Prop)
    (findSpec : ∀ history, Find (find.run env history).events (find.run env history).outcome)
    (actSpec : ∀ history candidates, ∃ result,
      ((act candidates).run env history).outcome = .returned result ∧
        Act candidates ((act candidates).run env history).events result)
    (history : List Event) :
    Swept Find Act format ((sweepBody find act format).run env history).events
      ((sweepBody find act format).run env history).outcome := by
  simp only [sweepBody, Prog.bind_eq, Prog.run_bind]
  have found := findSpec history
  cases searched : (find.run env history).outcome with
  | aborted reason =>
      rw [Run.andThen_of_aborted searched]
      exact .findAborted _ reason (searched ▸ found)
  | returned result =>
      obtain ⟨lastProjectID, candidates, err⟩ := result
      rw [Run.andThen_of_returned searched]
      rw [searched] at found
      cases err with
      | some err => simpa using Swept.findFailed _ _ _ err found
      | none =>
          obtain ⟨acted, acts, actOk⟩ :=
            actSpec (history ++ (find.run env history).events) candidates
          simp only [Prog.run_bind, Run.andThen_of_returned acts]
          cases acted with
          | error err => simpa using Swept.actFailed _ _ _ _ err found actOk
          | ok count =>
              by_cases nonEmpty : 0 < candidates.length
              · simpa [nonEmpty] using
                  Swept.done _ _ _ _ _ count found actOk (.line _ _ nonEmpty)
              · have empty : candidates.length = 0 := by omega
                simpa [nonEmpty, empty] using
                  Swept.done _ _ [] _ _ count found actOk (empty ▸ .empty)

/-! ### Calls off the lock service -/

def LockFree (events : List Event) : Prop := ∀ event ∈ events, event.call.isLocking = false

@[simp] theorem lockFree_nil : LockFree [] := fun _ member => nomatch member

@[simp] theorem lockFree_cons (event : Event) (events : List Event) :
    LockFree (event :: events) ↔ event.call.isLocking = false ∧ LockFree events :=
  List.forall_mem_cons

@[simp] theorem lockFree_append (first second : List Event) :
    LockFree (first ++ second) ↔ LockFree first ∧ LockFree second :=
  List.forall_mem_append

theorem count_call_not_locking (call : Call .count) : call.isLocking = false := by
  cases call <;> rfl

theorem Each.lockFree {β : Type} {τ : Ty} {call : β → Call τ} {items : List β}
    {events : List Event} {result : Except Error (List τ.denote)}
    (each : Each call items events result) (offLock : ∀ x, (call x).isLocking = false) :
    LockFree events := by
  intro event member
  obtain ⟨x, -, reply, rfl⟩ := each.mem_events member
  exact offLock x

theorem Found.lockFree {τ : Ty} {lookup : ProjectInfo → Call (.list τ)} {projectFetchSize : Int}
    {lastProjectID : ID} {events : List Event} {outcome : Outcome (ID × List τ.denote × Option Error)}
    (found : Found lookup projectFetchSize lastProjectID events outcome)
    (offLock : ∀ project, (lookup project).isLocking = false) : LockFree events := by
  cases found with
  | listingFailed err => exact (lockFree_cons _ _).mpr ⟨rfl, lockFree_nil⟩
  | lookupFailed projects lookups err each => exact (lockFree_cons _ _).mpr ⟨rfl, each.lockFree offLock⟩
  | indexOutOfRange projects lookups infos each =>
      exact (lockFree_cons _ _).mpr ⟨rfl, each.lockFree offLock⟩
  | paged projects lookups infos top each =>
      exact (lockFree_cons _ _).mpr ⟨rfl, each.lockFree offLock⟩

theorem Logged.lockFree {format : String} {count : Int} {size : Nat} {events : List Event}
    (line : Logged format count size events) : LockFree events := by
  cases line with
  | empty => exact lockFree_nil
  | line => exact (lockFree_cons _ _).mpr ⟨rfl, lockFree_nil⟩

theorem Swept.lockFree {β : Type} {Find : List Event → Outcome (ID × List β × Option Error) → Prop}
    {Act : List β → List Event → Except Error Int → Prop} {format : String}
    {events : List Event} {outcome : Outcome (ID × Option Error)}
    (swept : Swept Find Act format events outcome)
    (findOffLock : ∀ found outcome, Find found outcome → LockFree found)
    (actOffLock : ∀ candidates acts result, Act candidates acts result → LockFree acts) :
    LockFree events := by
  cases swept with
  | findFailed found _ _ _ spec => exact findOffLock _ _ spec
  | findAborted found _ spec => exact findOffLock _ _ spec
  | actFailed found acts _ _ _ spec acted =>
      exact (lockFree_append _ _).mpr ⟨findOffLock _ _ spec, actOffLock _ _ _ acted⟩
  | done found acts logged _ _ _ spec acted line =>
      exact (lockFree_append _ _).mpr ⟨(lockFree_append _ _).mpr
        ⟨findOffLock _ _ spec, actOffLock _ _ _ acted⟩, line.lockFree⟩

end Yorkie
