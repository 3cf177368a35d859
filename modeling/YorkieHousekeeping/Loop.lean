import YorkieHousekeeping.SweepRun

/-!
The `Attach…` loops: `AttachDeactivateCandidates` and `AttachDocumentHardDeletion` of both
`housekeeping.go` and the shared-interval package.

All four are the same loop around a different sweep:

    housekeepingLastProjectID := database.DefaultProjectID
    for {
        lastProjectID, err := sweep(ctx, housekeepingLastProjectID)
        if err != nil { logging.From(ctx).Error(err); continue }
        housekeepingLastProjectID = lastProjectID
        select {
        case <-time.After(interval):
        case <-h.ctx.Done(): return
        }
    }

`Attach` is the goroutine's state and `Attach.step` one move of it or of its surroundings:
a sweep against some environment, the interval timer firing, `Stop` cancelling `h.ctx`, and
the `select` taking one of its cases.  Time is not modelled here: the timer may fire at any
moment of a `select`, which covers every interval and every scheduling of the goroutine
(`Timed` adds the clock).  A `select` with both cases ready may take either, as Go's does.
-/

namespace Yorkie

/-- Where the goroutine of an `Attach…` loop stands: at the top of its `for`, about to
sweep; in the `select` after a successful sweep, with its timer fired or not; returned through
`<-h.ctx.Done()`; or dead of a panic in its sweep, which takes the process with it. -/
inductive Pc where
  | sweep
  | select (fired : Bool)
  | returned
  | panicked (reason : String)
deriving DecidableEq, Repr

/-- An `Attach…` loop: its cursor, where it stands, and whether `Stop` has cancelled
`h.ctx`. -/
structure Attach where
  housekeepingLastProjectID : ID
  pc : Pc
  ctxDone : Bool
deriving DecidableEq, Repr

def Attach.start : Attach := ⟨defaultProjectID, .sweep, false⟩

/-- What can happen next to a loop: its sweep runs against an environment, the timer of
the pending `time.After(interval)` fires, `Stop` cancels `h.ctx`, or the `select` takes
`<-time.After(interval)` (`after`) or `<-h.ctx.Done()` (`done`). -/
inductive Move where
  | sweep (env : Env)
  | fire
  | stop
  | after
  | done

/-- What a move did, as a run shows it. -/
inductive Happened where
  | swept (cursor : ID) (run : Run (ID × Option Error))
  | fired
  | stopped
  | woke
  | returned

namespace Attach

variable (sweep : ID → Prog (ID × Option Error))

def afterSweep (s : Attach) : Outcome (ID × Option Error) → Attach
  | .returned (lastProjectID, none) =>
      { s with housekeepingLastProjectID := lastProjectID, pc := .select false }
  | .returned (_, some _) => s
  | .aborted reason => { s with pc := .panicked reason }

/-- One move; `none` when the move cannot happen in `s`. -/
def step (s : Attach) : Move → Option (Attach × Happened)
  | .sweep env =>
      match s.pc with
      | .sweep =>
          let run := (sweep s.housekeepingLastProjectID).run env []
          some (s.afterSweep run.outcome, .swept s.housekeepingLastProjectID run)
      | _ => none
  | .fire =>
      match s.pc with
      | .select false => some ({ s with pc := .select true }, .fired)
      | _ => none
  | .stop => some ({ s with ctxDone := true }, .stopped)
  | .after =>
      match s.pc with
      | .select true => some ({ s with pc := .sweep }, .woke)
      | _ => none
  | .done =>
      match s.pc, s.ctxDone with
      | .select _, true => some ({ s with pc := .returned }, .returned)
      | _, _ => none

def exec (s : Attach) : List Move → Option (Attach × List Happened)
  | [] => some (s, [])
  | move :: moves =>
      match s.step sweep move with
      | none => none
      | some (next, happened) =>
          (next.exec moves).map fun (final, rest) => (final, happened :: rest)

theorem exec_cons (s : Attach) (move : Move) (moves : List Move) (final : Attach)
    (happened : List Happened) (ran : s.exec sweep (move :: moves) = some (final, happened)) :
    ∃ next first rest, s.step sweep move = some (next, first) ∧
      next.exec sweep moves = some (final, rest) ∧ happened = first :: rest := by
  simp only [exec] at ran
  split at ran
  · cases ran
  · rename_i next first stepped
    obtain ⟨⟨final', rest⟩, ranRest, same⟩ := Option.map_eq_some'.mp ran
    cases same
    exact ⟨next, first, rest, stepped, ranRest, rfl⟩

theorem exec_cons_of_step {s next final : Attach} {move : Move} {moves : List Move}
    {first : Happened} {rest : List Happened} (stepped : s.step sweep move = some (next, first))
    (ranRest : next.exec sweep moves = some (final, rest)) :
    s.exec sweep (move :: moves) = some (final, first :: rest) := by
  simp only [exec, stepped, ranRest, Option.map_some']

theorem step_cases {s next : Attach} {move : Move} {happened : Happened}
    (stepped : s.step sweep move = some (next, happened)) :
    (∃ env, move = .sweep env ∧ s.pc = .sweep ∧
        next = s.afterSweep ((sweep s.housekeepingLastProjectID).run env []).outcome ∧
        happened = .swept s.housekeepingLastProjectID
          ((sweep s.housekeepingLastProjectID).run env [])) ∨
      (move = .fire ∧ s.pc = .select false ∧ next = { s with pc := .select true } ∧
        happened = .fired) ∨
      (move = .stop ∧ next = { s with ctxDone := true } ∧ happened = .stopped) ∨
      (move = .after ∧ s.pc = .select true ∧ next = { s with pc := .sweep } ∧
        happened = .woke) ∨
      (move = .done ∧ (∃ fired, s.pc = .select fired) ∧ s.ctxDone = true ∧
        next = { s with pc := .returned } ∧ happened = .returned) := by
  rcases s with ⟨cursor, pc, ctxDone⟩
  cases move with
  | sweep env =>
      cases pc <;> simp only [step, Option.some.injEq, Prod.mk.injEq, reduceCtorEq] at stepped
      obtain ⟨rfl, rfl⟩ := stepped
      exact .inl ⟨env, rfl, rfl, rfl, rfl⟩
  | fire =>
      rcases pc with _ | (_ | _) | _ | _ <;>
        simp only [step, Option.some.injEq, Prod.mk.injEq, reduceCtorEq] at stepped
      obtain ⟨rfl, rfl⟩ := stepped
      exact .inr (.inl ⟨rfl, rfl, rfl, rfl⟩)
  | stop =>
      simp only [step, Option.some.injEq, Prod.mk.injEq] at stepped
      obtain ⟨rfl, rfl⟩ := stepped
      exact .inr (.inr (.inl ⟨rfl, rfl, rfl⟩))
  | after =>
      rcases pc with _ | (_ | _) | _ | _ <;>
        simp only [step, Option.some.injEq, Prod.mk.injEq, reduceCtorEq] at stepped
      obtain ⟨rfl, rfl⟩ := stepped
      exact .inr (.inr (.inr (.inl ⟨rfl, rfl, rfl, rfl⟩)))
  | done =>
      rcases pc with _ | fired | _ | _ <;> rcases ctxDone with _ | _ <;>
        simp only [step, Option.some.injEq, Prod.mk.injEq, reduceCtorEq] at stepped
      obtain ⟨rfl, rfl⟩ := stepped
      exact .inr (.inr (.inr (.inr ⟨rfl, ⟨fired, rfl⟩, rfl, rfl, rfl⟩)))

theorem step_keeps_cursor {s next : Attach} {move : Move} {happened : Happened}
    (stepped : s.step sweep move = some (next, happened)) :
    (∃ env, move = .sweep env ∧ s.pc = .sweep ∧
        next = s.afterSweep ((sweep s.housekeepingLastProjectID).run env []).outcome ∧
        happened = .swept s.housekeepingLastProjectID
          ((sweep s.housekeepingLastProjectID).run env [])) ∨
      (next.housekeepingLastProjectID = s.housekeepingLastProjectID ∧
        ∀ cursor run, happened ≠ .swept cursor run) := by
  rcases step_cases sweep stepped with swept | ⟨-, -, rfl, rfl⟩ | ⟨-, rfl, rfl⟩ | ⟨-, -, rfl, rfl⟩ |
    ⟨-, -, -, rfl, rfl⟩
  · exact .inl swept
  all_goals exact .inr ⟨rfl, fun _ _ same => by cases same⟩

end Attach

namespace Happened

def isSweep : Happened → Bool
  | .swept .. => true
  | _ => false

def isFailedSweep : Happened → Bool
  | .swept _ ⟨_, .returned (_, some _)⟩ => true
  | _ => false

def succeeded : Happened → Bool
  | .swept _ ⟨_, .returned (_, none)⟩ => true
  | _ => false

@[simp] theorem succeeded_swept (cursor : ID) (run : Run (ID × Option Error)) :
    (swept cursor run).succeeded = match run.outcome with
      | .returned (_, none) => true
      | _ => false := by
  obtain ⟨events, ⟨_, _ | _⟩ | _⟩ := run <;> rfl

def isFired : Happened → Bool
  | .fired => true
  | _ => false

def wroteStore : Happened → Bool
  | .swept _ run => run.events.any fun event => event.call.isAction
  | _ => false

end Happened

def Housekeeping.attachDeactivateCandidates (h : Housekeeping) :
    Attach → List Move → Option (Attach × List Happened) :=
  Attach.exec h.deactivateCandidates

def Housekeeping.attachDocumentHardDeletion (h : Housekeeping) :
    Attach → List Move → Option (Attach × List Happened) :=
  Attach.exec h.deleteDocument

/-! ### After `Stop` -/

namespace Attach

variable (sweep : ID → Prog (ID × Option Error))

/-- Sweeps the loop can start without another failure or timer firing: the one at the top
of the `for`, or the one after a `select` whose timer has fired. -/
def credit (s : Attach) : Nat :=
  match s.pc with
  | .sweep => 1
  | .select true => 1
  | _ => 0

theorem step_credit {s next : Attach} {move : Move} {happened : Happened}
    (stepped : s.step sweep move = some (next, happened)) :
    happened.isSweep.toNat + next.credit ≤
      s.credit + happened.isFailedSweep.toNat + happened.isFired.toNat := by
  rcases step_cases sweep stepped with ⟨env, -, atSweep, rfl, rfl⟩ | ⟨-, atSelect, rfl, rfl⟩ |
    ⟨-, rfl, rfl⟩ | ⟨-, atSelect, rfl, rfl⟩ | ⟨-, ⟨fired, atSelect⟩, -, rfl, rfl⟩
  · rcases ((sweep s.housekeepingLastProjectID).run env []) with
      ⟨events, (⟨lastProjectID, _ | err⟩ | reason)⟩ <;>
      simp [afterSweep, credit, atSweep, Happened.isSweep, Happened.isFailedSweep, Happened.isFired]
  all_goals
    simp only [credit, Happened.isSweep, Happened.isFailedSweep, Happened.isFired]
    split <;> simp_all

theorem exec_credit (s : Attach) (moves : List Move) {final : Attach}
    {happened : List Happened} (ran : s.exec sweep moves = some (final, happened)) :
    happened.countP Happened.isSweep + final.credit ≤
      s.credit + happened.countP Happened.isFailedSweep +
        happened.countP Happened.isFired := by
  induction moves generalizing s happened with
  | nil =>
      cases ran
      simp
  | cons move moves ih =>
      obtain ⟨next, first, rest, stepped, ranRest, rfl⟩ := exec_cons sweep s move moves final _ ran
      have now := step_credit sweep stepped
      have later := ih next ranRest
      have toNat : ∀ b : Bool, (if b = true then 1 else 0) = b.toNat := by decide
      simp only [List.countP_cons, toNat]
      omega

theorem credit_le_one (s : Attach) : s.credit ≤ 1 := by
  unfold credit
  split <;> omega

@[simp] theorem afterSweep_ctxDone (s : Attach) (outcome : Outcome (ID × Option Error)) :
    (s.afterSweep outcome).ctxDone = s.ctxDone := by
  rcases outcome with ⟨_, _ | _⟩ | _ <;> rfl

theorem step_ctxDone {s next : Attach} {move : Move} {happened : Happened}
    (stepped : s.step sweep move = some (next, happened)) (cancelled : s.ctxDone = true) :
    next.ctxDone = true := by
  rcases step_cases sweep stepped with ⟨-, -, -, rfl, -⟩ | ⟨-, -, rfl, -⟩ | ⟨-, rfl, -⟩ |
    ⟨-, -, rfl, -⟩ | ⟨-, -, -, rfl, -⟩ <;> simp [cancelled]

theorem exec_ctxDone (s : Attach) (moves : List Move) {final : Attach}
    {happened : List Happened} (ran : s.exec sweep moves = some (final, happened))
    (cancelled : s.ctxDone = true) : final.ctxDone = true := by
  induction moves generalizing s happened with
  | nil => cases ran; exact cancelled
  | cons move moves ih =>
      obtain ⟨next, _, _, stepped, ranRest, -⟩ := exec_cons sweep s move moves final _ ran
      exact ih next ranRest (step_ctxDone sweep stepped cancelled)

/-- Once `Stop` has cancelled `h.ctx`, every `select` the loop reaches can return at once,
but the loop starts a new sweep after every failed sweep and after every `select` whose
timer has already fired: over the rest of any run, the sweeps started number at most one
more than the failed sweeps and the timer firings together. -/
theorem attach_after_stop (s : Attach) (moves : List Move) (final : Attach)
    (happened : List Happened) (ran : s.exec sweep (.stop :: moves) = some (final, happened)) :
    happened.countP Happened.isSweep ≤
        1 + happened.countP Happened.isFailedSweep + happened.countP Happened.isFired ∧
      final.ctxDone = true ∧
      ∀ fired, final.pc = .select fired →
        final.step sweep .done = some ({ final with pc := .returned }, .returned) := by
  have bound := exec_credit sweep s _ ran
  have cancelled : final.ctxDone = true := by
    obtain ⟨next, _, _, stepped, ranRest, -⟩ := exec_cons sweep s _ moves final _ ran
    simp only [step, Option.some.injEq, Prod.mk.injEq] at stepped
    obtain ⟨rfl, -⟩ := stepped
    exact exec_ctxDone sweep _ moves ranRest rfl
  refine ⟨by have := credit_le_one s; omega, cancelled, fun fired atSelect => ?_⟩
  simp [step, atSelect, cancelled]

/-! ### Failing sweeps -/

theorem isFailedSweep_swept {cursor lastProjectID : ID} {run : Run (ID × Option Error)}
    {err : Error} (failed : run.outcome = .returned (lastProjectID, some err)) :
    (Happened.swept cursor run).isFailedSweep = true := by
  obtain ⟨events, outcome⟩ := run
  cases failed
  rfl

/-- While every sweep fails, the loop never leaves the top of its `for`: each failed sweep
`continue`s, no `select` is reached, and `Stop` has nothing to return through. -/
theorem exec_failing {cursor : ID} {moves : List Move}
    (failing : ∀ env, Move.sweep env ∈ moves → ∃ lastProjectID err,
      ((sweep cursor).run env []).outcome = .returned (lastProjectID, some err)) :
    ∀ {s final : Attach} {happened : List Happened}, s.pc = .sweep →
      s.housekeepingLastProjectID = cursor → s.exec sweep moves = some (final, happened) →
      final.pc = .sweep ∧ final.housekeepingLastProjectID = cursor ∧
        happened.countP Happened.isSweep = happened.countP Happened.isFailedSweep := by
  induction moves with
  | nil =>
      intro s final happened atSweep atCursor ran
      cases ran
      exact ⟨atSweep, atCursor, rfl⟩
  | cons move moves ih =>
      intro s final happened atSweep atCursor ran
      obtain ⟨next, first, rest, stepped, ranRest, rfl⟩ := exec_cons sweep s move moves final _ ran
      have failingRest := fun env member => failing env (List.mem_cons_of_mem _ member)
      rcases step_cases sweep stepped with ⟨env, rfl, -, rfl, rfl⟩ | ⟨-, atSelect, -⟩ |
        ⟨rfl, rfl, rfl⟩ | ⟨-, atSelect, -⟩ | ⟨-, ⟨_, atSelect⟩, -⟩
      · obtain ⟨lastProjectID, err, failed⟩ := failing env (List.mem_cons_self _ _)
        rw [← atCursor] at failed
        rw [failed] at ranRest
        obtain ⟨atSweep', atCursor', counts⟩ := ih failingRest atSweep atCursor ranRest
        refine ⟨atSweep', atCursor', ?_⟩
        simp only [List.countP_cons, counts, Happened.isSweep, isFailedSweep_swept failed, if_true]
      · rw [atSweep] at atSelect
        cases atSelect
      · obtain ⟨atSweep', atCursor', counts⟩ :=
          ih failingRest (by exact atSweep) (by exact atCursor) ranRest
        exact ⟨atSweep', atCursor', by simpa [Happened.isSweep, Happened.isFailedSweep] using counts⟩
      all_goals
        rw [atSweep] at atSelect
        cases atSelect

theorem exec_replicate_failing {s : Attach} (atSweep : s.pc = .sweep) {env : Env}
    {lastProjectID : ID} {err : Error}
    (failed : ((sweep s.housekeepingLastProjectID).run env []).outcome =
      .returned (lastProjectID, some err)) (n : Nat) :
    s.exec sweep (List.replicate n (.sweep env)) =
      some (s, List.replicate n (.swept s.housekeepingLastProjectID
        ((sweep s.housekeepingLastProjectID).run env []))) := by
  induction n with
  | zero => rfl
  | succ n ih =>
      refine exec_cons_of_step sweep ?_ ih
      simp only [step, atSweep, failed, afterSweep]

end Attach

def unreachable : Env := fun _ _ _ => .error "connection refused"

def oneIdleClient : Env := fun _ {τ} call =>
  match τ, call with
  | _, .newLocker key => .ok ⟨key, 0⟩
  | _, .lock _ => .ok ()
  | _, .unlock _ => .ok ()
  | _, .findNextNCyclingProjectInfos _ _ => .ok [⟨"p1"⟩]
  | _, .findDeactivateCandidatesPerProject project _ => .ok [⟨project.id, "c1"⟩]
  | _, .deactivate refKey => .ok ⟨refKey.projectID, refKey.clientID⟩
  | _, .infof .. => .ok ()
  | _, _ => .error "unexpected call"

/-- After `Stop`, the deactivation loop sweeps `c1` away and can return from its `select`;
when the timer fires first, it takes the timer case and sweeps once more. -/
theorem Attach.attach_after_stop_from_start :
    (∃ final happened,
      Housekeeping.attachDeactivateCandidates
          ⟨30000000000, 30000000000, 86400000000000, 500, 500, 100⟩ Attach.start
          [.stop, .sweep oneIdleClient] = some (final, happened) ∧
        happened.countP Happened.isSweep ≤
          1 + happened.countP Happened.isFailedSweep + happened.countP Happened.isFired ∧
        final.ctxDone = true ∧
        ∀ fired, final.pc = .select fired →
          final.step (Housekeeping.deactivateCandidates
              ⟨30000000000, 30000000000, 86400000000000, 500, 500, 100⟩) .done =
            some ({ final with pc := .returned }, .returned)) ∧
      ∃ final happened,
        Housekeeping.attachDeactivateCandidates
            ⟨30000000000, 30000000000, 86400000000000, 500, 500, 100⟩ Attach.start
            [.stop, .sweep oneIdleClient, .fire, .after, .sweep oneIdleClient] =
          some (final, happened) ∧
        happened.countP Happened.isSweep ≤
          1 + happened.countP Happened.isFailedSweep + happened.countP Happened.isFired ∧
        final.ctxDone = true ∧
        ∀ fired, final.pc = .select fired →
          final.step (Housekeeping.deactivateCandidates
              ⟨30000000000, 30000000000, 86400000000000, 500, 500, 100⟩) .done =
            some ({ final with pc := .returned }, .returned) :=
  ⟨⟨_, _, rfl, Attach.attach_after_stop
      (Housekeeping.deactivateCandidates ⟨30000000000, 30000000000, 86400000000000, 500, 500, 100⟩)
      Attach.start [.sweep oneIdleClient] _ _ rfl⟩,
    ⟨_, _, rfl, Attach.attach_after_stop
      (Housekeeping.deactivateCandidates ⟨30000000000, 30000000000, 86400000000000, 500, 500, 100⟩)
      Attach.start [.sweep oneIdleClient, .fire, .after, .sweep oneIdleClient] _ _ rfl⟩⟩

/-- After `Stop`, a sweep that fails is retried at once, and the retry takes the lock and
deactivates a client: two sweeps start after `Stop`, and one of them writes to the store. -/
theorem attachDeactivateCandidates_sweeps_after_stop :
    ((Housekeeping.attachDeactivateCandidates
          ⟨30000000000, 30000000000, 86400000000000, 500, 500, 100⟩ Attach.start
          [.stop, .sweep unreachable, .sweep oneIdleClient]).map fun ran =>
        (ran.2.countP Happened.isSweep, ran.2.any Happened.wroteStore)) = some (2, true) := by
  decide

end Yorkie
