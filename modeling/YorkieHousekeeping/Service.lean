import YorkieHousekeeping.SharedInterval

/-!
Starting and stopping the service.

`New` parses the configuration's duration strings with `time.ParseDuration`, in the order of
its fields, and stops at the first that does not parse, with an error that names the field and
its text: `fmt.Errorf("parse <field> %s: %w", text, err)`.  The integer fields are copied
unread.  `time.ParseDuration` is Go's and is not under src/: it is a parameter here, so what is
proved holds whatever durations it accepts.  `Start` is `New` and then `(*Housekeeping).Start`,
which spawns the two `Attach…` loops and returns `nil`.

The spawned loops share `h.ctx` and the process.  `Service.step` interleaves them: a move of
either loop, or `Stop`, which cancels the one `ctx` of both; a sweep that panics ends the
process, and nothing happens after it.  Seen from one loop, every run of the service is a run
of that loop alone (`Service.exec_loop`), so what holds of one `Attach…` loop holds of it
inside the service.
-/

namespace Yorkie

/-! ### `New` and `Start` -/

/-- `housekeeping.Config`, the fields `New` reads (the type is not under src/). -/
structure Config where
  intervalDeactivateCandidates : String
  intervalDeleteDocuments : String
  documentHardDeletionGracefulPeriod : String
  clientDeactivationCandidateLimitPerProject : Int
  documentHardDeletionCandidateLimitPerProject : Int
  projectFetchSize : Int

structure Shared.Config where
  interval : String
  candidatesLimitPerProject : Int
  projectFetchSize : Int

def Config.durations (conf : Config) : List (String × String) :=
  [("intervalDeactivateCandidates", conf.intervalDeactivateCandidates),
    ("intervalDeleteDocuments", conf.intervalDeleteDocuments),
    ("documentHardDeletionGracefulPeriod", conf.documentHardDeletionGracefulPeriod)]

def Shared.Config.durations (conf : Shared.Config) : List (String × String) :=
  [("interval", conf.interval)]

section Parse

variable (parseDuration : String → Except Error Duration)

/-- One duration of `New`: `time.ParseDuration(text)`, and on failure
`fmt.Errorf("parse <field> %s: %w", text, err)`. -/
def parseField (field text : String) : Except Error Duration :=
  match parseDuration text with
  | .error err => .error ("parse " ++ field ++ " " ++ text ++ ": " ++ err)
  | .ok duration => .ok duration

/-- `New` of `housekeeping.go`, with `time.ParseDuration` as `parseDuration`. -/
def Housekeeping.new (conf : Config) : Except Error Housekeeping := do
  let intervalDeactivateCandidates ←
    parseField parseDuration "intervalDeactivateCandidates" conf.intervalDeactivateCandidates
  let intervalDeleteDocuments ←
    parseField parseDuration "intervalDeleteDocuments" conf.intervalDeleteDocuments
  let documentHardDeletionGracefulPeriod ← parseField parseDuration
    "documentHardDeletionGracefulPeriod" conf.documentHardDeletionGracefulPeriod
  pure
    { intervalDeactivateCandidates := intervalDeactivateCandidates
      intervalDeleteDocuments := intervalDeleteDocuments
      documentHardDeletionGracefulPeriod := documentHardDeletionGracefulPeriod
      clientDeactivationCandidateLimitPerProject := conf.clientDeactivationCandidateLimitPerProject
      documentHardDeletionCandidateLimitPerProject :=
        conf.documentHardDeletionCandidateLimitPerProject
      projectFetchSize := conf.projectFetchSize }

def Shared.Housekeeping.new (conf : Shared.Config) : Except Error Shared.Housekeeping := do
  let interval ← parseField parseDuration "interval" conf.interval
  pure
    { interval := interval
      candidatesLimitPerProject := conf.candidatesLimitPerProject
      projectFetchSize := conf.projectFetchSize }

/-- What `New` does with its duration fields, as one loop: parse them in order and stop at
the first that fails. -/
def parseFields : List (String × String) → Except Error (List Duration)
  | [] => .ok []
  | (field, text) :: fields => do
      let duration ← parseField parseDuration field text
      let durations ← parseFields fields
      pure (duration :: durations)

@[simp] theorem parseField_ok (field text : String) (duration : Duration) :
    parseField parseDuration field text = .ok duration ↔ parseDuration text = .ok duration := by
  unfold parseField
  cases parseDuration text <;> simp

@[simp] theorem parseField_error (field text : String) (msg : Error) :
    parseField parseDuration field text = .error msg ↔
      ∃ err, parseDuration text = .error err ∧ msg = "parse " ++ field ++ " " ++ text ++ ": " ++ err := by
  unfold parseField
  cases parseDuration text <;> simp [eq_comm]

theorem parseFields_cons_error {field text : String} {fields : List (String × String)}
    {err : Error} (failed : parseDuration text = .error err) :
    parseFields parseDuration ((field, text) :: fields) =
      .error ("parse " ++ field ++ " " ++ text ++ ": " ++ err) := by
  simp only [parseFields, parseField, failed]
  rfl

theorem parseFields_cons_ok {field text : String} {fields : List (String × String)}
    {duration : Duration} (parsed : parseDuration text = .ok duration) (msg : Error) :
    parseFields parseDuration ((field, text) :: fields) = .error msg ↔
      parseFields parseDuration fields = .error msg := by
  simp only [parseFields, parseField, parsed]
  cases parseFields parseDuration fields <;> simp [bind, Except.bind, pure, Except.pure]

theorem parseFields_error (fields : List (String × String)) (msg : Error) :
    parseFields parseDuration fields = .error msg ↔
      ∃ before field text after err, fields = before ++ (field, text) :: after ∧
        (∀ parsed ∈ before, ∃ duration, parseDuration parsed.2 = .ok duration) ∧
        parseDuration text = .error err ∧ msg = "parse " ++ field ++ " " ++ text ++ ": " ++ err := by
  induction fields with
  | nil => simp [parseFields]
  | cons first fields ih =>
      obtain ⟨field, text⟩ := first
      cases parsed : parseDuration text with
      | error err =>
          rw [parseFields_cons_error parseDuration parsed]
          constructor
          · rintro ⟨⟩
            exact ⟨[], field, text, fields, err, rfl, by simp, parsed, rfl⟩
          · rintro ⟨_ | ⟨_, before⟩, field', text', after, err', split, parsedBefore, failed, rfl⟩
            · cases split
              rw [parsed] at failed
              cases failed
              rfl
            · cases split
              obtain ⟨_, okFirst⟩ := parsedBefore _ (List.mem_cons_self _ _)
              rw [parsed] at okFirst
              cases okFirst
      | ok duration =>
          rw [parseFields_cons_ok parseDuration parsed, ih]
          constructor
          · rintro ⟨before, field', text', after, err', rfl, parsedBefore, failed, rfl⟩
            exact ⟨(field, text) :: before, field', text', after, err', rfl,
              List.forall_mem_cons.mpr ⟨⟨duration, parsed⟩, parsedBefore⟩, failed, rfl⟩
          · rintro ⟨_ | ⟨_, before⟩, field', text', after, err', split, parsedBefore, failed, rfl⟩
            · cases split
              rw [parsed] at failed
              cases failed
            · cases split
              exact ⟨before, field', text', after, err', rfl,
                fun parsed member => parsedBefore parsed (List.mem_cons_of_mem _ member), failed, rfl⟩

theorem Housekeeping.new_error (conf : Config) (msg : Error) :
    Housekeeping.new parseDuration conf = .error msg ↔
      parseFields parseDuration conf.durations = .error msg := by
  simp only [Housekeeping.new, Config.durations, parseFields, parseField]
  cases parseDuration conf.intervalDeactivateCandidates <;>
    cases parseDuration conf.intervalDeleteDocuments <;>
    cases parseDuration conf.documentHardDeletionGracefulPeriod <;>
    simp [bind, Except.bind, pure, Except.pure]

theorem Housekeeping.new_ok (conf : Config) (h : Housekeeping) :
    Housekeeping.new parseDuration conf = .ok h ↔
      parseDuration conf.intervalDeactivateCandidates = .ok h.intervalDeactivateCandidates ∧
        parseDuration conf.intervalDeleteDocuments = .ok h.intervalDeleteDocuments ∧
        parseDuration conf.documentHardDeletionGracefulPeriod =
          .ok h.documentHardDeletionGracefulPeriod ∧
        conf.clientDeactivationCandidateLimitPerProject = h.clientDeactivationCandidateLimitPerProject ∧
        conf.documentHardDeletionCandidateLimitPerProject =
          h.documentHardDeletionCandidateLimitPerProject ∧
        conf.projectFetchSize = h.projectFetchSize := by
  obtain ⟨_, _, _, _, _, _⟩ := h
  simp only [Housekeeping.new, parseField]
  cases parseDuration conf.intervalDeactivateCandidates <;>
    cases parseDuration conf.intervalDeleteDocuments <;>
    cases parseDuration conf.documentHardDeletionGracefulPeriod <;>
    simp [bind, Except.bind, pure, Except.pure]

theorem Shared.Housekeeping.new_error (conf : Shared.Config) (msg : Error) :
    Shared.Housekeeping.new parseDuration conf = .error msg ↔
      parseFields parseDuration conf.durations = .error msg := by
  simp only [Shared.Housekeeping.new, Shared.Config.durations, parseFields, parseField]
  cases parseDuration conf.interval <;> simp [bind, Except.bind, pure, Except.pure]

theorem Shared.Housekeeping.new_ok (conf : Shared.Config) (h : Shared.Housekeeping) :
    Shared.Housekeeping.new parseDuration conf = .ok h ↔
      parseDuration conf.interval = .ok h.interval ∧
        conf.candidatesLimitPerProject = h.candidatesLimitPerProject ∧
        conf.projectFetchSize = h.projectFetchSize := by
  obtain ⟨_, _, _⟩ := h
  simp only [Shared.Housekeeping.new, parseField]
  cases parseDuration conf.interval <;> simp [bind, Except.bind, pure, Except.pure]

/-- `New` fails exactly at the first of its durations, in the order of `Config`'s fields, that
`time.ParseDuration` rejects, and its error names that field and the text it was given. -/
theorem Housekeeping.new_fails_at_first (conf : Config) (msg : Error) :
    Housekeeping.new parseDuration conf = .error msg ↔
      ∃ before field text after err, conf.durations = before ++ (field, text) :: after ∧
        (∀ parsed ∈ before, ∃ duration, parseDuration parsed.2 = .ok duration) ∧
        parseDuration text = .error err ∧ msg = "parse " ++ field ++ " " ++ text ++ ": " ++ err :=
  (Housekeeping.new_error parseDuration conf msg).trans (parseFields_error parseDuration _ msg)

end Parse

/-! ### The two loops of a started service -/

inductive Side where
  | deactivation
  | deletion
deriving DecidableEq, Repr

/-- A started service: where its two `Attach…` loops stand. -/
structure Service where
  deactivation : Attach
  deletion : Attach
deriving DecidableEq, Repr

inductive Turn where
  | loop (side : Side) (move : Move)
  | stop

def Turn.movesOf (side : Side) : Turn → Option Move
  | .loop side' move => if side' = side then some move else none
  | .stop => some .stop

def Move.isStop : Move → Bool
  | .stop => true
  | _ => false

def Pc.isPanicked : Pc → Bool
  | .panicked _ => true
  | _ => false

namespace Service

def spawned : Service := ⟨Attach.start, Attach.start⟩

def loop (s : Service) : Side → Attach
  | .deactivation => s.deactivation
  | .deletion => s.deletion

def set (s : Service) : Side → Attach → Service
  | .deactivation, a => { s with deactivation := a }
  | .deletion, a => { s with deletion := a }

@[simp] theorem loop_set_same (s : Service) (side : Side) (a : Attach) :
    (s.set side a).loop side = a := by
  cases side <;> rfl

@[simp] theorem loop_set_other (s : Service) {side side' : Side} (a : Attach)
    (other : side' ≠ side) : (s.set side' a).loop side = s.loop side := by
  cases side <;> cases side' <;> first | rfl | exact absurd rfl other

def alive (s : Service) : Bool :=
  !(s.deactivation.pc.isPanicked || s.deletion.pc.isPanicked)

def cancelled (s : Service) : Service :=
  ⟨{ s.deactivation with ctxDone := true }, { s.deletion with ctxDone := true }⟩

@[simp] theorem loop_cancelled (s : Service) (side : Side) :
    s.cancelled.loop side = { s.loop side with ctxDone := true } := by
  cases side <;> rfl

variable (deactivate delete : ID → Prog (ID × Option Error))

def sweepOf : Side → ID → Prog (ID × Option Error)
  | .deactivation => deactivate
  | .deletion => delete

/-- One turn, while the process runs: a move of one loop (its `ctx` is cancelled by `Stop`
alone), or `Stop`; `none` when the turn cannot happen. -/
def step (s : Service) : Turn → Option Service
  | .loop side move =>
      if s.alive && !move.isStop then
        ((s.loop side).step (sweepOf deactivate delete side) move).map fun stepped =>
          s.set side stepped.1
      else none
  | .stop => if s.alive then some s.cancelled else none

def exec (s : Service) : List Turn → Option Service
  | [] => some s
  | turn :: turns => (s.step deactivate delete turn).bind fun next => next.exec turns

theorem step_cases {s next : Service} {turn : Turn}
    (stepped : s.step deactivate delete turn = some next) :
    s.alive = true ∧
      ((∃ side move happened, turn = .loop side move ∧ move.isStop = false ∧
          (s.loop side).step (sweepOf deactivate delete side) move =
            some (next.loop side, happened) ∧ next = s.set side (next.loop side)) ∨
        (turn = .stop ∧ next = s.cancelled)) := by
  cases turn with
  | loop side move =>
      simp only [step] at stepped
      split_ifs at stepped with running
      obtain ⟨alive, notStop⟩ := Bool.and_eq_true_iff.mp running
      obtain ⟨⟨moved, happened⟩, movedStep, rfl⟩ := Option.map_eq_some'.mp stepped
      refine ⟨alive, .inl ⟨side, move, happened, rfl, by simpa using notStop, ?_, by simp⟩⟩
      simpa using movedStep
  | stop =>
      simp only [step] at stepped
      split_ifs at stepped with alive
      cases stepped
      exact ⟨alive, .inr ⟨rfl, rfl⟩⟩

theorem exec_cons {s s' : Service} {turn : Turn} {turns : List Turn}
    (ran : s.exec deactivate delete (turn :: turns) = some s') :
    ∃ next, s.step deactivate delete turn = some next ∧ next.exec deactivate delete turns = some s' :=
  Option.bind_eq_some.mp ran

/-- Seen from one loop, a run of the service is a run of that loop alone, on its own moves
and every `Stop`. -/
theorem exec_loop (side : Side) {turns : List Turn} :
    ∀ {s s' : Service}, s.exec deactivate delete turns = some s' →
      ∃ happened, (s.loop side).exec (sweepOf deactivate delete side)
          (turns.filterMap (Turn.movesOf side)) = some (s'.loop side, happened) := by
  induction turns with
  | nil =>
      intro s s' ran
      cases ran
      exact ⟨[], rfl⟩
  | cons turn turns ih =>
      intro s s' ran
      obtain ⟨next, stepped, ranRest⟩ := exec_cons deactivate delete ran
      obtain ⟨rest, restRun⟩ := ih ranRest
      rcases (step_cases deactivate delete stepped).2 with
        ⟨side', move, happened, rfl, -, moved, atNext⟩ | ⟨rfl, rfl⟩
      · by_cases same : side' = side
        · subst same
          refine ⟨happened :: rest, ?_⟩
          simp only [List.filterMap_cons, Turn.movesOf, if_true]
          exact Attach.exec_cons_of_step _ moved restRun
        · have untouched : next.loop side = s.loop side := by
            rw [atNext, loop_set_other _ _ same]
          refine ⟨rest, ?_⟩
          simp only [List.filterMap_cons, Turn.movesOf, same, if_false]
          rwa [← untouched]
      · refine ⟨.stopped :: rest, ?_⟩
        simp only [List.filterMap_cons, Turn.movesOf]
        exact Attach.exec_cons_of_step _ (by simp [Attach.step]) restRun

theorem deletion_loop_alone :
    ∃ s, spawned.exec (Housekeeping.deactivateCandidates
          ⟨30000000000, 30000000000, 86400000000000, 500, 500, 100⟩)
        (Housekeeping.deleteDocument ⟨30000000000, 30000000000, 86400000000000, 500, 500, 100⟩)
        [.loop .deactivation (.sweep oneIdleClient), .loop .deletion (.sweep unreachable), .stop,
          .loop .deactivation .fire] = some s ∧
      ∃ happened, (spawned.loop .deletion).exec
          (sweepOf (Housekeeping.deactivateCandidates
              ⟨30000000000, 30000000000, 86400000000000, 500, 500, 100⟩)
            (Housekeeping.deleteDocument ⟨30000000000, 30000000000, 86400000000000, 500, 500, 100⟩)
            .deletion)
          ([.loop .deactivation (.sweep oneIdleClient), .loop .deletion (.sweep unreachable), .stop,
            .loop .deactivation .fire].filterMap (Turn.movesOf .deletion)) =
        some (s.loop .deletion, happened) :=
  ⟨_, rfl, exec_loop _ _ .deletion rfl⟩

end Service


/-! ### `Stop` against a refusing lock service -/

/-- The coordinator refuses every `Lock`, as an unreachable one does.  The loops sweep under a
fresh `context.Background()`, so `Stop` itself does not make `Lock` fail; it only closes
`h.ctx.Done()`, which the loop reads in its `select` alone. -/
def Env.RefusesLock (env : Env) : Prop :=
  ∀ history locker, ∃ err, env history (.lock locker) = .error err

theorem Entry.sweep_refused (e : Entry) (cursor : ID) {env : Env} (refuses : env.RefusesLock) :
    ∃ err, ((e.sweep cursor).run env []).outcome = .returned (defaultProjectID, some err) := by
  rw [e.sweep_eq, withLocker_outcome]
  cases env [] (.newLocker e.key) with
  | error err => exact ⟨err, rfl⟩
  | ok locker =>
      obtain ⟨err, refused⟩ := refuses ([] ++ [⟨.newLocker e.key, .ok locker⟩]) locker
      simp only [refused]
      exact ⟨err, rfl⟩

/-- `Stop` does not end a loop that is at the top of its `for` while the lock service refuses
`Lock`: after `Stop`, every run of it stays there, cancelled, with the cursor it had, and every
sweep it starts fails; and it can start any number of them. -/
theorem Entry.attach_spins_after_stop (e : Entry) (s : Attach) (atSweep : s.pc = .sweep) :
    (∀ moves final happened, (∀ env, Move.sweep env ∈ moves → env.RefusesLock) →
        s.exec e.sweep (.stop :: moves) = some (final, happened) →
        final.ctxDone = true ∧ final.pc = .sweep ∧
          final.housekeepingLastProjectID = s.housekeepingLastProjectID ∧
          happened.countP Happened.isSweep = happened.countP Happened.isFailedSweep) ∧
      ∀ n env, env.RefusesLock → ∃ final happened,
        s.exec e.sweep (.stop :: List.replicate n (.sweep env)) = some (final, happened) ∧
          happened.countP Happened.isSweep = n := by
  have stopped : s.step e.sweep .stop = some ({ s with ctxDone := true }, .stopped) := rfl
  refine ⟨fun moves final happened refusing ran => ?_, fun n env refuses => ?_⟩
  · obtain ⟨next, first, rest, stepped, ranRest, -⟩ := Attach.exec_cons _ s _ moves final _ ran
    rw [stopped] at stepped
    obtain ⟨rfl, rfl⟩ := Prod.mk.inj (Option.some.inj stepped)
    refine ⟨Attach.exec_ctxDone _ _ moves ranRest rfl, Attach.exec_failing e.sweep
      (fun env member => ?_) atSweep rfl ran⟩
    obtain ⟨err, failed⟩ := e.sweep_refused s.housekeepingLastProjectID
      (refusing env ((List.mem_cons.mp member).resolve_left Move.noConfusion))
    exact ⟨_, err, failed⟩
  · obtain ⟨err, failed⟩ := e.sweep_refused s.housekeepingLastProjectID refuses
    refine ⟨_, _, Attach.exec_cons_of_step e.sweep stopped
      (Attach.exec_replicate_failing e.sweep (s := { s with ctxDone := true }) atSweep failed n), ?_⟩
    simp [List.countP_replicate, Happened.isSweep]

theorem Entry.deactivation_spins_after_stop :
    Attach.start.pc = .sweep ∧ unreachable.RefusesLock ∧
      ∃ final happened,
        Attach.start.exec (Entry.deactivateCandidates
            ⟨30000000000, 30000000000, 86400000000000, 500, 500, 100⟩).sweep
          (.stop :: List.replicate 3 (.sweep unreachable)) = some (final, happened) ∧
        happened.countP Happened.isSweep = 3 ∧ final.ctxDone = true ∧ final.pc = .sweep ∧
        final.housekeepingLastProjectID = Attach.start.housekeepingLastProjectID := by
  have refuses : unreachable.RefusesLock := fun _ _ => ⟨_, rfl⟩
  have spins := Entry.attach_spins_after_stop
    (.deactivateCandidates ⟨30000000000, 30000000000, 86400000000000, 500, 500, 100⟩) Attach.start rfl
  obtain ⟨final, happened, ran, swept⟩ := spins.2 3 unreachable refuses
  obtain ⟨cancelled, atSweep, atCursor, -⟩ := spins.1 _ final happened (fun env member =>
    Move.sweep.inj (List.eq_of_mem_replicate member) ▸ refuses) ran
  exact ⟨rfl, refuses, final, happened, ran, swept, cancelled, atSweep, atCursor⟩

/-! ### `Start` -/

def Housekeeping.start (_ : Housekeeping) : Except Error Service := .ok Service.spawned

def Shared.Housekeeping.start (_ : Shared.Housekeeping) : Except Error Service :=
  .ok Service.spawned

section Start

variable (parseDuration : String → Except Error Duration)

def Config.start (conf : Config) : Except Error (Housekeeping × Service) := do
  let h ← Housekeeping.new parseDuration conf
  let service ← h.start
  pure (h, service)

def Shared.Config.start (conf : Shared.Config) : Except Error (Shared.Housekeeping × Service) := do
  let h ← Shared.Housekeeping.new parseDuration conf
  let service ← h.start
  pure (h, service)

theorem Config.start_eq (conf : Config) :
    conf.start parseDuration =
      (Housekeeping.new parseDuration conf).map fun h => (h, Service.spawned) := by
  simp only [Config.start, Housekeeping.start]
  cases Housekeeping.new parseDuration conf <;> rfl

theorem Shared.Config.start_eq (conf : Shared.Config) :
    conf.start parseDuration =
      (Shared.Housekeeping.new parseDuration conf).map fun h => (h, Service.spawned) := by
  simp only [Shared.Config.start, Shared.Housekeeping.start]
  cases Shared.Housekeeping.new parseDuration conf <;> rfl

end Start

end Yorkie
