import YorkieHousekeeping.Entries

/-!
The shared-interval housekeeping of part_000.

This version of package `housekeeping` runs both loops on one `interval` and lets the store
page and collect the candidates (`FindDeactivateCandidates`, `FindHardDeletionCandidates`).
Its `deactivateCandidates` is `sweep` again, around the store's search.  Its
`documentHardDeletion` is not: it has no log line, and it returns the ID that
`HardDeletion` returns in place of the search's cursor (`documentHardDeletion_returns`),
and the loop adopts it; so a store whose `HardDeletion` answers `database.DefaultProjectID`
sends every search of a run back to the start of the cycle.
-/

namespace Yorkie

namespace Shared

/-- `housekeeping.Housekeeping` of part_000: its configuration. -/
structure Housekeeping where
  interval : Duration
  candidatesLimitPerProject : Int
  projectFetchSize : Int

/-- A candidate search made by the store in one call: its cursor and candidates, or its
error, which the callers return without reading the rest. -/
def storeSearch {τ : Ty} (search : Call (.pair .id (.list τ))) :
    Prog (ID × List τ.denote × Option Error) := do
  match ← Prog.issue search with
  | .error err => pure (defaultProjectID, [], some err)
  | .ok (lastProjectID, candidates) => pure (lastProjectID, candidates, none)

namespace Housekeeping

def deactivateCandidatesKey : String := "housekeeping/deactivateCandidates"

def hardDeletionLockKey : String := "housekeeping/hardDeletionLock"

def deactivateCandidates (h : Housekeeping) (housekeepingLastProjectID : ID) :
    Prog (ID × Option Error) :=
  sweep deactivateCandidatesKey
    (storeSearch
      (.findDeactivateCandidates h.candidatesLimitPerProject h.projectFetchSize
        housekeepingLastProjectID))
    (fun candidates => deactivateAll candidates 0)
    "HSKP: candidates %d, deactivated %d, %s"

def hardDeletionBody (h : Housekeeping) (housekeepingLastProjectID : ID) :
    Prog (ID × Option Error) := do
  let (_, candidates, err) ← storeSearch
    (.findHardDeletionCandidates h.candidatesLimitPerProject h.projectFetchSize
      housekeepingLastProjectID)
  match err with
  | some err => pure (defaultProjectID, some err)
  | none =>
      match ← Prog.issue (.hardDeletion candidates) with
      | .error err => pure (defaultProjectID, some err)
      | .ok lastProjectID => pure (lastProjectID, none)

/-- `Housekeeping.documentHardDeletion` -/
def documentHardDeletion (h : Housekeeping) (housekeepingLastProjectID : ID) :
    Prog (ID × Option Error) :=
  withLocker hardDeletionLockKey (h.hardDeletionBody housekeepingLastProjectID)

def attachDeactivateCandidates (h : Housekeeping) :
    Attach → List Move → Option (Attach × List Happened) :=
  Attach.exec h.deactivateCandidates

def attachDocumentHardDeletion (h : Housekeeping) :
    Attach → List Move → Option (Attach × List Happened) :=
  Attach.exec h.documentHardDeletion

end Housekeeping

/-! ### Where the deletion loop's cursor comes from -/

/-- The exits of `hardDeletionBody`: the search fails, `HardDeletion` fails, or
`HardDeletion` answers an ID, which the body returns. -/
inductive HardDeleted (search : Call (.pair .id (.list .docInfo))) :
    List Event → Outcome (ID × Option Error) → Prop
  | searchFailed (err : Error) :
      HardDeleted search [⟨search, .error err⟩] (.returned (defaultProjectID, some err))
  | deletionFailed (lastProjectID : ID) (candidates : List DocInfo) (err : Error) :
      HardDeleted search
        [⟨search, .ok (lastProjectID, candidates)⟩, ⟨.hardDeletion candidates, .error err⟩]
        (.returned (defaultProjectID, some err))
  | deleted (lastProjectID : ID) (candidates : List DocInfo) (returned : ID) :
      HardDeleted search
        [⟨search, .ok (lastProjectID, candidates)⟩, ⟨.hardDeletion candidates, .ok returned⟩]
        (.returned (returned, none))

theorem hardDeletionBody_run (env : Env) (h : Housekeeping) (cursor : ID)
    (history : List Event) :
    HardDeleted (.findHardDeletionCandidates h.candidatesLimitPerProject h.projectFetchSize cursor)
      ((h.hardDeletionBody cursor).run env history).events
      ((h.hardDeletionBody cursor).run env history).outcome := by
  simp only [Housekeeping.hardDeletionBody, storeSearch, Prog.bind_eq, Prog.issue_bind,
    Prog.call_bind, Prog.run_call_events, Prog.run_call_outcome]
  cases env history
      (.findHardDeletionCandidates h.candidatesLimitPerProject h.projectFetchSize cursor) with
  | error err => exact .searchFailed err
  | ok found =>
      obtain ⟨lastProjectID, candidates⟩ := found
      simp only [Prog.pure_eq, Prog.pure_bind, Prog.run_call_events, Prog.run_call_outcome]
      cases env _ (.hardDeletion candidates) with
      | error err => exact .deletionFailed lastProjectID candidates err
      | ok returned => exact .deleted lastProjectID candidates returned

theorem documentHardDeletion_run (env : Env) (h : Housekeeping) (cursor : ID)
    (history : List Event) :
    Locked Housekeeping.hardDeletionLockKey
      (HardDeleted (.findHardDeletionCandidates h.candidatesLimitPerProject h.projectFetchSize cursor))
      ((h.documentHardDeletion cursor).run env history).events
      ((h.documentHardDeletion cursor).run env history).outcome :=
  withLocker_run env _ _ _ (hardDeletionBody_run env h cursor) history

theorem documentHardDeletion_returns (h : Housekeeping) (cursor : ID) (env : Env) {next : ID}
    (succeeded : ((h.documentHardDeletion cursor).run env []).outcome = .returned (next, none)) :
    ∃ lastProjectID candidates,
      (⟨.findHardDeletionCandidates h.candidatesLimitPerProject h.projectFetchSize cursor,
          .ok (lastProjectID, candidates)⟩ : Event) ∈
        ((h.documentHardDeletion cursor).run env []).events ∧
      (⟨.hardDeletion candidates, .ok next⟩ : Event) ∈
        ((h.documentHardDeletion cursor).run env []).events := by
  have spec := documentHardDeletion_run env h cursor []
  rw [succeeded] at spec
  generalize ((h.documentHardDeletion cursor).run env []).events = events at spec ⊢
  cases spec with
  | locked locker body unlocked _ deleted =>
      cases deleted with
      | deleted lastProjectID candidates _ => exact ⟨lastProjectID, candidates, by simp, by simp⟩

/-- Stores whose `HardDeletion` answers `database.DefaultProjectID` whenever it succeeds. -/
def Env.HardDeletionResets (env : Env) : Prop :=
  ∀ history candidates returned,
    env history (.hardDeletion candidates) = .ok returned → returned = defaultProjectID

theorem step_restarts (h : Housekeeping) {s next : Attach} {move : Move} {happened : Happened}
    (resets : ∀ env, move = .sweep env → Env.HardDeletionResets env)
    (atDefault : s.housekeepingLastProjectID = defaultProjectID)
    (stepped : s.step h.documentHardDeletion move = some (next, happened)) :
    next.housekeepingLastProjectID = defaultProjectID := by
  rcases Attach.step_keeps_cursor _ stepped with ⟨env, rfl, -, rfl, -⟩ | ⟨same, -⟩
  · rcases succeeded : ((h.documentHardDeletion s.housekeepingLastProjectID).run env []).outcome
      with ⟨next, _ | err⟩ | reason
    · obtain ⟨-, candidates, -, deletedIn⟩ := documentHardDeletion_returns h _ env succeeded
      obtain ⟨earlier, replied⟩ := Prog.answered_of_mem env [] _ deletedIn
      exact resets env rfl earlier candidates next replied.symm
    all_goals exact atDefault
  · rw [same, atDefault]

/-- Every run of part_000's `AttachDocumentHardDeletion` against stores whose `HardDeletion`
answers `database.DefaultProjectID`, whatever else fails: every sweep of the run searches
from `database.DefaultProjectID`, so the search never gets past its first page. -/
theorem attachDocumentHardDeletion_restarts (h : Housekeeping) (moves : List Move)
    (final : Attach) (happened : List Happened)
    (resets : ∀ env, Move.sweep env ∈ moves → Env.HardDeletionResets env)
    (ran : h.attachDocumentHardDeletion Attach.start moves = some (final, happened)) :
    ∀ cursor run, Happened.swept cursor run ∈ happened → cursor = defaultProjectID := by
  suffices ∀ (s : Attach) happened, s.housekeepingLastProjectID = defaultProjectID →
      s.exec h.documentHardDeletion moves = some (final, happened) →
      ∀ cursor run, Happened.swept cursor run ∈ happened → cursor = defaultProjectID from
    this _ _ rfl ran
  clear ran happened
  induction moves with
  | nil =>
      intro s happened _ ran cursor run member
      cases ran
      cases member
  | cons move moves ih =>
      intro s happened atDefault ran cursor run member
      obtain ⟨next, first, rest, stepped, ranRest, rfl⟩ :=
        Attach.exec_cons _ s move moves final _ ran
      have nextAtDefault := step_restarts h (fun env isSweep => resets env (isSweep ▸ List.mem_cons_self _ _))
        atDefault stepped
      rcases List.mem_cons.mp member with rfl | inRest
      · rcases Attach.step_keeps_cursor _ stepped with ⟨env, -, -, -, swept⟩ | ⟨-, notSwept⟩
        · cases swept
          exact atDefault
        · exact absurd rfl (notSwept cursor run)
      · exact ih (fun env member => resets env (List.mem_cons_of_mem _ member)) next rest
          nextAtDefault ranRest cursor run inRest

def pagedStore : Env := fun _ {τ} call =>
  match τ, call with
  | _, .newLocker key => .ok ⟨key, 0⟩
  | _, .lock _ => .ok ()
  | _, .unlock _ => .ok ()
  | _, .findHardDeletionCandidates _ _ _ => .ok ("p2", [⟨"p2", "d1"⟩])
  | _, .hardDeletion _ => .ok defaultProjectID
  | _, _ => .error "unexpected call"

theorem pagedStore_restarts :
    Env.HardDeletionResets pagedStore ∧
      ∃ final happened,
        Housekeeping.attachDocumentHardDeletion ⟨60000000000, 100, 100⟩ Attach.start
            [.sweep pagedStore, .fire, .after, .sweep pagedStore] = some (final, happened) ∧
          ∀ cursor run, Happened.swept cursor run ∈ happened → cursor = defaultProjectID :=
  have resets : Env.HardDeletionResets pagedStore := fun _ _ _ replied =>
    (Except.ok.inj replied).symm
  have allReset : ∀ env, Move.sweep env ∈ [.sweep pagedStore, .fire, .after, .sweep pagedStore] →
      Env.HardDeletionResets env := by
    intro env member
    simp only [List.mem_cons, Move.sweep.injEq, List.mem_singleton, List.not_mem_nil,
      reduceCtorEq, false_or, or_false] at member
    rcases member with rfl | rfl <;> exact resets
  ⟨resets, _, _, rfl, attachDocumentHardDeletion_restarts ⟨60000000000, 100, 100⟩ _ _ _ allReset rfl⟩

/-- From cursor `p1`, the search hands back `p2`, but the deletion loop adopts the
`database.DefaultProjectID` that `HardDeletion` answered. -/
theorem documentHardDeletion_drops_search_cursor :
    (Housekeeping.documentHardDeletion ⟨60000000000, 100, 100⟩ "p1").run pagedStore [] =
        ⟨[⟨.newLocker Housekeeping.hardDeletionLockKey, .ok ⟨Housekeeping.hardDeletionLockKey, 0⟩⟩,
          ⟨.lock ⟨Housekeeping.hardDeletionLockKey, 0⟩, .ok ()⟩,
          ⟨.findHardDeletionCandidates 100 100 "p1", .ok ("p2", [⟨"p2", "d1"⟩])⟩,
          ⟨.hardDeletion [⟨"p2", "d1"⟩], .ok defaultProjectID⟩,
          ⟨.unlock ⟨Housekeeping.hardDeletionLockKey, 0⟩, .ok ()⟩],
        .returned (defaultProjectID, none)⟩ ∧
      (Housekeeping.attachDocumentHardDeletion ⟨60000000000, 100, 100⟩ ⟨"p1", .sweep, false⟩
          [.sweep pagedStore]).map (fun ran => ran.1.housekeepingLastProjectID) =
        some defaultProjectID :=
  ⟨rfl, rfl⟩

end Shared

end Yorkie
