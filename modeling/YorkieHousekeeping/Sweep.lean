import YorkieHousekeeping.Effect

/-!
The sweeps of `server/backend/housekeeping/housekeeping.go`.

The file holds two packages.  Package `housekeeping` has the methods
`Housekeeping.deactivateCandidates` and `Housekeeping.DeleteDocument`; package `clients` has
the functions `DeactivateInactives` and `DeleteDocuments`.  Each is the same code with its own
lock key, candidate search, store action and log line, so the code is `sweep` once, and each
of the four is `sweep` applied to the values its source passes.  The same holds one level
down for the four candidate searches, which are `findCandidates` with their own lookup.

`time.Now` and `time.Since` only feed the log line and are not modelled.
-/

namespace Yorkie

def defaultProjectID : ID := "000000000000000000000000"

/-! ### The shared code -/

/-- The cursor rule that closes every candidate search: a short page resets the cursor, a
full one hands on its last project's ID.  `none` is `projects[len(projects)-1]` on an empty
page, a Go runtime panic, reachable only when `projectFetchSize ≤ 0`. -/
def topProjectID (projectFetchSize : Int) (projects : List ProjectInfo) : Option ID :=
  if (projects.length : Int) < projectFetchSize then some defaultProjectID
  else projects.getLast?.map ProjectInfo.id

/-- `for _, project := range projects { infos, err := lookup(project); if err != nil {
return … }; candidates = append(candidates, infos...) }` -/
def appendCandidates {τ : Ty} (lookup : ProjectInfo → Call (.list τ))
    (candidates : List τ.denote) : List ProjectInfo → Prog (Except Error (List τ.denote))
  | [] => pure (.ok candidates)
  | project :: projects => do
      match ← Prog.issue (lookup project) with
      | .error err => pure (.error err)
      | .ok infos => appendCandidates lookup (List.append candidates infos) projects

def findCandidates {τ : Ty} (lookup : ProjectInfo → Call (.list τ)) (projectFetchSize : Int)
    (lastProjectID : ID) : Prog (ID × List τ.denote × Option Error) := do
  match ← Prog.issue (.findNextNCyclingProjectInfos projectFetchSize lastProjectID) with
  | .error err => pure (defaultProjectID, [], some err)
  | .ok projects =>
      match ← appendCandidates lookup [] projects with
      | .error err => pure (defaultProjectID, [], some err)
      | .ok candidates =>
          match topProjectID projectFetchSize projects with
          | none => Prog.abort "index out of range [-1]"
          | some topProjectID => pure (topProjectID, candidates, none)

def unlockLogged (locker : Locker) : Prog Unit := do
  match ← Prog.issue (.unlock locker) with
  | .error err => do
      let _ ← Prog.issue (.logError err)
      pure ()
  | .ok _ => pure ()

/-- The locking every sweep wraps its work in: `NewLocker(ctx, key)` and `locker.Lock(ctx)`,
each failure returned with `database.DefaultProjectID`, then `defer` the logged unlock. -/
def withLocker (key : String) (body : Prog (ID × Option Error)) : Prog (ID × Option Error) := do
  match ← Prog.issue (.newLocker key) with
  | .error err => pure (defaultProjectID, some err)
  | .ok locker =>
      match ← Prog.issue (.lock locker) with
      | .error err => pure (defaultProjectID, some err)
      | .ok _ => body.defer (unlockLogged locker)

/-- `for _, clientInfo := range candidates { if _, err := clients.Deactivate(ctx, db,
clientInfo.RefKey()); err != nil { return … }; deactivatedCount++ }` -/
def deactivateAll : List ClientInfo → Int → Prog (Except Error Int)
  | [], deactivatedCount => pure (.ok deactivatedCount)
  | clientInfo :: candidates, deactivatedCount => do
      match ← Prog.issue (.deactivate clientInfo.refKey) with
      | .error err => pure (.error err)
      | .ok _ => deactivateAll candidates (deactivatedCount + 1)

/-- What a sweep does under its lock: find the candidates, act on the whole batch, log a
non-empty batch, and return the search's cursor. -/
def sweepBody {β : Type} (find : Prog (ID × List β × Option Error))
    (act : List β → Prog (Except Error Int)) (format : String) : Prog (ID × Option Error) := do
  let (lastProjectID, candidates, err) ← find
  match err with
  | some err => pure (defaultProjectID, some err)
  | none =>
      match ← act candidates with
      | .error err => pure (defaultProjectID, some err)
      | .ok count => do
          if 0 < candidates.length then
            let _ ← Prog.issue (.infof format candidates.length count)
          pure (lastProjectID, none)

def sweep {β : Type} (key : String) (find : Prog (ID × List β × Option Error))
    (act : List β → Prog (Except Error Int)) (format : String) : Prog (ID × Option Error) :=
  withLocker key (sweepBody find act format)

/-! ### Package `housekeeping` -/

/-- `housekeeping.Housekeeping`: its configuration.  The database and the coordinator are the
environment a sweep runs against, and `ctx` is the loop's cancellation flag. -/
structure Housekeeping where
  intervalDeactivateCandidates : Duration
  intervalDeleteDocuments : Duration
  documentHardDeletionGracefulPeriod : Duration
  clientDeactivationCandidateLimitPerProject : Int
  documentHardDeletionCandidateLimitPerProject : Int
  projectFetchSize : Int

namespace Housekeeping

def deactivateCandidatesKey : String := "housekeeping/deactivateCandidates"

def documentHardDeletionLockKey : String := "housekeeping/DocumentHardDeletionLock"

def findDeactivateCandidates (clientDeactivationCandidateLimitPerProject projectFetchSize : Int)
    (lastProjectID : ID) : Prog (ID × List ClientInfo × Option Error) :=
  findCandidates
    (fun project =>
      .findDeactivateCandidatesPerProject project clientDeactivationCandidateLimitPerProject)
    projectFetchSize lastProjectID

def findDocumentHardDeletionCandidates (documentHardDeletionCandidateLimitPerProject
    projectFetchSize : Int) (deletedAfterTime : Duration) (lastProjectID : ID) :
    Prog (ID × List DocInfo × Option Error) :=
  findCandidates
    (fun project => .findDocumentHardDeletionCandidatesPerProject project
      documentHardDeletionCandidateLimitPerProject deletedAfterTime)
    projectFetchSize lastProjectID

def deleteDocument (h : Housekeeping) (housekeepingLastProjectID : ID) :
    Prog (ID × Option Error) :=
  sweep documentHardDeletionLockKey
    (findDocumentHardDeletionCandidates h.documentHardDeletionCandidateLimitPerProject
      h.projectFetchSize h.documentHardDeletionGracefulPeriod housekeepingLastProjectID)
    (fun candidates => Prog.issue (.deleteDocument candidates))
    "HSKP: candidates %d, hard deleted %d, %s"

def deactivateCandidates (h : Housekeeping) (housekeepingLastProjectID : ID) :
    Prog (ID × Option Error) :=
  sweep deactivateCandidatesKey
    (findDeactivateCandidates h.clientDeactivationCandidateLimitPerProject h.projectFetchSize
      housekeepingLastProjectID)
    (fun candidates => deactivateAll candidates 0)
    "HSKP: candidates %d, deactivated %d, %s"

end Housekeeping

/-! ### Package `clients` -/

namespace Clients

def documentHardDeletionLockKey : String := "housekeeping/documentHardDeletionLock"

def deactivateCandidatesKey : String := "housekeeping/deactivateCandidates"

def findDeactivateCandidates (clientDeactivationCandidateLimitPerProject projectFetchSize : Int)
    (lastProjectID : ID) : Prog (ID × List ClientInfo × Option Error) :=
  findCandidates
    (fun project =>
      .findDeactivateCandidatesPerProject project clientDeactivationCandidateLimitPerProject)
    projectFetchSize lastProjectID

def deactivateInactives (clientDeactivationCandidateLimitPerProject projectFetchSize : Int)
    (housekeepingLastProjectID : ID) : Prog (ID × Option Error) :=
  sweep deactivateCandidatesKey
    (findDeactivateCandidates clientDeactivationCandidateLimitPerProject projectFetchSize
      housekeepingLastProjectID)
    (fun candidates => deactivateAll candidates 0)
    "HSKP: candidates %d, deactivated %d, %s"

def findDocumentHardDeletionCandidates (documentHardDeletionCandidateLimitPerProject
    projectFetchSize : Int) (deletedAfterTime : Duration) (lastProjectID : ID) :
    Prog (ID × List DocInfo × Option Error) :=
  findCandidates
    (fun project => .findDocumentHardDeletionCandidatesPerProject project
      documentHardDeletionCandidateLimitPerProject deletedAfterTime)
    projectFetchSize lastProjectID

def deleteDocuments (documentHardDeletionCandidateLimitPerProject : Int)
    (documentHardDeletionGracefulPeriod : Duration) (projectFetchSize : Int)
    (housekeepingLastProjectID : ID) : Prog (ID × Option Error) :=
  sweep documentHardDeletionLockKey
    (findDocumentHardDeletionCandidates documentHardDeletionCandidateLimitPerProject
      projectFetchSize documentHardDeletionGracefulPeriod housekeepingLastProjectID)
    (fun candidates => Prog.issue (.deleteDocuments candidates))
    "HSKP: candidates %d, hard deleted %d, %s"

end Clients

/-! ### The entry points -/

inductive Kind where
  | deactivation
  | hardDeletion
deriving DecidableEq, Repr

/-- The sweep entry points of `housekeeping.go`, two for each kind. -/
inductive Entry where
  | deactivateCandidates (h : Housekeeping)
  | deleteDocument (h : Housekeeping)
  | deactivateInactives (clientDeactivationCandidateLimitPerProject projectFetchSize : Int)
  | deleteDocuments (documentHardDeletionCandidateLimitPerProject : Int)
      (documentHardDeletionGracefulPeriod : Duration) (projectFetchSize : Int)

namespace Entry

def kind : Entry → Kind
  | .deactivateCandidates _ | .deactivateInactives .. => .deactivation
  | .deleteDocument _ | .deleteDocuments .. => .hardDeletion

def key : Entry → String
  | .deactivateCandidates _ => Housekeeping.deactivateCandidatesKey
  | .deleteDocument _ => Housekeeping.documentHardDeletionLockKey
  | .deactivateInactives .. => Clients.deactivateCandidatesKey
  | .deleteDocuments .. => Clients.documentHardDeletionLockKey

def sweep : Entry → ID → Prog (ID × Option Error)
  | .deactivateCandidates h => h.deactivateCandidates
  | .deleteDocument h => h.deleteDocument
  | .deactivateInactives limit projectFetchSize =>
      Clients.deactivateInactives limit projectFetchSize
  | .deleteDocuments limit gracefulPeriod projectFetchSize =>
      Clients.deleteDocuments limit gracefulPeriod projectFetchSize

end Entry

end Yorkie
