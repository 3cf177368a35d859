import Mathlib.Logic.Basic
import Mathlib.Data.List.Basic

/-!
External calls of the housekeeping sweeps.

A sweep is Go code that talks to two collaborators: the coordinator's lockers and the
database.  `Prog` is that code with every such call left open: a call names the Go method
and the arguments it is passed, and the rest of the code is a function of the call's
`(value, error)` result.  `Prog.run` plays a program against an `Env`, which answers each
call from everything answered before, so that one statement over all environments covers
every store state and every pattern of failures.

Go's `defer` is `Prog.defer`; a runtime panic is `Prog.abort`, which still runs what was
deferred.  Logging is a call like any other, so a transcript shows what was logged and when.

The Go types keep the fields the sweeps read: `ProjectInfo` its `ID`, `ClientInfo` its project
and client IDs (for `RefKey()`), `DocInfo` what the store is handed back, and `Locker` the key
it locks.  `Error` is a non-nil `error`, and `Duration` is `time.Duration` in nanoseconds.
-/

namespace Yorkie

abbrev ID := String

structure ProjectInfo where
  id : ID
deriving DecidableEq, Repr

structure ClientRefKey where
  projectID : ID
  clientID : ID
deriving DecidableEq, Repr

structure ClientInfo where
  projectID : ID
  id : ID
deriving DecidableEq, Repr

def ClientInfo.refKey (info : ClientInfo) : ClientRefKey := ⟨info.projectID, info.id⟩

structure DocInfo where
  projectID : ID
  id : ID
deriving DecidableEq, Repr

structure Locker where
  key : String
  handle : Nat
deriving DecidableEq, Repr

abbrev Error := String

abbrev Duration := Int

inductive Ty where
  | unit
  | count
  | id
  | locker
  | project
  | clientInfo
  | docInfo
  | list (τ : Ty)
  | pair (σ τ : Ty)
deriving DecidableEq, Repr

def Ty.denote : Ty → Type
  | .unit => Unit
  | .count => Int
  | .id => ID
  | .locker => Locker
  | .project => ProjectInfo
  | .clientInfo => ClientInfo
  | .docInfo => DocInfo
  | .list τ => List τ.denote
  | .pair σ τ => σ.denote × τ.denote

/-- The calls the sweeps make, named after the Go methods, with the arguments the Go code
passes.  The `ctx` argument and the receiver (`h.database`, `be.DB`, `h.coordinator`, the
locker) are left implicit: `deleteDocument` is `h.database.DeleteDocument` and
`deleteDocuments` is `be.DB.DeleteDocuments`; `findDeactivateCandidates`,
`findHardDeletionCandidates` and `hardDeletion` are the shared-interval package's store, which
pages and collects by itself; `infof` drops the elapsed time that its line prints. -/
inductive Call : Ty → Type where
  | newLocker (key : String) : Call .locker
  | lock (locker : Locker) : Call .unit
  | unlock (locker : Locker) : Call .unit
  | findNextNCyclingProjectInfos (pageSize : Int) (lastProjectID : ID) : Call (.list .project)
  | findDeactivateCandidatesPerProject (project : ProjectInfo) (candidatesLimit : Int) :
      Call (.list .clientInfo)
  | findDocumentHardDeletionCandidatesPerProject (project : ProjectInfo) (candidatesLimit : Int)
      (deletedAfterTime : Duration) : Call (.list .docInfo)
  | deactivate (refKey : ClientRefKey) : Call .clientInfo
  | deleteDocument (candidates : List DocInfo) : Call .count
  | deleteDocuments (candidates : List DocInfo) : Call .count
  | findDeactivateCandidates (candidatesLimitPerProject projectFetchSize : Int)
      (lastProjectID : ID) : Call (.pair .id (.list .clientInfo))
  | findHardDeletionCandidates (candidatesLimitPerProject projectFetchSize : Int)
      (lastProjectID : ID) : Call (.pair .id (.list .docInfo))
  | hardDeletion (candidates : List DocInfo) : Call .id
  | infof (format : String) (candidates count : Int) : Call .unit
  | logError (err : Error) : Call .unit

namespace Call

def isLocking {τ : Ty} : Call τ → Bool
  | .newLocker _ | .lock _ | .unlock _ => true
  | _ => false

def isUnlock {τ : Ty} : Call τ → Bool
  | .unlock _ => true
  | _ => false

def isAction {τ : Ty} : Call τ → Bool
  | .deactivate _ | .deleteDocument _ | .deleteDocuments _ | .hardDeletion _ => true
  | _ => false

def isListing {τ : Ty} : Call τ → Bool
  | .findNextNCyclingProjectInfos .. => true
  | _ => false

theorem isUnlock_of_isLocking {τ : Ty} (call : Call τ) (offLock : call.isLocking = false) :
    call.isUnlock = false := by
  cases call <;> first | rfl | cases offLock

end Call

structure Event where
  {τ : Ty}
  call : Call τ
  reply : Except Error τ.denote

def Event.failure (event : Event) : Option Error :=
  match event.reply with
  | .error err => some err
  | .ok _ => none

/-- An environment answers each call, given every answered call before it.  Every store
state, every store implementation and every failure pattern is one environment.  An answer
is a value or an error: as the Go code does, the model takes a call that returns a nil
`error` to return a usable value, never a nil `*ProjectInfo`, `*ClientInfo` or `Locker`, so
the only panic it has is the indexing of an empty page. -/
abbrev Env := List Event → {τ : Ty} → Call τ → Except Error τ.denote

inductive Prog (α : Type) where
  | pure (a : α)
  | call {τ : Ty} (c : Call τ) (k : Except Error τ.denote → Prog α)
  | abort (reason : String)

inductive Outcome (α : Type) where
  | returned (a : α)
  | aborted (reason : String)
deriving DecidableEq, Repr

structure Run (α : Type) where
  events : List Event
  outcome : Outcome α

namespace Prog

variable {α β : Type}

def bind : Prog α → (α → Prog β) → Prog β
  | .pure a, f => f a
  | .call c k, f => .call c fun r => (k r).bind f
  | .abort reason, _ => .abort reason

instance : Monad Prog where
  pure := .pure
  bind := .bind

def issue {τ : Ty} (c : Call τ) : Prog (Except Error τ.denote) := .call c .pure

def defer : Prog α → Prog Unit → Prog α
  | .pure a, deferred => deferred.bind fun _ => .pure a
  | .call c k, deferred => .call c fun r => (k r).defer deferred
  | .abort reason, deferred => deferred.bind fun _ => .abort reason

def rename (σ : {τ : Ty} → Call τ → Call τ) : Prog α → Prog α
  | .pure a => .pure a
  | .call c k => .call (σ c) fun r => (k r).rename σ
  | .abort reason => .abort reason

/-- Play `p` against `env` after `history`. -/
def run (env : Env) : List Event → Prog α → Run α
  | _, .pure a => ⟨[], .returned a⟩
  | _, .abort reason => ⟨[], .aborted reason⟩
  | history, .call c k =>
      let rest := (k (env history c)).run env (history ++ [⟨c, env history c⟩])
      ⟨⟨c, env history c⟩ :: rest.events, rest.outcome⟩

@[simp] theorem pure_eq (a : α) : (Pure.pure a : Prog α) = .pure a := rfl

@[simp] theorem bind_eq (p : Prog α) (f : α → Prog β) : p >>= f = p.bind f := rfl

@[simp] theorem pure_bind (a : α) (f : α → Prog β) : (Prog.pure a).bind f = f a := rfl

@[simp] theorem call_bind {τ : Ty} (c : Call τ) (k : Except Error τ.denote → Prog α)
    (f : α → Prog β) : (Prog.call c k).bind f = .call c fun r => (k r).bind f := rfl

@[simp] theorem abort_bind (reason : String) (f : α → Prog β) :
    (Prog.abort reason : Prog α).bind f = .abort reason := rfl

@[simp] theorem issue_bind {τ : Ty} (c : Call τ) (f : Except Error τ.denote → Prog β) :
    (issue c).bind f = .call c f := rfl

@[simp] theorem run_pure (env : Env) (history : List Event) (a : α) :
    (Prog.pure a).run env history = ⟨[], .returned a⟩ := rfl

@[simp] theorem run_abort (env : Env) (history : List Event) (reason : String) :
    (Prog.abort reason : Prog α).run env history = ⟨[], .aborted reason⟩ := rfl

theorem run_call (env : Env) (history : List Event) {τ : Ty} (c : Call τ)
    (k : Except Error τ.denote → Prog α) :
    (Prog.call c k).run env history =
      ⟨⟨c, env history c⟩ :: ((k (env history c)).run env (history ++ [⟨c, env history c⟩])).events,
        ((k (env history c)).run env (history ++ [⟨c, env history c⟩])).outcome⟩ := rfl

@[simp] theorem run_call_events (env : Env) (history : List Event) {τ : Ty} (c : Call τ)
    (k : Except Error τ.denote → Prog α) :
    ((Prog.call c k).run env history).events =
      ⟨c, env history c⟩ :: ((k (env history c)).run env (history ++ [⟨c, env history c⟩])).events :=
  rfl

@[simp] theorem run_call_outcome (env : Env) (history : List Event) {τ : Ty} (c : Call τ)
    (k : Except Error τ.denote → Prog α) :
    ((Prog.call c k).run env history).outcome =
      ((k (env history c)).run env (history ++ [⟨c, env history c⟩])).outcome := rfl

end Prog

namespace Run

variable {α β : Type}

def andThen (r : Run α) (next : α → Run β) : Run β :=
  match r.outcome with
  | .returned a => ⟨r.events ++ (next a).events, (next a).outcome⟩
  | .aborted reason => ⟨r.events, .aborted reason⟩

@[simp] theorem andThen_returned (events : List Event) (a : α) (next : α → Run β) :
    (Run.mk events (.returned a)).andThen next =
      ⟨events ++ (next a).events, (next a).outcome⟩ := rfl

@[simp] theorem andThen_aborted (events : List Event) (reason : String) (next : α → Run β) :
    (Run.mk events (.aborted reason) : Run α).andThen next = ⟨events, .aborted reason⟩ := rfl

theorem andThen_of_returned {r : Run α} {a : α} (returned : r.outcome = .returned a)
    (next : α → Run β) :
    r.andThen next = ⟨r.events ++ (next a).events, (next a).outcome⟩ := by
  simp only [andThen, returned]

theorem andThen_of_aborted {r : Run α} {reason : String} (aborted : r.outcome = .aborted reason)
    (next : α → Run β) : r.andThen next = ⟨r.events, .aborted reason⟩ := by
  simp only [andThen, aborted]

end Run

namespace Prog

variable {α β : Type}

/-- The run of `p.bind f` is the run of `p` followed by the run of the continuation, which
sees `p`'s calls in its history. -/
theorem run_bind (env : Env) (history : List Event) (p : Prog α) (f : α → Prog β) :
    (p.bind f).run env history =
      (p.run env history).andThen
        (fun a => (f a).run env (history ++ (p.run env history).events)) := by
  induction p generalizing history with
  | pure a => simp [Run.andThen]
  | abort reason => rfl
  | call c k ih =>
      simp only [call_bind, run_call, ih, Run.andThen]
      split <;> simp_all

theorem answered_of_mem (env : Env) (history : List Event) (p : Prog α) {event : Event}
    (member : event ∈ (p.run env history).events) :
    ∃ earlier, event.reply = env earlier event.call := by
  induction p generalizing history with
  | pure a => cases member
  | abort reason => cases member
  | call c k ih =>
      rcases List.mem_cons.mp member with rfl | inRest
      · exact ⟨history, rfl⟩
      · exact ih _ _ inRest

/-- `defer`: the deferred code runs after `p` on both of its exits, and its own result only
matters if it panics. -/
theorem run_defer (env : Env) (history : List Event) (p : Prog α) (deferred : Prog Unit) :
    (p.defer deferred).run env history =
      let body := p.run env history
      let tail := deferred.run env (history ++ body.events)
      ⟨body.events ++ tail.events,
        match tail.outcome with
        | .returned _ => body.outcome
        | .aborted reason => .aborted reason⟩ := by
  induction p generalizing history with
  | pure a =>
      simp only [defer, run_bind, run_pure, List.append_nil, List.nil_append, Run.andThen]
      split <;> simp_all
  | abort reason =>
      simp only [defer, run_bind, run_abort, List.append_nil, List.nil_append, Run.andThen]
      split <;> simp_all
  | call c k ih =>
      simp only [defer, run_call, ih, List.cons_append, List.append_assoc, List.singleton_append,
        List.nil_append]

end Prog

def Env.onUnlock (env : Env) (answer : List Event → Locker → Except Error Unit) : Env :=
  fun history {τ} call =>
    match τ, call with
    | _, .unlock locker => answer history locker
    | _, call => env history call

theorem Env.onUnlock_apply (env : Env) (answer : List Event → Locker → Except Error Unit)
    (history : List Event) {τ : Ty} (call : Call τ) (notUnlock : call.isUnlock = false) :
    env.onUnlock answer history call = env history call := by
  cases call <;> first | rfl | cases notUnlock

@[simp] theorem Env.onUnlock_newLocker (env : Env)
    (answer : List Event → Locker → Except Error Unit) (history : List Event) (key : String) :
    env.onUnlock answer history (.newLocker key) = env history (.newLocker key) := rfl

@[simp] theorem Env.onUnlock_lock (env : Env) (answer : List Event → Locker → Except Error Unit)
    (history : List Event) (locker : Locker) :
    env.onUnlock answer history (.lock locker) = env history (.lock locker) := rfl

/-- A program that makes no `Unlock` call does not see how `Unlock` would be answered. -/
theorem Prog.run_onUnlock {α : Type} (env : Env) (answer : List Event → Locker → Except Error Unit)
    (p : Prog α) (history : List Event)
    (noUnlock : ∀ event ∈ (p.run env history).events, event.call.isUnlock = false) :
    p.run (env.onUnlock answer) history = p.run env history := by
  induction p generalizing history with
  | pure a => rfl
  | abort reason => rfl
  | call c k ih =>
      have first : c.isUnlock = false := noUnlock _ (List.mem_cons_self _ _)
      simp only [Prog.run_call, Env.onUnlock_apply env answer history c first]
      rw [ih _ _ fun event member => noUnlock event (List.mem_cons_of_mem _ member)]

end Yorkie
