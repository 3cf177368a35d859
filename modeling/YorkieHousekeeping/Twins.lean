import YorkieHousekeeping.Entries

/-!
The two packages' copies of each sweep.

`housekeeping.go` holds each sweep twice, as a method of `Housekeeping` and as a function of
package `clients`.  The deactivation copies are one program.  The deletion copies differ in two
names: the key passed to `NewLocker`, whose two spellings differ in the case of one letter, and
the store method that deletes the batch.  Renaming those two calls (`Call.toClients`) turns
`Housekeeping.DeleteDocument` into `clients.DeleteDocuments`, so every run of the second is a
renamed run of the first, with the same cursor and error.
-/

namespace Yorkie

/-! ### Renaming calls -/

/-- The calls of `Housekeeping.DeleteDocument` as `clients.DeleteDocuments` makes them. -/
def Call.toClients {τ : Ty} (call : Call τ) : Call τ :=
  match τ, call with
  | _, .newLocker key =>
      .newLocker (if key = Housekeeping.documentHardDeletionLockKey then
        Clients.documentHardDeletionLockKey else key)
  | _, .deleteDocument candidates => .deleteDocuments candidates
  | _, call => call

def Event.rename (σ : {τ : Ty} → Call τ → Call τ) (event : Event) : Event :=
  ⟨σ event.call, event.reply⟩

def Env.comap (env : Env) (σ : {τ : Ty} → Call τ → Call τ) : Env :=
  fun history _ call => env (history.map (Event.rename σ)) (σ call)

@[simp] theorem Event.rename_mk (σ : {τ : Ty} → Call τ → Call τ) {τ : Ty} (call : Call τ)
    (reply : Except Error τ.denote) : Event.rename σ ⟨call, reply⟩ = ⟨σ call, reply⟩ := rfl

@[simp] theorem Env.comap_apply (env : Env) (σ : {τ : Ty} → Call τ → Call τ)
    (history : List Event) {τ : Ty} (call : Call τ) :
    env.comap σ history call = env (history.map (Event.rename σ)) (σ call) := rfl

namespace Prog

variable {α β : Type} (σ : {τ : Ty} → Call τ → Call τ)

theorem rename_bind (p : Prog α) (f : α → Prog β) :
    (p.bind f).rename σ = (p.rename σ).bind fun a => (f a).rename σ := by
  induction p with
  | pure a => rfl
  | call c k ih => simp only [bind, rename, ih]
  | abort reason => rfl

@[simp] theorem rename_issue {τ : Ty} (c : Call τ) : (issue c).rename σ = issue (σ c) := rfl

theorem rename_defer (p : Prog α) (deferred : Prog Unit) :
    (p.defer deferred).rename σ = (p.rename σ).defer (deferred.rename σ) := by
  induction p with
  | pure a => simp only [defer, rename_bind]; rfl
  | call c k ih => simp only [defer, rename, ih]
  | abort reason => simp only [defer, rename_bind]; rfl

/-- A renamed program against `env` makes the renamed calls of the program against
`env.comap σ`, with the same answers, and ends the same way. -/
theorem run_rename (env : Env) (p : Prog α) (history : List Event) :
    (p.rename σ).run env (history.map (Event.rename σ)) =
      ⟨((p.run (env.comap σ) history).events.map (Event.rename σ)),
        (p.run (env.comap σ) history).outcome⟩ := by
  induction p generalizing history with
  | pure a => rfl
  | abort reason => rfl
  | call c k ih =>
      have renamed := ih (env.comap σ history c) (history ++ [⟨c, env.comap σ history c⟩])
      simp only [List.map_append, List.map_cons, List.map_nil, Event.rename_mk,
        Env.comap_apply] at renamed
      simp only [rename, run_call, Env.comap_apply, List.map_cons, Event.rename_mk, renamed]

end Prog

/-! ### The shared code under the renaming -/

section

variable {τ : Ty} (lookup : ProjectInfo → Call (.list τ))
  (fixed : ∀ project, (lookup project).toClients = lookup project)

include fixed in
theorem appendCandidates_toClients (candidates : List τ.denote) (projects : List ProjectInfo) :
    (appendCandidates lookup candidates projects).rename Call.toClients =
      appendCandidates lookup candidates projects := by
  induction projects generalizing candidates with
  | nil => rfl
  | cons project projects ih =>
      simp only [appendCandidates, Prog.bind_eq, Prog.issue_bind, Prog.rename, fixed]
      congr 1
      funext reply
      cases reply with
      | error err => rfl
      | ok infos => exact ih _

include fixed in
theorem findCandidates_toClients (projectFetchSize : Int) (lastProjectID : ID) :
    (findCandidates lookup projectFetchSize lastProjectID).rename Call.toClients =
      findCandidates lookup projectFetchSize lastProjectID := by
  simp only [findCandidates, Prog.bind_eq, Prog.issue_bind, Prog.rename]
  congr 1
  funext listed
  cases listed with
  | error err => rfl
  | ok projects =>
      simp only [Prog.rename, Prog.pure_bind, Prog.rename_bind,
        appendCandidates_toClients lookup fixed]
      refine congrArg (Prog.bind _) (funext fun found => ?_)
      rcases found with err | candidates
      · rfl
      · cases topProjectID projectFetchSize projects <;> rfl

end

theorem unlockLogged_toClients (locker : Locker) :
    (unlockLogged locker).rename Call.toClients = unlockLogged locker := by
  simp only [unlockLogged, Prog.bind_eq, Prog.issue_bind, Prog.rename]
  congr 1
  funext reply
  cases reply <;> rfl

def clientsKey (key : String) : String :=
  if key = Housekeeping.documentHardDeletionLockKey then Clients.documentHardDeletionLockKey
  else key

theorem withLocker_toClients (key : String) (body : Prog (ID × Option Error)) :
    (withLocker key body).rename Call.toClients =
      withLocker (clientsKey key) (body.rename Call.toClients) := by
  simp only [withLocker, Prog.bind_eq, Prog.issue_bind, Prog.rename]
  congr 1
  funext created
  cases created with
  | error err => rfl
  | ok locker =>
      simp only [Prog.rename]
      congr 1
      funext locked
      cases locked with
      | error err => rfl
      | ok u => simp only [Prog.rename_defer, unlockLogged_toClients]

theorem sweepBody_toClients {β : Type} (find : Prog (ID × List β × Option Error))
    (act : List β → Prog (Except Error Int)) (format : String) :
    (sweepBody find act format).rename Call.toClients =
      sweepBody (find.rename Call.toClients) (fun candidates => (act candidates).rename Call.toClients)
        format := by
  simp only [sweepBody, Prog.bind_eq, Prog.rename_bind]
  congr 1
  funext found
  rcases found with ⟨lastProjectID, candidates, _ | err⟩
  · simp only [Prog.rename_bind]
    congr 1
    funext acted
    rcases acted with err | count
    · rfl
    · by_cases nonEmpty : 0 < candidates.length
      · simp only [nonEmpty, if_true, Prog.bind_eq, Prog.rename_bind, Prog.rename_issue]
        rfl
      · simp only [nonEmpty, if_false]
        rfl
  · rfl

/-! ### The two copies of each sweep -/

/-- The deletion copies are one program up to the renaming of the lock key and the store's
batch deletion. -/
theorem deleteDocument_toClients (h : Housekeeping) (cursor : ID) :
    (h.deleteDocument cursor).rename Call.toClients =
      Clients.deleteDocuments h.documentHardDeletionCandidateLimitPerProject
        h.documentHardDeletionGracefulPeriod h.projectFetchSize cursor := by
  simp only [Housekeeping.deleteDocument, Clients.deleteDocuments, sweep, withLocker_toClients,
    sweepBody_toClients, Housekeeping.findDocumentHardDeletionCandidates,
    Clients.findDocumentHardDeletionCandidates, findCandidates_toClients
      (fun project => .findDocumentHardDeletionCandidatesPerProject project
        h.documentHardDeletionCandidateLimitPerProject h.documentHardDeletionGracefulPeriod)
      fun _ => rfl]
  simp only [clientsKey, Housekeeping.documentHardDeletionLockKey, if_true, Prog.rename_issue]
  rfl

/-- Against an unreachable coordinator the two deletion copies already differ in their first
call: they ask for locks of different keys. -/
theorem deleteDocument_deleteDocuments_traces_differ :
    ((Housekeeping.deleteDocument ⟨30000000000, 30000000000, 86400000000000, 500, 500, 100⟩
          defaultProjectID).run unreachable []).events ≠
      ((Clients.deleteDocuments 500 86400000000000 100 defaultProjectID).run
          unreachable []).events := by
  intro same
  change [(⟨.newLocker Housekeeping.documentHardDeletionLockKey, .error "connection refused"⟩ :
      Event)] = [⟨.newLocker Clients.documentHardDeletionLockKey, .error "connection refused"⟩] at same
  simp [Housekeeping.documentHardDeletionLockKey, Clients.documentHardDeletionLockKey] at same

end Yorkie
