import YorkieHousekeeping.Service

/-!
Panics.

The one panic the sweeps can reach is `projects[len(projects)-1]` in the candidate searches of
`housekeeping.go`, taken when the page is not shorter than `projectFetchSize`: on an empty page
that needs a page size of at most zero, and the index is -1.  `Entry.sweep_panics_iff` says
exactly when a sweep of an entry point panics.  A panic ends the process, so with a positive
page size no loop of a started service ever dies, whatever the interleaving and the stores
(`Service.alive_of_positive`).
-/

namespace Yorkie

theorem topProjectID_eq_none (projectFetchSize : Int) (projects : List ProjectInfo) :
    topProjectID projectFetchSize projects = none ↔ projectFetchSize ≤ 0 ∧ projects = [] := by
  unfold topProjectID
  split_ifs with short <;> cases projects <;> simp_all [Int.not_lt, Int.not_le]

/-! ### Where a sweep panics -/

section Search

variable {τ : Ty} {lookup : ProjectInfo → Call (.list τ)} {projectFetchSize : Int} {cursor : ID}

theorem Found.head {events : List Event} {outcome : Outcome (ID × List τ.denote × Option Error)}
    (found : Found lookup projectFetchSize cursor events outcome) :
    ∃ reply rest,
      events = ⟨.findNextNCyclingProjectInfos projectFetchSize cursor, reply⟩ :: rest := by
  cases found <;> exact ⟨_, _, rfl⟩

/-- A search panics only on an empty page with a page size of at most zero, at
`projects[len(projects)-1]`. -/
theorem Found.aborted {events : List Event} {reason : String}
    (found : Found lookup projectFetchSize cursor events (.aborted reason)) :
    reason = "index out of range [-1]" ∧ projectFetchSize ≤ 0 ∧
      events = [⟨.findNextNCyclingProjectInfos projectFetchSize cursor, .ok []⟩] := by
  cases found with
  | indexOutOfRange projects lookups infos each top =>
      obtain ⟨nonPositive, rfl⟩ := (topProjectID_eq_none _ _).mp top
      cases each
      exact ⟨rfl, nonPositive, rfl⟩

theorem Found.of_empty_page {rest : List Event}
    {outcome : Outcome (ID × List τ.denote × Option Error)}
    (found : Found lookup projectFetchSize cursor
      (⟨.findNextNCyclingProjectInfos projectFetchSize cursor, .ok []⟩ :: rest) outcome)
    (nonPositive : projectFetchSize ≤ 0) : outcome = .aborted "index out of range [-1]" := by
  have noTop : topProjectID projectFetchSize [] = none :=
    (topProjectID_eq_none _ _).mpr ⟨nonPositive, rfl⟩
  cases found with
  | lookupFailed projects lookups err each => cases each
  | indexOutOfRange projects lookups infos each top => rfl
  | paged projects lookups infos top' each top =>
      rw [noTop] at top
      cases top

end Search

section Body

variable {β : Type} {Find : List Event → Outcome (ID × List β × Option Error) → Prop}
  {Act : List β → List Event → Except Error Int → Prop} {format : String}

theorem Swept.aborted {body : List Event} {reason : String}
    (swept : Swept Find Act format body (.aborted reason)) : Find body (.aborted reason) := by
  cases swept with
  | findAborted _ _ found => exact found

theorem Swept.of_empty_page {τ : Ty} {lookup : ProjectInfo → Call (.list τ)}
    {projectFetchSize : Int} {cursor : ID} {Act : List τ.denote → List Event → Except Error Int → Prop}
    {body tail rest : List Event} {outcome : Outcome (ID × Option Error)}
    (swept : Swept (Found lookup projectFetchSize cursor) Act format body outcome)
    (listed : body ++ tail =
      ⟨.findNextNCyclingProjectInfos projectFetchSize cursor, .ok []⟩ :: rest)
    (nonPositive : projectFetchSize ≤ 0) : outcome = .aborted "index out of range [-1]" := by
  have emptyPage : ∀ {found more : List Event}
      {result : Outcome (ID × List τ.denote × Option Error)},
      Found lookup projectFetchSize cursor found result → found ++ more = body ++ tail →
        result = .aborted "index out of range [-1]" := fun found joined => by
    obtain ⟨reply, found', rfl⟩ := found.head
    rw [listed, List.cons_append] at joined
    obtain ⟨⟨⟩, -⟩ := List.cons.inj joined
    exact found.of_empty_page nonPositive
  cases swept with
  | findFailed found _ _ _ spec => cases emptyPage spec rfl
  | findAborted found reason spec =>
      cases emptyPage spec rfl
      rfl
  | actFailed found acts _ _ _ spec _ => cases emptyPage spec (List.append_assoc _ _ _).symm
  | done found acts logged _ _ _ spec _ _ =>
      cases @emptyPage _ (acts ++ logged ++ tail) _ spec (by simp only [List.append_assoc])

end Body

section Lock

variable {key : String} {Body : List Event → Outcome (ID × Option Error) → Prop}

theorem Locked.aborted {events : List Event} {reason : String}
    (locked : Locked key Body events (.aborted reason)) :
    ∃ locker body unlocked,
      events = ⟨.newLocker key, .ok locker⟩ :: ⟨.lock locker, .ok ()⟩ :: body ++ unlocked ∧
        Body body (.aborted reason) := by
  cases locked with
  | locked locker body unlocked _ spec _ => exact ⟨locker, body, unlocked, rfl, spec⟩

theorem Locked.of_granted {locker : Locker} {rest : List Event}
    {outcome : Outcome (ID × Option Error)}
    (locked : Locked key Body
      (⟨.newLocker key, .ok locker⟩ :: ⟨.lock locker, .ok ()⟩ :: rest) outcome) :
    ∃ body unlocked, body ++ unlocked = rest ∧ Body body outcome := by
  cases locked with
  | locked _ body unlocked _ spec _ => exact ⟨body, unlocked, rfl, spec⟩

end Lock

namespace Entry

theorem bodySpec_aborted (e : Entry) (cursor : ID) {body : List Event} {reason : String}
    (spec : e.BodySpec cursor body (.aborted reason)) :
    reason = "index out of range [-1]" ∧ e.projectFetchSize ≤ 0 ∧
      body = [⟨.findNextNCyclingProjectInfos e.projectFetchSize cursor, .ok []⟩] := by
  cases e <;> exact spec.aborted.aborted

theorem bodySpec_of_empty_page (e : Entry) (cursor : ID) {body tail rest : List Event}
    {outcome : Outcome (ID × Option Error)} (spec : e.BodySpec cursor body outcome)
    (listed : body ++ tail =
      ⟨.findNextNCyclingProjectInfos e.projectFetchSize cursor, .ok []⟩ :: rest)
    (nonPositive : e.projectFetchSize ≤ 0) : outcome = .aborted "index out of range [-1]" := by
  cases e <;> exact spec.of_empty_page listed nonPositive

/-- A sweep of an entry point panics exactly when its lock is granted, the store lists an
empty page, and the page size is at most zero; the panic is `index out of range [-1]`. -/
theorem sweep_panics_iff (e : Entry) (cursor : ID) (env : Env) (reason : String) :
    ((e.sweep cursor).run env []).outcome = .aborted reason ↔
      reason = "index out of range [-1]" ∧ e.projectFetchSize ≤ 0 ∧
        ∃ locker more, ((e.sweep cursor).run env []).events =
          ⟨.newLocker e.key, .ok locker⟩ :: ⟨.lock locker, .ok ()⟩ ::
            ⟨.findNextNCyclingProjectInfos e.projectFetchSize cursor, .ok []⟩ :: more := by
  have spec := e.sweep_spec cursor env []
  generalize ((e.sweep cursor).run env []).events = events at spec ⊢
  generalize ((e.sweep cursor).run env []).outcome = outcome at spec ⊢
  constructor
  · rintro rfl
    obtain ⟨locker, body, unlocked, rfl, bodySpec⟩ := spec.aborted
    obtain ⟨rfl, nonPositive, rfl⟩ := e.bodySpec_aborted cursor bodySpec
    exact ⟨rfl, nonPositive, locker, unlocked, rfl⟩
  · rintro ⟨rfl, nonPositive, locker, more, rfl⟩
    obtain ⟨body, unlocked, listed, bodySpec⟩ := spec.of_granted
    exact e.bodySpec_of_empty_page cursor bodySpec listed nonPositive

end Entry

theorem Entry.nonPositive_of_aborted (e : Entry) (cursor : ID) (env : Env) {reason : String}
    (panicked : ((e.sweep cursor).run env []).outcome = .aborted reason) :
    e.projectFetchSize ≤ 0 := by
  have spec := e.sweep_spec cursor env []
  rw [panicked] at spec
  obtain ⟨_, body, _, -, bodySpec⟩ := spec.aborted
  exact (e.bodySpec_aborted cursor bodySpec).2.1

/-! ### The service stays up -/

/-- Sweeps that never panic, from any cursor and against any environment. -/
def NeverPanics (sweep : ID → Prog (ID × Option Error)) : Prop :=
  ∀ cursor env reason, ((sweep cursor).run env []).outcome ≠ .aborted reason

theorem Entry.neverPanics (e : Entry) (positive : 0 < e.projectFetchSize) :
    NeverPanics e.sweep := fun cursor env _ panicked =>
  absurd (e.nonPositive_of_aborted cursor env panicked) (Int.not_le.mpr positive)

theorem Attach.step_panicked {sweep : ID → Prog (ID × Option Error)} {s next : Attach}
    {move : Move} {happened : Happened} (stepped : s.step sweep move = some (next, happened))
    (panicked : next.pc.isPanicked = true) :
    s.pc.isPanicked = true ∨ ∃ env reason, move = .sweep env ∧
      ((sweep s.housekeepingLastProjectID).run env []).outcome = .aborted reason := by
  rcases Attach.step_cases sweep stepped with ⟨env, rfl, -, rfl, -⟩ | ⟨-, -, rfl, -⟩ |
    ⟨-, rfl, -⟩ | ⟨-, -, rfl, -⟩ | ⟨-, -, -, rfl, -⟩
  · rcases swept : ((sweep s.housekeepingLastProjectID).run env []).outcome with
      ⟨_, _ | _⟩ | reason
    · rw [swept] at panicked
      cases panicked
    · rw [swept] at panicked
      exact .inl panicked
    · exact .inr ⟨env, reason, rfl, swept⟩
  · cases panicked
  · exact .inl panicked
  · cases panicked
  · cases panicked

namespace Service

variable (deactivate delete : ID → Prog (ID × Option Error))

theorem alive_iff (s : Service) : s.alive = true ↔ ∀ side, (s.loop side).pc.isPanicked = false := by
  simp only [alive, Bool.not_eq_true', Bool.or_eq_false_iff]
  exact ⟨fun ⟨first, second⟩ side => by cases side; exacts [first, second],
    fun both => ⟨both .deactivation, both .deletion⟩⟩

theorem step_alive (noPanic : ∀ side, NeverPanics (sweepOf deactivate delete side))
    {s next : Service} {turn : Turn} (stepped : s.step deactivate delete turn = some next) :
    next.alive = true := by
  obtain ⟨alive, ⟨side, move, happened, rfl, -, moved, atNext⟩ | ⟨-, rfl⟩⟩ :=
    step_cases deactivate delete stepped
  · rw [alive_iff] at alive ⊢
    intro side'
    by_cases same : side = side'
    · subst same
      cases panicked : (next.loop side).pc.isPanicked
      · rfl
      · rcases Attach.step_panicked moved panicked with before | ⟨env, reason, -, aborted⟩
        · rw [alive side] at before
          cases before
        · exact absurd aborted (noPanic side _ env reason)
    · rw [atNext, loop_set_other _ _ same]
      exact alive side'
  · exact alive

theorem exec_alive (noPanic : ∀ side, NeverPanics (sweepOf deactivate delete side))
    {turns : List Turn} : ∀ {s s' : Service}, s.exec deactivate delete turns = some s' →
      s.alive = true → s'.alive = true := by
  induction turns with
  | nil =>
      intro s s' ran alive
      cases ran
      exact alive
  | cons turn turns ih =>
      intro s s' ran _
      obtain ⟨next, stepped, ranRest⟩ := exec_cons deactivate delete ran
      exact ih ranRest (step_alive deactivate delete noPanic stepped)

end Service

/-- With a positive page size, no loop of a service started by `housekeeping.go`'s `Start`
ever panics: in every run, whatever the interleaving of its loops, `Stop`, and the answers of
the coordinator and the store, the process stays up. -/
theorem Service.alive_of_positive (h : Housekeeping) (positive : 0 < h.projectFetchSize)
    (turns : List Turn) (s : Service)
    (ran : Service.spawned.exec h.deactivateCandidates h.deleteDocument turns = some s) :
    s.alive = true :=
  Service.exec_alive _ _ (fun side => by
      cases side
      exacts [(Entry.deactivateCandidates h).neverPanics positive,
        (Entry.deleteDocument h).neverPanics positive])
    ran rfl

theorem Service.positive_page_stays_up :
    0 < (⟨30000000000, 30000000000, 86400000000000, 500, 500, 100⟩ : Housekeeping).projectFetchSize ∧
      ∃ s, Service.spawned.exec
          (Housekeeping.deactivateCandidates ⟨30000000000, 30000000000, 86400000000000, 500, 500, 100⟩)
          (Housekeeping.deleteDocument ⟨30000000000, 30000000000, 86400000000000, 500, 500, 100⟩)
          [.loop .deactivation (.sweep oneIdleClient), .loop .deletion (.sweep unreachable), .stop] =
            some s ∧ s.alive = true :=
  ⟨by decide, _, rfl, Service.alive_of_positive ⟨30000000000, 30000000000, 86400000000000, 500, 500, 100⟩
    (by decide) [.loop .deactivation (.sweep oneIdleClient), .loop .deletion (.sweep unreachable), .stop]
    _ rfl⟩

end Yorkie
