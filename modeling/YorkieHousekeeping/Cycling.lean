import YorkieHousekeeping.Entries
import Mathlib.Data.List.Rotate
import Mathlib.Data.List.Nodup
import Mathlib.Algebra.BigOperators.Group.List

/-!
Tenant cycling.

`FindNextNCyclingProjectInfos` is the store's, and is not under src/: `Tenants.nextN` is its
contract from the spec, over a fixed set of tenants in a fixed cyclic order.  Against it, the
cursor rule of the candidate searches (`topProjectID`) walks the cycle: from the loop's
cursor, each page is the next stretch of the cycle, and the cursor the page hands on starts
the stretch after it.  `Visited` is that invariant: the tenants after the cursor are the
cycle rotated by the number of tenants visited so far.

The second half lifts this to the `Attach…` loops: along every run from `Attach.start`, with
any failures, the pages of the successful sweeps, one after another, are the cycle repeated.
-/

namespace Yorkie

/-- Modelled from the spec: the tenant set as the store's cyclic listing sees it: the
tenants, in their fixed cyclic order, with distinct IDs, none of them the sentinel. -/
structure Tenants where
  projects : List ProjectInfo
  nodup : (projects.map ProjectInfo.id).Nodup
  notDefault : defaultProjectID ∉ projects.map ProjectInfo.id

namespace Tenants

variable (ts : Tenants)

def following (cursor : ID) : List ProjectInfo :=
  if (ts.projects.map ProjectInfo.id).indexOf cursor < ts.projects.length then
    ts.projects.rotate ((ts.projects.map ProjectInfo.id).indexOf cursor + 1)
  else ts.projects

/-- Modelled from the spec: `FindNextNCyclingProjectInfos(pageSize, lastProjectID)`, the first
`pageSize` tenants after `lastProjectID` in cyclic order, without repetition. -/
def nextN (pageSize : Int) (lastProjectID : ID) : List ProjectInfo :=
  (ts.following lastProjectID).take pageSize.toNat

theorem following_default : ts.following defaultProjectID = ts.projects := by
  have absent := List.indexOf_eq_length.mpr ts.notDefault
  simp only [following, List.length_map] at absent ⊢
  simp [absent]

theorem following_id (i : Nat) (inRange : i < ts.projects.length) :
    ts.following ts.projects[i].id = ts.projects.rotate (i + 1) := by
  have position : (ts.projects.map ProjectInfo.id).indexOf ts.projects[i].id = i := by
    have := List.indexOf_getElem ts.nodup i (by simpa using inRange)
    rwa [List.getElem_map] at this
  simp [following, position, inRange]

theorem length_following (cursor : ID) : (ts.following cursor).length = ts.projects.length := by
  unfold following
  split <;> simp

theorem length_nextN (pageSize : Int) (cursor : ID) :
    (ts.nextN pageSize cursor).length = min pageSize.toNat ts.projects.length := by
  simp [nextN, length_following]

/-! ### The cursor walks the cycle -/

/-- The loop's cursor after `visited` tenants: the tenants after it are the cycle rotated
by `visited`, and with fewer tenants than a page it is the sentinel. -/
def Visited (pageSize : Int) (cursor : ID) (visited : Nat) : Prop :=
  ts.following cursor = ts.projects.rotate visited ∧
    (ts.projects.length < pageSize.toNat → cursor = defaultProjectID)

theorem visited_start (pageSize : Int) : ts.Visited pageSize defaultProjectID 0 :=
  ⟨by simp [following_default], fun _ => rfl⟩

/-- The stretch `visits` of the cycle repeated forever that starts at position `start`. -/
def Cyclic (projects : List ProjectInfo) (start : Nat) (visits : List ProjectInfo) : Prop :=
  ∀ i < visits.length, visits[i]? = projects[(start + i) % projects.length]?

variable {ts}

theorem Visited.cyclic {pageSize : Int} {cursor : ID} {visited : Nat}
    (position : ts.Visited pageSize cursor visited) :
    Cyclic ts.projects visited (ts.nextN pageSize cursor) := by
  intro i inPage
  have inCycle : i < ts.projects.length := by
    have := ts.length_nextN pageSize cursor
    omega
  simp only [nextN, position.1] at inPage ⊢
  rw [List.getElem?_take_of_lt (by simp at inPage; omega), List.getElem?_rotate inCycle,
    Nat.add_comm]

/-- One successful sweep: the page's cursor rule hands on the cursor of the stretch after
the page. -/
theorem Visited.next {pageSize : Int} {cursor next : ID} {visited : Nat}
    (positive : 0 < pageSize) (position : ts.Visited pageSize cursor visited)
    (top : topProjectID pageSize (ts.nextN pageSize cursor) = some next) :
    ts.Visited pageSize next (visited + (ts.nextN pageSize cursor).length) := by
  have size := ts.length_nextN pageSize cursor
  by_cases short : ts.projects.length < pageSize.toNat
  · have atDefault := position.2 short
    subst atDefault
    have restart : ts.projects.rotate visited = ts.projects := by
      rw [← position.1, following_default]
    have reset : next = defaultProjectID := by
      simp only [topProjectID] at top
      split at top
      · exact (Option.some.inj top).symm
      · omega
    subst reset
    refine ⟨?_, fun _ => rfl⟩
    rw [following_default, size, min_eq_right short.le, ← List.rotate_rotate, restart,
      List.rotate_length]
  · have full : (ts.nextN pageSize cursor).length = pageSize.toNat := by omega
    have nonEmpty : 0 < ts.projects.length := by omega
    have inCycle := Nat.mod_lt (visited + (pageSize.toNat - 1)) nonEmpty
    have lastPage : (ts.nextN pageSize cursor).getLast? =
        some ts.projects[(visited + (pageSize.toNat - 1)) % ts.projects.length] := by
      rw [List.getLast?_eq_getElem?, full, position.cyclic _ (by omega),
        List.getElem?_eq_getElem inCycle]
    have atLast : next = ts.projects[(visited + (pageSize.toNat - 1)) % ts.projects.length].id := by
      simp only [topProjectID, lastPage] at top
      split at top
      · omega
      · simpa using top.symm
    refine ⟨?_, fun short' => absurd short' short⟩
    calc ts.following next
        = ts.projects.rotate ((visited + (pageSize.toNat - 1)) % ts.projects.length + 1) := by
          rw [atLast, following_id _ _ inCycle]
      _ = ts.projects.rotate (visited + (ts.nextN pageSize cursor).length) := by
          rw [← List.rotate_mod, Nat.mod_add_mod, full,
            show visited + (pageSize.toNat - 1) + 1 = visited + pageSize.toNat by omega,
            List.rotate_mod]

/-! ### Stretches of the cycle -/

section Cyclic

variable {projects : List ProjectInfo}

theorem Cyclic.append {start : Nat} {first rest : List ProjectInfo}
    (onFirst : Cyclic projects start first)
    (onRest : Cyclic projects (start + first.length) rest) :
    Cyclic projects start (first ++ rest) := by
  intro i inBoth
  by_cases inFirst : i < first.length
  · rw [List.getElem?_append_left inFirst]
    exact onFirst i inFirst
  · rw [List.getElem?_append_right (by omega), onRest _ (by simp at inBoth; omega)]
    congr 2
    omega

theorem Cyclic.left {start : Nat} {first rest : List ProjectInfo}
    (onBoth : Cyclic projects start (first ++ rest)) : Cyclic projects start first := by
  intro i inFirst
  rw [← List.getElem?_append_left inFirst]
  exact onBoth i (by simp; omega)

theorem Cyclic.right {start : Nat} {first rest : List ProjectInfo}
    (onBoth : Cyclic projects start (first ++ rest)) :
    Cyclic projects (start + first.length) rest := by
  intro i inRest
  have := onBoth (first.length + i) (by simp; omega)
  rwa [List.getElem?_append_right (by omega), Nat.add_sub_cancel_left, ← Nat.add_assoc] at this

theorem Cyclic.take {start : Nat} {visits : List ProjectInfo}
    (onVisits : Cyclic projects start visits) (n : Nat) :
    Cyclic projects start (visits.take n) :=
  have split : Cyclic projects start (visits.take n ++ visits.drop n) := by
    rwa [List.take_append_drop]
  split.left

theorem Cyclic.drop {start : Nat} {visits : List ProjectInfo}
    (onVisits : Cyclic projects start visits) {n : Nat} (inside : n ≤ visits.length) :
    Cyclic projects (start + n) (visits.drop n) := by
  have split : Cyclic projects start (visits.take n ++ visits.drop n) := by
    rwa [List.take_append_drop]
  have := split.right
  rwa [List.length_take, min_eq_left inside] at this

theorem Cyclic.eq_rotate {start : Nat} {turn : List ProjectInfo}
    (onTurn : Cyclic projects start turn) (whole : turn.length = projects.length) :
    turn = projects.rotate start := by
  apply List.ext_getElem?
  intro i
  by_cases inTurn : i < turn.length
  · rw [onTurn i inTurn, List.getElem?_rotate (by omega), Nat.add_comm]
  · rw [List.getElem?_eq_none (by omega), List.getElem?_eq_none (by simp; omega)]

theorem Cyclic.mem {start : Nat} {visits : List ProjectInfo}
    (onVisits : Cyclic projects start visits) (long : projects.length ≤ visits.length)
    {project : ProjectInfo} (tenant : project ∈ projects) : project ∈ visits := by
  have turn : visits.take projects.length = projects.rotate start :=
    (onVisits.take _).eq_rotate (by simp; omega)
  exact List.mem_of_mem_take (turn ▸ (List.rotate_perm projects start).mem_iff.mpr tenant)

end Cyclic

end Tenants

/-! ### The pages of a loop's sweeps -/

def Env.Cycling (env : Env) (ts : Tenants) : Prop :=
  ∀ history pageSize lastProjectID projects,
    env history (.findNextNCyclingProjectInfos pageSize lastProjectID) = .ok projects →
      projects = ts.nextN pageSize lastProjectID

def Event.listed (event : Event) : Option (List ProjectInfo) :=
  match event with
  | ⟨.findNextNCyclingProjectInfos _ _, .ok projects⟩ => some projects
  | _ => none

def Happened.page? : Happened → Option (List ProjectInfo)
  | .swept _ run =>
      match run.outcome with
      | .returned (_, none) => run.events.findSome? Event.listed
      | _ => none
  | _ => none

/-- The pages of a run's successful sweeps, in order. -/
def sweptPages (happened : List Happened) : List (List ProjectInfo) :=
  happened.filterMap Happened.page?

@[simp] theorem sweptPages_nil : sweptPages [] = [] := rfl

@[simp] theorem sweptPages_cons (first : Happened) (rest : List Happened) :
    sweptPages (first :: rest) = first.page?.toList ++ sweptPages rest := by
  simp only [sweptPages, List.filterMap_cons]
  cases first.page? <;> rfl

theorem Swept.listed_first {τ : Ty} {lookup : ProjectInfo → Call (.list τ)}
    {projectFetchSize : Int} {cursor : ID} {Act : List τ.denote → List Event → Except Error Int → Prop}
    {format : String} {body : List Event} {next : ID}
    (swept : Swept (Found lookup projectFetchSize cursor) Act format body (.returned (next, none))) :
    ∃ projects rest,
      body = ⟨.findNextNCyclingProjectInfos projectFetchSize cursor, .ok projects⟩ :: rest ∧
        topProjectID projectFetchSize projects = some next := by
  cases swept with
  | done found acts logged _ candidates count spec =>
      cases spec with
      | paged projects lookups infos _ each top => exact ⟨projects, _, rfl, top⟩

theorem Entry.sweep_listed (e : Entry) (cursor : ID) (env : Env) {next : ID}
    (succeeded : ((e.sweep cursor).run env []).outcome = .returned (next, none)) :
    ∃ projects, ((e.sweep cursor).run env []).events.findSome? Event.listed = some projects ∧
      (⟨.findNextNCyclingProjectInfos e.projectFetchSize cursor, .ok projects⟩ : Event) ∈
        ((e.sweep cursor).run env []).events ∧
      topProjectID e.projectFetchSize projects = some next := by
  have spec := e.sweep_spec cursor env []
  rw [succeeded] at spec
  generalize ((e.sweep cursor).run env []).events = events at spec ⊢
  cases spec with
  | locked locker body unlocked _ bodySpec =>
      obtain ⟨projects, rest, rfl, top⟩ : ∃ projects rest,
          body = ⟨.findNextNCyclingProjectInfos e.projectFetchSize cursor, .ok projects⟩ :: rest ∧
            topProjectID e.projectFetchSize projects = some next := by
        cases e <;> exact bodySpec.listed_first
      exact ⟨projects, rfl, by simp, top⟩

namespace Attach

variable {e : Entry} {ts : Tenants}

theorem step_visited {s next : Attach} {move : Move} {happened : Happened} {visited : Nat}
    (positive : 0 < e.projectFetchSize) (contract : ∀ env, move = .sweep env → env.Cycling ts)
    (position : ts.Visited e.projectFetchSize s.housekeepingLastProjectID visited)
    (stepped : s.step e.sweep move = some (next, happened)) :
    ts.Visited e.projectFetchSize next.housekeepingLastProjectID
        (visited + happened.page?.toList.flatten.length) ∧
      Tenants.Cyclic ts.projects visited happened.page?.toList.flatten ∧
      ∀ page ∈ happened.page?.toList, page.length = min e.projectFetchSize.toNat ts.projects.length := by
  have unchanged : ∀ (next : Attach) (happened : Happened),
      next.housekeepingLastProjectID = s.housekeepingLastProjectID → happened.page? = none →
      ts.Visited e.projectFetchSize next.housekeepingLastProjectID
          (visited + happened.page?.toList.flatten.length) ∧
        Tenants.Cyclic ts.projects visited happened.page?.toList.flatten ∧
        ∀ page ∈ happened.page?.toList,
          page.length = min e.projectFetchSize.toNat ts.projects.length := by
    intro next happened same nothing
    simp only [same, nothing, Option.toList_none, List.flatten_nil, List.length_nil,
      Nat.add_zero, List.not_mem_nil, false_implies, implies_true, and_true, position, true_and]
    intro i inNothing
    cases inNothing
  rcases step_keeps_cursor e.sweep stepped with ⟨env, rfl, -, rfl, rfl⟩ | ⟨same, notSwept⟩
  · rcases succeeded : ((e.sweep s.housekeepingLastProjectID).run env []).outcome with
      ⟨next, _ | err⟩ | reason
    · obtain ⟨projects, found, listedIn, top⟩ := e.sweep_listed _ env succeeded
      obtain ⟨earlier, replied⟩ := Prog.answered_of_mem env [] _ listedIn
      obtain rfl := contract env rfl earlier _ _ _ replied.symm
      simp only [Happened.page?, succeeded, found, Option.toList_some, List.flatten_singleton,
        afterSweep, List.mem_singleton, forall_eq]
      exact ⟨position.next positive top, position.cyclic, ts.length_nextN _ _⟩
    all_goals exact unchanged _ _ (by simp [afterSweep]) (by simp [Happened.page?, succeeded])
  · refine unchanged _ _ same ?_
    cases happened <;> first | rfl | exact absurd rfl (notSwept _ _)

/-- Along a run, the successful sweeps visit, page after page, the stretch of the cycle that
starts where the loop's cursor stood; every page is as long as a page can be. -/
theorem exec_visited (positive : 0 < e.projectFetchSize) {moves : List Move} :
    ∀ {s final : Attach} {happened : List Happened} {visited : Nat},
      (∀ env, Move.sweep env ∈ moves → env.Cycling ts) →
      s.exec e.sweep moves = some (final, happened) →
      ts.Visited e.projectFetchSize s.housekeepingLastProjectID visited →
      ts.Visited e.projectFetchSize final.housekeepingLastProjectID
          (visited + (sweptPages happened).flatten.length) ∧
        Tenants.Cyclic ts.projects visited (sweptPages happened).flatten ∧
        ∀ page ∈ sweptPages happened,
          page.length = min e.projectFetchSize.toNat ts.projects.length := by
  induction moves with
  | nil =>
      intro s final happened visited _ ran position
      obtain ⟨rfl, rfl⟩ := Prod.mk.inj (Option.some.inj ran)
      exact ⟨by simpa using position, (fun i inNothing => by simp at inNothing), by simp⟩
  | cons move moves ih =>
      intro s final happened visited contract ran position
      obtain ⟨next, first, rest, stepped, ranRest, rfl⟩ := s.exec_cons e.sweep move moves _ _ ran
      obtain ⟨nextPosition, onFirst, firstLengths⟩ := step_visited positive
        (fun env isSweep => contract env (isSweep ▸ List.mem_cons_self _ _)) position stepped
      obtain ⟨finalPosition, onRest, restLengths⟩ :=
        ih (fun env member => contract env (List.mem_cons_of_mem _ member)) ranRest nextPosition
      refine ⟨by simpa [Nat.add_assoc] using finalPosition, ?_, ?_⟩
      · simp only [sweptPages_cons, List.flatten_append]
        exact onFirst.append onRest
      · simp only [sweptPages_cons, List.mem_append]
        rintro page (inFirst | inRest)
        exacts [firstLengths page inFirst, restLengths page inRest]

theorem step_page_isSome {s next : Attach} {move : Move} {happened : Happened}
    (stepped : s.step e.sweep move = some (next, happened)) :
    happened.page?.isSome = happened.succeeded := by
  rcases step_keeps_cursor e.sweep stepped with ⟨env, -, -, -, rfl⟩ | ⟨-, notSwept⟩
  · rcases succeeded : ((e.sweep s.housekeepingLastProjectID).run env []).outcome with
      ⟨next, _ | err⟩ | reason
    · obtain ⟨projects, found, -⟩ := e.sweep_listed _ env succeeded
      simp [Happened.page?, succeeded, found]
    all_goals simp [Happened.page?, succeeded]
  · cases happened with
    | swept cursor run => exact absurd rfl (notSwept cursor run)
    | _ => rfl

/-- Along a run, the successful sweeps and their pages are one to one. -/
theorem exec_pages_count {moves : List Move} : ∀ {s final : Attach} {happened : List Happened},
    s.exec e.sweep moves = some (final, happened) →
      (sweptPages happened).length = happened.countP Happened.succeeded := by
  induction moves with
  | nil =>
      intro s final happened ran
      obtain ⟨rfl, rfl⟩ := Prod.mk.inj (Option.some.inj ran)
      rfl
  | cons move moves ih =>
      intro s final happened ran
      obtain ⟨next, first, rest, stepped, ranRest, rfl⟩ := s.exec_cons e.sweep move moves _ _ ran
      rw [sweptPages_cons, List.length_append, ih ranRest, List.countP_cons,
        ← step_page_isSome stepped]
      cases first.page? <;> simp [Nat.add_comm]

end Attach

theorem turns_cover (tenants pageSize : Nat) (positive : 0 < pageSize) :
    tenants ≤ (tenants + pageSize - 1) / pageSize * min pageSize tenants := by
  have reach : tenants + pageSize - 1 <
      (tenants + pageSize - 1) / pageSize * pageSize + pageSize := Nat.lt_div_mul_add positive
  by_cases small : tenants ≤ pageSize
  · rcases Nat.eq_zero_or_pos tenants with none | some
    · simp [none]
    · have oneTurn : 1 ≤ (tenants + pageSize - 1) / pageSize :=
        (Nat.le_div_iff_mul_le positive).mpr (by omega)
      rw [min_eq_right small]
      exact Nat.le_mul_of_pos_left _ oneTurn
  · rw [min_eq_left (by omega)]
    omega

def threeTenants : Tenants := ⟨[⟨"p1"⟩, ⟨"p2"⟩, ⟨"p3"⟩], by decide, by decide⟩

def Tenants.store (ts : Tenants) : Env := fun _ {τ} call =>
  match τ, call with
  | _, .newLocker key => .ok ⟨key, 0⟩
  | _, .lock _ => .ok ()
  | _, .unlock _ => .ok ()
  | _, .findNextNCyclingProjectInfos pageSize lastProjectID => .ok (ts.nextN pageSize lastProjectID)
  | _, .findDeactivateCandidatesPerProject _ _ => .ok []
  | _, _ => .error "unexpected call"

end Yorkie
