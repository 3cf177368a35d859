import YorkieHousekeeping.SharedInterval

/-!
The `Attach…` loops with a clock.

`Attach` lets the timer of `time.After(interval)` fire at any moment of a `select`.  Here the
loop carries the time and the deadline of the pending timer: time passes in `tick`s of any
length, a sweep that ends in the `select` starts `time.After(interval)`, and the timer fires
at its deadline or later, never earlier (a negative `interval` fires at once, as Go's timer
does).  A sweep is one instant; the time it takes is the ticks around it.  The timer is
started when the sweep returns, which is no later than the `select` that evaluates
`time.After`, so the timed loop waits no longer than Go's does.

Dropping the ticks maps every timed run to an `Attach` run with the same records
(`Timed.exec_untimed`), so all that is proved of `Attach` holds of the timed loops.  Over the
clock: a sweep that starts after a successful sweep starts at least `interval` later
(`Timed.sweeps_spaced`).
-/

namespace Yorkie

/-- An `Attach…` loop with the time and the deadline of its pending `time.After`. -/
structure Timed where
  loop : Attach
  now : Nat
  deadline : Nat

inductive TimedMove where
  | tick (elapsed : Nat)
  | move (move : Move)

def TimedMove.untimed : TimedMove → Option Move
  | .tick _ => none
  | .move m => some m

def Move.isSweep : Move → Bool
  | .sweep _ => true
  | _ => false

def Move.isFire : Move → Bool
  | .fire => true
  | _ => false

namespace Timed

def start : Timed := ⟨Attach.start, 0, 0⟩

variable (sweep : ID → Prog (ID × Option Error)) (interval : Duration)

/-- One timed move: a tick, or a move of the loop at `t.now`.  The timer does not fire before
its deadline, and a sweep that ends in the `select` sets the deadline `interval` ahead. -/
def step (t : Timed) : TimedMove → Option (Timed × Option Happened)
  | .tick elapsed => some ({ t with now := t.now + elapsed }, none)
  | .move move =>
      if move.isFire ∧ t.now < t.deadline then none
      else
        (t.loop.step sweep move).map fun (loop, happened) =>
          ({ t with
              loop := loop
              deadline :=
                if move.isSweep ∧ loop.pc = .select false then t.now + interval.toNat
                else t.deadline },
            some happened)

/-- A run of timed moves, with each record stamped with the time of its move. -/
def exec (t : Timed) : List TimedMove → Option (Timed × List (Nat × Happened))
  | [] => some (t, [])
  | move :: moves =>
      match t.step sweep interval move with
      | none => none
      | some (next, happened) =>
          (next.exec moves).map fun (final, rest) =>
            (final, happened.toList.map (fun first => (t.now, first)) ++ rest)

theorem exec_cons (t : Timed) (move : TimedMove) (moves : List TimedMove) {final : Timed}
    {log : List (Nat × Happened)} (ran : t.exec sweep interval (move :: moves) = some (final, log)) :
    ∃ next happened rest, t.step sweep interval move = some (next, happened) ∧
      next.exec sweep interval moves = some (final, rest) ∧
      log = happened.toList.map (fun first => (t.now, first)) ++ rest := by
  simp only [exec] at ran
  split at ran
  · cases ran
  · rename_i next happened stepped
    obtain ⟨⟨final', rest⟩, ranRest, same⟩ := Option.map_eq_some'.mp ran
    cases same
    exact ⟨next, happened, rest, stepped, ranRest, rfl⟩

theorem step_cases {t : Timed} {loop : Attach} {now deadline : Nat} {move : TimedMove}
    {happened : Option Happened}
    (stepped : t.step sweep interval move = some (⟨loop, now, deadline⟩, happened)) :
    (∃ elapsed, move = .tick elapsed ∧ loop = t.loop ∧ now = t.now + elapsed ∧
        deadline = t.deadline ∧ happened = none) ∨
      ∃ m first, move = .move m ∧ happened = some first ∧
        t.loop.step sweep m = some (loop, first) ∧ now = t.now ∧
        (m.isFire → t.deadline ≤ t.now) ∧
        deadline = if m.isSweep ∧ loop.pc = .select false then t.now + interval.toNat
          else t.deadline := by
  cases move with
  | tick elapsed =>
      simp only [step, Option.some.injEq, Prod.mk.injEq, Timed.mk.injEq] at stepped
      obtain ⟨⟨rfl, rfl, rfl⟩, rfl⟩ := stepped
      exact .inl ⟨elapsed, rfl, rfl, rfl, rfl, rfl⟩
  | move m =>
      simp only [step] at stepped
      split_ifs at stepped with early
      obtain ⟨⟨loop', first⟩, moved, same⟩ := Option.map_eq_some'.mp stepped
      simp only [Option.some.injEq, Prod.mk.injEq, Timed.mk.injEq] at same
      obtain ⟨⟨rfl, rfl, rfl⟩, rfl⟩ := same
      exact .inr ⟨m, first, rfl, rfl, moved, rfl,
        fun fire => Nat.not_lt.mp fun late => early ⟨fire, late⟩, rfl⟩

/-- Dropping the ticks of a timed run leaves an `Attach` run with the same records. -/
theorem exec_untimed (t : Timed) (moves : List TimedMove) {final : Timed}
    {log : List (Nat × Happened)} (ran : t.exec sweep interval moves = some (final, log)) :
    t.loop.exec sweep (moves.filterMap TimedMove.untimed) = some (final.loop, log.map Prod.snd) := by
  induction moves generalizing t log with
  | nil => cases ran; rfl
  | cons move moves ih =>
      obtain ⟨⟨loop, now, deadline⟩, happened, rest, stepped, ranRest, rfl⟩ :=
        exec_cons sweep interval t move moves ran
      rcases step_cases sweep interval stepped with
        ⟨elapsed, rfl, rfl, -, -, rfl⟩ | ⟨m, first, rfl, rfl, moved, -⟩
      · simpa [TimedMove.untimed] using ih _ ranRest
      · simpa [TimedMove.untimed] using Attach.exec_cons_of_step sweep moved (ih _ ranRest)

/-! ### Spacing -/

/-- A timer taken by the `select` fired at its deadline or later. -/
def Armed (t : Timed) : Prop := t.loop.pc = .select true → t.deadline ≤ t.now

/-- The earliest time at which the loop can start its next sweep: now, at the top of its
`for`; otherwise not before the pending timer fires. -/
def earliest (t : Timed) : Nat := if t.loop.pc = .sweep then t.now else max t.now t.deadline

theorem afterSweep_not_fired {s : Attach} (atSweep : s.pc = .sweep)
    (outcome : Outcome (ID × Option Error)) : (s.afterSweep outcome).pc ≠ .select true := by
  rcases outcome with ⟨cursor, _ | err⟩ | reason <;> simp [Attach.afterSweep, atSweep]

/-- A move keeps the timer armed and never brings the next sweep earlier. -/
theorem step_earliest {t next : Timed} {move : TimedMove} {happened : Option Happened}
    (armed : t.Armed) (stepped : t.step sweep interval move = some (next, happened)) :
    next.Armed ∧ t.earliest ≤ next.earliest := by
  obtain ⟨loop, now, deadline⟩ := next
  rcases step_cases sweep interval stepped with
    ⟨elapsed, rfl, rfl, rfl, rfl, -⟩ | ⟨m, first, rfl, -, moved, rfl, onTime, rfl⟩
  · refine ⟨fun fired => (armed fired).trans (Nat.le_add_right _ _), ?_⟩
    simp only [earliest]
    split_ifs <;> omega
  rcases Attach.step_cases sweep moved with ⟨env, rfl, atSweep, rfl, -⟩ |
    ⟨rfl, atSelect, rfl, -⟩ | ⟨rfl, rfl, -⟩ | ⟨rfl, atSelect, rfl, -⟩ |
    ⟨rfl, ⟨fired, atSelect⟩, -, rfl, -⟩
  · refine ⟨fun fired => absurd fired (afterSweep_not_fired atSweep _), ?_⟩
    simp only [earliest, atSweep, if_true]
    split_ifs <;> omega
  · have late := onTime rfl
    simp [Armed, earliest, Move.isSweep, atSelect, late]
  · simpa [Armed, earliest, Move.isSweep] using armed
  · have late := armed atSelect
    simp [Armed, earliest, Move.isSweep, atSelect, late]
  · simp [Armed, earliest, Move.isSweep, atSelect]

theorem step_swept {t next : Timed} {move : TimedMove} {first : Happened}
    (stepped : t.step sweep interval move = some (next, some first)) :
    (first.isSweep → t.earliest = t.now) ∧
      (first.succeeded → next.earliest = t.now + interval.toNat) := by
  obtain ⟨loop, now, deadline⟩ := next
  rcases step_cases sweep interval stepped with
    ⟨_, -, -, -, -, none⟩ | ⟨m, first', rfl, same, moved, rfl, -, rfl⟩
  · cases none
  cases same
  rcases Attach.step_cases sweep moved with ⟨env, rfl, atSweep, rfl, rfl⟩ | ⟨-, -, -, rfl⟩ |
    ⟨-, -, rfl⟩ | ⟨-, -, -, rfl⟩ | ⟨-, -, -, -, rfl⟩
  · refine ⟨fun _ => if_pos atSweep, fun succeeded => ?_⟩
    generalize (sweep t.loop.housekeepingLastProjectID).run env [] = run at succeeded ⊢
    obtain ⟨events, ⟨cursor, _ | err⟩ | reason⟩ := run
    · simp [earliest, Attach.afterSweep, Move.isSweep]
    all_goals simp [Happened.succeeded] at succeeded
  all_goals exact ⟨nofun, nofun⟩

theorem mem_stamped {now : Nat} {happened : Option Happened} {entry : Nat × Happened}
    (stamped : entry ∈ happened.toList.map fun first => (now, first)) :
    happened = some entry.2 ∧ entry.1 = now := by
  cases happened <;> simp_all

theorem exec_sweeps_after (t : Timed) (armed : t.Armed) (moves : List TimedMove)
    {final : Timed} {log : List (Nat × Happened)}
    (ran : t.exec sweep interval moves = some (final, log)) :
    ∀ entry ∈ log, entry.2.isSweep → t.earliest ≤ entry.1 := by
  induction moves generalizing t log with
  | nil => cases ran; exact fun _ member => absurd member (List.not_mem_nil _)
  | cons move moves ih =>
      obtain ⟨next, happened, rest, stepped, ranRest, rfl⟩ :=
        exec_cons sweep interval t move moves ran
      obtain ⟨armed', later⟩ := step_earliest sweep interval armed stepped
      intro entry member isSweep
      rcases List.mem_append.mp member with stamped | inRest
      · obtain ⟨rfl, atNow⟩ := mem_stamped stamped
        exact ((step_swept sweep interval stepped).1 isSweep).le.trans_eq atNow.symm
      · exact later.trans (ih next armed' ranRest entry inRest isSweep)

/-- Over every run from a state with an armed timer, a sweep that starts after a successful
sweep starts at least `interval` later. -/
theorem exec_spaced (t : Timed) (armed : t.Armed) (moves : List TimedMove) {final : Timed}
    {log : List (Nat × Happened)} (ran : t.exec sweep interval moves = some (final, log)) :
    log.Pairwise fun earlier later =>
      earlier.2.succeeded → later.2.isSweep → earlier.1 + interval.toNat ≤ later.1 := by
  induction moves generalizing t log with
  | nil => cases ran; exact List.Pairwise.nil
  | cons move moves ih =>
      obtain ⟨next, happened, rest, stepped, ranRest, rfl⟩ :=
        exec_cons sweep interval t move moves ran
      obtain ⟨armed', -⟩ := step_earliest sweep interval armed stepped
      refine List.pairwise_append.mpr ⟨?_, ih next armed' ranRest, ?_⟩
      · cases happened <;> simp
      · intro earlier stamped later inRest succeeded isSweep
        obtain ⟨rfl, atNow⟩ := mem_stamped stamped
        rw [atNow, ← (step_swept sweep interval stepped).2 succeeded]
        exact exec_sweeps_after sweep interval next armed' moves ranRest later inRest isSweep

/-- The timed loops as `Start` spawns them space their sweeps: over every run, a sweep that
starts after a successful sweep starts at least `interval` later. -/
theorem sweeps_spaced (moves : List TimedMove) {final : Timed} {log : List (Nat × Happened)}
    (ran : start.exec sweep interval moves = some (final, log)) :
    log.Pairwise fun earlier later =>
      earlier.2.succeeded → later.2.isSweep → earlier.1 + interval.toNat ≤ later.1 :=
  exec_spaced sweep interval start nofun moves ran

end Timed

def Housekeeping.attachDeactivateCandidatesTimed (h : Housekeeping) :
    Timed → List TimedMove → Option (Timed × List (Nat × Happened)) :=
  Timed.exec h.deactivateCandidates h.intervalDeactivateCandidates

def Housekeeping.attachDocumentHardDeletionTimed (h : Housekeeping) :
    Timed → List TimedMove → Option (Timed × List (Nat × Happened)) :=
  Timed.exec h.deleteDocument h.intervalDeleteDocuments

def Shared.Housekeeping.attachDeactivateCandidatesTimed (h : Shared.Housekeeping) :
    Timed → List TimedMove → Option (Timed × List (Nat × Happened)) :=
  Timed.exec h.deactivateCandidates h.interval

def Shared.Housekeeping.attachDocumentHardDeletionTimed (h : Shared.Housekeeping) :
    Timed → List TimedMove → Option (Timed × List (Nat × Happened)) :=
  Timed.exec h.documentHardDeletion h.interval

theorem Housekeeping.deactivation_waits_interval :
    ∃ final log,
      Housekeeping.attachDeactivateCandidatesTimed
          ⟨30000000000, 30000000000, 86400000000000, 500, 500, 100⟩ Timed.start
          [.move (.sweep oneIdleClient), .tick 30000000000, .move .fire, .move .after,
            .move (.sweep oneIdleClient)] = some (final, log) ∧
        log.Pairwise fun earlier later =>
          earlier.2.succeeded → later.2.isSweep → earlier.1 + (30000000000 : Duration).toNat ≤ later.1 :=
  ⟨_, _, rfl, Timed.sweeps_spaced
    (Housekeeping.deactivateCandidates ⟨30000000000, 30000000000, 86400000000000, 500, 500, 100⟩)
    30000000000 [.move (.sweep oneIdleClient), .tick 30000000000, .move .fire, .move .after,
      .move (.sweep oneIdleClient)] rfl⟩

theorem Housekeeping.deactivation_untimed :
    ∃ final log,
      Housekeeping.attachDeactivateCandidatesTimed
          ⟨30000000000, 30000000000, 86400000000000, 500, 500, 100⟩ Timed.start
          [.move (.sweep oneIdleClient), .tick 30000000000, .move .fire, .move .after,
            .move (.sweep oneIdleClient)] = some (final, log) ∧
        Housekeeping.attachDeactivateCandidates
            ⟨30000000000, 30000000000, 86400000000000, 500, 500, 100⟩ Attach.start
            [.sweep oneIdleClient, .fire, .after, .sweep oneIdleClient] =
          some (final.loop, log.map Prod.snd) :=
  ⟨_, _, rfl, Timed.exec_untimed
    (Housekeeping.deactivateCandidates ⟨30000000000, 30000000000, 86400000000000, 500, 500, 100⟩)
    30000000000 Timed.start [.move (.sweep oneIdleClient), .tick 30000000000, .move .fire,
      .move .after, .move (.sweep oneIdleClient)] rfl⟩

end Yorkie
