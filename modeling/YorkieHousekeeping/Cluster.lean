import YorkieHousekeeping.Entries

/-!
Replicas sharing the lock service.

Every replica runs the sweeps of one entry point, one call at a time; `Cluster.step`
interleaves the replicas' calls in any order.  The lock service is the only shared state:
a table of holders, in which `Lock` succeeds only on a free key and makes the caller its
holder, and `Unlock` may release it.  Every other call may be answered in any way.

`Cluster.Inv` holds of every reachable cluster: a replica whose sweep holds a lock is that
key's holder in the table, and every replica runs a prefix of its entry point's sweep.  A
sweep makes no call off the lock service before its lock is granted (`withLocker_reaches`),
so two replicas whose entry points lock the same key are never inside their sweeps at the
same time (`inSection_exclusive`).  The two deletion entry points lock different keys.
-/

namespace Yorkie

/-! ### Prefixes of a sweep -/

/-- `p`, answered as `trace` records, comes to `rest`. -/
inductive Prog.Reaches {α : Type} : Prog α → List Event → Prog α → Prop
  | refl (p : Prog α) : Reaches p [] p
  | call {τ : Ty} (c : Call τ) (k : Except Error τ.denote → Prog α) (reply : Except Error τ.denote)
      {trace : List Event} {rest : Prog α} :
      Reaches (k reply) trace rest → Reaches (.call c k) (⟨c, reply⟩ :: trace) rest

theorem Prog.Reaches.snoc {α : Type} {p : Prog α} {trace : List Event} {τ : Ty} {c : Call τ}
    {k : Except Error τ.denote → Prog α} (reaches : p.Reaches trace (.call c k))
    (reply : Except Error τ.denote) : p.Reaches (trace ++ [⟨c, reply⟩]) (k reply) := by
  generalize target : Prog.call c k = last at reaches
  induction reaches with
  | refl =>
      subst target
      exact .call c k reply (.refl _)
  | call c' k' reply' _ ih => exact .call c' k' reply' (ih target)

theorem Prog.Reaches.pure_nil {α : Type} {a : α} {trace : List Event} {rest : Prog α}
    (reaches : (Prog.pure a).Reaches trace rest) : trace = [] := by
  cases reaches
  rfl

/-- Before its first call off the lock service, a locked sweep has asked `NewLocker` for its
key and has been granted a lock on the locker it got. -/
theorem withLocker_reaches {key : String} {body : Prog (ID × Option Error)} {trace : List Event}
    {rest : Prog (ID × Option Error)} (reaches : (withLocker key body).Reaches trace rest)
    (offLock : ∃ event ∈ trace, event.call.isLocking = false) :
    ∃ locker more, trace = ⟨.newLocker key, .ok locker⟩ :: ⟨.lock locker, .ok ()⟩ :: more := by
  obtain ⟨event, member, off⟩ := offLock
  simp only [withLocker, Prog.bind_eq, Prog.issue_bind] at reaches
  cases reaches with
  | refl => cases member
  | call _ _ created reaches =>
      cases created with
      | error err =>
          cases reaches.pure_nil
          cases List.mem_singleton.mp member
          cases off
      | ok locker =>
          cases reaches with
          | refl =>
              cases List.mem_singleton.mp member
              cases off
          | call _ _ locked reaches =>
              cases locked with
              | error err =>
                  cases reaches.pure_nil
                  rcases member with _ | ⟨_, _ | ⟨_, ⟨⟩⟩⟩ <;> cases off
              | ok u => exact ⟨locker, _, rfl⟩

/-! ### The cluster -/

inductive Replica where
  | idle
  | running (rest : Prog (ID × Option Error)) (trace : List Event)

structure Cluster where
  replicas : Nat → Replica
  holder : String → Option Nat

inductive Choice where
  | start (replica : Nat) (cursor : ID)
  | call (replica : Nat) (answer : Env) (released : Bool)
  | finish (replica : Nat)

def Event.lockedKey? : Event → Option String
  | ⟨.lock locker, .ok _⟩ => some locker.key
  | _ => none

def Event.LockerMatches : Event → Prop
  | ⟨.newLocker key, .ok locker⟩ => Locker.key locker = key
  | _ => True

/-- The lock service's side of a call made by `replica`: `NewLocker` answers with a locker
of its key, `Lock` is granted only on a free key and makes the caller its holder, `Unlock`
may release the caller's key whatever it answers, and no other call touches the table.
`none` when the service cannot answer the call so. -/
def lockService (holder : String → Option Nat) (replica : Nat) (released : Bool) :
    Event → Option (String → Option Nat)
  | ⟨.newLocker key, .ok locker⟩ => if Locker.key locker = key then some holder else none
  | ⟨.lock locker, .ok _⟩ =>
      if holder locker.key = none then some (Function.update holder locker.key (some replica))
      else none
  | ⟨.unlock locker, _⟩ =>
      some (if released = true ∧ holder locker.key = some replica then
        Function.update holder locker.key none else holder)
  | _ => some holder

namespace Cluster

def init : Cluster := ⟨fun _ => .idle, fun _ => none⟩

variable (entries : Nat → Entry)

/-- One choice, for replicas running the sweeps of `entries`; `none` when it cannot happen. -/
def step (s : Cluster) : Choice → Option Cluster
  | .start r cursor =>
      match s.replicas r with
      | .idle =>
          some { s with
            replicas := Function.update s.replicas r (.running ((entries r).sweep cursor) []) }
      | .running .. => none
  | .call r answer released =>
      match s.replicas r with
      | .running (.call c k) trace =>
          (lockService s.holder r released ⟨c, answer trace c⟩).map fun holder =>
            ⟨Function.update s.replicas r
              (.running (k (answer trace c)) (trace ++ [⟨c, answer trace c⟩])), holder⟩
      | _ => none
  | .finish r =>
      match s.replicas r with
      | .running (.pure _) _ | .running (.abort _) _ =>
          some { s with replicas := Function.update s.replicas r .idle }
      | _ => none

def exec (s : Cluster) : List Choice → Option Cluster
  | [] => some s
  | choice :: choices => (s.step entries choice).bind fun next => next.exec choices

def Reachable (s : Cluster) : Prop :=
  ∃ choices, init.exec entries choices = some s

end Cluster

/-! ### What a replica holds -/

theorem Call.isLocking_of_isListing {τ : Ty} (call : Call τ) (listing : call.isListing) :
    call.isLocking = false := by
  cases call <;> first | rfl | cases listing

namespace Replica

def Holds (key : String) : Replica → Prop
  | .idle => False
  | .running _ trace =>
      (∃ event ∈ trace, event.lockedKey? = some key) ∧ ∀ event ∈ trace, event.call.isUnlock = false

/-- The replica's sweep has listed its page and has not called `Unlock`: it is inside the
stretch that holds its read-then-act section, which runs from the listing to the last
store action. -/
def InSection : Replica → Prop
  | .idle => False
  | .running _ trace =>
      (∃ event ∈ trace, event.call.isListing) ∧ ∀ event ∈ trace, event.call.isUnlock = false

def Sweeps (e : Entry) : Replica → Prop
  | .idle => True
  | .running rest trace =>
      (∃ cursor, (e.sweep cursor).Reaches trace rest) ∧ ∀ event ∈ trace, event.LockerMatches

instance : DecidablePred InSection
  | .idle => isFalse id
  | .running _ trace =>
      inferInstanceAs (Decidable ((∃ event ∈ trace, event.call.isListing) ∧
        ∀ event ∈ trace, event.call.isUnlock = false))

theorem Sweeps.holds {e : Entry} {replica : Replica} (sweeps : replica.Sweeps e)
    (inSection : replica.InSection) : replica.Holds e.key := by
  cases replica with
  | idle => exact inSection.elim
  | running rest trace =>
      obtain ⟨⟨cursor, reaches⟩, handedOut⟩ := sweeps
      obtain ⟨⟨listing, listed, isListing⟩, unlocked⟩ := inSection
      rw [e.sweep_eq] at reaches
      obtain ⟨locker, more, rfl⟩ := withLocker_reaches reaches
        ⟨listing, listed, listing.call.isLocking_of_isListing isListing⟩
      have fromKey : locker.key = e.key := handedOut _ (List.mem_cons_self _ _)
      exact ⟨⟨_, List.mem_cons_of_mem _ (List.mem_cons_self _ _), by simp [Event.lockedKey?, fromKey]⟩,
        unlocked⟩

end Replica

/-! ### The lock service's table -/

section LockService

variable {holder holder' : String → Option Nat} {replica : Nat} {released : Bool} {event : Event}

theorem lockService_cases (served : lockService holder replica released event = some holder') :
    (holder' = holder ∧ event.lockedKey? = none ∧ event.LockerMatches) ∨
      (∃ locker u, event = ⟨.lock locker, .ok u⟩ ∧ holder locker.key = none ∧
        holder' = Function.update holder locker.key (some replica)) ∨
      (∃ locker reply, event = ⟨.unlock locker, reply⟩ ∧ holder locker.key = some replica ∧
        holder' = Function.update holder locker.key none) := by
  obtain ⟨call, reply⟩ := event
  cases call with
  | newLocker key =>
      cases reply with
      | ok locker =>
          simp only [lockService] at served
          split_ifs at served with fromKey
          cases served
          exact .inl ⟨rfl, rfl, fromKey⟩
      | error err =>
          cases served
          exact .inl ⟨rfl, rfl, trivial⟩
  | lock locker =>
      cases reply with
      | ok u =>
          simp only [lockService] at served
          split_ifs at served with free
          cases served
          exact .inr (.inl ⟨locker, u, rfl, free, rfl⟩)
      | error err =>
          cases served
          exact .inl ⟨rfl, rfl, trivial⟩
  | unlock locker =>
      simp only [lockService] at served
      split_ifs at served with release <;> cases served
      · exact .inr (.inr ⟨locker, reply, rfl, release.2, rfl⟩)
      · exact .inl ⟨rfl, rfl, trivial⟩
  | _ =>
      cases served
      exact .inl ⟨rfl, rfl, trivial⟩

theorem lockService_matches (served : lockService holder replica released event = some holder') :
    event.LockerMatches := by
  rcases lockService_cases served with ⟨-, -, handedOut⟩ | ⟨_, _, rfl, -⟩ | ⟨_, _, rfl, -⟩
  exacts [handedOut, trivial, trivial]

theorem lockService_takes (served : lockService holder replica released event = some holder')
    {key : String} (granted : event.lockedKey? = some key) : holder' key = some replica := by
  rcases lockService_cases served with ⟨-, notGranted, -⟩ | ⟨_, _, rfl, -, rfl⟩ | ⟨_, _, rfl, -⟩
  · simp [notGranted] at granted
  · cases granted
    exact Function.update_same _ _ _
  · cases granted

theorem lockService_keeps (served : lockService holder replica released event = some holder')
    {key : String} {r : Nat} (held : holder key = some r)
    (kept : r = replica → event.call.isUnlock = false) : holder' key = some r := by
  rcases lockService_cases served with ⟨rfl, -⟩ | ⟨locker, _, rfl, free, rfl⟩ |
    ⟨locker, _, rfl, heldByCaller, rfl⟩
  · exact held
  · rw [Function.update_noteq]
    · exact held
    · rintro rfl
      simp [free] at held
  · rw [Function.update_noteq]
    · exact held
    · rintro rfl
      cases kept (Option.some.inj (held.symm.trans heldByCaller))

end LockService

/-! ### The invariant -/

namespace Cluster

variable (entries : Nat → Entry)

theorem step_cases {s s' : Cluster} {choice : Choice} (stepped : s.step entries choice = some s') :
    (∃ r cursor, s.replicas r = .idle ∧
        s' = { s with
          replicas := Function.update s.replicas r (.running ((entries r).sweep cursor) []) }) ∨
      (∃ (r : Nat) (released : Bool) (τ : Ty) (c : Call τ)
          (k : Except Error τ.denote → Prog (ID × Option Error)) (trace : List Event)
          (reply : Except Error τ.denote) (holder : String → Option Nat),
        s.replicas r = .running (.call c k) trace ∧
        lockService s.holder r released ⟨c, reply⟩ = some holder ∧
        s' = ⟨Function.update s.replicas r (.running (k reply) (trace ++ [⟨c, reply⟩])), holder⟩) ∨
      (∃ r rest trace, s.replicas r = .running rest trace ∧
        s' = { s with replicas := Function.update s.replicas r .idle }) := by
  cases choice with
  | start r cursor =>
      simp only [step] at stepped
      split at stepped
      · rename_i idle
        exact .inl ⟨r, cursor, idle, (Option.some.inj stepped).symm⟩
      · cases stepped
  | call r answer released =>
      simp only [step] at stepped
      split at stepped
      · rename_i τ c k trace running
        obtain ⟨holder, served, rfl⟩ := Option.map_eq_some'.mp stepped
        exact .inr (.inl ⟨r, released, τ, c, k, trace, _, holder, running, served, rfl⟩)
      · cases stepped
  | finish r =>
      simp only [step] at stepped
      split at stepped
      all_goals
        cases stepped
        try (rename_i running; exact .inr (.inr ⟨r, _, _, running, rfl⟩))

/-- Every replica runs a prefix of its entry point's sweep, and whoever holds a lock is that
key's holder in the table. -/
structure Inv (s : Cluster) : Prop where
  sweeps : ∀ r, (s.replicas r).Sweeps (entries r)
  holders : ∀ r key, (s.replicas r).Holds key → s.holder key = some r

theorem inv_init : init.Inv entries :=
  ⟨fun _ => trivial, fun _ _ holds => holds.elim⟩

theorem Inv.update {s : Cluster} (inv : s.Inv entries) {r : Nat} {replica : Replica}
    (sweeps : replica.Sweeps (entries r)) (holdsNothing : ∀ key, ¬ replica.Holds key) :
    Inv entries { s with replicas := Function.update s.replicas r replica } := by
  refine ⟨fun r0 => ?_, fun r0 key holds => ?_⟩
  all_goals rcases eq_or_ne r0 r with rfl | other
  · simpa only [Function.update_same] using sweeps
  · simpa only [Function.update_noteq other] using inv.sweeps r0
  · simp only [Function.update_same] at holds
    exact (holdsNothing key holds).elim
  · simp only [Function.update_noteq other] at holds
    exact inv.holders r0 key holds

/-- One choice keeps the invariant. -/
theorem step_inv {s s' : Cluster} {choice : Choice} (inv : s.Inv entries)
    (stepped : s.step entries choice = some s') : s'.Inv entries := by
  rcases step_cases entries stepped with ⟨r, cursor, -, rfl⟩ |
    ⟨r, released, τ, c, k, trace, reply, holder, running, served, rfl⟩ | ⟨r, rest, trace, -, rfl⟩
  · refine inv.update entries ⟨⟨cursor, .refl _⟩, fun _ none => absurd none (List.not_mem_nil _)⟩
      fun _ holds => ?_
    obtain ⟨⟨_, none, -⟩, -⟩ := holds
    exact absurd none (List.not_mem_nil _)
  · have sweepsR := inv.sweeps r
    rw [running] at sweepsR
    obtain ⟨⟨cursor, reaches⟩, handedOut⟩ := sweepsR
    refine ⟨fun r0 => ?_, fun r0 key holds => ?_⟩
    all_goals rcases eq_or_ne r0 r with rfl | other
    · simp only [Function.update_same]
      refine ⟨⟨cursor, reaches.snoc reply⟩, fun event member => ?_⟩
      rcases List.mem_append.mp member with inTrace | fresh
      · exact handedOut event inTrace
      · rw [List.mem_singleton.mp fresh]
        exact lockService_matches served
    · simpa only [Function.update_noteq other] using inv.sweeps r0
    · simp only [Function.update_same] at holds
      obtain ⟨⟨event, member, locked⟩, unlocked⟩ := holds
      rcases List.mem_append.mp member with inTrace | fresh
      · have heldBefore : (s.replicas r0).Holds key := by
          rw [running]
          exact ⟨⟨event, inTrace, locked⟩, fun event member =>
            unlocked event (List.mem_append_left _ member)⟩
        exact lockService_keeps served (inv.holders r0 key heldBefore) fun _ =>
          unlocked _ (List.mem_append_right _ (List.mem_singleton_self _))
      · rw [List.mem_singleton.mp fresh] at locked
        exact lockService_takes served locked
    · simp only [Function.update_noteq other] at holds
      exact lockService_keeps served (inv.holders r0 key holds) fun same => absurd same other
  · exact inv.update entries trivial fun _ holds => holds

theorem exec_inv {s s' : Cluster} {choices : List Choice} (inv : s.Inv entries)
    (ran : s.exec entries choices = some s') : s'.Inv entries := by
  induction choices generalizing s with
  | nil =>
      cases ran
      exact inv
  | cons choice choices ih =>
      obtain ⟨next, stepped, ranRest⟩ := Option.bind_eq_some.mp ran
      exact ih (step_inv entries inv stepped) ranRest

theorem Reachable.inv {s : Cluster} (reachable : s.Reachable entries) : s.Inv entries :=
  let ⟨_, ran⟩ := reachable
  exec_inv entries (inv_init entries) ran

/-- Two replicas whose entry points lock the same key are never inside their sweeps at the
same time, in any reachable cluster: whatever the number of replicas, the interleaving of
their calls and the answers of the store. -/
theorem inSection_exclusive {s : Cluster} (reachable : s.Reachable entries) {r r' : Nat}
    (sameKey : (entries r).key = (entries r').key) (inSection : (s.replicas r).InSection)
    (inSection' : (s.replicas r').InSection) : r = r' := by
  have inv := reachable.inv
  have held := inv.holders r _ ((inv.sweeps r).holds inSection)
  have held' := inv.holders r' _ ((inv.sweeps r').holds inSection')
  rw [sameKey, held'] at held
  exact (Option.some.inj held).symm

end Cluster

/-! ### The two sweep kinds -/

theorem Entry.key_of_deactivation {e : Entry} (deactivation : e.kind = .deactivation) :
    e.key = Housekeeping.deactivateCandidatesKey := by
  cases e <;> first | rfl | cases deactivation

/-- Two replicas sweeping client deactivation, through either entry point, are never inside
their sweeps at the same time. -/
theorem deactivation_exclusive (entries : Nat → Entry) {s : Cluster}
    (reachable : s.Reachable entries) {r r' : Nat} (deactivation : (entries r).kind = .deactivation)
    (deactivation' : (entries r').kind = .deactivation) (inSection : (s.replicas r).InSection)
    (inSection' : (s.replicas r').InSection) : r = r' :=
  Cluster.inSection_exclusive entries reachable
    (by rw [Entry.key_of_deactivation deactivation, Entry.key_of_deactivation deactivation'])
    inSection inSection'

def mixedDeactivation (r : Nat) : Entry :=
  if r = 0 then .deactivateCandidates ⟨30000000000, 30000000000, 86400000000000, 500, 500, 100⟩
  else .deactivateInactives 500 100

def mixedDeletion (r : Nat) : Entry :=
  if r = 0 then .deleteDocument ⟨30000000000, 30000000000, 86400000000000, 500, 500, 100⟩
  else .deleteDocuments 500 86400000000000 100

def bothListed : List Choice :=
  [.start 0 defaultProjectID, .call 0 grantingStore false, .call 0 grantingStore false,
    .call 0 grantingStore false, .start 1 defaultProjectID, .call 1 grantingStore false,
    .call 1 grantingStore false, .call 1 grantingStore false]

/-- The lock service refuses replica 1's `Lock` in `bothListed`, and no reachable cluster has
replicas 0 and 1, sweeping client deactivation through the two entry points, both inside
their sweeps. -/
theorem mixedDeactivation_exclusive :
    Cluster.init.exec mixedDeactivation bothListed = none ∧
      ((∃ s : Cluster, s.Reachable mixedDeactivation ∧ (s.replicas 0).InSection ∧
          (s.replicas 1).InSection) ↔ False) :=
  ⟨rfl, fun ⟨_, reachable, inSection, inSection'⟩ => absurd
      (deactivation_exclusive mixedDeactivation reachable (by rfl) (by rfl) inSection inSection') (by decide),
    False.elim⟩

def sameDeletion (_ : Nat) : Entry :=
  .deleteDocument ⟨30000000000, 30000000000, 86400000000000, 500, 500, 100⟩

/-- Through one entry point, the second replica's `Lock` in `bothListed` is refused, and no
reachable cluster has replicas 0 and 1 both inside their sweeps. -/
theorem deletion_same_entry_exclusive :
    Cluster.init.exec sameDeletion bothListed = none ∧
      ((∃ s : Cluster, s.Reachable sameDeletion ∧ (s.replicas 0).InSection ∧
          (s.replicas 1).InSection) ↔ False) :=
  ⟨rfl, fun ⟨_, reachable, inSection, inSection'⟩ => absurd
      (Cluster.inSection_exclusive sameDeletion reachable (by rfl) inSection inSection') (by decide),
    False.elim⟩

/-- Replicas 0 and 1 sweep document hard deletion through the two entry points: both take
their locks, which are on different keys, both list their pages, and both are about to pass
their batches to the store at once. -/
theorem deletion_entry_points_overlap :
    ∃ s, Cluster.init.exec mixedDeletion bothListed = some s ∧
      (mixedDeletion 0).kind = (mixedDeletion 1).kind ∧
      (s.replicas 0).InSection ∧ (s.replicas 1).InSection ∧
      (∃ k trace, s.replicas 0 = .running (.call (.deleteDocument []) k) trace) ∧
      ∃ k trace, s.replicas 1 = .running (.call (.deleteDocuments []) k) trace :=
  ⟨_, rfl, rfl, by decide, by decide, ⟨_, _, rfl⟩, ⟨_, _, rfl⟩⟩

end Yorkie
