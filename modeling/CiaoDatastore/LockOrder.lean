import CiaoDatastore.Locks
import Mathlib.Algebra.Order.BigOperators.Group.Finset
import Mathlib.Data.Fintype.Lattice
import Mathlib.Tactic.DeriveFintype

/-! Lock order. A thread that takes each mutex only while every mutex it holds ranks below it,
and releases what it takes, never waits in a cycle: the thread a waiter waits for holds the
mutex, so that thread waits at a mutex of higher rank (`Disciplined.not_deadlocked`). The
invariant behind it is kept by every step (`Disciplined.of_step`): what a thread holds is read
off the mutex states, and a writer that has claimed a mutex is at its `Lock`. Every step also
lowers what is left to do, so every schedule of such threads ends with every call made
(`Disciplined.finishes`). -/
namespace CiaoDatastore.Locks

deriving instance Fintype for Mutex

/-- The mutexes a thread holds after the calls, from `held`, each with `true` when it holds it for
writing; `none` once a call takes a mutex not ranked above every one it holds, or releases one it
does not hold in that mode. -/
def afterCalls (rank : Mutex → Nat) : (held : List (Mutex × Bool)) → List LockCall → Option (List (Mutex × Bool))
  | held,[] => some held
  | held,.lock m :: rest => if held.all (rank ·.1 < rank m) then afterCalls rank ((m,true) :: held) rest else none
  | held,.rlock m :: rest => if held.all (rank ·.1 < rank m) then afterCalls rank ((m,false) :: held) rest else none
  | held,.unlock m :: rest => if (m,true) ∈ held then afterCalls rank (held.erase (m,true)) rest else none
  | held,.runlock m :: rest => if (m,false) ∈ held then afterCalls rank (held.erase (m,false)) rest else none

/-- The calls take mutexes in increasing rank and release every one they take. -/
def Ranked (rank : Mutex → Nat) (calls : List LockCall) : Prop := afterCalls rank [] calls = some []

instance (rank : Mutex → Nat) (calls : List LockCall) : Decidable (Ranked rank calls) :=
  inferInstanceAs (Decidable (afterCalls rank [] calls = some []))

section Ranked
variable {rank : Mutex → Nat}

theorem afterCalls_append (held : List (Mutex × Bool)) (calls calls' : List LockCall) :
    afterCalls rank held (calls ++ calls') = (afterCalls rank held calls).bind (afterCalls rank · calls') := by
  induction calls generalizing held with
  | nil => rfl
  | cons call calls ih => cases call <;> simp only [List.cons_append,afterCalls] <;> split <;> first | exact ih _ | rfl

theorem afterCalls_flatten {α : Type} {held : List (Mutex × Bool)} {f : α → List LockCall} {xs : List α}
    (each : ∀ x ∈ xs, afterCalls rank held (f x) = some held) : afterCalls rank held (xs.map f).flatten = some held := by
  induction xs with
  | nil => rfl
  | cons x xs ih =>
    rw [List.map_cons,List.flatten_cons,afterCalls_append,each x (List.mem_cons_self x xs),Option.some_bind]
    exact ih fun y mem => each y (List.mem_cons_of_mem x mem)

private theorem not_mem_of_ranked_below {held : List (Mutex × Bool)} {m : Mutex} (below : held.all (rank ·.1 < rank m))
    (b : Bool) : (m,b) ∉ held := fun mem =>
  Nat.lt_irrefl _ (of_decide_eq_true (List.all_eq_true.mp below _ mem))

private theorem afterCalls_lock {held final : List (Mutex × Bool)} {m : Mutex} {rest : List LockCall} :
    afterCalls rank held (.lock m :: rest) = some final ↔
      held.all (rank ·.1 < rank m) ∧ afterCalls rank ((m,true) :: held) rest = some final := by
  rw [afterCalls]; split <;> simp [*]

private theorem afterCalls_rlock {held final : List (Mutex × Bool)} {m : Mutex} {rest : List LockCall} :
    afterCalls rank held (.rlock m :: rest) = some final ↔
      held.all (rank ·.1 < rank m) ∧ afterCalls rank ((m,false) :: held) rest = some final := by
  rw [afterCalls]; split <;> simp [*]

private theorem afterCalls_unlock {held final : List (Mutex × Bool)} {m : Mutex} {rest : List LockCall} :
    afterCalls rank held (.unlock m :: rest) = some final ↔
      (m,true) ∈ held ∧ afterCalls rank (held.erase (m,true)) rest = some final := by
  rw [afterCalls]; split <;> simp [*]

private theorem afterCalls_runlock {held final : List (Mutex × Bool)} {m : Mutex} {rest : List LockCall} :
    afterCalls rank held (.runlock m :: rest) = some final ↔
      (m,false) ∈ held ∧ afterCalls rank (held.erase (m,false)) rest = some final := by
  rw [afterCalls]; split <;> simp [*]

end Ranked

/-- What a step of thread `t` does at its next call, followed by `rest`: a `Lock` claims a free
mutex, or takes the mutex it claimed once no reader is left; a `RLock` reads a mutex no writer
claims; `Unlock` and `RUnlock` always go through. -/
inductive StepBy (cfg : Config) (t : Nat) (rest : List LockCall) : LockCall → Config → Prop
  | claim (m : Mutex) (free : (cfg.mutexes m).writer = none) :
      StepBy cfg t rest (.lock m) ⟨Function.update cfg.mutexes m {cfg.mutexes m with writer := some (t,false)},cfg.threads⟩
  | acquire (m : Mutex) (claimed : (cfg.mutexes m).writer = some (t,false)) (empty : (cfg.mutexes m).readers = []) :
      StepBy cfg t rest (.lock m)
        ⟨Function.update cfg.mutexes m {cfg.mutexes m with writer := some (t,true)},cfg.threads.set t rest⟩
  | unlock (m : Mutex) :
      StepBy cfg t rest (.unlock m) ⟨Function.update cfg.mutexes m {cfg.mutexes m with writer := none},cfg.threads.set t rest⟩
  | rlock (m : Mutex) (free : (cfg.mutexes m).writer = none) :
      StepBy cfg t rest (.rlock m)
        ⟨Function.update cfg.mutexes m {cfg.mutexes m with readers := t :: (cfg.mutexes m).readers},cfg.threads.set t rest⟩
  | runlock (m : Mutex) :
      StepBy cfg t rest (.runlock m)
        ⟨Function.update cfg.mutexes m {cfg.mutexes m with readers := (cfg.mutexes m).readers.erase t},cfg.threads.set t rest⟩

private theorem step_some {cfg cfg' : Config} {t : Nat} (run : step cfg t = some cfg') :
    ∃ call rest, cfg.threads.getD t [] = call :: rest ∧ StepBy cfg t rest call cfg' := by
  unfold step at run
  split at run
  · cases run
  rename_i call rest next
  refine ⟨call,rest,next,?_⟩
  cases call with
  | lock m =>
    dsimp only at run
    split at run
    · cases run; exact .claim m ‹_›
    · split at run
      · obtain ⟨rfl,empty⟩ := ‹_ ∧ _›; cases run; exact .acquire m ‹_› empty
      · cases run
    · cases run
  | unlock m => cases run; exact .unlock m
  | rlock m =>
    dsimp only at run
    split at run
    · cases run; exact .rlock m ‹_›
    · cases run
  | runlock m => cases run; exact .runlock m

/-- Thread `t` holds `m`, for writing or for reading. -/
def Holds (cfg : Config) (t : Nat) (m : Mutex) : Prop :=
  (cfg.mutexes m).writer = some (t,true) ∨ t ∈ (cfg.mutexes m).readers

/-- `held` is what thread `t` holds, once each, with `true` for writing. -/
def HeldBy (cfg : Config) (t : Nat) (held : List (Mutex × Bool)) : Prop :=
  held.Nodup ∧ ∀ m, ((m,true) ∈ held ↔ (cfg.mutexes m).writer = some (t,true)) ∧
    ((m,false) ∈ held ↔ t ∈ (cfg.mutexes m).readers)

/-- Each thread's remaining calls release what it holds and take mutexes in rank order; a writer
that has claimed a mutex is at its `Lock`; no thread reads a mutex twice. -/
structure Disciplined (rank : Mutex → Nat) (cfg : Config) : Prop where
  holding : ∀ t, ∃ held, HeldBy cfg t held ∧ afterCalls rank held (cfg.threads.getD t []) = some []
  claimant : ∀ m t, (cfg.mutexes m).writer = some (t,false) → ∃ rest, cfg.threads.getD t [] = .lock m :: rest
  readers_nodup : ∀ m, (cfg.mutexes m).readers.Nodup

private theorem lt_length_of_getD {threads : List (List LockCall)} {t : Nat} {call : LockCall} {rest : List LockCall}
    (next : threads.getD t [] = call :: rest) : t < threads.length := by
  rw [List.getD_eq_getElem?_getD] at next
  by_contra over
  rw [List.getElem?_eq_none (Nat.le_of_not_lt over)] at next
  cases next

private theorem getD_set_ne {threads : List (List LockCall)} {t u : Nat} (rest : List LockCall) (ne : u ≠ t) :
    (threads.set t rest).getD u [] = threads.getD u [] := by
  simp only [List.getD_eq_getElem?_getD,List.getElem?_set_ne (Ne.symm ne)]

private theorem getD_set_self {threads : List (List LockCall)} {t : Nat} {call : LockCall} {rest : List LockCall}
    (next : threads.getD t [] = call :: rest) (rest' : List LockCall) : (threads.set t rest').getD t [] = rest' := by
  simp only [List.getD_eq_getElem?_getD,List.getElem?_set_self (lt_length_of_getD next),Option.getD_some]

theorem HeldBy.update {cfg : Config} {t : Nat} {held held' : List (Mutex × Bool)} {m : Mutex} {s : MutexState}
    (h : HeldBy cfg t held) (nodup : held'.Nodup) (others : ∀ m' b, m' ≠ m → ((m',b) ∈ held' ↔ (m',b) ∈ held))
    (write : (m,true) ∈ held' ↔ s.writer = some (t,true)) (read : (m,false) ∈ held' ↔ t ∈ s.readers)
    (threads : List (List LockCall)) : HeldBy ⟨Function.update cfg.mutexes m s,threads⟩ t held' := by
  refine ⟨nodup,fun m' => ?_⟩
  by_cases same : m' = m
  · subst same; simp only [Function.update_same]; exact ⟨write,read⟩
  · simp only [Function.update_noteq same,others m' _ same]; exact h.2 m'

section Step
variable {rank : Mutex → Nat} {cfg : Config}

theorem Disciplined.start {threads : List (List LockCall)} (ranked : ∀ calls ∈ threads, Ranked rank calls) :
    Disciplined rank (.start threads) where
  holding t := by
    refine ⟨[],⟨List.nodup_nil,fun m => by simp [Config.start,MutexState.free]⟩,?_⟩
    simp only [Config.start,List.getD_eq_getElem?_getD]
    cases got : threads[t]? with
    | none => rfl
    | some calls => exact ranked calls (List.getElem?_mem got)
  claimant _ _ claimed := by cases claimed
  readers_nodup _ := List.nodup_nil

/-- A thread claims only the mutex its next call locks. -/
private theorem Disciplined.claims_next (h : Disciplined rank cfg) {t : Nat} {call : LockCall} {rest : List LockCall}
    (next : cfg.threads.getD t [] = call :: rest) {m : Mutex} (claimed : (cfg.mutexes m).writer = some (t,false)) :
    call = .lock m := by
  obtain ⟨_,locks⟩ := h.claimant m t claimed
  rw [next] at locks
  exact (List.cons.inj locks).1

private theorem Disciplined.of_update (h : Disciplined rank cfg) {t : Nat} {call : LockCall} {rest : List LockCall}
    (next : cfg.threads.getD t [] = call :: rest) {m : Mutex} (names : ∀ m', call = .lock m' → m' = m)
    {s : MutexState} {threads : List (List LockCall)} (same : ∀ u ≠ t, threads.getD u [] = cfg.threads.getD u [])
    (writer : ∀ u ≠ t, ∀ b, s.writer = some (u,b) ↔ (cfg.mutexes m).writer = some (u,b))
    (reader : ∀ u ≠ t, u ∈ s.readers ↔ u ∈ (cfg.mutexes m).readers) (nodup : s.readers.Nodup)
    (own : ∃ held, HeldBy ⟨Function.update cfg.mutexes m s,threads⟩ t held ∧
      afterCalls rank held (threads.getD t []) = some [])
    (claim : s.writer = some (t,false) → ∃ rest, threads.getD t [] = .lock m :: rest) :
    Disciplined rank ⟨Function.update cfg.mutexes m s,threads⟩ where
  holding u := by
    by_cases self : u = t
    · subst self; exact own
    obtain ⟨held,heldBy,after⟩ := h.holding u
    refine ⟨held,heldBy.update heldBy.1 (fun _ _ _ => Iff.rfl) ?_ ?_ threads,same u self ▸ after⟩
    · exact (heldBy.2 m).1.trans (writer u self true).symm
    · exact (heldBy.2 m).2.trans (reader u self).symm
  claimant m' u claimed := by
    change (Function.update cfg.mutexes m s m').writer = _ at claimed
    by_cases here : m' = m
    · subst here
      rw [Function.update_same] at claimed
      by_cases self : u = t
      · subst self; exact claim claimed
      · rw [same u self]; exact h.claimant m' u ((writer u self false).mp claimed)
    · rw [Function.update_noteq here] at claimed
      by_cases self : u = t
      · subst self; exact absurd (names m' (h.claims_next next claimed)) here
      · rw [same u self]; exact h.claimant m' u claimed
  readers_nodup m' := by
    show (Function.update cfg.mutexes m s m').readers.Nodup
    by_cases here : m' = m
    · subst here; rw [Function.update_same]; exact nodup
    · rw [Function.update_noteq here]; exact h.readers_nodup m'

/-- Every step keeps the invariant. -/
private theorem Disciplined.of_step (h : Disciplined rank cfg) {t : Nat} {cfg' : Config} (run : step cfg t = some cfg') :
    Disciplined rank cfg' := by
  obtain ⟨call,rest,next,stepped⟩ := step_some run
  obtain ⟨held,heldBy,after⟩ := h.holding t
  rw [next] at after
  have others : ∀ u ≠ t, (cfg.threads.set t rest).getD u [] = cfg.threads.getD u [] := fun u => getD_set_ne rest
  have locks : ∀ m m', LockCall.lock m = .lock m' → m' = m := fun _ _ eq => (LockCall.lock.inj eq).symm
  cases stepped with
  | claim m free =>
    -- `t` claims the free mutex and stays at its `Lock`
    refine h.of_update next (locks m) (fun _ _ => rfl) (fun u self b => ?_) (fun _ _ => Iff.rfl) (h.readers_nodup m)
      ⟨held,heldBy.update heldBy.1 (fun _ _ _ => Iff.rfl) ?_ ?_ _,?_⟩ fun _ => ⟨rest,next⟩
    · simp only [free,Option.some.injEq,Prod.mk.injEq,Ne.symm self,false_and,reduceCtorEq]
    · rw [(heldBy.2 m).1,free]; simp
    · exact (heldBy.2 m).2
    · rw [next]; exact after
  | acquire m claimed empty =>
    -- `t` holds its claim and no reader is left: it takes the mutex
    obtain ⟨below,after⟩ := afterCalls_lock.mp after
    refine h.of_update next (locks m) others (fun u self b => ?_) (fun _ _ => Iff.rfl) (h.readers_nodup m)
      ⟨(m,true) :: held,heldBy.update ?_ ?_ ?_ ?_ _,?_⟩ fun taken => by simp at taken
    · simp only [claimed,Option.some.injEq,Prod.mk.injEq,Ne.symm self,false_and]
    · exact List.nodup_cons.mpr ⟨not_mem_of_ranked_below below true,heldBy.1⟩
    · intro m' b other; simp [other]
    · simp
    · simpa [empty] using not_mem_of_ranked_below below false
    · rw [getD_set_self next]; exact after
  | unlock m =>
    obtain ⟨mem,after⟩ := afterCalls_unlock.mp after
    have writing := (heldBy.2 m).1.mp mem
    refine h.of_update next (fun _ => LockCall.noConfusion) others (fun u self b => ?_) (fun _ _ => Iff.rfl)
      (h.readers_nodup m) ⟨held.erase (m,true),heldBy.update (heldBy.1.erase _) ?_ ?_ ?_ _,?_⟩ nofun
    · simp only [writing,Option.some.injEq,Prod.mk.injEq,Ne.symm self,false_and,reduceCtorEq]
    · intro m' b other; exact List.mem_erase_of_ne (by simp [other])
    · simp only [heldBy.1.not_mem_erase,reduceCtorEq]
    · rw [List.mem_erase_of_ne (by simp)]; exact (heldBy.2 m).2
    · rw [getD_set_self next]; exact after
  | rlock m free =>
    obtain ⟨below,after⟩ := afterCalls_rlock.mp after
    have fresh : t ∉ (cfg.mutexes m).readers := fun mem =>
      not_mem_of_ranked_below below false ((heldBy.2 m).2.mpr mem)
    refine h.of_update next (fun _ => LockCall.noConfusion) others (fun _ _ _ => Iff.rfl) (fun u self => ?_)
      (List.nodup_cons.mpr ⟨fresh,h.readers_nodup m⟩) ⟨(m,false) :: held,heldBy.update ?_ ?_ ?_ ?_ _,?_⟩
      fun claimed => by simp [free] at claimed
    · simp [self]
    · exact List.nodup_cons.mpr ⟨not_mem_of_ranked_below below false,heldBy.1⟩
    · intro m' b other; simp [other]
    · simpa [free] using not_mem_of_ranked_below below true
    · simp
    · rw [getD_set_self next]; exact after
  | runlock m =>
    obtain ⟨mem,after⟩ := afterCalls_runlock.mp after
    have nodup := h.readers_nodup m
    refine h.of_update next (fun _ => LockCall.noConfusion) others (fun _ _ _ => Iff.rfl)
      (fun u self => List.mem_erase_of_ne self) (nodup.erase t)
      ⟨held.erase (m,false),heldBy.update (heldBy.1.erase _) ?_ ?_ ?_ _,?_⟩
      fun claimed => LockCall.noConfusion (h.claims_next next claimed)
    · intro m' b other; exact List.mem_erase_of_ne (by simp [other])
    · rw [List.mem_erase_of_ne (by simp)]; exact (heldBy.2 m).1
    · simp only [heldBy.1.not_mem_erase,nodup.not_mem_erase]
    · rw [getD_set_self next]; exact after

/-- In every interleaving of threads whose calls are ranked, started with the mutexes free, the
invariant holds. -/
theorem disciplined_reachable {threads : List (List LockCall)} (ranked : ∀ calls ∈ threads, Ranked rank calls)
    (run : Relation.ReflTransGen Steps (.start threads) cfg) : Disciplined rank cfg := by
  induction run with
  | refl => exact .start ranked
  | tail _ stepped ih => obtain ⟨t,stepped⟩ := stepped; exact ih.of_step stepped

end Step

/-- Thread `t`'s next call takes `m`. -/
def Waiting (cfg : Config) (t : Nat) (m : Mutex) : Prop :=
  ∃ rest, cfg.threads.getD t [] = .lock m :: rest ∨ cfg.threads.getD t [] = .rlock m :: rest

section Deadlock
variable {rank : Mutex → Nat} {cfg : Config} (stuck : ∀ t < cfg.threads.length, step cfg t = none)
include stuck

private theorem waiting_of_stuck {t : Nat} {call : LockCall} {rest : List LockCall} (next : cfg.threads.getD t [] = call :: rest) :
    ∃ m, Waiting cfg t m := by
  have blocked := stuck t (lt_length_of_getD next)
  unfold step at blocked
  rw [next] at blocked
  cases call with
  | lock m => exact ⟨m,rest,.inl next⟩
  | rlock m => exact ⟨m,rest,.inr next⟩
  | unlock m => cases blocked
  | runlock m => cases blocked

private theorem Disciplined.held_of_waiting (h : Disciplined rank cfg) {t : Nat} {m : Mutex} (waits : Waiting cfg t m) :
    ∃ u, Holds cfg u m := by
  obtain ⟨rest,next | next⟩ := waits <;>
  · have blocked := stuck t (lt_length_of_getD next)
    unfold step at blocked
    rw [next] at blocked
    match writing : (cfg.mutexes m).writer with
    | none => simp [writing] at blocked
    | some (u,true) => exact ⟨u,.inl writing⟩
    | some (u,false) =>
      obtain ⟨rest',locks⟩ := h.claimant m u writing
      have waits := stuck u (lt_length_of_getD locks)
      unfold step at waits
      rw [locks] at waits
      simp only [writing,true_and] at waits
      have busy : (cfg.mutexes m).readers ≠ [] := fun empty => by simp [empty] at waits
      obtain ⟨r,rs,listed⟩ := List.exists_cons_of_ne_nil busy
      exact ⟨r,.inr (by rw [listed]; exact List.mem_cons_self r rs)⟩

private theorem Disciplined.waits_above (h : Disciplined rank cfg) {u : Nat} {m : Mutex} (holds : Holds cfg u m) :
    ∃ m', Waiting cfg u m' ∧ rank m < rank m' := by
  obtain ⟨held,heldBy,after⟩ := h.holding u
  obtain ⟨b,mem⟩ : ∃ b, (m,b) ∈ held :=
    holds.elim (fun w => ⟨true,(heldBy.2 m).1.mpr w⟩) (fun r => ⟨false,(heldBy.2 m).2.mpr r⟩)
  match next : cfg.threads.getD u [] with
  | [] =>
    rw [next] at after
    cases Option.some.inj after
    cases mem
  | call :: rest =>
    obtain ⟨m',waits⟩ := waiting_of_stuck stuck next
    refine ⟨m',waits,?_⟩
    rw [next] at after
    obtain ⟨rest',locks | locks⟩ := waits <;> rw [next] at locks <;> cases locks
    · exact of_decide_eq_true (List.all_eq_true.mp (afterCalls_lock.mp after).1 _ mem)
    · exact of_decide_eq_true (List.all_eq_true.mp (afterCalls_rlock.mp after).1 _ mem)

end Deadlock

/-- No reachable state of disciplined threads is a deadlock: the waiting ranks would climb for
ever. -/
theorem Disciplined.not_deadlocked {rank : Mutex → Nat} {cfg : Config} (h : Disciplined rank cfg) :
    ¬ Deadlocked cfg := by
  rintro ⟨⟨t,_,busy⟩,stuck⟩
  obtain ⟨call,rest,next⟩ := List.exists_cons_of_ne_nil busy
  obtain ⟨m,waits⟩ := waiting_of_stuck stuck next
  have : Nonempty Mutex := ⟨m⟩
  obtain ⟨top,highest⟩ := Finite.exists_max rank
  suffices never : ∀ n m t, rank top - rank m = n → ¬ Waiting cfg t m from never _ m t rfl waits
  intro n
  induction n using Nat.strong_induction_on with
  | _ n ih =>
    rintro m t rfl waits
    obtain ⟨u,holds⟩ := h.held_of_waiting stuck waits
    obtain ⟨m',waits',higher⟩ := h.waits_above stuck holds
    exact ih _ (by have := highest m'; omega) m' u rfl waits'

/-- Thread `t` has claimed a mutex and waits for its readers to leave. -/
def Claims (cfg : Config) (t : Nat) : Prop := ∃ m, (cfg.mutexes m).writer = some (t,false)

instance (cfg : Config) (t : Nat) : Decidable (Claims cfg t) :=
  inferInstanceAs (Decidable (∃ m, (cfg.mutexes m).writer = some (t,false)))

/-- Twice the lock calls thread `t` has left, and one more until it claims the mutex of its next
`Lock`. -/
def weight (cfg : Config) (t : Nat) : Nat := 2 * (cfg.threads.getD t []).length + if Claims cfg t then 0 else 1

/-- What the threads have left to do; every step lowers it (`Disciplined.pending_lt`). -/
def pending (cfg : Config) : Nat := (Finset.range cfg.threads.length).sum (weight cfg)

/-- Every schedule from `cfg` ends with every thread's calls made: they all are, or some thread
can move and every move leads to such a state. -/
inductive Finishes : Config → Prop
  | done {cfg : Config} (finished : ∀ t, cfg.threads.getD t [] = []) : Finishes cfg
  | next {cfg : Config} (moves : ∃ t, step cfg t ≠ none) (after : ∀ cfg', Steps cfg cfg' → Finishes cfg') :
      Finishes cfg

section Finishing
variable {rank : Mutex → Nat} {cfg cfg' : Config} {t : Nat} {call : LockCall} {rest : List LockCall}

theorem StepBy.length (stepped : StepBy cfg t rest call cfg') : cfg'.threads.length = cfg.threads.length := by
  cases stepped <;> simp only [List.length_set]

private theorem StepBy.getD_other (stepped : StepBy cfg t rest call cfg') {u : Nat} (other : u ≠ t) :
    cfg'.threads.getD u [] = cfg.threads.getD u [] := by
  cases stepped
  case claim => rfl
  all_goals exact getD_set_ne rest other

private theorem claims_update {m : Mutex} {s : MutexState} {threads : List (List LockCall)} {u : Nat}
    (same : s.writer = some (u,false) ↔ (cfg.mutexes m).writer = some (u,false)) :
    Claims ⟨Function.update cfg.mutexes m s,threads⟩ u ↔ Claims cfg u := by
  refine exists_congr fun m' => ?_
  by_cases here : m' = m
  · subst here; simp only [Function.update_same]; exact same
  · simp only [Function.update_noteq here]

private theorem Disciplined.claims_other (h : Disciplined rank cfg) (next : cfg.threads.getD t [] = call :: rest)
    (stepped : StepBy cfg t rest call cfg') {u : Nat} (other : u ≠ t) : Claims cfg' u ↔ Claims cfg u := by
  cases stepped with
  | claim m free => exact claims_update (by simp [free,Ne.symm other])
  | acquire m claimed => exact claims_update (by simp [claimed,Ne.symm other])
  | unlock m =>
    obtain ⟨held,heldBy,after⟩ := h.holding t
    rw [next] at after
    exact claims_update (by simp [(heldBy.2 m).1.mp (afterCalls_unlock.mp after).1])
  | rlock m => exact claims_update Iff.rfl
  | runlock m => exact claims_update Iff.rfl

private theorem weight_lt_of_advance (next : cfg.threads.getD t [] = call :: rest) (advanced : cfg'.threads.getD t [] = rest) :
    weight cfg' t < weight cfg t := by
  unfold weight; rw [next,advanced,List.length_cons]; split_ifs <;> omega

private theorem Disciplined.weight_step (h : Disciplined rank cfg) (next : cfg.threads.getD t [] = call :: rest)
    (stepped : StepBy cfg t rest call cfg') : weight cfg' t < weight cfg t := by
  cases stepped with
  | claim m free =>
    have before : ¬ Claims cfg t := fun ⟨m',claimed⟩ => by
      obtain rfl := LockCall.lock.inj (h.claims_next next claimed)
      simp [free] at claimed
    have after : Claims ⟨Function.update cfg.mutexes m {cfg.mutexes m with writer := some (t,false)},cfg.threads⟩ t :=
      ⟨m,by simp⟩
    simp only [weight,if_pos after,if_neg before]
    omega
  | acquire | unlock | rlock | runlock => exact weight_lt_of_advance next (getD_set_self next rest)

private theorem Disciplined.pending_lt (h : Disciplined rank cfg) (run : step cfg t = some cfg') : pending cfg' < pending cfg := by
  obtain ⟨call,rest,next,stepped⟩ := step_some run
  unfold pending
  rw [stepped.length]
  refine Finset.sum_lt_sum (fun u _ => ?_) ⟨t,Finset.mem_range.mpr (lt_length_of_getD next),h.weight_step next stepped⟩
  by_cases self : u = t
  · subst self; exact (h.weight_step next stepped).le
  · simp only [weight,stepped.getD_other self,h.claims_other next stepped self,le_refl]

/-- From a state of disciplined threads every schedule ends with every call made: every step
keeps the discipline and lowers `pending`, and while calls are left some thread can move. -/
theorem Disciplined.finishes (h : Disciplined rank cfg) : Finishes cfg := by
  suffices all : ∀ n cfg, pending cfg = n → Disciplined rank cfg → Finishes cfg from all _ cfg rfl h
  intro n
  induction n using Nat.strong_induction_on with
  | _ n ih =>
    rintro cfg rfl h
    by_cases finished : ∀ t, cfg.threads.getD t [] = []
    · exact .done finished
    push_neg at finished
    obtain ⟨t,busy⟩ := finished
    obtain ⟨call,rest,next⟩ := List.exists_cons_of_ne_nil busy
    refine .next ?_ fun cfg' ⟨u,stepped⟩ => ih _ (h.pending_lt stepped) cfg' rfl (h.of_step stepped)
    by_contra stuck
    push_neg at stuck
    exact h.not_deadlocked ⟨⟨t,lt_length_of_getD next,busy⟩,fun u _ => stuck u⟩

end Finishing

end CiaoDatastore.Locks
