import CiaoDatastore.Types
import Mathlib.Logic.Relation

/-! The datastore's locks: one `sync.RWMutex` per table. A call's locking is the list of
`Lock`, `Unlock`, `RLock` and `RUnlock` it makes, callees included, on the path taken; calls
run at once as threads whose next lock calls interleave. A `Lock` first claims the mutex, which
holds off new readers, then waits for the readers it found to leave; an `RLock` waits while a
writer claims or holds the mutex. `AddInstance` takes `instanceLastStatLock` while it holds
`instancesLock`, and `GetInstanceLastStats` calls `GetInstance`, which takes `instancesLock`,
while it holds `instanceLastStatLock`. -/
namespace CiaoDatastore.Locks

/-- The mutexes of `Datastore`. -/
inductive Mutex
  | nodeLastStat | instanceLastStat | tenants | nodes | instances | tenantUsage | bd | attach
  | pools | image | workloads
  deriving DecidableEq, Repr

inductive LockCall
  | lock (m : Mutex)
  | unlock (m : Mutex)
  | rlock (m : Mutex)
  | runlock (m : Mutex)
  deriving DecidableEq, Repr

/-- `GetInstance`. -/
def getInstanceLocks : List LockCall := [.rlock .instances,.runlock .instances]

/-- `AddInstance`, once the store has the instance. -/
def addInstanceLocks : List LockCall :=
  [.lock .instances,.lock .instanceLastStat,.unlock .instanceLastStat,.unlock .instances,
    .lock .tenants,.unlock .tenants]

/-- `GetInstanceLastStats` over the last stats in its iteration order: `GetInstance` for each
stat of the node. -/
def getInstanceLastStatsLocks (stats : List CiaoServerStats) (nodeID : String) : List LockCall :=
  .rlock .instanceLastStat ::
    ((stats.filter (·.nodeID = nodeID)).map fun _ => getInstanceLocks).flatten ++
    [.runlock .instanceLastStat]

/-- A mutex: the thread that claimed it for writing, and whether it holds it yet; its readers. -/
structure MutexState where
  writer : Option (Nat × Bool)
  readers : List Nat
  deriving DecidableEq, Repr

def MutexState.free : MutexState := ⟨none,[]⟩

/-- The mutexes, and the lock calls each thread has still to make. -/
structure Config where
  mutexes : Mutex → MutexState
  threads : List (List LockCall)

/-- The threads, with every mutex free. -/
def Config.start (threads : List (List LockCall)) : Config := ⟨fun _ => .free,threads⟩

/-- What thread `t` does next: makes its next lock call, or, inside a `Lock`, claims the mutex;
`none` when it has finished or has to wait. -/
def step (cfg : Config) (t : Nat) : Option Config :=
  match cfg.threads.getD t [] with
  | [] => none
  | call :: rest =>
    let set (m : Mutex) (s : MutexState) : Config := {cfg with mutexes := Function.update cfg.mutexes m s}
    let done (m : Mutex) (s : MutexState) : Config :=
      ⟨Function.update cfg.mutexes m s,cfg.threads.set t rest⟩
    match call with
    | .lock m =>
      let s := cfg.mutexes m
      match s.writer with
      | none => some (set m {s with writer := some (t,false)})
      | some (u,false) => if u = t ∧ s.readers = [] then some (done m {s with writer := some (t,true)}) else none
      | some (_,true) => none
    | .unlock m => some (done m {cfg.mutexes m with writer := none})
    | .rlock m =>
      let s := cfg.mutexes m
      if s.writer = none then some (done m {s with readers := t :: s.readers}) else none
    | .runlock m => some (done m {cfg.mutexes m with readers := (cfg.mutexes m).readers.erase t})

/-- One thread's step. -/
def Steps (cfg cfg' : Config) : Prop := ∃ t, step cfg t = some cfg'

/-- Some thread has lock calls left, and no thread can make one. -/
def Deadlocked (cfg : Config) : Prop :=
  (∃ t < cfg.threads.length, cfg.threads.getD t [] ≠ []) ∧ ∀ t < cfg.threads.length, step cfg t = none

/-- `AddInstance` and `GetInstanceLastStats` for a node with one stat, run at once. -/
def lockOrderRace : Config :=
  .start [addInstanceLocks,getInstanceLastStatsLocks [{(default : CiaoServerStats) with nodeID := "n"}] "n"]

/-- `AddInstance` holds `instancesLock` and waits for `GetInstanceLastStats` to leave
`instanceLastStatLock`, which waits for `instancesLock` in `GetInstance`. -/
theorem lock_order_deadlock : ∃ cfg, Relation.ReflTransGen Steps lockOrderRace cfg ∧ Deadlocked cfg :=
  ⟨_,.tail (.tail (.tail (.tail .refl ⟨0,rfl⟩) ⟨0,rfl⟩) ⟨1,rfl⟩) ⟨0,rfl⟩,
    ⟨0,by decide,by decide⟩,fun t bound => by
      match t,bound with
      | 0,_ => rfl
      | 1,_ => rfl⟩

end CiaoDatastore.Locks
