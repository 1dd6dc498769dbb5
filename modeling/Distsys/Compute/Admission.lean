import Mathlib.Data.List.Basic
import Distsys.Lib.Runs
import Distsys.Text

/-!
# Local execution of tasks

`_execute_local` and what it goes through: the backpressure controller, the classification
and the registry of the tasks, the deadline and the worker pool. A coroutine runs up to its
next wait. The jobs of the pool run in other processes: a job whose caller gives up is
cancelled if it is still queued, and otherwise keeps its slot until it is done.
-/

namespace Distsys

/-- A bounded counter with the check of its constructor. -/
structure Slots where
  capacity : Nat
  positive : 1 ≤ capacity
  inFlight : Nat := 0

/-- `try_acquire` of the backpressure controller and of the limiter of the pool. -/
def Slots.tryAcquire (slots : Slots) : Bool × Slots :=
  if slots.capacity ≤ slots.inFlight then (false, slots)
  else (true, { slots with inFlight := slots.inFlight + 1 })

/-- `BackpressureController.release`. -/
def BackpressureController.release (slots : Slots) : Except PyError Slots :=
  if slots.inFlight ≤ 0 then .error ⟨.runtimeError, "backpressure release underflow"⟩
  else .ok { slots with inFlight := slots.inFlight - 1 }

/-- `_PendingLimiter.release`. -/
def PendingLimiter.release (slots : Slots) : Slots :=
  if slots.inFlight ≤ 0 then slots else { slots with inFlight := slots.inFlight - 1 }

/-- Where a task runs. -/
inductive ExecutionClass
  | async
  | cpu

/-- The exceptions with which a task is refused. -/
inductive ExecutionError
  | localOverloaded (message : String)
  | workerPoolClosed (message : String)
  | workerPoolSaturated (message : String)
  | workerPoolBroken (message : String)
  | unknownTask (name : PyStr)
  | deadlineExceeded (message : String)
  | raised (error : PyError)
  deriving DecidableEq

/-- The registered tasks, and how many jobs the executor marks as running at a time. -/
structure ComputeConfig where
  registered : PyStr → Bool
  classify : PyStr → ExecutionClass
  runningLimit : Nat

/-- The pool. An executor that was started may be broken. -/
structure WorkerPool where
  pending : Slots
  executor : Option Bool := none
  closed : Bool := false

/-- What a call of `_execute_local` waits for: the handler of the task, or its job, which is
queued, runs or is done. -/
inductive Waiting
  | handler
  | queued
  | running
  | done
  deriving DecidableEq

/-- `WorkerPool.execute` up to its wait. The executor may raise an exception of its own. -/
def WorkerPool.execute (pool : WorkerPool) (fault : Option PyError) :
    Except ExecutionError Waiting × WorkerPool :=
  if pool.closed then (.error (.workerPoolClosed "worker pool is closed"), pool)
  else
    let broken := pool.executor.getD false
    let started := { pool with executor := some broken }
    match pool.pending.tryAcquire with
    | (false, _) => (.error (.workerPoolSaturated "worker pool pending capacity is full"), started)
    | (true, pending) =>
        let refused := { started with pending := PendingLimiter.release pending }
        if broken then (.error (.workerPoolBroken "worker pool is broken"), refused)
        else match fault with
          | some error => (.error (.raised error), refused)
          | none => (.ok .queued, { started with pending })

/-- `TaskExecutor.execute` up to its wait. -/
def TaskExecutor.execute (config : ComputeConfig) (pool : WorkerPool) (task : PyStr) (late : Bool)
    (fault : Option PyError) : Except ExecutionError Waiting × WorkerPool :=
  match config.classify task with
  | .cpu =>
      if ¬ config.registered task then (.error (.unknownTask task), pool)
      else if late then (.error (.deadlineExceeded "request deadline exceeded"), pool)
      else pool.execute fault
  | .async =>
      if late then (.error (.deadlineExceeded "request deadline exceeded"), pool)
      else if ¬ config.registered task then (.error (.unknownTask task), pool)
      else (.ok .handler, pool)

/-- A node that executes tasks, with the calls that hold a slot of the backpressure controller
and the number of running jobs whose callers have given up. -/
structure ComputeNode where
  backpressure : Slots
  pool : WorkerPool
  calls : List Waiting := []
  orphans : Nat := 0

/-- `except WorkerPoolSaturatedError`. -/
def ExecutionError.overloading : ExecutionError → ExecutionError
  | .workerPoolSaturated _ => .localOverloaded "worker pool pending capacity is full"
  | error => error

/-- What happens at a node. -/
inductive ComputeLabel
  | call (task : PyStr) (late : Bool) (fault : Option PyError)
  | leaves (call : Waiting)
  | starts
  | finishes
  | orphanFinishes
  | drops
  | breaks
  | closes

namespace ComputeNode

variable (config : ComputeConfig) (node : ComputeNode)

/-- A node with the given capacity of its queue. -/
def fresh (capacity : Nat) (positive : 1 ≤ capacity) : ComputeNode where
  backpressure := { capacity, positive }
  pool := { pending := { capacity, positive } }

/-- `_execute_local` up to its wait, with the exception that it raises before. -/
def executeLocal (task : PyStr) (late : Bool) (fault : Option PyError) :
    Option ExecutionError × ComputeNode :=
  match node.backpressure.tryAcquire with
  | (false, _) => (some (.localOverloaded "node is at execution capacity"), node)
  | (true, backpressure) =>
      match TaskExecutor.execute config node.pool task late fault with
      | (.ok call, pool) => (none, { node with backpressure, pool, calls := call :: node.calls })
      | (.error error, pool) =>
          match BackpressureController.release backpressure with
          | .ok backpressure => (some error.overloading, { node with backpressure, pool })
          | .error underflow => (some (.raised underflow), { node with backpressure, pool })

/-- The `finally` of a call. -/
def leave (call : Waiting) : ComputeNode :=
  { node with
    calls := node.calls.erase call
    backpressure := match BackpressureController.release node.backpressure with
      | .ok backpressure => backpressure
      | .error _ => node.backpressure }

/-- The callback of a job that is done. -/
def freed : ComputeNode :=
  { node with pool := { node.pool with pending := PendingLimiter.release node.pool.pending } }

/-- One step. A call leaves when its wait ends, or before at its deadline or because it is
cancelled. The executor starts queued jobs, and drops them when it is closed or broken. -/
def step : ComputeLabel → Option ComputeNode
  | .call task late fault => some (node.executeLocal config task late fault).2
  | .leaves call =>
      if call ∈ node.calls then
        match call with
        | .handler | .done => some (node.leave call)
        | .queued => some (node.freed.leave call)
        | .running => some ({ node with orphans := node.orphans + 1 }.leave call)
      else none
  | .starts =>
      if .queued ∈ node.calls ∧ node.calls.count .running + node.orphans < config.runningLimit then
        some { node with calls := .running :: node.calls.erase .queued }
      else none
  | .finishes =>
      if .running ∈ node.calls then
        some { node.freed with calls := .done :: node.calls.erase .running }
      else none
  | .orphanFinishes =>
      if 0 < node.orphans then some { node.freed with orphans := node.orphans - 1 } else none
  | .drops =>
      if .queued ∈ node.calls ∧ (node.pool.closed ∨ node.pool.executor = some true) then
        some { node.freed with calls := .done :: node.calls.erase .queued }
      else none
  | .breaks => node.pool.executor.map fun _ =>
      { node with pool := { node.pool with executor := some true } }
  | .closes => some { node with pool := { node.pool with closed := true, executor := none } }

/-- How many jobs are not done. -/
def jobs : Nat := node.calls.count .queued + node.calls.count .running + node.orphans

variable {config node} {capacity : Nat} {next : ComputeNode}

/-- The counters are those of the calls in flight and of the jobs that are not done. -/
structure Accounted (config : ComputeConfig) (capacity : Nat) (node : ComputeNode) : Prop where
  called : node.backpressure.inFlight = node.calls.length
  admitted : node.backpressure.capacity = capacity ∧ node.calls.length ≤ capacity
  submitted : node.pool.pending.inFlight = node.jobs
  pooled : node.pool.pending.capacity = capacity ∧ node.jobs ≤ capacity
  running : node.calls.count .running + node.orphans ≤ config.runningLimit

/-- What a task does to the slots of the pool before it waits. -/
theorem pending_execute (config : ComputeConfig) (pool : WorkerPool) (task : PyStr) (late : Bool)
    (fault : Option PyError) :
    match TaskExecutor.execute config pool task late fault with
    | (.ok call, after) => call = .handler ∧ after.pending = pool.pending ∨
        call = .queued ∧ pool.pending.tryAcquire = (true, after.pending)
    | (.error error, after) => after.pending = pool.pending ∧
        ∀ message, error.overloading = .localOverloaded message →
          pool.pending.capacity ≤ pool.pending.inFlight := by
  unfold TaskExecutor.execute WorkerPool.execute Slots.tryAcquire PendingLimiter.release
  grind [ExecutionError.overloading]

/-- Each step keeps the accounts: what a call or a job takes is given back once. -/
theorem Accounted.step (accounted : node.Accounted config capacity) {label : ComputeLabel}
    (stepped : node.step config label = some next) : next.Accounted config capacity := by
  obtain ⟨called, admitted, submitted, pooled, running⟩ := accounted
  have counts : ∀ call ∈ node.calls, 0 < node.calls.count call :=
    fun _ => List.count_pos_iff.mpr
  have lengths : ∀ call ∈ node.calls, (node.calls.erase call).length + 1 = node.calls.length :=
    fun _ => List.length_erase_add_one
  unfold jobs at submitted pooled
  cases label with
  | call task late fault =>
      have began := pending_execute config node.pool task late fault
      cases stepped
      unfold executeLocal BackpressureController.release
      constructor <;> grind [Slots.tryAcquire, jobs]
  | leaves call =>
      -- only a queued job gives its slot back at once
      cases call <;> constructor <;>
        grind [ComputeNode.step, leave, freed, jobs, BackpressureController.release,
          PendingLimiter.release]
  | starts => constructor <;> grind [ComputeNode.step, jobs]
  | finishes | orphanFinishes | drops =>
      constructor <;> grind [ComputeNode.step, freed, jobs, PendingLimiter.release]
  | breaks =>
      obtain ⟨_, _, rfl⟩ := Option.map_eq_some_iff.mp stepped
      exact ⟨called, admitted, submitted, pooled, running⟩
  | closes =>
      cases stepped
      exact ⟨called, admitted, submitted, pooled, running⟩

theorem accounted_of_run {positive : 1 ≤ capacity}
    (run : RunsUnder (step config) (fun _ _ => True) (fresh capacity positive) node) :
    node.Accounted config capacity := by
  refine run.invariant (Accounted config capacity) ?_ fun accounted _ stepped =>
    accounted.step stepped
  exact ⟨rfl, ⟨rfl, Nat.zero_le _⟩, rfl, ⟨rfl, Nat.zero_le _⟩, Nat.zero_le _⟩

/-- Whatever happens to the calls, the jobs and the executor, the backpressure controller counts
the calls in flight and the pool its jobs that are not done. Neither exceeds the capacity, and
no call finds the controller empty when it leaves. -/
theorem slots_accounted (config : ComputeConfig) {positive : 1 ≤ capacity}
    (run : RunsUnder (step config) (fun _ _ => True) (fresh capacity positive) node) :
    node.backpressure.inFlight = node.calls.length ∧ node.calls.length ≤ capacity ∧
      node.pool.pending.inFlight = node.jobs ∧ node.jobs ≤ capacity ∧
      ∀ call ∈ node.calls, ∃ left, BackpressureController.release node.backpressure = .ok left ∧
        left.inFlight = ((node.leave call).calls).length := by
  have accounted := accounted_of_run run
  refine ⟨accounted.called, accounted.admitted.2, accounted.submitted, accounted.pooled.2, ?_⟩
  intro call among
  have some := List.length_pos_of_mem among
  have busy : ¬ node.backpressure.inFlight ≤ 0 := by
    rw [accounted.called]
    omega
  refine ⟨_, if_neg busy, ?_⟩
  simp only [leave, List.length_erase_of_mem among, accounted.called]

/-- One job at a time. -/
def oneJob : ComputeConfig := ⟨fun _ => true, fun _ => .cpu, 1⟩

/-- A task that needs the pool holds a slot of each. -/
theorem slots_accounted_queued :
    let node := ((fresh 1 le_rfl).executeLocal oneJob [] false none).2
    node.calls = [.queued] ∧ node.backpressure.inFlight = node.calls.length ∧
      node.pool.pending.inFlight = node.jobs := by
  have accounted := slots_accounted oneJob
    (.step (.call [] false none) (.refl : RunsUnder _ _ (fresh 1 le_rfl) _) trivial rfl)
  exact ⟨rfl, accounted.1, accounted.2.2.1⟩

theorem count_jobs_le (calls : List Waiting) :
    calls.count .queued + calls.count .running ≤ calls.length := by
  induction calls with
  | nil => simp
  | cons head rest ih => cases head <;> simp <;> omega

/-- A call is refused for lack of capacity only while as many calls are in flight or a job runs
whose caller has given up, and never while the calls in flight and the jobs that can run leave a
slot free. -/
theorem overloaded_of_orphans (config : ComputeConfig) {positive : 1 ≤ capacity}
    (run : RunsUnder (step config) (fun _ _ => True) (fresh capacity positive) node)
    {task : PyStr} {late : Bool} {fault : Option PyError} {message : String}
    (refused : (node.executeLocal config task late fault).1 = some (.localOverloaded message)) :
    (node.calls.length = capacity ∨ 0 < node.orphans) ∧
      capacity ≤ node.calls.length + config.runningLimit := by
  obtain ⟨called, admitted, submitted, pooled, running⟩ := accounted_of_run run
  have began := pending_execute config node.pool task late fault
  have full : capacity ≤ node.calls.length ∨ capacity ≤ node.jobs := by
    unfold executeLocal Slots.tryAcquire BackpressureController.release at refused
    grind
  have waiting := count_jobs_le node.calls
  unfold jobs at full
  omega

/-- A call gives up while its job runs, and the next one is refused. -/
theorem orphan_keeps_slot : ∃ node : ComputeNode, node.calls = [] ∧
    (node.executeLocal oneJob [] false none).1 =
      some (.localOverloaded "worker pool pending capacity is full") ∧ 0 < node.orphans := by
  obtain ⟨node, run, reached⟩ := exists_runsUnder
    [.call [] false none, .starts, .leaves .running]
    (fun node => node.calls = [] ∧ (node.executeLocal oneJob [] false none).1 =
      some (.localOverloaded "worker pool pending capacity is full"))
    (show (runUnder (step oneJob) (fun _ _ => true) (fresh 1 le_rfl) _).any _ = true by
      decide +kernel)
  obtain ⟨alone, refused⟩ := of_decide_eq_true reached
  have shown := overloaded_of_orphans oneJob (run.mono fun _ _ _ => trivial) refused
  exact ⟨node, alone, refused, shown.1.resolve_left (by rw [alone]; exact nofun)⟩

end ComputeNode

end Distsys
