import Snip36.CounterAsks
import Snip36.Library.Rest

/-!
The mutex around `sncast` in the counter routes: deployments come one after the
other, and no handler is kept from its end.
-/

namespace Snip36.CounterLock

open CoinFlipState (Config)
open CounterAsks
open CounterRoutes
open CounterServer
open CounterState
open Library.Interaction
open Library.Interaction.Program
open Library.Interleaving
open Library.Mutex
open Library.Rest
open RouteFailures

/-- Requests with a property that those about the mutex and `sncast` do not have. -/
theorem isFree_of {P : Ask → Prop} (hlock : ¬P .lockSncast) (hunlock : ¬P .unlockSncast)
    (hsncast : ∀ command, ¬P (.sncast command)) (request : Ask) (h : P request) :
    IsFree sncastUse request := by
  cases request with
  | lockSncast => exact absurd h hlock
  | unlockSncast => exact absurd h hunlock
  | sncast command => exact absurd h (hsncast command)
  | _ => rfl

theorem isFree_of_isEarly : ∀ request, IsEarly request → IsFree sncastUse request :=
  isFree_of id id fun _ => id

theorem isFree_of_isLate : ∀ request, IsLate request → IsFree sncastUse request :=
  isFree_of id id fun _ => id

theorem isFree_of_isAdding {payload : Json} :
    ∀ request, IsAdding payload request → IsFree sncastUse request :=
  isFree_of id id fun _ => id

/-! ### The handlers -/

variable (api : CounterApi) (config : Config) (task : ProveTask)

theorem inside_poll (request : TxPolling.PollAsk) : Inside sncastUse (.poll request) := Or.inr rfl

/-- The guard is dropped however the deployment ends. -/
theorem tidy_deployCounter (sessionId : String) :
    Disciplined sncastUse false false (deployCounter api sessionId) := by
  refine ⟨rfl, fun _ => (disciplined_of_inside ?_).attempt_bind fun _ => ⟨rfl, fun _ => rfl⟩⟩
  refine ⟨Or.inl rfl, fun declared => ?_⟩
  refine (onlyAsks_orFailWith _ _ declared).bind fun declareOutput => ?_
  refine (onlyAsks_orFail _ _ _).bind fun classHash => ?_
  refine ⟨Or.inr rfl, fun salt => ⟨Or.inl rfl, fun deployed => ?_⟩⟩
  refine (onlyAsks_orFailWith _ _ deployed).bind fun deployOutput => ?_
  split
  · refine (onlyAsks_orFail _ _ _).bind fun contractAddress => ?_
    refine (onlyAsks_orFail _ _ _).bind fun txHash => ?_
    refine (onlyAsks_waitForTx inside_poll api txHash 120 2).bind fun waited => ?_
    refine (onlyAsks_orFailWith _ _ _).bind fun receipt => ?_
    refine (onlyAsks_waitIfKnown inside_poll _).bind fun _ => ?_
    exact ⟨Or.inr rfl, fun _ => trivial⟩
  · trivial

/-- A cycle sends its transaction itself. -/
theorem onlyAsks_free_runCycle : OnlyAsks (IsFree sncastUse) (runCycle api config task) := by
  have hearly {α : Type} {program : Handler α} (h : OnlyAsks (Unreported IsEarly) program) :
      OnlyAsks (IsFree sncastUse) program := (onlyAsks_of_unreported h).mono isFree_of_isEarly
  refine (onlyAsks_announceCycle (fun _ _ => rfl) api task).bind fun expectedIncrement => ?_
  refine (hearly (onlyAsks_constructTransaction api config task)).bind fun tx => ?_
  refine (hearly (onlyAsks_prove api config task)).bind fun proofSize => ?_
  have hsubmit : OnlyAsks (IsFree sncastUse) (submit api config task tx) := by
    refine ⟨rfl, fun _ => (hearly (onlyAsks_readProof api config task)).bind fun proof => ?_⟩
    refine (onlyAsks_orStreamError (fun _ _ => rfl) _ _).bind fun signed => ⟨rfl, fun _ => ?_⟩
    exact (onlyAsks_addTransaction _ _).mono isFree_of_isAdding
  refine hsubmit.bind fun rpcTxHash => ?_
  have hincluded := onlyAsks_of_unreported (onlyAsks_verifyInclusion api task rpcTxHash)
  refine (hincluded.mono isFree_of_isLate).bind fun _ => ?_
  exact (onlyAsks_report task rpcTxHash proofSize expectedIncrement).mono isFree_of_isLate

theorem onlyAsks_free_proveBlock (sessionId : String) (params : ProveBlockQuery) :
    OnlyAsks (IsFree sncastUse) (proveBlock api config sessionId params) := by
  refine ⟨rfl, fun session => (onlyAsks_orFail _ _ _).bind fun contractAddress => ?_⟩
  exact (onlyAsks_orFail _ _ _).bind fun referenceBlock => onlyAsks_free_runCycle api config _

theorem locking (backend : Backend) :
    Locking backend.system sncastUse Shared.sncastLocked where
  handler := by
    intro request
    cases request with
    | deployCounter sessionId => exact tidy_deployCounter backend.api sessionId
    | proveBlock sessionId params =>
        exact disciplined_of_free
          (onlyAsks_free_proveBlock backend.api backend.config sessionId params)
  acquire := by
    intro shared shared' request offered answer h hacquire
    cases request with
    | lockSncast =>
        simp only [Backend.system, Backend.serve, Option.ite_none_left_eq_some,
          Bool.not_eq_true] at h
        exact h.1
    | _ => cases hacquire
  next := by
    intro shared shared' request offered answer h
    cases serve_cases h with
    | _ => rfl
  outside := by
    intro shared shared' env h
    cases h
    rfl

/-- The node and the files may always answer with an error. -/
def failing : (request : Ask) → Answer request
  | .sncast _ => .error "no sncast"
  | .poll (.getReceipt _) => .error (.unexpected "no receipt")
  | .readFile _ => .error "no file"
  | .proverReads _ => .error "no file"
  | .addInvokeTransaction _ => .error (.unexpected "no node")
  | request => smoothly "0xa" (.num 11) request

theorem serves (backend : Backend) (shared : Shared) :
    Serves backend.system sncastUse Shared.sncastLocked shared := by
  intro request hacquire
  refine ⟨failing request, ?_⟩
  cases request with
  | lockSncast => simp [Backend.system, Backend.serve, hacquire rfl]
  | poll request =>
      cases request with
      | getReceipt txHash => rfl
      | _ => rfl
  | _ => rfl

variable {backend : Backend} {pool : Pool backend.system}

/-- At most one deployment is inside the mutex, and its commands do not mix with
those of another one. -/
theorem deployments_exclusive (htasks : pool.tasks = []) (hfree : pool.shared.sncastLocked = false)
    (moves : List ServerMove) :
    Exclusive sncastUse Shared.sncastLocked (after pool moves) ∧
      ∀ before i command output middle j command' output' later,
        turns pool moves = before ++ (i, ⟨.sncast command, output⟩) ::
          (middle ++ (j, ⟨.sncast command', output'⟩) :: later) →
        j ≠ i → (i, ⟨.unlockSncast, ()⟩) ∈ middle := by
  refine ⟨(exclusive_of_no_tasks htasks hfree).run (locking backend) moves, ?_⟩
  intro before i command output middle j command' output' later hsplit hne
  obtain ⟨⟨request, answer⟩, hmem, hrelease⟩ :=
    separated_turns (locking backend) htasks hfree moves before i _ middle j _ later hsplit hne
      (Or.inr rfl) nofun
  cases request with
  | unlockSncast => exact hmem
  | _ => cases hrelease

/-- Two deployments at the same time, without `sncast`. The second one waits for
the mutex. -/
def twoDeployments : List ServerMove :=
  [.arrive (.deployCounter "s"), .arrive (.deployCounter "t")] ++
    [0, 1, 0, 0, 1, 1, 1].map fun task => .advance task failing

theorem deployments_exclusive_twoDeployments :
    Exclusive sncastUse Shared.sncastLocked (after sampleStart twoDeployments) ∧
      (0, ⟨.unlockSncast, ()⟩) ∈
        ([(0, ⟨.unlockSncast, ()⟩), (1, ⟨.lockSncast, ()⟩)] : List (Nat × Event Ask Answer)) := by
  obtain ⟨hexclusive, hapart⟩ := @deployments_exclusive sample sampleStart rfl rfl twoDeployments
  refine ⟨hexclusive, hapart [(0, ⟨.lockSncast, ()⟩)] 0 (.declare "Counter")
    (.error "no sncast") [(0, ⟨.unlockSncast, ()⟩), (1, ⟨.lockSncast, ()⟩)] 1 (.declare "Counter")
    (.error "no sncast") [(1, ⟨.unlockSncast, ()⟩)] rfl (by decide)⟩

/-- When no more requests arrive and the handlers are not left waiting while one
of them can go on, all of them come to their end, and the mutex is free. -/
theorem counter_comes_to_rest (htasks : pool.tasks = [])
    (hfree : pool.shared.sncastLocked = false) (moves : Nat → ServerMove)
    (hrequests : FinitelyManyRequests moves) (hdiligent : Diligent pool moves) :
    ∃ n, ∀ m ≥ n, (poolAt pool moves m).shared.sncastLocked = false ∧
      ∀ t ∈ (poolAt pool moves m).tasks, t.outcome?.isSome :=
  exists_rest ⟨failing⟩ (locking backend) htasks hfree (fun _ => serves backend _) hrequests
    hdiligent

theorem ended_twoDeployments :
    ∀ t ∈ (Library.Reverting.run Pool.step sampleStart twoDeployments).tasks,
      t.outcome?.isSome := by
  decide

def contendingRun : Nat → ServerMove := endless twoDeployments (.advance 0 failing)

theorem counter_comes_to_rest_twoDeployments :
    ∃ n, ∀ m ≥ n, (poolAt sampleStart contendingRun m).shared.sncastLocked = false ∧
      ∀ t ∈ (poolAt sampleStart contendingRun m).tasks, t.outcome?.isSome :=
  counter_comes_to_rest rfl rfl contendingRun finitelyManyRequests_endless
    (diligent_of_ended ended_twoDeployments (by unfold GoesOn; decide))

end Snip36.CounterLock
