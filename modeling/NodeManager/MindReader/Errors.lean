import NodeManager.MindReader.Invariant

/-!
# How the plugin handles errors

`mindreader/mindreader.go` sorts the errors of the pipeline into two kinds.

* A read error other than `io.EOF`, a block the transformer rejects and a failed
  continuity check are not fatal: the loop calls `setMaintenanceFunc()` and goes on.
* A failed `archiver.storeBlock` or `blockServer.PushBlock` is fatal: `consumeReadFlow`
  calls `p.Shutdown(err)` and returns.

## What is proved

* `maintenance_called_iff`: in every reachable state, `setMaintenanceFunc` has been
  called exactly when a console result read so far failed other than with `io.EOF`,
  `Shutdown` ran (the `OnTerminating` hook calls it first), or a continuity check
  failed.
* `consume_failure_deadlocks`: when the fatal `p.Shutdown(err)` of `consumeReadFlow` is
  the first `Shutdown`, the shutter runs the `OnTerminating` hook inside that call, in
  the consume task. The hook gets past its wait only once `consumeReadFlowDone` is closed
  (`Step.hookWake`), which only the deferred function of `consumeReadFlow` does, and the
  call returns into that function only once the hook has finished (`Step.hookReturn`):
  each waits for the other. Whatever runs next, the consume task stays in the hook, the
  hook keeps waiting, nothing more is stored and `stopBlockReachFunc` is never called.
-/

namespace NodeManager.MindReader

open PluginState

variable {Obj : Type} {cfg : PluginConfig Obj}

/-! ### Maintenance mode -/

/-- Whether the console result `r` makes `readOneMessage` fail other than with `io.EOF`:
a read error, or an object the transformer rejects. The gate plays no part. -/
def failsRead (transformer : Obj → Except String Block) : Except ReadErr Obj → Bool
  | .error .eof => false
  | .error (.other _) => true
  | .ok obj =>
    match transformer obj with
    | .error _ => true
    | .ok _ => false

theorem failedRead_readOneMessage (transformer : Obj → Except String Block) (g : BlockNumberGate)
    (r : Except ReadErr Obj) :
    failedRead (readOneMessage transformer g r).1 = failsRead transformer r := by
  cases r with
  | error e => cases e <;> rfl
  | ok obj =>
    simp only [readOneMessage, failsRead]
    cases transformer obj with
    | error _ => rfl
    | ok b => by_cases h : (g.pass b).1 <;> simp [h, failedRead]

/-- `setMaintenanceFunc` has been called exactly when a console result read so far failed,
`Shutdown` ran, or a continuity check failed. -/
def MaintenanceInv (cfg : PluginConfig Obj) (readCount : Nat) (terminating : Bool)
    (continuityLog : List (Block × Bool)) (maintenance : Bool) : Prop :=
  maintenance = ((cfg.console.take readCount).any (failsRead cfg.transformer) || terminating ||
    continuityLog.any fun e => !e.2)

theorem MaintenanceInv.shutdown {s : PluginState}
    (hi : MaintenanceInv cfg s.readCount s.terminating s.continuityLog s.maintenance) :
    MaintenanceInv cfg s.readCount s.shutdown.terminating s.continuityLog
      s.shutdown.maintenance := by
  cases ht : s.terminating <;> simp_all [MaintenanceInv, PluginState.shutdown]

/-- Every step keeps `MaintenanceInv`. -/
theorem MaintenanceInv.step {s s' : PluginState} (h : Step cfg s s')
    (hi : MaintenanceInv cfg s.readCount s.terminating s.continuityLog s.maintenance) :
    MaintenanceInv cfg s'.readCount s'.terminating s'.continuityLog s'.maintenance := by
  cases h with
  | @read r _ hc =>
    unfold MaintenanceInv at hi ⊢
    simp only [afterRead, take_succ_of_getElem? hc, List.any_append, failedRead_readOneMessage, hi]
    cases hf : failsRead cfg.transformer r <;> simp [hf]
  | shutdown | stopShutdown _ | fatal _ => exact hi.shutdown
  | checkOk => simpa [MaintenanceInv, List.any_append] using hi
  | checkFail => simp [MaintenanceInv, List.any_append]
  | _ => exact hi

/-- A step from a consume task inside its own hook, with the hook waiting: the hook cannot
wake, for `consumeReadFlowDone` is not closed, and the call cannot return, for the hook has
not finished; so the consume task stays there, the hook keeps waiting, and nothing is
stored or reported. -/
theorem inHook_step {s s' : PluginState} {f : Failure} (h : Step cfg s s')
    (hc : s.consume = .inHook f) (hw : s.hook = .waiting) :
    s'.consume = .inHook f ∧ s'.hook = .waiting ∧ s'.stored = s.stored ∧
      s'.stopBlockReached = s.stopBlockReached := by
  cases h with
  | read | sendBuffered | stopCheck => exact ⟨hc, hw, rfl, rfl⟩
  | shutdown | stopShutdown =>
    cases ht : s.terminating <;> simp [PluginState.shutdown, ht, hc, hw]
  | hookWake _ hd => simp [PluginState.consumeReadFlowDone, hc] at hd
  | hookReturn _ hfin => simp [hw] at hfin
  | _ => simp_all

/-- When `consumeReadFlow`'s `p.Shutdown(err)` after a failed store or push is the first
`Shutdown`, the plugin deadlocks: in every run from there the consume task stays inside
its hook, the hook waits for `consumeReadFlowDone`, nothing more is stored, and
`stopBlockReachFunc` is never called. -/
theorem consume_failure_deadlocks {s s' : PluginState} {f : Failure} (hs : Reachable cfg s)
    (hf : s.consume = .fatal f) (ht : s.terminating = false)
    (hrun : Relation.ReflTransGen (Step cfg) (s.fatal f) s') :
    s'.consume = .inHook f ∧ s'.hook = .waiting ∧ s'.stored = s.stored ∧
      s'.stopBlockReached = false := by
  have hh := (reachable_inv hs).hook
  have hreached : s.stopBlockReached = false := Bool.eq_false_iff.mpr fun hr => by
    obtain ⟨e, he⟩ := hh.finished_done (hh.reached_finished hr)
    simp [hf] at he
  induction hrun with
  | refl => simp [PluginState.fatal, PluginState.shutdown, ht, hreached]
  | tail _ h ih =>
    obtain ⟨hc, hw, hst, hr⟩ := ih
    obtain ⟨hc', hw', hst', hr'⟩ := inHook_step h hc hw
    exact ⟨hc', hw', hst'.trans hst, hr'.trans hr⟩

/-- A run of `stopConfig` where storing block `1` fails before any `Shutdown`. -/
theorem stopConfig_storeFail_run : ∃ s, Reachable stopConfig s ∧
    s.consume = .fatal (.storeFailed demoBlock1) ∧ s.terminating = false := by
  have h₀ : Reachable stopConfig (PluginState.init stopConfig) := .refl
  -- block `1` is buffered and taken; its store fails
  have h := ((turn_buffered h₀ rfl rfl rfl (by decide)).tail (.selectBlock rfl rfl)).tail
    (.storeFail rfl)
  exact ⟨_, h, rfl, rfl⟩

/-- `consume_failure_deadlocks` on `stopConfig`, after the failed store of block `1` and
then a `Shutdown` from outside: the consume task still stays inside its hook. -/
theorem consume_failure_deadlocks_stopConfig : ∃ s s', Reachable stopConfig s ∧
    s.consume = .fatal (.storeFailed demoBlock1) ∧ s.terminating = false ∧
    Relation.ReflTransGen (Step stopConfig) (s.fatal (.storeFailed demoBlock1)) s' ∧
    s'.outsideShutdowns = s.outsideShutdowns + 1 ∧
    s'.consume = .inHook (.storeFailed demoBlock1) ∧ s'.hook = .waiting ∧
    s'.stored = s.stored ∧ s'.stopBlockReached = false :=
  let ⟨s, hs, hf, ht⟩ := stopConfig_storeFail_run
  ⟨s, _, hs, hf, ht, .single .shutdown, rfl, consume_failure_deadlocks hs hf ht (.single .shutdown)⟩

end NodeManager.MindReader
