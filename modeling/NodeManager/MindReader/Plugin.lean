import NodeManager.MindReader.Gator
import Mathlib.Logic.Relation

/-!
# The mindreader plugin as a system of goroutines

`mindreader/mindreader.go`. `Run` starts `ReadFlow`, which makes the channel `blocks` of
`channelCapacity`, starts `consumeReadFlow` on it and then reads the node's console for
ever:

    for {
        // ALWAYS READ (otherwise you'll stall `nodeos`' shutdown process, want a dirty flag?)
        err := p.readOneMessage(blocks)
        if err != nil {
            if err == io.EOF { return }
            p.setMaintenanceFunc()
            continue
        }
    }

`readOneMessage` reads one object, transforms it into a block, drops it at the start
gate, sends it on `blocks` and, past the stop block, starts `go p.Shutdown(nil)`.
`consumeReadFlow` selects between `Terminating()` and the channel: a block is stored by
the archiver, checked for continuity and pushed to the live server; on `Terminating()`
it returns once `len(blocks) == 0`, and its deferred function waits for the uploads and
closes `consumeReadFlowDone`. The `OnTerminating` hook that `NewMindReaderPlugin`
registers sets maintenance mode, waits for `consumeReadFlowDone` and, with a stop
block, calls `stopBlockReachFunc`.

## The model

The state holds the point each goroutine has reached and the shared data; `Step` is one
atomic action of one goroutine, any of them at any time, so a run is any interleaving.

* The console reader's results are given in advance (`PluginConfig.console`); when they
  run out, `Read` blocks. The archiver, the continuity checker and the live server are
  outside the repository: each call may succeed or fail, and `Step` has both.
* The channel is its buffer. With a capacity, a send appends and a receive takes the
  oldest; without one, a send is handed to the consume task waiting at its select.
* The shutter (`github.com/dfuse-io/shutter`) is modelled by its contract: the first
  `Shutdown` closes `Terminating()` and runs the `OnTerminating` hook in the calling
  goroutine; a later call returns at once. `Close`, a failed `LogLine` write and any
  outside caller are the `shutdown` step; the goroutines `go p.Shutdown(nil)` started
  are counted and run by `stopShutdown`; `consumeReadFlow`'s own calls are `fatal`. The
  first of them runs the hook in the consume task (`ConsumePc.inHook`): the hook gets
  past its wait only once `consumeReadFlowDone` is closed (`hookWake`), and the call
  returns only once the hook has (`hookReturn`).
* History fields record what the goroutines have done: the blocks sent, stored, checked
  and pushed, the blocks sent when `Terminating()` closed, the blocks that started a
  `go p.Shutdown(nil)`, and the number of `Shutdown` calls from outside the plugin.

The uploader goroutine `alwaysUploadFiles` runs beside this system in
`MindReader.Uploader`; `headBlockUpdateFunc` touches nothing modelled and is left out.
-/

namespace NodeManager.MindReader

/-- An error of `consoleReader.Read()`: `io.EOF`, or any other. -/
inductive ReadErr where
  /-- `io.EOF`. -/
  | eof
  /-- Any other error, by its text. -/
  | other (msg : String)
  deriving DecidableEq, Repr

/-- What the plugin is built with. -/
structure PluginConfig (Obj : Type) where
  /-- What `consoleReader.Read()` returns, call after call. -/
  console : List (Except ReadErr Obj)
  /-- `transformer`, with its error's text. -/
  transformer : Obj → Except String Block
  /-- The start block of the gate. -/
  startBlockNum : UInt64
  /-- `stopAtBlockNum`, `0` for none. -/
  stopAtBlockNum : UInt64
  /-- `channelCapacity`. -/
  channelCapacity : Nat
  /-- Whether `continuityChecker` is set. -/
  hasContinuityChecker : Bool
  /-- Whether `Run` was given a `blockServer`. -/
  hasBlockServer : Bool

/-- `readOneMessage` up to the send: the read, the transform and the gate, with the gate
after. An error is what the function returns; `none` a block the gate dropped; `some`
the block to send. -/
def readOneMessage {Obj : Type} (transformer : Obj → Except String Block)
    (gate : BlockNumberGate) :
    Except ReadErr Obj → Except ReadErr (Option Block) × BlockNumberGate
  | .error err => (.error err, gate)
  | .ok obj =>
    match transformer obj with
    | .error err =>
      (.error (.other ("unable to transform console read obj to bstream.Block: " ++ err)), gate)
    | .ok block =>
      if (gate.pass block).1 then (.ok (some block), (gate.pass block).2)
      else (.ok none, (gate.pass block).2)

/-- Where `ReadFlow` is. -/
inductive ReaderPc where
  /-- About to call `readOneMessage`. -/
  | read
  /-- At `blocks <- block`. -/
  | send (b : Block)
  /-- Past the send, at the stop-block test. -/
  | stopCheck (b : Block)
  /-- Returned, on `io.EOF`. -/
  | done
  deriving DecidableEq, Repr

/-- Where `ReadFlow`'s loop goes with what `readOneMessage` returned: it returns on
`io.EOF`, reads again after another error or a block the gate dropped, and sends a
block the gate let through. -/
def ReaderPc.next : Except ReadErr (Option Block) → ReaderPc
  | .error .eof => .done
  | .error (.other _) => .read
  | .ok none => .read
  | .ok (some b) => .send b

/-- Whether `readOneMessage` returned an error other than `io.EOF`, on which the loop
calls `setMaintenanceFunc()`. -/
def failedRead : Except ReadErr (Option Block) → Bool
  | .error (.other _) => true
  | _ => false

/-- A call of `consumeReadFlow` that fails and makes it shut the plugin down. -/
inductive Failure where
  /-- `archiver.storeBlock(b)` failed. -/
  | storeFailed (b : Block)
  /-- `blockServer.PushBlock(b)` failed. -/
  | pushFailed (b : Block)
  deriving DecidableEq, Repr

/-- How `consumeReadFlow` left its loop. -/
inductive Exit where
  /-- On `Terminating()`, with the channel empty. -/
  | terminating
  /-- After a failure, and its call `p.Shutdown(err)`. -/
  | failed (f : Failure)
  deriving DecidableEq, Repr

/-- Where `consumeReadFlow` is. -/
inductive ConsumePc where
  /-- At the select. -/
  | select
  /-- Took `<-p.Terminating()`, about to test `len(blocks) == 0`. -/
  | drain
  /-- Received `b`, about to call `archiver.storeBlock(b)`. -/
  | store (b : Block)
  /-- Stored `b`, about to call `continuityChecker.Write`. -/
  | check (b : Block)
  /-- About to call `blockServer.PushBlock(b)`. -/
  | push (b : Block)
  /-- Calling `p.Shutdown(err)` after a failure. -/
  | fatal (f : Failure)
  /-- Inside its own call `p.Shutdown(err)`, the first one, which runs the `OnTerminating`
  hook in this goroutine. -/
  | inHook (f : Failure)
  /-- In the deferred `archiver.WaitForAllFilesToUpload()`. -/
  | upload (e : Exit)
  /-- Returned, `consumeReadFlowDone` closed. -/
  | done (e : Exit)
  deriving DecidableEq, Repr

/-- Where the `OnTerminating` hook is. -/
inductive HookPc where
  /-- Not started: no `Shutdown` yet. -/
  | idle
  /-- In `waitForReadFlowToComplete`. -/
  | waiting
  /-- Past it, and past `stopBlockReachFunc`. -/
  | finished
  deriving DecidableEq, Repr

/-- The state of the plugin and of its goroutines. -/
structure PluginState where
  /-- How many results of the console reader were read. -/
  readCount : Nat
  /-- The start gate. -/
  gate : BlockNumberGate
  /-- The read task. -/
  reader : ReaderPc
  /-- The buffer of `blocks`, oldest first. -/
  blocks : List Block
  /-- The consume task. -/
  consume : ConsumePc
  /-- Whether `Terminating()` is closed. -/
  terminating : Bool
  /-- The `OnTerminating` hook. -/
  hook : HookPc
  /-- Goroutines `go p.Shutdown(nil)` started and not yet run. -/
  pendingShutdowns : Nat
  /-- Whether `setMaintenanceFunc` was called. -/
  maintenance : Bool
  /-- Whether `stopBlockReachFunc` was called. -/
  stopBlockReached : Bool
  /-- The blocks sent on `blocks`, in order. -/
  sent : List Block
  /-- The blocks sent when `Terminating()` closed. -/
  sentAtTerminating : List Block
  /-- The blocks `archiver.storeBlock` stored, in order. -/
  stored : List Block
  /-- The calls `continuityChecker.Write`, each with whether it succeeded. -/
  continuityLog : List (Block × Bool)
  /-- The blocks passed to `blockServer.PushBlock`, in order. -/
  pushed : List Block
  /-- The blocks whose send started a `go p.Shutdown(nil)`. -/
  stopTriggers : List Block
  /-- How many times `Shutdown` was called from outside the plugin: `Close`, a failed
  `LogLine` write, any other caller. -/
  outsideShutdowns : Nat

namespace PluginState

/-- Just after `Run`. -/
def init {Obj : Type} (cfg : PluginConfig Obj) : PluginState where
  readCount := 0
  gate := newBlockNumberGate cfg.startBlockNum
  reader := .read
  blocks := []
  consume := .select
  terminating := false
  hook := .idle
  pendingShutdowns := 0
  maintenance := false
  stopBlockReached := false
  sent := []
  sentAtTerminating := []
  stored := []
  continuityLog := []
  pushed := []
  stopTriggers := []
  outsideShutdowns := 0

/-- `p.Shutdown(err)`: the first call closes `Terminating()` and starts the hook, which
calls `setMaintenanceFunc()` and waits; a later call changes nothing. -/
def shutdown (s : PluginState) : PluginState :=
  { s with
    terminating := true
    sentAtTerminating := if s.terminating then s.sentAtTerminating else s.sent
    hook := if s.terminating then s.hook else .waiting
    maintenance := s.maintenance || !s.terminating }

/-- One turn of `ReadFlow`'s loop up to the send, on the console result `r`. -/
def afterRead {Obj : Type} (cfg : PluginConfig Obj) (s : PluginState) (r : Except ReadErr Obj) :
    PluginState :=
  { s with
    readCount := s.readCount + 1
    gate := (readOneMessage cfg.transformer s.gate r).2
    reader := ReaderPc.next (readOneMessage cfg.transformer s.gate r).1
    maintenance := s.maintenance || failedRead (readOneMessage cfg.transformer s.gate r).1 }

/-- Whether the block `b` just sent starts `go p.Shutdown(nil)`:
`p.stopAtBlockNum != 0 && block.Num() >= p.stopAtBlockNum && !p.IsTerminating()`. -/
def stopsAt {Obj : Type} (cfg : PluginConfig Obj) (s : PluginState) (b : Block) : Bool :=
  cfg.stopAtBlockNum ≠ 0 && b.num ≥ cfg.stopAtBlockNum && !s.terminating

/-- The stop-block test after sending `b`, and back to the loop. -/
def stopCheck {Obj : Type} (cfg : PluginConfig Obj) (s : PluginState) (b : Block) : PluginState :=
  { s with
    reader := .read
    pendingShutdowns := if s.stopsAt cfg b then s.pendingShutdowns + 1 else s.pendingShutdowns
    stopTriggers := if s.stopsAt cfg b then s.stopTriggers ++ [b] else s.stopTriggers }

/-- `consumeReadFlow`'s call `p.Shutdown(err)` after a failure: the first call runs the
hook in the consume task; after another one it returns, and `consumeReadFlow` with it. -/
def fatal (s : PluginState) (f : Failure) : PluginState :=
  { s.shutdown with consume := if s.terminating then .upload (.failed f) else .inHook f }

/-- Whether `consumeReadFlowDone` is closed. -/
def consumeReadFlowDone (s : PluginState) : Bool :=
  match s.consume with
  | .done _ => true
  | _ => false

end PluginState

open PluginState

/-- One atomic action of one goroutine. -/
inductive Step {Obj : Type} (cfg : PluginConfig Obj) : PluginState → PluginState → Prop where
  /-- `ReadFlow` calls `readOneMessage` and handles what the read, the transform and the
  gate give. -/
  | read {s : PluginState} {r : Except ReadErr Obj} :
      s.reader = .read → cfg.console[s.readCount]? = some r → Step cfg s (s.afterRead cfg r)
  /-- `blocks <- block` into the buffer. -/
  | sendBuffered {s : PluginState} {b : Block} :
      s.reader = .send b → s.blocks.length < cfg.channelCapacity →
      Step cfg s { s with blocks := s.blocks ++ [b], sent := s.sent ++ [b], reader := .stopCheck b }
  /-- `blocks <- block` without a buffer, to the consume task at its select. -/
  | sendHandoff {s : PluginState} {b : Block} :
      s.reader = .send b → cfg.channelCapacity = 0 → s.consume = .select →
      Step cfg s { s with consume := .store b, sent := s.sent ++ [b], reader := .stopCheck b }
  /-- The stop-block test. -/
  | stopCheck {s : PluginState} {b : Block} :
      s.reader = .stopCheck b → Step cfg s (s.stopCheck cfg b)
  /-- `Shutdown` from outside the plugin: `Close`, a failed `LogLine` write, any other
  caller. -/
  | shutdown {s : PluginState} :
      Step cfg s { s.shutdown with outsideShutdowns := s.outsideShutdowns + 1 }
  /-- A goroutine `go p.Shutdown(nil)` runs. -/
  | stopShutdown {s : PluginState} :
      0 < s.pendingShutdowns →
      Step cfg s { s.shutdown with pendingShutdowns := s.pendingShutdowns - 1 }
  /-- The hook gets past `waitForReadFlowToComplete`, and calls `stopBlockReachFunc` when
  there is a stop block. -/
  | hookWake {s : PluginState} :
      s.hook = .waiting → s.consumeReadFlowDone = true →
      Step cfg s { s with hook := .finished, stopBlockReached := decide (cfg.stopAtBlockNum ≠ 0) }
  /-- The select takes `<-p.Terminating()`. -/
  | selectTerminating {s : PluginState} :
      s.consume = .select → s.terminating = true → Step cfg s { s with consume := .drain }
  /-- The select takes `block := <-blocks` from the buffer. -/
  | selectBlock {s : PluginState} {b : Block} {rest : List Block} :
      s.consume = .select → s.blocks = b :: rest →
      Step cfg s { s with consume := .store b, blocks := rest }
  /-- `if len(blocks) == 0 { return }`, else back to the select. -/
  | drain {s : PluginState} :
      s.consume = .drain →
      Step cfg s { s with consume := if s.blocks.length = 0 then .upload .terminating else .select }
  /-- `archiver.storeBlock(block)` succeeds. -/
  | storeOk {s : PluginState} {b : Block} :
      s.consume = .store b → Step cfg s { s with consume := .check b, stored := s.stored ++ [b] }
  /-- `archiver.storeBlock(block)` fails. -/
  | storeFail {s : PluginState} {b : Block} :
      s.consume = .store b → Step cfg s { s with consume := .fatal (.storeFailed b) }
  /-- No continuity checker. -/
  | checkSkip {s : PluginState} {b : Block} :
      s.consume = .check b → cfg.hasContinuityChecker = false →
      Step cfg s { s with consume := .push b }
  /-- `continuityChecker.Write(block.Num())` succeeds. -/
  | checkOk {s : PluginState} {b : Block} :
      s.consume = .check b → cfg.hasContinuityChecker = true →
      Step cfg s { s with consume := .push b, continuityLog := s.continuityLog ++ [(b, true)] }
  /-- `continuityChecker.Write(block.Num())` fails: maintenance, and `continue`. -/
  | checkFail {s : PluginState} {b : Block} :
      s.consume = .check b → cfg.hasContinuityChecker = true →
      Step cfg s { s with consume := .select, continuityLog := s.continuityLog ++ [(b, false)],
                          maintenance := true }
  /-- No live server. -/
  | pushSkip {s : PluginState} {b : Block} :
      s.consume = .push b → cfg.hasBlockServer = false →
      Step cfg s { s with consume := .select }
  /-- `blockServer.PushBlock(block)` succeeds. -/
  | pushOk {s : PluginState} {b : Block} :
      s.consume = .push b → cfg.hasBlockServer = true →
      Step cfg s { s with consume := .select, pushed := s.pushed ++ [b] }
  /-- `blockServer.PushBlock(block)` fails. -/
  | pushFail {s : PluginState} {b : Block} :
      s.consume = .push b → cfg.hasBlockServer = true →
      Step cfg s { s with consume := .fatal (.pushFailed b), pushed := s.pushed ++ [b] }
  /-- `consumeReadFlow` calls `p.Shutdown(err)`. -/
  | fatal {s : PluginState} {f : Failure} : s.consume = .fatal f → Step cfg s (s.fatal f)
  /-- The hook that `consumeReadFlow`'s own `p.Shutdown(err)` runs has returned: the call
  returns, and `consumeReadFlow` with it, into its deferred function. -/
  | hookReturn {s : PluginState} {f : Failure} :
      s.consume = .inHook f → s.hook = .finished →
      Step cfg s { s with consume := .upload (.failed f) }
  /-- `archiver.WaitForAllFilesToUpload()` returns and `consumeReadFlowDone` is closed. -/
  | upload {s : PluginState} {e : Exit} :
      s.consume = .upload e → Step cfg s { s with consume := .done e }

/-- The states a run of the plugin reaches. -/
def Reachable {Obj : Type} (cfg : PluginConfig Obj) (s : PluginState) : Prop :=
  Relation.ReflTransGen (Step cfg) (PluginState.init cfg) s

/-! ### Runs

Pieces of runs, a few steps of one goroutine each, from which the runs below and those of
the other modules are built. -/

section Runs

variable {Obj : Type} {cfg : PluginConfig Obj} {s₀ s : PluginState}

/-- A turn of `ReadFlow` that reads the console result `r`, which gives the block `b`,
sends `b` into the buffer and makes the stop-block test. -/
theorem turn_buffered {r : Except ReadErr Obj} {b : Block}
    (h : Relation.ReflTransGen (Step cfg) s₀ s) (hr : s.reader = .read)
    (hc : cfg.console[s.readCount]? = some r) (hb : (s.afterRead cfg r).reader = .send b)
    (hlt : s.blocks.length < cfg.channelCapacity) :
    Relation.ReflTransGen (Step cfg) s₀
      (({ (s.afterRead cfg r) with
          blocks := s.blocks ++ [b], sent := s.sent ++ [b], reader := .stopCheck b } :
        PluginState).stopCheck cfg b) :=
  ((h.tail (.read hr hc)).tail (.sendBuffered hb hlt)).tail (.stopCheck rfl)

/-- The same turn without a buffer: `b` is handed to the consume task at its select. -/
theorem turn_handoff {r : Except ReadErr Obj} {b : Block}
    (h : Relation.ReflTransGen (Step cfg) s₀ s) (hr : s.reader = .read)
    (hc : cfg.console[s.readCount]? = some r) (hb : (s.afterRead cfg r).reader = .send b)
    (h0 : cfg.channelCapacity = 0) (hsel : s.consume = .select) :
    Relation.ReflTransGen (Step cfg) s₀
      (({ (s.afterRead cfg r) with
          consume := .store b, sent := s.sent ++ [b], reader := .stopCheck b } :
        PluginState).stopCheck cfg b) :=
  ((h.tail (.read hr hc)).tail (.sendHandoff hb h0 hsel)).tail (.stopCheck rfl)

/-- With no continuity checker and no live server, the consume task stores the block it
received and goes back to its select. -/
theorem store_skip {b : Block} (h : Relation.ReflTransGen (Step cfg) s₀ s)
    (hc : s.consume = .store b) (hcc : cfg.hasContinuityChecker = false)
    (hsv : cfg.hasBlockServer = false) :
    Relation.ReflTransGen (Step cfg) s₀ { s with consume := .select, stored := s.stored ++ [b] } :=
  ((h.tail (.storeOk hc)).tail (.checkSkip rfl hcc)).tail (.pushSkip rfl hsv)

/-- The select takes `Terminating()` with the channel empty, and the consume task returns
into its deferred `WaitForAllFilesToUpload()`. -/
theorem leave_terminating (h : Relation.ReflTransGen (Step cfg) s₀ s)
    (hc : s.consume = .select) (ht : s.terminating = true) (hb : s.blocks = []) :
    Relation.ReflTransGen (Step cfg) s₀ { s with consume := .upload .terminating } := by
  cases s
  dsimp only at hb
  subst hb
  exact (h.tail (.selectTerminating hc ht)).tail (.drain rfl)

end Runs

/-- Block `1`. -/
def demoBlock1 : Block := ⟨1, "00000001a"⟩

/-- Block `2`. -/
def demoBlock2 : Block := ⟨2, "00000002a"⟩

/-- A plugin with a buffer of one block and stop block `2`, on a node that prints blocks
`1` and `2`. -/
def stopConfig : PluginConfig Block where
  console := [.ok demoBlock1, .ok demoBlock2]
  transformer := .ok
  startBlockNum := 0
  stopAtBlockNum := 2
  channelCapacity := 1
  hasContinuityChecker := false
  hasBlockServer := false

/-- A run of `stopConfig` up to the `go p.Shutdown(nil)` that block `2` started: block `1`
is stored, block `2` is in the buffer, and `Terminating()` has closed, with no `Shutdown`
from outside. -/
theorem stopConfig_stopped : ∃ s, Reachable stopConfig s ∧ s.consume = .select ∧
    s.blocks = [demoBlock2] ∧ s.terminating = true ∧ s.stored = [demoBlock1] ∧
    s.sent = [demoBlock1, demoBlock2] ∧ s.stopTriggers = [demoBlock2] ∧
    s.outsideShutdowns = 0 := by
  have h₀ : Reachable stopConfig (PluginState.init stopConfig) := .refl
  -- block `1`, below the stop block: read and buffered, then taken and stored
  have h₁ := store_skip
    ((turn_buffered h₀ rfl rfl rfl (by decide)).tail (.selectBlock rfl rfl)) rfl rfl rfl
  -- block `2`, at the stop block: read and buffered; its `go p.Shutdown(nil)` runs
  have h₂ := (turn_buffered h₁ rfl rfl rfl (by decide)).tail (.stopShutdown (by decide))
  exact ⟨_, h₂, rfl, rfl, rfl, rfl, rfl, rfl, rfl⟩

/-- A run of `stopConfig`: both blocks are sent and stored, block `2` starts
`go p.Shutdown(nil)`, which runs, and the consume task takes `Terminating()` and leaves
with the channel empty. -/
theorem stopConfig_run : ∃ s, Reachable stopConfig s ∧ s.consume = .upload .terminating ∧
    s.stopTriggers = [demoBlock2] ∧ s.sent = [demoBlock1, demoBlock2] ∧
    s.stored = [demoBlock1, demoBlock2] := by
  obtain ⟨s, hs, hc, hb, ht, hst, hse, htr, -⟩ := stopConfig_stopped
  -- block `2` is taken and stored; the select then takes `Terminating()`
  have h := leave_terminating (store_skip (hs.tail (.selectBlock hc hb)) rfl rfl rfl) rfl ht rfl
  exact ⟨_, h, rfl, htr, hse, by simp [hst]⟩

end NodeManager.MindReader
