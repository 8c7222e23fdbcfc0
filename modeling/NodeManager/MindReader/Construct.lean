import NodeManager.MindReader.Plugin

/-!
# Building the plugin

`NewMindReaderPlugin` sets up the archive store, the start gate, the working directory
and the continuity checker, picks and initialises an archiver, and builds the plugin on
a console reader. Every call it makes outside the repository may fail, and it returns
the first failure, each in its own message:

    archiveStore, err := dstore.NewDBinStore(archiveStoreURL)
    if err != nil {
        return nil, fmt.Errorf("setting up archive store: %w", err)
    }

The archiver is a one-block archiver or, with `mergeUploadDirectly`, a merge archiver.
With a stop block, the blocks past it are dropped when `discardAfterStopBlock` is set
and kept otherwise: the merge archiver then gets a one-block overflow archiver, and the
one-block archiver is given no stop block at all (`pickArchiver`). The archivers are not
part of the repository: the model records which one is built and with what arguments.

The gate is `NewBlockNumberGator(startBlockNum)`, which `mindreader/gator.go` provides as
`NewBlockNumberGate`. The callbacks, the logger and the transformer are only stored, and
the `OnTerminating` hook registered here is the hook of `MindReader.Plugin`.

## What is proved

* `newMindReaderPlugin_eq_ok_iff`, `newMindReaderPlugin_error`: the plugin is built
  exactly when every call made succeeds, and an error is that of a call that failed.
* `newMindReaderPlugin_continuity`: a plugin built without `failOnNonContinuousBlocks`
  resets the continuity checker and, in every run, never writes to it.
-/

namespace NodeManager.MindReader

/-- The archiver `NewMindReaderPlugin` picks. -/
inductive ArchiverChoice where
  /-- `NewOneblockArchiver(workingDirectory, archiveStore, ..., stopBlockNum, ...)`. -/
  | oneblock (stopBlockNum : UInt64)
  /-- `NewMergeArchiver(mergeArchiveStore, ..., stopBlockNum, ...)`, with
  `WithOverflowArchiver(NewOneblockArchiver(..., 0, ...))` when `overflow`. -/
  | merge (stopBlockNum : UInt64) (overflow : Bool)
  deriving DecidableEq, Repr

/-- The arguments of `NewMindReaderPlugin` that the plugin depends on. -/
structure PluginOptions where
  /-- `mergeUploadDirectly`. -/
  mergeUploadDirectly : Bool
  /-- `workingDirectory`. -/
  workingDirectory : String
  /-- `startBlockNum`. -/
  startBlockNum : UInt64
  /-- `stopBlockNum`, `0` for none. -/
  stopBlockNum : UInt64
  /-- `discardAfterStopBlock`. -/
  discardAfterStopBlock : Bool
  /-- `channelCapacity`. -/
  channelCapacity : Nat
  /-- `failOnNonContinuousBlocks`. -/
  failOnNonContinuousBlocks : Bool
  deriving DecidableEq, Repr

/-- What the calls `NewMindReaderPlugin` makes outside the repository return: `none`, or
the text of the error. -/
structure SetupResults where
  /-- `dstore.NewDBinStore(archiveStoreURL)`. -/
  archiveStore : Option String
  /-- `os.MkdirAll(workingDirectory, os.ModePerm)`. -/
  mkdirAll : Option String
  /-- `NewContinuityChecker(filepath.Join(workingDirectory, "continuity_check"), zlogger)`. -/
  continuityChecker : Option String
  /-- `dstore.NewDBinStore(mergeArchiveStoreURL)`. -/
  mergeArchiveStore : Option String
  /-- `archiver.Init()`, of the archiver picked. -/
  archiverInit : ArchiverChoice → Option String
  /-- `consoleReaderFactory(pipeReader)`, in `newMindReaderPlugin`. -/
  consoleReader : Option String

/-- The errors of `NewMindReaderPlugin`. -/
inductive PluginError where
  /-- `setting up archive store: %w`. -/
  | archiveStore (err : String)
  /-- `unable to create working directory %q: %w`. -/
  | workingDirectory (dir err : String)
  /-- `error setting up continuity checker: %s`. -/
  | continuityChecker (err : String)
  /-- `setting up merge archive store: %w`. -/
  | mergeArchiveStore (err : String)
  /-- `failed to init archiver: %w`. -/
  | archiverInit (err : String)
  /-- The console reader factory's error, as it is. -/
  | consoleReader (err : String)
  deriving DecidableEq, Repr

/-- `MindReaderPlugin`, with the parts the pipeline runs with. -/
structure MindReaderPlugin where
  /-- `archiver`. -/
  archiver : ArchiverChoice
  /-- `gator`. -/
  gate : BlockNumberGate
  /-- Whether `continuityChecker` is set. -/
  hasContinuityChecker : Bool
  /-- Whether `cc.Reset()` was called. -/
  continuityReset : Bool
  /-- `stopAtBlockNum`. -/
  stopAtBlockNum : UInt64
  /-- `channelCapacity`. -/
  channelCapacity : Nat
  deriving DecidableEq, Repr

/-- The `if mergeUploadDirectly` block of `NewMindReaderPlugin`: the archiver it builds. -/
def pickArchiver (o : PluginOptions) : ArchiverChoice :=
  if o.mergeUploadDirectly then
    .merge o.stopBlockNum (o.stopBlockNum ≠ 0 && !o.discardAfterStopBlock)
  else
    .oneblock (if o.stopBlockNum ≠ 0 && o.discardAfterStopBlock then o.stopBlockNum else 0)

/-- `if err != nil { return nil, wrap(err) }`, after a call that returned `err`. -/
def failOn (wrap : String → PluginError) : Option String → Except PluginError Unit
  | some err => .error (wrap err)
  | none => .ok ()

/-- `NewMindReaderPlugin`, given what its calls outside the repository return. -/
def newMindReaderPlugin (o : PluginOptions) (r : SetupResults) :
    Except PluginError MindReaderPlugin := do
  failOn .archiveStore r.archiveStore
  failOn (.workingDirectory o.workingDirectory) r.mkdirAll
  failOn .continuityChecker r.continuityChecker
  if o.mergeUploadDirectly then failOn .mergeArchiveStore r.mergeArchiveStore
  failOn .archiverInit (r.archiverInit (pickArchiver o))
  failOn .consoleReader r.consoleReader
  return ⟨pickArchiver o, newBlockNumberGate o.startBlockNum, o.failOnNonContinuousBlocks,
    !o.failOnNonContinuousBlocks, o.stopBlockNum, o.channelCapacity⟩

/-- Whether every call `NewMindReaderPlugin` makes succeeds; the merge archive store is only
set up with `mergeUploadDirectly`. -/
def SetupResults.allOk (o : PluginOptions) (r : SetupResults) : Prop :=
  r.archiveStore = none ∧ r.mkdirAll = none ∧ r.continuityChecker = none ∧
    (o.mergeUploadDirectly = true → r.mergeArchiveStore = none) ∧
    r.archiverInit (pickArchiver o) = none ∧ r.consoleReader = none

/-- The plugin `Run` on the console results `console`, with `transformer`, and with a live
server or not. -/
def MindReaderPlugin.config {Obj : Type} (p : MindReaderPlugin)
    (console : List (Except ReadErr Obj)) (transformer : Obj → Except String Block)
    (hasBlockServer : Bool) : PluginConfig Obj :=
  ⟨console, transformer, p.gate.blockNum, p.stopAtBlockNum, p.channelCapacity,
    p.hasContinuityChecker, hasBlockServer⟩

/-! ### Building -/

section Except

variable {ε α β : Type} {x : Except ε α} {f : α → Except ε β}

theorem except_bind_eq_ok {b : β} : x >>= f = .ok b ↔ ∃ a, x = .ok a ∧ f a = .ok b := by
  cases x <;> simp [bind, Except.bind]

theorem except_bind_eq_error {e : ε} :
    x >>= f = .error e ↔ x = .error e ∨ ∃ a, x = .ok a ∧ f a = .error e := by
  cases x <;> simp [bind, Except.bind]

theorem except_map_eq_ok {g : α → β} {b : β} :
    g <$> x = .ok b ↔ ∃ a, x = .ok a ∧ g a = b := by
  cases x <;> simp [Functor.map, Except.map]

theorem except_map_eq_error {g : α → β} {e : ε} : g <$> x = .error e ↔ x = .error e := by
  cases x <;> simp [Functor.map, Except.map]

end Except

@[simp] theorem failOn_eq_ok (wrap : String → PluginError) (x : Option String) (u : Unit) :
    failOn wrap x = .ok u ↔ x = none := by
  cases x <;> simp [failOn]

@[simp] theorem failOn_eq_error (wrap : String → PluginError) (x : Option String)
    (e : PluginError) :
    failOn wrap x = .error e ↔ ∃ err, x = some err ∧ e = wrap err := by
  cases x <;> simp [failOn, eq_comm]

/-- The plugin is built exactly when every call made succeeds, with the gate at the start
block, the continuity checker set or reset, and the stop block and capacity as given. -/
theorem newMindReaderPlugin_eq_ok_iff (o : PluginOptions) (r : SetupResults)
    (p : MindReaderPlugin) :
    newMindReaderPlugin o r = .ok p ↔ r.allOk o ∧
      p = ⟨pickArchiver o, newBlockNumberGate o.startBlockNum, o.failOnNonContinuousBlocks,
        !o.failOnNonContinuousBlocks, o.stopBlockNum, o.channelCapacity⟩ := by
  cases hm : o.mergeUploadDirectly <;>
    simp [newMindReaderPlugin, SetupResults.allOk, except_bind_eq_ok, except_map_eq_ok, hm,
      and_assoc, @eq_comm MindReaderPlugin]

/-- An error of `NewMindReaderPlugin` is that of a call it made that failed. -/
theorem newMindReaderPlugin_error {o : PluginOptions} {r : SetupResults} {e : PluginError}
    (h : newMindReaderPlugin o r = .error e) :
    (∃ err, r.archiveStore = some err ∧ e = .archiveStore err) ∨
    (∃ err, r.mkdirAll = some err ∧ e = .workingDirectory o.workingDirectory err) ∨
    (∃ err, r.continuityChecker = some err ∧ e = .continuityChecker err) ∨
    (∃ err, o.mergeUploadDirectly = true ∧ r.mergeArchiveStore = some err ∧
      e = .mergeArchiveStore err) ∨
    (∃ err, r.archiverInit (pickArchiver o) = some err ∧ e = .archiverInit err) ∨
    (∃ err, r.consoleReader = some err ∧ e = .consoleReader err) := by
  cases hm : o.mergeUploadDirectly <;>
    simp only [newMindReaderPlugin, hm, except_bind_eq_error, except_bind_eq_ok, failOn_eq_error,
      failOn_eq_ok, except_map_eq_error, if_true, Bool.false_eq_true, if_false, pure_bind, pure,
      Except.pure, reduceCtorEq, and_false, exists_false, or_false, false_or] at h
  · rcases h with h | ⟨-, -, h | ⟨-, -, h | ⟨-, -, ⟨-, -, h | ⟨-, -, h⟩⟩⟩⟩⟩
    exacts [.inl h, .inr (.inl h), .inr (.inr (.inl h)), .inr (.inr (.inr (.inr (.inl h)))),
      .inr (.inr (.inr (.inr (.inr h))))]
  · rcases h with
      h | ⟨-, -, h | ⟨-, -, h | ⟨-, -, ⟨err, h⟩ | ⟨-, -, h | ⟨-, -, h⟩⟩⟩⟩⟩
    exacts [.inl h, .inr (.inl h), .inr (.inr (.inl h)),
      .inr (.inr (.inr (.inl ⟨err, rfl, h⟩))), .inr (.inr (.inr (.inr (.inl h)))),
      .inr (.inr (.inr (.inr (.inr h))))]

/-! ### The plugin built, running -/

variable {Obj : Type}

/-- Without a continuity checker, no run calls `continuityChecker.Write`. -/
theorem continuityLog_eq_nil {cfg : PluginConfig Obj} (hc : cfg.hasContinuityChecker = false)
    {s : PluginState} (hs : Reachable cfg s) : s.continuityLog = [] := by
  induction hs with
  | refl => rfl
  | tail _ h ih =>
    cases h with
    | checkOk _ hcc => simp [hc] at hcc
    | checkFail _ hcc => simp [hc] at hcc
    | _ => exact ih

/-- A plugin built without `failOnNonContinuousBlocks` resets the continuity checker's file
and, whatever runs, never writes to it. -/
theorem newMindReaderPlugin_continuity {o : PluginOptions} {r : SetupResults} {p : MindReaderPlugin}
    (h : newMindReaderPlugin o r = .ok p) (hf : o.failOnNonContinuousBlocks = false)
    (console : List (Except ReadErr Obj)) (transformer : Obj → Except String Block)
    (hasBlockServer : Bool) {s : PluginState}
    (hs : Reachable (p.config console transformer hasBlockServer) s) :
    p.continuityReset = true ∧ s.continuityLog = [] := by
  obtain ⟨-, rfl⟩ := (newMindReaderPlugin_eq_ok_iff o r p).mp h
  exact ⟨by simp [hf], continuityLog_eq_nil (by simp [MindReaderPlugin.config, hf]) hs⟩

end NodeManager.MindReader
