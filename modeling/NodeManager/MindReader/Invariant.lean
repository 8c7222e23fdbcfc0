import NodeManager.MindReader.Plugin

/-!
# What every reachable state of the plugin keeps

Six invariants, each over the fields of `PluginState` it reads, so that a step that
leaves those fields alone keeps it by definition:

* `ReaderInv`: the read task has sent, or holds at its send, exactly the blocks of the
  console results read so far that the read, the transform and the gate let through;
  its gate is the gate after them; it stopped only on `io.EOF`.
* `ChannelInv`: every block sent is stored, held by the consume task, or in the
  buffer, in this order (`sent = stored ++ unstored ++ blocks`), and the buffer fits
  the capacity.
* `TriggerInv`: the blocks sent when `Terminating()` closed are a prefix of those sent,
  and every block that started a `go p.Shutdown(nil)` is among them.
* `DrainInv`: the consume task left on `Terminating()` only with all of them stored.
* `HookInv`: the hook starts when `Terminating()` closes, and gets past its wait only once
  `consumeReadFlowDone` was closed.
* `PushInv`: at its select, the consume task has pushed exactly the blocks it stored,
  less those whose continuity check failed.

Each has a step lemma, one case for each action that writes what it reads, and
`reachable_inv` carries all six along a run.
-/

namespace NodeManager.MindReader

open PluginState

variable {Obj : Type} {cfg : PluginConfig Obj}

/-- The block a console result gives when the read and the transform both succeed. -/
def blockOf (transformer : Obj → Except String Block) : Except ReadErr Obj → Option Block
  | .ok obj => (transformer obj).toOption
  | .error _ => none

/-- The blocks the console results `rs` give when the read and the transform both succeed. -/
def transformed (transformer : Obj → Except String Block) (rs : List (Except ReadErr Obj)) :
    List Block :=
  rs.filterMap (blockOf transformer)

/-- The block the read task holds at its send. -/
def ReaderPc.sending : ReaderPc → List Block
  | .send b => [b]
  | _ => []

/-- What the read task keeps, over the fields it writes. -/
structure ReaderInv (cfg : PluginConfig Obj) (readCount : Nat) (gate : BlockNumberGate)
    (reader : ReaderPc) (sent : List Block) : Prop where
  readCount_le : readCount ≤ cfg.console.length
  gate_eq :
    gate = gateAfter cfg.startBlockNum (transformed cfg.transformer (cfg.console.take readCount))
  sent_eq : sent ++ reader.sending =
    gatedBlocks cfg.startBlockNum (transformed cfg.transformer (cfg.console.take readCount))
  done_eof : reader = .done → ∃ k, readCount = k + 1 ∧ cfg.console[k]? = some (.error .eof)
  stopCheck_mem : ∀ b, reader = .stopCheck b → b ∈ sent

theorem transformed_append_singleton (transformer : Obj → Except String Block)
    (rs : List (Except ReadErr Obj)) (r : Except ReadErr Obj) :
    transformed transformer (rs ++ [r]) =
      transformed transformer rs ++ (blockOf transformer r).toList := by
  simp only [transformed, List.filterMap_append, List.filterMap_cons, List.filterMap_nil]
  cases blockOf transformer r <;> rfl

/-- The first `n + 1` console results, when there is a result `r` at `n`. -/
theorem take_succ_of_getElem? {rs : List (Except ReadErr Obj)} {n : Nat} {r : Except ReadErr Obj}
    (h : rs[n]? = some r) : rs.take (n + 1) = rs.take n ++ [r] := by
  simp [List.take_succ, h]

/-- The gate after one more console result is the gate `readOneMessage` leaves. -/
theorem gateAfter_readOneMessage (t : UInt64) (xs : List Block) (r : Except ReadErr Obj) :
    gateAfter t (xs ++ (blockOf cfg.transformer r).toList) =
      (readOneMessage cfg.transformer (gateAfter t xs) r).2 := by
  rcases r with e | obj
  · simp [blockOf, readOneMessage]
  · cases hT : cfg.transformer obj with
    | error e => simp [blockOf, readOneMessage, hT, Except.toOption]
    | ok b =>
      simp only [blockOf, readOneMessage, hT, Except.toOption, Option.toList_some,
        gateAfter_append_singleton]
      split <;> rfl

/-- The blocks let through after one more console result are those before, and the one
`readOneMessage` sends, if any. -/
theorem gatedBlocks_readOneMessage (t : UInt64) (xs : List Block) (r : Except ReadErr Obj) :
    gatedBlocks t (xs ++ (blockOf cfg.transformer r).toList) =
      gatedBlocks t xs ++
        (ReaderPc.next (readOneMessage cfg.transformer (gateAfter t xs) r).1).sending := by
  rcases r with (_ | e) | obj
  · simp [blockOf, readOneMessage, ReaderPc.next, ReaderPc.sending]
  · simp [blockOf, readOneMessage, ReaderPc.next, ReaderPc.sending]
  · cases hT : cfg.transformer obj with
    | error e =>
      simp [blockOf, readOneMessage, hT, Except.toOption, ReaderPc.next, ReaderPc.sending]
    | ok b =>
      simp only [blockOf, readOneMessage, hT, Except.toOption, Option.toList_some,
        gatedBlocks_append_singleton]
      split <;> simp [ReaderPc.next, ReaderPc.sending]

/-- `ReadFlow` returns only on `io.EOF`. -/
theorem next_readOneMessage_eq_done {g : BlockNumberGate} {r : Except ReadErr Obj}
    (h : ReaderPc.next (readOneMessage cfg.transformer g r).1 = .done) : r = .error .eof := by
  rcases r with (_ | e) | obj
  · rfl
  · simp [readOneMessage, ReaderPc.next] at h
  · cases hT : cfg.transformer obj with
    | error e => simp [readOneMessage, hT, ReaderPc.next] at h
    | ok b => simp only [readOneMessage, hT] at h; split at h <;> simp [ReaderPc.next] at h

theorem next_readOneMessage_ne_stopCheck (g : BlockNumberGate) (r : Except ReadErr Obj)
    (b : Block) :
    ReaderPc.next (readOneMessage cfg.transformer g r).1 ≠ .stopCheck b := by
  rcases r with (_ | e) | obj
  · simp [readOneMessage, ReaderPc.next]
  · simp [readOneMessage, ReaderPc.next]
  · cases hT : cfg.transformer obj with
    | error e => simp [readOneMessage, hT, ReaderPc.next]
    | ok b => simp only [readOneMessage, hT]; split <;> simp [ReaderPc.next]

/-- One turn of `ReadFlow`'s loop keeps `ReaderInv`. -/
theorem ReaderInv.afterRead {s : PluginState} {r : Except ReadErr Obj}
    (hi : ReaderInv cfg s.readCount s.gate s.reader s.sent) (hr : s.reader = .read)
    (hc : cfg.console[s.readCount]? = some r) :
    ReaderInv cfg (s.afterRead cfg r).readCount (s.afterRead cfg r).gate (s.afterRead cfg r).reader
      (s.afterRead cfg r).sent := by
  obtain ⟨-, hg, hsent, -, -⟩ := hi
  have ht := transformed_append_singleton cfg.transformer (cfg.console.take s.readCount) r
  rw [← take_succ_of_getElem? hc] at ht
  simp only [hr, ReaderPc.sending, List.append_nil] at hsent
  refine ⟨(List.getElem?_eq_some_iff.mp hc).1, ?_, ?_, fun h => ?_, fun b h => ?_⟩
  · rw [PluginState.afterRead, ht, gateAfter_readOneMessage, ← hg]
  · rw [PluginState.afterRead, ht, gatedBlocks_readOneMessage, ← hg, ← hsent]
  · exact ⟨_, rfl, next_readOneMessage_eq_done h ▸ hc⟩
  · exact absurd h (next_readOneMessage_ne_stopCheck _ _ _)

theorem ReaderInv.send {n : Nat} {g : BlockNumberGate} {reader : ReaderPc} {sent : List Block}
    {b : Block} (hi : ReaderInv cfg n g reader sent) (hr : reader = .send b) :
    ReaderInv cfg n g (.stopCheck b) (sent ++ [b]) :=
  ⟨hi.1, hi.2, by simpa [hr, ReaderPc.sending] using hi.3, (fun h => nomatch h),
    fun _ h => by cases h; simp⟩

/-- Every step keeps `ReaderInv`. -/
theorem ReaderInv.step {s s' : PluginState} (h : Step cfg s s')
    (hi : ReaderInv cfg s.readCount s.gate s.reader s.sent) :
    ReaderInv cfg s'.readCount s'.gate s'.reader s'.sent := by
  cases h with
  | read hr hc => exact hi.afterRead hr hc
  | sendBuffered hr _ => exact hi.send hr
  | sendHandoff hr _ _ => exact hi.send hr
  | @stopCheck b hr =>
    exact ⟨hi.1, hi.2, by simpa [hr, ReaderPc.sending, PluginState.stopCheck] using hi.3,
      (fun h => nomatch h), fun _ h => nomatch h⟩
  | _ => exact hi

/-- The block a failure leaves unstored: the one whose store failed. -/
def Failure.unstored : Failure → List Block
  | .storeFailed b => [b]
  | .pushFailed _ => []

/-- The block an exit leaves unstored. -/
def Exit.unstored : Exit → List Block
  | .terminating => []
  | .failed f => f.unstored

/-- The blocks the consume task took from the channel and has not stored: the one it is
about to store, or the one whose store failed. -/
def ConsumePc.unstored : ConsumePc → List Block
  | .store b => [b]
  | .fatal f | .inHook f => f.unstored
  | .upload e | .done e => e.unstored
  | _ => []

/-- The channel between the two tasks, over the fields it reads. -/
structure ChannelInv (cfg : PluginConfig Obj) (sent stored : List Block) (consume : ConsumePc)
    (blocks : List Block) : Prop where
  conservation : sent = stored ++ consume.unstored ++ blocks
  capacity : blocks.length ≤ cfg.channelCapacity

theorem ChannelInv.consume_eq {sent stored blocks : List Block} {c c' : ConsumePc}
    (hi : ChannelInv cfg sent stored c blocks) (h : c'.unstored = c.unstored) :
    ChannelInv cfg sent stored c' blocks :=
  ⟨h ▸ hi.1, hi.2⟩

/-- Every step keeps `ChannelInv`. -/
theorem ChannelInv.step {s s' : PluginState} (h : Step cfg s s')
    (hi : ChannelInv cfg s.sent s.stored s.consume s.blocks) :
    ChannelInv cfg s'.sent s'.stored s'.consume s'.blocks := by
  obtain ⟨hc, hcap⟩ := hi
  cases h with
  | sendBuffered _ hlt =>
    exact ⟨by simp [hc], by simp only [List.length_append, List.length_singleton]; omega⟩
  | sendHandoff _ h0 hsel =>
    have : s.blocks = [] := List.length_eq_zero.mp (by omega)
    exact ⟨by simp [hc, hsel, this, ConsumePc.unstored], by simp [this]⟩
  | selectBlock hsel hb =>
    refine ⟨by simp [hc, hsel, hb, ConsumePc.unstored], ?_⟩
    simp only [hb, List.length_cons] at hcap ⊢
    omega
  | storeOk hst => exact ⟨by simp [hc, hst, ConsumePc.unstored], hcap⟩
  | storeFail hst => exact ⟨by simp [hc, hst, ConsumePc.unstored, Failure.unstored], hcap⟩
  | drain hd =>
    refine ChannelInv.consume_eq ⟨hc, hcap⟩ ?_
    split <;> simp [hd, ConsumePc.unstored, Exit.unstored]
  | selectTerminating h' | checkSkip h' | checkOk h' | checkFail h' | pushSkip h' | pushOk h'
  | pushFail h' | upload h' | hookReturn h' =>
    exact ChannelInv.consume_eq ⟨hc, hcap⟩
      (by simp [h', ConsumePc.unstored, Failure.unstored, Exit.unstored])
  | fatal hf =>
    refine ChannelInv.consume_eq ⟨hc, hcap⟩ ?_
    simp only [PluginState.fatal, hf]
    split <;> rfl
  | _ => exact ⟨hc, hcap⟩

/-! ### Termination -/

/-- What `Terminating()` closing recorded: the blocks sent by then, and among them every
block that started a `go p.Shutdown(nil)`. -/
structure TriggerInv (terminating : Bool) (sentAtTerminating sent stopTriggers : List Block) :
    Prop where
  snapshot_prefix : sentAtTerminating <+: sent
  triggers_sent : ∀ b ∈ stopTriggers, b ∈ sent
  triggers_snapshot : terminating = true → ∀ b ∈ stopTriggers, b ∈ sentAtTerminating

theorem TriggerInv.shutdown {s : PluginState}
    (hi : TriggerInv s.terminating s.sentAtTerminating s.sent s.stopTriggers) :
    TriggerInv s.shutdown.terminating s.shutdown.sentAtTerminating s.sent s.stopTriggers := by
  cases ht : s.terminating
  · simp only [PluginState.shutdown, ht, Bool.false_eq_true, if_false]
    exact ⟨List.prefix_refl _, hi.2, fun _ => hi.2⟩
  · simpa [PluginState.shutdown, ht] using hi

theorem TriggerInv.send {t : Bool} {snap sent triggers : List Block} (b : Block)
    (hi : TriggerInv t snap sent triggers) : TriggerInv t snap (sent ++ [b]) triggers :=
  ⟨hi.1.trans (List.prefix_append _ _), fun c hc => List.mem_append_left _ (hi.2 c hc), hi.3⟩

/-- Every step keeps `TriggerInv`. -/
theorem TriggerInv.step {s s' : PluginState} (h : Step cfg s s')
    (hr : ReaderInv cfg s.readCount s.gate s.reader s.sent)
    (hi : TriggerInv s.terminating s.sentAtTerminating s.sent s.stopTriggers) :
    TriggerInv s'.terminating s'.sentAtTerminating s'.sent s'.stopTriggers := by
  cases h with
  | sendBuffered => exact hi.send _
  | sendHandoff => exact hi.send _
  | @stopCheck b hsc =>
    have hb := hr.stopCheck_mem b hsc
    simp only [PluginState.stopCheck]
    split
    · rename_i hstop
      have hnt : s.terminating = false := (by simpa [PluginState.stopsAt] using hstop : _ ∧ _).2
      exact ⟨hi.1, by simpa [or_imp, forall_and] using And.intro hi.2 hb, by simp [hnt]⟩
    · exact hi
  | shutdown => exact hi.shutdown
  | stopShutdown => exact hi.shutdown
  | fatal => exact hi.shutdown
  | _ => exact hi

/-- Whether the consume task left its loop on `Terminating()`. -/
def ConsumePc.leftOnTerminating : ConsumePc → Bool
  | .upload .terminating | .done .terminating => true
  | _ => false

/-- The consume task leaves on `Terminating()` only when it has stored every block sent
before `Terminating()` closed. -/
structure DrainInv (terminating : Bool) (sentAtTerminating stored : List Block)
    (consume : ConsumePc) : Prop where
  drain_terminating : consume = .drain → terminating = true
  left_terminating : consume.leftOnTerminating = true → terminating = true
  left_stored : consume.leftOnTerminating = true → sentAtTerminating <+: stored

/-- A step of the consume task that neither reaches nor leaves a state that `DrainInv`
constrains. -/
theorem DrainInv.of_free {t : Bool} {snap stored : List Block} {c : ConsumePc}
    (hc : c ≠ .drain) (hl : c.leftOnTerminating = false) : DrainInv t snap stored c :=
  ⟨fun h => absurd h hc, fun h => by simp [hl] at h, fun h => by simp [hl] at h⟩

theorem DrainInv.shutdown {s : PluginState}
    (hi : DrainInv s.terminating s.sentAtTerminating s.stored s.consume) :
    DrainInv s.shutdown.terminating s.shutdown.sentAtTerminating s.stored s.consume := by
  cases ht : s.terminating
  · exact DrainInv.of_free (fun h => by simpa [ht] using hi.1 h)
      (Bool.eq_false_iff.mpr fun h => by simpa [ht] using hi.2 h)
  · simpa [PluginState.shutdown, ht] using hi

/-- Every step keeps `DrainInv`. -/
theorem DrainInv.step {s s' : PluginState} (h : Step cfg s s')
    (hc : ChannelInv cfg s.sent s.stored s.consume s.blocks)
    (ht : TriggerInv s.terminating s.sentAtTerminating s.sent s.stopTriggers)
    (hi : DrainInv s.terminating s.sentAtTerminating s.stored s.consume) :
    DrainInv s'.terminating s'.sentAtTerminating s'.stored s'.consume := by
  cases h with
  | shutdown | stopShutdown => exact hi.shutdown
  | selectTerminating _ hterm =>
    exact ⟨fun _ => hterm, fun h => by simp [ConsumePc.leftOnTerminating] at h,
      fun h => by simp [ConsumePc.leftOnTerminating] at h⟩
  | drain hd =>
    simp only
    split
    · rename_i h0
      have hsent : s.sent = s.stored := by
        simpa [hd, ConsumePc.unstored, List.length_eq_zero.mp h0] using hc.conservation
      exact ⟨(fun h => nomatch h), fun _ => hi.1 hd, fun _ => hsent ▸ ht.1⟩
    · exact DrainInv.of_free (by simp) rfl
  | sendHandoff | selectBlock | storeOk | storeFail | checkSkip | checkOk | checkFail | pushSkip
  | pushOk | pushFail | hookReturn => exact DrainInv.of_free (by simp) rfl
  | fatal =>
    simp only [PluginState.fatal]
    split <;> exact DrainInv.of_free (by simp) rfl
  | @upload e hu =>
    cases e with
    | terminating =>
      have hl : s.consume.leftOnTerminating = true := by simp [hu, ConsumePc.leftOnTerminating]
      exact ⟨(fun h => nomatch h), fun _ => hi.2 hl, fun _ => hi.3 hl⟩
    | failed f => exact DrainInv.of_free (by simp) rfl
  | _ => exact hi

/-- The hook starts exactly when `Terminating()` closes, and gets past its wait, and calls
`stopBlockReachFunc`, only once `consumeReadFlowDone` is closed. -/
structure HookInv (terminating : Bool) (hook : HookPc) (stopBlockReached : Bool)
    (consume : ConsumePc) : Prop where
  idle_iff : hook = .idle ↔ terminating = false
  finished_done : hook = .finished → ∃ e, consume = .done e
  reached_finished : stopBlockReached = true → hook = .finished

/-- A step of the consume task from a state that is not done. -/
theorem HookInv.consume_step {t r : Bool} {hook : HookPc} {c : ConsumePc} (c' : ConsumePc)
    (hi : HookInv t hook r c) (hc : ∀ e, c ≠ .done e) : HookInv t hook r c' :=
  ⟨hi.1, fun h => absurd (hi.2 h).choose_spec (hc _), hi.3⟩

theorem HookInv.shutdown {s : PluginState}
    (hi : HookInv s.terminating s.hook s.stopBlockReached s.consume) :
    HookInv s.shutdown.terminating s.shutdown.hook s.stopBlockReached s.consume := by
  cases ht : s.terminating
  · have hidle := hi.1.mpr ht
    simp only [PluginState.shutdown, ht, Bool.false_eq_true, if_false]
    exact ⟨by simp, (fun h => nomatch h), fun h => by simpa [hidle] using hi.3 h⟩
  · simpa [PluginState.shutdown, ht] using hi

/-- Every step keeps `HookInv`. -/
theorem HookInv.step {s s' : PluginState} (h : Step cfg s s')
    (hi : HookInv s.terminating s.hook s.stopBlockReached s.consume) :
    HookInv s'.terminating s'.hook s'.stopBlockReached s'.consume := by
  cases h with
  | shutdown | stopShutdown => exact hi.shutdown
  | hookWake hw hd =>
    refine ⟨by simpa [hw] using hi.1, fun _ => ?_, fun _ => rfl⟩
    simp only [PluginState.consumeReadFlowDone] at hd
    split at hd
    · exact ⟨_, ‹_›⟩
    · cases hd
  | sendHandoff _ _ hc | selectTerminating hc | selectBlock hc | drain hc | storeOk hc
  | storeFail hc | checkSkip hc | checkOk hc | checkFail hc | pushSkip hc | pushOk hc
  | pushFail hc | upload hc | hookReturn hc => exact hi.consume_step _ (by simp [hc])
  | fatal hc => exact hi.shutdown.consume_step _ (by simp [hc])
  | _ => exact hi

/-! ### Pushes to the live server -/

/-- The pushes of a consume task at rest, from the blocks it stored and the continuity
checks it made: every stored block, less those whose check failed, when there is a live
server; none without one. -/
def pushesOf (cfg : PluginConfig Obj) (stored : List Block) (log : List (Block × Bool)) :
    List Block :=
  if cfg.hasBlockServer then
    if cfg.hasContinuityChecker then (log.filter (·.2)).map (·.1) else stored
  else []

/-- The consume task at rest: every stored block was checked, when there is a checker, and
it pushed what `pushesOf` says. -/
structure Settled (cfg : PluginConfig Obj) (stored : List Block) (log : List (Block × Bool))
    (pushed : List Block) : Prop where
  checked : log.map Prod.fst = if cfg.hasContinuityChecker then stored else []
  pushes : pushed = pushesOf cfg stored log

theorem Settled.sublist {stored pushed : List Block} {log : List (Block × Bool)}
    (h : Settled cfg stored log pushed) : pushed.Sublist stored := by
  rw [h.pushes, pushesOf]
  split_ifs with hs hc
  · have := h.checked
    rw [if_pos hc] at this
    exact this ▸ (List.filter_sublist log).map Prod.fst
  · exact List.Sublist.refl _
  · exact List.nil_sublist _

/-- Whether the consume task is still in its loop. -/
def ConsumePc.running : ConsumePc → Bool
  | .fatal _ | .inHook _ | .upload _ | .done _ => false
  | _ => true

/-- The block the consume task stored since it was last at rest: the one it checks or
pushes. -/
def ConsumePc.storedSince : ConsumePc → List Block
  | .check b | .push b => [b]
  | _ => []

/-- The continuity check it made since it was last at rest: the one of the block it
pushes, when there is a checker. -/
def ConsumePc.checkedSince (cfg : PluginConfig Obj) : ConsumePc → List (Block × Bool)
  | .push b => if cfg.hasContinuityChecker then [(b, true)] else []
  | _ => []

/-- What the consume task has pushed: blocks it stored, in order and, while it is in its
loop, exactly what `pushesOf` says of what it had stored and checked when last at rest. -/
structure PushInv (cfg : PluginConfig Obj) (consume : ConsumePc) (stored : List Block)
    (log : List (Block × Bool)) (pushed : List Block) : Prop where
  sublist : pushed.Sublist stored
  settled : consume.running = true → ∃ stored₀ log₀,
    stored = stored₀ ++ consume.storedSince ∧ log = log₀ ++ consume.checkedSince cfg ∧
      Settled cfg stored₀ log₀ pushed

/-- Whether the consume task is at rest: at its select, at its test of the channel, or
before its next store. -/
def ConsumePc.atRest : ConsumePc → Bool
  | .select | .drain | .store _ => true
  | _ => false

theorem ConsumePc.atRest_spec (cfg : PluginConfig Obj) {c : ConsumePc} (h : c.atRest = true) :
    c.running = true ∧ c.storedSince = [] ∧ c.checkedSince cfg = [] := by
  cases c <;> simp_all [atRest, running, storedSince, checkedSince]

/-- The consume task at rest has pushed what `pushesOf` says. -/
theorem PushInv.rest {consume : ConsumePc} {stored pushed : List Block} {log : List (Block × Bool)}
    (hi : PushInv cfg consume stored log pushed) (hr : consume.atRest = true) :
    Settled cfg stored log pushed := by
  obtain ⟨hrun, hs, hl⟩ := ConsumePc.atRest_spec cfg hr
  obtain ⟨st, lg, rfl, rfl, h⟩ := hi.2 hrun
  simpa [hs, hl] using h

theorem PushInv.of_settled {c : ConsumePc} {stored pushed : List Block}
    {log : List (Block × Bool)} (hc : c.atRest = true) (h : Settled cfg stored log pushed) :
    PushInv cfg c stored log pushed :=
  have hs := ConsumePc.atRest_spec cfg hc
  ⟨h.sublist, fun _ => ⟨_, _, by simp [hs.2.1], by simp [hs.2.2], h⟩⟩

/-- The block stored since the consume task was at rest, once checked, when there is a
checker, and pushed, when there is a live server. -/
theorem Settled.push {stored pushed : List Block} {log : List (Block × Bool)} (b : Block)
    (h : Settled cfg stored log pushed) :
    Settled cfg (stored ++ [b]) (log ++ if cfg.hasContinuityChecker then [(b, true)] else [])
      (pushed ++ if cfg.hasBlockServer then [b] else []) := by
  obtain ⟨hck, hp⟩ := h
  constructor
  · cases hcc : cfg.hasContinuityChecker <;> simp_all
  · cases hcc : cfg.hasContinuityChecker <;> cases hsv : cfg.hasBlockServer <;>
      simp_all [pushesOf]

/-- The block stored since the consume task was at rest, when its continuity check fails:
it is logged and not pushed. -/
theorem Settled.checkFail {stored pushed : List Block} {log : List (Block × Bool)} (b : Block)
    (hcc : cfg.hasContinuityChecker = true) (h : Settled cfg stored log pushed) :
    Settled cfg (stored ++ [b]) (log ++ [(b, false)]) pushed := by
  obtain ⟨hck, hp⟩ := h
  exact ⟨by simp [hck, hcc], by simp [hp, pushesOf, hcc]⟩

/-- Every step keeps `PushInv`. -/
theorem PushInv.step {s s' : PluginState} (h : Step cfg s s')
    (hi : PushInv cfg s.consume s.stored s.continuityLog s.pushed) :
    PushInv cfg s'.consume s'.stored s'.continuityLog s'.pushed := by
  have stop : ∀ {c : ConsumePc} {st lg pu}, c.running = false → pu.Sublist st →
      PushInv cfg c st lg pu := fun hr hs => ⟨hs, fun h => by simp [hr] at h⟩
  cases h with
  | sendHandoff _ _ hc | selectTerminating hc | selectBlock hc =>
    exact .of_settled rfl (hi.rest (hc ▸ rfl))
  | drain hc =>
    split
    · exact stop rfl hi.1
    · exact .of_settled rfl (hi.rest (hc ▸ rfl))
  | storeOk hc =>
    exact ⟨hi.1.trans (List.sublist_append_left _ _),
      fun _ => ⟨_, _, rfl, by simp [ConsumePc.checkedSince], hi.rest (hc ▸ rfl)⟩⟩
  | storeFail | upload | hookReturn => exact stop rfl hi.1
  | checkSkip hc hcc | checkOk hc hcc =>
    obtain ⟨st, lg, hst, hlg, hset⟩ := hi.2 (hc ▸ rfl)
    exact ⟨hi.1, fun _ => ⟨st, lg, by simpa [hc, ConsumePc.storedSince] using hst,
      by simp [hc, hcc, ConsumePc.checkedSince] at hlg ⊢; exact hlg, hset⟩⟩
  | @checkFail b hc hcc =>
    obtain ⟨st, lg, hst, hlg, hset⟩ := hi.2 (hc ▸ rfl)
    simp only [hc, ConsumePc.storedSince, ConsumePc.checkedSince, List.append_nil] at hst hlg
    rw [hst, hlg]
    exact .of_settled rfl (hset.checkFail b hcc)
  | @pushSkip b hc hsv | @pushOk b hc hsv =>
    obtain ⟨st, lg, hst, hlg, hset⟩ := hi.2 (hc ▸ rfl)
    simp only [hc, ConsumePc.storedSince, ConsumePc.checkedSince] at hst hlg
    rw [hst, hlg]
    exact .of_settled rfl (by simpa [hsv] using hset.push b)
  | @pushFail b hc hsv =>
    obtain ⟨st, lg, hst, -, hset⟩ := hi.2 (hc ▸ rfl)
    simp only [hc, ConsumePc.storedSince] at hst
    exact stop rfl (by rw [hst]; simpa [hsv] using (hset.push b).sublist)
  | fatal => simp only [PluginState.fatal]; split <;> exact stop rfl hi.1
  | _ => exact hi

/-! ### All of them, along a run -/

/-- The invariants of the plugin. -/
structure Inv (cfg : PluginConfig Obj) (s : PluginState) : Prop where
  reader : ReaderInv cfg s.readCount s.gate s.reader s.sent
  channel : ChannelInv cfg s.sent s.stored s.consume s.blocks
  trigger : TriggerInv s.terminating s.sentAtTerminating s.sent s.stopTriggers
  drain : DrainInv s.terminating s.sentAtTerminating s.stored s.consume
  hook : HookInv s.terminating s.hook s.stopBlockReached s.consume
  push : PushInv cfg s.consume s.stored s.continuityLog s.pushed

theorem Inv.init (cfg : PluginConfig Obj) : Inv cfg (PluginState.init cfg) where
  reader := ⟨Nat.zero_le _, rfl, rfl, (fun h => nomatch h), fun _ h => nomatch h⟩
  channel := ⟨rfl, Nat.zero_le _⟩
  trigger := ⟨List.prefix_refl _, (fun _ h => nomatch h), fun _ _ h => nomatch h⟩
  drain := ⟨(fun h => nomatch h), (fun h => nomatch h), fun h => nomatch h⟩
  hook := ⟨Iff.intro (fun _ => rfl) (fun _ => rfl), (fun h => nomatch h), fun h => nomatch h⟩
  push := ⟨List.Sublist.slnil, fun _ => ⟨[], [], rfl, rfl, by split <;> rfl,
    by simp [pushesOf, PluginState.init]⟩⟩

theorem Inv.step {s s' : PluginState} (h : Step cfg s s') (hi : Inv cfg s) : Inv cfg s' :=
  ⟨hi.reader.step h, hi.channel.step h, hi.trigger.step h hi.reader,
    hi.drain.step h hi.channel hi.trigger, hi.hook.step h, hi.push.step h⟩

/-- Every reachable state keeps the invariants. -/
theorem reachable_inv {s : PluginState} (hs : Reachable cfg s) : Inv cfg s := by
  induction hs with
  | refl => exact Inv.init cfg
  | tail _ h ih => exact ih.step h

end NodeManager.MindReader
