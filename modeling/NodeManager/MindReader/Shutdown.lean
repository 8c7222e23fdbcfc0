import NodeManager.MindReader.Ordering

/-!
# Shutting the plugin down

What `consumeReadFlow` promises when the plugin shuts down, and what it does not.

`consumeReadFlow` is "the one function blocking termination until
consumption/writeBlock/upload is done": on `Terminating()` it leaves its loop only once
`len(blocks) == 0`, then waits for the uploads and closes `consumeReadFlowDone`, for
which the `OnTerminating` hook waits. The one test of the buffer's length is enough
because every block sent is stored, held by the consume task or in the buffer
(`ChannelInv`): when the consume task leaves on `Terminating()`, every block sent before
`Terminating()` closed has been stored, the block that started the stop-block shutdown
among them (`consumeReadFlow_drains`). Nor is the protocol stuck: from every reachable
state where `Terminating()` is closed and the consume task is at its select, a run where
every store and push succeeds stores every block sent, closes `consumeReadFlowDone` and
lets the hook call `stopBlockReachFunc` (`shutdown_can_complete`). And the stop block does
start the shutdown: once a block at or past it is sent and tested, `Terminating()` has
closed or a `go p.Shutdown(nil)` is still to run (`stop_block_starts_shutdown`).

The read task, though, is not drained in turn. `ReadFlow`'s loop says it must always
read; once the consume task has left, nothing receives from `blocks`, and the read task
blocks at its send as soon as the buffer is full (`send_blocked_after_consume_exit`),
which happens after `Terminating()` whenever the node prints more than `channelCapacity`
blocks that pass the gate: no shutdown path closes the console's pipe except `Close`.
`readFlow_stalls_after_consume_exit` is such a run, with no buffer, after a `Shutdown` from
outside; `readFlow_stalls_after_stop_block` is one for every capacity, with no `Shutdown`
from outside: the stop block alone shuts the plugin down and the hook has called
`stopBlockReachFunc`, while the node still prints.
-/

namespace NodeManager.MindReader

variable {Obj : Type} {cfg : PluginConfig Obj}

/-- When the consume task has left its loop on `Terminating()`, in the deferred
`WaitForAllFilesToUpload()` or past it, every block sent before `Terminating()` closed
has been stored, in order, the blocks that started a `go p.Shutdown(nil)` among them;
and the hook got past its wait, or called `stopBlockReachFunc`, only after
`consumeReadFlowDone` closed. -/
theorem consumeReadFlow_drains {s : PluginState} (hs : Reachable cfg s)
    (hexit : s.consume = .upload .terminating ∨ s.consume = .done .terminating) :
    s.sentAtTerminating <+: s.stored ∧ (∀ b ∈ s.stopTriggers, b ∈ s.stored) ∧
      (s.hook = .finished ∨ s.stopBlockReached = true → s.consume = .done .terminating) := by
  obtain ⟨-, -, ht, hd, hh, -⟩ := reachable_inv hs
  have hl : s.consume.leftOnTerminating = true := by
    rcases hexit with h | h <;> simp [h, ConsumePc.leftOnTerminating]
  have hpre := hd.left_stored hl
  refine ⟨hpre, fun b hb => hpre.subset (ht.triggers_snapshot (hd.left_terminating hl) b hb),
    ?_⟩
  intro h
  obtain ⟨e, he⟩ := hh.finished_done (h.elim id hh.reached_finished)
  rcases hexit with h' | h' <;> rw [h'] at he <;> cases he
  exact h'

/-- `consumeReadFlow_drains` on the run of `stopConfig`, where block `2` started the
shutdown. -/
theorem consumeReadFlow_drains_stopConfig : ∃ s, Reachable stopConfig s ∧
    (s.consume = .upload .terminating ∨ s.consume = .done .terminating) ∧
    s.stopTriggers = [demoBlock2] ∧
    s.sentAtTerminating <+: s.stored ∧ (∀ b ∈ s.stopTriggers, b ∈ s.stored) ∧
    (s.hook = .finished ∨ s.stopBlockReached = true → s.consume = .done .terminating) :=
  let ⟨s, hs, hc, ht, _⟩ := stopConfig_run
  ⟨s, hs, .inl hc, ht, consumeReadFlow_drains hs (.inl hc)⟩

/-! ### The shutdown can complete -/

/-- With `Terminating()` closed and every store and push succeeding, a run that brings the
consume task to its select goes on to store the blocks in the channel, in order, and to leave
on `Terminating()`. -/
theorem drain_all {s₀ s : PluginState} (h : Relation.ReflTransGen (Step cfg) s₀ s)
    (hc : s.consume = .select) (ht : s.terminating = true) :
    ∃ s', Relation.ReflTransGen (Step cfg) s₀ s' ∧ s'.consume = .upload .terminating ∧
      s'.stored = s.stored ++ s.blocks ∧ s'.sent = s.sent ∧ s'.hook = s.hook := by
  generalize hb : s.blocks = bs
  induction bs generalizing s with
  | nil =>
    refine ⟨_, (h.tail (.selectTerminating hc ht)).tail (.drain rfl), ?_, by simp, rfl, rfl⟩
    simp [hb]
  | cons b rest ih =>
    obtain ⟨log, pushed, h₁⟩ :=
      check_push_ok ((h.tail (.selectBlock hc hb)).tail (.storeOk rfl)) rfl
    obtain ⟨s₂, h₂, hc₂, hst₂, hse₂, hh₂⟩ := ih h₁ rfl ht rfl
    exact ⟨s₂, h₂, hc₂, by simp [hst₂], hse₂, hh₂⟩

/-- From every reachable state where `Terminating()` is closed and the consume task is at its
select, the shutdown can complete: when every store and push succeeds, the consume task
stores every block sent, returns and closes `consumeReadFlowDone`, and the hook gets past its
wait and calls `stopBlockReachFunc` when there is a stop block. -/
theorem shutdown_can_complete {s : PluginState} (hs : Reachable cfg s)
    (ht : s.terminating = true) (hc : s.consume = .select) :
    ∃ s', Relation.ReflTransGen (Step cfg) s s' ∧ s'.consume = .done .terminating ∧
      s'.stored = s.sent ∧ s'.sent = s.sent ∧ s'.hook = .finished ∧
      s'.stopBlockReached = decide (cfg.stopAtBlockNum ≠ 0) := by
  obtain ⟨-, hch, -, -, hh, -⟩ := reachable_inv hs
  have hw : s.hook = .waiting := by
    cases hk : s.hook with
    | idle => simp [hh.idle_iff.mp hk] at ht
    | waiting => rfl
    | finished => obtain ⟨e, he⟩ := hh.finished_done hk; simp [hc] at he
  obtain ⟨s₁, h₁, hc₁, hst₁, hse₁, hh₁⟩ := drain_all .refl hc ht
  refine ⟨_, (h₁.tail (.upload hc₁)).tail (.hookWake (hh₁.trans hw) rfl), rfl, ?_, hse₁, rfl, rfl⟩
  simpa [hc, ConsumePc.unstored, hst₁] using hch.conservation.symm

/-- `shutdown_can_complete` on `stopConfig`, once block `2`'s `go p.Shutdown(nil)` has run
with block `2` still in the channel: the run goes on to store it. -/
theorem shutdown_can_complete_stopConfig : ∃ s, Reachable stopConfig s ∧
    s.blocks = [demoBlock2] ∧ s.sent = [demoBlock1, demoBlock2] ∧
    s.terminating = true ∧ s.consume = .select ∧
    ∃ s', Relation.ReflTransGen (Step stopConfig) s s' ∧ s'.consume = .done .terminating ∧
      s'.stored = s.sent ∧ s'.sent = s.sent ∧ s'.hook = .finished ∧
      s'.stopBlockReached = decide (stopConfig.stopAtBlockNum ≠ 0) :=
  let ⟨s, hs, hc, hb, ht, _, hse, _⟩ := stopConfig_stopped
  ⟨s, hs, hb, hse, ht, hc, shutdown_can_complete hs ht hc⟩

/-! ### The stop block starts the shutdown -/

/-- Every block sent at or past the stop block is at its stop-block test, or `Terminating()`
has closed, or a `go p.Shutdown(nil)` is still to run. -/
def StopInv (cfg : PluginConfig Obj) (sent : List Block) (reader : ReaderPc) (terminating : Bool)
    (pending : Nat) : Prop :=
  ∀ b ∈ sent, cfg.stopAtBlockNum ≠ 0 → cfg.stopAtBlockNum ≤ b.num →
    reader = .stopCheck b ∨ terminating = true ∨ 0 < pending

/-- Away from its stop-block test, the read task leaves a shutdown closed or pending. -/
theorem StopInv.not_stopCheck {sent : List Block} {reader : ReaderPc} {t : Bool} {p : Nat}
    (hi : StopInv cfg sent reader t p) (hr : ∀ b, reader ≠ .stopCheck b) :
    ∀ b ∈ sent, cfg.stopAtBlockNum ≠ 0 → cfg.stopAtBlockNum ≤ b.num → t = true ∨ 0 < p :=
  fun b hb h0 hle => (hi b hb h0 hle).resolve_left (hr b)

theorem StopInv.send {sent : List Block} {reader : ReaderPc} {t : Bool} {p : Nat} {b : Block}
    (hi : StopInv cfg sent reader t p) (hr : reader = .send b) :
    StopInv cfg (sent ++ [b]) (.stopCheck b) t p := by
  intro c hc h0 hle
  rcases List.mem_append.mp hc with hc | hc
  · exact .inr (hi.not_stopCheck (by simp [hr]) c hc h0 hle)
  · exact .inl (by rw [List.mem_singleton.mp hc])

/-- Every step keeps `StopInv`: the stop-block test of a block at or past the stop block
starts a `go p.Shutdown(nil)` unless `Terminating()` has closed, and only a `Shutdown`
takes one away. -/
theorem StopInv.step {s s' : PluginState} (h : Step cfg s s')
    (hi : StopInv cfg s.sent s.reader s.terminating s.pendingShutdowns) :
    StopInv cfg s'.sent s'.reader s'.terminating s'.pendingShutdowns := by
  cases h with
  | read hr _ => exact fun b hb h0 hle => .inr (hi.not_stopCheck (by simp [hr]) b hb h0 hle)
  | sendBuffered hr _ | sendHandoff hr _ _ => exact hi.send hr
  | @stopCheck b hr =>
    intro c hc h0 hle
    refine .inr ?_
    rcases hi c hc h0 hle with h | h | h
    · cases hr.symm.trans h
      cases ht : s.terminating <;> simp [PluginState.stopCheck, PluginState.stopsAt, ht, h0, hle]
    · exact .inl h
    · simp only [PluginState.stopCheck]
      split <;> omega
  | shutdown | stopShutdown _ | fatal _ => exact fun _ _ _ _ => .inr (.inl rfl)
  | _ => exact hi

/-- The stop block starts the shutdown: in every reachable state, each block sent at or past
a stop block is at its stop-block test, or `Terminating()` has closed, or a
`go p.Shutdown(nil)` is still to run. -/
theorem stop_block_starts_shutdown {s : PluginState} (hs : Reachable cfg s) :
    ∀ b ∈ s.sent, cfg.stopAtBlockNum ≠ 0 → cfg.stopAtBlockNum ≤ b.num →
      s.reader = .stopCheck b ∨ s.terminating = true ∨ 0 < s.pendingShutdowns := by
  induction hs with
  | refl => exact fun b hb => nomatch hb
  | tail _ h ih => exact StopInv.step h ih

/-- `stop_block_starts_shutdown` on the run of `stopConfig`, where block `2` was sent. -/
theorem stop_block_starts_shutdown_stopConfig : ∃ s, Reachable stopConfig s ∧
    ∀ b ∈ s.sent, stopConfig.stopAtBlockNum ≠ 0 → stopConfig.stopAtBlockNum ≤ b.num →
      s.reader = .stopCheck b ∨ s.terminating = true ∨ 0 < s.pendingShutdowns :=
  let ⟨s, hs, _⟩ := stopConfig_run
  ⟨s, hs, stop_block_starts_shutdown hs⟩

/-- A step after the consume task has left its loop, from a read task at its send on a full
buffer: the read task, the buffer and the consume task's exit stay as they are. -/
theorem send_blocked_step {s s' : PluginState} {b : Block} (h : Step cfg s s')
    (hc : s.consume.running = false) (hfull : s.blocks.length = cfg.channelCapacity)
    (hr : s.reader = .send b) :
    s'.reader = .send b ∧ s'.blocks = s.blocks ∧ s'.consume.running = false := by
  cases h with
  | read hr' | stopCheck hr' => simp [hr] at hr'
  | sendBuffered _ hlt => omega
  | sendHandoff _ _ h' | selectTerminating h' | selectBlock h' | drain h' | storeOk h'
  | storeFail h' | checkSkip h' | checkOk h' | checkFail h' | pushSkip h' | pushOk h'
  | pushFail h' => simp [h', ConsumePc.running] at hc
  | fatal => exact ⟨hr, rfl, by simp only [PluginState.fatal]; split <;> rfl⟩
  | upload | hookReturn => exact ⟨hr, rfl, rfl⟩
  | shutdown | stopShutdown | hookWake => exact ⟨hr, rfl, hc⟩

/-- Once the consume task has left its loop, a read task at its send on a full buffer
stays there for ever: whatever runs next, it never reads the console again. -/
theorem send_blocked_after_consume_exit {s s' : PluginState} {b : Block}
    (hrun : Relation.ReflTransGen (Step cfg) s s') (hc : s.consume.running = false)
    (hfull : s.blocks.length = cfg.channelCapacity) (hr : s.reader = .send b) :
    s'.reader = .send b := by
  suffices s'.reader = .send b ∧ s'.blocks = s.blocks ∧ s'.consume.running = false from this.1
  induction hrun with
  | refl => exact ⟨hr, rfl, hc⟩
  | tail _ h ih =>
    obtain ⟨hr', hb', hc'⟩ := ih
    obtain ⟨hr'', hb'', hc''⟩ := send_blocked_step h hc' (hb' ▸ hfull) hr'
    exact ⟨hr'', hb''.trans hb', hc''⟩

/-- Block `1`. -/
def stallBlock : Block := ⟨1, "00000001a"⟩

/-- A plugin with no buffer, no start block and no stop block, on a node that prints block
`1` and then ends its output. -/
def stallConfig : PluginConfig Block where
  console := [.ok stallBlock, .error .eof]
  transformer := .ok
  startBlockNum := 0
  stopAtBlockNum := 0
  channelCapacity := 0
  hasContinuityChecker := false
  hasBlockServer := false

/-- `Shutdown` comes first; the consume task takes `Terminating()`, finds the channel empty
and returns; the read task then reads block `1` and blocks for ever at its send, before
the `io.EOF` that would have ended it. -/
theorem readFlow_stalls_after_consume_exit :
    ∃ s, Reachable stallConfig s ∧ s.consume = .done .terminating ∧ s.reader = .send stallBlock ∧
      s.readCount < stallConfig.console.length ∧
      ∀ s', Relation.ReflTransGen (Step stallConfig) s s' → s'.reader = .send stallBlock := by
  have h₁ : Reachable stallConfig _ := .single .shutdown
  -- the consume task leaves on `Terminating()` and returns; the read task reads block `1`
  have h₂ := ((leave_terminating h₁ rfl rfl rfl).tail (.upload rfl)).tail (.read rfl rfl)
  exact ⟨_, h₂, rfl, rfl, by decide, fun _ h => send_blocked_after_consume_exit h rfl rfl rfl⟩

/-! ### The stall at every capacity, from the stop block alone -/

/-- Block `n` of a node's output. -/
def nodeBlock (n : Nat) : Block := ⟨UInt64.ofNat n, toString n⟩

/-- A plugin with a buffer of `c` blocks and stop block `1`, on a node that prints blocks
`1` to `c + 2` and then ends its output. -/
def stopStallConfig (c : Nat) : PluginConfig Block where
  console := (List.range (c + 2)).map (fun i => .ok (nodeBlock (i + 1))) ++ [.error .eof]
  transformer := .ok
  startBlockNum := 0
  stopAtBlockNum := 1
  channelCapacity := c
  hasContinuityChecker := false
  hasBlockServer := false

theorem stopStallConfig_console (c k : Nat) (hk : k < c + 2) :
    (stopStallConfig c).console[k]? = some (.ok (nodeBlock (k + 1))) := by
  simp [stopStallConfig, List.getElem?_append_left, hk]

/-- With the gate open, the read task holds the block it reads at its send, and the gate
stays as it is. -/
theorem afterRead_open (cfg : PluginConfig Block) (htr : cfg.transformer = .ok) {s : PluginState}
    (hg : s.gate.passed = true) (b : Block) :
    (s.afterRead cfg (.ok b)).reader = .send b ∧ (s.afterRead cfg (.ok b)).gate = s.gate := by
  simp [PluginState.afterRead, htr, readOneMessage, BlockNumberGate.pass, hg, ReaderPc.next]

/-- The first block reaches the stop block: its `go p.Shutdown(nil)` closes
`Terminating()`, the consume task stores it, finds the channel empty and returns, and the
hook calls `stopBlockReachFunc`; nothing outside the plugin calls `Shutdown`. -/
theorem stopStall_first (c : Nat) : ∃ s, Reachable (stopStallConfig c) s ∧
    s.reader = .read ∧ s.readCount = 1 ∧ s.blocks = [] ∧ s.gate.passed = true ∧
    s.consume = .done .terminating ∧ s.hook = .finished ∧ s.stopBlockReached = true ∧
    s.outsideShutdowns = 0 := by
  have h₀ : Reachable (stopStallConfig c) (PluginState.init (stopStallConfig c)) := .refl
  have hget := stopStallConfig_console c 0 (by omega)
  -- block `1` is sent and tested, its `go p.Shutdown(nil)` runs, and the consume task
  -- stores it, handed over or from the buffer
  obtain ⟨s, hs, hr, hn, hb, hg, hc, ht, hh, ho⟩ : ∃ s, Reachable (stopStallConfig c) s ∧
      s.reader = .read ∧ s.readCount = 1 ∧ s.blocks = [] ∧ s.gate.passed = true ∧
      s.consume = .select ∧ s.terminating = true ∧ s.hook = .waiting ∧
      s.outsideShutdowns = 0 := by
    cases c with
    | zero =>
      exact ⟨_, store_skip ((turn_handoff h₀ rfl hget rfl rfl rfl).tail
        (.stopShutdown Nat.one_pos)) rfl rfl rfl, rfl, rfl, rfl, rfl, rfl, rfl, rfl, rfl⟩
    | succ n =>
      exact ⟨_, store_skip (((turn_buffered h₀ rfl hget rfl (Nat.succ_pos n)).tail
        (.stopShutdown Nat.one_pos)).tail (.selectBlock rfl rfl)) rfl rfl rfl,
        rfl, rfl, rfl, rfl, rfl, rfl, rfl, rfl⟩
  -- the consume task takes `Terminating()` and returns; the hook gets past its wait
  have h := ((leave_terminating hs hc ht hb).tail (.upload rfl)).tail (.hookWake hh rfl)
  exact ⟨_, h, hr, hn, hb, hg, rfl, rfl, rfl, ho⟩

/-- The node keeps printing: with nobody receiving, the read task reads and buffers the next
`k` blocks, up to the capacity. -/
theorem stopStall_fill (c : Nat) : ∀ k ≤ c, ∃ s, Reachable (stopStallConfig c) s ∧
    s.reader = .read ∧ s.readCount = k + 1 ∧ s.blocks.length = k ∧ s.gate.passed = true ∧
    s.consume = .done .terminating ∧ s.hook = .finished ∧ s.stopBlockReached = true ∧
    s.outsideShutdowns = 0 := by
  intro k hk
  induction k with
  | zero =>
    obtain ⟨s, hs, hr, hn, hb, hg, hc, hh, hsr, ho⟩ := stopStall_first c
    exact ⟨s, hs, hr, hn, by simp [hb], hg, hc, hh, hsr, ho⟩
  | succ k ih =>
    obtain ⟨s, hs, hr, hn, hl, hg, hc, hh, hsr, ho⟩ := ih (by omega)
    have hget : (stopStallConfig c).console[s.readCount]? = some (.ok (nodeBlock (k + 1 + 1))) := by
      rw [hn]; exact stopStallConfig_console c (k + 1) (by omega)
    obtain ⟨hsend, hgate⟩ := afterRead_open (stopStallConfig c) rfl hg (nodeBlock (k + 1 + 1))
    refine ⟨_, turn_buffered hs hr hget hsend (show s.blocks.length < c by omega), rfl,
      congrArg (· + 1) hn, show (s.blocks ++ [_]).length = _ by simp [hl],
      (congrArg BlockNumberGate.passed hgate).trans hg, hc, hh, hsr, ho⟩

/-- For every capacity `c`, the stop block alone stalls the read task: with no `Shutdown`
from outside the plugin, block `1` starts `go p.Shutdown(nil)`, the consume task drains the
channel and returns, the hook calls `stopBlockReachFunc`; the node prints `c + 1` more
blocks, and the read task blocks for ever at the send of the last one, before the `io.EOF`
that would have ended it. -/
theorem readFlow_stalls_after_stop_block (c : Nat) :
    ∃ s, Reachable (stopStallConfig c) s ∧ s.outsideShutdowns = 0 ∧
      s.consume = .done .terminating ∧
      s.stopBlockReached = true ∧ s.readCount < (stopStallConfig c).console.length ∧
      s.reader = .send (nodeBlock (c + 2)) ∧
      ∀ s', Relation.ReflTransGen (Step (stopStallConfig c)) s s' →
        s'.reader = .send (nodeBlock (c + 2)) := by
  obtain ⟨s, hs, hr, hn, hl, hg, hc, -, hsr, ho⟩ := stopStall_fill c c le_rfl
  have hget : (stopStallConfig c).console[s.readCount]? = some (.ok (nodeBlock (c + 1 + 1))) := by
    rw [hn]; exact stopStallConfig_console c (c + 1) (by omega)
  have hsend := (afterRead_open (stopStallConfig c) rfl hg (nodeBlock (c + 1 + 1))).1
  refine ⟨_, hs.tail (.read hr hget), ho, hc, hsr, ?_, hsend,
    fun _ h => send_blocked_after_consume_exit h (show s.consume.running = false by rw [hc]; rfl) hl
      hsend⟩
  show s.readCount + 1 < _
  simp [stopStallConfig, hn]

end NodeManager.MindReader
