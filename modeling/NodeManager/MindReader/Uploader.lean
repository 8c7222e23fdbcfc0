import NodeManager.MindReader.Plugin

/-!
# The upload task

`ReadFlow` starts a third goroutine beside the consume task, `alwaysUploadFiles`:

    for {
        if p.IsTerminating() { return }
        if err := p.archiver.uploadFiles(); err != nil { p.zlogger.Warn(...) }
        select {
        case <-p.Terminating(): return
        case <-time.After(500 * time.Millisecond):
        }
    }

Its comment says that once `Terminating()` closes "we can leave here early", since the
consume task's deferred `WaitForAllFilesToUpload()` uploads again.

## The model

* `UploaderPc`: where `alwaysUploadFiles` is.
* `System`: the plugin of `MindReader.Plugin` and its upload task, with the number of
  `uploadFiles` calls begun after `Terminating()` closed, a history variable.
* `SysStep`: a step of the plugin, the upload task staying where it is, or a step of the
  upload task, which reads `Terminating()` and writes nothing of the plugin. A failed
  `uploadFiles` is only logged, so both outcomes are one step. Time is not modelled: the
  timer may fire at any point, and when `Terminating()` is closed too, Go's `select` may
  take either case.

## What is proved

* `reachable_iff_sysReachable`: the upload task neither restricts nor extends the
  pipeline: the plugin states reachable beside it are exactly those reachable without
  it, so every result about `Reachable` holds of the system's plugin.
* `late_uploads_le_one`: in every reachable state, at most one `uploadFiles` call has
  begun after `Terminating()` closed, and the upload task has returned only if
  `Terminating()` has closed. One late call does happen, beside the consume task's
  `WaitForAllFilesToUpload()` (`late_uploads_le_one_stopConfig`).
* `uploader_winds_down`: once `Terminating()` has closed, whatever the other goroutines
  do, the upload task only moves nearer to its return, three moves at most, and until it
  has returned it always has such a move.
-/

namespace NodeManager.MindReader

variable {Obj : Type} {cfg : PluginConfig Obj}

/-- `Terminating()` never opens again: no step of the plugin clears it. -/
theorem Step.terminating_of_terminating {s s' : PluginState} (h : Step cfg s s')
    (ht : s.terminating = true) : s'.terminating = true := by
  cases h with
  | shutdown | stopShutdown _ | fatal _ => rfl
  | _ => exact ht

/-- Where `alwaysUploadFiles` is. -/
inductive UploaderPc where
  /-- At the top of its loop, `if p.IsTerminating() { return }`. -/
  | check
  /-- Past the test, about to call `p.archiver.uploadFiles()`. -/
  | upload
  /-- At its `select` on `<-p.Terminating()` and `<-time.After(500 * time.Millisecond)`. -/
  | wait
  /-- Returned. -/
  | done
  deriving DecidableEq, Repr

/-- How many moves the upload task is from its return once `Terminating()` has closed:
the `uploadFiles` call, the `select`, the test at the top of the loop. -/
def UploaderPc.rank : UploaderPc → Nat
  | .done => 0
  | .check => 1
  | .wait => 2
  | .upload => 3

/-- The plugin and its upload task. -/
structure System where
  /-- The read and the consume tasks, the hook and the shutter. -/
  plugin : PluginState
  /-- The upload task. -/
  uploader : UploaderPc
  /-- How many `uploadFiles` calls the upload task began after `Terminating()` closed. -/
  lateUploads : Nat

/-- Just after `ReadFlow` started the consume and the upload tasks. -/
def System.init (cfg : PluginConfig Obj) : System := ⟨PluginState.init cfg, .check, 0⟩

/-- One atomic action of the plugin or of its upload task. -/
inductive SysStep (cfg : PluginConfig Obj) : System → System → Prop where
  /-- A step of the read task, the consume task, the hook or a `Shutdown`. -/
  | plugin {s : System} {p : PluginState} :
      Step cfg s.plugin p → SysStep cfg s { s with plugin := p }
  /-- `if p.IsTerminating() { return }` returns. -/
  | checkTerminating {s : System} :
      s.uploader = .check → s.plugin.terminating = true →
      SysStep cfg s { s with uploader := .done }
  /-- `if p.IsTerminating() { return }` goes on. -/
  | checkRunning {s : System} :
      s.uploader = .check → s.plugin.terminating = false →
      SysStep cfg s { s with uploader := .upload }
  /-- `p.archiver.uploadFiles()` is called; a failure is only logged. -/
  | uploadFiles {s : System} :
      s.uploader = .upload →
      SysStep cfg s { s with
        uploader := .wait
        lateUploads := if s.plugin.terminating then s.lateUploads + 1 else s.lateUploads }
  /-- The `select` takes `<-p.Terminating()` and returns. -/
  | selectTerminating {s : System} :
      s.uploader = .wait → s.plugin.terminating = true →
      SysStep cfg s { s with uploader := .done }
  /-- The `select` takes `<-time.After(500 * time.Millisecond)`, back to the top of the
  loop. -/
  | selectTimer {s : System} :
      s.uploader = .wait → SysStep cfg s { s with uploader := .check }

/-- The states a run of the plugin and its upload task reaches. -/
def SysReachable (cfg : PluginConfig Obj) (s : System) : Prop :=
  Relation.ReflTransGen (SysStep cfg) (System.init cfg) s

/-! ### The upload task leaves the pipeline alone -/

/-- A step of the system is a step of the plugin, or leaves the plugin as it is. -/
theorem SysStep.plugin_eq_or_step {s s' : System} (h : SysStep cfg s s') :
    s'.plugin = s.plugin ∨ Step cfg s.plugin s'.plugin := by
  cases h with
  | plugin h => exact .inr h
  | _ => exact .inl rfl

theorem SysReachable.reachable {s : System} (hs : SysReachable cfg s) :
    Reachable cfg s.plugin := by
  induction hs with
  | refl => exact .refl
  | tail _ h ih =>
    rcases h.plugin_eq_or_step with he | h'
    · exact he ▸ ih
    · exact ih.tail h'

/-- A run of the plugin is a run of the system where the upload task does not move. -/
theorem sysRun_of_run {s : System} {p : PluginState}
    (h : Relation.ReflTransGen (Step cfg) s.plugin p) :
    Relation.ReflTransGen (SysStep cfg) s { s with plugin := p } := by
  induction h with
  | refl => exact .refl
  | tail _ h ih => exact ih.tail (.plugin h)

theorem Reachable.sysReachable {p : PluginState} (hp : Reachable cfg p) :
    SysReachable cfg ⟨p, .check, 0⟩ :=
  sysRun_of_run (s := System.init cfg) hp

/-- The plugin states reachable beside the upload task are those reachable without it. -/
theorem reachable_iff_sysReachable {p : PluginState} :
    Reachable cfg p ↔ ∃ u n, SysReachable cfg ⟨p, u, n⟩ :=
  ⟨fun hp => ⟨_, _, hp.sysReachable⟩, fun ⟨_, _, hs⟩ => hs.reachable⟩

/-! ### Calls of `uploadFiles` after `Terminating()` -/

/-- What the upload task keeps, over the fields it reads and writes. -/
structure UploaderInv (terminating : Bool) (uploader : UploaderPc) (late : Nat) : Prop where
  late_le : late ≤ 1
  early : terminating = false → late = 0
  upload_early : uploader = .upload → late = 0
  done_terminating : uploader = .done → terminating = true

/-- A step of the plugin keeps `UploaderInv`: it can only close `Terminating()`. -/
theorem UploaderInv.terminate {t t' : Bool} {u : UploaderPc} {n : Nat}
    (hi : UploaderInv t u n) (ht : t = true → t' = true) : UploaderInv t' u n :=
  ⟨hi.1, fun h => hi.2 (Bool.eq_false_iff.mpr fun h' => by simp [ht h'] at h), hi.3,
    fun h => ht (hi.4 h)⟩

/-- Every step of the system keeps `UploaderInv`. -/
theorem UploaderInv.step {s s' : System} (h : SysStep cfg s s')
    (hi : UploaderInv s.plugin.terminating s.uploader s.lateUploads) :
    UploaderInv s'.plugin.terminating s'.uploader s'.lateUploads := by
  cases h with
  | plugin h => exact hi.terminate h.terminating_of_terminating
  | checkTerminating _ ht | selectTerminating _ ht =>
    exact ⟨hi.1, hi.2, (fun h => nomatch h), fun _ => ht⟩
  | checkRunning _ ht => exact ⟨hi.1, hi.2, fun _ => hi.2 ht, (fun h => nomatch h)⟩
  | uploadFiles hu =>
    have h0 := hi.3 hu
    refine ⟨?_, fun ht => ?_, (fun h => nomatch h), (fun h => nomatch h)⟩
    · dsimp only
      split <;> omega
    · dsimp only at ht ⊢
      simp [ht, h0]
  | selectTimer => exact ⟨hi.1, hi.2, (fun h => nomatch h), (fun h => nomatch h)⟩

/-- In every reachable state, at most one `uploadFiles` call has begun after
`Terminating()` closed, and the upload task has returned only if `Terminating()` has
closed. -/
theorem late_uploads_le_one {s : System} (hs : SysReachable cfg s) :
    s.lateUploads ≤ 1 ∧ (s.uploader = .done → s.plugin.terminating = true) := by
  suffices h : UploaderInv s.plugin.terminating s.uploader s.lateUploads from ⟨h.1, h.4⟩
  induction hs with
  | refl => exact ⟨Nat.zero_le _, fun _ => rfl, fun _ => rfl, (fun h => nomatch h)⟩
  | tail _ h ih => exact ih.step h

/-- A run of `stopConfig` where the upload task passes its test, a `Shutdown` comes, the
consume task finds the channel empty and enters `WaitForAllFilesToUpload()`, and the
upload task then calls `uploadFiles`. -/
theorem stopConfig_lateUpload_run : ∃ s, SysReachable stopConfig s ∧ s.lateUploads = 1 ∧
    s.plugin.consume = .upload .terminating ∧ s.plugin.terminating = true ∧
    s.uploader = .wait := by
  have h₁ : SysReachable stopConfig _ := .single (.checkRunning rfl rfl)
  -- a `Shutdown` from outside; the consume task finds the channel empty and returns
  have h₂ := h₁.trans (sysRun_of_run (leave_terminating (.single .shutdown) rfl rfl rfl))
  exact ⟨_, h₂.tail (.uploadFiles rfl), rfl, rfl, rfl, rfl⟩

/-- `late_uploads_le_one` on `stopConfig`, where the one late call runs beside
`WaitForAllFilesToUpload()`. -/
theorem late_uploads_le_one_stopConfig : ∃ s, SysReachable stopConfig s ∧
    s.lateUploads = 1 ∧ s.plugin.consume = .upload .terminating ∧
    s.lateUploads ≤ 1 ∧ (s.uploader = .done → s.plugin.terminating = true) :=
  let ⟨s, hs, hl, hc, _⟩ := stopConfig_lateUpload_run
  ⟨s, hs, hl, hc, late_uploads_le_one hs⟩

/-! ### The upload task returns once `Terminating()` has closed -/

theorem SysStep.terminating_of_terminating {s s' : System} (h : SysStep cfg s s')
    (ht : s.plugin.terminating = true) : s'.plugin.terminating = true := by
  cases h with
  | plugin h => exact h.terminating_of_terminating ht
  | _ => exact ht

/-- With `Terminating()` closed, a step of the system leaves the upload task where it is or
brings it nearer to its return. -/
theorem SysStep.uploader_rank {s s' : System} (h : SysStep cfg s s')
    (ht : s.plugin.terminating = true) :
    s'.uploader = s.uploader ∨ s'.uploader.rank < s.uploader.rank := by
  cases h with
  | plugin => exact .inl rfl
  | checkRunning _ hf => simp [ht] at hf
  | checkTerminating hc _ | uploadFiles hc | selectTerminating hc _ | selectTimer hc =>
    exact .inr (by simp [hc, UploaderPc.rank])

/-- With `Terminating()` closed, the upload task has a move nearer to its return until it
has returned. -/
theorem SysStep.uploader_move {s : System} (ht : s.plugin.terminating = true)
    (hu : s.uploader ≠ .done) : ∃ s', SysStep cfg s s' ∧ s'.uploader.rank < s.uploader.rank := by
  cases hc : s.uploader with
  | check => exact ⟨_, .checkTerminating hc ht, by simp [UploaderPc.rank]⟩
  | upload => exact ⟨_, .uploadFiles hc, by simp [UploaderPc.rank]⟩
  | wait => exact ⟨_, .selectTerminating hc ht, by simp [UploaderPc.rank]⟩
  | done => exact absurd hc hu

/-- `Terminating()` stays closed along a run of the system. -/
theorem terminating_of_sysRun {s s' : System} (hrun : Relation.ReflTransGen (SysStep cfg) s s')
    (ht : s.plugin.terminating = true) : s'.plugin.terminating = true := by
  induction hrun with
  | refl => exact ht
  | tail _ h ih => exact h.terminating_of_terminating ih

/-- Once `Terminating()` has closed, whatever the other goroutines do, every run leaves the
upload task where it was or brings it nearer to its return, three moves at most from
anywhere; and until it has returned, it has such a move. -/
theorem uploader_winds_down {s s' : System} (ht : s.plugin.terminating = true)
    (hrun : Relation.ReflTransGen (SysStep cfg) s s') :
    (s'.uploader = s.uploader ∨ s'.uploader.rank < s.uploader.rank) ∧
      (s'.uploader = .done ∨ ∃ s'', SysStep cfg s' s'' ∧ s''.uploader.rank < s'.uploader.rank) := by
  refine ⟨?_, (em _).imp_right (SysStep.uploader_move (terminating_of_sysRun hrun ht))⟩
  induction hrun with
  | refl => exact .inl rfl
  | tail hrun h ih =>
    rcases ih with he | hl <;> rcases h.uploader_rank (terminating_of_sysRun hrun ht) with he' | hl'
    · exact .inl (he'.trans he)
    · exact .inr (he ▸ hl')
    · exact .inr (he' ▸ hl)
    · exact .inr (hl'.trans hl)

/-- `uploader_winds_down` on `stopConfig`, after the late `uploadFiles` call, when the
`select` takes the timer. -/
theorem uploader_winds_down_stopConfig : ∃ s s', SysReachable stopConfig s ∧
    s.plugin.terminating = true ∧ Relation.ReflTransGen (SysStep stopConfig) s s' ∧
    s'.uploader = .check ∧
    (s'.uploader = s.uploader ∨ s'.uploader.rank < s.uploader.rank) ∧
      (s'.uploader = .done ∨ ∃ s'', SysStep stopConfig s' s'' ∧
        s''.uploader.rank < s'.uploader.rank) :=
  let ⟨s, hs, _, _, ht, hw⟩ := stopConfig_lateUpload_run
  ⟨s, _, hs, ht, .single (.selectTimer hw), rfl,
    uploader_winds_down ht (.single (.selectTimer hw))⟩

end NodeManager.MindReader
