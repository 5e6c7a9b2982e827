import Alfred.Whisper.Requests
import Alfred.Whisper.Registry

set_option autoImplicit false

namespace Alfred.Whisper

open Sys

def Follows (cfg : Config) (s : Sys) (tr : List Event) (wakes : List Wake) : Prop :=
  flushedWindows tr = (processAudioRun cfg [] wakes).2 ∧
    (wakes.map Wake.samples).flatten ++ s.audioQueue.buf.flatten = (acceptedChunks tr).flatten ∧
    ∀ u ctx audioBuffer, s.thread u = .processAudio ctx audioBuffer →
      audioBuffer = bufferAfter cfg wakes

structure AccumulatorInv (cfg : Config) (s : Sys) (tr : List Event) : Prop where
  follows : ∃ wakes, Follows cfg s tr wakes
  beforeStart : s.contexts = [] → Follows cfg s tr []

section Steps

variable {s s' : Sys} {tr evs : List Event}

theorem step_config {a : Act} (h : step s a = some (s', evs)) : s'.config = s.config := by
  obtain ⟨-, h | h | h | h | h | h | h | h | h⟩ := step_cases h
  · rw [(initializeService_footprint h.2).2.1]
  · exact (close_footprint h.2).2.2.2.2.2.1
  · rw [(addWebSocket_footprint h.2).2.1]
  · obtain ⟨method, body, -, h⟩ := h
    rw [(transcribeHandler_footprint h).1]
  · obtain ⟨t, ctx, audioBuffer, c, self, h⟩ := h
    rw [(processAudioStepAt_footprint self h).1]
  · obtain ⟨t, window, pc, c, self, h⟩ := h
    rw [(transcribeAudioStep_footprint self h).1]
  · obtain ⟨t, ctx, pc, c, self, h⟩ := h
    rw [(broadcastResultsStep_footprint self h).1]
  · obtain ⟨t, conn, pc, c, self, h⟩ := h
    rw [(handleWebSocketStep_footprint self h).1]
  · obtain ⟨t, pc, c, self, h⟩ := h
    rw [(transcribeHandlerStep_footprint self h).1]

theorem run_config {cfg : Config} (run : Run cfg s tr) : s.config = cfg := by
  induction run with
  | init => rfl
  | step a _ h ih => rw [step_config h, ih]

theorem close_audioQueue_buf (h : s.close = some (s', evs)) : s'.audioQueue.buf = s.audioQueue.buf := by
  unfold close at h
  split at h
  · cases h
  · obtain ⟨rfl, rfl⟩ := Prod.ext_iff.mp (Option.some.inj h).symm
    rw [closeChannels_fst, closeConnections_fst]
    unfold closeChannels
    split
    · next closed _ => rw [(Chan.close_eq_some.mp closed).2]; rfl
    · rfl
    · next closed _ => rw [(Chan.close_eq_some.mp closed).2]; rfl

@[simp] theorem flushedWindows_afterPass (s : Sys) (t ctx : Nat) (pass : Samples × Option Samples) :
    flushedWindows (afterPass s t ctx pass).2 = pass.2.toList := by
  obtain ⟨_, _ | _⟩ := pass <;> rfl

@[simp] theorem acceptedChunks_afterPass (s : Sys) (t ctx : Nat) (pass : Samples × Option Samples) :
    acceptedChunks (afterPass s t ctx pass).2 = [] := by
  obtain ⟨_, _ | _⟩ := pass <;> rfl

@[simp] theorem afterPass_audioQueue (s : Sys) (t ctx : Nat) (pass : Samples × Option Samples) :
    (afterPass s t ctx pass).1.audioQueue = s.audioQueue := by
  obtain ⟨_, _ | _⟩ := pass <;> rfl

theorem follows_initial (cfg : Config) : Follows cfg (Sys.initial cfg) [] [] :=
  ⟨rfl, rfl, fun u ctx audioBuffer now => by simp [Sys.initial, thread] at now⟩

theorem SubmitsAudio.conserves {x : Samples} (submits : SubmitsAudio s s' evs)
    (conserved : x ++ s.audioQueue.buf.flatten = (acceptedChunks tr).flatten) :
    x ++ s'.audioQueue.buf.flatten = (acceptedChunks (tr ++ evs)).flatten := by
  rcases submits with ⟨same, notAccepted⟩ | ⟨data, enqueued, rfl⟩
  · have noChunks : acceptedChunks evs = [] := List.filterMap_eq_nil_iff.mpr fun e mem => by
      cases e with
      | processAudio data err => cases err; exact absurd rfl (notAccepted _ mem data); rfl
      | _ => rfl
    rw [same, acceptedChunks_append, noChunks, List.append_nil, conserved]
  · rw [enqueued, acceptedChunks_append, List.flatten_append, List.flatten_append,
      ← List.append_assoc, conserved]
    simp [acceptedChunks]

theorem Follows.silent {cfg : Config} {wakes : List Wake} (follows : Follows cfg s tr wakes)
    (submits : SubmitsAudio s s' evs) (noFlush : ∀ e ∈ evs, e.flushedWindow = none)
    (loops : ∀ u ctx audioBuffer, s'.thread u = .processAudio ctx audioBuffer →
      s.thread u = .processAudio ctx audioBuffer) :
    Follows cfg s' (tr ++ evs) wakes := by
  obtain ⟨flushed, samples, buffer⟩ := follows
  have noWindows : flushedWindows evs = [] := List.filterMap_eq_nil_iff.mpr noFlush
  exact ⟨by rw [flushedWindows_append, noWindows, List.append_nil, flushed], submits.conserves samples,
    fun u ctx audioBuffer now => buffer u ctx audioBuffer (loops u _ _ now)⟩

theorem Follows.afterPass {cfg : Config} {wakes : List Wake} {t ctx : Nat} {audioBuffer : Samples}
    {e : Wake} {s₀ : Sys} (follows : Follows cfg s tr wakes) (life : LifecycleInv s)
    (oneStart : s.contexts.length ≤ 1) (self : s.thread t = .processAudio ctx audioBuffer)
    (same : s₀.threads = s.threads) (queue : s.audioQueue.buf.flatten = e.samples ++ s₀.audioQueue.buf.flatten) :
    Follows cfg (Whisper.afterPass s₀ t ctx (processAudioStep cfg audioBuffer e)).1
      (tr ++ (Whisper.afterPass s₀ t ctx (processAudioStep cfg audioBuffer e)).2) (wakes ++ [e]) := by
  obtain ⟨flushed, samples, buffer⟩ := follows
  obtain rfl := buffer t ctx audioBuffer self
  have inside : t < s₀.threads.length := same ▸ lt_of_thread (by simp [self])
  have keepsThreads : ∀ u, s₀.thread u = s.thread u := fun u => by simp only [thread, same]
  have run := processAudioRun_concat cfg [] wakes e
  refine ⟨?_, ?_, fun u ctx' audioBuffer' now => ?_⟩
  · rw [flushedWindows_append, flushedWindows_afterPass, flushed, run]
    rfl
  · rw [afterPass_audioQueue, acceptedChunks_append, acceptedChunks_afterPass, List.append_nil,
      ← samples, queue]
    simp
  · by_cases here : u = t
    · subst here
      rw [afterPass_thread_self inside] at now
      cases now
      simp only [bufferAfter, run]
    · have wasLoop : (s₀.thread t).loop = some (.processAudio, ctx) := by
        simp [keepsThreads, self, Thread.loop]
      have loops := (afterPass_footprint s₀ inside wasLoop
        (processAudioStep cfg (bufferAfter cfg wakes) e)).2.2.2.1 u (.processAudio, ctx')
        (by simp [now, Thread.loop])
      rw [keepsThreads] at loops
      have loopT : (s.thread t).loop = some (.processAudio, ctx) := by simp [self, Thread.loop]
      exact absurd (life.loop_unique oneStart loops loopT) here

theorem AccumulatorInv.silent {cfg : Config} (inv : AccumulatorInv cfg s tr)
    (contexts : s.contexts.length ≤ s'.contexts.length) (submits : SubmitsAudio s s' evs)
    (noFlush : ∀ e ∈ evs, e.flushedWindow = none)
    (loops : ∀ u ctx audioBuffer, s'.thread u = .processAudio ctx audioBuffer →
      s.thread u = .processAudio ctx audioBuffer) :
    AccumulatorInv cfg s' (tr ++ evs) :=
  ⟨inv.follows.imp fun _ follows => follows.silent submits noFlush loops, fun empty =>
    (inv.beforeStart (List.eq_nil_of_length_eq_zero (by simpa [empty] using contexts))).silent
      submits noFlush loops⟩

theorem accumulatorInv_start {cfg : Config} (inv : AccumulatorInv cfg s tr) (life : LifecycleInv s)
    (oneStart : (s.contexts ++ [false]).length ≤ 1) :
    AccumulatorInv cfg (({ s with
      running := true, contexts := s.contexts ++ [false], cancelFunc := some s.contexts.length }.spawn
        (.processAudio s.contexts.length [])).spawn (.broadcastResults s.contexts.length .select))
      (tr ++ [.initialized true]) := by
  have empty : s.contexts = [] := List.eq_nil_of_length_eq_zero (by simpa using oneStart)
  obtain ⟨flushed, samples, -⟩ := inv.beforeStart empty
  refine ⟨⟨[], by simpa [flushedWindows] using flushed, by simpa [acceptedChunks] using samples,
    fun u ctx audioBuffer now => ?_⟩, fun started => by simp at started⟩
  simp only [thread_spawn, spawn_threads, List.length_append, List.length_singleton] at now
  split at now
  · cases now
  · split at now
    · cases now
      rfl
    · have made := life.loopCtx u .processAudio ctx (by simp [show s.thread u = _ from now, Thread.loop])
      simp [empty] at made

theorem accumulatorInv_processAudio {cfg : Config} (inv : AccumulatorInv cfg s tr)
    (life : LifecycleInv s) (oneStart : s.contexts.length ≤ 1) (config : s.config = cfg)
    {t ctx : Nat} {audioBuffer : Samples} {c : Choice} (self : s.thread t = .processAudio ctx audioBuffer)
    (h : processAudioStepAt s t ctx audioBuffer c = some (s', evs)) : AccumulatorInv cfg s' (tr ++ evs) := by
  have started : s.contexts ≠ [] := fun empty => by
    simpa [empty] using life.loopCtx t .processAudio ctx (by simp [self, Thread.loop])
  have contexts : s'.contexts = s.contexts := by rw [(processAudioStepAt_footprint self h).1]
  refine ⟨?_, fun empty => absurd (contexts ▸ empty) started⟩
  obtain ⟨wakes, follows⟩ := inv.follows
  have inside : t < s.threads.length := lt_of_thread (by simp [self])
  unfold processAudioStepAt at h
  split at h
  · split at h
    · obtain ⟨rfl, rfl⟩ := Prod.ext_iff.mp (Option.some.inj h).symm
      refine ⟨wakes, follows.silent (.inl ⟨rfl, by simp⟩) (by simp) fun u ctx' audioBuffer' now => ?_⟩
      rw [thread_setThread s _ inside] at now
      split at now
      · cases now
      · exact now
    · cases h
  · split at h
    · next data queue received =>
      obtain ⟨rfl, rfl⟩ := Prod.ext_iff.mp (Option.some.inj h).symm
      obtain ⟨-, -, buf⟩ := Chan.recv_eq_some received
      rw [config]
      exact ⟨_, follows.afterPass life oneStart self rfl (by rw [buf]; cases data <;> simp [Wake.samples])⟩
    · cases h
  · split at h
    · obtain ⟨rfl, rfl⟩ := Prod.ext_iff.mp (Option.some.inj h).symm
      rw [config]
      exact ⟨_, follows.afterPass life oneStart self rfl (by simp [Wake.samples])⟩
    · cases h
  · cases h

theorem accumulatorInv_run {cfg : Config} (run : Run cfg s tr) (oneStart : s.contexts.length ≤ 1) :
    AccumulatorInv cfg s tr := by
  induction run with
  | init => exact ⟨⟨[], follows_initial cfg⟩, fun _ => follows_initial cfg⟩
  | step a run h ih =>
    have grows := step_contexts_length h
    have inv := ih (grows.trans oneStart)
    rcases step_cases_ingest h with h | h | ⟨t, ctx, audioBuffer, c, self, h⟩ | keeps
    · rcases initializeService_cases h with ⟨-, rfl, rfl⟩ | ⟨-, rfl, rfl⟩
      · exact inv.silent le_rfl (.inl ⟨rfl, by simp⟩) (by simp) fun _ _ _ => id
      · exact accumulatorInv_start inv (lifecycleInv_run run) oneStart
    · refine inv.silent grows (.inl ⟨close_audioQueue_buf h, fun e mem data => ?_⟩) (fun e mem => ?_)
        fun u _ _ now => by rwa [thread, (close_footprint h).2.2.1] at now
      all_goals rcases close_events h e mem with rfl | ⟨_, -, rfl | rfl⟩ | ⟨_, rfl⟩ <;> simp
    · exact accumulatorInv_processAudio inv (lifecycleInv_run run) (grows.trans oneStart)
        (run_config run) self h
    · exact inv.silent grows keeps.1 keeps.2.2.2.1 fun u _ _ now =>
        (keeps.2.2.2.2 u (.inr (by simp [now, Thread.isProcessAudio]))).symm.trans now

end Steps

theorem processAudio_refines_processAudioRun {cfg : Config} {s : Sys} {tr : List Event}
    (run : Run cfg s tr) (oneStart : s.contexts.length ≤ 1) :
    ∃ wakes : List Wake, flushedWindows tr = (processAudioRun cfg [] wakes).2 ∧
      (wakes.map Wake.samples).flatten ++ s.audioQueue.buf.flatten = (acceptedChunks tr).flatten ∧
      ∀ u ctx audioBuffer, s.thread u = .processAudio ctx audioBuffer →
        audioBuffer = bufferAfter cfg wakes :=
  (accumulatorInv_run run oneStart).follows

theorem processAudio_refines_processAudioRun_flushed :
    ∃ s tr, Run shortWindows s tr ∧ s.contexts.length ≤ 1 ∧ flushedWindows tr = [[1, 2, 3]] ∧
      ∃ wakes : List Wake, flushedWindows tr = (processAudioRun shortWindows [] wakes).2 ∧
        (wakes.map Wake.samples).flatten ++ s.audioQueue.buf.flatten = (acceptedChunks tr).flatten ∧
        ∀ u ctx audioBuffer, s.thread u = .processAudio ctx audioBuffer →
          audioBuffer = bufferAfter shortWindows wakes := by
  obtain ⟨s, tr, run, checked⟩ := exists_run_of_runActs shortWindows
    [.initializeService, .transcribeHandler "POST" (some [1, 2, 3]), .run 2 .go, .run 2 .go,
      .run 0 .receive]
    (fun s tr => decide (s.contexts.length ≤ 1) && flushedWindows tr == [[1, 2, 3]]) (by decide)
  simp only [Bool.and_eq_true, decide_eq_true_eq, beq_iff_eq] at checked
  exact ⟨s, tr, run, checked.1, checked.2, processAudio_refines_processAudioRun run checked.1⟩

theorem service_windows_at_least_half_second {cfg : Config} {s : Sys} {tr : List Event}
    (run : Run cfg s tr) (oneStart : s.contexts.length ≤ 1)
    (positive : 0 < cfg.sampleRate.toInt) (bounded : cfg.sampleRate.toInt ≤ maxInt / 3) :
    (∀ window ∈ flushedWindows tr, cfg.sampleRate.toInt / 2 ≤ window.length) ∧
      ∀ u ctx audioBuffer, s.thread u = .processAudio ctx audioBuffer →
        (audioBuffer.length : Int) < 3 * cfg.sampleRate.toInt := by
  obtain ⟨wakes, flushed, -, buffer⟩ := (accumulatorInv_run run oneStart).follows
  refine ⟨fun window mem => ?_, fun u ctx audioBuffer now => ?_⟩
  · rw [flushed] at mem
    exact processAudioRun_windows_long cfg positive bounded [] wakes window mem
  · rw [buffer u ctx audioBuffer now]
    exact bufferAfter_below cfg positive bounded wakes

theorem service_windows_at_least_half_second_flushed :
    ∃ s tr, Run twoPerSecond s tr ∧ s.contexts.length ≤ 1 ∧ 0 < twoPerSecond.sampleRate.toInt ∧
      twoPerSecond.sampleRate.toInt ≤ maxInt / 3 ∧ flushedWindows tr = [[1, 2, 3, 4, 5, 6], [7]] ∧
      (∀ window ∈ flushedWindows tr, twoPerSecond.sampleRate.toInt / 2 ≤ window.length) ∧
      ∀ u ctx audioBuffer, s.thread u = .processAudio ctx audioBuffer →
        (audioBuffer.length : Int) < 3 * twoPerSecond.sampleRate.toInt := by
  obtain ⟨s, tr, run, checked⟩ := exists_run_of_runActs twoPerSecond
    [.initializeService, .transcribeHandler "POST" (some [1, 2, 3, 4, 5, 6]), .run 2 .go, .run 2 .go,
      .run 0 .receive, .transcribeHandler "POST" (some [7]), .run 4 .go, .run 4 .go, .run 0 .receive,
      .run 0 .timeout]
    (fun s tr => decide (s.contexts.length ≤ 1) && flushedWindows tr == [[1, 2, 3, 4, 5, 6], [7]]) (by decide)
  simp only [Bool.and_eq_true, decide_eq_true_eq, beq_iff_eq] at checked
  have positive : 0 < twoPerSecond.sampleRate.toInt := by decide
  have bounded : twoPerSecond.sampleRate.toInt ≤ maxInt / 3 := by decide
  exact ⟨s, tr, run, checked.1, positive, bounded, checked.2,
    service_windows_at_least_half_second run checked.1 positive bounded⟩

end Alfred.Whisper
