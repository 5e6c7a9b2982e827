import Alfred.Whisper.Footprint

set_option autoImplicit false

namespace Alfred.Whisper

open Sys

theorem close_stops {s s' : Sys} {evs : List Event} (h : s.close = some (s', evs)) :
    s'.contexts = s.stop.contexts ∧ s'.running = false ∧ s'.cancelFunc = s.cancelFunc ∧
      s'.threads = s.threads := by
  unfold close at h
  split at h
  · cases h
  · obtain ⟨rfl, rfl⟩ := Prod.ext_iff.mp (Option.some.inj h).symm
    rw [closeChannels_fst, closeConnections_fst]
    simp

def KeepsLifecycle (s s' : Sys) : Prop :=
  s'.contexts = s.contexts ∧ s'.running = s.running ∧ s'.cancelFunc = s.cancelFunc ∧ LoopsFrom s s'

section Steps

variable {s s' : Sys} {evs : List Event}

theorem keepsLifecycle_of_sameExcept {Q : Thread → Prop}
    (shape : s'.contexts = s.contexts ∧ s'.running = s.running ∧ s'.cancelFunc = s.cancelFunc)
    (threads : SameExcept Q s s') (notLoop : ∀ th, Q th → th.loop = none) : KeepsLifecycle s s' :=
  ⟨shape.1, shape.2.1, shape.2.2, LoopsFrom.of_sameExcept threads notLoop⟩

theorem step_cases_lifecycle {a : Act} (h : step s a = some (s', evs)) :
    s.initializeService = some (s', evs) ∨ s.close = some (s', evs) ∨ KeepsLifecycle s s' := by
  obtain ⟨-, h | h | h | h | h | h | h | h | h⟩ := step_cases h
  · exact .inl h.2
  · exact .inr (.inl h.2)
  all_goals refine .inr (.inr ?_)
  · obtain ⟨-, shape, threads, -, -⟩ := addWebSocket_footprint h.2
    refine keepsLifecycle_of_sameExcept (by rw [shape]; simp) threads fun th kind => ?_
    rcases kind with rfl | kind
    · rfl
    · cases th <;> simp [Thread.isHandler, Thread.loop] at kind ⊢
  · obtain ⟨method, body, -, h⟩ := h
    obtain ⟨shape, threads, -⟩ := transcribeHandler_footprint h
    refine keepsLifecycle_of_sameExcept (by rw [shape]; simp) threads fun th kind => ?_
    rcases kind with rfl | kind
    · rfl
    · cases th <;> simp [Thread.isRequest, Thread.loop] at kind ⊢
  · obtain ⟨t, ctx, audioBuffer, c, self, h⟩ := h
    obtain ⟨shape, -, -, -, -, loops, -⟩ := processAudioStepAt_footprint self h
    exact ⟨by rw [shape], by rw [shape], by rw [shape], loops⟩
  · obtain ⟨t, window, pc, c, self, h⟩ := h
    obtain ⟨shape, -, threads, -⟩ := transcribeAudioStep_footprint self h
    refine keepsLifecycle_of_sameExcept (by rw [shape]; simp) threads fun th kind => ?_
    rcases kind with kind | rfl
    · cases th <;> simp [Thread.isWorker, Thread.loop] at kind ⊢
    · rfl
  · obtain ⟨t, ctx, pc, c, self, h⟩ := h
    obtain ⟨shape, -, -, loops, -, -⟩ := broadcastResultsStep_footprint self h
    exact ⟨by rw [shape], by rw [shape], by rw [shape], loops⟩
  · obtain ⟨t, conn, pc, c, self, h⟩ := h
    obtain ⟨shape, -, -, threads, -⟩ := handleWebSocketStep_footprint self h
    refine keepsLifecycle_of_sameExcept (by rw [shape]; simp) threads fun th kind => ?_
    rcases kind with kind | rfl
    · cases th <;> simp [Thread.isHandler, Thread.loop] at kind ⊢
    · rfl
  · obtain ⟨t, pc, c, self, h⟩ := h
    obtain ⟨shape, -, -, -, threads, -, -⟩ := transcribeHandlerStep_footprint self h
    refine keepsLifecycle_of_sameExcept (by rw [shape]; simp) threads fun th kind => ?_
    cases th <;> simp [Thread.isRequest, Thread.loop] at kind ⊢

end Steps

structure LifecycleInv (s : Sys) : Prop where
  cancelNewest : s.cancelFunc = if s.contexts = [] then none else some (s.contexts.length - 1)
  olderCancelled : ∀ ctx, ctx + 1 < s.contexts.length → s.cancelled ctx = true
  running : s.running = true ↔ ∃ ctx, s.cancelFunc = some ctx ∧ s.cancelled ctx = false
  loopCtx : ∀ u k ctx, (s.thread u).loop = some (k, ctx) → ctx < s.contexts.length
  loopOnce : ∀ u v l, (s.thread u).loop = some l → (s.thread v).loop = some l → u = v

-- started once, the service runs one loop of each kind at most
theorem LifecycleInv.loop_unique {s : Sys} (life : LifecycleInv s) (oneStart : s.contexts.length ≤ 1)
    {u v ctx ctx' : Nat} {k : LoopKind} (loopU : (s.thread u).loop = some (k, ctx))
    (loopV : (s.thread v).loop = some (k, ctx')) : u = v := by
  have := life.loopCtx u k ctx loopU
  have := life.loopCtx v k ctx' loopV
  obtain rfl : ctx = ctx' := by omega
  exact life.loopOnce u v _ loopU loopV

section Preservation

variable {s s' : Sys} {evs : List Event}

theorem lifecycleInv_initial (cfg : Config) : LifecycleInv (Sys.initial cfg) where
  cancelNewest := rfl
  olderCancelled := by simp [Sys.initial]
  running := by simp [Sys.initial]
  loopCtx := by simp [Sys.initial, thread, Thread.loop]
  loopOnce := by simp [Sys.initial, thread, Thread.loop]

theorem lifecycleInv_keeps (inv : LifecycleInv s) (keeps : KeepsLifecycle s s') : LifecycleInv s' := by
  obtain ⟨contexts, running, cancelFunc, loops⟩ := keeps
  have cancelled : ∀ ctx, s'.cancelled ctx = s.cancelled ctx := fun ctx => by simp [Sys.cancelled, contexts]
  refine ⟨by rw [cancelFunc, contexts]; exact inv.cancelNewest, fun ctx older => ?_, ?_,
    fun u k ctx now => ?_, fun u v l nowU nowV => inv.loopOnce u v l (loops u l nowU) (loops v l nowV)⟩
  · rw [cancelled]; exact inv.olderCancelled ctx (contexts ▸ older)
  · simp only [running, cancelFunc, cancelled]; exact inv.running
  · rw [contexts]; exact inv.loopCtx u k ctx (loops u _ now)

theorem getD_set_true {l : List Bool} (i : Nat) {j : Nat} (old : l.getD j false = true) :
    (l.set i true).getD j false = true := by
  simp only [List.getD_eq_getElem?_getD, List.getElem?_set'] at old ⊢
  split
  · cases entry : l[j]? <;> simp_all
  · exact old

theorem LifecycleInv.all_cancelled (inv : LifecycleInv s) (stopped : s.running = false) {ctx : Nat}
    (made : ctx < s.contexts.length) : s.cancelled ctx = true := by
  by_cases older : ctx + 1 < s.contexts.length
  · exact inv.olderCancelled ctx older
  · have newest : s.cancelFunc = some ctx := by
      rw [inv.cancelNewest, if_neg (List.ne_nil_of_length_pos (by omega))]
      congr 1; omega
    cases live : s.cancelled ctx
    · exact absurd (inv.running.mpr ⟨ctx, newest, live⟩) (by simp [stopped])
    · rfl

theorem lifecycleInv_start (inv : LifecycleInv s) (stopped : s.running = false) :
    LifecycleInv (({ s with
      running := true, contexts := s.contexts ++ [false], cancelFunc := some s.contexts.length }.spawn
        (.processAudio s.contexts.length [])).spawn (.broadcastResults s.contexts.length .select)) := by
  have cancelled : ∀ ctx, ctx < s.contexts.length →
      (s.contexts ++ [false]).getD ctx false = s.cancelled ctx := fun ctx made => by
    simp [Sys.cancelled, List.getD_eq_getElem?_getD, List.getElem?_append_left made]
  -- the loops after the step: the old ones, and the two new ones at the end
  have loops : ∀ u l, ((({ s with
      running := true, contexts := s.contexts ++ [false], cancelFunc := some s.contexts.length }.spawn
        (.processAudio s.contexts.length [])).spawn
          (.broadcastResults s.contexts.length .select)).thread u).loop = some l →
      (s.thread u).loop = some l ∨ u = s.threads.length ∧ l = (.processAudio, s.contexts.length) ∨
        u = s.threads.length + 1 ∧ l = (.broadcastResults, s.contexts.length) := by
    intro u l now
    simp only [thread_spawn, spawn_threads, List.length_append, List.length_singleton] at now
    split at now
    · next last => exact .inr (.inr ⟨last, by simpa [Thread.loop] using now.symm⟩)
    · split at now
      · next first => exact .inr (.inl ⟨first, by simpa [Thread.loop] using now.symm⟩)
      · exact .inl now
  refine ⟨by simp, fun ctx older => ?_, ?_, fun u k ctx now => ?_, fun u v l nowU nowV => ?_⟩
  · have older : ctx < s.contexts.length := by simpa using older
    show (s.contexts ++ [false]).getD ctx false = true
    rw [cancelled ctx older]
    exact inv.all_cancelled stopped older
  · simp [Sys.cancelled]
  · rcases loops u _ now with old | ⟨-, same⟩ | ⟨-, same⟩
    · simpa using Nat.lt_succ_of_lt (inv.loopCtx u k ctx old)
    all_goals simp only [Prod.mk.injEq] at same; simp [same.2]
  · have fresh : ∀ w k, (s.thread w).loop ≠ some (k, s.contexts.length) := fun w k old =>
      absurd (inv.loopCtx w k _ old) (Nat.lt_irrefl _)
    rcases loops u l nowU with oldU | ⟨rfl, rfl⟩ | ⟨rfl, rfl⟩ <;>
      rcases loops v _ nowV with oldV | ⟨rfl, same⟩ | ⟨rfl, same⟩
    all_goals first
      | exact inv.loopOnce u v l oldU oldV
      | rfl
      | exact absurd (same ▸ oldU) (fresh _ _)
      | exact absurd oldV (fresh _ _)
      | simp at same

theorem lifecycleInv_close (inv : LifecycleInv s) (h : s.close = some (s', evs)) : LifecycleInv s' := by
  obtain ⟨contexts, stopped, cancelFunc, threads⟩ := close_stops h
  have length : s'.contexts.length = s.contexts.length := by
    rw [contexts, stop_contexts]; split <;> simp
  have keeps : ∀ ctx, s.cancelled ctx = true → s'.cancelled ctx = true := fun ctx old => by
    simp only [Sys.cancelled, contexts, stop_contexts] at old ⊢
    split
    · exact getD_set_true _ old
    · exact old
  have sameThreads : ∀ u, s'.thread u = s.thread u := fun u => by simp [thread, threads]
  refine ⟨?_, fun ctx older => keeps ctx (inv.olderCancelled ctx (length ▸ older)), ?_,
    fun u k ctx now => ?_, fun u v l nowU nowV => ?_⟩
  · simp only [cancelFunc, inv.cancelNewest, ← List.length_eq_zero, length]
  · simp only [stopped, Bool.false_eq_true, false_iff, not_exists, not_and, cancelFunc]
    intro ctx newest
    have made : ctx < s.contexts.length := by
      rw [inv.cancelNewest] at newest
      split at newest
      · cases newest
      · next nonempty =>
        have := List.length_pos.mpr nonempty
        simp only [Option.some.injEq] at newest
        omega
    simp [Sys.cancelled, contexts, stop_contexts, newest, List.getD_eq_getElem?_getD, made]
  · rw [length]; exact inv.loopCtx u k ctx (sameThreads u ▸ now)
  · exact inv.loopOnce u v l (sameThreads u ▸ nowU) (sameThreads v ▸ nowV)

theorem lifecycleInv_run {cfg : Config} {tr : List Event} (run : Run cfg s tr) : LifecycleInv s := by
  induction run with
  | init => exact lifecycleInv_initial cfg
  | step a _ h inv =>
    rcases step_cases_lifecycle h with h | h | keeps
    · rcases initializeService_cases h with ⟨-, rfl, -⟩ | ⟨stopped, -, rfl⟩
      · exact inv
      · exact lifecycleInv_start inv stopped
    · exact lifecycleInv_close inv h
    · exact lifecycleInv_keeps inv keeps

end Preservation

theorem LifecycleInv.newest_of_live {s : Sys} (inv : LifecycleInv s) {ctx : Nat}
    (made : ctx < s.contexts.length) (live : s.cancelled ctx = false) : ctx + 1 = s.contexts.length := by
  by_contra older
  simp [inv.olderCancelled ctx (by omega)] at live

theorem one_live_loop_of_each_kind {cfg : Config} {s : Sys} {tr : List Event} (run : Run cfg s tr) :
    (s.running = true ↔ ∃ ctx, s.cancelFunc = some ctx ∧ s.cancelled ctx = false) ∧
      (∀ ctx, ctx < s.contexts.length → s.cancelFunc ≠ some ctx → s.cancelled ctx = true) ∧
      ∀ u v k ctx ctx', (s.thread u).loop = some (k, ctx) → (s.thread v).loop = some (k, ctx') →
        s.cancelled ctx = false → s.cancelled ctx' = false → u = v := by
  have inv := lifecycleInv_run run
  refine ⟨inv.running, fun ctx made other => ?_, fun u v k ctx ctx' loopU loopV liveU liveV => ?_⟩
  · cases live : s.cancelled ctx
    · have newest := inv.newest_of_live made live
      rw [inv.cancelNewest, if_neg (List.ne_nil_of_length_pos (by omega))] at other
      exact absurd (by congr 1; omega) other
    · rfl
  · have newestU := inv.newest_of_live (inv.loopCtx u k ctx loopU) liveU
    have newestV := inv.newest_of_live (inv.loopCtx v k ctx' loopV) liveV
    obtain rfl : ctx = ctx' := by omega
    exact inv.loopOnce u v (k, ctx) loopU loopV

theorem one_live_loop_of_each_kind_after_restart :
    ∃ s tr, Run shortWindows s tr ∧ s.contexts = [true, false] ∧
      ((s.running = true ↔ ∃ ctx, s.cancelFunc = some ctx ∧ s.cancelled ctx = false) ∧
        (∀ ctx, ctx < s.contexts.length → s.cancelFunc ≠ some ctx → s.cancelled ctx = true) ∧
        ∀ u v k ctx ctx', (s.thread u).loop = some (k, ctx) → (s.thread v).loop = some (k, ctx') →
          s.cancelled ctx = false → s.cancelled ctx' = false → u = v) := by
  obtain ⟨s, tr, run, checked⟩ := exists_run_of_runActs shortWindows
    [.initializeService, .close, .initializeService] (fun s _ => s.contexts == [true, false]) (by decide)
  exact ⟨s, tr, run, by simpa using checked, one_live_loop_of_each_kind run⟩

theorem initialize_after_close_restarts :
    ∃ s tr, Run shortWindows s tr ∧ Event.close ∈ tr ∧ s.running = true ∧
      (s.thread 0).loop = some (.processAudio, 0) ∧ (s.thread 2).loop = some (.processAudio, 1) := by
  obtain ⟨s, tr, run, checked⟩ := exists_run_of_runActs shortWindows
    [.initializeService, .close, .initializeService]
    (fun s tr => tr.contains .close && s.running &&
      (s.thread 0).loop == some (.processAudio, 0) && (s.thread 2).loop == some (.processAudio, 1))
    (by decide)
  simp only [Bool.and_eq_true, beq_iff_eq, List.elem_iff] at checked
  exact ⟨s, tr, run, checked.1.1.1, checked.1.1.2, checked.1.2, checked.2⟩

theorem close_and_processAudio_panic :
    (∃ s tr, Run shortWindows s tr ∧ Event.panic (.closeOfClosedChannel .audioQueue) ∈ tr ∧
      s.crashed = true) ∧
    ∃ s tr, Run shortWindows s tr ∧ Event.panic (.sendOnClosedChannel .audioQueue) ∈ tr ∧
      s.crashed = true := by
  constructor
  · obtain ⟨s, tr, run, checked⟩ := exists_run_of_runActs shortWindows
      [.initializeService, .close, .close]
      (fun s tr => tr.contains (.panic (.closeOfClosedChannel .audioQueue)) && s.crashed) (by decide)
    simp only [Bool.and_eq_true, List.elem_iff] at checked
    exact ⟨s, tr, run, checked⟩
  · obtain ⟨s, tr, run, checked⟩ := exists_run_of_runActs shortWindows
      [.initializeService, .addWebSocket, .run 2 .go, .run 2 (.write true),
        .run 2 (.read (.samples [1, 2, 3])), .run 2 .go, .close, .run 2 .go]
      (fun s tr => tr.contains (.panic (.sendOnClosedChannel .audioQueue)) && s.crashed) (by decide)
    simp only [Bool.and_eq_true, List.elem_iff] at checked
    exact ⟨s, tr, run, checked⟩

end Alfred.Whisper
