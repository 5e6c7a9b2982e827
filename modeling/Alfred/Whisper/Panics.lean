import Alfred.Whisper.Engine
import Alfred.Whisper.Connections

set_option autoImplicit false

namespace Alfred.Whisper

open Sys

theorem Chan.close_eq_none {α : Type} {c : Chan α} : c.close = none ↔ c.closed = true := by
  unfold Chan.close
  cases c.closed <;> simp

structure ChannelsInv (s : Sys) (tr : List Event) : Prop where
  queueClosed : s.audioQueue.closed = true → Event.close ∈ tr
  closeCloses : Event.close ∈ tr → s.audioQueue.closed = true
  resultsClosed : s.results.closed = true → s.audioQueue.closed = true

section Steps

variable {s s' : Sys} {t : Nat} {c : Choice} {tr evs : List Event}

theorem submitStep_panicked {data : Samples} {pc : Submit}
    (panicked : (submitStep s data pc).1 = .panicked) : s.audioQueue.closed = true := by
  cases pc with
  | check => by_cases running : s.running <;> simp [submitStep, running] at panicked
  | send =>
    cases sent : s.audioQueue.send data with
    | panic => exact Chan.send_eq_panic.mp sent
    | _ => simp [submitStep, sent] at panicked

theorem submitStep_accepted {data : Samples} {pc : Submit}
    (accepted : (submitStep s data pc).1 = .returned none) : s.audioQueue.closed = false := by
  cases pc with
  | check => by_cases running : s.running <;> simp [submitStep, running] at accepted
  | send =>
    cases sent : s.audioQueue.send data with
    | sent queue => exact (Chan.send_eq_sent.mp sent).1
    | _ => simp [submitStep, sent] at accepted

-- a step other than `Close` panics on the closed queue or on two writes to one connection
def StepOutcome (s : Sys) (evs : List Event) : Prop :=
  (∀ p, Event.panic p ∈ evs →
      p = .sendOnClosedChannel .audioQueue ∧ s.audioQueue.closed = true ∨
        ∃ c, p = .concurrentWrite c ∧ evs = [.panic p] ∧ 2 ≤ s.writers c) ∧
    ∀ data, Event.processAudio data none ∈ evs →
      evs = [.processAudio data none] ∧ s.audioQueue.closed = false

theorem stepOutcome_quiet (quiet : ∀ e ∈ evs, (∀ p, e ≠ .panic p) ∧ ∀ data, e ≠ .processAudio data none) :
    StepOutcome s evs :=
  ⟨fun p mem => absurd rfl ((quiet _ mem).1 p), fun data mem => absurd rfl ((quiet _ mem).2 data)⟩

theorem stepOutcome_submit {data : Samples} {pc : Submit} {err : Option String}
    (returned : (submitStep s data pc).1 = .returned err) : StepOutcome s [.processAudio data err] :=
  ⟨by simp, fun data' mem => by
    simp only [List.mem_singleton, Event.processAudio.injEq] at mem
    obtain ⟨rfl, rfl⟩ := mem
    exact ⟨rfl, submitStep_accepted returned⟩⟩

theorem stepOutcome_panicked {data : Samples} {pc : Submit}
    (panicked : (submitStep s data pc).1 = .panicked) :
    StepOutcome s [.panic (.sendOnClosedChannel .audioQueue)] :=
  ⟨fun p mem => .inl ⟨by simpa using mem, submitStep_panicked panicked⟩, by simp⟩

theorem stepOutcome_collide {conn : Nat} (overlap : 2 ≤ s.writers conn) :
    StepOutcome s [.panic (.concurrentWrite conn)] :=
  ⟨fun p mem => by
    obtain rfl : p = .concurrentWrite conn := by simpa using mem
    exact .inr ⟨conn, rfl, rfl, overlap⟩, by simp⟩

theorem handleWebSocketStep_outcome {conn : Nat} {pc : HandlerPc}
    (h : handleWebSocketStep s t conn pc c = some (s', evs)) : StepOutcome s evs := by
  unfold handleWebSocketStep at h
  split at h
  · cases h; exact stepOutcome_quiet (by simp)
  · cases h; exact stepOutcome_quiet (by simp)
  · split at h <;> cases h; exact stepOutcome_collide (by assumption)
  · cases h; exact stepOutcome_quiet (by simp)
  · split at h <;> cases h; exact stepOutcome_quiet (by simp)
  · split at h <;> cases h; exact stepOutcome_quiet (by simp)
  · split at h
    · cases h; exact stepOutcome_quiet (by simp)
    · next returned => cases h; exact stepOutcome_submit (by rw [returned])
    · next panicked => cases h; exact stepOutcome_panicked (by rw [panicked])
  · split at h <;> cases h
    exact stepOutcome_quiet (by unfold deregisterEvents; split <;> simp)
  · cases h

theorem broadcastResultsStep_outcome {ctx : Nat} {pc : BroadcasterPc}
    (h : broadcastResultsStep s t ctx pc c = some (s', evs)) : StepOutcome s evs := by
  unfold broadcastResultsStep at h
  split at h
  · split at h <;> cases h; exact stepOutcome_quiet (by simp)
  · split at h <;> cases h; exact stepOutcome_quiet (by simp)
  · split at h
    · split at h <;> cases h <;> exact stepOutcome_quiet (by simp)
    · cases h
  · split at h <;> cases h; exact stepOutcome_quiet (by simp)
  · split at h <;> cases h
    · exact stepOutcome_quiet (by simp)
    · exact stepOutcome_quiet (by unfold deregisterEvents; split <;> simp)
  · split at h <;> cases h; exact stepOutcome_collide (by assumption)
  · cases h

theorem transcribeHandlerStep_outcome {pc : RequestPc}
    (h : transcribeHandlerStep s t pc c = some (s', evs)) : StepOutcome s evs := by
  unfold transcribeHandlerStep at h
  split at h
  · split at h
    · cases h; exact stepOutcome_quiet (by simp)
    · next returned => cases h; exact stepOutcome_submit (by rw [returned])
    · next returned => cases h; exact stepOutcome_submit (by rw [returned])
    · next panicked => cases h; exact stepOutcome_panicked (by rw [panicked])
  · split at h <;> cases h; exact stepOutcome_quiet (by simp)
  · cases h

theorem close_closes (h : s.close = some (s', evs)) :
    s'.audioQueue.closed = true ∧ ∀ p, Event.panic p ∈ evs →
      p = .closeOfClosedChannel .audioQueue ∧ s.audioQueue.closed = true ∨
        p = .closeOfClosedChannel .results ∧ s.audioQueue.closed = false ∧ s.results.closed = true := by
  unfold close at h
  split at h
  · cases h
  · obtain ⟨rfl, rfl⟩ := Prod.ext_iff.mp (Option.some.inj h).symm
    have quiet : ∀ p, Event.panic p ∉ Event.close :: (s.stop.closeConnections s.connections).2 := by
      intro p mem
      rcases List.mem_cons.mp mem with bad | more
      · cases bad
      · obtain ⟨_, -, bad | bad⟩ := closeConnections_events _ _ _ more <;> cases bad
    have queue : (s.stop.closeConnections s.connections).1.audioQueue = s.audioQueue := by
      rw [closeConnections_fst]; rfl
    have results : (s.stop.closeConnections s.connections).1.results = s.results := by
      rw [closeConnections_fst]; rfl
    unfold closeChannels
    split
    · next closedQueue _ =>
      exact ⟨by rw [(Chan.close_eq_some.mp closedQueue).2], fun p mem => absurd mem (quiet p)⟩
    · next closedQueue =>
      rw [queue, Chan.close_eq_none] at closedQueue
      refine ⟨by rw [← closedQueue, ← queue], fun p mem => ?_⟩
      rcases List.mem_append.mp mem with old | new
      · exact absurd old (quiet p)
      · exact .inl ⟨by simpa using new, closedQueue⟩
    · next closedQueue closedResults =>
      rw [results, Chan.close_eq_none] at closedResults
      have openQueue := (Chan.close_eq_some.mp closedQueue).1
      rw [queue] at openQueue
      refine ⟨by rw [(Chan.close_eq_some.mp closedQueue).2], fun p mem => ?_⟩
      rcases List.mem_append.mp mem with old | new
      · exact absurd old (quiet p)
      · exact .inr ⟨by simpa using new, openQueue, closedResults⟩

theorem step_keeps_closed {a : Act} (h : step s a = some (s', evs)) :
    s.close = some (s', evs) ∨
      s'.audioQueue.closed = s.audioQueue.closed ∧ s'.results.closed = s.results.closed := by
  obtain ⟨-, h | h | h | h | h | h | h | h | h⟩ := step_cases h
  · exact .inr (by rw [(initializeService_footprint h.2).2.1]; exact ⟨rfl, rfl⟩)
  · exact .inl h.2
  · exact .inr (by rw [(addWebSocket_footprint h.2).2.1]; exact ⟨rfl, rfl⟩)
  · obtain ⟨method, body, -, h⟩ := h
    exact .inr (by rw [(transcribeHandler_footprint h).1]; exact ⟨rfl, rfl⟩)
  · obtain ⟨t, ctx, audioBuffer, c, self, h⟩ := h
    obtain ⟨shape, closed, -⟩ := processAudioStepAt_footprint self h
    exact .inr ⟨closed, by rw [shape]⟩
  · obtain ⟨t, window, pc, c, self, h⟩ := h
    obtain ⟨shape, closed, -⟩ := transcribeAudioStep_footprint self h
    exact .inr ⟨by rw [shape], closed⟩
  · obtain ⟨t, ctx, pc, c, self, h⟩ := h
    obtain ⟨shape, closed, -⟩ := broadcastResultsStep_footprint self h
    exact .inr ⟨by rw [shape], closed⟩
  · obtain ⟨t, conn, pc, c, self, h⟩ := h
    obtain ⟨shape, closed, -⟩ := handleWebSocketStep_footprint self h
    exact .inr ⟨closed, by rw [shape]⟩
  · obtain ⟨t, pc, c, self, h⟩ := h
    obtain ⟨-, closedQueue, closedResults, -⟩ := transcribeHandlerStep_footprint self h
    exact .inr ⟨closedQueue, closedResults⟩

theorem close_mem_step {a : Act} (h : step s a = some (s', evs)) (mem : Event.close ∈ evs) :
    s.close = some (s', evs) := by
  obtain ⟨-, h | ⟨t, window, pc, c, self, h⟩ | keeps⟩ := step_cases_workers h
  · exact h
  · exact absurd ((transcribeAudioStep_footprint self h).2.2.2 _ mem) (by decide)
  · exact absurd rfl (keeps.2.2.2.2.2 _ mem).2

theorem channelsInv_step (inv : ChannelsInv s tr) {a : Act} (h : step s a = some (s', evs)) :
    ChannelsInv s' (tr ++ evs) := by
  rcases step_keeps_closed h with closing | ⟨queue, results⟩
  · have closed := (close_closes closing).1
    exact ⟨fun _ => List.mem_append_right _ (close_unloads closing).1, fun _ => closed, fun _ => closed⟩
  · refine ⟨fun closed => List.mem_append_left _ (inv.queueClosed ?_), fun closeIn => ?_, fun closed => ?_⟩
    · rwa [queue] at closed
    · rcases List.mem_append.mp closeIn with old | new
      · rw [queue]; exact inv.closeCloses old
      · exact (close_closes (close_mem_step h new)).1
    · rw [queue]; exact inv.resultsClosed (by rwa [results] at closed)

theorem step_outcome (engine : EngineInv s tr) {a : Act} (stepped : step s a = some (s', evs)) :
    s.close = some (s', evs) ∨ StepOutcome s evs := by
  obtain ⟨-, h | h | h | h | h | h | h | h | h⟩ := step_cases stepped
  · refine .inr (stepOutcome_quiet fun e mem => ?_)
    obtain ⟨_, rfl⟩ := (initializeService_footprint h.2).2.2.2 e mem
    simp
  · exact .inl h.2
  · exact .inr (stepOutcome_quiet (by simp [(addWebSocket_footprint h.2).2.2.2.2]))
  · obtain ⟨method, body, -, h⟩ := h
    exact .inr (stepOutcome_quiet (by simp [(transcribeHandler_footprint h).2.2]))
  · obtain ⟨t, ctx, audioBuffer, c, self, h⟩ := h
    refine .inr (stepOutcome_quiet fun e mem => ?_)
    have := (processAudioStepAt_footprint self h).2.2.2.2.2.2 e mem
    cases e <;> simp_all [Event.ofProcessAudio]
  · obtain ⟨t, window, pc, c, self, h⟩ := h
    refine .inr (stepOutcome_quiet fun e mem => ?_)
    have ofWorker := (transcribeAudioStep_footprint self h).2.2.2 e mem
    have allowed := engineInv_events engine stepped e mem
    rcases e with _ | _ | _ | _ | _ | _ | _ | _ | _ | _ | _ | _ | _ | _ | ⟨⟨_ | _⟩ | _ | _⟩ <;>
      simp_all [Event.ofWorker, EngineEvent]
  · obtain ⟨t, ctx, pc, c, -, h⟩ := h
    exact .inr (broadcastResultsStep_outcome h)
  · obtain ⟨t, conn, pc, c, -, h⟩ := h
    exact .inr (handleWebSocketStep_outcome h)
  · obtain ⟨t, pc, c, -, h⟩ := h
    exact .inr (transcribeHandlerStep_outcome h)

theorem step_panic (inv : ChannelsInv s tr) (engine : EngineInv s tr) {a : Act}
    (h : step s a = some (s', evs)) {p : GoPanic} (mem : Event.panic p ∈ evs) :
    (p = .sendOnClosedChannel .audioQueue ∨ p = .closeOfClosedChannel .audioQueue) ∧ Event.close ∈ tr ∨
      ∃ c, p = .concurrentWrite c ∧ evs = [.panic p] ∧ 2 ≤ s.writers c := by
  rcases step_outcome engine h with closing | outcome
  · rcases (close_closes closing).2 p mem with ⟨rfl, closed⟩ | ⟨rfl, openQueue, closed⟩
    · exact .inl ⟨.inr rfl, inv.queueClosed closed⟩
    · simp [inv.resultsClosed closed] at openQueue
  · rcases outcome.1 p mem with ⟨rfl, closed⟩ | overlap
    · exact .inl ⟨.inl rfl, inv.queueClosed closed⟩
    · exact .inr overlap

theorem step_accepted (engine : EngineInv s tr) {a : Act} (h : step s a = some (s', evs))
    {data : Samples} (mem : Event.processAudio data none ∈ evs) :
    evs = [.processAudio data none] ∧ s.audioQueue.closed = false := by
  rcases step_outcome engine h with closing | outcome
  · rcases close_events closing _ mem with bad | ⟨_, -, bad | bad⟩ | ⟨_, bad⟩ <;> cases bad
  · exact outcome.2 data mem

end Steps

theorem channelsInv_run {cfg : Config} {s : Sys} {tr : List Event} (run : Run cfg s tr) :
    ChannelsInv s tr := by
  induction run with
  | init => exact ⟨fun closed => absurd closed Bool.false_ne_true,
      fun closeIn => absurd closeIn (List.not_mem_nil _), fun closed => absurd closed Bool.false_ne_true⟩
  | step a _ h ih => exact channelsInv_step ih h

theorem panic_after_close_or_overlapping_writes {cfg : Config} {s : Sys} {tr : List Event}
    (run : Run cfg s tr) {i : Nat} {p : GoPanic} (panicked : tr[i]? = some (.panic p)) :
    (p = .sendOnClosedChannel .audioQueue ∨ p = .closeOfClosedChannel .audioQueue) ∧
        (∃ j < i, tr[j]? = some .close) ∨
      ∃ c s₀, p = .concurrentWrite c ∧ Run cfg s₀ (tr.take i) ∧ 2 ≤ s₀.writers c := by
  induction run generalizing i with
  | init => simp at panicked
  | @step s s' tr evs a run h ih =>
    rcases lt_or_le i tr.length with old | new
    · rw [List.getElem?_append_left old] at panicked
      rw [List.take_append_of_le_length old.le]
      rcases ih panicked with ⟨kind, j, before, closeAt⟩ | overlap
      · exact .inl ⟨kind, j, before, by rw [List.getElem?_append_left (by omega)]; exact closeAt⟩
      · exact .inr overlap
    · rw [List.getElem?_append_right new] at panicked
      rcases step_panic (channelsInv_run run) (engineInv_run run) h (List.getElem?_mem panicked) with
        ⟨kind, closeIn⟩ | ⟨c, rfl, rfl, overlap⟩
      · obtain ⟨j, closeAt⟩ := List.mem_iff_getElem?.mp closeIn
        obtain ⟨inside, -⟩ := List.getElem?_eq_some_iff.mp closeAt
        exact .inl ⟨kind, j, by omega, by rw [List.getElem?_append_left inside]; exact closeAt⟩
      · have first : i = tr.length := by
          have := (List.getElem?_eq_some_iff.mp panicked).1
          simp at this; omega
        subst first
        exact .inr ⟨c, s, rfl, by simpa using run, overlap⟩

theorem panic_after_close_or_overlapping_writes_collide :
    ∃ s tr, Run shortWindows s tr ∧ tr[tr.length - 1]? = some (.panic (.concurrentWrite 0)) ∧
      ((GoPanic.concurrentWrite 0 = .sendOnClosedChannel .audioQueue ∨
          GoPanic.concurrentWrite 0 = .closeOfClosedChannel .audioQueue) ∧
          (∃ j < tr.length - 1, tr[j]? = some .close) ∨
        ∃ c s₀, GoPanic.concurrentWrite 0 = .concurrentWrite c ∧
          Run shortWindows s₀ (tr.take (tr.length - 1)) ∧ 2 ≤ s₀.writers c) := by
  obtain ⟨s, tr, run, checked⟩ := exists_run_of_runActs shortWindows writesCollide
    (fun _ tr => tr[tr.length - 1]? == some (.panic (.concurrentWrite 0))) (by decide)
  simp only [beq_iff_eq] at checked
  exact ⟨s, tr, run, checked, panic_after_close_or_overlapping_writes run checked⟩

theorem no_audio_accepted_after_close {cfg : Config} {s : Sys} {tr : List Event}
    (run : Run cfg s tr) {i j : Nat} {data : Samples}
    (accepted : tr[i]? = some (.processAudio data none)) (closed : tr[j]? = some .close) : i < j := by
  induction run generalizing i j with
  | init => simp at accepted
  | @step s s' tr evs a run h ih =>
    rcases lt_or_le i tr.length with old | new
    · rcases lt_or_le j tr.length with oldClose | newClose
      · rw [List.getElem?_append_left old] at accepted
        rw [List.getElem?_append_left oldClose] at closed
        exact ih accepted closed
      · omega
    · rw [List.getElem?_append_right new] at accepted
      obtain ⟨only, openQueue⟩ := step_accepted (engineInv_run run) h (List.getElem?_mem accepted)
      rcases lt_or_le j tr.length with oldClose | newClose
      · rw [List.getElem?_append_left oldClose] at closed
        simp [(channelsInv_run run).closeCloses (List.getElem?_mem closed)] at openQueue
      · rw [List.getElem?_append_right newClose, only] at closed
        simpa using List.getElem?_mem closed

theorem no_audio_accepted_after_close_then_close :
    ∃ s tr, Run shortWindows s tr ∧ tr[1]? = some (.processAudio [1] none) ∧
      tr[2]? = some .close ∧ 1 < 2 := by
  obtain ⟨s, tr, run, checked⟩ := exists_run_of_runActs shortWindows
    [.initializeService, .transcribeHandler "POST" (some [1]), .run 2 .go, .run 2 .go, .close]
    (fun _ tr => tr[1]? == some (.processAudio [1] none) && tr[2]? == some .close) (by decide)
  simp only [Bool.and_eq_true, beq_iff_eq] at checked
  exact ⟨s, tr, run, checked.1, checked.2, no_audio_accepted_after_close run checked.1 checked.2⟩

end Alfred.Whisper
