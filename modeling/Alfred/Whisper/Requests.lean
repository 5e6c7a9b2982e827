import Alfred.Whisper.Ingest
import Alfred.Whisper.Results

set_option autoImplicit false

namespace Alfred.Whisper

open Sys

section Steps

variable {s s' : Sys} {evs : List Event}

theorem Sys.SameExcept.keeps {Q : Thread → Prop} (threads : SameExcept Q s s') {u : Nat}
    {th : Thread} (notQ : ¬ Q th) (now : s'.thread u = th) : s.thread u = th := by
  rcases threads.thread u with same | ⟨-, new⟩
  · rw [← same, now]
  · exact absurd (now ▸ new) notQ

theorem thread_setThread_eq {s₁ : Sys} (same : s₁.threads = s.threads) {t u : Nat}
    (inside : t < s.threads.length) {th th' : Thread} (now : (s₁.setThread t th).thread u = th') :
    (u = t ∧ th = th') ∨ s.thread u = th' := by
  rw [thread_setThread s₁ th (same ▸ inside)] at now
  split at now
  · exact .inl ⟨‹_›, now⟩
  · exact .inr (by simpa [thread, same] using now)

theorem afterPass_worker {t ctx : Nat} (inside : t < s.threads.length)
    (pass : Samples × Option Samples) {u : Nat} {window : Samples} {pc : WorkerPc}
    (now : (afterPass s t ctx pass).1.thread u = .transcribeAudio window pc) :
    s.thread u = .transcribeAudio window pc ∨ Event.flush u window ∈ (afterPass s t ctx pass).2 := by
  obtain ⟨audioBuffer, _ | flushed⟩ := pass
  · rcases thread_setThread_eq rfl inside now with ⟨-, new⟩ | old
    · exact nomatch new
    · exact .inl old
  · simp only [afterPass, thread_spawn, setThread_threads, List.length_set] at now ⊢
    split at now
    · next fresh => cases now; exact .inr (by simp [fresh])
    · rcases thread_setThread_eq rfl inside now with ⟨-, new⟩ | old
      · exact nomatch new
      · exact .inl old

theorem processAudioStepAt_worker {t ctx : Nat} {audioBuffer : Samples} {c : Choice}
    (self : s.thread t = .processAudio ctx audioBuffer)
    (h : processAudioStepAt s t ctx audioBuffer c = some (s', evs)) {u : Nat} {window : Samples}
    {pc : WorkerPc} (now : s'.thread u = .transcribeAudio window pc) :
    s.thread u = .transcribeAudio window pc ∨ Event.flush u window ∈ evs := by
  have inside : t < s.threads.length := lt_of_thread (by simp [self])
  unfold processAudioStepAt at h
  split at h
  · split at h <;> cases h
    rcases thread_setThread_eq rfl inside now with ⟨-, new⟩ | old
    · exact nomatch new
    · exact .inl old
  · split at h
    · next data queue received =>
      obtain ⟨rfl, rfl⟩ := Prod.ext_iff.mp (Option.some.inj h).symm
      exact afterPass_worker (s := { s with audioQueue := queue }) inside _ now
    · cases h
  · split at h
    · obtain ⟨rfl, rfl⟩ := Prod.ext_iff.mp (Option.some.inj h).symm
      exact afterPass_worker inside _ now
    · cases h
  · cases h

theorem step_worker_window {a : Act} (h : step s a = some (s', evs)) {u : Nat}
    {window : Samples} {pc : WorkerPc} (now : s'.thread u = .transcribeAudio window pc) :
    (∃ pc₀, s.thread u = .transcribeAudio window pc₀) ∨ Event.flush u window ∈ evs := by
  obtain ⟨-, h | h | h | h | h | h | h | h | h⟩ := step_cases h
  · obtain ⟨-, -, threads, -⟩ := initializeService_footprint h.2
    exact .inl ⟨pc, threads.keeps (by simp [Thread.isProcessAudio, Thread.isBroadcaster]) now⟩
  · obtain ⟨-, -, same, -⟩ := close_footprint h.2
    exact .inl ⟨pc, by simpa [thread, same] using now⟩
  · obtain ⟨-, -, threads, -⟩ := addWebSocket_footprint h.2
    exact .inl ⟨pc, threads.keeps (by simp [Thread.isHandler]) now⟩
  · obtain ⟨method, body, -, h⟩ := h
    obtain ⟨-, threads, -⟩ := transcribeHandler_footprint h
    exact .inl ⟨pc, threads.keeps (by simp [Thread.isRequest]) now⟩
  · obtain ⟨t, ctx, audioBuffer, c, self, h⟩ := h
    exact (processAudioStepAt_worker self h now).imp_left fun old => ⟨pc, old⟩
  · obtain ⟨t, window₀, pc₀, c, self, h⟩ := h
    have inside : t < s.threads.length := lt_of_thread (by simp [self])
    rcases transcribeAudioStep_cases h with ⟨-, -, rfl, -⟩ | ⟨-, -, rfl, -⟩ | ⟨-, -, rfl, -⟩ |
        ⟨-, rfl, -⟩ | ⟨_, -, rfl, -⟩ | ⟨_, _, -, -, rfl, -⟩ | ⟨_, -, -, rfl, -⟩ <;>
      rcases thread_setThread_eq rfl inside now with ⟨rfl, new⟩ | old
    all_goals first
      | exact .inl ⟨pc, old⟩
      | cases new <;> exact .inl ⟨pc₀, self⟩
  · obtain ⟨t, ctx, pc', c, self, h⟩ := h
    obtain ⟨-, -, threads, -⟩ := broadcastResultsStep_footprint self h
    exact .inl ⟨pc, threads.keeps (by simp [Thread.isBroadcaster]) now⟩
  · obtain ⟨t, conn, pc', c, self, h⟩ := h
    obtain ⟨-, -, -, threads, -⟩ := handleWebSocketStep_footprint self h
    exact .inl ⟨pc, threads.keeps (by simp [Thread.isHandler]) now⟩
  · obtain ⟨t, pc', c, self, h⟩ := h
    obtain ⟨-, -, -, -, threads, -⟩ := transcribeHandlerStep_footprint self h
    exact .inl ⟨pc, threads.keeps (by simp [Thread.isRequest]) now⟩

theorem step_resultSent {a : Act} (h : step s a = some (s', evs)) {w : Nat}
    {r : TranscriptionResult} (sent : Event.resultSent w r ∈ evs) :
    ∃ window, s.thread w = .transcribeAudio window (.send r) := by
  obtain ⟨-, h | h | h⟩ := step_cases_workers h
  · rcases close_events h _ sent with bad | ⟨_, -, bad | bad⟩ | ⟨_, bad⟩ <;> cases bad
  · obtain ⟨t, window, pc, c, self, h⟩ := h
    rcases transcribeAudioStep_cases h with ⟨-, -, -, rfl⟩ | ⟨-, -, -, rfl⟩ | ⟨-, -, -, rfl⟩ |
        ⟨-, -, rfl⟩ | ⟨_, -, -, rfl⟩ | ⟨_, _, rfl, -, -, rfl⟩ | ⟨_, -, -, -, rfl⟩ <;>
      simp only [List.mem_singleton, List.not_mem_nil, reduceCtorEq] at sent
    obtain ⟨rfl, rfl⟩ := Event.resultSent.inj sent
    exact ⟨window, self⟩
  · exact absurd (h.2.2.2.2.2 _ sent).1 (by simp [Event.ofWorker])

theorem step_answer {a : Act} (h : step s a = some (s', evs)) {u : Nat} {r : TranscriptionResult}
    (now : s'.thread u = .transcribeHandler (.responded (.json r))) :
    s.thread u = s'.thread u ∨ ∃ v, Event.resultReceived false v r ∈ evs ∧ (v = none → r = .zero) := by
  have notRequest : ∀ {Q : Thread → Prop}, SameExcept Q s s' →
      ¬ Q (.transcribeHandler (.responded (.json r))) → s.thread u = s'.thread u :=
    fun threads notQ => (threads.keeps notQ now).trans now.symm
  obtain ⟨-, h | h | h | h | h | h | h | h | h⟩ := step_cases h
  · exact .inl (notRequest (initializeService_footprint h.2).2.2.1
      (by simp [Thread.isProcessAudio, Thread.isBroadcaster]))
  · exact .inl (by simp [thread, (close_footprint h.2).2.2.1])
  · exact .inl (notRequest (addWebSocket_footprint h.2).2.2.1 (by simp [Thread.isHandler]))
  · obtain ⟨method, body, -, h⟩ := h
    cases h
    simp only [transcribeHandler, thread_spawn] at now ⊢
    split at now
    · split at now
      · cases now
      · split at now <;> cases now
    · next old => exact .inl (by rw [if_neg old])
  · obtain ⟨t, ctx, audioBuffer, c, self, h⟩ := h
    exact .inl (notRequest (processAudioStepAt_footprint self h).2.2.2.1
      (by simp [Thread.isProcessAudio, Thread.isFreshWorker]))
  · obtain ⟨t, window, pc, c, self, h⟩ := h
    exact .inl (notRequest (transcribeAudioStep_footprint self h).2.2.1 (by simp [Thread.isWorker]))
  · obtain ⟨t, ctx, pc, c, self, h⟩ := h
    exact .inl (notRequest (broadcastResultsStep_footprint self h).2.2.1
      (by simp [Thread.isBroadcaster]))
  · obtain ⟨t, conn, pc, c, self, h⟩ := h
    exact .inl (notRequest (handleWebSocketStep_footprint self h).2.2.2.1 (by simp [Thread.isHandler]))
  · obtain ⟨t, pc, c, self, h⟩ := h
    have inside : t < s.threads.length := lt_of_thread (by simp [self])
    unfold transcribeHandlerStep at h
    split at h
    · split at h <;> cases h <;>
        rcases thread_setThread_eq rfl inside now with ⟨-, new⟩ | old
      all_goals first | exact nomatch new | exact .inl (old.trans now.symm)
    · split at h
      · next v results received =>
        cases h
        rcases thread_setThread_eq rfl inside now with ⟨-, new⟩ | old
        · cases new
          refine .inr ⟨v.map Prod.fst, List.mem_singleton_self _, fun none => ?_⟩
          cases v <;> simp_all
        · exact .inl (old.trans now.symm)
      · cases h
    · cases h

end Steps

structure WindowsFlushed (s : Sys) (tr : List Event) : Prop where
  worker : ∀ u window pc, s.thread u = .transcribeAudio window pc → Event.flush u window ∈ tr
  sent : ∀ w r, Event.resultSent w r ∈ tr → ∃ window, Event.flush w window ∈ tr

def Answered (s : Sys) (tr : List Event) : Prop :=
  ∀ u r, s.thread u = .transcribeHandler (.responded (.json r)) →
    ∃ v, Event.resultReceived false v r ∈ tr ∧ (v = none → r = .zero)

section Invariants

variable {s s' : Sys} {tr evs : List Event}

theorem windowsFlushed_step (inv : WindowsFlushed s tr) {a : Act} (h : step s a = some (s', evs)) :
    WindowsFlushed s' (tr ++ evs) := by
  refine ⟨fun u window pc now => ?_, fun w r mem => ?_⟩
  · rcases step_worker_window h now with ⟨pc₀, old⟩ | new
    exacts [List.mem_append_left _ (inv.worker u window pc₀ old), List.mem_append_right _ new]
  · rcases List.mem_append.mp mem with old | new
    · obtain ⟨window, flushed⟩ := inv.sent w r old
      exact ⟨window, List.mem_append_left _ flushed⟩
    · obtain ⟨window, self⟩ := step_resultSent h new
      exact ⟨window, List.mem_append_left _ (inv.worker w window _ self)⟩

theorem answered_step (inv : Answered s tr) {a : Act} (h : step s a = some (s', evs)) :
    Answered s' (tr ++ evs) := by
  intro u r now
  rcases step_answer h now with same | ⟨v, received, zero⟩
  · obtain ⟨v, received, zero⟩ := inv u r (same.trans now)
    exact ⟨v, List.mem_append_left _ received, zero⟩
  · exact ⟨v, List.mem_append_right _ received, zero⟩

theorem invariants_run {cfg : Config} (run : Run cfg s tr) : WindowsFlushed s tr ∧ Answered s tr := by
  induction run with
  | init =>
    refine ⟨⟨fun u window pc now => ?_, by simp⟩, fun u r now => ?_⟩ <;>
      simp [Sys.initial, thread] at now
  | step a _ h ih => exact ⟨windowsFlushed_step ih.1 h, answered_step ih.2 h⟩

end Invariants

theorem resultSent_of_mem_sentResults {tr : List Event} {w : Nat} {r : TranscriptionResult}
    (mem : (w, r) ∈ sentResults tr) : Event.resultSent w r ∈ tr := by
  obtain ⟨e, inTrace, sent⟩ := List.mem_filterMap.mp mem
  cases e <;> simp only [Event.sentResult, reduceCtorEq, Option.some.injEq, Prod.mk.injEq] at sent
  obtain ⟨rfl, rfl⟩ := sent
  exact inTrace

theorem transcribeHandler_answers_some_window {cfg : Config} {s : Sys} {tr : List Event}
    (run : Run cfg s tr) {u : Nat} {r : TranscriptionResult}
    (answered : s.thread u = .transcribeHandler (.responded (.json r))) :
    (∃ w window, Event.flush w window ∈ tr ∧ Event.resultSent w r ∈ tr ∧
        Event.resultReceived false (some w) r ∈ tr ∧ ((receivedResults tr).map Prod.fst).count w = 1) ∨
      (r = .zero ∧ Event.resultReceived false none .zero ∈ tr) := by
  obtain ⟨flushed, answers⟩ := invariants_run run
  obtain ⟨_ | w, received, zero⟩ := answers u r answered
  · exact .inr ⟨zero rfl, zero rfl ▸ received⟩
  · have inReceived : (w, r) ∈ receivedResults tr := List.mem_filterMap.mpr ⟨_, received, rfl⟩
    have sent : Event.resultSent w r ∈ tr := resultSent_of_mem_sentResults
      (results_run run ▸ List.mem_append_left _ inReceived)
    obtain ⟨window, flush⟩ := flushed.sent _ _ sent
    refine .inl ⟨w, window, flush, sent, received, List.count_eq_one_of_mem ?_ ?_⟩
    · exact (results_received_at_most_once run).2
    · exact List.mem_map_of_mem Prod.fst inReceived

theorem transcribeHandler_answers_some_window_taken :
    ∃ s tr, Run shortWindows s tr ∧
      s.thread 2 = .transcribeHandler (.responded (.json (transcriptionResult (Strings.lit "hello ")))) ∧
      ((∃ w window, Event.flush w window ∈ tr ∧
          Event.resultSent w (transcriptionResult (Strings.lit "hello ")) ∈ tr ∧
          Event.resultReceived false (some w) (transcriptionResult (Strings.lit "hello ")) ∈ tr ∧
          ((receivedResults tr).map Prod.fst).count w = 1) ∨
        (transcriptionResult (Strings.lit "hello ") = .zero ∧
          Event.resultReceived false none .zero ∈ tr)) := by
  obtain ⟨s, tr, run, checked⟩ := exists_run_of_runActs shortWindows
    [.initializeService, .transcribeHandler "POST" (some [1, 2, 3]), .run 2 .go, .run 2 .go,
      .run 0 .receive, .run 3 .go, .run 3 .go, .run 3 (.transcribe (some [Strings.lit "hello"])),
      .run 3 .go, .run 2 .receive]
    (fun s _ => s.thread 2 ==
      .transcribeHandler (.responded (.json (transcriptionResult (Strings.lit "hello "))))) (by decide)
  have answered := beq_iff_eq.mp checked
  exact ⟨s, tr, run, answered, transcribeHandler_answers_some_window run answered⟩

theorem transcribeHandler_answers_other_window :
    ∃ s₁ tr₁ s tr, Run shortWindows s₁ tr₁ ∧ s₁.thread 4 = .transcribeHandler (.submit [4] .check) ∧
      runActs s₁ tr₁ [.run 4 .go, .run 4 .go, .run 3 .go, .run 3 .go,
        .run 3 (.transcribe (some [Strings.lit "hello"])), .run 3 .go, .run 4 .receive] = some (s, tr) ∧
      s.thread 4 = .transcribeHandler (.responded (.json (transcriptionResult (Strings.lit "hello ")))) ∧
      Event.resultSent 3 (transcriptionResult (Strings.lit "hello ")) ∈ tr ∧
      flushedWindows tr = [[1, 2, 3]] := by
  obtain ⟨s₁, tr₁, run, checked⟩ := exists_run_of_runActs shortWindows
    [.initializeService, .transcribeHandler "POST" (some [1, 2, 3]), .run 2 .go, .run 2 .go,
      .run 0 .receive, .transcribeHandler "POST" (some [4])]
    (fun s₁ tr₁ => s₁.thread 4 == .transcribeHandler (.submit [4] .check) &&
      (runActs s₁ tr₁ [.run 4 .go, .run 4 .go, .run 3 .go, .run 3 .go,
        .run 3 (.transcribe (some [Strings.lit "hello"])), .run 3 .go, .run 4 .receive]).map
        (fun p => p.1.thread 4 ==
            .transcribeHandler (.responded (.json (transcriptionResult (Strings.lit "hello ")))) &&
          p.2.contains (.resultSent 3 (transcriptionResult (Strings.lit "hello "))) &&
          flushedWindows p.2 == [[1, 2, 3]]) == some true) (by decide)
  simp only [Bool.and_eq_true, beq_iff_eq] at checked
  obtain ⟨⟨s, tr⟩, ran, after⟩ := Option.map_eq_some'.mp checked.2
  simp only [Bool.and_eq_true, beq_iff_eq, List.elem_iff] at after
  exact ⟨s₁, tr₁, s, tr, run, checked.1, ran, after.1.1, after.1.2, after.2⟩

end Alfred.Whisper
