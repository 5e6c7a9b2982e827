import Alfred.Whisper.Engine

set_option autoImplicit false

namespace Alfred.Whisper

open Sys

namespace Event

@[simp] def sentResult : Event → Option (Nat × TranscriptionResult)
  | .resultSent w r => some (w, r)
  | _ => none

@[simp] def receivedResult : Event → Option (Nat × TranscriptionResult)
  | .resultReceived _ (some w) r => some (w, r)
  | _ => none

@[simp] def broadcastWorker : Event → Option Nat
  | .resultReceived true (some w) _ => some w
  | _ => none

end Event

def sentResults (tr : List Event) : List (Nat × TranscriptionResult) := tr.filterMap Event.sentResult

def receivedResults (tr : List Event) : List (Nat × TranscriptionResult) :=
  tr.filterMap Event.receivedResult

def broadcastOrder (tr : List Event) : List Nat := tr.filterMap Event.broadcastWorker

@[simp] theorem sentResults_append (tr evs : List Event) :
    sentResults (tr ++ evs) = sentResults tr ++ sentResults evs :=
  List.filterMap_append _ _ _

@[simp] theorem receivedResults_append (tr evs : List Event) :
    receivedResults (tr ++ evs) = receivedResults tr ++ receivedResults evs :=
  List.filterMap_append _ _ _

theorem sentResults_fst (tr : List Event) : (sentResults tr).map Prod.fst = sentOrder tr := by
  induction tr with
  | nil => rfl
  | cons e tr ih =>
    rw [sentOrder_cons, ← ih, sentResults, List.filterMap_cons]
    cases e <;> rfl

theorem broadcastOrder_sublist (tr : List Event) :
    (broadcastOrder tr).Sublist ((receivedResults tr).map Prod.fst) := by
  induction tr with
  | nil => exact .slnil
  | cons e tr ih =>
    simp only [broadcastOrder, receivedResults, List.filterMap_cons] at ih ⊢
    rcases e with _ | _ | _ | _ | _ | _ | _ | _ | _ | ⟨_ | _, _ | _, _⟩ <;>
      first | exact ih | exact ih.cons _ | exact ih.cons₂ _

section Conservation

variable {s s' : Sys} {tr evs : List Event}

theorem results_of_silent (same : s'.results.buf = s.results.buf)
    (silent : ∀ e ∈ evs, e.sentResult = none ∧ e.receivedResult = none) :
    receivedResults evs ++ s'.results.buf = s.results.buf ++ sentResults evs := by
  simp only [receivedResults, sentResults, List.filterMap_eq_nil_iff.mpr fun e mem => (silent e mem).2,
    List.filterMap_eq_nil_iff.mpr fun e mem => (silent e mem).1, same, List.nil_append, List.append_nil]

theorem silent_of_ofWorker {e : Event} (other : e.ofWorker = false)
    (notReceived : ∀ b w r, e ≠ .resultReceived b w r) :
    e.sentResult = none ∧ e.receivedResult = none := by
  rcases e with _ | _ | _ | _ | _ | _ | _ | _ | _ | ⟨_, _ | _, _⟩ <;> simp_all [Event.ofWorker]

theorem results_of_reads {b : Bool} (reads : ReadsResults b s s' evs)
    (events : ∀ e ∈ evs, e.ofWorker = false) :
    receivedResults evs ++ s'.results.buf = s.results.buf ++ sentResults evs := by
  rcases reads with ⟨same, notReceived⟩ | ⟨v, received, rfl⟩
  · exact results_of_silent (by rw [same]) fun e mem => silent_of_ofWorker (events e mem) (notReceived e mem)
  · obtain ⟨-, -, buf⟩ := Chan.recv_eq_some received
    rcases v with _ | ⟨w, r⟩ <;> simp [receivedResults, sentResults, buf]

theorem step_results {a : Act} (h : step s a = some (s', evs)) :
    receivedResults evs ++ s'.results.buf = s.results.buf ++ sentResults evs := by
  obtain ⟨-, h | h | h | h | h | h | h | h | h⟩ := step_cases h
  · obtain ⟨-, shape, -, events⟩ := initializeService_footprint h.2
    refine results_of_silent (by rw [shape]) fun e mem => ?_
    obtain ⟨_, rfl⟩ := events e mem; simp
  · refine results_of_silent (close_results_buf h.2) fun e mem => ?_
    rcases close_events h.2 e mem with rfl | ⟨_, -, rfl | rfl⟩ | ⟨_, rfl⟩ <;> simp
  · obtain ⟨-, shape, -, -, rfl⟩ := addWebSocket_footprint h.2
    exact results_of_silent (by rw [shape]) (by simp)
  · obtain ⟨method, body, -, h⟩ := h
    obtain ⟨shape, -, rfl⟩ := transcribeHandler_footprint h
    exact results_of_silent (by rw [shape]) (by simp)
  · obtain ⟨t, ctx, audioBuffer, c, self, h⟩ := h
    obtain ⟨shape, -, -, -, -, -, events⟩ := processAudioStepAt_footprint self h
    refine results_of_silent (by rw [shape]) fun e mem => ?_
    have := events e mem
    cases e <;> simp [Event.ofProcessAudio] at this ⊢
  · obtain ⟨t, window, pc, c, self, h⟩ := h
    rcases transcribeAudioStep_cases h with
      ⟨-, -, rfl, rfl⟩ | ⟨-, -, rfl, rfl⟩ | ⟨-, -, rfl, rfl⟩ | ⟨-, rfl, rfl⟩ |
        ⟨_, -, rfl, rfl⟩ | ⟨_, _, -, sent, rfl, rfl⟩ | ⟨_, -, -, rfl, rfl⟩
    iterate 5 exact results_of_silent rfl (by simp)
    · simp [receivedResults, sentResults, (Chan.send_eq_sent.mp sent).2.2]
    · exact results_of_silent rfl (by simp)
  · obtain ⟨t, ctx, pc, c, self, h⟩ := h
    obtain ⟨-, -, -, -, reads, events⟩ := broadcastResultsStep_footprint self h
    exact results_of_reads reads fun e mem => (Event.ofWorker_eq_false (.inr (.inl (events e mem)))).1
  · obtain ⟨t, conn, pc, c, self, h⟩ := h
    obtain ⟨shape, -, -, -, events⟩ := handleWebSocketStep_footprint self h
    refine results_of_silent (by rw [shape]) fun e mem => ?_
    have := events e mem
    cases e <;> simp [Event.ofHandler] at this ⊢
  · obtain ⟨t, pc, c, self, h⟩ := h
    obtain ⟨-, -, -, -, -, reads, events⟩ := transcribeHandlerStep_footprint self h
    exact results_of_reads reads fun e mem => (Event.ofWorker_eq_false (.inr (.inr (.inr (events e mem))))).1

theorem results_run {cfg : Config} (run : Run cfg s tr) :
    receivedResults tr ++ s.results.buf = sentResults tr := by
  induction run with
  | init => rfl
  | step a _ h ih =>
    rw [receivedResults_append, sentResults_append, List.append_assoc, step_results h,
      ← List.append_assoc, ih]

end Conservation

theorem results_received_at_most_once {cfg : Config} {s : Sys} {tr : List Event}
    (run : Run cfg s tr) :
    receivedResults tr ++ s.results.buf = sentResults tr ∧ ((receivedResults tr).map Prod.fst).Nodup := by
  have conserved := results_run run
  obtain ⟨before, history, sent⟩ := (lockOrder_run run).sent
  have sentOnce : (sentOrder tr).Nodup :=
    (lockOrder_run run).nodup.sublist (sent.trans (history ▸ List.sublist_append_left _ _))
  refine ⟨conserved, sentOnce.sublist ?_⟩
  rw [← sentResults_fst, ← conserved, List.map_append]
  exact List.sublist_append_left _ _

theorem results_received_at_most_once_midway :
    ∃ s tr, Run shortWindows s tr ∧ sentResults tr = [(3, transcriptionResult (Strings.lit "hello "))] ∧
      (receivedResults tr ++ s.results.buf = sentResults tr ∧
        ((receivedResults tr).map Prod.fst).Nodup) := by
  obtain ⟨s, tr, run, checked⟩ := exists_run_of_runActs shortWindows
    [.initializeService, .transcribeHandler "POST" (some [1, 2, 3]), .run 2 .go, .run 2 .go,
      .run 0 .receive, .run 3 .go, .run 3 .go, .run 3 (.transcribe (some [Strings.lit "hello"])), .run 3 .go]
    (fun _ tr => sentResults tr == [(3, transcriptionResult (Strings.lit "hello "))]) (by decide)
  exact ⟨s, tr, run, by simpa using checked, results_received_at_most_once run⟩

theorem transcribeHandler_takes_result :
    ∃ s tr, Run shortWindows s tr ∧ sentOrder tr = [3] ∧
      Event.resultReceived false (some 3) (transcriptionResult (Strings.lit "hello ")) ∈ tr ∧
      broadcastOrder tr = [] ∧ s.results.buf = [] := by
  obtain ⟨s, tr, run, checked⟩ := exists_run_of_runActs shortWindows
    [.initializeService, .transcribeHandler "POST" (some [1, 2, 3]), .run 2 .go, .run 2 .go,
      .run 0 .receive, .run 3 .go, .run 3 .go, .run 3 (.transcribe (some [Strings.lit "hello"])), .run 3 .go,
      .run 2 .receive]
    (fun s tr => sentOrder tr == [3] &&
      tr.contains (.resultReceived false (some 3) (transcriptionResult (Strings.lit "hello "))) &&
      broadcastOrder tr == [] && s.results.buf.isEmpty) (by decide)
  simp only [Bool.and_eq_true, beq_iff_eq, List.elem_iff, List.isEmpty_iff] at checked
  exact ⟨s, tr, run, checked.1.1.1, checked.1.1.2, checked.1.2, checked.2⟩

theorem results_follow_lock_order {cfg : Config} {s : Sys} {tr : List Event} (run : Run cfg s tr) :
    (lockOrder tr).Nodup ∧ (sentOrder tr).Sublist (lockOrder tr) ∧
      (broadcastOrder tr).Sublist (sentOrder tr) := by
  obtain ⟨nodup, -, before, history, sent⟩ := lockOrder_run run
  refine ⟨nodup, sent.trans (history ▸ List.sublist_append_left _ _), (broadcastOrder_sublist tr).trans ?_⟩
  rw [← sentResults_fst, ← results_run run, List.map_append]
  exact List.sublist_append_left _ _

def secondWorkerFirst : List Act :=
  [.initializeService,
    .transcribeHandler "POST" (some [1, 2, 3]), .run 2 .go, .run 2 .go,
    .transcribeHandler "POST" (some [4, 5, 6]), .run 3 .go, .run 3 .go,
    .run 0 .receive, .run 0 .receive,
    .run 5 .go, .run 5 .go, .run 5 (.transcribe (some [Strings.lit "second"])), .run 5 .go,
    .run 4 .go, .run 4 .go, .run 4 (.transcribe (some [Strings.lit "first"])), .run 4 .go,
    .run 1 .receive, .run 1 .go, .run 1 .receive]

theorem results_follow_lock_order_swapped :
    ∃ s tr, Run shortWindows s tr ∧ flushOrder tr = [4, 5] ∧ lockOrder tr = [5, 4] ∧
      ((lockOrder tr).Nodup ∧ (sentOrder tr).Sublist (lockOrder tr) ∧
        (broadcastOrder tr).Sublist (sentOrder tr)) := by
  obtain ⟨s, tr, run, checked⟩ := exists_run_of_runActs shortWindows secondWorkerFirst
    (fun _ tr => flushOrder tr == [4, 5] && lockOrder tr == [5, 4]) (by decide)
  simp only [Bool.and_eq_true, beq_iff_eq] at checked
  exact ⟨s, tr, run, checked.1, checked.2, results_follow_lock_order run⟩

theorem results_out_of_flush_order :
    ∃ s tr, Run shortWindows s tr ∧ flushOrder tr = [4, 5] ∧ sentOrder tr = [5, 4] ∧
      broadcastOrder tr = [5, 4] := by
  obtain ⟨s, tr, run, checked⟩ := exists_run_of_runActs shortWindows secondWorkerFirst
    (fun _ tr => flushOrder tr == [4, 5] && sentOrder tr == [5, 4] && broadcastOrder tr == [5, 4])
    (by decide)
  simp only [Bool.and_eq_true, beq_iff_eq] at checked
  exact ⟨s, tr, run, checked.1.1, checked.1.2, checked.2⟩

end Alfred.Whisper
