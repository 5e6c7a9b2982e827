import Alfred.Whisper.Lifecycle

set_option autoImplicit false

namespace Alfred.Whisper

open Sys

namespace Event

@[simp] def flushedWindow : Event → Option Samples
  | .flush _ window => some window
  | _ => none

@[simp] def acceptedChunk : Event → Option Samples
  | .processAudio data none => some data
  | _ => none

end Event

def flushedWindows (tr : List Event) : List Samples := tr.filterMap Event.flushedWindow

def acceptedChunks (tr : List Event) : List Samples := tr.filterMap Event.acceptedChunk

@[simp] theorem flushedWindows_append (tr evs : List Event) :
    flushedWindows (tr ++ evs) = flushedWindows tr ++ flushedWindows evs :=
  List.filterMap_append _ _ _

@[simp] theorem acceptedChunks_append (tr evs : List Event) :
    acceptedChunks (tr ++ evs) = acceptedChunks tr ++ acceptedChunks evs :=
  List.filterMap_append _ _ _

def Conserved (s : Sys) (tr : List Event) (audioBuffer : Samples) : Prop :=
  (flushedWindows tr).flatten ++ audioBuffer ++ s.audioQueue.buf.flatten = (acceptedChunks tr).flatten

section Steps

variable {s s' : Sys} {tr evs : List Event}

def KeepsIngest (s s' : Sys) (evs : List Event) : Prop :=
  SubmitsAudio s s' evs ∧ s'.audioQueue.closed = s.audioQueue.closed ∧ s'.contexts = s.contexts ∧
    (∀ e ∈ evs, e.flushedWindow = none) ∧
    ∀ u, (s.thread u).isProcessAudio ∨ (s'.thread u).isProcessAudio → s'.thread u = s.thread u

theorem Sys.SameExcept.keeps_processAudio {Q : Thread → Prop} (h : SameExcept Q s s')
    (notQ : ∀ th, Q th → th.isProcessAudio = false) :
    ∀ u, (s.thread u).isProcessAudio ∨ (s'.thread u).isProcessAudio → s'.thread u = s.thread u := by
  intro u either
  rcases h.thread u with same | ⟨old, new⟩
  · exact same
  · rcases either with isOld | isNew
    · simp [notQ _ old] at isOld
    · simp [notQ _ new] at isNew

theorem keepsIngest_of_silent {Q : Thread → Prop} (queue : s'.audioQueue = s.audioQueue)
    (contexts : s'.contexts = s.contexts) (threads : SameExcept Q s s')
    (notQ : ∀ th, Q th → th.isProcessAudio = false)
    (silent : ∀ e ∈ evs, e.flushedWindow = none ∧ e.acceptedChunk = none) : KeepsIngest s s' evs := by
  refine ⟨.inl ⟨by rw [queue], fun e mem data accepted => ?_⟩, by rw [queue], contexts,
    fun e mem => (silent e mem).1, threads.keeps_processAudio notQ⟩
  simpa [accepted] using (silent e mem).2

theorem ingestSilent_of_ofWorker {e : Event} (other : e.ofWorker = true ∨ e.ofBroadcaster = true) :
    e.flushedWindow = none ∧ e.acceptedChunk = none := by
  rcases e with _ | _ | _ | _ | _ | _ | _ | _ | _ | ⟨_ | _⟩ <;>
    simp_all [Event.ofWorker, Event.ofBroadcaster]

theorem step_cases_ingest {a : Act} (h : step s a = some (s', evs)) :
    s.initializeService = some (s', evs) ∨ s.close = some (s', evs) ∨
      (∃ t ctx audioBuffer c, s.thread t = .processAudio ctx audioBuffer ∧
        processAudioStepAt s t ctx audioBuffer c = some (s', evs)) ∨
      KeepsIngest s s' evs := by
  obtain ⟨-, h | h | h | h | h | h | h | h | h⟩ := step_cases h
  · exact .inl h.2
  · exact .inr (.inl h.2)
  · obtain ⟨-, shape, threads, -, rfl⟩ := addWebSocket_footprint h.2
    refine .inr (.inr (.inr (keepsIngest_of_silent (by rw [shape]) (by rw [shape]) threads
      (fun th kind => ?_) (by simp))))
    rcases kind with rfl | kind
    · rfl
    · cases th <;> simp [Thread.isHandler, Thread.isProcessAudio] at kind ⊢
  · obtain ⟨method, body, -, h⟩ := h
    obtain ⟨shape, threads, rfl⟩ := transcribeHandler_footprint h
    refine .inr (.inr (.inr (keepsIngest_of_silent (by rw [shape]) (by rw [shape]) threads
      (fun th kind => ?_) (by simp))))
    rcases kind with rfl | kind
    · rfl
    · cases th <;> simp [Thread.isRequest, Thread.isProcessAudio] at kind ⊢
  · exact .inr (.inr (.inl h))
  · obtain ⟨t, window, pc, c, self, h⟩ := h
    obtain ⟨shape, -, threads, events⟩ := transcribeAudioStep_footprint self h
    refine .inr (.inr (.inr (keepsIngest_of_silent (by rw [shape]) (by rw [shape]) threads
      (fun th kind => ?_) fun e mem => ingestSilent_of_ofWorker (.inl (events e mem)))))
    rcases kind with kind | rfl
    · cases th <;> simp [Thread.isWorker, Thread.isProcessAudio] at kind ⊢
    · rfl
  · obtain ⟨t, ctx, pc, c, self, h⟩ := h
    obtain ⟨shape, -, threads, -, -, events⟩ := broadcastResultsStep_footprint self h
    refine .inr (.inr (.inr (keepsIngest_of_silent (by rw [shape]) (by rw [shape]) threads
      (fun th kind => ?_) fun e mem => ingestSilent_of_ofWorker (.inr (events e mem)))))
    rcases kind with kind | rfl
    · cases th <;> simp [Thread.isBroadcaster, Thread.isProcessAudio] at kind ⊢
    · rfl
  · obtain ⟨t, conn, pc, c, self, h⟩ := h
    obtain ⟨shape, closed, submits, threads, events⟩ := handleWebSocketStep_footprint self h
    refine .inr (.inr (.inr ⟨submits, closed, by rw [shape], fun e mem => ?_,
      threads.keeps_processAudio fun th kind => ?_⟩))
    · have := events e mem
      cases e <;> simp [Event.ofHandler] at this ⊢
    · rcases kind with kind | rfl
      · cases th <;> simp [Thread.isHandler, Thread.isProcessAudio] at kind ⊢
      · rfl
  · obtain ⟨t, pc, c, self, h⟩ := h
    obtain ⟨shape, closed, -, submits, threads, -, events⟩ := transcribeHandlerStep_footprint self h
    refine .inr (.inr (.inr ⟨submits, closed, by rw [shape], fun e mem => ?_,
      threads.keeps_processAudio fun th kind => ?_⟩))
    · have := events e mem
      cases e <;> simp [Event.ofRequest] at this ⊢
    · cases th <;> simp [Thread.isRequest, Thread.isProcessAudio] at kind ⊢

end Steps

section Conservation

variable {s s' : Sys} {tr evs : List Event}

theorem conserved_submits {audioBuffer : Samples} (conserved : Conserved s tr audioBuffer)
    (submits : SubmitsAudio s s' evs) (noFlush : ∀ e ∈ evs, e.flushedWindow = none) :
    Conserved s' (tr ++ evs) audioBuffer := by
  have noWindows : flushedWindows evs = [] := List.filterMap_eq_nil_iff.mpr noFlush
  rcases submits with ⟨same, notAccepted⟩ | ⟨data, enqueued, rfl⟩
  · have noChunks : acceptedChunks evs = [] := List.filterMap_eq_nil_iff.mpr fun e mem => by
      cases e with
      | processAudio data err => cases err; exact absurd rfl (notAccepted _ mem data); rfl
      | _ => rfl
    simpa [Conserved, noWindows, noChunks, same] using conserved
  · have accepted : acceptedChunks [.processAudio data none] = [data] := rfl
    simp only [Conserved, flushedWindows_append, acceptedChunks_append, enqueued, noWindows,
      accepted, List.append_nil, List.flatten_append] at conserved ⊢
    rw [← conserved]
    simp

theorem afterPass_conserved {t ctx : Nat} (pass : Samples × Option Samples)
    (conserved : Conserved s tr (pass.2.toList.flatten ++ pass.1)) :
    Conserved (afterPass s t ctx pass).1 (tr ++ (afterPass s t ctx pass).2) pass.1 := by
  obtain ⟨audioBuffer, _ | window⟩ := pass <;>
    simpa [Conserved, afterPass, flushedWindows, acceptedChunks] using conserved

theorem afterPass_thread_self {t ctx : Nat} (inside : t < s.threads.length) (pass : Samples × Option Samples) :
    (afterPass s t ctx pass).1.thread t = .processAudio ctx pass.1 := by
  obtain ⟨audioBuffer, _ | window⟩ := pass
  · simp [afterPass, thread_setThread s _ inside]
  · simp [afterPass, thread_spawn, thread_setThread s _ inside, Nat.ne_of_lt inside]

theorem processAudioStepAt_conserved {t ctx : Nat} {audioBuffer : Samples} {c : Choice}
    (live : s.cancelled ctx = false) (queueOpen : s.audioQueue.closed = false)
    (inside : t < s.threads.length) (conserved : Conserved s tr audioBuffer)
    (h : processAudioStepAt s t ctx audioBuffer c = some (s', evs)) :
    ∃ audioBuffer', s'.thread t = .processAudio ctx audioBuffer' ∧ Conserved s' (tr ++ evs) audioBuffer' := by
  unfold processAudioStepAt at h
  split at h
  · simp [live] at h
  · split at h
    · next data queue received =>
      obtain ⟨-, -, buf⟩ := Chan.recv_eq_some received
      obtain ⟨chunk, rfl⟩ : ∃ chunk, data = some chunk := Option.ne_none_iff_exists'.mp fun none => by
        simp [Chan.recv_none_closed (none ▸ received)] at queueOpen
      have keeps := processAudioStep_keeps s.config audioBuffer (.arrive ((some chunk).getD []))
      generalize processAudioStep _ _ _ = pass at h keeps
      obtain ⟨rfl, rfl⟩ := Prod.ext_iff.mp (Option.some.inj h).symm
      refine ⟨_, afterPass_thread_self (show t < ({ s with audioQueue := queue } : Sys).threads.length
        from inside) _, afterPass_conserved _ ?_⟩
      rw [keeps]
      simpa [Conserved, buf] using conserved
    · cases h
  · split at h
    · have keeps := processAudioStep_keeps s.config audioBuffer .idle
      generalize processAudioStep _ _ _ = pass at h keeps
      obtain ⟨rfl, rfl⟩ := Prod.ext_iff.mp (Option.some.inj h).symm
      refine ⟨_, afterPass_thread_self inside _, afterPass_conserved _ ?_⟩
      rw [keeps]
      simpa using conserved
    · cases h
  · cases h

end Conservation

structure IngestInv (s : Sys) (tr : List Event) : Prop where
  queueOpen : s.audioQueue.closed = false
  live : ∀ ctx, s.cancelled ctx = false
  conserved : ∀ u ctx audioBuffer, s.thread u = .processAudio ctx audioBuffer → Conserved s tr audioBuffer
  beforeStart : (∀ u, (s.thread u).isProcessAudio = false) → Conserved s tr []

section Invariant

variable {s s' : Sys} {tr evs : List Event}

theorem processAudio_unique (life : LifecycleInv s) (live : ∀ ctx, s.cancelled ctx = false)
    {u v ctx ctx' : Nat} {audioBuffer audioBuffer' : Samples}
    (atU : s.thread u = .processAudio ctx audioBuffer) (atV : s.thread v = .processAudio ctx' audioBuffer') :
    u = v := by
  have loopU : (s.thread u).loop = some (.processAudio, ctx) := by simp [atU, Thread.loop]
  have loopV : (s.thread v).loop = some (.processAudio, ctx') := by simp [atV, Thread.loop]
  have newestU := life.newest_of_live (life.loopCtx u _ ctx loopU) (live ctx)
  have newestV := life.newest_of_live (life.loopCtx v _ ctx' loopV) (live ctx')
  obtain rfl : ctx = ctx' := by omega
  exact life.loopOnce u v _ loopU loopV

theorem contexts_of_stopped (life : LifecycleInv s) (live : ∀ ctx, s.cancelled ctx = false)
    (stopped : s.running = false) : s.contexts = [] := by
  by_contra made
  simpa [live 0] using life.all_cancelled stopped (List.length_pos.mpr made)

theorem no_processAudio_of_stopped (life : LifecycleInv s) (live : ∀ ctx, s.cancelled ctx = false)
    (stopped : s.running = false) (u : Nat) : (s.thread u).isProcessAudio = false := by
  cases atU : s.thread u with
  | processAudio ctx audioBuffer =>
    simpa [contexts_of_stopped life live stopped] using
      life.loopCtx u .processAudio ctx (by simp [atU, Thread.loop])
  | _ => rfl

theorem ingestInv_initial (cfg : Config) : IngestInv (Sys.initial cfg) [] where
  queueOpen := rfl
  live _ := rfl
  conserved u := by simp [Sys.initial, thread]
  beforeStart _ := rfl

theorem ingestInv_keeps (inv : IngestInv s tr) (keeps : KeepsIngest s s' evs) : IngestInv s' (tr ++ evs) := by
  obtain ⟨submits, closed, contexts, noFlush, threads⟩ := keeps
  refine ⟨closed ▸ inv.queueOpen, fun ctx => by simpa [Sys.cancelled, contexts] using inv.live ctx,
    fun u ctx audioBuffer atU => ?_, fun none => conserved_submits (inv.beforeStart fun u => ?_) submits noFlush⟩
  · rw [threads u (.inr (by simp [atU, Thread.isProcessAudio]))] at atU
    exact conserved_submits (inv.conserved u ctx audioBuffer atU) submits noFlush
  · cases old : (s.thread u).isProcessAudio
    · rfl
    · simpa [threads u (.inl old), old] using none u

theorem ingestInv_start (inv : IngestInv s tr) (life : LifecycleInv s) (stopped : s.running = false) :
    IngestInv (({ s with
      running := true, contexts := s.contexts ++ [false], cancelFunc := some s.contexts.length }.spawn
        (.processAudio s.contexts.length [])).spawn (.broadcastResults s.contexts.length .select))
      (tr ++ [.initialized true]) := by
  have none := no_processAudio_of_stopped life inv.live stopped
  have empty := contexts_of_stopped life inv.live stopped
  have started : Conserved s (tr ++ [.initialized true]) [] :=
    conserved_submits (inv.beforeStart none) (.inl ⟨rfl, by simp⟩) (by simp)
  refine ⟨inv.queueOpen, fun ctx => ?_, fun u ctx audioBuffer atU => ?_, fun none' => ?_⟩
  · cases ctx <;> simp [Sys.cancelled, empty]
  · simp only [thread_spawn, spawn_threads, List.length_append, List.length_singleton] at atU
    split at atU
    · cases atU
    · split at atU
      · cases atU; exact started
      · exact absurd (none u) (by simp [show s.thread u = _ from atU, Thread.isProcessAudio])
  · simpa [thread_spawn, Thread.isProcessAudio] using none' s.threads.length

theorem ingestInv_processAudio (inv : IngestInv s tr) (life : LifecycleInv s) {t ctx : Nat}
    {audioBuffer : Samples} {c : Choice} (self : s.thread t = .processAudio ctx audioBuffer)
    (h : processAudioStepAt s t ctx audioBuffer c = some (s', evs)) : IngestInv s' (tr ++ evs) := by
  obtain ⟨shape, closed, -, -, -, loops, -⟩ := processAudioStepAt_footprint self h
  obtain ⟨audioBuffer', self', conserved⟩ := processAudioStepAt_conserved (inv.live ctx) inv.queueOpen
    (lt_of_thread (by simp [self])) (inv.conserved t ctx audioBuffer self) h
  have contexts : s'.contexts = s.contexts := by rw [shape]
  refine ⟨closed ▸ inv.queueOpen, fun ctx => by simpa [Sys.cancelled, contexts] using inv.live ctx,
    fun u ctx' audioBuffer'' atU => ?_, fun none => ?_⟩
  · have wasLoop := loops u (.processAudio, ctx') (by simp [atU, Thread.loop])
    obtain ⟨audioBuffer₀, wasAt⟩ : ∃ b, s.thread u = .processAudio ctx' b := by
      cases before : s.thread u <;> simp [before, Thread.loop] at wasLoop
      exact ⟨_, by rw [wasLoop]⟩
    obtain rfl := processAudio_unique life inv.live wasAt self
    rw [self'] at atU
    cases atU
    exact conserved
  · simpa [self', Thread.isProcessAudio] using none t

theorem ingestInv_run {cfg : Config} (run : Run cfg s tr) (notClosed : Event.close ∉ tr) :
    IngestInv s tr := by
  induction run with
  | init => exact ingestInv_initial cfg
  | step a run h ih =>
    have inv := ih fun mem => notClosed (List.mem_append_left _ mem)
    rcases step_cases_ingest h with h | h | ⟨t, ctx, audioBuffer, c, self, h⟩ | keeps
    · rcases initializeService_cases h with ⟨-, rfl, rfl⟩ | ⟨stopped, rfl, rfl⟩
      · exact ingestInv_keeps inv ⟨.inl ⟨rfl, by simp⟩, rfl, rfl, by simp, fun _ _ => rfl⟩
      · exact ingestInv_start inv (lifecycleInv_run run) stopped
    · exact absurd (List.mem_append_right _ (close_unloads h).1) notClosed
    · exact ingestInv_processAudio inv (lifecycleInv_run run) self h
    · exact ingestInv_keeps inv keeps

end Invariant

theorem accepted_samples_conserved {cfg : Config} {s : Sys} {tr : List Event} (run : Run cfg s tr)
    (notClosed : Event.close ∉ tr) {u ctx : Nat} {audioBuffer : Samples}
    (loop : s.thread u = .processAudio ctx audioBuffer) :
    (flushedWindows tr).flatten ++ audioBuffer ++ s.audioQueue.buf.flatten =
      (acceptedChunks tr).flatten :=
  (ingestInv_run run notClosed).conserved u ctx audioBuffer loop

theorem accepted_samples_conserved_midway :
    ∃ s tr, Run shortWindows s tr ∧ Event.close ∉ tr ∧ s.thread 0 = .processAudio 0 [] ∧
      flushedWindows tr = [[1, 2, 3]] ∧ s.audioQueue.buf = [[4]] ∧
      (flushedWindows tr).flatten ++ [] ++ s.audioQueue.buf.flatten = (acceptedChunks tr).flatten := by
  obtain ⟨s, tr, run, checked⟩ := exists_run_of_runActs shortWindows
    [.initializeService, .transcribeHandler "POST" (some [1, 2, 3]), .run 2 .go, .run 2 .go,
      .transcribeHandler "POST" (some [4]), .run 3 .go, .run 3 .go, .run 0 .receive]
    (fun s tr => !tr.contains .close && s.thread 0 == .processAudio 0 [] &&
      flushedWindows tr == [[1, 2, 3]] && s.audioQueue.buf == [[4]]) (by decide)
  simp only [Bool.and_eq_true, Bool.not_eq_true', Bool.eq_false_iff, ne_eq, beq_iff_eq, List.elem_iff]
    at checked
  obtain ⟨⟨⟨notClosed, loop⟩, flushed⟩, queued⟩ := checked
  exact ⟨s, tr, run, notClosed, loop, flushed, queued, accepted_samples_conserved run notClosed loop⟩

end Alfred.Whisper
