import Alfred.Whisper.Frame

set_option autoImplicit false

namespace Alfred.Whisper

inductive LoopKind where
  | processAudio
  | broadcastResults
  deriving DecidableEq, Repr

namespace Thread

def loop : Thread → Option (LoopKind × Nat)
  | .processAudio ctx _ => some (.processAudio, ctx)
  | .broadcastResults ctx _ => some (.broadcastResults, ctx)
  | _ => none

def isProcessAudio : Thread → Bool
  | .processAudio _ _ => true
  | _ => false

def isWorker : Thread → Bool
  | .transcribeAudio _ _ => true
  | _ => false

def isBroadcaster : Thread → Bool
  | .broadcastResults _ _ => true
  | _ => false

def isHandler : Thread → Bool
  | .handleWebSocket _ _ => true
  | _ => false

def isRequest : Thread → Bool
  | .transcribeHandler _ => true
  | _ => false

def isFreshWorker : Thread → Bool
  | .transcribeAudio _ .lock => true
  | _ => false

theorem isWorker_of_isFreshWorker {th : Thread} (fresh : th.isFreshWorker = true) :
    th.isWorker = true := by
  match th with
  | .transcribeAudio _ .lock => rfl

end Thread

namespace Event

def ofProcessAudio : Event → Bool
  | .flush _ _ => true
  | _ => false

def ofWorker : Event → Bool
  | .locked _ | .transcribeStart _ | .transcribeEnd _ | .resultSent _ _ => true
  | .panic (.sendOnClosedChannel .results) => true
  | _ => false

def ofBroadcaster : Event → Bool
  | .resultReceived true _ _ | .writeStart _ (.result _) | .writeEnd _ _ => true
  | .connClosed _ | .deregistered _ | .panic (.concurrentWrite _) => true
  | _ => false

def ofHandler : Event → Bool
  | .writeStart _ (.config _) | .writeEnd _ _ | .processAudio _ _ => true
  | .panic (.sendOnClosedChannel .audioQueue) | .panic (.concurrentWrite _) => true
  | .deregistered _ | .connClosed _ => true
  | _ => false

def ofRequest : Event → Bool
  | .processAudio _ _ | .resultReceived false _ _ => true
  | .panic (.sendOnClosedChannel .audioQueue) => true
  | _ => false

theorem ofWorker_eq_false {e : Event}
    (other : e.ofProcessAudio ∨ e.ofBroadcaster ∨ e.ofHandler ∨ e.ofRequest) :
    e.ofWorker = false ∧ e ≠ .close := by
  rcases e with _ | _ | _ | _ | _ | _ | _ | _ | _ | ⟨_ | _⟩ | ⟨_, _ | _⟩ | _ | _ | _ |
    ⟨⟨_ | _⟩ | ⟨_ | _⟩⟩ <;> simp_all [ofProcessAudio, ofWorker, ofBroadcaster, ofHandler, ofRequest]

end Event

open Sys

variable {s s' : Sys} {t : Nat} {c : Choice} {evs : List Event}

def FreshOnlyNew (s s' : Sys) : Prop :=
  ∀ u, (s'.thread u).isFreshWorker = true → (s.thread u).isFreshWorker = true ∨ s.threads.length ≤ u

def LoopsFrom (s s' : Sys) : Prop :=
  ∀ u l, (s'.thread u).loop = some l → (s.thread u).loop = some l

theorem LoopsFrom.trans {s₁ s₂ : Sys} (first : LoopsFrom s s₁) (second : LoopsFrom s₁ s₂) :
    LoopsFrom s s₂ :=
  fun u l now => first u l (second u l now)

theorem LoopsFrom.of_sameExcept {Q : Thread → Prop} (h : SameExcept Q s s')
    (notLoop : ∀ th, Q th → th.loop = none) : LoopsFrom s s' := fun u l now =>
  SameExcept.of_new (fun th => th.loop = some l) h (fun th q isLoop => by simp [notLoop th q] at isLoop) now

theorem loopsFrom_setThread (s : Sys) (inside : t < s.threads.length) {th : Thread}
    (own : ∀ l, th.loop = some l → (s.thread t).loop = some l) : LoopsFrom s (s.setThread t th) := by
  intro u l now
  rw [thread_setThread s th inside] at now
  split at now
  · next same => exact same ▸ own l now
  · exact now

theorem loopsFrom_update_setThread {s₁ : Sys} (same : s₁.threads = s.threads) (inside : t < s.threads.length)
    {th : Thread} (own : ∀ l, th.loop = some l → (s.thread t).loop = some l) :
    LoopsFrom s (s₁.setThread t th) := fun u l now => by
  simpa [thread, same] using loopsFrom_setThread s₁ (same ▸ inside) (by simpa [thread, same] using own) u l now

theorem loopsFrom_spawn (s : Sys) {th : Thread} (notLoop : th.loop = none) : LoopsFrom s (s.spawn th) := by
  intro u l now
  rw [thread_spawn] at now
  split at now
  · simp [notLoop] at now
  · exact now

theorem fresh_setThread (s : Sys) (inside : t < s.threads.length) {th : Thread}
    (notFresh : th.isFreshWorker = false) {u : Nat}
    (fresh : ((s.setThread t th).thread u).isFreshWorker = true) : (s.thread u).isFreshWorker = true := by
  rw [thread_setThread s th inside] at fresh
  split at fresh
  · simp [notFresh] at fresh
  · exact fresh

theorem afterPass_footprint (s : Sys) (inside : t < s.threads.length) {ctx : Nat}
    (old : (s.thread t).loop = some (.processAudio, ctx)) (pass : Samples × Option Samples) :
    (afterPass s t ctx pass).1 = { s with threads := (afterPass s t ctx pass).1.threads } ∧
      SameExcept (fun th => th.isProcessAudio ∨ th.isFreshWorker ∨ th = .exited) s
        (afterPass s t ctx pass).1 ∧
      FreshOnlyNew s (afterPass s t ctx pass).1 ∧ LoopsFrom s (afterPass s t ctx pass).1 ∧
      ∀ e ∈ (afterPass s t ctx pass).2, e.ofProcessAudio := by
  have kind : (s.thread t).isProcessAudio := by
    cases self : s.thread t <;> simp_all [Thread.loop, Thread.isProcessAudio]
  have own : ∀ u, ((s.setThread t (.processAudio ctx pass.1)).thread u).isFreshWorker = true →
      (s.thread u).isFreshWorker = true := fun _ fresh => fresh_setThread s inside (by rfl) fresh
  have loops : LoopsFrom s (s.setThread t (.processAudio ctx pass.1)) :=
    loopsFrom_setThread s inside fun l now => by rw [old]; simpa [Thread.loop] using now
  obtain ⟨audioBuffer, _ | window⟩ := pass
  · exact ⟨rfl, sameExcept_setThread s inside (.inl kind) (.inl rfl), fun u fresh => .inl (own u fresh),
      loops, by simp [afterPass]⟩
  · refine ⟨rfl, (sameExcept_setThread s inside (.inl kind) (.inl rfl)).trans
      (sameExcept_spawn _ (.inr (.inr rfl)) (.inr (.inl rfl))), fun u fresh => ?_,
      loops.trans (loopsFrom_spawn _ rfl), by simp [afterPass, Event.ofProcessAudio]⟩
    simp only [afterPass, thread_spawn, threads_length_setThread] at fresh
    split at fresh
    · next new => exact .inr new.ge
    · exact .inl (own u fresh)

theorem processAudioStepAt_footprint {ctx : Nat} {audioBuffer : Samples}
    (self : s.thread t = .processAudio ctx audioBuffer)
    (h : processAudioStepAt s t ctx audioBuffer c = some (s', evs)) :
    s' = { s with audioQueue := s'.audioQueue, threads := s'.threads } ∧
      s'.audioQueue.closed = s.audioQueue.closed ∧ s'.audioQueue.cap = s.audioQueue.cap ∧
      SameExcept (fun th => th.isProcessAudio ∨ th.isFreshWorker ∨ th = .exited) s s' ∧
      FreshOnlyNew s s' ∧ LoopsFrom s s' ∧ ∀ e ∈ evs, e.ofProcessAudio := by
  have inside : t < s.threads.length := lt_of_thread (by simp [self])
  have old : (s.thread t).loop = some (.processAudio, ctx) := by simp [self, Thread.loop]
  unfold processAudioStepAt at h
  split at h
  · split at h <;> cases h
    exact ⟨rfl, rfl, rfl, sameExcept_setThread s inside (.inl (by simp [self, Thread.isProcessAudio]))
      (.inr (.inr rfl)), fun _ fresh => .inl (fresh_setThread s inside (by rfl) fresh),
      loopsFrom_setThread s inside (by simp [Thread.loop]), by simp⟩
  · split at h
    · next data queue received =>
      obtain ⟨cap, closed, -⟩ := Chan.recv_eq_some received
      obtain ⟨shape, threads, fresh, loops, events⟩ := afterPass_footprint { s with audioQueue := queue }
        inside old (processAudioStep s.config audioBuffer (.arrive (data.getD [])))
      generalize afterPass _ _ _ _ = r at h shape threads fresh loops events
      cases h
      have q : s'.audioQueue = queue := congrArg Sys.audioQueue shape
      exact ⟨q ▸ shape, q ▸ closed, q ▸ cap, (SameExcept.of_threads (by rfl)).trans threads, fresh, loops,
        events⟩
    · cases h
  · split at h
    · obtain ⟨shape, threads, fresh, loops, events⟩ :=
        afterPass_footprint s inside old (processAudioStep s.config audioBuffer .idle)
      generalize afterPass _ _ _ _ = r at h shape threads fresh loops events
      cases h
      have q : s'.audioQueue = s.audioQueue := (congrArg Sys.audioQueue shape).trans rfl
      exact ⟨q ▸ shape, by rw [q], by rw [q], threads, fresh, loops, events⟩
    · cases h
  · cases h

theorem transcribeAudioStep_footprint {window : Samples} {pc : WorkerPc}
    (self : s.thread t = .transcribeAudio window pc)
    (h : transcribeAudioStep s t window pc c = some (s', evs)) :
    s' = { s with mu := s'.mu, results := s'.results, crashed := s'.crashed, threads := s'.threads } ∧
      s'.results.closed = s.results.closed ∧
      SameExcept (fun th => th.isWorker ∨ th = .exited) s s' ∧
      ∀ e ∈ evs, e.ofWorker := by
  have inside : t < s.threads.length := lt_of_thread (by simp [self])
  have keep : ∀ (s₁ : Sys) (th : Thread), s₁.threads = s.threads → th.isWorker ∨ th = .exited →
      SameExcept (fun th => th.isWorker ∨ th = .exited) s (s₁.setThread t th) :=
    fun _ _ same new => sameExcept_update_setThread same inside (.inl (by simp [self, Thread.isWorker])) new
  unfold transcribeAudioStep at h
  split at h
  · split at h <;> cases h
    exact ⟨rfl, rfl, keep _ _ rfl (.inl rfl), by simp [Event.ofWorker]⟩
  · split at h <;> cases h
    · exact ⟨rfl, rfl, keep _ _ rfl (.inl rfl), by simp [Event.ofWorker]⟩
    · exact ⟨rfl, rfl, keep _ _ rfl (.inr rfl), by simp⟩
  · cases h
    exact ⟨rfl, rfl, keep _ _ rfl (.inr rfl), by simp [Event.ofWorker]⟩
  · cases h
    exact ⟨rfl, rfl, keep _ _ rfl (.inl rfl), by simp [Event.ofWorker]⟩
  · split at h
    · next results sent =>
      cases h
      obtain ⟨-, -, rfl⟩ := Chan.send_eq_sent.mp sent
      exact ⟨rfl, rfl, keep _ _ rfl (.inr rfl), by simp [Event.ofWorker]⟩
    · cases h
    · cases h
      exact ⟨rfl, rfl, keep _ _ rfl (.inr rfl), by simp [Event.ofWorker]⟩
  · cases h

def ReadsResults (byBroadcaster : Bool) (s s' : Sys) (evs : List Event) : Prop :=
  s'.results = s.results ∧ (∀ e ∈ evs, ∀ b w r, e ≠ .resultReceived b w r) ∨
    ∃ v, s.results.recv = some (v, s'.results) ∧
      evs = [.resultReceived byBroadcaster (v.map Prod.fst) ((v.map Prod.snd).getD .zero)]

theorem broadcastResultsStep_footprint {ctx : Nat} {pc : BroadcasterPc}
    (self : s.thread t = .broadcastResults ctx pc)
    (h : broadcastResultsStep s t ctx pc c = some (s', evs)) :
    s' = { s with
      results := s'.results, readers := s'.readers, connections := s'.connections
      sockets := s'.sockets, crashed := s'.crashed, threads := s'.threads } ∧
      s'.results.closed = s.results.closed ∧
      SameExcept (fun th => th.isBroadcaster ∨ th = .exited) s s' ∧ LoopsFrom s s' ∧
      ReadsResults true s s' evs ∧ ∀ e ∈ evs, e.ofBroadcaster := by
  have inside : t < s.threads.length := lt_of_thread (by simp [self])
  have keep : ∀ (s₁ : Sys) (th : Thread), s₁.threads = s.threads → th.isBroadcaster ∨ th = .exited →
      SameExcept (fun th => th.isBroadcaster ∨ th = .exited) s (s₁.setThread t th) :=
    fun _ _ same new =>
      sameExcept_update_setThread same inside (.inl (by simp [self, Thread.isBroadcaster])) new
  have keepLoop : ∀ (s₁ : Sys) (th : Thread), s₁.threads = s.threads →
      th.loop = some (.broadcastResults, ctx) ∨ th = .exited → LoopsFrom s (s₁.setThread t th) :=
    fun _ _ same new => loopsFrom_update_setThread same inside fun l now => by
      rcases new with new | rfl
      · rw [new] at now; rw [self]; simpa [Thread.loop] using now
      · simp [Thread.loop] at now
  unfold broadcastResultsStep at h
  split at h
  · split at h <;> cases h
    exact ⟨rfl, rfl, keep _ _ rfl (.inr rfl), keepLoop _ _ rfl (.inr rfl), .inl ⟨rfl, by simp⟩, by simp⟩
  · split at h
    · next v results received =>
      cases h
      obtain ⟨-, closed, -⟩ := Chan.recv_eq_some received
      exact ⟨rfl, closed, keep _ _ rfl (.inl rfl), keepLoop _ _ rfl (.inl rfl), .inr ⟨v, received, rfl⟩, by simp [Event.ofBroadcaster]⟩
    · cases h
  · split at h
    · split at h <;> cases h
      · exact ⟨rfl, rfl, keep _ _ rfl (.inl rfl), keepLoop _ _ rfl (.inl rfl), .inl ⟨rfl, by simp⟩, by simp [Event.ofBroadcaster]⟩
      · exact ⟨rfl, rfl, keep _ _ rfl (.inl rfl), keepLoop _ _ rfl (.inl rfl), .inl ⟨rfl, by simp⟩, by simp⟩
    · cases h
  · split at h <;> cases h
    exact ⟨rfl, rfl, keep _ _ rfl (.inl rfl), keepLoop _ _ rfl (.inl rfl), .inl ⟨rfl, by simp⟩, by simp⟩
  · split at h <;> cases h
    · exact ⟨rfl, rfl, keep _ _ rfl (.inl rfl), keepLoop _ _ rfl (.inl rfl), .inl ⟨rfl, by simp⟩, by simp [Event.ofBroadcaster]⟩
    · refine ⟨rfl, rfl, keep _ _ rfl (.inl rfl), keepLoop _ _ rfl (.inl rfl), .inl ⟨rfl, ?_⟩, ?_⟩ <;> simp only [deregisterEvents] <;>
        split <;> simp [Event.ofBroadcaster]
  · split at h <;> cases h
    exact ⟨rfl, rfl, keep _ _ rfl (.inr rfl), keepLoop _ _ rfl (.inr rfl), .inl ⟨rfl, by simp⟩,
      by simp [Event.ofBroadcaster]⟩
  · cases h

theorem submitStep_queue (s : Sys) (data : Samples) (pc : Submit) :
    (submitStep s data pc).2 = { s.audioQueue with
      buf := s.audioQueue.buf ++ if (submitStep s data pc).1 = .returned none then [data] else [] } := by
  cases pc with
  | check => by_cases running : s.running <;> simp [submitStep, running]
  | send =>
    cases sent : s.audioQueue.send data with
    | sent queue => obtain ⟨-, -, rfl⟩ := Chan.send_eq_sent.mp sent; simp [submitStep, sent]
    | full => simp [submitStep, sent]
    | panic => simp [submitStep, sent]

def SubmitsAudio (s s' : Sys) (evs : List Event) : Prop :=
  s'.audioQueue.buf = s.audioQueue.buf ∧ (∀ e ∈ evs, ∀ data, e ≠ .processAudio data none) ∨
    ∃ data, s'.audioQueue.buf = s.audioQueue.buf ++ [data] ∧ evs = [.processAudio data none]

theorem submitsAudio_returned {s₁ : Sys} {data : Samples} {pc : Submit} {err : Option String}
    {queue : Chan Samples} (submitted : submitStep s data pc = (.returned err, queue))
    (same : s₁.audioQueue = queue) : SubmitsAudio s s₁ [.processAudio data err] := by
  have enqueued := submitStep_queue s data pc
  rw [submitted] at enqueued
  dsimp only at enqueued
  cases err
  · exact .inr ⟨data, by rw [same, enqueued]; simp, rfl⟩
  · exact .inl ⟨by rw [same, enqueued]; simp, by simp⟩

theorem handleWebSocketStep_footprint {conn : Nat} {pc : HandlerPc}
    (self : s.thread t = .handleWebSocket conn pc)
    (h : handleWebSocketStep s t conn pc c = some (s', evs)) :
    s' = { s with
      audioQueue := s'.audioQueue, connections := s'.connections, sockets := s'.sockets
      crashed := s'.crashed, threads := s'.threads } ∧
      s'.audioQueue.closed = s.audioQueue.closed ∧ SubmitsAudio s s' evs ∧
      SameExcept (fun th => th.isHandler ∨ th = .exited) s s' ∧
      ∀ e ∈ evs, e.ofHandler := by
  have inside : t < s.threads.length := lt_of_thread (by simp [self])
  have keep : ∀ (s₁ : Sys) (th : Thread), s₁.threads = s.threads → th.isHandler ∨ th = .exited →
      SameExcept (fun th => th.isHandler ∨ th = .exited) s (s₁.setThread t th) :=
    fun _ _ same new => sameExcept_update_setThread same inside (.inl (by simp [self, Thread.isHandler])) new
  unfold handleWebSocketStep at h
  split at h
  · cases h
    exact ⟨rfl, rfl, .inl ⟨rfl, by simp⟩, keep _ _ rfl (.inl rfl), by simp [Event.ofHandler]⟩
  · cases h
    exact ⟨rfl, rfl, .inl ⟨rfl, by simp⟩, keep _ _ rfl (.inl rfl), by simp [Event.ofHandler]⟩
  · split at h <;> cases h
    exact ⟨rfl, rfl, .inl ⟨rfl, by simp⟩, keep _ _ rfl (.inr rfl), by simp [Event.ofHandler]⟩
  · cases h
    exact ⟨rfl, rfl, .inl ⟨rfl, by simp⟩, keep _ _ rfl (.inl rfl), by simp⟩
  · split at h <;> cases h
    exact ⟨rfl, rfl, .inl ⟨rfl, by simp⟩, SameExcept.of_threads rfl, by simp⟩
  · split at h <;> cases h
    exact ⟨rfl, rfl, .inl ⟨rfl, by simp⟩, keep _ _ rfl (.inl rfl), by simp⟩
  · next data pc =>
    have queue := submitStep_queue s data pc
    split at h
    · cases h
      exact ⟨rfl, rfl, .inl ⟨rfl, by simp⟩, keep _ _ rfl (.inl rfl), by simp⟩
    · next err queue' submitted =>
      cases h
      rw [submitted] at queue
      exact ⟨rfl, by simpa using congrArg Chan.closed queue, submitsAudio_returned submitted rfl,
        keep _ _ rfl (.inl rfl), by simp [Event.ofHandler]⟩
    · cases h
      exact ⟨rfl, rfl, .inl ⟨rfl, by simp⟩, keep _ _ rfl (.inr rfl), by simp [Event.ofHandler]⟩
  · split at h <;> cases h
    refine ⟨rfl, rfl, .inl ⟨rfl, ?_⟩, keep _ _ rfl (.inr rfl), ?_⟩ <;> simp only [deregisterEvents] <;>
      split <;> simp [Event.ofHandler]
  · cases h

theorem transcribeHandlerStep_footprint {pc : RequestPc}
    (self : s.thread t = .transcribeHandler pc)
    (h : transcribeHandlerStep s t pc c = some (s', evs)) :
    s' = { s with audioQueue := s'.audioQueue, results := s'.results, threads := s'.threads } ∧
      s'.audioQueue.closed = s.audioQueue.closed ∧ s'.results.closed = s.results.closed ∧
      SubmitsAudio s s' evs ∧ SameExcept (fun th => th.isRequest) s s' ∧
      ReadsResults false s s' evs ∧ ∀ e ∈ evs, e.ofRequest := by
  have inside : t < s.threads.length := lt_of_thread (by simp [self])
  have keep : ∀ (s₁ : Sys) (th : Thread), s₁.threads = s.threads → th.isRequest →
      SameExcept (fun th => th.isRequest) s (s₁.setThread t th) :=
    fun _ _ same new => sameExcept_update_setThread same inside (by simp [self, Thread.isRequest]) new
  unfold transcribeHandlerStep at h
  split at h
  · next data pc =>
    have queue := submitStep_queue s data pc
    split at h
    · cases h
      exact ⟨rfl, rfl, rfl, .inl ⟨rfl, by simp⟩, keep _ _ rfl rfl, .inl ⟨rfl, by simp⟩, by simp⟩
    · next queue' submitted =>
      cases h
      rw [submitted] at queue
      exact ⟨rfl, by simpa using congrArg Chan.closed queue, rfl, submitsAudio_returned submitted rfl,
        keep _ _ rfl rfl, .inl ⟨rfl, by simp⟩, by simp [Event.ofRequest]⟩
    · next err queue' submitted =>
      cases h
      rw [submitted] at queue
      exact ⟨rfl, by simpa using congrArg Chan.closed queue, rfl, submitsAudio_returned submitted rfl,
        keep _ _ rfl rfl, .inl ⟨rfl, by simp⟩, by simp [Event.ofRequest]⟩
    · cases h
      exact ⟨rfl, rfl, rfl, .inl ⟨rfl, by simp⟩, keep _ _ rfl rfl, .inl ⟨rfl, by simp⟩,
        by simp [Event.ofRequest]⟩
  · split at h
    · next v results received =>
      cases h
      obtain ⟨-, closed, -⟩ := Chan.recv_eq_some received
      exact ⟨rfl, rfl, closed, .inl ⟨rfl, by simp⟩, keep _ _ rfl rfl, .inr ⟨v, received, rfl⟩,
        by simp [Event.ofRequest]⟩
    · cases h
  · cases h

theorem initializeService_footprint (h : s.initializeService = some (s', evs)) :
    s.mu = none ∧
      s' = { s with
        running := s'.running, contexts := s'.contexts, cancelFunc := s'.cancelFunc
        threads := s'.threads } ∧
      SameExcept (fun th => th = .exited ∨ th.isProcessAudio ∨ th.isBroadcaster) s s' ∧
      ∀ e ∈ evs, ∃ started, e = .initialized started := by
  unfold initializeService at h
  split at h
  · cases h
  · next free =>
    simp only [ne_eq, Decidable.not_not] at free
    split at h <;> cases h
    · exact ⟨free, rfl, SameExcept.of_threads rfl, by simp⟩
    · refine ⟨free, rfl, SameExcept.trans ?_ (sameExcept_spawn _ (.inl rfl) (.inr (.inr rfl))), by simp⟩
      exact sameExcept_update_spawn (by rfl) (by simp) (by simp [Thread.isProcessAudio])

theorem initializeService_cases (h : s.initializeService = some (s', evs)) :
    s.running = true ∧ s' = s ∧ evs = [.initialized false] ∨
      s.running = false ∧ evs = [.initialized true] ∧
        s' = ({ s with
          running := true, contexts := s.contexts ++ [false], cancelFunc := some s.contexts.length }.spawn
            (.processAudio s.contexts.length [])).spawn (.broadcastResults s.contexts.length .select) := by
  unfold initializeService at h
  split at h
  · cases h
  · split at h <;> cases h
    · next running => exact .inl ⟨running, rfl, rfl⟩
    · next stopped => exact .inr ⟨by simpa using stopped, rfl, rfl⟩

theorem closeConnections_fst (s : Sys) (conns : List Nat) :
    (s.closeConnections conns).1 = { s with
      connections := (s.closeConnections conns).1.connections
      sockets := (s.closeConnections conns).1.sockets } := by
  induction conns generalizing s with
  | nil => rfl
  | cons conn rest ih => simp only [closeConnections]; rw [ih]; rfl

theorem closeChannels_fst (s : Sys) (evs : List Event) :
    (s.closeChannels evs).1 = { s with
      audioQueue := (s.closeChannels evs).1.audioQueue, results := (s.closeChannels evs).1.results
      model := (s.closeChannels evs).1.model, crashed := (s.closeChannels evs).1.crashed } := by
  unfold closeChannels
  split <;> rfl

theorem close_footprint (h : s.close = some (s', evs)) :
    s.mu = none ∧ s.readers = 0 ∧ s'.threads = s.threads ∧ s'.mu = s.mu ∧
      s'.readers = s.readers ∧ s'.config = s.config ∧ s'.cancelFunc = s.cancelFunc := by
  unfold close at h
  split at h
  · cases h
  · next free =>
    simp only [ne_eq, not_or, Decidable.not_not] at free
    obtain ⟨rfl, rfl⟩ := Prod.ext_iff.mp (Option.some.inj h).symm
    rw [closeChannels_fst, closeConnections_fst]
    simp [free]

theorem close_unloads (h : s.close = some (s', evs)) :
    Event.close ∈ evs ∧
      (s'.model = false ∨ s'.crashed = true ∧ s'.model = s.model ∧ s'.results = s.results) := by
  unfold close at h
  split at h
  · cases h
  · obtain ⟨rfl, rfl⟩ := Prod.ext_iff.mp (Option.some.inj h).symm
    unfold closeChannels
    split <;> rw [closeConnections_fst] <;> simp

theorem close_results_buf (h : s.close = some (s', evs)) : s'.results.buf = s.results.buf := by
  unfold close at h
  split at h
  · cases h
  · obtain ⟨rfl, rfl⟩ := Prod.ext_iff.mp (Option.some.inj h).symm
    unfold closeChannels
    have results : (s.stop.closeConnections s.connections).1.results = s.results := by
      rw [closeConnections_fst]; rfl
    split
    · next results' closed => simp [(Chan.close_eq_some.mp closed).2, results]
    all_goals simp [results]

theorem closeConnections_events (s : Sys) (conns : List Nat) :
    ∀ e ∈ (s.closeConnections conns).2, ∃ conn ∈ conns, e = .connClosed conn ∨ e = .deregistered conn := by
  induction conns generalizing s with
  | nil => simp [closeConnections]
  | cons conn rest ih =>
    simp only [closeConnections, List.mem_cons, List.mem_append]
    rintro e ((rfl | deregistered) | more)
    · exact ⟨conn, .inl rfl, .inl rfl⟩
    · refine ⟨conn, .inl rfl, .inr ?_⟩
      unfold deregisterEvents at deregistered; split at deregistered <;> simp_all
    · obtain ⟨c, mem, e_eq⟩ := ih _ e more
      exact ⟨c, .inr mem, e_eq⟩

theorem close_events (h : s.close = some (s', evs)) :
    ∀ e ∈ evs, e = .close ∨ (∃ conn ∈ s.connections, e = .connClosed conn ∨ e = .deregistered conn) ∨
      ∃ ch, e = .panic (.closeOfClosedChannel ch) := by
  unfold close at h
  split at h
  · cases h
  · obtain ⟨rfl, rfl⟩ := Prod.ext_iff.mp (Option.some.inj h).symm
    have conns := closeConnections_events s.stop s.connections
    unfold closeChannels
    split <;> simp only [List.mem_cons, List.mem_append, List.not_mem_nil, or_false]
    · rintro e (rfl | more)
      · exact .inl rfl
      · exact .inr (.inl (conns e more))
    all_goals
      rintro e ((rfl | more) | panicked)
      · exact .inl rfl
      · exact .inr (.inl (conns e more))
      · exact .inr (.inr ⟨_, panicked⟩)

theorem addWebSocket_footprint (h : s.addWebSocket = some (s', evs)) :
    s.readers = 0 ∧
      s' = { s with
        sockets := s.sockets ++ [false], connections := s.connections ++ [s.sockets.length]
        threads := s'.threads } ∧
      SameExcept (fun th => th = .exited ∨ th.isHandler) s s' ∧
      s'.thread s.threads.length = .handleWebSocket s.sockets.length .sendConfig ∧
      evs = [.registered s.sockets.length] := by
  unfold addWebSocket at h
  split at h
  · cases h
  · next free =>
    cases h
    refine ⟨by simpa using free, rfl, sameExcept_update_spawn (by rfl) (by simp) (by simp [Thread.isHandler]),
      ?_, rfl⟩
    simp [thread_spawn]

theorem transcribeHandler_footprint {method : String} {body : Option Samples}
    (h : s.transcribeHandler method body = (s', evs)) :
    s' = { s with threads := s'.threads } ∧
      SameExcept (fun th => th = .exited ∨ th.isRequest) s s' ∧ evs = [] := by
  cases h
  exact ⟨rfl, sameExcept_update_spawn (by rfl) (by simp) (by simp [Thread.isRequest]), rfl⟩

theorem step_cases {a : Act} (h : step s a = some (s', evs)) :
    s.crashed = false ∧
      (a = .initializeService ∧ s.initializeService = some (s', evs) ∨
        a = .close ∧ s.close = some (s', evs) ∨
        a = .addWebSocket ∧ s.addWebSocket = some (s', evs) ∨
        (∃ method body, a = .transcribeHandler method body ∧
          s.transcribeHandler method body = (s', evs)) ∨
        (∃ t ctx audioBuffer c, s.thread t = .processAudio ctx audioBuffer ∧
          processAudioStepAt s t ctx audioBuffer c = some (s', evs)) ∨
        (∃ t window pc c, s.thread t = .transcribeAudio window pc ∧
          transcribeAudioStep s t window pc c = some (s', evs)) ∨
        (∃ t ctx pc c, s.thread t = .broadcastResults ctx pc ∧
          broadcastResultsStep s t ctx pc c = some (s', evs)) ∨
        (∃ t conn pc c, s.thread t = .handleWebSocket conn pc ∧
          handleWebSocketStep s t conn pc c = some (s', evs)) ∨
        (∃ t pc c, s.thread t = .transcribeHandler pc ∧
          transcribeHandlerStep s t pc c = some (s', evs))) := by
  unfold step at h
  split at h
  · cases h
  · next alive =>
    refine ⟨by simpa using alive, ?_⟩
    cases a with
    | initializeService => exact .inl ⟨rfl, h⟩
    | close => exact .inr (.inl ⟨rfl, h⟩)
    | addWebSocket => exact .inr (.inr (.inl ⟨rfl, h⟩))
    | transcribeHandler method body => exact .inr (.inr (.inr (.inl ⟨method, body, rfl, Option.some.inj h⟩)))
    | run t c =>
      simp only at h
      cases self : s.thread t <;> rw [self] at h <;> simp only [threadStep] at h
      · exact .inr (.inr (.inr (.inr (.inl ⟨t, _, _, c, self, h⟩))))
      · exact .inr (.inr (.inr (.inr (.inr (.inl ⟨t, _, _, c, self, h⟩)))))
      · exact .inr (.inr (.inr (.inr (.inr (.inr (.inl ⟨t, _, _, c, self, h⟩))))))
      · exact .inr (.inr (.inr (.inr (.inr (.inr (.inr (.inl ⟨t, _, _, c, self, h⟩)))))))
      · exact .inr (.inr (.inr (.inr (.inr (.inr (.inr (.inr ⟨t, _, c, self, h⟩)))))))
      · cases h

end Alfred.Whisper
