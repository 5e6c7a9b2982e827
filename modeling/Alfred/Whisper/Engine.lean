import Mathlib.Data.List.Nodup
import Alfred.Whisper.Footprint

set_option autoImplicit false

namespace Alfred.Whisper

open Sys

namespace Thread

def holdsMu : Thread → Bool
  | .transcribeAudio _ .lock => false
  | .transcribeAudio _ _ => true
  | _ => false

def inEngine : Thread → Bool
  | .transcribeAudio _ .engine => true
  | _ => false

def pastModelCheck : Thread → Bool
  | .transcribeAudio _ .engine => true
  | .transcribeAudio _ (.send _) => true
  | _ => false

def Bystander (th : Thread) : Prop := th.isWorker = false ∨ th.isFreshWorker = true

theorem holdsMu_of_pastModelCheck {th : Thread} (past : th.pastModelCheck = true) :
    th.holdsMu = true := by
  match th with
  | .transcribeAudio _ .engine | .transcribeAudio _ (.send _) => rfl

theorem pastModelCheck_of_inEngine {th : Thread} (inside : th.inEngine = true) :
    th.pastModelCheck = true := by
  match th with
  | .transcribeAudio _ .engine => rfl

theorem Bystander.idle {th : Thread} (by_ : th.Bystander) :
    th.holdsMu = false ∧ th.pastModelCheck = false := by
  rcases th with _ | ⟨_, _ | _ | _ | _⟩ <;> simp_all [Bystander, isWorker, isFreshWorker, holdsMu, pastModelCheck]

end Thread

section Bystanders

variable {s s' : Sys} {evs : List Event}

def KeepsWorkers (s s' : Sys) (evs : List Event) : Prop :=
  s'.mu = s.mu ∧ s'.model = s.model ∧ s'.results.closed = s.results.closed ∧
    SameExcept Thread.Bystander s s' ∧ FreshOnlyNew s s' ∧ ∀ e ∈ evs, e.ofWorker = false ∧ e ≠ .close

theorem keepsWorkers_of_notWorker {Q : Thread → Prop} (shape : s'.mu = s.mu ∧ s'.model = s.model)
    (closed : s'.results.closed = s.results.closed) (threads : SameExcept Q s s')
    (notWorker : ∀ th, Q th → th.isWorker = false)
    (events : ∀ e ∈ evs, e.ofWorker = false ∧ e ≠ .close) : KeepsWorkers s s' evs := by
  refine ⟨shape.1, shape.2, closed, threads.mono fun th q => .inl (notWorker th q),
    fun u fresh => .inl (SameExcept.of_new (fun th => th.isFreshWorker = true) threads
      (fun th q isFresh => Bool.false_ne_true
        ((notWorker th q).symm.trans (Thread.isWorker_of_isFreshWorker isFresh))) fresh), events⟩

theorem step_cases_workers {a : Act} (h : step s a = some (s', evs)) :
    s.crashed = false ∧
      (s.close = some (s', evs) ∨
        (∃ t window pc c, s.thread t = .transcribeAudio window pc ∧
          transcribeAudioStep s t window pc c = some (s', evs)) ∨
        KeepsWorkers s s' evs) := by
  obtain ⟨alive, h | h | h | h | h | h | h | h | h⟩ := step_cases h
  all_goals refine ⟨alive, ?_⟩
  · obtain ⟨-, shape, threads, events⟩ := initializeService_footprint h.2
    refine .inr (.inr (keepsWorkers_of_notWorker (by rw [shape]; simp) (by rw [shape]) threads
      (fun th kind => ?_) fun e mem => ?_))
    · cases th <;> simp [Thread.isWorker, Thread.isProcessAudio, Thread.isBroadcaster] at kind ⊢
    · obtain ⟨_, rfl⟩ := events e mem; simp [Event.ofWorker]
  · exact .inl h.2
  · obtain ⟨-, shape, threads, -, rfl⟩ := addWebSocket_footprint h.2
    refine .inr (.inr (keepsWorkers_of_notWorker (by rw [shape]; simp) (by rw [shape]) threads
      (fun th kind => ?_) (by simp [Event.ofWorker])))
    cases th <;> simp [Thread.isWorker, Thread.isHandler] at kind ⊢
  · obtain ⟨method, body, -, h⟩ := h
    obtain ⟨shape, threads, rfl⟩ := transcribeHandler_footprint h
    refine .inr (.inr (keepsWorkers_of_notWorker (by rw [shape]; simp) (by rw [shape]) threads
      (fun th kind => ?_) (by simp)))
    cases th <;> simp [Thread.isWorker, Thread.isRequest] at kind ⊢
  · obtain ⟨t, ctx, audioBuffer, c, self, h⟩ := h
    obtain ⟨shape, -, -, threads, fresh, -, events⟩ := processAudioStepAt_footprint self h
    refine .inr (.inr ⟨by rw [shape], by rw [shape], by rw [shape],
      threads.mono fun th kind => ?_, fresh, fun e mem => ?_⟩)
    · rcases th with _ | ⟨_, _ | _ | _ | _⟩ <;>
        simp [Thread.Bystander, Thread.isWorker, Thread.isFreshWorker, Thread.isProcessAudio] at kind ⊢
    · exact Event.ofWorker_eq_false (.inl (events e mem))
  · exact .inr (.inl h)
  · obtain ⟨t, ctx, pc, c, self, h⟩ := h
    obtain ⟨shape, closed, threads, -, -, events⟩ := broadcastResultsStep_footprint self h
    refine .inr (.inr (keepsWorkers_of_notWorker (by rw [shape]; simp) closed threads
      (fun th kind => ?_) fun e mem => Event.ofWorker_eq_false (.inr (.inl (events e mem)))))
    cases th <;> simp [Thread.isWorker, Thread.isBroadcaster] at kind ⊢
  · obtain ⟨t, conn, pc, c, self, h⟩ := h
    obtain ⟨shape, -, -, threads, events⟩ := handleWebSocketStep_footprint self h
    refine .inr (.inr (keepsWorkers_of_notWorker (by rw [shape]; simp) (by rw [shape]) threads
      (fun th kind => ?_) fun e mem => Event.ofWorker_eq_false (.inr (.inr (.inl (events e mem))))))
    cases th <;> simp [Thread.isWorker, Thread.isHandler] at kind ⊢
  · obtain ⟨t, pc, c, self, h⟩ := h
    obtain ⟨shape, -, closed, -, threads, -, events⟩ := transcribeHandlerStep_footprint self h
    refine .inr (.inr (keepsWorkers_of_notWorker (by rw [shape]; simp) closed threads
      (fun th kind => ?_) fun e mem => Event.ofWorker_eq_false (.inr (.inr (.inr (events e mem))))))
    cases th <;> simp [Thread.isWorker, Thread.isRequest] at kind ⊢

theorem transcribeAudioStep_cases {t : Nat} {window : Samples} {pc : WorkerPc} {c : Choice}
    (h : transcribeAudioStep s t window pc c = some (s', evs)) :
    pc = .lock ∧ s.mu = none ∧
        s' = { s with mu := some t }.setThread t (.transcribeAudio window .checkModel) ∧
        evs = [.locked t] ∨
      pc = .checkModel ∧ s.model = true ∧ s' = s.setThread t (.transcribeAudio window .engine) ∧
        evs = [.transcribeStart t] ∨
      pc = .checkModel ∧ s.model = false ∧ s' = { s with mu := none }.setThread t .exited ∧ evs = [] ∨
      pc = .engine ∧ s' = { s with mu := none }.setThread t .exited ∧ evs = [.transcribeEnd t] ∨
      (∃ segments, pc = .engine ∧
        s' = s.setThread t (.transcribeAudio window (.send (transcriptionResult (transcript segments)))) ∧
        evs = [.transcribeEnd t]) ∨
      (∃ result results, pc = .send result ∧ s.results.send (t, result) = .sent results ∧
        s' = { s with results := results, mu := none }.setThread t .exited ∧
        evs = [.resultSent t result]) ∨
      (∃ result, pc = .send result ∧ s.results.closed = true ∧
        s' = { s with mu := none, crashed := true }.setThread t .exited ∧
        evs = [.panic (.sendOnClosedChannel .results)]) := by
  unfold transcribeAudioStep at h
  split at h
  · split at h <;> cases h
    exact .inl ⟨rfl, ‹_›, rfl, rfl⟩
  · split at h <;> cases h
    · next loaded => exact .inr (.inl ⟨rfl, loaded, rfl, rfl⟩)
    · next unloaded => exact .inr (.inr (.inl ⟨rfl, by simpa using unloaded, rfl, rfl⟩))
  · cases h
    exact .inr (.inr (.inr (.inl ⟨rfl, rfl, rfl⟩)))
  · cases h
    exact .inr (.inr (.inr (.inr (.inl ⟨_, rfl, rfl, rfl⟩))))
  · split at h
    · next results sent =>
      cases h
      exact .inr (.inr (.inr (.inr (.inr (.inl ⟨_, _, rfl, sent, rfl, rfl⟩)))))
    · cases h
    · next panicked =>
      cases h
      exact .inr (.inr (.inr (.inr (.inr (.inr ⟨_, rfl, Chan.send_eq_panic.mp panicked, rfl, rfl⟩)))))
  · cases h

end Bystanders

structure EngineInv (s : Sys) (tr : List Event) : Prop where
  holder : ∀ u, (s.thread u).holdsMu = true ↔ s.mu = some u
  unloaded : s.model = false → ∀ u, (s.thread u).pastModelCheck = false
  closedUnloaded : s.results.closed = true → s.model = false
  closeUnloads : Event.close ∈ tr → s.model = false ∨ s.crashed = true

section Preservation

variable {s s' : Sys} {tr evs : List Event}

theorem engineInv_initial (cfg : Config) : EngineInv (Sys.initial cfg) [] where
  holder u := by simp [Sys.initial, thread, Thread.holdsMu]
  unloaded := by simp [Sys.initial]
  closedUnloaded := by simp [Sys.initial, Chan.make]
  closeUnloads := by simp

theorem engineInv_keeps (inv : EngineInv s tr) (alive : s.crashed = false)
    (keeps : KeepsWorkers s s' evs) : EngineInv s' (tr ++ evs) := by
  obtain ⟨mu, model, closed, threads, -, events⟩ := keeps
  refine ⟨fun u => ?_, fun unloaded u => ?_, fun isClosed => ?_, fun closeIn => ?_⟩
  · rcases threads.thread u with same | ⟨before, after⟩
    · rw [same, mu, inv.holder]
    · rw [after.idle.1, mu, ← inv.holder, before.idle.1]
  · rcases threads.thread u with same | ⟨-, after⟩
    · rw [same]; exact inv.unloaded (model ▸ unloaded) u
    · exact after.idle.2
  · exact model ▸ inv.closedUnloaded (closed ▸ isClosed)
  · have before : Event.close ∈ tr := by
      rcases List.mem_append.mp closeIn with old | new
      · exact old
      · exact absurd rfl (events _ new).2
    rcases inv.closeUnloads before with unloaded | crashed
    · exact .inl (model ▸ unloaded)
    · simp [alive] at crashed

theorem engineInv_close (inv : EngineInv s tr) (h : s.close = some (s', evs)) :
    EngineInv s' (tr ++ evs) := by
  obtain ⟨free, -, threads, mu, -⟩ := close_footprint h
  obtain ⟨closeIn, outcome⟩ := close_unloads h
  have same : ∀ u, s'.thread u = s.thread u := fun u => by simp [thread, threads]
  have noHolder : ∀ u, (s.thread u).holdsMu = false := fun u => by
    simpa [free] using inv.holder u
  refine ⟨fun u => ?_, fun _ u => ?_, fun isClosed => ?_, fun _ => ?_⟩
  · simp [same, mu, free, noHolder]
  · rw [same]
    cases past : (s.thread u).pastModelCheck
    · rfl
    · simpa [noHolder] using Thread.holdsMu_of_pastModelCheck past
  · rcases outcome with unloaded | ⟨-, model, results⟩
    · exact unloaded
    · rw [model]; exact inv.closedUnloaded (results ▸ isClosed)
  · exact outcome.imp id (·.1)

theorem holder_setThread (holder : ∀ u, (s.thread u).holdsMu = true ↔ s.mu = some u)
    {s₁ : Sys} (same : s₁.threads = s.threads) {t : Nat} (inside : t < s.threads.length)
    {th : Thread} (others : ∀ u, u ≠ t → (s₁.mu = some u ↔ s.mu = some u))
    (own : th.holdsMu = true ↔ s₁.mu = some t) :
    ∀ u, ((s₁.setThread t th).thread u).holdsMu = true ↔ (s₁.setThread t th).mu = some u := by
  intro u
  rw [thread_setThread s₁ th (same ▸ inside), setThread_mu]
  split
  · next eq => subst eq; exact own
  · next ne => rw [others u ne, ← holder u]; simp [thread, same]

theorem unloaded_setThread (unloaded : s.model = false → ∀ u, (s.thread u).pastModelCheck = false)
    {s₁ : Sys} (same : s₁.threads = s.threads) (model : s₁.model = s.model) {t : Nat}
    (inside : t < s.threads.length) {th : Thread} (own : s.model = false → th.pastModelCheck = false) :
    (s₁.setThread t th).model = false → ∀ u, ((s₁.setThread t th).thread u).pastModelCheck = false := by
  intro isUnloaded u
  rw [setThread_model, model] at isUnloaded
  rw [thread_setThread s₁ th (same ▸ inside)]
  split
  · exact own isUnloaded
  · simpa [thread, same] using unloaded isUnloaded u

theorem engineInv_worker (inv : EngineInv s tr) (alive : s.crashed = false) {t : Nat}
    {window : Samples} {pc : WorkerPc} {c : Choice} (self : s.thread t = .transcribeAudio window pc)
    (h : transcribeAudioStep s t window pc c = some (s', evs)) : EngineInv s' (tr ++ evs) := by
  obtain ⟨shape, closed, -, events⟩ := transcribeAudioStep_footprint self h
  have model : s'.model = s.model := by rw [shape]
  clear shape
  have inside : t < s.threads.length := lt_of_thread (by simp [self])
  have mine : s.mu = some t ↔ pc ≠ .lock := by
    rw [← inv.holder t, self]; cases pc <;> simp [Thread.holdsMu]
  have past : s.model = false → pc ≠ .engine ∧ ∀ r, pc ≠ .send r := fun unloaded => by
    have := inv.unloaded unloaded t
    rw [self] at this; cases pc <;> simp [Thread.pastModelCheck] at this ⊢
  refine ⟨?_, ?_, fun isClosed => model ▸ inv.closedUnloaded (closed ▸ isClosed), fun closeIn => ?_⟩
  rotate_right
  · have before : Event.close ∈ tr := by
      rcases List.mem_append.mp closeIn with old | new
      · exact old
      · exact absurd (events _ new) (by decide)
    rcases inv.closeUnloads before with unloaded | crashed
    · exact .inl (model ▸ unloaded)
    · simp [alive] at crashed
  all_goals
    rcases transcribeAudioStep_cases h with
      ⟨rfl, free, rfl, rfl⟩ | ⟨rfl, loaded, rfl, rfl⟩ | ⟨rfl, unloaded, rfl, rfl⟩ | ⟨rfl, rfl, rfl⟩ |
      ⟨_, rfl, rfl, rfl⟩ | ⟨_, _, rfl, -, rfl, rfl⟩ | ⟨_, rfl, -, rfl, rfl⟩
  -- who holds `s.mu`
  · exact holder_setThread inv.holder (by rfl) inside (fun u ne => by simp [free, Ne.symm ne])
      (by simp [Thread.holdsMu])
  · exact holder_setThread inv.holder (by rfl) inside (fun _ _ => .rfl)
      (by simpa [Thread.holdsMu] using mine)
  iterate 2
    exact holder_setThread inv.holder (by rfl) inside
      (fun u ne => by simp [mine.mpr (by simp), Ne.symm ne]) (by simp [Thread.holdsMu])
  · exact holder_setThread inv.holder (by rfl) inside (fun _ _ => .rfl)
      (by simpa [Thread.holdsMu] using mine)
  iterate 2
    exact holder_setThread inv.holder (by rfl) inside
      (fun u ne => by simp [mine.mpr (by simp), Ne.symm ne]) (by simp [Thread.holdsMu])
  -- nobody past the model check once it is unloaded
  · exact unloaded_setThread inv.unloaded (by rfl) (by rfl) inside (fun _ => rfl)
  · exact unloaded_setThread inv.unloaded (by rfl) (by rfl) inside (by simp [loaded])
  iterate 2
    exact unloaded_setThread inv.unloaded (by rfl) (by rfl) inside (fun _ => rfl)
  · exact unloaded_setThread inv.unloaded (by rfl) (by rfl) inside
      (fun unloaded => absurd rfl (past unloaded).1)
  iterate 2
    exact unloaded_setThread inv.unloaded (by rfl) (by rfl) inside (fun _ => rfl)

theorem engineInv_step (inv : EngineInv s tr) {a : Act} (h : step s a = some (s', evs)) :
    EngineInv s' (tr ++ evs) := by
  obtain ⟨alive, h | ⟨t, window, pc, c, self, h⟩ | keeps⟩ := step_cases_workers h
  · exact engineInv_close inv h
  · exact engineInv_worker inv alive self h
  · exact engineInv_keeps inv alive keeps

theorem engineInv_run {cfg : Config} (run : Run cfg s tr) : EngineInv s tr := by
  induction run with
  | init => exact engineInv_initial cfg
  | step a _ h inv => exact engineInv_step inv h

end Preservation

namespace Event

@[simp] def lockedWorker : Event → Option Nat
  | .locked w => some w
  | _ => none

@[simp] def sentWorker : Event → Option Nat
  | .resultSent w _ => some w
  | _ => none

@[simp] def flushedWorker : Event → Option Nat
  | .flush w _ => some w
  | _ => none

theorem lockedWorker_sentWorker_of_ofWorker {e : Event} (other : e.ofWorker = false) :
    e.lockedWorker = none ∧ e.sentWorker = none := by
  cases e <;> simp_all [ofWorker, lockedWorker, sentWorker]

end Event

def lockOrder (tr : List Event) : List Nat := tr.filterMap Event.lockedWorker

def sentOrder (tr : List Event) : List Nat := tr.filterMap Event.sentWorker

def flushOrder (tr : List Event) : List Nat := tr.filterMap Event.flushedWorker

@[simp] theorem lockOrder_nil : lockOrder [] = [] := rfl

@[simp] theorem lockOrder_cons (e : Event) (tr : List Event) :
    lockOrder (e :: tr) = e.lockedWorker.toList ++ lockOrder tr := by
  unfold lockOrder
  rw [List.filterMap_cons]
  cases e.lockedWorker <;> rfl

@[simp] theorem lockOrder_append (tr evs : List Event) :
    lockOrder (tr ++ evs) = lockOrder tr ++ lockOrder evs :=
  List.filterMap_append _ _ _

@[simp] theorem sentOrder_nil : sentOrder [] = [] := rfl

@[simp] theorem sentOrder_cons (e : Event) (tr : List Event) :
    sentOrder (e :: tr) = e.sentWorker.toList ++ sentOrder tr := by
  unfold sentOrder
  rw [List.filterMap_cons]
  cases e.sentWorker <;> rfl

@[simp] theorem sentOrder_append (tr evs : List Event) :
    sentOrder (tr ++ evs) = sentOrder tr ++ sentOrder evs :=
  List.filterMap_append _ _ _

@[simp] theorem flushOrder_nil : flushOrder [] = [] := rfl

@[simp] theorem flushOrder_cons (e : Event) (tr : List Event) :
    flushOrder (e :: tr) = e.flushedWorker.toList ++ flushOrder tr := by
  unfold flushOrder
  rw [List.filterMap_cons]
  cases e.flushedWorker <;> rfl

@[simp] theorem flushOrder_append (tr evs : List Event) :
    flushOrder (tr ++ evs) = flushOrder tr ++ flushOrder evs :=
  List.filterMap_append _ _ _

theorem orders_of_ofWorker {evs : List Event} (other : ∀ e ∈ evs, e.ofWorker = false) :
    lockOrder evs = [] ∧ sentOrder evs = [] := by
  simp only [lockOrder, sentOrder, List.filterMap_eq_nil_iff]
  exact ⟨fun e mem => (Event.lockedWorker_sentWorker_of_ofWorker (other e mem)).1,
    fun e mem => (Event.lockedWorker_sentWorker_of_ofWorker (other e mem)).2⟩

structure LockOrder (s : Sys) (tr : List Event) : Prop where
  nodup : (lockOrder tr).Nodup
  locked : ∀ w ∈ lockOrder tr, w < s.threads.length ∧ (s.thread w).isFreshWorker = false
  sent : ∃ before, lockOrder tr = before ++ s.mu.toList ∧ (sentOrder tr).Sublist before

section LockOrder

variable {s s' : Sys} {tr evs : List Event}

theorem locked_of_fresh {order : List Nat} (grows : s.threads.length ≤ s'.threads.length)
    (fresh : FreshOnlyNew s s')
    (locked : ∀ w ∈ order, w < s.threads.length ∧ (s.thread w).isFreshWorker = false) :
    ∀ w ∈ order, w < s'.threads.length ∧ (s'.thread w).isFreshWorker = false := by
  intro w mem
  obtain ⟨inside, notFresh⟩ := locked w mem
  refine ⟨inside.trans_le grows, Bool.eq_false_iff.mpr fun isFresh => ?_⟩
  rcases fresh w isFresh with wasFresh | outside
  · simp [notFresh] at wasFresh
  · omega

theorem lockOrder_initial (cfg : Config) : LockOrder (Sys.initial cfg) [] :=
  ⟨List.nodup_nil, by simp [lockOrder], ⟨[], by simp [lockOrder, Sys.initial, sentOrder]⟩⟩

theorem lockOrder_keeps (order : LockOrder s tr) (mu : s'.mu = s.mu)
    (grows : s.threads.length ≤ s'.threads.length) (fresh : FreshOnlyNew s s')
    (events : ∀ e ∈ evs, e.ofWorker = false) : LockOrder s' (tr ++ evs) := by
  obtain ⟨noLocks, noSends⟩ := orders_of_ofWorker events
  refine ⟨by simpa [noLocks] using order.nodup, by simpa [noLocks] using locked_of_fresh grows fresh order.locked, ?_⟩
  simpa [noLocks, noSends, mu] using order.sent

theorem lockOrder_close (order : LockOrder s tr) (h : s.close = some (s', evs)) :
    LockOrder s' (tr ++ evs) := by
  obtain ⟨-, -, threads, mu, -⟩ := close_footprint h
  refine lockOrder_keeps order mu (by rw [threads]) (fun u fresh => .inl ?_) fun e mem => ?_
  · simpa [thread, threads] using fresh
  · rcases close_events h e mem with rfl | ⟨_, -, rfl | rfl⟩ | ⟨_, rfl⟩ <;> rfl

theorem lockOrder_worker (order : LockOrder s tr) (inv : EngineInv s tr) {t : Nat}
    {window : Samples} {pc : WorkerPc} {c : Choice} (self : s.thread t = .transcribeAudio window pc)
    (h : transcribeAudioStep s t window pc c = some (s', evs)) : LockOrder s' (tr ++ evs) := by
  have inside : t < s.threads.length := lt_of_thread (by simp [self])
  have mine : pc ≠ .lock → s.mu = some t := fun locked =>
    (inv.holder t).mp (by rw [self]; cases pc <;> simp_all [Thread.holdsMu])
  have past : ∀ {s₁ : Sys} {th : Thread}, s₁.threads = s.threads → th.isFreshWorker = false →
      ∀ w ∈ lockOrder tr, w < (s₁.setThread t th).threads.length ∧
        ((s₁.setThread t th).thread w).isFreshWorker = false := fun {s₁} _ same notFresh =>
    locked_of_fresh (by simp [same]) (fun _ fresh => .inl (by
      simpa [thread, same] using fresh_setThread s₁ (same ▸ inside) notFresh fresh)) order.locked
  obtain ⟨before, history, sent⟩ := order.sent
  rcases transcribeAudioStep_cases h with
    ⟨rfl, free, rfl, rfl⟩ | ⟨rfl, -, rfl, rfl⟩ | ⟨rfl, -, rfl, rfl⟩ | ⟨rfl, rfl, rfl⟩ |
      ⟨_, rfl, rfl, rfl⟩ | ⟨_, _, rfl, -, rfl, rfl⟩ | ⟨_, rfl, -, rfl, rfl⟩
  · -- `Lock()`: the worker joins the order, as its holder
    have wasFresh : t ∉ lockOrder tr := fun mem => by
      simpa [self, Thread.isFreshWorker] using (order.locked t mem).2
    simp only [free, Option.toList, List.append_nil] at history
    refine ⟨?_, ?_, ⟨lockOrder tr, by simp, by simpa [history] using sent⟩⟩
    · simpa using List.nodup_append.mpr ⟨order.nodup, List.nodup_singleton t, by simpa using wasFresh⟩
    · simp only [lockOrder_append, lockOrder_cons, Event.lockedWorker, Option.toList, lockOrder_nil,
        List.append_nil, List.mem_append, List.mem_singleton]
      rintro w (old | rfl)
      · exact past (by rfl) (by rfl) w old
      · refine ⟨by simpa using inside, ?_⟩
        simp [thread, List.getElem?_set, inside, Thread.isFreshWorker]
  all_goals
    refine ⟨by simpa using order.nodup, by simpa using past (by rfl) (by rfl), ?_⟩
  -- the deferred `Unlock()` releases `s.mu` after the send, if there is one
  · exact ⟨before, by simpa using history, by simpa using sent⟩
  all_goals simp only [mine (by simp), Option.toList] at history
  · exact ⟨lockOrder tr, by simp, by simpa [history] using sent.trans (List.sublist_append_left _ [t])⟩
  · exact ⟨lockOrder tr, by simp, by simpa [history] using sent.trans (List.sublist_append_left _ [t])⟩
  · exact ⟨before, by simpa [mine (by simp)] using history, by simpa using sent⟩
  · exact ⟨lockOrder tr, by simp, by simpa [history] using sent.append (List.Sublist.refl [t])⟩
  · exact ⟨lockOrder tr, by simp, by simpa [history] using sent.trans (List.sublist_append_left _ [t])⟩

theorem lockOrder_run {cfg : Config} (run : Run cfg s tr) : LockOrder s tr := by
  induction run with
  | init => exact lockOrder_initial cfg
  | step a run h order =>
    obtain ⟨-, h | ⟨t, window, pc, c, self, h⟩ | ⟨mu, -, -, threads, fresh, events⟩⟩ :=
      step_cases_workers h
    · exact lockOrder_close order h
    · exact lockOrder_worker order (engineInv_run run) self h
    · exact lockOrder_keeps order mu threads.grows fresh fun e mem => (events e mem).1

end LockOrder

def EngineEvent (s : Sys) : Event → Prop
  | .transcribeStart _ | .resultSent _ _ => s.model = true
  | .panic (.sendOnClosedChannel .results) => False
  | _ => True

theorem engineEvent_of_ofWorker {s : Sys} {e : Event} (other : e.ofWorker = false) :
    EngineEvent s e := by
  rcases e with _ | _ | _ | _ | _ | _ | _ | _ | _ | _ | _ | _ | _ | _ | ⟨⟨_ | _⟩ | _⟩ <;>
    simp_all [Event.ofWorker, EngineEvent]

theorem engineInv_events {s s' : Sys} {tr evs : List Event} (inv : EngineInv s tr) {a : Act}
    (h : step s a = some (s', evs)) : ∀ e ∈ evs, EngineEvent s e := by
  obtain ⟨-, h | ⟨t, window, pc, c, self, h⟩ | ⟨-, -, -, -, -, events⟩⟩ := step_cases_workers h
  · intro e mem
    apply engineEvent_of_ofWorker
    rcases close_events h e mem with rfl | ⟨_, -, rfl | rfl⟩ | ⟨_, rfl⟩ <;> rfl
  · have past : (s.thread t).pastModelCheck = true → s.model = true := fun past => by
      by_contra unloaded
      simp [inv.unloaded (by simpa using unloaded) t] at past
    rcases transcribeAudioStep_cases h with
      ⟨-, -, -, rfl⟩ | ⟨-, loaded, -, rfl⟩ | ⟨-, -, -, rfl⟩ | ⟨-, -, rfl⟩ | ⟨_, -, -, rfl⟩ |
      ⟨_, _, rfl, -, -, rfl⟩ | ⟨_, rfl, closed, -, rfl⟩
    all_goals simp only [List.mem_singleton, List.not_mem_nil, forall_eq, false_implies, implies_true,
      EngineEvent]
    · exact loaded
    · exact past (by simp [self, Thread.pastModelCheck])
    · simpa [inv.closedUnloaded closed] using past (by simp [self, Thread.pastModelCheck])
  · exact fun e mem => engineEvent_of_ofWorker (events e mem).1

theorem transcribe_serialized_until_close {cfg : Config} {s : Sys} {tr : List Event}
    (run : Run cfg s tr) :
    (∀ u v, (s.thread u).inEngine = true → (s.thread v).inEngine = true → u = v) ∧
      ∀ a s' evs, step s a = some (s', evs) →
        Event.panic (.sendOnClosedChannel .results) ∉ evs ∧
        (Event.close ∈ tr → ∀ w r, Event.transcribeStart w ∉ evs ∧ Event.resultSent w r ∉ evs) ∧
        (a = .close → ∀ u, (s.thread u).holdsMu = false) := by
  have inv := engineInv_run run
  refine ⟨fun u v inU inV => ?_, fun a s' evs h => ⟨fun sent => ?_, fun closeIn w r => ?_, ?_⟩⟩
  · have holds := fun x (inX : (s.thread x).inEngine = true) =>
      (inv.holder x).mp (Thread.holdsMu_of_pastModelCheck (Thread.pastModelCheck_of_inEngine inX))
    exact Option.some.inj ((holds u inU).symm.trans (holds v inV))
  · exact engineInv_events inv h _ sent
  · have loadedOf := fun e mem => engineInv_events inv h e mem
    have unloaded : s.model = false := by
      rcases inv.closeUnloads closeIn with unloaded | crashed
      · exact unloaded
      · simp [(step_cases h).1] at crashed
    exact ⟨fun mem => by simpa [EngineEvent, unloaded] using loadedOf _ mem,
      fun mem => by simpa [EngineEvent, unloaded] using loadedOf _ mem⟩
  · rintro rfl u
    obtain ⟨free, -⟩ := close_footprint (by simpa [step, (step_cases h).1] using h)
    simpa [free] using inv.holder u

theorem transcribe_serialized_while_transcribing :
    ∃ s tr, Run shortWindows s tr ∧ (s.thread 3).inEngine = true ∧
      ((∀ u v, (s.thread u).inEngine = true → (s.thread v).inEngine = true → u = v) ∧
        ∀ a s' evs, step s a = some (s', evs) →
          Event.panic (.sendOnClosedChannel .results) ∉ evs ∧
          (Event.close ∈ tr → ∀ w r, Event.transcribeStart w ∉ evs ∧ Event.resultSent w r ∉ evs) ∧
          (a = .close → ∀ u, (s.thread u).holdsMu = false)) := by
  obtain ⟨s, tr, run, checked⟩ := exists_run_of_runActs shortWindows
    [.initializeService, .transcribeHandler "POST" (some [1, 2, 3]), .run 2 .go, .run 2 .go,
      .run 0 .receive, .run 3 .go, .run 3 .go]
    (fun s _ => (s.thread 3).inEngine) (by decide)
  exact ⟨s, tr, run, checked, transcribe_serialized_until_close run⟩

end Alfred.Whisper
