import Mathlib.Data.List.Nodup
import Alfred.Whisper.Lifecycle

set_option autoImplicit false

namespace Alfred.Whisper

open Sys

namespace Thread

def round : Thread → Option (Round × List Nat)
  | .broadcastResults _ (.iterate r) => some (r, [])
  | .broadcastResults _ (.write r conn) => some (r, [conn])
  | _ => none

def handles : Thread → Option Nat
  | .handleWebSocket conn _ => some conn
  | _ => none

end Thread

namespace Event

def touchesRegistry : Event → Bool
  | .writeStart _ (.result _) | .resultReceived true _ _ | .connClosed _ | .deregistered _ => true
  | _ => false

def resultWrite : Event → Option (Nat × TranscriptionResult)
  | .writeStart conn (.result r) => some (conn, r)
  | _ => none

theorem touchesRegistry_eq_false {e : Event} (other : e.ofProcessAudio ∨ e.ofWorker ∨ e.ofRequest) :
    e.touchesRegistry = false := by
  rcases e with _ | _ | _ | _ | _ | _ | _ | _ | _ | ⟨_ | _⟩ <;>
    simp_all [ofProcessAudio, ofWorker, ofRequest, touchesRegistry]

theorem resultWrite_eq_none {e : Event} (quiet : e.touchesRegistry = false) : e.resultWrite = none := by
  rcases e with _ | _ | _ | _ | _ | _ | _ | _ | _ | _ | ⟨_, _ | _⟩ <;> simp_all [touchesRegistry, resultWrite]

end Event

def resultWrites (tr : List Event) : List (Nat × TranscriptionResult) := tr.filterMap Event.resultWrite

@[simp] theorem resultWrites_append (tr evs : List Event) :
    resultWrites (tr ++ evs) = resultWrites tr ++ resultWrites evs := List.filterMap_append _ _ _

@[simp] theorem resultWrites_nil : resultWrites [] = [] := rfl

@[simp] theorem resultWrites_cons (e : Event) (tr : List Event) :
    resultWrites (e :: tr) = e.resultWrite.toList ++ resultWrites tr := by
  unfold resultWrites
  rw [List.filterMap_cons]
  cases e.resultWrite <;> rfl

theorem resultWrites_quiet {evs : List Event} (quiet : ∀ e ∈ evs, e.touchesRegistry = false) :
    resultWrites evs = [] :=
  List.filterMap_eq_nil_iff.mpr fun e mem => Event.resultWrite_eq_none (quiet e mem)

variable {s s' : Sys} {evs : List Event}

def KeepsRegistry (s s' : Sys) (evs : List Event) : Prop :=
  s'.connections = s.connections ∧ s'.sockets = s.sockets ∧ s'.readers = s.readers ∧
    (∀ u, (s'.thread u).round = (s.thread u).round ∧
      ((s'.thread u).handles = (s.thread u).handles ∨ (s'.thread u).handles = none)) ∧
    ∀ e ∈ evs, e.touchesRegistry = false

theorem keepsRegistry_of_sameExcept {Q : Thread → Prop}
    (shape : s'.connections = s.connections ∧ s'.sockets = s.sockets ∧ s'.readers = s.readers)
    (threads : SameExcept Q s s') (notRegistry : ∀ th, Q th → th.round = none ∧ th.handles = none)
    (events : ∀ e ∈ evs, e.touchesRegistry = false) : KeepsRegistry s s' evs := by
  refine ⟨shape.1, shape.2.1, shape.2.2, fun u => ?_, events⟩
  rcases threads.thread u with same | ⟨old, new⟩
  · rw [same]; exact ⟨rfl, .inl rfl⟩
  · rw [(notRegistry _ old).1, (notRegistry _ new).1, (notRegistry _ new).2]
    exact ⟨rfl, .inr rfl⟩

theorem keepsRegistry_of_start (h : s.initializeService = some (s', evs)) : KeepsRegistry s s' evs := by
  rcases initializeService_cases h with ⟨-, rfl, rfl⟩ | ⟨-, rfl, rfl⟩
  · exact ⟨rfl, rfl, rfl, fun _ => ⟨rfl, .inl rfl⟩, by simp [Event.touchesRegistry]⟩
  · refine ⟨rfl, rfl, rfl, fun u => ?_, by simp [Event.touchesRegistry]⟩
    simp only [thread_spawn, spawn_threads, List.length_append, List.length_singleton]
    split_ifs with last new
    · simp [thread_of_length_le s (show s.threads.length ≤ u by omega), Thread.round, Thread.handles]
    · simp [thread_of_length_le s (show s.threads.length ≤ u by omega), Thread.round, Thread.handles]
    · exact ⟨rfl, .inl rfl⟩

theorem keepsRegistry_refl : KeepsRegistry s s [] :=
  ⟨rfl, rfl, rfl, fun _ => ⟨rfl, .inl rfl⟩, by simp⟩

theorem handleWebSocketStep_registry {t conn : Nat} {pc : HandlerPc} {c : Choice}
    (self : s.thread t = .handleWebSocket conn pc) (h : handleWebSocketStep s t conn pc c = some (s', evs)) :
    s.readers = 0 ∧ s' = ((s.deregister conn).closeSocket conn).setThread t .exited ∧
        evs = s.deregisterEvents conn ++ [.connClosed conn] ∨
      KeepsRegistry s s' evs := by
  have inside : t < s.threads.length := lt_of_thread (by simp [self])
  have keep : ∀ (s₁ : Sys) (th : Thread),
      s₁.connections = s.connections ∧ s₁.sockets = s.sockets ∧ s₁.readers = s.readers →
      s₁.threads = s.threads → th.round = none → th.handles = some conn ∨ th.handles = none →
      (∀ e ∈ evs, e.touchesRegistry = false) → KeepsRegistry s (s₁.setThread t th) evs := by
    intro s₁ th shape same round handles quiet
    refine ⟨shape.1, shape.2.1, shape.2.2, fun u => ?_, quiet⟩
    rw [thread_setThread s₁ th (same ▸ inside)]
    split
    · next here => subst here; rw [self]; exact ⟨round, handles⟩
    · rw [show s₁.thread u = s.thread u by simp only [thread, same]]; exact ⟨rfl, .inl rfl⟩
  unfold handleWebSocketStep at h
  split at h
  · cases h
    exact .inr (keep s _ ⟨rfl, rfl, rfl⟩ rfl rfl (by simp [Thread.handles]) (by simp [Event.touchesRegistry]))
  · cases h
    exact .inr (keep s _ ⟨rfl, rfl, rfl⟩ rfl rfl (by simp [Thread.handles]) (by simp [Event.touchesRegistry]))
  · split at h <;> cases h
    exact .inr (keep _ _ ⟨rfl, rfl, rfl⟩ rfl rfl (by simp [Thread.handles]) (by simp [Event.touchesRegistry]))
  · cases h
    exact .inr (keep s _ ⟨rfl, rfl, rfl⟩ rfl rfl (by simp [Thread.handles]) (by simp))
  · split at h <;> cases h
    exact .inr keepsRegistry_refl
  · split at h <;> cases h
    exact .inr (keep s _ ⟨rfl, rfl, rfl⟩ rfl rfl (by simp [Thread.handles]) (by simp))
  · split at h <;> cases h
    · exact .inr (keep s _ ⟨rfl, rfl, rfl⟩ rfl rfl (by simp [Thread.handles]) (by simp))
    · exact .inr (keep _ _ ⟨rfl, rfl, rfl⟩ rfl rfl (by simp [Thread.handles]) (by simp [Event.touchesRegistry]))
    · exact .inr (keep _ _ ⟨rfl, rfl, rfl⟩ rfl rfl (by simp [Thread.handles]) (by simp [Event.touchesRegistry]))
  · split at h <;> cases h
    exact .inl ⟨by assumption, rfl, rfl⟩
  · cases h

theorem step_cases_registry {a : Act} (h : step s a = some (s', evs)) :
    s.close = some (s', evs) ∨ s.addWebSocket = some (s', evs) ∨
      (∃ t ctx pc c, s.thread t = .broadcastResults ctx pc ∧
        broadcastResultsStep s t ctx pc c = some (s', evs)) ∨
      (∃ t conn pc, s.thread t = .handleWebSocket conn pc ∧ s.readers = 0 ∧
        s' = ((s.deregister conn).closeSocket conn).setThread t .exited ∧
        evs = s.deregisterEvents conn ++ [.connClosed conn]) ∨
      KeepsRegistry s s' evs := by
  obtain ⟨-, h | h | h | h | h | h | h | h | h⟩ := step_cases h
  · exact .inr (.inr (.inr (.inr (keepsRegistry_of_start h.2))))
  · exact .inl h.2
  · exact .inr (.inl h.2)
  · obtain ⟨method, body, -, h⟩ := h
    obtain ⟨shape, threads, rfl⟩ := transcribeHandler_footprint h
    refine .inr (.inr (.inr (.inr (keepsRegistry_of_sameExcept (by rw [shape]; simp) threads
      (fun th kind => ?_) (by simp)))))
    rcases kind with rfl | kind
    · exact ⟨rfl, rfl⟩
    · cases th <;> simp [Thread.isRequest, Thread.round, Thread.handles] at kind ⊢
  · obtain ⟨t, ctx, audioBuffer, c, self, h⟩ := h
    obtain ⟨shape, -, -, threads, -, -, events⟩ := processAudioStepAt_footprint self h
    refine .inr (.inr (.inr (.inr (keepsRegistry_of_sameExcept (by rw [shape]; simp) threads
      (fun th kind => ?_) fun e mem => Event.touchesRegistry_eq_false (.inl (events e mem))))))
    rcases kind with kind | kind | rfl
    · cases th <;> simp [Thread.isProcessAudio, Thread.round, Thread.handles] at kind ⊢
    · cases th <;> simp [Thread.isFreshWorker, Thread.round, Thread.handles] at kind ⊢
    · exact ⟨rfl, rfl⟩
  · obtain ⟨t, window, pc, c, self, h⟩ := h
    obtain ⟨shape, -, threads, events⟩ := transcribeAudioStep_footprint self h
    refine .inr (.inr (.inr (.inr (keepsRegistry_of_sameExcept (by rw [shape]; simp) threads
      (fun th kind => ?_) fun e mem => Event.touchesRegistry_eq_false (.inr (.inl (events e mem)))))))
    rcases kind with kind | rfl
    · cases th <;> simp [Thread.isWorker, Thread.round, Thread.handles] at kind ⊢
    · exact ⟨rfl, rfl⟩
  · exact .inr (.inr (.inl h))
  · obtain ⟨t, conn, pc, c, self, h⟩ := h
    rcases handleWebSocketStep_registry self h with ⟨free, rfl, rfl⟩ | keeps
    · exact .inr (.inr (.inr (.inl ⟨t, conn, pc, self, free, rfl, rfl⟩)))
    · exact .inr (.inr (.inr (.inr keeps)))
  · obtain ⟨t, pc, c, self, h⟩ := h
    obtain ⟨shape, -, -, -, threads, -, events⟩ := transcribeHandlerStep_footprint self h
    refine .inr (.inr (.inr (.inr (keepsRegistry_of_sameExcept (by rw [shape]; simp) threads
      (fun th kind => ?_) fun e mem => Event.touchesRegistry_eq_false (.inr (.inr (events e mem)))))))
    cases th <;> simp [Thread.isRequest, Thread.round, Thread.handles] at kind ⊢

theorem round_of_other (life : LifecycleInv s) (oneStart : s.contexts.length ≤ 1) {t ctx : Nat}
    {pc : BroadcasterPc} (self : s.thread t = .broadcastResults ctx pc) {u : Nat} (other : u ≠ t) :
    (s.thread u).round = none := by
  cases atU : s.thread u with
  | broadcastResults ctx' pc' =>
    have loopU : (s.thread u).loop = some (.broadcastResults, ctx') := by simp [atU, Thread.loop]
    have loopT : (s.thread t).loop = some (.broadcastResults, ctx) := by simp [self, Thread.loop]
    exact absurd (life.loop_unique oneStart loopU loopT) other
  | _ => rfl

theorem foldl_erase_self (l : List Nat) : l.foldl List.erase l = [] := by
  induction l with
  | nil => rfl
  | cons a l ih => simp [ih]

theorem closeConnections_sockets_length (s : Sys) (conns : List Nat) :
    (s.closeConnections conns).1.sockets.length = s.sockets.length := by
  induction conns generalizing s with
  | nil => rfl
  | cons conn rest ih => simp [closeConnections, ih]

theorem close_registry (h : s.close = some (s', evs)) :
    s'.connections = [] ∧ s'.sockets.length = s.sockets.length := by
  unfold close at h
  split at h
  · cases h
  · obtain ⟨rfl, rfl⟩ := Prod.ext_iff.mp (Option.some.inj h).symm
    rw [closeChannels_fst]
    simp [foldl_erase_self, closeConnections_sockets_length]

-- each connection the round deletes, it deletes right after its failed write and `conn.Close()`
def FailedWrites (during : List Event) (failed : List Nat) : Prop :=
  ∀ c, (Event.deregistered c ∈ during ↔ c ∈ failed) ∧
    (Event.deregistered c ∈ during → [.writeEnd c false, .connClosed c, .deregistered c] <:+: during)

theorem FailedWrites.extend {during : List Event} {failed : List Nat} (inv : FailedWrites during failed)
    {c : Nat} (quiet : Event.deregistered c ∉ evs) :
    (Event.deregistered c ∈ during ++ evs ↔ c ∈ failed) ∧ (Event.deregistered c ∈ during ++ evs →
      [.writeEnd c false, .connClosed c, .deregistered c] <:+: during ++ evs) := by
  rw [List.mem_append, or_iff_left quiet]
  exact ⟨(inv c).1, fun mem => ((inv c).2 mem).trans (List.prefix_append during evs).isInfix⟩

theorem FailedWrites.append {during : List Event} {failed : List Nat} (inv : FailedWrites during failed)
    (quiet : ∀ c, Event.deregistered c ∉ evs) : FailedWrites (during ++ evs) failed := fun _ =>
  inv.extend (quiet _)

theorem FailedWrites.fail {during : List Event} {failed : List Nat} (inv : FailedWrites during failed)
    (conn : Nat) :
    FailedWrites (during ++ [.writeEnd conn false, .connClosed conn, .deregistered conn]) (failed ++ [conn]) :=
  fun c => by
    by_cases same : c = conn
    · subst same
      exact ⟨by simp, fun _ => (List.suffix_append during _).isInfix⟩
    · have kept : c ∈ failed ++ [conn] ↔ c ∈ failed := by simp [same]
      rw [kept]
      exact inv.extend (by simp [same])

structure RoundInv (s : Sys) (tr : List Event) (r : Round) (current : List Nat) : Prop where
  nodup : r.start.Nodup
  visited : (r.written ++ current ++ r.pending).Perm r.start
  registry : ∀ c, c ∈ s.connections ↔ c ∈ r.start ∧ c ∉ r.failed
  unvisited : ∀ c ∈ current ++ r.pending, c ∈ s.connections
  writes : ∃ before w during, tr = before ++ .resultReceived true w r.result :: during ∧
    (∀ w' r', Event.resultReceived true w' r' ∉ during) ∧
    resultWrites during = (r.written ++ current).map (·, r.result) ∧ FailedWrites during r.failed

structure RegistryInv (s : Sys) (tr : List Event) : Prop where
  nodup : s.connections.Nodup
  registered : ∀ c ∈ s.connections, c < s.sockets.length
  handlerConn : ∀ u c, (s.thread u).handles = some c → c < s.sockets.length
  handlerOnce : ∀ u v c, (s.thread u).handles = some c → (s.thread v).handles = some c → u = v
  idle : (∀ u, (s.thread u).round = none) → s.readers = 0
  busy : ∀ u r current, (s.thread u).round = some (r, current) → s.readers = 1 ∧ RoundInv s tr r current
  gone : ∀ c, Event.deregistered c ∈ tr → c ∉ s.connections
  fresh : ∀ c, s.sockets.length ≤ c → Event.deregistered c ∉ tr ∧ Event.connClosed c ∉ tr

section Preservation

variable {tr : List Event}

theorem mem_of_quiet {e : Event} (quiet : ∀ e ∈ evs, e.touchesRegistry = false)
    (touches : e.touchesRegistry = true) (mem : e ∈ tr ++ evs) : e ∈ tr :=
  (List.mem_append.mp mem).resolve_right fun new => by simp [quiet e new] at touches

theorem RoundInv.of_connections {r : Round} {current : List Nat} (inv : RoundInv s tr r current)
    (conns : s'.connections = s.connections) : RoundInv s' tr r current :=
  ⟨inv.nodup, inv.visited, fun c => conns ▸ inv.registry c, fun c mem => conns ▸ inv.unvisited c mem,
    inv.writes⟩

theorem RoundInv.extend {r : Round} {current : List Nat} (inv : RoundInv s tr r current)
    (conns : s'.connections = s.connections) (quiet : ∀ e ∈ evs, e.touchesRegistry = false) :
    RoundInv s' (tr ++ evs) r current := by
  obtain ⟨before, w, during, rfl, noReceive, writes, failures⟩ := inv.writes
  refine ⟨inv.nodup, inv.visited, fun c => conns ▸ inv.registry c, fun c mem => conns ▸ inv.unvisited c mem,
    before, w, during ++ evs, by simp, fun w' r' mem => ?_, by simp [writes, resultWrites_quiet quiet],
    failures.append fun c mem => by simpa [Event.touchesRegistry] using quiet _ mem⟩
  rcases List.mem_append.mp mem with old | new
  · exact noReceive w' r' old
  · simpa [Event.touchesRegistry] using quiet _ new

theorem RegistryInv.no_round (inv : RegistryInv s tr) (free : s.readers = 0) (u : Nat) :
    (s.thread u).round = none := by
  cases now : (s.thread u).round with
  | none => rfl
  | some rc => simpa [free] using (inv.busy u rc.1 rc.2 now).1

theorem registryInv_initial (cfg : Config) : RegistryInv (Sys.initial cfg) [] where
  nodup := List.nodup_nil
  registered := by simp [Sys.initial]
  handlerConn := by simp [Sys.initial, thread, Thread.handles]
  handlerOnce := by simp [Sys.initial, thread, Thread.handles]
  idle _ := rfl
  busy := by simp [Sys.initial, thread, Thread.round]
  gone := by simp
  fresh := by simp

theorem registryInv_keeps (inv : RegistryInv s tr) (keeps : KeepsRegistry s s' evs) :
    RegistryInv s' (tr ++ evs) := by
  obtain ⟨conns, sockets, readers, threads, quiet⟩ := keeps
  have handles : ∀ u c, (s'.thread u).handles = some c → (s.thread u).handles = some c :=
    fun u c now => (threads u).2.elim (fun same => same ▸ now) fun ended => by simp [ended] at now
  refine ⟨conns ▸ inv.nodup, fun c mem => sockets ▸ inv.registered c (conns ▸ mem),
    fun u c now => sockets ▸ inv.handlerConn u c (handles u c now),
    fun u v c nowU nowV => inv.handlerOnce u v c (handles u c nowU) (handles v c nowV),
    fun idle => readers ▸ inv.idle fun u => (threads u).1 ▸ idle u, fun u r current now => ?_,
    fun c mem => conns ▸ inv.gone c (mem_of_quiet quiet rfl mem), fun c outside => ?_⟩
  · obtain ⟨one, round⟩ := inv.busy u r current ((threads u).1 ▸ now)
    exact ⟨readers ▸ one, round.extend conns quiet⟩
  · obtain ⟨notGone, notClosed⟩ := inv.fresh c (sockets ▸ outside)
    exact ⟨fun mem => notGone (mem_of_quiet quiet rfl mem), fun mem => notClosed (mem_of_quiet quiet rfl mem)⟩

theorem registryInv_add (inv : RegistryInv s tr) (h : s.addWebSocket = some (s', evs)) :
    RegistryInv s' (tr ++ evs) := by
  unfold addWebSocket at h
  split at h
  · cases h
  · next busy =>
    cases h
    have free : s.readers = 0 := by simpa using busy
    have newConn : s.sockets.length ∉ s.connections := fun mem => by
      have := inv.registered _ mem; omega
    have after : ∀ u, (({ s with sockets := s.sockets ++ [false], connections := s.connections ++ [s.sockets.length] }.spawn
        (.handleWebSocket s.sockets.length .sendConfig)).thread u) =
        if u = s.threads.length then .handleWebSocket s.sockets.length .sendConfig else s.thread u :=
      fun u => thread_spawn _ _ u
    refine ⟨?_, fun c mem => ?_, fun u c now => ?_, fun u v c nowU nowV => ?_, fun _ => free,
      fun u r current now => ?_, fun c mem => ?_, fun c outside => ?_⟩
    · simpa [List.nodup_append, inv.nodup] using newConn
    · simp only [spawn_sockets, List.length_append, List.length_singleton, spawn_connections, List.mem_append,
        List.mem_singleton] at mem ⊢
      rcases mem with old | rfl
      · have := inv.registered c old; omega
      · omega
    · simp only [after, spawn_sockets, List.length_append, List.length_singleton] at now ⊢
      split at now
      · simp only [Thread.handles, Option.some.injEq] at now; omega
      · have := inv.handlerConn u c now; omega
    · simp only [after] at nowU nowV
      split at nowU <;> split at nowV
      · simp_all
      · simp only [Thread.handles, Option.some.injEq] at nowU
        have := inv.handlerConn v c nowV; omega
      · simp only [Thread.handles, Option.some.injEq] at nowV
        have := inv.handlerConn u c nowU; omega
      · exact inv.handlerOnce u v c nowU nowV
    · simp only [after] at now
      split at now
      · simp [Thread.round] at now
      · simp [inv.no_round free u] at now
    · have old := inv.gone c (mem_of_quiet (by simp [Event.touchesRegistry]) rfl mem)
      have other : c ≠ s.sockets.length := by
        rintro rfl; exact (inv.fresh _ le_rfl).1 (mem_of_quiet (by simp [Event.touchesRegistry]) rfl mem)
      simp [old, other]
    · simp only [spawn_sockets, List.length_append, List.length_singleton] at outside
      obtain ⟨notGone, notClosed⟩ := inv.fresh c (by omega)
      simp [notGone, notClosed]

theorem registryInv_close (inv : RegistryInv s tr) (h : s.close = some (s', evs)) :
    RegistryInv s' (tr ++ evs) := by
  obtain ⟨-, free, threads, -, readers, -, -⟩ := close_footprint h
  obtain ⟨conns, sockets⟩ := close_registry h
  have events := close_events h
  have same : ∀ u, s'.thread u = s.thread u := fun u => by simp only [thread, threads]
  refine ⟨by simp [conns], by simp [conns], fun u c now => sockets ▸ inv.handlerConn u c (same u ▸ now),
    fun u v c nowU nowV => inv.handlerOnce u v c (same u ▸ nowU) (same v ▸ nowV),
    fun _ => readers ▸ free, fun u r current now => ?_, by simp [conns], fun c outside => ?_⟩
  · simp [same u, inv.no_round free u] at now
  · obtain ⟨notGone, notClosed⟩ := inv.fresh c (sockets ▸ outside)
    have touched : ∀ e ∈ evs, e = .deregistered c ∨ e = .connClosed c → False := by
      intro e mem closes
      rcases events e mem with rfl | ⟨conn, member, removed⟩ | ⟨ch, rfl⟩
      · simp at closes
      · have := inv.registered conn member
        rcases closes with rfl | rfl <;> rcases removed with removed | removed <;>
          simp only [Event.deregistered.injEq, Event.connClosed.injEq, reduceCtorEq] at removed <;>
          omega
      · simp at closes
    simp only [List.mem_append, not_or]
    exact ⟨⟨notGone, fun mem => touched _ mem (.inl rfl)⟩, notClosed, fun mem => touched _ mem (.inr rfl)⟩

theorem registryInv_teardown (inv : RegistryInv s tr) {t conn : Nat} {pc : HandlerPc}
    (self : s.thread t = .handleWebSocket conn pc) (free : s.readers = 0) :
    RegistryInv (((s.deregister conn).closeSocket conn).setThread t .exited)
      (tr ++ (s.deregisterEvents conn ++ [.connClosed conn])) := by
  have inside : t < s.threads.length := lt_of_thread (by simp [self])
  have after : ∀ u, (((s.deregister conn).closeSocket conn).setThread t .exited).thread u =
      if u = t then .exited else s.thread u := fun u => thread_setThread _ _ inside u
  have own := inv.handlerConn t conn (by simp [self, Thread.handles])
  have events : ∀ c, Event.deregistered c ∈ s.deregisterEvents conn ++ [.connClosed conn] ∨
      Event.connClosed c ∈ s.deregisterEvents conn ++ [.connClosed conn] → c = conn := by
    intro c mem
    unfold deregisterEvents at mem
    split at mem <;> simp at mem <;> exact mem
  refine ⟨inv.nodup.erase conn, fun c mem => ?_, fun u c now => ?_, fun u v c nowU nowV => ?_,
    fun _ => free, fun u r current now => ?_, fun c mem => ?_, fun c outside => ?_⟩
  · simpa using inv.registered c (List.mem_of_mem_erase mem)
  · simp only [after] at now
    split at now
    · simp [Thread.handles] at now
    · simpa using inv.handlerConn u c now
  · simp only [after] at nowU nowV
    split at nowU
    · simp [Thread.handles] at nowU
    · split at nowV
      · simp [Thread.handles] at nowV
      · exact inv.handlerOnce u v c nowU nowV
  · simp only [after] at now
    split at now
    · simp [Thread.round] at now
    · simp [inv.no_round free u] at now
  · simp only [setThread_connections, closeSocket_connections, deregister_connections]
    rcases List.mem_append.mp mem with old | new
    · exact fun now => inv.gone c old (List.mem_of_mem_erase now)
    · rw [events c (.inl new), inv.nodup.mem_erase_iff]; simp
  · simp only [setThread_sockets, closeSocket_sockets, deregister_sockets, List.length_set] at outside
    obtain ⟨notGone, notClosed⟩ := inv.fresh c outside
    have other : c ≠ conn := by omega
    refine ⟨fun mem => ?_, fun mem => ?_⟩ <;> rcases List.mem_append.mp mem with old | new
    · exact notGone old
    · exact other (events c (.inl new))
    · exact notClosed old
    · exact other (events c (.inr new))

theorem registryInv_setBroadcaster (inv : RegistryInv s tr) (life : LifecycleInv s)
    (oneStart : s.contexts.length ≤ 1) {t ctx : Nat} {pc : BroadcasterPc}
    (self : s.thread t = .broadcastResults ctx pc) {s₁ : Sys} (same : s₁.threads = s.threads)
    {th : Thread} (notHandler : th.handles = none) (sockets : s₁.sockets.length = s.sockets.length)
    (nodup : s₁.connections.Nodup) (shrinks : ∀ c ∈ s₁.connections, c ∈ s.connections)
    (idle : th.round = none → s₁.readers = 0)
    (busy : ∀ r current, th.round = some (r, current) →
      s₁.readers = 1 ∧ RoundInv s₁ (tr ++ evs) r current)
    (removed : ∀ c, Event.deregistered c ∈ evs → c ∉ s₁.connections)
    (touched : ∀ c, Event.deregistered c ∈ evs ∨ Event.connClosed c ∈ evs → c ∈ s.connections) :
    RegistryInv (s₁.setThread t th) (tr ++ evs) := by
  have inside : t < s.threads.length := lt_of_thread (by simp [self])
  have after : ∀ u, (s₁.setThread t th).thread u = if u = t then th else s.thread u := fun u => by
    rw [thread_setThread s₁ th (same ▸ inside)]; simp only [thread, same]
  refine ⟨nodup, fun c mem => sockets ▸ inv.registered c (shrinks c mem), fun u c now => ?_,
    fun u v c nowU nowV => ?_, fun none => idle (by simpa [after] using none t),
    fun u r current now => ?_, fun c mem => ?_, fun c outside => ?_⟩
  · simp only [after] at now
    split at now
    · simp [notHandler] at now
    · exact sockets ▸ inv.handlerConn u c now
  · simp only [after] at nowU nowV
    split at nowU
    · simp [notHandler] at nowU
    · split at nowV
      · simp [notHandler] at nowV
      · exact inv.handlerOnce u v c nowU nowV
  · simp only [after] at now
    split at now
    · exact ⟨(busy r current now).1, (busy r current now).2.of_connections rfl⟩
    · next other => simp [round_of_other life oneStart self other] at now
  · rcases List.mem_append.mp mem with old | new
    · exact fun now => inv.gone c old (shrinks c now)
    · exact removed c new
  · have outside : s.sockets.length ≤ c := by simpa [sockets] using outside
    obtain ⟨notGone, notClosed⟩ := inv.fresh c outside
    have unregistered : ¬ c < s.sockets.length := by omega
    refine ⟨fun mem => ?_, fun mem => ?_⟩ <;> rcases List.mem_append.mp mem with old | new
    · exact notGone old
    · exact unregistered (inv.registered c (touched c (.inl new)))
    · exact notClosed old
    · exact unregistered (inv.registered c (touched c (.inr new)))

theorem pending_perm {l : List Nat} {i conn : Nat} (entry : l[i]? = some conn) :
    l.Perm (conn :: l.eraseIdx i) := by
  obtain ⟨inside, rfl⟩ := List.getElem?_eq_some_iff.mp entry
  exact (List.perm_cons_erase (List.getElem_mem inside)).trans (.cons _ (List.erase_getElem inside))

theorem registryInv_broadcaster (inv : RegistryInv s tr) (life : LifecycleInv s)
    (oneStart : s.contexts.length ≤ 1) {t ctx : Nat} {pc : BroadcasterPc} {c : Choice}
    (self : s.thread t = .broadcastResults ctx pc)
    (h : broadcastResultsStep s t ctx pc c = some (s', evs)) : RegistryInv s' (tr ++ evs) := by
  have selecting : pc = .select → s.readers = 0 := fun isSelect => inv.idle fun u => by
    by_cases here : u = t
    · subst here; simp [self, isSelect, Thread.round]
    · exact round_of_other life oneStart self here
  unfold broadcastResultsStep at h
  split at h
  · split at h <;> cases h
    exact registryInv_setBroadcaster inv life oneStart self (by rfl) (by rfl) (by rfl) inv.nodup (fun _ => id)
      (fun _ => selecting rfl) (by simp [Thread.round]) (by simp) (by simp)
  · split at h
    · cases h
      refine registryInv_setBroadcaster inv life oneStart self (by rfl) (by rfl) (by rfl) inv.nodup (fun _ => id)
        (by simp [Thread.round]) ?_ (by simp) (by simp)
      rintro _ _ ⟨⟩
      exact ⟨by simp [selecting rfl], ⟨inv.nodup, by simp, by simp, by simp, tr, _, [], rfl, by simp, rfl, by simp [FailedWrites]⟩⟩
    · cases h
  · next r i =>
    obtain ⟨one, round⟩ := inv.busy t r [] (by simp [self, Thread.round])
    split at h
    · next conn entry =>
      split at h <;> cases h
      · next registered =>
        refine registryInv_setBroadcaster inv life oneStart self (by rfl) (by rfl) (by rfl) inv.nodup (fun _ => id)
          (by simp [Thread.round]) ?_ (by simp) (by simp)
        rintro _ _ ⟨⟩
        obtain ⟨before, w, during, rfl, noReceive, writes, failures⟩ := round.writes
        refine ⟨one, round.nodup, ?_, round.registry, ?_, before, w,
          during ++ [.writeStart conn (.result r.result)], by simp, ?_, ?_, failures.append (by simp)⟩
        · have visited : (r.written ++ r.pending).Perm r.start := by simpa using round.visited
          simpa using ((pending_perm entry).symm.append_left r.written).trans visited
        · simpa [registered] using fun c mem => round.unvisited c (by simpa using List.mem_of_mem_eraseIdx mem)
        · simpa using noReceive
        · simp [writes, Event.resultWrite]
      · next absent =>
        exact absurd (round.unvisited conn (by simpa using List.getElem?_mem entry)) absent
    · cases h
  · next r =>
    obtain ⟨one, -⟩ := inv.busy t r [] (by simp [self, Thread.round])
    split at h <;> cases h
    exact registryInv_setBroadcaster inv life oneStart self (by rfl) (by rfl) (by rfl) inv.nodup (fun _ => id)
      (fun _ => by simp [one]) (by simp [Thread.round]) (by simp) (by simp)
  · next r conn ok =>
    obtain ⟨one, round⟩ := inv.busy t r [conn] (by simp [self, Thread.round])
    obtain ⟨before, w, during, rfl, noReceive, writes, failures⟩ := round.writes
    have current : conn ∈ s.connections := round.unvisited conn (by simp)
    have notPending : conn ∉ r.pending := fun mem =>
      (List.nodup_append.mp (round.nodup.perm round.visited.symm)).2.2 (by simp) mem
    split at h <;> cases h
    · refine registryInv_setBroadcaster inv life oneStart self (by rfl) (by rfl) (by rfl) inv.nodup (fun _ => id)
        (by simp [Thread.round]) ?_ (by simp) (by simp)
      rintro _ _ ⟨⟩
      exact ⟨one, round.nodup, by simpa using round.visited, round.registry,
        fun c mem => round.unvisited c (List.mem_append_right _ (by simpa using mem)), before, w, during ++ [.writeEnd conn true], by simp,
        by simpa using noReceive, by simp [writes, Event.resultWrite], failures.append (by simp)⟩
    · have removed : ∀ c, Event.deregistered c ∈ .writeEnd conn false :: .connClosed conn ::
          s.deregisterEvents conn ∨ Event.connClosed c ∈ .writeEnd conn false :: .connClosed conn ::
          s.deregisterEvents conn → c = conn := by
        intro c mem
        simpa [deregisterEvents, current] using mem
      refine registryInv_setBroadcaster inv life oneStart self (by rfl) (by rfl) (by simp)
        (inv.nodup.erase conn) (fun c mem => List.mem_of_mem_erase mem) (by simp [Thread.round])
        ?_ (fun c mem => ?_) (fun c mem => removed c mem ▸ current)
      · rintro _ _ ⟨⟩
        refine ⟨one, round.nodup, by simpa using round.visited, fun c => ?_, fun c mem => ?_,
          before, w, during ++ (.writeEnd conn false :: .connClosed conn :: s.deregisterEvents conn),
          by simp, ?_, ?_, by simpa [deregisterEvents, current] using failures.fail conn⟩
        · simp only [deregister_connections, setThread_connections, closeSocket_connections,
            inv.nodup.mem_erase_iff, round.registry, List.mem_append, List.mem_singleton, not_or]
          exact ⟨fun ⟨other, start, kept⟩ => ⟨start, kept, other⟩, fun ⟨start, kept, other⟩ => ⟨other, start, kept⟩⟩
        · have pending : c ∈ r.pending := by simpa using mem
          simp only [deregister_connections, setThread_connections, closeSocket_connections,
            inv.nodup.mem_erase_iff]
          exact ⟨fun same => notPending (same ▸ pending), round.unvisited c (by simp [pending])⟩
        · simpa [deregisterEvents, current] using noReceive
        · simp [writes, Event.resultWrite, deregisterEvents, current]
      · rw [removed c (.inl mem)]
        simp [inv.nodup.mem_erase_iff]
  · next r conn =>
    obtain ⟨one, -⟩ := inv.busy t r [conn] (by simp [self, Thread.round])
    split at h <;> cases h
    exact registryInv_setBroadcaster inv life oneStart self (by rfl) (by rfl) (by rfl) inv.nodup (fun _ => id)
      (fun _ => by simp [one]) (by simp [Thread.round]) (by simp) (by simp)
  · cases h

end Preservation

theorem step_contexts_length {a : Act} (h : step s a = some (s', evs)) :
    s.contexts.length ≤ s'.contexts.length := by
  rcases step_cases_lifecycle h with h | h | keeps
  · rcases initializeService_cases h with ⟨-, rfl, -⟩ | ⟨-, -, rfl⟩ <;> simp
  · rw [(close_stops h).1, stop_contexts]; split <;> simp
  · rw [keeps.1]

theorem registryInv_run {cfg : Config} {tr : List Event} (run : Run cfg s tr)
    (oneStart : s.contexts.length ≤ 1) : RegistryInv s tr := by
  induction run with
  | init => exact registryInv_initial cfg
  | step a run h ih =>
    have before := (step_contexts_length h).trans oneStart
    have inv := ih before
    rcases step_cases_registry h with h | h | ⟨t, ctx, pc, c, self, h⟩ | ⟨t, conn, pc, self, free, rfl, rfl⟩ | keeps
    · exact registryInv_close inv h
    · exact registryInv_add inv h
    · exact registryInv_broadcaster inv (lifecycleInv_run run) before self h
    · exact registryInv_teardown inv self free
    · exact registryInv_keeps inv keeps

def helloSent : List Act :=
  [.initializeService, .transcribeHandler "POST" (some [1, 2, 3]), .run 2 .go, .run 2 .go,
    .run 0 .receive, .run 3 .go, .run 3 .go, .run 3 (.transcribe (some [Strings.lit "hello"])), .run 3 .go]

end Alfred.Whisper
