import Alfred.Whisper.Registry

set_option autoImplicit false

namespace Alfred.Whisper

open Sys

def framesTo (c : Nat) (tr : List Event) : List Frame :=
  tr.filterMap fun e => match e with
    | .writeStart conn frame => if conn = c then some frame else none
    | _ => none

-- the broadcaster writes a result to connection 0 before its handler writes the config frame
def writesCollide : List Act :=
  helloSent ++ [.addWebSocket, .run 1 .receive, .run 1 (.visit 0), .run 4 .go, .run 4 .collide]

theorem config_frame_not_first_and_writes_panic :
    ∃ s tr, Run shortWindows s tr ∧
      framesTo 0 tr = [.result (transcriptionResult (Strings.lit "hello ")), .config shortWindows] ∧
      tr.getLast? = some (.panic (.concurrentWrite 0)) ∧ s.crashed = true := by
  obtain ⟨s, tr, run, checked⟩ := exists_run_of_runActs shortWindows writesCollide
    (fun s tr => framesTo 0 tr == [.result (transcriptionResult (Strings.lit "hello ")), .config shortWindows] &&
      tr.getLast? == some (.panic (.concurrentWrite 0)) && s.crashed) (by decide)
  simp only [Bool.and_eq_true, beq_iff_eq] at checked
  exact ⟨s, tr, run, checked.1.1, checked.1.2, checked.2⟩

def handlerAlive (s : Sys) (c : Nat) : Bool := s.threads.any fun th => th.handles == some c

section Closes

variable {s s' : Sys} {tr evs : List Event}

theorem handlerAlive_iff {c : Nat} : handlerAlive s c = true ↔ ∃ u, (s.thread u).handles = some c := by
  simp only [handlerAlive, List.any_eq_true, beq_iff_eq]
  constructor
  · rintro ⟨th, mem, handles⟩
    obtain ⟨u, inside, rfl⟩ := List.getElem_of_mem mem
    exact ⟨u, by simpa [thread, List.getD_eq_getElem?_getD, inside] using handles⟩
  · rintro ⟨u, handles⟩
    have inside : u < s.threads.length := lt_of_thread fun ended => by simp [ended, Thread.handles] at handles
    exact ⟨_, List.getElem_mem inside, by simpa [thread, List.getD_eq_getElem?_getD, inside] using handles⟩

theorem handlerAlive_le {c : Nat} (ends : ∀ u, (s'.thread u).handles = some c → (s.thread u).handles = some c) :
    (handlerAlive s' c).toNat ≤ (handlerAlive s c).toNat := by
  cases now : handlerAlive s' c
  · simp
  · obtain ⟨u, handles⟩ := handlerAlive_iff.mp now
    simp [handlerAlive_iff.mpr ⟨u, ends u handles⟩]

theorem closeConnections_count (s : Sys) (conns : List Nat) (c : Nat) :
    (s.closeConnections conns).2.count (.connClosed c) = conns.count c := by
  induction conns generalizing s with
  | nil => rfl
  | cons conn rest ih =>
    simp only [closeConnections, List.count_cons, List.count_append, ih, deregisterEvents]
    split <;> simp [Nat.add_comm]

theorem close_count (h : s.close = some (s', evs)) (c : Nat) :
    evs.count (.connClosed c) = s.connections.count c := by
  unfold close at h
  split at h
  · cases h
  · obtain ⟨rfl, rfl⟩ := Prod.ext_iff.mp (Option.some.inj h).symm
    unfold closeChannels
    split <;> simp [closeConnections_count]

theorem broadcastResultsStep_closes {t ctx : Nat} {pc : BroadcasterPc} {ch : Choice}
    (h : broadcastResultsStep s t ctx pc ch = some (s', evs)) :
    s'.connections = s.connections ∧ (∀ c, Event.connClosed c ∉ evs) ∨
      ∃ r conn, pc = .write r conn ∧ s'.connections = s.connections.erase conn ∧
        ∀ c, evs.count (.connClosed c) = if conn = c then 1 else 0 := by
  unfold broadcastResultsStep at h
  split at h
  · split at h <;> cases h; exact .inl ⟨rfl, by simp⟩
  · split at h <;> cases h; exact .inl ⟨rfl, by simp⟩
  · split at h
    · split at h <;> cases h <;> exact .inl ⟨rfl, by simp⟩
    · cases h
  · split at h <;> cases h; exact .inl ⟨rfl, by simp⟩
  · next r conn ok =>
    split at h <;> cases h
    · exact .inl ⟨rfl, by simp⟩
    · refine .inr ⟨r, conn, rfl, rfl, fun c => ?_⟩
      simp only [List.count_cons, deregisterEvents]
      split <;> simp
  · split at h <;> cases h; exact .inl ⟨rfl, by simp⟩
  · cases h

def ClosesInv (s : Sys) (tr : List Event) : Prop :=
  ∀ c, tr.count (.connClosed c) + (handlerAlive s c).toNat + s.connections.count c ≤ 2

theorem closesInv_initial (cfg : Config) : ClosesInv (Sys.initial cfg) [] := fun c => by
  simp [Sys.initial, handlerAlive]

theorem closesInv_keeps (inv : ClosesInv s tr) (keeps : KeepsRegistry s s' evs) : ClosesInv s' (tr ++ evs) := by
  intro c
  obtain ⟨conns, -, -, threads, quiet⟩ := keeps
  have silent : evs.count (.connClosed c) = 0 :=
    List.count_eq_zero.mpr fun mem => by simpa [Event.touchesRegistry] using quiet _ mem
  have alive := handlerAlive_le (c := c) fun u now =>
    (threads u).2.elim (fun same => same ▸ now) fun ended => by simp [ended] at now
  have := inv c
  simp only [List.count_append, silent, conns]
  omega

theorem closesInv_add (inv : ClosesInv s tr) (reg : RegistryInv s tr) (h : s.addWebSocket = some (s', evs)) :
    ClosesInv s' (tr ++ evs) := by
  unfold addWebSocket at h
  split at h
  · cases h
  · cases h
    intro c
    have before := inv c
    by_cases new : c = s.sockets.length
    · subst new
      have notAlive : handlerAlive s s.sockets.length = false := by
        by_contra alive
        obtain ⟨u, handles⟩ := handlerAlive_iff.mp (Bool.eq_true_of_not_eq_false alive)
        exact absurd (reg.handlerConn u _ handles) (lt_irrefl _)
      have unregistered : s.connections.count s.sockets.length = 0 :=
        List.count_eq_zero.mpr fun mem => absurd (reg.registered _ mem) (lt_irrefl _)
      have unclosed : tr.count (.connClosed s.sockets.length) = 0 :=
        List.count_eq_zero.mpr (reg.fresh _ le_rfl).2
      simp only [handlerAlive] at notAlive
      simp [handlerAlive, Thread.handles, unclosed, unregistered, notAlive]
    · have other : (s.sockets.length == c) = false := by simp [Ne.symm new]
      simp only [handlerAlive] at before
      simpa [handlerAlive, Thread.handles, Ne.symm new, other, List.count_singleton] using before

theorem closesInv_close (inv : ClosesInv s tr) (h : s.close = some (s', evs)) : ClosesInv s' (tr ++ evs) := by
  intro c
  obtain ⟨-, -, threads, -, -, -, -⟩ := close_footprint h
  have alive : handlerAlive s' c = handlerAlive s c := by simp only [handlerAlive, threads]
  have := inv c
  simp only [List.count_append, close_count h, alive, (close_registry h).1, List.count_nil]
  omega

theorem closesInv_teardown (inv : ClosesInv s tr) (reg : RegistryInv s tr) {t conn : Nat} {pc : HandlerPc}
    (self : s.thread t = .handleWebSocket conn pc) :
    ClosesInv (((s.deregister conn).closeSocket conn).setThread t .exited)
      (tr ++ (s.deregisterEvents conn ++ [.connClosed conn])) := by
  have inside : t < s.threads.length := lt_of_thread (by simp [self])
  have after : ∀ u, (((s.deregister conn).closeSocket conn).setThread t .exited).thread u =
      if u = t then .exited else s.thread u := fun u => thread_setThread _ _ inside u
  have ends : ∀ u c, ((((s.deregister conn).closeSocket conn).setThread t .exited).thread u).handles = some c →
      (s.thread u).handles = some c ∧ u ≠ t := by
    intro u c now
    rw [after] at now
    split at now
    · simp [Thread.handles] at now
    · exact ⟨now, by assumption⟩
  have deregistered : ∀ c, (s.deregisterEvents conn).count (.connClosed c) = 0 := by
    intro c; unfold deregisterEvents; split <;> simp
  intro c
  have before := inv c
  by_cases same : c = conn
  · subst same
    have wasAlive : handlerAlive s c = true := handlerAlive_iff.mpr ⟨t, by simp [self, Thread.handles]⟩
    have notAlive : handlerAlive (((s.deregister c).closeSocket c).setThread t .exited) c = false := by
      by_contra alive
      obtain ⟨u, now⟩ := handlerAlive_iff.mp (Bool.eq_true_of_not_eq_false alive)
      obtain ⟨handles, other⟩ := ends u c now
      exact other (reg.handlerOnce u t c handles (by simp [self, Thread.handles]))
    simp only [List.count_append, deregistered, List.count_singleton, beq_self_eq_true, if_true,
      notAlive, wasAlive, setThread_connections, closeSocket_connections, deregister_connections,
      List.count_erase_self, Bool.toNat_false, Bool.toNat_true] at before ⊢
    omega
  · have alive := handlerAlive_le (c := c) fun u now => (ends u c now).1
    simp only [List.count_append, deregistered, List.count_singleton, beq_iff_eq, Event.connClosed.injEq,
      Ne.symm same, if_false, setThread_connections, closeSocket_connections, deregister_connections,
      List.count_erase_of_ne same]
    omega

theorem closesInv_broadcaster (inv : ClosesInv s tr) (reg : RegistryInv s tr) {t ctx : Nat}
    {pc : BroadcasterPc} {ch : Choice} (self : s.thread t = .broadcastResults ctx pc)
    (h : broadcastResultsStep s t ctx pc ch = some (s', evs)) : ClosesInv s' (tr ++ evs) := by
  obtain ⟨-, -, threads, -, -, -⟩ := broadcastResultsStep_footprint self h
  intro c
  have alive := handlerAlive_le (c := c) fun u now =>
    SameExcept.of_new (fun th => th.handles = some c) threads
      (fun th kind handles => by cases th <;> simp_all [Thread.isBroadcaster, Thread.handles]) now
  have before := inv c
  rcases broadcastResultsStep_closes h with ⟨conns, unclosed⟩ | ⟨r, conn, rfl, conns, closed⟩
  · simp only [List.count_append, List.count_eq_zero.mpr (unclosed c), conns]
    omega
  · have current : conn ∈ s.connections := ((reg.busy t r [conn] (by simp [self, Thread.round])).2.unvisited conn (by simp))
    simp only [List.count_append, closed, conns]
    by_cases same : conn = c
    · subst same
      have once : s.connections.count conn = 1 := List.count_eq_one_of_mem reg.nodup current
      simp only [List.count_erase_self, once, if_true] at before ⊢
      omega
    · simp only [same, if_false, List.count_erase_of_ne (Ne.symm same)]
      omega

theorem closesInv_run {cfg : Config} (run : Run cfg s tr) (oneStart : s.contexts.length ≤ 1) :
    ClosesInv s tr := by
  induction run with
  | init => exact closesInv_initial cfg
  | step a run h ih =>
    have earlier := (step_contexts_length h).trans oneStart
    have inv := ih earlier
    have reg := registryInv_run run earlier
    rcases step_cases_registry h with h | h | ⟨t, ctx, pc, c, self, h⟩ | ⟨t, conn, pc, self, free, rfl, rfl⟩ | keeps
    · exact closesInv_close inv h
    · exact closesInv_add inv reg h
    · exact closesInv_broadcaster inv reg self h
    · exact closesInv_teardown inv reg self
    · exact closesInv_keeps inv keeps

end Closes

theorem conn_closed_at_most_twice {cfg : Config} {s : Sys} {tr : List Event} (run : Run cfg s tr)
    (oneStart : s.contexts.length ≤ 1) (c : Nat) :
    tr.count (.connClosed c) + (handlerAlive s c).toNat + s.connections.count c ≤ 2 :=
  closesInv_run run oneStart c

def closedTwice : List Act :=
  [.initializeService, .addWebSocket, .close, .run 2 .go, .run 2 (.write true), .run 2 .go]

theorem conn_closed_at_most_twice_after_close :
    ∃ s tr, Run shortWindows s tr ∧ s.contexts.length ≤ 1 ∧
      tr.count (.connClosed 0) + (handlerAlive s 0).toNat + s.connections.count 0 ≤ 2 := by
  obtain ⟨s, tr, run, checked⟩ := exists_run_of_runActs shortWindows closedTwice
    (fun s _ => decide (s.contexts.length ≤ 1)) (by decide)
  have oneStart : s.contexts.length ≤ 1 := by simpa using checked
  exact ⟨s, tr, run, oneStart, conn_closed_at_most_twice run oneStart 0⟩

theorem conn_closed_twice :
    ∃ s tr, Run shortWindows s tr ∧ s.contexts.length ≤ 1 ∧ tr.count (.connClosed 0) = 2 := by
  obtain ⟨s, tr, run, checked⟩ := exists_run_of_runActs shortWindows closedTwice
    (fun s tr => decide (s.contexts.length ≤ 1) && tr.count (.connClosed 0) == 2) (by decide)
  simp only [Bool.and_eq_true, decide_eq_true_eq, beq_iff_eq] at checked
  exact ⟨s, tr, run, checked.1, checked.2⟩

def ServedInv (s : Sys) : Prop := ∀ c ∈ s.connections, ∃ u, (s.thread u).handles = some c

section Served

variable {s s' : Sys} {evs : List Event}

theorem Sys.SameExcept.keeps_handles {Q : Thread → Prop} (threads : SameExcept Q s s')
    (notHandler : ∀ th, Q th → th.handles = none) {u c : Nat} (handles : (s.thread u).handles = some c) :
    (s'.thread u).handles = some c := by
  rcases threads.thread u with same | ⟨old, -⟩
  · rw [same]; exact handles
  · rw [notHandler _ old] at handles; cases handles

theorem servedInv_of_sameExcept {Q : Thread → Prop} (inv : ServedInv s)
    (shrinks : ∀ c ∈ s'.connections, c ∈ s.connections) (threads : SameExcept Q s s')
    (notHandler : ∀ th, Q th → th.handles = none) : ServedInv s' := fun c mem =>
  let ⟨u, handles⟩ := inv c (shrinks c mem)
  ⟨u, threads.keeps_handles notHandler handles⟩

theorem handleWebSocketStep_served (inv : ServedInv s) (nodup : s.connections.Nodup) {t conn : Nat}
    {pc : HandlerPc} {ch : Choice} (self : s.thread t = .handleWebSocket conn pc)
    (h : handleWebSocketStep s t conn pc ch = some (s', evs)) (alive : s'.crashed = false) :
    ServedInv s' := by
  have inside : t < s.threads.length := lt_of_thread (by simp [self])
  have keep : ∀ (s₁ : Sys) (newPc : HandlerPc), s₁.threads = s.threads → s₁.connections = s.connections →
      ServedInv (s₁.setThread t (.handleWebSocket conn newPc)) := by
    intro s₁ newPc same conns c mem
    obtain ⟨u, handles⟩ := inv c (by simpa [conns] using mem)
    refine ⟨u, ?_⟩
    rw [thread_setThread s₁ _ (same ▸ inside)]
    split
    · next here => rw [here, self] at handles; exact handles
    · simpa [thread, same] using handles
  unfold handleWebSocketStep at h
  split at h
  · cases h; exact keep s _ rfl rfl
  · cases h; exact keep s _ rfl rfl
  · split at h <;> cases h; simp at alive
  · cases h; exact keep s _ rfl rfl
  · split at h <;> cases h; exact inv
  · split at h <;> cases h; exact keep s _ rfl rfl
  · split at h
    · cases h; exact keep s _ rfl rfl
    · cases h; exact keep _ _ rfl rfl
    · cases h; simp at alive
  · split at h <;> cases h
    intro c mem
    simp only [setThread_connections, closeSocket_connections, deregister_connections] at mem
    obtain ⟨other, old⟩ := nodup.mem_erase_iff.mp mem
    obtain ⟨u, handles⟩ := inv c old
    refine ⟨u, ?_⟩
    rw [thread_setThread ((s.deregister conn).closeSocket conn) .exited inside]
    split
    · next here =>
      rw [here, self] at handles
      exact absurd (Option.some.inj handles).symm other
    · exact handles
  · cases h

theorem addWebSocket_served (inv : ServedInv s) (h : s.addWebSocket = some (s', evs)) : ServedInv s' := by
  obtain ⟨-, -, -, spawned, -⟩ := addWebSocket_footprint h
  unfold addWebSocket at h
  split at h
  · cases h
  · cases h
    intro c mem
    simp only [spawn_connections, List.mem_append, List.mem_singleton] at mem
    rcases mem with old | rfl
    · obtain ⟨u, handles⟩ := inv c old
      refine ⟨u, ?_⟩
      rw [thread_spawn]
      split
      · next outside => rw [thread_of_length_le s outside.ge] at handles; cases handles
      · exact handles
    · exact ⟨s.threads.length, by rw [spawned]; rfl⟩

theorem servedInv_step (inv : ServedInv s) (nodup : s.connections.Nodup) {a : Act}
    (h : step s a = some (s', evs)) (alive : s'.crashed = false) : ServedInv s' := by
  obtain ⟨-, h | h | h | h | h | h | h | h | h⟩ := step_cases h
  · obtain ⟨-, shape, threads, -⟩ := initializeService_footprint h.2
    exact servedInv_of_sameExcept inv (by rw [shape]; simp) threads fun th kind => by
      cases th <;> simp [Thread.isProcessAudio, Thread.isBroadcaster, Thread.handles] at kind ⊢
  · intro c mem
    simp [(close_registry h.2).1] at mem
  · exact addWebSocket_served inv h.2
  · obtain ⟨method, body, -, h⟩ := h
    obtain ⟨shape, threads, -⟩ := transcribeHandler_footprint h
    exact servedInv_of_sameExcept inv (by rw [shape]; simp) threads fun th kind => by
      cases th <;> simp [Thread.isRequest, Thread.handles] at kind ⊢
  · obtain ⟨t, ctx, audioBuffer, c, self, h⟩ := h
    obtain ⟨shape, -, -, threads, -⟩ := processAudioStepAt_footprint self h
    exact servedInv_of_sameExcept inv (by rw [shape]; simp) threads fun th kind => by
      cases th <;> simp [Thread.isProcessAudio, Thread.isFreshWorker, Thread.handles] at kind ⊢
  · obtain ⟨t, window, pc, c, self, h⟩ := h
    obtain ⟨shape, -, threads, -⟩ := transcribeAudioStep_footprint self h
    exact servedInv_of_sameExcept inv (by rw [shape]; simp) threads fun th kind => by
      cases th <;> simp [Thread.isWorker, Thread.handles] at kind ⊢
  · obtain ⟨t, ctx, pc, c, self, h⟩ := h
    obtain ⟨-, -, threads, -⟩ := broadcastResultsStep_footprint self h
    refine servedInv_of_sameExcept inv (fun c mem => ?_) threads fun th kind => by
      cases th <;> simp [Thread.isBroadcaster, Thread.handles] at kind ⊢
    rcases broadcastResultsStep_closes h with ⟨conns, -⟩ | ⟨r, conn, -, conns, -⟩
    · rwa [conns] at mem
    · exact List.mem_of_mem_erase (conns ▸ mem)
  · obtain ⟨t, conn, pc, c, self, h⟩ := h
    exact handleWebSocketStep_served inv nodup self h alive
  · obtain ⟨t, pc, c, self, h⟩ := h
    obtain ⟨shape, -, -, -, threads, -⟩ := transcribeHandlerStep_footprint self h
    exact servedInv_of_sameExcept inv (by rw [shape]; simp) threads fun th kind => by
      cases th <;> simp [Thread.isRequest, Thread.handles] at kind ⊢

theorem servedInv_run {cfg : Config} {tr : List Event} (run : Run cfg s tr)
    (oneStart : s.contexts.length ≤ 1) (alive : s.crashed = false) : ServedInv s := by
  induction run with
  | init => intro c mem; simp [Sys.initial] at mem
  | step a run h ih =>
    have earlier := (step_contexts_length h).trans oneStart
    exact servedInv_step (ih earlier (step_cases h).1) (registryInv_run run earlier).nodup h alive

end Served

theorem registered_connection_open_and_served {cfg : Config} {s : Sys} {tr : List Event}
    (run : Run cfg s tr) (oneStart : s.contexts.length ≤ 1) (alive : s.crashed = false) {c : Nat}
    (registered : c ∈ s.connections) :
    (∃ u, (s.thread u).handles = some c) ∧ Event.connClosed c ∉ tr := by
  obtain ⟨u, handles⟩ := servedInv_run run oneStart alive c registered
  refine ⟨⟨u, handles⟩, fun closed => ?_⟩
  have bound := closesInv_run run oneStart c
  have once : 1 ≤ tr.count (.connClosed c) := List.count_pos_iff.mpr closed
  have served : handlerAlive s c = true := handlerAlive_iff.mpr ⟨u, handles⟩
  have listed : 1 ≤ s.connections.count c := List.count_pos_iff.mpr registered
  simp only [served, Bool.toNat_true] at bound
  omega

theorem registered_connection_open_and_served_first :
    ∃ s tr, Run shortWindows s tr ∧ s.contexts.length ≤ 1 ∧ s.crashed = false ∧ 0 ∈ s.connections ∧
      (∃ u, (s.thread u).handles = some 0) ∧ Event.connClosed 0 ∉ tr := by
  obtain ⟨s, tr, run, checked⟩ := exists_run_of_runActs shortWindows [.initializeService, .addWebSocket]
    (fun s _ => decide (s.contexts.length ≤ 1) && !s.crashed && s.connections.contains 0) (by decide)
  simp only [Bool.and_eq_true, decide_eq_true_eq, Bool.not_eq_true', List.elem_iff] at checked
  obtain ⟨⟨oneStart, alive⟩, registered⟩ := checked
  exact ⟨s, tr, run, oneStart, alive, registered,
    registered_connection_open_and_served run oneStart alive registered⟩

end Alfred.Whisper
