import Alfred.Whisper.Step

set_option autoImplicit false

namespace Alfred.Whisper

namespace Sys

theorem thread_setThread (s : Sys) {t : Nat} (th : Thread) (inside : t < s.threads.length)
    (u : Nat) : (s.setThread t th).thread u = if u = t then th else s.thread u := by
  by_cases same : u = t
  · subst same; simp [thread, List.getElem?_set, inside]
  · simp [thread, List.getElem?_set, same, Ne.symm same]

theorem thread_spawn (s : Sys) (th : Thread) (u : Nat) :
    (s.spawn th).thread u = if u = s.threads.length then th else s.thread u := by
  simp only [thread, spawn_threads, List.getD_eq_getElem?_getD, List.getElem?_append]
  split
  · next below => rw [if_neg (by omega)]
  · next above =>
    by_cases at_end : u = s.threads.length
    · simp [at_end]
    · rw [if_neg at_end, List.getElem?_eq_none (by simp; omega),
        List.getElem?_eq_none (by omega)]

theorem lt_of_thread {s : Sys} {t : Nat} (live : s.thread t ≠ .exited) : t < s.threads.length := by
  by_contra outside
  exact live (by simp [thread, List.getElem?_eq_none (Nat.le_of_not_lt outside)])

theorem thread_of_length_le (s : Sys) {u : Nat} (outside : s.threads.length ≤ u) :
    s.thread u = .exited := by
  simp [thread, List.getElem?_eq_none outside]

@[simp] theorem threads_length_setThread (s : Sys) (t : Nat) (th : Thread) :
    (s.setThread t th).threads.length = s.threads.length := by simp

@[simp] theorem closeConnections_fst_connections (s : Sys) (conns : List Nat) :
    (s.closeConnections conns).1.connections = conns.foldl List.erase s.connections := by
  induction conns generalizing s with
  | nil => rfl
  | cons conn rest ih => simp [closeConnections, ih]

structure SameExcept (Q : Thread → Prop) (s s' : Sys) : Prop where
  grows : s.threads.length ≤ s'.threads.length
  thread : ∀ u, s'.thread u = s.thread u ∨ Q (s.thread u) ∧ Q (s'.thread u)

namespace SameExcept

variable {Q Q' : Thread → Prop} {s s₁ s₂ : Sys}

theorem of_threads (same : s₁.threads = s.threads) : SameExcept Q s s₁ :=
  ⟨by rw [same], fun u => .inl (by rw [Sys.thread, Sys.thread, same])⟩

theorem trans (first : SameExcept Q s s₁) (second : SameExcept Q s₁ s₂) : SameExcept Q s s₂ := by
  refine ⟨first.grows.trans second.grows, fun u => ?_⟩
  rcases second.thread u with same₂ | ⟨mid₂, new₂⟩ <;> rcases first.thread u with same₁ | ⟨old₁, mid₁⟩
  · exact .inl (same₂.trans same₁)
  · exact .inr ⟨old₁, same₂ ▸ mid₁⟩
  · exact .inr ⟨same₁ ▸ mid₂, new₂⟩
  · exact .inr ⟨old₁, new₂⟩

theorem mono (weaker : ∀ th, Q th → Q' th) (h : SameExcept Q s s₁) : SameExcept Q' s s₁ :=
  ⟨h.grows, fun u => (h.thread u).imp id fun both => ⟨weaker _ both.1, weaker _ both.2⟩⟩

theorem of_new (P : Thread → Prop) (h : SameExcept Q s s₁) (notQ : ∀ th, Q th → ¬P th) {u : Nat}
    (new : P (s₁.thread u)) : P (s.thread u) := by
  rcases h.thread u with same | ⟨-, changed⟩
  · exact same ▸ new
  · exact absurd new (notQ _ changed)

end SameExcept

theorem sameExcept_setThread {Q : Thread → Prop} (s : Sys) {t : Nat} {th : Thread}
    (inside : t < s.threads.length) (old : Q (s.thread t)) (new : Q th) :
    SameExcept Q s (s.setThread t th) := by
  refine ⟨by simp, fun u => ?_⟩
  rw [thread_setThread s th inside]
  split
  · next same => subst same; exact .inr ⟨old, new⟩
  · exact .inl rfl

theorem sameExcept_spawn {Q : Thread → Prop} (s : Sys) {th : Thread} (exited : Q .exited)
    (new : Q th) : SameExcept Q s (s.spawn th) := by
  refine ⟨by simp, fun u => ?_⟩
  rw [thread_spawn]
  split
  · next same =>
    rw [thread_of_length_le s (Nat.le_of_eq same.symm)]
    exact .inr ⟨exited, new⟩
  · exact .inl rfl

theorem sameExcept_update_setThread {Q : Thread → Prop} {s s₁ : Sys}
    (same : s₁.threads = s.threads) {t : Nat} {th : Thread} (inside : t < s.threads.length)
    (old : Q (s.thread t)) (new : Q th) : SameExcept Q s (s₁.setThread t th) :=
  (SameExcept.of_threads same).trans
    (sameExcept_setThread s₁ (same ▸ inside) (by simpa [thread, same] using old) new)

theorem sameExcept_update_spawn {Q : Thread → Prop} {s s₁ : Sys} (same : s₁.threads = s.threads)
    {th : Thread} (exited : Q .exited) (new : Q th) : SameExcept Q s (s₁.spawn th) :=
  (SameExcept.of_threads same).trans (sameExcept_spawn s₁ exited new)

end Sys

end Alfred.Whisper
