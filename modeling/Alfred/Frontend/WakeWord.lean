import Alfred.Whisper.Basic

set_option autoImplicit false

namespace Alfred.Frontend

open Alfred.Whisper

def bufferSize : Nat := 16000 * 2

-- one `onaudioprocess` call: its frame, whether the socket is open, whether `ws.send` returns
structure AudioProcessEvent where
  inputData : Samples
  isOpen : Bool
  sendOk : Bool
  deriving DecidableEq, Repr

def onaudioprocess (audioBuffer : Samples) (e : AudioProcessEvent) : Samples × Option Samples :=
  if e.isOpen then
    let audioBuffer := audioBuffer ++ e.inputData
    if bufferSize ≤ audioBuffer.length then
      if e.sendOk then ([], some audioBuffer) else (audioBuffer, none)
    else (audioBuffer, none)
  else (audioBuffer, none)

def onaudioprocessRun : Samples → List AudioProcessEvent → Samples × List Samples
  | audioBuffer, [] => (audioBuffer, [])
  | audioBuffer, e :: rest =>
    let (next, chunk) := onaudioprocess audioBuffer e
    let (final, chunks) := onaudioprocessRun next rest
    (final, chunk.toList ++ chunks)

def openFrames (events : List AudioProcessEvent) : Samples :=
  (events.filter (·.isOpen)).flatMap (·.inputData)

@[simp] theorem openFrames_nil : openFrames [] = [] := rfl

@[simp] theorem onaudioprocessRun_cons (audioBuffer : Samples) (e : AudioProcessEvent)
    (rest : List AudioProcessEvent) :
    onaudioprocessRun audioBuffer (e :: rest) =
      ((onaudioprocessRun (onaudioprocess audioBuffer e).1 rest).1,
        (onaudioprocess audioBuffer e).2.toList ++ (onaudioprocessRun (onaudioprocess audioBuffer e).1 rest).2) :=
  rfl

@[simp] theorem openFrames_cons (e : AudioProcessEvent) (events : List AudioProcessEvent) :
    openFrames (e :: events) = (if e.isOpen then e.inputData else []) ++ openFrames events := by
  cases isOpen : e.isOpen <;> simp [openFrames, List.filter_cons, isOpen]

theorem onaudioprocess_cases (audioBuffer : Samples) (e : AudioProcessEvent) :
    e.isOpen = false ∧ onaudioprocess audioBuffer e = (audioBuffer, none) ∨
      e.isOpen = true ∧ bufferSize ≤ (audioBuffer ++ e.inputData).length ∧ e.sendOk = true ∧
        onaudioprocess audioBuffer e = ([], some (audioBuffer ++ e.inputData)) ∨
      e.isOpen = true ∧ ¬ (bufferSize ≤ (audioBuffer ++ e.inputData).length ∧ e.sendOk = true) ∧
        onaudioprocess audioBuffer e = (audioBuffer ++ e.inputData, none) := by
  unfold onaudioprocess
  cases isOpen : e.isOpen
  · exact .inl ⟨rfl, rfl⟩
  · by_cases full : bufferSize ≤ (audioBuffer ++ e.inputData).length
    · cases ok : e.sendOk
      · exact .inr (.inr ⟨rfl, by simp [ok], by simp only [full, ok, ite_true, Bool.false_eq_true, ite_false]⟩)
      · exact .inr (.inl ⟨rfl, full, rfl, by simp only [full, ok, ite_true]⟩)
    · exact .inr (.inr ⟨rfl, fun both => full both.1, by simp only [full, ite_true, ite_false]⟩)

theorem onaudioprocess_keeps (audioBuffer : Samples) (e : AudioProcessEvent) :
    (onaudioprocess audioBuffer e).2.toList.flatten ++ (onaudioprocess audioBuffer e).1 =
      audioBuffer ++ if e.isOpen then e.inputData else [] := by
  rcases onaudioprocess_cases audioBuffer e with ⟨closed, sent⟩ | ⟨isOpen, -, -, sent⟩ | ⟨isOpen, -, sent⟩
  · simp [sent, closed]
  · simp [sent, isOpen]
  · simp [sent, isOpen]

theorem onaudioprocess_chunk_long {audioBuffer chunk : Samples} {e : AudioProcessEvent}
    (sent : (onaudioprocess audioBuffer e).2 = some chunk) : bufferSize ≤ chunk.length := by
  rcases onaudioprocess_cases audioBuffer e with ⟨-, same⟩ | ⟨-, full, -, same⟩ | ⟨-, -, same⟩ <;>
    rw [same] at sent <;> cases sent
  exact full

-- while every `ws.send` returns, a full buffer is sent and cleared at once
theorem onaudioprocessRun_below (events : List AudioProcessEvent) (sends : ∀ e ∈ events, e.sendOk = true)
    (audioBuffer : Samples) (below : audioBuffer.length < bufferSize) :
    (onaudioprocessRun audioBuffer events).1.length < bufferSize := by
  induction events generalizing audioBuffer with
  | nil => exact below
  | cons e rest ih =>
    rw [List.forall_mem_cons] at sends
    rw [onaudioprocessRun_cons]
    refine ih sends.2 _ ?_
    rcases onaudioprocess_cases audioBuffer e with ⟨-, same⟩ | ⟨-, -, -, same⟩ | ⟨-, notFull, same⟩ <;>
      rw [same]
    · exact below
    · exact Nat.zero_lt_of_ne_zero (by decide)
    · exact Nat.lt_of_not_le fun full => notFull ⟨full, sends.1⟩

theorem wakeWord_chunks_keep_open_frames (events : List AudioProcessEvent) :
    (onaudioprocessRun [] events).2.flatten ++ (onaudioprocessRun [] events).1 = openFrames events ∧
      (∀ chunk ∈ (onaudioprocessRun [] events).2, bufferSize ≤ chunk.length) ∧
      ((∀ e ∈ events, e.sendOk = true) → (onaudioprocessRun [] events).1.length < bufferSize) := by
  suffices run : ∀ audioBuffer : Samples,
      (onaudioprocessRun audioBuffer events).2.flatten ++ (onaudioprocessRun audioBuffer events).1 =
        audioBuffer ++ openFrames events ∧
      ∀ chunk ∈ (onaudioprocessRun audioBuffer events).2, bufferSize ≤ chunk.length from
    ⟨(run []).1, (run []).2, fun sends => onaudioprocessRun_below events sends [] (by decide)⟩
  induction events with
  | nil => simp [onaudioprocessRun]
  | cons e rest ih =>
    intro audioBuffer
    obtain ⟨kept, long⟩ := ih (onaudioprocess audioBuffer e).1
    refine ⟨?_, fun chunk mem => ?_⟩
    · rw [onaudioprocessRun_cons, List.flatten_append, List.append_assoc, kept, ← List.append_assoc,
        onaudioprocess_keeps, openFrames_cons, List.append_assoc]
    · rcases List.mem_append.mp mem with now | later
      · exact onaudioprocess_chunk_long (Option.mem_toList.mp now)
      · exact long chunk later

theorem wakeWord_chunks_eight_frames (events : List AudioProcessEvent)
    (frames : ∀ e ∈ events, e.isOpen → e.inputData.length = 4096)
    (sends : ∀ e ∈ events, e.sendOk = true) :
    ∀ chunk ∈ (onaudioprocessRun [] events).2, chunk.length = 32768 := by
  suffices run : ∀ audioBuffer : Samples, audioBuffer.length % 4096 = 0 → audioBuffer.length < 32768 →
      ∀ chunk ∈ (onaudioprocessRun audioBuffer events).2, chunk.length = 32768 from run [] rfl (by decide)
  induction events with
  | nil => simp [onaudioprocessRun]
  | cons e rest ih =>
    intro audioBuffer whole short chunk mem
    rw [List.forall_mem_cons] at frames sends
    have two : bufferSize = 32000 := rfl
    rw [onaudioprocessRun_cons, List.mem_append] at mem
    rcases onaudioprocess_cases audioBuffer e with ⟨-, same⟩ | ⟨isOpen, full, -, same⟩ |
        ⟨isOpen, notFull, same⟩ <;>
      rw [same] at mem <;> simp only [Option.toList_some, Option.toList_none, List.mem_singleton,
        List.not_mem_nil, false_or] at mem
    · exact ih frames.2 sends.2 _ whole short chunk mem
    · have size := frames.1 isOpen
      rw [List.length_append] at full
      rcases mem with rfl | later
      · rw [List.length_append]; omega
      · exact ih frames.2 sends.2 [] rfl (by decide) chunk later
    · have size := frames.1 isOpen
      have belowFull : ¬ bufferSize ≤ audioBuffer.length + e.inputData.length := fun full =>
        notFull ⟨by rwa [List.length_append], sends.1⟩
      exact ih frames.2 sends.2 _ (by rw [List.length_append]; omega) (by rw [List.length_append]; omega)
        chunk mem

def eightFrames : List AudioProcessEvent := List.replicate 8 ⟨List.replicate 4096 0, true, true⟩

theorem onaudioprocessRun_eight_frames (frame : Samples) (size : frame.length = 4096) :
    onaudioprocessRun [] (List.replicate 8 ⟨frame, true, true⟩) =
      ([], [frame ++ frame ++ frame ++ frame ++ frame ++ frame ++ frame ++ frame]) := by
  simp only [List.replicate, onaudioprocessRun_cons, onaudioprocess, List.nil_append,
    List.length_append, size, bufferSize, Nat.reduceMul, Nat.reduceAdd,
    Nat.reduceLeDiff, ite_true, ite_false, Option.toList_some, Option.toList_none]
  rfl

theorem wakeWord_chunks_eight_frames_one_chunk :
    (∀ e ∈ eightFrames, e.isOpen → e.inputData.length = 4096) ∧ (∀ e ∈ eightFrames, e.sendOk = true) ∧
      (onaudioprocessRun [] eightFrames).2.map List.length = [32768] ∧
      ∀ chunk ∈ (onaudioprocessRun [] eightFrames).2, chunk.length = 32768 :=
  have frames : ∀ e ∈ eightFrames, e.isOpen → e.inputData.length = 4096 := fun e mem _ => by
    simp only [eightFrames, List.mem_replicate] at mem
    rw [mem.2]; exact List.length_replicate 4096 0
  have sends : ∀ e ∈ eightFrames, e.sendOk = true := fun e mem => by
    simp only [eightFrames, List.mem_replicate] at mem
    rw [mem.2]
  have one : (onaudioprocessRun [] eightFrames).2.map List.length = [32768] := by
    rw [eightFrames, onaudioprocessRun_eight_frames _ (List.length_replicate _ _)]
    simp only [List.map_cons, List.map_nil, List.length_append, List.length_replicate, Nat.reduceAdd]
  ⟨frames, sends, one, wakeWord_chunks_eight_frames eightFrames frames sends⟩

end Alfred.Frontend
