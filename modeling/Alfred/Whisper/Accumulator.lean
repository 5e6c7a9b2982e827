import Alfred.Whisper.Basic

set_option autoImplicit false

namespace Alfred.Whisper

inductive Wake where
  | arrive (data : Samples)
  | idle
  deriving DecidableEq, Repr

def Wake.samples : Wake → Samples
  | .arrive data => data
  | .idle => []

def processAudioStep (cfg : Config) (audioBuffer : Samples) : Wake → Samples × Option Samples
  | .arrive data =>
    if atLeast (audioBuffer ++ data) (bufferSize cfg) then ([], some (audioBuffer ++ data))
    else (audioBuffer ++ data, none)
  | .idle =>
    if atLeast audioBuffer (minBufferSize cfg) then ([], some audioBuffer)
    else (audioBuffer, none)

def processAudioRun (cfg : Config) : Samples → List Wake → Samples × List Samples
  | audioBuffer, [] => (audioBuffer, [])
  | audioBuffer, e :: rest =>
    let (next, window) := processAudioStep cfg audioBuffer e
    let (final, windows) := processAudioRun cfg next rest
    (final, window.toList ++ windows)

def bufferAfter (cfg : Config) (events : List Wake) : Samples :=
  (processAudioRun cfg [] events).1

theorem processAudioRun_concat (cfg : Config) (audioBuffer : Samples) (events : List Wake) (e : Wake) :
    processAudioRun cfg audioBuffer (events ++ [e]) =
      ((processAudioStep cfg (processAudioRun cfg audioBuffer events).1 e).1,
        (processAudioRun cfg audioBuffer events).2 ++
          (processAudioStep cfg (processAudioRun cfg audioBuffer events).1 e).2.toList) := by
  induction events generalizing audioBuffer with
  | nil => simp [processAudioRun]
  | cons e' rest ih => simp [processAudioRun, ih]

theorem processAudioStep_keeps (cfg : Config) (audioBuffer : Samples) (e : Wake) :
    (processAudioStep cfg audioBuffer e).2.toList.flatten ++ (processAudioStep cfg audioBuffer e).1 =
      audioBuffer ++ match e with | .arrive data => data | .idle => [] := by
  cases e <;> simp only [processAudioStep] <;> split <;> simp

theorem atLeast_bufferSize (cfg : Config) (positive : 0 < cfg.sampleRate.toInt)
    (bounded : cfg.sampleRate.toInt ≤ maxInt / 3) (audioBuffer : Samples) :
    atLeast audioBuffer (bufferSize cfg) = decide (3 * cfg.sampleRate.toInt ≤ audioBuffer.length) := by
  rw [atLeast, bufferSize_toInt cfg positive bounded]

section Threshold

variable (cfg : Config) (positive : 0 < cfg.sampleRate.toInt)
  (bounded : cfg.sampleRate.toInt ≤ maxInt / 3)

include positive bounded

theorem processAudioStep_below (audioBuffer : Samples) (e : Wake)
    (below : audioBuffer.length < 3 * cfg.sampleRate.toInt) :
    ((processAudioStep cfg audioBuffer e).1.length : Int) < 3 * cfg.sampleRate.toInt := by
  cases e with
  | arrive data =>
    simp only [processAudioStep, atLeast_bufferSize cfg positive bounded]
    split <;> simp only [decide_eq_true_eq, List.length_append, List.length_nil, Int.natCast_add,
      Int.natCast_zero] at * <;> omega
  | idle =>
    simp only [processAudioStep]
    split <;> simp only [List.length_nil, Int.natCast_zero] <;> omega

theorem bufferAfter_below (events : List Wake) :
    ((bufferAfter cfg events).length : Int) < 3 * cfg.sampleRate.toInt := by
  suffices run : ∀ audioBuffer : Samples, (audioBuffer.length : Int) < 3 * cfg.sampleRate.toInt →
      ((processAudioRun cfg audioBuffer events).1.length : Int) < 3 * cfg.sampleRate.toInt from
    run [] (by simp; omega)
  induction events with
  | nil => exact fun _ below => below
  | cons e rest ih =>
    intro audioBuffer below
    exact ih _ (processAudioStep_below cfg positive bounded audioBuffer e below)

theorem processAudio_threshold_flush (events : List Wake) (data : Samples) :
    let audioBuffer := bufferAfter cfg events
    (audioBuffer.length : Int) < 3 * cfg.sampleRate.toInt ∧
      ((processAudioStep cfg audioBuffer (.arrive data)).2.isSome ↔
        3 * cfg.sampleRate.toInt ≤ audioBuffer.length + data.length) ∧
      (∀ window, (processAudioStep cfg audioBuffer (.arrive data)).2 = some window →
        window = audioBuffer ++ data ∧
        3 * cfg.sampleRate.toInt ≤ window.length ∧
        (window.length : Int) ≤ 3 * cfg.sampleRate.toInt + data.length - 1 ∧
        (processAudioStep cfg audioBuffer (.arrive data)).1 = []) ∧
      processAudioRun cfg [] (events ++ [.arrive data]) =
        ((processAudioStep cfg audioBuffer (.arrive data)).1,
          (processAudioRun cfg [] events).2 ++ (processAudioStep cfg audioBuffer (.arrive data)).2.toList) := by
  have below := bufferAfter_below cfg positive bounded events
  have run := processAudioRun_concat cfg [] events (.arrive data)
  rw [← bufferAfter] at run
  generalize bufferAfter cfg events = audioBuffer at below run ⊢
  refine ⟨below, ?_, ?_, run⟩ <;>
    simp only [processAudioStep, atLeast_bufferSize cfg positive bounded, List.length_append]
  · split <;> simp_all
  · split
    · simp_all
      omega
    · simp

end Threshold

def twoPerSecond : Config := { defaultConfig with sampleRate := 2 }

theorem processAudio_threshold_flush_crossing :
    0 < twoPerSecond.sampleRate.toInt ∧ twoPerSecond.sampleRate.toInt ≤ maxInt / 3 ∧
      let audioBuffer := bufferAfter twoPerSecond [.arrive [1, 2], .arrive [3]]
      (audioBuffer.length : Int) < 3 * twoPerSecond.sampleRate.toInt ∧
        ((processAudioStep twoPerSecond audioBuffer (.arrive [4, 5, 6, 7])).2.isSome ↔
          3 * twoPerSecond.sampleRate.toInt ≤ audioBuffer.length + [4, 5, 6, 7].length) ∧
        (∀ window, (processAudioStep twoPerSecond audioBuffer (.arrive [4, 5, 6, 7])).2 = some window →
          window = audioBuffer ++ [4, 5, 6, 7] ∧
          3 * twoPerSecond.sampleRate.toInt ≤ window.length ∧
          (window.length : Int) ≤ 3 * twoPerSecond.sampleRate.toInt + [4, 5, 6, 7].length - 1 ∧
          (processAudioStep twoPerSecond audioBuffer (.arrive [4, 5, 6, 7])).1 = []) ∧
        processAudioRun twoPerSecond [] ([.arrive [1, 2], .arrive [3]] ++ [.arrive [4, 5, 6, 7]]) =
          ((processAudioStep twoPerSecond audioBuffer (.arrive [4, 5, 6, 7])).1,
            (processAudioRun twoPerSecond [] [.arrive [1, 2], .arrive [3]]).2 ++
              (processAudioStep twoPerSecond audioBuffer (.arrive [4, 5, 6, 7])).2.toList) :=
  have positive : 0 < twoPerSecond.sampleRate.toInt := by decide
  have bounded : twoPerSecond.sampleRate.toInt ≤ maxInt / 3 := by decide
  ⟨positive, bounded, processAudio_threshold_flush twoPerSecond positive bounded _ _⟩

example : processAudioRun twoPerSecond [] [.arrive [1, 2], .arrive [3], .arrive [4, 5, 6, 7]] =
    ([], [[1, 2, 3, 4, 5, 6, 7]]) := by decide

section Windows

variable (cfg : Config) (positive : 0 < cfg.sampleRate.toInt)
  (bounded : cfg.sampleRate.toInt ≤ maxInt / 3)

include positive bounded

theorem processAudioStep_window_long (audioBuffer : Samples) (e : Wake) {window : Samples}
    (flushed : (processAudioStep cfg audioBuffer e).2 = some window) :
    cfg.sampleRate.toInt / 2 ≤ window.length := by
  cases e <;> simp only [processAudioStep] at flushed <;> split at flushed <;> cases flushed
  · next enough =>
    rw [atLeast_bufferSize cfg positive bounded, decide_eq_true_eq] at enough
    omega
  · next enough =>
    rw [atLeast, minBufferSize_toInt cfg positive, decide_eq_true_eq] at enough
    omega

theorem processAudioRun_windows_long (audioBuffer : Samples) (events : List Wake) :
    ∀ window ∈ (processAudioRun cfg audioBuffer events).2, cfg.sampleRate.toInt / 2 ≤ window.length := by
  induction events generalizing audioBuffer with
  | nil => simp [processAudioRun]
  | cons e rest ih =>
    intro window mem
    simp only [processAudioRun, List.mem_append, Option.mem_toList, Option.mem_def] at mem
    rcases mem with now | later
    · exact processAudioStep_window_long cfg positive bounded audioBuffer e now
    · exact ih _ window later

end Windows

section Idle

variable (cfg : Config)

end Idle

example : processAudioRun twoPerSecond [] [.arrive [1, 2, 3, 4], .arrive [5, 6], .arrive [7], .idle] =
    ([], [[1, 2, 3, 4, 5, 6], [7]]) := by decide

end Alfred.Whisper
