import Mathlib.Data.List.Basic
import Alfred.Strings

set_option autoImplicit false

namespace Alfred.Whisper

abbrev GoInt := BitVec 64

abbrev Sample := BitVec 32

abbrev Samples := List Sample

def maxInt : Int := 9223372036854775807

structure Chan (α : Type) where
  buf : List α
  cap : Nat
  closed : Bool
  deriving DecidableEq, Repr

namespace Chan

variable {α : Type}

def make (cap : Nat) : Chan α := ⟨[], cap, false⟩

inductive Send (α : Type) where
  | panic
  | full
  | sent (c : Chan α)
  deriving DecidableEq

def send (c : Chan α) (x : α) : Send α :=
  if c.closed then .panic
  else if c.buf.length < c.cap then .sent { c with buf := c.buf ++ [x] }
  else .full

def recv (c : Chan α) : Option (Option α × Chan α) :=
  match c.buf with
  | x :: rest => some (some x, { c with buf := rest })
  | [] => if c.closed then some (none, c) else none

def close (c : Chan α) : Option (Chan α) :=
  if c.closed then none else some { c with closed := true }

def ready (c : Chan α) : Bool := !c.buf.isEmpty || c.closed

theorem send_eq_sent {c c' : Chan α} {x : α} :
    c.send x = .sent c' ↔
      c.closed = false ∧ c.buf.length < c.cap ∧ c' = { c with buf := c.buf ++ [x] } := by
  unfold send
  by_cases closed : c.closed <;> by_cases room : c.buf.length < c.cap <;>
    simp [closed, room, Send.sent.injEq, @eq_comm _ c']

theorem send_eq_panic {c : Chan α} {x : α} : c.send x = .panic ↔ c.closed = true := by
  unfold send
  by_cases closed : c.closed <;> by_cases room : c.buf.length < c.cap <;> simp [closed, room]

theorem recv_eq_some {c c' : Chan α} {v : Option α} (h : c.recv = some (v, c')) :
    c'.cap = c.cap ∧ c'.closed = c.closed ∧ c.buf = v.toList ++ c'.buf := by
  unfold recv at h
  split at h
  · cases h; simp_all
  · split at h <;> cases h; simp_all

theorem recv_none_closed {c c' : Chan α} (h : c.recv = some (none, c')) : c.closed = true := by
  unfold recv at h
  split at h
  · cases h
  · split at h <;> simp_all

theorem close_eq_some {c c' : Chan α} :
    c.close = some c' ↔ c.closed = false ∧ c' = { c with closed := true } := by
  unfold close
  by_cases closed : c.closed <;> simp [closed, @eq_comm _ c']

end Chan

structure Config where
  modelPath : String
  threads : GoInt
  maxAudioLen : GoInt
  sampleRate : GoInt
  language : String
  enableVAD : Bool
  vadThreshold : BitVec 32
  wakeWord : String
  deriving DecidableEq, Repr

def defaultConfig : Config where
  modelPath := "/Users/zakicole/alfred/models/ggml-base.en.bin"
  threads := 4
  maxAudioLen := 30
  sampleRate := 16000
  language := "en"
  enableVAD := true
  vadThreshold := BitVec.ofNat 32 0x3F000000
  wakeWord := "alfred"

structure TranscriptionResult where
  text : Strings.GoString
  isFinal : Bool
  isWakeWord : Bool
  deriving DecidableEq, Repr

def TranscriptionResult.zero : TranscriptionResult := ⟨[], false, false⟩

def bufferSize (cfg : Config) : GoInt := cfg.sampleRate * 3

def minBufferSize (cfg : Config) : GoInt := cfg.sampleRate.sdiv 2

def atLeast (buffer : Samples) (n : GoInt) : Bool := decide (n.toInt ≤ buffer.length)

theorem bufferSize_toInt (cfg : Config) (positive : 0 < cfg.sampleRate.toInt)
    (bounded : cfg.sampleRate.toInt ≤ maxInt / 3) :
    (bufferSize cfg).toInt = 3 * cfg.sampleRate.toInt := by
  have three : (3 : GoInt).toInt = 3 := by decide
  have small : cfg.sampleRate.toInt * 3 < 2 ^ 64 / 2 := by
    unfold maxInt at bounded; omega
  rw [bufferSize, BitVec.toInt_mul, three, Int.bmod_def,
    Int.emod_eq_of_lt (by omega) (by omega), if_pos (by omega)]
  omega

theorem minBufferSize_toInt (cfg : Config) (positive : 0 < cfg.sampleRate.toInt) :
    (minBufferSize cfg).toInt = cfg.sampleRate.toInt / 2 := by
  have msb : cfg.sampleRate.msb = false := by
    rw [BitVec.toInt_eq_msb_cond] at positive
    cases h : cfg.sampleRate.msb
    · rfl
    · simp only [h, if_true] at positive; omega
  have toInt : cfg.sampleRate.toInt = cfg.sampleRate.toNat := by
    rw [BitVec.toInt_eq_msb_cond, msb]; rfl
  have half : (cfg.sampleRate / 2).toNat = cfg.sampleRate.toNat / 2 := by
    rw [BitVec.toNat_udiv]; rfl
  rw [minBufferSize, BitVec.sdiv_eq, msb, show (2 : GoInt).msb = false by decide, BitVec.udiv_eq,
    BitVec.toInt_eq_toNat_cond, half, if_pos (by omega), toInt]
  omega

end Alfred.Whisper
