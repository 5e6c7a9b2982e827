import Alfred.Whisper.Accumulator
import Alfred.Whisper.Transcript

set_option autoImplicit false

namespace Alfred.Whisper

inductive Submit where
  | check
  | send
  deriving DecidableEq, Repr

inductive WorkerPc where
  | lock
  | checkModel
  | engine
  | send (result : TranscriptionResult)
  deriving DecidableEq, Repr

structure Round where
  result : TranscriptionResult
  pending : List Nat
  start : List Nat
  written : List Nat
  failed : List Nat
  deriving DecidableEq, Repr

inductive BroadcasterPc where
  | select
  | iterate (round : Round)
  | write (round : Round) (conn : Nat)
  deriving DecidableEq, Repr

inductive HandlerPc where
  | sendConfig
  | writeConfig
  | read
  | submit (data : Samples) (pc : Submit)
  | teardown
  deriving DecidableEq, Repr

inductive Response where
  | error (status : Nat) (message : String)
  | json (result : TranscriptionResult)
  | dropped
  deriving DecidableEq, Repr

inductive RequestPc where
  | submit (data : Samples) (pc : Submit)
  | await
  | responded (response : Response)
  deriving DecidableEq, Repr

inductive Thread where
  | processAudio (ctx : Nat) (audioBuffer : Samples)
  | transcribeAudio (window : Samples) (pc : WorkerPc)
  | broadcastResults (ctx : Nat) (pc : BroadcasterPc)
  | handleWebSocket (conn : Nat) (pc : HandlerPc)
  | transcribeHandler (pc : RequestPc)
  | exited
  deriving DecidableEq, Repr

-- the connection a goroutine is inside `conn.WriteJSON` on
def Thread.writing : Thread → Option Nat
  | .handleWebSocket conn .writeConfig => some conn
  | .broadcastResults _ (.write _ conn) => some conn
  | _ => none

-- the service, its goroutines and the sockets of the connections it has accepted
structure Sys where
  config : Config
  model : Bool
  mu : Option Nat
  audioQueue : Chan Samples
  results : Chan (Nat × TranscriptionResult)
  contexts : List Bool
  cancelFunc : Option Nat
  running : Bool
  connections : List Nat
  readers : Nat
  sockets : List Bool
  threads : List Thread
  crashed : Bool
  deriving DecidableEq, Repr

def Sys.initial (cfg : Config) : Sys where
  config := cfg
  model := true
  mu := none
  audioQueue := Chan.make 1000
  results := Chan.make 100
  contexts := []
  cancelFunc := none
  running := false
  connections := []
  readers := 0
  sockets := []
  threads := []
  crashed := false

inductive Frame where
  | config (cfg : Config)
  | result (result : TranscriptionResult)
  deriving DecidableEq, Repr

inductive Channel where
  | audioQueue
  | results
  deriving DecidableEq, Repr

inductive GoPanic where
  | sendOnClosedChannel (ch : Channel)
  | closeOfClosedChannel (ch : Channel)
  -- gorilla/websocket: "concurrent write to websocket connection"
  | concurrentWrite (conn : Nat)
  deriving DecidableEq, Repr

inductive Event where
  | initialized (started : Bool)
  | close
  | registered (conn : Nat)
  | processAudio (data : Samples) (err : Option String)
  | flush (worker : Nat) (window : Samples)
  | locked (worker : Nat)
  | transcribeStart (worker : Nat)
  | transcribeEnd (worker : Nat)
  | resultSent (worker : Nat) (result : TranscriptionResult)
  | resultReceived (byBroadcaster : Bool) (worker : Option Nat) (result : TranscriptionResult)
  | writeStart (conn : Nat) (frame : Frame)
  | writeEnd (conn : Nat) (ok : Bool)
  | deregistered (conn : Nat)
  | connClosed (conn : Nat)
  | panic (p : GoPanic)
  deriving DecidableEq, Repr

inductive Inbound where
  | samples (data : Samples)
  | malformed
  | error
  deriving DecidableEq, Repr

inductive Choice where
  | done
  | receive
  | timeout
  | go
  | transcribe (segments : Option (List Strings.GoString))
  | write (ok : Bool)
  | visit (i : Nat)
  | read (message : Inbound)
  -- gorilla/websocket's best-effort check catches another write on the same connection
  | collide
  deriving DecidableEq, Repr

inductive Act where
  | initializeService
  | close
  | addWebSocket
  | transcribeHandler (method : String) (body : Option Samples)
  | run (thread : Nat) (choice : Choice)
  deriving DecidableEq, Repr

namespace Sys

def thread (s : Sys) (t : Nat) : Thread := s.threads.getD t .exited

@[simps]
def setThread (s : Sys) (t : Nat) (th : Thread) : Sys := { s with threads := s.threads.set t th }

@[simps]
def spawn (s : Sys) (th : Thread) : Sys := { s with threads := s.threads ++ [th] }

def cancelled (s : Sys) (ctx : Nat) : Bool := s.contexts.getD ctx false

def socketClosed (s : Sys) (conn : Nat) : Bool := s.sockets.getD conn false

def writers (s : Sys) (conn : Nat) : Nat := s.threads.countP fun th => th.writing == some conn

end Sys

end Alfred.Whisper
