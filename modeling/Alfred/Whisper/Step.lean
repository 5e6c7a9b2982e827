import Alfred.Whisper.Service

set_option autoImplicit false

namespace Alfred.Whisper

namespace Sys

@[simps]
def deregister (s : Sys) (conn : Nat) : Sys := { s with connections := s.connections.erase conn }

def deregisterEvents (s : Sys) (conn : Nat) : List Event :=
  if conn ∈ s.connections then [.deregistered conn] else []

@[simps]
def closeSocket (s : Sys) (conn : Nat) : Sys := { s with sockets := s.sockets.set conn true }

end Sys

inductive Submitted where
  | next
  | returned (err : Option String)
  | panicked
  deriving DecidableEq, Repr

def submitStep (s : Sys) (data : Samples) : Submit → Submitted × Chan Samples
  | .check => (if s.running then .next else .returned (some "service not running"), s.audioQueue)
  | .send =>
    match s.audioQueue.send data with
    | .sent queue => (.returned none, queue)
    | .full => (.returned (some "audio queue full"), s.audioQueue)
    | .panic => (.panicked, s.audioQueue)

def afterPass (s : Sys) (t ctx : Nat) : Samples × Option Samples → Sys × List Event
  | (audioBuffer, none) => (s.setThread t (.processAudio ctx audioBuffer), [])
  | (audioBuffer, some window) =>
    ((s.setThread t (.processAudio ctx audioBuffer)).spawn (.transcribeAudio window .lock),
      [.flush s.threads.length window])

def processAudioStepAt (s : Sys) (t ctx : Nat) (audioBuffer : Samples) :
    Choice → Option (Sys × List Event)
  | .done => if s.cancelled ctx then some (s.setThread t .exited, []) else none
  | .receive =>
    match s.audioQueue.recv with
    | some (data, queue) =>
      some (afterPass { s with audioQueue := queue } t ctx
        (processAudioStep s.config audioBuffer (.arrive (data.getD []))))
    | none => none
  -- `time.After` fires only when no other case has been ready for its 500 ms
  | .timeout =>
    if !s.cancelled ctx && !s.audioQueue.ready then
      some (afterPass s t ctx (processAudioStep s.config audioBuffer .idle))
    else none
  | _ => none

def transcribeAudioStep (s : Sys) (t : Nat) (window : Samples) :
    WorkerPc → Choice → Option (Sys × List Event)
  | .lock, .go =>
    if s.mu = none then
      some ({ s with mu := some t }.setThread t (.transcribeAudio window .checkModel), [.locked t])
    else none
  | .checkModel, .go =>
    if s.model then some (s.setThread t (.transcribeAudio window .engine), [.transcribeStart t])
    else some ({ s with mu := none }.setThread t .exited, [])
  | .engine, .transcribe none => some ({ s with mu := none }.setThread t .exited, [.transcribeEnd t])
  | .engine, .transcribe (some segments) =>
    some (s.setThread t (.transcribeAudio window (.send (transcriptionResult (transcript segments)))),
      [.transcribeEnd t])
  | .send result, .go =>
    match s.results.send (t, result) with
    | .sent results =>
      some ({ s with results := results, mu := none }.setThread t .exited, [.resultSent t result])
    | .full => none
    | .panic =>
      some ({ s with mu := none, crashed := true }.setThread t .exited,
        [.panic (.sendOnClosedChannel .results)])
  | _, _ => none

def broadcastResultsStep (s : Sys) (t ctx : Nat) : BroadcasterPc → Choice → Option (Sys × List Event)
  | .select, .done => if s.cancelled ctx then some (s.setThread t .exited, []) else none
  | .select, .receive =>
    match s.results.recv with
    | some (v, results) =>
      let result := (v.map Prod.snd).getD .zero
      some ({ s with results := results, readers := s.readers + 1 }.setThread t
          (.broadcastResults ctx (.iterate ⟨result, s.connections, s.connections, [], []⟩)),
        [.resultReceived true (v.map Prod.fst) result])
    | none => none
  | .iterate round, .visit i =>
    match round.pending[i]? with
    | some conn =>
      let round := { round with pending := round.pending.eraseIdx i }
      if conn ∈ s.connections then
        some (s.setThread t (.broadcastResults ctx (.write round conn)),
          [.writeStart conn (.result round.result)])
      else some (s.setThread t (.broadcastResults ctx (.iterate round)), [])
    | none => none
  | .iterate round, .go =>
    if round.pending = [] then
      some ({ s with readers := s.readers - 1 }.setThread t (.broadcastResults ctx .select), [])
    else none
  | .write round conn, .write ok =>
    if ok && !s.socketClosed conn then
      some (s.setThread t (.broadcastResults ctx (.iterate { round with written := round.written ++ [conn] })),
        [.writeEnd conn true])
    else
      some (((s.closeSocket conn).deregister conn).setThread t (.broadcastResults ctx
          (.iterate { round with written := round.written ++ [conn], failed := round.failed ++ [conn] })),
        .writeEnd conn false :: .connClosed conn :: s.deregisterEvents conn)
  -- the deferred `RUnlock` runs as the panic unwinds
  | .write _ conn, .collide =>
    if 2 ≤ s.writers conn then
      some ({ s with readers := s.readers - 1, crashed := true }.setThread t .exited,
        [.panic (.concurrentWrite conn)])
    else none
  | _, _ => none

def handleWebSocketStep (s : Sys) (t conn : Nat) : HandlerPc → Choice → Option (Sys × List Event)
  | .sendConfig, .go =>
    some (s.setThread t (.handleWebSocket conn .writeConfig), [.writeStart conn (.config s.config)])
  | .writeConfig, .write ok =>
    let ok := ok && !s.socketClosed conn
    some (s.setThread t (.handleWebSocket conn (if ok then .read else .teardown)), [.writeEnd conn ok])
  | .writeConfig, .collide =>
    if 2 ≤ s.writers conn then
      some ({ s with crashed := true }.setThread t .exited, [.panic (.concurrentWrite conn)])
    else none
  | .read, .read .error => some (s.setThread t (.handleWebSocket conn .teardown), [])
  | .read, .read .malformed => if s.socketClosed conn then none else some (s, [])
  | .read, .read (.samples data) =>
    if s.socketClosed conn then none
    else some (s.setThread t (.handleWebSocket conn (.submit data .check)), [])
  | .submit data pc, .go =>
    match submitStep s data pc with
    | (.next, _) => some (s.setThread t (.handleWebSocket conn (.submit data .send)), [])
    | (.returned err, queue) =>
      some ({ s with audioQueue := queue }.setThread t (.handleWebSocket conn .read),
        [.processAudio data err])
    | (.panicked, _) =>
      some ({ s with crashed := true }.setThread t .exited, [.panic (.sendOnClosedChannel .audioQueue)])
  | .teardown, .go =>
    if s.readers = 0 then
      some (((s.deregister conn).closeSocket conn).setThread t .exited,
        s.deregisterEvents conn ++ [.connClosed conn])
    else none
  | _, _ => none

def transcribeHandlerStep (s : Sys) (t : Nat) : RequestPc → Choice → Option (Sys × List Event)
  | .submit data pc, .go =>
    match submitStep s data pc with
    | (.next, _) => some (s.setThread t (.transcribeHandler (.submit data .send)), [])
    | (.returned none, queue) =>
      some ({ s with audioQueue := queue }.setThread t (.transcribeHandler .await),
        [.processAudio data none])
    | (.returned (some err), queue) =>
      some ({ s with audioQueue := queue }.setThread t (.transcribeHandler (.responded (.error 500 err))),
        [.processAudio data (some err)])
    | (.panicked, _) =>
      some (s.setThread t (.transcribeHandler (.responded .dropped)),
        [.panic (.sendOnClosedChannel .audioQueue)])
  | .await, .receive =>
    match s.results.recv with
    | some (v, results) =>
      let result := (v.map Prod.snd).getD .zero
      some ({ s with results := results }.setThread t (.transcribeHandler (.responded (.json result))),
        [.resultReceived false (v.map Prod.fst) result])
    | none => none
  | _, _ => none

def threadStep (s : Sys) (t : Nat) : Thread → Choice → Option (Sys × List Event)
  | .processAudio ctx audioBuffer, c => processAudioStepAt s t ctx audioBuffer c
  | .transcribeAudio window pc, c => transcribeAudioStep s t window pc c
  | .broadcastResults ctx pc, c => broadcastResultsStep s t ctx pc c
  | .handleWebSocket conn pc, c => handleWebSocketStep s t conn pc c
  | .transcribeHandler pc, c => transcribeHandlerStep s t pc c
  | .exited, _ => none

namespace Sys

def initializeService (s : Sys) : Option (Sys × List Event) :=
  if s.mu ≠ none then none
  else if s.running then some (s, [.initialized false])
  else
    let ctx := s.contexts.length
    some (({ s with running := true, contexts := s.contexts ++ [false], cancelFunc := some ctx }.spawn
        (.processAudio ctx [])).spawn (.broadcastResults ctx .select), [.initialized true])

def closeConnections (s : Sys) : List Nat → Sys × List Event
  | [] => (s, [])
  | conn :: rest =>
    let (s', more) := ((s.closeSocket conn).deregister conn).closeConnections rest
    (s', .connClosed conn :: s.deregisterEvents conn ++ more)

@[simps]
def stop (s : Sys) : Sys :=
  { s with
    contexts := match s.cancelFunc with
      | some ctx => s.contexts.set ctx true
      | none => s.contexts
    running := false }

def closeChannels (s : Sys) (evs : List Event) : Sys × List Event :=
  match s.audioQueue.close, s.results.close with
  | some audioQueue, some results =>
    ({ s with audioQueue := audioQueue, results := results, model := false }, evs)
  | none, _ => ({ s with crashed := true }, evs ++ [.panic (.closeOfClosedChannel .audioQueue)])
  | some audioQueue, none =>
    ({ s with audioQueue := audioQueue, crashed := true },
      evs ++ [.panic (.closeOfClosedChannel .results)])

def close (s : Sys) : Option (Sys × List Event) :=
  if s.mu ≠ none ∨ s.readers ≠ 0 then none
  else
    let stopped := s.stop.closeConnections s.connections
    some (stopped.1.closeChannels (.close :: stopped.2))

def addWebSocket (s : Sys) : Option (Sys × List Event) :=
  if s.readers ≠ 0 then none
  else
    let conn := s.sockets.length
    some ({ s with sockets := s.sockets ++ [false], connections := s.connections ++ [conn] }.spawn
      (.handleWebSocket conn .sendConfig), [.registered conn])

def transcribeHandler (s : Sys) (method : String) (body : Option Samples) : Sys × List Event :=
  let pc : RequestPc :=
    if method ≠ "POST" then .responded (.error 405 "Method not allowed")
    else match body with
      | none => .responded (.error 400 "Invalid request body")
      | some data => .submit data .check
  (s.spawn (.transcribeHandler pc), [])

end Sys

def step (s : Sys) (a : Act) : Option (Sys × List Event) :=
  if s.crashed then none
  else match a with
    | .initializeService => s.initializeService
    | .close => s.close
    | .addWebSocket => s.addWebSocket
    | .transcribeHandler method body => some (s.transcribeHandler method body)
    | .run t c => threadStep s t (s.thread t) c

inductive Run (cfg : Config) : Sys → List Event → Prop where
  | init : Run cfg (Sys.initial cfg) []
  | step {s s' : Sys} {tr evs : List Event} (a : Act) :
      Run cfg s tr → step s a = some (s', evs) → Run cfg s' (tr ++ evs)

def runActs (s : Sys) (tr : List Event) : List Act → Option (Sys × List Event)
  | [] => some (s, tr)
  | a :: rest =>
    match step s a with
    | some (s', evs) => runActs s' (tr ++ evs) rest
    | none => none

theorem run_of_runActs {cfg : Config} {s s' : Sys} {tr tr' : List Event} (acts : List Act)
    (start : Run cfg s tr) (ran : runActs s tr acts = some (s', tr')) : Run cfg s' tr' := by
  induction acts generalizing s tr with
  | nil => simp only [runActs, Option.some.injEq, Prod.mk.injEq] at ran; obtain ⟨rfl, rfl⟩ := ran; exact start
  | cons a rest ih =>
    simp only [runActs] at ran
    split at ran
    next s1 evs stepped => exact ih (Run.step a start stepped) ran
    next => cases ran

def shortWindows : Config := { defaultConfig with sampleRate := 1 }

theorem exists_run_of_runActs (cfg : Config) (acts : List Act) (check : Sys → List Event → Bool)
    (ok : ((runActs (Sys.initial cfg) [] acts).map fun p => check p.1 p.2) = some true) :
    ∃ s tr, Run cfg s tr ∧ check s tr = true := by
  obtain ⟨⟨s, tr⟩, ran, checked⟩ := Option.map_eq_some'.mp ok
  exact ⟨s, tr, run_of_runActs acts .init ran, checked⟩

end Alfred.Whisper
