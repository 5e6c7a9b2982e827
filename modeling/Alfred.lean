import Alfred.Strings
import Alfred.Whisper.Basic
import Alfred.Whisper.Transcript
import Alfred.Whisper.Accumulator
import Alfred.Whisper.Service
import Alfred.Whisper.Step
import Alfred.Whisper.Frame
import Alfred.Whisper.Footprint
import Alfred.Whisper.Engine
import Alfred.Whisper.Results
import Alfred.Whisper.Lifecycle
import Alfred.Whisper.Ingest
import Alfred.Whisper.Requests
import Alfred.Whisper.Registry
import Alfred.Whisper.Connections
import Alfred.Tts.Verbal
import Alfred.Whisper.Refinement
import Alfred.Whisper.Panics
import Alfred.Tts.Spoken
import Alfred.Frontend.WakeWord
