import Alfred.Whisper.Basic

set_option autoImplicit false

namespace Alfred.Whisper

open Alfred.Strings

def transcript (segments : List GoString) : GoString :=
  segments.foldl (fun out seg => out ++ seg ++ lit " ") []

def wakePhrases : List GoString :=
  [lit "initiate alfred protocol", lit "hi alfred", lit "hey alfred"]

def isWakeWord (text : GoString) : Bool :=
  let lowerText := toLower (trimSpace text)
  wakePhrases.any (contains lowerText)

def transcriptionResult (text : GoString) : TranscriptionResult :=
  { text := text, isFinal := true, isWakeWord := isWakeWord text }

theorem wakePhrases_framed : ∀ p ∈ wakePhrases, ∀ c ∈ spaceRunes, ∀ b ∈ String.utf8EncodeChar c,
    p.head? ≠ some b ∧ p.getLast? ≠ some b := by
  decide

theorem wakePhrases_spaces {pre post : List Char} (spaces : ∀ c ∈ pre ++ post, c ∈ spaceRunes)
    (s : GoString) :
    wakePhrases.any (contains (toLower (encode pre ++ s ++ encode post))) =
      wakePhrases.any (contains (toLower s)) := by
  rw [List.forall_mem_append] at spaces
  have outside : ∀ p ∈ wakePhrases, ∀ {runes : List Char}, (∀ c ∈ runes, c ∈ spaceRunes) →
      ∀ b ∈ encode runes, p.head? ≠ some b ∧ p.getLast? ≠ some b := fun p mem runes inside b inEnc => by
    obtain ⟨c, inRunes, inChar⟩ := mem_encode.mp inEnc
    exact wakePhrases_framed p mem c (inside c inRunes) b inChar
  rw [toLower_spaces (List.forall_mem_append.mpr spaces), Bool.eq_iff_iff, List.any_eq_true,
    List.any_eq_true]
  refine exists_congr fun p => and_congr_right fun mem => ?_
  rw [contains_frame (fun b inPre => (outside p mem spaces.1 b inPre).1)
    (fun b inPost => (outside p mem spaces.2 b inPost).2)]

theorem wake_word_is_lower_case_containment :
    (∀ t : GoString, (transcriptionResult t).isWakeWord = wakePhrases.any (contains (toLower t))) ∧
      (∀ t t' : GoString, t.map asciiLower = t'.map asciiLower →
        (transcriptionResult t).isWakeWord = (transcriptionResult t').isWakeWord) ∧
      ∀ (t : GoString) (pre post pre' post' : List Char),
        (∀ c ∈ pre ++ post ++ pre' ++ post', c ∈ spaceRunes) →
        (transcriptionResult (encode pre ++ t ++ encode post)).isWakeWord =
          (transcriptionResult (encode pre' ++ t ++ encode post')).isWakeWord := by
  have lower : ∀ t, isWakeWord t = wakePhrases.any (contains (toLower t)) := fun t => by
    obtain ⟨pre, post, spaces, rejoin⟩ := trimSpace_spaces t
    conv_rhs => rw [← rejoin]
    rw [wakePhrases_spaces spaces]
    rfl
  refine ⟨lower, fun t t' same => ?_, fun t pre post pre' post' spaces => ?_⟩
  · simp only [transcriptionResult, lower, ← toLower_map_asciiLower t, same, toLower_map_asciiLower]
  · simp only [List.forall_mem_append] at spaces
    simp only [transcriptionResult, lower,
      wakePhrases_spaces (List.forall_mem_append.mpr ⟨spaces.1.1.1, spaces.1.1.2⟩),
      wakePhrases_spaces (List.forall_mem_append.mpr ⟨spaces.1.2, spaces.2⟩)]

theorem wake_word_is_lower_case_containment_hey :
    (transcriptionResult (lit " Hey ALFRED, are you up?")).isWakeWord = true ∧
      (transcriptionResult (lit "Hello Alfred")).isWakeWord = false ∧
      (lit "Hey ALFRED").map asciiLower = (lit "hey alfred").map asciiLower ∧
      (transcriptionResult (lit "Hey ALFRED")).isWakeWord =
        (transcriptionResult (lit "hey alfred")).isWakeWord :=
  ⟨by rw [wake_word_is_lower_case_containment.1]; decide,
    by rw [wake_word_is_lower_case_containment.1]; decide,
    by decide, wake_word_is_lower_case_containment.2.1 _ _ (by decide)⟩

end Alfred.Whisper
