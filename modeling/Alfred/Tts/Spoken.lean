import Alfred.Tts.Verbal

set_option autoImplicit false

namespace Alfred.Tts

open Alfred.Strings

theorem openTag_unbordered : Unbordered openTag := by
  unfold Unbordered; decide

theorem closeTag_unbordered : Unbordered closeTag := by
  unfold Unbordered; decide

theorem infix_of_verbalContent {text content : GoString} (found : verbalContent text = some content) :
    content <:+: text := by
  unfold verbalContent at found
  split at found
  · cases found
  · obtain ⟨j, -, rfl⟩ := Option.map_eq_some'.mp found
    exact (List.take_prefix _ _).isInfix.trans (List.drop_suffix _ _).isInfix

theorem extractVerbalResponse_tagged (pre content post : GoString) (firstOpen : ¬ openTag <:+: pre)
    (firstClose : ¬ closeTag <:+: content) :
    extractVerbalResponse (pre ++ openTag ++ content ++ closeTag ++ post) = trimSpace content := by
  have opened : index (pre ++ openTag ++ content ++ closeTag ++ post) openTag = some pre.length := by
    simpa only [List.append_assoc] using
      index_append_of_unbordered (content ++ closeTag ++ post) openTag_unbordered firstOpen
  have closed : index (content ++ closeTag ++ post) closeTag = some content.length :=
    index_append_of_unbordered post closeTag_unbordered firstClose
  have rest : (pre ++ openTag ++ content ++ closeTag ++ post).drop (pre.length + openTag.length) =
      content ++ closeTag ++ post := by
    simp only [List.append_assoc, ← List.drop_drop, List.drop_left]
  have found : verbalContent (pre ++ openTag ++ content ++ closeTag ++ post) = some content := by
    rw [verbalContent, opened]
    dsimp only
    rw [rest, closed, Option.map_some', List.append_assoc, List.take_left]
  rw [extractVerbalResponse, found]

theorem extractVerbalResponse_tagged_hello : ¬ openTag <:+: lit "Sure. " ∧
    ¬ closeTag <:+: lit " Hello " ∧
    extractVerbalResponse (lit "Sure. " ++ openTag ++ lit " Hello " ++ closeTag ++ lit " Bye") =
      trimSpace (lit " Hello ") :=
  have firstOpen : ¬ openTag <:+: lit "Sure. " := by decide
  have firstClose : ¬ closeTag <:+: lit " Hello " := by decide
  ⟨firstOpen, firstClose, extractVerbalResponse_tagged _ _ _ firstOpen firstClose⟩

theorem isPrefix_firstParagraph (text : GoString) : firstParagraph text <+: text := by
  rw [firstParagraph, List.headD_eq_head?_getD, split_head]
  split
  · exact List.take_prefix _ _
  · exact List.prefix_refl _

theorem extractVerbalResponse_length_le (text : GoString) :
    (extractVerbalResponse text).length ≤ text.length := by
  have paragraph := (isPrefix_firstParagraph text).length_le
  unfold extractVerbalResponse
  split
  · next content found =>
    exact (infix_trimSpace _).length_le.trans (infix_of_verbalContent found).length_le
  · dsimp only
    set sentences := splitSentences (firstParagraph text) 6
    split
    · exact (infix_trimSpace _).length_le.trans paragraph
    · split
      · calc (trimSpace (join (sentences.take (min 5 sentences.length)) (lit ". "))).length
            ≤ (join (sentences.take (min 5 sentences.length)) (lit ". ")).length :=
              (infix_trimSpace _).length_le
          _ ≤ (join sentences (lit ". ")).length := (isPrefix_join_take _ _ _).length_le
          _ ≤ (firstParagraph text).length := join_splitSentencesAux_length 6 _
          _ ≤ text.length := paragraph
      · exact le_rfl

theorem extractVerbalResponse_unspaced (text : GoString) :
    leadingSpace (extractVerbalResponse text) = none ∧
      trailingSpace (extractVerbalResponse text) = none := by
  unfold extractVerbalResponse
  split
  · exact trimSpace_unspaced _
  · dsimp only
    split
    · exact trimSpace_unspaced _
    · split
      · exact trimSpace_unspaced _
      · next none => exact absurd (List.length_pos.mpr (splitSentencesAux_ne_nil 6 _)) none

theorem infix_of_mem_splitSentencesAux {n : Nat} {s p : GoString} (mem : p ∈ splitSentencesAux n s) :
    p <:+: s := by
  induction n using Nat.strong_induction_on generalizing s with
  | _ n ih =>
    match n with
    | 0 | 1 => simp only [splitSentencesAux, List.mem_singleton] at mem; exact mem ▸ List.infix_refl s
    | n + 2 =>
      unfold splitSentencesAux at mem
      split at mem
      · next i m found =>
        rcases List.mem_cons.mp mem with rfl | later
        · exact (List.take_prefix i s).isInfix
        · exact (ih (n + 1) (by omega) later).trans (List.drop_suffix _ s).isInfix
      · simp only [List.mem_singleton] at mem; exact mem ▸ List.infix_refl s

theorem not_infix_firstParagraph (text : GoString) : ¬ paragraphBreak <:+: firstParagraph text := by
  rw [firstParagraph, List.headD_eq_head?_getD, split_head]
  cases found : index text paragraphBreak with
  | none =>
    intro inside
    simp [← contains_eq_true_iff, contains, found] at inside
  | some i => exact not_infix_take_index (by decide) found

theorem not_infix_join {l : List GoString} (clean : ∀ p ∈ l, ¬ paragraphBreak <:+: p) :
    ¬ paragraphBreak <:+: join l (lit ". ") := by
  induction l with
  | nil => exact fun inside => absurd (List.eq_nil_of_infix_nil inside) (by decide)
  | cons p rest ih =>
    rw [List.forall_mem_cons] at clean
    cases rest with
    | nil => exact clean.1
    | cons q rest =>
      have dot : lit ". " = [0x2E, 0x20] := rfl
      have pair : paragraphBreak = [0x0A, 0x0A] := rfl
      rw [join_cons p (List.cons_ne_nil q rest), List.append_assoc, pair]
      intro inside
      rcases pair_infix_append inside with inP | inRest | ⟨-, head⟩
      · exact clean.1 (pair ▸ inP)
      · rw [dot] at inRest
        rcases pair_infix_append inRest with inDot | inJoin | ⟨last, -⟩
        · exact absurd inDot (by decide)
        · exact ih clean.2 (pair ▸ inJoin)
        · simp at last
      · simp [dot] at head

theorem extractVerbalResponse_one_paragraph (text : GoString)
    (untagged : ∀ a b c, text ≠ a ++ openTag ++ b ++ closeTag ++ c) :
    ¬ paragraphBreak <:+: extractVerbalResponse text := by
  have paragraph := not_infix_firstParagraph text
  intro inside
  simp only [extractVerbalResponse, verbalContent_none untagged] at inside
  split at inside
  · exact paragraph (inside.trans (infix_trimSpace _))
  · split at inside
    · refine not_infix_join (fun p mem => ?_) (inside.trans (infix_trimSpace _))
      exact fun inP => paragraph (inP.trans (infix_of_mem_splitSentencesAux (List.mem_of_mem_take mem)))
    · next none => exact absurd (List.length_pos.mpr (splitSentencesAux_ne_nil 6 _)) none

theorem extractVerbalResponse_one_paragraph_hi :
    (∀ a b c, lit "Hi.\n\nBye." ≠ a ++ openTag ++ b ++ closeTag ++ c) ∧
      ¬ paragraphBreak <:+: extractVerbalResponse (lit "Hi.\n\nBye.") :=
  have untagged : ∀ a b c, lit "Hi.\n\nBye." ≠ a ++ openTag ++ b ++ closeTag ++ c :=
    untagged_of_no_bracket (by decide)
  ⟨untagged, extractVerbalResponse_one_paragraph _ untagged⟩

structure TTSRequest where
  text : GoString
  extractVerbal : Bool
  deriving DecidableEq, Repr

inductive Synthesis where
  | error (status : Nat) (message : String)
  | speak (text : GoString)
  deriving DecidableEq, Repr

-- `ready` is `GetTTSService() != nil`, and `body` is `none` when the JSON does not decode
def synthesizeHandler (method : String) (ready : Bool) (body : Option TTSRequest) : Synthesis :=
  if method ≠ "POST" then .error 405 "Method not allowed"
  else if !ready then .error 503 "TTS service not initialized"
  else match body with
    | none => .error 400 "Invalid request"
    | some req =>
      if req.text = [] then .error 400 "Text is required"
      else .speak (if req.extractVerbal then extractVerbalResponse req.text else req.text)

theorem synthesizeHandler_speak {method : String} {ready : Bool} {body : Option TTSRequest}
    {spoken : GoString} (speaks : synthesizeHandler method ready body = .speak spoken) :
    ∃ req, method = "POST" ∧ ready = true ∧ body = some req ∧ req.text ≠ [] ∧
      spoken = if req.extractVerbal then extractVerbalResponse req.text else req.text := by
  unfold synthesizeHandler at speaks
  split at speaks
  · cases speaks
  · split at speaks
    · cases speaks
    · next post notReady =>
      split at speaks
      · cases speaks
      · next req =>
        split at speaks
        · cases speaks
        · next nonempty =>
          cases speaks
          exact ⟨req, not_not.mp post, by simpa using notReady, rfl, nonempty, rfl⟩

end Alfred.Tts
