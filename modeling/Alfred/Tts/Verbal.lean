import Alfred.Strings

set_option autoImplicit false

namespace Alfred.Tts

open Alfred.Strings

def openTag : GoString := lit "[[VERBAL]]"

def closeTag : GoString := lit "[[/VERBAL]]"

def verbalContent (text : GoString) : Option GoString :=
  match index text openTag with
  | none => none
  | some i =>
    let rest := text.drop (i + openTag.length)
    (index rest closeTag).map rest.take

def isTerminator (b : UInt8) : Bool := b == 0x2E || b == 0x21 || b == 0x3F

def isPerlSpace (b : UInt8) : Bool := b == 0x09 || b == 0x0A || b == 0x0C || b == 0x0D || b == 0x20

def matchAt (s : GoString) : Option Nat :=
  let terminators := s.takeWhile isTerminator
  let spaces := (s.dropWhile isTerminator).takeWhile isPerlSpace
  if terminators ≠ [] ∧ spaces ≠ [] then some (terminators.length + spaces.length) else none

def findMatch : GoString → Option (Nat × Nat)
  | [] => none
  | b :: rest =>
    match matchAt (b :: rest) with
    | some n => some (0, n)
    | none => (findMatch rest).map fun m => (m.1 + 1, m.2)

def splitSentencesAux : Nat → GoString → List GoString
  | 0, s | 1, s => [s]
  | n + 2, s =>
    match findMatch s with
    | some (i, m) => s.take i :: splitSentencesAux (n + 1) (s.drop (i + m))
    | none => [s]

def splitSentences (s : GoString) (n : Int) : List GoString :=
  if n = 0 then [] else splitSentencesAux (if n < 0 then s.length + 1 else n.toNat) s

def paragraphBreak : GoString := lit "\n\n"

def firstParagraph (text : GoString) : GoString := (split text paragraphBreak).headD []

def extractVerbalResponse (text : GoString) : GoString :=
  match verbalContent text with
  | some content => trimSpace content
  | none =>
    let firstParagraph := firstParagraph text
    if firstParagraph.length < 1000 then trimSpace firstParagraph
    else
      let sentences := splitSentences firstParagraph 6
      if 0 < sentences.length then
        let count := min 5 sentences.length
        trimSpace (join (sentences.take count) (lit ". "))
      else text

def seam (b : UInt8) (rest : GoString) : Nat :=
  match rest.head? with
  | some c => if isTerminator b && isPerlSpace c then 1 else 0
  | none => 0

def boundaries : GoString → Nat
  | [] => 0
  | b :: rest => seam b rest + boundaries rest

theorem isTerminator_of_isPerlSpace {c : UInt8} (space : isPerlSpace c = true) :
    isTerminator c = false := by
  simp only [isPerlSpace, Bool.or_eq_true, beq_iff_eq] at space
  rcases space with (((rfl | rfl) | rfl) | rfl) | rfl <;> rfl

theorem seam_append {b : UInt8} {rest : GoString} (nonempty : rest ≠ []) (more : GoString) :
    seam b (rest ++ more) = seam b rest := by
  obtain ⟨c, rest, rfl⟩ := List.exists_cons_of_ne_nil nonempty
  rfl

theorem le_boundaries_append (a b : GoString) : boundaries a + boundaries b ≤ boundaries (a ++ b) := by
  induction a with
  | nil => simp [boundaries]
  | cons x a ih =>
    rw [List.cons_append, boundaries, boundaries]
    rcases eq_or_ne a [] with rfl | nonempty
    · simp [seam, boundaries]
    · rw [seam_append nonempty]
      omega

theorem infix_boundaries_le {x y : GoString} (inside : x <:+: y) : boundaries x ≤ boundaries y := by
  obtain ⟨a, b, rfl⟩ := inside
  have := le_boundaries_append (a ++ x) b
  have := le_boundaries_append a x
  omega

theorem boundaries_append_of_seam (a b : GoString) (noSeam : ∀ x ∈ a.getLast?, seam x b = 0) :
    boundaries (a ++ b) = boundaries a + boundaries b := by
  induction a with
  | nil => simp [boundaries]
  | cons x a ih =>
    rw [List.cons_append, boundaries, boundaries]
    rcases eq_or_ne a [] with rfl | nonempty
    · simp only [List.getLast?_singleton, Option.mem_def, Option.some.injEq, forall_eq'] at noSeam
      rw [List.nil_append, noSeam]
      simp [seam, boundaries]
    · obtain ⟨z, a, rfl⟩ := List.exists_cons_of_ne_nil nonempty
      rw [seam_append nonempty, ih fun y mem => noSeam y (by rwa [List.getLast?_cons_cons])]
      omega

theorem matchAt_some {s : GoString} {n : Nat} (matched : matchAt s = some n) :
    2 ≤ n ∧ n ≤ s.length ∧ 1 ≤ boundaries (s.take n) := by
  simp only [matchAt] at matched
  split at matched
  · next nonempty =>
    cases matched
    obtain ⟨terminators, spaces⟩ := nonempty
    obtain ⟨T, x, hT⟩ := (List.eq_nil_or_concat _).resolve_left terminators
    rw [List.concat_eq_append] at hT
    obtain ⟨y, W, hW⟩ := List.exists_cons_of_ne_nil spaces
    have last : isTerminator x = true := List.mem_takeWhile_imp (by rw [hT]; simp)
    have first : isPerlSpace y = true := List.mem_takeWhile_imp (by rw [hW]; simp)
    have whole : s = T ++ [x] ++ (y :: W ++ (s.dropWhile isTerminator).dropWhile isPerlSpace) := by
      rw [← hT, ← hW, List.takeWhile_append_dropWhile, List.takeWhile_append_dropWhile]
    rw [hT, hW]
    simp only [List.length_append, List.length_singleton, List.length_cons]
    refine ⟨by omega, ?_, ?_⟩
    · conv_rhs => rw [whole]
      simp only [List.length_append, List.length_singleton, List.length_cons]
      omega
    · rw [whole, ← List.append_assoc, List.take_left' (by
        simp only [List.length_append, List.length_singleton, List.length_cons])]
      calc 1 = boundaries [x, y] := by simp [boundaries, seam, last, first]
        _ ≤ _ := infix_boundaries_le ⟨T, W, by simp⟩
  · cases matched

theorem seam_of_matchAt_none {b : UInt8} {rest : GoString} (none : matchAt (b :: rest) = none) :
    seam b rest = 0 := by
  unfold seam
  split
  · next c head =>
    obtain ⟨rest, rfl⟩ : ∃ tail, rest = c :: tail := by
      cases rest with
      | nil => cases head
      | cons _ tail => cases head; exact ⟨tail, rfl⟩
    split
    · next both =>
      rw [Bool.and_eq_true] at both
      simp [matchAt, List.takeWhile_cons, List.dropWhile_cons, both.1, both.2,
        isTerminator_of_isPerlSpace both.2] at none
    · rfl
  · rfl

theorem findMatch_some {s : GoString} {i n : Nat} (found : findMatch s = some (i, n)) :
    matchAt (s.drop i) = some n ∧ boundaries (s.take i) = 0 := by
  induction s generalizing i with
  | nil => cases found
  | cons b rest ih =>
    unfold findMatch at found
    split at found
    · next matched => cases found; exact ⟨matched, rfl⟩
    · next none =>
      obtain ⟨⟨j, n'⟩, later, shifted⟩ := Option.map_eq_some'.mp found
      cases shifted
      obtain ⟨matched, clean⟩ := ih later
      refine ⟨matched, ?_⟩
      rw [List.take_succ_cons, boundaries, clean]
      rcases eq_or_ne (rest.take j) [] with empty | nonempty
      · simp [empty, seam]
      · have same : seam b rest = seam b (rest.take j) := by
          conv_lhs => rw [← List.take_append_drop j rest]
          exact seam_append nonempty _
        rw [← same, seam_of_matchAt_none none]

theorem findMatch_none {s : GoString} (none : findMatch s = none) : boundaries s = 0 := by
  induction s with
  | nil => rfl
  | cons b rest ih =>
    unfold findMatch at none
    split at none
    · cases none
    · next unmatched =>
      rw [boundaries, seam_of_matchAt_none unmatched, ih (Option.map_eq_none'.mp none)]

theorem findMatch_rest {s : GoString} {i n : Nat} (found : findMatch s = some (i, n)) :
    2 ≤ n ∧ i + n ≤ s.length ∧ boundaries (s.drop (i + n)) + 1 ≤ boundaries s := by
  obtain ⟨matched, -⟩ := findMatch_some found
  obtain ⟨two, within, holds⟩ := matchAt_some matched
  have split : s = s.take i ++ ((s.drop i).take n ++ s.drop (i + n)) := by
    rw [← List.drop_drop, List.take_append_drop, List.take_append_drop]
  refine ⟨two, by rw [List.length_drop] at within; omega, ?_⟩
  have := le_boundaries_append (s.take i) ((s.drop i).take n ++ s.drop (i + n))
  have := le_boundaries_append ((s.drop i).take n) (s.drop (i + n))
  rw [← split] at *
  omega

theorem splitSentencesAux_ne_nil (n : Nat) (s : GoString) : splitSentencesAux n s ≠ [] := by
  match n with
  | 0 | 1 => simp [splitSentencesAux]
  | n + 2 =>
    unfold splitSentencesAux
    split <;> simp

theorem splitSentencesAux_length (n : Nat) (s : GoString) :
    (splitSentencesAux n s).length ≤ boundaries s + 1 := by
  induction n using Nat.strong_induction_on generalizing s with
  | _ n ih =>
    match n with
    | 0 | 1 => simp [splitSentencesAux]
    | n + 2 =>
      unfold splitSentencesAux
      split
      · next i m found =>
        have := (findMatch_rest found).2.2
        have := ih (n + 1) (by omega) (s.drop (i + m))
        simp only [List.length_cons]
        omega
      · simp

theorem splitSentencesAux_clean (n : Nat) (s : GoString) :
    ∀ p ∈ (splitSentencesAux (n + 1) s).take n, boundaries p = 0 := by
  induction n generalizing s with
  | zero => simp
  | succ n ih =>
    unfold splitSentencesAux
    split
    · next i m found =>
      intro p mem
      rcases List.mem_cons.mp (by simpa using mem) with rfl | later
      exacts [(findMatch_some found).2, ih _ p later]
    · next none =>
      intro p mem
      rw [List.take_succ_cons, List.take_nil, List.mem_singleton] at mem
      exact mem ▸ findMatch_none none

theorem join_splitSentencesAux_length (n : Nat) (s : GoString) :
    (join (splitSentencesAux n s) (lit ". ")).length ≤ s.length := by
  induction n using Nat.strong_induction_on generalizing s with
  | _ n ih =>
    match n with
    | 0 | 1 => simp [splitSentencesAux, join]
    | n + 2 =>
      unfold splitSentencesAux
      split
      · next i m found =>
        obtain ⟨two, within, -⟩ := findMatch_rest found
        have rest := ih (n + 1) (by omega) (s.drop (i + m))
        rw [join_cons _ (splitSentencesAux_ne_nil _ _)]
        simp only [List.length_append, List.length_take, List.length_drop] at rest ⊢
        have dot : (lit ". ").length = 2 := rfl
        omega
      · simp [join]

theorem boundaries_join {l : List GoString} (clean : ∀ p ∈ l, boundaries p = 0) :
    boundaries (join l (lit ". ")) = l.length - 1 := by
  induction l with
  | nil => rfl
  | cons p rest ih =>
    rw [List.forall_mem_cons] at clean
    cases rest with
    | nil => exact clean.1
    | cons q rest =>
      have dotBytes : lit ". " = [0x2E, 0x20] := rfl
      have dot : ∀ J, boundaries (lit ". " ++ J) = 1 + boundaries J := fun J => by
        have blank : seam 0x20 J = 0 := by unfold seam; split <;> rfl
        have meets : seam 0x2E (0x20 :: J) = 1 := rfl
        rw [dotBytes, List.cons_append, List.cons_append, List.nil_append, boundaries, boundaries,
          blank, meets, Nat.zero_add]
      rw [join_cons p (List.cons_ne_nil q rest), List.append_assoc,
        boundaries_append_of_seam _ _ fun x _ => by
          rw [dotBytes, List.cons_append]; unfold seam; cases isTerminator x <;> rfl,
        dot, clean.1, ih clean.2]
      simp only [List.length_cons]
      omega

theorem verbalContent_none {text : GoString}
    (untagged : ∀ a b c, text ≠ a ++ openTag ++ b ++ closeTag ++ c) : verbalContent text = none := by
  unfold verbalContent
  split
  · rfl
  · next i opened =>
    dsimp only
    cases closed : index (text.drop (i + openTag.length)) closeTag with
    | none => rfl
    | some j =>
      have whole := index_some opened
      rw [← index_some closed] at whole
      exact (untagged (text.take i) ((text.drop (i + openTag.length)).take j)
        ((text.drop (i + openTag.length)).drop (j + closeTag.length))
        (by simpa only [List.append_assoc] using whole.symm)).elim

theorem untagged_of_no_bracket {text : GoString} (noBracket : (0x5B : UInt8) ∉ text) :
    ∀ a b c, text ≠ a ++ openTag ++ b ++ closeTag ++ c := by
  rintro a b c rfl
  have bracket : (0x5B : UInt8) ∈ openTag := by decide
  simp [bracket] at noBracket

theorem firstParagraph_of_no_break {text : GoString} (noBreak : (0x0A : UInt8) ∉ text) :
    firstParagraph text = text := by
  have unbroken : index text paragraphBreak = none := by
    rw [← Option.not_isSome_iff_eq_none]
    intro found
    exact noBreak (((contains_eq_true_iff _ _).mp found).subset (by decide))
  rw [firstParagraph, List.headD_eq_head?_getD, split_head, unbroken]
  rfl

theorem extractVerbalResponse_five_sentences (text : GoString)
    (untagged : ∀ a b c, text ≠ a ++ openTag ++ b ++ closeTag ++ c)
    (long : 1000 ≤ (firstParagraph text).length) :
    (extractVerbalResponse text).length ≤ (firstParagraph text).length ∧
      (splitSentences (extractVerbalResponse text) (-1)).length ≤ 5 := by
  set pieces := splitSentencesAux 6 (firstParagraph text)
  have six : splitSentences (firstParagraph text) 6 = pieces := rfl
  have result : extractVerbalResponse text = trimSpace (join (pieces.take 5) (lit ". ")) := by
    have nonempty : 0 < pieces.length := List.length_pos.mpr (splitSentencesAux_ne_nil 6 _)
    simp only [extractVerbalResponse, verbalContent_none untagged, six,
      if_neg (show ¬ (firstParagraph text).length < 1000 by omega), if_pos nonempty]
    rw [List.take_eq_take.mpr
      (show min (min 5 pieces.length) pieces.length = min 5 pieces.length by omega)]
  obtain ⟨pre, post, -, trimmed⟩ := trimSpace_spaces (join (pieces.take 5) (lit ". "))
  have inside : extractVerbalResponse text <:+: join (pieces.take 5) (lit ". ") :=
    ⟨encode pre, encode post, result ▸ trimmed⟩
  constructor
  · calc (extractVerbalResponse text).length
        ≤ (join (pieces.take 5) (lit ". ")).length := inside.length_le
      _ ≤ (join pieces (lit ". ")).length := (isPrefix_join_take pieces _ 5).length_le
      _ ≤ (firstParagraph text).length := join_splitSentencesAux_length 6 _
  · have joined : boundaries (join (pieces.take 5) (lit ". ")) = (pieces.take 5).length - 1 :=
      boundaries_join (splitSentencesAux_clean 5 (firstParagraph text))
    calc (splitSentences (extractVerbalResponse text) (-1)).length
        ≤ boundaries (extractVerbalResponse text) + 1 := splitSentencesAux_length _ _
      _ ≤ boundaries (join (pieces.take 5) (lit ". ")) + 1 :=
        Nat.add_le_add_right (infix_boundaries_le inside) 1
      _ ≤ 5 := by rw [joined]; have := List.length_take_le 5 pieces; omega

theorem extractVerbalResponse_five_sentences_seven :
    (∀ a b c, List.replicate 1000 0x61 ++ lit ". B. C. D. E. F. G." ≠
        a ++ openTag ++ b ++ closeTag ++ c) ∧
      1000 ≤ (firstParagraph (List.replicate 1000 0x61 ++ lit ". B. C. D. E. F. G.")).length ∧
      (extractVerbalResponse (List.replicate 1000 0x61 ++ lit ". B. C. D. E. F. G.")).length ≤
        (firstParagraph (List.replicate 1000 0x61 ++ lit ". B. C. D. E. F. G.")).length ∧
      (splitSentences (extractVerbalResponse (List.replicate 1000 0x61 ++ lit ". B. C. D. E. F. G."))
        (-1)).length ≤ 5 := by
  have absent : ∀ b : UInt8, b ≠ 0x61 → b ∉ lit ". B. C. D. E. F. G." →
      b ∉ List.replicate 1000 0x61 ++ lit ". B. C. D. E. F. G." := fun b other notLit => by
    simp only [List.mem_append, List.mem_replicate, not_or]
    exact ⟨fun ⟨_, same⟩ => other same, notLit⟩
  have untagged := untagged_of_no_bracket (absent 0x5B (by decide) (by decide))
  have long : 1000 ≤ (firstParagraph (List.replicate 1000 0x61 ++ lit ". B. C. D. E. F. G.")).length := by
    rw [firstParagraph_of_no_break (absent 0x0A (by decide) (by decide)), List.length_append,
      List.length_replicate]
    exact Nat.le_add_right _ _
  exact ⟨untagged, long, extractVerbalResponse_five_sentences _ untagged long⟩

end Alfred.Tts
