import Mathlib.Data.List.Infix

set_option autoImplicit false

namespace Alfred.Strings

-- a Go string is its bytes, valid UTF-8 or not
abbrev GoString := List UInt8

def encode (runes : List Char) : GoString := runes.flatMap String.utf8EncodeChar

def lit (s : String) : GoString := encode s.data

@[simp] theorem encode_nil : encode [] = [] := rfl

@[simp] theorem encode_cons (c : Char) (runes : List Char) :
    encode (c :: runes) = String.utf8EncodeChar c ++ encode runes := rfl

@[simp] theorem encode_append (runes runes' : List Char) :
    encode (runes ++ runes') = encode runes ++ encode runes' :=
  List.flatMap_append _ _ _

theorem mem_encode {b : UInt8} {runes : List Char} :
    b ∈ encode runes ↔ ∃ c ∈ runes, b ∈ String.utf8EncodeChar c := by
  simp [encode]

-- the runes `unicode.IsSpace` accepts
def spaceRunes : List Char :=
  ['\t', '\n', '\x0b', '\x0c', '\r', ' ', '\x85', '\xa0', '\u1680', '\u2000', '\u2001',
    '\u2002', '\u2003', '\u2004', '\u2005', '\u2006', '\u2007', '\u2008', '\u2009', '\u200a',
    '\u2028', '\u2029', '\u202f', '\u205f', '\u3000']

def leadingSpace (s : GoString) : Option Char :=
  spaceRunes.find? fun c => (String.utf8EncodeChar c).isPrefixOf s

def trailingSpace (s : GoString) : Option Char :=
  spaceRunes.find? fun c => (String.utf8EncodeChar c).isSuffixOf s

def trimLeftSpaceAux : Nat → GoString → GoString
  | 0, s => s
  | fuel + 1, s =>
    match leadingSpace s with
    | some c => trimLeftSpaceAux fuel (s.drop (String.utf8EncodeChar c).length)
    | none => s

def trimLeftSpace (s : GoString) : GoString := trimLeftSpaceAux s.length s

def trimRightSpaceAux : Nat → GoString → GoString
  | 0, s => s
  | fuel + 1, s =>
    match trailingSpace s with
    | some c => trimRightSpaceAux fuel (s.take (s.length - (String.utf8EncodeChar c).length))
    | none => s

def trimRightSpace (s : GoString) : GoString := trimRightSpaceAux s.length s

def trimSpace (s : GoString) : GoString := trimRightSpace (trimLeftSpace s)

theorem utf8EncodeChar_ne_nil (c : Char) : String.utf8EncodeChar c ≠ [] := by
  rw [← List.length_pos, String.length_utf8EncodeChar]
  exact Char.utf8Size_pos c

theorem leadingSpace_some {s : GoString} {c : Char} (found : leadingSpace s = some c) :
    c ∈ spaceRunes ∧ String.utf8EncodeChar c ++ s.drop (String.utf8EncodeChar c).length = s :=
  ⟨List.mem_of_find?_eq_some found,
    List.prefix_iff_eq_append.mp (List.isPrefixOf_iff_prefix.mp (List.find?_some found :))⟩

theorem trailingSpace_some {s : GoString} {c : Char} (found : trailingSpace s = some c) :
    c ∈ spaceRunes ∧
      s.take (s.length - (String.utf8EncodeChar c).length) ++ String.utf8EncodeChar c = s :=
  ⟨List.mem_of_find?_eq_some found,
    List.suffix_iff_eq_append.mp (List.isSuffixOf_iff_suffix.mp (List.find?_some found :))⟩

theorem trimLeftSpaceAux_spaces (fuel : Nat) (s : GoString) :
    ∃ pre, (∀ c ∈ pre, c ∈ spaceRunes) ∧ encode pre ++ trimLeftSpaceAux fuel s = s := by
  induction fuel generalizing s with
  | zero => exact ⟨[], by simp, rfl⟩
  | succ fuel ih =>
    rw [trimLeftSpaceAux]
    split
    · next c found =>
      obtain ⟨space, rejoin⟩ := leadingSpace_some found
      obtain ⟨pre, spaces, rest⟩ := ih (s.drop (String.utf8EncodeChar c).length)
      refine ⟨c :: pre, ?_, ?_⟩
      · simpa [space] using spaces
      · rw [encode_cons, List.append_assoc, rest, rejoin]
    · exact ⟨[], by simp, rfl⟩

theorem trimRightSpaceAux_spaces (fuel : Nat) (s : GoString) :
    ∃ post, (∀ c ∈ post, c ∈ spaceRunes) ∧ trimRightSpaceAux fuel s ++ encode post = s := by
  induction fuel generalizing s with
  | zero => exact ⟨[], by simp, by simp [trimRightSpaceAux]⟩
  | succ fuel ih =>
    rw [trimRightSpaceAux]
    split
    · next c found =>
      obtain ⟨space, rejoin⟩ := trailingSpace_some found
      obtain ⟨post, spaces, rest⟩ := ih (s.take (s.length - (String.utf8EncodeChar c).length))
      refine ⟨post ++ [c], ?_, ?_⟩
      · simpa [space, or_imp, forall_and] using spaces
      · rw [encode_append, encode_cons, encode_nil, List.append_nil, ← List.append_assoc, rest,
          rejoin]
    · exact ⟨[], by simp, by simp⟩

theorem trimSpace_spaces (s : GoString) :
    ∃ pre post, (∀ c ∈ pre ++ post, c ∈ spaceRunes) ∧
      encode pre ++ trimSpace s ++ encode post = s := by
  obtain ⟨pre, preSpaces, left⟩ := trimLeftSpaceAux_spaces s.length s
  obtain ⟨post, postSpaces, right⟩ := trimRightSpaceAux_spaces (trimLeftSpace s).length (trimLeftSpace s)
  refine ⟨pre, post, fun c mem => ?_, ?_⟩
  · rcases List.mem_append.mp mem with inPre | inPost
    exacts [preSpaces c inPre, postSpaces c inPost]
  · rw [trimSpace, trimRightSpace, List.append_assoc, right, trimLeftSpace, left]

theorem infix_trimSpace (s : GoString) : trimSpace s <:+: s := by
  obtain ⟨pre, post, -, trimmed⟩ := trimSpace_spaces s
  exact ⟨encode pre, encode post, trimmed⟩

theorem isPrefix_leadingSpace_none {x s : GoString} (noSpace : leadingSpace s = none)
    (front : x <+: s) : leadingSpace x = none := by
  rw [leadingSpace, List.find?_eq_none] at noSpace ⊢
  intro c mem found
  exact noSpace c mem (List.isPrefixOf_iff_prefix.mpr ((List.isPrefixOf_iff_prefix.mp found).trans front))

theorem leadingSpace_trimLeftSpaceAux (fuel : Nat) (s : GoString) (enough : s.length ≤ fuel) :
    leadingSpace (trimLeftSpaceAux fuel s) = none := by
  induction fuel generalizing s with
  | zero => rw [List.eq_nil_of_length_eq_zero (Nat.le_zero.mp enough)]; rfl
  | succ fuel ih =>
    rw [trimLeftSpaceAux]
    split
    · next c found =>
      have := List.length_pos.mpr (utf8EncodeChar_ne_nil c)
      exact ih _ (by rw [List.length_drop]; omega)
    · assumption

theorem trailingSpace_trimRightSpaceAux (fuel : Nat) (s : GoString) (enough : s.length ≤ fuel) :
    trailingSpace (trimRightSpaceAux fuel s) = none := by
  induction fuel generalizing s with
  | zero => rw [List.eq_nil_of_length_eq_zero (Nat.le_zero.mp enough)]; rfl
  | succ fuel ih =>
    rw [trimRightSpaceAux]
    split
    · next c found =>
      have := List.length_pos.mpr (utf8EncodeChar_ne_nil c)
      exact ih _ (by rw [List.length_take]; omega)
    · assumption

theorem trimLeftSpaceAux_of_none (fuel : Nat) {s : GoString} (noSpace : leadingSpace s = none) :
    trimLeftSpaceAux fuel s = s := by
  cases fuel <;> simp [trimLeftSpaceAux, noSpace]

theorem trimRightSpaceAux_of_none (fuel : Nat) {s : GoString} (noSpace : trailingSpace s = none) :
    trimRightSpaceAux fuel s = s := by
  cases fuel <;> simp [trimRightSpaceAux, noSpace]

theorem trimSpace_unspaced (s : GoString) :
    leadingSpace (trimSpace s) = none ∧ trailingSpace (trimSpace s) = none := by
  have left := leadingSpace_trimLeftSpaceAux s.length s le_rfl
  obtain ⟨post, -, right⟩ := trimRightSpaceAux_spaces (trimLeftSpace s).length (trimLeftSpace s)
  exact ⟨isPrefix_leadingSpace_none left ⟨_, right⟩,
    trailingSpace_trimRightSpaceAux _ (trimLeftSpace s) le_rfl⟩

@[simp] theorem trimSpace_trimSpace (s : GoString) : trimSpace (trimSpace s) = trimSpace s := by
  obtain ⟨leading, trailing⟩ := trimSpace_unspaced s
  show trimRightSpace (trimLeftSpace (trimSpace s)) = trimSpace s
  rw [trimLeftSpace, trimLeftSpaceAux_of_none _ leading, trimRightSpace,
    trimRightSpaceAux_of_none _ trailing]

def asciiLower (b : UInt8) : UInt8 := if 0x41 ≤ b ∧ b ≤ 0x5A then b + 0x20 else b

def toLower : GoString → GoString
  | 0xC4 :: 0xB0 :: rest => 0x69 :: toLower rest
  | 0xE2 :: 0x84 :: 0xAA :: rest => 0x6B :: toLower rest
  | b :: rest => asciiLower b :: toLower rest
  | [] => []

theorem UInt8.eq_iff_toBitVec {x y : UInt8} : x = y ↔ x.toBitVec = y.toBitVec :=
  ⟨UInt8.toBitVec_eq_of_eq, UInt8.eq_of_toBitVec_eq⟩

theorem asciiLower_eq_high {b c : UInt8} (high : 0x80 ≤ c) : asciiLower b = c ↔ b = c := by
  simp only [asciiLower, UInt8.le_def, UInt8.eq_iff_toBitVec, UInt8.add_def,
    UInt8.toBitVec_ofNat] at *
  split <;> bv_omega

@[simp] theorem asciiLower_asciiLower (b : UInt8) : asciiLower (asciiLower b) = asciiLower b := by
  unfold asciiLower
  split
  · next upper =>
    rw [if_neg]
    simp only [UInt8.le_def, UInt8.add_def, UInt8.toBitVec_ofNat] at upper ⊢
    bv_omega
  · rfl

theorem toLower_map_asciiLower (s : GoString) : toLower (s.map asciiLower) = toLower s := by
  induction s using toLower.induct with
  | case1 rest ih => simp [asciiLower, toLower, ih]
  | case2 rest ih => simp [asciiLower, toLower, ih]
  | case3 b rest notI notK ih =>
    rw [List.map_cons, toLower.eq_3 b rest notI notK, ← ih, toLower.eq_3, asciiLower_asciiLower]
    · intro r isI mapped
      obtain ⟨x, xs, rfl, hx, -⟩ := List.map_eq_cons_iff.mp mapped
      exact notI xs ((asciiLower_eq_high (by decide)).mp isI)
        (by rw [(asciiLower_eq_high (by decide)).mp hx])
    · intro r isK mapped
      obtain ⟨x, xs, rfl, hx, mapped⟩ := List.map_eq_cons_iff.mp mapped
      obtain ⟨y, ys, rfl, hy, -⟩ := List.map_eq_cons_iff.mp mapped
      exact notK ys ((asciiLower_eq_high (by decide)).mp isK)
        (by rw [(asciiLower_eq_high (by decide)).mp hx, (asciiLower_eq_high (by decide)).mp hy])
  | case4 => rfl

def lowerFixed : GoString → Bool
  | [] => true
  | [b] => b != 0xC4 && b != 0xE2 && asciiLower b == b
  | b :: c :: rest =>
    !(b == 0xC4 && c == 0xB0) && !(b == 0xE2 && c == 0x84) && asciiLower b == b &&
      lowerFixed (c :: rest)

theorem toLower_fixed_append {a : GoString} (fixed : lowerFixed a = true) (m : GoString) :
    toLower (a ++ m) = a ++ toLower m := by
  induction a with
  | nil => rfl
  | cons b rest ih =>
    cases rest with
    | nil =>
      simp only [lowerFixed, Bool.and_eq_true, bne_iff_ne, ne_eq, beq_iff_eq] at fixed
      rw [List.singleton_append, toLower.eq_3 _ _ (fun _ isI _ => fixed.1.1 isI)
        (fun _ isK _ => fixed.1.2 isK), fixed.2]
      rfl
    | cons c rest =>
      simp only [lowerFixed, Bool.and_eq_true, Bool.not_eq_true', Bool.and_eq_false_iff,
        beq_eq_false_iff_ne, ne_eq, beq_iff_eq] at fixed
      obtain ⟨⟨⟨notI, notK⟩, same⟩, fixedRest⟩ := fixed
      rw [List.cons_append, toLower.eq_3, same, ih fixedRest]
      · rfl
      · intro r isI next
        simp only [List.cons_append, List.cons.injEq] at next
        exact notI.elim (· isI) (· next.1)
      · intro r isK next
        simp only [List.cons_append, List.cons.injEq] at next
        exact notK.elim (· isK) (· next.1)

theorem toLower_append (a : GoString) {b : GoString}
    (fresh : b.head? ≠ some 0xB0 ∧ b.head? ≠ some 0x84 ∧ b.head? ≠ some 0xAA) :
    toLower (a ++ b) = toLower a ++ toLower b := by
  obtain ⟨notB0, not84, notAA⟩ := fresh
  induction a using toLower.induct with
  | case1 rest ih =>
    rw [List.cons_append, List.cons_append, toLower.eq_1, toLower.eq_1, ih, List.cons_append]
  | case2 rest ih =>
    rw [List.cons_append, List.cons_append, List.cons_append, toLower.eq_2, toLower.eq_2, ih,
      List.cons_append]
  | case3 x rest notI notK ih =>
    rw [List.cons_append, toLower.eq_3 x rest notI notK, toLower.eq_3, ih, List.cons_append]
    · intro r isI split
      rcases List.append_eq_cons_iff.mp split with ⟨rfl, rfl⟩ | ⟨xs, rfl, -⟩
      exacts [notB0 rfl, notI xs isI rfl]
    · intro r isK split
      rcases List.append_eq_cons_iff.mp split with ⟨rfl, rfl⟩ | ⟨xs, rfl, tail⟩
      · exact not84 rfl
      · rcases List.append_eq_cons_iff.mp tail.symm with ⟨rfl, rfl⟩ | ⟨ys, rfl, -⟩
        exacts [notAA rfl, notK ys isK rfl]
  | case4 => rfl

theorem spaceRunes_lowerFixed : ∀ c ∈ spaceRunes, lowerFixed (String.utf8EncodeChar c) = true := by
  decide

theorem spaceRunes_fresh : ∀ c ∈ spaceRunes, (String.utf8EncodeChar c).head? ≠ some 0xB0 ∧
    (String.utf8EncodeChar c).head? ≠ some 0x84 ∧ (String.utf8EncodeChar c).head? ≠ some 0xAA := by
  decide

theorem toLower_spaces_append {runes : List Char} (spaces : ∀ c ∈ runes, c ∈ spaceRunes)
    (m : GoString) : toLower (encode runes ++ m) = encode runes ++ toLower m := by
  induction runes with
  | nil => rfl
  | cons c runes ih =>
    rw [List.forall_mem_cons] at spaces
    rw [encode_cons, List.append_assoc, toLower_fixed_append (spaceRunes_lowerFixed c spaces.1),
      ih spaces.2, List.append_assoc]

theorem toLower_spaces {pre post : List Char} (spaces : ∀ c ∈ pre ++ post, c ∈ spaceRunes)
    (s : GoString) : toLower (encode pre ++ s ++ encode post) = encode pre ++ toLower s ++ encode post := by
  rw [List.forall_mem_append] at spaces
  have fresh : (encode post).head? ≠ some 0xB0 ∧ (encode post).head? ≠ some 0x84 ∧
      (encode post).head? ≠ some 0xAA := by
    cases post with
    | nil => simp
    | cons c post =>
      rw [encode_cons, List.head?_append_of_ne_nil _ (utf8EncodeChar_ne_nil c)]
      exact spaceRunes_fresh c (spaces.2 c (List.mem_cons_self c post))
  have keepsPost := toLower_spaces_append spaces.2 []
  rw [List.append_nil, toLower, List.append_nil] at keepsPost
  rw [List.append_assoc, toLower_spaces_append spaces.1, toLower_append s fresh, keepsPost,
    List.append_assoc]

def index : GoString → GoString → Option Nat
  | [], substr => if substr.isPrefixOf [] then some 0 else none
  | b :: rest, substr =>
    if substr.isPrefixOf (b :: rest) then some 0 else (index rest substr).map (· + 1)

def contains (s substr : GoString) : Bool := (index s substr).isSome

theorem contains_eq_true_iff (s substr : GoString) : contains s substr = true ↔ substr <:+: s := by
  induction s with
  | nil => cases substr <;> simp [contains, index]
  | cons b rest ih =>
    rw [List.infix_cons_iff, ← List.isPrefixOf_iff_prefix, ← ih, contains, contains, index]
    split <;> simp_all

theorem index_some {s substr : GoString} {i : Nat} (found : index s substr = some i) :
    s.take i ++ substr ++ s.drop (i + substr.length) = s := by
  induction s generalizing i with
  | nil => cases substr <;> simp_all [index, List.isPrefixOf]
  | cons b rest ih =>
    unfold index at found
    split at found
    · next isPrefix =>
      cases found
      rw [List.take_zero, List.nil_append, Nat.zero_add]
      exact List.prefix_iff_eq_append.mp (List.isPrefixOf_iff_prefix.mp isPrefix)
    · obtain ⟨j, later, rfl⟩ := Option.map_eq_some'.mp found
      rw [List.take_succ_cons, Nat.add_right_comm, List.drop_succ_cons, List.cons_append,
        List.cons_append, ih later]

theorem not_infix_take_index {s substr : GoString} (nonempty : substr ≠ []) {i : Nat}
    (found : index s substr = some i) : ¬ substr <:+: s.take i := by
  induction s generalizing i with
  | nil =>
    simp only [List.take_nil]
    exact fun inside => nonempty (List.eq_nil_of_infix_nil inside)
  | cons b rest ih =>
    unfold index at found
    split at found
    · cases found
      exact fun inside => nonempty (List.eq_nil_of_infix_nil inside)
    · next notHere =>
      obtain ⟨j, later, rfl⟩ := Option.map_eq_some'.mp found
      rw [List.take_succ_cons]
      rintro (inside : substr <:+: b :: rest.take j)
      rcases List.infix_cons_iff.mp inside with front | deeper
      · exact notHere (List.isPrefixOf_iff_prefix.mpr (front.trans
          (List.prefix_cons_inj b |>.mpr (List.take_prefix j rest))))
      · exact ih later deeper

theorem infix_of_infix_append_left {t pre s : GoString} (notPre : ∀ b ∈ pre, t.head? ≠ some b)
    (occurs : t <:+: pre ++ s) : t <:+: s := by
  induction pre with
  | nil => exact occurs
  | cons b pre ih =>
    rw [List.forall_mem_cons] at notPre
    rcases List.infix_cons_iff.mp occurs with isPrefix | later
    · cases t with
      | nil => exact List.nil_infix
      | cons x xs => exact absurd (by rw [(List.cons_prefix_cons.mp isPrefix).1]; rfl) notPre.1
    · exact ih notPre.2 later

theorem pair_infix_append {x y : UInt8} {a b : GoString} (occurs : [x, y] <:+: a ++ b) :
    [x, y] <:+: a ∨ [x, y] <:+: b ∨ a.getLast? = some x ∧ b.head? = some y := by
  induction a with
  | nil => exact .inr (.inl occurs)
  | cons c a ih =>
    rcases List.infix_cons_iff.mp occurs with front | later
    · cases a with
      | nil =>
        obtain ⟨rfl, rest⟩ := List.cons_prefix_cons.mp front
        refine .inr (.inr ⟨rfl, ?_⟩)
        cases b with
        | nil => simp at rest
        | cons d b => obtain ⟨rfl, -⟩ := List.cons_prefix_cons.mp rest; rfl
      | cons d a =>
        obtain ⟨rfl, rest⟩ := List.cons_prefix_cons.mp front
        obtain ⟨rfl, -⟩ := List.cons_prefix_cons.mp rest
        exact .inl ⟨[], a, rfl⟩
    · rcases ih later with inside | inside | ⟨last, head⟩
      · exact .inl (inside.trans (List.suffix_cons c a).isInfix)
      · exact .inr (.inl inside)
      · cases a with
        | nil => simp at last
        | cons d a => exact .inr (.inr ⟨by simpa using last, head⟩)

theorem contains_frame {pre s post needle : GoString} (notPre : ∀ b ∈ pre, needle.head? ≠ some b)
    (notPost : ∀ b ∈ post, needle.getLast? ≠ some b) :
    contains (pre ++ s ++ post) needle = contains s needle := by
  rw [Bool.eq_iff_iff, contains_eq_true_iff, contains_eq_true_iff]
  refine ⟨fun occurs => ?_, fun occurs => occurs.trans (List.infix_append pre s post)⟩
  have inner : needle <:+: s ++ post :=
    infix_of_infix_append_left notPre (by rwa [List.append_assoc] at occurs)
  rw [← List.reverse_infix, List.reverse_append] at inner
  rw [← List.reverse_infix]
  exact infix_of_infix_append_left (fun b mem => by
    rw [List.head?_reverse]; exact notPost b (List.mem_reverse.mp mem)) inner

def Unbordered (t : GoString) : Prop := ∀ k < t.length, 0 < k → ¬ t.drop k <+: t

theorem index_append_of_unbordered {pre t : GoString} (rest : GoString) (unbordered : Unbordered t)
    (absent : ¬ t <:+: pre) : index (pre ++ t ++ rest) t = some pre.length := by
  induction pre with
  | nil =>
    have nonempty : t ≠ [] := by rintro rfl; exact absent List.nil_infix
    obtain ⟨b, t, rfl⟩ := List.exists_cons_of_ne_nil nonempty
    simp [index]
  | cons b pre ih =>
    have notHere : ¬ t <+: (b :: pre) ++ (t ++ rest) := fun here => by
      rcases le_or_lt t.length (b :: pre).length with short | long
      · exact absent (List.prefix_of_prefix_length_le here (List.prefix_append _ _) short).isInfix
      · obtain ⟨u, rfl⟩ := List.prefix_of_prefix_length_le (List.prefix_append _ _) here long.le
        have later : u <+: (b :: pre) ++ u ++ rest :=
          (List.prefix_append_right_inj (b :: pre)).mp (by simpa using here)
        refine unbordered (b :: pre).length long (List.length_pos.mpr (List.cons_ne_nil b pre)) ?_
        rw [List.drop_left]
        exact List.prefix_of_prefix_length_le later (List.prefix_append _ _) (by simp; omega)
    rw [List.cons_append, List.cons_append, index, if_neg (by
      rw [List.isPrefixOf_iff_prefix]; simpa using notHere),
      ih fun inner => absent (inner.trans (List.suffix_cons b pre).isInfix)]
    rfl

def splitAux (sep : GoString) : Nat → GoString → List GoString
  | 0, s => [s]
  | fuel + 1, s =>
    match index s sep with
    | some i => s.take i :: splitAux sep fuel (s.drop (i + sep.length))
    | none => [s]

def split (s sep : GoString) : List GoString := splitAux sep s.length s

def join : List GoString → GoString → GoString
  | [], _ => []
  | [e], _ => e
  | e :: rest, sep => e ++ sep ++ join rest sep

theorem split_head (s sep : GoString) :
    (split s sep).head? = some (match index s sep with | some i => s.take i | none => s) := by
  unfold split
  cases s with
  | nil => cases sep <;> simp [splitAux, index]
  | cons b rest =>
    rw [List.length_cons, splitAux]
    split <;> simp_all

theorem join_cons (e : GoString) {l : List GoString} (nonempty : l ≠ []) (sep : GoString) :
    join (e :: l) sep = e ++ sep ++ join l sep := by
  cases l with
  | nil => exact absurd rfl nonempty
  | cons _ _ => rfl

theorem isPrefix_join_take (l : List GoString) (sep : GoString) (k : Nat) :
    join (l.take k) sep <+: join l sep := by
  induction l generalizing k with
  | nil => simp [join]
  | cons e rest ih =>
    cases k with
    | zero => exact List.nil_prefix
    | succ k =>
      cases rest with
      | nil => simp
      | cons e' rest =>
        rw [join_cons e (List.cons_ne_nil e' rest), List.append_assoc]
        cases k with
        | zero => exact List.prefix_append e _
        | succ k =>
          rw [List.take_succ_cons, join_cons e (by simp), List.append_assoc]
          exact (List.prefix_append_right_inj e).mpr
            ((List.prefix_append_right_inj sep).mpr (ih (k + 1)))

end Alfred.Strings
