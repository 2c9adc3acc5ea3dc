/-!
Cutting text at a mark or at a byte, and finding one text in another, over lists of characters.
-/

namespace CloudMonitoring

namespace Text

def afterLast (mark : Char) (text : List Char) : List Char :=
  (text.reverse.takeWhile (· ≠ mark)).reverse

def pieces (mark : Char) : List Char → List (List Char)
  | [] => [[]]
  | c :: rest =>
      if c = mark then [] :: pieces mark rest
      else
        match pieces mark rest with
        | [] => [[c]]
        | piece :: others => (c :: piece) :: others

def trimEnd (mark : Char) (text : List Char) : List Char :=
  (text.reverse.dropWhile (· = mark)).reverse

def dropBytes : Nat → List Char → List Char
  | 0, text => text
  | _, [] => []
  | count, c :: rest => dropBytes (count - c.utf8Size) rest

def takeBytes : Nat → List Char → List Char
  | 0, _ => []
  | _, [] => []
  | count, c :: rest => c :: takeBytes (count - c.utf8Size) rest

def occursIn (pattern : List Char) : List Char → Bool
  | [] => pattern.isEmpty
  | c :: rest => pattern.isPrefixOf (c :: rest) || occursIn pattern rest

def firstLine (text : List Char) : List Char :=
  let line := text.takeWhile (· ≠ '\n')
  if line.length < text.length ∧ line.getLast? = some '\r' then line.dropLast else line

def sameLetters (left right : List Char) : Bool :=
  left.map Char.toLower = right.map Char.toLower

theorem pieces_ne_nil (mark : Char) (text : List Char) : pieces mark text ≠ [] := by
  induction text with
  | nil => simp [pieces]
  | cons c rest ih =>
      simp only [pieces]
      split
      · simp
      · split <;> simp

theorem pieces_of_no_mark {mark : Char} {text : List Char} (absent : mark ∉ text) :
    pieces mark text = [text] := by
  induction text with
  | nil => rfl
  | cons c rest ih =>
      simp only [List.mem_cons, not_or] at absent
      simp [pieces, Ne.symm absent.1, ih absent.2]

theorem pieces_append_mark {mark : Char} {front : List Char} (absent : mark ∉ front)
    (rest : List Char) : pieces mark (front ++ mark :: rest) = front :: pieces mark rest := by
  induction front with
  | nil => simp [pieces]
  | cons c front ih =>
      simp only [List.mem_cons, not_or] at absent
      simp [pieces, Ne.symm absent.1, ih absent.2]

theorem marks_cases (mark : Char) (text : List Char) :
    mark ∉ text ∨
      (∃ first second, mark ∉ first ∧ mark ∉ second ∧ text = first ++ mark :: second) ∨
      ∃ first second rest, mark ∉ first ∧ mark ∉ second ∧
        text = first ++ mark :: (second ++ mark :: rest) := by
  by_cases present : mark ∈ text
  · obtain ⟨first, later, rfl, absent⟩ := List.eq_append_cons_of_mem present
    by_cases again : mark ∈ later
    · obtain ⟨second, rest, rfl, absentToo⟩ := List.eq_append_cons_of_mem again
      exact .inr (.inr ⟨first, second, rest, absent, absentToo, rfl⟩)
    · exact .inr (.inl ⟨first, later, absent, again, rfl⟩)
  · exact .inl present

theorem mark_not_mem_afterLast (mark : Char) (text : List Char) : mark ∉ afterLast mark text := by
  intro found
  have taken : mark ∈ text.reverse.takeWhile (· ≠ mark) := by simpa [afterLast] using found
  have kept := List.all_eq_true.mp (List.all_takeWhile (p := (· ≠ mark))) mark taken
  simp at kept

theorem ne_mark_of_absent {mark : Char} {text : List Char} (absent : mark ∉ text) :
    ∀ c ∈ text.reverse, decide (c ≠ mark) = true := by
  intro c member
  simpa using ne_of_mem_of_not_mem (List.mem_reverse.mp member) absent

theorem afterLast_of_no_mark {mark : Char} {text : List Char} (absent : mark ∉ text) :
    afterLast mark text = text := by
  have taken : (text.reverse ++ []).takeWhile (· ≠ mark) = text.reverse ++ [] :=
    List.takeWhile_append_of_pos (ne_mark_of_absent absent)
  rw [List.append_nil] at taken
  rw [afterLast, taken, List.reverse_reverse]

theorem afterLast_append_mark {mark : Char} {rest : List Char} (absent : mark ∉ rest)
    (front : List Char) : afterLast mark (front ++ mark :: rest) = rest := by
  rw [afterLast, List.reverse_append, List.reverse_cons, List.append_assoc, List.singleton_append,
    List.takeWhile_append_of_pos (ne_mark_of_absent absent), List.takeWhile_cons_of_neg (by simp),
    List.append_nil, List.reverse_reverse]

theorem exists_before_afterLast {mark : Char} {text : List Char} (present : mark ∈ text) :
    ∃ front, text = front ++ mark :: afterLast mark text := by
  obtain ⟨back, front, reversed, absent⟩ :=
    List.eq_append_cons_of_mem (List.mem_reverse.mpr present)
  have whole : text = front.reverse ++ mark :: back.reverse := by
    simpa using congrArg List.reverse reversed
  subst whole
  exact ⟨front.reverse, by rw [afterLast_append_mark (by simpa using absent)]⟩

theorem exists_trimEnd (mark : Char) (text : List Char) :
    ∃ count, text = trimEnd mark text ++ List.replicate count mark := by
  have marks : text.reverse.takeWhile (· = mark) =
      List.replicate (text.reverse.takeWhile (· = mark)).length mark := by
    refine List.eq_replicate_iff.mpr ⟨rfl, ?_⟩
    intro c taken
    simpa using List.all_eq_true.mp (List.all_takeWhile (p := (· = mark))) c taken
  refine ⟨(text.reverse.takeWhile (· = mark)).length, ?_⟩
  have whole := congrArg List.reverse
    (List.takeWhile_append_dropWhile (p := (· = mark)) (l := text.reverse))
  rw [List.reverse_append, List.reverse_reverse, marks, List.reverse_replicate] at whole
  exact whole.symm

theorem getLast?_trimEnd_ne (mark : Char) (text : List Char) :
    (trimEnd mark text).getLast? ≠ some mark := by
  rw [trimEnd, List.getLast?_reverse]
  intro isMark
  have dropped := List.head?_dropWhile_not (p := (· = mark)) text.reverse
  simp [isMark] at dropped

theorem trimEnd_append_replicate {mark : Char} {text : List Char}
    (ended : text.getLast? ≠ some mark) (count : Nat) :
    trimEnd mark (text ++ List.replicate count mark) = text := by
  have marks : ∀ c ∈ List.replicate count mark, decide (c = mark) = true := by
    simp +contextual [List.mem_replicate]
  rw [trimEnd, List.reverse_append, List.reverse_replicate, List.dropWhile_append_of_pos marks]
  cases reversed : text.reverse with
  | nil => simpa using reversed
  | cons last rest =>
      rw [← List.head?_reverse, reversed, List.head?_cons, ne_eq, Option.some.injEq] at ended
      rw [List.dropWhile_cons_of_neg (by simpa using ended), ← reversed, List.reverse_reverse]

theorem occursIn_iff (pattern text : List Char) :
    occursIn pattern text = true ↔ pattern <:+: text := by
  induction text with
  | nil => simp [occursIn]
  | cons c rest ih =>
      rw [occursIn, Bool.or_eq_true, List.isPrefixOf_iff_prefix, ih, List.infix_cons_iff]

theorem infix_append_cons_iff {mark : Char} {pattern : List Char} (absent : mark ∉ pattern)
    (left right : List Char) :
    pattern <:+: left ++ mark :: right ↔ pattern <:+: left ∨ pattern <:+: right := by
  -- what begins at the mark is empty
  have empty {part : List Char} (inPattern : part ⊆ pattern) (begins : part <+: mark :: right) :
      part = [] := by
    cases part with
    | nil => rfl
    | cons c rest =>
        obtain rfl := (List.cons_prefix_cons.mp begins).1
        exact absurd (inPattern (by simp)) absent
  rw [List.infix_append_iff, List.infix_cons_iff]
  constructor
  · rintro (inLeft | (begins | inRight) | ⟨front, part, rfl, ends, begins⟩)
    · exact .inl inLeft
    · exact .inl (empty (List.Subset.refl _) begins ▸ List.nil_infix)
    · exact .inr inRight
    · have none := empty (List.subset_append_right front part) begins
      exact .inl (by simpa [none] using ends.isInfix)
  · rintro (inLeft | inRight)
    · exact .inl inLeft
    · exact .inr (.inl (.inr inRight))

theorem infix_append_replicate_iff {mark : Char} {pattern : List Char} (absent : mark ∉ pattern)
    (text : List Char) (count : Nat) :
    pattern <:+: text ++ List.replicate count mark ↔ pattern <:+: text := by
  induction count with
  | zero => simp
  | succ count ih =>
      rw [List.replicate_succ', ← List.append_assoc, infix_append_cons_iff absent, ih, List.infix_nil]
      constructor
      · rintro (found | rfl)
        · exact found
        · exact List.nil_infix
      · exact .inl

end Text

end CloudMonitoring
