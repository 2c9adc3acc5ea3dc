import CloudMonitoring.Metric.Descriptor
import Mathlib.Data.List.Forall2
import Mathlib.Data.Nat.Digits.Defs
import Mathlib.Tactic.Ring

/-!
What a label's value looks like. A text is a whole number if it is an optional sign and then ASCII digits,
and it counts as one if 64 bits hold the number, however many zeros it begins with. It is a truth value if
it spells one in any case, and else it is no more than a text.
-/

namespace CloudMonitoring

namespace Text

def decimalValue (digits : List Char) : Nat :=
  Nat.ofDigits 10 (digits.reverse.map fun c => c.toNat - '0'.toNat)

theorem decimalValue_cons (c : Char) (rest : List Char) :
    decimalValue (c :: rest) =
      (c.toNat - '0'.toNat) * 10 ^ rest.length + decimalValue rest := by
  simp [decimalValue, Nat.ofDigits_append]
  ring

structure Numeral (digits : List Char) (n : Nat) : Prop where
  nonempty : digits ≠ []
  ascii : ∀ c ∈ digits, '0' ≤ c ∧ c ≤ '9'
  value : n = decimalValue digits

inductive SignedNumeral : List Char → Int → Prop
  | unsigned {digits : List Char} {n : Nat} : Numeral digits n → SignedNumeral digits n
  | plus {digits : List Char} {n : Nat} : Numeral digits n → SignedNumeral ('+' :: digits) n
  | minus {digits : List Char} {n : Nat} : Numeral digits n → SignedNumeral ('-' :: digits) (-n)

theorem isDigit_iff (c : Char) : c.isDigit = true ↔ '0' ≤ c ∧ c ≤ '9' := by
  simp [Char.isDigit, Char.le_def]

theorem digitsValue_eq_some_iff (digits : List Char) (value n : Nat) :
    digitsValue digits value = some n ↔
      (∀ c ∈ digits, '0' ≤ c ∧ c ≤ '9') ∧
        n = value * 10 ^ digits.length + decimalValue digits := by
  induction digits generalizing value with
  | nil => simp [digitsValue, decimalValue, eq_comm]
  | cons c rest ih =>
      by_cases isDigit : c.isDigit = true
      · have shifted : (10 * value + (c.toNat - '0'.toNat)) * 10 ^ rest.length + decimalValue rest =
            value * 10 ^ (c :: rest).length + decimalValue (c :: rest) := by
          rw [decimalValue_cons, List.length_cons]
          ring
        rw [digitsValue, if_pos isDigit, ih, shifted, List.forall_mem_cons]
        simp only [(isDigit_iff c).mp isDigit, true_and]
      · simp [digitsValue, isDigit, ← isDigit_iff]

theorem natural?_eq_some_iff (digits : List Char) (n : Nat) :
    natural? digits = some n ↔ Numeral digits n := by
  cases digits with
  | nil => simpa [natural?] using fun numeral : Numeral [] n => numeral.nonempty rfl
  | cons c rest =>
      rw [natural?, digitsValue_eq_some_iff, Nat.zero_mul, Nat.zero_add]
      · exact ⟨fun ⟨ascii, value⟩ => ⟨by simp, ascii, value⟩,
          fun numeral => ⟨numeral.ascii, numeral.value⟩⟩
      · simp

theorem Numeral.head_ne {digits : List Char} {n : Nat} (numeral : Numeral digits n) :
    digits.head? ≠ some '-' ∧ digits.head? ≠ some '+' := by
  constructor
  · intro minus
    obtain ⟨atLeast, -⟩ := numeral.ascii '-' (List.mem_of_mem_head? minus)
    contradiction
  · intro plus
    obtain ⟨atLeast, -⟩ := numeral.ascii '+' (List.mem_of_mem_head? plus)
    contradiction

theorem integer?_minus (digits : List Char) :
    integer? ('-' :: digits) = (natural? digits).map fun n : Nat => -(n : Int) := by
  rw [integer?]
  cases natural? digits <;> rfl

theorem integer?_plus (digits : List Char) :
    integer? ('+' :: digits) = (natural? digits).map Int.ofNat := rfl

theorem integer?_unsigned {text : List Char} (minus : text.head? ≠ some '-')
    (plus : text.head? ≠ some '+') : integer? text = (natural? text).map Int.ofNat := by
  rw [integer?]
  · rintro digits rfl
    exact minus rfl
  · rintro digits rfl
    exact plus rfl

theorem integer?_eq_some_iff (text : List Char) (n : Int) :
    integer? text = some n ↔ SignedNumeral text n := by
  constructor
  · intro read
    by_cases minus : text.head? = some '-'
    · obtain ⟨digits, rfl⟩ := List.head?_eq_some_iff.mp minus
      rw [integer?_minus, Option.map_eq_some_iff] at read
      obtain ⟨size, natural, rfl⟩ := read
      exact .minus ((natural?_eq_some_iff digits size).mp natural)
    · by_cases plus : text.head? = some '+'
      · obtain ⟨digits, rfl⟩ := List.head?_eq_some_iff.mp plus
        rw [integer?_plus, Option.map_eq_some_iff] at read
        obtain ⟨size, natural, rfl⟩ := read
        exact .plus ((natural?_eq_some_iff digits size).mp natural)
      · rw [integer?_unsigned minus plus, Option.map_eq_some_iff] at read
        obtain ⟨size, natural, rfl⟩ := read
        exact .unsigned ((natural?_eq_some_iff text size).mp natural)
  · intro signed
    cases signed with
    | plus numeral => rw [integer?_plus, (natural?_eq_some_iff _ _).mpr numeral]; rfl
    | minus numeral => rw [integer?_minus, (natural?_eq_some_iff _ _).mpr numeral]; rfl
    | unsigned numeral =>
        obtain ⟨minus, plus⟩ := numeral.head_ne
        rw [integer?_unsigned minus plus, (natural?_eq_some_iff _ _).mpr numeral]
        rfl

theorem toNat_toLower (c : Char) :
    c.toLower.toNat = if 65 ≤ c.toNat ∧ c.toNat ≤ 90 then c.toNat + 32 else c.toNat := by
  have capital : ('A'.val ≤ c.val ∧ c.val ≤ 'Z'.val) ↔ 65 ≤ c.toNat ∧ c.toNat ≤ 90 := Iff.rfl
  have sum : (c.val + ('a'.val - 'A'.val)).toNat = (c.toNat + 32) % 2 ^ 32 :=
    UInt32.toNat_add c.val ('a'.val - 'A'.val)
  delta Char.toLower
  simp only [ge_iff_le, capital]
  split
  · exact sum.trans (by omega)
  · rfl

theorem toNat_toUpper (c : Char) :
    c.toUpper.toNat = if 97 ≤ c.toNat ∧ c.toNat ≤ 122 then c.toNat - 32 else c.toNat := by
  have small : ('a'.val ≤ c.val ∧ c.val ≤ 'z'.val) ↔ 97 ≤ c.toNat ∧ c.toNat ≤ 122 := Iff.rfl
  have sum : (c.val + ('A'.val - 'a'.val)).toNat = (c.toNat + (2 ^ 32 - 32)) % 2 ^ 32 :=
    UInt32.toNat_add c.val ('A'.val - 'a'.val)
  delta Char.toUpper
  simp only [small]
  split
  · exact sum.trans (by omega)
  · rfl

def IsSmall (word : List Char) : Prop := ∀ letter ∈ word, 97 ≤ letter.toNat ∧ letter.toNat ≤ 122

instance (word : List Char) : Decidable (IsSmall word) :=
  List.decidableBAll _ word

def Spells (word text : List Char) : Prop :=
  List.Forall₂ (fun c letter => c = letter ∨ c = letter.toUpper) text word

theorem toLower_eq_iff {letter : Char} (small : 97 ≤ letter.toNat ∧ letter.toNat ≤ 122) (c : Char) :
    c.toLower = letter ↔ c = letter ∨ c = letter.toUpper := by
  simp only [← Char.toNat_inj, toNat_toLower, toNat_toUpper]
  split <;> omega

theorem sameLetters_iff {word : List Char} (small : IsSmall word) (text : List Char) :
    sameLetters text word = true ↔ Spells word text := by
  induction word generalizing text with
  | nil => cases text <;> simp [sameLetters, Spells]
  | cons letter rest ih =>
      cases text with
      | nil => simp [sameLetters, Spells]
      | cons c others =>
          obtain ⟨smallLetter, smallRest⟩ := List.forall_mem_cons.mp small
          have later := ih smallRest others
          have lower : letter.toLower = letter := (toLower_eq_iff smallLetter letter).mpr (.inl rfl)
          simp only [sameLetters, Spells, List.map_cons, List.cons.injEq, decide_eq_true_eq, lower,
            List.forall₂_cons, toLower_eq_iff smallLetter] at later ⊢
          rw [later]

theorem SignedNumeral.head_le {text : List Char} {n : Int} (signed : SignedNumeral text n) :
    ∃ c rest, text = c :: rest ∧ c.toNat ≤ 57 := by
  cases signed with
  | plus numeral => exact ⟨'+', _, rfl, by decide⟩
  | minus numeral => exact ⟨'-', _, rfl, by decide⟩
  | unsigned numeral =>
      obtain ⟨c, rest, rfl⟩ := List.exists_cons_of_ne_nil numeral.nonempty
      exact ⟨c, rest, rfl, (numeral.ascii c (by simp)).2⟩

theorem SignedNumeral.not_spells {word text : List Char} {n : Int}
    (signed : SignedNumeral text n) (small : IsSmall word) : ¬ Spells word text := by
  obtain ⟨c, rest, rfl, atMost⟩ := signed.head_le
  cases word with
  | nil => simp [Spells]
  | cons letter others =>
      have letters := small letter (by simp)
      have capital := toNat_toUpper letter
      intro spelled
      rcases (List.forall₂_cons.mp spelled).1 with rfl | rfl
      · omega
      · rw [if_pos letters] at capital
        omega

def IsTruthValue (text : List Char) : Prop :=
  Spells "true".toList text ∨ Spells "false".toList text

def IsInt64 (text : List Char) : Prop :=
  ∃ n, SignedNumeral text n ∧ -2 ^ 63 ≤ n ∧ n ≤ 2 ^ 63 - 1

theorem sameLetters_truth_iff (text : List Char) :
    sameLetters text "true".toList = true ∨ sameLetters text "false".toList = true ↔
      IsTruthValue text := by
  rw [sameLetters_iff (by decide +kernel), sameLetters_iff (by decide +kernel), IsTruthValue]

theorem IsInt64.not_truthValue {text : List Char} (number : IsInt64 text) :
    ¬ IsTruthValue text := by
  obtain ⟨n, signed, -⟩ := number
  rintro (spelled | spelled)
  · exact signed.not_spells (by decide +kernel) spelled
  · exact signed.not_spells (by decide +kernel) spelled

end Text

namespace LabelType

open Text

theorem ofValue_of_truthValue {value : String} (truth : IsTruthValue value.toList) :
    ofValue value = .bool := by
  rw [ofValue, if_pos ((sameLetters_truth_iff _).mpr truth)]

theorem ofValue_of_int64 {value : String} (number : IsInt64 value.toList) :
    ofValue value = .int64 := by
  obtain ⟨n, signed, atLeast, atMost⟩ := number
  have noTruth := IsInt64.not_truthValue ⟨n, signed, atLeast, atMost⟩
  rw [ofValue, if_neg (by rwa [sameLetters_truth_iff]), (integer?_eq_some_iff _ n).mpr signed]
  exact if_pos ⟨atLeast, atMost⟩

theorem ofValue_of_neither {value : String} (noTruth : ¬ IsTruthValue value.toList)
    (noNumber : ¬ IsInt64 value.toList) : ofValue value = .string := by
  rw [ofValue, if_neg (by rwa [sameLetters_truth_iff])]
  cases read : integer? value.toList with
  | none => rfl
  | some n =>
      refine if_neg fun bounds => noNumber ⟨n, (integer?_eq_some_iff _ n).mp read, ?_⟩
      exact bounds

/-- A value looks like a truth value if it spells one, like a whole number if it is a signed numeral of a
number within 64 bits, and else like a text; nothing looks like both of the first two. -/
theorem ofValue_cases (value : String) :
    (ofValue value = .int64 ↔ IsInt64 value.toList) ∧
    (ofValue value = .bool ↔ IsTruthValue value.toList) ∧
    (ofValue value = .string ↔ ¬ IsInt64 value.toList ∧ ¬ IsTruthValue value.toList) := by
  by_cases truth : IsTruthValue value.toList
  · have noNumber : ¬ IsInt64 value.toList := fun number => number.not_truthValue truth
    simp [ofValue_of_truthValue truth, truth, noNumber]
  · by_cases number : IsInt64 value.toList
    · simp [ofValue_of_int64 number, truth, number]
    · simp [ofValue_of_neither truth number, truth, number]

/-- The least number of 64 bits after zeros, and the one below it. -/
example : ofValue "-00009223372036854775808" = .int64 ∧ ofValue "-9223372036854775809" = .string := by
  decide +kernel

end LabelType

end CloudMonitoring
