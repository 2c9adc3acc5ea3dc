import CloudMonitoring.Time.Rfc3339
import Mathlib.Algebra.Ring.Nat
import Mathlib.Data.List.Basic

/-!
No two instants have the same timestamp. The calendar date gives the day back, a text gives its date and
its clock back, and a fraction says the nanoseconds although its length varies.
-/

namespace CloudMonitoring

namespace CivilDate

theorem yearOfEra_eq {century cycle year day : Int} (centuries : 0 ≤ century ∧ century ≤ 3)
    (cycles : 0 ≤ cycle ∧ cycle ≤ 24) (years : 0 ≤ year ∧ year ≤ 3)
    (days : 0 ≤ day ∧ day ≤ if year = 3 then 365 else 364)
    (within : 1461 * cycle + 365 * year + day < 36524) :
    yearOfEra (36524 * century + 1461 * cycle + 365 * year + day) =
      100 * century + 4 * cycle + year := by
  have byCentury : (36524 * century + 1461 * cycle + 365 * year + day) / 36524 = century := by omega
  have byEra : (36524 * century + 1461 * cycle + 365 * year + day) / 146096 = 0 := by omega
  -- Cycles have 1461 days, so the day may be one run of 1460 ahead of the cycles, late in a leap year.
  have byCycle : (36524 * century + 1461 * cycle + 365 * year + day) / 1460 =
      25 * century + cycle + (24 * century + cycle + 365 * year + day) / 1460 := by omega
  simp only [yearOfEra, byCentury, byEra, byCycle]
  split at days
  · omega
  · omega

theorem exists_parts {day : Int} (lower : 0 ≤ day) (upper : day < 146096) :
    ∃ century cycle year rest : Int, (0 ≤ century ∧ century ≤ 3) ∧ (0 ≤ cycle ∧ cycle ≤ 24) ∧
      (0 ≤ year ∧ year ≤ 3) ∧ (0 ≤ rest ∧ rest ≤ if year = 3 then 365 else 364) ∧
      1461 * cycle + 365 * year + rest < 36524 ∧
      day = 36524 * century + 1461 * cycle + 365 * year + rest := by
  let dayOfCycle := day % 36524 % 1461
  refine ⟨day / 36524, day % 36524 / 1461, min 3 (dayOfCycle / 365),
    dayOfCycle - 365 * min 3 (dayOfCycle / 365), ?_, ?_, ?_, ?_, ?_, ?_⟩
  case refine_4 => split <;> omega
  all_goals omega

theorem dayOfYear_bounds {day : Int} (lower : 0 ≤ day) (upper : day < 146097) :
    0 ≤ day - daysBeforeYear (yearOfEra day) ∧ day - daysBeforeYear (yearOfEra day) ≤ 365 := by
  by_cases last : day = 146096
  · subst last
    decide
  · obtain ⟨century, cycle, year, rest, centuries, cycles, years, days, within, rfl⟩ :=
      exists_parts lower (by omega)
    have leaps : (100 * century + 4 * cycle + year) / 4 = 25 * century + cycle := by omega
    have kept : (100 * century + 4 * cycle + year) / 100 = century := by omega
    rw [yearOfEra_eq centuries cycles years days within]
    simp only [daysBeforeYear, leaps, kept]
    split at days
    · omega
    · omega

theorem yearOfEra_bounds {day : Int} (lower : 0 ≤ day) (upper : day < 146097) :
    0 ≤ yearOfEra day ∧ yearOfEra day ≤ 399 := by
  simp only [yearOfEra]
  omega

def ofParts (era year month day : Int) : CivilDate :=
  let civilMonth := if month < 10 then month + 3 else month - 9
  { year := year + 400 * era + (if civilMonth ≤ 2 then 1 else 0)
    month := civilMonth
    day := day + 1 }

theorem toDays_ofParts {year month : Int} (era day : Int) (years : 0 ≤ year ∧ year ≤ 399)
    (months : 0 ≤ month ∧ month ≤ 11) :
    (ofParts era year month day).toDays =
      146097 * era + daysBeforeYear year + daysBeforeMonth month + day - epochOffset := by
  have eras : (year + 400 * era) / 400 = era := by omega
  have yearsOfEra : (year + 400 * era) % 400 = year := by omega
  simp only [ofParts, toDays]
  by_cases early : month < 10
  · have notBefore : ¬month + 3 ≤ 2 := by omega
    have after : 3 ≤ month + 3 := by omega
    simp only [early, notBefore, after, ↓reduceIte, Int.add_zero, eras, yearsOfEra,
      Int.add_sub_cancel]
    omega
  · have before : month - 9 ≤ 2 := by omega
    have notAfter : ¬3 ≤ month - 9 := by omega
    simp only [early, before, notAfter, ↓reduceIte, eras, yearsOfEra, Int.add_sub_cancel,
      Int.sub_add_cancel]
    omega

theorem toDays_ofDays (days : Int) : (ofDays days).toDays = days := by
  have era : 0 ≤ (days + epochOffset) % 146097 ∧ (days + epochOffset) % 146097 < 146097 := by omega
  have years := yearOfEra_bounds era.1 era.2
  have rest := dayOfYear_bounds era.1 era.2
  refine (toDays_ofParts _ _ years (by omega)).trans ?_
  omega

def InCalendar (date : CivilDate) : Prop :=
  (1 ≤ date.month ∧ date.month ≤ 12) ∧ 1 ≤ date.day ∧ date.day ≤ 31

theorem inCalendar_ofDays (days : Int) : (ofDays days).InCalendar := by
  have rest := @dayOfYear_bounds ((days + epochOffset) % 146097) (by omega) (by omega)
  simp only [InCalendar, ofDays, daysBeforeMonth]
  constructor
  · split <;> omega
  · omega

theorem ofDays_injective : Function.Injective ofDays :=
  Function.LeftInverse.injective toDays_ofDays

end CivilDate

namespace Rfc3339

theorem isDigit_of_mem_padded {width value : Nat} {c : Char} (member : c ∈ padded width value) :
    c.isDigit = true := by
  rcases List.mem_append.mp member with zero | digit
  · rw [List.eq_of_mem_replicate zero]
    rfl
  · exact Nat.isDigit_of_mem_toDigits (by decide) (by decide) digit

theorem not_mem_padded {c : Char} (other : c.isDigit = false) (width value : Nat) :
    c ∉ padded width value := by
  intro member
  rw [isDigit_of_mem_padded member] at other
  contradiction

theorem ofDigitChars_padded (width value : Nat) :
    Nat.ofDigitChars 10 (padded width value) 0 = value := by
  simp [padded, Nat.ofDigitChars_append, Nat.ofDigitChars_replicate_zero,
    Nat.ofDigitChars_ten_toDigits]

theorem padded_inj {width value other : Nat} (same : padded width value = padded width other) :
    value = other := by
  have read := congrArg (Nat.ofDigitChars 10 · 0) same
  simpa only [ofDigitChars_padded] using read

theorem length_padded {width value : Nat} (positive : 0 < width) (fits : value < 10 ^ width) :
    (padded width value).length = width := by
  have atMost := (Nat.length_toDigits_le_iff (by decide) positive).mpr fits
  simp only [padded, List.length_append, List.length_replicate]
  omega

theorem sign_notDigit (year : Int) : (if year < 0 then '-' else '+').isDigit = false := by
  split
  · rfl
  · rfl

theorem padded_ne_cons {c : Char} (other : c.isDigit = false) (width value : Nat) (rest : List Char) :
    padded width value ≠ c :: rest := by
  intro same
  have member : c ∈ padded width value := by simp [same]
  exact not_mem_padded other width value member

theorem yearText_inj {year other : Int} (same : yearText year = yearText other) : year = other := by
  by_cases plain : 0 ≤ year ∧ year ≤ 9999
  · by_cases plainToo : 0 ≤ other ∧ other ≤ 9999
    · simp only [yearText, plain, plainToo, and_self, ↓reduceIte] at same
      have magnitude := padded_inj same
      omega
    · simp only [yearText, plain, plainToo, and_self, ↓reduceIte] at same
      exact absurd same (padded_ne_cons (sign_notDigit other) _ _ _)
  · by_cases plainToo : 0 ≤ other ∧ other ≤ 9999
    · simp only [yearText, plain, plainToo, and_self, ↓reduceIte] at same
      exact absurd same.symm (padded_ne_cons (sign_notDigit year) _ _ _)
    · simp only [yearText, plain, plainToo, ↓reduceIte] at same
      obtain ⟨sign, digits⟩ := List.cons.inj same
      have magnitude := padded_inj digits
      have negative : year < 0 ↔ other < 0 := by
        split at sign <;> split at sign
        · omega
        · contradiction
        · contradiction
        · omega
      omega

theorem append_two_inj {before others : List Char} {mark : Char} {value other : Nat}
    (fits : value < 100) (fitsToo : other < 100)
    (same : before ++ mark :: padded 2 value = others ++ mark :: padded 2 other) :
    before = others ∧ value = other := by
  have lengths : (padded 2 value).length = (padded 2 other).length := by
    rw [length_padded (by decide) fits, length_padded (by decide) fitsToo]
  obtain ⟨front, back⟩ := List.append_inj' same (congrArg (· + 1) lengths)
  exact ⟨front, padded_inj (List.cons.inj back).2⟩

theorem dateText_inj {date other : CivilDate} (fields : date.InCalendar) (fieldsToo : other.InCalendar)
    (same : dateText date = dateText other) : date = other := by
  obtain ⟨year, month, day⟩ := date
  obtain ⟨otherYear, otherMonth, otherDay⟩ := other
  simp only [CivilDate.InCalendar] at fields fieldsToo
  simp only [dateText] at same
  obtain ⟨before, days⟩ := append_two_inj (by omega) (by omega) same
  obtain ⟨years, months⟩ := append_two_inj (by omega) (by omega) before
  have sameYear := yearText_inj years
  simp only [CivilDate.mk.injEq]
  omega

theorem length_clockText {secondOfDay : Nat} (within : secondOfDay < 86400) :
    (clockText secondOfDay).length = 8 := by
  simp only [clockText, List.length_append, List.length_cons]
  rw [length_padded (by decide) (by omega), length_padded (by decide) (by omega),
    length_padded (by decide) (by omega)]

theorem clockText_inj {second other : Nat} (within : second < 86400) (withinToo : other < 86400)
    (same : clockText second = clockText other) : second = other := by
  obtain ⟨before, seconds⟩ := append_two_inj (by omega) (by omega) same
  obtain ⟨hours, minutes⟩ := append_two_inj (by omega) (by omega) before
  have sameHour := padded_inj hours
  omega

def readFraction (fraction : List Char) : Nat :=
  Nat.ofDigitChars 10 (fraction.drop 1) 0 * 10 ^ (10 - fraction.length)

theorem readFraction_fractionText {nanoseconds : Nat} (within : nanoseconds < 1000000000) :
    readFraction (fractionText nanoseconds) = nanoseconds := by
  have read {width value : Nat} (positive : 0 < width) (fits : value < 10 ^ width) :
      readFraction ('.' :: padded width value) = value * 10 ^ (9 - width) := by
    simp [readFraction, ofDigitChars_padded, length_padded positive fits]
  simp only [fractionText]
  split
  · simp [readFraction, *]
  · split
    · rw [read (by decide) (by omega)]
      omega
    · split
      · rw [read (by decide) (by omega)]
        omega
      · rw [read (by decide) (by omega)]
        omega

theorem mark_notMem_padded (width value : Nat) : 'T' ∉ padded width value :=
  not_mem_padded rfl width value

theorem mark_notMem_dateText (date : CivilDate) : 'T' ∉ dateText date := by
  simp only [dateText, yearText]
  split
  · simp [mark_notMem_padded]
  · split <;> simp [mark_notMem_padded]

theorem mark_notMem_clockText (secondOfDay : Nat) : 'T' ∉ clockText secondOfDay := by
  simp [clockText, mark_notMem_padded]

theorem mark_notMem_fractionText (nanoseconds : Nat) : 'T' ∉ fractionText nanoseconds := by
  simp only [fractionText]
  split
  · simp
  · split
    · simp [mark_notMem_padded]
    · split <;> simp [mark_notMem_padded]

theorem characters_inj {first second : Instant} (same : characters first = characters second) :
    first = second := by
  have clock (instant : Instant) : (instant.seconds % 86400).toNat < 86400 := by omega
  have fraction (instant : Instant) : instant.subsecond.toNat < 1000000000 := by
    simp only [Instant.subsecond]
    omega
  simp only [characters, List.append_assoc, List.cons_append] at same
  rw [List.append_cons_inj_of_notMem (mark_notMem_dateText _)
    (by simp [mark_notMem_clockText, mark_notMem_fractionText])] at same
  obtain ⟨dates, -, rest⟩ := same
  obtain ⟨clocks, fractions⟩ :=
    List.append_inj rest (by rw [length_clockText (clock first), length_clockText (clock second)])
  have sameFraction := congrArg readFraction (List.append_cancel_right fractions)
  rw [readFraction_fractionText (fraction first), readFraction_fractionText (fraction second)]
    at sameFraction
  have sameClock := clockText_inj (clock first) (clock second) clocks
  have sameDay := CivilDate.ofDays_injective
    (dateText_inj (CivilDate.inCalendar_ofDays _) (CivilDate.inCalendar_ofDays _) dates)
  rw [Instant.ext_iff]
  simp only [Instant.seconds, Instant.subsecond] at sameDay sameClock sameFraction
  omega

end Rfc3339

theorem Instant.toRfc3339_injective : Function.Injective Instant.toRfc3339 := by
  intro first second same
  exact Rfc3339.characters_inj (String.ofList_injective same)

end CloudMonitoring
