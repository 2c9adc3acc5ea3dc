/-!
Instants as whole nanoseconds since the Unix epoch. The calendar only covers a part of them; an
instant is representable when it has a calendar date.
-/

namespace CloudMonitoring

structure Instant where
  nanoseconds : Int
deriving DecidableEq, Repr

namespace Instant

instance : Inhabited Instant := ⟨⟨0⟩⟩

instance : LE Instant := ⟨fun first second => first.nanoseconds ≤ second.nanoseconds⟩

instance : LT Instant := ⟨fun first second => first.nanoseconds < second.nanoseconds⟩

instance (first second : Instant) : Decidable (first ≤ second) :=
  inferInstanceAs (Decidable (first.nanoseconds ≤ second.nanoseconds))

instance (first second : Instant) : Decidable (first < second) :=
  inferInstanceAs (Decidable (first.nanoseconds < second.nanoseconds))

theorem le_iff (first second : Instant) :
    first ≤ second ↔ first.nanoseconds ≤ second.nanoseconds := Iff.rfl

theorem lt_iff (first second : Instant) :
    first < second ↔ first.nanoseconds < second.nanoseconds := Iff.rfl

theorem le_of_lt {first second : Instant} (before : first < second) : first ≤ second :=
  Int.le_of_lt before

theorem lt_of_le_of_lt {first second third : Instant} (start : first ≤ second)
    (rest : second < third) : first < third := Int.lt_of_le_of_lt start rest

theorem not_le {first second : Instant} : ¬ first ≤ second ↔ second < first := Int.not_le

theorem not_lt {first second : Instant} : ¬ first < second ↔ second ≤ first := Int.not_lt

theorem ext_iff (first second : Instant) :
    first = second ↔ first.nanoseconds = second.nanoseconds := by
  cases first; cases second; simp

def earlier (first second : Instant) : Instant :=
  if first ≤ second then first else second

theorem earlier_le_right (first second : Instant) : earlier first second ≤ second := by
  simp only [earlier, le_iff]
  split
  · omega
  · omega

def ofParts (seconds nanoseconds : Int) : Instant :=
  ⟨seconds * 1000000000 + nanoseconds⟩

def seconds (instant : Instant) : Int := instant.nanoseconds / 1000000000

def subsecond (instant : Instant) : Int := instant.nanoseconds % 1000000000

def addMilliseconds (instant : Instant) (count : Int) : Instant :=
  ⟨instant.nanoseconds + count * 1000000⟩

/-- The first instant of the year -262143. -/
def earliest : Instant := ofParts (-8334601228800) 0

/-- The last instant of the year 262142. -/
def latest : Instant := ofParts 8210266876799 999999999

def Representable (instant : Instant) : Prop := earliest ≤ instant ∧ instant ≤ latest

instance (instant : Instant) : Decidable instant.Representable :=
  inferInstanceAs (Decidable (_ ∧ _))

end Instant

end CloudMonitoring
