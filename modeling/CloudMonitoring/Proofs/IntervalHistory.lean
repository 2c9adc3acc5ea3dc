import CloudMonitoring.Proofs.Settlement

/-!
The intervals that one cumulative series is given in the course of time. Those that end later than
all before them follow each other without overlap, or continue the same start; what ends no later
than something before it stays within the latest of them or lies before it.
-/

namespace CloudMonitoring

def Advances (history : List Interval) (position : Nat) : Prop :=
  ∀ interval, history[position]? = some interval →
    ∀ earlier ∈ history.take position, earlier.stop < interval.stop

structure LatestBefore (history : List Interval) (position latest : Nat) : Prop where
  before : latest < position
  advances : Advances history latest
  last : ∀ between, latest < between → between < position → ¬ Advances history between

/-- An interval that does not advance: a first part of the latest one that did, or an interval of no
length before it. -/
def LiesBehind (interval latest : Interval) : Prop :=
  (interval.start = latest.start ∧ interval.stop ≤ latest.stop) ∨
    (interval.start = interval.stop ∧ interval.stop < latest.start)

structure Continues (startTime : Instant) (history : List Interval) : Prop where
  ordered : ∀ interval ∈ history, interval.start ≤ interval.stop
  first : ∀ interval, history[0]? = some interval →
    interval.start = startTime.earlier interval.stop
  separate : ∀ before after (one other : Interval), before < after →
    history[before]? = some one → history[after]? = some other →
    Advances history before → Advances history after →
    one.start = other.start ∨ one.stop.addMilliseconds 1 ≤ other.start
  behind : ∀ position interval, history[position]? = some interval →
    ¬ Advances history position →
    ∃ latest found, LatestBefore history position latest ∧ history[latest]? = some found ∧
      LiesBehind interval found

/-- What is kept of a history: its latest interval that advances, which ends last. -/
def Keeps (history : List Interval) : Option Interval → Prop
  | none => history = []
  | some kept => ∃ latest, LatestBefore history history.length latest ∧
      history[latest]? = some kept ∧ ∀ interval ∈ history, interval.stop ≤ kept.stop

section Append

variable {history : List Interval} {next : Interval} {position latest : Nat}

theorem advances_append_of_lt (bound : position < history.length) :
    Advances (history ++ [next]) position ↔ Advances history position := by
  simp only [Advances, List.getElem?_append_left bound,
    List.take_append_of_le_length (Nat.le_of_lt bound)]

theorem advances_append_length :
    Advances (history ++ [next]) history.length ↔
      ∀ earlier ∈ history, earlier.stop < next.stop := by
  simp [Advances]

theorem getElem?_append_single_eq_some {interval : Interval}
    (found : (history ++ [next])[position]? = some interval) :
    (position < history.length ∧ history[position]? = some interval) ∨
      (position = history.length ∧ interval = next) := by
  rcases Nat.lt_trichotomy position history.length with below | same | above
  · rw [List.getElem?_append_left below] at found
    exact .inl ⟨below, found⟩
  · subst same
    simp only [List.getElem?_concat_length, Option.some.injEq] at found
    exact .inr ⟨rfl, found.symm⟩
  · rw [List.getElem?_eq_none (by simp; omega)] at found
    contradiction

theorem LatestBefore.append (found : LatestBefore history position latest)
    (bound : position ≤ history.length) : LatestBefore (history ++ [next]) position latest := by
  have before := found.before
  refine ⟨before, (advances_append_of_lt (by omega)).mpr found.advances, ?_⟩
  intro between lower upper
  rw [advances_append_of_lt (by omega)]
  exact found.last between lower upper

end Append

namespace IntervalTable

theorem following_of_le (startTime : Instant) {stop : Instant} {last : Interval}
    (late : stop ≤ last.stop) :
    following startTime (some last) stop = (⟨last.start.earlier stop, stop⟩, false) := by
  have noRoom : ¬ last.stop.addMilliseconds 1 ≤ stop := by
    simp only [Instant.le_iff, Instant.addMilliseconds] at late ⊢
    omega
  have notLater : ¬ last.stop < stop := Instant.not_lt.mpr late
  simp [following, noRoom, notLater]

theorem following_of_lt (startTime : Instant) {stop : Instant} {last : Interval}
    (ordered : last.start ≤ last.stop) (later : last.stop < stop) :
    following startTime (some last) stop = (⟨last.stop.addMilliseconds 1, stop⟩, true) ∨
      following startTime (some last) stop = (⟨last.start, stop⟩, true) := by
  by_cases room : last.stop.addMilliseconds 1 ≤ stop
  · exact .inl (by simp [following, room])
  · have same : last.start.earlier stop = last.start := by
      simp only [Instant.earlier, Instant.le_iff, Instant.lt_iff] at ordered later ⊢
      rw [if_pos (by omega)]
    exact .inr (by simp [following, room, later, same])

end IntervalTable

theorem Instant.earlier_cases (first second : Instant) :
    (first.earlier second = first ∧ first ≤ second) ∨
      (first.earlier second = second ∧ second < first) := by
  simp only [Instant.earlier, Instant.le_iff, Instant.lt_iff]
  split
  · exact .inl ⟨rfl, by assumption⟩
  · exact .inr ⟨rfl, by omega⟩

namespace Continues

variable {startTime : Instant} {history : List Interval} {next kept : Interval} {latest : Nat}

theorem append (continues : Continues startTime history) (ordered : next.start ≤ next.stop)
    (first : history = [] → next.start = startTime.earlier next.stop)
    (separate : ∀ before one, history[before]? = some one → Advances history before →
      Advances (history ++ [next]) history.length →
      one.start = next.start ∨ one.stop.addMilliseconds 1 ≤ next.start)
    (behind : ¬ Advances (history ++ [next]) history.length →
      ∃ latest found, LatestBefore history history.length latest ∧
        history[latest]? = some found ∧ LiesBehind next found) :
    Continues startTime (history ++ [next]) where
  ordered := by
    intro interval member
    rcases List.mem_append.mp member with old | new
    · exact continues.ordered interval old
    · rw [List.mem_singleton.mp new]
      exact ordered
  first := by
    intro interval found
    rcases getElem?_append_single_eq_some found with ⟨_, old⟩ | ⟨empty, rfl⟩
    · exact continues.first interval old
    · exact first (List.length_eq_zero_iff.mp empty.symm)
  separate := by
    intro before after one other earlier found later advances advancesLater
    rcases getElem?_append_single_eq_some found with ⟨below, old⟩ | ⟨atEnd, _⟩
    · rw [advances_append_of_lt below] at advances
      rcases getElem?_append_single_eq_some later with ⟨bound, oldLater⟩ | ⟨rfl, rfl⟩
      · rw [advances_append_of_lt bound] at advancesLater
        exact continues.separate before after one other earlier old oldLater advances advancesLater
      · exact separate before one old advances advancesLater
    · have bound : after < (history ++ [next]).length := (List.getElem?_eq_some_iff.mp later).1
      simp only [List.length_append, List.length_singleton] at bound
      omega
  behind := by
    intro position interval found notLater
    rcases getElem?_append_single_eq_some found with ⟨below, old⟩ | ⟨rfl, rfl⟩
    · rw [advances_append_of_lt below] at notLater
      obtain ⟨latest, kept, isLatest, get, lies⟩ := continues.behind position interval old notLater
      have before := isLatest.before
      refine ⟨latest, kept, isLatest.append (Nat.le_of_lt below), ?_, lies⟩
      rw [List.getElem?_append_left (by omega)]
      exact get
    · obtain ⟨latest, kept, isLatest, get, lies⟩ := behind notLater
      refine ⟨latest, kept, isLatest.append (Nat.le_refl _), ?_, lies⟩
      rw [List.getElem?_append_left isLatest.before]
      exact get

theorem append_later (continues : Continues startTime history)
    (isLatest : LatestBefore history history.length latest) (get : history[latest]? = some kept)
    (endsLast : ∀ interval ∈ history, interval.stop ≤ kept.stop) (later : kept.stop < next.stop)
    (ordered : next.start ≤ next.stop)
    (start : next.start = kept.stop.addMilliseconds 1 ∨ next.start = kept.start) :
    Continues startTime (history ++ [next]) := by
  refine continues.append ordered ?_ ?_ ?_
  · intro empty
    simp [empty] at get
  · intro before one found advances _
    rcases start with gap | same
    · have bound := endsLast one (List.mem_of_getElem? found)
      refine .inr ?_
      rw [gap]
      simp only [Instant.le_iff, Instant.addMilliseconds] at bound ⊢
      omega
    · -- Nothing after the latest interval advances, so the one before is it or comes before it.
      rcases Nat.lt_trichotomy before latest with below | atLatest | above
      · rw [same]
        exact continues.separate before latest one kept below found get advances isLatest.advances
      · subst atLatest
        rw [found, Option.some.injEq] at get
        exact .inl (by rw [same, get])
      · have bound : before < history.length := (List.getElem?_eq_some_iff.mp found).1
        exact absurd advances (isLatest.last before above bound)
  · intro notLater
    refine absurd (advances_append_length.mpr ?_) notLater
    intro earlier member
    exact Instant.lt_of_le_of_lt (endsLast earlier member) later

theorem append_behind (continues : Continues startTime history)
    (isLatest : LatestBefore history history.length latest) (get : history[latest]? = some kept)
    (late : next.stop ≤ kept.stop) (ordered : next.start ≤ next.stop)
    (lies : LiesBehind next kept) : Continues startTime (history ++ [next]) := by
  refine continues.append ordered ?_ ?_ fun _ => ⟨latest, kept, isLatest, get, lies⟩
  · intro empty
    simp [empty] at get
  · intro before one _ _ advances
    have less := advances_append_length.mp advances kept (List.mem_of_getElem? get)
    exact absurd less (Instant.not_lt.mpr late)

end Continues

namespace Keeps

variable {startTime : Instant} {history : List Interval} {next kept : Interval}

theorem append_later (later : ∀ interval ∈ history, interval.stop < next.stop) :
    Keeps (history ++ [next]) (some next) := by
  refine ⟨history.length, ⟨by simp, advances_append_length.mpr later, ?_⟩, by simp, ?_⟩
  · intro between lower upper
    simp only [List.length_append, List.length_singleton] at upper
    omega
  · intro interval member
    rcases List.mem_append.mp member with old | new
    · exact Instant.le_of_lt (later interval old)
    · simp [List.mem_singleton.mp new, Instant.le_iff]

theorem append_behind (keeps : Keeps history (some kept)) (late : next.stop ≤ kept.stop) :
    Keeps (history ++ [next]) (some kept) := by
  obtain ⟨latest, isLatest, get, endsLast⟩ := keeps
  have before := isLatest.before
  refine ⟨latest, ⟨?_, (advances_append_of_lt before).mpr isLatest.advances, ?_⟩, ?_, ?_⟩
  · rw [List.length_append]
    omega
  · intro between lower upper
    simp only [List.length_append, List.length_singleton] at upper
    rcases Nat.lt_or_eq_of_le (Nat.le_of_lt_succ upper) with below | same
    · rw [advances_append_of_lt below]
      exact isLatest.last between lower below
    · rw [same, advances_append_length]
      intro later
      have less := later kept (List.mem_of_getElem? get)
      exact absurd less (Instant.not_lt.mpr late)
  · rw [List.getElem?_append_left before]
    exact get
  · intro interval member
    rcases List.mem_append.mp member with old | new
    · exact endsLast interval old
    · rw [List.mem_singleton.mp new]
      exact late

end Keeps

theorem continues_nil (startTime : Instant) : Continues startTime [] where
  ordered := by simp
  first := by simp
  separate := by simp
  behind := by simp

theorem continues_following {startTime : Instant} {history : List Interval}
    {last : Option Interval} (continues : Continues startTime history) (keeps : Keeps history last)
    (stop : Instant) :
    let next := (IntervalTable.following startTime last stop).1
    Continues startTime (history ++ [next]) ∧
      Keeps (history ++ [next]) (IntervalTable.advance startTime last stop) := by
  have ordered := IntervalTable.start_following_le startTime last stop
  cases last with
  | none =>
      have empty : history = [] := keeps
      subst empty
      refine ⟨continues.append ordered (fun _ => rfl) (by simp) ?_, Keeps.append_later (by simp)⟩
      intro notLater
      exact absurd (advances_append_length.mpr (by simp)) notLater
  | some kept =>
      obtain ⟨latest, isLatest, get, endsLast⟩ := keeps
      have keptOrdered := continues.ordered kept (List.mem_of_getElem? get)
      by_cases late : stop ≤ kept.stop
      · have follows := IntervalTable.following_of_le startTime late
        simp only [IntervalTable.advance, follows, Bool.false_eq_true, if_false] at ordered ⊢
        refine ⟨continues.append_behind isLatest get late ordered ?_,
          Keeps.append_behind ⟨latest, isLatest, get, endsLast⟩ late⟩
        rcases Instant.earlier_cases kept.start stop with ⟨same, _⟩ | ⟨collapsed, before⟩
        · exact .inl ⟨same, late⟩
        · exact .inr ⟨collapsed, before⟩
      · have later : kept.stop < stop := Instant.not_le.mp late
        have allBefore : ∀ interval ∈ history, interval.stop < stop :=
          fun interval member => Instant.lt_of_le_of_lt (endsLast interval member) later
        rcases IntervalTable.following_of_lt startTime keptOrdered later with follows | follows
        · simp only [IntervalTable.advance, follows, if_true] at ordered ⊢
          exact ⟨continues.append_later isLatest get endsLast later ordered (.inl rfl),
            Keeps.append_later allBefore⟩
        · simp only [IntervalTable.advance, follows, if_true] at ordered ⊢
          exact ⟨continues.append_later isLatest get endsLast later ordered (.inr rfl),
            Keeps.append_later allBefore⟩

end CloudMonitoring
