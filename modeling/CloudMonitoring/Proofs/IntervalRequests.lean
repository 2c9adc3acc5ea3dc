import CloudMonitoring.Proofs.IntervalHistory
import Mathlib.Data.Finset.Card

/-!
The interval table under any sequence of requests. Each series has the intervals that it would have by
itself, whatever is asked for others in between; what is kept of it ends with the latest of the ends
that were asked for.
-/

namespace CloudMonitoring

structure IntervalRequest where
  key : SeriesKey
  stop : Instant
deriving DecidableEq

def stopsOf (key : SeriesKey) (requests : List IntervalRequest) : List Instant :=
  (requests.filter fun request => request.key = key).map IntervalRequest.stop

def intervalsOf (key : SeriesKey) (answers : List (SeriesKey × Interval)) : List Interval :=
  (answers.filter fun answer => answer.1 = key).map Prod.snd

theorem stopsOf_cons (key : SeriesKey) (request : IntervalRequest) (rest : List IntervalRequest) :
    stopsOf key (request :: rest) =
      if request.key = key then request.stop :: stopsOf key rest else stopsOf key rest := by
  by_cases same : request.key = key
  · simp [stopsOf, same]
  · simp [stopsOf, same]

theorem intervalsOf_cons (key : SeriesKey) (answer : SeriesKey × Interval)
    (rest : List (SeriesKey × Interval)) :
    intervalsOf key (answer :: rest) =
      if answer.1 = key then answer.2 :: intervalsOf key rest else intervalsOf key rest := by
  by_cases same : answer.1 = key
  · simp [intervalsOf, same]
  · simp [intervalsOf, same]

theorem stopsOf_eq_nil_iff (key : SeriesKey) (requests : List IntervalRequest) :
    stopsOf key requests = [] ↔ ∀ request ∈ requests, request.key ≠ key := by
  simp [stopsOf]

/-- What is kept of a series whose intervals ended at some times: nothing before the first of them,
and then an interval that ends with the latest. -/
def KeepsLatest (stops : List Instant) : Option Interval → Prop
  | none => stops = []
  | some kept => kept.start ≤ kept.stop ∧ kept.stop ∈ stops ∧ ∀ stop ∈ stops, stop ≤ kept.stop

namespace IntervalTable

variable (startTime : Instant) (table : IntervalTable)

def intervalsFrom (last : Option Interval) : List Instant → List Interval
  | [] => []
  | stop :: rest =>
      (following startTime last stop).1 :: intervalsFrom (advance startTime last stop) rest

def lastFrom (last : Option Interval) (stops : List Instant) : Option Interval :=
  stops.foldl (advance startTime) last

def after (requests : List IntervalRequest) : IntervalTable :=
  requests.foldl (fun current request => (current.extend request.key request.stop).2) table

def answers : IntervalTable → List IntervalRequest → List (SeriesKey × Interval)
  | _, [] => []
  | current, request :: rest =>
      let (interval, next) := current.extend request.key request.stop
      (request.key, interval) :: next.answers rest

theorem after_append (first second : List IntervalRequest) :
    table.after (first ++ second) = (table.after first).after second :=
  List.foldl_append

theorem after_append_single (requests : List IntervalRequest) (last : IntervalRequest) :
    table.after (requests ++ [last]) = ((table.after requests).extend last.key last.stop).2 :=
  table.after_append requests [last]

theorem last?_extend_ne {key other : SeriesKey} (different : other ≠ key) (stop : Instant) :
    (table.extend key stop).2.last? other = table.last? other := by
  rw [last?_extend, if_neg]
  exact fun same => different same.1

theorem last?_after (requests : List IntervalRequest) (key : SeriesKey) :
    (table.after requests).last? key =
      lastFrom table.startTime (table.last? key) (stopsOf key requests) := by
  induction requests generalizing table with
  | nil => rfl
  | cons request rest ih =>
      have later := ih (table.extend request.key request.stop).2
      rw [startTime_extend] at later
      rw [stopsOf_cons]
      by_cases same : request.key = key
      · subst same
        rw [last?_extend_self] at later
        rw [if_pos rfl]
        exact later
      · rw [last?_extend_ne table (Ne.symm same)] at later
        rw [if_neg same]
        exact later

theorem intervalsOf_answers (requests : List IntervalRequest) (key : SeriesKey) :
    intervalsOf key (table.answers requests) =
      intervalsFrom table.startTime (table.last? key) (stopsOf key requests) := by
  induction requests generalizing table with
  | nil => rfl
  | cons request rest ih =>
      have later := ih (table.extend request.key request.stop).2
      rw [startTime_extend] at later
      rw [stopsOf_cons, answers, intervalsOf_cons]
      by_cases same : request.key = key
      · subst same
        rw [last?_extend_self] at later
        rw [if_pos rfl, if_pos rfl, later, fst_extend, intervalsFrom]
      · rw [last?_extend_ne table (Ne.symm same)] at later
        rw [if_neg same, if_neg same, later]

theorem keepsLatest_advance {stops : List Instant} {last : Option Interval}
    (keeps : KeepsLatest stops last) (stop : Instant) :
    KeepsLatest (stops ++ [stop]) (advance startTime last stop) := by
  cases last with
  | none =>
      have nothing : stops = [] := keeps
      subst nothing
      refine ⟨Instant.earlier_le_right startTime stop, by simp, ?_⟩
      intro other member
      rw [List.nil_append, List.mem_singleton] at member
      exact member ▸ Int.le_refl _
  | some kept =>
      obtain ⟨ordered, listed, latest⟩ := keeps
      by_cases late : stop ≤ kept.stop
      · have stays : advance startTime (some kept) stop = some kept := by
          simp [advance, following_of_le startTime late]
        rw [stays]
        refine ⟨ordered, List.mem_append_left _ listed, ?_⟩
        intro other member
        rcases List.mem_append.mp member with old | new
        · exact latest other old
        · rw [List.mem_singleton.mp new]
          exact late
      · have later : kept.stop < stop := Instant.not_le.mp late
        have begins := start_following_le startTime (some kept) stop
        have ends := stop_following startTime (some kept) stop
        have moves : advance startTime (some kept) stop =
            some (following startTime (some kept) stop).1 := by
          rcases following_of_lt startTime ordered later with found | found
          · simp [advance, found]
          · simp [advance, found]
        rw [moves]
        generalize (following startTime (some kept) stop).1 = found at begins ends
        subst ends
        refine ⟨begins, by simp, ?_⟩
        intro other member
        rcases List.mem_append.mp member with old | new
        · exact Instant.le_of_lt (Instant.lt_of_le_of_lt (latest other old) later)
        · exact List.mem_singleton.mp new ▸ Int.le_refl _

theorem keepsLatest_lastFrom (stops : List Instant) :
    KeepsLatest stops (lastFrom startTime none stops) := by
  induction stops using List.reverseRecOn with
  | nil => rfl
  | append_singleton stops stop ih =>
      have moved : lastFrom startTime none (stops ++ [stop]) =
          advance startTime (lastFrom startTime none stops) stop := by simp [lastFrom]
      rw [moved]
      exact keepsLatest_advance startTime ih stop

theorem keepsLatest_after (requests : List IntervalRequest) (key : SeriesKey) :
    KeepsLatest (stopsOf key requests) (((starting startTime).after requests).last? key) := by
  rw [last?_after]
  exact keepsLatest_lastFrom startTime (stopsOf key requests)

theorem keys_extend (key : SeriesKey) (stop : Instant) :
    Pairs.keys (table.extend key stop).2.exported =
      if key ∈ Pairs.keys table.exported then Pairs.keys table.exported
      else Pairs.keys table.exported ++ [key] := by
  by_cases advances : (following table.startTime (table.last? key) stop).2 = true
  · simp [extend, advances, Pairs.keys_set]
  · -- The first interval of a series always advances, so this key is known.
    have known : key ∈ Pairs.keys table.exported := by
      by_contra absent
      have unasked : table.last? key = none := (Pairs.get?_eq_none_iff key _).mpr absent
      rw [unasked] at advances
      exact advances rfl
    simp [extend, advances, known]

theorem keys_after (requests : List IntervalRequest) :
    Pairs.keys ((starting startTime).after requests).exported =
      (requests.map IntervalRequest.key).eraseDups := by
  induction requests using List.reverseRecOn with
  | nil => rfl
  | append_singleton requests last ih =>
      rw [after_append_single, keys_extend, ih, List.map_append, List.map_singleton,
        eraseDups_append_single]
      simp only [List.mem_eraseDups]

theorem keys_extend_nodup {table : IntervalTable} (distinct : (Pairs.keys table.exported).Nodup)
    (key : SeriesKey) (stop : Instant) :
    (Pairs.keys (table.extend key stop).2.exported).Nodup := by
  simp only [extend]
  split
  · exact Pairs.keys_set_nodup _ _ distinct
  · exact distinct

theorem keys_after_nodup (requests : List IntervalRequest) :
    (Pairs.keys ((starting startTime).after requests).exported).Nodup := by
  induction requests using List.reverseRecOn with
  | nil => exact List.nodup_nil
  | append_singleton requests last ih =>
      rw [after_append_single]
      exact keys_extend_nodup ih last.key last.stop

theorem size_after (requests : List IntervalRequest) :
    ((starting startTime).after requests).size =
      (requests.map IntervalRequest.key).toFinset.card := by
  have distinct := keys_after_nodup startTime requests
  have sameKeys : (Pairs.keys ((starting startTime).after requests).exported).toFinset =
      (requests.map IntervalRequest.key).toFinset := by
    ext key
    rw [List.mem_toFinset, keys_after, List.mem_eraseDups, List.mem_toFinset]
  rw [← sameKeys, List.toFinset_card_of_nodup distinct, Pairs.keys, List.length_map, size]

theorem lastEnd?_after_eq_none_iff (requests : List IntervalRequest) (key : SeriesKey) :
    ((starting startTime).after requests).lastEnd? key = none ↔
      ∀ request ∈ requests, request.key ≠ key := by
  have keeps := keepsLatest_after startTime requests key
  rw [lastEnd?, Option.map_eq_none_iff, ← stopsOf_eq_nil_iff]
  constructor
  · intro nothing
    rwa [nothing] at keeps
  · intro unasked
    rw [last?_after, unasked]
    rfl

theorem lastEnd?_after_eq_some_iff (requests : List IntervalRequest) (key : SeriesKey)
    (stop : Instant) :
    ((starting startTime).after requests).lastEnd? key = some stop ↔
      stop ∈ stopsOf key requests ∧ ∀ other ∈ stopsOf key requests, other ≤ stop := by
  have keeps := keepsLatest_after startTime requests key
  rw [lastEnd?]
  cases found : ((starting startTime).after requests).last? key with
  | none =>
      rw [found] at keeps
      have unasked : stopsOf key requests = [] := keeps
      simp [unasked]
  | some kept =>
      rw [found] at keeps
      obtain ⟨_, listed, latest⟩ := keeps
      rw [Option.map_some, Option.some.injEq]
      constructor
      · rintro rfl
        exact ⟨listed, latest⟩
      · rintro ⟨listedToo, latestToo⟩
        have lower := latest stop listedToo
        have upper := latestToo kept.stop listed
        rw [Instant.le_iff] at lower upper
        rw [Instant.ext_iff]
        omega

theorem lastEnd?_after_le {requests : List IntervalRequest} (more : List IntervalRequest)
    {key : SeriesKey} {stop : Instant}
    (found : ((starting startTime).after requests).lastEnd? key = some stop) :
    ∃ later, ((starting startTime).after (requests ++ more)).lastEnd? key = some later ∧
      stop ≤ later := by
  obtain ⟨listed, _⟩ := (lastEnd?_after_eq_some_iff startTime requests key stop).mp found
  have stillListed : stop ∈ stopsOf key (requests ++ more) := by
    rw [stopsOf, List.filter_append, List.map_append]
    exact List.mem_append_left _ listed
  cases last : ((starting startTime).after (requests ++ more)).lastEnd? key with
  | none =>
      have unasked := (lastEnd?_after_eq_none_iff startTime (requests ++ more) key).mp last
      rw [(stopsOf_eq_nil_iff key _).mpr unasked] at stillListed
      contradiction
  | some later =>
      have latest := (lastEnd?_after_eq_some_iff startTime (requests ++ more) key later).mp last
      exact ⟨later, rfl, latest.2 stop stillListed⟩

theorem ordered_after (requests : List IntervalRequest) :
    ∀ entry ∈ ((starting startTime).after requests).exported, entry.2.start ≤ entry.2.stop := by
  rintro ⟨key, kept⟩ member
  have distinct := keys_after_nodup startTime requests
  have found : ((starting startTime).after requests).last? key = some kept :=
    (Pairs.get?_eq_some_iff distinct).mpr member
  have keeps := keepsLatest_after startTime requests key
  rw [found] at keeps
  exact keeps.1

/-- The last end of a series is the latest of those that were asked for it, so it never goes back; the
table has one entry for each series that was asked for, and none of them begins after its end. A series
has the intervals that its own ends make from the start time on, whatever is asked for others. -/
theorem keeps_latest_ends (requests : List IntervalRequest) :
    let table := (starting startTime).after requests
    (∀ key, table.lastEnd? key = none ↔ ∀ request ∈ requests, request.key ≠ key) ∧
    (∀ key stop, table.lastEnd? key = some stop ↔
      stop ∈ stopsOf key requests ∧ ∀ other ∈ stopsOf key requests, other ≤ stop) ∧
    (∀ more key stop, table.lastEnd? key = some stop →
      ∃ later, (table.after more).lastEnd? key = some later ∧ stop ≤ later) ∧
    table.size = (requests.map IntervalRequest.key).toFinset.card ∧
    (∀ entry ∈ table.exported, entry.2.start ≤ entry.2.stop) ∧
    (∀ key, intervalsOf key ((starting startTime).answers requests) =
      intervalsFrom startTime none (stopsOf key requests)) ∧
    ∀ key others, stopsOf key others = stopsOf key requests →
      intervalsOf key ((starting startTime).answers others) =
        intervalsOf key ((starting startTime).answers requests) ∧
      ((starting startTime).after others).last? key = table.last? key := by
  intro table
  refine ⟨lastEnd?_after_eq_none_iff startTime requests,
    lastEnd?_after_eq_some_iff startTime requests, ?_, size_after startTime requests,
    ordered_after startTime requests, (starting startTime).intervalsOf_answers requests, ?_⟩
  · intro more key stop found
    rw [← after_append]
    exact lastEnd?_after_le startTime more found
  · intro key others same
    rw [intervalsOf_answers, intervalsOf_answers, last?_after, last?_after, same]
    exact ⟨rfl, rfl⟩

theorem keeps_latest_ends_interleaved :
    let sent : SeriesKey := ⟨"workload.googleapis.com/sent", .empty⟩
    let received : SeriesKey := ⟨"workload.googleapis.com/received", .empty⟩
    let requests : List IntervalRequest := [⟨received, ⟨1⟩⟩, ⟨sent, ⟨9⟩⟩, ⟨received, ⟨7⟩⟩,
      ⟨sent, ⟨5000000⟩⟩, ⟨sent, ⟨5000001⟩⟩, ⟨sent, ⟨2⟩⟩]
    let others : List IntervalRequest := [⟨sent, ⟨9⟩⟩, ⟨sent, ⟨5000000⟩⟩, ⟨received, ⟨8000000⟩⟩,
      ⟨sent, ⟨5000001⟩⟩, ⟨sent, ⟨2⟩⟩, ⟨received, ⟨1⟩⟩]
    let table := (starting ⟨4⟩).after requests
    stopsOf sent others = stopsOf sent requests ∧
    intervalsOf sent ((starting ⟨4⟩).answers requests) =
      [⟨⟨4⟩, ⟨9⟩⟩, ⟨⟨1000009⟩, ⟨5000000⟩⟩, ⟨⟨1000009⟩, ⟨5000001⟩⟩, ⟨⟨2⟩, ⟨2⟩⟩] ∧
    intervalsOf sent ((starting ⟨4⟩).answers others) =
      intervalsOf sent ((starting ⟨4⟩).answers requests) ∧
    table.lastEnd? sent = some ⟨5000001⟩ ∧
    ∃ later, (table.after [⟨sent, ⟨3⟩⟩]).lastEnd? sent = some later ∧ (⟨5000001⟩ : Instant) ≤ later := by
  intro sent received requests others table
  have same : stopsOf sent others = stopsOf sent requests := by decide +kernel
  have last : table.lastEnd? sent = some ⟨5000001⟩ := by decide +kernel
  obtain ⟨_, _, never, _, _, _, alone⟩ := keeps_latest_ends ⟨4⟩ requests
  exact ⟨same, by decide +kernel, (alone sent others same).1, last,
    never [⟨sent, ⟨3⟩⟩] sent ⟨5000001⟩ last⟩

end IntervalTable

end CloudMonitoring
