import CloudMonitoring.Metric.Series
import CloudMonitoring.Proofs.DoubleValues
import CloudMonitoring.Proofs.Timestamps
import Mathlib.Data.List.Forall2
import Mathlib.Tactic.MkIffOfInductiveProp

/-!
The JSON form of a series keeps everything. Where the trees of two series are equal, whatever the order of
their members and however their numbers are held, the series are equal, with their instants to the
nanosecond.
-/

namespace CloudMonitoring

theorem Pairs.eq_of_perm {α : Type} {pairs others : List (String × α)} (moved : pairs.Perm others)
    (names : pairs.map Prod.fst = others.map Prod.fst) (distinct : (pairs.map Prod.fst).Nodup) :
    pairs = others := by
  induction pairs generalizing others with
  | nil => exact moved.nil_eq
  | cons head rest ih =>
      cases others with
      | nil => simp at names
      | cons other later =>
          obtain ⟨sameName, laterNames⟩ := List.cons.inj names
          obtain ⟨absent, restDistinct⟩ := List.nodup_cons.mp distinct
          -- the name of the first pair is not repeated, so the pair cannot have moved
          have first : head = other := by
            rcases List.mem_cons.mp (moved.mem_iff.mp List.mem_cons_self) with same | inLater
            · exact same
            · have named : head.1 ∈ later.map Prod.fst := List.mem_map_of_mem inLater
              exact absurd (laterNames ▸ named) absent
          subst first
          rw [ih moved.cons_inv laterNames restDistinct]

namespace Json

def number? : Json → Option ℚ
  | int value => some value
  | double value => if value.isFinite then some value.value else none
  | _ => none

/-- Whether two trees are equal when members may stand in any order and numbers are compared by their
values. -/
inductive Same : Json → Json → Prop
  | null : Same null null
  | bool (value : Bool) : Same (bool value) (bool value)
  | number {one other : Json} {value : ℚ} : one.number? = some value → other.number? = some value →
      Same one other
  | text (value : String) : Same (text value) (text value)
  | array {items others : List Json} : List.Forall₂ Same items others →
      Same (array items) (array others)
  | object {members moved others : List (String × Json)} : members.Perm moved →
      moved.map Prod.fst = others.map Prod.fst →
      List.Forall₂ Same (moved.map Prod.snd) (others.map Prod.snd) →
      Same (object members) (object others)

@[simp] theorem same_text_iff {one other : String} : Same (text one) (text other) ↔ one = other := by
  constructor
  · intro same
    cases same with
    | number read => simp [number?] at read
    | text => rfl
  · rintro rfl
    exact .text one

@[simp] theorem same_int_iff {one other : Int} : Same (int one) (int other) ↔ one = other := by
  constructor
  · intro same
    cases same with
    | number read readToo =>
        simp only [number?, Option.some.injEq] at read readToo
        exact Rat.intCast_injective (read.trans readToo.symm)
  · rintro rfl
    exact .number rfl rfl

theorem same_ofDouble_iff {x y : Double} (finite : x.isFinite) (finiteToo : y.isFinite) :
    Same (ofDouble x) (ofDouble y) ↔ x.SameNumber y := by
  simp only [ofDouble, finite, finiteToo, ↓reduceIte, Double.sameNumber_iff]
  constructor
  · intro same
    cases same with
    | number read readToo =>
        simp only [number?, finite, finiteToo, ↓reduceIte, Option.some.injEq] at read readToo
        exact read.trans readToo.symm
  · intro same
    have read : (double x).number? = some y.value := by simp [number?, finite, same]
    have readToo : (double y).number? = some y.value := by simp [number?, finiteToo]
    exact .number read readToo

theorem same_array_iff {items others : List Json} :
    Same (array items) (array others) ↔ List.Forall₂ Same items others := by
  constructor
  · intro same
    cases same with
    | number read => simp [number?] at read
    | array same => exact same
  · exact .array

theorem same_map_iff {α : Type} {form : α → Json} {alike : α → α → Prop} {items others : List α}
    (each : ∀ item ∈ items, ∀ other ∈ others, Same (form item) (form other) ↔ alike item other) :
    Same (array (items.map form)) (array (others.map form)) ↔ List.Forall₂ alike items others := by
  rw [same_array_iff]
  induction items generalizing others with
  | nil => simp
  | cons item rest ih =>
      cases others with
      | nil => simp
      | cons other later =>
          have first := each item List.mem_cons_self other List.mem_cons_self
          have tail : List.Forall₂ Same (rest.map form) (later.map form) ↔
              List.Forall₂ alike rest later := by
            apply ih
            intro item inRest other inLater
            exact each item (List.mem_cons_of_mem _ inRest) other (List.mem_cons_of_mem _ inLater)
          simp only [List.map_cons, List.forall₂_cons, first, tail]

theorem names_of_same {members others : List (String × Json)}
    (same : Same (object members) (object others)) :
    (members.map Prod.fst).Perm (others.map Prod.fst) := by
  cases same with
  | number read => simp [number?] at read
  | object moved names _ => exact names ▸ moved.map Prod.fst

theorem same_object_iff {members others : List (String × Json)}
    (names : members.map Prod.fst = others.map Prod.fst) (distinct : (members.map Prod.fst).Nodup) :
    Same (object members) (object others) ↔
      List.Forall₂ Same (members.map Prod.snd) (others.map Prod.snd) := by
  constructor
  · intro same
    cases same with
    | number read => simp [number?] at read
    | object moved movedNames values =>
        rw [Pairs.eq_of_perm moved (names.trans movedNames.symm) distinct]
        exact values
  · exact .object (.refl members) names

theorem same_single_iff {name otherName : String} {value other : Json} :
    Same (object [(name, value)]) (object [(otherName, other)]) ↔
      name = otherName ∧ Same value other := by
  constructor
  · intro same
    have names := names_of_same same
    obtain rfl : name = otherName := by simpa using names
    have values := (same_object_iff (by simp) (by simp)).mp same
    exact ⟨rfl, by simpa using values⟩
  · rintro ⟨rfl, same⟩
    exact .object (.refl _) rfl (by simpa using same)

theorem same_ofLabels_iff {labels others : Dict String} :
    Same (ofLabels labels) (ofLabels others) ↔ labels = others := by
  have names (labels : Dict String) :
      (labels.entries.map fun entry => (entry.1, text entry.2)).map Prod.fst = labels.keys := by
    simp [Dict.keys, Function.comp_def]
  have ascending (labels : Dict String) : labels.keys.Pairwise (· < ·) :=
    List.pairwise_map.mpr labels.ascending
  constructor
  · intro same
    have moved := names_of_same same
    rw [names, names] at moved
    -- two ascending lists of the same names are one list
    have keys : labels.keys = others.keys := by
      refine moved.eq_of_pairwise ?_ (ascending labels) (ascending others)
      intro first second _ _ before after
      exact absurd after (String.lt_asymm before)
    have distinct := labels.keys_nodup
    have values := (same_object_iff (by rw [names, names, keys]) (by rwa [names])).mp same
    have texts : labels.entries.map Prod.snd = others.entries.map Prod.snd := by
      rw [← List.forall₂_eq_eq_eq]
      simpa [Function.comp_def] using values
    have entries : labels.entries = others.entries :=
      (List.zip_of_prod keys texts).trans (List.zip_of_prod rfl rfl).symm
    cases labels
    cases others
    simpa using entries
  · rintro rfl
    refine .object (.refl _) rfl ?_
    simp only [List.map_map, List.forall₂_map_left_iff, List.forall₂_map_right_iff]
    rw [List.forall₂_same]
    intro entry _
    exact .text entry.2

end Json

def Distribution.Finite (distribution : Distribution) : Prop :=
  distribution.mean.isFinite ∧ ∀ bound ∈ distribution.bounds, bound.isFinite

def TypedValue.Finite : TypedValue → Prop
  | .int64 _ => True
  | .double value => value.isFinite
  | .distribution value => value.Finite

def Series.Finite (series : Series) : Prop :=
  ∀ point ∈ series.points, point.value.Finite

@[mk_iff] structure Distribution.Same (one other : Distribution) : Prop where
  count : one.count = other.count
  mean : one.mean.SameNumber other.mean
  bounds : List.Forall₂ Double.SameNumber one.bounds other.bounds
  bucketCounts : one.bucketCounts = other.bucketCounts

def TypedValue.Same : TypedValue → TypedValue → Prop
  | .int64 value, .int64 other => value = other
  | .double x, .double y => x.SameNumber y
  | .distribution one, .distribution other => one.Same other
  | _, _ => False

@[mk_iff] structure Point.Same (one other : Point) : Prop where
  start : one.interval.start = other.interval.start
  stop : one.interval.stop = other.interval.stop
  value : one.value.Same other.value

@[mk_iff] structure Series.Same (one other : Series) : Prop where
  metricType : one.metricType = other.metricType
  labels : one.labels = other.labels
  resourceKind : one.resource.kind = other.resource.kind
  resourceLabels : one.resource.labels = other.resource.labels
  kind : one.kind = other.kind
  valueType : one.valueType = other.valueType
  points : List.Forall₂ Point.Same one.points other.points

namespace Json

theorem same_ofInterval_iff {interval other : Interval} :
    Same (ofInterval interval) (ofInterval other) ↔
      interval.start = other.start ∧ interval.stop = other.stop := by
  simp [ofInterval, same_object_iff, Instant.toRfc3339_injective.eq_iff]

theorem same_ofDistribution_iff {one other : Distribution} (finite : one.Finite)
    (finiteToo : other.Finite) :
    Same (ofDistribution one) (ofDistribution other) ↔ one.Same other := by
  have bounds : Same (array (one.bounds.map ofDouble)) (array (other.bounds.map ofDouble)) ↔
      List.Forall₂ Double.SameNumber one.bounds other.bounds := by
    apply same_map_iff
    intro bound inOne bound' inOther
    exact same_ofDouble_iff (finite.2 bound inOne) (finiteToo.2 bound' inOther)
  have counts : Same (array (one.bucketCounts.map fun count => int count.toNat))
      (array (other.bucketCounts.map fun count => int count.toNat)) ↔
      one.bucketCounts = other.bucketCounts := by
    rw [same_map_iff, List.forall₂_eq_eq_eq]
    intro count _ count' _
    simp [UInt64.toNat_inj]
  have mean := same_ofDouble_iff finite.1 finiteToo.1
  simp [ofDistribution, same_object_iff, bounds, counts, mean, UInt64.toNat_inj,
    Distribution.same_iff]

theorem same_ofTypedValue_iff {one other : TypedValue} (finite : one.Finite)
    (finiteToo : other.Finite) : Same (ofTypedValue one) (ofTypedValue other) ↔ one.Same other := by
  cases one with
  | int64 value =>
      cases other with
      | int64 _ => simp [ofTypedValue, same_single_iff, TypedValue.Same, Int64.toInt_inj]
      | double _ | distribution _ => simp [ofTypedValue, same_single_iff, TypedValue.Same]
  | double x =>
      cases other with
      | double y =>
          simp [ofTypedValue, same_single_iff, TypedValue.Same, same_ofDouble_iff finite finiteToo]
      | int64 _ | distribution _ => simp [ofTypedValue, same_single_iff, TypedValue.Same]
  | distribution value =>
      cases other with
      | distribution _ =>
          simp [ofTypedValue, same_single_iff, TypedValue.Same,
            same_ofDistribution_iff finite finiteToo]
      | int64 _ | double _ => simp [ofTypedValue, same_single_iff, TypedValue.Same]

theorem same_ofPoint_iff {point other : Point} (finite : point.value.Finite)
    (finiteToo : other.value.Finite) : Same (ofPoint point) (ofPoint other) ↔ point.Same other := by
  have values := same_ofTypedValue_iff finite finiteToo
  simp [ofPoint, same_object_iff, same_ofInterval_iff, values, Point.same_iff, and_assoc]

theorem same_ofResource_iff {resource other : MonitoredResource} :
    Same (ofResource resource) (ofResource other) ↔
      resource.kind = other.kind ∧ resource.labels = other.labels := by
  simp [ofResource, same_object_iff, same_ofLabels_iff]

theorem same_ofSeries_iff {one other : Series} (finite : one.Finite) (finiteToo : other.Finite) :
    Same (ofSeries one) (ofSeries other) ↔ one.Same other := by
  have kinds (kind other : MetricKind) : kind.text = other.text ↔ kind = other := by
    cases kind <;> cases other <;> decide
  have types (type other : ValueType) : type.text = other.text ↔ type = other := by
    cases type <;> cases other <;> decide
  have points : Same (array (one.points.map ofPoint)) (array (other.points.map ofPoint)) ↔
      List.Forall₂ Point.Same one.points other.points := by
    apply same_map_iff
    intro point inOne point' inOther
    exact same_ofPoint_iff (finite point inOne) (finiteToo point' inOther)
  simp [ofSeries, same_object_iff, same_ofLabels_iff, same_ofResource_iff, points, kinds, types,
    Series.same_iff, and_assoc]

end Json

/-- Nothing of a series is lost in its JSON form. Where all doubles are finite, two series have equal
trees only if they are equal themselves; and two instants that differ by as little as a nanosecond have
different timestamps, in any year. -/
theorem Series.json_loses_nothing (one other : Series) (finite : one.Finite)
    (finiteToo : other.Finite) :
    ((Json.ofSeries one).Same (Json.ofSeries other) ↔ one.Same other) ∧
      ∀ first second : Instant, first ≠ second → first.toRfc3339 ≠ second.toRfc3339 := by
  constructor
  · exact Json.same_ofSeries_iff finite finiteToo
  · intro first second different
    exact Instant.toRfc3339_injective.ne different

theorem Series.json_loses_nothing_zeros :
    let ended (bound : Double) (nanoseconds : Int) : Series :=
      ⟨"workload.googleapis.com/delay", Dict.empty.insert "room" "a",
        ⟨"global", Dict.empty.insert "project_id" "my-project"⟩, .cumulative, .distribution,
        [⟨⟨⟨-1⟩, ⟨nanoseconds⟩⟩, .distribution ⟨1, .zero, [bound], [1, 0]⟩⟩]⟩
    let negativeZero : Double := ⟨0x8000000000000000⟩
    let one := ended .zero 1000
    let other := ended negativeZero 1000
    let later := ended .zero 1001
    (one.Finite ∧ other.Finite ∧ later.Finite) ∧
      (Json.ofSeries one).Same (Json.ofSeries other) ∧ one ≠ other ∧
      ¬(Json.ofSeries one).Same (Json.ofSeries later) := by
  intro ended negativeZero one other later
  have finite (bound : Double) (nanoseconds : Int) (checked : bound.isFinite) :
      (ended bound nanoseconds).Finite := by
    intro point member
    rw [List.mem_singleton.mp member]
    have zeroFinite : Double.zero.isFinite := by decide +kernel
    exact ⟨zeroFinite, by simpa using checked⟩
  have finiteOne := finite .zero 1000 (by decide +kernel)
  have finiteOther := finite negativeZero 1000 (by decide +kernel)
  have finiteLater := finite .zero 1001 (by decide +kernel)
  refine ⟨⟨finiteOne, finiteOther, finiteLater⟩, ?_, by decide +kernel, ?_⟩
  · apply (Series.json_loses_nothing one other finiteOne finiteOther).1.mpr
    have distributions : Distribution.Same ⟨1, .zero, [.zero], [1, 0]⟩
        ⟨1, .zero, [negativeZero], [1, 0]⟩ := ⟨rfl, .inl rfl, .cons (by decide +kernel) .nil, rfl⟩
    exact ⟨rfl, rfl, rfl, rfl, rfl, rfl, .cons ⟨rfl, rfl, distributions⟩ .nil⟩
  · intro same
    have points := ((Series.json_loses_nothing one later finiteOne finiteLater).1.mp same).points
    cases points with
    | cons first _ => exact absurd first.stop (by decide)

end CloudMonitoring
