import CloudMonitoring.Pairs

/-!
Dictionaries from text to values, held in ascending order of their keys. The order is part of the
type, so two dictionaries with the same look-ups are equal.
-/

namespace CloudMonitoring

structure Dict (α : Type) where
  entries : List (String × α)
  ascending : entries.Pairwise fun first second => first.1 < second.1
deriving DecidableEq

namespace Dict

variable {α : Type}

def empty : Dict α := ⟨[], .nil⟩

instance : Inhabited (Dict α) := ⟨empty⟩

def place (key : String) (value : α) : List (String × α) → List (String × α)
  | [] => [(key, value)]
  | (other, kept) :: rest =>
      if key < other then (key, value) :: (other, kept) :: rest
      else if key = other then (key, value) :: rest
      else (other, kept) :: place key value rest

theorem mem_place {key : String} {value : α} {entries : List (String × α)} {entry : String × α}
    (member : entry ∈ place key value entries) : entry = (key, value) ∨ entry ∈ entries := by
  induction entries with
  | nil => simpa [place] using member
  | cons head rest ih =>
      obtain ⟨other, kept⟩ := head
      simp only [place] at member
      split at member
      · simpa using member
      · split at member
        · rcases List.mem_cons.mp member with found | found
          · exact .inl found
          · exact .inr (List.mem_cons_of_mem _ found)
        · rcases List.mem_cons.mp member with found | found
          · exact .inr (by simp [found])
          · rcases ih found with same | inRest
            · exact .inl same
            · exact .inr (List.mem_cons_of_mem _ inRest)

theorem place_ascending {key : String} {value : α} {entries : List (String × α)}
    (ascending : entries.Pairwise fun first second => first.1 < second.1) :
    (place key value entries).Pairwise fun first second => first.1 < second.1 := by
  induction entries with
  | nil => simp [place]
  | cons head rest ih =>
      obtain ⟨other, kept⟩ := head
      obtain ⟨above, tail⟩ := List.pairwise_cons.mp ascending
      simp only [place]
      split
      · rename_i smaller
        refine List.pairwise_cons.mpr ⟨?_, ascending⟩
        intro entry member
        rcases List.mem_cons.mp member with same | inRest
        · simpa [same] using smaller
        · exact String.lt_trans smaller (above entry inRest)
      · rename_i notSmaller
        split
        · rename_i same
          subst same
          exact List.pairwise_cons.mpr ⟨above, tail⟩
        · rename_i different
          refine List.pairwise_cons.mpr ⟨?_, ih tail⟩
          intro entry member
          rcases mem_place member with same | inRest
          · subst same
            exact Std.not_le.mp fun atMost =>
              different (String.le_antisymm atMost (String.not_lt.mp notSmaller))
          · exact above entry inRest

def get? (dict : Dict α) (key : String) : Option α :=
  Pairs.get? key dict.entries

def contains (dict : Dict α) (key : String) : Bool :=
  (dict.get? key).isSome

def size (dict : Dict α) : Nat :=
  dict.entries.length

def insert (dict : Dict α) (key : String) (value : α) : Dict α :=
  ⟨place key value dict.entries, place_ascending dict.ascending⟩

def insertSome (dict : Dict α) (key : String) (value : Option α) : Dict α :=
  match value with
  | none => dict
  | some value => dict.insert key value

def ofList (pairs : List (String × α)) : Dict α :=
  pairs.foldl (fun dict pair => dict.insert pair.1 pair.2) empty

def keys (dict : Dict α) : List String :=
  dict.entries.map (·.1)

theorem keys_nodup (dict : Dict α) : dict.keys.Nodup :=
  List.pairwise_map.mpr (dict.ascending.imp String.ne_of_lt)

theorem get?_place (key other : String) (value : α) (entries : List (String × α)) :
    Pairs.get? other (place key value entries) =
      if other = key then some value else Pairs.get? other entries := by
  induction entries with
  | nil => simp [place, Pairs.get?]
  | cons head rest ih =>
      obtain ⟨current, kept⟩ := head
      simp only [place]
      split
      · simp [Pairs.get?]
      · split
        · rename_i same
          subst same
          by_cases asked : other = key <;> simp [Pairs.get?, asked]
        · rename_i different
          by_cases asked : other = current
          · subst asked
            simp [Pairs.get?, Ne.symm different]
          · simp [Pairs.get?, asked, ih]

@[simp] theorem get?_empty (key : String) : (empty : Dict α).get? key = none := rfl

@[simp] theorem get?_insert (dict : Dict α) (key other : String) (value : α) :
    (dict.insert key value).get? other = if other = key then some value else dict.get? other :=
  get?_place key other value dict.entries

theorem get?_insertSome (dict : Dict α) (key other : String) (value : Option α) :
    (dict.insertSome key value).get? other =
      if other = key then value.or (dict.get? other) else dict.get? other := by
  cases value with
  | none => simp [insertSome]
  | some value => simp [insertSome]

theorem get?_foldl_insert (pairs : List (String × α)) (dict : Dict α) (key : String) :
    (pairs.foldl (fun dict pair => dict.insert pair.1 pair.2) dict).get? key =
      (((pairs.filter fun pair => pair.1 = key).getLast?).map (·.2)).or (dict.get? key) := by
  induction pairs generalizing dict with
  | nil => rfl
  | cons pair rest ih =>
      obtain ⟨first, value⟩ := pair
      rw [List.foldl_cons, ih, get?_insert]
      by_cases same : first = key
      · subst same
        rw [List.filter_cons_of_pos (by simp), List.getLast?_cons]
        cases (rest.filter fun pair => pair.1 = first).getLast? <;> simp
      · rw [List.filter_cons_of_neg (by simpa using same), if_neg (Ne.symm same)]

theorem get?_ofList (pairs : List (String × α)) (key : String) :
    (ofList pairs).get? key = ((pairs.filter fun pair => pair.1 = key).getLast?).map (·.2) := by
  rw [ofList, get?_foldl_insert, get?_empty, Option.or_none]

end Dict

end CloudMonitoring
