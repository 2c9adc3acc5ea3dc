/-!
Lists of key and value pairs in order of first appearance. `set` keeps a known key where it stands
and puts a new one at the end, so the keys never repeat and their order is the order of arrival.
-/

namespace CloudMonitoring

namespace Pairs

variable {κ α : Type} [DecidableEq κ]

def get? (key : κ) : List (κ × α) → Option α
  | [] => none
  | (other, value) :: rest => if key = other then some value else get? key rest

def set (key : κ) (value : α) : List (κ × α) → List (κ × α)
  | [] => [(key, value)]
  | (other, kept) :: rest =>
      if key = other then (key, value) :: rest else (other, kept) :: set key value rest

def setNew (key : κ) (value : α) (pairs : List (κ × α)) : List (κ × α) :=
  match get? key pairs with
  | none => pairs ++ [(key, value)]
  | some _ => pairs

def keys (pairs : List (κ × α)) : List κ :=
  pairs.map (·.1)

omit [DecidableEq κ] in
@[simp] theorem keys_nil : keys ([] : List (κ × α)) = [] := rfl

omit [DecidableEq κ] in
@[simp] theorem keys_cons (pair : κ × α) (rest : List (κ × α)) :
    keys (pair :: rest) = pair.1 :: keys rest := rfl

@[simp] theorem get?_nil (key : κ) : get? key ([] : List (κ × α)) = none := rfl

theorem get?_set (key other : κ) (value : α) (pairs : List (κ × α)) :
    get? other (set key value pairs) = if other = key then some value else get? other pairs := by
  induction pairs with
  | nil => simp [set, get?]
  | cons head rest ih =>
      obtain ⟨current, kept⟩ := head
      simp only [set]
      split
      · rename_i same
        subst same
        by_cases asked : other = key <;> simp [get?, asked]
      · rename_i different
        by_cases asked : other = current
        · subst asked
          simp [get?, Ne.symm different]
        · simp [get?, asked, ih]

theorem get?_eq_none_iff (key : κ) (pairs : List (κ × α)) :
    get? key pairs = none ↔ key ∉ keys pairs := by
  induction pairs with
  | nil => simp
  | cons head rest ih =>
      by_cases same : key = head.1 <;> simp [get?, same, ih]

theorem mem_of_get? {key : κ} {value : α} {pairs : List (κ × α)}
    (found : get? key pairs = some value) : (key, value) ∈ pairs := by
  induction pairs with
  | nil => simp at found
  | cons head rest ih =>
      simp only [get?] at found
      split at found
      · rename_i same
        simp only [Option.some.injEq] at found
        simp [same, ← found]
      · exact List.mem_cons_of_mem _ (ih found)

theorem keys_set (key : κ) (value : α) (pairs : List (κ × α)) :
    keys (set key value pairs) =
      if key ∈ keys pairs then keys pairs else keys pairs ++ [key] := by
  induction pairs with
  | nil => simp [set]
  | cons head rest ih =>
      simp only [set]
      split
      · rename_i same
        simp [same]
      · rename_i different
        by_cases known : key ∈ keys rest <;> simp [different, known, ih]

theorem get?_append (key : κ) (first second : List (κ × α)) :
    get? key (first ++ second) = (get? key first).or (get? key second) := by
  induction first with
  | nil => simp
  | cons head rest ih =>
      by_cases same : key = head.1
      · simp [get?, same]
      · simp [get?, same, ih]

theorem get?_setNew (key other : κ) (value : α) (pairs : List (κ × α)) :
    get? other (setNew key value pairs) =
      if other = key then some ((get? key pairs).getD value) else get? other pairs := by
  cases found : get? key pairs with
  | none =>
      simp only [setNew, found, get?_append, get?, Option.getD_none]
      by_cases asked : other = key
      · simp [asked, found]
      · simp [asked]
  | some kept =>
      simp only [setNew, found, Option.getD_some]
      by_cases asked : other = key
      · simp [asked, found]
      · simp [asked]

theorem keys_setNew (key : κ) (value : α) (pairs : List (κ × α)) :
    keys (setNew key value pairs) =
      if key ∈ keys pairs then keys pairs else keys pairs ++ [key] := by
  have absent := get?_eq_none_iff key pairs
  cases found : get? key pairs with
  | none =>
      have missing : key ∉ keys pairs := absent.mp found
      simp only [setNew, found, missing, if_false]
      simp [keys]
  | some kept =>
      have present : key ∈ keys pairs := by
        by_cases known : key ∈ keys pairs
        · exact known
        · rw [absent.mpr known] at found
          contradiction
      simp [setNew, found, present]

theorem keys_set_nodup (key : κ) (value : α) {pairs : List (κ × α)}
    (distinct : (keys pairs).Nodup) : (keys (set key value pairs)).Nodup := by
  rw [keys_set]
  split
  · exact distinct
  · rename_i absent
    refine List.nodup_append.mpr ⟨distinct, by simp, ?_⟩
    intro present known last isLast same
    simp only [List.mem_singleton] at isLast
    exact absent (by rw [← isLast, ← same]; exact known)

theorem keys_setNew_nodup (key : κ) (value : α) {pairs : List (κ × α)}
    (distinct : (keys pairs).Nodup) : (keys (setNew key value pairs)).Nodup := by
  rw [keys_setNew, ← keys_set key value]
  exact keys_set_nodup key value distinct

theorem get?_eq_some_iff {key : κ} {value : α} {pairs : List (κ × α)}
    (distinct : (keys pairs).Nodup) : get? key pairs = some value ↔ (key, value) ∈ pairs := by
  refine ⟨mem_of_get?, ?_⟩
  induction pairs with
  | nil => simp
  | cons head rest ih =>
      obtain ⟨other, kept⟩ := head
      obtain ⟨absent, tail⟩ := List.nodup_cons.mp distinct
      intro member
      rcases List.mem_cons.mp member with same | later
      · simp only [Prod.mk.injEq] at same
        simp [get?, same]
      · have known : key ∈ keys rest := List.mem_map_of_mem later
        have different : key ≠ other := fun same => absent (same ▸ known)
        simp [get?, different, ih tail later]

theorem filter_key {key : κ} {pairs : List (κ × α)} (distinct : (keys pairs).Nodup) :
    (pairs.filter fun pair => pair.1 = key) = (get? key pairs).toList.map fun value => (key, value) := by
  induction pairs with
  | nil => rfl
  | cons head rest ih =>
      obtain ⟨other, kept⟩ := head
      obtain ⟨absent, tail⟩ := List.nodup_cons.mp distinct
      by_cases same : other = key
      · subst same
        have noOther : get? other rest = none := (get?_eq_none_iff other rest).mpr absent
        simp [get?, ih tail, noOther]
      · simp [get?, same, Ne.symm same, ih tail]

end Pairs

end CloudMonitoring
