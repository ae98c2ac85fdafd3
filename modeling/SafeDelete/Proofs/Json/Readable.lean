/-
Module: SafeDelete.Proofs.Json.Readable
Purpose: The values that a JSON text can hold, and objects whose keys are all different.
Main exports: Json.IsReadable, Json.Fields.keys, Json.Fields.Replaces, Json.Fields.nodup_ofList,
  Json.Fields.ofList_of_nodup, Json.Fields.replaces_set
-/
import SafeDelete.Json.Value
import SafeDelete.Proofs.Number.Rounding
import SafeDelete.Text.Numeral

namespace SafeDelete.Json

namespace Fields

/-- The keys of fields, in order. -/
def keys (fields : Fields) : List Text :=
  fields.map Prod.fst

end Fields

mutual

/-- Values that reading yields: whole numbers are not too long, doubles are canonical, and no key of
an object comes twice. -/
def IsReadable : Json → Prop
  | .null => True
  | .bool _ => True
  | .int value => (decimal value.natAbs).length ≤ digitLimit
  | .float value => value.IsCanonical
  | .str _ => True
  | .arr items => AreReadable items
  | .obj fields => (Fields.keys fields).Nodup ∧ HaveReadable fields

/-- Every item of an array is readable. -/
def AreReadable : List Json → Prop
  | [] => True
  | item :: items => item.IsReadable ∧ AreReadable items

/-- Every field of an object has a readable value. -/
def HaveReadable : List (Text × Json) → Prop
  | [] => True
  | (_, value) :: fields => value.IsReadable ∧ HaveReadable fields

end

namespace Fields

variable {key name : Text} {value : Json} {fields : Fields}

/-- The fields with another value for one key, everything else as it was and in its order. -/
def Replaces (key : Text) (old new : Json) (before after : Fields) : Prop :=
  ∃ front back, before = front ++ (key, old) :: back ∧ after = front ++ (key, new) :: back ∧
    key ∉ keys front ∧ key ∉ keys back

/-! ## Setting a field -/

theorem get?_eq_some (found : get? key fields = some value) :
    ∃ front back, fields = front ++ (key, value) :: back ∧ key ∉ keys front := by
  induction fields with
  | nil => contradiction
  | cons field rest ih =>
      obtain ⟨name, first⟩ := field
      rw [get?] at found
      split at found
      · rename_i same
        obtain rfl := same
        obtain rfl := Option.some.inj found
        exact ⟨[], rest, rfl, List.not_mem_nil⟩
      · rename_i other
        obtain ⟨front, back, eq, absent⟩ := ih found
        refine ⟨(name, first) :: front, back, by rw [eq, List.cons_append], ?_⟩
        intro mem
        rcases List.mem_cons.mp mem with same | mem
        · exact other same.symm
        · exact absent mem

theorem get?_set_self (key : Text) (value : Json) (fields : Fields) :
    get? key (set key value fields) = some value := by
  induction fields with
  | nil => exact if_pos rfl
  | cons field rest ih =>
      obtain ⟨name, old⟩ := field
      rw [set]
      split
      · rename_i same
        exact if_pos same
      · rename_i other
        rw [get?, if_neg other]
        exact ih

theorem get?_set_of_ne {other : Text} (apart : other ≠ key) (value : Json) (fields : Fields) :
    get? other (set key value fields) = get? other fields := by
  induction fields with
  | nil => exact if_neg apart.symm
  | cons field rest ih =>
      obtain ⟨name, old⟩ := field
      rw [set]
      split
      · rename_i same
        subst same
        rw [get?, get?, if_neg apart.symm, if_neg apart.symm]
      · rw [get?, get?, ih]

theorem get?_eq_none_of_not_mem (absent : key ∉ keys fields) : get? key fields = none := by
  cases found : get? key fields with
  | none => rfl
  | some value =>
      obtain ⟨front, back, rfl, -⟩ := get?_eq_some found
      exact absurd (by simp [keys]) absent

theorem set_append_of_not_mem {front : Fields} (absent : key ∉ keys front) (rest : Fields) :
    set key value (front ++ rest) = front ++ set key value rest := by
  induction front with
  | nil => rfl
  | cons field front ih =>
      obtain ⟨name, first⟩ := field
      have other : name ≠ key := fun same => absent (by rw [← same]; exact List.mem_cons_self)
      have later : key ∉ keys front := fun mem => absent (List.mem_cons_of_mem _ mem)
      rw [List.cons_append, set, if_neg other, ih later, List.cons_append]

theorem set_of_not_mem (absent : key ∉ keys fields) :
    set key value fields = fields ++ [(key, value)] := by
  have eq : set key value (fields ++ []) = fields ++ [(key, value)] :=
    set_append_of_not_mem absent []
  rwa [List.append_nil] at eq

/-- Setting a key that is there replaces its value in its place. -/
theorem replaces_set {old new : Json} (distinct : (keys fields).Nodup)
    (found : get? key fields = some old) : Replaces key old new fields (set key new fields) := by
  obtain ⟨front, back, rfl, absent⟩ := get?_eq_some found
  refine ⟨front, back, rfl, ?_, absent, ?_⟩
  · rw [set_append_of_not_mem absent, set, if_pos rfl]
  · -- The lookup found the first field of the key; that it is the only one is up to the keys.
    have behind := (List.nodup_append.mp (by simpa [keys] using distinct)).2.1
    exact (List.nodup_cons.mp behind).1

theorem mem_keys_set (key : Text) (value : Json) (fields : Fields) (name : Text) :
    name ∈ keys (set key value fields) ↔ name = key ∨ name ∈ keys fields := by
  induction fields with
  | nil => simp [set, keys]
  | cons field rest ih =>
      obtain ⟨first, old⟩ := field
      rw [set]
      split
      · rename_i same
        simp [keys, same]
      · simp only [keys, List.map_cons, List.mem_cons] at ih ⊢
        rw [ih]
        exact or_left_comm

theorem nodup_set (distinct : (keys fields).Nodup) (key : Text) (value : Json) :
    (keys (set key value fields)).Nodup := by
  induction fields with
  | nil => exact List.nodup_singleton key
  | cons field rest ih =>
      obtain ⟨first, old⟩ := field
      obtain ⟨absent, later⟩ := List.nodup_cons.mp distinct
      rw [set]
      split
      · exact distinct
      · rename_i other
        refine List.nodup_cons.mpr ⟨fun mem => ?_, ih later⟩
        rcases (mem_keys_set key value rest first).mp mem with same | mem
        · exact other same
        · exact absent mem

theorem haveReadable_append {front back : Fields} :
    HaveReadable (front ++ back) ↔ HaveReadable front ∧ HaveReadable back := by
  induction front with
  | nil => exact Iff.of_eq (true_and _).symm
  | cons field front ih =>
      rw [List.cons_append, HaveReadable, HaveReadable, ih, and_assoc]

theorem isReadable_of_get? (readable : HaveReadable fields) (found : get? key fields = some value) :
    value.IsReadable := by
  obtain ⟨front, back, rfl, -⟩ := get?_eq_some found
  exact (haveReadable_append.mp readable).2.1

theorem haveReadable_set (readable : HaveReadable fields) (key : Text)
    (isReadable : value.IsReadable) : HaveReadable (set key value fields) := by
  induction fields with
  | nil => exact ⟨isReadable, trivial⟩
  | cons field rest ih =>
      obtain ⟨first, old⟩ := field
      rw [set]
      split
      · exact ⟨isReadable, readable.2⟩
      · exact ⟨readable.1, ih readable.2⟩

/-! ## Fields as written -/

theorem setAll_cons (fields : Fields) (update : Text × Json) (updates : Fields) :
    setAll fields (update :: updates) = setAll (set update.1 update.2 fields) updates :=
  rfl

/-- Fields whose keys are all different come before those that they are set over. -/
theorem get?_setAll {updates : Fields} (distinct : (keys updates).Nodup) (key : Text)
    (fields : Fields) : get? key (setAll fields updates) = (get? key updates).or (get? key fields) := by
  induction updates generalizing fields with
  | nil => rfl
  | cons update updates ih =>
      obtain ⟨name, value⟩ := update
      obtain ⟨absent, later⟩ := List.nodup_cons.mp distinct
      rw [setAll_cons, ih later, get?]
      split
      · rename_i same
        subst same
        rw [get?_eq_none_of_not_mem absent, get?_set_self]
        rfl
      · rename_i other
        rw [get?_set_of_ne (Ne.symm other)]

theorem nodup_setAll (distinct : (keys fields).Nodup) (updates : Fields) :
    (keys (setAll fields updates)).Nodup := by
  induction updates generalizing fields with
  | nil => exact distinct
  | cons update updates ih => exact ih (nodup_set distinct update.1 update.2)

theorem haveReadable_setAll {updates : Fields} (readable : HaveReadable fields)
    (new : HaveReadable updates) : HaveReadable (setAll fields updates) := by
  induction updates generalizing fields with
  | nil => exact readable
  | cons update updates ih => exact ih (haveReadable_set readable update.1 new.1) new.2

theorem nodup_ofList (written : Fields) : (keys (ofList written)).Nodup :=
  @nodup_setAll [] List.nodup_nil written

theorem haveReadable_ofList {written : Fields} (readable : HaveReadable written) :
    HaveReadable (ofList written) :=
  haveReadable_setAll trivial readable

theorem setAll_of_nodup {front back : Fields} (distinct : (keys (front ++ back)).Nodup) :
    setAll front back = front ++ back := by
  induction back generalizing front with
  | nil => exact (List.append_nil front).symm
  | cons field back ih =>
      have absent : field.1 ∉ keys front := by
        intro mem
        have apart := (List.nodup_append.mp (by simpa [keys] using distinct)).2.2
        exact apart field.1 mem field.1 List.mem_cons_self rfl
      rw [setAll_cons, set_of_not_mem absent, ih (by simpa [keys] using distinct),
        List.append_assoc, List.singleton_append]

/-- Fields whose keys are all different stay as they are written. -/
theorem ofList_of_nodup (distinct : (keys fields).Nodup) : ofList fields = fields :=
  @setAll_of_nodup [] fields distinct

end Fields

end SafeDelete.Json
