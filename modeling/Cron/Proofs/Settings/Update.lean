import Cron.Settings.Object

/-! # What an update leaves

An update of a settings object is refused at once, stops at an attribute that cannot be set, or sets
all the attributes that are named. Whatever has been set by then, the two values are those given last
for them, since no other attribute has a part in them; but a value for `update` is the last one that
counts for anything.

Main statements: `values_setAll` and `hides_setAll`, what a row of values leaves, `update_eq_iff`,
what an update comes to, and `update_update_iff` for two of them.
-/

namespace Cron.SettingsObject

variable {o o' : SettingsObject} {values : List (String × Int)} {result : Except UpdateError Unit}

/-! ## A row of values -/

/-- The object with values set for the attributes it has. -/
def setAll (o : SettingsObject) : List (String × Int) → SettingsObject
  | [] => o
  | (name, value) :: rest => if o.Has name then (o.set name value).setAll rest else o.setAll rest

/-- Values that can all be set are all set. -/
theorem setEach_eq_ok {values : List (String × Int)}
    (h : ∀ name ∈ values.map Prod.fst, name ∉ fixedNames) (o : SettingsObject) :
    o.setEach values = (.ok (), o.setAll values) := by
  induction values generalizing o with
  | nil => rfl
  | cons entry rest ih =>
    obtain ⟨name, value⟩ := entry
    rw [List.map_cons, List.forall_mem_cons] at h
    rw [setEach, setAll, if_neg h.1]
    split
    · exact ih h.2 _
    · exact ih h.2 o

/-- The values before the first that cannot be set are set. -/
theorem setEach_eq_error {done rest : List (String × Int)} {name : String} {value : Int}
    (h : ∀ name ∈ done.map Prod.fst, name ∉ fixedNames) (hfixed : name ∈ fixedNames)
    (o : SettingsObject) :
    o.setEach (done ++ (name, value) :: rest) = (.error (.fixed name), o.setAll done) := by
  induction done generalizing o with
  | nil => rw [List.nil_append, setEach, if_pos (has_of_mem_fixedNames hfixed o), if_pos hfixed, setAll]
  | cons entry done ih =>
    obtain ⟨first, value'⟩ := entry
    rw [List.map_cons, List.forall_mem_cons] at h
    rw [List.cons_append, setEach, setAll, if_neg h.1]
    split
    · exact ih h.2 _
    · exact ih h.2 o

/-- **The settings** after a row of values are overlaid by it: no other attribute has a part in
them. -/
theorem values_setAll (o : SettingsObject) (values : List (String × Int)) :
    (o.setAll values).values = o.values.overlay values := by
  induction values generalizing o with
  | nil => rfl
  | cons entry rest ih =>
    obtain ⟨name, value⟩ := entry
    rw [setAll, Settings.overlay]
    cases hname : SettingName.ofKey? name with
    | some n =>
      have hhas : o.Has name := Or.inl (by rw [hname]; rfl)
      rw [if_pos hhas, ih, set, hname]
    | none =>
      split
      · rw [ih, set, hname]
      · exact ih o

/-- **What is hidden** after a row of values: what was before, and the attributes that are named. -/
theorem hides_setAll {name : String} (hname : SettingName.ofKey? name = none) (o : SettingsObject)
    (values : List (String × Int)) : (o.setAll values).Hides name ↔
      o.Hides name ∨ name ∈ attributeNames ∧ name ∈ values.map Prod.fst := by
  induction values generalizing o with
  | nil => simp [setAll]
  | cons entry rest ih =>
    obtain ⟨first, value⟩ := entry
    rw [setAll, List.map_cons, List.mem_cons]
    split
    · next hhas =>
      rw [ih, hides_set hname]
      constructor
      · rintro ((h | rfl) | ⟨hattribute, h⟩)
        · exact Or.inl h
        · -- what is set is an attribute, unless it is hidden already
          rcases hhas with hkey | hattribute | h
          · rw [hname] at hkey
            cases hkey
          · exact Or.inr ⟨hattribute, Or.inl rfl⟩
          · exact Or.inl h
        · exact Or.inr ⟨hattribute, Or.inr h⟩
      · rintro (h | ⟨hattribute, rfl | h⟩)
        · exact Or.inl (Or.inl h)
        · exact Or.inl (Or.inr rfl)
        · exact Or.inr ⟨hattribute, h⟩
    · next hhas =>
      rw [ih]
      refine or_congr_right (and_congr_right fun hattribute => ?_)
      have hne : name ≠ first := by
        rintro rfl
        exact hhas (Or.inr (Or.inl hattribute))
      simp [hne]

/-! ## Updates -/

/-- No value is given for a key that an update cannot do with. -/
def Settable (values : List (String × Int)) : Prop :=
  ∀ name ∈ values.map Prod.fst, name ≠ objectKey ∧ name ∉ fixedNames

instance (values : List (String × Int)) : Decidable (Settable values) :=
  inferInstanceAs (Decidable (∀ name ∈ _, _))

/-- **What an update comes to**, and the object after it. -/
inductive Updates (o : SettingsObject) (values : List (String × Int)) :
    Except UpdateError Unit → SettingsObject → Prop
  /-- A value hides the operation, and nothing changes. -/
  | hidden (hides : o.Hides "update") : Updates o values (.error .hidden) o
  /-- A value is given for the key that the call needs for itself, and nothing changes. -/
  | reservedKey (free : ¬o.Hides "update") (reserved : objectKey ∈ values.map Prod.fst) :
    Updates o values (.error (.reservedKey objectKey)) o
  /-- An attribute cannot be set, and the values before it have been. -/
  | fixed {done rest : List (String × Int)} {name : String} {value : Int}
    (free : ¬o.Hides "update") (unreserved : objectKey ∉ values.map Prod.fst)
    (split : values = done ++ (name, value) :: rest)
    (settable : ∀ name ∈ done.map Prod.fst, name ∉ fixedNames) (fixed : name ∈ fixedNames) :
    Updates o values (.error (.fixed name)) (o.setAll done)
  | done (free : ¬o.Hides "update") (settable : Settable values) :
    Updates o values (.ok ()) (o.setAll values)

theorem Updates.update_eq (h : Updates o values result o') : o.update values = (result, o') := by
  cases h with
  | hidden hides => rw [update, if_pos hides]
  | reservedKey free reserved => rw [update, if_neg free, if_pos reserved]
  | fixed free unreserved split settable fixed =>
    rw [update, if_neg free, if_neg unreserved, split, setEach_eq_error settable fixed]
  | done free settable =>
    have hunreserved : objectKey ∉ values.map Prod.fst := fun h => (settable _ h).1 rfl
    rw [update, if_neg free, if_neg hunreserved, setEach_eq_ok fun name h => (settable name h).2]

theorem exists_updates (o : SettingsObject) (values : List (String × Int)) :
    ∃ result o', Updates o values result o' := by
  by_cases hides : o.Hides "update"
  · exact ⟨_, _, .hidden hides⟩
  by_cases hreserved : objectKey ∈ values.map Prod.fst
  · exact ⟨_, _, .reservedKey hides hreserved⟩
  cases hfind : values.find? fun entry => entry.1 ∈ fixedNames with
  | some entry =>
    obtain ⟨hfixed, done, rest, hsplit, hdone⟩ := List.find?_eq_some_iff_append.1 hfind
    refine ⟨_, _, .fixed hides hreserved hsplit ?_ (of_decide_eq_true hfixed)⟩
    simpa using hdone
  | none =>
    have hnone := List.find?_eq_none.1 hfind
    refine ⟨_, _, .done hides fun name hname => ⟨?_, ?_⟩⟩
    · rintro rfl
      exact hreserved hname
    · obtain ⟨entry, hentry, rfl⟩ := List.mem_map.1 hname
      simpa using hnone entry hentry

theorem update_eq_iff : o.update values = (result, o') ↔ Updates o values result o' := by
  constructor
  · intro h
    obtain ⟨result', o'', hupdates⟩ := exists_updates o values
    rw [hupdates.update_eq] at h
    cases h
    exact hupdates
  · exact fun h => h.update_eq

theorem update_of_settable (free : ¬o.Hides "update") (h : Settable values) :
    o.update values = (.ok (), o.setAll values) :=
  (Updates.done free h).update_eq

/-- **An update is carried out** just if no value hides it and it names nothing that cannot be
set. -/
theorem fst_update_eq_ok_iff :
    (o.update values).1 = .ok () ↔ ¬o.Hides "update" ∧ Settable values := by
  obtain ⟨result, o', hupdates⟩ := exists_updates o values
  rw [hupdates.update_eq]
  cases hupdates with
  | hidden hides => exact iff_of_false nofun fun h => h.1 hides
  | reservedKey free reserved => exact iff_of_false nofun fun h => (h.2 _ reserved).1 rfl
  | @fixed done rest name value free unreserved split settable fixed =>
    have hname : name ∈ values.map Prod.fst := by simp [split]
    exact iff_of_false nofun fun h => (h.2 name hname).2 fixed
  | done free settable => exact iff_of_true rfl ⟨free, settable⟩

/-- A row of values leaves room for a further update unless there is a value for `update`. -/
theorem hides_update_setAll : (o.setAll values).Hides "update" ↔
    o.Hides "update" ∨ "update" ∈ values.map Prod.fst := by
  have hattribute : "update" ∈ attributeNames := by decide
  rw [hides_setAll (by decide), and_iff_right hattribute]

/-- **Two updates** are both carried out just if the first leaves room for the second and neither
names what cannot be set, and then each setting has the value given last for it. -/
theorem update_update_iff {first rest : List (String × Int)} :
    (∃ o' o'', o.update first = (.ok (), o') ∧ o'.update rest = (.ok (), o'') ∧
        ∀ n : SettingName, o''.values.get n = (rest.reverse.lookup n.key).getD
          ((first.reverse.lookup n.key).getD (o.values.get n))) ↔
      (¬o.Hides "update" ∧ Settable first) ∧ "update" ∉ first.map Prod.fst ∧ Settable rest := by
  constructor
  · rintro ⟨o', o'', hfirst, hrest, -⟩
    have hdone := fst_update_eq_ok_iff.1 (congrArg Prod.fst hfirst)
    rw [update_of_settable hdone.1 hdone.2] at hfirst
    cases hfirst
    have hdone' := fst_update_eq_ok_iff.1 (congrArg Prod.fst hrest)
    rw [hides_update_setAll, not_or] at hdone'
    exact ⟨hdone, hdone'.1.2, hdone'.2⟩
  · rintro ⟨⟨free, hfirst⟩, hroom, hrest⟩
    have hfree : ¬(o.setAll first).Hides "update" := by
      rw [hides_update_setAll]
      exact not_or.2 ⟨free, hroom⟩
    refine ⟨_, _, update_of_settable free hfirst, update_of_settable hfree hrest, fun n => ?_⟩
    rw [values_setAll, values_setAll, Settings.get_overlay, Settings.get_overlay]

end Cron.SettingsObject
