/-! # Cutting a text at the first separator

`cut` finds the first occurrence of a character and returns what stands before and after it. Its
main statements say that nothing but that one separator is lost, and that the first part is free of
it; so the cut, where there is one, is unique.
-/

namespace Cron.Text

/-- The text before and the text after the first `sep`; nothing when there is no `sep`. -/
def cut (sep : Char) : List Char → Option (List Char × List Char)
  | [] => none
  | c :: cs =>
    if c = sep then some ([], cs)
    else (cut sep cs).map fun (before, after) => (c :: before, after)

theorem cut_eq_none_iff {sep : Char} {cs : List Char} : cut sep cs = none ↔ sep ∉ cs := by
  induction cs with
  | nil => simp [cut]
  | cons c cs ih =>
    by_cases h : c = sep
    · simp [cut, h]
    · simp [cut, h, ih, Ne.symm h]

/-- A cut puts the separator back between its two parts, and the first part has none. -/
theorem cut_eq_some_iff {sep : Char} {cs before after : List Char} :
    cut sep cs = some (before, after) ↔ cs = before ++ sep :: after ∧ sep ∉ before := by
  induction cs generalizing before with
  | nil => simp [cut]
  | cons c cs ih =>
    by_cases h : c = sep
    · subst h
      cases before with
      | nil => simp [cut]
      | cons b bs => simp [cut]; rintro rfl; simp
    · cases before with
      | nil => simp [cut, h]
      | cons b bs =>
        simp only [cut, h, if_false, Option.map_eq_some_iff, Prod.mk.injEq, Prod.exists,
          List.cons_append, List.cons.injEq, List.mem_cons, not_or]
        constructor
        · rintro ⟨x, y, hxy, ⟨rfl, rfl⟩, rfl⟩
          exact ⟨⟨rfl, (ih.1 hxy).1⟩, Ne.symm h, (ih.1 hxy).2⟩
        · rintro ⟨⟨rfl, hcs⟩, -, hbs⟩
          exact ⟨bs, after, ih.2 ⟨hcs, hbs⟩, ⟨rfl, rfl⟩, rfl⟩

end Cron.Text
