import Cron.Log.Format
import Mathlib.Data.List.TakeWhile

/-! # The grammar of fields

Whether a line format is accepted is decided by a scan for a field. What a field is is said here
without the scan: a percent sign, a name of word characters in parentheses, flags, a width and a
precision or none, each a star or digits of any script, and a letter. The scan never has to go back,
since no character can belong to two neighbouring parts but the digit zero, and where that is taken
for a flag instead of the beginning of a width, the same is left over.

Main statement: `hasField_eq_true_iff`.
-/

namespace Cron.Log

open Text

variable {cs rest : List Char} {c : Char}

/-! ## Fields -/

/-- A star, or digits of any script. -/
inductive Amount : List Char → Prop
  | star : Amount ['*']
  | digits {ds : List Char} (ne : ds ≠ []) (digits : ∀ c ∈ ds, (digitValue? c).isSome = true) :
    Amount ds

/-- A width that may be left out. -/
def IsWidth (cs : List Char) : Prop :=
  cs = [] ∨ Amount cs

/-- A precision that may be left out. -/
def IsPrecision (cs : List Char) : Prop :=
  cs = [] ∨ ∃ ds, Amount ds ∧ cs = '.' :: ds

/-- **A field** of a line format. -/
inductive Field : List Char → Prop
  | intro {name flags width precision : List Char} {letter : Char} (ne : name ≠ [])
    (hname : ∀ c ∈ name, isWordChar c = true) (hflags : ∀ c ∈ flags, isFlag c = true)
    (hwidth : IsWidth width) (hprecision : IsPrecision precision)
    (hletter : endsField letter = true) :
    Field ('%' :: '(' :: (name ++ ')' :: (flags ++ (width ++ (precision ++ [letter])))))

/-- A line format with a field somewhere. -/
def HasField (cs : List Char) : Prop :=
  ∃ before field after, cs = before ++ field ++ after ∧ Field field

/-! ## Characters -/

/-- A character that belongs to no flags and no width. -/
structure Inert (c : Char) : Prop where
  not_flag : isFlag c = false
  not_digit : digitValue? c = none
  ne_star : c ≠ '*'

theorem inert_point : Inert '.' where
  not_flag := by decide
  not_digit := by decide
  ne_star := by decide

/-- No capital letter of ASCII belongs to flags or a width. -/
theorem inert_of_isUpper (hge : 0x41 ≤ c.toNat) (hle : c.toNat ≤ 0x5A) : Inert c ∧ c ≠ '.' := by
  have hbelow : ("-+ #0".toList.all fun c => c.toNat < 0x41) = true := by decide
  have hapart : ∀ first ∈ digitZeros, first + 9 < 0x41 ∨ 0x5A < first := by decide
  refine ⟨⟨?flag, ?digit, ?star⟩, ?point⟩
  case flag =>
    rw [isFlag, ← Bool.not_eq_true, List.contains_iff_mem]
    intro hmem
    have := of_decide_eq_true (List.all_eq_true.1 hbelow c hmem)
    omega
  case digit =>
    rw [digitValue?, Option.map_eq_none_iff, List.find?_eq_none]
    intro first hfirst
    have := hapart first hfirst
    simp only [Bool.and_eq_true, decide_eq_true_eq]
    omega
  case star =>
    rintro rfl
    exact absurd hge (by decide)
  case point =>
    rintro rfl
    exact absurd hge (by decide)

theorem inert_of_endsField (h : endsField c = true) : Inert c ∧ c ≠ '.' := by
  have hlist : ("diouxefgcrsa%\u0130\u0131\u017f".toList.all fun c =>
      isFlag c = false ∧ digitValue? c = none ∧ c ≠ '*' ∧ c ≠ '.') = true := by decide
  by_cases hupper : c.val ≥ 'A'.val ∧ c.val ≤ 'Z'.val
  · exact inert_of_isUpper (UInt32.le_iff_toNat_le.1 hupper.1) (UInt32.le_iff_toNat_le.1 hupper.2)
  · have hsame : c.toLower = c := dif_neg hupper
    rw [endsField, hsame, List.contains_iff_mem] at h
    obtain ⟨hflag, hdigit, hstar, hpoint⟩ := of_decide_eq_true (List.all_eq_true.1 hlist c h)
    exact ⟨⟨hflag, hdigit, hstar⟩, hpoint⟩

/-! ## Widths -/

theorem dropWidth_of_ne_star (h : c ≠ '*') (cs : List Char) :
    dropWidth (c :: cs) = (c :: cs).dropWhile fun c => (digitValue? c).isSome := by
  unfold dropWidth
  split
  · next heq =>
    cases heq
    exact absurd rfl h
  · rfl

theorem dropWidth_inert (hc : Inert c) : dropWidth (c :: rest) = c :: rest := by
  have hend : ¬ (digitValue? c).isSome = true := by
    rw [hc.not_digit]
    exact Bool.false_ne_true
  rw [dropWidth_of_ne_star hc.ne_star]
  exact List.dropWhile_cons_of_neg hend

theorem dropWidth_digits {ds : List Char} (hds : ∀ d ∈ ds, (digitValue? d).isSome = true)
    (hc : Inert c) : dropWidth (ds ++ c :: rest) = c :: rest := by
  cases ds with
  | nil => exact dropWidth_inert hc
  | cons d ds =>
    have hstar : d ≠ '*' := by
      rintro rfl
      exact absurd (hds _ List.mem_cons_self) (by decide)
    rw [List.cons_append, dropWidth_of_ne_star hstar, ← List.cons_append,
      List.dropWhile_append_of_pos hds, ← dropWidth_of_ne_star hc.ne_star, dropWidth_inert hc]

theorem dropWidth_amount {w : List Char} (hw : Amount w) (hc : Inert c) :
    dropWidth (w ++ c :: rest) = c :: rest := by
  cases hw with
  | star => rfl
  | digits _ digits => exact dropWidth_digits digits hc

/-- What follows flags and a width, wherever the flags are taken to end. -/
theorem dropWidth_dropWhile_isFlag {flags width : List Char} (hflags : ∀ c ∈ flags, isFlag c = true)
    (hwidth : IsWidth width) (hc : Inert c) :
    dropWidth ((flags ++ (width ++ c :: rest)).dropWhile isFlag) = c :: rest := by
  have hflag : ¬ isFlag c = true := Bool.eq_false_iff.1 hc.not_flag
  rw [List.dropWhile_append_of_pos hflags]
  rcases hwidth with rfl | (_ | ⟨-, digits⟩)
  · rw [List.nil_append, List.dropWhile_cons_of_neg hflag]
    exact dropWidth_inert hc
  · rfl
  · -- zeros at the front of the width have gone with the flags
    rw [List.dropWhile_append]
    split
    · rw [List.dropWhile_cons_of_neg hflag]
      exact dropWidth_inert hc
    · exact dropWidth_digits (fun d hd => digits d ((List.dropWhile_sublist _).subset hd)) hc

theorem exists_isWidth (cs : List Char) : ∃ w, IsWidth w ∧ cs = w ++ dropWidth cs := by
  unfold dropWidth
  split
  · exact ⟨['*'], Or.inr .star, rfl⟩
  · refine ⟨cs.takeWhile fun c => (digitValue? c).isSome, ?_, List.takeWhile_append_dropWhile.symm⟩
    by_cases hne : (cs.takeWhile fun c => (digitValue? c).isSome) = []
    · exact Or.inl hne
    · exact Or.inr (.digits hne fun _ => List.mem_takeWhile_imp)

/-! ## Precisions -/

theorem dropPrecision_of_ne_point (h : c ≠ '.') (cs : List Char) :
    dropPrecision (c :: cs) = c :: cs := by
  unfold dropPrecision
  split
  · next heq =>
    cases heq
    exact absurd rfl h
  · rfl

theorem dropPrecision_append {p : List Char} (hp : IsPrecision p) (hc : Inert c)
    (hpoint : c ≠ '.') : dropPrecision (p ++ c :: rest) = c :: rest := by
  rcases hp with rfl | ⟨ds, hds, rfl⟩
  · exact dropPrecision_of_ne_point hpoint rest
  · have hne : ds ≠ [] := by
      cases hds with
      | star => exact List.cons_ne_nil _ _
      | digits ne _ => exact ne
    have hshorter : (c :: rest).length < (ds ++ c :: rest).length := by
      have := List.length_pos_iff.2 hne
      rw [List.length_append]
      omega
    rw [List.cons_append, dropPrecision, dropWidth_amount hds hc]
    exact if_pos hshorter

theorem exists_isPrecision (cs : List Char) : ∃ p, IsPrecision p ∧ cs = p ++ dropPrecision cs := by
  unfold dropPrecision
  split
  · next cs =>
    obtain ⟨w, hw, hcs⟩ := exists_isWidth cs
    dsimp only
    split
    · next hshorter =>
      rcases hw with rfl | hw
      · rw [List.nil_append] at hcs
        rw [← hcs] at hshorter
        exact absurd hshorter (Nat.lt_irrefl _)
      · exact ⟨'.' :: w, Or.inr ⟨w, hw, rfl⟩, congrArg ('.' :: ·) hcs⟩
    · exact ⟨[], Or.inl rfl, rfl⟩
  · exact ⟨[], Or.inl rfl, rfl⟩

/-! ## The scan -/

/-- After the name a field goes on just if something does that can. -/
theorem exists_letter_iff : ((dropPrecision (dropWidth (cs.dropWhile isFlag))).head?.any endsField)
      = true ↔
    ∃ flags width precision letter after, (∀ c ∈ flags, isFlag c = true) ∧ IsWidth width ∧
      IsPrecision precision ∧ endsField letter = true ∧
      cs = flags ++ (width ++ (precision ++ letter :: after)) := by
  constructor
  · intro h
    obtain ⟨width, hwidth, hrest⟩ := exists_isWidth (cs.dropWhile isFlag)
    obtain ⟨precision, hprecision, hrest'⟩ := exists_isPrecision (dropWidth (cs.dropWhile isFlag))
    cases hend : dropPrecision (dropWidth (cs.dropWhile isFlag)) with
    | nil =>
      rw [hend] at h
      cases h
    | cons letter after =>
      rw [hend] at h hrest'
      refine ⟨cs.takeWhile isFlag, width, precision, letter, after,
        fun _ => List.mem_takeWhile_imp, hwidth, hprecision, h, ?_⟩
      rw [← hrest', ← hrest, List.takeWhile_append_dropWhile]
  · rintro ⟨flags, width, precision, letter, after, hflags, hwidth, hprecision, hletter, rfl⟩
    obtain ⟨hinert, hpoint⟩ := inert_of_endsField hletter
    have hwidths : dropWidth ((flags ++ (width ++ (precision ++ letter :: after))).dropWhile isFlag)
        = precision ++ letter :: after := by
      rcases hprecision with rfl | ⟨ds, -, rfl⟩
      · exact dropWidth_dropWhile_isFlag hflags hwidth hinert
      · exact dropWidth_dropWhile_isFlag hflags hwidth inert_point
    rw [hwidths, dropPrecision_append hprecision hinert hpoint]
    exact hletter

/-- A text begins with a field just if the scan says so. -/
theorem startsWithField_eq_true_iff :
    startsWithField cs = true ↔ ∃ field after, cs = field ++ after ∧ Field field := by
  constructor
  · intro h
    unfold startsWithField at h
    split at h
    · next cs =>
      split at h
      · next name rest hcut =>
        obtain ⟨rfl, -⟩ := cut_eq_some_iff.1 hcut
        simp only [Bool.and_eq_true, Bool.not_eq_true', List.isEmpty_eq_false_iff,
          List.all_eq_true] at h
        obtain ⟨⟨hne, hname⟩, hgoes⟩ := h
        obtain ⟨flags, width, precision, letter, after, hflags, hwidth, hprecision, hletter, rfl⟩ :=
          exists_letter_iff.1 hgoes
        refine ⟨_, after, ?_, .intro hne hname hflags hwidth hprecision hletter⟩
        simp
      · cases h
    · cases h
  · rintro ⟨_, after, rfl, hfield⟩
    cases hfield with
    | @intro name flags width precision letter hne hname hflags hwidth hprecision hletter =>
      have hclose : ')' ∉ name := fun hmem => absurd (hname _ hmem) (by decide +kernel)
      have hshape : '%' :: '(' :: (name ++ ')' :: (flags ++ (width ++ (precision ++ [letter])))) ++
          after = '%' :: '(' :: (name ++ ')' ::
            (flags ++ (width ++ (precision ++ letter :: after)))) := by simp
      rw [hshape, startsWithField, cut_eq_some_iff.2 ⟨rfl, hclose⟩]
      simp only [Bool.and_eq_true, Bool.not_eq_true', List.isEmpty_eq_false_iff, List.all_eq_true]
      exact ⟨⟨hne, hname⟩, exists_letter_iff.2
        ⟨flags, width, precision, letter, after, hflags, hwidth, hprecision, hletter, rfl⟩⟩

/-- **The scan finds a field** just if there is one. -/
theorem hasField_eq_true_iff : hasField cs = true ↔ HasField cs := by
  induction cs with
  | nil =>
    refine iff_of_false Bool.false_ne_true ?_
    rintro ⟨before, field, after, hnil, hfield⟩
    cases hfield with
    | intro => simp at hnil
  | cons c cs ih =>
    rw [hasField, Bool.or_eq_true, startsWithField_eq_true_iff, ih]
    constructor
    · rintro (⟨field, after, hcs, hfield⟩ | ⟨before, field, after, rfl, hfield⟩)
      · exact ⟨[], field, after, hcs, hfield⟩
      · exact ⟨c :: before, field, after, rfl, hfield⟩
    · rintro ⟨before, field, after, hcs, hfield⟩
      cases before with
      | nil => exact Or.inl ⟨field, after, hcs, hfield⟩
      | cons b before =>
        exact Or.inr ⟨before, field, after, (List.cons.inj hcs).2, hfield⟩

instance (cs : List Char) : Decidable (HasField cs) :=
  decidable_of_iff _ hasField_eq_true_iff

end Cron.Log
