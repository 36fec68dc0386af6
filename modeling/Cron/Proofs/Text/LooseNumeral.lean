import Cron.Proofs.Text.Trim
import Cron.Text.Numeral
import Mathlib.Data.Nat.Digits.Defs

/-! # The grammar of loose numerals

What a loose numeral looks like is said here without reference to how it is read: padding, a sign or
none, decimal digits of any script with single underscores between some of them, and padding again.
The reader trims the text, looks at its first character and splits the rest at underscores; a piece
without digits is what two underscores in a row leave, or one at an end.

Main statements: `readGroups_eq_some_iff` and `readLoose_eq_some_iff`, that the reader reads exactly
what the grammar writes.
-/

namespace Cron.Text.Numeral

variable {cs : List Char} {c : Char}

/-! ## Digits and underscores -/

/-- **Grouped digits**: decimal digits of any script, with single underscores between some of them,
and the values of the digits. -/
inductive Grouped : List Char → List Nat → Prop
  | last {c : Char} {d : Nat} (digit : digitValue? c = some d) : Grouped [c] [d]
  | next {c : Char} {d : Nat} {cs : List Char} {ds : List Nat} (digit : digitValue? c = some d)
    (rest : Grouped cs ds) : Grouped (c :: cs) (d :: ds)
  /-- An underscore stands between two digits. -/
  | gap {c : Char} {d : Nat} {cs : List Char} {ds : List Nat} (digit : digitValue? c = some d)
    (rest : Grouped cs ds) : Grouped (c :: '_' :: cs) (d :: ds)

variable {ds : List Nat}

theorem splitOn_cons_underscore (cs : List Char) :
    ('_' :: cs).splitOn '_' = [] :: cs.splitOn '_' := by
  rw [List.splitOn, List.splitOnP_cons_eq_if_modifyHead, if_pos (beq_self_eq_true '_')]
  rfl

theorem splitOn_cons_of_ne (h : c ≠ '_') (cs : List Char) :
    (c :: cs).splitOn '_' = (cs.splitOn '_').modifyHead (c :: ·) := by
  rw [List.splitOn, List.splitOnP_cons_eq_if_modifyHead, beq_eq_false_iff_ne.2 h,
    if_neg Bool.false_ne_true]
  rfl

theorem ne_underscore_of_digitValue? {d : Nat} (h : digitValue? c = some d) : c ≠ '_' := by
  have hunderscore : digitValue? '_' = none := by decide
  rintro rfl
  rw [hunderscore] at h
  cases h

theorem mapM_cons_eq_some_iff {α β : Type} {f : α → Option β} {x : α} {xs : List α} {ys : List β} :
    (x :: xs).mapM f = some ys ↔ ∃ y ys', f x = some y ∧ xs.mapM f = some ys' ∧ ys = y :: ys' := by
  simp only [List.mapM_cons, Option.bind_eq_bind, Option.pure_def, Option.bind_eq_some_iff,
    Option.some.injEq]
  grind

/-- The pieces between underscores hold digits only, and each holds one at least. -/
def InGroups (cs : List Char) (ds : List Nat) : Prop :=
  [] ∉ cs.splitOn '_' ∧ (cs.splitOn '_').flatten.mapM digitValue? = some ds

/-- An underscore at the beginning leaves a piece without digits. -/
theorem not_inGroups_underscore : ¬ InGroups ('_' :: cs) ds := by
  intro h
  have hne := h.1
  rw [splitOn_cons_underscore] at hne
  exact hne List.mem_cons_self

/-- A digit that an underscore or the end of the text follows is a piece of its own. -/
theorem inGroups_singleton_iff : InGroups [c] ds ↔ ∃ d, digitValue? c = some d ∧ ds = [d] := by
  by_cases hc : c = '_'
  · subst hc
    exact iff_of_false not_inGroups_underscore fun ⟨d, hd, _⟩ => ne_underscore_of_digitValue? hd rfl
  · simp only [InGroups, splitOn_cons_of_ne hc, List.splitOn_nil, List.modifyHead_cons,
      List.flatten_cons, List.flatten_nil, List.append_nil, List.mem_cons, List.not_mem_nil,
      reduceCtorEq, or_false, not_false_eq_true, true_and]
    rw [mapM_cons_eq_some_iff]
    simp

theorem inGroups_gap_iff : InGroups (c :: '_' :: cs) ds ↔
    ∃ d ds', digitValue? c = some d ∧ InGroups cs ds' ∧ ds = d :: ds' := by
  by_cases hc : c = '_'
  · subst hc
    exact iff_of_false not_inGroups_underscore
      fun ⟨d, _, hd, _⟩ => ne_underscore_of_digitValue? hd rfl
  · simp only [InGroups, splitOn_cons_of_ne hc, splitOn_cons_underscore, List.modifyHead_cons,
      List.flatten_cons, List.cons_append, List.nil_append, List.mem_cons, reduceCtorEq, false_or]
    rw [mapM_cons_eq_some_iff]
    grind

/-- A digit that a digit follows begins the piece of that one. -/
theorem inGroups_next_iff {c' : Char} (hc' : c' ≠ '_') : InGroups (c :: c' :: cs) ds ↔
    ∃ d ds', digitValue? c = some d ∧ InGroups (c' :: cs) ds' ∧ ds = d :: ds' := by
  by_cases hc : c = '_'
  · subst hc
    exact iff_of_false not_inGroups_underscore
      fun ⟨d, _, hd, _⟩ => ne_underscore_of_digitValue? hd rfl
  · cases hs : cs.splitOn '_' with
    | nil => exact absurd hs (List.splitOnP_ne_nil _ cs)
    | cons g gs =>
      simp only [InGroups, splitOn_cons_of_ne hc', splitOn_cons_of_ne hc, hs, List.modifyHead_cons,
        List.flatten_cons, List.cons_append, List.mem_cons, reduceCtorEq, false_or]
      rw [mapM_cons_eq_some_iff]
      grind

/-! ## The reader of groups -/

/-- Grouped digits begin with a digit. -/
theorem Grouped.head_isDigit (h : Grouped cs ds) :
    ∃ c d cs', cs = c :: cs' ∧ digitValue? c = some d := by
  cases h with
  | last digit => exact ⟨_, _, _, rfl, digit⟩
  | next digit _ => exact ⟨_, _, _, rfl, digit⟩
  | gap digit _ => exact ⟨_, _, _, rfl, digit⟩

/-- Grouped digits end with a digit. -/
theorem Grouped.getLast_isDigit (h : Grouped cs ds) :
    ∀ c ∈ cs.getLast?, ∃ d, digitValue? c = some d := by
  induction h with
  | last digit =>
    rintro c ⟨⟩
    exact ⟨_, digit⟩
  | next _ rest ih =>
    obtain ⟨c', _, cs', rfl, _⟩ := rest.head_isDigit
    rwa [List.getLast?_cons_cons]
  | gap _ rest ih =>
    obtain ⟨c', _, cs', rfl, _⟩ := rest.head_isDigit
    rwa [List.getLast?_cons_cons, List.getLast?_cons_cons]

theorem Grouped.inGroups (h : Grouped cs ds) : InGroups cs ds := by
  induction h with
  | last digit => exact inGroups_singleton_iff.2 ⟨_, digit, rfl⟩
  | next digit rest ih =>
    obtain ⟨c', _, cs', rfl, digit'⟩ := rest.head_isDigit
    exact (inGroups_next_iff (ne_underscore_of_digitValue? digit')).2 ⟨_, _, digit, ih, rfl⟩
  | gap digit _ ih => exact inGroups_gap_iff.2 ⟨_, _, digit, ih, rfl⟩

theorem InGroups.grouped : ∀ {cs : List Char} {ds : List Nat}, InGroups cs ds → Grouped cs ds
  | [], _, h => absurd List.mem_cons_self h.1
  | [_], _, h => by
    obtain ⟨d, digit, rfl⟩ := inGroups_singleton_iff.1 h
    exact .last digit
  | c :: c' :: cs, _, h => by
    by_cases hc' : c' = '_'
    · subst hc'
      obtain ⟨d, ds, digit, rest, rfl⟩ := inGroups_gap_iff.1 h
      exact .gap digit rest.grouped
    · obtain ⟨d, ds, digit, rest, rfl⟩ := (inGroups_next_iff hc').1 h
      exact .next digit rest.grouped

/-- The value of digits, the first of which weighs most. -/
theorem foldl_digits (ds : List Nat) :
    ds.foldl (fun value digit => 10 * value + digit) 0 = Nat.ofDigits 10 ds.reverse := by
  rw [Nat.ofDigits_eq_foldr, List.foldr_reverse]
  simp [Nat.add_comm]

/-- **The reader of groups** reads grouped digits, if they are not too many. -/
theorem readGroups_eq_some_iff {n : Nat} : readGroups cs = some n ↔
    ∃ ds, Grouped cs ds ∧ ds.length ≤ maxDigits ∧ n = Nat.ofDigits 10 ds.reverse := by
  have hgroups : ((cs.splitOn '_').all fun group => !group.isEmpty) = true ↔
      [] ∉ cs.splitOn '_' := by
    simp [List.all_eq_true]
    grind
  constructor
  · intro h
    simp only [readGroups] at h
    split at h
    · next hall =>
      split at h
      · next ds hds =>
        split at h
        · next hlength =>
          cases h
          exact ⟨ds, InGroups.grouped ⟨hgroups.1 hall, hds⟩, hlength, foldl_digits ds⟩
        · cases h
      · cases h
    · cases h
  · rintro ⟨ds, hds, hlength, rfl⟩
    obtain ⟨hne, hmap⟩ := hds.inGroups
    simp only [readGroups, hgroups.2 hne, hmap, if_true, if_pos hlength, foldl_digits]

theorem map_readGroups_eq_some_iff {f : Nat → Int} {n : Int} : (readGroups cs).map f = some n ↔
    ∃ ds, Grouped cs ds ∧ ds.length ≤ maxDigits ∧ n = f (Nat.ofDigits 10 ds.reverse) := by
  rw [Option.map_eq_some_iff]
  constructor
  · rintro ⟨value, hvalue, rfl⟩
    obtain ⟨ds, hds, hlength, rfl⟩ := readGroups_eq_some_iff.1 hvalue
    exact ⟨ds, hds, hlength, rfl⟩
  · rintro ⟨ds, hds, hlength, rfl⟩
    exact ⟨_, readGroups_eq_some_iff.2 ⟨ds, hds, hlength, rfl⟩, rfl⟩

/-! ## The reader of loose numerals -/

theorem negOfNat_eq_neg_one_mul (value : Nat) : Int.negOfNat value = -1 * (value : Int) := by
  rw [Int.negOfNat_eq, Int.ofNat_eq_natCast, neg_one_mul]

/-- **A sign**, which may be left out, and the number that what follows is multiplied by. -/
inductive Sign : List Char → Int → Prop
  | none : Sign [] 1
  | plus : Sign ['+'] 1
  | minus : Sign ['-'] (-1)

/-- **A loose numeral** of an integer: padding, a sign, grouped digits that are not too many, and
padding. -/
inductive Loose : List Char → Int → Prop
  | intro {before sign digits after : List Char} {unit : Int} {ds : List Nat}
    (hbefore : ∀ c ∈ before, isPadding c = true) (hsign : Sign sign unit)
    (hdigits : Grouped digits ds) (hlength : ds.length ≤ maxDigits)
    (hafter : ∀ c ∈ after, isPadding c = true) :
    Loose (before ++ (sign ++ digits) ++ after) (unit * (Nat.ofDigits 10 ds.reverse : Nat))

/-- No digit of any script is padding. -/
theorem isPadding_of_digitValue? {d : Nat} (h : digitValue? c = some d) : isPadding c = false := by
  have hapart : ∀ first ∈ digitZeros, ∀ r ∈ blankRanges, first + 9 < r.1 ∨ r.2 < first := by decide
  obtain ⟨first, hfirst, -⟩ := Option.map_eq_some_iff.1 h
  have hmem := List.mem_of_find?_eq_some hfirst
  have hrange := List.find?_some hfirst
  simp only [Bool.and_eq_true, decide_eq_true_eq] at hrange
  have hblank : isBlank c = false := by
    rw [isBlank, ← Bool.not_eq_true, inRanges_eq_true_iff]
    rintro ⟨r, hr, hc⟩
    have := hapart first hmem r hr
    omega
  rw [isPadding, hblank, Bool.false_and]

/-- A sign with digits after it has no padding at its ends. -/
theorem Grouped.trimmed_append {sign : List Char} {unit : Int} (h : Grouped cs ds)
    (hsign : Sign sign unit) : Trimmed isPadding (sign ++ cs) := by
  obtain ⟨c, d, cs', rfl, digit⟩ := h.head_isDigit
  constructor
  · intro first hfirst
    cases hsign with
    | none =>
      cases hfirst
      exact isPadding_of_digitValue? digit
    | plus =>
      cases hfirst
      decide
    | minus =>
      cases hfirst
      decide
  · intro last hlast
    have hdigits : last ∈ (c :: cs').getLast? := by
      rwa [List.getLast?_append, List.getLast?_cons, Option.some_or, ← List.getLast?_cons] at hlast
    obtain ⟨d, digit⟩ := h.getLast_isDigit last hdigits
    exact isPadding_of_digitValue? digit

/-- What the reader does after trimming. -/
theorem readLoose_eq_some_iff_trimBy {n : Int} : readLoose cs = some n ↔
    ∃ sign digits unit ds, trimBy isPadding cs = sign ++ digits ∧ Sign sign unit ∧
      Grouped digits ds ∧ ds.length ≤ maxDigits ∧
        n = unit * (Nat.ofDigits 10 ds.reverse : Nat) := by
  have hminus : digitValue? '-' = none := by decide
  have hplus : digitValue? '+' = none := by decide
  constructor
  · intro h
    unfold readLoose at h
    split at h
    · next body htrim =>
      obtain ⟨ds, hds, hlength, rfl⟩ := map_readGroups_eq_some_iff.1 h
      exact ⟨['-'], body, -1, ds, htrim, .minus, hds, hlength, negOfNat_eq_neg_one_mul _⟩
    · next body htrim =>
      obtain ⟨ds, hds, hlength, rfl⟩ := map_readGroups_eq_some_iff.1 h
      exact ⟨['+'], body, 1, ds, htrim, .plus, hds, hlength, (one_mul _).symm⟩
    · next body =>
      obtain ⟨ds, hds, hlength, rfl⟩ := map_readGroups_eq_some_iff.1 h
      exact ⟨[], _, 1, ds, rfl, .none, hds, hlength, (one_mul _).symm⟩
  · rintro ⟨sign, digits, unit, ds, htrim, hsign, hds, hlength, rfl⟩
    rw [readLoose, htrim]
    cases hsign with
    | none =>
      -- the text begins with a digit, so not with a sign
      obtain ⟨c, d, digits, rfl, digit⟩ := hds.head_isDigit
      rw [List.nil_append]
      split
      · next heq =>
        cases heq
        rw [hminus] at digit
        cases digit
      · next heq =>
        cases heq
        rw [hplus] at digit
        cases digit
      · exact map_readGroups_eq_some_iff.2 ⟨ds, hds, hlength, one_mul _⟩
    | plus => exact map_readGroups_eq_some_iff.2 ⟨ds, hds, hlength, one_mul _⟩
    | minus =>
      exact map_readGroups_eq_some_iff.2 ⟨ds, hds, hlength, (negOfNat_eq_neg_one_mul _).symm⟩

/-- **The reader of loose numerals** reads what the grammar writes, and nothing else. -/
theorem readLoose_eq_some_iff {n : Int} : readLoose cs = some n ↔ Loose cs n := by
  rw [readLoose_eq_some_iff_trimBy]
  constructor
  · rintro ⟨sign, digits, unit, ds, htrim, hsign, hdigits, hlength, rfl⟩
    obtain ⟨-, before, after, hbefore, hafter, rfl⟩ := trimBy_eq_iff.1 htrim
    exact .intro hbefore hsign hdigits hlength hafter
  · rintro ⟨hbefore, hsign, hdigits, hlength, hafter⟩
    exact ⟨_, _, _, _, trimBy_append hbefore (hdigits.trimmed_append hsign) hafter, hsign, hdigits,
      hlength, rfl⟩

end Cron.Text.Numeral
