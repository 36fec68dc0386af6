import Cron.Proofs.Term.Grammar

/-! # What is wrong with a term

A part of a field that is no term has one fault, and the domain has no say in which: after a slash
the numeral of the interval is judged first, then what stands before the slash, and that by whether
there is a dash in it. The text quoted in a fault is what was judged last, so the base and not the
whole term. Of the parts of a field the first bad one is at fault.

Main statements: `Domain.readTerm_eq_error_iff` and `Domain.readField_eq_error_iff`.
-/

namespace Cron

open Text Text.Numeral

/-! ## What a failure comes from -/

section failure

variable {ε ε' α β : Type} {x : Except ε α}

theorem error_of_bind_eq_error {f : α → Except ε β} {err : ε} (h : x >>= f = .error err) :
    x = .error err ∨ ∃ a, x = .ok a ∧ f a = .error err := by
  cases x with
  | error err' =>
    cases h
    exact Or.inl rfl
  | ok a => exact Or.inr ⟨a, rfl, h⟩

theorem map_eq_error_iff {f : α → β} {err : ε} : x.map f = .error err ↔ x = .error err := by
  cases x with
  | error err' => exact ⟨fun h => by cases h; rfl, fun h => by cases h; rfl⟩
  | ok a => exact iff_of_false nofun nofun

theorem mapError_eq_error_iff {f : ε → ε'} {err' : ε'} :
    x.mapError f = .error err' ↔ ∃ err, x = .error err ∧ err' = f err := by
  cases x with
  | error err =>
    constructor
    · intro h
      cases h
      exact ⟨err, rfl, rfl⟩
    · rintro ⟨_, h, rfl⟩
      cases h
      rfl
  | ok a => exact iff_of_false nofun nofun

end failure

/-! ## The first of a list -/

/-- **The first without the property**: the member of a list that lacks a property which every
member before it has. -/
inductive FirstWithout {α : Type} (good : α → Prop) : List α → α → Prop
  /-- The list begins with a bad member. -/
  | head {x : α} {xs : List α} (bad : ¬ good x) : FirstWithout good (x :: xs) x
  /-- The list begins with a good member, and the first bad one is in the rest. -/
  | tail {x y : α} {xs : List α} (holds : good x) (rest : FirstWithout good xs y) :
    FirstWithout good (x :: xs) y

namespace FirstWithout

variable {α : Type} {good : α → Prop} {xs : List α} {x y : α}

theorem not_good (h : FirstWithout good xs x) : ¬ good x := by
  induction h with
  | head bad => exact bad
  | tail _ _ ih => exact ih

theorem mem (h : FirstWithout good xs x) : x ∈ xs := by
  induction h with
  | head => exact List.mem_cons_self
  | tail _ _ ih => exact List.mem_cons_of_mem _ ih

theorem unique (h : FirstWithout good xs x) (h' : FirstWithout good xs y) : x = y := by
  induction h with
  | head bad =>
    cases h' with
    | head => rfl
    | tail holds => exact absurd holds bad
  | tail holds _ ih =>
    cases h' with
    | head bad => exact absurd holds bad
    | tail _ rest => exact ih rest

end FirstWithout

/-! ## Faults -/

/-- A text that is a term of the domain. -/
def Domain.IsTerm (d : Domain) (cs : List Char) : Prop :=
  ∃ t : Term, t.Written d cs

/-- The fault of a text that is no base. -/
inductive Base.FaultOf : List Char → Fault → Prop
  /-- With a dash it was to be a range. -/
  | range {cs : List Char} (dash : '-' ∈ cs) : Base.FaultOf cs .badRange
  /-- Without one it was to be a single value. -/
  | value {cs : List Char} (dash : '-' ∉ cs) : Base.FaultOf cs (.badValue (String.ofList cs))

/-- The fault of a text that is no term. -/
inductive Term.FaultOf : List Char → Fault → Prop
  /-- Without a slash it was to be a base. -/
  | plain {cs : List Char} {fault : Fault} (slash : '/' ∉ cs) (base : Base.FaultOf cs fault) :
    Term.FaultOf cs fault
  /-- After the first slash there is no positive number. -/
  | interval {before after : List Char} (slash : '/' ∉ before)
    (bad : ∀ n : Int, SignedDigits after n → n ≤ 0) :
    Term.FaultOf (before ++ '/' :: after) .badInterval
  /-- The interval is in order, so it is the base that is not. -/
  | step {before after : List Char} {n : Int} {fault : Fault} (slash : '/' ∉ before)
    (digits : SignedDigits after n) (pos : 0 < n) (base : Base.FaultOf before fault) :
    Term.FaultOf (before ++ '/' :: after) fault

theorem Base.FaultOf.unique {cs : List Char} {fault fault' : Fault} (h : Base.FaultOf cs fault)
    (h' : Base.FaultOf cs fault') : fault = fault' := by
  cases h with
  | range dash =>
    cases h' with
    | range => rfl
    | value dash' => exact absurd dash dash'
  | value dash =>
    cases h' with
    | range dash' => exact absurd dash' dash
    | value => rfl

/-- A text is cut at its first slash in one way only. -/
theorem eq_of_append_slash {before before' after after' : List Char} (hslash : '/' ∉ before)
    (hslash' : '/' ∉ before') (h : before ++ '/' :: after = before' ++ '/' :: after') :
    before = before' ∧ after = after' := by
  have hcut : cut '/' (before ++ '/' :: after) = some (before', after') :=
    cut_eq_some_iff.2 ⟨h, hslash'⟩
  rw [cut_eq_some_iff.2 ⟨rfl, hslash⟩] at hcut
  cases hcut
  exact ⟨rfl, rfl⟩

theorem Term.FaultOf.unique {cs : List Char} {fault fault' : Fault} (h : Term.FaultOf cs fault)
    (h' : Term.FaultOf cs fault') : fault = fault' := by
  generalize hcs : cs = cs' at h'
  have hmem {before after : List Char} : '/' ∈ before ++ '/' :: after :=
    List.mem_append_right before List.mem_cons_self
  cases h with
  | plain slash base =>
    cases h' with
    | plain slash' base' => exact base.unique (hcs ▸ base')
    | interval | step => exact absurd (hcs ▸ hmem) slash
  | interval slash bad =>
    cases h' with
    | plain slash' => exact absurd (hcs ▸ hmem) slash'
    | interval => rfl
    | step slash' digits pos =>
      obtain ⟨rfl, rfl⟩ := eq_of_append_slash slash slash' hcs
      exact absurd (bad _ digits) (Int.not_le.2 pos)
  | step slash digits pos base =>
    cases h' with
    | plain slash' => exact absurd (hcs ▸ hmem) slash'
    | interval slash' bad =>
      obtain ⟨rfl, rfl⟩ := eq_of_append_slash slash slash' hcs
      exact absurd (bad _ digits) (Int.not_le.2 pos)
    | step slash' _ _ base' =>
      obtain ⟨rfl, rfl⟩ := eq_of_append_slash slash slash' hcs
      exact base.unique base'

/-! ## What the readers find -/

namespace Domain

variable {d : Domain} {cs : List Char} {fault : Fault}

theorem eq_badValue_of_readSingle (h : d.readSingle cs = .error fault) :
    fault = .badValue (String.ofList cs) := by
  unfold readSingle at h
  split at h
  · split at h
    · cases h
    · exact (Except.error.inj h).symm
  · exact (Except.error.inj h).symm

theorem eq_badRange_of_readRange {before after : List Char}
    (h : d.readRange before after = .error fault) : fault = .badRange := by
  unfold readRange at h
  split at h
  · split at h
    · cases h
    · exact (Except.error.inj h).symm
  · exact (Except.error.inj h).symm

theorem faultOf_of_readBase (h : d.readBase cs = .error fault) : Base.FaultOf cs fault := by
  unfold readBase at h
  split at h
  · cases h
  · split at h
    · next before after hcut =>
      obtain ⟨rfl, -⟩ := cut_eq_some_iff.1 hcut
      rw [eq_badRange_of_readRange h]
      exact .range (List.mem_append_right before List.mem_cons_self)
    · next hcut =>
      rw [eq_badValue_of_readSingle h]
      exact .value (cut_eq_none_iff.1 hcut)

theorem faultOf_of_readTerm (h : d.readTerm cs = .error fault) : Term.FaultOf cs fault := by
  unfold readTerm at h
  split at h
  · next hcut =>
    exact .plain (cut_eq_none_iff.1 hcut) (faultOf_of_readBase (map_eq_error_iff.1 h))
  · next before after hcut =>
    obtain ⟨rfl, hslash⟩ := cut_eq_some_iff.1 hcut
    split at h
    · next interval hinterval =>
      split at h
      · next hpos =>
        exact .step hslash (readPlain_eq_some_iff.1 hinterval) hpos
          (faultOf_of_readBase (map_eq_error_iff.1 h))
      · next hpos =>
        cases h
        refine .interval hslash fun n hn => ?_
        rw [readPlain_eq_some_iff.2 hn] at hinterval
        cases hinterval
        exact Int.not_lt.1 hpos
    · next hinterval =>
      cases h
      refine .interval hslash fun n hn => ?_
      rw [readPlain_eq_some_iff.2 hn] at hinterval
      cases hinterval

/-- **The fault of a term**: the reader refuses exactly the texts outside the grammar, each with the
fault that it has. -/
theorem readTerm_eq_error_iff :
    d.readTerm cs = .error fault ↔ ¬ d.IsTerm cs ∧ Term.FaultOf cs fault := by
  constructor
  · intro h
    refine ⟨?_, faultOf_of_readTerm h⟩
    rintro ⟨t, ht⟩
    rw [readTerm_eq_ok_iff.2 ht] at h
    cases h
  · rintro ⟨hterm, hfault⟩
    cases hread : d.readTerm cs with
    | ok t => exact absurd ⟨t, readTerm_eq_ok_iff.1 hread⟩ hterm
    | error fault' => rw [(faultOf_of_readTerm hread).unique hfault]

theorem readTerms_eq_error_iff {parts : List (List Char)} :
    d.readTerms parts = .error fault ↔
      ∃ part, FirstWithout d.IsTerm parts part ∧ Term.FaultOf part fault := by
  induction parts with
  | nil =>
    rw [readTerms]
    constructor
    · intro h
      cases h
    · rintro ⟨part, hfirst, -⟩
      cases hfirst
  | cons part parts ih =>
    rw [readTerms]
    cases hread : d.readTerm part with
    | error fault' =>
      obtain ⟨hbad, hfault'⟩ := readTerm_eq_error_iff.1 hread
      constructor
      · intro h
        cases h
        exact ⟨part, .head hbad, hfault'⟩
      · rintro ⟨part', hfirst, hfault⟩
        obtain rfl := hfirst.unique (.head hbad)
        rw [hfault'.unique hfault]
    | ok t =>
      have hgood : d.IsTerm part := ⟨t, readTerm_eq_ok_iff.1 hread⟩
      rw [map_eq_error_iff, ih]
      constructor
      · rintro ⟨part', hfirst, hfault⟩
        exact ⟨part', .tail hgood hfirst, hfault⟩
      · rintro ⟨part', hfirst, hfault⟩
        cases hfirst with
        | head bad => exact absurd hgood bad
        | tail _ rest => exact ⟨part', rest, hfault⟩

/-- **The fault of a field** is that of its first part that is no term. -/
theorem readField_eq_error_iff {text : String} {e : BadField} :
    d.readField text = .error e ↔
      ∃ part fault, FirstWithout d.IsTerm (text.toList.splitOn ',') part ∧
        Term.FaultOf part fault ∧ e = ⟨d.name, fault⟩ := by
  rw [readField, mapError_eq_error_iff]
  constructor
  · rintro ⟨fault, h, he⟩
    obtain ⟨part, hfirst, hfault⟩ := readTerms_eq_error_iff.1 h
    exact ⟨part, fault, hfirst, hfault, he⟩
  · rintro ⟨part, fault, hfirst, hfault, he⟩
    exact ⟨fault, readTerms_eq_error_iff.2 ⟨part, hfirst, hfault⟩, he⟩

end Domain

end Cron
