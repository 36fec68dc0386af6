/-! # Random choices

A random value is described by the choices that lead to it: each asks for a number up to some
largest one, and how it goes on depends on the answer. What can be said of every outcome of such a
description is then true under any source of randomness.

A source answers every request with a number in range, and answers may depend on how many requests
came before. `Choice.run` follows one source through a description and notes how many answers each
request had. Main statements: `outcome_run`, whatever the source, a run ends in an outcome of the
description; and one `iff` for the outcomes of each way to build a description.
-/

namespace Cron.Random

/-! ## Descriptions -/

/-- A value found by a sequence of random choices. -/
inductive Choice (α : Type) where
  /-- Nothing is left to choose. -/
  | done (value : α)
  /-- Choose a number from zero to the largest, then go on. -/
  | upTo (largest : Nat) (next : Fin (largest + 1) → Choice α)

namespace Choice

variable {α β : Type}

/-- Go on with the value found. -/
def bind : Choice α → (α → Choice β) → Choice β
  | done value, f => f value
  | upTo largest next, f => upTo largest fun i => (next i).bind f

instance : Monad Choice where
  pure := done
  bind := bind

/-- A number between two ends, both included. -/
def between (first last : Nat) : Choice Nat :=
  upTo (last - first) fun i => done (first + i)

/-- One of the items `first :: rest`. -/
def oneOf (first : α) (rest : List α) : Choice α :=
  upTo rest.length fun i => done ((first :: rest)[i])

/-- Some sequence of choices leads to the value. -/
inductive Outcome : Choice α → α → Prop where
  | done (value : α) : Outcome (done value) value
  | upTo {largest : Nat} {next : Fin (largest + 1) → Choice α} {value : α}
      (i : Fin (largest + 1)) (h : Outcome (next i) value) : Outcome (upTo largest next) value

end Choice

namespace Choice

variable {α β : Type}

theorem outcome_done_iff {value v : α} : Outcome (done value) v ↔ v = value := by
  constructor
  · intro h
    cases h
    rfl
  · rintro rfl
    exact .done v

theorem outcome_upTo_iff {largest : Nat} {next : Fin (largest + 1) → Choice α} {v : α} :
    Outcome (upTo largest next) v ↔ ∃ i, Outcome (next i) v := by
  constructor
  · intro h
    cases h with
    | upTo i h => exact ⟨i, h⟩
  · rintro ⟨i, h⟩
    exact .upTo i h

/-- What comes of going on is what comes of going on with some outcome. -/
theorem outcome_bind_iff {c : Choice α} {f : α → Choice β} {v : β} :
    Outcome (c >>= f) v ↔ ∃ a, Outcome c a ∧ Outcome (f a) v := by
  change Outcome (c.bind f) v ↔ _
  induction c with
  | done value => simp only [bind, outcome_done_iff, exists_eq_left]
  | upTo largest next ih =>
    simp only [bind, outcome_upTo_iff, ih]
    constructor
    · rintro ⟨i, a, ha, hv⟩
      exact ⟨a, ⟨i, ha⟩, hv⟩
    · rintro ⟨a, ⟨i, ha⟩, hv⟩
      exact ⟨i, a, ha, hv⟩

/-- The numbers between two ends are those that can come out. -/
theorem outcome_between_iff {first last n : Nat} (h : first ≤ last) :
    Outcome (between first last) n ↔ first ≤ n ∧ n ≤ last := by
  simp only [between, outcome_upTo_iff, outcome_done_iff]
  constructor
  · rintro ⟨i, rfl⟩
    have := i.isLt
    omega
  · intro hn
    exact ⟨⟨n - first, by omega⟩, by simp only; omega⟩

/-- The items of a list are those that can come out. -/
theorem outcome_oneOf_iff {first : α} {rest : List α} {v : α} :
    Outcome (oneOf first rest) v ↔ v ∈ first :: rest := by
  simp only [oneOf, outcome_upTo_iff, outcome_done_iff, List.mem_iff_getElem]
  constructor
  · rintro ⟨i, rfl⟩
    exact ⟨i, i.isLt, rfl⟩
  · rintro ⟨i, hi, rfl⟩
    exact ⟨⟨i, by simpa using hi⟩, rfl⟩

end Choice

/-! ## Sources -/

/-- A source of randomness: the answer to the request of a given index for a number from zero to the
largest. -/
abbrev Source := (index largest : Nat) → Fin (largest + 1)

namespace Source

/-- The number that an integer leaves on division by `largest + 1`. -/
def reduce (n : Int) (largest : Nat) : Fin (largest + 1) :=
  ⟨(n % (largest + 1 : Nat)).toNat, by
    have h₁ := Int.emod_lt_of_pos n (show (0 : Int) < (largest + 1 : Nat) by omega)
    have h₂ := Int.emod_nonneg n (show ((largest + 1 : Nat) : Int) ≠ 0 by omega)
    omega⟩

/-- The source that goes round a list of integers, each reduced to the range asked for. -/
def scripted (draws : List Int) : Source :=
  fun index largest => reduce (draws.getD (index % draws.length) 0) largest

/-- The bits of a 64-bit number, well stirred. -/
def stir (z : UInt64) : UInt64 :=
  let z := (z ^^^ (z >>> 30)) * 0xBF58476D1CE4E5B9
  let z := (z ^^^ (z >>> 27)) * 0x94D049BB133111EB
  z ^^^ (z >>> 31)

/-- A source of pseudo-random numbers, one for each seed. -/
def seeded (seed : Nat) : Source :=
  fun index largest =>
    reduce (stir (seed.toUInt64 + (index + 1).toUInt64 * 0x9E3779B97F4A7C15)).toNat largest

end Source

/-! ## Runs -/

namespace Choice

variable {α : Type}

/-- The value that a source leads to when `index` requests came before, and for each request the
number of answers it had. -/
def run (source : Source) : Choice α → (index : Nat) → α × List Nat
  | done value, _ => (value, [])
  | upTo largest next, index =>
    let (value, sizes) := (next (source index largest)).run source (index + 1)
    (value, (largest + 1) :: sizes)

/-- A run ends in an outcome. -/
theorem outcome_run (source : Source) (c : Choice α) (index : Nat) :
    c.Outcome (c.run source index).1 := by
  induction c generalizing index with
  | done value => exact .done value
  | upTo largest next ih => exact .upTo (source index largest) (ih _ _)

end Choice

end Cron.Random
