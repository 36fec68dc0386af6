import Cron.Expression.Reader

/-! # What readers yield

Every term that is read is well formed for its domain: its values lie in the domain and in order,
none is negative, numerals have at most `Text.Numeral.maxDigits` digits, and intervals are positive.
A field has at least one term. The facts are proved in the order of the readers, from numerals up to
expressions.

A well-formed term accepts the value from which it counts. So a field that was read accepts a value
of its domain whenever zero, from which a bare `*` counts, is one of them: minute, hour and weekday
are such fields, day and month are not.

Main statements: `wellFormed_of_readField` and `Expression.exists_accepts_of_read`.
-/

namespace Cron

open Text

/-! ## What a success comes from -/

section success

variable {ε ε' α β : Type} {x : Except ε α}

theorem exists_of_bind_eq_ok {f : α → Except ε β} {b : β} (h : x >>= f = .ok b) :
    ∃ a, x = .ok a ∧ f a = .ok b := by
  cases x with
  | error err => cases h
  | ok a => exact ⟨a, rfl, h⟩

theorem exists_of_map_eq_ok {f : α → β} {b : β} (h : x.map f = .ok b) :
    ∃ a, x = .ok a ∧ f a = b := by
  cases x with
  | error err => cases h
  | ok a => exact ⟨a, rfl, Except.ok.inj h⟩

theorem eq_ok_of_mapError_eq_ok {f : ε → ε'} {a : α} (h : x.mapError f = .ok a) : x = .ok a := by
  cases x with
  | error err => cases h
  | ok b => exact congrArg Except.ok (Except.ok.inj h)

end success

/-! ## Numerals -/

namespace Text.Numeral

theorem ofDigitChars_lt {cs : List Char} (h : ∀ c ∈ cs, c.isDigit = true) :
    Nat.ofDigitChars 10 cs 0 < Nat.pow 10 cs.length := by
  induction cs with
  | nil => simp
  | cons c cs ih =>
    have hrest := ih fun a ha => h a (List.mem_cons_of_mem c ha)
    have hc := Char.isDigit_iff_toNat.1 (h c List.mem_cons_self)
    simp only [Char.reduceToNat] at hc
    have hdigit : c.toNat - '0'.toNat ≤ 9 := by
      simp only [Char.reduceToNat]
      omega
    rw [Nat.ofDigitChars_cons, Nat.mul_zero, Nat.zero_add, Nat.ofDigitChars_eq_ofDigitChars_zero]
    show Nat.pow 10 cs.length * (c.toNat - '0'.toNat) + Nat.ofDigitChars 10 cs 0 <
      Nat.pow 10 cs.length * 10
    calc Nat.pow 10 cs.length * (c.toNat - '0'.toNat) + Nat.ofDigitChars 10 cs 0
        < Nat.pow 10 cs.length * (c.toNat - '0'.toNat) + Nat.pow 10 cs.length :=
          Nat.add_lt_add_left hrest _
      _ ≤ Nat.pow 10 cs.length * 9 + Nat.pow 10 cs.length :=
          Nat.add_le_add_right (Nat.mul_le_mul_left _ hdigit) _
      _ = Nat.pow 10 cs.length * 10 := by rw [← Nat.mul_succ]

theorem lt_of_readDigits {cs : List Char} {n : Nat} (h : readDigits cs = some n) :
    n < limit := by
  obtain ⟨⟨-, hlen, hall⟩, rfl⟩ := readDigits_eq_some_iff.1 h
  have hpow (k : Nat) (hk : cs.length ≤ k) : Nat.pow 10 cs.length ≤ Nat.pow 10 k :=
    Nat.pow_le_pow_right (by decide) hk
  unfold limit
  exact Nat.lt_of_lt_of_le (ofDigitChars_lt (List.all_eq_true.1 hall)) (hpow maxDigits hlen)

/-- A plain numeral has at most `maxDigits` digits, whatever its sign. -/
theorem natAbs_lt_of_readPlain {cs : List Char} {n : Int} (h : readPlain cs = some n) :
    n.natAbs < limit := by
  unfold readPlain at h
  split at h
  · obtain ⟨m, hm, rfl⟩ := Option.map_eq_some_iff.1 h
    simpa [Int.negOfNat_eq] using lt_of_readDigits hm
  · obtain ⟨m, hm, rfl⟩ := Option.map_eq_some_iff.1 h
    simpa using lt_of_readDigits hm

/-- Only a dash makes a numeral negative. -/
theorem nonneg_of_readPlain {cs : List Char} {n : Int} (h : readPlain cs = some n)
    (hdash : '-' ∉ cs) : 0 ≤ n := by
  unfold readPlain at h
  split at h
  · simp at hdash
  · obtain ⟨m, -, rfl⟩ := Option.map_eq_some_iff.1 h
    exact Int.natCast_nonneg m

end Text.Numeral

/-! ## Terms -/

namespace Domain

variable {d : Domain}

theorem wellFormed_of_readSingle {cs : List Char} {b : Base} (hdash : '-' ∉ cs)
    (h : d.readSingle cs = .ok b) : b.WellFormed d := by
  unfold readSingle at h
  split at h
  · next value hvalue =>
    split at h
    · next hmem =>
      cases h
      exact ⟨hmem, Numeral.nonneg_of_readPlain hvalue hdash, Numeral.natAbs_lt_of_readPlain hvalue⟩
    · cases h
  · cases h

theorem wellFormed_of_readRange {before after : List Char} {b : Base} (hdash : '-' ∉ before)
    (h : d.readRange before after = .ok b) : b.WellFormed d := by
  unfold readRange at h
  split at h
  · next first last hfirst hlast =>
    split at h
    · next hle =>
      cases h
      exact ⟨hle.1, hle.2.1, hle.2.2, Numeral.nonneg_of_readPlain hfirst hdash,
        Numeral.natAbs_lt_of_readPlain hlast⟩
    · cases h
  · cases h

theorem wellFormed_of_readBase {cs : List Char} {b : Base} (h : d.readBase cs = .ok b) :
    b.WellFormed d := by
  unfold readBase at h
  split at h
  · cases h
    trivial
  · split at h
    · next before after hcut => exact wellFormed_of_readRange (cut_eq_some_iff.1 hcut).2 h
    · next hcut => exact wellFormed_of_readSingle (cut_eq_none_iff.1 hcut) h

theorem wellFormed_of_readTerm {cs : List Char} {t : Term} (h : d.readTerm cs = .ok t) :
    t.WellFormed d := by
  unfold readTerm at h
  split at h
  · obtain ⟨b, hb, rfl⟩ := exists_of_map_eq_ok h
    exact wellFormed_of_readBase hb
  · next before after hcut =>
    -- the interval is read before the base
    split at h
    · next interval hinterval =>
      split at h
      · next hpos =>
        obtain ⟨b, hb, rfl⟩ := exists_of_map_eq_ok h
        exact ⟨wellFormed_of_readBase hb, hpos, Numeral.natAbs_lt_of_readPlain hinterval⟩
      · cases h
    · cases h

/-- One term is read for each text, and each is well formed. -/
theorem wellFormed_of_readTerms {parts : List (List Char)} {terms : List Term}
    (h : d.readTerms parts = .ok terms) :
    terms.length = parts.length ∧ ∀ t ∈ terms, t.WellFormed d := by
  induction parts generalizing terms with
  | nil =>
    cases h
    exact ⟨rfl, by simp⟩
  | cons cs rest ih =>
    rw [readTerms] at h
    split at h
    · cases h
    · next term hterm =>
      obtain ⟨ts, hrest, rfl⟩ := exists_of_map_eq_ok h
      obtain ⟨hlen, hall⟩ := ih hrest
      refine ⟨by rw [List.length_cons, List.length_cons, hlen], ?_⟩
      intro t ht
      rcases List.mem_cons.1 ht with rfl | ht
      · exact wellFormed_of_readTerm hterm
      · exact hall t ht

theorem wellFormed_of_readField {text : String} {terms : List Term}
    (h : d.readField text = .ok terms) : terms ≠ [] ∧ ∀ t ∈ terms, t.WellFormed d := by
  obtain ⟨hlen, hall⟩ := wellFormed_of_readTerms (eq_ok_of_mapError_eq_ok h)
  refine ⟨?_, hall⟩
  -- splitting a text at commas leaves at least one part
  rintro rfl
  have hparts : text.toList.splitOn ',' = [] := List.length_eq_zero_iff.1 hlen.symm
  exact List.splitOn_ne_nil ',' _ hparts

end Domain

/-! ## Values that terms accept -/

/-- The value from which steps over a base are counted. -/
def Base.start : Base → Int
  | .wildcard => 0
  | .single value => value
  | .range first _ => first

theorem Base.distance?_start {d : Domain} {b : Base} (h : b.WellFormed d) :
    b.distance? b.start = some 0 := by
  cases b with
  | wildcard => rfl
  | single value => simp [distance?, start]
  | range first last =>
    have hle : first ≤ last := h.2.1
    simp [distance?, start, hle]

theorem Base.accepts_start {d : Domain} {b : Base} (h : b.WellFormed d) :
    b.accepts b.start = true := by
  cases b with
  | wildcard => rfl
  | single value => simp [accepts, start]
  | range first last =>
    have hle : first ≤ last := h.2.1
    simp [accepts, start, hle]

/-- A base that is no star begins in the domain. -/
theorem Base.start_mem_of_ne_wildcard {d : Domain} {b : Base} (h : b.WellFormed d)
    (hb : b ≠ .wildcard) : b.start ∈ d := by
  cases b with
  | wildcard => exact absurd rfl hb
  | single value => exact h.1
  | range first last => exact ⟨h.1, Int.le_trans h.2.1 h.2.2.1⟩

theorem Base.start_mem {d : Domain} {b : Base} (h : b.WellFormed d) (hzero : (0 : Int) ∈ d) :
    b.start ∈ d := by
  by_cases hb : b = .wildcard
  · rw [hb]
    exact hzero
  · exact Base.start_mem_of_ne_wildcard h hb

/-- The base of a term. -/
def Term.base : Term → Base
  | .plain b => b
  | .step b _ => b

theorem Term.base_wellFormed {d : Domain} {t : Term} (h : t.WellFormed d) :
    t.base.WellFormed d := by
  cases t with
  | plain b => exact h
  | step b interval => exact h.1

/-- A well-formed term accepts the value from which it counts. -/
theorem Term.accepts_start {d : Domain} {t : Term} (h : t.WellFormed d) :
    t.accepts t.base.start = true := by
  cases t with
  | plain b => exact Base.accepts_start h
  | step b interval =>
    have hstart : b.distance? b.start = some 0 := Base.distance?_start h.1
    simp [accepts, base, hstart]

/-- In a domain with zero every well-formed term accepts a value. -/
theorem Term.exists_accepts {d : Domain} {t : Term} (h : t.WellFormed d) (hzero : (0 : Int) ∈ d) :
    ∃ v ∈ d, t.accepts v = true :=
  ⟨t.base.start, Base.start_mem (Term.base_wellFormed h) hzero, Term.accepts_start h⟩

/-- Terms without an interval of zero are asked without an error. -/
theorem testAny_eq_ok {d : Domain} {terms : List Term} (h : ∀ t ∈ terms, t.WellFormed d) (v : Int) :
    testAny terms v = .ok (anyAccepts terms v) := by
  induction terms with
  | nil => rfl
  | cons t ts ih =>
    rw [List.forall_mem_cons] at h
    have hstep : ∀ base, t ≠ .step base 0 := by
      rintro base rfl
      obtain ⟨-, hpos, -⟩ := h.1
      exact absurd hpos (by decide)
    have hrest := ih h.2
    rw [testAny, Term.test_eq_accepts hstep, anyAccepts, List.any_cons]
    cases t.accepts v with
    | true => rfl
    | false => exact hrest

/-! ## Fields and expressions -/

/-- In a domain with zero every list of terms that was read accepts a value. -/
theorem Domain.exists_accepts_of_readField {d : Domain} {text : String} {terms : List Term}
    (h : d.readField text = .ok terms) (hzero : (0 : Int) ∈ d) :
    ∃ v ∈ d, anyAccepts terms v = true := by
  obtain ⟨hne, hall⟩ := Domain.wellFormed_of_readField h
  obtain ⟨t, ht⟩ := List.exists_mem_of_ne_nil _ hne
  obtain ⟨v, hv, haccepts⟩ := Term.exists_accepts (hall t ht) hzero
  exact ⟨v, hv, List.any_eq_true.2 ⟨t, ht, haccepts⟩⟩

/-- A field that was read keeps its text. -/
theorem Field.read_eq_ok_iff {n : FieldName} {raw : String} {f : Field} :
    Field.read n raw = .ok f ↔ f.raw = raw ∧ n.domain.readField raw = .ok f.terms := by
  constructor
  · intro h
    unfold Field.read at h
    split at h
    · next terms hterms =>
      cases h
      exact ⟨rfl, hterms⟩
    · cases h
  · rintro ⟨rfl, hterms⟩
    rw [Field.read, hterms]

theorem Field.terms_of_read {n : FieldName} {raw : String} {f : Field}
    (h : Field.read n raw = .ok f) : n.domain.readField raw = .ok f.terms :=
  (Field.read_eq_ok_iff.1 h).2

namespace Expression

variable {text : String} {e : Expression}

/-- Five texts are read as the expression of their fields. -/
theorem ofTexts_eq_ok_iff {texts : FieldTexts} :
    ofTexts texts = .ok e ↔ ∀ n : FieldName, Field.read n (texts.get n) = .ok (e.get n) := by
  constructor
  · intro h n
    obtain ⟨minute, hminute, h⟩ := exists_of_bind_eq_ok h
    obtain ⟨hour, hhour, h⟩ := exists_of_bind_eq_ok h
    obtain ⟨day, hday, h⟩ := exists_of_bind_eq_ok h
    obtain ⟨month, hmonth, h⟩ := exists_of_bind_eq_ok h
    obtain ⟨weekday, hweekday, h⟩ := exists_of_bind_eq_ok h
    cases h
    cases n with
    | minute => exact hminute
    | hour => exact hhour
    | day => exact hday
    | month => exact hmonth
    | weekday => exact hweekday
  · intro h
    have hminute : Field.read .minute texts.minute = .ok e.minute := h .minute
    have hhour : Field.read .hour texts.hour = .ok e.hour := h .hour
    have hday : Field.read .day texts.day = .ok e.day := h .day
    have hmonth : Field.read .month texts.month = .ok e.month := h .month
    have hweekday : Field.read .weekday texts.weekday = .ok e.weekday := h .weekday
    rw [ofTexts, hminute, hhour, hday, hmonth, hweekday]
    rfl

/-- An expression that was read consists of five fields that were read, each in its domain. -/
theorem exists_read_get (h : Expression.read text = .ok e) (n : FieldName) :
    ∃ raw, Field.read n raw = .ok (e.get n) := by
  obtain ⟨texts, -, h⟩ := exists_of_bind_eq_ok h
  exact ⟨texts.get n, ofTexts_eq_ok_iff.1 h n⟩

theorem wellFormed_of_read (h : Expression.read text = .ok e) (n : FieldName) :
    (e.get n).terms ≠ [] ∧ ∀ t ∈ (e.get n).terms, t.WellFormed n.domain := by
  obtain ⟨raw, hraw⟩ := exists_read_get h n
  exact Domain.wellFormed_of_readField (Field.terms_of_read hraw)

/-- A field whose domain has zero accepts a value of the domain. -/
theorem exists_accepts_of_read (h : Expression.read text = .ok e) {n : FieldName}
    (hzero : (0 : Int) ∈ n.domain) : ∃ v ∈ n.domain, (e.get n).accepts v = true := by
  obtain ⟨raw, hraw⟩ := exists_read_get h n
  exact Domain.exists_accepts_of_readField (Field.terms_of_read hraw) hzero

/-- An expression that was read accepts some time of day. -/
theorem exists_time_of_read (h : Expression.read text = .ok e) :
    (∃ hour : Nat, hour < 24 ∧ e.hour.accepts hour) ∧
      ∃ minute : Nat, minute < 60 ∧ e.minute.accepts minute := by
  constructor
  · obtain ⟨v, ⟨hmin, hmax⟩, haccepts⟩ :=
      exists_accepts_of_read (n := .hour) h (by decide)
    obtain ⟨hour, rfl⟩ := Int.eq_ofNat_of_zero_le hmin
    change (hour : Int) ≤ 23 at hmax
    exact ⟨hour, by omega, haccepts⟩
  · obtain ⟨v, ⟨hmin, hmax⟩, haccepts⟩ :=
      exists_accepts_of_read (n := .minute) h (by decide)
    obtain ⟨minute, rfl⟩ := Int.eq_ofNat_of_zero_le hmin
    change (minute : Int) ≤ 59 at hmax
    exact ⟨minute, by omega, haccepts⟩

end Expression

end Cron
