import Resultset.Extraction
import Resultset.Proofs.DecimalText

/-! # Agreement of the two converters

Whatever the typed converter answers for a value, the textual converter reads back from its text: a
scalar as it is (`ofValue_of_typed`), and a decimal with its scale and number (`decimal_of_typed`). A
zero may lose its sign on the way, which neither changes its number nor whether it fits a precision
and a scale (`fit?_unsignZero`).
-/

namespace Resultset
set_option autoImplicit false

/-! ## Shaping zeros -/

namespace Decimal

theorem dropDigits_zero (tie : Tie) {dropped : Nat} (hle : dropped ≤ 29) :
    dropDigits tie 0 dropped = 0 := by
  have hhalf : 0 < halfUnit dropped := by
    rw [halfUnit_of_le hle]
    exact Nat.mul_pos (by decide) (Nat.pow_pos (by decide))
  rw [dropDigits, Nat.zero_div, Nat.zero_mod, Nat.compare_eq_lt.mpr hhalf]
  rfl

theorem quantize?_of_mantissa_eq_zero (tie : Tie) {scale : Nat} {d : Decimal}
    (hzero : d.mantissa = 0) (hd : d.scale ≤ maxScale) (hscale : scale ≤ maxScale) :
    d.quantize? tie scale = some ⟨d.negative, 0, scale, Nat.zero_le _⟩ := by
  obtain ⟨negative, mantissa, places, hle⟩ := d
  subst hzero
  have hround : ∃ kept, (⟨negative, 0, places, hle⟩ : Decimal).round tie scale =
      ⟨negative, 0, kept, Nat.zero_le _⟩ := by
    by_cases hplaces : places ≤ scale
    · exact ⟨places, round_of_le hplaces⟩
    · have hdropped : dropDigits tie 0 (places - scale) = 0 := dropDigits_zero tie (by
        simp only [maxScale] at hd
        omega)
      refine ⟨scale, ?_⟩
      simp only [round, shorten, dif_neg hplaces, hdropped, ne_eq, not_true_eq_false, false_and,
        if_false]
  obtain ⟨kept, hround⟩ := hround
  have hpad : (⟨negative, 0, kept, Nat.zero_le _⟩ : Decimal).pad scale =
      ⟨negative, 0, scale, Nat.zero_le _⟩ := by
    rw [pad]
    by_cases hkept : kept = scale
    · simp only [hkept, if_true]
    · simp only [hkept, if_false, if_true, Nat.min_eq_left hscale]
  simp only [quantize?, hround, hpad, if_true]

theorem fit?_of_mantissa_eq_zero {precision scale : Nat} {d : Decimal} (hzero : d.mantissa = 0)
    (hd : d.scale ≤ maxScale) (hscale : scale ≤ maxScale) :
    d.fit? precision scale =
      if 1 ≤ precision then some ⟨d.negative, 0, scale, Nat.zero_le _⟩ else none := by
  rw [fit?, quantize?_of_mantissa_eq_zero _ hzero hd hscale, Option.filter_some]
  simp only [digitCount, Nat.toDigits_zero, List.length_singleton, decide_eq_true_eq]

theorem fit_ok_iff {precision scale : Nat} {d q : Decimal} (hscale : scale ≤ maxScale) :
    d.fit precision scale = .ok q ↔ d.fit? precision scale = some q := by
  rw [fit, if_pos (Or.inr hscale)]
  cases d.fit? precision scale with
  | none => exact ⟨nofun, nofun⟩
  | some r => rw [Except.ok.injEq, Option.some.injEq]

/-- Two decimals of one scale that are one number. -/
def Alike (a b : Decimal) : Prop := a.scale = b.scale ∧ a.sameNumber b = true

/-- The sign of a zero has no say in whether a decimal fits, nor in the number that it becomes. -/
theorem fit?_unsignZero {precision scale : Nat} {d : Decimal} (hd : d.scale ≤ maxScale)
    (hscale : scale ≤ maxScale) :
    (∀ q, d.fit? precision scale = some q →
      ∃ r, d.unsignZero.fit? precision scale = some r ∧ q.Alike r) ∧
    (d.fit? precision scale = none → d.unsignZero.fit? precision scale = none) := by
  by_cases hzero : d.mantissa = 0
  · have hzero' : d.unsignZero.mantissa = 0 := hzero
    rw [fit?_of_mantissa_eq_zero hzero hd hscale, fit?_of_mantissa_eq_zero hzero' hd hscale]
    by_cases hprecision : 1 ≤ precision
    · rw [if_pos hprecision, if_pos hprecision]
      constructor
      · intro q hq
        rw [Option.some.injEq] at hq
        subst hq
        refine ⟨_, rfl, rfl, ?_⟩
        simp [sameNumber, coefficient]
      · intro hnone
        contradiction
    · rw [if_neg hprecision, if_neg hprecision]
      constructor
      · intro q hq
        contradiction
      · intro hnone
        rfl
  · rw [unsignZero_of_ne_zero hzero]
    exact ⟨fun q hq => ⟨q, hq, rfl, q.sameNumber_refl⟩, id⟩

end Decimal

/-! ## Values and their texts -/

namespace Textual

theorem trimmed_integer {w : IntWidth} (n : w.Number) :
    trimmed (.integer w n) = Integer.chars n.val :=
  Text.trim_of_not_isBlank (Integer.not_isBlank_chars n.val)

theorem boolean_boolean (b : Bool) : boolean (.boolean b) = .ok b := by
  cases b <;> rfl

theorem trimmed_of_exactDecimal? {v : Value} {d : Decimal} (h : Typed.exactDecimal? v = some d) :
    trimmed v = d.chars := by
  have hchars : v.chars = d.chars := by
    cases v with
    | decimal e =>
      rw [Typed.exactDecimal?, Option.some.injEq] at h
      rw [Value.chars, h]
    | integer w n =>
      rw [Typed.exactDecimal?, Option.some.injEq] at h
      rw [Value.chars, ← h, Decimal.chars_ofInt]
    | _ => cases h
  rw [trimmed, hchars]
  exact Text.trim_of_not_isBlank d.not_isBlank_chars

/-! ## Targets -/

/-- A number of one width is read at another from its text as it is by itself. -/
theorem integer_integer {v : IntWidth} (w : IntWidth) (n : v.Number) :
    (∀ m, w.number? n.val = some m → integer w (.integer v n) = .ok m) ∧
      (w.number? n.val = none → ∃ e, integer w (.integer v n) = .error e) := by
  have hread := Integer.read_chars w n.val
  rw [IntWidth.number?]
  by_cases hholds : w.Holds n.val
  · rw [if_pos hholds] at hread
    rw [dif_pos hholds]
    constructor
    · intro m hm
      rw [Option.some.injEq] at hm
      subst hm
      have hnumber := Integer.readNumber_of_ok (n := ⟨n.val, hholds⟩) hread
      rw [integer, trimmed_integer, hnumber]
      rfl
    · intro hnone
      contradiction
  · rw [if_neg hholds] at hread
    rw [dif_neg hholds]
    constructor
    · intro m hm
      contradiction
    · intro hnone
      have hnumber := Integer.readNumber_of_error hread
      rw [integer, trimmed_integer, hnumber]
      exact ⟨_, rfl⟩

theorem integer_of_typed {w : IntWidth} {v : Value} {m : w.Number}
    (h : Typed.integer w v = .ok m) : integer w v = .ok m := by
  cases v with
  | integer u n =>
    rw [Typed.integer, Value.integer?_integer] at h
    cases hnumber : w.number? n.val with
    | none => simp only [hnumber, reduceCtorEq] at h
    | some k =>
      simp only [hnumber, Except.ok.injEq] at h
      exact (integer_integer w n).1 m (by rw [hnumber, h])
  | _ => exact absurd h nofun

theorem integer_of_typed_outOfRange {w : IntWidth} {v : Value} {n : Int} {t : Target}
    (h : Typed.integer w v = .error (.outOfRange n t)) : ∃ e, integer w v = .error e := by
  cases v with
  | integer u k =>
    rw [Typed.integer, Value.integer?_integer] at h
    cases hnumber : w.number? k.val with
    | none => exact (integer_integer w k).2 hnumber
    | some m => simp only [hnumber, reduceCtorEq] at h
  | _ => exact absurd h nofun

theorem ofValue_of_typed {s : Scalar} (hfloat : s ≠ .float) (hdouble : s ≠ .double) {v : Value}
    {x : s.Result} (h : Typed.ofValue (.scalar s) v = .ok x) : ofValue (.scalar s) v = .ok x := by
  cases s with
  | string =>
    cases v with
    | binary bytes => exact absurd h nofun
    | _ => exact h
  | boolean =>
    cases v with
    | boolean b => exact (boolean_boolean b).trans h
    | _ => exact absurd h nofun
  | integer w => exact integer_of_typed h
  | float => exact absurd rfl hfloat
  | double => exact absurd rfl hdouble
  | binary =>
    cases v with
    | binary bytes => exact h
    | _ => exact absurd h nofun

theorem decimal_of_exactDecimal? {precision scale : Nat} {v : Value} {d : Decimal}
    (hexact : Typed.exactDecimal? v = some d) (hd : d.scale ≤ maxScale) :
    decimal precision scale v = (d.unsignZero.fit precision scale).map some := by
  rw [decimal, trimmed_of_exactDecimal? hexact, Decimal.readAny_chars hd]

end Textual

/-- The value has no more digits after the point than a decimal is read with. -/
def Value.Readable (v : Value) : Prop := ∀ d, v = .decimal d → d.scale ≤ maxScale

theorem Value.Readable.scale_le {v : Value} (h : v.Readable) {d : Decimal}
    (hexact : Typed.exactDecimal? v = some d) : d.scale ≤ maxScale := by
  cases v with
  | decimal e =>
    rw [Typed.exactDecimal?, Option.some.injEq] at hexact
    exact hexact ▸ h e rfl
  | integer w n =>
    rw [Typed.exactDecimal?, Option.some.injEq] at hexact
    subst hexact
    exact Nat.zero_le _
  | _ => exact absurd hexact nofun

namespace Textual

def AlikeAnswers : Option Decimal → Option Decimal → Prop
  | none, none => True
  | some a, some b => a.Alike b
  | _, _ => False

theorem decimal_of_typed {precision scale : Nat} (hscale : scale ≤ maxScale) {v : Value}
    (hv : v.Readable) {x : Option Decimal} (h : Typed.decimal precision scale v = .ok x) :
    ∃ y, decimal precision scale v = .ok y ∧ AlikeAnswers x y := by
  rw [Typed.decimal] at h
  cases hexact : Typed.exactDecimal? v with
  | none => simp only [hexact, reduceCtorEq] at h
  | some d =>
    have hd := hv.scale_le hexact
    simp only [hexact] at h
    cases hfit : d.fit precision scale with
    | error e => simp only [hfit, Except.map, reduceCtorEq] at h
    | ok q =>
      simp only [hfit, Except.map, Except.ok.injEq] at h
      subst h
      have hq := (Decimal.fit_ok_iff hscale).mp hfit
      obtain ⟨r, hr, halike⟩ := (Decimal.fit?_unsignZero hd hscale).1 q hq
      refine ⟨some r, ?_, halike⟩
      rw [decimal_of_exactDecimal? hexact hd, (Decimal.fit_ok_iff hscale).mpr hr]
      rfl

theorem decimal_of_typed_precisionExceeded {precision scale : Nat} (hscale : scale ≤ maxScale)
    {v : Value} (hv : v.Readable) {d : Decimal} {p s : Nat}
    (h : Typed.decimal precision scale v = .error (.precisionExceeded d p s)) :
    ∃ e, decimal precision scale v = .error e := by
  rw [Typed.decimal] at h
  cases hexact : Typed.exactDecimal? v with
  | none => simp only [hexact, Typed.incompatible, reduceCtorEq, Except.error.injEq] at h
  | some c =>
    have hc := hv.scale_le hexact
    have hnone : c.fit? precision scale = none := by
      cases hfit : c.fit? precision scale with
      | none => rfl
      | some q =>
        simp only [hexact, (Decimal.fit_ok_iff hscale).mpr hfit, Except.map, reduceCtorEq] at h
    have hnone' := (Decimal.fit?_unsignZero hc hscale).2 hnone
    rw [decimal_of_exactDecimal? hexact hc, Decimal.fit, if_pos (Or.inr hscale), hnone']
    exact ⟨_, rfl⟩

end Textual

/-! ## Rows -/

namespace Converter

/-- An answer of a row comes from a NULL, which both converters treat alike, or from another value
of the row. -/
theorem read_cases (row : Row) (position : Nat) :
    (∀ (converter : Converter) (t : Target),
      converter.read t row position = .error (.noValue position)) ∨
      (∀ (converter : Converter) (t : Target),
        converter.read t row position = .ok t.whenNull) ∨
      ∃ v ∈ row.values, ∀ t : Target, typed.read t row position = Typed.ofValue t v ∧
        textual.read t row position = Textual.ofValue t v := by
  cases hvalue : row.get? position with
  | none =>
    left
    intro converter t
    rw [read, hvalue]
  | some v =>
    right
    by_cases hnull : v = .null
    · left
      intro converter t
      rw [read_of_some hvalue, hnull, convert_null]
    · right
      refine ⟨v, List.mem_of_getElem? hvalue, ?_⟩
      intro t
      rw [read_of_some hvalue, read_of_some hvalue]
      exact ⟨typed_convert hnull t, textual_convert hnull t⟩

/-- What the typed converter answers, the textual converter answers too: the same scalar, or a
decimal of the same scale and number. A number that is out of range or too long for the one is no
answer of the other either, and neither answers past the row. -/
theorem textual_extends_typed (row : Row) (hrow : ∀ v ∈ row.values, v.Readable) (position : Nat) :
    (∀ s : Scalar, s ≠ .float → s ≠ .double → ∀ x : s.Result,
      typed.read (.scalar s) row position = .ok x →
        textual.read (.scalar s) row position = .ok x) ∧
      (∀ precision scale : Nat, scale ≤ maxScale → ∀ x : Option Decimal,
        typed.read (.decimal precision scale) row position = .ok x →
          ∃ y, textual.read (.decimal precision scale) row position = .ok y ∧
            Textual.AlikeAnswers x y) ∧
      (∀ (w : IntWidth) (n : Int) (t : Target),
        typed.read (.scalar (.integer w)) row position = .error (.outOfRange n t) →
          ∃ e, textual.read (.scalar (.integer w)) row position = .error e) ∧
      (∀ (precision scale : Nat), scale ≤ maxScale → ∀ (d : Decimal) (p s : Nat),
        typed.read (.decimal precision scale) row position = .error (.precisionExceeded d p s) →
          ∃ e, textual.read (.decimal precision scale) row position = .error e) ∧
      (row.arity ≤ position → ∀ t : Target,
        typed.read t row position = .error (.noValue position) ∧
          textual.read t row position = .error (.noValue position)) := by
  have hpast : row.arity ≤ position → ∀ t : Target,
      typed.read t row position = .error (.noValue position) ∧
        textual.read t row position = .error (.noValue position) := fun hle _ =>
    ⟨read_of_arity_le hle, read_of_arity_le hle⟩
  refine ⟨?_, ?_, ?_, ?_, hpast⟩
  · intro s hfloat hdouble x h
    rcases read_cases row position with hnone | hnull | ⟨v, hmem, hread⟩
    · exact absurd ((hnone _ _).symm.trans h) nofun
    · exact (hnull _ _).trans ((hnull _ _).symm.trans h)
    · rw [(hread _).2]
      exact Textual.ofValue_of_typed hfloat hdouble ((hread _).1.symm.trans h)
  · intro precision scale hscale x h
    rcases read_cases row position with hnone | hnull | ⟨v, hmem, hread⟩
    · exact absurd ((hnone _ _).symm.trans h) nofun
    · have hx : none = x := Except.ok.inj ((hnull typed (.decimal precision scale)).symm.trans h)
      subst hx
      exact ⟨none, hnull _ _, trivial⟩
    · rw [(hread _).2]
      exact Textual.decimal_of_typed hscale (hrow v hmem) ((hread _).1.symm.trans h)
  · intro w n t h
    rcases read_cases row position with hnone | hnull | ⟨v, hmem, hread⟩
    · exact absurd ((hnone _ _).symm.trans h) nofun
    · exact absurd ((hnull _ _).symm.trans h) nofun
    · rw [(hread _).2]
      exact Textual.integer_of_typed_outOfRange ((hread _).1.symm.trans h)
  · intro precision scale hscale d p s h
    rcases read_cases row position with hnone | hnull | ⟨v, hmem, hread⟩
    · exact absurd ((hnone _ _).symm.trans h) nofun
    · exact absurd ((hnull _ _).symm.trans h) nofun
    · rw [(hread _).2]
      exact Textual.decimal_of_typed_precisionExceeded hscale (hrow v hmem)
        ((hread _).1.symm.trans h)

/-- A negative zero is read back without its sign. -/
theorem textual_extends_typed_at_negative_zero :
    (∀ v ∈ [Value.decimal ⟨true, 0, 2, Nat.zero_le _⟩], v.Readable) ∧
      ∃ y, textual.read (.decimal 3 1) ⟨[.decimal ⟨true, 0, 2, Nat.zero_le _⟩]⟩ 0 = .ok y ∧
        Textual.AlikeAnswers (some ⟨true, 0, 1, Nat.zero_le _⟩) y := by
  have hrow : ∀ v ∈ [Value.decimal ⟨true, 0, 2, Nat.zero_le _⟩], v.Readable := by
    intro v hv d hd
    rw [List.mem_singleton.mp hv, Value.decimal.injEq] at hd
    subst hd
    decide
  refine ⟨hrow, ?_⟩
  exact (textual_extends_typed ⟨[.decimal ⟨true, 0, 2, Nat.zero_le _⟩]⟩ hrow 0).2.1 3 1 (by decide)
    (some ⟨true, 0, 1, Nat.zero_le _⟩) rfl

end Converter
end Resultset
