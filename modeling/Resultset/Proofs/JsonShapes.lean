import Resultset.Json.Shape
import Resultset.Proofs.JsonText

/-! # Shapes of JSON documents, as they are written

What the library writes is well formed, and the reader of a shape undoes its writer: an integer is a
natural number below each bound that holds it, and the fields of a record are those that it was made
of. `levels` is how deep a document nests.
-/

namespace Resultset
set_option autoImplicit false

/-! ## Digits -/

theorem Text.toDigits_head {n : Nat} (hn : 0 < n) :
    ∃ c digits, Nat.toDigits 10 n = c :: digits ∧ c ≠ '0' := by
  induction n using Nat.strongRecOn with
  | ind n ih =>
    by_cases hsmall : n < 10
    · have hall : ∀ d < 10, 0 < d → d.digitChar ≠ '0' := by decide
      exact ⟨_, [], Nat.toDigits_of_lt_base hsmall, hall n hsmall hn⟩
    · obtain ⟨c, digits, hdigits, hc⟩ := ih (n / 10) (by omega) (by omega)
      refine ⟨c, digits ++ [(n % 10).digitChar], ?_, hc⟩
      rw [Nat.toDigits_of_base_le (by decide) (by omega), hdigits, List.cons_append]

theorem Json.hasLeadingZero_toDigits (n : Nat) : hasLeadingZero (Nat.toDigits 10 n) = false := by
  rcases Nat.eq_zero_or_pos n with rfl | hn
  · rfl
  · obtain ⟨c, digits, hdigits, hc⟩ := Text.toDigits_head hn
    rw [hdigits, hasLeadingZero.eq_def]
    split
    · next heq => exact absurd (List.cons.inj heq).1 hc
    · rfl

theorem Numeral.wellFormed_ofInt (n : Int) : (ofInt n).WellFormed where
  whole_ne_nil := Nat.toDigits_ne_nil
  whole_digits _ := Text.isDigit_of_mem_toDigits
  no_leading_zero := Json.hasLeadingZero_toDigits n.natAbs
  fraction_digits := nofun

namespace Json

/-! ## Nesting -/

mutual

/-- How many arrays and objects a document nests. -/
def levels : Json → Nat
  | null | bool _ | number _ | string _ => 0
  | array items => itemsLevels items + 1
  | object members => membersLevels members + 1
termination_by structural j => j

def itemsLevels : List Json → Nat
  | [] => 0
  | item :: items => max (levels item) (itemsLevels items)
termination_by structural items => items

def memberLevels : Option String × Json → Nat
  | (_, value) => levels value
termination_by structural member => member

def membersLevels : List (Option String × Json) → Nat
  | [] => 0
  | member :: members => max (memberLevels member) (membersLevels members)
termination_by structural members => members

end

theorem levels_variant (tag : String) (content : Json) :
    (record [(tag, content)]).levels = content.levels + 1 :=
  congrArg (· + 1) (Nat.max_zero content.levels)

/-! ## Integers -/

theorem wellFormed_integer (n : Int) : (integer n).WellFormed :=
  .number (Numeral.wellFormed_ofInt n)

/-- Every integer of 64 bits, signed or not, is read back. -/
theorem integer?_integer {n : Int} (hlow : -2 ^ (63 : Nat) ≤ n) (hhigh : n < 2 ^ (64 : Nat)) :
    (integer n).integer? = some n := by
  have hvalue : Nat.ofDigitChars 10 (Nat.toDigits 10 n.natAbs) 0 = n.natAbs :=
    Nat.ofDigitChars_ten_toDigits
  change (Numeral.ofInt n).integer? = _
  simp only [Numeral.integer?, Numeral.ofInt, Numeral.isWhole, hvalue, List.isEmpty_nil,
    Option.isNone_none, Bool.and_self, Bool.not_true, Bool.false_eq_true, if_false,
    decide_eq_true_eq]
  by_cases hsign : n < 0
  · rw [if_pos hsign, if_pos (by omega)]
    exact congrArg some (by omega)
  · rw [if_neg hsign, if_pos (by omega)]
    exact congrArg some (by omega)

theorem natural?_integer {n bound : Nat} (hn : n < bound) (hbound : bound ≤ 2 ^ (64 : Nat)) :
    (integer n).natural? bound = some n := by
  rw [natural?, integer?_integer (by omega) (by omega)]
  exact if_pos hn

/-! ## Records -/

theorem wellFormed_text (s : String) : (text s).WellFormed := .string (some s)

theorem wellFormed_record {members : List (String × Json)}
    (h : ∀ member ∈ members, member.2.WellFormed) : (record members).WellFormed := by
  refine .object fun member hmember => ?_
  obtain ⟨written, hwritten, rfl⟩ := List.mem_map.mp hmember
  exact h written hwritten

theorem wellFormed_variant (tag : String) {content : Json} (h : content.WellFormed) :
    (record [(tag, content)]).WellFormed := by
  refine wellFormed_record fun member hmember => ?_
  obtain rfl := List.mem_singleton.mp hmember
  exact h

theorem filter_fst_eq {members : List (String × Json)} {name : String} {value : Json}
    (hnodup : (members.map Prod.fst).Nodup) (hmem : (name, value) ∈ members) :
    members.filter (fun member => member.1 == name) = [(name, value)] := by
  induction members with
  | nil => exact absurd hmem List.not_mem_nil
  | cons member members ih =>
    rw [List.map_cons, List.nodup_cons] at hnodup
    rcases List.mem_cons.mp hmem with rfl | hmem
    · rw [List.filter_cons_of_pos (by simp), List.filter_eq_nil_iff.mpr]
      intro other hother heq
      rw [beq_iff_eq] at heq
      exact hnodup.1 (List.mem_map.mpr ⟨other, hother, heq⟩)
    · have hne : member.1 ≠ name := by
        intro heq
        exact hnodup.1 (List.mem_map.mpr ⟨(name, value), hmem, heq.symm⟩)
      rw [List.filter_cons_of_neg (by simp [hne]), ih hnodup.2 hmem]

theorem uniqueMember?_of_mem {members : List (String × Json)} {name : String} {value : Json}
    (hnodup : (members.map Prod.fst).Nodup) (hmem : (name, value) ∈ members) :
    uniqueMember? (members.map fun member => (some member.1, member.2)) name = some value := by
  have hsame : ((fun member : Option String × Json => member.1 == some name) ∘
      fun member : String × Json => (some member.1, member.2)) =
        fun member => member.1 == name := rfl
  rw [uniqueMember?, List.filter_map, hsame, filter_fst_eq hnodup hmem]
  rfl

theorem mapM_fst {members : List (String × Json)} {find : String → Option Json}
    (h : ∀ member ∈ members, find member.1 = some member.2) :
    (members.map Prod.fst).mapM find = some (members.map Prod.snd) := by
  induction members with
  | nil => rfl
  | cons member members ih =>
    rw [List.forall_mem_cons] at h
    rw [List.map_cons, List.mapM_cons, h.1, ih h.2]
    rfl

/-- The fields of a record are found by their names. -/
theorem fields?_record {members : List (String × Json)} (hnodup : (members.map Prod.fst).Nodup) :
    (record members).fields? (members.map Prod.fst) = some (members.map Prod.snd) := by
  have hnamed : (members.map fun member => (some member.1, member.2)).all
      (fun member : Option String × Json => member.1.isSome) = true := by simp
  rw [record, fields?, if_pos hnamed]
  exact mapM_fst fun member hmember => uniqueMember?_of_mem hnodup hmember

end Json
end Resultset
