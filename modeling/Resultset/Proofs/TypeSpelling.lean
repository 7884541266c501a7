import Mathlib.Data.List.Nodup
import Resultset.Proofs.Checks
import Resultset.Proofs.Numerals

/-! # Types told apart by their spelling

The SQL spelling of a type is read in one way only, if the names of its fields are words
(`WellNamed`). It starts with a run of capitals, the keyword, which says what kind of type it is, and
every number and every name in it is a run too that the next character ends. The induction on the
nesting carries the text behind a type along: whatever follows, a spelling stands for one type and
ends at one place (`Told`).
-/

namespace Resultset
set_option autoImplicit false

namespace Text

/-! ## Runs of one kind of character -/

section
variable {p : Char → Bool} {run run' rest rest' : List Char}

theorem takeWhile_run (hrun : ∀ c ∈ run, p c = true) (hrest : ∀ c ∈ rest.head?, p c = false) :
    (run ++ rest).takeWhile p = run := by
  rw [List.takeWhile_append_of_pos hrun]
  cases rest with
  | nil => exact List.append_nil run
  | cons c rest => rw [List.takeWhile_cons_of_neg (by simp [hrest c rfl]), List.append_nil]

theorem dropWhile_run (hrun : ∀ c ∈ run, p c = true) (hrest : ∀ c ∈ rest.head?, p c = false) :
    (run ++ rest).dropWhile p = rest := by
  rw [List.dropWhile_append_of_pos hrun]
  cases rest with
  | nil => rfl
  | cons c rest => exact List.dropWhile_cons_of_neg (by simp [hrest c rfl])

theorem run_append_inj (hrun : ∀ c ∈ run, p c = true) (hrun' : ∀ c ∈ run', p c = true)
    (hrest : ∀ c ∈ rest.head?, p c = false) (hrest' : ∀ c ∈ rest'.head?, p c = false)
    (h : run ++ rest = run' ++ rest') : run = run' ∧ rest = rest' := by
  constructor
  · have htake := congrArg (List.takeWhile p) h
    rwa [takeWhile_run hrun hrest, takeWhile_run hrun' hrest'] at htake
  · have hdrop := congrArg (List.dropWhile p) h
    rwa [dropWhile_run hrun hrest, dropWhile_run hrun' hrest'] at hdrop

theorem eq_false_of_mem_head? {c : Char} (hc : p c = false) (text : List Char) :
    ∀ d ∈ (c :: text).head?, p d = false := by
  intro d hd
  rwa [← Option.some.inj hd]

theorem run_cons_inj {c : Char} (hc : p c = false) (hrun : ∀ c ∈ run, p c = true)
    (hrun' : ∀ c ∈ run', p c = true) (h : run ++ c :: rest = run' ++ c :: rest') :
    run = run' ∧ rest = rest' := by
  obtain ⟨hruns, hrests⟩ := run_append_inj hrun hrun' (eq_false_of_mem_head? hc rest)
    (eq_false_of_mem_head? hc rest') h
  exact ⟨hruns, (List.cons.inj hrests).2⟩

/-- A number is read up to the first character that is no digit. -/
theorem toDigits_cons_inj {m n : Nat} {c : Char} (hc : c.isDigit = false)
    (h : Nat.toDigits 10 m ++ c :: rest = Nat.toDigits 10 n ++ c :: rest') :
    m = n ∧ rest = rest' := by
  obtain ⟨hdigits, hrests⟩ :=
    run_cons_inj hc (fun _ => isDigit_of_mem_toDigits) (fun _ => isDigit_of_mem_toDigits) h
  have hvalue := congrArg (Nat.ofDigitChars 10 · 0) hdigits
  simp only [Nat.ofDigitChars_ten_toDigits] at hvalue
  exact ⟨hvalue, hrests⟩

end

/-! ## Words -/

def isWordChar (c : Char) : Bool := c.isAlphanum || c == '_'

/-- A name of ASCII letters, digits and underscores, at least one of them. -/
structure IsWord (name : String) : Prop where
  toList_ne_nil : name.toList ≠ []
  isWordChar_toList : ∀ c ∈ name.toList, isWordChar c = true

theorem IsWord.cons_inj {name name' : String} (hname : IsWord name) (hname' : IsWord name')
    {rest rest' : List Char} (h : name.toList ++ ' ' :: rest = name'.toList ++ ' ' :: rest') :
    name = name' ∧ rest = rest' := by
  have hspace : isWordChar ' ' = false := rfl
  obtain ⟨hchars, hrests⟩ :=
    run_cons_inj hspace hname.isWordChar_toList hname'.isWordChar_toList h
  exact ⟨String.toList_inj.mp hchars, hrests⟩

end Text

namespace ColumnType

/-- Every field of a row type in it, at any depth, has a word for a name. -/
inductive WellNamed : ColumnType → Prop
  | plain (k : PlainType) : WellNamed (.plain k)
  | sized (k : SizedType) (n : UInt64) : WellNamed (.sized k n)
  | decimal (p s : UInt32) : WellNamed (.decimal p s)
  | array {t : ColumnType} (ht : WellNamed t) : WellNamed (.array t)
  | row {fs : List (Named ColumnType)} (hnames : ∀ f ∈ fs, Text.IsWord f.name)
      (htypes : ∀ f ∈ fs, WellNamed f.type) : WellNamed (.row fs)

/-! ## The keyword and what follows it -/

/-- The kind of a type, without its parameters. -/
inductive Kind where
  | plain (k : PlainType)
  | sized (k : SizedType)
  | decimal
  | array
  | row

namespace Kind

def keyword : Kind → String
  | plain k => k.keyword
  | sized k => k.keyword
  | decimal => "DECIMAL"
  | array => "ARRAY"
  | row => "ROW"

def all : List Kind :=
  [plain .boolean, plain .tinyInt, plain .smallInt, plain .integer, plain .bigInt, plain .float,
   plain .double, plain .date, plain .time, plain .timestamp, sized .char, sized .varchar,
   sized .binary, sized .varbinary, decimal, array, row]

theorem mem_all (k : Kind) : k ∈ all := by
  cases k with
  | plain k => cases k <;> simp [all]
  | sized k => cases k <;> simp [all]
  | _ => simp [all]

theorem keyword_inj {k l : Kind} (h : k.keyword = l.keyword) : k = l := by
  have hnodup : (all.map keyword).Nodup := by decide
  exact List.inj_on_of_nodup_map hnodup k.mem_all l.mem_all h

theorem isUpper_keyword (k : Kind) : ∀ c ∈ k.keyword.toList, c.isUpper = true := by
  cases k with
  | plain k => cases k <;> exact List.all_eq_true.mp rfl
  | sized k => cases k <;> exact List.all_eq_true.mp rfl
  | _ => exact List.all_eq_true.mp rfl

end Kind

def kind : ColumnType → Kind
  | plain k => .plain k
  | sized k _ => .sized k
  | decimal _ _ => .decimal
  | array _ => .array
  | row _ => .row

/-- What follows the keyword of a type. -/
def parameters : ColumnType → List Char
  | plain _ => []
  | sized _ n => '(' :: (Nat.toDigits 10 n.toNat ++ [')'])
  | decimal p s =>
    '(' :: (Nat.toDigits 10 p.toNat ++ ',' :: ' ' :: (Nat.toDigits 10 s.toNat ++ [')']))
  | array t => '<' :: (t.chars ++ ['>'])
  | row fs => '<' :: (fieldsChars fs ++ ['>'])

theorem chars_eq (t : ColumnType) : t.chars = t.kind.keyword.toList ++ t.parameters := by
  rw [chars.eq_def]
  cases t <;> simp [kind, Kind.keyword, parameters]

/-- After a type there is no capital that would make its keyword longer. -/
def Ends (rest : List Char) : Prop := ∀ c ∈ rest.head?, c.isUpper = false

theorem ends_nil : Ends [] := fun _ hc => absurd hc (Option.not_mem_none _)

theorem ends_cons {c : Char} (hc : c.isUpper = false) (rest : List Char) : Ends (c :: rest) :=
  Text.eq_false_of_mem_head? hc rest

theorem ends_parameters (t : ColumnType) {rest : List Char} (hrest : Ends rest) :
    Ends (t.parameters ++ rest) := by
  cases t with
  | plain k => exact hrest
  | sized k n => exact ends_cons (by decide) _
  | decimal p s => exact ends_cons (by decide) _
  | array t => exact ends_cons (by decide) _
  | row fs => exact ends_cons (by decide) _

/-- The keywords of two spellings are the runs of capitals in front, so they are the same kind. -/
theorem kind_append_inj {t u : ColumnType} {rest rest' : List Char} (hrest : Ends rest)
    (hrest' : Ends rest') (h : t.chars ++ rest = u.chars ++ rest') :
    t.kind = u.kind ∧ t.parameters ++ rest = u.parameters ++ rest' := by
  rw [chars_eq, chars_eq, List.append_assoc, List.append_assoc] at h
  obtain ⟨hkeyword, hparameters⟩ := Text.run_append_inj t.kind.isUpper_keyword
    u.kind.isUpper_keyword (t.ends_parameters hrest) (u.ends_parameters hrest') h
  exact ⟨Kind.keyword_inj (String.toList_inj.mp hkeyword), hparameters⟩

/-! ## Fields -/

/-- The spelling of the type tells it from every other, whatever follows. -/
def Told (t : ColumnType) : Prop :=
  ∀ (u : ColumnType) (rest rest' : List Char), u.WellNamed → Ends rest → Ends rest' →
    t.chars ++ rest = u.chars ++ rest' → t = u ∧ rest = rest'

theorem Told.field {f g : Named ColumnType} (hf : f.type.Told) (hfname : Text.IsWord f.name)
    (hg : g.type.WellNamed) (hgname : Text.IsWord g.name) {rest rest' : List Char}
    (hrest : Ends rest) (hrest' : Ends rest')
    (h : fieldChars f ++ rest = fieldChars g ++ rest') : f = g ∧ rest = rest' := by
  obtain ⟨name, t⟩ := f
  obtain ⟨name', u⟩ := g
  simp only [fieldChars, List.append_assoc, List.cons_append] at h
  obtain ⟨rfl, htypes⟩ := hfname.cons_inj hgname h
  obtain ⟨rfl, hrests⟩ := hf u rest rest' hg hrest hrest' htypes
  exact ⟨rfl, hrests⟩

/-- The fields behind the first one, each with the comma in front of it. -/
def moreChars (fs : List (Named ColumnType)) : List Char :=
  fs.flatMap fun f => ',' :: ' ' :: fieldChars f

theorem fieldsChars_cons (f : Named ColumnType) (fs : List (Named ColumnType)) :
    fieldsChars (f :: fs) = fieldChars f ++ moreChars fs := by
  induction fs generalizing f with
  | nil => exact (List.append_nil _).symm
  | cons g fs ih =>
    rw [fieldsChars, ih]
    simp [moreChars]

theorem ends_moreChars (fs : List (Named ColumnType)) (rest : List Char) :
    Ends (moreChars fs ++ '>' :: rest) := by
  cases fs with
  | nil => exact ends_cons (by decide) rest
  | cons f fs => exact ends_cons (by decide) _

theorem more_append_inj {fs gs : List (Named ColumnType)}
    (hfs : ∀ f ∈ fs, f.type.Told) (hfnames : ∀ f ∈ fs, Text.IsWord f.name)
    (hgs : ∀ g ∈ gs, g.type.WellNamed) (hgnames : ∀ g ∈ gs, Text.IsWord g.name)
    {rest rest' : List Char} (h : moreChars fs ++ '>' :: rest = moreChars gs ++ '>' :: rest') :
    fs = gs ∧ rest = rest' := by
  induction fs generalizing gs with
  | nil =>
    cases gs with
    | nil => exact ⟨rfl, (List.cons.inj h).2⟩
    | cons g gs => exact absurd (List.cons.inj h).1 (by decide)
  | cons f fs ih =>
    cases gs with
    | nil => exact absurd (List.cons.inj h).1 (by decide)
    | cons g gs =>
      rw [List.forall_mem_cons] at hfs hfnames hgs hgnames
      have hfields : fieldChars f ++ (moreChars fs ++ '>' :: rest) =
          fieldChars g ++ (moreChars gs ++ '>' :: rest') := by
        simpa [moreChars] using h
      obtain ⟨rfl, hmore⟩ := hfs.1.field hfnames.1 hgs.1 hgnames.1 (ends_moreChars fs rest)
        (ends_moreChars gs rest') hfields
      obtain ⟨rfl, hrest⟩ := ih hfs.2 hfnames.2 hgs.2 hgnames.2 hmore
      exact ⟨rfl, hrest⟩

/-- A name starts with no bracket, so a list of fields that is not empty is not read as an empty
one. -/
theorem fieldChars_append_ne {f : Named ColumnType} (hname : Text.IsWord f.name)
    (rest rest' : List Char) : fieldChars f ++ rest ≠ '>' :: rest' := by
  obtain ⟨name, t⟩ := f
  obtain ⟨c, chars, hchars⟩ := List.exists_cons_of_ne_nil hname.toList_ne_nil
  have hc : Text.isWordChar c = true :=
    hname.isWordChar_toList c (by rw [hchars]; exact List.mem_cons_self)
  intro h
  simp only [fieldChars, hchars, List.cons_append, List.cons.injEq] at h
  rw [h.1] at hc
  exact absurd hc (by decide)

theorem fields_append_inj {fs gs : List (Named ColumnType)}
    (hfs : ∀ f ∈ fs, f.type.Told) (hfnames : ∀ f ∈ fs, Text.IsWord f.name)
    (hgs : ∀ g ∈ gs, g.type.WellNamed) (hgnames : ∀ g ∈ gs, Text.IsWord g.name)
    {rest rest' : List Char}
    (h : fieldsChars fs ++ '>' :: rest = fieldsChars gs ++ '>' :: rest') :
    fs = gs ∧ rest = rest' := by
  cases fs with
  | nil =>
    cases gs with
    | nil => exact ⟨rfl, (List.cons.inj h).2⟩
    | cons g gs =>
      rw [fieldsChars_cons, List.append_assoc] at h
      exact absurd h.symm (fieldChars_append_ne (hgnames g List.mem_cons_self) _ _)
  | cons f fs =>
    cases gs with
    | nil =>
      rw [fieldsChars_cons, List.append_assoc] at h
      exact absurd h (fieldChars_append_ne (hfnames f List.mem_cons_self) _ _)
    | cons g gs =>
      rw [fieldsChars_cons, fieldsChars_cons] at h
      refine more_append_inj hfs hfnames hgs hgnames ?_
      simpa [moreChars] using h

/-! ## Types -/

/-- Only types of one kind have to be told apart, by what follows the keyword. -/
theorem told_of_parameters {t : ColumnType}
    (ht : ∀ (u : ColumnType) (rest rest' : List Char), u.WellNamed → Ends rest → Ends rest' →
      t.kind = u.kind → t.parameters ++ rest = u.parameters ++ rest' → t = u ∧ rest = rest') :
    t.Told := by
  intro u rest rest' hu hrest hrest' h
  obtain ⟨hkind, hparameters⟩ := kind_append_inj hrest hrest' h
  exact ht u rest rest' hu hrest hrest' hkind hparameters

theorem told_plain (k : PlainType) : (plain k).Told := by
  refine told_of_parameters fun u rest rest' _ _ _ hkind h => ?_
  cases u with
  | plain l =>
    obtain rfl := Kind.plain.inj hkind
    exact ⟨rfl, h⟩
  | _ => contradiction

theorem told_sized (k : SizedType) (n : UInt64) : (sized k n).Told := by
  refine told_of_parameters fun u rest rest' _ _ _ hkind h => ?_
  cases u with
  | sized l m =>
    obtain rfl := Kind.sized.inj hkind
    simp only [parameters, List.cons_append, List.append_assoc, List.nil_append] at h
    obtain ⟨hlength, hrests⟩ := Text.toDigits_cons_inj (by decide) (List.cons.inj h).2
    exact ⟨by rw [UInt64.toNat_inj.mp hlength], hrests⟩
  | _ => contradiction

theorem told_decimal (p s : UInt32) : (decimal p s).Told := by
  refine told_of_parameters fun u rest rest' _ _ _ hkind h => ?_
  cases u with
  | decimal q r =>
    simp only [parameters, List.cons_append, List.append_assoc, List.nil_append] at h
    obtain ⟨hprecision, hscales⟩ := Text.toDigits_cons_inj (by decide) (List.cons.inj h).2
    obtain ⟨hscale, hrests⟩ := Text.toDigits_cons_inj (by decide) (List.cons.inj hscales).2
    exact ⟨by rw [UInt32.toNat_inj.mp hprecision, UInt32.toNat_inj.mp hscale], hrests⟩
  | _ => contradiction

theorem Told.array {t : ColumnType} (ht : t.Told) : (array t).Told := by
  refine told_of_parameters fun u rest rest' hu _ _ hkind h => ?_
  cases hu with
  | array hu =>
    simp only [parameters, List.cons_append, List.append_assoc, List.nil_append] at h
    obtain ⟨rfl, hclosed⟩ := ht _ _ _ hu (ends_cons (by decide) rest)
      (ends_cons (by decide) rest') (List.cons.inj h).2
    exact ⟨rfl, (List.cons.inj hclosed).2⟩
  | _ => contradiction

theorem told_row {fs : List (Named ColumnType)} (hfs : ∀ f ∈ fs, f.type.Told)
    (hnames : ∀ f ∈ fs, Text.IsWord f.name) : (row fs).Told := by
  refine told_of_parameters fun u rest rest' hu _ _ hkind h => ?_
  cases hu with
  | row hgnames hgs =>
    simp only [parameters, List.cons_append, List.append_assoc, List.nil_append] at h
    obtain ⟨rfl, hrests⟩ := fields_append_inj hfs hnames hgs hgnames (List.cons.inj h).2
    exact ⟨rfl, hrests⟩
  | _ => contradiction

theorem WellNamed.told {t : ColumnType} (ht : t.WellNamed) : t.Told := by
  induction ht with
  | plain k => exact told_plain k
  | sized k n => exact told_sized k n
  | decimal p s => exact told_decimal p s
  | array _ ih => exact ih.array
  | row hnames _ ih => exact told_row ih hnames

theorem WellNamed.eq_of_text_eq {t u : ColumnType} (ht : t.WellNamed) (hu : u.WellNamed)
    (h : t.text = u.text) : t = u := by
  have hchars : t.chars ++ [] = u.chars ++ [] := congrArg (· ++ []) (String.ofList_injective h)
  exact (ht.told u [] [] hu ends_nil ends_nil hchars).1

/-- Every spelling starts with a capital. -/
theorem text_ne_undeclared (t : ColumnType) : t.text ≠ "undeclared" := by
  intro h
  have hkeyword : ∀ k ∈ Kind.all, k.keyword.toList ≠ [] := by decide
  have hcapital : Ends "undeclared".toList := ends_cons (by decide) _
  have hchars : t.chars = [] ++ "undeclared".toList := by
    rw [← h, text, String.toList_ofList, List.nil_append]
  rw [chars_eq, ← List.append_nil t.parameters] at hchars
  have hnil := Text.run_append_inj t.kind.isUpper_keyword (List.forall_mem_nil _)
    (t.ends_parameters ends_nil) hcapital hchars
  exact hkeyword t.kind t.kind.mem_all hnil.1

theorem notDecimal_message?_inj {declared other : Option ColumnType} :
    (CursorError.notDecimal declared).message? = (CursorError.notDecimal other).message? ↔
      (declared.map text).getD "undeclared" = (other.map text).getD "undeclared" := by
  rw [CursorError.message?_notDecimal, CursorError.message?_notDecimal, Option.some.injEq]
  constructor
  · exact fun h => String.append_right_inj _ |>.mp h
  · exact fun h => congrArg _ h

/-- Of types with words for the names of their fields no two have one spelling. So the message for a
column that is not declared as a decimal says which type it is declared as, or that it is not
declared at all. -/
theorem told_by_spelling {t u : ColumnType} (ht : t.WellNamed) (hu : u.WellNamed) :
    (t.text = u.text ↔ t = u) ∧
      ((CursorError.notDecimal (some t)).message? = (CursorError.notDecimal (some u)).message? ↔
        t = u) ∧
      (CursorError.notDecimal (some t)).message? ≠ (CursorError.notDecimal none).message? := by
  have hspelling : t.text = u.text ↔ t = u := ⟨ht.eq_of_text_eq hu, congrArg text⟩
  refine ⟨hspelling, notDecimal_message?_inj.trans hspelling, ?_⟩
  rw [ne_eq, notDecimal_message?_inj]
  exact t.text_ne_undeclared

/-- A comma within a type, a comma between fields, and a keyword that starts another. -/
theorem told_by_spelling_with_commas :
    let t := row [⟨"a_1", decimal 5 2⟩, ⟨"b", array (plain .time)⟩]
    let u := row [⟨"a_1", decimal 5 2⟩, ⟨"b", array (plain .timestamp)⟩]
    t.WellNamed ∧ u.WellNamed ∧ t.text ≠ u.text := by
  intro t u
  have hnamed : ∀ k, (row [⟨"a_1", decimal 5 2⟩, ⟨"b", array (plain k)⟩]).WellNamed := by
    intro k
    have hfirst : Text.IsWord "a_1" := ⟨by decide, List.all_eq_true.mp rfl⟩
    have hsecond : Text.IsWord "b" := ⟨by decide, List.all_eq_true.mp rfl⟩
    refine .row ?_ ?_
    · rw [List.forall_mem_cons, List.forall_mem_singleton]
      exact ⟨hfirst, hsecond⟩
    · rw [List.forall_mem_cons, List.forall_mem_singleton]
      exact ⟨.decimal 5 2, .array (.plain k)⟩
  have hne : t ≠ u := by decide
  exact ⟨hnamed _, hnamed _, (told_by_spelling (hnamed _) (hnamed _)).1.not.mpr hne⟩

/-- A name with a comma in it can stand for the end of one field and the start of the next. -/
example : text (row [⟨"a", plain .date⟩, ⟨"b", plain .time⟩]) =
    text (row [⟨"a DATE, b", plain .time⟩]) := by decide

end ColumnType
end Resultset
