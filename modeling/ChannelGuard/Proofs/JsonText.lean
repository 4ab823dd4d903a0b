import ChannelGuard.Json.Outline
import ChannelGuard.Proofs.Splitting

/-!
# The grammar of JSON text

Which texts spell which outline, said without a reader: blanks around values and names, numerals and
strings in all their notations. The reader finds the outline of every text of the grammar, whatever
comes after it.
-/

namespace ChannelGuard.Json

open Number (digitsValue)

/-- A row of blanks. -/
def Blank (text : List Char) : Prop := ∀ c ∈ text, c ∈ [' ', '\t', '\n', '\r']

/-! Numerals -/

/-- A row of at least one decimal digit. -/
def DigitsText (text : List Char) : Prop := text ≠ [] ∧ ∀ c ∈ text, c.isDigit = true

inductive FractionText : List Char → Option (List Char) → Prop where
  | absent : FractionText [] none
  | present {digits : List Char} (written : DigitsText digits) :
      FractionText ('.' :: digits) (some digits)

inductive ExponentText : List Char → Option Int → Prop where
  | absent : ExponentText [] none
  | unsigned {mark : Char} {digits : List Char} (marked : mark ∈ ['e', 'E'])
      (written : DigitsText digits) : ExponentText (mark :: digits) (some (digitsValue digits))
  | plus {mark : Char} {digits : List Char} (marked : mark ∈ ['e', 'E'])
      (written : DigitsText digits) :
      ExponentText (mark :: '+' :: digits) (some (digitsValue digits))
  | minus {mark : Char} {digits : List Char} (marked : mark ∈ ['e', 'E'])
      (written : DigitsText digits) :
      ExponentText (mark :: '-' :: digits) (some (-(digitsValue digits)))

/-- A numeral; a zero in front stands alone. -/
inductive NumeralText : List Char → Numeral → Prop where
  | mk {whole text text' : List Char} {fraction : Option (List Char)} {exponent : Option Int}
      (negative : Bool) (written : DigitsText whole)
      (plain : whole.head? = some '0' → whole = ['0']) (fractional : FractionText text fraction)
      (scaled : ExponentText text' exponent) :
      NumeralText ((if negative then ['-'] else []) ++ (whole ++ (text ++ text')))
        ⟨negative, whole, fraction, exponent⟩

/-! Strings -/

/-- What one notation inside a string stands for: a character, or half a pair of escapes. -/
inductive StringPart where
  | char (c : Char)
  | unit (code : Nat)

/-- The inside of a string, part by part. -/
inductive StringText : List Char → List StringPart → Prop where
  | nil : StringText [] []
  | plain {c : Char} {text : List Char} {parts : List StringPart} (printable : 0x20 ≤ c.toNat)
      (free : c ≠ '"' ∧ c ≠ '\\') (rest : StringText text parts) :
      StringText (c :: text) (.char c :: parts)
  | escape {letter c : Char} {text : List Char} {parts : List StringPart}
      (known : shortEscape? letter = some c) (rest : StringText text parts) :
      StringText ('\\' :: letter :: text) (.char c :: parts)
  | unit {a b c d : Char} {code : Nat} {text : List Char} {parts : List StringPart}
      (digits : hexValueOf? [a, b, c, d] = some code) (rest : StringText text parts) :
      StringText ('\\' :: 'u' :: a :: b :: c :: d :: text) (.unit code :: parts)

/-- The characters of a string, in which a high surrogate and the low one right after it are one
character; none when a surrogate is left alone. -/
def charsOf : List StringPart → Option (List Char)
  | [] => some []
  | .char c :: rest => (charsOf rest).map (c :: ·)
  | .unit code :: rest =>
    if isHighSurrogate code then
      match rest with
      | .unit low :: rest =>
        if isLowSurrogate low then
          (charsOf rest).map
            (Char.ofNat (0x10000 + (code - 0xD800) * 0x400 + (low - 0xDC00)) :: ·)
        else none
      | _ => none
    else if isLowSurrogate code then none
    else (charsOf rest).map (Char.ofNat code :: ·)

/-! Values -/

/-- The name of a member, with blanks around it. -/
inductive NameText : List Char → Option String → Prop where
  | mk {before text after : List Char} {parts : List StringPart} (blank : Blank before)
      (written : StringText text parts) (blank' : Blank after) :
      NameText (before ++ '"' :: (text ++ '"' :: after)) ((charsOf parts).map String.ofList)

mutual

inductive ValueText : List Char → Outline → Prop where
  | null : ValueText ['n', 'u', 'l', 'l'] .null
  | true : ValueText ['t', 'r', 'u', 'e'] (.bool true)
  | false : ValueText ['f', 'a', 'l', 's', 'e'] (.bool false)
  | number {text : List Char} {n : Numeral} (written : NumeralText text n) :
      ValueText text (.number n.value?)
  | string {text : List Char} {parts : List StringPart} (written : StringText text parts) :
      ValueText ('"' :: (text ++ ['"'])) (.string ((charsOf parts).map String.ofList))
  | noItems {text : List Char} (blank : Blank text) :
      ValueText ('[' :: (text ++ [']'])) (.array [] true)
  | array {text : List Char} {items : List Outline} (inside : ItemsText text items) :
      ValueText ('[' :: (text ++ [']'])) (.array items true)
  | noMembers {text : List Char} (blank : Blank text) :
      ValueText ('\x7b' :: (text ++ ['\x7d'])) (.object [] true)
  | object {text : List Char} {members : List (Option String × Outline)}
      (inside : MembersText text members) :
      ValueText ('\x7b' :: (text ++ ['\x7d'])) (.object members true)

/-- A value with blanks around it. -/
inductive PaddedText : List Char → Outline → Prop where
  | mk {before text after : List Char} {outline : Outline} (blank : Blank before)
      (value : ValueText text outline) (blank' : Blank after) :
      PaddedText (before ++ (text ++ after)) outline

inductive ItemsText : List Char → List Outline → Prop where
  | last {text : List Char} {item : Outline} (value : PaddedText text item) :
      ItemsText text [item]
  | more {text text' : List Char} {item : Outline} {items : List Outline}
      (value : PaddedText text item) (others : ItemsText text' items) :
      ItemsText (text ++ ',' :: text') (item :: items)

inductive MembersText : List Char → List (Option String × Outline) → Prop where
  | last {text text' : List Char} {name : Option String} {item : Outline}
      (named : NameText text name) (value : PaddedText text' item) :
      MembersText (text ++ ':' :: text') [(name, item)]
  | more {text text' text'' : List Char} {name : Option String} {item : Outline}
      {members : List (Option String × Outline)} (named : NameText text name)
      (value : PaddedText text' item) (others : MembersText text'' members) :
      MembersText (text ++ ':' :: (text' ++ ',' :: text'')) ((name, item) :: members)

end

/-- What may come right after a value: the end, a blank, or punctuation. -/
def Ends (rest : List Char) : Prop :=
  ∀ c ∈ rest.head?, c ∈ [' ', '\t', '\n', '\r', ',', ']', '\x7d']

/-! Spellings without escapes and blanks -/

theorem stringText_plain {text : List Char}
    (plain : ∀ c ∈ text, 0x20 ≤ c.toNat ∧ c ≠ '"' ∧ c ≠ '\\') :
    StringText text (text.map .char) := by
  induction text with
  | nil => exact .nil
  | cons c text ih =>
    obtain ⟨⟨printable, free⟩, others⟩ := List.forall_mem_cons.mp plain
    exact .plain printable free (ih others)

theorem charsOf_map_char (text : List Char) : charsOf (text.map .char) = some text := by
  induction text with
  | nil => rfl
  | cons c text ih => simp [charsOf, ih]

theorem valueText_plain {s : String}
    (plain : ∀ c ∈ s.toList, 0x20 ≤ c.toNat ∧ c ≠ '"' ∧ c ≠ '\\') :
    ValueText ('"' :: (s.toList ++ ['"'])) (.string (some s)) := by
  simpa [charsOf_map_char] using ValueText.string (stringText_plain plain)

theorem nameText_plain {s : String}
    (plain : ∀ c ∈ s.toList, 0x20 ≤ c.toNat ∧ c ≠ '"' ∧ c ≠ '\\') :
    NameText ('"' :: (s.toList ++ ['"'])) (some s) := by
  have nothing : Blank [] := by simp [Blank]
  simpa [charsOf_map_char] using NameText.mk nothing (stringText_plain plain) nothing

theorem ValueText.padded {text : List Char} {outline : Outline} (value : ValueText text outline) :
    PaddedText text outline := by
  have nothing : Blank [] := by simp [Blank]
  simpa using PaddedText.mk nothing value nothing

/-! Reading leaves -/

private theorem ne_of_isDigit {c other : Char} (digit : c.isDigit = true)
    (noDigit : other.isDigit = false) : c ≠ other := by
  rintro rfl
  exact Bool.false_ne_true (noDigit.symm.trans digit)

theorem digits?_append {digits rest : List Char} (written : DigitsText digits)
    (stops : ∀ c ∈ rest.head?, c.isDigit = false) :
    digits? (digits ++ rest) = some (digits, rest) := by
  unfold digits?
  rw [takeWhile_run written.2 stops, dropWhile_run written.2 stops]
  cases digits with
  | nil => exact absurd rfl written.1
  | cons d digits => rfl

theorem FractionText.read {text rest : List Char} {fraction : Option (List Char)}
    (written : FractionText text fraction)
    (stops : ∀ c ∈ rest.head?, c.isDigit = false ∧ c ≠ '.') :
    fractionPart? (text ++ rest) = some (fraction, rest) := by
  cases written with
  | absent =>
    cases rest with
    | nil => rfl
    | cons c rest =>
      have noPoint : c ≠ '.' := (stops c rfl).2
      simp [fractionPart?, noPoint]
  | present written =>
    simp [fractionPart?, digits?_append written fun c hc => (stops c hc).1]

theorem ExponentText.read {text rest : List Char} {exponent : Option Int}
    (written : ExponentText text exponent)
    (stops : ∀ c ∈ rest.head?, c.isDigit = false ∧ c ∉ ['e', 'E']) :
    exponentPart? (text ++ rest) = some (exponent, rest) := by
  have stops' : ∀ c ∈ rest.head?, c.isDigit = false := fun c hc => (stops c hc).1
  cases written with
  | absent =>
    cases rest with
    | nil => rfl
    | cons c rest =>
      have noMark := (stops c rfl).2
      simp_all [exponentPart?]
  | @unsigned mark digits marked written =>
    have marked' : mark = 'e' ∨ mark = 'E' := by simpa using marked
    obtain ⟨nonempty, inside⟩ := written
    cases digits with
    | nil => exact absurd rfl nonempty
    | cons d digits =>
      have digit : d.isDigit = true := inside d List.mem_cons_self
      have noMinus : d ≠ '-' := ne_of_isDigit digit rfl
      have noPlus : d ≠ '+' := ne_of_isDigit digit rfl
      have read := digits?_append ⟨nonempty, inside⟩ stops'
      rw [List.cons_append] at read
      simp [exponentPart?, marked', noMinus, noPlus, read]
  | plus marked written =>
    have marked' := by simpa using marked
    simp [exponentPart?, marked', digits?_append written stops']
  | minus marked written =>
    have marked' := by simpa using marked
    simp [exponentPart?, marked', digits?_append written stops']

theorem ends_cons {c : Char} {rest : List Char}
    (closing : c ∈ [' ', '\t', '\n', '\r', ',', ']', '\x7d']) : Ends (c :: rest) := by
  rintro c' ⟨⟩
  exact closing

theorem Ends.head {rest : List Char} (ends : Ends rest) :
    ∀ c ∈ rest.head?, c.isDigit = false ∧ c ≠ '.' ∧ c ∉ ['e', 'E'] := by
  intro c hc
  have closing := ends c hc
  simp only [List.mem_cons, List.not_mem_nil, or_false] at closing
  rcases closing with rfl | rfl | rfl | rfl | rfl | rfl | rfl <;> decide

theorem ExponentText.head {text rest : List Char} {exponent : Option Int}
    (written : ExponentText text exponent) (ends : Ends rest) :
    ∀ c ∈ (text ++ rest).head?, c.isDigit = false ∧ c ≠ '.' := by
  intro c hc
  cases written with
  | absent => exact ⟨(ends.head c hc).1, (ends.head c hc).2.1⟩
  | unsigned marked _ | plus marked _ | minus marked _ =>
    obtain rfl : _ = c := by simpa using hc
    simp only [List.mem_cons, List.not_mem_nil, or_false] at marked
    rcases marked with rfl | rfl <;> decide

theorem NumeralText.read {text rest : List Char} {n : Numeral} (written : NumeralText text n)
    (ends : Ends rest) : Numeral.read? (text ++ rest) = some (n, rest) := by
  cases written with
  | @mk whole text text' fraction exponent negative written plain fractional scaled =>
    have fractional_read := fractional.read (scaled.head ends)
    have scaled_read := scaled.read fun c hc => ⟨(ends.head c hc).1, (ends.head c hc).2.2⟩
    have whole_read : digits? (whole ++ (text ++ (text' ++ rest))) =
        some (whole, text ++ (text' ++ rest)) := by
      apply digits?_append written
      intro c hc
      cases fractional with
      | absent => exact (scaled.head ends c hc).1
      | present _ =>
        obtain rfl : '.' = c := by simpa using hc
        decide
    have noZero : (whole.head? = some '0' && 1 < whole.length) = false := by
      by_cases zero : whole.head? = some '0'
      · simp [plain zero]
      · simp [zero]
    obtain ⟨d, digits, rfl⟩ := List.exists_cons_of_ne_nil written.1
    cases negative with
    | true => simp_all [Numeral.read?]
    | false =>
      have noMinus : d ≠ '-' := ne_of_isDigit (written.2 d List.mem_cons_self) rfl
      simp_all [Numeral.read?]

theorem shortEscape?_ne {letter c : Char} (known : shortEscape? letter = some c) :
    letter ≠ 'u' := by
  rintro rfl
  simp [shortEscape?] at known

/-- A unit that is no first half of a pair. -/
private theorem charsOf_unit {code : Nat} {parts : List StringPart}
    (alone : isHighSurrogate code = true → ∀ low others, parts ≠ .unit low :: others) :
    charsOf (.unit code :: parts) =
      if isHighSurrogate code || isLowSurrogate code then none
      else (charsOf parts).map (Char.ofNat code :: ·) := by
  by_cases high : isHighSurrogate code = true
  · match parts, alone high with
    | [], _ | .char _ :: _, _ => simp [charsOf, high]
    | .unit low :: others, alone => exact absurd rfl (alone low others)
  · rw [charsOf.eq_def]
    simp [high]

private theorem stringBody?_unit {a b c d : Char} {code : Nat} {rest : List Char}
    (digits : hexValueOf? [a, b, c, d] = some code)
    (alone : isHighSurrogate code = true → ∀ tail, rest ≠ '\\' :: 'u' :: tail) :
    stringBody? ('\\' :: 'u' :: a :: b :: c :: d :: rest) =
      (stringBody? rest).map fun (body, rest) =>
        (if isHighSurrogate code || isLowSurrogate code then none
          else body.map (Char.ofNat code :: ·), rest) := by
  by_cases high : isHighSurrogate code = true
  · simp only [stringBody?, digits, high, if_true, Bool.true_or]
    split
    · exact absurd rfl (alone high _)
    · rfl
  · simp [stringBody?, digits, high]

theorem StringText.ne_unit {text rest : List Char} {parts : List StringPart}
    (written : StringText text parts) (alone : ∀ code others, parts ≠ .unit code :: others)
    (tail : List Char) : text ++ '"' :: rest ≠ '\\' :: 'u' :: tail := by
  cases written with
  | nil => simp
  | plain printable free inner => simp [free]
  | escape known inner => simp [shortEscape?_ne known]
  | unit digits inner => exact absurd rfl (alone _ _)

theorem StringText.read {rest : List Char} : ∀ {text : List Char} {parts : List StringPart}
    (_ : StringText text parts), stringBody? (text ++ '"' :: rest) = some (charsOf parts, rest)
  | _, _, .nil => rfl
  | _, _, .plain printable free inner => by
    have low := Nat.not_lt.mpr printable
    simp [stringBody?, free, low, inner.read, charsOf]
  | _, _, .escape known inner => by
    simp [stringBody?, shortEscape?_ne known, known, inner.read, charsOf]
  | _, _, @StringText.unit _ _ _ _ code text parts digits inner => by
    by_cases paired : isHighSurrogate code = true ∧ ∃ low others, parts = .unit low :: others
    · obtain ⟨high, low, others, rfl⟩ := paired
      cases inner with
      | unit digits' inner => simp [stringBody?, digits, digits', high, inner.read, charsOf]
    · have alone (high : isHighSurrogate code = true) low others : parts ≠ .unit low :: others :=
        fun same => paired ⟨high, low, others, same⟩
      have alone' (high : isHighSurrogate code = true) tail :
          text ++ '"' :: rest ≠ '\\' :: 'u' :: tail := inner.ne_unit (alone high) tail
      rw [charsOf_unit alone, List.cons_append, List.cons_append, List.cons_append,
        List.cons_append, List.cons_append, List.cons_append, stringBody?_unit digits alone',
        inner.read]
      rfl
/-! Reading values -/

theorem isSpace_eq_false {c : Char} (other : c ∉ [' ', '\t', '\n', '\r']) : isSpace c = false := by
  simp_all [isSpace]

theorem skipSpace_blank {before rest : List Char} (blank : Blank before)
    (stops : ∀ c ∈ rest.head?, c ∉ [' ', '\t', '\n', '\r']) :
    skipSpace (before ++ rest) = rest := by
  apply dropWhile_run
  · intro c hc
    simpa [isSpace, or_assoc] using blank c hc
  · exact fun c hc => isSpace_eq_false (stops c hc)

@[simp] theorem skipSpace_skipSpace (text : List Char) :
    skipSpace (skipSpace text) = skipSpace text :=
  List.dropWhile_eq_self_iff.mpr fun nonempty => List.dropWhile_get_zero_not isSpace text nonempty

theorem Blank.ends {text rest : List Char} (blank : Blank text) (ends : Ends rest) :
    Ends (text ++ rest) := by
  cases text with
  | nil => exact ends
  | cons c text =>
    intro c' hc
    obtain rfl : c = c' := by simpa using hc
    rcases (by simpa using blank c List.mem_cons_self) with rfl | rfl | rfl | rfl <;> simp

/-- A numeral begins with a digit or a minus sign. -/
theorem NumeralText.head {text : List Char} {n : Numeral} (written : NumeralText text n) :
    ∃ c tail, text = c :: tail ∧ ∀ other, other.isDigit = false → other ≠ '-' → c ≠ other := by
  cases written with
  | mk negative written plain fractional scaled =>
    obtain ⟨d, digits, rfl⟩ := List.exists_cons_of_ne_nil written.1
    cases negative with
    | true => exact ⟨'-', _, rfl, fun other _ noMinus => Ne.symm noMinus⟩
    | false =>
      have digit : d.isDigit = true := written.2 d List.mem_cons_self
      exact ⟨d, _, rfl, fun other noDigit _ => ne_of_isDigit digit noDigit⟩

/-- A value begins neither with a blank nor with what closes an array or object. -/
theorem ValueText.head {text : List Char} {outline : Outline} (value : ValueText text outline) :
    ∃ c tail, text = c :: tail ∧ c ∉ [' ', '\t', '\n', '\r', ']', '\x7d'] := by
  cases value with
  | number written =>
    obtain ⟨c, tail, rfl, first⟩ := written.head
    have others : ∀ other ∈ [' ', '\t', '\n', '\r', ']', '\x7d'],
        other.isDigit = Bool.false ∧ other ≠ '-' := by simp
    exact ⟨c, tail, rfl, fun listed => first c (others c listed).1 (others c listed).2 rfl⟩
  | _ => exact ⟨_, _, rfl, by simp⟩

namespace Outline

theorem readLeaf_number {text rest : List Char} {n : Numeral} (written : NumeralText text n)
    (ends : Ends rest) : readLeaf (text ++ rest) = (.number n.value?, some rest) := by
  have number_read := written.read ends
  obtain ⟨c, tail, rfl, first⟩ := written.head
  have others : c ≠ 'n' ∧ c ≠ 't' ∧ c ≠ 'f' ∧ c ≠ '"' :=
    ⟨first _ rfl (by simp), first _ rfl (by simp), first _ rfl (by simp), first _ rfl (by simp)⟩
  rw [List.cons_append] at number_read ⊢
  simp [readLeaf, others, number_read]

theorem read_leaf {text tail : List Char} {c : Char} (skipped : skipSpace text = c :: tail)
    (leaf : c ≠ '[' ∧ c ≠ '\x7b') (steps : Nat) : read (steps + 1) text = readLeaf (c :: tail) := by
  simp [read, skipped, leaf]

@[simp] theorem read_skipSpace (steps : Nat) (text : List Char) :
    read steps (skipSpace text) = read steps text := by
  cases steps <;> simp [read]

@[simp] theorem readItems_skipSpace (steps : Nat) (text : List Char) :
    readItems steps (skipSpace text) = readItems steps text := by
  cases steps <;> simp [readItems]

@[simp] theorem readMembers_skipSpace (steps : Nat) (text : List Char) :
    readMembers steps (skipSpace text) = readMembers steps text := by
  cases steps <;> simp [readMembers]

theorem read_noItems {text inner rest : List Char} (skipped : skipSpace text = '[' :: inner)
    (closed : skipSpace inner = ']' :: rest) (steps : Nat) :
    read (steps + 1) text = (.array [] true, some rest) := by
  simp [read, skipped, closed]

theorem read_noMembers {text inner rest : List Char} (skipped : skipSpace text = '\x7b' :: inner)
    (closed : skipSpace inner = '\x7d' :: rest) (steps : Nat) :
    read (steps + 1) text = (.object [] true, some rest) := by
  simp [read, skipped, closed]

theorem read_array {text inner tail : List Char} {c : Char}
    (skipped : skipSpace text = '[' :: inner) (skipped' : skipSpace inner = c :: tail)
    (nonempty : c ≠ ']') (steps : Nat) :
    read (steps + 1) text =
      (.array (readItems steps inner).1 (readItems steps inner).2.isSome,
        (readItems steps inner).2) := by
  rw [← readItems_skipSpace, skipped']
  simp [read, skipped, skipped', nonempty]

theorem read_object {text inner tail : List Char} {c : Char}
    (skipped : skipSpace text = '\x7b' :: inner) (skipped' : skipSpace inner = c :: tail)
    (nonempty : c ≠ '\x7d') (steps : Nat) :
    read (steps + 1) text =
      (.object (readMembers steps inner).1 (readMembers steps inner).2.isSome,
        (readMembers steps inner).2) := by
  rw [← readMembers_skipSpace, skipped']
  simp [read, skipped, skipped', nonempty]

end Outline

theorem ValueText.skip {before text : List Char} {outline : Outline}
    (value : ValueText text outline) (blank : Blank before) (rest : List Char) :
    skipSpace (before ++ (text ++ rest)) = text ++ rest := by
  obtain ⟨c, tail, rfl, other⟩ := value.head
  apply skipSpace_blank blank
  simp_all

theorem PaddedText.skip {text : List Char} {outline : Outline} (padded : PaddedText text outline)
    (rest : List Char) : ∃ c tail, skipSpace (text ++ rest) = c :: tail ∧ c ≠ ']' := by
  cases padded with
  | @mk before text after _ blank value blank' =>
    have skipped := value.skip blank (after ++ rest)
    obtain ⟨c, tail, rfl, other⟩ := value.head
    refine ⟨c, tail ++ (after ++ rest), ?_, by rintro rfl; simp at other⟩
    rw [List.append_assoc, List.append_assoc, skipped, List.cons_append]

theorem ItemsText.skip {text : List Char} {items : List Outline} (inside : ItemsText text items)
    (rest : List Char) : ∃ c tail, skipSpace (text ++ rest) = c :: tail ∧ c ≠ ']' := by
  cases inside with
  | last value => exact value.skip rest
  | more value others =>
    rw [List.append_assoc]
    exact value.skip _

theorem NameText.read {text : List Char} {name : Option String} (named : NameText text name)
    (rest : List Char) :
    ∃ inner body after, skipSpace (text ++ ':' :: rest) = '"' :: inner ∧
      stringBody? inner = some (body, after) ∧ body.map String.ofList = name ∧
      skipSpace after = ':' :: rest := by
  cases named with
  | @mk before text after parts blank written blank' =>
    refine ⟨text ++ '"' :: (after ++ ':' :: rest), charsOf parts, after ++ ':' :: rest, ?_,
      written.read, rfl, skipSpace_blank blank' (by simp)⟩
    rw [List.append_assoc, List.cons_append, List.append_assoc, List.cons_append]
    exact skipSpace_blank blank (by simp)

theorem MembersText.skip {text : List Char} {members : List (Option String × Outline)}
    (inside : MembersText text members) (rest : List Char) :
    ∃ tail, skipSpace (text ++ rest) = '"' :: tail := by
  cases inside with
  | last named value | more named value others =>
    obtain ⟨inner, -, -, skipped, -⟩ := named.read (_ ++ rest)
    rw [List.append_assoc, List.cons_append]
    exact ⟨inner, skipped⟩

mutual

/-- The reader finds the value of a text, with any blanks in front of it and any end behind it, in
as many steps as the text has characters. -/
theorem ValueText.read {before rest : List Char} {steps : Nat} (blank : Blank before)
    (ends : Ends rest) : ∀ {text : List Char} {outline : Outline}, ValueText text outline →
      text.length ≤ steps + 1 →
        Outline.read (steps + 1) (before ++ (text ++ rest)) = (outline, some rest)
  | _, _, .null, _ => Outline.read_leaf (skipSpace_blank blank (by simp)) (by simp) steps
  | _, _, .true, _ => Outline.read_leaf (skipSpace_blank blank (by simp)) (by simp) steps
  | _, _, .false, _ => Outline.read_leaf (skipSpace_blank blank (by simp)) (by simp) steps
  | _, _, .number written, _ => by
    have skipped := (ValueText.number written).skip blank rest
    rw [← Outline.readLeaf_number written ends]
    obtain ⟨c, tail, rfl, first⟩ := written.head
    exact Outline.read_leaf skipped ⟨first _ rfl (by simp), first _ rfl (by simp)⟩ steps
  | _, _, .string written, _ => by
    rw [Outline.read_leaf ((ValueText.string written).skip blank rest) (by simp)]
    simp [Outline.readLeaf, written.read]
  | _, _, .noItems blank', _ => by
    rw [List.cons_append, List.append_assoc, List.singleton_append]
    exact Outline.read_noItems (skipSpace_blank blank (by simp))
      (skipSpace_blank blank' (by simp)) steps
  | _, _, @ValueText.array text items inside, enough => by
    obtain ⟨c, tail, skipped, nonempty⟩ := inside.skip (']' :: rest)
    have items_read : Outline.readItems steps (text ++ ']' :: rest) = (items, some rest) := by
      apply ItemsText.read inside
      simp only [List.length_cons, List.length_append, List.length_nil] at enough
      omega
    rw [List.cons_append, List.append_assoc, List.singleton_append,
      Outline.read_array (skipSpace_blank blank (by simp)) skipped nonempty, items_read]
    rfl
  | _, _, .noMembers blank', _ => by
    rw [List.cons_append, List.append_assoc, List.singleton_append]
    exact Outline.read_noMembers (skipSpace_blank blank (by simp))
      (skipSpace_blank blank' (by simp)) steps
  | _, _, @ValueText.object text members inside, enough => by
    obtain ⟨tail, skipped⟩ := inside.skip ('\x7d' :: rest)
    have members_read : Outline.readMembers steps (text ++ '\x7d' :: rest) =
        (members, some rest) := by
      apply MembersText.read inside
      simp only [List.length_cons, List.length_append, List.length_nil] at enough
      omega
    rw [List.cons_append, List.append_assoc, List.singleton_append,
      Outline.read_object (skipSpace_blank blank (by simp)) skipped (by simp), members_read]
    rfl

theorem PaddedText.read {rest : List Char} {steps : Nat} (ends : Ends rest) :
    ∀ {text : List Char} {outline : Outline}, PaddedText text outline → text.length ≤ steps →
      ∃ after, Blank after ∧
        Outline.read steps (text ++ rest) = (outline, some (after ++ rest))
  | _, outline, @PaddedText.mk before text after _ blank value blank', enough => by
    simp only [List.length_append] at enough
    obtain ⟨steps, rfl⟩ : ∃ steps', steps = steps' + 1 := by
      obtain ⟨c, tail, rfl, -⟩ := value.head
      rw [List.length_cons] at enough
      exact ⟨steps - 1, by omega⟩
    refine ⟨after, blank', ?_⟩
    rw [List.append_assoc, List.append_assoc]
    exact ValueText.read blank (blank'.ends ends) value (by omega)

theorem ItemsText.read {rest : List Char} {steps : Nat} :
    ∀ {text : List Char} {items : List Outline}, ItemsText text items → text.length < steps →
      Outline.readItems steps (text ++ ']' :: rest) = (items, some rest)
  | _, _, .last value, enough => by
    obtain ⟨steps, rfl⟩ : ∃ steps', steps = steps' + 1 := ⟨steps - 1, by omega⟩
    have ends : Ends (']' :: rest) := ends_cons (by simp)
    obtain ⟨after, blank, item_read⟩ := PaddedText.read ends value (Nat.le_of_lt_succ enough)
    have closed : skipSpace (after ++ ']' :: rest) = ']' :: rest := skipSpace_blank blank (by simp)
    simp [Outline.readItems, item_read, closed]
  | _, _, @ItemsText.more text text' item items value others, enough => by
    simp only [List.length_append, List.length_cons] at enough
    obtain ⟨steps, rfl⟩ : ∃ steps', steps = steps' + 1 := ⟨steps - 1, by omega⟩
    have ends : Ends (',' :: (text' ++ ']' :: rest)) := ends_cons (by simp)
    obtain ⟨after, blank, item_read⟩ := PaddedText.read ends value (by omega : _ ≤ steps)
    have separated : skipSpace (after ++ ',' :: (text' ++ ']' :: rest)) =
        ',' :: (text' ++ ']' :: rest) := skipSpace_blank blank (by simp)
    have others_read : Outline.readItems steps (text' ++ ']' :: rest) = (items, some rest) :=
      ItemsText.read others (by omega)
    simp [Outline.readItems, item_read, separated, others_read]

theorem MembersText.read {rest : List Char} {steps : Nat} :
    ∀ {text : List Char} {members : List (Option String × Outline)}, MembersText text members →
      text.length < steps →
        Outline.readMembers steps (text ++ '\x7d' :: rest) = (members, some rest)
  | _, _, @MembersText.last text text' name item named value, enough => by
    simp only [List.length_append, List.length_cons] at enough
    obtain ⟨steps, rfl⟩ : ∃ steps', steps = steps' + 1 := ⟨steps - 1, by omega⟩
    have ends : Ends ('\x7d' :: rest) := ends_cons (by simp)
    obtain ⟨inner, body, _, skipped, body_read, rfl, colon⟩ := named.read (text' ++ '\x7d' :: rest)
    obtain ⟨after, blank, item_read⟩ := PaddedText.read ends value (by omega : _ ≤ steps)
    have closed : skipSpace (after ++ '\x7d' :: rest) = '\x7d' :: rest :=
      skipSpace_blank blank (by simp)
    simp [Outline.readMembers, skipped, body_read, colon, item_read, closed]
  | _, _, @MembersText.more text text' text'' name item members named value others, enough => by
    simp only [List.length_append, List.length_cons] at enough
    obtain ⟨steps, rfl⟩ : ∃ steps', steps = steps' + 1 := ⟨steps - 1, by omega⟩
    have ends : Ends (',' :: (text'' ++ '\x7d' :: rest)) := ends_cons (by simp)
    obtain ⟨inner, body, _, skipped, body_read, rfl, colon⟩ :=
      named.read (text' ++ ',' :: (text'' ++ '\x7d' :: rest))
    obtain ⟨after, blank, item_read⟩ := PaddedText.read ends value (by omega : _ ≤ steps)
    have separated : skipSpace (after ++ ',' :: (text'' ++ '\x7d' :: rest)) =
        ',' :: (text'' ++ '\x7d' :: rest) := skipSpace_blank blank (by simp)
    have others_read : Outline.readMembers steps (text'' ++ '\x7d' :: rest) =
        (members, some rest) := MembersText.read others (by omega)
    simp [Outline.readMembers, skipped, body_read, colon, item_read, separated, others_read]

end

theorem Outline.ofText_eq {body : String} {outline : Outline}
    (written : PaddedText body.toList outline) : Outline.ofText body = (outline, true) := by
  obtain ⟨after, blank, whole_read⟩ :=
    PaddedText.read (by simp [Ends] : Ends []) written (Nat.le_succ body.toList.length)
  have ended : skipSpace (after ++ []) = [] := skipSpace_blank blank (by simp)
  simp only [List.append_nil] at whole_read ended
  simp [Outline.ofText, whole_read, ended]

mutual

theorem ValueText.isWhole : ∀ {text : List Char} {outline : Outline}, ValueText text outline →
    outline.isWhole = true
  | _, _, .null | _, _, .true | _, _, .false | _, _, .number _ | _, _, .string _
  | _, _, .noItems _ | _, _, .noMembers _ => rfl
  | _, _, .array inside => by simp [Outline.isWhole, inside.areWhole]
  | _, _, .object inside => by simp [Outline.isWhole, inside.haveWholeValues]

theorem PaddedText.isWhole : ∀ {text : List Char} {outline : Outline}, PaddedText text outline →
    outline.isWhole = true
  | _, _, .mk _ value _ => value.isWhole

theorem ItemsText.areWhole : ∀ {text : List Char} {items : List Outline}, ItemsText text items →
    Outline.areWhole items = true
  | _, _, .last value => by simp [Outline.areWhole, value.isWhole]
  | _, _, .more value others => by simp [Outline.areWhole, value.isWhole, others.areWhole]

theorem MembersText.haveWholeValues : ∀ {text : List Char}
    {members : List (Option String × Outline)}, MembersText text members →
    Outline.haveWholeValues members = true
  | _, _, .last _ value => by simp [Outline.haveWholeValues, value.isWhole]
  | _, _, .more _ value others => by
    simp [Outline.haveWholeValues, value.isWhole, others.haveWholeValues]

end

end ChannelGuard.Json
