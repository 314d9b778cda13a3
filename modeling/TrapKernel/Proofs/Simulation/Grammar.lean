import Mathlib.Algebra.Group.Nat.Defs
import Mathlib.Data.List.TakeWhile
import TrapKernel.Simulation.Step

/-!
# The grammar of steps

Which texts describe a step, said without the reader: a word, or a word with a colon and what
follows it. `Step.parse` accepts these texts and no others, and every step is read back from the
text that describes it. Numbers are decimal, may have a plus sign and leading zeros, and may stand
between white space.
-/

namespace TrapKernel

namespace Text

/-! ### Numerals -/

/-- The text is a decimal numeral of `n`: digits, which a plus sign may precede. -/
inductive Numeral : List Char → Nat → Prop where
  | digits {cs : List Char} (some : cs ≠ []) (digits : ∀ c ∈ cs, c.isDigit) :
      Numeral cs (Nat.ofDigitChars 10 cs 0)
  | plus {cs : List Char} (some : cs ≠ []) (digits : ∀ c ∈ cs, c.isDigit) :
      Numeral ('+' :: cs) (Nat.ofDigitChars 10 cs 0)

variable {cs body : List Char} {n bound : Nat}

theorem digitOf?_ten_of_isDigit {c : Char} (digit : c.isDigit) :
    digitOf? 10 c = some (c.toNat - '0'.toNat) := by
  have bounds := Char.isDigit_iff_toNat.mp digit
  have low : c.toNat - '0'.toNat < 10 := by
    have zero : '0'.toNat = 48 := rfl
    have nine : '9'.toNat = 57 := rfl
    omega
  rw [digitOf?, digitValue?, if_pos digit]
  exact Option.filter_some_pos (decide_eq_true low)

/-- The letters, which are digits in larger bases, are none in base ten. -/
theorem digitOf?_ten_of_not_isDigit {c : Char} (other : ¬ c.isDigit) : digitOf? 10 c = none := by
  rw [digitOf?, digitValue?, if_neg other]
  split
  · exact Option.filter_some_neg (by simp)
  · split
    · exact Option.filter_some_neg (by simp)
    · rfl

theorem mapM_digitOf? (digits : ∀ c ∈ cs, c.isDigit) :
    cs.mapM (digitOf? 10) = some (cs.map fun c => c.toNat - '0'.toNat) := by
  induction cs with
  | nil => rfl
  | cons c cs ih =>
    rw [List.mapM_cons, digitOf?_ten_of_isDigit (digits c List.mem_cons_self),
      ih fun d hd => digits d (List.mem_cons_of_mem c hd)]
    rfl

theorem isDigit_of_mapM {values : List Nat} (read : cs.mapM (digitOf? 10) = some values) :
    ∀ c ∈ cs, c.isDigit := by
  induction cs generalizing values with
  | nil => simp
  | cons c cs ih =>
    rw [List.mapM_cons] at read
    obtain ⟨value, first, rest⟩ := Option.bind_eq_some_iff.mp read
    obtain ⟨values', rest, -⟩ := Option.bind_eq_some_iff.mp rest
    intro d hd
    rcases List.mem_cons.mp hd with rfl | hd
    · by_cases digit : d.isDigit
      · exact digit
      · rw [digitOf?_ten_of_not_isDigit digit] at first
        cases first
    · exact ih rest d hd

theorem ofDigits_ten_map (cs : List Char) :
    ofDigits 10 (cs.map fun c => c.toNat - '0'.toNat) = Nat.ofDigitChars 10 cs 0 := by
  rw [ofDigits, List.foldl_map, Nat.ofDigitChars_eq_foldl]

/-- The digits behind a plus sign, or without one. -/
theorem decimal?_eq_some_iff_digits : decimal? cs = some n ↔
    withoutPlus cs ≠ [] ∧ (∀ c ∈ withoutPlus cs, c.isDigit) ∧
      Nat.ofDigitChars 10 (withoutPlus cs) 0 = n := by
  unfold decimal?
  cases rest : withoutPlus cs with
  | nil => simp
  | cons d ds =>
    simp only [ne_eq, reduceCtorEq, not_false_eq_true, true_and]
    constructor
    · intro read
      obtain ⟨values, mapped, value⟩ := Option.map_eq_some_iff.mp read
      have digits := isDigit_of_mapM mapped
      rw [mapM_digitOf? digits] at mapped
      rw [← Option.some.inj mapped, ofDigits_ten_map] at value
      exact ⟨digits, value⟩
    · rintro ⟨digits, rfl⟩
      rw [mapM_digitOf? digits, Option.map_some, ofDigits_ten_map]

theorem decimal?_eq_some : decimal? cs = some n ↔ Numeral cs n := by
  rw [decimal?_eq_some_iff_digits]
  constructor
  · rintro ⟨some, digits, rfl⟩
    match cs with
    | '+' :: cs => exact .plus some digits
    | [] => exact absurd rfl some
    | c :: cs =>
      by_cases plus : c = '+'
      · subst plus
        exact .plus some digits
      · have same : withoutPlus (c :: cs) = c :: cs := by
          unfold withoutPlus
          split
          · rename_i eq
            exact absurd (List.cons.inj eq).1 plus
          · rfl
        rw [same] at some digits ⊢
        exact .digits some digits
  · intro numeral
    cases numeral with
    | plus some digits => exact ⟨some, digits, rfl⟩
    | digits some digits =>
      have same : withoutPlus cs = cs := by
        unfold withoutPlus
        split
        · exact absurd (digits '+' List.mem_cons_self) (by decide)
        · rfl
      rw [same]
      exact ⟨some, digits, rfl⟩

/-! ### White space at the ends -/

/-- `body` is what is left of a text without the white space at its ends. -/
structure Trims (cs body : List Char) : Prop where
  parts : ∃ before after, cs = before ++ body ++ after ∧ (∀ c ∈ before, isWhitespace c) ∧
    ∀ c ∈ after, isWhitespace c
  first : ∀ c, body.head? = some c → ¬ isWhitespace c
  last : ∀ c, body.getLast? = some c → ¬ isWhitespace c

theorem trimStart_of_head? (first : ∀ c, cs.head? = some c → ¬ isWhitespace c) :
    trimStart cs = cs := by
  cases cs with
  | nil => rfl
  | cons c cs => exact List.dropWhile_cons_of_neg (first c rfl)

theorem head?_trimStart (cs : List Char) :
    ∀ c, (trimStart cs).head? = some c → ¬ isWhitespace c := by
  intro c head space
  have stops := List.head?_dropWhile_not isWhitespace cs
  rw [trimStart] at head
  rw [head] at stops
  simp only [space] at stops
  cases stops

theorem trimStart_append {before : List Char} (space : ∀ c ∈ before, isWhitespace c) :
    trimStart (before ++ cs) = trimStart cs := List.dropWhile_append_of_pos space

/-- A text is the white space at its start and what is left. -/
theorem exists_trimStart (cs : List Char) :
    ∃ before, cs = before ++ trimStart cs ∧ ∀ c ∈ before, isWhitespace c :=
  ⟨cs.takeWhile isWhitespace, List.takeWhile_append_dropWhile.symm,
    fun _ member => List.all_eq_true.mp List.all_takeWhile _ member⟩

theorem trims_trim (cs : List Char) : Trims cs (trim cs) := by
  obtain ⟨before, eq, space⟩ := exists_trimStart cs
  obtain ⟨after, eq', space'⟩ := exists_trimStart (trimStart cs).reverse
  have whole : trimStart cs = trim cs ++ after.reverse := by
    rw [trim, ← List.reverse_append, ← eq', List.reverse_reverse]
  refine ⟨⟨before, after.reverse, ?_, space, fun c member => ?_⟩, fun c head => ?_,
    fun c last => ?_⟩
  · rw [List.append_assoc, ← whole]
    exact eq
  · exact space' c (List.mem_reverse.mp member)
  · refine head?_trimStart cs c ?_
    rw [whole, List.head?_append, head]
    rfl
  · rw [trim, List.getLast?_reverse] at last
    exact head?_trimStart _ c last

theorem Trims.trim_eq (h : Trims cs body) : trim cs = body := by
  obtain ⟨⟨before, after, rfl, space, space'⟩, first, last⟩ := h
  rw [trim, List.append_assoc, trimStart_append space]
  cases body with
  | nil =>
    have all : trimStart after = [] := List.dropWhile_eq_nil_iff.mpr space'
    rw [List.nil_append, all]
    rfl
  | cons c body =>
    have stays : trimStart (c :: body ++ after) = c :: body ++ after :=
      List.dropWhile_cons_of_neg (first c rfl)
    rw [stays, List.reverse_append,
      trimStart_append fun d member => space' d (List.mem_reverse.mp member),
      trimStart_of_head? fun d head => last d (List.head?_reverse ▸ head), List.reverse_reverse]

theorem not_isWhitespace_of_isDigit {c : Char} (digit : c.isDigit) : ¬ isWhitespace c := by
  have bounds := Char.isDigit_iff_toNat.mp digit
  have zero : '0'.toNat = 48 := rfl
  have nine : '9'.toNat = 57 := rfl
  simp only [isWhitespace, whitespaceRanges, List.any_cons, List.any_nil, Bool.or_eq_true,
    Bool.and_eq_true, decide_eq_true_eq, Bool.false_eq_true, or_false]
  omega

/-- There is no white space at the ends of digits. -/
theorem trims_of_digits (digits : ∀ c ∈ cs, c.isDigit) : Trims cs cs where
  parts := ⟨[], [], (List.append_nil cs).symm, nofun, nofun⟩
  first c head := not_isWhitespace_of_isDigit (digits c (List.mem_of_head? head))
  last c last := not_isWhitespace_of_isDigit (digits c (List.mem_of_getLast? last))

end Text

namespace Step

/-! ### Steps -/

/-- The text describes the step. -/
inductive Describes : String → Step → Prop where
  | yield : Describes "yield" .yield
  | exit : Describes "exit" .exit
  /-- Whatever follows the first colon is to be written. -/
  | write (payload : String) : Describes ("write:" ++ payload) (.write payload)
  | read {count : String} {numeral : List Char} {n : Nat} (trims : Text.Trims count.toList numeral)
      (spells : Text.Numeral numeral n) (small : n ≤ 2 ^ 64 - 1) :
      Describes ("read:" ++ count) (.read n)

variable {cs word rest : List Char} {t : String} {s : Step} {n : Nat}

/-! ### Splitting at a colon -/

theorem splitColon_of_notMem (absent : ':' ∉ cs) : splitColon cs = (cs, none) := by
  have all : cs.dropWhile (· ≠ ':') = [] := by
    refine List.dropWhile_eq_nil_iff.mpr fun c member => decide_eq_true ?_
    rintro rfl
    exact absent member
  rw [splitColon, all]

theorem splitColon_append (absent : ':' ∉ word) :
    splitColon (word ++ ':' :: rest) = (word, some rest) := by
  have before : ∀ c ∈ word, decide (c ≠ ':') = true := by
    intro c member
    refine decide_eq_true ?_
    rintro rfl
    exact absent member
  have stops : (':' :: rest).dropWhile (· ≠ ':') = ':' :: rest := rfl
  have taken : (':' :: rest).takeWhile (· ≠ ':') = [] := rfl
  rw [splitColon, List.dropWhile_append_of_pos before, stops,
    List.takeWhile_append_of_pos before, taken, List.append_nil]

/-- A word, a colon and what follows it. -/
theorem splitColon_colon (word rest : String) (absent : ':' ∉ word.toList) :
    splitColon (word ++ ":" ++ rest).toList = (word.toList, some rest.toList) := by
  rw [String.toList_append, String.toList_append, List.append_assoc]
  exact splitColon_append absent

/-- A text has no colon, or it is split at the first one. -/
theorem splitColon_cases (cs : List Char) : splitColon cs = (cs, none) ∨
    ∃ word rest, cs = word ++ ':' :: rest ∧ splitColon cs = (word, some rest) := by
  by_cases colon : ':' ∈ cs
  · right
    obtain ⟨word, rest, rfl, first⟩ := List.eq_append_cons_of_mem colon
    exact ⟨word, rest, rfl, splitColon_append first⟩
  · exact Or.inl (splitColon_of_notMem colon)

/-! ### Reading a step -/

/-- A number of bytes is read from the text behind the colon. -/
theorem decimalBelow?_eq_some {count : List Char} :
    Text.decimalBelow? countBound (Text.trim count) = some n ↔
      ∃ numeral, Text.Trims count numeral ∧ Text.Numeral numeral n ∧ n ≤ 2 ^ 64 - 1 := by
  have bound : countBound = 2 ^ 64 := rfl
  rw [Text.decimalBelow?, Option.filter_eq_some_iff, Text.decimal?_eq_some, decide_eq_true_iff,
    bound]
  constructor
  · rintro ⟨numeral, small⟩
    exact ⟨_, Text.trims_trim count, numeral, Nat.le_sub_one_of_lt small⟩
  · rintro ⟨_, trims, numeral, small⟩
    rw [trims.trim_eq]
    exact ⟨numeral, by omega⟩

theorem describes_of_parse (read : parse t = .ok s) : Describes t s := by
  unfold parse at read
  rcases splitColon_cases t.toList with split | ⟨word, rest, eq, split⟩
  · -- without a colon, two words are steps
    simp only [split, String.ofList_toList] at read
    split at read
    · cases read
      exact .yield
    · cases read
      exact .exit
    · rename_i absent
      cases absent
    · rename_i absent
      cases absent
    · cases read
  · have whole : t = String.ofList word ++ ":" ++ String.ofList rest := by
      apply String.toList_injective
      simp only [eq, String.toList_append, String.toList_ofList, List.append_assoc]
      rfl
    simp only [split] at read
    split at read
    · rename_i absent
      cases absent
    · rename_i absent
      cases absent
    · rename_i named found
      cases found
      cases read
      rw [whole, named]
      exact .write (String.ofList rest)
    · rename_i named found
      cases found
      rw [whole, named]
      cases counted : Text.decimalBelow? countBound (Text.trim rest) with
      | none =>
        rw [counted] at read
        cases read
      | some n =>
        rw [counted] at read
        cases read
        obtain ⟨numeral, trims, spells, small⟩ := decimalBelow?_eq_some.mp counted
        rw [← String.toList_ofList (l := rest)] at trims
        exact .read trims spells small
    · cases read

theorem parse_of_describes (describes : Describes t s) : parse t = .ok s := by
  cases describes with
  | yield => rfl
  | exit => rfl
  | write payload =>
    have split : splitColon ("write:" ++ payload).toList = ("write".toList, some payload.toList) :=
      splitColon_colon "write" payload (by decide)
    simp only [parse, split, String.ofList_toList]
  | @read count numeral n trims spells small =>
    have split : splitColon ("read:" ++ count).toList = ("read".toList, some count.toList) :=
      splitColon_colon "read" count (by decide)
    have counted := decimalBelow?_eq_some.mpr ⟨numeral, trims, spells, small⟩
    simp only [parse, split, String.ofList_toList, counted]

theorem parse_eq_ok : parse t = .ok s ↔ Describes t s := ⟨describes_of_parse, parse_of_describes⟩

/-- The number of bytes, if the step has one, is one that can be asked for. -/
def InBounds : Step → Prop
  | read count => count ≤ 2 ^ 64 - 1
  | yield | write _ | exit => True

/-- The text of a step describes it. -/
theorem describes_text (bounds : s.InBounds) : Describes s.text s := by
  cases s with
  | yield => exact .yield
  | exit => exact .exit
  | write payload => exact .write payload
  | read count =>
    have digits : ∀ c ∈ (toString count).toList, c.isDigit := by
      intro c member
      rw [Nat.toString_eq_ofList_toDigits, String.toList_ofList] at member
      exact Nat.isDigit_of_mem_toDigits (by decide) (by decide) member
    have spells : Text.Numeral (toString count).toList count := by
      have numeral : Text.Numeral (Nat.toDigits 10 count) _ := .digits Nat.toDigits_ne_nil
        fun c member => Nat.isDigit_of_mem_toDigits (by decide) (by decide) member
      rw [Nat.ofDigitChars_ten_toDigits] at numeral
      rwa [Nat.toString_eq_ofList_toDigits, String.toList_ofList]
    exact .read (Text.trims_of_digits digits) spells bounds

/-- A text is read as a step if and only if it describes that step, and every other text is an
error. So every step is read back from its text. -/
theorem parse_exact :
    (∀ t s, parse t = .ok s ↔ Describes t s) ∧
      (∀ t, (∃ e, parse t = .error e) ↔ ∀ s, ¬ Describes t s) ∧
      ∀ s, s.InBounds → parse s.text = .ok s := by
  refine ⟨fun t s => parse_eq_ok, fun t => ⟨?_, fun other => ?_⟩, fun s bounds => ?_⟩
  · rintro ⟨e, refused⟩ s describes
    rw [parse_of_describes describes] at refused
    cases refused
  · cases read : parse t with
    | error e => exact ⟨e, rfl⟩
    | ok s => exact absurd (describes_of_parse read) (other s)
  · exact parse_of_describes (describes_text bounds)

/-- The greatest number of bytes that can be asked for. -/
theorem parse_exact_greatest : (read (2 ^ 64 - 1)).InBounds ∧
    parse (read (2 ^ 64 - 1)).text = .ok (read (2 ^ 64 - 1)) :=
  have bounds : (read (2 ^ 64 - 1)).InBounds := Nat.le_refl _
  ⟨bounds, parse_exact.2.2 _ bounds⟩

end Step

end TrapKernel
