import Mathlib.Data.List.TakeWhile
import PodLayers.Pod.Quantity

/-!
# The grammar of quantities

A quantity is a sign, which may be missing, a number and a suffix. The parser cuts a text greedily: one sign,
then the longest run of digits and points, then the rest. No suffix begins with a digit or a point, so the
only way to read a text by the grammar is that cut, and what is wrong with a text shows in its parts.
-/

namespace PodLayers.Proofs
open Quantity

/-! ## Readings of a text -/

def IsDigit (c : Char) : Prop := '0' ≤ c ∧ c ≤ '9'

def IsSign (cs : List Char) : Prop := cs = [] ∨ cs = ['+'] ∨ cs = ['-']

def Unsigned (cs : List Char) : Prop := ∀ c, cs.head? = some c → c ≠ '+' ∧ c ≠ '-'

structure IsNumber (cs : List Char) : Prop where
  chars : ∀ c ∈ cs, IsDigit c ∨ c = '.'
  digit : ∃ c ∈ cs, IsDigit c
  point : cs.count '.' ≤ 1

def unitTexts : List String :=
  ["Ki", "Mi", "Gi", "Ti", "Pi", "Ei", "n", "u", "m", "k", "M", "G", "T", "P", "E"]

def IsExponent (cs : List Char) : Prop :=
  ∃ mark sign digits, cs = mark :: (sign ++ digits) ∧ (mark = 'e' ∨ mark = 'E') ∧ IsSign sign ∧
    digits ≠ [] ∧ ∀ c ∈ digits, IsDigit c

def IsSuffix (cs : List Char) : Prop := cs = [] ∨ String.ofList cs ∈ unitTexts ∨ IsExponent cs

/-- A text in three parts. -/
structure Split where
  sign : List Char
  number : List Char
  suffix : List Char

namespace Split

def chars (split : Split) : List Char := split.sign ++ (split.number ++ split.suffix)

def text (split : Split) : String := String.ofList split.chars

/-- The parts are what the grammar asks for. -/
structure Grammatical (split : Split) : Prop where
  sign : IsSign split.sign
  number : IsNumber split.number
  suffix : IsSuffix split.suffix

/-- A sign is taken if there is one, and behind it the longest run of digits and points. -/
structure Greedy (split : Split) : Prop where
  sign : IsSign split.sign
  unsigned : split.sign = [] → Unsigned split.chars
  run : ∀ c ∈ split.number, IsDigit c ∨ c = '.'
  longest : ∀ c, split.suffix.head? = some c → ¬(IsDigit c ∨ c = '.')

/-- What is wrong with a text that is cut in this way. -/
def Has (split : Split) : QuantityProblem → Prop
  | .empty => split.chars = []
  | .noDigit => ¬∃ c ∈ split.number, IsDigit c
  | .twoPoints => 1 < split.number.count '.'
  | .unknownSuffix => ¬IsSuffix split.suffix

end Split

/-- The problems in the order in which they are looked for. -/
def problemOrder : List QuantityProblem := [.empty, .noDigit, .twoPoints, .unknownSuffix]

/-- The problem is there, and none that stands in front of it. -/
def Split.First (split : Split) (problem : QuantityProblem) : Prop :=
  split.Has problem ∧ ∃ front back, problemOrder = front ++ problem :: back ∧
    ∀ other ∈ front, ¬split.Has other

/-! ## What the parser sees in each part -/

section Parts

variable {sign number suffix rest : List Char}

lemma isDigit_iff (c : Char) : c.isDigit = true ↔ IsDigit c := by
  simp [Char.isDigit, IsDigit, Char.le_def]

lemma inNumber_iff (c : Char) : inNumber c = true ↔ IsDigit c ∨ c = '.' := by
  simp [inNumber, isDigit_iff]

lemma ne_sign_of_inNumber {c : Char} (h : IsDigit c ∨ c = '.') : c ≠ '+' ∧ c ≠ '-' := by
  rw [← inNumber_iff] at h
  constructor <;> rintro rfl <;> exact absurd h (by decide)

lemma withoutSign_of_unsigned (h : Unsigned rest) : withoutSign rest = rest := by
  unfold withoutSign
  split
  · exact absurd rfl (h '+' rfl).1
  · exact absurd rfl (h '-' rfl).2
  · rfl

lemma withoutSign_append (hsign : IsSign sign) (hrest : sign = [] → Unsigned rest) :
    withoutSign (sign ++ rest) = rest := by
  rcases hsign with rfl | rfl | rfl
  · exact withoutSign_of_unsigned (hrest rfl)
  · rfl
  · rfl

lemma exists_sign (cs : List Char) :
    ∃ sign, IsSign sign ∧ sign ++ withoutSign cs = cs ∧ (sign = [] → Unsigned cs) := by
  unfold withoutSign
  split
  · exact ⟨['+'], .inr (.inl rfl), rfl, fun h => by cases h⟩
  · exact ⟨['-'], .inr (.inr rfl), rfl, fun h => by cases h⟩
  · rename_i hplus hminus
    refine ⟨[], .inl rfl, rfl, fun _ c hc => ?_⟩
    obtain ⟨rest, rfl⟩ := List.head?_eq_some_iff.1 hc
    exact ⟨fun h => hplus rest (h ▸ rfl), fun h => hminus rest (h ▸ rfl)⟩

lemma parts_append (hrun : ∀ c ∈ number, IsDigit c ∨ c = '.')
    (hlongest : ∀ c, suffix.head? = some c → ¬(IsDigit c ∨ c = '.')) :
    numberPart (number ++ suffix) = number ∧ suffixPart (number ++ suffix) = suffix := by
  have hnumber : ∀ c ∈ number, inNumber c = true := fun c hc => (inNumber_iff c).2 (hrun c hc)
  rw [numberPart, suffixPart, List.takeWhile_append_of_pos hnumber, List.dropWhile_append_of_pos hnumber]
  cases suffix with
  | nil => simp
  | cons c rest =>
    have hstop : ¬inNumber c = true := fun h => hlongest c rfl ((inNumber_iff c).1 h)
    rw [List.takeWhile_cons_of_neg hstop, List.dropWhile_cons_of_neg hstop, List.append_nil]
    exact ⟨rfl, rfl⟩

lemma unsigned_of_digits (h : ∀ c ∈ rest, IsDigit c) : Unsigned rest :=
  fun c hc => ne_sign_of_inNumber (.inl (h c (List.mem_of_head? hc)))

lemma isExponent_iff (cs : List Char) : isExponent cs = true ↔ IsExponent cs := by
  cases cs with
  | nil => simp [isExponent, IsExponent]
  | cons mark rest =>
    have hcons : isExponent (mark :: rest) = true ↔
        (mark = 'e' ∨ mark = 'E') ∧ withoutSign rest ≠ [] ∧ ∀ c ∈ withoutSign rest, IsDigit c := by
      simp [isExponent, isDigit_iff, and_assoc]
    rw [hcons]
    constructor
    · rintro ⟨hmark, hne, hdigits⟩
      obtain ⟨sign, hsign, happend, -⟩ := exists_sign rest
      exact ⟨mark, sign, withoutSign rest, by rw [happend], hmark, hsign, hne, hdigits⟩
    · rintro ⟨_, sign, digits, heq, hmark, hsign, hne, hdigits⟩
      obtain ⟨rfl, rfl⟩ := List.cons.inj heq
      rw [withoutSign_append hsign fun _ => unsigned_of_digits hdigits]
      exact ⟨hmark, hne, hdigits⟩

lemma mem_units_iff (cs : List Char) : cs ∈ units ↔ cs = [] ∨ String.ofList cs ∈ unitTexts := by
  have hunits : units = [] :: unitTexts.map String.toList := by decide
  rw [hunits, List.mem_cons, List.mem_map]
  refine or_congr_right ⟨?_, fun h => ⟨_, h, String.toList_ofList⟩⟩
  rintro ⟨text, htext, rfl⟩
  rwa [String.ofList_toList]

lemma isSuffix_iff (cs : List Char) : isSuffix cs = true ↔ IsSuffix cs := by
  rw [isSuffix, Bool.or_eq_true, List.contains_iff_mem, mem_units_iff, isExponent_iff, IsSuffix, or_assoc]

/-- Units and exponents begin with a letter. -/
lemma IsSuffix.stops {cs : List Char} (h : IsSuffix cs) (c : Char) (hc : cs.head? = some c) :
    ¬(IsDigit c ∨ c = '.') := by
  rw [← inNumber_iff]
  rcases h with rfl | hunit | ⟨mark, sign, digits, rfl, hmark, -⟩
  · cases hc
  · have hunits : ∀ cs ∈ units, cs.head?.any inNumber = false := by decide
    have hhead := hunits cs ((mem_units_iff cs).2 (.inr hunit))
    rw [hc, Option.any_some] at hhead
    rw [hhead]
    decide
  · obtain rfl : mark = c := Option.some.inj hc
    rcases hmark with rfl | rfl <;> decide

end Parts

/-! ## The greedy cut -/

section Cuts

variable {split other : Split}

lemma Split.Greedy.parts (h : split.Greedy) :
    numberPart (withoutSign split.chars) = split.number ∧
      suffixPart (withoutSign split.chars) = split.suffix := by
  have hunsigned : withoutSign split.chars = split.number ++ split.suffix := by
    refine withoutSign_append h.sign fun hsign => ?_
    have hchars := h.unsigned hsign
    rwa [Split.chars, hsign] at hchars
  rw [hunsigned]
  exact parts_append h.run h.longest

lemma eq_of_greedy (h : split.Greedy) (hother : other.Greedy) (hchars : split.chars = other.chars) :
    split = other := by
  obtain ⟨hnumber, hsuffix⟩ := h.parts
  obtain ⟨hnumber', hsuffix'⟩ := hother.parts
  rw [hchars, hnumber'] at hnumber
  rw [hchars, hsuffix'] at hsuffix
  have hsign : split.sign = other.sign := by
    rw [Split.chars, Split.chars, hnumber, hsuffix] at hchars
    exact List.append_cancel_right hchars
  obtain ⟨sign, number, suffix⟩ := split
  exact congr (congr (congrArg Split.mk hsign) hnumber.symm) hsuffix.symm

lemma exists_greedy (cs : List Char) : ∃ split : Split, split.Greedy ∧ split.chars = cs := by
  obtain ⟨sign, hsign, happend, hunsigned⟩ := exists_sign cs
  have hparts : numberPart (withoutSign cs) ++ suffixPart (withoutSign cs) = withoutSign cs :=
    List.takeWhile_append_dropWhile
  have hchars : sign ++ (numberPart (withoutSign cs) ++ suffixPart (withoutSign cs)) = cs := by
    rw [hparts, happend]
  refine ⟨⟨sign, numberPart (withoutSign cs), suffixPart (withoutSign cs)⟩, ⟨hsign, ?_, ?_, ?_⟩, hchars⟩
  · intro h
    rw [Split.chars, hchars]
    exact hunsigned h
  · exact fun c hc => (inNumber_iff c).1 (List.mem_takeWhile_imp hc)
  · intro c hc
    have hstop := List.head?_dropWhile_not inNumber (withoutSign cs)
    rw [← suffixPart, hc] at hstop
    rw [← inNumber_iff, hstop]
    decide

/-- A text that is read by the grammar is cut where the parser cuts it. -/
lemma Split.Grammatical.greedy (h : split.Grammatical) : split.Greedy where
  sign := h.sign
  unsigned hsign c hc := by
    obtain ⟨first, hfirst, -⟩ := h.number.digit
    cases hnumber : split.number with
    | nil => exact absurd (hnumber ▸ hfirst) List.not_mem_nil
    | cons head rest =>
      rw [Split.chars, hsign, hnumber] at hc
      obtain rfl : head = c := Option.some.inj hc
      exact ne_sign_of_inNumber (h.number.chars head (hnumber ▸ List.mem_cons_self))
  run := h.number.chars
  longest := h.suffix.stops

lemma grammatical_iff (h : split.Greedy) : split.Grammatical ↔ ∀ problem, ¬split.Has problem := by
  constructor
  · intro hgrammatical problem hproblem
    cases problem with
    | empty =>
      obtain ⟨c, hc, -⟩ := hgrammatical.number.digit
      have hmem : c ∈ split.chars := List.mem_append_right _ (List.mem_append_left _ hc)
      exact absurd (hproblem ▸ hmem) List.not_mem_nil
    | noDigit => exact hproblem hgrammatical.number.digit
    | twoPoints => exact absurd hgrammatical.number.point (Nat.not_le.2 hproblem)
    | unknownSuffix => exact hproblem hgrammatical.suffix
  · intro hnone
    exact ⟨h.sign, ⟨h.run, not_not.1 (hnone .noDigit), Nat.not_lt.1 (hnone .twoPoints)⟩,
      not_not.1 (hnone .unknownSuffix)⟩

open scoped Classical in
/-- The parser looks for the problems in their order. -/
lemma problem_eq_find (h : split.Greedy) :
    problem? split.chars = problemOrder.find? fun problem => decide (split.Has problem) := by
  obtain ⟨hnumber, hsuffix⟩ := h.parts
  have hempty : decide (split.Has .empty) = split.chars.isEmpty := by
    rw [Bool.eq_iff_iff, decide_eq_true_iff]
    exact List.isEmpty_iff.symm
  have hdigit : decide (split.Has .noDigit) = !split.number.any Char.isDigit := by
    rw [Bool.eq_iff_iff, decide_eq_true_iff]
    simp [Split.Has, isDigit_iff]
  have hpoints : decide (split.Has .twoPoints) = decide (1 < split.number.count '.') :=
    decide_eq_decide.2 Iff.rfl
  have hunknown : decide (split.Has .unknownSuffix) = !isSuffix split.suffix := by
    rw [Bool.eq_iff_iff, decide_eq_true_iff, Bool.not_eq_true', ← Bool.not_eq_true, isSuffix_iff]
    rfl
  simp only [problem?, hnumber, hsuffix, problemOrder, List.find?_cons, List.find?_nil, hempty, hdigit,
    hpoints, hunknown]
  grind

lemma problem_eq_some_iff (h : split.Greedy) (problem : QuantityProblem) :
    problem? split.chars = some problem ↔ split.First problem := by
  rw [problem_eq_find h, List.find?_eq_some_iff_append]
  simp [Split.First]

lemma problem_eq_none_iff (h : split.Greedy) : problem? split.chars = none ↔ split.Grammatical := by
  have hall (problem : QuantityProblem) : problem ∈ problemOrder := by cases problem <;> decide
  rw [problem_eq_find h, List.find?_eq_none, grammatical_iff h]
  simp [hall]

end Cuts

/-! ## Parsing -/

lemma parse_eq_ok_iff (text : String) (quantity : Quantity) :
    parse text = .ok quantity ↔ quantity.text = text ∧ problem? text.toList = none := by
  unfold parse
  cases problem? text.toList with
  | some problem => simp
  | none =>
    obtain ⟨input⟩ := quantity
    simp [eq_comm]

lemma parse_eq_error_iff (text : String) (fault : QuantityFault) :
    parse text = .error fault ↔ fault.input = text ∧ problem? text.toList = some fault.problem := by
  unfold parse
  obtain ⟨input, problem⟩ := fault
  cases problem? text.toList with
  | some found => simp [eq_comm]
  | none => simp

/-- A text is a quantity, kept as it is written, exactly when it can be read by the grammar, and then in one
way. Every text is cut greedily in one way, and one that is no quantity is refused for the first problem of
that cut. -/
theorem parse_iff_grammatical (text : String) :
    (∀ quantity, parse text = .ok quantity ↔
      quantity.text = text ∧ ∃ split : Split, split.Grammatical ∧ split.text = text) ∧
    (∀ split other : Split, split.Grammatical → other.Grammatical → split.text = text → other.text = text →
      split = other) ∧
    ∃ cut : Split, (cut.Greedy ∧ cut.text = text) ∧
      (∀ other : Split, other.Greedy → other.text = text → other = cut) ∧
      ∀ fault, parse text = .error fault ↔ fault.input = text ∧ cut.First fault.problem := by
  have hchars {split : Split} (h : split.text = text) : split.chars = text.toList := by
    rw [← h, Split.text, String.toList_ofList]
  have hunique {split other : Split} (hsplit : split.Greedy) (hother : other.Greedy)
      (htext : split.text = text) (hotherText : other.text = text) : split = other :=
    eq_of_greedy hsplit hother ((hchars htext).trans (hchars hotherText).symm)
  obtain ⟨cut, hcut, hcutChars⟩ := exists_greedy text.toList
  have hcutText : cut.text = text := by rw [Split.text, hcutChars, String.ofList_toList]
  refine ⟨fun quantity => ?_, fun split other hsplit hother => hunique hsplit.greedy hother.greedy, cut,
    ⟨hcut, hcutText⟩, fun other hother htext => hunique hother hcut htext hcutText, fun fault => ?_⟩
  · rw [parse_eq_ok_iff, ← hcutChars, problem_eq_none_iff hcut]
    refine and_congr_right fun _ => ⟨fun h => ⟨cut, h, hcutText⟩, ?_⟩
    rintro ⟨split, hsplit, htext⟩
    exact hunique hsplit.greedy hcut htext hcutText ▸ hsplit
  · rw [parse_eq_error_iff, ← hcutChars, problem_eq_some_iff hcut]

-- a mark with digits behind it is an exponent, and alone it is a unit if it is a capital
example : parse "12E-2" = .ok ⟨"12E-2"⟩ := rfl
example : parse "3E" = .ok ⟨"3E"⟩ := rfl
example : parse "3e" = .error ⟨"3e", .unknownSuffix⟩ := rfl

end PodLayers.Proofs
