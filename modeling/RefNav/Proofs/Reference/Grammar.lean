import Mathlib.Computability.Language
import Mathlib.Order.CompletePartialOrder
import RefNav.Proofs.Reference.Shape

/-! # Grammars of the shapes

The texts of each shape form a regular language.  A text is recognised as a shape
exactly if it begins with something of that language, and then no more than the
longest such part of it is taken.
-/

namespace RefNav.Grammar

open RefNav.Text RefNav.Shape
open scoped Computability

/-- One character of a class. -/
def oneOf (p : Char → Bool) : Language Char :=
  {w | ∃ c, p c = true ∧ w = [c]}

/-- A given text. -/
def exactly (s : String) : Language Char :=
  {s.toList}

/-- A text given in lower case, case ignored. -/
def ignoringCase (s : String) : Language Char :=
  {w | w.map fold = s.toList}

/-- Any number of blanks. -/
def blanks : Language Char :=
  (oneOf isBlank)∗

/-- A name. -/
def name (head : Char → Bool) : Language Char :=
  oneOf head * (oneOf isWord)∗

/-- Names with dots between them. -/
def dotted (head : Char → Bool) : Language Char :=
  name head * (exactly "." * name head)∗

def labelCall : Language Char :=
  exactly "$$" * name isHead * exactly "^" * dotted isHead

def routine : Language Char :=
  exactly "^" * (1 + exactly "%") * oneOf isLetter * (oneOf isWord)∗ *
    (exactly "." * name isHead)∗

def macroCall : Language Char :=
  exactly "$$$" * oneOf isHead * (oneOf isMacroChar)∗

/-- A dot and the name of a member, with blanks allowed before each. -/
def member : Language Char :=
  blanks * exactly "." * blanks * name isFoldedHead

def classRef : Language Char :=
  exactly "##" * ignoringCase "class" * blanks * exactly "(" * blanks * dotted isFoldedHead *
    blanks * exactly ")" * (1 + member)

variable {p head : Char → Bool} {s : String} {w : List Char}

theorem mem_oneOf : w ∈ oneOf p ↔ ∃ c, p c = true ∧ w = [c] := Iff.rfl

theorem mem_exactly : w ∈ exactly s ↔ w = s.toList := Iff.rfl

theorem mem_ignoringCase : w ∈ ignoringCase s ↔ w.map fold = s.toList := Iff.rfl

theorem mem_star_oneOf : w ∈ (oneOf p)∗ ↔ ∀ c ∈ w, p c = true := by
  rw [Language.mem_kstar]
  constructor
  · rintro ⟨parts, rfl, single⟩ c hc
    obtain ⟨part, hpart, hc⟩ := List.mem_flatten.mp hc
    obtain ⟨d, hd, rfl⟩ := mem_oneOf.mp (single part hpart)
    rwa [List.mem_singleton.mp hc]
  · intro all
    refine ⟨w.map fun c => [c], ?_, fun part hpart => ?_⟩
    · exact (List.flatMap_singleton' w).symm
    · obtain ⟨c, hc, rfl⟩ := List.mem_map.mp hpart
      exact ⟨c, all c hc, rfl⟩

theorem mem_name : w ∈ name head ↔
    ∃ c u, head c = true ∧ (∀ d ∈ u, isWord d = true) ∧ w = c :: u := by
  simp only [name, Language.mem_mul, mem_oneOf, mem_star_oneOf]
  constructor
  · rintro ⟨_, ⟨c, hc, rfl⟩, u, hu, rfl⟩
    exact ⟨c, u, hc, hu, rfl⟩
  · rintro ⟨c, u, hc, hu, rfl⟩
    exact ⟨[c], ⟨c, hc, rfl⟩, u, hu, rfl⟩

/-- What follows the first character of a dotted name, character by character. -/
inductive Tail (head : Char → Bool) : List Char → Prop where
  | nil : Tail head []
  | word {c : Char} {t : List Char} : isWord c = true → Tail head t → Tail head (c :: t)
  | dot {d : Char} {t : List Char} : head d = true → Tail head t → Tail head ('.' :: d :: t)

/-- The tails of dotted names. -/
def tails (head : Char → Bool) : Language Char :=
  (oneOf isWord)∗ * (exactly "." * name head)∗

theorem dotted_eq (head : Char → Bool) : dotted head = oneOf head * tails head := by
  simp only [dotted, name, tails, mul_assoc]

/-- A tail is empty, or begins with a word character or with a dot and another name. -/
theorem tails_eq (head : Char → Bool) :
    tails head = 1 + exactly "." * oneOf head * tails head + oneOf isWord * tails head := by
  have further : (exactly "." * name head)∗ = 1 + exactly "." * oneOf head * tails head := by
    conv_lhs => rw [← Language.one_add_self_mul_kstar_eq_kstar]
    simp only [name, tails, mul_assoc]
  have words : tails head = (exactly "." * name head)∗ + oneOf isWord * tails head := by
    conv_lhs => rw [tails, ← Language.one_add_self_mul_kstar_eq_kstar (oneOf isWord)]
    rw [add_mul, one_mul, mul_assoc, ← tails]
  rwa [further] at words

/-- Every tail is put together character by character. -/
theorem tails_le (head : Char → Bool) (closed : Language Char) (empty : [] ∈ closed)
    (word : oneOf isWord * closed ≤ closed) (dot : exactly "." * oneOf head * closed ≤ closed) :
    tails head ≤ closed := by
  have names : (exactly "." * name head)∗ ≤ closed := by
    apply kstar_le_of_mul_le_right
    · rintro w rfl
      exact empty
    · calc exactly "." * name head * closed
          = exactly "." * oneOf head * ((oneOf isWord)∗ * closed) := by simp only [name, mul_assoc]
        _ ≤ exactly "." * oneOf head * closed := mul_le_mul_right (kstar_mul_le_self word) _
        _ ≤ closed := dot
  exact kstar_mul_le names word

theorem mem_tails : w ∈ tails head ↔ Tail head w := by
  constructor
  · intro h
    refine tails_le head {w | Tail head w} .nil ?_ ?_ h
    · rintro _ ⟨_, ⟨c, hc, rfl⟩, t, ht, rfl⟩
      exact .word hc ht
    · rintro _ ⟨_, ⟨_, rfl, _, ⟨d, hd, rfl⟩, rfl⟩, t, ht, rfl⟩
      exact .dot hd ht
  · intro h
    induction h with
    | nil =>
        rw [tails_eq]
        exact .inl (.inl rfl)
    | @word c t hc _ ih =>
        rw [tails_eq]
        exact .inr ⟨[c], ⟨c, hc, rfl⟩, t, ih, rfl⟩
    | @dot d t hd _ ih =>
        rw [tails_eq]
        exact .inl (.inr ⟨['.', d], ⟨_, rfl, _, ⟨d, hd, rfl⟩, rfl⟩, t, ih, rfl⟩)

theorem mem_dotted : w ∈ dotted head ↔ ∃ c t, head c = true ∧ Tail head t ∧ w = c :: t := by
  rw [dotted_eq, Language.mem_mul]
  constructor
  · rintro ⟨_, ⟨c, hc, rfl⟩, t, ht, rfl⟩
    exact ⟨c, t, hc, mem_tails.mp ht, rfl⟩
  · rintro ⟨c, t, hc, ht, rfl⟩
    exact ⟨[c], ⟨c, hc, rfl⟩, t, mem_tails.mpr ht, rfl⟩

/-! ## Names -/

/-- A text that does not begin with a character of a class. -/
def Stops (p : Char → Bool) (cs : List Char) : Prop :=
  ∀ c ∈ cs.head?, p c = false

theorem dropWhile_append {t rest : List Char} (all : ∀ c ∈ t, p c = true) (stops : Stops p rest) :
    (t ++ rest).dropWhile p = rest := by
  rw [List.dropWhile_append_of_pos all]
  cases rest with
  | nil => rfl
  | cons c rest => simp [stops c rfl]

theorem takeWhile_append {rest : List Char} (all : ∀ c ∈ w, p c = true) (stops : Stops p rest) :
    (w ++ rest).takeWhile p = w := by
  rw [List.takeWhile_append_of_pos all]
  cases rest with
  | nil => simp
  | cons c rest => simp [stops c rfl]

theorem name?_append {c : Char} {u rest : List Char} (hc : head c = true)
    (hu : ∀ d ∈ u, isWord d = true) :
    name? head (c :: u ++ rest) =
      some (c :: (u ++ rest.takeWhile isWord), rest.dropWhile isWord) := by
  simp only [List.cons_append, name?, hc, if_true, List.takeWhile_append_of_pos hu,
    List.dropWhile_append_of_pos hu]

/-- Behind a tail the reading of a dotted name goes on. -/
theorem dottedTail_append_of_tail {t : List Char} (h : Tail head t) (rest : List Char) :
    dottedTail head (t ++ rest) = (t ++ (dottedTail head rest).1, (dottedTail head rest).2) := by
  induction h with
  | nil => rfl
  | word hc _ ih => rw [List.cons_append, dottedTail_cons_of_isWord hc, ih]; rfl
  | dot hd _ ih =>
      have noWord : isWord '.' = false := by decide
      simp only [List.cons_append, dottedTail, noWord, hd, ih]
      rfl

theorem tail_dottedTail (head : Char → Bool) (cs : List Char) :
    Tail head (dottedTail head cs).1 := by
  fun_induction dottedTail head cs with
  | case1 => exact .nil
  | case2 c word => exact .word word .nil
  | case3 => exact .nil
  | case4 c d rest word tail ih => exact .word word ih
  | case5 c d rest noWord dot tail ih =>
      rw [Bool.and_eq_true, decide_eq_true_eq] at dot
      rw [dot.1]
      exact .dot dot.2 ih
  | case6 => exact .nil

/-- A character that can go on behind the first character of a dotted name. -/
def continuesName (c : Char) : Bool :=
  isWord c || c = '.'

theorem dottedTail_of_stops {rest : List Char} (h : Stops continuesName rest) :
    dottedTail head rest = ([], rest) := by
  match rest with
  | [] => rfl
  | [c] =>
      have hc := h c rfl
      simp only [continuesName, Bool.or_eq_false_iff] at hc
      simp [dottedTail, hc.1]
  | c :: d :: rest =>
      have hc := h c rfl
      simp only [continuesName, Bool.or_eq_false_iff] at hc
      simp [dottedTail, hc.1, hc.2]

theorem dotted?_append (h : w ∈ dotted head) (rest : List Char) :
    dotted? head (w ++ rest) =
      some (w ++ (dottedTail head rest).1, (dottedTail head rest).2) := by
  obtain ⟨c, t, hc, ht, rfl⟩ := mem_dotted.mp h
  rw [List.cons_append, dotted?_cons_of_head hc, dottedTail_append_of_tail ht]
  rfl

theorem mem_dotted_of_dotted? {cs rest : List Char} (h : dotted? head cs = some (w, rest)) :
    w ∈ dotted head := by
  obtain ⟨c, cs', _, hc, rfl, _⟩ := dotted?_eq_some h
  exact mem_dotted.mpr ⟨c, _, hc, tail_dottedTail head cs', rfl⟩

theorem mem_name_of_name? {cs rest : List Char} (h : name? head cs = some (w, rest)) :
    w ∈ name head := by
  obtain ⟨c, u, hc, hu, rfl, _⟩ := name?_eq_some h
  exact mem_name.mpr ⟨c, u, hc, hu, rfl⟩

/-! ## Label calls, routines and macros -/

theorem mem_labelCall : w ∈ labelCall ↔ ∃ label ∈ name isHead, ∃ routine ∈ dotted isHead,
    w = '$' :: '$' :: (label ++ '^' :: routine) := by
  simp only [labelCall, mul_assoc, Language.mem_mul, mem_exactly]
  constructor
  · rintro ⟨_, rfl, _, ⟨label, hlabel, _, ⟨_, rfl, routine, hroutine, rfl⟩, rfl⟩, rfl⟩
    exact ⟨label, hlabel, routine, hroutine, rfl⟩
  · rintro ⟨label, hlabel, routine, hroutine, rfl⟩
    exact ⟨_, rfl, _, ⟨label, hlabel, _, ⟨_, rfl, routine, hroutine, rfl⟩, rfl⟩, rfl⟩

theorem labelCall?_append {label routine : List Char} (hlabel : label ∈ name isHead)
    (hroutine : routine ∈ dotted isHead) (rest : List Char) :
    let whole := routine ++ (dottedTail isHead rest).1
    labelCall? ('$' :: '$' :: (label ++ '^' :: routine) ++ rest) =
      some { raw := '$' :: '$' :: label ++ '^' :: whole
             query := label ++ '^' :: whole
             symbol := whole } := by
  obtain ⟨c, u, hc, hu, rfl⟩ := mem_name.mp hlabel
  have labelRead : name? isHead (c :: u ++ '^' :: (routine ++ rest)) =
      some (c :: u, '^' :: (routine ++ rest)) := by
    have caret : isWord '^' = false := by decide
    rw [name?_append hc hu]
    simp [caret]
  have split : '$' :: '$' :: (c :: u ++ '^' :: routine) ++ rest =
      '$' :: '$' :: (c :: u ++ '^' :: (routine ++ rest)) := by simp
  rw [split]
  simp only [labelCall?, dropChar?, if_true, Option.bind_eq_bind, Option.bind_some, labelRead,
    dotted?_append hroutine, Option.pure_def]

theorem mem_labelCall_of_labelCall? {cs : List Char} {hit : Hit} (h : labelCall? cs = some hit) :
    hit.raw ∈ labelCall := by
  obtain ⟨c, u, rest, after, hc, hu, hsymbol, hraw, _⟩ := labelCall?_eq_some h
  rw [hraw]
  exact mem_labelCall.mpr
    ⟨c :: u, mem_name.mpr ⟨c, u, hc, hu, rfl⟩, hit.symbol, mem_dotted_of_dotted? hsymbol, rfl⟩

theorem mem_routine : w ∈ routine ↔ ∃ sign c t, (sign = [] ∨ sign = ['%']) ∧ isLetter c = true ∧
    Tail isHead t ∧ w = '^' :: (sign ++ c :: t) := by
  have tailed : routine = exactly "^" * ((1 + exactly "%") * (oneOf isLetter * tails isHead)) := by
    simp only [routine, tails, mul_assoc]
  rw [tailed]
  constructor
  · rintro ⟨_, rfl, _, ⟨sign, hsign, _, ⟨_, ⟨c, hc, rfl⟩, t, ht, rfl⟩, rfl⟩, rfl⟩
    exact ⟨sign, c, t, hsign, hc, mem_tails.mp ht, rfl⟩
  · rintro ⟨sign, c, t, hsign, hc, ht, rfl⟩
    exact ⟨_, rfl, _, ⟨sign, hsign, _, ⟨_, ⟨c, hc, rfl⟩, t, mem_tails.mpr ht, rfl⟩, rfl⟩, rfl⟩

theorem routineName?_append {sign : List Char} {c : Char} (hsign : sign = [] ∨ sign = ['%'])
    (hc : isLetter c = true) (cs : List Char) :
    routineName? (sign ++ c :: cs) = some (sign ++ c :: (dottedTail isHead cs).1) := by
  have percent : isLetter '%' = false := by decide
  rcases hsign with rfl | rfl
  · cases cs with
    | nil => simp [routineName?, hc, dottedTail]
    | cons d cs => simp [routineName?, hc]
  · simp [routineName?, hc, percent]

theorem routineName?_eq_some {cs found : List Char} (h : routineName? cs = some found) :
    ∃ sign c rest, (sign = [] ∨ sign = ['%']) ∧ isLetter c = true ∧
      found = sign ++ c :: (dottedTail isHead rest).1 := by
  match cs with
  | [] => cases h
  | [c] =>
      by_cases letter : isLetter c = true
      · rw [routineName?, if_pos letter] at h
        cases h
        exact ⟨[], c, [], .inl rfl, letter, rfl⟩
      · simp [routineName?, letter] at h
  | c :: d :: rest =>
      by_cases letter : isLetter c = true
      · rw [routineName?, if_pos letter] at h
        cases h
        exact ⟨[], c, d :: rest, .inl rfl, letter, rfl⟩
      · by_cases percent : (c = '%' && isLetter d) = true
        · rw [routineName?, if_neg letter, if_pos percent] at h
          cases h
          rw [Bool.and_eq_true, decide_eq_true_eq] at percent
          rw [percent.1]
          exact ⟨['%'], d, rest, .inr rfl, percent.2, rfl⟩
        · simp [routineName?, letter, percent] at h

theorem routine?_append {sign t : List Char} {c : Char} (hsign : sign = [] ∨ sign = ['%'])
    (hc : isLetter c = true) (ht : Tail isHead t) (rest : List Char) :
    let whole := sign ++ c :: (t ++ (dottedTail isHead rest).1)
    routine? ('^' :: (sign ++ c :: t) ++ rest) =
      some { raw := '^' :: whole, query := '^' :: whole, symbol := whole } := by
  have named := routineName?_append hsign hc (t ++ rest)
  rw [dottedTail_append_of_tail ht] at named
  have split : '^' :: (sign ++ c :: t) ++ rest = '^' :: (sign ++ c :: (t ++ rest)) := by simp
  rw [split]
  simp only [routine?, dropChar?, if_true, Option.bind_eq_bind, Option.bind_some, named,
    Option.pure_def]

theorem mem_routine_of_routine? {cs : List Char} {hit : Hit} (h : routine? cs = some hit) :
    hit.raw ∈ routine := by
  obtain ⟨after, hname, hraw, _⟩ := routine?_eq_some h
  obtain ⟨sign, c, rest, hsign, hc, found⟩ := routineName?_eq_some hname
  rw [hraw, found]
  exact mem_routine.mpr ⟨sign, c, _, hsign, hc, tail_dottedTail isHead rest, rfl⟩

theorem mem_macroCall : w ∈ macroCall ↔ ∃ c u, isHead c = true ∧
    (∀ d ∈ u, isMacroChar d = true) ∧ w = '$' :: '$' :: '$' :: c :: u := by
  simp only [macroCall, mul_assoc]
  constructor
  · rintro ⟨_, rfl, _, ⟨_, ⟨c, hc, rfl⟩, u, hu, rfl⟩, rfl⟩
    exact ⟨c, u, hc, mem_star_oneOf.mp hu, rfl⟩
  · rintro ⟨c, u, hc, hu, rfl⟩
    exact ⟨_, rfl, _, ⟨_, ⟨c, hc, rfl⟩, u, mem_star_oneOf.mpr hu, rfl⟩, rfl⟩

theorem macroCall?_append {c : Char} {u : List Char} (hc : isHead c = true)
    (hu : ∀ d ∈ u, isMacroChar d = true) (rest : List Char) :
    let whole := c :: (u ++ rest.takeWhile isMacroChar)
    macroCall? ('$' :: '$' :: '$' :: c :: u ++ rest) =
      some { raw := '$' :: '$' :: '$' :: whole
             query := '$' :: '$' :: '$' :: whole
             symbol := whole } := by
  simp only [macroCall?, List.cons_append, dropChar?, if_true, Option.bind_eq_bind,
    Option.bind_some, macroName?, hc, List.takeWhile_append_of_pos hu, Option.pure_def]

theorem mem_macroCall_of_macroCall? {cs : List Char} {hit : Hit} (h : macroCall? cs = some hit) :
    hit.raw ∈ macroCall := by
  obtain ⟨c, u, _, hc, hu, hraw, _⟩ := macroCall?_eq_some h
  rw [hraw]
  exact mem_macroCall.mpr ⟨c, u, hc, hu, rfl⟩

/-! ## Blanks and keywords -/

/-- The blank characters. -/
def blankChars : List Char :=
  blankRanges.flatMap fun r => (List.range' r.1 (r.2 + 1 - r.1)).map Char.ofNat

theorem mem_blankChars {c : Char} (h : isBlank c = true) : c ∈ blankChars := by
  obtain ⟨r, hr, low, high⟩ := exists_range_of_inRanges h
  refine List.mem_flatMap.mpr ⟨r, hr, List.mem_map.mpr ⟨c.toNat, ?_, Char.ofNat_toNat c⟩⟩
  rw [List.mem_range'_1]
  omega

theorem not_blank_of_isFoldedHead {c : Char} (h : isFoldedHead c = true) : isBlank c = false := by
  have apart : (blankChars.all fun b => !isFoldedHead b) = true := by decide +kernel
  refine Bool.eq_false_iff.mpr fun blank => ?_
  have other := List.all_eq_true.mp apart c (mem_blankChars blank)
  rw [h] at other
  cases other

theorem not_continuesName_of_isBlank {c : Char} (h : isBlank c = true) :
    continuesName c = false := by
  have apart : (blankChars.all fun b => !continuesName b) = true := by decide +kernel
  simpa using List.all_eq_true.mp apart c (mem_blankChars h)

theorem exists_blanks (cs : List Char) : ∃ b ∈ blanks, cs = b ++ trimStart cs := by
  refine ⟨cs.takeWhile isBlank, mem_star_oneOf.mpr fun c hc => ?_,
    List.takeWhile_append_dropWhile.symm⟩
  exact List.all_eq_true.mp List.all_takeWhile c hc

theorem trimStart_append {b rest : List Char} (hb : b ∈ blanks) (stops : Stops isBlank rest) :
    trimStart (b ++ rest) = rest :=
  dropWhile_append (mem_star_oneOf.mp hb) stops

theorem stops_of_blanks {b rest : List Char} (hb : b ∈ blanks) (stops : Stops continuesName rest) :
    Stops continuesName (b ++ rest) := by
  cases b with
  | nil => exact stops
  | cons c b =>
      rintro _ ⟨⟩
      exact not_continuesName_of_isBlank (mem_star_oneOf.mp hb c List.mem_cons_self)

theorem dropKeyword?_eq_some {keyword cs rest : List Char}
    (h : dropKeyword? keyword cs = some rest) : ∃ k, k.map fold = keyword ∧ cs = k ++ rest := by
  induction keyword generalizing cs with
  | nil =>
      cases h
      exact ⟨[], rfl, rfl⟩
  | cons l keyword ih =>
      obtain ⟨c, cs, rfl, same, later⟩ := dropKeyword?_cons h
      obtain ⟨k, hk, rfl⟩ := ih later
      exact ⟨c :: k, by rw [List.map_cons, same, hk], rfl⟩

theorem dropKeyword?_append (k rest : List Char) :
    dropKeyword? (k.map fold) (k ++ rest) = some rest := by
  induction k with
  | nil => rfl
  | cons c k ih => simpa [dropKeyword?] using ih

/-! ## Class references -/

/-- A class reference up to the closing parenthesis. -/
def className : Language Char :=
  exactly "##" * ignoringCase "class" * blanks * exactly "(" * blanks * dotted isFoldedHead *
    blanks * exactly ")"

theorem classRef_eq : classRef = className * (1 + member) := rfl

/-- Class references up to the closing parenthesis whose names are of a language. -/
theorem mem_classNamed {names : Language Char} :
    w ∈ exactly "##" * ignoringCase "class" * blanks * exactly "(" * blanks * names * blanks *
        exactly ")" ↔
      ∃ k ∈ ignoringCase "class", ∃ b₁ ∈ blanks, ∃ b₂ ∈ blanks, ∃ n ∈ names, ∃ b₃ ∈ blanks,
        w = '#' :: '#' :: (k ++ (b₁ ++ '(' :: (b₂ ++ (n ++ (b₃ ++ [')']))))) := by
  simp only [mul_assoc]
  constructor
  · rintro ⟨_, rfl, _, ⟨k, hk, _, ⟨b₁, h₁, _, ⟨_, rfl, _, ⟨b₂, h₂, _, ⟨n, hn, _, ⟨b₃, h₃, _, rfl,
      rfl⟩, rfl⟩, rfl⟩, rfl⟩, rfl⟩, rfl⟩, rfl⟩
    exact ⟨k, hk, b₁, h₁, b₂, h₂, n, hn, b₃, h₃, rfl⟩
  · rintro ⟨k, hk, b₁, h₁, b₂, h₂, n, hn, b₃, h₃, rfl⟩
    exact ⟨_, rfl, _, ⟨k, hk, _, ⟨b₁, h₁, _, ⟨_, rfl, _, ⟨b₂, h₂, _, ⟨n, hn, _, ⟨b₃, h₃, _, rfl,
      rfl⟩, rfl⟩, rfl⟩, rfl⟩, rfl⟩, rfl⟩, rfl⟩

theorem mem_className : w ∈ className ↔ ∃ k ∈ ignoringCase "class", ∃ b₁ ∈ blanks, ∃ b₂ ∈ blanks,
    ∃ n ∈ dotted isFoldedHead, ∃ b₃ ∈ blanks,
      w = '#' :: '#' :: (k ++ (b₁ ++ '(' :: (b₂ ++ (n ++ (b₃ ++ [')']))))) :=
  mem_classNamed

/-- Members whose names are of a language. -/
theorem mem_memberNamed {names : Language Char} : w ∈ blanks * exactly "." * blanks * names ↔
    ∃ b₁ ∈ blanks, ∃ b₂ ∈ blanks, ∃ n ∈ names, w = b₁ ++ '.' :: (b₂ ++ n) := by
  simp only [mul_assoc]
  constructor
  · rintro ⟨b₁, h₁, _, ⟨_, rfl, _, ⟨b₂, h₂, n, hn, rfl⟩, rfl⟩, rfl⟩
    exact ⟨b₁, h₁, b₂, h₂, n, hn, rfl⟩
  · rintro ⟨b₁, h₁, b₂, h₂, n, hn, rfl⟩
    exact ⟨b₁, h₁, _, ⟨_, rfl, _, ⟨b₂, h₂, n, hn, rfl⟩, rfl⟩, rfl⟩

theorem mem_member : w ∈ member ↔ ∃ b₁ ∈ blanks, ∃ b₂ ∈ blanks, ∃ n ∈ name isFoldedHead,
    w = b₁ ++ '.' :: (b₂ ++ n) :=
  mem_memberNamed

theorem member?_append {b₁ b₂ n : List Char} (h₁ : b₁ ∈ blanks) (h₂ : b₂ ∈ blanks)
    (hn : n ∈ name isFoldedHead) (rest : List Char) :
    member? (b₁ ++ '.' :: (b₂ ++ n) ++ rest) =
      some (n ++ rest.takeWhile isWord, rest.dropWhile isWord) := by
  obtain ⟨c, u, hc, hu, rfl⟩ := mem_name.mp hn
  have dot : Stops isBlank ('.' :: (b₂ ++ (c :: u ++ rest))) := by
    rintro _ ⟨⟩
    decide
  have headed : Stops isBlank (c :: u ++ rest) := by
    rintro _ ⟨⟩
    exact not_blank_of_isFoldedHead hc
  have split : b₁ ++ '.' :: (b₂ ++ c :: u) ++ rest = b₁ ++ '.' :: (b₂ ++ (c :: u ++ rest)) := by
    simp
  rw [split]
  simp only [member?, trimStart_append h₁ dot, dropChar?, if_true, Option.bind_eq_bind,
    Option.bind_some, trimStart_append h₂ headed, name?_append hc hu]
  rfl

theorem member?_eq_some {cs found rest : List Char} (h : member? cs = some (found, rest)) :
    ∃ b₁ ∈ blanks, ∃ b₂ ∈ blanks, found ∈ name isFoldedHead ∧
      cs = b₁ ++ '.' :: (b₂ ++ found) ++ rest := by
  simp only [member?, Option.bind_eq_bind, Option.bind_eq_some_iff, dropChar?_eq_some] at h
  obtain ⟨afterDot, hdot, hname⟩ := h
  obtain ⟨b₁, h₁, hcs⟩ := exists_blanks cs
  obtain ⟨b₂, h₂, hafter⟩ := exists_blanks afterDot
  obtain ⟨_, _, _, _, _, hn⟩ := name?_eq_some hname
  refine ⟨b₁, h₁, b₂, h₂, mem_name_of_name? hname, ?_⟩
  rw [hcs, hdot, hafter, hn]
  simp

/-- What is read as a member from the start of a text, blanks and dot with it. -/
def memberPart (cs : List Char) : List Char :=
  match member? cs with
  | none => []
  | some (_, rest) => cs.take (cs.length - rest.length)

theorem take_length_sub (w rest : List Char) :
    (w ++ rest).take ((w ++ rest).length - rest.length) = w := by
  simp

theorem memberPart_mem (cs : List Char) :
    memberPart cs ∈ 1 + member ∧ ∃ rest, cs = memberPart cs ++ rest := by
  unfold memberPart
  split
  next => exact ⟨.inl rfl, cs, rfl⟩
  next _ found rest h =>
    obtain ⟨b₁, h₁, b₂, h₂, hn, rfl⟩ := member?_eq_some h
    rw [take_length_sub]
    exact ⟨.inr (mem_member.mpr ⟨b₁, h₁, b₂, h₂, found, hn, rfl⟩), rest, rfl⟩

theorem memberPart_append (h : w ∈ 1 + member) (rest : List Char) :
    ∃ more, memberPart (w ++ rest) = w ++ more := by
  rcases h with rfl | h
  · exact ⟨_, rfl⟩
  · obtain ⟨b₁, h₁, b₂, h₂, n, hn, hw⟩ := mem_member.mp h
    have hfound := member?_append h₁ h₂ hn rest
    rw [← hw] at hfound
    refine ⟨rest.takeWhile isWord, ?_⟩
    have split : w ++ rest = w ++ rest.takeWhile isWord ++ rest.dropWhile isWord := by
      rw [List.append_assoc, List.takeWhile_append_dropWhile]
    unfold memberPart
    rw [hfound]
    dsimp only
    nth_rewrite 1 [split]
    nth_rewrite 1 [split]
    exact take_length_sub _ _

/-- A class reference without blanks and with its keyword in lower case. -/
def classText (name : List Char) (member : Option (List Char)) : List Char :=
  "##class(".toList ++ name ++ [')'] ++ (member.map ('.' :: ·)).getD []

theorem classRef?_front_append {k b₁ b₂ n b₃ : List Char} (hk : k ∈ ignoringCase "class")
    (h₁ : b₁ ∈ blanks) (h₂ : b₂ ∈ blanks) (hn : n ∈ dotted isFoldedHead) (h₃ : b₃ ∈ blanks)
    (after : List Char) :
    let front := '#' :: '#' :: (k ++ (b₁ ++ '(' :: (b₂ ++ (n ++ (b₃ ++ [')'])))))
    classRef? (front ++ after) =
      some { raw := front ++ memberPart after
             query := classText n ((member? after).map Prod.fst)
             symbol := n } := by
  intro front
  obtain ⟨c, t, hc, ht, hnt⟩ := mem_dotted.mp hn
  have keyword : "##class".toList = ('#' :: '#' :: k).map fold := by
    rw [List.map_cons, List.map_cons, mem_ignoringCase.mp hk]
    rfl
  have opened : Stops isBlank ('(' :: (b₂ ++ (n ++ (b₃ ++ ')' :: after)))) := by
    rintro _ ⟨⟩
    decide
  have headed : Stops isBlank (n ++ (b₃ ++ ')' :: after)) := by
    rw [hnt]
    rintro _ ⟨⟩
    exact not_blank_of_isFoldedHead hc
  have ended : Stops continuesName (b₃ ++ ')' :: after) := by
    apply stops_of_blanks h₃
    rintro _ ⟨⟩
    decide
  have closed : Stops isBlank (')' :: after) := by
    rintro _ ⟨⟩
    decide
  have named : dotted? isFoldedHead (n ++ (b₃ ++ ')' :: after)) = some (n, b₃ ++ ')' :: after) := by
    rw [dotted?_append hn, dottedTail_of_stops ended, List.append_nil]
  have parts : front ++ after =
      '#' :: '#' :: k ++ (b₁ ++ '(' :: (b₂ ++ (n ++ (b₃ ++ ')' :: after)))) := by
    simp [front]
  clear_value front
  unfold classRef? memberPart
  rw [parts, keyword, dropKeyword?_append]
  simp only [Option.bind_eq_bind, Option.bind_some, trimStart_append h₁ opened, dropChar?, if_true,
    trimStart_append h₂ headed, named, trimStart_append h₃ closed]
  rw [← parts]
  cases hmember : member? after with
  | none =>
      have raw : (front ++ after).take ((front ++ after).length - after.length) = front ++ [] := by
        rw [take_length_sub, List.append_nil]
      refine congrArg some ?_
      congr 1
      exact (List.append_nil _).symm
  | some found =>
      obtain ⟨b₄, _, b₅, _, _, hm⟩ := member?_eq_some hmember
      have raw : (front ++ after).take ((front ++ after).length - found.2.length) =
          front ++ after.take (after.length - found.2.length) := by
        rw [hm, take_length_sub, ← List.append_assoc, take_length_sub]
      refine congrArg some ?_
      congr 1

theorem classRef?_append (h : w ∈ className) (after : List Char) :
    ∃ hit, classRef? (w ++ after) = some hit ∧ hit.raw = w ++ memberPart after := by
  obtain ⟨k, hk, b₁, h₁, b₂, h₂, n, hn, b₃, h₃, rfl⟩ := mem_className.mp h
  exact ⟨_, classRef?_front_append hk h₁ h₂ hn h₃ after, rfl⟩

theorem exists_front_of_classRef? {cs : List Char} {hit : Hit} (h : classRef? cs = some hit) :
    ∃ k ∈ ignoringCase "class", ∃ b₁ ∈ blanks, ∃ b₂ ∈ blanks, ∃ n ∈ dotted isFoldedHead,
      ∃ b₃ ∈ blanks, ∃ after,
        cs = '#' :: '#' :: (k ++ (b₁ ++ '(' :: (b₂ ++ (n ++ (b₃ ++ [')']))))) ++ after := by
  simp only [classRef?, Option.bind_eq_bind, Option.bind_eq_some_iff, Prod.exists,
    dropChar?_eq_some] at h
  obtain ⟨afterKeyword, hkeyword, afterOpen, hopen, n, afterName, hname, afterClose, hclose, _⟩ := h
  have spelled : "##class".toList = '#' :: '#' :: "class".toList := rfl
  rw [spelled] at hkeyword
  obtain ⟨c, cs₁, rfl, hash₁, second⟩ := dropKeyword?_cons hkeyword
  obtain ⟨d, cs₂, rfl, hash₂, letters⟩ := dropKeyword?_cons second
  obtain ⟨k, hk, rfl⟩ := dropKeyword?_eq_some letters
  obtain ⟨b₁, h₁, hb₁⟩ := exists_blanks afterKeyword
  obtain ⟨b₂, h₂, hb₂⟩ := exists_blanks afterOpen
  obtain ⟨b₃, h₃, hb₃⟩ := exists_blanks afterName
  obtain ⟨_, _, _, _, _, hn⟩ := dotted?_eq_some hname
  refine ⟨k, hk, b₁, h₁, b₂, h₂, n, mem_dotted_of_dotted? hname, b₃, h₃, afterClose, ?_⟩
  rw [eq_hash_of_fold hash₁, eq_hash_of_fold hash₂, hb₁, hopen, hb₂, hn, hb₃, hclose]
  simp

theorem mem_classRef_of_classRef? {cs : List Char} {hit : Hit} (h : classRef? cs = some hit) :
    hit.raw ∈ classRef := by
  obtain ⟨k, hk, b₁, h₁, b₂, h₂, n, hn, b₃, h₃, after, rfl⟩ := exists_front_of_classRef? h
  rw [classRef?_front_append hk h₁ h₂ hn h₃] at h
  cases h
  have front := mem_className.mpr ⟨k, hk, b₁, h₁, b₂, h₂, n, hn, b₃, h₃, rfl⟩
  rw [classRef_eq]
  exact Language.append_mem_mul front (memberPart_mem after).1

end RefNav.Grammar

namespace RefNav

open RefNav.Text RefNav.Shape

/-! ## The grammar of a shape -/

/-- The grammar of a shape. -/
def Kind.grammar : Kind → Language Char
  | .labelCall => Grammar.labelCall
  | .routine => Grammar.routine
  | .macroCall => Grammar.macroCall
  | .classRef => Grammar.classRef

variable {kind : Kind} {cs w : List Char} {hit : Hit}

theorem Kind.mem_grammar_of_recognise? (h : kind.recognise? cs = some hit) :
    hit.raw ∈ kind.grammar := by
  cases kind with
  | labelCall => exact Grammar.mem_labelCall_of_labelCall? h
  | routine => exact Grammar.mem_routine_of_routine? h
  | macroCall => exact Grammar.mem_macroCall_of_macroCall? h
  | classRef => exact Grammar.mem_classRef_of_classRef? h

/-- A text that begins with something of the grammar is recognised, and at least that much
is taken from it. -/
theorem Kind.recognise?_append_of_mem (h : w ∈ kind.grammar) (rest : List Char) :
    ∃ hit more, kind.recognise? (w ++ rest) = some hit ∧ hit.raw = w ++ more := by
  cases kind with
  | labelCall =>
      obtain ⟨label, hlabel, routine, hroutine, rfl⟩ := Grammar.mem_labelCall.mp h
      exact ⟨_, (dottedTail isHead rest).1, Grammar.labelCall?_append hlabel hroutine rest, by simp⟩
  | routine =>
      obtain ⟨sign, c, t, hsign, hc, ht, rfl⟩ := Grammar.mem_routine.mp h
      exact ⟨_, (dottedTail isHead rest).1, Grammar.routine?_append hsign hc ht rest, by simp⟩
  | macroCall =>
      obtain ⟨c, u, hc, hu, rfl⟩ := Grammar.mem_macroCall.mp h
      exact ⟨_, rest.takeWhile isMacroChar, Grammar.macroCall?_append hc hu rest, by simp⟩
  | classRef =>
      obtain ⟨front, hfront, m, hm, rfl⟩ := h
      obtain ⟨hit, taken, hraw⟩ := Grammar.classRef?_append hfront (m ++ rest)
      obtain ⟨more, hmore⟩ := Grammar.memberPart_append hm rest
      refine ⟨hit, more, ?_, ?_⟩
      · dsimp only
        rw [List.append_assoc]
        exact taken
      · dsimp only
        rw [hraw, hmore, List.append_assoc]

end RefNav
