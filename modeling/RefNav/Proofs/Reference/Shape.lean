import RefNav.Reference.Shape

/-! # What the shapes take

Every shape takes a first part of the text.  The characters of names are neither
dollar signs, carets nor hash signs, so these show where one shape can begin
inside another.
-/

namespace RefNav.Text

theorem isWord_of_isLetter {c : Char} (h : isLetter c = true) : isWord c = true := by
  have ranges : 97 ≤ c.toNat ∧ c.toNat ≤ 122 ∨ 65 ≤ c.toNat ∧ c.toNat ≤ 90 := by
    simpa [isLetter, Char.le_def, UInt32.le_iff_toNat_le] using h
  obtain ⟨table, htable⟩ :
      ∃ table, wordRanges = (48, 57) :: (65, 90) :: (95, 95) :: (97, 122) :: table := ⟨_, rfl⟩
  unfold isWord
  rw [htable]
  rcases ranges with small | capital
  · rw [inRanges, if_neg (by omega), if_neg (by omega), inRanges, if_neg (by omega),
      if_neg (by omega), inRanges, if_neg (by omega), if_neg (by omega), inRanges,
      if_neg (by omega), if_pos (by omega)]
  · rw [inRanges, if_neg (by omega), if_neg (by omega), inRanges, if_neg (by omega),
      if_pos (by omega)]

theorem eq_hash_of_fold {c : Char} (h : fold c = '#') : c = '#' := by
  unfold fold lower at h
  split at h
  · cases h
  split at h
  · cases h
  split at h
  · cases h
  split at h
  next capital =>
    have range : 65 ≤ c.toNat ∧ c.toNat ≤ 90 := by
      simpa [Char.le_def, UInt32.le_iff_toNat_le] using capital
    have small : (Char.ofNat (c.toNat + 32)).toNat = c.toNat + 32 := by
      rw [Char.ofNat, dif_pos (.inl (by omega))]
      rfl
    have hash : '#'.toNat = 35 := rfl
    rw [h] at small
    omega
  next => exact h

theorem dropKeyword?_cons {k : Char} {keyword cs rest : List Char}
    (h : dropKeyword? (k :: keyword) cs = some rest) :
    ∃ c cs', cs = c :: cs' ∧ fold c = k ∧ dropKeyword? keyword cs' = some rest := by
  cases cs with
  | nil => cases h
  | cons c cs =>
      rw [dropKeyword?] at h
      split at h
      next same => exact ⟨c, cs, rfl, same, h⟩
      next => cases h

end RefNav.Text

namespace RefNav.Shape

open RefNav.Text

/-! ## Names -/

/-- A character of a dotted name. -/
def isNameChar (c : Char) : Bool :=
  isWord c || c = '.' || c = '%'

theorem isNameChar_of_isWord {c : Char} (h : isWord c = true) : isNameChar c = true := by
  simp [isNameChar, h]

theorem isNameChar_of_isHead {c : Char} (h : isHead c = true) : isNameChar c = true := by
  unfold isHead at h
  rcases Bool.or_eq_true_iff.mp h with percent | letter
  · simp [isNameChar, percent]
  · exact isNameChar_of_isWord (isWord_of_isLetter letter)

theorem name?_eq_some {head : Char → Bool} {cs name rest : List Char}
    (h : name? head cs = some (name, rest)) :
    ∃ c tail, head c = true ∧ (∀ d ∈ tail, isWord d = true) ∧ name = c :: tail ∧
      cs = name ++ rest := by
  cases cs with
  | nil => cases h
  | cons c cs =>
      by_cases hc : head c = true
      · simp only [name?, hc, if_true, Option.some.injEq, Prod.mk.injEq] at h
        obtain ⟨rfl, rfl⟩ := h
        refine ⟨c, cs.takeWhile isWord, hc, fun d hd => ?_, rfl, ?_⟩
        · exact List.all_eq_true.mp List.all_takeWhile d hd
        · rw [List.cons_append, List.takeWhile_append_dropWhile]
      · simp [name?, hc] at h

theorem dottedTail_append (head : Char → Bool) (cs : List Char) :
    (dottedTail head cs).1 ++ (dottedTail head cs).2 = cs := by
  fun_induction dottedTail head cs with
  | case1 => rfl
  | case2 => rfl
  | case3 => rfl
  | case4 c d rest word tail ih => rw [List.cons_append, ih]
  | case5 c d rest noWord dot tail ih => rw [List.cons_append, List.cons_append, ih]
  | case6 => rfl

theorem dottedTail_cons_of_isWord {head : Char → Bool} {c : Char} (h : isWord c = true)
    (cs : List Char) :
    dottedTail head (c :: cs) = (c :: (dottedTail head cs).1, (dottedTail head cs).2) := by
  cases cs with
  | nil => simp [dottedTail, h]
  | cons d rest => simp [dottedTail, h]

theorem mem_dottedTail {head : Char → Bool} {cs : List Char} {d : Char}
    (h : d ∈ (dottedTail head cs).1) : isWord d = true ∨ d = '.' ∨ head d = true := by
  fun_induction dottedTail head cs with
  | case1 => cases h
  | case2 c word => exact .inl (by rwa [List.mem_singleton.mp h])
  | case3 => cases h
  | case4 c e rest word tail ih =>
      rcases List.mem_cons.mp h with rfl | later
      · exact .inl word
      · exact ih later
  | case5 c e rest noWord dot tail ih =>
      rw [Bool.and_eq_true, decide_eq_true_eq] at dot
      rcases List.mem_cons.mp h with rfl | later
      · exact .inr (.inl dot.1)
      · rcases List.mem_cons.mp later with rfl | later
        · exact .inr (.inr dot.2)
        · exact ih later
  | case6 => cases h

theorem isNameChar_of_mem_dottedTail {cs : List Char} {d : Char}
    (h : d ∈ (dottedTail isHead cs).1) : isNameChar d = true := by
  rcases mem_dottedTail h with word | rfl | head
  · exact isNameChar_of_isWord word
  · rfl
  · exact isNameChar_of_isHead head

theorem dotted?_eq_some {head : Char → Bool} {cs name rest : List Char}
    (h : dotted? head cs = some (name, rest)) :
    ∃ c cs', cs = c :: cs' ∧ head c = true ∧ name = c :: (dottedTail head cs').1 ∧
      cs = name ++ rest := by
  cases cs with
  | nil => cases h
  | cons c cs =>
      by_cases hc : head c = true
      · simp only [dotted?, hc, if_true, Option.some.injEq, Prod.mk.injEq] at h
        obtain ⟨rfl, rfl⟩ := h
        exact ⟨c, cs, rfl, hc, rfl, by rw [List.cons_append, dottedTail_append]⟩
      · simp [dotted?, hc] at h

theorem dotted?_cons_of_head {head : Char → Bool} {c : Char} (h : head c = true)
    (cs : List Char) :
    dotted? head (c :: cs) = some (c :: (dottedTail head cs).1, (dottedTail head cs).2) := by
  simp [dotted?, h]

theorem dropChar?_eq_some {c : Char} {cs rest : List Char} :
    dropChar? c cs = some rest ↔ cs = c :: rest := by
  cases cs with
  | nil => simp [dropChar?]
  | cons d cs =>
      by_cases same : d = c
      · simp [dropChar?, same]
      · simp [dropChar?, same]

/-! ## Label calls, routines and macros -/

theorem labelCall?_eq_some {cs : List Char} {hit : Hit} (h : labelCall? cs = some hit) :
    ∃ c tail rest after, isHead c = true ∧ (∀ d ∈ tail, isWord d = true) ∧
      dotted? isHead after = some (hit.symbol, rest) ∧
      hit.raw = '$' :: '$' :: c :: tail ++ '^' :: hit.symbol ∧
      cs = '$' :: '$' :: c :: tail ++ '^' :: after := by
  simp only [labelCall?, Option.bind_eq_bind, Option.bind_eq_some_iff, dropChar?_eq_some,
    Option.pure_def, Option.some.injEq, Prod.exists] at h
  obtain ⟨_, rfl, _, rfl, label, _, hlabel, after, rfl, routine, rest, hroutine, rfl⟩ := h
  obtain ⟨c, tail, head, words, rfl, rfl⟩ := name?_eq_some hlabel
  exact ⟨c, tail, rest, after, head, words, hroutine, rfl, rfl⟩

theorem routine?_eq_some {cs : List Char} {hit : Hit} (h : routine? cs = some hit) :
    ∃ after, routineName? after = some hit.symbol ∧ hit.raw = '^' :: hit.symbol ∧
      cs = '^' :: after := by
  simp only [routine?, Option.bind_eq_bind, Option.bind_eq_some_iff, dropChar?_eq_some,
    Option.pure_def, Option.some.injEq] at h
  obtain ⟨after, rfl, name, hname, rfl⟩ := h
  exact ⟨after, hname, rfl, rfl⟩

theorem macroCall?_eq_some {cs : List Char} {hit : Hit} (h : macroCall? cs = some hit) :
    ∃ c tail rest, isHead c = true ∧ (∀ d ∈ tail, isMacroChar d = true) ∧
      hit.raw = '$' :: '$' :: '$' :: c :: tail ∧ cs = hit.raw ++ rest := by
  simp only [macroCall?, Option.bind_eq_bind, Option.bind_eq_some_iff, dropChar?_eq_some,
    Option.pure_def, Option.some.injEq] at h
  obtain ⟨_, rfl, _, rfl, after, rfl, name, hname, rfl⟩ := h
  cases after with
  | nil => cases hname
  | cons c after =>
      by_cases head : isHead c = true
      · simp only [macroName?, head, if_true, Option.some.injEq] at hname
        subst hname
        refine ⟨c, after.takeWhile isMacroChar, after.dropWhile isMacroChar, head, fun d hd => ?_,
          rfl, ?_⟩
        · exact List.all_eq_true.mp List.all_takeWhile d hd
        · simp only [List.cons_append, List.takeWhile_append_dropWhile]
      · simp [macroName?, head] at hname

/-- The name of a routine is a dotted name, as in a label call. -/
theorem dotted?_of_routineName? {cs name : List Char} (h : routineName? cs = some name) :
    ∃ rest, dotted? isHead cs = some (name, rest) := by
  match cs with
  | [] => cases h
  | [c] =>
      by_cases letter : isLetter c = true
      · rw [routineName?, if_pos letter] at h
        cases h
        exact ⟨_, dotted?_cons_of_head (by simp [isHead, letter]) []⟩
      · simp [routineName?, letter] at h
  | c :: d :: rest =>
      by_cases letter : isLetter c = true
      · rw [routineName?, if_pos letter] at h
        cases h
        exact ⟨_, dotted?_cons_of_head (by simp [isHead, letter]) (d :: rest)⟩
      · by_cases percent : (c = '%' && isLetter d) = true
        · rw [routineName?, if_neg letter, if_pos percent] at h
          cases h
          rw [Bool.and_eq_true] at percent
          have head : isHead c = true := by simp [isHead, percent.1]
          have hd := dotted?_cons_of_head head (d :: rest)
          rw [dottedTail_cons_of_isWord (isWord_of_isLetter percent.2)] at hd
          exact ⟨_, hd⟩
        · simp [routineName?, letter, percent] at h

/-! ## Class references -/

/-- A character of a class reference. -/
def isClassChar (c : Char) : Bool :=
  c = '#' || c = '(' || c = ')' || c = '.' || isBlank c || isFoldedHead c || isWord c

/-- `rest` is left of a text after some characters of a class reference. -/
def Leaves (cs rest : List Char) : Prop :=
  ∃ taken, cs = taken ++ rest ∧ ∀ c ∈ taken, isClassChar c = true

namespace Leaves

variable {cs middle rest : List Char}

theorem trans (first : Leaves cs middle) (second : Leaves middle rest) : Leaves cs rest := by
  obtain ⟨taken, rfl, chars⟩ := first
  obtain ⟨more, rfl, moreChars⟩ := second
  refine ⟨taken ++ more, by rw [List.append_assoc], fun c hc => ?_⟩
  rcases List.mem_append.mp hc with hc | hc
  · exact chars c hc
  · exact moreChars c hc

theorem of_dropChar? {c : Char} (hc : isClassChar c = true) (h : dropChar? c cs = some rest) :
    Leaves cs rest := by
  rw [dropChar?_eq_some] at h
  exact ⟨[c], h, by simp [hc]⟩

theorem trimStart (cs : List Char) : Leaves cs (trimStart cs) := by
  refine ⟨cs.takeWhile isBlank, List.takeWhile_append_dropWhile.symm, fun c hc => ?_⟩
  have blank := List.all_eq_true.mp List.all_takeWhile c hc
  simp [isClassChar, blank]

theorem of_name? {name : List Char} (h : name? isFoldedHead cs = some (name, rest)) :
    Leaves cs rest := by
  obtain ⟨c, tail, head, words, rfl, rfl⟩ := name?_eq_some h
  refine ⟨c :: tail, rfl, fun d hd => ?_⟩
  rcases List.mem_cons.mp hd with rfl | later
  · simp [isClassChar, head]
  · simp [isClassChar, words d later]

theorem of_dotted? {name : List Char} (h : dotted? isFoldedHead cs = some (name, rest)) :
    Leaves cs rest := by
  obtain ⟨c, tail, _, head, rfl, rfl⟩ := dotted?_eq_some h
  refine ⟨_, rfl, fun d hd => ?_⟩
  rcases List.mem_cons.mp hd with rfl | later
  · simp [isClassChar, head]
  · rcases mem_dottedTail later with word | rfl | head
    · simp [isClassChar, word]
    · rfl
    · simp [isClassChar, head]

theorem of_member? {name : List Char} (h : member? cs = some (name, rest)) : Leaves cs rest := by
  simp only [member?, Option.bind_eq_bind, Option.bind_eq_some_iff] at h
  obtain ⟨afterDot, hdot, hname⟩ := h
  exact (((trimStart cs).trans (of_dropChar? rfl hdot)).trans (trimStart afterDot)).trans
    (of_name? hname)

/-- The keyword consists of hash signs and letters of either case. -/
theorem of_dropKeyword? {keyword : List Char}
    (letters : ∀ k ∈ keyword, k = '#' ∨ isLetter k = true)
    (h : dropKeyword? keyword cs = some rest) : Leaves cs rest := by
  induction keyword generalizing cs with
  | nil =>
      cases h
      exact ⟨[], rfl, nofun⟩
  | cons k keyword ih =>
      obtain ⟨c, cs, rfl, same, hrest⟩ := dropKeyword?_cons h
      have later := ih (fun l hl => letters l (List.mem_cons_of_mem k hl)) hrest
      have first : isClassChar c = true := by
        rcases letters k List.mem_cons_self with hash | letter
        · rw [eq_hash_of_fold (same.trans hash)]
          rfl
        · have folded : isFoldedHead c = true := by
            simp [isFoldedHead, isFoldedLetter, same, letter]
          simp [isClassChar, folded]
      exact trans ⟨[c], rfl, by simp [first]⟩ later

end Leaves

theorem classRef?_eq_some {cs : List Char} {hit : Hit} (h : classRef? cs = some hit) :
    ∃ taken rest, (∀ c ∈ taken, isClassChar c = true) ∧ hit.raw = '#' :: taken ∧
      cs = '#' :: taken ++ rest := by
  simp only [classRef?, Option.bind_eq_bind, Option.bind_eq_some_iff, Prod.exists] at h
  obtain ⟨afterKeyword, hkeyword, afterOpen, hopen, name, afterName, hname, afterClose, hclose,
    h⟩ := h
  have spelled : "##class".toList = '#' :: "#class".toList := rfl
  rw [spelled] at hkeyword
  obtain ⟨c, cs, rfl, hash, hkeyword⟩ := dropKeyword?_cons hkeyword
  cases eq_hash_of_fold hash
  have keyword : Leaves cs afterKeyword := .of_dropKeyword? (by simp [isLetter]) hkeyword
  have opened : Leaves cs afterOpen :=
    (keyword.trans (.trimStart _)).trans (.of_dropChar? rfl hopen)
  have named : Leaves cs afterName := (opened.trans (.trimStart _)).trans (.of_dotted? hname)
  have closed : Leaves cs afterClose :=
    (named.trans (.trimStart _)).trans (.of_dropChar? rfl hclose)
  have ends : ∃ rest, Leaves cs rest ∧
      hit.raw = ('#' :: cs).take (('#' :: cs).length - rest.length) := by
    cases hmember : member? afterClose with
    | none =>
        simp only [hmember, Option.pure_def, Option.some.injEq] at h
        subst h
        exact ⟨afterClose, closed, rfl⟩
    | some found =>
        simp only [hmember, Option.pure_def, Option.some.injEq] at h
        subst h
        exact ⟨found.2, closed.trans (.of_member? hmember), rfl⟩
  obtain ⟨rest, ⟨taken, rfl, chars⟩, hraw⟩ := ends
  refine ⟨taken, rest, chars, ?_, rfl⟩
  have shorter : ('#' :: (taken ++ rest)).length - rest.length = ('#' :: taken).length := by
    simp only [List.length_cons, List.length_append]
    omega
  rw [hraw, shorter, ← List.cons_append, List.take_left']
  rfl

end RefNav.Shape

namespace RefNav

open RefNav.Shape

/-- A shape takes a first part of the text, and not nothing. -/
theorem Kind.recognise?_append {kind : Kind} {cs : List Char} {hit : Hit}
    (h : kind.recognise? cs = some hit) : hit.raw ≠ [] ∧ ∃ rest, cs = hit.raw ++ rest := by
  cases kind with
  | labelCall =>
      obtain ⟨c, tail, rest, after, _, _, hsymbol, hraw, rfl⟩ := labelCall?_eq_some h
      obtain ⟨_, _, _, _, _, hafter⟩ := dotted?_eq_some hsymbol
      rw [hraw, hafter]
      exact ⟨nofun, rest, by simp⟩
  | routine =>
      obtain ⟨after, hsymbol, hraw, rfl⟩ := routine?_eq_some h
      obtain ⟨rest, hdotted⟩ := dotted?_of_routineName? hsymbol
      obtain ⟨_, _, _, _, _, hafter⟩ := dotted?_eq_some hdotted
      rw [hraw, hafter]
      exact ⟨nofun, rest, rfl⟩
  | macroCall =>
      obtain ⟨c, tail, rest, _, _, hraw, hcs⟩ := macroCall?_eq_some h
      exact ⟨by simp [hraw], rest, hcs⟩
  | classRef =>
      obtain ⟨taken, rest, _, hraw, rfl⟩ := classRef?_eq_some h
      rw [hraw]
      exact ⟨nofun, rest, rfl⟩

end RefNav
