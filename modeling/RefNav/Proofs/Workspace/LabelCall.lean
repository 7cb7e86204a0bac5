import Mathlib.Data.List.TakeWhile
import RefNav.Proofs.Reference.Recognition
import RefNav.Proofs.Workspace.Labels
import RefNav.Workspace.Lookup

/-! # Following label calls

References spell a label as an identifier, with word characters of any script; the table of
labels goes by plain names, of ASCII letters and digits.  A call of a label is followed to
the first line that starts with the label's plain name.  That is the line of the label for
every label of a file exactly if no line of the file starts with an identifier that is not
plain.
-/

namespace RefNav

open RefNav.Text RefNav.Shape
open scoped Computability

namespace Text

theorem toNat_of_isDigit {c : Char} (h : isDigit c = true) : 48 ≤ c.toNat ∧ c.toNat ≤ 57 := by
  simpa [isDigit, Char.le_def, UInt32.le_iff_toNat_le] using h

theorem isWord_of_isDigit {c : Char} (h : isDigit c = true) : isWord c = true := by
  have range := toNat_of_isDigit h
  obtain ⟨table, htable⟩ : ∃ table, wordRanges = (48, 57) :: table := ⟨_, rfl⟩
  unfold isWord
  rw [htable, inRanges, if_neg (by omega), if_pos (by omega)]

theorem isWord_of_isLetterOrDigit {c : Char} (h : isLetterOrDigit c = true) : isWord c = true := by
  rcases Bool.or_eq_true_iff.mp h with letter | digit
  · exact isWord_of_isLetter letter
  · exact isWord_of_isDigit digit

/-- A longest run of word characters that are all letters or digits is the longest run of
letters or digits. -/
theorem takeWhile_isLetterOrDigit {cs : List Char}
    (h : ∀ c ∈ cs.takeWhile isWord, isLetterOrDigit c = true) :
    cs.takeWhile isLetterOrDigit = cs.takeWhile isWord := by
  induction cs with
  | nil => rfl
  | cons c cs ih =>
      by_cases word : isWord c = true
      · rw [List.takeWhile_cons_of_pos word] at h ⊢
        have here := h c List.mem_cons_self
        rw [List.takeWhile_cons_of_pos here, ih fun d hd => h d (List.mem_cons_of_mem _ hd)]
      · have other : ¬ isLetterOrDigit c = true := fun h => word (isWord_of_isLetterOrDigit h)
        rw [List.takeWhile_cons_of_neg word, List.takeWhile_cons_of_neg other]

end Text

/-! ## Plain names -/

/-- Plain names: an optional percent sign, a letter, and letters or digits. -/
def Grammar.plain : Language Char :=
  (1 + exactly "%") * oneOf isLetter * (oneOf isLetterOrDigit)∗

theorem Grammar.mem_plain {w : List Char} : w ∈ plain ↔
    ∃ sign c u, (sign = [] ∨ sign = ['%']) ∧ isLetter c = true ∧
      (∀ d ∈ u, isLetterOrDigit d = true) ∧ w = sign ++ c :: u := by
  simp only [plain, mul_assoc, Language.mem_mul, mem_oneOf, mem_star_oneOf]
  constructor
  · rintro ⟨sign, hsign, _, ⟨_, ⟨c, hc, rfl⟩, u, hu, rfl⟩, rfl⟩
    exact ⟨sign, c, u, hsign, hc, hu, rfl⟩
  · rintro ⟨sign, c, u, hsign, hc, hu, rfl⟩
    exact ⟨sign, hsign, _, ⟨_, ⟨c, hc, rfl⟩, u, hu, rfl⟩, rfl⟩

/-- The text starts with a letter, or with a percent sign and a letter. -/
def Lettered (cs : List Char) : Prop :=
  ∃ sign c after, (sign = [] ∨ sign = ['%']) ∧ isLetter c = true ∧ cs = sign ++ c :: after

variable {sign cs line label token : List Char} {c : Char} {letter follows : Char → Bool}

theorem plainName?_append_of (percent : letter '%' = false) (hsign : sign = [] ∨ sign = ['%'])
    (hc : letter c = true) (cs : List Char) :
    plainName? letter follows (sign ++ c :: cs) =
      some (sign ++ c :: cs.takeWhile follows, cs.dropWhile follows) := by
  rcases hsign with rfl | rfl
  · cases cs with
    | nil => simp [plainName?, hc]
    | cons d cs => simp [plainName?, hc]
  · simp [plainName?, hc, percent]

theorem plainName?_append (hsign : sign = [] ∨ sign = ['%']) (hc : isLetter c = true)
    (cs : List Char) :
    plainName? isLetter follows (sign ++ c :: cs) =
      some (sign ++ c :: cs.takeWhile follows, cs.dropWhile follows) :=
  plainName?_append_of (by decide) hsign hc cs

theorem plainName?_eq_some {rest : List Char}
    (h : plainName? letter follows cs = some (label, rest)) :
    ∃ sign c after, (sign = [] ∨ sign = ['%']) ∧ letter c = true ∧ cs = sign ++ c :: after ∧
      label = sign ++ c :: after.takeWhile follows := by
  fun_cases plainName? letter follows cs with
  | case1 => cases h
  | case2 c isLetter =>
      rw [plainName?, if_pos isLetter] at h
      cases h
      exact ⟨[], c, [], .inl rfl, isLetter, rfl, rfl⟩
  | case3 c other => simp [plainName?, other] at h
  | case4 c d rest isLetter =>
      rw [plainName?, if_pos isLetter] at h
      cases h
      exact ⟨[], c, d :: rest, .inl rfl, isLetter, rfl, rfl⟩
  | case5 c d rest other percent =>
      rw [plainName?, if_neg other, if_pos percent] at h
      cases h
      rw [Bool.and_eq_true, decide_eq_true_eq] at percent
      exact ⟨['%'], d, rest, .inr rfl, percent.2, by rw [percent.1]; rfl, by rw [percent.1]; rfl⟩
  | case6 c d rest other unmarked => simp [plainName?, other, unmarked] at h

/-! ## Labels and identifiers at the start of a line -/

/-- The identifier that a line starts with, as long as it can be. -/
def identifier? (line : List Char) : Option (List Char) :=
  (name? isHead line).map (·.1)

theorem not_isSkipped_of_isHead (h : isHead c = true) (cs : List Char) :
    isSkipped (c :: cs) = false := by
  have blank : isBlank c = false := by
    have apart : (Grammar.blankChars.all fun b => !isHead b) = true := by decide +kernel
    refine Bool.eq_false_iff.mpr fun blank => ?_
    have other := List.all_eq_true.mp apart c (Grammar.mem_blankChars blank)
    rw [h] at other
    cases other
  have marks : c ≠ ';' ∧ c ≠ '/' ∧ c ≠ '#' := by
    refine ⟨?_, ?_, ?_⟩ <;> (rintro rfl; revert h; decide)
  simp [isSkipped, blank, marks]

/-- No line that starts with a plain name is passed over. -/
theorem label?_append (hsign : sign = [] ∨ sign = ['%']) (hc : isLetter c = true)
    (cs : List Char) :
    label? (sign ++ c :: cs) = some (sign ++ c :: cs.takeWhile isLetterOrDigit) := by
  have kept : isSkipped (sign ++ c :: cs) = false := by
    rcases hsign with rfl | rfl
    · exact not_isSkipped_of_isHead (by simp [isHead, hc]) cs
    · exact not_isSkipped_of_isHead rfl (c :: cs)
  simp [label?, kept, plainName?_append hsign hc]

theorem label?_eq_some (h : label? line = some label) :
    ∃ sign c after, (sign = [] ∨ sign = ['%']) ∧ isLetter c = true ∧ line = sign ++ c :: after ∧
      label = sign ++ c :: after.takeWhile isLetterOrDigit := by
  unfold label? at h
  split at h
  · cases h
  · obtain ⟨⟨name, rest⟩, found, rfl⟩ := Option.map_eq_some_iff.mp h
    exact plainName?_eq_some found

theorem mem_plain_of_label? (h : label? line = some label) : label ∈ Grammar.plain := by
  obtain ⟨sign, c, after, hsign, hc, _, rfl⟩ := label?_eq_some h
  exact Grammar.mem_plain.mpr
    ⟨sign, c, _, hsign, hc, fun d hd => List.all_eq_true.mp List.all_takeWhile d hd, rfl⟩

theorem identifier?_isSome_of_label? (h : label? line = some label) :
    (identifier? line).isSome = true := by
  obtain ⟨sign, c, after, rfl | rfl, hc, rfl, _⟩ := label?_eq_some h
  · simp [identifier?, name?, isHead, hc]
  · simp [identifier?, name?, isHead]

theorem identifier?_eq_some (h : identifier? line = some token) :
    ∃ c rest, isHead c = true ∧ line = c :: rest ∧ token = c :: rest.takeWhile isWord := by
  cases line with
  | nil => cases h
  | cons c rest =>
      by_cases head : isHead c = true
      · simp only [identifier?, name?, head, if_true, Option.map_some, Option.some.injEq] at h
        exact ⟨c, rest, head, rfl, h.symm⟩
      · simp [identifier?, name?, head] at h

theorem mem_name_of_identifier? (h : identifier? line = some token) :
    token ∈ Grammar.name isHead := by
  obtain ⟨⟨_, rest⟩, read, rfl⟩ := Option.map_eq_some_iff.mp h
  exact Grammar.mem_name_of_name? read

/-- A plain identifier at the start of a line is its label. -/
theorem label?_of_identifier? (h : identifier? line = some token)
    (plain : token ∈ Grammar.plain) : label? line = some token := by
  obtain ⟨first, rest, _, rfl, rfl⟩ := identifier?_eq_some h
  obtain ⟨sign, c, u, rfl | rfl, hc, hu, same⟩ := Grammar.mem_plain.mp plain
  · obtain ⟨rfl, run⟩ := List.cons.inj same
    have letters := takeWhile_isLetterOrDigit (run ▸ hu)
    rw [← letters]
    exact label?_append (.inl rfl) hc rest
  · obtain ⟨rfl, run⟩ := List.cons.inj same
    cases rest with
    | nil => cases run
    | cons d rest =>
        by_cases wordFirst : isWord d = true
        · rw [List.takeWhile_cons_of_pos wordFirst] at run ⊢
          obtain ⟨rfl, later⟩ := List.cons.inj run
          have letters := takeWhile_isLetterOrDigit (later ▸ hu)
          rw [← letters]
          exact label?_append (.inr rfl) hc rest
        · rw [List.takeWhile_cons_of_neg wordFirst] at run
          cases run

theorem label?_eq_identifier? (plain : ∀ token, identifier? line = some token →
    token ∈ Grammar.plain) : label? line = identifier? line := by
  cases starts : identifier? line with
  | some token => exact label?_of_identifier? starts (plain token starts)
  | none =>
      cases labelled : label? line with
      | none => rfl
      | some label =>
          have := identifier?_isSome_of_label? labelled
          simp [starts] at this

/-! ## Calls of labels -/

theorem Address.name?_eq_plainName? (cs : List Char) :
    Address.name? cs = plainName? isLetter isWord cs := by
  fun_cases Address.name? cs <;> simp_all [plainName?]

variable {i : Index} {t : FileTree} {path : PathName} {routine : List Char}

/-- A text without a line feed is a line as a whole. -/
theorem wholeLine?_eq_self (nonempty : cs ≠ []) (noFeed : '\n' ∉ cs) :
    wholeLine? cs = some cs := by
  have kept : ∀ d ∈ cs, decide (d ≠ '\n') = true := by
    intro d hd
    simpa using ne_of_mem_of_not_mem hd noFeed
  have line : cs.takeWhile (· ≠ '\n') = cs := List.takeWhile_eq_self_iff.mpr kept
  have rest : cs.dropWhile (· ≠ '\n') = [] := List.dropWhile_eq_nil_iff.mpr kept
  rw [wholeLine?, line, rest]
  simp [nonempty, Address.isSegmentEnd]

theorem wholeLine?_of_dotted (h : routine ∈ Grammar.dotted isHead) :
    wholeLine? routine = some routine := by
  have noFeed : '\n' ∉ routine :=
    Grammar.not_mem_dotted (by decide) (by decide) (by decide) h
  obtain ⟨c, tail, _, _, rfl⟩ := Grammar.mem_dotted.mp h
  exact wholeLine?_eq_self (List.cons_ne_nil c tail) noFeed

theorem labelQuery?_append (hsign : sign = [] ∨ sign = ['%']) (hc : isLetter c = true)
    (hcs : ∀ d ∈ cs, isWord d = true) (hroutine : routine ∈ Grammar.dotted isHead) :
    labelQuery? (sign ++ c :: cs ++ '^' :: routine) = some (sign ++ c :: cs, routine) := by
  have caret : isWord '^' = false := by decide
  have named : Address.name? (sign ++ c :: cs ++ '^' :: routine) =
      some (sign ++ c :: cs, '^' :: routine) := by
    have split : sign ++ c :: cs ++ '^' :: routine = sign ++ c :: (cs ++ '^' :: routine) := by simp
    rw [split, Address.name?_eq_plainName?, plainName?_append hsign hc,
      List.takeWhile_append_of_pos hcs, List.dropWhile_append_of_pos hcs]
    simp [caret]
  rw [labelQuery?, named]
  simp [dropChar?, wholeLine?_of_dotted hroutine]

/-- A query whose label has no letter where a name begins is not taken apart. -/
theorem labelQuery?_eq_none {u : List Char} (unlettered : ¬ Lettered (c :: u)) (rest : List Char) :
    labelQuery? (c :: u ++ '^' :: rest) = none := by
  have unnamed : Address.name? (c :: u ++ '^' :: rest) = none := by
    rw [Address.name?_eq_plainName?]
    cases read : plainName? isLetter isWord (c :: u ++ '^' :: rest) with
    | none => rfl
    | some found =>
        obtain ⟨sign, d, after, rfl | rfl, hd, same, _⟩ := plainName?_eq_some read
        · obtain ⟨rfl, -⟩ := List.cons.inj same
          exact absurd ⟨[], c, u, .inl rfl, hd, rfl⟩ unlettered
        · obtain ⟨rfl, later⟩ := List.cons.inj same
          cases u with
          | nil =>
              -- The caret would have to be the letter behind the percent sign.
              obtain ⟨rfl, -⟩ := List.cons.inj later
              exact absurd hd (by decide)
          | cons e v =>
              obtain ⟨rfl, -⟩ := List.cons.inj later
              exact absurd ⟨['%'], e, v, .inr rfl, hd, rfl⟩ unlettered
  rw [labelQuery?, unnamed]
  rfl

namespace Index

variable {symbol : String}

/-- A call whose label has a letter where a name begins asks for that label. -/
theorem lookup_of_lettered (lettered : Lettered label) (hlabel : label ∈ Grammar.name isHead)
    (hroutine : routine ∈ Grammar.dotted isHead) :
    i.lookup t .labelCall (String.ofList (label ++ '^' :: routine)) symbol =
      i.findLabel t (String.ofList label) (String.ofList routine) := by
  obtain ⟨c, u, _, words, rfl⟩ := Grammar.mem_name.mp hlabel
  obtain ⟨sign, d, v, hsign, hd, same⟩ := lettered
  have hv : ∀ e ∈ v, isWord e = true := by
    intro e inTail
    apply words e
    rcases hsign with rfl | rfl
    · rwa [(List.cons.inj same).2]
    · rw [(List.cons.inj same).2]
      exact List.mem_cons_of_mem _ inTail
  rw [same, lookup, String.toList_ofList, labelQuery?_append hsign hd hv hroutine]

/-- A call of any other label asks for nothing. -/
theorem lookup_of_not_lettered (unlettered : ¬ Lettered label)
    (hlabel : label ∈ Grammar.name isHead) (routine : List Char) :
    i.lookup t .labelCall (String.ofList (label ++ '^' :: routine)) symbol = (none, []) := by
  obtain ⟨c, u, _, _, rfl⟩ := Grammar.mem_name.mp hlabel
  rw [lookup, String.toList_ofList, labelQuery?_eq_none unlettered]

/-- No line has such a label. -/
theorem firstLine_label?_of_not_lettered (unlettered : ¬ Lettered label) (lines : List String) :
    firstLine label? (String.ofList label) lines = none := by
  cases found : firstLine label? (String.ofList label) lines with
  | none => rfl
  | some n =>
      obtain ⟨text, _, starts⟩ := getElem?_of_firstLine found
      rw [String.toList_ofList] at starts
      obtain ⟨sign, d, after, hsign, hd, _, same⟩ := label?_eq_some starts
      exact absurd ⟨sign, d, _, hsign, hd, same⟩ unlettered

theorem findLabel_of_not_lettered (unlettered : ¬ Lettered label) (routine : String) :
    (i.findLabel t (String.ofList label) routine).1 = none := by
  unfold findLabel
  split
  · rfl
  · simp [lookup_labels, firstLine_label?_of_not_lettered unlettered]

/-- A call of a label is followed to the first line with that label. -/
theorem lookup_labelCall (known : i.findRoutine (String.ofList routine) = some path)
    (hlabel : label ∈ Grammar.name isHead) (hroutine : routine ∈ Grammar.dotted isHead)
    (symbol : String) :
    (i.lookup t .labelCall (String.ofList (label ++ '^' :: routine)) symbol).1 =
      (firstLine label? (String.ofList label) (readLines t path).1).map (locate t path) := by
  by_cases lettered : Lettered label
  · rw [lookup_of_lettered lettered hlabel hroutine]
    simp [findLabel, known, lookup_labels]
  · rw [lookup_of_not_lettered lettered hlabel, firstLine_label?_of_not_lettered lettered]
    rfl

end Index

/-- The text of a call is read as one reference from either end and everywhere between. -/
theorem referenceAt_labelCall (hlabel : label ∈ Grammar.name isHead)
    (hroutine : routine ∈ Grammar.dotted isHead) {offset : Int} (after_start : 0 ≤ offset)
    (before_end : offset ≤ ('$' :: '$' :: (label ++ '^' :: routine)).length) :
    let text := '$' :: '$' :: (label ++ '^' :: routine)
    referenceAt (String.ofList text) offset =
      some { raw := String.ofList text
             query := String.ofList (label ++ '^' :: routine)
             kind := .labelCall
             symbol := String.ofList routine
             span := ⟨0, text.length⟩ } := by
  intro text
  let hit : Hit := { raw := text, query := label ++ '^' :: routine, symbol := routine }
  have read : labelCall? text = some hit := by
    simpa [dottedTail] using Grammar.labelCall?_append hlabel hroutine []
  obtain ⟨others, first⟩ :
      ∃ others, occurrences text = Reference.ofHit .labelCall (0, hit) :: others := by
    simp only [occurrences, Kind.all, List.flatMap_cons, Kind.occurrences, Kind.recognise?]
    rw [show text = '$' :: text.tail from rfl, RefNav.scan, ← show text = '$' :: text.tail from rfl,
      read]
    exact ⟨_, rfl⟩
  have covers : (Reference.ofHit .labelCall (0, hit)).span.covers offset = true := by
    refine Span.covers_iff.mpr ⟨after_start, ?_⟩
    rw [Reference.ofHit, Nat.zero_add]
    exact before_end
  rw [referenceAt, String.toList_ofList, first, List.find?_cons, covers]
  simp [Reference.ofHit, hit]

/-! ## Labels as identifiers -/

/-- What comes of following a call of a label with the cursor at an offset of its text. -/
def Index.followCall (i : Index) (t : FileTree) (label routine : String) (offset : Int) :
    Option Location :=
  (referenceAt ("$$" ++ label ++ "^" ++ routine) offset).bind fun r =>
    (i.lookup t r.kind r.query r.symbol).1

namespace Index

/-- A call of a label is followed to the first line with that label, and is lost without
one.  For all labels of a file this is the first line that starts with the label as an
identifier exactly if every line of the file that starts with an identifier starts with a
plain one. -/
theorem followCall_identifier_iff (i : Index) (t : FileTree) (routine : String) (path : PathName)
    (known : i.findRoutine routine = some path)
    (named : routine.toList ∈ Grammar.dotted isHead) :
    let lines := (readLines t path).1
    let Within (label : String) (offset : Int) : Prop :=
      0 ≤ offset ∧ offset ≤ ("$$" ++ label ++ "^" ++ routine).length
    (∀ label offset, label.toList ∈ Grammar.name isHead → Within label offset →
      i.followCall t label routine offset = (firstLine label? label lines).map (locate t path)) ∧
    ((∀ label offset, label.toList ∈ Grammar.name isHead → Within label offset →
      i.followCall t label routine offset =
        (firstLine identifier? label lines).map (locate t path)) ↔
      ∀ line ∈ lines, ∀ token, identifier? line.toList = some token → token ∈ Grammar.plain) := by
  intro lines Within
  have followed : ∀ label offset, label.toList ∈ Grammar.name isHead → Within label offset →
      i.followCall t label routine offset =
        (firstLine label? label lines).map (locate t path) := by
    intro label offset hlabel within
    have text : "$$" ++ label ++ "^" ++ routine =
        String.ofList ('$' :: '$' :: (label.toList ++ '^' :: routine.toList)) := by
      apply String.toList_inj.mp
      simp
    have before_end := within.2
    rw [text, String.length_ofList] at before_end
    have read := referenceAt_labelCall hlabel named within.1 before_end
    have found := lookup_labelCall (t := t) (by simpa using known) hlabel named routine
    rw [String.ofList_toList] at read found
    rw [followCall, text, read]
    exact found
  refine ⟨followed, fun agree line inFile token starts => ?_,
    fun plain label offset hlabel within => ?_⟩
  · -- The call of the token is followed to its line, so the token is a label.
    have hlabel : (String.ofList token).toList ∈ Grammar.name isHead := by
      rw [String.toList_ofList]
      exact mem_name_of_identifier? starts
    have within : Within (String.ofList token) 0 := ⟨Int.le_refl 0, by omega⟩
    have both := (followed _ 0 hlabel within).symm.trans (agree _ 0 hlabel within)
    have spelled : identifier? line.toList = some (String.ofList token).toList := by
      rw [starts, String.toList_ofList]
    obtain ⟨n, first⟩ := exists_firstLine inFile spelled
    rw [first, Option.map_some] at both
    obtain ⟨m, found, _⟩ := Option.map_eq_some_iff.mp both
    obtain ⟨text, _, labelled⟩ := getElem?_of_firstLine found
    rw [String.toList_ofList] at labelled
    exact mem_plain_of_label? labelled
  · rw [followed label offset hlabel within,
      firstLine_congr fun line inFile => label?_eq_identifier? (plain line inFile)]

theorem followCall_identifier_iff_percent :
    let t : FileTree :=
      { entries := [(["ws"], .directory),
          (["ws", "R.mac"], .file "R quit\n%Lab2(x) quit x\n".toUTF8.toList)] }
    let path : PathName := ⟨"/", ["ws", "R.mac"]⟩
    let i : Index := { root := ⟨"/", ["ws"]⟩, routines := [("R", path)] }
    i.followCall t "%Lab2" "R" 3 =
        (firstLine label? "%Lab2" (readLines t path).1).map (locate t path) ∧
      i.followCall t "%Lab2" "R" 3 =
        (firstLine identifier? "%Lab2" (readLines t path).1).map (locate t path) := by
  intro t path i
  have lines : (readLines t path).1 = ["R quit", "%Lab2(x) quit x"] := by decide +kernel
  have first : identifier? "R quit".toList = some "R".toList := by decide +kernel
  have second : identifier? "%Lab2(x) quit x".toList = some "%Lab2".toList := by decide +kernel
  obtain ⟨followed, agree⟩ := followCall_identifier_iff i t "R" path (by decide +kernel)
    (Grammar.mem_dotted.mpr ⟨'R', [], by decide, .nil, rfl⟩)
  have label : "%Lab2".toList ∈ Grammar.name isHead :=
    Grammar.mem_name.mpr
      ⟨'%', "Lab2".toList, by decide, List.all_eq_true.mp (by decide +kernel), rfl⟩
  have plain : ∀ line ∈ (readLines t path).1, ∀ token, identifier? line.toList = some token →
      token ∈ Grammar.plain := by
    intro line inFile token starts
    rw [lines] at inFile
    rcases List.mem_cons.mp inFile with rfl | later
    · cases first.symm.trans starts
      exact Grammar.mem_plain.mpr ⟨[], 'R', [], .inl rfl, by decide, by simp, rfl⟩
    · cases List.mem_singleton.mp later
      cases second.symm.trans starts
      exact Grammar.mem_plain.mpr ⟨['%'], 'L', "ab2".toList, .inr rfl, by decide,
        List.all_eq_true.mp (by decide +kernel), rfl⟩
  exact ⟨followed "%Lab2" 3 label (by decide), agree.mpr plain "%Lab2" 3 label (by decide)⟩

/-- A label with a letter outside ASCII is never found, and a call of its plain start is
followed to it. -/
theorem followCall_wide_label_misses :
    let t : FileTree :=
      { entries := [(["ws"], .directory), (["ws", "R.mac"], .file "Größe quit\n".toUTF8.toList)] }
    let path : PathName := ⟨"/", ["ws", "R.mac"]⟩
    ∃ i records, scan t (.ofString "/ws") = .ok (i, records) ∧ i.findRoutine "R" = some path ∧
      i.followCall t "Größe" "R" 3 = none ∧
      firstLine identifier? "Größe" (readLines t path).1 = some 0 ∧
      i.followCall t "Gr" "R" 3 = some ⟨"/ws/R.mac", 0, 0⟩ ∧
      firstLine identifier? "Gr" (readLines t path).1 = none := by
  intro t path
  have searched : ((scan t (.ofString "/ws")).toOption.map fun r =>
      (r.1.findRoutine "R", r.1.followCall t "Größe" "R" 3, r.1.followCall t "Gr" "R" 3)) =
        some (some path, none, some ⟨"/ws/R.mac", 0, 0⟩) := by
    decide +kernel
  obtain ⟨⟨i, records⟩, scanned, found⟩ := Option.map_eq_some_iff.mp searched
  simp only [Prod.mk.injEq] at found
  refine ⟨i, records, eq_ok_of_toOption scanned, found.1, found.2.1, ?_, found.2.2, ?_⟩
  · decide +kernel
  · decide +kernel

end Index

end RefNav
