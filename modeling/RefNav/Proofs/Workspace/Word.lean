import RefNav.Proofs.Workspace.LabelTable

/-! # Words of a line

The words of a line are its plain names that are part of no longer one.  A scan of the line goes
from each word to the next, so the word under a cursor is the first of the words that the cursor is
on.
-/

namespace RefNav

open RefNav.Text

variable {line text w : List Char} {i j k : Nat} {c : Char}

/-! ## Plain names inside a line -/

theorem isLetterOrDigit_of_mem_tail (h : w ∈ Grammar.plain) (known : c ∈ w.tail) :
    isLetterOrDigit c = true := by
  obtain ⟨sign, d, u, rfl | rfl, hd, hu, rfl⟩ := Grammar.mem_plain.mp h
  · exact hu c known
  · rcases List.mem_cons.mp known with rfl | later
    · simp [isLetterOrDigit, hd]
    · exact hu c later

theorem plain_append (h : w ∈ Grammar.plain) {more : List Char}
    (all : ∀ c ∈ more, isLetterOrDigit c = true) : w ++ more ∈ Grammar.plain := by
  obtain ⟨sign, d, u, hsign, hd, hu, rfl⟩ := Grammar.mem_plain.mp h
  refine Grammar.mem_plain.mpr ⟨sign, d, u ++ more, hsign, hd, ?_, by simp⟩
  exact List.forall_mem_append.mpr ⟨hu, all⟩

theorem getElem?_extract (h : i + k < j) : (text.extract i j)[k]? = text[i + k]? := by
  rw [List.extract_eq_take_drop, List.getElem?_take_of_lt (by omega), List.getElem?_drop]

theorem extract_append_extract (first : i ≤ j) (second : j ≤ k) :
    text.extract i j ++ text.extract j k = text.extract i k := by
  have split : text.drop j = (text.drop i).drop (j - i) := by
    rw [List.drop_drop, Nat.add_sub_cancel' first]
  rw [List.extract_eq_take_drop, List.extract_eq_take_drop, List.extract_eq_take_drop, split,
    ← List.take_add]
  congr 1
  omega

/-- A plain name inside a line: where it starts and where it stops. -/
structure PlainAt (line : List Char) (s : Span) : Prop where
  inside : s.stop ≤ line.length
  mem : line.extract s.start s.stop ∈ Grammar.plain

variable {s t : Span}

theorem PlainAt.start_lt (h : PlainAt line s) : s.start < s.stop := by
  apply Nat.lt_of_not_le
  intro le
  have empty : line.extract s.start s.stop = [] := by
    rw [List.extract_eq_take_drop, Nat.sub_eq_zero_of_le le, List.take_zero]
  exact takesLongest_plain.nonempty (empty ▸ h.mem)

/-- Behind its first character a plain name has letters and digits only. -/
theorem PlainAt.isLetterOrDigit (h : PlainAt text s) (behind : s.start < k) (before : k < s.stop)
    (here : text[k]? = some c) : isLetterOrDigit c = true := by
  refine isLetterOrDigit_of_mem_tail h.mem (List.mem_of_getElem? (i := k - s.start - 1) ?_)
  rw [List.getElem?_tail, getElem?_extract (by omega), ← here]
  congr 1
  omega

/-- A plain name that another one reaches into goes on to the end of that one. -/
theorem PlainAt.join (hs : PlainAt line s) (ht : PlainAt line t) (meets : t.start < s.stop)
    (le : s.stop ≤ t.stop) : PlainAt line ⟨s.start, t.stop⟩ := by
  refine ⟨ht.inside, ?_⟩
  rw [← extract_append_extract hs.start_lt.le le]
  refine plain_append hs.mem fun c known => ?_
  obtain ⟨k, here⟩ := List.getElem?_of_mem known
  have bound := (List.getElem?_eq_some_iff.mp here).choose
  rw [length_extract ht.inside] at bound
  rw [getElem?_extract (by omega)] at here
  exact ht.isLetterOrDigit (by omega) (by omega) here

/-! ## Words -/

/-- A word of a line: a plain name that is part of no longer one. -/
structure IsWord (line : List Char) (s : Span) : Prop extends PlainAt line s where
  whole : ∀ t, PlainAt line t → t.start ≤ s.start → s.stop ≤ t.stop → t = s

/-- A plain name as a scan finds it. -/
def wordHit? (cs : List Char) : Option Hit :=
  (plainStart? cs).map fun w => ⟨w, w, w⟩

theorem raw_ne_nil_of_wordHit? (cs : List Char) (hit : Hit) (h : wordHit? cs = some hit) :
    hit.raw ≠ [] := by
  obtain ⟨w, read, rfl⟩ := Option.map_eq_some_iff.mp h
  intro empty
  exact takesLongest_plain.nonempty (empty ▸ (of_plainStart? read).1)

theorem plainStart?_of_mem_scan {found : Nat × Hit} (h : found ∈ scan wordHit? 0 0 line) :
    plainStart? (line.drop found.1) = some found.2.raw := by
  obtain ⟨d, place, -, taken⟩ := recognise_of_mem_scan h
  obtain ⟨w, read, same⟩ := Option.map_eq_some_iff.mp taken
  rw [place, Nat.zero_add, ← same]
  exact read

theorem longestAt_of_mem_scan {found : Nat × Hit} (h : found ∈ scan wordHit? 0 0 line) :
    LongestAt Grammar.plain line ⟨found.1, found.1 + found.2.raw.length⟩ :=
  takesLongest_plain.longestAt_iff.mpr ⟨_, plainStart?_of_mem_scan h, rfl⟩

theorem LongestAt.plainAt (h : LongestAt Grammar.plain line s) : PlainAt line s :=
  ⟨h.stop_le, h.mem⟩

/-- Wherever a plain name begins, the scan is on a word. -/
theorem PlainAt.exists_mem_scan (h : PlainAt line s) :
    ∃ found ∈ scan wordHit? 0 0 line,
      found.1 ≤ s.start ∧ s.start < found.1 + found.2.raw.length := by
  obtain ⟨more, read⟩ := takesLongest_plain.of_extract h.mem
  obtain ⟨hit, taken⟩ : ∃ hit, wordHit? (line.drop s.start) = some hit := by
    rw [wordHit?, read]
    exact ⟨_, rfl⟩
  have inside : s.start < line.length := Nat.lt_of_lt_of_le h.start_lt h.inside
  simpa using exists_mem_scan_of_recognise raw_ne_nil_of_wordHit? 0 (Nat.zero_le _) taken inside

theorem apart_of_mem_scan {a b : Nat × Hit} (ha : a ∈ scan wordHit? 0 0 line)
    (hb : b ∈ scan wordHit? 0 0 line) (before : a.1 < b.1) : a.1 + a.2.raw.length ≤ b.1 := by
  have ordered := scan_pairwise raw_ne_nil_of_wordHit? 0 0 line
  obtain ⟨front, back, split⟩ := List.append_of_mem hb
  rw [split] at ha ordered
  rcases List.mem_append.mp ha with earlier | later
  · exact (List.pairwise_append.mp ordered).2.2 a earlier b List.mem_cons_self
  · rcases List.mem_cons.mp later with rfl | behind
    · exact absurd before (Nat.lt_irrefl _)
    · have le := (List.pairwise_cons.mp (List.pairwise_append.mp ordered).2.1).1 a behind
      omega

/-- A scan finds exactly the words. -/
theorem isWord_iff : IsWord line s ↔
    ∃ hit, (s.start, hit) ∈ scan wordHit? 0 0 line ∧ s.stop = s.start + hit.raw.length := by
  constructor
  · intro word
    obtain ⟨found, among, le, lt⟩ := word.toPlainAt.exists_mem_scan
    have longest := longestAt_of_mem_scan among
    -- What the scan is on reaches to the end of the word, so it is the word.
    have reaches : s.stop ≤ found.1 + found.2.raw.length := by
      by_contra short
      have joined := longest.plainAt.join word.toPlainAt lt (Nat.le_of_not_le short)
      exact short (longest.longest s.stop word.inside joined.mem)
    have same := word.whole _ longest.plainAt le reaches
    exact ⟨found.2, by rw [← same]; exact among, by rw [← same]⟩
  · rintro ⟨hit, among, hstop⟩
    have longest : LongestAt Grammar.plain line s := by
      have found := longestAt_of_mem_scan among
      rwa [← hstop] at found
    refine ⟨longest.plainAt, fun t plain le reaches => ?_⟩
    by_cases before : t.start < s.start
    · -- A word before would go on to the end of the longer name.
      obtain ⟨found, earlier, start, meets⟩ := plain.exists_mem_scan
      have other := longestAt_of_mem_scan earlier
      have apart := apart_of_mem_scan earlier among (Nat.lt_of_le_of_lt start before)
      have short : found.1 + found.2.raw.length ≤ t.stop :=
        apart.trans (longest.start_le.trans reaches)
      have joined := other.plainAt.join plain meets short
      have stops := other.longest t.stop plain.inside joined.mem
      have positive := longest.plainAt.start_lt
      dsimp only at stops apart
      omega
    · have start : t.start = s.start := Nat.le_antisymm le (Nat.not_lt.mp before)
      have stop : t.stop ≤ s.stop := longest.longest t.stop plain.inside (start ▸ plain.mem)
      cases t
      cases s
      simp_all only [Span.mk.injEq, true_and]
      exact Nat.le_antisymm stop reaches

/-! ## The word under a cursor -/

/-- The first word of a line that a cursor is on. -/
def WordUnder (line : List Char) (offset : Int) (word : List Char) : Prop :=
  ∃ s, IsWord line s ∧ s.covers offset = true ∧
    (∀ t, IsWord line t → t.covers offset = true → s.start ≤ t.start) ∧
    word = line.extract s.start s.stop

theorem wordAt_eq (line : String) (offset : Int) :
    wordAt line offset = (scan wordHit? 0 0 line.toList).findSome? fun p =>
      (Option.guard (fun p : Nat × Hit => Span.covers ⟨p.1, p.1 + p.2.raw.length⟩ offset) p).map
        fun p => String.ofList p.2.raw := by
  have recognise : wordHit? = fun cs =>
      (plainName? isLetter isLetterOrDigit cs).map fun p => ⟨p.1, p.1, p.1⟩ := by
    funext cs
    exact Option.map_map ..
  rw [wordAt, recognise, ← List.findSome?_guard, List.map_findSome?]
  rfl

theorem wordAt_eq_some_iff {line word : String} {offset : Int} :
    wordAt line offset = some word ↔ WordUnder line.toList offset word.toList := by
  have ordered : (scan wordHit? 0 0 line.toList).Pairwise fun a b => a.1 < b.1 := by
    refine (scan_pairwise raw_ne_nil_of_wordHit? 0 0 line.toList).imp_of_mem ?_
    intro a b known _ apart
    exact (longestAt_of_mem_scan known).plainAt.start_lt.trans_le apart
  have raw {found : Nat × Hit} (known : found ∈ scan wordHit? 0 0 line.toList) :
      line.toList.extract found.1 (found.1 + found.2.raw.length) = found.2.raw :=
    (takesLongest_plain.extract_eq (plainStart?_of_mem_scan known)).2
  rw [wordAt_eq, findSome?_eq_some_iff_least ordered]
  simp only [Option.isSome_map, Option.isSome_guard, Option.map_eq_some_iff,
    Option.guard_eq_some_iff]
  constructor
  · rintro ⟨found, known, ⟨_, ⟨rfl, covers⟩, rfl⟩, least⟩
    refine ⟨⟨found.1, _⟩, isWord_iff.mpr ⟨found.2, known, rfl⟩, covers, fun t other on => ?_, ?_⟩
    · obtain ⟨hit, among, hstop⟩ := isWord_iff.mp other
      exact least (t.start, hit) among (by rwa [← hstop])
    · rw [String.toList_ofList, raw known]
  · rintro ⟨s, isWord, covers, least, same⟩
    obtain ⟨hit, known, hstop⟩ := isWord_iff.mp isWord
    refine ⟨(s.start, hit), known, ⟨_, ⟨rfl, by rwa [← hstop]⟩, ?_⟩, fun other among on => ?_⟩
    · rw [← raw known, ← hstop, ← same, String.ofList_toList]
    · exact least ⟨other.1, _⟩ (isWord_iff.mpr ⟨other.2, among, rfl⟩) on

end RefNav
