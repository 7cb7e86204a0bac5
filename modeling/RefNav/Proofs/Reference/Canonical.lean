import RefNav.Proofs.Provider
import RefNav.Proofs.Reference.Enumeration
import RefNav.Proofs.Reference.Parts

/-! # References in full

Every reference has one text in full: its query, behind two dollar signs if it is a label
call.  Read alone this text is the same reference and holds no other, so writing a reference
in full a second time changes nothing.  For a class it is the text of the reference without
its blanks and with the keyword in lower case.
-/

namespace RefNav

open RefNav.Text RefNav.Shape

/-- The text of a reference in full. -/
def Reference.canonical (r : Reference) : String :=
  String.ofList (r.kind.inFull r.query.toList)

/-! ## Texts that are one reference -/

/-- A text that a shape takes as a whole holds nothing else. -/
theorem referencesIn_of_whole {kind : Kind} {w query symbol : List Char}
    (whole : kind.recognise? w = some ⟨w, query, symbol⟩) :
    referencesIn (String.ofList w) = [Reference.ofHit kind (0, ⟨w, query, symbol⟩)] := by
  let text := String.ofList w
  let r := Reference.ofHit kind (0, ⟨w, query, symbol⟩)
  have chars : text.toList = w := String.toList_ofList
  have stop : r.span.stop = w.length := Nat.zero_add _
  have found : r ∈ occurrences text.toList := by
    rw [chars]
    exact mem_occurrences_iff.mpr ⟨kind, Kind.mem_occurrences_iff.mpr ⟨_, whole, rfl⟩⟩
  have inside : ∀ o ∈ occurrences text.toList, o.span.stop ≤ r.span.stop := by
    intro o ho
    have bound := (longestAt_of_mem_occurrences ho).stop_le
    rwa [chars, ← stop] at bound
  -- A shape of higher priority would begin before the text or end behind it.
  have kept : r ∈ referencesIn text := by
    refine mem_referencesIn_iff.mpr ⟨found, fun o ho less => ?_⟩
    refine Bool.eq_false_iff.mpr fun overlap => ?_
    have ends := inside o ho
    rcases (shapes_of_overlap ho found less overlap).2 with ⟨_, before, _⟩ | ⟨_, _, behind⟩
    · exact Nat.not_lt_zero _ before
    · omega
  have only : ∀ o ∈ referencesIn text, o = r := by
    intro o ho
    have foundO := mem_occurrences_of_mem_referencesIn ho
    have nonempty := start_lt_stop_of_mem_occurrences foundO
    have ends := inside o foundO
    refine Decidable.byContradiction fun differ => ?_
    have apart := referencesIn_apart text o ho r kept differ
    have start : r.span.start = 0 := rfl
    rw [← Bool.not_eq_true, Span.overlaps_iff] at apart
    omega
  apply List.perm_singleton.mp
  apply (List.perm_ext_iff_of_nodup (referencesIn_nodup text) (List.nodup_singleton r)).mpr
  intro o
  rw [List.mem_singleton]
  constructor
  · exact only o
  · rintro rfl
    exact kept

/-- Read alone, the text of a reference in full is that reference. -/
theorem referencesIn_canonical {kind : Kind} {line : List Char} {r : Reference}
    (h : r ∈ kind.occurrences line) :
    referencesIn r.canonical =
      [{ r with raw := r.canonical, span := ⟨0, r.canonical.length⟩ }] := by
  obtain ⟨hkind, parts, _, hquery, hsymbol⟩ := Parts.exists_of_mem_occurrences h
  have alone := referencesIn_of_whole (Parts.recognise?_of_mem_texts parts.inFull_mem_texts)
  have text : r.canonical = String.ofList (kind.inFull parts.query) := by
    rw [Reference.canonical, hkind, hquery, String.toList_ofList]
  rw [text, alone]
  simp [Reference.ofHit, hkind, hquery, hsymbol]

/-! ## Class references -/

/-- A text without its blanks. -/
def solid (w : List Char) : List Char :=
  w.filter fun c => !isBlank c

/-- A class reference without its blanks and with its keyword, the first seven characters, in
lower case. -/
def condensed (raw : List Char) : List Char :=
  ((solid raw).take 7).map fold ++ (solid raw).drop 7

section

variable {w : List Char} {c : Char}

theorem solid_append (u v : List Char) : solid (u ++ v) = solid u ++ solid v :=
  List.filter_append u v

theorem solid_cons (h : isBlank c = false) (w : List Char) : solid (c :: w) = c :: solid w := by
  simp [solid, h]

theorem solid_of_blanks (h : w ∈ Grammar.blanks) : solid w = [] := by
  rw [solid, List.filter_eq_nil_iff]
  intro c hc
  simp [Grammar.mem_star_oneOf.mp h c hc]

theorem solid_eq_self (h : ∀ c, isBlank c = true → c ∉ w) : solid w = w := by
  rw [solid, List.filter_eq_self]
  intro c hc
  simpa using fun blank => h c blank hc

theorem not_isFoldedHead_of_isBlank (h : isBlank c = true) : isFoldedHead c = false := by
  refine Bool.eq_false_iff.mpr fun head => ?_
  rw [Grammar.not_blank_of_isFoldedHead head] at h
  cases h

theorem not_isWord_of_isBlank (h : isBlank c = true) : isWord c = false ∧ c ≠ '.' := by
  have stops := Grammar.not_continuesName_of_isBlank h
  simpa [Grammar.continuesName] using stops

theorem solid_of_dotted (h : w ∈ Grammar.dotted isFoldedHead) : solid w = w :=
  solid_eq_self fun _ blank => Grammar.not_mem_dotted (not_isFoldedHead_of_isBlank blank)
    (not_isWord_of_isBlank blank).1 (not_isWord_of_isBlank blank).2 h

theorem solid_of_name (h : w ∈ Grammar.name isFoldedHead) : solid w = w :=
  solid_eq_self fun _ blank => Grammar.not_mem_name (not_isFoldedHead_of_isBlank blank)
    (not_isWord_of_isBlank blank).1 h

theorem solid_of_keyword (h : w ∈ Grammar.ignoringCase "class") : solid w = w := by
  have letters : ∀ k ∈ "class".toList, isLetter k = true := List.all_eq_true.mp (by decide)
  refine solid_eq_self fun c blank hc => ?_
  have letter : isLetter (fold c) = true :=
    letters _ (Grammar.mem_ignoringCase.mp h ▸ List.mem_map_of_mem hc)
  have head : isFoldedHead c = true := by simp [isFoldedHead, isFoldedLetter, letter]
  rw [not_isFoldedHead_of_isBlank blank] at head
  cases head

theorem solid_of_member {member : Option (List Char)}
    (hmember : ∀ m ∈ member, m ∈ Grammar.name isFoldedHead)
    (h : w ∈ Grammar.memberTexts member) : solid w = (member.map ('.' :: ·)).getD [] := by
  cases member with
  | none =>
      obtain rfl : w = [] := h
      rfl
  | some m =>
      obtain ⟨b₁, h₁, b₂, h₂, _, rfl, rfl⟩ := Grammar.mem_memberNamed.mp h
      rw [solid_append, solid_of_blanks h₁, solid_cons (by decide), solid_append,
        solid_of_blanks h₂, solid_of_name (hmember _ rfl)]
      rfl

end

/-- The query of a class reference is its text, condensed. -/
theorem query_eq_condensed {line : List Char} {r : Reference}
    (h : r ∈ Kind.classRef.occurrences line) : r.query.toList = condensed r.raw.toList := by
  obtain ⟨_, parts, hraw, hquery, _⟩ := Parts.exists_of_mem_occurrences h
  rw [hquery, String.toList_ofList]
  cases parts with
  | classRef name member hname hmember =>
      obtain ⟨k, hk, b₁, h₁, b₂, h₂, b₃, h₃, back, hback, whole⟩ :=
        Parts.mem_texts_classRef.mp hraw
      have keyword : ('#' :: '#' :: k).map fold = "##class".toList := by
        rw [List.map_cons, List.map_cons, Grammar.mem_ignoringCase.mp hk]
        decide
      have length : ('#' :: '#' :: k).length = 7 := by
        rw [← List.length_map, keyword]
        rfl
      have front : solid r.raw.toList =
          '#' :: '#' :: k ++ '(' :: (name ++ ')' :: (member.map ('.' :: ·)).getD []) := by
        rw [whole, solid_append, solid_cons (by decide), solid_cons (by decide), solid_append,
          solid_of_keyword hk, solid_append, solid_of_blanks h₁, solid_cons (by decide),
          solid_append, solid_of_blanks h₂, solid_append, solid_of_dotted hname, solid_append,
          solid_of_blanks h₃, solid_cons (by decide), solid_of_member hmember hback]
        simp [solid]
      rw [condensed, front, List.take_left' length, List.drop_left' length, keyword]
      have spelled : "##class(".toList = "##class".toList ++ ['('] := by decide
      unfold Parts.query Grammar.classText
      generalize "##class".toList = opening, "##class(".toList = opened at spelled ⊢
      simp [spelled]

/-! ## The text in full -/

/-- Written in full and read alone, a reference is the same reference and nothing else, whatever
line it was found in.  Two class references have one query exactly if they differ in nothing
but blanks and the case of the keyword.  What a server is asked for is the query of the
reference at the place, and in full it is read as that reference. -/
theorem Reference.canonical_reread :
    (∀ (text : String) (kind : Kind), ∀ r ∈ kind.occurrences text.toList,
      referencesIn r.canonical =
        [{ r with raw := r.canonical, span := ⟨0, r.canonical.length⟩ }]) ∧
    (∀ text other : String, ∀ r ∈ Kind.classRef.occurrences text.toList,
      ∀ s ∈ Kind.classRef.occurrences other.toList,
        (r.query = s.query ↔ condensed r.raw.toList = condensed s.raw.toList)) ∧
    ∀ (resolver : Resolver) (connection : Document → Connection)
      (missed : Option (Reference → Notice)) (fallback : Option Fallback) (traced : Bool)
      (d : Document) (position : Position) (bound : Bool) (x : Exchange),
      let run := ((Provider.watched resolver connection missed fallback traced).define d position
        bound).runOn x
      ∃ sent, run.2.requests = x.requests ++ sent ∧
        ∀ q ∈ sent, ∃ r, d.ReferenceAt position r ∧ q.Asks r.query ∧
          referencesIn r.canonical =
            [{ r with raw := r.canonical, span := ⟨0, r.canonical.length⟩ }] := by
  refine ⟨fun text kind r h => referencesIn_canonical h, fun text other r hr s hs => ?_, ?_⟩
  · rw [← query_eq_condensed hr, ← query_eq_condensed hs, String.toList_inj]
  · intro resolver connection missed fallback traced d position bound x run
    obtain ⟨sent, requests, asks⟩ := Provider.requests_define_watched d position bound x
    refine ⟨sent, requests, fun q hq => ?_⟩
    obtain ⟨r, ⟨text, line, found⟩, asked⟩ := asks q hq
    have occurs := mem_kind_occurrences (mem_occurrences_of_referenceAt found)
    exact ⟨r, ⟨text, line, found⟩, asked, referencesIn_canonical occurs⟩

theorem Reference.canonical_reread_class :
    let r : Reference :=
      ⟨"##Class( %P.Größe ) .M", "##class(%P.Größe).M", .classRef, "%P.Größe", ⟨2, 24⟩⟩
    let s : Reference :=
      ⟨"##class(%P.Größe)\t.M", "##class(%P.Größe).M", .classRef, "%P.Größe", ⟨0, 20⟩⟩
    r ∈ Kind.classRef.occurrences "x ##Class( %P.Größe ) .M".toList ∧
      s ∈ Kind.classRef.occurrences "##class(%P.Größe)\t.M".toList ∧
      referencesIn "##class(%P.Größe).M" =
        [{ r with raw := "##class(%P.Größe).M", span := ⟨0, 19⟩ }] ∧
      condensed r.raw.toList = condensed s.raw.toList := by
  intro r s
  obtain ⟨reread, classes, _⟩ := canonical_reread
  have hr : r ∈ Kind.classRef.occurrences "x ##Class( %P.Größe ) .M".toList := by decide +kernel
  have hs : s ∈ Kind.classRef.occurrences "##class(%P.Größe)\t.M".toList := by decide +kernel
  have text : r.canonical = "##class(%P.Größe).M" := by decide +kernel
  have length : "##class(%P.Größe).M".length = 19 := by decide +kernel
  have alone := reread _ _ r hr
  rw [text, length] at alone
  exact ⟨hr, hs, alone, (classes _ _ r hr s hs).mp rfl⟩

end RefNav
