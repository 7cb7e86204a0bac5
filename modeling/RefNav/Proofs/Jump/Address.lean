import RefNav.Proofs.Jump
import RefNav.Proofs.Workspace.LabelCall

/-! # Addresses and white space

Addresses form a regular language, in which no blank occurs.  Besides it one more form is
read: a line feed may stand right before the caret.  Every other address with a blank
inside is refused, and then a jump to it does nothing but say so.
-/

namespace RefNav

open RefNav.Text
open scoped Computability

namespace Grammar

/-- Names of labels and routines in addresses. -/
def addressName : Language Char :=
  (1 + exactly "%") * oneOf isLetter * (oneOf isWord)∗

def addressOffset : Language Char :=
  exactly "+" * (oneOf isDecimal * (oneOf isDecimal)∗)

def addressLabel : Language Char :=
  addressName * (1 + addressOffset)

def address : Language Char :=
  addressLabel * exactly "^" * addressName

/-- Addresses with a line feed before the caret. -/
def brokenAddress : Language Char :=
  addressLabel * exactly "\n^" * addressName

variable {w : List Char}

theorem mem_addressName : w ∈ addressName ↔
    ∃ sign c u, (sign = [] ∨ sign = ['%']) ∧ isLetter c = true ∧
      (∀ d ∈ u, isWord d = true) ∧ w = sign ++ c :: u := by
  simp only [addressName, mul_assoc, Language.mem_mul, mem_oneOf, mem_star_oneOf]
  constructor
  · rintro ⟨sign, hsign, _, ⟨_, ⟨c, hc, rfl⟩, u, hu, rfl⟩, rfl⟩
    exact ⟨sign, c, u, hsign, hc, hu, rfl⟩
  · rintro ⟨sign, c, u, hsign, hc, hu, rfl⟩
    exact ⟨sign, hsign, _, ⟨_, ⟨c, hc, rfl⟩, u, hu, rfl⟩, rfl⟩

theorem mem_addressOffset : w ∈ addressOffset ↔
    ∃ digits, digits ≠ [] ∧ (∀ d ∈ digits, isDecimal d = true) ∧ w = '+' :: digits := by
  simp only [addressOffset, Language.mem_mul, mem_oneOf, mem_star_oneOf, mem_exactly]
  constructor
  · rintro ⟨_, rfl, _, ⟨_, ⟨c, hc, rfl⟩, u, hu, rfl⟩, rfl⟩
    exact ⟨c :: u, List.cons_ne_nil c u, List.forall_mem_cons.mpr ⟨hc, hu⟩, rfl⟩
  · rintro ⟨digits, nonempty, hdigits, rfl⟩
    obtain ⟨c, u, rfl⟩ := List.exists_cons_of_ne_nil nonempty
    obtain ⟨hc, hu⟩ := List.forall_mem_cons.mp hdigits
    exact ⟨_, rfl, _, ⟨_, ⟨c, hc, rfl⟩, u, hu, rfl⟩, rfl⟩

theorem mem_addressLabel : w ∈ addressLabel ↔
    ∃ name ∈ addressName, ∃ offset ∈ 1 + addressOffset, w = name ++ offset := by
  simp only [addressLabel, Language.mem_mul, eq_comm]

theorem mem_joined {between : String} : w ∈ addressLabel * exactly between * addressName ↔
    ∃ label ∈ addressLabel, ∃ routine ∈ addressName, w = label ++ (between.toList ++ routine) := by
  rw [mul_assoc]
  constructor
  · rintro ⟨label, hlabel, _, ⟨_, rfl, routine, hroutine, rfl⟩, rfl⟩
    exact ⟨label, hlabel, routine, hroutine, rfl⟩
  · rintro ⟨label, hlabel, routine, hroutine, rfl⟩
    exact ⟨label, hlabel, _, ⟨_, rfl, routine, hroutine, rfl⟩, rfl⟩

theorem mem_address : w ∈ address ↔
    ∃ label ∈ addressLabel, ∃ routine ∈ addressName, w = label ++ '^' :: routine :=
  mem_joined

theorem mem_brokenAddress : w ∈ brokenAddress ↔
    ∃ label ∈ addressLabel, ∃ routine ∈ addressName, w = label ++ '\n' :: '^' :: routine :=
  mem_joined

/-! ## What occurs in an address -/

/-- A character of a name or of an offset. -/
def isAddressChar (c : Char) : Bool :=
  c = '%' || c = '+' || isWord c || isDecimal c

theorem isAddressChar_of_mem_name (h : w ∈ addressName) : ∀ c ∈ w, isAddressChar c = true := by
  obtain ⟨sign, letter, u, hsign, hletter, hu, rfl⟩ := mem_addressName.mp h
  intro c hc
  rcases List.mem_append.mp hc with inSign | inRest
  · obtain rfl : c = '%' := by rcases hsign with rfl | rfl <;> simp_all
    rfl
  · have word : isWord c = true := by
      rcases List.mem_cons.mp inRest with rfl | later
      · exact isWord_of_isLetter hletter
      · exact hu c later
    simp [isAddressChar, word]

theorem isAddressChar_of_mem_label (h : w ∈ addressLabel) : ∀ c ∈ w, isAddressChar c = true := by
  obtain ⟨name, hname, offset, hoffset, rfl⟩ := mem_addressLabel.mp h
  intro c hc
  rcases List.mem_append.mp hc with inName | inOffset
  · exact isAddressChar_of_mem_name hname c inName
  · rcases hoffset with rfl | hoffset
    · cases inOffset
    · obtain ⟨digits, _, hdigits, rfl⟩ := mem_addressOffset.mp hoffset
      rcases List.mem_cons.mp inOffset with rfl | inDigits
      · rfl
      · simp [isAddressChar, hdigits c inDigits]

theorem ne_caret_of_isAddressChar {c : Char} (h : isAddressChar c = true) : c ≠ '^' := by
  rintro rfl
  revert h
  decide

theorem not_blank_of_isAddressChar {c : Char} (h : isAddressChar c = true) :
    isBlank c = false := by
  have apart : (blankChars.all fun b => !isAddressChar b) = true := by decide +kernel
  refine Bool.eq_false_iff.mpr fun blank => ?_
  have other := List.all_eq_true.mp apart c (mem_blankChars blank)
  rw [h] at other
  cases other

theorem not_blank_of_mem_address (h : w ∈ address) : ∀ c ∈ w, isBlank c = false := by
  obtain ⟨label, hlabel, routine, hroutine, rfl⟩ := mem_address.mp h
  intro c hc
  rcases List.mem_append.mp hc with inLabel | inRest
  · exact not_blank_of_isAddressChar (isAddressChar_of_mem_label hlabel c inLabel)
  · rcases List.mem_cons.mp inRest with rfl | inRoutine
    · decide
    · exact not_blank_of_isAddressChar (isAddressChar_of_mem_name hroutine c inRoutine)

end Grammar

namespace Address

open Grammar

variable {cs name routine label offset after : List Char}

/-! ## The segments of an address -/

theorem isSegmentEnd_iff : isSegmentEnd cs = true ↔ cs = [] ∨ cs = ['\n'] := by
  simp [isSegmentEnd]

theorem stops_of_isSegmentEnd {p : Char → Bool} (feed : p '\n' = false)
    (h : isSegmentEnd cs = true) : Stops p cs := by
  rcases isSegmentEnd_iff.mp h with rfl | rfl
  · rintro c ⟨⟩
  · rintro c ⟨⟩
    exact feed

theorem name?_append (h : name ∈ addressName) (stops : Stops isWord after) :
    name? (name ++ after) = some (name, after) := by
  obtain ⟨sign, c, u, hsign, hc, hu, rfl⟩ := mem_addressName.mp h
  rw [List.append_assoc, List.cons_append, name?_eq_plainName?, plainName?_append hsign hc,
    takeWhile_append hu stops, dropWhile_append hu stops]

theorem name?_eq_some (h : name? cs = some (name, after)) :
    name ∈ addressName ∧ cs = name ++ after := by
  rw [name?_eq_plainName?] at h
  obtain ⟨sign, c, rest, hsign, hc, rfl, rfl⟩ := plainName?_eq_some h
  rw [plainName?_append hsign hc] at h
  obtain rfl : rest.dropWhile isWord = after := by
    simpa using h
  refine ⟨mem_addressName.mpr ⟨sign, c, _, hsign, hc, ?_, rfl⟩, ?_⟩
  · exact fun d hd => List.all_eq_true.mp List.all_takeWhile d hd
  · rw [List.append_assoc, List.cons_append, List.takeWhile_append_dropWhile]

theorem offsetDigits?_append (h : offset ∈ 1 + addressOffset) (ended : isSegmentEnd after = true) :
    offsetDigits? (offset ++ after) = some (offset.drop 1) := by
  rcases h with rfl | h
  · rcases isSegmentEnd_iff.mp ended with rfl | rfl <;> rfl
  · obtain ⟨digits, nonempty, hdigits, rfl⟩ := mem_addressOffset.mp h
    have stops : Stops isDecimal after := stops_of_isSegmentEnd (by decide) ended
    simp [offsetDigits?, takeWhile_append hdigits stops, dropWhile_append hdigits stops, nonempty,
      ended]

theorem offsetDigits?_eq_some {digits : List Char} (h : offsetDigits? cs = some digits) :
    ∃ offset ∈ 1 + addressOffset, ∃ after, isSegmentEnd after = true ∧ cs = offset ++ after := by
  fun_cases offsetDigits? cs with
  | case1 rest taken read =>
      rw [Bool.and_eq_true] at read
      refine ⟨'+' :: taken, .inr (mem_addressOffset.mpr ⟨taken, ?_, ?_, rfl⟩), _, read.2, ?_⟩
      · simpa using read.1
      · exact fun d hd => List.all_eq_true.mp List.all_takeWhile d hd
      · rw [List.cons_append, List.takeWhile_append_dropWhile]
  | case2 rest taken other =>
      simp only [offsetDigits?] at h
      rw [if_neg other] at h
      cases h
  | case3 _ unsigned ended => exact ⟨[], .inl rfl, cs, ended, rfl⟩
  | case4 _ unsigned other =>
      rw [offsetDigits?, if_neg other] at h
      · cases h
      · exact unsigned

theorem stops_of_offset (h : offset ∈ 1 + addressOffset) (ended : isSegmentEnd after = true) :
    Stops isWord (offset ++ after) := by
  rcases h with rfl | h
  · exact stops_of_isSegmentEnd (by decide) ended
  · obtain ⟨digits, _, _, rfl⟩ := mem_addressOffset.mp h
    rintro _ ⟨⟩
    decide

theorem labelSegment?_append (hname : name ∈ addressName) (hoffset : offset ∈ 1 + addressOffset)
    (ended : isSegmentEnd after = true) :
    labelSegment? (name ++ offset ++ after) = some (name, offset.drop 1) := by
  rw [List.append_assoc, labelSegment?, name?_append hname (stops_of_offset hoffset ended)]
  simp [offsetDigits?_append hoffset ended]

theorem labelSegment?_eq_some {digits : List Char} (h : labelSegment? cs = some (name, digits)) :
    ∃ label ∈ addressLabel, ∃ after, isSegmentEnd after = true ∧ cs = label ++ after := by
  simp only [labelSegment?, Option.bind_eq_bind, Option.bind_eq_some_iff, Prod.exists] at h
  obtain ⟨found, rest, named, digits, read, _⟩ := h
  obtain ⟨hname, rfl⟩ := name?_eq_some named
  obtain ⟨offset, hoffset, after, ended, rfl⟩ := offsetDigits?_eq_some read
  exact ⟨found ++ offset, mem_addressLabel.mpr ⟨found, hname, offset, hoffset, rfl⟩, after, ended,
    (List.append_assoc ..).symm⟩

theorem routineSegment?_of_mem (h : routine ∈ addressName) :
    routineSegment? routine = some routine := by
  have named : name? (routine ++ []) = some (routine, []) := name?_append h (by rintro _ ⟨⟩)
  rw [List.append_nil] at named
  simp [routineSegment?, named, isSegmentEnd]

theorem routineSegment?_eq_some (h : routineSegment? cs = some routine) :
    routine ∈ addressName ∧ ∃ after, isSegmentEnd after = true ∧ cs = routine ++ after := by
  simp only [routineSegment?, Option.bind_eq_bind, Option.bind_eq_some_iff, Prod.exists] at h
  obtain ⟨found, after, named, h⟩ := h
  split at h
  · next ended =>
      cases h
      obtain ⟨hname, rfl⟩ := name?_eq_some named
      exact ⟨hname, after, ended, rfl⟩
  · cases h

/-! ## The addresses that are read -/

/-- The address with the given name of a label, digits of an offset and routine. -/
def ofSegments (name digits routine : List Char) : Except Fault Address :=
  match offsetValue digits with
  | .ok n => .ok { routine := String.ofList routine, label := String.ofList name, offset := n }
  | .error f => .error f

theorem ofSegments_ne_invalid (name digits routine : List Char) :
    ofSegments name digits routine ≠ .error .invalidAddress := by
  unfold ofSegments offsetValue
  split <;> rename_i found
  · nofun
  · split at found
    · cases found
    · split at found <;> cases found
      nofun

theorem parse_of_segments {raw : String} {digits before : List Char}
    (text : trim raw.toList = before ++ '^' :: routine) (noCaret : ∀ c ∈ before, c ≠ '^')
    (hlabel : labelSegment? before = some (name, digits)) (hroutine : routine ∈ addressName) :
    parse raw = ofSegments name digits routine := by
  have caret : ∀ c ∈ before, decide (c ≠ '^') = true := fun c hc => by simp [noCaret c hc]
  simp only [parse, text, List.dropWhile_append_of_pos caret, List.takeWhile_append_of_pos caret]
  simp only [hlabel, List.takeWhile_cons, List.dropWhile_cons, ne_eq, not_true_eq_false,
    decide_false, Bool.false_eq_true, if_false, List.append_nil, routineSegment?_of_mem hroutine]
  rfl

/-- A label, at most one line feed, a caret and a routine are read as an address. -/
theorem parse_of_mem {raw : String} (hname : name ∈ addressName)
    (hoffset : offset ∈ 1 + addressOffset) (ended : isSegmentEnd after = true)
    (hroutine : routine ∈ addressName)
    (text : trim raw.toList = name ++ offset ++ after ++ '^' :: routine) :
    parse raw = ofSegments name (offset.drop 1) routine := by
  have label : name ++ offset ∈ addressLabel :=
    mem_addressLabel.mpr ⟨name, hname, offset, hoffset, rfl⟩
  refine parse_of_segments text (fun c hc => ?_) (labelSegment?_append hname hoffset ended) hroutine
  rcases List.mem_append.mp hc with inLabel | inEnd
  · exact ne_caret_of_isAddressChar (isAddressChar_of_mem_label label c inLabel)
  · rcases isSegmentEnd_iff.mp ended with rfl | rfl
    · cases inEnd
    · obtain rfl : c = '\n' := by simpa using inEnd
      decide

/-- No blank stands at the end of a trimmed text. -/
theorem not_blank_of_trim {u : List Char} {c : Char} (h : trim cs = u ++ [c]) :
    isBlank c = false := by
  have reversed : ((trimStart cs).reverse.dropWhile isBlank) = c :: u.reverse := by
    rw [← List.reverse_inj, List.reverse_cons, List.reverse_reverse]
    exact h
  have first := List.head?_dropWhile_not isBlank (trimStart cs).reverse
  rwa [reversed] at first

/-- What is not refused has the form of an address. -/
theorem mem_of_parse {raw : String} (h : parse raw ≠ .error .invalidAddress) :
    ∃ label ∈ addressLabel, ∃ routine ∈ addressName, ∃ after, isSegmentEnd after = true ∧
      trim raw.toList = label ++ after ++ '^' :: routine := by
  unfold parse at h
  dsimp only at h
  split at h
  · exact absurd rfl h
  · next caret rest found =>
      split at h
      · next name digits routine hlabel hroutine =>
          obtain ⟨label, mem, after, ended, before⟩ := labelSegment?_eq_some hlabel
          obtain ⟨routineMem, last, lastEnded, rfl⟩ := routineSegment?_eq_some hroutine
          obtain rfl : caret = '^' := by
            have first := List.head?_dropWhile_not (fun c => decide (c ≠ '^')) (trim raw.toList)
            rw [found] at first
            simpa using first
          have text : trim raw.toList = label ++ after ++ '^' :: (routine ++ last) := by
            rw [← before, ← found, List.takeWhile_append_dropWhile]
          -- Trimming has taken a line feed behind the routine.
          have whole : last = [] := by
            rcases isSegmentEnd_iff.mp lastEnded with rfl | rfl
            · rfl
            · have ends : trim raw.toList = (label ++ after ++ '^' :: routine) ++ ['\n'] := by
                rw [text]
                simp
              exact absurd (not_blank_of_trim ends) (by decide)
          rw [whole, List.append_nil] at text
          exact ⟨label, mem, routine, routineMem, after, ended, text⟩
      · exact absurd rfl h

/-- Exactly the texts of two forms are read, those with a line feed before the caret among
them. -/
theorem parse_eq_invalid_iff (raw : String) :
    parse raw = .error .invalidAddress ↔ trim raw.toList ∉ address + brokenAddress := by
  constructor
  · rintro refused (mem | mem)
    · obtain ⟨_, hlabel, routine, hroutine, text⟩ := mem_address.mp mem
      obtain ⟨name, hname, offset, hoffset, rfl⟩ := mem_addressLabel.mp hlabel
      have ended : isSegmentEnd [] = true := rfl
      have read := parse_of_mem hname hoffset ended hroutine (by simpa using text)
      exact ofSegments_ne_invalid _ _ _ (read.symm.trans refused)
    · obtain ⟨_, hlabel, routine, hroutine, text⟩ := mem_brokenAddress.mp mem
      obtain ⟨name, hname, offset, hoffset, rfl⟩ := mem_addressLabel.mp hlabel
      have ended : isSegmentEnd ['\n'] = true := rfl
      have read := parse_of_mem hname hoffset ended hroutine (by simpa using text)
      exact ofSegments_ne_invalid _ _ _ (read.symm.trans refused)
  · intro other
    by_contra read
    obtain ⟨label, hlabel, routine, hroutine, after, ended, text⟩ := mem_of_parse read
    apply other
    rcases isSegmentEnd_iff.mp ended with rfl | rfl
    · exact .inl (mem_address.mpr ⟨label, hlabel, routine, hroutine, by simpa using text⟩)
    · exact .inr (mem_brokenAddress.mpr ⟨label, hlabel, routine, hroutine, by simpa using text⟩)

/-- A line feed before the caret makes no difference. -/
theorem parse_eq_of_broken {raw whole : String} (hlabel : label ∈ addressLabel)
    (hroutine : routine ∈ addressName) (broken : trim raw.toList = label ++ '\n' :: '^' :: routine)
    (unbroken : trim whole.toList = label ++ '^' :: routine) : parse raw = parse whole := by
  obtain ⟨name, hname, offset, hoffset, rfl⟩ := mem_addressLabel.mp hlabel
  have feed : isSegmentEnd ['\n'] = true := rfl
  have empty : isSegmentEnd [] = true := rfl
  rw [parse_of_mem hname hoffset feed hroutine (by simpa using broken),
    parse_of_mem hname hoffset empty hroutine (by simpa using unbroken)]

/-- With a blank inside, only a line feed before the caret is let through. -/
theorem parse_eq_invalid_iff_of_blank {raw : String}
    (blank : ∃ c ∈ trim raw.toList, isBlank c = true) :
    parse raw = .error .invalidAddress ↔ trim raw.toList ∉ brokenAddress := by
  obtain ⟨c, hc, blank⟩ := blank
  have unclean : trim raw.toList ∉ address := fun mem => by
    rw [not_blank_of_mem_address mem c hc] at blank
    cases blank
  rw [parse_eq_invalid_iff, Language.mem_add, or_iff_right unclean]

end Address

namespace Jumper

open Exchange

/-- A jump to an address that is refused only says so. -/
theorem endsWith_jumpTo_of_invalid {resolver : Resolver} {connection : Document → Connection}
    {opens : String → Except Fault Document} {reveals notifies : Bool} {raw : String}
    (refused : Address.parse raw = .error .invalidAddress) (source : Option Document)
    (bound : Bool) (x : Exchange) :
    EndsWith
      (((watched resolver connection opens reveals notifies).jumpTo raw source bound).runOn x)
      (.ok none) x (warning notifies Fault.addressFormat) := by
  unfold jumpTo
  rw [refused]
  dsimp only
  rw [Act.runOn_bind_of_ok (runOn_warn_watched _ _)]
  exact EndsWith.of_unlogged (unlogged_add_log _ _)

/-- An address with a blank inside is refused, and a jump to it then sends nothing and only
tells the form of an address, unless the blank is a single line feed at the end of the label;
then the address is read as if the line feed were not there. -/
theorem jumpTo_blank_inside (resolver : Resolver) (connection : Document → Connection)
    (opens : String → Except Fault Document) (reveals notifies : Bool) (raw : String)
    (source : Option Document) (bound : Bool) (x : Exchange)
    (blank : ∃ c ∈ trim raw.toList, isBlank c = true) :
    let run :=
      ((watched resolver connection opens reveals notifies).jumpTo raw source bound).runOn x
    (Address.parse raw = .error .invalidAddress ↔ trim raw.toList ∉ Grammar.brokenAddress) ∧
      (trim raw.toList ∉ Grammar.brokenAddress →
        run.1 = .ok none ∧ run.2.steps = x.steps ∧
          run.2.notices = x.notices ++ warning notifies Fault.addressFormat) ∧
      ∀ label ∈ Grammar.addressLabel, ∀ routine ∈ Grammar.addressName,
        trim raw.toList = label ++ '\n' :: '^' :: routine →
          ∀ whole : String, trim whole.toList = label ++ '^' :: routine →
            Address.parse raw = Address.parse whole := by
  intro run
  have refused := Address.parse_eq_invalid_iff_of_blank blank
  refine ⟨refused, fun unbroken => ?_, ?_⟩
  · have ends : EndsWith run (.ok none) x (warning notifies Fault.addressFormat) :=
      endsWith_jumpTo_of_invalid (refused.mpr unbroken) source bound x
    exact ⟨ends.1, ends.steps_eq, ends.notices_eq⟩
  · intro label hlabel routine hroutine broken whole unbroken
    exact Address.parse_eq_of_broken hlabel hroutine broken unbroken

theorem jumpTo_blank_inside_label :
    let d := Document.ofText "/ws/Caller.mac" "Caller"
    let x : Exchange := { server := Server.ofReplies [] [.timeout] }
    let run := ((watched {} (fun _ => {}) (fun _ => .ok d) true true).jumpTo
      " Start +1^Foo " (some d) true).runOn x
    run.1 = .ok none ∧ run.2.steps = [] ∧
      run.2.notices = [.warned "Invalid format. Use Label+Offset^Routine"] := by
  intro d x run
  obtain ⟨refused, silent, _⟩ := jumpTo_blank_inside {} (fun _ => {}) (fun _ => .ok d) true
    true " Start +1^Foo " (some d) true x ⟨' ', by decide, by decide⟩
  exact silent (refused.mp (by rfl))

theorem jumpTo_feed_before_caret :
    let d := Document.ofText "/ws/Caller.mac" "Caller"
    let x : Exchange := { server := Server.ofReplies [] [.timeout] }
    let run := ((watched {} (fun _ => {}) (fun _ => .ok d) true true).jumpTo "A\n^B"
      (some d) true).runOn x
    (∃ c ∈ trim "A\n^B".toList, isBlank c = true) ∧
      Address.parse "A\n^B" = .ok ⟨"B", "A", 0⟩ ∧
      run.2.notices = [.warned "Routine B not found in the current workspace"] := by
  intro d x run
  refine ⟨⟨'\n', by decide, by decide⟩, rfl, ?_⟩
  decide +kernel

end Jumper

end RefNav
