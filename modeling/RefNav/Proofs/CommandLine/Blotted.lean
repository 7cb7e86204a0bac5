import Mathlib.Data.List.Forall2
import RefNav.CommandLine.Run
import RefNav.Proofs.Settings.BlottedFile

/-! # Command lines with the password blotted out

The words of the configuration command are alike if they are the same once the password given
with them is blotted out.  They are taken apart in the same way, with the same misuse if there
is any, and the values of the parameters are the same but for the password.
-/

namespace RefNav.CommandLine

open RefNav.Text RefNav.CommandLine.Grammar

/-- The option with the password. -/
def passwordOption : OptionRule :=
  valued "--password" "password" .text

/-- How the configuration command is called. -/
def configGrammar : Grammar :=
  CommandName.config.grammar

/-- Does a word take the next one as its value? -/
def takesNext (word : String) : Bool :=
  isOptionWord word &&
    match configGrammar.readWord word with
    | .ok (.awaiting _ _) => true
    | _ => false

/-- A word with the password behind its equals sign blotted out. -/
def blottedWord (word : String) : String :=
  match splitWord word with
  | (name, some value) => if name = "--password" then "--password=" ++ blot value else word
  | _ => word

/-- The words of the configuration command with the password blotted out. -/
def blottedWords : List String → List String
  | [] => []
  | word :: rest =>
      if word = "--" then word :: rest
      else if takesNext word then
        match rest with
        | [] => [word]
        | value :: rest =>
            word :: (if word = "--password" then blot value else value) :: blottedWords rest
      else blottedWord word :: blottedWords rest

/-- A setting with the password blotted out. -/
def blottedSetting : OptionRule × Setting → OptionRule × Setting
  | (o, .word text) => if o = passwordOption then (o, .word (blot text)) else (o, .word text)
  | p => p

/-- The options given with the password blotted out. -/
def Scan.blotted (s : Scan) : Scan :=
  { s with given := s.given.map blottedSetting }

/-! ## Single words -/

theorem name_mem_of_option? {g : Grammar} {name : String} {o : OptionRule}
    (h : g.option? name = some o) : name ∈ o.names := by
  simpa using List.find?_some h

theorem option?_password : configGrammar.option? "--password" = some passwordOption := by
  decide

theorem eq_of_option?_password {name : String}
    (h : configGrammar.option? name = some passwordOption) : name = "--password" := by
  simpa [passwordOption, valued] using name_mem_of_option? h

theorem blottedSetting_of_ne {o : OptionRule} (h : o ≠ passwordOption) (s : Setting) :
    blottedSetting (o, s) = (o, s) := by
  cases s <;> simp [blottedSetting, h]

theorem blottedSetting_bare (o : OptionRule) :
    blottedSetting (o, bareSetting o) = (o, bareSetting o) := by
  unfold bareSetting
  split <;> rfl

theorem map_blottedSetting_cluster {g : Grammar} {cs : List Char}
    {given : List (OptionRule × Setting)} (h : g.cluster cs = .ok given) :
    given.map blottedSetting = given := by
  induction cs generalizing given with
  | nil =>
      cases h
      rfl
  | cons c rest ih =>
      unfold cluster at h
      dsimp only at h
      split at h
      · cases h
      · split at h
        · next more =>
            cases h
            rw [List.map_cons, ih more, blottedSetting_bare]
        · cases h

theorem splitWord_joined (v : String) :
    splitWord ("--password=" ++ v) = ("--password", some v) := by
  simp [splitWord, String.toList_append]

theorem eq_of_splitWord_some {word name v : String} (h : splitWord word = (name, some v)) :
    word = name ++ "=" ++ v := by
  have parts := List.takeWhile_append_dropWhile (p := (· ≠ '=')) (l := word.toList)
  unfold splitWord at h
  dsimp only at h
  split at h
  · cases h
  · next c value rest =>
      cases h
      have stop := List.head?_dropWhile_not (· ≠ '=') word.toList
      rw [rest] at stop
      have equals : c = '=' := by simpa using stop
      rw [rest, equals] at parts
      apply String.toList_injective
      simp only [String.toList_append, String.toList_ofList, List.append_assoc]
      exact parts.symm

theorem eq_of_splitWord_none {word name : String} (h : splitWord word = (name, none)) :
    name = word := by
  have parts := List.takeWhile_append_dropWhile (p := (· ≠ '=')) (l := word.toList)
  unfold splitWord at h
  dsimp only at h
  split at h
  · next rest =>
      cases h
      rw [rest, List.append_nil] at parts
      rw [parts, String.ofList_toList]
  · cases h

theorem blottedWord_joined (v : String) :
    blottedWord ("--password=" ++ v) = "--password=" ++ blot v := by
  simp [blottedWord, splitWord_joined]

theorem blottedWord_of_ne {word : String} (h : ∀ v, word ≠ "--password=" ++ v) :
    blottedWord word = word := by
  unfold blottedWord
  split
  · next name v split =>
      split
      · next password =>
          rw [password] at split
          exact absurd (eq_of_splitWord_some split) (h v)
      · rfl
  · rfl

theorem isOptionWord_joined (v : String) : isOptionWord ("--password=" ++ v) = true := by
  simp [isOptionWord, String.toList_append]

theorem joined_ne_dashes (v : String) : "--password=" ++ v ≠ "--" := by
  intro h
  have same := congrArg String.toList h
  simp [String.toList_append] at same

theorem readWord_joined (v : String) :
    configGrammar.readWord ("--password=" ++ v) = .ok (.complete [(passwordOption, .word v)]) := by
  have long : isLong ("--password=" ++ v) = true := by simp [isLong, String.toList_append]
  simp only [readWord, long, if_true, readLong, splitWord_joined, option?_password]
  rfl

theorem option?_of_awaiting {g : Grammar} {word name : String} {o : OptionRule}
    (h : g.readWord word = .ok (.awaiting name o)) : g.option? word = some o := by
  unfold readWord at h
  split at h
  · unfold readLong at h
    rcases parts : splitWord word with ⟨spelling, value⟩
    simp only [parts] at h
    split at h
    · cases h
    · next found =>
        split at h
        · cases h
        · cases h
          rwa [← eq_of_splitWord_none parts]
        · cases h
        · cases h
  · cases joined : g.cluster (word.toList.drop 1) <;> rw [joined] at h <;> cases h

theorem map_blottedSetting_readWord {word : String} {given : List (OptionRule × Setting)}
    (plain : ∀ v, word ≠ "--password=" ++ v)
    (h : configGrammar.readWord word = .ok (.complete given)) :
    given.map blottedSetting = given := by
  unfold readWord at h
  split at h
  · unfold readLong at h
    rcases parts : splitWord word with ⟨spelling, value⟩
    simp only [parts] at h
    split at h
    · cases h
    · next o found =>
        split at h
        · next v _ =>
            cases h
            have other : o ≠ passwordOption := by
              rintro rfl
              rw [eq_of_option?_password found] at parts
              exact plain v (eq_of_splitWord_some parts)
            rw [List.map_singleton, blottedSetting_of_ne other]
        · cases h
        · cases h
        · cases h
          rw [List.map_singleton, blottedSetting_bare]
  · cases joined : configGrammar.cluster (word.toList.drop 1) with
    | error m =>
        rw [joined] at h
        cases h
    | ok settings =>
        rw [joined] at h
        cases h
        exact map_blottedSetting_cluster joined

/-! ## Taking the words apart -/

/-- The options of a scan follow those given before. -/
def Scan.prepend (given : List (OptionRule × Setting)) (s : Scan) : Scan :=
  { s with given := given ++ s.given }

section

variable {g : Grammar} {word : String}

theorem scan_dashes (rest : List String) : g.scan ("--" :: rest) = .ok { operands := rest } := by
  rw [Grammar.scan.eq_def]
  simp only [if_true]

theorem scan_misused (option : isOptionWord word = true) (dashes : word ≠ "--") {m : Misuse}
    (h : g.readWord word = .error m) (rest : List String) : g.scan (word :: rest) = .error m := by
  rw [Grammar.scan.eq_def]
  simp only [dashes, option, h, if_true, if_false]

theorem scan_unfinished (option : isOptionWord word = true) (dashes : word ≠ "--") {name : String}
    {o : OptionRule} (h : g.readWord word = .ok (.awaiting name o)) :
    g.scan [word] = .error (.needsValue name) := by
  rw [Grammar.scan.eq_def]
  simp only [dashes, option, h, if_true, if_false]

theorem scan_complete (option : isOptionWord word = true) (dashes : word ≠ "--")
    {given : List (OptionRule × Setting)} (h : g.readWord word = .ok (.complete given))
    (rest : List String) : g.scan (word :: rest) = (g.scan rest).map (Scan.prepend given) := by
  rw [Grammar.scan.eq_def]
  simp only [dashes, option, h, if_true, if_false]
  cases g.scan rest <;> rfl

theorem scan_awaiting (option : isOptionWord word = true) (dashes : word ≠ "--") {name : String}
    {o : OptionRule} (h : g.readWord word = .ok (.awaiting name o)) (value : String)
    (rest : List String) :
    g.scan (word :: value :: rest) = (g.scan rest).map (Scan.consOption o (.word value)) := by
  rw [Grammar.scan.eq_def]
  simp only [dashes, option, h, if_true, if_false]
  cases g.scan rest <;> rfl

theorem scan_operand (interspersed : g.interspersed = true) (operand : ¬ isOptionWord word = true)
    (dashes : word ≠ "--") (rest : List String) :
    g.scan (word :: rest) = (g.scan rest).map (Scan.consOperand word) := by
  rw [Grammar.scan.eq_def]
  simp only [dashes, operand, interspersed, if_true, if_false]
  cases g.scan rest <;> rfl

/-- A word that is no option ends the options where they cannot stand behind arguments. -/
theorem scan_append_operand (first : g.interspersed = false) {words : List String}
    {given : List (OptionRule × Setting)} (h : g.scan words = .ok { given })
    (operand : ¬ isOptionWord word = true) (dashes : word ≠ "--") (rest : List String) :
    g.scan (words ++ word :: rest) = .ok { given, operands := word :: rest } := by
  fun_induction Grammar.scan g words generalizing given with
  | case1 =>
      cases h
      rw [List.nil_append, Grammar.scan.eq_def]
      simp [dashes, operand, first]
  | case2 words =>
      cases h
      exact scan_dashes _
  | case3 option words _ _ m _ => cases h
  | case4 option other isOption settings words read ih =>
      cases more : g.scan words with
      | error m =>
          rw [more] at h
          cases h
      | ok s =>
          obtain ⟨later, operands⟩ := s
          rw [more] at h
          cases h
          rw [List.cons_append, scan_complete isOption other read, ih more]
          rfl
  | case5 option _ _ name o _ => cases h
  | case6 option other isOption name o value words read ih =>
      cases more : g.scan words with
      | error m =>
          rw [more] at h
          cases h
      | ok s =>
          obtain ⟨later, operands⟩ := s
          rw [more] at h
          cases h
          rw [List.cons_append, List.cons_append, scan_awaiting isOption other read, ih more]
          rfl
  | case7 operand words _ _ interspersed _ => simp [first] at interspersed
  | case8 operand words _ _ _ => cases h

theorem exists_awaiting_of_takesNext (h : takesNext word = true) :
    isOptionWord word = true ∧ ∃ name o, configGrammar.readWord word = .ok (.awaiting name o) := by
  unfold takesNext at h
  rw [Bool.and_eq_true] at h
  refine ⟨h.1, ?_⟩
  have awaits := h.2
  split at awaits
  · next name o found => exact ⟨name, o, found⟩
  · cases awaits

end

theorem map_blotted_map {f f' : Scan → Scan} (h : ∀ s, (f s).blotted = f' s.blotted)
    (o : Except Misuse Scan) :
    (o.map f).map Scan.blotted = (o.map Scan.blotted).map f' := by
  cases o with
  | error m => rfl
  | ok s => exact congrArg Except.ok (h s)

theorem blotted_prepend (given : List (OptionRule × Setting)) (s : Scan) :
    (s.prepend given).blotted = s.blotted.prepend (given.map blottedSetting) := by
  simp [Scan.blotted, Scan.prepend]

theorem blotted_consOption (o : OptionRule) (value : Setting) (s : Scan) :
    (s.consOption o value).blotted =
      s.blotted.consOption (blottedSetting (o, value)).1 (blottedSetting (o, value)).2 := rfl

theorem blotted_consOperand (word : String) (s : Scan) :
    (s.consOperand word).blotted = s.blotted.consOperand word := rfl

/-- Words with the password blotted out make the scan with the password blotted out. -/
theorem scan_blottedWords (words : List String) :
    configGrammar.scan (blottedWords words) = (configGrammar.scan words).map Scan.blotted := by
  fun_induction blottedWords words with
  | case1 => rfl
  | case2 rest =>
      rw [scan_dashes]
      rfl
  | case3 word dashes takes =>
      obtain ⟨option, name, o, awaits⟩ := exists_awaiting_of_takesNext takes
      rw [scan_unfinished option dashes awaits]
      rfl
  | case4 word dashes takes value rest ih =>
      obtain ⟨option, name, o, awaits⟩ := exists_awaiting_of_takesNext takes
      -- No other spelling leads to the option, so the word tells whether its value is blotted out.
      have password : (o = passwordOption) ↔ word = "--password" := by
        have found := option?_of_awaiting awaits
        constructor
        · rintro rfl
          exact eq_of_option?_password found
        · rintro rfl
          exact Option.some.inj (found.symm.trans option?_password)
      rw [scan_awaiting option dashes awaits, scan_awaiting option dashes awaits, ih,
        map_blotted_map (blotted_consOption o (.word value))]
      simp only [blottedSetting, password]
      split <;> rfl
  | case5 word rest dashes takes ih =>
      by_cases option : isOptionWord word = true
      · by_cases joined : ∃ v, word = "--password=" ++ v
        · obtain ⟨v, rfl⟩ := joined
          rw [blottedWord_joined,
            scan_complete (isOptionWord_joined _) (joined_ne_dashes _) (readWord_joined _),
            scan_complete (isOptionWord_joined _) (joined_ne_dashes _) (readWord_joined _), ih,
            map_blotted_map (blotted_prepend _)]
          rfl
        · -- Whatever the word gives, it is not the password with a value.
          rw [not_exists] at joined
          rw [blottedWord_of_ne joined]
          cases read : configGrammar.readWord word with
          | error m =>
              rw [scan_misused option dashes read, scan_misused option dashes read]
              rfl
          | ok said =>
              cases said with
              | complete given =>
                  rw [scan_complete option dashes read, scan_complete option dashes read, ih,
                    map_blotted_map (blotted_prepend _), map_blottedSetting_readWord joined read]
              | awaiting name o => simp [takesNext, option, read] at takes
      · have plain : ∀ v, word ≠ "--password=" ++ v := by
          rintro v rfl
          exact option (isOptionWord_joined v)
        rw [blottedWord_of_ne plain, scan_operand rfl option dashes, scan_operand rfl option dashes,
          ih, map_blotted_map (blotted_consOperand word)]

/-- Words that are the same but for the password are taken apart in the same way. -/
theorem sameOutcome_scan {words words' : List String}
    (h : blottedWords words = blottedWords words') :
    SameOutcome (fun s s' => s.blotted = s'.blotted) (configGrammar.scan words)
      (configGrammar.scan words') := by
  have same := scan_blottedWords words
  rw [h, scan_blottedWords] at same
  generalize configGrammar.scan words = o, configGrammar.scan words' = o' at same
  cases o with
  | error m =>
      cases o' with
      | error m' =>
          cases same
          exact .error m
      | ok s' => cases same
  | ok s =>
      cases o' with
      | error m' => cases same
      | ok s' => exact .ok (Except.ok.inj same).symm

/-! ## The options given -/

theorem fst_blottedSetting (p : OptionRule × Setting) : (blottedSetting p).1 = p.1 := by
  unfold blottedSetting
  split
  · split <;> rfl
  · rfl

theorem information?_map_blottedSetting (help : String) (given : List (OptionRule × Setting)) :
    Program.information? help (given.map blottedSetting) = Program.information? help given := by
  simp [Program.information?, List.findSome?_map, Function.comp_def, fst_blottedSetting]

theorem missingOption?_map_blottedSetting (g : Grammar) (given : List (OptionRule × Setting)) :
    missingOption? g (given.map blottedSetting) = missingOption? g given := by
  simp [missingOption?, Function.comp_def, fst_blottedSetting]

theorem lastSettings_cons (p : OptionRule × Setting) (rest : List (OptionRule × Setting)) :
    lastSettings (p :: rest) =
      (rest.filter fun q => q.1.key = p.1.key).getLast?.getD p ::
        (lastSettings rest).filter fun q => q.1.key ≠ p.1.key := rfl

/-- The last setting of an option counts, blotted out or not. -/
theorem lastSettings_map_blottedSetting (given : List (OptionRule × Setting)) :
    lastSettings (given.map blottedSetting) = (lastSettings given).map blottedSetting := by
  induction given with
  | nil => rfl
  | cons p rest ih =>
      rw [List.map_cons, lastSettings_cons, lastSettings_cons, ih, List.map_cons]
      simp only [List.filter_map, Function.comp_def, fst_blottedSetting, List.getLast?_map]
      rw [Option.getD_map]

/-! ## The values of the parameters -/

/-- Settings that are the same, or two passwords. -/
def SettingLike (p p' : OptionRule × Setting) : Prop :=
  p = p' ∨ ∃ s s', p = (passwordOption, .word s) ∧ p' = (passwordOption, .word s') ∧
    s ≠ "" ∧ s' ≠ ""

theorem settingLike_of_blotted {p p' : OptionRule × Setting}
    (h : blottedSetting p = blottedSetting p') : SettingLike p p' := by
  have option : p.1 = p'.1 := by
    rw [← fst_blottedSetting p, h, fst_blottedSetting]
  obtain ⟨o, s⟩ := p
  obtain ⟨o', s'⟩ := p'
  obtain rfl : o = o' := option
  by_cases password : o = passwordOption
  · subst password
    cases s <;> cases s' <;> simp [blottedSetting] at h
    · next s s' =>
        rcases blot_cases h with rfl | ⟨given, given'⟩
        · exact .inl rfl
        · exact .inr ⟨s, s', rfl, rfl, given, given'⟩
    · exact .inl rfl
    · exact .inl rfl
  · rw [blottedSetting_of_ne password, blottedSetting_of_ne password] at h
    exact .inl h

/-- Values that are the same, or two passwords. -/
def ValueLike (p p' : String × Value) : Prop :=
  p = p' ∨ ∃ s s', p = ("password", .text s) ∧ p' = ("password", .text s') ∧ s ≠ "" ∧ s' ≠ ""

/-- Values of the parameters that are the same but for the password. -/
def Bindings.Like (b b' : Bindings) : Prop :=
  List.Forall₂ ValueLike b b'

variable {t t' : FileTree}

theorem convert_eq (h : t.Like t') (kind : ValueKind) (word : String) :
    kind.convert t word = kind.convert t' word := by
  have readPath (directoryWanted : Bool) :
      ValueKind.readPath t directoryWanted word = ValueKind.readPath t' directoryWanted word := by
    unfold ValueKind.readPath ValueKind.target
    rcases h.find_kinds word with
      ⟨place, found, found'⟩ | ⟨place, bytes, bytes', found, found'⟩ | ⟨f, failed, failed'⟩
    · rw [found, found']
    · rw [found, found']
      rfl
    · rw [failed, failed']
  cases kind <;> simp only [ValueKind.convert, readPath]

theorem sameOutcome_bind (h : t.Like t') {p p' : OptionRule × Setting} (like : SettingLike p p') :
    SameOutcome (fun v v' => ValueLike (p.1.key, v) (p'.1.key, v')) (p.1.bind t p.2)
      (p'.1.bind t' p'.2) := by
  rcases like with rfl | ⟨s, s', rfl, rfl, given, given'⟩
  · have same : p.1.bind t p.2 = p.1.bind t' p.2 := by
      unfold OptionRule.bind ValueKind.bind
      simp only [convert_eq h]
    rw [same]
    exact .refl (fun _ => .inl rfl) _
  · exact .ok (.inr ⟨s, s', rfl, rfl, given, given'⟩)

theorem sameOutcome_bindOptions (h : t.Like t') {given given' : List (OptionRule × Setting)}
    (like : List.Forall₂ SettingLike given given') :
    SameOutcome Bindings.Like (bindOptions t given) (bindOptions t' given') := by
  induction like with
  | nil => exact .ok .nil
  | @cons p p' rest rest' first _ ih =>
      have values := sameOutcome_bind h first
      obtain ⟨o, s⟩ := p
      obtain ⟨o', s'⟩ := p'
      unfold bindOptions
      dsimp only at values
      generalize o.bind t s = v, o'.bind t' s' = v' at values
      cases values with
      | error r => exact .error r
      | ok same =>
          generalize bindOptions t rest = b, bindOptions t' rest' = b' at ih
          cases ih with
          | error r => exact .error r
          | ok more => exact .ok (.cons same more)

theorem bindArguments_eq (h : t.Like t') (rules : List ArgumentRule) (words : List String) :
    bindArguments t rules words = bindArguments t' rules words := by
  induction rules generalizing words with
  | nil => rfl
  | cons rule rest ih =>
      cases words with
      | nil => rfl
      | cons word words => simp only [bindArguments, ValueKind.bind, convert_eq h, ih]

theorem forall₂_settingLike {given given' : List (OptionRule × Setting)}
    (h : given.map blottedSetting = given'.map blottedSetting) :
    List.Forall₂ SettingLike given given' := by
  rw [← List.forall₂_eq_eq_eq, List.forall₂_map_left_iff, List.forall₂_map_right_iff] at h
  exact h.imp fun _ _ => settingLike_of_blotted

/-- The words of a command line, taken apart, give the same values but for the password. -/
theorem sameOutcome_grammar_bind (h : t.Like t') (g : Grammar) {s s' : Scan}
    (like : s.blotted = s'.blotted) :
    SameOutcome Bindings.Like (g.bind t s) (g.bind t' s') := by
  obtain ⟨given, operands⟩ := s
  obtain ⟨given', operands'⟩ := s'
  obtain ⟨settings, rfl⟩ :
      given.map blottedSetting = given'.map blottedSetting ∧ operands = operands' := by
    simpa [Scan.blotted] using like
  have missing : missingOption? g given = missingOption? g given' := by
    rw [← missingOption?_map_blottedSetting, settings, missingOption?_map_blottedSetting]
  have last :
      (lastSettings given).map blottedSetting = (lastSettings given').map blottedSetting := by
    rw [← lastSettings_map_blottedSetting, settings, lastSettings_map_blottedSetting]
  have options := sameOutcome_bindOptions h (forall₂_settingLike last)
  -- Options, arguments, missing options and superfluous words are looked at in this order.
  unfold Grammar.bind
  rw [bindArguments_eq h, missing]
  dsimp only
  generalize bindOptions t (lastSettings given) = o,
    bindOptions t' (lastSettings given') = o' at options
  cases options with
  | error r => exact .error r
  | ok values =>
      cases bindArguments t' g.arguments operands with
      | error r => exact .error r
      | ok arguments =>
          obtain ⟨more, extra⟩ := arguments
          cases missingOption? g given' with
          | some o => exact .error _
          | none =>
              cases extra with
              | cons word rest => exact .error _
              | nil =>
                  exact .ok (List.rel_append values (List.forall₂_same.mpr fun _ _ => .inl rfl))

/-! ## The settings given -/

namespace Bindings

variable {b b' : Bindings} {key : String}

theorem Like.lookup (h : Like b b') (other : key ≠ "password") :
    List.lookup key b = List.lookup key b' := by
  induction h with
  | nil => rfl
  | @cons p _ _ _ first _ ih =>
      rcases first with rfl | ⟨s, s', rfl, rfl, -, -⟩
      · obtain ⟨name, v⟩ := p
        rw [List.lookup_cons, List.lookup_cons, ih]
      · rw [List.lookup_cons, List.lookup_cons, beq_eq_false_iff_ne.mpr other, ih]

/-- The password is given with both or with neither, and it is empty with both or with
neither. -/
theorem Like.password (h : Like b b') :
    (b.text? "password").map blot = (b'.text? "password").map blot := by
  unfold text?
  induction h with
  | nil => rfl
  | @cons p _ _ _ first _ ih =>
      rcases first with rfl | ⟨s, s', rfl, rfl, given, given'⟩
      · obtain ⟨key, v⟩ := p
        by_cases here : "password" = key
        · rw [here, List.lookup_cons_self, List.lookup_cons_self]
        · simp only [List.lookup_cons, beq_eq_false_iff_ne.mpr here, ih]
      · simp only [List.lookup_cons_self, Option.map_some, blot_of_ne_empty given,
          blot_of_ne_empty given']

end Bindings

end RefNav.CommandLine
