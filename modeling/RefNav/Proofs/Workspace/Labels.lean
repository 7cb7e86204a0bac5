import RefNav.Workspace.Index

/-! # The table of labels

A name is found in the table of labels at the first line that starts with it.
-/

namespace RefNav

theorem lookup_addFirst {α : Type} (table : List (String × α)) (name other : String) (value : α) :
    (addFirst table name value).lookup other =
      (table.lookup other).or (if other = name then some value else none) := by
  unfold addFirst
  by_cases same : other = name
  · subst same
    cases known : table.lookup other with
    | none => simp [List.lookup_append, known]
    | some found => simp [known]
  · have absent : [(name, value)].lookup other = none := by simp [same]
    rw [if_neg same]
    split <;> simp [List.lookup_append, absent]

theorem mem_addFirst {α : Type} {table : List (String × α)} {name : String} {value : α}
    {e : String × α} (h : e ∈ addFirst table name value) : e ∈ table ∨ e = (name, value) := by
  unfold addFirst at h
  split at h
  · exact .inl h
  · simpa using h

namespace Index

theorem firstLine_cons (declared : List Char → Option (List Char)) (name line : String)
    (lines : List String) :
    firstLine declared name (line :: lines) =
      if declared line.toList = some name.toList then some 0
      else (firstLine declared name lines).map (· + 1) := by
  simp [firstLine, List.findIdx?_cons]

theorem getElem?_of_firstLine {declared : List Char → Option (List Char)} {name : String}
    {lines : List String} {n : Nat} (h : firstLine declared name lines = some n) :
    ∃ text, lines[n]? = some text ∧ declared text.toList = some name.toList := by
  obtain ⟨inside, declares, _⟩ := List.findIdx?_eq_some_iff_getElem.mp h
  exact ⟨lines[n], List.getElem?_eq_getElem inside, by simpa using declares⟩

theorem exists_firstLine {declared : List Char → Option (List Char)} {name line : String}
    {lines : List String} (among : line ∈ lines) (h : declared line.toList = some name.toList) :
    ∃ n, firstLine declared name lines = some n := by
  cases found : firstLine declared name lines with
  | some n => exact ⟨n, rfl⟩
  | none =>
      have absent := List.findIdx?_eq_none_iff.mp found line among
      simp [h] at absent

theorem firstLine_congr {declared other : List Char → Option (List Char)} {lines : List String}
    (same : ∀ line ∈ lines, declared line.toList = other line.toList) (name : String) :
    firstLine declared name lines = firstLine other name lines := by
  induction lines with
  | nil => rfl
  | cons line lines ih =>
      rw [firstLine_cons, firstLine_cons, same line List.mem_cons_self,
        ih fun later inRest => same later (List.mem_cons_of_mem _ inRest)]

end Index

/-- The labels of lines counted from `k`, entered into a table. -/
theorem lookup_labels_from (table : List (String × Nat)) (lines : List String) (k : Nat)
    (name : String) :
    ((lines.zipIdx k).foldl
      (fun table p =>
        match label? p.1.toList with
        | some label => addFirst table (String.ofList label) p.2
        | none => table) table).lookup name =
      (table.lookup name).or ((Index.firstLine label? name lines).map (· + k)) := by
  -- The table holds the labels of the lines before, and its entries win.
  induction lines generalizing table k with
  | nil => simp [Index.firstLine]
  | cons line lines ih =>
      rw [List.zipIdx_cons, List.foldl_cons, ih, Index.firstLine_cons]
      have shift : (Index.firstLine label? name lines).map (· + (k + 1)) =
          ((Index.firstLine label? name lines).map (· + 1)).map (· + k) := by
        simp only [Option.map_map]
        congr 1
        funext n
        simp only [Function.comp]
        omega
      rw [shift]
      cases starts : label? line.toList with
      | none => simp
      | some label =>
          rw [lookup_addFirst, Option.or_assoc]
          by_cases same : name = String.ofList label
          · simp [same]
          · have other : label ≠ name.toList := fun h => same (by simp [h])
            simp [same, other]

/-- A name stands in the table of labels at the first line that starts with it. -/
theorem lookup_labels (lines : List String) (name : String) :
    (labels lines).lookup name = Index.firstLine label? name lines :=
  (lookup_labels_from [] lines 0 name).trans (by simp)

end RefNav
