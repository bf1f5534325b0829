import SpringAtlas.Proofs.Source.Pieces

/-!
# `Proofs.Source.Expression` — expressions of strings and their values

The expressions that stand in argument lists are sums of literals and constants, and arrays of expressions in braces. This
file gives their syntax, their values, and the texts that they are written as, with any blanks between the tokens. What
is read of such a text are the values of its expression: whatever a literal holds, the mask hides it, so that nothing in a
literal cuts a sum or a list.

## Contents
* `Term`, `Expression` — the syntax
* `Term.value?`, `Expression.values` — the values
* `Expression.Written` — the texts of an expression
* `Expression.Written.isItem`, `Expression.Written.values_eq` — what is read of them
-/

namespace SpringAtlas.Source

open Pattern

/-! ## Terms -/

/-- A term of a sum: a literal, or the name of a constant behind the types that qualify it. -/
inductive Term where
  | literal (s : LiteralText)
  | constant (path : List Identifier) (name : Identifier)

namespace Term

/-- The types in front of a constant, each with a dot behind it. -/
def qualifier (path : List Identifier) : List Char :=
  path.flatMap fun i => i.chars ++ ['.']

def text : Term → List Char
  | literal s => quoted s.chars
  | constant path name => qualifier path ++ name.chars

/-- A literal has what it holds as its value, a constant the value of its own name. -/
def value? (constants : Constants) : Term → Option (List Char)
  | literal s => some s.chars
  | constant _ name => constants.lookup name.chars

variable {path : List Identifier} {name : Identifier} {w : List Char}

theorem mem_qualifier {c : Char} (hc : c ∈ qualifier path) : isIdentifierPart c ∨ c = '.' := by
  obtain ⟨i, -, hc⟩ := List.mem_flatMap.1 hc
  rcases List.mem_append.1 hc with hc | hc
  · exact Or.inl (i.part_of_mem c hc)
  · exact Or.inr (List.mem_singleton.1 hc)

/-- A constant is written with parts of identifiers and dots. -/
theorem mem_constant {c : Char} (hc : c ∈ (constant path name).text) : isIdentifierPart c ∨ c = '.' := by
  rcases List.mem_append.1 hc with hc | hc
  · exact mem_qualifier hc
  · exact Or.inl (name.part_of_mem c hc)

/-- A constant holds no bracket, comma, sign or quote. -/
theorem not_mem_constant {d : Char} (hpart : isIdentifierPart d = false) (hdot : d ≠ '.') :
    d ∉ (constant path name).text := by
  intro hd
  rcases mem_constant hd with hd | hd
  · simp [hpart] at hd
  · exact hdot hd

/-- A constant holds no blank. -/
theorem not_isBlank_of_mem_constant : ∀ c ∈ (constant path name).text, Text.isBlank c = false := by
  intro c hc
  rcases mem_constant hc with hc | rfl
  · exact not_isBlank_of_identifierPart hc
  · decide

/-- A qualified name is taken as a whole. -/
theorem takes_qualifiedName {c : Cursor} {rest : List Char} (hrest : c.rest = (constant path name).text ++ rest)
    (hend : rest.head?.any isQualifiedPart = false) : Takes qualifiedName c (c.after (constant path name).text rest) := by
  refine takes_plus_one _ rest hrest ?_ (fun x hx => ?_) hend
  · exact List.append_ne_nil_of_right_ne_nil _ name.nonempty
  · rcases mem_constant hx with hx | rfl
    · exact isQualifiedPart_of_identifierPart hx
    · decide

theorem isOperand (t : Term) (h : Padded t.text w) : IsOperand w := by
  cases t with
  | literal s => exact isOperand_quoted s.inside h
  | constant path name =>
    have hplain : ∀ c ∈ (constant path name).text, isPlainChar c := by
      intro c hc
      rcases mem_constant hc with hc | rfl
      · exact isPlainChar_of_identifierPart hc
      · decide
    have hinert : ∀ c ∈ (constant path name).text, isInert c := by
      intro c hc
      rcases mem_constant hc with hc | rfl
      · exact isInert_of_class (by decide) hc
      · decide
    have hsolid : ∃ c ∈ (constant path name).text, Text.isBlank c = false := by
      obtain ⟨c, hc⟩ := List.exists_mem_of_ne_nil _ name.nonempty
      have hmem : c ∈ (constant path name).text := List.mem_append_right _ hc
      exact ⟨c, hmem, not_isBlank_of_mem_constant c hmem⟩
    exact isOperand_padded (masksTo_plain hplain) hinert hsolid h

/-- A term is what is left of its text without the blanks around it. -/
theorem trim_eq (t : Term) (h : Padded t.text w) : Text.trim w = t.text := by
  cases t with
  | literal s => exact trim_quoted h
  | constant path name =>
    exact h.trim (Text.head?_any_of_forall not_isBlank_of_mem_constant)
      (Text.getLast?_any_of_forall not_isBlank_of_mem_constant)

/-- The types in front of a constant are read one by one. -/
theorem way_qualifier {c : Cursor} {rest : List Char} (hfit : c.Fits) (hrest : c.rest = qualifier path ++ rest) :
    Way (star (declaredName ++ lit ".")) c (c.after (qualifier path) rest) := by
  induction path generalizing c with
  | nil =>
    obtain rfl : c.rest = rest := hrest
    rw [qualifier, List.flatMap_nil, c.after_nil]
    exact Relation.ReflTransGen.refl
  | cons i path ih =>
    have hrest' : c.rest = i.chars ++ ('.' :: (qualifier path ++ rest)) := by
      rw [hrest, qualifier, List.flatMap_cons]
      simp [qualifier]
    have hname : Takes declaredName c (c.after i.chars ('.' :: (qualifier path ++ rest))) :=
      takes_name (fun _ => isNamePart_of_identifierPart) i _ hrest' (show isNamePart '.' = false by decide)
    have hstep := (hname.seq (takes_lit "." (qualifier path ++ rest) rfl)).way hfit
    rw [Cursor.after_after] at hstep
    have hsplit : c.rest = (i.chars ++ ['.']) ++ (qualifier path ++ rest) := by
      rw [hrest']
      simp
    have hlater := ih (hfit.after hsplit) rfl
    rw [Cursor.after_after] at hlater
    refine Relation.ReflTransGen.head ⟨hstep, ?_⟩ hlater
    simp

theorem constantReference_isSome (path : List Identifier) (name : Identifier) :
    (Fragment.constantReference.matchStart? (constant path name).text).isSome := by
  let c : Cursor := ⟨none, 0, (constant path name).text.length, (constant path name).text, []⟩
  have hfit : c.Fits := Nat.zero_add _
  have hpath : Way (star (declaredName ++ lit ".")) c (c.after (qualifier path) name.chars) := way_qualifier hfit rfl
  have hname : Takes declaredName (c.after (qualifier path) name.chars) _ :=
    takes_name (fun _ => isNamePart_of_identifierPart) name [] (List.append_nil _).symm rfl
  rw [matchStart?, matchAt?, Option.isSome_map, run_isSome_iff hfit]
  exact ⟨_, ⟨_, ⟨_, ⟨c, ⟨rfl, rfl⟩, hpath⟩, ⟨_, hname.way (hfit.after rfl), rfl⟩⟩, rfl, rfl⟩, rfl⟩

/-- A qualifier ends in a dot, if there is one. -/
theorem getLast?_qualifier (path : List Identifier) : qualifier path = [] ∨ (qualifier path).getLast? = some '.' := by
  rcases List.eq_nil_or_concat path with rfl | ⟨path, i, rfl⟩
  · exact Or.inl rfl
  · right
    rw [List.concat_eq_append, qualifier, List.flatMap_append, List.flatMap_singleton, ← List.append_assoc,
      List.getLast?_concat]

/-- The last segment of a constant is its own name. -/
theorem lastSegment_constant (path : List Identifier) (name : Identifier) :
    lastSegment (constant path name).text = name.chars :=
  lastSegment_append (getLast?_qualifier path) fun hdot => Identifier.ne_of_mem hdot (by decide) rfl

/-- **A term is read as its value.** -/
theorem termValue?_text (t : Term) (constants : Constants) :
    Fragment.termValue? constants t.text = t.value? constants := by
  cases t with
  | literal s =>
    exact Fragment.termValue?_literal (fun x hx => ⟨(s.char_of_mem hx).1, (s.char_of_mem hx).2.2⟩) []
  | constant path name =>
    have hquote : (constant path name).text.head? ≠ some '"' :=
      fun h => not_mem_constant (by decide) (by decide) (List.mem_of_head? h)
    have hend : (constant path name).text.getLast? ≠ some '\n' :=
      fun h => not_mem_constant (by decide) (by decide) (List.mem_of_getLast? h)
    rw [Fragment.termValue?_reference hquote hend, if_pos (constantReference_isSome path name), lastSegment_constant]
    rfl

end Term

/-! ## Expressions -/

/-- A property that one side gives the other holds of all elements of the other. -/
theorem forall_mem_of_forall₂ {α β : Type} {R : α → β → Prop} {P : β → Prop} (hP : ∀ a b, R a b → P b) {xs : List α}
    {ys : List β} (h : List.Forall₂ R xs ys) : ∀ y ∈ ys, P y := by
  induction h with
  | nil => exact List.forall_mem_nil P
  | cons hxy _ ih => exact List.forall_mem_cons.2 ⟨hP _ _ hxy, ih⟩

/-- Related elements with equal images have equal lists of images. -/
theorem map_eq_map_of_forall₂ {α β γ : Type} {R : α → β → Prop} {f : α → γ} {g : β → γ} (hfg : ∀ a b, R a b → f a = g b)
    {xs : List α} {ys : List β} (h : List.Forall₂ R xs ys) : xs.map f = ys.map g := by
  rw [← List.forall₂_eq_eq_eq, List.forall₂_map_left_iff, List.forall₂_map_right_iff]
  exact h.imp hfg

/-- A sum of at least one term, or an array of any number of expressions. -/
inductive Expression where
  | sum (first : Term) (rest : List Term)
  | array (items : List Expression)

/-- A sum whose terms all have a value has their concatenation as its value, any other one the first value that there is. -/
def sumValues (constants : Constants) (terms : List Term) : List (List Char) :=
  match terms.mapM (Term.value? constants) with
  | some values => [values.flatten]
  | none => (terms.findSome? (Term.value? constants)).toList

/-- All values of a list, or none if there is one without a value. -/
theorem mapM_eq_filterMap {α β : Type} (f : α → Option β) (xs : List α) :
    xs.mapM f = if (xs.filterMap f).length = xs.length then some (xs.filterMap f) else none := by
  induction xs with
  | nil => rfl
  | cons x xs ih =>
    have hle : (xs.filterMap f).length ≤ xs.length := List.length_filterMap_le f xs
    rw [List.mapM_cons, ih]
    cases hx : f x with
    | none =>
      have hlt : (xs.filterMap f).length ≠ (x :: xs).length := by
        rw [List.length_cons]
        omega
      rw [List.filterMap_cons_none hx, if_neg hlt]
      rfl
    | some y =>
      rw [List.filterMap_cons_some hx]
      simp only [List.length_cons, Nat.add_right_cancel_iff]
      split <;> rfl

theorem toList_sumValue? (constants : Constants) (terms : List Term) :
    (Fragment.sumValue? (terms.map (Term.value? constants))).toList = sumValues constants terms := by
  have hknown : (terms.map (Term.value? constants)).filterMap id = terms.filterMap (Term.value? constants) := by
    rw [List.filterMap_map, Function.id_comp]
  -- all terms have a value exactly if as many values are known as there are terms
  rw [Fragment.sumValue?, sumValues, mapM_eq_filterMap, hknown, List.length_map]
  split
  · rfl
  · rw [List.head?_filterMap]

namespace Expression

mutual

/-- The values of an expression: at most one for a sum, and for an array those of its items one after another. -/
def values (constants : Constants) : Expression → List (List Char)
  | sum first rest => sumValues constants (first :: rest)
  | array items => valuesOfAll constants items

def valuesOfAll (constants : Constants) : List Expression → List (List Char)
  | [] => []
  | e :: es => values constants e ++ valuesOfAll constants es

end

theorem valuesOfAll_eq_flatMap (constants : Constants) (es : List Expression) :
    valuesOfAll constants es = es.flatMap (values constants) := by
  induction es with
  | nil => rfl
  | cons e es ih => rw [valuesOfAll, ih, List.flatMap_cons]

/-- The texts of an expression, with any blanks between its tokens. -/
inductive Written : Expression → List Char → Prop
  /-- the texts of the terms with plus signs between them -/
  | sum {first : Term} {rest : List Term} {ws : List (List Char)}
      (terms : List.Forall₂ (fun t w => Padded t.text w) (first :: rest) ws) :
      Written (.sum first rest) (Text.join ['+'] ws)
  /-- braces around the list of the texts of the items, each item paired with the text at its place -/
  | array {items : List Expression} {ws : List (List Char)} {body w : List Char} (hlen : items.length = ws.length)
      (hitems : ∀ p ∈ items.zip ws, Written p.1 p.2) (hbody : Listed ws body)
      (hw : Padded (braced body) w) : Written (.array items) w

namespace Written

variable {e : Expression} {w : List Char}

/-- Induction along the texts of an expression, with the items of an array beside their texts. -/
@[elab_as_elim]
theorem induct {motive : Expression → List Char → Prop}
    (sum : ∀ {first : Term} {rest : List Term} {ws : List (List Char)},
      List.Forall₂ (fun t w => Padded t.text w) (first :: rest) ws → motive (.sum first rest) (Text.join ['+'] ws))
    (array : ∀ {items : List Expression} {ws : List (List Char)} {body w : List Char},
      List.Forall₂ (fun e v => e.Written v ∧ motive e v) items ws → Listed ws body →
      Padded (braced body) w → motive (.array items) w)
    (h : e.Written w) : motive e w := by
  induction h with
  | sum terms => exact sum terms
  | array hlen hitems hbody hw ih =>
    have hboth : List.Forall₂ (fun e v => e.Written v ∧ motive e v) _ _ :=
      List.forall₂_iff_zip.2 ⟨hlen, fun {a b} hp => ⟨hitems (a, b) hp, ih (a, b) hp⟩⟩
    exact array hboth hbody hw

theorem operands_of_terms {first : Term} {rest : List Term} {ws : List (List Char)}
    (h : List.Forall₂ (fun t w => Padded t.text w) (first :: rest) ws) : ws ≠ [] ∧ ∀ w ∈ ws, IsOperand w := by
  refine ⟨?_, forall_mem_of_forall₂ (fun t _ => t.isOperand) h⟩
  rintro rfl
  cases h

/-- **An expression is an item of a list**, whatever commas and brackets stand in its literals. -/
theorem isItem (h : e.Written w) : IsItem w := by
  refine induct ?sum ?array h
  case sum =>
    intro first rest ws terms
    obtain ⟨hne, hoperands⟩ := operands_of_terms terms
    exact isItem_sum hne hoperands
  case array =>
    intro items ws body w hitems hbody hw
    exact isItem_braced hbody (forall_mem_of_forall₂ (fun _ _ h => h.2) hitems) hw

/-- No equals sign stands outside of its literals. -/
theorem equals_not_mem (h : e.Written w) : '=' ∉ mask w := by
  refine induct ?sum ?array h
  case sum =>
    intro first rest ws terms
    exact equals_not_mem_sum (operands_of_terms terms).2
  case array =>
    intro items ws body w hitems hbody hw
    exact equals_not_mem_braced hbody (forall_mem_of_forall₂ (fun _ _ h => h.1.isItem) hitems)
      (forall_mem_of_forall₂ (fun _ _ h => h.2) hitems) hw

/-- **What is read of the text of an expression are its values.** -/
theorem values_eq (h : e.Written w) (constants : Constants) :
    (Fragment.ofText w).values constants = e.values constants := by
  refine induct ?sum ?array h
  case sum =>
    intro first rest ws terms
    obtain ⟨hne, hoperands⟩ := operands_of_terms terms
    have hvalues : (first :: rest).map (Term.value? constants) =
        ws.map fun w => Fragment.termValue? constants (Text.trim w) := by
      refine map_eq_map_of_forall₂ (fun t w ht => ?_) terms
      rw [t.trim_eq ht, t.termValue?_text]
    rw [values_sum hne hoperands, ← hvalues, toList_sumValue?]
    rfl
  case array =>
    intro items ws body w hitems hbody hw
    have hvalues : items.map (values constants) = ws.map fun v => (Fragment.ofText v).values constants :=
      map_eq_map_of_forall₂ (fun _ _ h => h.2.symm) hitems
    rw [values_braced hbody (forall_mem_of_forall₂ (fun _ _ h => h.1.isItem) hitems) hw, List.flatMap_def, ← hvalues,
      ← List.flatMap_def, ← valuesOfAll_eq_flatMap]
    rfl

end Written

end Expression

end SpringAtlas.Source
