import SpringAtlas.Proofs.Source.Expression

/-!
# `Proofs.Source.ArgumentList` — argument lists and what is asked of them

An argument list is a list of expressions with commas between them, each with or without a name and an equals sign in front
of it. Asked for a name, the list answers with the values of the first argument that has it; asked for an index, with the
values of the argument that stands there, unless it has a name.

## Contents
* `Argument`, `Argument.Written` — arguments and their texts
* `argumentName_label` — how a name is read
* `Argument.Written.namedValues?_eq`, `Argument.Written.unnamedValues_eq` — what one argument answers
* `arguments_answer` — what a list answers
-/

namespace SpringAtlas.Source

open Pattern

/-! ## Names -/

/-- The name of an argument, with blanks around it, and the equals sign. -/
def label (before : List Char) (name : Identifier) (between : List Char) : List Char :=
  before ++ (name.chars ++ (between ++ ['=']))

variable (name : Identifier) {before between : List Char}

theorem masksTo_label (hbefore : Text.AllBlank before) (hbetween : Text.AllBlank between) :
    MasksTo (label before name between) (label before name between) := by
  have hname : MasksTo name.chars name.chars :=
    masksTo_plain fun c hc => isPlainChar_of_identifierPart (name.part_of_mem c hc)
  have hequals : MasksTo ['='] ['='] := masksTo_char (by decide)
  exact (masksTo_blanks hbefore).append (hname.append ((masksTo_blanks hbetween).append hequals))

theorem passes_label (hbefore : Text.AllBlank before) (hbetween : Text.AllBlank between) (depth : Int) :
    Passes depth (label before name between) := by
  have hname : Passes depth name.chars :=
    passes_of_forall (fun c hc => isInert_of_class (by decide) (name.part_of_mem c hc)) depth
  have hequals : Passes depth ['='] := passes_singleton rfl rfl (by simp)
  exact (passes_blanks hbefore depth).append (hname.append ((passes_blanks hbetween depth).append hequals))

/-- **A name is read from its label**, and what is read ends with the label. -/
theorem argumentName_label (hbefore : Text.AllBlank before) (hbetween : Text.AllBlank between) (rest : List Char) :
    ∃ m, argumentName.matchStart? (label before name between ++ rest) = some m ∧
      m.group (label before name between ++ rest) 1 = name.chars ∧ m.stop = (label before name between).length := by
  have htext : label before name between ++ rest = before ++ (name.chars ++ (between ++ '=' :: rest)) := by
    simp [label]
  let c : Cursor := ⟨none, 0, (label before name between ++ rest).length, label before name between ++ rest, []⟩
  let c₁ := c.after before (name.chars ++ (between ++ '=' :: rest))
  let c₂ := (c₁.after name.chars (between ++ '=' :: rest)).capture 1 c₁.pos
  have hfront : Takes blanks c c₁ :=
    takes_star_one before _ htext hbefore (name.head?_append_any (fun _ => not_isBlank_of_identifierPart) _)
  have hend : (between ++ '=' :: rest).head?.any Text.isWord = false := by
    cases between with
    | nil => exact (by decide : Text.isWord '=' = false)
    | cons b bs => exact not_isWord_of_isBlank (hbetween b List.mem_cons_self)
  have hname : Takes (group 1 (plus word)) c₁ c₂ :=
    (takes_plus_one name.chars _ rfl name.nonempty (fun x hx => isWord_of_identifierPart (name.part_of_mem x hx))
      hend).group 1
  have hback : Takes blanks c₂ (c₂.after between ('=' :: rest)) :=
    takes_star_one between _ rfl hbetween (by decide : Text.isBlank '=' = false)
  have hlabel := ((((takes_textStart rfl).seq hfront).seq hname).seq hback).seq (takes_lit "=" rest rfl)
  refine ⟨_, matchStart?_eq_some hlabel, ?_, ?_⟩
  · refine Match.group_eq before (between ++ '=' :: rest) (by rw [htext, List.append_assoc]) ?_
    simp [Match.span?, c₂, c₁, c]
  · simp [c₂, c₁, c, label, Nat.add_assoc]

/-! ## Arguments -/

/-- An expression with or without a name. -/
structure Argument where
  name? : Option Identifier
  value : Expression

namespace Argument

/-- The texts of an argument, with any blanks between its tokens. -/
inductive Written : Argument → List Char → Prop
  | unnamed {e : Expression} {w : List Char} (h : e.Written w) : Written ⟨none, e⟩ w
  | named {name : Identifier} {e : Expression} {before between w : List Char} (hbefore : Text.AllBlank before)
      (hbetween : Text.AllBlank between) (h : e.Written w) : Written ⟨some name, e⟩ (label before name between ++ w)

def hasName (names : List String) (g : Argument) : Bool :=
  g.name?.any fun name => names.contains (String.ofList name.chars)

variable {g : Argument} {w : List Char}

/-- **The text of an argument is one item of the list**, with its mask of its own. -/
theorem Written.isItem (h : g.Written w) : IsItem w := by
  cases h with
  | unnamed h => exact h.isItem
  | @named name e before between w hbefore hbetween h =>
    have hmasks := (masksTo_label name hbefore hbetween).append h.isItem.alone
    obtain ⟨c, hc, hsolid⟩ := h.isItem.solid
    refine ⟨hmasks.alone, fun depth hdepth => ?_, c, ?_, hsolid⟩
    · rw [hmasks.mask]
      exact (passes_label name hbefore hbetween depth).append (h.isItem.passes depth hdepth)
    · rw [hmasks.mask]
      exact List.mem_append_right _ hc

/-- **Asked for a name**, an argument that has it answers with its values. -/
theorem Written.namedValues?_eq (h : g.Written w) (constants : Constants) (names : List String) :
    (Fragment.ofText w).namedValues? constants names =
      if g.hasName names then some (g.value.values constants) else none := by
  cases h with
  | unnamed h => exact namedValues?_unnamed h.equals_not_mem constants names
  | @named name e before between w hbefore hbetween h =>
    have hmask := ((masksTo_label name hbefore hbetween).append h.isItem.alone).mask
    obtain ⟨m, hm, hgroup, hstop⟩ := argumentName_label name hbefore hbetween (mask w)
    rw [← h.values_eq]
    simp only [Fragment.namedValues?, Fragment.ofText, hmask, hm, hgroup, hstop, List.drop_left]
    rfl

/-- **Asked for by its place**, an argument without a name answers with its values. -/
theorem Written.unnamedValues_eq (h : g.Written w) (constants : Constants) :
    (Fragment.ofText w).unnamedValues constants = if g.name?.isSome then [] else g.value.values constants := by
  cases h with
  | unnamed h =>
    rw [unnamedValues_unnamed h.equals_not_mem, h.values_eq]
    rfl
  | @named name e before between w hbefore hbetween h =>
    have hmask := ((masksTo_label name hbefore hbetween).append h.isItem.alone).mask
    obtain ⟨m, hm, -⟩ := argumentName_label name hbefore hbetween (mask w)
    simp only [Fragment.unnamedValues, Fragment.ofText, hmask, hm]
    rfl

/-- The texts of a list of arguments. -/
def AllWritten (args : List Argument) (raw : List Char) : Prop :=
  ∃ ws, List.Forall₂ Written args ws ∧ Listed ws raw

end Argument

/-! ## Lists -/

theorem findSome?_ite {α β : Type} (p : α → Bool) (f : α → β) (xs : List α) :
    xs.findSome? (fun x => if p x then some (f x) else none) = (xs.find? p).map f := by
  induction xs with
  | nil => rfl
  | cons x xs ih =>
    by_cases hx : p x
    · rw [List.findSome?_cons_of_isSome (by simp [hx]), List.find?_cons_of_pos hx, if_pos hx, Option.map_some]
    · rw [List.findSome?_cons_of_isNone (by simp [hx]), List.find?_cons_of_neg hx, ih]

/-- **An argument list answers with the values of its arguments.** It has one span for each of them; asked for names, it
    answers with the first argument that has one of them, and asked for a place, with the argument that stands there, if
    that one has no name. -/
theorem arguments_answer {args : List Argument} {raw : List Char} (h : Argument.AllWritten args raw)
    (constants : Constants) :
    (⟨⟨raw, mask raw⟩, constants⟩ : Arguments).spans.length = args.length ∧
    (∀ names, (⟨⟨raw, mask raw⟩, constants⟩ : Arguments).named? names =
      (args.find? (Argument.hasName names)).map fun g => g.value.values constants) ∧
    ∀ i, (⟨⟨raw, mask raw⟩, constants⟩ : Arguments).positional i =
      (args[i]?.map fun g => if g.name?.isSome then [] else g.value.values constants).getD [] := by
  obtain ⟨ws, hargs, hlisted⟩ := h
  have hitems := items_listed hlisted (forall_mem_of_forall₂ (fun _ _ h => h.isItem) hargs)
  refine ⟨?_, fun names => ?_, fun i => ?_⟩
  · show (argumentSpans (mask raw)).length = args.length
    have hspans : (Fragment.ofText raw).items.length = (argumentSpans (mask raw)).length := List.length_map _
    rw [← hspans, hitems, List.length_map, hargs.length_eq]
  · have hnamed : args.map (fun g => if g.hasName names then some (g.value.values constants) else none) =
        ws.map fun w => (Fragment.ofText w).namedValues? constants names :=
      map_eq_map_of_forall₂ (fun _ _ h => (h.namedValues?_eq constants names).symm) hargs
    calc (⟨⟨raw, mask raw⟩, constants⟩ : Arguments).named? names
        = (ws.map Fragment.ofText).findSome? (Fragment.namedValues? constants names) := by
          rw [Arguments.named?_eq_findSome?, ← hitems]
          rfl
      _ = (ws.map fun w => (Fragment.ofText w).namedValues? constants names).findSome? id := by
          rw [List.findSome?_map, List.findSome?_map]
          rfl
      _ = (args.find? (Argument.hasName names)).map fun g => g.value.values constants := by
          rw [← hnamed, List.findSome?_map]
          exact findSome?_ite _ _ args
  · have hunnamed : args.map (fun g => if g.name?.isSome then [] else g.value.values constants) =
        ws.map fun w => (Fragment.ofText w).unnamedValues constants :=
      map_eq_map_of_forall₂ (fun _ _ h => (h.unnamedValues_eq constants).symm) hargs
    calc (⟨⟨raw, mask raw⟩, constants⟩ : Arguments).positional i
        = ((ws.map Fragment.ofText)[i]?.map (Fragment.unnamedValues constants)).getD [] := by
          rw [Arguments.positional_eq_getD, ← hitems]
          rfl
      _ = (ws.map fun w => (Fragment.ofText w).unnamedValues constants)[i]?.getD [] := by
          rw [List.getElem?_map, List.getElem?_map, Option.map_map]
          rfl
      _ = (args[i]?.map fun g => if g.name?.isSome then [] else g.value.values constants).getD [] := by
          rw [← hunnamed, List.getElem?_map]

/-! ### A list with an array, a qualified constant and an unknown one -/

def commaTerm : Term :=
  .literal ⟨"a,b".toList, by decide⟩

def mainTerm : Term :=
  .constant [⟨"Hosts".toList, by decide, by decide, by decide⟩] ⟨"MAIN".toList, by decide, by decide, by decide⟩

def spareTerm : Term :=
  .constant [] ⟨"SPARE".toList, by decide, by decide, by decide⟩

def tailTerm : Term :=
  .literal ⟨"/x".toList, by decide⟩

def hostArguments : List Argument :=
  [⟨some ⟨"value".toList, by decide, by decide, by decide⟩, .array [.sum commaTerm [], .sum mainTerm [tailTerm]]⟩,
    ⟨none, .sum spareTerm [tailTerm]⟩]

def hostText : List Char :=
  "value = \x7b \"a,b\" , Hosts.MAIN+\"/x\"\x7d ,SPARE + \"/x\"".toList

theorem hostArguments_written : Argument.AllWritten hostArguments hostText := by
  have hnone : Text.AllBlank [] := List.forall_mem_nil _
  have hspace : Text.AllBlank [' '] := List.forall_mem_singleton.2 rfl
  have hcomma : Padded commaTerm.text " \"a,b\" ".toList := ⟨[' '], [' '], hspace, hspace, rfl⟩
  have hmain : Padded mainTerm.text " Hosts.MAIN".toList := ⟨[' '], [], hspace, hnone, rfl⟩
  have htail : Padded tailTerm.text "\"/x\"".toList := ⟨[], [], hnone, hnone, rfl⟩
  have hspare : Padded spareTerm.text "SPARE ".toList := ⟨[], [' '], hnone, hspace, rfl⟩
  have htail' : Padded tailTerm.text " \"/x\"".toList := ⟨[' '], [], hspace, hnone, rfl⟩
  have hfirst := Expression.Written.sum (.cons hcomma .nil)
  have hsecond := Expression.Written.sum (.cons hmain (.cons htail .nil))
  have hlast := Expression.Written.sum (.cons hspare (.cons htail' .nil))
  have hitems : ∀ p ∈ [Expression.sum commaTerm [], .sum mainTerm [tailTerm]].zip
      [" \"a,b\" ".toList, " Hosts.MAIN+\"/x\"".toList], Expression.Written p.1 p.2 :=
    List.forall_mem_cons.2 ⟨hfirst, List.forall_mem_singleton.2 hsecond⟩
  have harray : Expression.Written (.array [.sum commaTerm [], .sum mainTerm [tailTerm]])
      " \x7b \"a,b\" , Hosts.MAIN+\"/x\"\x7d ".toList :=
    .array rfl hitems (Or.inr ⟨List.cons_ne_nil _ _, rfl⟩) ⟨[' '], [' '], hspace, hspace, rfl⟩
  exact ⟨_, .cons (.named hnone hspace harray) (.cons (.unnamed hlast) .nil), Or.inr ⟨List.cons_ne_nil _ _, rfl⟩⟩

theorem arguments_answer_hosts :
    Argument.AllWritten hostArguments hostText ∧
    (⟨⟨hostText, mask hostText⟩, [("MAIN".toList, "http://h".toList)]⟩ : Arguments).named? ["value"] =
      some ["a,b".toList, "http://h/x".toList] ∧
    (⟨⟨hostText, mask hostText⟩, [("MAIN".toList, "http://h".toList)]⟩ : Arguments).positional 1 = ["/x".toList] := by
  obtain ⟨-, hnamed, hpositional⟩ := arguments_answer hostArguments_written [("MAIN".toList, "http://h".toList)]
  rw [hnamed, hpositional]
  exact ⟨hostArguments_written, rfl, rfl⟩

end SpringAtlas.Source
