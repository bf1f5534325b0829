import SpringAtlas.Proofs.Source.Pieces

/-!
# `Proofs.Source.Escapes` — literals with escapes

A literal is delimited twice. The mask ends it at the first quote without a backslash in front of it, and reads a backslash
together with the character behind it. The value of a term ends at the first quote, whatever stands in front of it. The
two agree on every escape but one: where a quote is escaped, the value is cut short at that quote.

## Contents
* `firstLiteral?_quoted_takeWhile` — the value is what stands in front of the first quote
* `positional_quoted`, `positional_quoted_eq_iff` — the value of a literal as an argument
-/

namespace SpringAtlas.Source

/-- **The value of a literal is what it holds up to its first quote**, escaped or not. -/
theorem firstLiteral?_quoted_takeWhile {s : List Char} (h : LiteralInside s) :
    firstLiteral? (quoted s) = some (s.takeWhile (· != '"')) := by
  -- behind the characters that are no quotes stands a quote of the literal or the one that ends it
  obtain ⟨rest, hrest⟩ : ∃ rest, quoted s = '"' :: (s.takeWhile (· != '"') ++ '"' :: rest) := by
    have hsplit := List.takeWhile_append_dropWhile (p := (· != '"')) (l := s)
    have hstop := List.head?_dropWhile_not (· != '"') s
    cases hdrop : s.dropWhile (· != '"') with
    | nil =>
      rw [hdrop, List.append_nil] at hsplit
      exact ⟨[], by rw [hsplit, quoted]⟩
    | cons c cs =>
      obtain rfl : c = '"' := by simpa [hdrop] using hstop
      rw [hdrop] at hsplit
      refine ⟨cs ++ ['"'], ?_⟩
      rw [quoted]
      conv_lhs => rw [← hsplit]
      simp
  rw [hrest]
  refine firstLiteral?_quoted (fun x hx => ⟨?_, ?_⟩) rest
  · simpa using List.mem_takeWhile_imp hx
  · rintro rfl
    exact h.newline_not_mem ((List.takeWhile_sublist _).subset hx)

theorem positional_quoted {s : List Char} (h : LiteralInside s) (constants : Constants) :
    (⟨⟨quoted s, mask (quoted s)⟩, constants⟩ : Arguments).positional 0 = [s.takeWhile (· != '"')] := by
  have hpadded := padded_self (quoted s)
  have hoperand : ∀ w ∈ [quoted s], IsOperand w := List.forall_mem_singleton.2 (isOperand_quoted h hpadded)
  have hitem := isItem_sum (List.cons_ne_nil _ _) hoperand
  have hequals := equals_not_mem_sum hoperand
  have hvalues := values_sum (List.cons_ne_nil _ _) hoperand constants
  rw [Text.join_singleton] at hitem hequals hvalues
  have hlisted : Listed [quoted s] (quoted s) := Or.inr ⟨List.cons_ne_nil _ _, (Text.join_singleton _ _).symm⟩
  have hitems := items_listed hlisted (List.forall_mem_singleton.2 hitem)
  have hterm : Fragment.termValue? constants (Text.trim (quoted s)) = some (s.takeWhile (· != '"')) := by
    rw [trim_quoted hpadded, Fragment.termValue?, if_pos (by rfl), firstLiteral?_quoted_takeWhile h]
  have hunnamed : Fragment.unnamedValues constants (Fragment.ofText (quoted s)) = [s.takeWhile (· != '"')] := by
    rw [unnamedValues_unnamed hequals, hvalues, List.map_singleton, hterm]
    simp [Fragment.sumValue?]
  show (⟨Fragment.ofText (quoted s), constants⟩ : Arguments).positional 0 = _
  rw [Arguments.positional_eq_getD, hitems, List.map_singleton, List.getElem?_cons_zero, Option.map_some, hunnamed,
    Option.getD_some]

/-- **A literal is read whole if and only if it holds no escaped quote.** The mask ends every literal where it ends, with its
    inside blank; the value of the argument is what the literal holds in front of its first quote. -/
theorem positional_quoted_eq_iff {s : List Char} (h : LiteralInside s) (constants : Constants) :
    mask (quoted s) = quoted (List.replicate s.length ' ') ∧
    (⟨⟨quoted s, mask (quoted s)⟩, constants⟩ : Arguments).positional 0 = [s.takeWhile (· != '"')] ∧
    ((⟨⟨quoted s, mask (quoted s)⟩, constants⟩ : Arguments).positional 0 = [s] ↔ '"' ∉ s) := by
  refine ⟨(masksTo_quoted h).mask, positional_quoted h constants, ?_⟩
  rw [positional_quoted h, List.singleton_inj, List.takeWhile_eq_self_iff]
  constructor
  · intro hall hquote
    exact absurd (hall '"' hquote) (by decide)
  · intro hquote x hx
    have hne : x ≠ '"' := fun he => hquote (he ▸ hx)
    simpa using hne

/-- The inside of `"a\\b\n"`, with an escaped backslash and an escaped letter, is read whole. -/
theorem positional_quoted_escapedLetter :
    LiteralInside "a\\\\b\\n".toList ∧
    (⟨⟨quoted "a\\\\b\\n".toList, mask (quoted "a\\\\b\\n".toList)⟩, []⟩ : Arguments).positional 0 =
      ["a\\\\b\\n".toList] := by
  have hinside : LiteralInside "a\\\\b\\n".toList :=
    .plain (by decide) (.escape (by decide) (.plain (by decide) (.escape (by decide) .nil)))
  exact ⟨hinside, (positional_quoted_eq_iff hinside []).2.2.2 (by decide)⟩

/-- A literal that holds nothing but an escaped quote has a single backslash as its value. -/
theorem positional_quoted_escapedQuote :
    LiteralInside "\\\"".toList ∧
    (⟨⟨quoted "\\\"".toList, mask (quoted "\\\"".toList)⟩, []⟩ : Arguments).positional 0 = ["\\".toList] ∧
    (⟨⟨quoted "\\\"".toList, mask (quoted "\\\"".toList)⟩, []⟩ : Arguments).positional 0 ≠ ["\\\"".toList] := by
  have hinside : LiteralInside "\\\"".toList := .escape (by decide) .nil
  rw [positional_quoted hinside]
  exact ⟨hinside, by decide, by decide⟩

end SpringAtlas.Source
