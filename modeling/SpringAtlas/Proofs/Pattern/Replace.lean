import SpringAtlas.Proofs.Pattern.Search

/-!
# `Proofs.Pattern.Replace` — what is left when matches are replaced

Where a pattern fails, nothing is found and the text stays as it is. Where it matches, the search goes on behind the match.
So a text in which the pattern matches at one place known beforehand has that match replaced, and stays the same around it.

## Contents
* `findFrom_skip`, `findFrom_failsThrough`, `findFrom_takes` — how far the search for all matches has come
* `splice_cons` — one match and the text behind it
* `replaceAll_of_failsThrough`, `replaceAll_once` — texts with no match and with one
-/

namespace SpringAtlas.Pattern

variable {p : Pattern} {before : Option Char} {pos stop : Nat} {xs ys rest w : List Char} {d : Cursor}

/-- A search that skips characters goes on behind them. -/
theorem findFrom_skip (p : Pattern) (xs rest : List Char) :
    p.findFrom stop xs.length before pos (xs ++ rest) =
      p.findFrom stop 0 (xs.getLast?.or before) (pos + xs.length) rest := by
  induction xs generalizing before pos with
  | nil => rfl
  | cons x xs ih =>
    show p.findFrom stop xs.length (some x) (pos + 1) (xs ++ rest) = _
    rw [ih, getLast?_cons_or, List.length_cons, Nat.add_comm xs.length, Nat.add_assoc]

/-- A search passes the places where the pattern fails. -/
theorem findFrom_failsThrough (h : FailsThrough p before xs rest) :
    p.findFrom stop 0 before pos (xs ++ rest) = p.findFrom stop 0 (xs.getLast?.or before) (pos + xs.length) rest := by
  induction xs generalizing before pos with
  | nil => rfl
  | cons x xs ih =>
    obtain ⟨hfails, hskip⟩ := h
    rw [List.cons_append, findFrom, matchAt?_eq_none (hfails _ rfl rfl), getLast?_cons_or, List.length_cons,
      Nat.add_comm xs.length, ← Nat.add_assoc]
    exact ih hskip

theorem findFrom_eq_nil (h : FailsThrough p before xs []) : p.findFrom stop 0 before pos xs = [] := by
  have hfind : p.findFrom stop 0 before pos (xs ++ []) = _ := findFrom_failsThrough h
  rwa [List.append_nil] at hfind

/-- A search goes on behind a match. -/
theorem findFrom_takes (hstop : pos + (w ++ rest).length = stop) (h : Takes p ⟨before, pos, stop, w ++ rest, []⟩ d)
    (hne : w ≠ []) (hd : d.pos = pos + w.length) :
    p.findFrom stop 0 before pos (w ++ rest) =
      ⟨pos, d.pos, d.captures⟩ :: p.findFrom stop 0 w.getLast? (pos + w.length) rest := by
  obtain ⟨x, w, rfl⟩ := List.exists_cons_of_ne_nil hne
  have hmatch := matchAt?_eq_some hstop h
  have hwidth : d.pos - pos - 1 = w.length := by
    rw [hd, List.length_cons]
    omega
  have hlast : w.getLast?.or (some x) = (x :: w).getLast? := by rw [← getLast?_cons_or, Option.or_none]
  have hbehind : pos + 1 + w.length = pos + (x :: w).length := by
    rw [List.length_cons]
    omega
  rw [List.cons_append, findFrom, ← List.cons_append, hmatch]
  show _ :: p.findFrom _ (d.pos - pos - 1) _ _ (w ++ rest) = _
  rw [hwidth, findFrom_skip, hlast, hbehind]

/-- The first match is replaced, and the others in the text behind it. -/
theorem splice_cons {f : Match → List Char} {m : Match} {ms : List Match} {done : Nat} (hstart : m.start = done + xs.length)
    (hstop : m.stop = m.start + w.length) :
    splice f (m :: ms) done (xs ++ (w ++ rest)) = xs ++ (f m ++ splice f ms m.stop rest) := by
  have htake : m.start - done = xs.length := by omega
  have hdrop : (xs ++ (w ++ rest)).drop (m.stop - done) = rest := by
    rw [← List.append_assoc]
    exact List.drop_left' (by rw [List.length_append]; omega)
  rw [splice, htake, List.take_left, hdrop, List.append_assoc]

/-- **Where a pattern fails, nothing is replaced.** -/
theorem replaceAll_of_failsThrough (h : FailsThrough p none xs []) (new : List Char) : p.replaceAll new xs = xs := by
  rw [replaceAll, replaceWith, findAll, findFrom_eq_nil h]
  rfl

/-- **A single match is replaced**, if the pattern fails in front of it and behind it. -/
theorem replaceAll_once (hskip : FailsThrough p none xs (w ++ ys)) (hne : w ≠ [])
    (h : Takes p ⟨xs.getLast?, xs.length, (xs ++ (w ++ ys)).length, w ++ ys, []⟩ d) (hd : d.pos = xs.length + w.length)
    (hbehind : FailsThrough p w.getLast? ys []) (new : List Char) :
    p.replaceAll new (xs ++ (w ++ ys)) = xs ++ (new ++ ys) := by
  have hfind : p.findAll (xs ++ (w ++ ys)) = [⟨xs.length, d.pos, d.captures⟩] := by
    rw [findAll, findFrom_failsThrough hskip, Option.or_none, Nat.zero_add,
      findFrom_takes List.length_append.symm h hne hd, findFrom_eq_nil hbehind]
  rw [replaceAll, replaceWith, hfind, splice_cons (Nat.zero_add _).symm hd]
  rfl

end SpringAtlas.Pattern
