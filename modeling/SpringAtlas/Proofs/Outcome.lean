import Mathlib.Data.List.Forall2

/-!
# `Proofs.Outcome` — taking apart computations of many steps

A computation that succeeds did so at every step. These lemmas turn the success of a sequence, of a traversal and of
a fold into facts about the steps, and what a fold has gathered into where it came from, so that later proofs need not
unfold how steps are put together.

## Contents
* `bind_eq_ok`, `toOption_eq_some` — sequences that may fail
* `mapM_eq_pure_map`, `mapM_zipIdx_flatMap`, `forall₂_of_mapM_eq_ok`, `mapM_returns_iff`, `mapM_returns_map`,
  `exists_of_mem_mapM`, `exists_of_mapM_eq_some`, `mapM_mono` — traversals
* `foldlM_eq_pure_foldl`, `foldlM_returns_iff`, `foldlM_invariant`, `mem_foldl` — folds
-/

namespace SpringAtlas

variable {ε α β σ : Type}

/-! ## Sequences -/

/-- A sequence of two steps has a result if both have, the second one on the result of the first. -/
theorem bind_eq_ok {x : Except ε α} {f : α → Except ε β} {b : β} :
    (x >>= f) = .ok b ↔ ∃ a, x = .ok a ∧ f a = .ok b := by
  cases x with
  | error e =>
    constructor
    · intro h
      cases h
    · rintro ⟨a, h, -⟩
      cases h
  | ok a =>
    constructor
    · intro h
      exact ⟨a, rfl, h⟩
    · rintro ⟨a', h, hf⟩
      cases h
      exact hf

/-- Forgetting errors keeps results. -/
theorem toOption_eq_some {x : Except ε α} {a : α} : x.toOption = some a ↔ x = .ok a := by
  cases x with
  | error e =>
    constructor
    · intro h
      cases h
    · intro h
      cases h
  | ok a' =>
    constructor
    · intro h
      cases h
      rfl
    · intro h
      cases h
      rfl

/-! ## Traversals -/

/-- A traversal whose every step succeeds is a map. -/
theorem mapM_eq_pure_map {m : Type → Type} [Monad m] [LawfulMonad m] {f : α → m β} {g : α → β} {xs : List α}
    (h : ∀ x ∈ xs, f x = pure (g x)) : xs.mapM f = pure (xs.map g) := by
  induction xs with
  | nil => rfl
  | cons x xs ih => simp [h x (by simp), ih fun y hy => h y (List.mem_cons_of_mem _ hy)]

/-- A traversal of numbered items goes block by block, if each block gives its results at the place where it stands. -/
theorem mapM_zipIdx_flatMap {m : Type → Type} [Monad m] [LawfulMonad m] {γ : Type} {items : α → List β}
    {f : β × Nat → m γ} {g : α → List γ} {blocks : List α} {k : Nat}
    (h : ∀ done b more, blocks = done ++ b :: more →
      ((items b).zipIdx (k + (done.flatMap items).length)).mapM f = pure (g b)) :
    ((blocks.flatMap items).zipIdx k).mapM f = pure (blocks.flatMap g) := by
  induction blocks generalizing k with
  | nil => rfl
  | cons b blocks ih =>
    have hfirst : ((items b).zipIdx k).mapM f = pure (g b) := h [] b blocks rfl
    have hrest := ih (k := k + (items b).length) fun done b' more hsplit => by
      have hb := h (b :: done) b' more (by rw [hsplit, List.cons_append])
      rwa [List.flatMap_cons, List.length_append, ← Nat.add_assoc] at hb
    rw [List.flatMap_cons, List.zipIdx_append, List.mapM_append, hfirst, hrest]
    simp

/-- A traversal that has a result has one for every item. -/
theorem exists_of_mapM_eq_some {f : α → Option β} {xs : List α} {ys : List β} (h : xs.mapM f = some ys) {x : α}
    (hx : x ∈ xs) : ∃ y, f x = some y := by
  induction xs generalizing ys with
  | nil => simp at hx
  | cons a xs ih =>
    rw [List.mapM_cons] at h
    obtain ⟨y, hy, h⟩ := Option.bind_eq_some_iff.1 h
    obtain ⟨zs, hzs, -⟩ := Option.bind_eq_some_iff.1 h
    rcases List.mem_cons.1 hx with rfl | hx
    · exact ⟨y, hy⟩
    · exact ih hzs hx

/-- A traversal that succeeds has a result for each item. -/
theorem forall₂_of_mapM_eq_ok {f : α → Except ε β} {xs : List α} {ys : List β} (h : xs.mapM f = .ok ys) :
    List.Forall₂ (fun x y => f x = .ok y) xs ys := by
  induction xs generalizing ys with
  | nil =>
    cases h
    exact .nil
  | cons x xs ih =>
    rw [List.mapM_cons] at h
    obtain ⟨y, hy, h⟩ := bind_eq_ok.1 h
    obtain ⟨zs, hzs, h⟩ := bind_eq_ok.1 h
    cases h
    exact .cons hy (ih hzs)

/-- A traversal has a result if every item has one. -/
theorem mapM_returns_iff {f : α → Except ε β} {xs : List α} :
    (∃ ys, xs.mapM f = .ok ys) ↔ ∀ x ∈ xs, ∃ y, f x = .ok y := by
  induction xs with
  | nil =>
    constructor
    · intro _ x hx
      cases hx
    · intro _
      exact ⟨[], rfl⟩
  | cons x xs ih =>
    rw [List.forall_mem_cons, ← ih, List.mapM_cons]
    constructor
    · rintro ⟨zs, h⟩
      obtain ⟨y, hy, h⟩ := bind_eq_ok.1 h
      obtain ⟨ys, hys, -⟩ := bind_eq_ok.1 h
      exact ⟨⟨y, hy⟩, ys, hys⟩
    · rintro ⟨⟨y, hy⟩, ys, hys⟩
      exact ⟨y :: ys, bind_eq_ok.2 ⟨y, hy, bind_eq_ok.2 ⟨ys, hys, rfl⟩⟩⟩

/-- A traversal whose every step succeeds, with a result of which `view` is known, succeeds with these views. -/
theorem mapM_returns_map {γ : Type} {f : α → Except ε β} {view : β → γ} {g : α → γ} {xs : List α}
    (h : ∀ x ∈ xs, ∃ y, f x = .ok y ∧ view y = g x) : ∃ ys, xs.mapM f = .ok ys ∧ ys.map view = xs.map g := by
  induction xs with
  | nil => exact ⟨[], rfl, rfl⟩
  | cons x xs ih =>
    obtain ⟨y, hy, hview⟩ := h x (by simp)
    obtain ⟨ys, hys, hviews⟩ := ih fun x' hx' => h x' (List.mem_cons_of_mem _ hx')
    refine ⟨y :: ys, ?_, by rw [List.map_cons, List.map_cons, hview, hviews]⟩
    rw [List.mapM_cons]
    exact bind_eq_ok.2 ⟨y, hy, bind_eq_ok.2 ⟨ys, hys, rfl⟩⟩

/-- Every result of a traversal comes from an item. -/
theorem exists_of_mem_mapM {f : α → Except ε β} {xs : List α} {ys : List β} (h : xs.mapM f = .ok ys) {y : β}
    (hy : y ∈ ys) : ∃ x ∈ xs, f x = .ok y := by
  have hall := forall₂_of_mapM_eq_ok h
  clear h
  induction hall with
  | nil => simp at hy
  | @cons x z xs zs hz _ ih =>
    rcases List.mem_cons.1 hy with rfl | hy
    · exact ⟨x, by simp, hz⟩
    · obtain ⟨x', hx', he⟩ := ih hy
      exact ⟨x', List.mem_cons_of_mem _ hx', he⟩

/-- A function that knows more gives the same results where the other one has some. -/
theorem mapM_mono {f g : α → Option β} (hfg : ∀ x y, f x = some y → g x = some y) {xs : List α}
    {ys : List β} (h : xs.mapM f = some ys) : xs.mapM g = some ys := by
  induction xs generalizing ys with
  | nil => exact h
  | cons x xs ih =>
    rw [List.mapM_cons] at h ⊢
    obtain ⟨y, hy, h⟩ := Option.bind_eq_some_iff.1 h
    obtain ⟨zs, hzs, h⟩ := Option.bind_eq_some_iff.1 h
    rw [hfg x y hy, ih hzs]
    exact h

/-! ## Folds -/

/-- A fold whose every step succeeds is a plain fold. -/
theorem foldlM_eq_pure_foldl {m : Type → Type} [Monad m] [LawfulMonad m] {f : σ → α → m σ} {g : σ → α → σ} {xs : List α}
    (h : ∀ s, ∀ x ∈ xs, f s x = pure (g s x)) (s : σ) : xs.foldlM f s = pure (xs.foldl g s) := by
  induction xs generalizing s with
  | nil => rfl
  | cons x xs ih => simp [h s x (by simp), ih fun s' y hy => h s' y (List.mem_cons_of_mem _ hy)]

/-- A fold whose steps succeed or fail whatever came before succeeds if all its steps do. -/
theorem foldlM_returns_iff {f : σ → α → Except ε σ} {P : α → Prop} (hstep : ∀ s x, (∃ s', f s x = .ok s') ↔ P x)
    {xs : List α} (s : σ) : (∃ s', xs.foldlM f s = .ok s') ↔ ∀ x ∈ xs, P x := by
  induction xs generalizing s with
  | nil =>
    constructor
    · intro _ x hx
      cases hx
    · intro _
      exact ⟨s, rfl⟩
  | cons x xs ih =>
    rw [List.forall_mem_cons, List.foldlM_cons]
    constructor
    · rintro ⟨s', h⟩
      obtain ⟨s₁, h₁, h⟩ := bind_eq_ok.1 h
      exact ⟨(hstep s x).1 ⟨s₁, h₁⟩, (ih s₁).1 ⟨s', h⟩⟩
    · rintro ⟨hx, hxs⟩
      obtain ⟨s₁, h₁⟩ := (hstep s x).2 hx
      obtain ⟨s', h⟩ := (ih s₁).2 hxs
      exact ⟨s', bind_eq_ok.2 ⟨s₁, h₁, h⟩⟩

/-- What every step of a fold keeps holds at its end. -/
theorem foldlM_invariant {P : σ → Prop} {f : σ → α → Except ε σ} {xs : List α} {s s' : σ}
    (hstep : ∀ {s₁ s₂ : σ} {x : α}, x ∈ xs → P s₁ → f s₁ x = .ok s₂ → P s₂) (hs : P s)
    (h : xs.foldlM f s = .ok s') : P s' := by
  induction xs generalizing s with
  | nil =>
    cases h
    exact hs
  | cons x xs ih =>
    rw [List.foldlM_cons] at h
    obtain ⟨s₁, h₁, h⟩ := bind_eq_ok.1 h
    exact ih (fun hx => hstep (List.mem_cons_of_mem _ hx)) (hstep (by simp) hs h₁) h

/-- What a fold has gathered was there before, or a step over some item has added it. -/
theorem mem_foldl (gathered : σ → List β) (f : σ → α → σ) {Adds : α → β → Prop}
    (hstep : ∀ {s : σ} {x : α} {y : β}, y ∈ gathered (f s x) → y ∈ gathered s ∨ Adds x y) {xs : List α} {s : σ} {y : β}
    (h : y ∈ gathered (xs.foldl f s)) : y ∈ gathered s ∨ ∃ x ∈ xs, Adds x y := by
  induction xs generalizing s with
  | nil => exact Or.inl h
  | cons x xs ih =>
    rcases ih h with hy | ⟨x', hx', hy⟩
    · exact (hstep hy).imp_right fun hadds => ⟨x, List.mem_cons_self, hadds⟩
    · exact Or.inr ⟨x', List.mem_cons_of_mem _ hx', hy⟩

end SpringAtlas
