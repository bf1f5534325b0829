import SpringAtlas.Proofs.Settings.RouteKey

/-!
# `Proofs.Settings.Gateway` — routes survive flattening

Routes written as a document, flattened into entries and put together again from the entries are the routes that were
written. Keys of different places are different, so flattening and storing keep every entry; each entry reaches the draft
it belongs to; and indices come in increasing order, so each draft is completed before the next one starts.

## Contents
* `gatewayEntries`, `flatten_gatewayDocument` — the entries of the document
* `Indexed.revise`, `foldl_revise_zipIdx` — drafts completed one after another
* `assignRoute_routeKey`, `foldl_put_fields` — what the entries of a route add up to
* `gatewayRoutes_flatten` — the routes that are read
-/

namespace SpringAtlas.Settings

open Pattern

/-! ## The entries of the document -/

/-- Numbered parts are distinct if the parts of each item are. -/
theorem nodup_zipIdx_flatMap {α β : Type} {items : List α} {parts : α → List β} (h : ∀ a ∈ items, (parts a).Nodup)
    (k : Nat) : ((items.zipIdx k).flatMap fun x => (parts x.1).map fun b => (x.2, b)).Nodup := by
  induction items generalizing k with
  | nil => exact List.nodup_nil
  | cons a items ih =>
    rw [List.zipIdx_cons, List.flatMap_cons]
    have hfirst : ((parts a).map fun b => (k, b)).Nodup :=
      (h a (by simp)).map fun b b' hb => (Prod.mk.inj hb).2
    refine hfirst.append (ih (fun a' ha' => h a' (List.mem_cons_of_mem _ ha')) (k + 1)) ?_
    -- what follows stands at larger indices
    intro y hy hy'
    obtain ⟨b, -, rfl⟩ := List.mem_map.1 hy
    obtain ⟨x, hx, hy'⟩ := List.mem_flatMap.1 hy'
    obtain ⟨b', -, hb'⟩ := List.mem_map.1 hy'
    have hle := List.le_snd_of_mem_zipIdx hx
    have hindex : x.2 = k := congrArg Prod.fst hb'
    omega

theorem PredicateSetting.nodup_fields (p : PredicateSetting) : (p.fields.map Prod.fst).Nodup := by
  cases p with
  | text s => exact List.nodup_singleton _
  | call name arguments distinct =>
    have harguments : (arguments.map fun a => PredicatePart.argument a.1).Nodup := by
      rw [List.Nodup, List.pairwise_map] at distinct ⊢
      exact distinct.imp fun hne h => hne (congrArg ArgumentKey.text (PredicatePart.argument.inj h))
    rw [PredicateSetting.fields, List.map_cons, List.map_map]
    exact List.nodup_cons.2 ⟨by simp, harguments⟩

theorem RouteSetting.nodup_fields (r : RouteSetting) : (r.fields.map Prod.fst).Nodup := by
  have hkeys : r.fields.map Prod.fst = (.id :: r.uri.toList.map fun _ => .uri) ++
      (r.predicates.zipIdx.flatMap fun x => (x.1.fields.map Prod.fst).map fun part => (x.2, part)).map
        fun y => .predicate y.1 y.2 := by
    simp [RouteSetting.fields, List.map_flatMap, Function.comp_def]
  have hfront : (RouteField.id :: r.uri.toList.map fun _ => RouteField.uri).Nodup := by
    cases r.uri <;> simp
  have hpredicates := (nodup_zipIdx_flatMap (fun p (_ : p ∈ r.predicates) => p.nodup_fields) 0).map
    (f := fun y => RouteField.predicate y.1 y.2) fun y y' h => by
      obtain ⟨hindex, hpart⟩ := RouteField.predicate.inj h
      exact Prod.ext hindex hpart
  rw [hkeys]
  refine hfront.append hpredicates fun f hf hf' => ?_
  obtain ⟨y, -, rfl⟩ := List.mem_map.1 hf'
  simp at hf

/-- The entries of the routes, each below its index. -/
def gatewayEntries (routes : List RouteSetting) : Entries :=
  routes.zipIdx.flatMap fun x => x.1.entries x.2

/-- No two entries of some routes have one key. -/
theorem nodup_gatewayEntries (routes : List RouteSetting) : ((gatewayEntries routes).map Prod.fst).Nodup := by
  have hkeys : (gatewayEntries routes).map Prod.fst =
      (routes.zipIdx.flatMap fun x => (x.1.fields.map Prod.fst).map fun f => (x.2, f)).map
        fun y => routeKey y.1 y.2 := by
    simp [gatewayEntries, RouteSetting.entries, List.map_flatMap, Function.comp_def]
  rw [hkeys]
  refine (nodup_zipIdx_flatMap (fun r (_ : r ∈ routes) => r.nodup_fields) 0).map fun y y' h => ?_
  obtain ⟨hindex, hfield⟩ := routeKey_injective h
  exact Prod.ext hindex hfield

/-- Below a path that is not empty, a key stands behind a dot. -/
theorem childPath_eq {path : String} (h : path ≠ "") (key : String) : childPath path key = path ++ "." ++ key := by
  rw [childPath, if_neg (by simpa using h)]

theorem append_left_injective {path s t : String} (h : path ++ s = path ++ t) : s = t := by
  rw [← String.toList_inj] at h ⊢
  simpa using h

theorem PredicatePart.ending_injective {part part' : PredicatePart} (h : part.ending = part'.ending) : part = part' :=
  (RouteField.predicate.inj (RouteField.text_injective (congrArg (itemPath "predicates" 0 ++ ·) h))).2

/-- The entries of a predicate below its path. -/
theorem flatten_predicate (p : PredicateSetting) {path : String} (h : path ≠ "") :
    flatten p.value path = .ok (p.fields.map fun f => (path ++ f.1.ending, f.2)) := by
  have hnodup : ((p.fields.map fun f => (path ++ f.1.ending, f.2)).map Prod.fst).Nodup := by
    have hkeys := p.nodup_fields.map (f := fun part => path ++ part.ending) fun part part' he =>
      PredicatePart.ending_injective (append_left_injective he)
    simpa [Function.comp_def] using hkeys
  cases p with
  | text s => simpa [PredicateSetting.value, PredicateSetting.fields, PredicatePart.ending] using flatten_str s h
  | call name arguments distinct =>
    have hname : path ++ "." ++ "name" = path ++ PredicatePart.name.ending := by
      rw [← String.toList_inj]
      simp [PredicatePart.ending]
    have hkey (key : ArgumentKey) :
        path ++ "." ++ "args" ++ "." ++ key.text = path ++ (PredicatePart.argument key).ending := by
      rw [← String.toList_inj]
      simp [PredicatePart.ending]
    have harguments : flatten (.map (arguments.map fun a => (.str a.1.text, .str a.2))) (path ++ "." ++ "args") =
        .ok (arguments.flatMap fun a => [(path ++ (PredicatePart.argument a.1).ending, a.2)]) := by
      rw [flatten]
      refine flattenEntries_map (fun a _ => ?_) ?_
      · rw [childPath_eq (by simp), hkey]
        exact flatten_str a.2 (by simp [h])
      · rw [PredicateSetting.fields, List.map_cons, List.map_map, List.map_cons, List.nodup_cons] at hnodup
        simpa [List.map_flatMap, Function.comp_def, ← List.map_eq_flatMap] using hnodup.2
    rw [← List.map_eq_flatMap] at harguments
    -- the name and the arguments, each below its own key
    refine flatten_parts [("name", .str name, [(path ++ PredicatePart.name.ending, name)]),
      ("args", .map (arguments.map fun a => (.str a.1.text, .str a.2)),
        arguments.map fun a => (path ++ (PredicatePart.argument a.1).ending, a.2))] path ?_ ?_ hnodup
    · simp [PredicateSetting.fields]
    · intro p hp
      simp only [List.mem_cons, List.not_mem_nil, or_false] at hp
      rcases hp with rfl | rfl
      · rw [childPath_eq h, hname]
        exact flatten_str name (by simp [h])
      · rw [childPath_eq h]
        exact harguments

/-- No two entries of a route have one key. -/
theorem RouteSetting.nodup_entries (r : RouteSetting) (i : Nat) : ((r.entries i).map Prod.fst).Nodup := by
  have hkeys := r.nodup_fields.map (f := fun f => routeKey i f) fun f g h => (routeKey_injective h).2
  simpa [RouteSetting.entries, Function.comp_def] using hkeys

theorem flatten_predicates (ps : List PredicateSetting) {path : String}
    (hnodup : ((ps.zipIdx.flatMap fun x => x.1.fields.map fun f =>
      (itemPath path x.2 ++ f.1.ending, f.2)).map Prod.fst).Nodup) :
    flatten (.list (ps.map PredicateSetting.value)) path =
      .ok (ps.zipIdx.flatMap fun x => x.1.fields.map fun f => (itemPath path x.2 ++ f.1.ending, f.2)) := by
  rw [flatten]
  exact flattenItems_map (fun p _ j => flatten_predicate p (by simp [itemPath])) hnodup

/-- The parts of a route's mapping: keys, values and the entries of these. -/
def RouteSetting.parts (r : RouteSetting) (i : Nat) : List (String × Yaml.Value × Entries) :=
  ("id", .str r.id, [(routeKey i .id, r.id)]) ::
    (r.uri.toList.map fun uri => ("uri", .str uri, [(routeKey i .uri, uri)])) ++
    [("predicates", .list (r.predicates.map PredicateSetting.value),
      r.predicates.zipIdx.flatMap fun x => x.1.fields.map fun f => (routeKey i (.predicate x.2 f.1), f.2))]

/-- The entries of a route below its index. -/
theorem flatten_route (r : RouteSetting) (i : Nat) :
    flatten r.value (itemPath "spring.cloud.gateway.routes" i) = .ok (r.entries i) := by
  have hpath : itemPath "spring.cloud.gateway.routes" i ≠ "" := by
    simp [itemPath]
  have hkey (j : Nat) (part : PredicatePart) :
      itemPath (itemPath "spring.cloud.gateway.routes" i ++ "." ++ "predicates") j ++ part.ending =
        routeKey i (.predicate j part) := by
    rw [← String.toList_inj]
    simp [routeKey, RouteField.text, itemPath]
  have hnodup := r.nodup_entries i
  have hpredicates : flatten (.list (r.predicates.map PredicateSetting.value))
      (itemPath "spring.cloud.gateway.routes" i ++ "." ++ "predicates") =
      .ok (r.predicates.zipIdx.flatMap fun x => x.1.fields.map fun f => (routeKey i (.predicate x.2 f.1), f.2)) := by
    rw [flatten_predicates]
    · simp only [hkey]
    · simp only [hkey]
      rw [RouteSetting.entries, RouteSetting.fields, List.map_append, List.map_append] at hnodup
      simpa [List.map_flatMap, Function.comp_def] using hnodup.of_append_right
  have hvalue : r.value = .map ((r.parts i).map fun p => (.str p.1, p.2.1)) := by
    simp [RouteSetting.value, RouteSetting.parts, Function.comp_def]
  have hentries : ((r.parts i).flatMap fun p => p.2.2) = r.entries i := by
    cases huri : r.uri <;>
      simp [RouteSetting.entries, RouteSetting.fields, RouteSetting.parts, List.map_flatMap, Function.comp_def, huri]
  rw [hvalue]
  refine flatten_parts _ _ hentries (fun p hp => ?_) hnodup
  · simp only [RouteSetting.parts, List.mem_append, List.mem_cons, List.not_mem_nil, or_false, List.mem_map] at hp
    rw [childPath_eq hpath]
    rcases hp with (rfl | ⟨uri, -, rfl⟩) | rfl
    · exact flatten_str r.id (by simp [hpath])
    · exact flatten_str uri (by simp [hpath])
    · exact hpredicates

/-- **The entries of the document** are those of its routes. -/
theorem flatten_gatewayDocument (routes : List RouteSetting) :
    flatten (gatewayDocument routes) "" = .ok (gatewayEntries routes) := by
  refine flatten_singleton (flatten_singleton (flatten_singleton (flatten_singleton ?_)))
  have hpath : childPath (childPath (childPath (childPath "" "spring") "cloud") "gateway") "routes" =
      "spring.cloud.gateway.routes" := by decide
  rw [hpath, flatten]
  exact flattenItems_map (fun r _ i => flatten_route r i) (nodup_gatewayEntries routes)

/-! ## Drafts by index -/

namespace Indexed

variable {α β γ : Type} {done : Indexed α} {i : Nat}

theorem get?_of_lt (h : ∀ x ∈ done, x.1 < i) : Indexed.get? i done = none := by
  rw [Indexed.get?, List.lookup_eq_none_iff]
  intro x hx
  have hlt := h x hx
  simpa using Nat.ne_of_gt hlt

theorem set_of_lt (h : ∀ x ∈ done, x.1 < i) (a : α) : Indexed.set i a done = done ++ [(i, a)] := by
  induction done with
  | nil => rfl
  | cons x done ih =>
    have hlt := h x (by simp)
    rw [Indexed.set, if_neg (by omega), if_neg (by omega), ih fun y hy => h y (List.mem_cons_of_mem _ hy)]
    rfl

theorem get?_append_last (h : ∀ x ∈ done, x.1 < i) (a : α) : Indexed.get? i (done ++ [(i, a)]) = some a := by
  have hnone := get?_of_lt h
  rw [Indexed.get?] at hnone ⊢
  rw [List.lookup_append, hnone, Option.none_or, List.lookup_cons_self]

theorem set_append_last (h : ∀ x ∈ done, x.1 < i) (a b : α) :
    Indexed.set i b (done ++ [(i, a)]) = done ++ [(i, b)] := by
  induction done with
  | nil => simp [Indexed.set]
  | cons x done ih =>
    have hlt := h x (by simp)
    rw [List.cons_append, Indexed.set, if_neg (by omega), if_neg (by omega),
      ih fun y hy => h y (List.mem_cons_of_mem _ hy)]
    rfl

/-- Changes the value at an index, `start` where there is none. -/
def revise (start : α) (i : Nat) (f : α → α) (xs : Indexed α) : Indexed α :=
  xs.set i (f ((xs.get? i).getD start))

theorem revise_of_lt (h : ∀ x ∈ done, x.1 < i) (start : α) (f : α → α) :
    revise start i f done = done ++ [(i, f start)] := by
  rw [revise, get?_of_lt h, Option.getD_none, set_of_lt h]

theorem revise_append_last (h : ∀ x ∈ done, x.1 < i) (start a : α) (f : α → α) :
    revise start i f (done ++ [(i, a)]) = done ++ [(i, f a)] := by
  rw [revise, get?_append_last h, Option.getD_some, set_append_last h]

/-- All changes at one index behind the others add up to one value there. -/
theorem foldl_revise (h : ∀ x ∈ done, x.1 < i) (start : α) (act : γ → α → α) {steps : List γ} (hne : steps ≠ []) :
    steps.foldl (fun xs s => revise start i (act s) xs) done =
      done ++ [(i, steps.foldl (fun a s => act s a) start)] := by
  have hmore (a : α) (steps : List γ) : steps.foldl (fun xs s => revise start i (act s) xs) (done ++ [(i, a)]) =
      done ++ [(i, steps.foldl (fun a s => act s a) a)] := by
    induction steps generalizing a with
    | nil => rfl
    | cons s steps ih => rw [List.foldl_cons, revise_append_last h, ih, List.foldl_cons]
  cases steps with
  | nil => exact absurd rfl hne
  | cons s steps => rw [List.foldl_cons, revise_of_lt h, hmore, List.foldl_cons]

/-- **Items are completed one after another**: the changes for each item, at its index, give its value there. -/
theorem foldl_revise_zipIdx (start : α) (act : γ → α → α) {steps : β → List γ} {items : List β}
    (hne : ∀ b ∈ items, steps b ≠ []) {k : Nat} (h : ∀ x ∈ done, x.1 < k) :
    ((items.zipIdx k).flatMap fun x => (steps x.1).map fun s => (x.2, s)).foldl
      (fun xs y => revise start y.1 (act y.2) xs) done =
      done ++ (items.zipIdx k).map fun x => (x.2, (steps x.1).foldl (fun a s => act s a) start) := by
  induction items generalizing done k with
  | nil => simp
  | cons b items ih =>
    have hnext : ∀ x ∈ done ++ [(k, (steps b).foldl (fun a s => act s a) start)], x.1 < k + 1 := by
      intro x hx
      rcases List.mem_append.1 hx with hx | hx
      · have := h x hx
        omega
      · rw [List.mem_singleton.1 hx]
        exact Nat.lt_succ_self k
    rw [List.zipIdx_cons, List.flatMap_cons, List.foldl_append, List.foldl_map,
      foldl_revise h start act (hne b (by simp)), ih (fun b' hb' => hne b' (List.mem_cons_of_mem _ hb')) hnext,
      List.map_cons, List.append_assoc]
    rfl

end Indexed

/-! ## What the entries of a route add up to -/

/-- The index of the predicate that a field belongs to. -/
def RouteField.index : RouteField → Nat
  | id | uri => 0
  | predicate index _ => index

/-- Takes a field into a draft. -/
def RouteDraft.put : RouteField → String → RouteDraft → RouteDraft
  | .id, value, r => { r with id := value }
  | .uri, value, r => { r with uri := some value }
  | .predicate j part, value, r =>
    { r with predicates := Indexed.revise {} j (PredicateDraft.assign part.spelling value) r.predicates }

/-- The name of a field is read back from its key. -/
theorem assign_text {f : RouteField} (hf : f.index < 10 ^ Yaml.Value.digitLimit) (value : String) (r : RouteDraft) :
    r.assign f.text.toList value = .ok (r.put f value) := by
  cases f with
  | id =>
    rw [RouteDraft.assign, matchStart?_predicateKey_eq_none (by decide)]
    rfl
  | uri =>
    rw [RouteDraft.assign, matchStart?_predicateKey_eq_none (by decide)]
    rfl
  | predicate j part =>
    obtain ⟨m, hm, hindex, hpart⟩ := matchStart?_predicateText j part
    rw [RouteDraft.assign, hm]
    have hj : j < 10 ^ Yaml.Value.digitLimit := hf
    simp only [hindex, hpart]
    rw [indexValue_toDigits hj]
    rfl

/-- **Each entry reaches the draft it belongs to.** -/
theorem assignRoute_routeKey {i : Nat} {f : RouteField} (hi : i < 10 ^ Yaml.Value.digitLimit)
    (hf : f.index < 10 ^ Yaml.Value.digitLimit) (value : String) (drafts : Indexed RouteDraft) :
    assignRoute drafts (routeKey i f, value) = .ok (Indexed.revise {} i (RouteDraft.put f value) drafts) := by
  obtain ⟨m, hm, hindex, hfield⟩ := matchStart?_routeKey i f
  rw [assignRoute]
  simp only [hm, hindex, hfield]
  rw [indexValue_toDigits hi]
  exact bind_eq_ok.2 ⟨i, rfl, bind_eq_ok.2 ⟨_, assign_text hf value _, rfl⟩⟩

/-- The draft of a predicate. -/
def PredicateSetting.draft : PredicateSetting → PredicateDraft
  | text s => { text := some s }
  | call name arguments _ => { name := some name, arguments := arguments.map Prod.snd }

theorem foldl_assign_arguments (arguments : List (ArgumentKey × String)) (d : PredicateDraft) :
    arguments.foldl (fun d a => d.assign (PredicatePart.argument a.1).spelling a.2) d =
      { d with arguments := d.arguments ++ arguments.map Prod.snd } := by
  induction arguments generalizing d with
  | nil => simp
  | cons a arguments ih =>
    have hstep : d.assign (PredicatePart.argument a.1).spelling a.2 = { d with arguments := d.arguments ++ [a.2] } := by
      simp [PredicateDraft.assign, PredicatePart.spelling]
    rw [List.foldl_cons, hstep, ih]
    simp

theorem foldl_assign_fields (p : PredicateSetting) :
    p.fields.foldl (fun d f => PredicateDraft.assign f.1.spelling f.2 d) {} = p.draft := by
  cases p with
  | text s => rfl
  | call name arguments distinct =>
    rw [PredicateSetting.fields, List.foldl_cons, List.foldl_map]
    exact foldl_assign_arguments arguments { name := some name }

/-- A predicate that has been put together part by part is written as it was given. -/
theorem PredicateSetting.finish_draft (p : PredicateSetting) : p.draft.finish = some p.written := by
  cases p <;> rfl

theorem foldl_put_predicates (ys : List (Nat × (PredicatePart × String))) (r : RouteDraft) :
    ys.foldl (fun r y => r.put (.predicate y.1 y.2.1) y.2.2) r =
      { r with predicates := ys.foldl (fun ps y =>
          Indexed.revise {} y.1 (PredicateDraft.assign y.2.1.spelling y.2.2) ps) r.predicates } := by
  induction ys generalizing r with
  | nil => rfl
  | cons y ys ih => rw [List.foldl_cons, ih, List.foldl_cons, RouteDraft.put]

/-- The draft of a route, its predicates at their indices. -/
def RouteSetting.draft (r : RouteSetting) : RouteDraft where
  id := r.id
  uri := r.uri
  predicates := r.predicates.zipIdx.map fun x => (x.2, x.1.draft)

/-- **The entries of a route add up to its draft.** -/
theorem foldl_put_fields (r : RouteSetting) : r.fields.foldl (fun d f => RouteDraft.put f.1 f.2 d) {} = r.draft := by
  -- the fields of the predicates, as steps at the indices of their drafts
  have hfields : r.fields = ((.id, r.id) :: r.uri.toList.map fun uri => (.uri, uri)) ++
      (r.predicates.zipIdx.flatMap fun x => x.1.fields.map fun f => (x.2, f)).map
        fun y => (.predicate y.1 y.2.1, y.2.2) := by
    simp [RouteSetting.fields, List.map_flatMap, Function.comp_def]
  have hfront : ((.id, r.id) :: r.uri.toList.map fun uri => (.uri, uri)).foldl
      (fun d f => RouteDraft.put f.1 f.2 d) {} = { id := r.id, uri := r.uri } := by
    cases r.uri <;> rfl
  have hne : ∀ p ∈ r.predicates, p.fields ≠ [] := by
    intro p _
    cases p <;> simp [PredicateSetting.fields]
  have hpredicates := Indexed.foldl_revise_zipIdx (k := 0) (α := PredicateDraft) {}
    (fun (f : PredicatePart × String) => PredicateDraft.assign f.1.spelling f.2) hne (List.forall_mem_nil _)
  rw [hfields, List.foldl_append, hfront, List.foldl_map, foldl_put_predicates, hpredicates]
  simp only [foldl_assign_fields, List.nil_append, RouteSetting.draft]

/-! ## The routes that are read -/

/-- A route that has been put together field by field is the route that was given. -/
theorem RouteSetting.finish_draft (r : RouteSetting) (i : Nat) : r.draft.finish i = r.route := by
  have hid : r.id.isEmpty = false := by simpa using r.named
  have hpredicates : (r.predicates.zipIdx.map fun x => (x.2, x.1.draft)).filterMap (fun p => p.2.finish) =
      r.predicates.map PredicateSetting.written := by
    rw [List.filterMap_map]
    have hfinish : ((fun p => p.2.finish) ∘ fun x : PredicateSetting × Nat => (x.2, x.1.draft)) =
        some ∘ (PredicateSetting.written ∘ Prod.fst) := funext fun x => x.1.finish_draft
    rw [hfinish, List.filterMap_eq_map, ← List.map_map, List.zipIdx_map_fst]
  simp only [RouteDraft.finish, RouteSetting.draft, RouteSetting.route, hid, hpredicates]
  rfl

theorem RouteSetting.index_lt {r : RouteSetting} {n : Nat} (hn : 0 < n) (h : r.predicates.length ≤ n)
    {f : RouteField × String} (hf : f ∈ r.fields) : f.1.index < n := by
  simp only [RouteSetting.fields, List.mem_append, List.mem_cons, List.mem_map, List.mem_flatMap] at hf
  rcases hf with (rfl | ⟨uri, -, rfl⟩) | ⟨x, hx, part, -, rfl⟩
  · exact hn
  · exact hn
  · have hindex := List.snd_lt_add_of_mem_zipIdx hx
    simp only [RouteField.index]
    omega

/-- The drafts that the entries of the document add up to. -/
theorem foldlM_assignRoute_gatewayEntries {routes : List RouteSetting}
    (hroutes : routes.length ≤ 10 ^ Yaml.Value.digitLimit)
    (hpredicates : ∀ r ∈ routes, r.predicates.length ≤ 10 ^ Yaml.Value.digitLimit) :
    (gatewayEntries routes).foldlM assignRoute [] = .ok (routes.zipIdx.map fun x => (x.2, x.1.draft)) := by
  have hentries : gatewayEntries routes = (routes.zipIdx.flatMap fun x => x.1.fields.map fun f => (x.2, f)).map
      fun y => (routeKey y.1 y.2.1, y.2.2) := by
    simp [gatewayEntries, RouteSetting.entries, List.map_flatMap, Function.comp_def]
  have hne : ∀ r ∈ routes, r.fields ≠ [] := by
    simp [RouteSetting.fields]
  have hdrafts := Indexed.foldl_revise_zipIdx (k := 0) (α := RouteDraft) {}
    (fun (f : RouteField × String) => RouteDraft.put f.1 f.2) hne (List.forall_mem_nil _)
  rw [hentries, List.foldlM_map, foldlM_eq_pure_foldl (fun drafts y hy => ?_), hdrafts]
  · simp only [foldl_put_fields, List.nil_append]
    rfl
  · obtain ⟨x, hx, hy⟩ := List.mem_flatMap.1 hy
    obtain ⟨f, hf, rfl⟩ := List.mem_map.1 hy
    have hlt := List.snd_lt_add_of_mem_zipIdx hx
    have hindex := RouteSetting.index_lt (Nat.pow_pos (by decide)) (hpredicates x.1 (List.fst_mem_of_mem_zipIdx hx)) hf
    exact assignRoute_routeKey (by omega) hindex f.2 drafts

/-- **Routes survive flattening**: what is put together from the entries of a document is the routes that were written,
in their order, with their ids, uris and predicates. The bounds are those of an index that can be read. -/
theorem gatewayRoutes_flatten (routes : List RouteSetting) (hroutes : routes.length ≤ 10 ^ Yaml.Value.digitLimit)
    (hpredicates : ∀ r ∈ routes, r.predicates.length ≤ 10 ^ Yaml.Value.digitLimit) :
    ∃ entries, flatten (gatewayDocument routes) "" = .ok entries ∧
      gatewayRoutes (({} : Store).update entries) = .ok (routes.map RouteSetting.route) := by
  refine ⟨gatewayEntries routes, flatten_gatewayDocument routes, ?_⟩
  -- the store changes nothing, since the keys are relaxed and distinct
  have hrelaxed : ∀ e ∈ gatewayEntries routes, relaxedKey e.1 = e.1 := by
    intro e he
    obtain ⟨x, -, he⟩ := List.mem_flatMap.1 he
    obtain ⟨f, -, rfl⟩ := List.mem_map.1 he
    exact relaxedKey_routeKey x.2 f.1
  rw [gatewayRoutes, Store.entries_update hrelaxed (nodup_gatewayEntries routes),
    foldlM_assignRoute_gatewayEntries hroutes hpredicates]
  refine congrArg Except.ok ?_
  have hfinish : ((fun d => d.2.finish d.1) ∘ fun x : RouteSetting × Nat => (x.2, x.1.draft)) =
      RouteSetting.route ∘ Prod.fst := funext fun x => x.1.finish_draft x.2
  rw [List.map_map, hfinish, ← List.map_map, List.zipIdx_map_fst]

/-- Two routes, the second with one predicate as a text and one as a name with arguments. -/
def orderRoutes : List RouteSetting :=
  [{ id := "orders", named := by decide },
   { id := "users", named := by decide, uri := some "http://users:8080"
     predicates := [.text "Method=GET",
       .call "Path" [(⟨"pattern", by decide, by decide⟩, "/api/users/**"),
        (⟨"more", by decide, by decide⟩, "/api/profiles/**")] (by decide)] }]

theorem gatewayRoutes_orderRoutes :
    ∃ entries, flatten (gatewayDocument orderRoutes) "" = .ok entries ∧
      gatewayRoutes (({} : Store).update entries) = .ok
        [{ id := "orders" },
         { id := "users", uri := some "http://users:8080"
           predicates := ["Method=GET", "Path=/api/users/**,/api/profiles/**"] }] := by
  have hlimit : 2 ≤ 10 ^ Yaml.Value.digitLimit :=
    Nat.le_trans (by decide) (Nat.le_self_pow (by decide) 10)
  have hpredicates : ∀ r ∈ orderRoutes, r.predicates.length ≤ 2 := by
    decide
  exact gatewayRoutes_flatten orderRoutes hlimit fun r hr => Nat.le_trans (hpredicates r hr) hlimit

end SpringAtlas.Settings
