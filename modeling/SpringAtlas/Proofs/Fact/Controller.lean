import SpringAtlas.Proofs.Fact.Mapping
import SpringAtlas.Proofs.Outcome
import SpringAtlas.Proofs.Source.Declaration

/-!
# `Proofs.Fact.Controller` — extraction undoes the layout of a controller

The fact that is extracted from a controller as it is usually written has the name and the role of that controller, and
one endpoint for each of its handlers. The readers of the parts agree on where things stand, because the mask of a layout
is a layout with the same line breaks and the same offsets.

## Contents
* `endpointAt_mappingLine`, `mapM_endpointAt_lines` — the endpoint of a handler
* `declaration?_blanked`, `classPath_source` — the declaration and the path in front of it
* `extract_source` — the fact of a controller
-/

namespace SpringAtlas

open Pattern

/-! ## The endpoint of a handler -/

section Endpoints

variable {limits : ExtractionLimits} {raw masked : List (List Char)} {root className : List Char}
  {declarationLine i : Nat}

theorem endpointAt_eq_none {line : List Char} (hraw : i < raw.length)
    (h : mappingMethod line (declarationLine < i) = .ok none) :
    endpointAt limits raw masked root className declarationLine i line = .ok none := by
  rw [endpointAt, List.getElem?_eq_getElem hraw]
  simp only [mappingOn_eq_none h]
  rfl

/-- The signature is found on the line behind the annotation, since there is none behind the annotation on its line. -/
theorem handlerFrom_signatureLine {h : HandlerLayout} {line : List Char} (hline : masked[i]? = some line)
    (hmasked : masked[i + 1]? = some h.signatureLine) (hraw : raw[i + 1]? = some h.signatureLine)
    (places : List (Nat × Nat)) :
    handlerFrom raw masked ((i, line.length) :: (i + 1, 0) :: places) =
      .ok (some ⟨h.returnType.text, h.name.chars, []⟩) := by
  obtain ⟨m, hsearch, htype, hname, e, hspan⟩ := search?_signatureLine h
  have hnone : signaturePattern.searchFrom? line line.length = none :=
    searchFrom?_length_eq_none (fun c hc => fails_signature_nil hc) line
  have hsqueeze : Text.squeeze h.returnType.text = h.returnType.text := by
    refine Text.squeeze_of_forall fun c hc => ?_
    rcases ReturnType.mem_text hc with hc | rfl | rfl
    · exact not_isBlank_of_identifierPart hc
    · decide
    · decide
  rw [handlerFrom, hline]
  simp only [hnone]
  rw [handlerFrom, hmasked]
  simp only [searchFrom?_zero, hsearch, hraw, hspan, htype, hname, hsqueeze, Text.slice_self]
  rfl

theorem handlerPlaces_eq {count : Nat} (hlookahead : 1 ≤ limits.lookahead) (hnext : i + 1 < count) (start : Nat) :
    ∃ places, handlerPlaces limits count i start = (i, start) :: (i + 1, 0) :: places := by
  obtain ⟨n, hn⟩ : ∃ n, min limits.lookahead (count - 1 - i) = n + 1 :=
    ⟨min limits.lookahead (count - 1 - i) - 1, by omega⟩
  rw [handlerPlaces, hn, List.range'_succ, List.map_cons]
  exact ⟨_, rfl⟩

/-- **The endpoint of a handler**, announced on line `i`. -/
theorem endpointAt_mappingLine (l : ControllerLayout) {h : HandlerLayout} (hlookahead : 1 ≤ limits.lookahead)
    (hlength : (h.path.chars.length : Int) ≤ limits.maxPathLength) (hraw : raw[i]? = some h.mappingLine)
    (hmasked : masked[i]? = some h.blanked.mappingLine) (hrawNext : raw[i + 1]? = some h.signatureLine)
    (hmaskedNext : masked[i + 1]? = some h.signatureLine) :
    endpointAt limits raw masked l.root.chars l.name.chars declarationLine i h.blanked.mappingLine =
      .ok (some (l.endpoint h)) := by
  have hmapping : mappingOn h.mappingLine h.blanked.mappingLine (declarationLine < i) =
      .ok (some ⟨h.method, h.path.chars, h.blanked.mappingLine.length⟩) :=
    mappingOn_annotationLine h.method h.path h.path.blanked _
  have hcount : i + 1 < masked.length := (List.getElem?_eq_some_iff.1 hmaskedNext).1
  obtain ⟨places, hplaces⟩ := handlerPlaces_eq hlookahead hcount h.blanked.mappingLine.length
  have hhandler := handlerFrom_signatureLine hmasked hmaskedNext hrawNext places
  rw [endpointAt, hraw]
  simp only [hmapping]
  show (if limits.maxPathLength < (h.path.chars.length : Int) then _ else _) = _
  rw [if_neg (by omega), hplaces, hhandler]
  rfl

end Endpoints

/-! ## The endpoints of a layout -/

namespace ControllerLayout

theorem length_flatMap_lines (hs : List HandlerLayout) : (hs.flatMap HandlerLayout.lines).length = 3 * hs.length := by
  induction hs with
  | nil => rfl
  | cons h hs ih =>
    rw [List.flatMap_cons, List.length_append, ih, List.length_cons]
    show 3 + 3 * hs.length = _
    omega

/-- A layout has three lines in front of its handlers and three for each of them. -/
theorem length_lines (l : ControllerLayout) :
    l.lines.length = 3 + (3 * l.handlers.length + l.closing.length) := by
  rw [lines, List.length_append, List.length_append, length_flatMap_lines]
  rfl

/-- Where the lines of a handler stand. -/
theorem getElem?_lines {l : ControllerLayout} {done more : List HandlerLayout} {h : HandlerLayout}
    (hsplit : l.handlers = done ++ h :: more) {j : Nat} (hj : j < 3) :
    l.lines[3 + 3 * done.length + j]? = h.lines[j]? := by
  have hlines : l.lines = (l.opening ++ done.flatMap HandlerLayout.lines) ++
      (h.lines ++ (more.flatMap HandlerLayout.lines ++ l.closing)) := by
    simp [lines, hsplit]
  have hbefore : (l.opening ++ done.flatMap HandlerLayout.lines).length = 3 + 3 * done.length := by
    rw [List.length_append, length_flatMap_lines]
    rfl
  rw [hlines, List.getElem?_append_right (by omega), hbefore, Nat.add_sub_cancel_left, List.getElem?_append_left hj]

/-- What a line of the mask announces, by its number. -/
def endpointOn (l : ControllerLayout) (limits : ExtractionLimits) (declarationLine : Nat) (line : List Char × Nat) :
    Except FactError (Option Endpoint) :=
  endpointAt limits l.lines l.blanked.lines l.root.chars l.name.chars declarationLine line.2 line.1

variable {l : ControllerLayout} {limits : ExtractionLimits} {declarationLine : Nat}

theorem mapM_endpointOn_opening (hdeclaration : 1 ≤ declarationLine) :
    (l.blanked.opening.zipIdx 0).mapM (l.endpointOn limits declarationLine) = .ok [none, none, none] := by
  have hcount := l.length_lines
  have houtside (i : Nat) (hi : i ≤ 1) : decide (declarationLine < i) = false := by
    simp only [decide_eq_false_iff_not]
    omega
  have hrole : l.endpointOn limits declarationLine ("@RestController".toList, 0) = .ok none := by
    refine endpointAt_eq_none (by omega) ?_
    rw [houtside 0 (by omega)]
    exact mappingMethod_classAnnotation "estController".toList (by decide)
  have hroot : l.endpointOn limits declarationLine (annotationLine "RequestMapping" l.root.blanked, 1) = .ok none := by
    refine endpointAt_eq_none (by omega) ?_
    rw [houtside 1 (by omega)]
    refine mappingMethod_classAnnotation ("equestMapping".toList ++ argumentText l.root.blanked) ?_
    simp [argumentText, PathText.blanked]
  have hclass : l.endpointOn limits declarationLine (l.declarationLine, 2) = .ok none :=
    endpointAt_eq_none (by omega) (mappingMethod_code (fun c => isCodeChar_of_mem_declarationLine) _)
  show [("@RestController".toList, 0), (annotationLine "RequestMapping" l.root.blanked, 1),
    (l.declarationLine, 2)].mapM _ = _
  simp only [List.mapM_cons, List.mapM_nil, hrole, hroot, hclass]
  rfl

/-- The three lines of a handler: the first one announces its endpoint. -/
theorem mapM_endpointOn_handler {done more : List HandlerLayout} {h : HandlerLayout}
    (hsplit : l.handlers = done ++ h :: more) (hlookahead : 1 ≤ limits.lookahead)
    (hlength : (h.path.chars.length : Int) ≤ limits.maxPathLength) :
    (h.blanked.lines.zipIdx (3 + 3 * done.length)).mapM (l.endpointOn limits declarationLine) =
      .ok [some (l.endpoint h), none, none] := by
  have hblanked : l.blanked.handlers =
      done.map HandlerLayout.blanked ++ h.blanked :: more.map HandlerLayout.blanked := by
    simp [blanked, hsplit]
  have hraw (j : Nat) (hj : j < 3) : l.lines[3 + 3 * done.length + j]? = h.lines[j]? := getElem?_lines hsplit hj
  have hmasked (j : Nat) (hj : j < 3) : l.blanked.lines[3 + 3 * done.length + j]? = h.blanked.lines[j]? := by
    rw [← getElem?_lines hblanked hj, List.length_map]
  have hcount : 3 + 3 * done.length + 2 < l.lines.length := (List.getElem?_eq_some_iff.1 (hraw 2 (by omega))).1
  have hmapping : l.endpointOn limits declarationLine (h.blanked.mappingLine, 3 + 3 * done.length) =
      .ok (some (l.endpoint h)) :=
    endpointAt_mappingLine l hlookahead hlength (hraw 0 (by omega)) (hmasked 0 (by omega)) (hraw 1 (by omega))
      (hmasked 1 (by omega))
  have hsignature : l.endpointOn limits declarationLine (h.signatureLine, 3 + 3 * done.length + 1) = .ok none :=
    endpointAt_eq_none (by omega) (mappingMethod_code (fun c => isCodeChar_of_mem_signatureLine) _)
  have hbrace : ∀ c ∈ ['\x7d'], isCodeChar c := List.forall_mem_singleton.2 (by decide)
  have hclose : l.endpointOn limits declarationLine (['\x7d'], 3 + 3 * done.length + 2) = .ok none :=
    endpointAt_eq_none hcount (mappingMethod_code hbrace _)
  show [(h.blanked.mappingLine, 3 + 3 * done.length), (h.signatureLine, 3 + 3 * done.length + 1),
    (['\x7d'], 3 + 3 * done.length + 2)].mapM _ = _
  simp only [List.mapM_cons, List.mapM_nil, hmapping, hsignature, hclose]
  rfl

theorem mapM_endpointOn_closing :
    (l.closing.zipIdx (3 + 3 * l.handlers.length)).mapM (l.endpointOn limits declarationLine) =
      .ok (List.replicate l.closing.length none) := by
  have hcount := l.length_lines
  rw [mapM_eq_pure_map (g := fun _ => none), List.map_const', List.length_zipIdx]
  · rfl
  · intro x hx
    have hi := List.snd_lt_add_of_mem_zipIdx hx
    exact endpointAt_eq_none (by omega)
      (mappingMethod_code (fun c => isCodeChar_of_mem_closing (List.fst_mem_of_mem_zipIdx hx)) _)

/-- **The endpoints of a layout**: one for each handler, in order. -/
theorem mapM_endpointOn (hlookahead : 1 ≤ limits.lookahead)
    (hlength : ∀ h ∈ l.handlers, (h.path.chars.length : Int) ≤ limits.maxPathLength)
    (hdeclaration : 1 ≤ declarationLine) :
    ∃ found, l.blanked.lines.zipIdx.mapM (l.endpointOn limits declarationLine) = .ok found ∧
      found.filterMap id = l.handlers.map l.endpoint := by
  have hlines : l.blanked.lines =
      l.blanked.opening ++ (l.handlers.flatMap (fun h => h.blanked.lines) ++ l.closing) := by
    show l.blanked.opening ++ ((l.handlers.map HandlerLayout.blanked).flatMap HandlerLayout.lines ++ l.closing) = _
    rw [List.flatMap_map]
  have hlengths (hs : List HandlerLayout) : (hs.flatMap fun h => h.blanked.lines).length = 3 * hs.length := by
    rw [← List.length_map HandlerLayout.blanked, ← length_flatMap_lines, List.flatMap_map]
  have hhandlers : ((l.handlers.flatMap fun h => h.blanked.lines).zipIdx 3).mapM (l.endpointOn limits declarationLine) =
      .ok (l.handlers.flatMap fun h => [some (l.endpoint h), none, none]) := by
    refine mapM_zipIdx_flatMap fun done h more hsplit => ?_
    rw [hlengths]
    exact mapM_endpointOn_handler hsplit hlookahead (hlength h (by simp [hsplit]))
  have hthree : 0 + l.blanked.opening.length = 3 := rfl
  refine ⟨[none, none, none] ++ ((l.handlers.flatMap fun h => [some (l.endpoint h), none, none]) ++
    List.replicate l.closing.length none), ?_, ?_⟩
  · rw [hlines, List.zipIdx_append, List.zipIdx_append, List.mapM_append, List.mapM_append, hthree, hlengths,
      mapM_endpointOn_opening hdeclaration, hhandlers, mapM_endpointOn_closing]
    rfl
  · simp [List.filterMap_flatMap, List.map_eq_flatMap]

end ControllerLayout

/-! ## The declaration -/

/-- The text in front of the keyword of the declaration. -/
def openingText (root : PathText) : List Char :=
  "@RestController\n".toList ++ (annotationLine "RequestMapping" root ++ "\npublic ".toList)

/-- The text of a controller up to the name of its class. -/
theorem ControllerLayout.source_eq (l : ControllerLayout) :
    ∃ tail, l.source = openingText l.root ++ ("class ".toList ++ (l.name.chars ++ ' ' :: tail)) := by
  obtain ⟨line, lines, hlines⟩ : ∃ line lines, l.handlers.flatMap HandlerLayout.lines ++ l.closing = line :: lines :=
    List.exists_cons_of_ne_nil (by simp [closing])
  refine ⟨'\x7b' :: '\n' :: Text.join ['\n'] (line :: lines), ?_⟩
  rw [source, ControllerLayout.lines, opening, hlines]
  simp only [List.cons_append, List.nil_append, Text.join_cons_cons]
  unfold openingText declarationLine
  simp

theorem opensWith_declaration : OpensWith Source.declarationPattern fun c => "cie".toList.contains c := by
  intro c hc
  have hkeyword : Fails (group 1 (oneOf ["class", "interface", "enum"])) c := by
    refine (fails_oneOf fun s hs hprefix => ?_).group 1
    obtain ⟨rest, hrest⟩ := hprefix
    rw [← hrest] at hc
    simp only [List.mem_cons, List.not_mem_nil, or_false] at hs
    rcases hs with rfl | rfl | rfl <;> simp at hc
  have hfront : Fails (notBehind (fun c => c == '@' || Source.isQualifiedPart c) ++
      (wordEdge ++ group 1 (oneOf ["class", "interface", "enum"]))) c := hkeyword.wordEdge_seq.notBehind_seq
  exact Fails.seq (Fails.seq hfront)

/-- Each character stands behind part of a name or does not start a keyword. -/
def opensNoDeclaration : Option Char → List Char → Bool
  | _, [] => true
  | before, x :: xs =>
    (before.any (fun c => c == '@' || Source.isQualifiedPart c) || !"cie".toList.contains x) &&
      opensNoDeclaration (some x) xs

theorem failsThrough_declaration {before : Option Char} {xs rest : List Char} (h : opensNoDeclaration before xs) :
    FailsThrough Source.declarationPattern before xs rest := by
  induction xs generalizing before with
  | nil => exact True.intro
  | cons x xs ih =>
    simp only [opensNoDeclaration, Bool.and_eq_true, Bool.or_eq_true, Bool.not_eq_true'] at h
    obtain ⟨hx, hxs⟩ := h
    refine ⟨fun c hbefore hrest => ?_, ih hxs⟩
    rcases hx with hx | hx
    · exact (fails_notBehind (by rw [hbefore]; exact hx)).seq.seq.seq.seq
    · exact opensWith_declaration c (by rw [hrest, List.head?_cons, Option.any_some, hx])

/-- In front of its keyword a masked layout declares nothing: there are annotations and spaces. -/
theorem failsThrough_openingText (root : PathText) (rest : List Char) :
    FailsThrough Source.declarationPattern none (openingText root.blanked) rest := by
  have hsplit : openingText root.blanked =
      "@RestController\n@RequestMapping(\"".toList ++ (root.blanked.chars ++ "\")\npublic ".toList) := by
    unfold openingText annotationLine argumentText
    simp
  have hspaces : ∀ x ∈ root.blanked.chars, "cie".toList.contains x = false := by
    intro x hx
    rw [(List.mem_replicate.1 hx).2]
    decide
  have hend (before : Option Char) : opensNoDeclaration before "\")\npublic ".toList := by
    show ((before.any _ || true) && opensNoDeclaration (some '"') ")\npublic ".toList) = true
    rw [Bool.or_true]
    decide
  rw [hsplit, failsThrough_append, failsThrough_append]
  exact ⟨failsThrough_declaration (by decide), opensWith_declaration.failsThrough hspaces,
    failsThrough_declaration (hend _)⟩

/-- **The declaration of a layout** is found in its mask. -/
theorem ControllerLayout.declaration?_mask (l : ControllerLayout) :
    ∃ d, Source.declaration? (Source.mask l.source) = some d ∧ d.kind = .ordinary ∧ d.name = l.name.chars ∧
      d.start = (openingText l.root.blanked).length := by
  obtain ⟨tail, htail⟩ : ∃ tail, l.blanked.source =
      openingText l.root.blanked ++ ("class ".toList ++ (l.name.chars ++ ' ' :: tail)) := l.blanked.source_eq
  have hlast : (openingText l.root.blanked).getLast? = some ' ' := by
    unfold openingText
    rw [← List.append_assoc, List.getLast?_append]
    rfl
  rw [l.mask_source, htail]
  exact ⟨_, Source.declaration?_eq_some _ l.name (failsThrough_openingText l.root _) (by rw [hlast]; decide) rfl,
    rfl, rfl, rfl⟩

/-! ## The path of the class -/

theorem takes_requestMapping {c : Cursor} {p : PathText} {rest : List Char}
    (hrest : c.rest = annotationLine "RequestMapping" p ++ rest) :
    Takes requestMappingPattern c (c.after "@RequestMapping".toList (argumentText p ++ rest)) := by
  have hsplit : c.rest = "@RequestMapping".toList ++ (argumentText p ++ rest) := by
    rw [hrest, annotationLine]
    simp
  exact (takes_lit "@RequestMapping" _ hsplit).seq (takes_wordEdge (atWordEdge_after (by decide)))

/-- The request mapping of a layout stands on its second line. -/
theorem search?_requestMapping (root : PathText) :
    ∃ m, requestMappingPattern.search? (openingText root) = some m ∧ m.start = "@RestController\n".toList.length ∧
      m.stop = "@RestController\n@RequestMapping".toList.length := by
  have hskip : FailsThrough requestMappingPattern none "@RestController\n".toList
      (annotationLine "RequestMapping" root ++ "\npublic ".toList) := by
    have hcons : "@RestController\n".toList = '@' :: "RestController\n".toList := by decide
    rw [hcons]
    refine ⟨fun c _ hrest => ?_, opensWith_requestMappingPattern.failsThrough (by simp)⟩
    exact (fails_lit (by simp [hrest])).seq
  exact ⟨_, search?_eq_some hskip (takes_requestMapping rfl), rfl, rfl⟩

theorem takeWhile_of_newline {xs : List Char} (h : '\n' ∉ xs) (rest : List Char) :
    (xs ++ '\n' :: rest).takeWhile (· != '\n') = xs := by
  rw [List.takeWhile_append_of_pos, List.takeWhile_cons_of_neg (by decide), List.append_nil]
  intro c hc
  simpa using fun he : c = '\n' => h (he ▸ hc)

/-- **The path of the class** is read from the text as it stands, where the mask has its annotation. -/
theorem ControllerLayout.classPath_source (l : ControllerLayout) {d : Source.TypeDeclaration}
    (hd : d.start = (openingText l.root.blanked).length) :
    classPath l.source (Source.mask l.source) d = l.root.chars := by
  obtain ⟨m, hsearch, hstart, hstop⟩ := search?_requestMapping l.root.blanked
  have hsearchIn : requestMappingPattern.searchIn? (Source.mask l.source) 0 d.start = some m := by
    obtain ⟨tail, htail⟩ := l.blanked.source_eq
    rw [searchIn?_zero, l.mask_source, htail, hd]
    exact (congrArg _ (List.take_left ..)).trans hsearch
  obtain ⟨tail, htail⟩ : ∃ tail, l.source =
      "@RestController\n".toList ++ annotationLine "RequestMapping" l.root ++ '\n' :: tail := by
    obtain ⟨tail, htail⟩ := l.source_eq
    refine ⟨"public ".toList ++ ("class ".toList ++ (l.name.chars ++ ' ' :: tail)), ?_⟩
    rw [htail]
    unfold openingText
    simp
  -- the line of the annotation, from the newline before it to the newline behind it
  have htake : l.source.take m.start = "@RestController\n".toList := by
    rw [htail, List.append_assoc, hstart, List.take_left]
  have hdrop : l.source.drop m.stop = argumentText l.root ++ '\n' :: tail := by
    have hsplit : l.source = "@RestController\n@RequestMapping".toList ++ (argumentText l.root ++ '\n' :: tail) := by
      rw [htail, annotationLine]
      simp
    rw [hsplit, hstop, List.drop_left]
  have hline : Text.slice l.source "@RestController\n".toList.length
      (m.stop + (argumentText l.root).length) = annotationLine "RequestMapping" l.root := by
    have hlength : m.stop + (argumentText l.root).length =
        "@RestController\n".toList.length + (annotationLine "RequestMapping" l.root).length := by
      rw [hstop, annotationLine, List.length_append, ← Nat.add_assoc]
      rfl
    rw [hlength, htail, Text.slice_append]
  have hafter : Text.afterLast (· == '\n') "@RestController\n".toList = "@RestController\n".toList.length := by decide
  have hpath : mappingPath? (annotationLine "RequestMapping" l.root) (m.stop - "@RestController\n".toList.length) =
      some l.root.chars := by
    rw [hstop]
    exact mappingPath?_argumentText ('@' :: "RequestMapping".toList) l.root
  rw [classPath, hsearchIn]
  simp only [htake, hdrop, hafter, takeWhile_of_newline (newline_not_mem_argumentText l.root), hline, hpath,
    Option.getD_some]

/-! ## The role of the class -/

theorem takes_annotation {c : Cursor} (i : Identifier) (rest : List Char) (hrest : c.rest = '@' :: (i.chars ++ rest))
    (hend : rest.head?.any Source.isQualifiedPart = false) :
    ∃ d, Takes Source.annotationPattern c d ∧ d.captures = ⟨1, c.pos + 1, c.pos + 1 + i.chars.length⟩ :: c.captures := by
  have hat : Takes (lit "@") c (c.after ['@'] (i.chars ++ rest)) := takes_lit "@" _ hrest
  have hblanks : Takes blanks (c.after ['@'] (i.chars ++ rest)) _ :=
    takes_blanks_nil (i.head?_append_any (fun _ => not_isBlank_of_identifierPart) _)
  have hname := takes_name (c := c.after ['@'] (i.chars ++ rest)) (fun _ => isQualifiedPart_of_identifierPart) i rest
    rfl hend
  exact ⟨_, (hat.seq hblanks).seq (hname.group 1), rfl⟩

/-- The annotation at the start of a text is among its annotations. -/
theorem mem_annotationNames (i : Identifier) (rest : List Char) (hend : rest.head?.any Source.isQualifiedPart = false)
    (hne : i.chars ≠ "interface".toList) :
    Source.simpleName i.chars ∈ Source.annotationNames ('@' :: (i.chars ++ rest)) := by
  obtain ⟨d, hd, hcaptures⟩ := takes_annotation
    (c := ⟨none, 0, ('@' :: (i.chars ++ rest)).length, '@' :: (i.chars ++ rest), []⟩) i rest rfl hend
  have hfirst := List.mem_of_head? (head?_findAll (matchStart?_eq_some hd))
  have hgroup : Match.group ⟨0, d.pos, d.captures⟩ ('@' :: (i.chars ++ rest)) 1 = i.chars :=
    Match.group_eq ['@'] rest (by simp) (by simp [Match.span?, hcaptures])
  refine List.mem_filterMap.2 ⟨i.chars, ?_, if_neg hne⟩
  exact List.mem_map.2 ⟨_, hfirst, hgroup⟩

theorem ControllerLayout.role_mem_annotationNames (l : ControllerLayout) :
    "RestController" ∈ (Source.annotationNames (Source.mask l.source)).map String.ofList := by
  obtain ⟨tail, htail⟩ : ∃ tail, l.blanked.source = '@' :: ("RestController".toList ++ '\n' :: tail) := by
    obtain ⟨tail, htail⟩ := l.blanked.source_eq
    refine ⟨annotationLine "RequestMapping" l.blanked.root ++ "\npublic ".toList ++
      ("class ".toList ++ (l.blanked.name.chars ++ ' ' :: tail)), ?_⟩
    rw [htail]
    unfold openingText
    simp
  have hname : Source.simpleName "RestController".toList = "RestController".toList := by
    rw [Source.simpleName, Source.stripGenerics, if_neg (by decide)]
    decide
  have hmem := mem_annotationNames ⟨"RestController".toList, by decide, by decide, by decide⟩ ('\n' :: tail) rfl
    (by decide)
  rw [l.mask_source, htail]
  refine List.mem_map.2 ⟨"RestController".toList, ?_, rfl⟩
  rwa [hname] at hmem

theorem classify_restController {annotations : List String} (h : "RestController" ∈ annotations) :
    stereotypeRules.classify annotations = .restController := by
  simp [RuleTable.classify, RuleTable.rule?, stereotypeRules, h]

/-! ## The fact of a controller -/

theorem ControllerLayout.endpoints_source (l : ControllerLayout) {limits : ExtractionLimits} {d : Source.TypeDeclaration}
    (hname : d.name = l.name.chars) (hstart : d.start = (openingText l.root.blanked).length)
    (hlookahead : 1 ≤ limits.lookahead)
    (hlength : ∀ h ∈ l.handlers, (h.path.chars.length : Int) ≤ limits.maxPathLength) :
    endpoints limits l.source (Source.mask l.source) d = .ok (l.handlers.map l.endpoint) := by
  -- the annotations of the class stand on lines above the declaration, so they count as outside
  have hdeclaration : 1 ≤ Text.newlinesBefore (Source.mask l.source) d.start := by
    obtain ⟨tail, htail⟩ := l.blanked.source_eq
    have htake : (Source.mask l.source).take d.start = openingText l.root.blanked := by
      rw [l.mask_source, htail, hstart]
      exact List.take_left ..
    have hnewline : '\n' ∈ "@RestController\n".toList := by decide
    rw [Text.newlinesBefore, htake]
    exact List.count_pos_iff.2 (List.mem_append_left _ hnewline)
  obtain ⟨found, hfound, hfilter⟩ := l.mapM_endpointOn hlookahead hlength hdeclaration
  have hmasked : Text.lines (Source.mask l.source) = l.blanked.lines := by
    rw [l.mask_source, l.blanked.lines_source]
  rw [endpoints, l.lines_source, hmasked, l.classPath_source hstart, hname, ← hfilter]
  exact bind_eq_ok.2 ⟨found, hfound, rfl⟩

/-- **Extraction undoes the layout of a controller**: the fact has the name and the role of the controller, and exactly
    one endpoint for each handler, in order, with the paths of class and handler joined. -/
theorem ControllerLayout.extract_source (l : ControllerLayout) (limits : ExtractionLimits) (path : String)
    (hlookahead : 1 ≤ limits.lookahead)
    (hlength : ∀ h ∈ l.handlers, (h.path.chars.length : Int) ≤ limits.maxPathLength) :
    ∃ fact, extract limits path l.source = .ok (some fact) ∧ fact.name = String.ofList l.name.chars ∧
      fact.stereotype = .restController ∧ fact.endpoints = l.handlers.map l.endpoint := by
  obtain ⟨d, hd, hkind, hname, hstart⟩ := l.declaration?_mask
  have hstereotype : stereotypeOf d.kind ((Source.annotationNames (Source.mask l.source)).map String.ofList) =
      .restController := by
    rw [hkind]
    exact classify_restController l.role_mem_annotationNames
  have hendpoints := l.endpoints_source hname hstart hlookahead hlength
  have hnonempty : (String.ofList d.name).isEmpty = false := by
    rw [hname, ← Bool.not_eq_true, String.isEmpty_iff, ← String.toList_eq_nil_iff, String.toList_ofList]
    exact l.name.nonempty
  unfold extract
  simp only [hd, hstereotype, ClassFact.checked, hnonempty, Bool.false_eq_true, if_false]
  rw [hendpoints]
  exact ⟨_, rfl, congrArg String.ofList hname, rfl, rfl⟩

/-- A controller with two handlers, one with a type argument and one without a result. -/
def orderController : ControllerLayout where
  name := ⟨"OrderController".toList, by decide, by decide, by decide⟩
  root := ⟨"/api".toList, by decide⟩
  handlers :=
    [{ method := .get
       path := ⟨"/orders".toList, by decide⟩
       returnType :=
        { name := ⟨"List".toList, by decide, by decide, by decide⟩
          argument := some ⟨"Order".toList, by decide, by decide, by decide⟩
          plain := by decide }
       name := ⟨"all".toList, by decide, by decide, by decide⟩ },
     { method := .delete
       path := ⟨"orders/\x7bid\x7d".toList, by decide⟩
       returnType := { name := ⟨"void".toList, by decide, by decide, by decide⟩, plain := by decide }
       name := ⟨"remove".toList, by decide, by decide, by decide⟩ }]

theorem extract_orderController :
    ∃ fact, extract {} "OrderController.java" orderController.source = .ok (some fact) ∧
      fact.name = "OrderController" ∧ fact.stereotype = .restController ∧
      fact.endpoints =
        [{ method := .get, path := "/api/orders", handler := "all", returnType := "List<Order>",
           className := some "OrderController" },
         { method := .delete, path := "/api/orders/\x7bid\x7d", handler := "remove", returnType := "void",
           className := some "OrderController" }] :=
  orderController.extract_source {} "OrderController.java" (by decide) (by decide)

end SpringAtlas
