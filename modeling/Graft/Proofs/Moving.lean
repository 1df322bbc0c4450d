import Graft.Proofs.Conversion
import Graft.Proofs.Detection

/-! # Moving documents

A moved document is the document with its runs converted, and these are its runs. Where every run
has room in the other style, the moved document is printed as it stands, and moving it back renders
it. Within one style a printed text does not show whether the document was moved. What can be
written is the same on both sides.
-/

namespace Graft

namespace Node

/-! ## Trees with other tokens -/

-- Tokens are mapped where they stand.
mutual
@[simp] theorem tokens_mapTokens (f : Token → Token) :
    ∀ node : Node, (node.mapTokens f).tokens = node.tokens.map f
  | ⟨_, _, _, token, children⟩ => by
    have hs := tokens_mapTokensAll f children
    cases token <;> simp [mapTokens, tokens, preorder, hs]

theorem tokens_mapTokensAll (f : Token → Token) : ∀ nodes : List Node,
    (preorderAll (mapTokensAll f nodes)).filterMap (·.token) =
      ((preorderAll nodes).filterMap (·.token)).map f
  | [] => rfl
  | node :: rest => by
    have h := tokens_mapTokens f node
    have hs := tokens_mapTokensAll f rest
    simp only [tokens] at h
    simp [mapTokensAll, preorderAll, h, hs]
end

-- Identities are not looked at.
mutual
theorem content_mapTokens (f : Token → Token) :
    ∀ node : Node, (node.mapTokens f).content = node.content.mapTokens f
  | ⟨_, _, _, _, children⟩ => by
    simp only [mapTokens, content, contents_mapTokensAll f children]

theorem contents_mapTokensAll (f : Token → Token) : ∀ nodes : List Node,
    contents (mapTokensAll f nodes) = mapTokensAll f (contents nodes)
  | [] => rfl
  | node :: rest => by
    simp only [mapTokensAll, contents, content_mapTokens f node, contents_mapTokensAll f rest]
end

mutual
theorem mapTokens_mapTokens (f g : Token → Token) :
    ∀ node : Node, (node.mapTokens f).mapTokens g = node.mapTokens (g ∘ f)
  | ⟨_, _, _, token, children⟩ => by
    simp only [mapTokens, Option.map_map, mapTokensAll_mapTokensAll f g children]

theorem mapTokensAll_mapTokensAll (f g : Token → Token) : ∀ nodes : List Node,
    mapTokensAll g (mapTokensAll f nodes) = mapTokensAll (g ∘ f) nodes
  | [] => rfl
  | node :: rest => by
    simp only [mapTokensAll, mapTokens_mapTokens f g node, mapTokensAll_mapTokensAll f g rest]
end

mutual
theorem mapTokens_congr {f g : Token → Token} : ∀ node : Node,
    (∀ token ∈ node.tokens, f token = g token) → node.mapTokens f = node.mapTokens g
  | ⟨_, _, _, token, children⟩, h => by
    have hself : token.map f = token.map g := by
      cases token with
      | none => rfl
      | some token => simp [h token (by simp [tokens, preorder])]
    have hbelow := mapTokensAll_congr children fun other hother =>
      h other (by cases token <;> simp [tokens, preorder, hother])
    rw [mapTokens, mapTokens, hself, hbelow]

theorem mapTokensAll_congr {f g : Token → Token} : ∀ nodes : List Node,
    (∀ token ∈ (preorderAll nodes).filterMap (·.token), f token = g token) →
      mapTokensAll f nodes = mapTokensAll g nodes
  | [], _ => rfl
  | node :: rest, h => by
    rw [preorderAll, List.filterMap_append, List.forall_mem_append] at h
    rw [mapTokensAll, mapTokensAll, mapTokens_congr node h.1, mapTokensAll_congr rest h.2]
end

end Node

namespace Trivia

/-! ## Runs of trivia that was written anew -/

variable {f : List Char → List Char}

theorem indentation_layoutLine_text (hf : WritesBlanks f) (closes : Bool) (line : List Char) :
    (layoutLine closes ((layoutLine closes line).text f)).indentation =
      f (layoutLine closes line).indentation := by
  have hrun := hf.blank _ fun c (h : c ∈ line.takeWhile Text.isBlank) => List.mem_takeWhile_imp h
  by_cases h : indents closes (line.dropWhile Text.isBlank)
  · have htake := takeWhile_dropWhile_blank line
    have hdrop : (line.dropWhile Text.isBlank).dropWhile Text.isBlank =
        line.dropWhile Text.isBlank := List.dropWhile_idempotent _ _
    simp only [layoutLine, h, if_true, Line.text, List.takeWhile_append_of_pos hrun,
      List.dropWhile_append_of_pos hrun, hdrop, htake, List.append_nil]
  · simp [layoutLine, h, Line.text, Line.plain, hf.nil]

theorem layoutLines_ne_nil (beforeToken : Bool) {ls : List (List Char)} (h : ls ≠ []) :
    layoutLines beforeToken ls ≠ [] := by
  fun_cases layoutLines beforeToken ls with
  | case1 => exact absurd rfl h
  | case2 line => simp
  | case3 line below hne => simp

theorem map_indentation_layoutLines (hf : WritesBlanks f) (beforeToken : Bool)
    (ls : List (List Char)) :
    (layoutLines beforeToken ((layoutLines beforeToken ls).map (Line.text f))).map
        (·.indentation) =
      (layoutLines beforeToken ls).map fun line => f line.indentation := by
  fun_induction layoutLines beforeToken ls with
  | case1 => rfl
  | case2 line =>
    rw [List.map_singleton, layoutLines, List.map_singleton, List.map_singleton,
      indentation_layoutLine_text hf]
  | case3 line below hne ih =>
    have hbelow : (layoutLines beforeToken below).map (Line.text f) ≠ [] := by
      simpa using layoutLines_ne_nil beforeToken hne
    rw [List.map_cons, layoutLines_cons _ _ hbelow, List.map_cons, List.map_cons, ih,
      indentation_layoutLine_text hf]

theorem map_indentation_layout_reflow (hf : WritesBlanks f) (beforeToken : Bool)
    (trivia : List Char) :
    (layout beforeToken (reflow f beforeToken trivia)).map (·.indentation) =
      (layout beforeToken trivia).map fun line => f line.indentation := by
  obtain ⟨first, below, h⟩ := Text.exists_lines_eq_cons trivia
  have hlines := lines_reflow hf beforeToken trivia
  simp only [layout, h, List.map_cons] at hlines
  simp only [layout, h, hlines, List.map_cons, map_indentation_layoutLines hf]
  simp [Line.plain, hf.nil]

theorem forall_isIndentation_reflow (hf : WritesBlanks f) {P : List Char → Prop} (hnil : P [])
    (beforeToken : Bool) (trivia : List Char) :
    (∀ run, IsIndentation beforeToken (reflow f beforeToken trivia) run → P run) ↔
      ∀ run, IsIndentation beforeToken trivia run → P (f run) := by
  have hnil' : P (f []) := by rwa [hf.nil]
  have h := map_indentation_layout_reflow hf beforeToken trivia
  rw [← forall_layout hnil, ← forall_layout (P := fun run => P (f run)) hnil']
  have hall (lines : List Line) (g : Line → List Char) :
      (∀ line ∈ lines, P (g line)) ↔ ∀ run ∈ lines.map g, P run := by simp
  rw [hall _ (·.indentation), h, ← hall]

end Trivia

namespace Document

/-! ## Moved documents -/

section Moved

variable (source target : Indentation) (document : Document) (next : NodeId)

theorem content_root_reindentTokens :
    (document.reindentTokens source target next).1.root.content =
      document.root.content.mapTokens (·.reindent source target) := by
  simp only [reindentTokens]
  rw [Node.content_numbered, Node.rebuild_eq_mapTokens, Node.content_mapTokens]

theorem tokens_root_reindentTokens :
    (document.reindentTokens source target next).1.root.tokens =
      document.root.tokens.map (·.reindent source target) := by
  rw [← Node.tokens_content, content_root_reindentTokens, Node.tokens_mapTokens,
    Node.tokens_content]

theorem reflowed_reindentTokens (f : List Char → List Char) :
    (document.reindentTokens source target next).1.reflowed f =
      document.reflowed (f ∘ source.convert target) := by
  have htrailing : (document.reindentTokens source target next).1.trailing =
      Trivia.reflowText (source.convert target) false document.trailing := rfl
  simp only [reflowed, tokens_root_reindentTokens, htrailing, List.flatMap_map, Token.reflowed,
    Token.reindent, Trivia.reflowText, String.toList_ofList,
    Trivia.reflow_reflow (Indentation.writesBlanks_convert source target)]

/-- What is printed for a run of a moved document, also when no move is made. -/
theorem toList_print_reindent :
    ((document.reindent source target next).1.print target).toList =
      document.reflowed (target.render ∘ source.convert target) := by
  rw [toList_print, reindent]
  split
  · next h =>
    have hsame : target.render ∘ source.convert target = target.render := by
      funext run
      rw [Function.comp_apply, h, Indentation.convert_self, Indentation.render_render]
    rw [hsame]
  · rw [reflowed_reindentTokens]

section

variable {P : List Char → Prop} (hnil : P [])
include hnil

theorem forall_isIndentation_reindentTokens :
    (∀ run, (document.reindentTokens source target next).1.IsIndentation run → P run) ↔
      ∀ run, document.IsIndentation run → P (source.convert target run) := by
  have hmoved (beforeToken : Bool) (trivia : String) :=
    Trivia.forall_isIndentation_reflow (Indentation.writesBlanks_convert source target) hnil
      beforeToken trivia.toList
  have htrailing : (document.reindentTokens source target next).1.trailing =
      Trivia.reflowText (source.convert target) false document.trailing := rfl
  simp only [IsIndentation, tokens_root_reindentTokens, htrailing, List.mem_map, or_imp,
    forall_and]
  apply and_congr
  · constructor
    · rintro h run ⟨token, htoken, hrun⟩
      refine (hmoved true token.leading).mp (fun other hother => h other ?_) run hrun
      refine ⟨_, ⟨token, htoken, rfl⟩, ?_⟩
      simpa [Token.reindent, Trivia.reflowText] using hother
    · rintro h run ⟨-, ⟨token, htoken, rfl⟩, hrun⟩
      refine (hmoved true token.leading).mpr (fun other hother => h other ⟨token, htoken, hother⟩)
        run ?_
      simpa [Token.reindent, Trivia.reflowText] using hrun
  · simpa [Trivia.reflowText] using hmoved false document.trailing

end

theorem all_runs_reindentTokens {ok given : List Char → Bool} (hok : ok [] = true)
    (hgiven : given [] = true)
    (h : ∀ run, document.IsIndentation run → ok (source.convert target run) = given run) :
    (document.reindentTokens source target next).1.runs.all ok = document.runs.all given := by
  rw [Bool.eq_iff_iff, List.all_eq_true, List.all_eq_true, forall_runs hok,
    forall_isIndentation_reindentTokens source target document next hok,
    forall_runs (P := fun run => given run = true) hgiven]
  exact forall₂_congr fun run hrun => by rw [h run hrun]

end Moved

theorem reflowed_congr {f g : List Char → List Char} (hf : Trivia.WritesBlanks f)
    (hg : Trivia.WritesBlanks g) {document : Document}
    (h : ∀ run, document.IsIndentation run → f run = g run) :
    document.reflowed f = document.reflowed g := by
  have htokens : ∀ token ∈ document.root.tokens, token.reflowed f = token.reflowed g := by
    intro token hmem
    rw [Token.reflowed, Token.reflowed,
      Trivia.reflow_congr hf hg fun run hrun => h run (Or.inl ⟨token, hmem, hrun⟩)]
  rw [reflowed, reflowed, List.flatMap_congr htokens,
    Trivia.reflow_congr hf hg fun run hrun => h run (Or.inr hrun)]

section Back

variable {source target : Indentation} (hs : source.tabWidth ≠ 0)

include hs

theorem reflowText_convert_convert (beforeToken : Bool) (trivia : String)
    (h : ∀ run, Trivia.IsIndentation beforeToken trivia.toList run → source.Fits target run) :
    Trivia.reflowText (target.convert source) beforeToken
        (Trivia.reflowText (source.convert target) beforeToken trivia) =
      Trivia.reflowText source.render beforeToken trivia := by
  have hthere := Indentation.writesBlanks_convert source target
  have hback := Indentation.writesBlanks_convert target source
  simp only [Trivia.reflowText, String.toList_ofList, Trivia.reflow_reflow hthere]
  rw [Trivia.reflow_congr (hback.comp hthere) source.writesBlanks_render]
  intro run hrun
  exact Indentation.convert_convert hs (h run hrun)

theorem content_root_there_and_back {document : Document}
    (h : ∀ run, document.IsIndentation run → source.Fits target run) (next after : NodeId) :
    ((document.reindentTokens source target next).1.reindentTokens target source
        after).1.root.content =
      (document.root.mapTokens (·.rendered source)).content := by
  rw [content_root_reindentTokens, content_root_reindentTokens, Node.mapTokens_mapTokens,
    Node.content_mapTokens]
  -- Only the tokens of the document are known to have room, so the maps agree on these only.
  apply Node.mapTokens_congr
  intro token hmem
  rw [Node.tokens_content] at hmem
  simp only [Function.comp_apply, Token.reindent, Token.rendered]
  rw [reflowText_convert_convert hs true token.leading fun run hrun =>
    h run (Or.inl ⟨token, hmem, hrun⟩)]

/-- A document that was moved to another style is printed in that style as it stands. Moved back, it
is the first document with its indentation rendered. Both need that every run has room in the other
style. What was moved can be printed, and it can be moved back where the first document can be
printed. -/
theorem reindent_reindent (hne : source ≠ target) (document : Document)
    (hfits : ∀ run, document.IsIndentation run → source.Fits target run) (next after : NodeId) :
    let moved := (document.reindent source target next).1
    let back := (moved.reindent target source after).1
    ((∀ run, document.IsIndentation run →
        target.render (source.convert target run) = source.convert target run) ∧
      moved.source.toList = document.reflowed (source.convert target) ∧
      moved.print target = moved.source) ∧
    back.root.content = (document.root.mapTokens (·.rendered source)).content ∧
      back.trailing = Trivia.reflowText source.render false document.trailing ∧
      back.faults = document.faults ∧ back.file = document.file ∧
      back.language = document.language ∧
    (document.reindent? source target next =
        if (document.moving source target).all (·.isWritable) then
          some (document.reindent source target next)
        else none) ∧
      (moved.print? target =
        if (document.moving source target).all (·.isWritable) then some moved.source else none) ∧
      moved.reindent? target source after =
        if (document.printing source).all (·.isWritable) then
          some (moved.reindent target source after)
        else none := by
  intro moved back
  have hmoved : moved = (document.reindentTokens source target next).1 := by
    simp only [moved, reindent, if_neg hne]
  have hback : back = (moved.reindentTokens target source after).1 := by
    simp only [back, reindent, if_neg hne.symm]
  have hrun : ∀ run, document.IsIndentation run →
      target.render (source.convert target run) = source.convert target run :=
    fun run h => Indentation.render_convert hs (hfits run h)
  have hsource : moved.source.toList = document.reflowed (source.convert target) := by
    rw [toList_source, hmoved, reflowed_reindentTokens, Function.id_comp]
  have hprint : moved.print target = moved.source := by
    have hthere := Indentation.writesBlanks_convert source target
    rw [← String.toList_inj, hsource, toList_print, hmoved, reflowed_reindentTokens]
    exact reflowed_congr (target.writesBlanks_render.comp hthere) hthere hrun
  have hthere : (moved.printing target).all (·.isWritable) =
      (document.moving source target).all (·.isWritable) := by
    rw [moving, if_neg hne, all_conversions, all_printing_eq, hmoved]
    exact all_runs_reindentTokens source target document next target.canRender_nil
      (source.canConvert_nil target) fun run h => Indentation.canRender_convert hs (hfits run h)
  have hagain : (moved.moving target source).all (·.isWritable) =
      (document.printing source).all (·.isWritable) := by
    rw [moving, if_neg hne.symm, all_conversions, all_printing_eq, hmoved]
    exact all_runs_reindentTokens source target document next (target.canConvert_nil source)
      source.canRender_nil fun run h => Indentation.canConvert_convert hs (hfits run h)
  refine ⟨⟨hrun, hsource, hprint⟩, ?_, ?_, ?_, ?_, ?_, document.reindent?_eq .., ?_, ?_⟩
  · rw [hback, hmoved]
    exact content_root_there_and_back hs hfits next after
  · rw [hback, hmoved]
    exact reflowText_convert_convert hs false document.trailing fun run h => hfits run (Or.inr h)
  · rw [hback, hmoved]
    rfl
  · rw [hback, hmoved]
    rfl
  · rw [hback, hmoved]
    rfl
  · rw [print?_eq, hthere, hprint]
  · rw [reindent?_eq, hagain]

end Back

set_option maxRecDepth 100000 in
-- Six columns are a level of four and two more, which is less than a level of three. A run before a
-- carriage return is not indentation and stays.
theorem reindent_reindent_sampleNames :
    let document := sampleNames ["", "\n\t  ", "\n \r\n    "]
    let moved := (document.reindent (.spaces 4) (.tabs 3) 0).1
    let back := (moved.reindent (.tabs 3) (.spaces 4) 9).1
    moved.print (.tabs 3) = moved.source ∧
      moved.source.toList = "x\n\t  x\n \r\n\tx".toList ∧
      back.root.tokens = [⟨"", "x"⟩, ⟨"\n      ", "x"⟩, ⟨"\n \r\n    ", "x"⟩] := by
  intro document moved back
  have hlines : ∀ line ∈ document.layout,
      (Indentation.spaces 4).Fits (.tabs 3) line.indentation := by decide
  have hfits := (document.forall_layout (P := fun run =>
    (Indentation.spaces 4).Fits (.tabs 3) run) (by decide)).mp hlines
  obtain ⟨⟨-, hsource, hprint⟩, hback, -⟩ :=
    reindent_reindent (by decide) (by decide) document hfits 0 9
  refine ⟨hprint, hsource.trans (by decide), ?_⟩
  rw [Node.tokens_eq_of_content hback]
  decide

/-! ## Moving within one style -/

/-- A document that is moved within its style need not be moved. It is printed as before, and where
it could not be printed the move stops. What it holds then is what is printed, which may differ from
what it held. -/
theorem print_reindentTokens_self :
    (∀ (style : Indentation) (document : Document) (next : NodeId),
      (document.reindent style style next).1 = document ∧
        (document.reindentTokens style style next).1.print style = document.print style ∧
        (document.reindentTokens style style next).1.source = document.print style ∧
        (document.reindentTokens? style style next).bind (·.1.print? style) =
          document.print? style) ∧
    ∃ (style : Indentation) (document : Document) (next : NodeId),
      (document.reindentTokens style style next).1.source ≠ document.source := by
  have hself (style : Indentation) : style.convert style = style.render :=
    funext style.convert_self
  have hsource (style : Indentation) (document : Document) (next : NodeId) :
      (document.reindentTokens style style next).1.source = document.print style := by
    rw [← String.toList_inj, toList_source, reflowed_reindentTokens, hself, Function.id_comp,
      toList_print]
  have hprint (style : Indentation) (document : Document) (next : NodeId) :
      (document.reindentTokens style style next).1.print style = document.print style := by
    have hagain : style.render ∘ style.render = style.render := funext style.render_render
    rw [← String.toList_inj, toList_print, reflowed_reindentTokens, hself, hagain, toList_print]
  refine ⟨fun style document next => ⟨?_, hprint style document next,
    hsource style document next, ?_⟩, .spaces 4, sampleNames ["\n\t"], 0, ?_⟩
  · rw [reindent, if_pos rfl]
  · have hruns : (document.reindentTokens style style next).1.runs.all style.canRender =
        document.runs.all style.canRender :=
      all_runs_reindentTokens style style document next style.canRender_nil style.canRender_nil
        fun run _ => by rw [style.convert_self, style.canRender_render]
    rw [reindentTokens?_eq, print?_eq, all_printing_eq,
      show style.canConvert style = style.canRender from funext style.canConvert_self]
    split
    · next hwritable =>
      rw [Option.bind_some, print?_eq, all_printing_eq, hruns, if_pos hwritable, hprint]
    · rfl
  · rw [hsource]
    decide

end Document

/-! ## Order on the page -/

namespace Indentation

/-- How far moving a document keeps its lines in order. A run is printed with the columns that
converting gives it. A deeper run lands at most as many columns to the left as a level of `source`
is wider than one of `target`, less one. It lands no further to the left at all when both runs have
the same whole levels, or when the other one has at most a level of `target` past them. So order is
always kept between the styles where a level is at most one column narrower in `target`, and between
no others. A run is converted where its levels can be written in `target`. -/
theorem widthOf_convert_order (source target : Indentation) (hs : source.tabWidth ≠ 0) :
    (∀ (document : Document) (next : NodeId),
      ((document.reindent source target next).1.print target).toList =
        document.reflowed (target.render ∘ source.convert target)) ∧
    (∀ run, target.widthOf (target.render (source.convert target run)) =
      target.widthOf (source.convert target run)) ∧
    (∀ shallow deep, source.widthOf shallow ≤ source.widthOf deep →
      target.widthOf (source.convert target shallow) ≤
          target.widthOf (source.convert target deep) +
            (source.tabWidth.toNat - 1 - target.tabWidth.toNat) ∧
        (source.level shallow = source.level deep ∨
            source.extra shallow ≤ target.tabWidth.toNat →
          target.widthOf (source.convert target shallow) ≤
            target.widthOf (source.convert target deep))) ∧
    (source.KeepsOrder target ↔ source.tabWidth.toNat ≤ target.tabWidth.toNat + 1) ∧
    ∀ run, source.convert? target run =
      if (target.levels (source.level run) (source.extra run)).isWritable then
        some (source.convert target run)
      else none := by
  refine ⟨fun document next => document.toList_print_reindent source target next,
    fun run => target.widthOf_render _, fun shallow deep hle => ?_,
    ⟨le_of_keepsOrder hs, keepsOrder_of_le hs⟩,
    fun run => by rw [convert?_eq, canConvert_eq hs]⟩
  rw [widthOf_convert hs, widthOf_convert hs]
  refine ⟨capped_le_add (movedWidth_le_add target hle hs), ?_⟩
  rintro (hlevel | hextra)
  · exact capped_mono (movedWidth_le_of_level_eq target hle hlevel)
  · exact capped_mono (movedWidth_le_of_extra_le target hle hextra)

theorem widthOf_convert_order_narrower :
    (spaces 3).KeepsOrder (spaces 2) ∧ ¬ (spaces 4).KeepsOrder (spaces 2) ∧
      (spaces 2).widthOf ((spaces 8).convert (spaces 2) (List.replicate 6 ' ')) ≤
        (spaces 2).widthOf ((spaces 8).convert (spaces 2) ['\t']) + 5 := by
  have hone := widthOf_convert_order (spaces 3) (spaces 2) (by decide)
  have htwo := widthOf_convert_order (spaces 4) (spaces 2) (by decide)
  have hsix := widthOf_convert_order (spaces 8) (spaces 2) (by decide)
  refine ⟨hone.2.2.2.1.mpr (by decide), fun h => ?_, ?_⟩
  · exact absurd (htwo.2.2.2.1.mp h) (by decide)
  · exact (hsix.2.2.1 (List.replicate 6 ' ') ['\t'] (by decide)).1

end Indentation

end Graft
