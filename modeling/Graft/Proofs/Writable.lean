import Graft.Proofs.Reindenting
import Graft.Proofs.Rendering
import Graft.Proposal

/-! # What can be written

Rendering and converting a run stop the tool when the layout of the run cannot be written, and all
that is made of runs stops with them. At every level this comes to one test of the layouts: if all
of them can be written then the result is that of the functions that know of no limit, and otherwise
there is none.
-/

namespace Graft

theorem mapM_eq_ite {α β : Type} {f? : α → Option β} {f : α → β} {ok : α → Bool}
    (h : ∀ a, f? a = if ok a then some (f a) else none) (l : List α) :
    l.mapM f? = if l.all ok then some (l.map f) else none := by
  induction l with
  | nil => rfl
  | cons a l ih =>
    rw [List.mapM_cons, h, ih]
    by_cases ha : ok a = true <;> by_cases hl : l.all ok = true <;> simp [ha, hl]

namespace Indentation

variable (style target : Indentation) (run : List Char)

def canRender : Bool :=
  (style.rendering? run).all (·.isWritable)

def canConvert : Bool :=
  (style.conversion? target run).all (·.isWritable)

theorem text?_eq (l? : Option Layout) :
    (match l? with
      | some l => l.text?
      | none => some run) =
      if l?.all (·.isWritable) then
        some (match l? with
          | some l => l.text
          | none => run)
      else none := by
  cases l? <;> rfl

theorem render?_eq :
    style.render? run = if style.canRender run then some (style.render run) else none :=
  text?_eq run (style.rendering? run)

theorem convert?_eq :
    style.convert? target run =
      if style.canConvert target run then some (style.convert target run) else none :=
  text?_eq run (style.conversion? target run)

/-! ## Layouts by their length -/

variable {style target run}

theorem Layout.isWritable_iff {l : Layout} :
    l.isWritable = true ↔ l.tabs ≤ Text.sizeMax ∧ l.spaces ≤ Text.sizeMax := by
  simp [isWritable]

theorem Layout.isWritable_of_length {l : Layout} (h : l.text.length ≤ Text.sizeMax) :
    l.isWritable = true := by
  rw [text, List.length_append, List.length_replicate, List.length_replicate] at h
  exact isWritable_iff.mpr ⟨by omega, by omega⟩

theorem all_isWritable_of_length {l? : Option Layout}
    (h : (match l? with
      | some l => l.text
      | none => run).length ≤ Text.sizeMax) :
    l?.all (·.isWritable) = true := by
  cases l? with
  | none => rfl
  | some l => exact Layout.isWritable_of_length h

theorem canRender_of_length (h : (style.render run).length ≤ Text.sizeMax) :
    style.canRender run = true :=
  all_isWritable_of_length h

theorem canConvert_of_length (h : (style.convert target run).length ≤ Text.sizeMax) :
    style.canConvert target run = true :=
  all_isWritable_of_length h

@[simp] theorem canRender_nil (style : Indentation) : style.canRender [] = true :=
  canRender_of_length (by simp)

@[simp] theorem canConvert_nil (style target : Indentation) : style.canConvert target [] = true :=
  canConvert_of_length (by simp)

end Indentation

/-! ## Trivia -/

namespace Trivia

theorem runOf?_eq (closes : Bool) (line : List Char) :
    (runOf? closes line).toList =
      [(layoutLine closes line).indentation].filter (!·.isEmpty) := by
  unfold runOf? layoutLine
  by_cases h : indents closes (line.dropWhile Text.isBlank)
  · by_cases hempty : (line.takeWhile Text.isBlank).isEmpty <;> simp [h, hempty]
  · simp [h, Line.plain]

theorem runsOf_eq (beforeToken : Bool) (ls : List (List Char)) :
    runsOf beforeToken ls =
      ((layoutLines beforeToken ls).map (·.indentation)).filter (!·.isEmpty) := by
  fun_induction runsOf beforeToken ls with
  | case1 => rfl
  | case2 line => rw [runOf?_eq, layoutLines, List.map_cons, List.map_nil]
  | case3 line below hne ih =>
    rw [ih, runOf?_eq, layoutLines, List.map_cons, ← List.filter_append, List.singleton_append]
    exact hne

theorem runs_eq (beforeToken : Bool) (trivia : List Char) :
    runs beforeToken trivia =
      ((layout beforeToken trivia).map (·.indentation)).filter (!·.isEmpty) := by
  obtain ⟨first, below, h⟩ := Text.exists_lines_eq_cons trivia
  simp [runs, layout, h, runsOf_eq, Line.plain]

theorem forall_runs {P : List Char → Prop} (hnil : P []) (beforeToken : Bool)
    (trivia : List Char) :
    (∀ run ∈ runs beforeToken trivia, P run) ↔
      ∀ run, IsIndentation beforeToken trivia run → P run := by
  rw [← forall_layout hnil, runs_eq]
  constructor
  · intro h line hline
    by_cases hempty : line.indentation = []
    · rwa [hempty]
    · exact h _ (List.mem_filter.mpr ⟨List.mem_map_of_mem hline, by simpa using hempty⟩)
  · intro h run hrun
    obtain ⟨line, hline, rfl⟩ := List.mem_map.mp (List.mem_of_mem_filter hrun)
    exact h line hline

variable {f : List Char → List Char} {f? : List Char → Option (List Char)}
variable {ok : List Char → Bool}

theorem reflowLines?_cons (beforeToken : Bool) (line : List Char) {below : List (List Char)}
    (h : below ≠ []) :
    reflowLines? f? beforeToken (line :: below) =
      match reflowLine? f? false line, reflowLines? f? beforeToken below with
      | some first, some others => some (first :: others)
      | _, _ => none := by
  cases below with
  | nil => exact absurd rfl h
  | cons second below => rfl

section

variable (hf : ∀ run, f? run = if ok run then some (f run) else none) (hnil : f [] = [])
include hf hnil

theorem reflowLine?_eq (closes : Bool) (line : List Char) :
    reflowLine? f? closes line =
      if (runOf? closes line).all ok then some (reflowLine f closes line) else none := by
  have hline : line.takeWhile Text.isBlank ++ line.dropWhile Text.isBlank = line :=
    List.takeWhile_append_dropWhile
  unfold reflowLine? runOf? reflowLine
  dsimp only
  cases hindents : indents closes (line.dropWhile Text.isBlank) with
  | false => simp [hline]
  | true =>
    cases hrun : line.takeWhile Text.isBlank with
    | nil =>
      rw [hrun] at hline
      simpa [hnil] using hline.symm
    | cons c cs => cases hok : ok (c :: cs) <;> simp [hf, hok]

theorem reflowLines?_eq (beforeToken : Bool) (ls : List (List Char)) :
    reflowLines? f? beforeToken ls =
      if (runsOf beforeToken ls).all ok then some (reflowLines f beforeToken ls) else none := by
  fun_induction runsOf beforeToken ls with
  | case1 => rfl
  | case2 line =>
    rw [reflowLines?, reflowLines, reflowLine?_eq hf hnil]
    cases runOf? beforeToken line with
    | none => rfl
    | some run => cases hok : ok run <;> simp [hok]
  | case3 line below hne ih =>
    have hbelow : below ≠ [] := by simpa using hne
    rw [reflowLines?_cons _ _ hbelow, reflowLines_cons _ _ hbelow, reflowLine?_eq hf hnil, ih,
      List.all_append]
    cases hrest : (runsOf beforeToken below).all ok <;> cases runOf? false line with
    | none => simp
    | some run => cases hok : ok run <;> simp [hok]

theorem reflow?_eq (beforeToken : Bool) (trivia : List Char) :
    reflow? f? beforeToken trivia =
      if (runs beforeToken trivia).all ok then some (reflow f beforeToken trivia) else none := by
  unfold reflow? runs reflow
  cases Text.lines trivia with
  | nil => rfl
  | cons first below =>
    dsimp only [List.tail_cons]
    rw [reflowLines?_eq hf hnil]
    by_cases hbelow : (runsOf beforeToken below).all ok = true <;> simp [hbelow]

theorem reflowText?_eq (beforeToken : Bool) (trivia : String) :
    reflowText? f? beforeToken trivia =
      if (runs beforeToken trivia.toList).all ok then some (reflowText f beforeToken trivia)
      else none := by
  rw [reflowText?, reflow?_eq hf hnil]
  split <;> rfl

end

end Trivia

/-! ## Trees -/

namespace Rebuild

variable {f : Token → Token} {f? : Token → Option Token} {ok : Token → Bool}

theorem run?_of_child {frame : Frame} {child : Node} (below : List Frame)
    (h : frame.node.children[frame.done.size]? = some child) :
    run? f? frame below = run? f? (.start child) (frame :: below) := by
  rw [run?.eq_def f? frame below]
  split
  · next other hother =>
    rw [h] at hother
    cases hother
    rfl
  · next hnone => simp [h] at hnone

theorem run?_of_done {frame : Frame} (below : List Frame)
    (h : frame.node.children[frame.done.size]? = none) :
    run? f? frame below =
      match frame.finish? f?, below with
      | none, _ => none
      | some copy, [] => some copy
      | some copy, parent :: rest => run? f? (parent.push copy) rest := by
  rw [run?.eq_def f? frame below]
  split
  · next child hchild => simp [h] at hchild
  · rfl

theorem finish?_eq (hf : ∀ token, f? token = if ok token then some (f token) else none)
    (frame : Frame) :
    frame.finish? f? = if frame.node.token.toList.all ok then some (frame.finish f) else none := by
  unfold Frame.finish? Frame.finish
  cases frame.node.token with
  | none => rfl
  | some token => cases hok : ok token <;> simp [hf, hok]

-- As for `run_child` and `run_frame`: the copies are the same ones, and there are none when a token
-- has no result.
mutual
theorem run?_child (hf : ∀ token, f? token = if ok token then some (f token) else none)
    (parent : Frame) (rest : List Frame) : ∀ child : Node,
    parent.node.children[parent.done.size]? = some child →
      run? f? parent rest =
        if child.tokens.all ok then run? f? (parent.push (child.mapTokens f)) rest else none
  | ⟨id, category, grammar, token, children⟩, hchild => by
    rw [run?_of_child rest hchild, run?_frame hf (.start _) (parent :: rest) children rfl,
      run?_of_done _ (extend_start_done f ⟨id, category, grammar, token, children⟩), finish?_eq hf,
      finish_extend_start f ⟨id, category, grammar, token, children⟩, Node.tokens_eq,
      List.all_append]
    by_cases htoken : token.toList.all ok = true <;>
      by_cases hchildren : (children.flatMap Node.tokens).all ok = true <;>
        simp [Frame.extend, Frame.start, htoken, hchildren]

theorem run?_frame (hf : ∀ token, f? token = if ok token then some (f token) else none)
    (frame : Frame) (rest : List Frame) : ∀ nodes : List Node,
    frame.node.children.drop frame.done.size = nodes →
      run? f? frame rest =
        if (nodes.flatMap Node.tokens).all ok then
          run? f? (frame.extend (Node.mapTokensAll f nodes)) rest
        else none
  | [], _ => by simp [Node.mapTokensAll, Frame.extend]
  | child :: nodes, hdrop => by
    obtain ⟨hchild, htail⟩ := next_child f hdrop
    rw [run?_child hf frame rest child hchild, run?_frame hf _ rest nodes htail, extend_push,
      Node.mapTokensAll, List.flatMap_cons, List.all_append]
    cases child.tokens.all ok <;> simp
end

end Rebuild

theorem Node.rebuild?_eq {f : Token → Token} {f? : Token → Option Token} {ok : Token → Bool}
    (hf : ∀ token, f? token = if ok token then some (f token) else none) (node : Node) :
    node.rebuild? f? = if node.tokens.all ok then some (node.rebuild f) else none := by
  have hroot := Rebuild.run?_frame hf (.start node) [] node.children rfl
  rw [Node.rebuild?, hroot, Rebuild.run?_of_done _ (Rebuild.extend_start_done f node),
    Rebuild.finish?_eq hf, Rebuild.finish_extend_start, Node.rebuild_eq_mapTokens, Node.tokens_eq,
    List.all_append]
  by_cases htoken : node.token.toList.all ok = true <;>
    by_cases hchildren : (node.children.flatMap tokens).all ok = true <;>
      simp [Rebuild.Frame.extend, Rebuild.Frame.start, htoken, hchildren]

/-! ## Documents -/

theorem Token.printed?_eq (style : Indentation) (token : Token) :
    token.printed? style =
      if (Trivia.runs true token.leading.toList).all style.canRender then
        some (token.printed style)
      else none := by
  rw [Token.printed?, Trivia.reflowText?_eq style.render?_eq style.render_nil]
  split <;> rfl

theorem Token.reindent?_eq (source target : Indentation) (token : Token) :
    token.reindent? source target =
      if (Trivia.runs true token.leading.toList).all (source.canConvert target) then
        some (token.reindent source target)
      else none := by
  rw [Token.reindent?,
    Trivia.reflowText?_eq (source.convert?_eq target) (source.convert_nil target)]
  split <;> rfl

namespace Document

variable (source target style : Indentation) (document : Document) (next : NodeId)

theorem all_runs (ok : List Char → Bool) :
    document.runs.all ok =
      (document.root.tokens.all (fun token => (Trivia.runs true token.leading.toList).all ok) &&
        (Trivia.runs false document.trailing.toList).all ok) := by
  rw [runs, List.all_append, List.all_flatMap]

section

variable {P : List Char → Prop} (hnil : P [])
include hnil

theorem forall_runs (document : Document) :
    (∀ run ∈ document.runs, P run) ↔ ∀ run, document.IsIndentation run → P run := by
  constructor
  · rintro h run (⟨token, htoken, hrun⟩ | hrun)
    · refine (Trivia.forall_runs hnil true _).mp (fun other hother => h other ?_) run hrun
      exact List.mem_append_left _ (List.mem_flatMap.mpr ⟨token, htoken, hother⟩)
    · refine (Trivia.forall_runs hnil false _).mp (fun other hother => h other ?_) run hrun
      exact List.mem_append_right _ hother
  · intro h run hrun
    rcases List.mem_append.mp hrun with hrun | hrun
    · obtain ⟨token, htoken, hrun⟩ := List.mem_flatMap.mp hrun
      exact (Trivia.forall_runs hnil true _).mpr
        (fun other hother => h other (Or.inl ⟨token, htoken, hother⟩)) run hrun
    · exact (Trivia.forall_runs hnil false _).mpr (fun other hother => h other (Or.inr hother)) run
        hrun

end

theorem all_printing_eq :
    (document.printing style).all (·.isWritable) = document.runs.all style.canRender := by
  rw [printing, List.all_filterMap]
  rfl

theorem all_conversions :
    (document.runs.filterMap (source.conversion? target)).all (·.isWritable) =
      document.runs.all (source.canConvert target) := by
  rw [List.all_filterMap]
  rfl

theorem print?_eq :
    document.print? style =
      if (document.printing style).all (·.isWritable) then some (document.print style)
      else none := by
  rw [print?, mapM_eq_ite (Token.printed?_eq style),
    Trivia.reflowText?_eq style.render?_eq style.render_nil, all_printing_eq, all_runs]
  cases document.root.tokens.all _ <;> cases (Trivia.runs false _).all _ <;> rfl

variable {style document} in
/-- Printing stops only where there is no room for the printed text. -/
theorem print?_of_size (h : (document.print style).utf8ByteSize ≤ Text.sizeMax) :
    document.print? style = some (document.print style) := by
  have hlength := (Text.length_le_utf8ByteSize _).trans h
  rw [toList_print] at hlength
  have hruns : ∀ run ∈ document.runs, style.canRender run = true :=
    (forall_runs style.canRender_nil document).mpr fun run hrun =>
      Indentation.canRender_of_length ((length_run_le style.writesBlanks_render hrun).trans hlength)
  rw [print?_eq, all_printing_eq, if_pos (List.all_eq_true.mpr hruns)]

theorem reindentTokens?_eq :
    document.reindentTokens? source target next =
      if document.runs.all (source.canConvert target) then
        some (document.reindentTokens source target next)
      else none := by
  rw [reindentTokens?, Node.rebuild?_eq (Token.reindent?_eq source target),
    Trivia.reflowText?_eq (source.convert?_eq target) (source.convert_nil target), all_runs]
  cases document.root.tokens.all _ <;> cases (Trivia.runs false _).all _ <;> rfl

theorem reindent?_eq :
    document.reindent? source target next =
      if (document.moving source target).all (·.isWritable) then
        some (document.reindent source target next)
      else none := by
  unfold reindent? reindent moving
  by_cases h : source = target
  · simp [h]
  · rw [if_neg h, if_neg h, if_neg h, reindentTokens?_eq, all_conversions]

end Document

/-! ## Patches -/

namespace Options

variable (options : Options) (parser : Parser) (base proposed : String)

theorem patchDocument?_eq (style : Indentation) (old new : Document) (next : NodeId) :
    options.patchDocument? style old new next =
      if ((old.graft (old.diff new).value next).document.printing style).all (·.isWritable) then
        some (options.patchDocument style old new next)
      else none := by
  unfold patchDocument? patchDocument
  dsimp only
  rw [Document.print?_eq]
  split <;> rfl

theorem patch?_eq :
    options.patch? parser base proposed =
      if (options.layouts parser base proposed).all (·.isWritable) then
        some (options.patch parser base proposed)
      else none := by
  unfold patch? documents? layouts patch documents
  cases options.parseBoth parser base proposed with
  | error refusal => rfl
  | ok both =>
    obtain ⟨old, new, after⟩ := both
    dsimp only
    rw [Document.reindent?_eq]
    by_cases hmoving : (new.moving (Indentation.detect proposed)
        (options.indentationFor base)).all (·.isWritable) = true
    · simp only [hmoving, if_true, Option.map_some, patchDocument?_eq, List.all_append,
        Bool.true_and]
      split <;> rfl
    · simp [hmoving]

variable {options parser base proposed} in
theorem layouts_of_error {refusal : Refusal}
    (h : options.parseBoth parser base proposed = .error refusal) :
    options.layouts parser base proposed = [] := by
  rw [layouts, h]

variable {options parser base proposed} in
theorem all_layouts {old new : Document} {after : NodeId}
    (h : options.parseBoth parser base proposed = .ok (old, new, after)) :
    let source := Indentation.detect proposed
    let style := options.indentationFor base
    let moved := new.reindent source style after
    let patched := (old.graft (old.diff moved.1).value moved.2).document
    (options.layouts parser base proposed).all (·.isWritable) = true ↔
      (new.moving source style).all (·.isWritable) = true ∧
        (patched.printing style).all (·.isWritable) = true := by
  intro source style moved patched
  rw [layouts, h]
  dsimp only
  split
  · next hmoving => simp [hmoving, source, style, moved, patched]
  · next hmoving => simp [hmoving, source, style]

theorem answer?_eq :
    options.answer? parser base (.text proposed) =
      if (options.layouts parser base proposed).all (·.isWritable) then
        some (options.answer parser base (.text proposed))
      else none := by
  rw [answer?, patch?_eq, answer]
  split <;> rfl

end Options

end Graft
