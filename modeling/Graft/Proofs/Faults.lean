import Graft.Proofs.Stability

/-! # Texts that are refused

A text is refused when its file has no language, or when faults are not allowed and its concrete
tree has one, be it below a comment or another extra node. Two searches look for faults, in two
orders and one of them only for the first that it meets. Both find what the preorder holds.
-/

namespace Graft

namespace Concrete

/-! ## The two searches -/

theorem any_preorderAll_reverse (test : Concrete → Bool) (nodes : List Concrete) :
    (preorderAll nodes.reverse).any test = (preorderAll nodes).any test := by
  simp only [preorderAll_eq_flatMap, List.any_flatMap, List.any_reverse]

theorem preorderAll_cons_eq (node : Concrete) (rest : List Concrete) :
    preorderAll (node :: rest) = node :: preorderAll (node.children ++ rest) := by
  rw [preorderAll, preorder_eq, preorderAll_append, ← preorderAll_eq_flatMap, List.cons_append]

/-- The search with an early end looks at the nodes in another order, and misses none. -/
theorem searchFault_eq (waiting : List Concrete) :
    searchFault waiting = (preorderAll waiting).any (·.isFault) := by
  fun_induction searchFault waiting with
  | case1 => rfl
  | case2 node rest ih =>
    simp only [List.unattach_reverse, List.unattach_attach] at ih
    rw [ih, preorderAll_cons_eq, List.any_cons, preorderAll_append, preorderAll_append,
      List.any_append, List.any_append, any_preorderAll_reverse]

theorem toList_collectFaults (source : String) (found : Array Fault) (waiting : List Concrete) :
    (collectFaults source found waiting).toList =
      found.toList ++
        ((preorderAll waiting).filter (·.isFault)).map (Fault.ofConcrete source) := by
  fun_induction collectFaults source found waiting with
  | case1 found => simp [preorderAll]
  | case2 found node rest ih =>
    simp only [dite_eq_ite] at ih
    rw [ih, preorderAll_cons_eq, List.filter_cons]
    split
    · rw [Array.toList_push, List.map_cons, List.append_assoc, List.singleton_append]
    · rfl

theorem preorderAll_singleton (root : Concrete) : preorderAll [root] = root.preorder := by
  rw [preorderAll, preorderAll, List.append_nil]

theorem hasFault_iff (root : Concrete) :
    root.hasFault = true ↔ ∃ node ∈ root.preorder, node.isFault = true := by
  rw [hasFault, searchFault_eq, preorderAll_singleton, List.any_eq_true]

theorem faults_eq (source : String) (root : Concrete) :
    root.faults source = (root.preorder.filter (·.isFault)).map (Fault.ofConcrete source) := by
  rw [faults, toList_collectFaults, preorderAll_singleton, List.nil_append]

theorem faults_ne_nil_iff (source : String) (root : Concrete) :
    root.faults source ≠ [] ↔ ∃ node ∈ root.preorder, node.isFault = true := by
  simp [faults_eq]

theorem faults_eq_cons {source : String} {root : Concrete} {first : Fault} {rest : List Fault}
    (h : root.faults source = first :: rest) :
    rest.length + 1 = root.preorder.countP (·.isFault) ∧
      ∃ node, root.preorder.find? (·.isFault) = some node ∧
        first = Fault.ofConcrete source node := by
  rw [faults_eq] at h
  obtain ⟨node, others, hfilter, hnode, -⟩ := List.map_eq_cons_iff.mp h
  refine ⟨?_, node, ?_, hnode.symm⟩
  · rw [List.countP_eq_length_filter, ← List.length_map (Fault.ofConcrete source), h,
      List.length_cons]
  · rw [← List.head?_filter, hfilter, List.head?_cons]

/-! ## Places in the text -/

/-- A node whose children lie in its range, one after the other. -/
structure Nested (node : Concrete) : Prop where
  forward : node.start ≤ node.stop
  within : ∀ child ∈ node.children, node.start ≤ child.start ∧ child.stop ≤ node.stop
  apart : node.children.Pairwise fun child next => child.stop ≤ next.start

instance (node : Concrete) : Decidable node.Nested :=
  decidable_of_iff (node.start ≤ node.stop ∧
      (∀ child ∈ node.children, node.start ≤ child.start ∧ child.stop ≤ node.stop) ∧
      node.children.Pairwise fun child next => child.stop ≤ next.start)
    ⟨fun h => ⟨h.1, h.2.1, h.2.2⟩, fun h => ⟨h.forward, h.within, h.apart⟩⟩

def IsNested (root : Concrete) : Prop :=
  ∀ node ∈ root.preorder, node.Nested

instance (root : Concrete) : Decidable root.IsNested :=
  inferInstanceAs (Decidable (∀ node ∈ root.preorder, node.Nested))

@[simp] theorem self_mem_preorder (node : Concrete) : node ∈ node.preorder := by
  rw [preorder_eq]
  exact List.mem_cons_self

theorem preorder_subset_of_child {node child : Concrete} (h : child ∈ node.children) :
    child.preorder ⊆ node.preorder := by
  intro other hother
  rw [preorder_eq node]
  exact List.mem_cons_of_mem _ (List.mem_flatMap.mpr ⟨child, h, hother⟩)

theorem IsNested.child {node child : Concrete} (h : node.IsNested)
    (hchild : child ∈ node.children) :
    child.IsNested :=
  fun other hother => h other (preorder_subset_of_child hchild hother)

theorem sizeOf_lt_of_child {node child : Concrete} (h : child ∈ node.children) :
    sizeOf child < sizeOf node := by
  have hlt := List.sizeOf_lt_of_mem h
  cases node
  simp only at hlt
  simp only [Concrete.mk.sizeOf_spec]
  omega

theorem IsNested.start_mem {root : Concrete} (h : root.IsNested) {node : Concrete}
    (hnode : node ∈ root.preorder) : root.start ≤ node.start ∧ node.start ≤ root.stop := by
  have hroot := h root root.self_mem_preorder
  rw [preorder_eq, List.mem_cons, List.mem_flatMap] at hnode
  obtain rfl | ⟨child, hchild, hbelow⟩ := hnode
  · exact ⟨le_rfl, hroot.forward⟩
  · have hinside := (h.child hchild).start_mem hbelow
    have hrange := hroot.within child hchild
    exact ⟨hrange.1.trans hinside.1, hinside.2.trans hrange.2⟩
termination_by sizeOf root
decreasing_by exact sizeOf_lt_of_child hchild

/-- In a nested tree the preorder goes forward in the text. -/
theorem IsNested.pairwise_start {root : Concrete} (h : root.IsNested) :
    root.preorder.Pairwise fun node later => node.start ≤ later.start := by
  have hroot := h root root.self_mem_preorder
  rw [preorder_eq, List.pairwise_cons, List.pairwise_flatMap]
  refine ⟨fun node hnode => ?_, fun child hchild => (h.child hchild).pairwise_start, ?_⟩
  · exact (h.start_mem (by rw [preorder_eq]; exact List.mem_cons_of_mem _ hnode)).1
  · refine hroot.apart.imp_of_mem
      fun {child next} hchild hnext happart node hnode later hlater => ?_
    -- What starts in a child starts before the next child does.
    have hbefore := ((h.child hchild).start_mem hnode).2
    have hafter := ((h.child hnext).start_mem hlater).1
    exact hbefore.trans (happart.trans hafter)
termination_by sizeOf root
decreasing_by exact sizeOf_lt_of_child hchild

theorem IsNested.find?_start_le {root : Concrete} (h : root.IsNested) {test : Concrete → Bool}
    {first node : Concrete} (hfirst : root.preorder.find? test = some first)
    (hnode : node ∈ root.preorder) (htest : test node = true) : first.start ≤ node.start := by
  have hsorted := h.pairwise_start.filter test
  have hmem : node ∈ root.preorder.filter test := List.mem_filter.mpr ⟨hnode, htest⟩
  rw [← List.head?_filter] at hfirst
  obtain ⟨rest, hfilter⟩ := List.head?_eq_some_iff.mp hfirst
  rw [hfilter] at hsorted hmem
  rcases List.mem_cons.mp hmem with rfl | hrest
  · exact le_rfl
  · exact (List.pairwise_cons.mp hsorted).1 node hrest

end Concrete

theorem Document.hasFaults_ofConcrete (file : String) (language : Language) (source : String)
    (concrete : Concrete) (next : NodeId) :
    (ofConcrete file language source concrete next).1.hasFaults = concrete.hasFault := by
  rw [Bool.eq_iff_iff, concrete.hasFault_iff, ← concrete.faults_ne_nil_iff source]
  simp [hasFaults, ofConcrete]

namespace Options

/-! ## One text -/

/-- A text that is refused, on whichever side it stands. -/
def Refuses (options : Options) (parser : Parser) (text : String) : Prop :=
  (∃ e, Language.detect options.file = .error e) ∨
    options.allowFaults = false ∧ ∃ language, Language.detect options.file = .ok language ∧
      ∃ node ∈ (parser language text).preorder, node.isFault = true

/-- What a refusal reports of the text of its side. -/
inductive Reports (options : Options) (parser : Parser) (side : Side) (text : String) :
    Refusal → Prop where
  | language (e : LanguageError) (hlanguage : Language.detect options.file = .error e) :
    Reports options parser side text (.language side e)
  /-- All faults are counted, and the first is that of the first node in preorder. Where the tree is
  nested, no other fault starts before it. -/
  | faults (language : Language) (first : Concrete)
    (hlanguage : Language.detect options.file = .ok language)
    (hallowed : options.allowFaults = false)
    (hfirst : (parser language text).preorder.find? (·.isFault) = some first)
    (hstart : (parser language text).IsNested →
      ∀ node ∈ (parser language text).preorder, node.isFault = true → first.start ≤ node.start) :
    Reports options parser side text
      (.faults side ((parser language text).preorder.countP (·.isFault))
        (Fault.ofConcrete text first))

variable {options : Options} {parser : Parser}

theorem reports_of_parse {side : Side} {text : String} {next : NodeId} {refusal : Refusal}
    (h : options.parse parser side text next = .error refusal) :
    options.Reports parser side text refusal := by
  unfold Options.parse Document.parse at h
  cases hlanguage : Language.detect options.file with
  | error e =>
    simp only [hlanguage] at h
    cases h
    exact .language e hlanguage
  | ok language =>
    simp only [hlanguage] at h
    split at h
    · next first rest hallowed hfaults =>
      cases h
      obtain ⟨hcount, node, hfirst, rfl⟩ := Concrete.faults_eq_cons hfaults
      rw [hcount]
      exact .faults language node hlanguage hallowed hfirst
        fun hnested _ hmem hfault => hnested.find?_start_le hfirst hmem hfault
    · cases h

theorem refuses_of_reports {side : Side} {text : String} {refusal : Refusal}
    (h : options.Reports parser side text refusal) : options.Refuses parser text := by
  cases h with
  | language e hlanguage => exact Or.inl ⟨e, hlanguage⟩
  | faults language first hlanguage hallowed hfirst _ =>
    exact Or.inr ⟨hallowed, language, hlanguage, first, List.mem_of_find?_eq_some hfirst,
      List.find?_some hfirst⟩

theorem not_refuses_of_parse {side : Side} {text : String} {next : NodeId}
    {parsed : Document × NodeId} (h : options.parse parser side text next = .ok parsed) :
    ¬ options.Refuses parser text := by
  unfold Options.parse Document.parse at h
  rintro (⟨e, hlanguage⟩ | ⟨hallowed, language, hlanguage, hfault⟩)
  · simp [hlanguage] at h
  · obtain ⟨first, rest, hfaults⟩ :=
      List.exists_cons_of_ne_nil ((Concrete.faults_ne_nil_iff text _).mpr hfault)
    simp [hlanguage, hallowed, Document.ofConcrete, hfaults] at h

theorem parse_eq_error_iff (side : Side) (text : String) (next : NodeId) :
    (∃ refusal, options.parse parser side text next = .error refusal) ↔
      options.Refuses parser text := by
  constructor
  · rintro ⟨refusal, h⟩
    exact refuses_of_reports (reports_of_parse h)
  · intro h
    cases hparse : options.parse parser side text next with
    | error refusal => exact ⟨refusal, rfl⟩
    | ok parsed => exact absurd h (not_refuses_of_parse hparse)

/-! ## Both texts -/

theorem parseBoth_cases (options : Options) (parser : Parser) (base proposed : String) :
    (∃ refusal, options.parseBoth parser base proposed = .error refusal ∧
      (options.Reports parser .base base refusal ∨
        ¬ options.Refuses parser base ∧ options.Reports parser .proposed proposed refusal)) ∨
    (∃ both, options.parseBoth parser base proposed = .ok both) ∧
      ¬ options.Refuses parser base ∧ ¬ options.Refuses parser proposed := by
  unfold parseBoth
  cases hbase : options.parse parser .base base 0 with
  | error refusal => exact Or.inl ⟨refusal, rfl, Or.inl (reports_of_parse hbase)⟩
  | ok first =>
    have hfirst := not_refuses_of_parse hbase
    cases hproposed : options.parse parser .proposed proposed first.2 with
    | error refusal =>
      exact Or.inl ⟨refusal, by simp only [hproposed], Or.inr ⟨hfirst, reports_of_parse hproposed⟩⟩
    | ok second =>
      refine Or.inr ⟨?_, hfirst, not_refuses_of_parse hproposed⟩
      simp only [hproposed]
      exact ⟨_, rfl⟩

/-- Refusals. The searches for faults agree on every tree. A patch is refused exactly when one of
the texts is, and so is the request for it. The refusal is that of the base if the base is refused,
and reports its faults; otherwise it is that of the proposal. Nothing stops before it is refused. -/
theorem patch_refused_iff :
    (∀ (file : String) (language : Language) (source : String) (concrete : Concrete)
      (next : NodeId),
      let document := (Document.ofConcrete file language source concrete next).1
      (concrete.hasFault = true ↔ ∃ node ∈ concrete.preorder, node.isFault = true) ∧
        document.hasFaults = concrete.hasFault ∧
        (document.faults ≠ [] ↔ concrete.hasFault = true) ∧
        (concrete.faults source ≠ [] ↔ concrete.hasFault = true)) ∧
    ∀ (options : Options) (parser : Parser) (base proposed : String),
      let patched := (options.patch parser base proposed).value
      (∀ side text next, (∃ refusal, options.parse parser side text next = .error refusal) ↔
        options.Refuses parser text) ∧
      ((∃ refusal, patched = .error refusal) ↔
        options.Refuses parser base ∨ options.Refuses parser proposed) ∧
      (∀ refusal, patched = .error refusal →
        (options.Refuses parser base → options.Reports parser .base base refusal) ∧
        (¬ options.Refuses parser base → options.Reports parser .proposed proposed refusal)) ∧
      ((options.answer parser base (.text proposed)).value.isSuccess = true ↔
        ∃ outcome, patched = .ok outcome) ∧
      (∀ refusal, patched = .error refusal →
        options.patch? parser base proposed = some ⟨.error refusal, []⟩) ∧
      (options.patch? parser base proposed = none ↔
        options.answer? parser base (.text proposed) = none) := by
  refine ⟨fun file language source concrete next => ?_, fun options parser base proposed => ?_⟩
  · have hfaults := concrete.hasFault_iff
    refine ⟨hfaults, Document.hasFaults_ofConcrete file language source concrete next, ?_, ?_⟩
    · exact (concrete.faults_ne_nil_iff source).trans hfaults.symm
    · exact (concrete.faults_ne_nil_iff source).trans hfaults.symm
  · intro patched
    refine ⟨fun side text next => parse_eq_error_iff side text next, ?_⟩
    have hstops : options.patch? parser base proposed = none ↔
        options.answer? parser base (.text proposed) = none := by
      rw [answer?, Option.map_eq_none_iff]
    obtain ⟨refusal, hboth, hreports⟩ | ⟨⟨⟨old, new, after⟩, hboth⟩, hbase, hproposed⟩ :=
      parseBoth_cases options parser base proposed
    · have hpatched : patched = .error refusal := congrArg Logged.value (patch_of_error hboth)
      refine ⟨⟨fun _ => ?_, fun _ => ⟨refusal, hpatched⟩⟩, fun other hother => ?_, ?_,
        fun other hother => ?_, hstops⟩
      · obtain hreports | ⟨-, hreports⟩ := hreports
        · exact Or.inl (refuses_of_reports hreports)
        · exact Or.inr (refuses_of_reports hreports)
      · obtain rfl : refusal = other := Except.error.inj (hpatched.symm.trans hother)
        obtain hreports | ⟨hbase, hreports⟩ := hreports
        · exact ⟨fun _ => hreports, fun hbase => absurd (refuses_of_reports hreports) hbase⟩
        · exact ⟨fun hrefused => absurd hrefused hbase, fun _ => hreports⟩
      · rw [answer, Reply.value_ofPatch_of_error hpatched, hpatched]
        simp [Reply.isSuccess]
      · exact patch?_of_error (parseBoth_of_refused hother)
    · have hpatched : patched = _ := patch_of_documents (documents_of_parseBoth hboth)
      refine ⟨?_, fun other hother => ?_, ?_, fun other hother => ?_, hstops⟩
      · rw [hpatched]
        simp [hbase, hproposed]
      · rw [hpatched] at hother
        cases hother
      · rw [answer, Reply.value_ofPatch_of_ok hpatched, hpatched]
        simp [Reply.isSuccess]
      · rw [hpatched] at hother
        cases hother

/-- A parenthesis too many, which is an extra node, and a semicolon that is missing. -/
def sampleBroken : Concrete :=
  let statement (start stop : Nat) (last : List Concrete) : Concrete :=
    Document.sampleConcrete "expression_statement" start stop false
      (Document.sampleConcrete "identifier" start (start + 1) false [] :: last)
  Document.sampleConcrete "program" 0 6 false
    [statement 0 2 [Document.sampleConcrete ";" 1 2 false []],
      { Document.sampleConcrete "ERROR" 3 4 true [Document.sampleConcrete ")" 3 4 false []] with
        isError := true },
      statement 5 6 [{ Document.sampleConcrete ";" 6 6 false [] with isMissing := true }]]

set_option maxRecDepth 100000 in
-- The extra node is found, and it is the first fault.
theorem patch_refused_sampleBroken :
    let options : Options := { file := "a.ts" }
    let parser : Parser := fun _ text =>
      if text = "a; ) b" then sampleBroken else Document.sampleConcrete "program" 0 0 false []
    sampleBroken.IsNested ∧
      ∃ first, (options.patch parser "" "a; ) b").value = .error (.faults .proposed 2 first) ∧
        first.start = 3 ∧ (options.answer parser "" (.text "a; ) b")).value.isSuccess = false := by
  intro options parser
  have hlanguage : Language.detect options.file = .ok .typescript := by decide +kernel
  have hbase : ¬ options.Refuses parser "" := by
    rintro (⟨e, he⟩ | ⟨-, language, -, node, hnode, hfault⟩)
    · cases hlanguage.symm.trans he
    · have hnone : ∀ node ∈ (Document.sampleConcrete "program" 0 0 false []).preorder,
          node.isFault = false := by decide
      cases (hnone node hnode).symm.trans hfault
  obtain ⟨-, hiff, hreports, hanswer, -⟩ := patch_refused_iff.2 options parser "" "a; ) b"
  have hproposed : options.Refuses parser "a; ) b" :=
    Or.inr ⟨rfl, .typescript, hlanguage, (Concrete.hasFault_iff _).mp (by decide +kernel)⟩
  obtain ⟨refusal, hpatched⟩ := hiff.mpr (Or.inr hproposed)
  refine ⟨by decide +kernel, ?_⟩
  have hsuccess : (options.answer parser "" (.text "a; ) b")).value.isSuccess = false := by
    rw [Bool.eq_false_iff, ne_eq, hanswer, hpatched]
    simp
  cases (hreports refusal hpatched).2 hbase with
  | language e he => cases hlanguage.symm.trans he
  | faults language node _ _ hfirst _ =>
    have hfound : (sampleBroken.preorder.find? (·.isFault)).map (·.start) = some 3 := by
      decide +kernel
    refine ⟨_, hpatched, ?_, hsuccess⟩
    rw [show parser language "a; ) b" = sampleBroken from rfl] at hfirst
    rw [hfirst] at hfound
    exact Option.some.inj hfound

end Options

end Graft
