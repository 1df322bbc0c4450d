import Graft.Proofs.Content

/-! # Rewriting

What a patch means, said by recursion over a tree and without a walk. A node is hit when the first
operation on its anchor replaces bodies and the node is a function with a body. A node that is hit
gets its new body and nothing inside it changes. Every other node is rewritten child by child.
-/

namespace Graft

/-- The first operation on an anchor in the order of the list, with its position. -/
def Patch.first? (operations : List Operation) (anchor : Anchor) : Option (Operation × Nat) :=
  operations.zipIdx.find? (·.1.target == anchor)

/-- A body that is to be replaced. -/
structure Hit where
  /-- The position of the body among the children. -/
  index : Nat
  body : Node
  operation : Nat

/-- A place in a tree: the positions of the children on the way down from the root. -/
abbrev Position := List Nat

structure Site where
  position : Position
  hit : Hit

namespace Site

/-- The same place, seen from the parent of the tree. -/
def under (index : Nat) (site : Site) : Site :=
  ⟨index :: site.position, site.hit⟩

def body (site : Site) : Position :=
  site.position ++ [site.hit.index]

end Site

namespace Node

variable (operations : List Operation)

def hit? (node : Node) : Option Hit :=
  match Patch.first? operations node.anchor, node.category.body? with
  | some (.replaceBody _ body, operation), some index =>
    if index < node.children.length then some ⟨index, body, operation⟩ else none
  | _, _ => none

mutual
/-- The tree with the operations put in. -/
def rewrite : Node → Node
  | ⟨id, category, grammar, token, children⟩ =>
    match hit? operations ⟨id, category, grammar, token, children⟩ with
    | some hit => ⟨id, category, grammar, token, children.set hit.index hit.body.block⟩
    | none => ⟨id, category, grammar, token, rewriteAll children⟩

def rewriteAll : List Node → List Node
  | [] => []
  | node :: rest => rewrite node :: rewriteAll rest
end

mutual
/-- The nodes that are rewritten, in preorder. -/
def sites : Node → List Site
  | ⟨id, category, grammar, token, children⟩ =>
    match hit? operations ⟨id, category, grammar, token, children⟩ with
    | some hit => [⟨[], hit⟩]
    | none => sitesAll 0 children

/-- The same for children that stand from position `index` on. -/
def sitesAll (index : Nat) : List Node → List Site
  | [] => []
  | node :: rest => (sites node).map (Site.under index) ++ sitesAll (index + 1) rest
end

variable {operations}

theorem hit?_eq_some_iff {node : Node} {hit : Hit} :
    node.hit? operations = some hit ↔
      (∃ target, Patch.first? operations node.anchor =
        some (.replaceBody target hit.body, hit.operation)) ∧
      node.category.body? = some hit.index ∧ hit.index < node.children.length := by
  unfold hit?
  constructor
  · intro h
    split at h
    · next target body operation index hfirst hbody =>
      split at h
      · next hlt =>
        cases h
        exact ⟨⟨target, hfirst⟩, hbody, hlt⟩
      · cases h
    · cases h
  · rintro ⟨⟨target, hfirst⟩, hbody, hlt⟩
    simp [hfirst, hbody, hlt]

theorem hit?_index_lt {node : Node} {hit : Hit} (h : node.hit? operations = some hit) :
    hit.index < node.children.length :=
  (hit?_eq_some_iff.mp h).2.2

theorem rewrite_of_hit {node : Node} {hit : Hit} (h : node.hit? operations = some hit) :
    node.rewrite operations =
      ⟨node.id, node.category, node.grammar, node.token,
        node.children.set hit.index hit.body.block⟩ := by
  cases node
  simp [rewrite, h]

theorem rewrite_of_miss {node : Node} (h : node.hit? operations = none) :
    node.rewrite operations =
      ⟨node.id, node.category, node.grammar, node.token, rewriteAll operations node.children⟩ := by
  cases node
  simp [rewrite, h]

theorem sites_of_hit {node : Node} {hit : Hit} (h : node.hit? operations = some hit) :
    node.sites operations = [⟨[], hit⟩] := by
  cases node
  simp [sites, h]

theorem sites_of_miss {node : Node} (h : node.hit? operations = none) :
    node.sites operations = sitesAll operations 0 node.children := by
  cases node
  simp [sites, h]

/-! ## Sites by their places -/

def at? (root : Node) : Position → Option Node
  | [] => some root
  | index :: below => root.children[index]?.bind (·.at? below)

variable (operations) in
def hitAt? (root : Node) (position : Position) : Option Hit :=
  (root.at? position).bind (hit? operations)

variable (operations) in
/-- The node at a place is hit, and none above it is. -/
structure RewrittenAt (root : Node) (position : Position) (hit : Hit) : Prop where
  here : root.hitAt? operations position = some hit
  outermost : ∀ above, above <+: position → above ≠ position → root.hitAt? operations above = none

theorem hitAt?_cons (root : Node) (index : Nat) (below : Position) :
    root.hitAt? operations (index :: below) =
      root.children[index]?.bind (·.hitAt? operations below) := by
  simp only [hitAt?, at?, Option.bind_assoc]

theorem rewrittenAt_nil_iff {root : Node} {hit : Hit} :
    root.RewrittenAt operations [] hit ↔ root.hit? operations = some hit := by
  constructor
  · intro h
    exact h.here
  · intro h
    refine ⟨h, ?_⟩
    intro above habove hne
    exact absurd (List.prefix_nil.mp habove) hne

theorem rewrittenAt_cons_iff {root : Node} {index : Nat} {below : Position} {hit : Hit} :
    root.RewrittenAt operations (index :: below) hit ↔
      root.hit? operations = none ∧
        ∃ child, root.children[index]? = some child ∧ child.RewrittenAt operations below hit := by
  constructor
  · rintro ⟨hhere, hout⟩
    rw [hitAt?_cons] at hhere
    obtain ⟨child, hchild, hhit⟩ := Option.bind_eq_some_iff.mp hhere
    refine ⟨hout [] (List.nil_prefix) (by simp), child, hchild, hhit, ?_⟩
    intro above habove hne
    have := hout (index :: above) (List.prefix_cons_inj index |>.mpr habove) (by simpa using hne)
    simpa [hitAt?_cons, hchild] using this
  · rintro ⟨hroot, child, hchild, hhere, hout⟩
    refine ⟨by simpa [hitAt?_cons, hchild] using hhere, ?_⟩
    intro above habove hne
    cases above with
    | nil => exact hroot
    | cons first rest =>
      obtain ⟨rfl, hrest⟩ := List.cons_prefix_cons.mp habove
      simpa [hitAt?_cons, hchild] using hout rest hrest (by simpa using hne)

theorem mem_sitesAll {start : Nat} {nodes : List Node} {site : Site} :
    site ∈ sitesAll operations start nodes ↔
      ∃ (index : Nat) (node : Node), nodes[index]? = some node ∧
        ∃ inner ∈ node.sites operations, site = inner.under (start + index) := by
  induction nodes generalizing start with
  | nil => simp [sitesAll]
  | cons node rest ih =>
    rw [sitesAll, List.mem_append, List.mem_map, ih]
    constructor
    · rintro (⟨inner, hinner, rfl⟩ | ⟨index, child, hchild, inner, hinner, rfl⟩)
      · exact ⟨0, node, rfl, inner, hinner, rfl⟩
      · exact ⟨index + 1, child, hchild, inner, hinner, by rw [Nat.add_assoc, Nat.add_comm 1]⟩
    · rintro ⟨_ | index, child, hchild, inner, hinner, rfl⟩
      · cases hchild
        exact Or.inl ⟨inner, hinner, rfl⟩
      · exact Or.inr ⟨index, child, hchild, inner, hinner, by rw [Nat.add_assoc, Nat.add_comm 1]⟩

/-- The sites are the places of the outermost nodes that are hit. -/
theorem mem_sites {root : Node} {position : Position} {hit : Hit} :
    ⟨position, hit⟩ ∈ root.sites operations ↔ root.RewrittenAt operations position hit := by
  induction position generalizing root with
  | nil =>
    rw [rewrittenAt_nil_iff]
    cases h : root.hit? operations with
    | none => simp [sites_of_miss h, mem_sitesAll, Site.under]
    | some other => simp [sites_of_hit h, eq_comm]
  | cons index below ih =>
    rw [rewrittenAt_cons_iff]
    cases h : root.hit? operations with
    | none =>
      rw [sites_of_miss h, mem_sitesAll]
      constructor
      · rintro ⟨i, child, hchild, inner, hinner, heq⟩
        cases heq
        exact ⟨rfl, child, by simpa using hchild, ih.mp hinner⟩
      · rintro ⟨-, child, hchild, hbelow⟩
        exact ⟨index, child, hchild, ⟨below, hit⟩, ih.mpr hbelow, by simp [Site.under]⟩
    | some other => simp [sites_of_hit h]

theorem operation_lt_of_mem_sites (root : Node) :
    ∀ operation ∈ (root.sites operations).map (·.hit.operation),
      operation < operations.length := by
  intro operation hmem
  obtain ⟨⟨position, hit⟩, hsite, rfl⟩ := List.mem_map.mp hmem
  obtain ⟨node, -, hhit⟩ := Option.bind_eq_some_iff.mp (mem_sites.mp hsite).here
  obtain ⟨⟨target, hfirst⟩, -⟩ := hit?_eq_some_iff.mp hhit
  have hentry := List.mem_of_find?_eq_some hfirst
  rw [List.mem_zipIdx_iff_getElem?] at hentry
  exact (List.getElem?_eq_some_iff.mp hentry).1

/-! ## No place twice -/

mutual
theorem nodup_position_sites : ∀ root : Node,
    ((root.sites operations).map (·.position)).Nodup
  | ⟨id, category, grammar, token, children⟩ => by
    cases h : hit? operations ⟨id, category, grammar, token, children⟩ with
    | some hit => simp [sites_of_hit h]
    | none =>
      rw [sites_of_miss h]
      exact nodup_position_sitesAll children 0

theorem nodup_position_sitesAll : ∀ (nodes : List Node) (start : Nat),
    ((sitesAll operations start nodes).map (·.position)).Nodup
  | [], start => by simp [sitesAll]
  | node :: rest, start => by
    rw [sitesAll, List.map_append, List.nodup_append]
    refine ⟨?_, nodup_position_sitesAll rest (start + 1), ?_⟩
    · simpa [List.Nodup, List.pairwise_map, Site.under] using nodup_position_sites node
    · -- The places on the left begin with `start`, those on the right with more.
      intro left hleft right hright
      simp only [List.mem_map, mem_sitesAll] at hleft hright
      obtain ⟨-, ⟨inner, -, rfl⟩, rfl⟩ := hleft
      obtain ⟨-, ⟨index, -, -, other, -, rfl⟩, rfl⟩ := hright
      simp only [Site.under, ne_eq, List.cons.injEq, not_and]
      omega
end

/-! ## What rewriting keeps -/

theorem rewriteAll_eq_map (nodes : List Node) :
    rewriteAll operations nodes = nodes.map (rewrite operations) := by
  induction nodes with
  | nil => rfl
  | cons node rest ih => rw [rewriteAll, ih, List.map_cons]

/-- A property of trees that goes down to the children, and that a node keeps when it gets as many
other children that have it. A payload keeps it when it is made a block. -/
structure Hereditary (holds : Node → Prop) : Prop where
  child : ∀ node, holds node → ∀ child ∈ node.children, holds child
  rebuilt : ∀ node children, holds node → children.length = node.children.length →
    (∀ child ∈ children, holds child) →
      holds ⟨node.id, node.category, node.grammar, node.token, children⟩
  block : ∀ body, holds body → holds body.block

-- Over the tree: a node keeps the number of its children, whether it is hit or not.
mutual
theorem Hereditary.rewrite {holds : Node → Prop} (h : Hereditary holds)
    (hbodies : ∀ operation ∈ operations, ∀ body ∈ operation.newBody?, holds body) :
    ∀ node : Node, holds node → holds (node.rewrite operations)
  | ⟨id, category, grammar, token, children⟩, hnode => by
    have hchildren := h.child _ hnode
    cases hhit : hit? operations ⟨id, category, grammar, token, children⟩ with
    | some hit =>
      obtain ⟨⟨target, hfirst⟩, -, -⟩ := hit?_eq_some_iff.mp hhit
      have hmem := List.fst_mem_of_mem_zipIdx (List.mem_of_find?_eq_some hfirst)
      rw [rewrite_of_hit hhit]
      refine h.rebuilt _ _ hnode (List.length_set) fun child hchild => ?_
      rcases List.mem_or_eq_of_mem_set hchild with hchild | rfl
      · exact hchildren child hchild
      · exact h.block _ (hbodies _ hmem hit.body rfl)
    | none =>
      rw [rewrite_of_miss hhit]
      refine h.rebuilt _ _ hnode (by rw [rewriteAll_eq_map, List.length_map]) ?_
      exact h.rewriteAll hbodies children hchildren

theorem Hereditary.rewriteAll {holds : Node → Prop} (h : Hereditary holds)
    (hbodies : ∀ operation ∈ operations, ∀ body ∈ operation.newBody?, holds body) :
    ∀ nodes : List Node, (∀ node ∈ nodes, holds node) →
      ∀ node ∈ rewriteAll operations nodes, holds node
  | [], _, node, hnode => by cases hnode
  | first :: rest, hnodes, node, hnode => by
    rw [Node.rewriteAll, List.mem_cons] at hnode
    rcases hnode with rfl | hnode
    · exact h.rewrite hbodies first (hnodes first List.mem_cons_self)
    · exact h.rewriteAll hbodies rest
        (fun other hother => hnodes other (List.mem_cons_of_mem _ hother)) node hnode
end

end Node

end Graft
