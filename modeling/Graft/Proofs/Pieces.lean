import Graft.Proofs.Grafting
import Graft.Syntax.Printing

/-! # What a patch leaves alone

A tree that is rewritten falls into pieces: the tokens that stay, each with its place, and the
bodies that are replaced. Reading the pieces with the old bodies gives the tokens of the tree, and
reading them with the new ones gives those of the tree rewritten.
-/

namespace Graft

abbrev PlacedToken := Position × Token

inductive Piece where
  | kept (token : PlacedToken)
  | body (site : Site)

namespace Piece

def kept? : Piece → Option PlacedToken
  | .kept token => some token
  | .body _ => none

def site? : Piece → Option Site
  | .kept _ => none
  | .body site => some site

/-- Where a piece stands: a token at its own place, and a body at that of its node. -/
def place : Piece → Position
  | .kept token => token.1
  | .body site => site.body

/-- The same piece, seen from the parent of the tree. -/
def under (index : Nat) : Piece → Piece
  | .kept (position, token) => .kept (index :: position, token)
  | .body site => .body (site.under index)

@[simp] theorem filterMap_site?_kept (tokens : List PlacedToken) :
    (tokens.map kept).filterMap site? = [] := by
  rw [List.filterMap_map]
  exact List.filterMap_eq_nil_iff.mpr fun _ _ => rfl

@[simp] theorem filterMap_kept?_kept (tokens : List PlacedToken) :
    (tokens.map kept).filterMap kept? = tokens := by
  rw [List.filterMap_map]
  exact List.filterMap_some

/-- The tokens of a piece, when `body` gives those of a body. -/
def read (body : Site → List Token) : Piece → List Token
  | .kept token => [token.2]
  | .body site => body site

@[simp] theorem flatMap_read_kept (body : Site → List Token) (tokens : List PlacedToken) :
    (tokens.map kept).flatMap (read body) = tokens.map (·.2) := by
  rw [List.flatMap_map, List.map_eq_flatMap]
  rfl

theorem flatMap_read_under (body : Site → List Token) (index : Nat) (pieces : List Piece) :
    (pieces.map (under index)).flatMap (read body) =
      pieces.flatMap (read fun site => body (site.under index)) := by
  rw [List.flatMap_map]
  congr 1
  funext piece
  cases piece <;> rfl

@[simp] theorem site?_under (index : Nat) (piece : Piece) :
    (piece.under index).site? = piece.site?.map (Site.under index) := by
  cases piece <;> rfl

@[simp] theorem place_under (index : Nat) (piece : Piece) :
    (piece.under index).place = index :: piece.place := by
  cases piece <;> rfl

@[simp] theorem map_place_kept (tokens : List PlacedToken) :
    (tokens.map kept).map place = tokens.map (·.1) := by
  rw [List.map_map]
  rfl

@[simp] theorem kept?_under (index : Nat) (piece : Piece) :
    (piece.under index).kept? = piece.kept?.map (fun t => (index :: t.1, t.2)) := by
  cases piece <;> rfl

end Piece

namespace Node

/-- The tokens at a place and below it. -/
def tokensAt (root : Node) (position : Position) : List Token :=
  ((root.at? position).map tokens).getD []

def placedHere (token : Option Token) : List PlacedToken :=
  token.toList.map (([], ·))

mutual
/-- The tokens with their places, in reading order. -/
def placed : Node → List PlacedToken
  | ⟨_, _, _, token, children⟩ => placedHere token ++ placedAll 0 children

/-- The same for children that stand from position `index` on. -/
def placedAll (index : Nat) : List Node → List PlacedToken
  | [] => []
  | node :: rest => (placed node).map (fun t => (index :: t.1, t.2)) ++ placedAll (index + 1) rest
end

variable (operations : List Operation)

mutual
/-- The pieces of a tree in reading order. -/
def pieces : Node → List Piece
  | ⟨id, category, grammar, token, children⟩ =>
    (placedHere token).map .kept ++
      match hit? operations ⟨id, category, grammar, token, children⟩ with
      | some hit =>
        (placedAll 0 (children.take hit.index)).map .kept ++
          .body ⟨[], hit⟩ :: (placedAll (hit.index + 1) (children.drop (hit.index + 1))).map .kept
      | none => piecesAll 0 children

def piecesAll (index : Nat) : List Node → List Piece
  | [] => []
  | node :: rest => (pieces node).map (Piece.under index) ++ piecesAll (index + 1) rest
end

variable {operations}

theorem pieces_of_hit {node : Node} {hit : Hit} (h : node.hit? operations = some hit) :
    node.pieces operations = (placedHere node.token).map .kept ++
      ((placedAll 0 (node.children.take hit.index)).map .kept ++
        .body ⟨[], hit⟩ ::
          (placedAll (hit.index + 1) (node.children.drop (hit.index + 1))).map .kept) := by
  cases node
  simp [pieces, h]

theorem pieces_of_miss {node : Node} (h : node.hit? operations = none) :
    node.pieces operations = (placedHere node.token).map .kept ++
      piecesAll operations 0 node.children := by
  cases node
  simp [pieces, h]

/-! ## Tokens by their places -/

theorem tokens_blockAround (id : NodeId) (body : Node) :
    (blockAround id body).tokens = ⟨" ", "\x7b"⟩ :: (body.tokens ++ [⟨"\n", "\x7d"⟩]) := by
  simp [blockAround, branch, leaf, tokens, preorder, preorderAll]

mutual
theorem map_snd_placed : ∀ node : Node, node.placed.map (·.2) = node.tokens
  | ⟨_, _, _, token, children⟩ => by
    rw [tokens_eq, placed, List.map_append, map_snd_placedAll 0 children]
    simp [placedHere]

theorem map_snd_placedAll (start : Nat) : ∀ nodes : List Node,
    (placedAll start nodes).map (·.2) = nodes.flatMap tokens
  | [] => rfl
  | node :: rest => by
    rw [placedAll, List.map_append, List.map_map, map_snd_placedAll (start + 1) rest,
      List.flatMap_cons, ← map_snd_placed node]
    rfl
end

theorem placedAll_append (start : Nat) (nodes others : List Node) :
    placedAll start (nodes ++ others) =
      placedAll start nodes ++ placedAll (start + nodes.length) others := by
  induction nodes generalizing start with
  | nil => simp [placedAll]
  | cons node rest ih =>
    have hstart : start + 1 + rest.length = start + (rest.length + 1) := by omega
    simp [placedAll, ih, hstart]

theorem head_of_mem_placedAll {start : Nat} {nodes : List Node} {token : PlacedToken}
    (h : token ∈ placedAll start nodes) :
    ∃ index below, token.1 = index :: below ∧ start ≤ index ∧ index < start + nodes.length := by
  induction nodes generalizing start with
  | nil => simp [placedAll] at h
  | cons node rest ih =>
    rw [placedAll, List.mem_append, List.mem_map] at h
    rcases h with ⟨inner, -, rfl⟩ | h
    · exact ⟨start, inner.1, rfl, Nat.le_refl _, by simp⟩
    · obtain ⟨index, below, hplace, hle, hlt⟩ := ih h
      exact ⟨index, below, hplace, by omega, by simp; omega⟩

/-! ## The bodies among the pieces -/

theorem filterMap_site?_under (index : Nat) (pieces : List Piece) :
    (pieces.map (Piece.under index)).filterMap Piece.site? =
      (pieces.filterMap Piece.site?).map (Site.under index) := by
  rw [List.filterMap_map, List.map_filterMap]
  congr 1
  funext piece
  exact piece.site?_under index

mutual
theorem filterMap_site?_pieces : ∀ node : Node,
    (node.pieces operations).filterMap Piece.site? = node.sites operations
  | ⟨id, category, grammar, token, children⟩ => by
    cases h : hit? operations ⟨id, category, grammar, token, children⟩ with
    | some hit =>
      rw [pieces_of_hit h, sites_of_hit h]
      simp only [List.filterMap_append, List.filterMap_cons, Piece.filterMap_site?_kept]
      rfl
    | none =>
      rw [pieces_of_miss h, sites_of_miss h, List.filterMap_append, Piece.filterMap_site?_kept,
        filterMap_site?_piecesAll 0 children, List.nil_append]

theorem filterMap_site?_piecesAll (start : Nat) : ∀ nodes : List Node,
    (piecesAll operations start nodes).filterMap Piece.site? = sitesAll operations start nodes
  | [] => rfl
  | node :: rest => by
    rw [piecesAll, sitesAll, List.filterMap_append, filterMap_site?_under,
      filterMap_site?_pieces node, filterMap_site?_piecesAll (start + 1) rest]
end

/-! ## The tokens among the pieces -/

/-- Whether a token stands outside the bodies of some sites. -/
def Outside (sites : List Site) (token : PlacedToken) : Prop :=
  ∀ site ∈ sites, ¬ site.body <+: token.1

instance (sites : List Site) (token : PlacedToken) : Decidable (Outside sites token) :=
  inferInstanceAs (Decidable (∀ site ∈ sites, ¬ site.body <+: token.1))

theorem outside_append_iff {sites others : List Site} {token : PlacedToken} :
    Outside (sites ++ others) token ↔ Outside sites token ∧ Outside others token :=
  List.forall_mem_append

theorem outside_under_iff {index : Nat} {sites : List Site} {token : PlacedToken} :
    Outside (sites.map (Site.under index)) (index :: token.1, token.2) ↔ Outside sites token := by
  simp [Outside, Site.under, Site.body, List.cons_prefix_cons]

theorem outside_of_head_ne {sites : List Site} {token : PlacedToken} {index : Nat}
    {below : Position} (htoken : token.1 = index :: below)
    (h : ∀ site ∈ sites, ∃ other rest, site.body = other :: rest ∧ other ≠ index) :
    Outside sites token := by
  intro site hsite hprefix
  obtain ⟨other, rest, hbody, hne⟩ := h site hsite
  rw [hbody, htoken] at hprefix
  exact hne (List.cons_prefix_cons.mp hprefix).1

theorem outside_singleton_of_head_ne {hit : Hit} {token : PlacedToken} {index : Nat}
    {below : Position} (htoken : token.1 = index :: below) (h : hit.index ≠ index) :
    Outside [⟨[], hit⟩] token := by
  apply outside_of_head_ne htoken
  intro site hsite
  cases List.mem_singleton.mp hsite
  exact ⟨hit.index, [], rfl, h⟩

theorem head_of_mem_sitesAll {start : Nat} {nodes : List Node} {site : Site}
    (h : site ∈ sitesAll operations start nodes) :
    ∃ index below, site.body = index :: below ∧ start ≤ index := by
  obtain ⟨index, -, -, inner, -, rfl⟩ := mem_sitesAll.mp h
  exact ⟨start + index, inner.body, rfl, by omega⟩

theorem filterMap_kept?_under (index : Nat) (pieces : List Piece) :
    (pieces.map (Piece.under index)).filterMap Piece.kept? =
      (pieces.filterMap Piece.kept?).map (fun t => (index :: t.1, t.2)) := by
  rw [List.filterMap_map, List.map_filterMap]
  congr 1
  funext piece
  exact piece.kept?_under index

theorem placed_eq (node : Node) :
    node.placed = placedHere node.token ++ placedAll 0 node.children := by
  cases node
  rfl

theorem filter_placedAll_of_hit {node : Node} {hit : Hit} (h : node.hit? operations = some hit) :
    (placedAll 0 node.children).filter (Outside [⟨[], hit⟩]) =
      placedAll 0 (node.children.take hit.index) ++
        placedAll (hit.index + 1) (node.children.drop (hit.index + 1)) := by
  have hlt := hit?_index_lt h
  have hlen : (node.children.take hit.index).length = hit.index := by
    rw [List.length_take]
    omega
  have hsplit : node.children = node.children.take hit.index ++
      (node.children[hit.index] :: node.children.drop (hit.index + 1)) := by
    rw [← List.drop_eq_getElem_cons hlt, List.take_append_drop]
  conv => lhs; rw [hsplit, placedAll_append, hlen, Nat.zero_add, placedAll]
  rw [List.filter_append, List.filter_append]
  -- Which part a token belongs to is seen from the first step of its place.
  have hbefore : ∀ token ∈ placedAll 0 (node.children.take hit.index),
      Outside [⟨[], hit⟩] token := by
    intro token htoken
    obtain ⟨index, below, hplace, -, hindex⟩ := head_of_mem_placedAll htoken
    exact outside_singleton_of_head_ne hplace (by omega)
  have hafter : ∀ token ∈ placedAll (hit.index + 1) (node.children.drop (hit.index + 1)),
      Outside [⟨[], hit⟩] token := by
    intro token htoken
    obtain ⟨index, below, hplace, hindex, -⟩ := head_of_mem_placedAll htoken
    exact outside_singleton_of_head_ne hplace (by omega)
  have hbody : ((placed node.children[hit.index]).map (fun t => (hit.index :: t.1, t.2))).filter
      (Outside [⟨[], hit⟩]) = [] := by
    apply List.filter_eq_nil_iff.mpr
    intro token htoken
    obtain ⟨inner, -, rfl⟩ := List.mem_map.mp htoken
    simp [Outside, Site.body]
  rw [hbody, List.nil_append, List.filter_eq_self.mpr (by simpa using hbefore),
    List.filter_eq_self.mpr (by simpa using hafter)]

mutual
theorem filterMap_kept?_pieces : ∀ node : Node,
    (node.pieces operations).filterMap Piece.kept? =
      node.placed.filter (Outside (node.sites operations))
  | ⟨id, category, grammar, token, children⟩ => by
    have hhere : ∀ sites : List Site, (placedHere token).filter (Outside sites) =
        placedHere token := by
      intro sites
      apply List.filter_eq_self.mpr
      intro placed hplaced
      simp only [placedHere, List.mem_map] at hplaced
      obtain ⟨t, -, rfl⟩ := hplaced
      simp [Outside, Site.body]
    cases h : hit? operations ⟨id, category, grammar, token, children⟩ with
    | some hit =>
      rw [pieces_of_hit h, sites_of_hit h, placed_eq, List.filter_append, hhere,
        filter_placedAll_of_hit h]
      simp only [List.filterMap_append, List.filterMap_cons, Piece.filterMap_kept?_kept]
      rfl
    | none =>
      rw [pieces_of_miss h, sites_of_miss h, placed_eq, List.filter_append, hhere,
        List.filterMap_append, Piece.filterMap_kept?_kept, filterMap_kept?_piecesAll 0 children]

theorem filterMap_kept?_piecesAll (start : Nat) : ∀ nodes : List Node,
    (piecesAll operations start nodes).filterMap Piece.kept? =
      (placedAll start nodes).filter (Outside (sitesAll operations start nodes))
  | [] => rfl
  | node :: rest => by
    rw [piecesAll, sitesAll, placedAll, List.filterMap_append, filterMap_kept?_under,
      filterMap_kept?_pieces node, filterMap_kept?_piecesAll (start + 1) rest, List.filter_append]
    congr 1
    · rw [List.filter_map]
      congr 1
      apply List.filter_congr
      intro token _
      have hrest : Outside (sitesAll operations (start + 1) rest) (start :: token.1, token.2) := by
        apply outside_of_head_ne rfl
        intro site hsite
        obtain ⟨index, below, hbody, hle⟩ := head_of_mem_sitesAll hsite
        exact ⟨index, below, hbody, by omega⟩
      simp [outside_append_iff, outside_under_iff, hrest]
    · apply List.filter_congr
      intro token htoken
      have hnode : Outside ((node.sites operations).map (Site.under start)) token := by
        obtain ⟨index, below, hplace, hle, -⟩ := head_of_mem_placedAll htoken
        apply outside_of_head_ne hplace
        intro site hsite
        obtain ⟨inner, -, rfl⟩ := List.mem_map.mp hsite
        exact ⟨start, inner.body, rfl, by omega⟩
      simp [outside_append_iff, hnode]
end

/-! ## Reading order

Places are compared by their first steps that differ, and a node stands before all that is below it.
-/

def Ascending (places : List Position) : Prop :=
  places.Pairwise (· < ·)

/-- The first steps of some places, from `start` on and before `stop`. -/
def StepsWithin (start stop : Nat) (places : List Position) : Prop :=
  ∀ place ∈ places, ∃ index below, place = index :: below ∧ start ≤ index ∧ index < stop

theorem Ascending.append {start middle stop : Nat} {places others : List Position}
    (h : Ascending places) (hothers : Ascending others) (hplaces : StepsWithin start middle places)
    (hsteps : StepsWithin middle stop others) : Ascending (places ++ others) := by
  refine List.pairwise_append.mpr ⟨h, hothers, fun place hplace other hother => ?_⟩
  obtain ⟨index, below, rfl, -, hlt⟩ := hplaces place hplace
  obtain ⟨later, rest, rfl, hle, -⟩ := hsteps other hother
  exact List.cons_lt_cons_iff.mpr (Or.inl (Nat.lt_of_lt_of_le hlt hle))

theorem StepsWithin.mono {start stop other : Nat} {places : List Position}
    (h : StepsWithin start stop places) (hle : stop ≤ other) : StepsWithin start other places := by
  intro place hplace
  obtain ⟨index, below, heq, hstart, hlt⟩ := h place hplace
  exact ⟨index, below, heq, hstart, Nat.lt_of_lt_of_le hlt hle⟩

theorem StepsWithin.append {start middle stop : Nat} {places others : List Position}
    (h : StepsWithin start middle places) (hothers : StepsWithin middle stop others)
    (hstart : start ≤ middle) (hstop : middle ≤ stop) :
    StepsWithin start stop (places ++ others) := by
  intro place hplace
  rcases List.mem_append.mp hplace with hplace | hplace
  · obtain ⟨index, below, rfl, hle, hlt⟩ := h place hplace
    exact ⟨index, below, rfl, hle, by omega⟩
  · obtain ⟨index, below, rfl, hle, hlt⟩ := hothers place hplace
    exact ⟨index, below, rfl, by omega, hlt⟩

theorem Ascending.under {places : List Position} (h : Ascending places) (index : Nat) :
    Ascending (places.map (index :: ·)) :=
  h.map (index :: ·) fun _ _ hlt => List.cons_lt_cons_iff.mpr (Or.inr ⟨rfl, hlt⟩)

theorem stepsWithin_under (places : List Position) (index : Nat) :
    StepsWithin index (index + 1) (places.map (index :: ·)) := by
  intro place hplace
  obtain ⟨below, -, rfl⟩ := List.mem_map.mp hplace
  exact ⟨index, below, rfl, Nat.le_refl _, Nat.lt_succ_self _⟩

theorem Ascending.placedHere {start stop : Nat} {places : List Position} (h : Ascending places)
    (hsteps : StepsWithin start stop places) (token : Option Token) :
    Ascending ((placedHere token).map (·.1) ++ places) := by
  cases token with
  | none => exact h
  | some token =>
    refine List.pairwise_cons.mpr ⟨fun place hplace => ?_, h⟩
    obtain ⟨index, below, rfl, -, -⟩ := hsteps place hplace
    exact List.nil_lt_cons index below

theorem stepsWithin_placedAll (start : Nat) (nodes : List Node) :
    StepsWithin start (start + nodes.length) ((placedAll start nodes).map (·.1)) := by
  intro place hplace
  obtain ⟨token, htoken, rfl⟩ := List.mem_map.mp hplace
  exact head_of_mem_placedAll htoken

theorem map_place_under (index : Nat) (pieces : List Piece) :
    (pieces.map (Piece.under index)).map Piece.place =
      (pieces.map Piece.place).map (index :: ·) := by
  simp only [List.map_map, Function.comp_def, Piece.place_under]

theorem stepsWithin_piecesAll (start : Nat) (nodes : List Node) :
    StepsWithin start (start + nodes.length)
      ((piecesAll operations start nodes).map Piece.place) := by
  induction nodes generalizing start with
  | nil => exact fun _ h => absurd h List.not_mem_nil
  | cons node rest ih =>
    rw [piecesAll, List.map_append, map_place_under]
    have hrest := ih (start + 1)
    rw [Nat.add_assoc, Nat.add_comm 1, ← List.length_cons] at hrest
    exact (stepsWithin_under _ start).append hrest (by omega) (by simp)

mutual
theorem ascending_placed : ∀ node : Node, Ascending (node.placed.map (·.1))
  | ⟨_, _, _, token, children⟩ => by
    rw [placed, List.map_append]
    exact (ascending_placedAll 0 children).placedHere (stepsWithin_placedAll 0 children) token

theorem ascending_placedAll (start : Nat) : ∀ nodes : List Node,
    Ascending ((placedAll start nodes).map (·.1))
  | [] => List.Pairwise.nil
  | node :: rest => by
    have hfirst : ((placed node).map (fun t => (start :: t.1, t.2))).map (·.1) =
        ((placed node).map (·.1)).map (start :: ·) := by
      simp only [List.map_map, Function.comp_def]
    rw [placedAll, List.map_append, hfirst]
    exact ((ascending_placed node).under start).append (ascending_placedAll (start + 1) rest)
      (stepsWithin_under _ start) (stepsWithin_placedAll (start + 1) rest)
end

mutual
theorem ascending_pieces : ∀ node : Node, Ascending ((node.pieces operations).map Piece.place)
  | ⟨id, category, grammar, token, children⟩ => by
    cases h : hit? operations ⟨id, category, grammar, token, children⟩ with
    | some hit =>
      have hbefore := (stepsWithin_placedAll 0 (children.take hit.index)).mono
        (show 0 + (children.take hit.index).length ≤ hit.index by simp)
      have hbody : StepsWithin hit.index (hit.index + 1) [[hit.index]] :=
        fun place hplace => ⟨hit.index, [], List.mem_singleton.mp hplace, by omega, by omega⟩
      have hafter := stepsWithin_placedAll (hit.index + 1) (children.drop (hit.index + 1))
      have hrest := hbody.append hafter (by omega) (by omega)
      have hlater : Ascending ([hit.index] :: _) :=
        Ascending.append (List.pairwise_singleton _ _) (ascending_placedAll _ _) hbody hafter
      have hall := (ascending_placedAll 0 (children.take hit.index)).append hlater hbefore hrest
      rw [pieces_of_hit h]
      simp only [List.map_append, List.map_cons, Piece.map_place_kept]
      exact hall.placedHere (hbefore.append hrest (by omega) (by omega)) token
    | none =>
      rw [pieces_of_miss h, List.map_append, Piece.map_place_kept]
      exact (ascending_piecesAll 0 children).placedHere (stepsWithin_piecesAll 0 children) token

theorem ascending_piecesAll (start : Nat) : ∀ nodes : List Node,
    Ascending ((piecesAll operations start nodes).map Piece.place)
  | [] => List.Pairwise.nil
  | node :: rest => by
    rw [piecesAll, List.map_append, map_place_under]
    exact ((ascending_pieces node).under start).append (ascending_piecesAll (start + 1) rest)
      (stepsWithin_under _ start) (stepsWithin_piecesAll (start + 1) rest)
end

/-! ## The bodies before and after -/

theorem tokensAt_cons {root child : Node} {index : Nat} (h : root.children[index]? = some child)
    (below : Position) : root.tokensAt (index :: below) = child.tokensAt below := by
  simp [tokensAt, at?, h]

theorem flatMap_read_pieces_of_hit {node : Node} {hit : Hit} (body : Site → List Token)
    (h : node.hit? operations = some hit) :
    (node.pieces operations).flatMap (Piece.read body) =
      node.token.toList ++ ((node.children.take hit.index).flatMap tokens ++ body ⟨[], hit⟩ ++
        (node.children.drop (hit.index + 1)).flatMap tokens) := by
  rw [pieces_of_hit h]
  simp only [List.flatMap_append, List.flatMap_cons, Piece.flatMap_read_kept, map_snd_placedAll,
    Piece.read]
  simp [placedHere]

theorem flatMap_read_pieces_of_miss {node : Node} (body : Site → List Token)
    (h : node.hit? operations = none) :
    (node.pieces operations).flatMap (Piece.read body) =
      node.token.toList ++ (piecesAll operations 0 node.children).flatMap (Piece.read body) := by
  rw [pieces_of_miss h, List.flatMap_append, Piece.flatMap_read_kept]
  simp [placedHere]

mutual
/-- With the old bodies, the pieces read as the tree. -/
theorem flatMap_read_tokensAt : ∀ node : Node,
    (node.pieces operations).flatMap (Piece.read fun site => node.tokensAt site.body) = node.tokens
  | ⟨id, category, grammar, token, children⟩ => by
    cases h : hit? operations ⟨id, category, grammar, token, children⟩ with
    | some hit =>
      have hlt : hit.index < children.length := hit?_index_lt h
      have hbody : tokensAt ⟨id, category, grammar, token, children⟩ [hit.index] =
          children[hit.index].tokens := by
        simp [tokensAt, at?, List.getElem?_eq_getElem hlt]
      have hsplit : children.flatMap tokens = (children.take hit.index).flatMap tokens ++
          children[hit.index].tokens ++ (children.drop (hit.index + 1)).flatMap tokens := by
        rw [List.append_assoc, ← List.flatMap_cons, ← List.drop_eq_getElem_cons hlt,
          ← List.flatMap_append, List.take_append_drop]
      rw [flatMap_read_pieces_of_hit _ h, tokens_eq, hsplit]
      exact congrArg (fun body => _ ++ (_ ++ body ++ _)) hbody
    | none =>
      rw [flatMap_read_pieces_of_miss _ h, tokens_eq]
      exact congrArg _ (flatMap_read_tokensAt_all _ 0 children rfl)

theorem flatMap_read_tokensAt_all (root : Node) (start : Nat) : ∀ nodes : List Node,
    root.children.drop start = nodes →
      (piecesAll operations start nodes).flatMap (Piece.read fun site => root.tokensAt site.body) =
        nodes.flatMap tokens
  | [], _ => rfl
  | node :: rest, hdrop => by
    obtain ⟨hnode, hrest⟩ := next_of_drop hdrop
    rw [piecesAll, List.flatMap_append, Piece.flatMap_read_under,
      flatMap_read_tokensAt_all root (start + 1) rest hrest, List.flatMap_cons]
    congr 1
    simpa only [Site.under, Site.body, List.cons_append, tokensAt_cons hnode] using
      flatMap_read_tokensAt node
end

mutual
/-- With the new bodies, they read as the tree rewritten. -/
theorem flatMap_read_block : ∀ node : Node,
    (node.pieces operations).flatMap (Piece.read fun site => site.hit.body.block.tokens) =
      (node.rewrite operations).tokens
  | ⟨id, category, grammar, token, children⟩ => by
    cases h : hit? operations ⟨id, category, grammar, token, children⟩ with
    | some hit =>
      have hlt : hit.index < children.length := hit?_index_lt h
      rw [flatMap_read_pieces_of_hit _ h, rewrite_of_hit h, List.set_eq_take_append_cons_drop,
        if_pos hlt]
      conv => rhs; rw [tokens_eq]
      simp only [List.flatMap_append, List.flatMap_cons, List.append_assoc]
    | none =>
      rw [flatMap_read_pieces_of_miss _ h, rewrite_of_miss h, tokens_eq]
      exact congrArg _ (flatMap_read_block_all 0 children)

theorem flatMap_read_block_all (start : Nat) : ∀ nodes : List Node,
    (piecesAll operations start nodes).flatMap
        (Piece.read fun site => site.hit.body.block.tokens) =
      (rewriteAll operations nodes).flatMap tokens
  | [] => rfl
  | node :: rest => by
    rw [piecesAll, List.flatMap_append, Piece.flatMap_read_under,
      flatMap_read_block_all (start + 1) rest, rewriteAll, List.flatMap_cons,
      ← flatMap_read_block node]
    rfl
end

end Node

/-! ## Text -/

def Token.printedAll (style : Indentation) (tokens : List Token) : String :=
  String.join (tokens.map (·.printed style))

theorem Token.printedAll_flatMap (style : Indentation) (f : Piece → List Token)
    (pieces : List Piece) :
    printedAll style (pieces.flatMap f) =
      String.join (pieces.map fun piece => printedAll style (f piece)) := by
  induction pieces with
  | nil => rfl
  | cons piece rest ih =>
    rw [List.flatMap_cons, List.map_cons, String.join_cons, ← ih]
    simp [printedAll]

namespace Piece

/-- The text of a piece in a tree that was not rewritten. -/
def textBefore (style : Indentation) (root : Node) : Piece → String
  | .kept token => token.2.printed style
  | .body site => Token.printedAll style (root.tokensAt site.body)

/-- The text of a piece with the bodies that the operations put in. A payload that is no block is
put between braces. -/
def textAfter (style : Indentation) : Piece → String
  | .kept token => token.2.printed style
  | .body site =>
    let text := Token.printedAll style site.hit.body.tokens
    if site.hit.body.isBlock then text else " \x7b" ++ text ++ "\n\x7d"

theorem printedAll_read_tokensAt (style : Indentation) (root : Node) (piece : Piece) :
    Token.printedAll style (piece.read fun site => root.tokensAt site.body) =
      piece.textBefore style root := by
  cases piece <;> simp [read, textBefore, Token.printedAll]

theorem printedAll_block (style : Indentation) (body : Node) :
    Token.printedAll style body.block.tokens =
      if body.isBlock then Token.printedAll style body.tokens
      else " \x7b" ++ Token.printedAll style body.tokens ++ "\n\x7d" := by
  have hspace : Trivia.reflow style.render true [' '] = [' '] := rfl
  have hline : Trivia.reflow style.render true ['\n'] = ['\n'] := by
    have hrun : Trivia.reflow style.render true ['\n'] = '\n' :: (style.render [] ++ []) := rfl
    rw [hrun, style.render_nil, List.append_nil]
  have hopen : Token.printed style ⟨" ", "\x7b"⟩ = " \x7b" := by
    simp [Token.printed, Trivia.reflowText, hspace]
  have hclose : Token.printed style ⟨"\n", "\x7d"⟩ = "\n\x7d" := by
    simp [Token.printed, Trivia.reflowText, hline]
  unfold Node.block
  split
  · rfl
  · rw [Node.tokens_blockAround]
    simp [Token.printedAll, hopen, hclose, String.append_assoc]

theorem printedAll_read_block (style : Indentation) (piece : Piece) :
    Token.printedAll style (piece.read fun site => site.hit.body.block.tokens) =
      piece.textAfter style := by
  cases piece with
  | kept token => simp [read, textAfter, Token.printedAll]
  | body site => exact printedAll_block style site.hit.body

end Piece

namespace Document

def trailingText (style : Indentation) (document : Document) : String :=
  Trivia.reflowText style.render false document.trailing

theorem print_eq (style : Indentation) (document : Document) :
    document.print style =
      Token.printedAll style document.root.tokens ++ document.trailingText style := rfl

theorem trailingText_graft (style : Indentation) (document : Document) (patch : Patch)
    (next : NodeId) :
    (document.graft patch next).document.trailingText style = document.trailingText style := rfl

/-- Printing after a patch. The text falls into pieces, the same ones before and after, in reading
order: the bodies of the nodes that are rewritten, and every token outside them. Only the text of
the bodies is another. -/
theorem print_graft (document : Document) (patch : Patch) (next : NodeId) (style : Indentation) :
    ∃ pieces : List Piece,
      (pieces.map Piece.place).Pairwise (· < ·) ∧
      pieces.filterMap Piece.site? = document.root.sites patch.operations ∧
      (∀ position hit, ⟨position, hit⟩ ∈ document.root.sites patch.operations ↔
        document.root.RewrittenAt patch.operations position hit) ∧
      pieces.filterMap Piece.kept? = document.root.placed.filter (fun token =>
        ∀ site ∈ document.root.sites patch.operations, ¬ site.body <+: token.1) ∧
      document.print style =
        String.join (pieces.map (·.textBefore style document.root)) ++
          document.trailingText style ∧
      (document.graft patch next).document.print style =
        String.join (pieces.map (·.textAfter style)) ++ document.trailingText style := by
  refine ⟨document.root.pieces patch.operations, Node.ascending_pieces document.root,
    Node.filterMap_site?_pieces document.root, fun _ _ => Node.mem_sites,
    Node.filterMap_kept?_pieces document.root, ?_, ?_⟩
  · rw [print_eq, ← @Node.flatMap_read_tokensAt patch.operations document.root,
      Token.printedAll_flatMap]
    simp only [Piece.printedAll_read_tokensAt]
  · have hcontent := (document.rewrites_graft patch next).1
    rw [print_eq, trailingText_graft, Node.tokens_eq_of_content hcontent,
      ← Node.flatMap_read_block document.root, Token.printedAll_flatMap]
    simp only [Piece.printedAll_read_block]

end Document

end Graft
