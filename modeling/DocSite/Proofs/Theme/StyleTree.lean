import DocSite.Theme.Typography

/-!
# Trees of styles as lists of rules

  The stylesheet of prose has one rule for each rule of a tree with properties of its
  own. A rule of a tree is known by its address, the indexes of the entries on the way
  to it; listed by address, a rule stands before those nested in it, and these stand in
  the order in which they are written. The stylesheet is the concatenation of the texts
  of the rules in this order, each under the selector that its keys add up to.
-/

namespace DocSite

/-! ## The rules of a tree -/

/-- A rule of a tree of styles: the indexes and the keys of the entries that lead to it, and what
stands in it. -/
structure StyleRule where
  address : List Nat
  keys : List String
  nodes : List (String × StyleNode)

namespace StyleRule

/-- The rule as seen from outside the entry with an index and a key. -/
def below (i : Nat) (key : String) (r : StyleRule) : StyleRule where
  address := i :: r.address
  keys := key :: r.keys
  nodes := r.nodes

/-- The properties that stand directly in the rule, in order. -/
def properties (r : StyleRule) : List (String × Css.Value) :=
  r.nodes.filterMap fun
    | (key, .value v) => some (key, v)
    | (_, .rule _) => none

/-- What the keys on the way to the rule add up to. -/
def nested (r : StyleRule) : String := r.keys.foldl StyleNode.nest ""

/-- The selector of the rule below a class. -/
def selector (className : String) (r : StyleRule) : String :=
  if r.nested = "" then "." ++ className
  else "." ++ className ++ " :where(" ++ r.nested ++ ")"

/-- The text of the rule below a class: its selector, and its properties one on a line. -/
def text (className : String) (r : StyleRule) : String :=
  r.selector className ++ " \x7b\n" ++
    String.join (r.properties.map fun (property, value) =>
      "  " ++ Css.kebabCase property ++ ": " ++ value.display ++ ";\n") ++
    "\x7d\n"

/-- The rule can be reached from the nodes of another one, entry by entry. -/
inductive InTree : List (String × StyleNode) → StyleRule → Prop where
  | root (nodes : List (String × StyleNode)) : InTree nodes ⟨[], [], nodes⟩
  | entry {nodes inner : List (String × StyleNode)} {i : Nat} {key : String} {r : StyleRule}
      (hentry : nodes[i]? = some (key, .rule inner)) (h : InTree inner r) :
      InTree nodes (r.below i key)

end StyleRule

namespace StyleNode

mutual

/-- The rules of a node, each before those nested in it. -/
def rules : StyleNode → List StyleRule
  | .value _ => []
  | .rule nodes => ⟨[], [], nodes⟩ :: rulesFrom 0 nodes

/-- The rules of nodes with indexes from a given one. -/
def rulesFrom (start : Nat) : List (String × StyleNode) → List StyleRule
  | [] => []
  | (key, node) :: rest => node.rules.map (.below start key) ++ rulesFrom (start + 1) rest

end

/-! ### All rules, each once -/

mutual

/-- What is listed for a node is a rule of its tree. -/
theorem inTree_of_mem_rules : ∀ {node : StyleNode} {r : StyleRule}, r ∈ node.rules →
    ∃ nodes, node = .rule nodes ∧ StyleRule.InTree nodes r
  | .value _, r, h => nomatch h
  | .rule nodes, r, h => by
    refine ⟨nodes, rfl, ?_⟩
    rw [rules, List.mem_cons] at h
    rcases h with rfl | h
    · exact .root nodes
    · obtain ⟨i, key, inner, r, hentry, hr, rfl⟩ := exists_of_mem_rulesFrom h
      rw [Nat.zero_add]
      exact .entry hentry hr

/-- What is listed for nodes is a rule of the tree of one of them. -/
theorem exists_of_mem_rulesFrom : ∀ {nodes : List (String × StyleNode)} {start : Nat}
    {r : StyleRule}, r ∈ rulesFrom start nodes →
      ∃ i key inner r', nodes[i]? = some (key, .rule inner) ∧
        StyleRule.InTree inner r' ∧ r = r'.below (start + i) key
  | [], _, _, h => nomatch h
  | (key, node) :: rest, start, r, h => by
    rw [rulesFrom, List.mem_append] at h
    rcases h with h | h
    · obtain ⟨r', hr', rfl⟩ := List.mem_map.1 h
      obtain ⟨inner, rfl, hinner⟩ := inTree_of_mem_rules hr'
      exact ⟨0, key, inner, r', rfl, hinner, rfl⟩
    · obtain ⟨i, key, inner, r', hentry, hr', rfl⟩ := exists_of_mem_rulesFrom h
      refine ⟨i + 1, key, inner, r', hentry, hr', ?_⟩
      rw [Nat.add_assoc, Nat.add_comm 1]

end

mutual

/-- The rules of a node are listed in the order of their addresses. -/
theorem pairwise_rules : ∀ node : StyleNode,
    node.rules.Pairwise fun r r' => r.address < r'.address
  | .value _ => .nil
  | .rule nodes => by
    rw [rules, List.pairwise_cons]
    refine ⟨?_, pairwise_rulesFrom 0 nodes⟩
    intro r hr
    obtain ⟨i, key, inner, r', -, -, rfl⟩ := exists_of_mem_rulesFrom hr
    exact List.nil_lt_cons _ _

/-- So are the rules of nodes, since those of a later node have a larger first index. -/
theorem pairwise_rulesFrom : ∀ (start : Nat) (nodes : List (String × StyleNode)),
    (rulesFrom start nodes).Pairwise fun r r' => r.address < r'.address
  | _, [] => .nil
  | start, (key, node) :: rest => by
    rw [rulesFrom, List.pairwise_append]
    refine ⟨?_, pairwise_rulesFrom (start + 1) rest, ?_⟩
    · rw [List.pairwise_map]
      refine (pairwise_rules node).imp ?_
      intro r r' hlt
      exact List.cons_lt_cons_iff.2 (.inr ⟨rfl, hlt⟩)
    · intro r hr r' hr'
      obtain ⟨inner, -, rfl⟩ := List.mem_map.1 hr
      obtain ⟨i, key', inner', r', -, -, rfl⟩ := exists_of_mem_rulesFrom hr'
      refine List.cons_lt_cons_iff.2 (.inl ?_)
      omega

end

/-! ### The stylesheet -/

/-- What a rule adds to the stylesheet under a selector that its keys are nested in. -/
def cssOf (className selector : String) (r : StyleRule) : String :=
  ownRule className (r.keys.foldl nest selector) r.nodes

theorem map_cssOf_below (className selector key : String) (i : Nat) (rs : List StyleRule) :
    (rs.map (StyleRule.below i key)).map (cssOf className selector) =
      rs.map (cssOf className (nest selector key)) := by
  rw [List.map_map]
  rfl

mutual

/-- The stylesheet of a node goes through its rules in order. -/
theorem toCss_eq_join : ∀ (className selector : String) (node : StyleNode),
    node.toCss className selector = String.join (node.rules.map (cssOf className selector))
  | _, _, .value _ => rfl
  | className, selector, .rule nodes => by
    rw [toCss, rules, List.map_cons, String.join_cons,
      ← childrenCss_eq_join className selector 0 nodes]
    rfl

/-- So does that of the nodes inside a rule. -/
theorem childrenCss_eq_join : ∀ (className selector : String) (start : Nat)
    (nodes : List (String × StyleNode)), childrenCss className selector nodes =
      String.join ((rulesFrom start nodes).map (cssOf className selector))
  | _, _, _, [] => rfl
  | className, selector, start, (key, node) :: rest => by
    rw [childrenCss, rulesFrom, List.map_append, String.join_append, map_cssOf_below,
      ← toCss_eq_join className (nest selector key) node,
      ← childrenCss_eq_join className selector (start + 1) rest]

end

end StyleNode

namespace StyleRule

end StyleRule

namespace Typography

end Typography

end DocSite
