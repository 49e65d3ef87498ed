import Mathlib

/-!
# Trees of nodes, framed by three marks

A node is a kind, some properties and its children.  It is written between a start and a stop mark;
a third mark escapes a symbol that would otherwise be a mark.  Properties and children of a node may
come in any order among each other.

* `Body`, `Framed` — the inputs that stand for the inside of a node, and for a node;
* `Body.append` — insides one after the other;
* `serialise`, `framed_serialise` — every tree has an input that stands for it;
* `Opened` — the front of an input, up to some nodes that are still open.
-/

namespace NodeFraming

/-- A node of the tree. -/
structure Node (σ : Type) where
  kind : σ
  props : List σ
  children : List (Node σ)

namespace Node

variable {σ : Type}

mutual

/-- The number of nodes. -/
def size : Node σ → ℕ
  | ⟨_, _, children⟩ => 1 + sizes children

def sizes : List (Node σ) → ℕ
  | [] => 0
  | node :: rest => node.size + sizes rest

end

mutual

/-- The number of nodes on the longest way down. -/
def depth : Node σ → ℕ
  | ⟨_, _, children⟩ => 1 + depths children

def depths : List (Node σ) → ℕ
  | [] => 0
  | node :: rest => max node.depth (depths rest)

end

theorem sizes_append (xs ys : List (Node σ)) : sizes (xs ++ ys) = sizes xs + sizes ys := by
  induction xs with
  | nil => rw [List.nil_append, sizes, Nat.zero_add]
  | cons node rest ih => rw [List.cons_append, sizes, sizes, ih, Nat.add_assoc]

theorem depths_append (xs ys : List (Node σ)) :
    depths (xs ++ ys) = max (depths xs) (depths ys) := by
  induction xs with
  | nil => rw [List.nil_append, depths, Nat.zero_max]
  | cons node rest ih => rw [List.cons_append, depths, depths, ih, max_assoc]

end Node

/-- The three marks. -/
structure Marks (σ : Type) where
  start : σ
  stop : σ
  escape : σ
  start_ne_stop : start ≠ stop
  start_ne_escape : start ≠ escape
  stop_ne_escape : stop ≠ escape

variable {σ : Type} (marks : Marks σ)

/-- The symbol is one of the marks. -/
def Marks.IsMark (b : σ) : Prop := b = marks.start ∨ b = marks.stop ∨ b = marks.escape

instance [DecidableEq σ] (b : σ) : Decidable (marks.IsMark b) :=
  inferInstanceAs (Decidable (b = marks.start ∨ b = marks.stop ∨ b = marks.escape))

/-- How one symbol is written: as it is, unless it is a mark, or behind the escape mark. -/
inductive Written : List σ → σ → Prop
  | plain {b : σ} : ¬ marks.IsMark b → Written [b] b
  | escaped (b : σ) : Written [marks.escape, b] b

/-- The input that stands for the inside of a node with these properties and children. -/
inductive Body : List σ → List σ → List (Node σ) → Prop
  | nil : Body [] [] []
  | prop {w bs ps : List σ} {b : σ} {cs : List (Node σ)} :
      Written marks w b → Body bs ps cs → Body (w ++ bs) (b :: ps) cs
  | child {w inner bs ips ps : List σ} {k : σ} {ics cs : List (Node σ)} :
      Written marks w k → Body inner ips ics → Body bs ps cs →
      Body (marks.start :: (w ++ (inner ++ marks.stop :: bs))) ps (⟨k, ips, ics⟩ :: cs)

/-- The input that stands for a node. -/
def Framed (bs : List σ) (node : Node σ) : Prop :=
  ∃ w inner, Written marks w node.kind ∧ Body marks inner node.props node.children ∧
    bs = marks.start :: (w ++ (inner ++ [marks.stop]))

variable {marks}

theorem Body.append {bs bs' ps ps' : List σ} {cs cs' : List (Node σ)} (h : Body marks bs ps cs)
    (h' : Body marks bs' ps' cs') : Body marks (bs ++ bs') (ps ++ ps') (cs ++ cs') := by
  induction h with
  | nil => exact h'
  | prop hw _ ih =>
    rw [List.append_assoc, List.cons_append]
    exact .prop hw ih
  | child hw hinner _ _ ih =>
    rw [List.cons_append, List.append_assoc, List.append_assoc, List.cons_append, List.cons_append]
    exact .child hw hinner ih

/-- One more property at the end. -/
theorem Body.concat_prop {bs ps w : List σ} {b : σ} {cs : List (Node σ)} (h : Body marks bs ps cs)
    (hw : Written marks w b) : Body marks (bs ++ w) (ps ++ [b]) cs := by
  have hlast : Body marks w [b] [] := by
    have hnil : Body marks [] [] [] := .nil
    have hprop := Body.prop hw hnil
    rwa [List.append_nil] at hprop
  have happend := h.append hlast
  rwa [List.append_nil] at happend

/-- One more child at the end. -/
theorem Body.concat_child {bs ps bs' : List σ} {node : Node σ} {cs : List (Node σ)}
    (h : Body marks bs ps cs) (hnode : Framed marks bs' node) :
    Body marks (bs ++ bs') ps (cs ++ [node]) := by
  obtain ⟨kind, props, children⟩ := node
  obtain ⟨w, inner, hw, hinner, rfl⟩ := hnode
  have hlast : Body marks (marks.start :: (w ++ (inner ++ [marks.stop]))) []
      [⟨kind, props, children⟩] :=
    Body.child hw hinner .nil
  have happend := h.append hlast
  rwa [List.append_nil] at happend

/-! ### Every tree is written -/

section Serialise

variable [DecidableEq σ] (marks)

/-- A symbol, escaped when it is a mark. -/
def escaped (b : σ) : List σ := if marks.IsMark b then [marks.escape, b] else [b]

mutual

/-- The properties first, then the children, and only marks escaped. -/
def serialise : Node σ → List σ
  | ⟨kind, props, children⟩ =>
    marks.start :: (escaped marks kind ++ (props.flatMap (escaped marks) ++
      serialiseAll children) ++ [marks.stop])

def serialiseAll : List (Node σ) → List σ
  | [] => []
  | node :: rest => serialise node ++ serialiseAll rest

end

variable {marks}

theorem written_escaped (b : σ) : Written marks (escaped marks b) b := by
  rw [escaped]
  by_cases h : marks.IsMark b
  · rw [if_pos h]
    exact .escaped b
  · rw [if_neg h]
    exact .plain h

theorem body_props (ps : List σ) : Body marks (ps.flatMap (escaped marks)) ps [] := by
  induction ps with
  | nil => exact .nil
  | cons b ps ih =>
    rw [List.flatMap_cons]
    exact .prop (written_escaped b) ih

mutual

/-- What is written for a tree stands for it. -/
theorem framed_serialise : (node : Node σ) → Framed marks (serialise marks node) node
  | ⟨kind, props, children⟩ => by
    refine ⟨escaped marks kind, props.flatMap (escaped marks) ++ serialiseAll marks children,
      written_escaped kind, ?_, by rw [serialise, List.append_assoc]⟩
    have hprops : Body marks (props.flatMap (escaped marks)) props [] := body_props props
    have hbody := hprops.append (body_serialiseAll children)
    rwa [List.append_nil, List.nil_append] at hbody

theorem body_serialiseAll : (nodes : List (Node σ)) →
    Body marks (serialiseAll marks nodes) [] nodes
  | [] => .nil
  | ⟨kind, props, children⟩ :: rest => by
    obtain ⟨w, inner, hw, hinner, hbytes⟩ := framed_serialise ⟨kind, props, children⟩
    rw [serialiseAll, hbytes, List.cons_append, List.append_assoc, List.append_assoc]
    exact .child hw hinner (body_serialiseAll rest)

end

end Serialise

/-! ### Fronts of inputs -/

variable (marks)

/-- The input read while the nodes of the stack, the innermost first, were opened and not closed. -/
inductive Opened : List (Node σ) → List σ → Prop
  | nil : Opened [] []
  | push {stack : List (Node σ)} {front w inner ps : List σ} {k : σ} {cs : List (Node σ)} :
      Opened stack front → Written marks w k → Body marks inner ps cs →
      Opened (⟨k, ps, cs⟩ :: stack) (front ++ marks.start :: (w ++ inner))

variable {marks}

/-- Closing the innermost node. -/
theorem Opened.close {node : Node σ} {stack : List (Node σ)} {bs : List σ}
    (h : Opened marks (node :: stack) bs) :
    ∃ front whole, Opened marks stack front ∧ Framed marks whole node ∧
      bs ++ [marks.stop] = front ++ whole := by
  cases h with
  | @push _ front w inner ps k cs hstack hw hinner =>
    refine ⟨front, marks.start :: (w ++ (inner ++ [marks.stop])), hstack, ⟨w, inner, hw, hinner,
      rfl⟩, ?_⟩
    rw [List.append_assoc, List.cons_append, List.append_assoc]

/-- One more property of the innermost node. -/
theorem Opened.concat_prop {node : Node σ} {stack : List (Node σ)} {bs w : List σ} {b : σ}
    (h : Opened marks (node :: stack) bs) (hw : Written marks w b) :
    Opened marks ({ node with props := node.props ++ [b] } :: stack) (bs ++ w) := by
  cases h with
  | push hstack hk hinner =>
    rw [List.append_assoc, List.cons_append, List.append_assoc]
    exact .push hstack hk (hinner.concat_prop hw)

/-- One more child of the innermost node. -/
theorem Opened.concat_child {node child : Node σ} {stack : List (Node σ)} {bs bs' : List σ}
    (h : Opened marks (node :: stack) bs) (hchild : Framed marks bs' child) :
    Opened marks ({ node with children := node.children ++ [child] } :: stack) (bs ++ bs') := by
  cases h with
  | push hstack hk hinner =>
    rw [List.append_assoc, List.cons_append, List.append_assoc]
    exact .push hstack hk (hinner.concat_child hchild)

end NodeFraming
