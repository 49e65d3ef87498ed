import ForgottenEngine.Library.NodeFraming
import ForgottenEngine.Library.Rounds

/-!
# The node trees of map and item files

Map files and item files are trees of nodes in one framing.  Each loader has its own parser, a loop
over the bytes with a stack of open nodes; the two differ in their limits and in the texts of their
errors, and nothing else.

* `treeRound` — one pass of the loop, `parseTree` — the loop, which ends on every input;
* `passes_body` — the loop over the inside of a node, within the limits;
* `parseTree_of_framed` — an input that stands for a tree within the limits is parsed to it;
* `Reading` — what the loop keeps of the input behind it, and `framed_of_parseTree` with it;
* `trees_round_trip` — both parsers read back what is written, and nothing that is not framed.
-/

namespace ForgottenEngine

open NodeFraming Rounds

inductive ConfigError where
  | invalidContent (message : String)
deriving DecidableEq, Repr

/-- A node of the file. -/
abbrev Node := NodeFraming.Node UInt8

def otbMarks : Marks UInt8 where
  start := 0xfe
  stop := 0xff
  escape := 0xfd
  start_ne_stop := by decide
  start_ne_escape := by decide
  stop_ne_escape := by decide

/-- The limits of a parser and the texts of its errors. -/
structure TreeRules where
  maxNodes : ℕ
  maxDepth : ℕ
  noType : String
  noEscapedType : String
  reservedType : String
  tooManyNodes : String
  tooDeep : String
  unmatchedEnd : String
  manyRoots : String
  noEscapedValue : String
  outsideNode : String
  notClosed : String
  noRoot : String

def otbmRules : TreeRules where
  maxNodes := 12000000
  maxDepth := 64
  noType := "OTBM node start has no node type"
  noEscapedType := "OTBM escaped node type is missing a value"
  reservedType := "OTBM node type uses a reserved framing byte"
  tooManyNodes := "OTBM node count exceeds the configured limit"
  tooDeep := "OTBM node depth exceeds the configured limit"
  unmatchedEnd := "OTBM contains an unmatched node end"
  manyRoots := "OTBM contains more than one root node"
  noEscapedValue := "OTBM escape byte has no escaped value"
  outsideNode := "OTBM property data appears outside a node"
  notClosed := "OTBM ended before every node was closed"
  noRoot := "OTBM does not contain a root node"

def itemsRules : TreeRules where
  maxNodes := 300000
  maxDepth := 64
  noType := "OTB node start has no type"
  noEscapedType := "OTB escaped node type has no value"
  reservedType := "OTB node type uses a reserved framing byte"
  tooManyNodes := "OTB node count exceeds the configured limit"
  tooDeep := "OTB node depth exceeds the configured limit"
  unmatchedEnd := "OTB has an unmatched node end"
  manyRoots := "OTB contains more than one root node"
  noEscapedValue := "OTB escape byte has no escaped value"
  outsideNode := "OTB property data appears outside a node"
  notClosed := "OTB ended before every node was closed"
  noRoot := "OTB does not contain a root node"

/-! ### The loop -/

/-- What the loop has before it, its stack with the innermost node first, a finished root, and the
number of nodes so far. -/
structure TreeState where
  bytes : List UInt8
  stack : List Node
  root : Option Node
  nodeCount : ℕ

namespace TreeRules

variable (rules : TreeRules)

/-- The type of a node, and the bytes behind it. -/
def readFramedByte : List UInt8 → Except ConfigError (UInt8 × List UInt8)
  | [] => .error (.invalidContent rules.noType)
  | value :: rest =>
    if value = otbMarks.escape then
      match rest with
      | [] => .error (.invalidContent rules.noEscapedType)
      | escaped :: rest => .ok (escaped, rest)
    else if value = otbMarks.start ∨ value = otbMarks.stop then
      .error (.invalidContent rules.reservedType)
    else .ok (value, rest)

/-- Add a property to the innermost node. -/
def pushProp (value : UInt8) (rest : List UInt8) (s : TreeState) :
    TreeState ⊕ Except ConfigError Node :=
  match s.stack with
  | [] => .inr (.error (.invalidContent rules.outsideNode))
  | node :: stack =>
    .inl { s with bytes := rest, stack := { node with props := node.props ++ [value] } :: stack }

/-- Open a node. -/
def openNode (rest : List UInt8) (s : TreeState) : TreeState ⊕ Except ConfigError Node :=
  match rules.readFramedByte rest with
  | .error e => .inr (.error e)
  | .ok (kind, rest) =>
    if rules.maxNodes < s.nodeCount + 1 then .inr (.error (.invalidContent rules.tooManyNodes))
    else if rules.maxDepth ≤ s.stack.length then .inr (.error (.invalidContent rules.tooDeep))
    else .inl { s with
      bytes := rest, stack := ⟨kind, [], []⟩ :: s.stack, nodeCount := s.nodeCount + 1 }

/-- Close the innermost node. -/
def closeNode (rest : List UInt8) (s : TreeState) : TreeState ⊕ Except ConfigError Node :=
  match s.stack with
  | [] => .inr (.error (.invalidContent rules.unmatchedEnd))
  | [completed] =>
    if s.root.isSome then .inr (.error (.invalidContent rules.manyRoots))
    else .inl { s with bytes := rest, stack := [], root := some completed }
  | completed :: parent :: stack =>
    .inl { s with
      bytes := rest
      stack := { parent with children := parent.children ++ [completed] } :: stack }

/-- What is returned at the end of the input. -/
def finish (s : TreeState) : Except ConfigError Node :=
  match s.stack with
  | _ :: _ => .error (.invalidContent rules.notClosed)
  | [] => s.root.elim (.error (.invalidContent rules.noRoot)) .ok

/-- One pass of the loop. -/
def treeRound (s : TreeState) : TreeState ⊕ Except ConfigError Node :=
  match s.bytes with
  | [] => .inr (rules.finish s)
  | value :: rest =>
    if value = otbMarks.start then rules.openNode rest s
    else if value = otbMarks.stop then rules.closeNode rest s
    else if value = otbMarks.escape then
      match rest with
      | [] => .inr (.error (.invalidContent rules.noEscapedValue))
      | escaped :: rest => rules.pushProp escaped rest s
    else rules.pushProp value rest s

/-! ### What one pass does -/

theorem readFramedByte_eq_ok {bytes rest : List UInt8} {kind : UInt8} :
    rules.readFramedByte bytes = .ok (kind, rest) ↔
      ∃ w, Written otbMarks w kind ∧ bytes = w ++ rest := by
  constructor
  · intro h
    cases bytes with
    | nil => cases h
    | cons value bytes =>
      by_cases hescape : value = otbMarks.escape
      · cases bytes with
        | nil =>
          simp only [readFramedByte, if_pos hescape, reduceCtorEq] at h
        | cons escaped bytes =>
          simp only [readFramedByte, if_pos hescape, Except.ok.injEq, Prod.mk.injEq] at h
          obtain ⟨rfl, rfl⟩ := h
          exact ⟨[otbMarks.escape, escaped], .escaped escaped, by rw [hescape]; rfl⟩
      · by_cases hmark : value = otbMarks.start ∨ value = otbMarks.stop
        · simp only [readFramedByte, if_neg hescape, if_pos hmark, reduceCtorEq] at h
        · simp only [readFramedByte, if_neg hescape, if_neg hmark, Except.ok.injEq,
            Prod.mk.injEq] at h
          obtain ⟨rfl, rfl⟩ := h
          obtain ⟨hstart, hstop⟩ := not_or.mp hmark
          have hplain : ¬ otbMarks.IsMark value := by
            rintro (h | h | h)
            · exact hstart h
            · exact hstop h
            · exact hescape h
          exact ⟨[value], .plain hplain, rfl⟩
  · rintro ⟨w, hw, rfl⟩
    cases hw with
    | plain hb =>
      obtain ⟨hstart, hb⟩ := not_or.mp hb
      obtain ⟨hstop, hescape⟩ := not_or.mp hb
      show rules.readFramedByte (kind :: rest) = _
      simp only [readFramedByte, if_neg hescape, if_neg (not_or.mpr ⟨hstart, hstop⟩)]
    | escaped => rfl

/-- The passes that do not end the loop. -/
inductive TreeStep : TreeState → TreeState → Prop
  | opened {w rest : List UInt8} {kind : UInt8} {stack : List Node} {root : Option Node} {n : ℕ} :
      Written otbMarks w kind → n + 1 ≤ rules.maxNodes → stack.length < rules.maxDepth →
      TreeStep ⟨otbMarks.start :: (w ++ rest), stack, root, n⟩
        ⟨rest, ⟨kind, [], []⟩ :: stack, root, n + 1⟩
  | closedRoot {rest : List UInt8} {node : Node} {n : ℕ} :
      TreeStep ⟨otbMarks.stop :: rest, [node], none, n⟩ ⟨rest, [], some node, n⟩
  | closedChild {rest : List UInt8} {node parent : Node} {stack : List Node} {root : Option Node}
      {n : ℕ} :
      TreeStep ⟨otbMarks.stop :: rest, node :: parent :: stack, root, n⟩
        ⟨rest, { parent with children := parent.children ++ [node] } :: stack, root, n⟩
  | prop {w rest : List UInt8} {b : UInt8} {node : Node} {stack : List Node} {root : Option Node}
      {n : ℕ} : Written otbMarks w b →
      TreeStep ⟨w ++ rest, node :: stack, root, n⟩
        ⟨rest, { node with props := node.props ++ [b] } :: stack, root, n⟩

theorem openNode_eq_inl {rest : List UInt8} {s t : TreeState} (h : rules.openNode rest s = .inl t)
    (hs : s.bytes = otbMarks.start :: rest) : rules.TreeStep s t := by
  obtain ⟨bytes, stack, root, n⟩ := s
  obtain rfl : bytes = otbMarks.start :: rest := hs
  rw [openNode] at h
  cases hread : rules.readFramedByte rest with
  | error e =>
    rw [hread] at h
    cases h
  | ok read =>
    obtain ⟨kind, behind⟩ := read
    rw [hread] at h
    obtain ⟨w, hw, rfl⟩ := (rules.readFramedByte_eq_ok).mp hread
    dsimp only at h
    split at h
    · cases h
    · rename_i hcount
      split at h
      · cases h
      · rename_i hdepth
        cases h
        exact .opened hw (by omega) (by omega)

theorem closeNode_eq_inl {rest : List UInt8} {s t : TreeState}
    (h : rules.closeNode rest s = .inl t) (hs : s.bytes = otbMarks.stop :: rest) :
    rules.TreeStep s t := by
  obtain ⟨bytes, stack, root, n⟩ := s
  obtain rfl : bytes = otbMarks.stop :: rest := hs
  cases stack with
  | nil => cases h
  | cons node stack =>
    cases stack with
    | nil =>
      cases root with
      | none =>
        cases h
        exact .closedRoot
      | some _ => cases h
    | cons parent stack =>
      cases h
      exact .closedChild

theorem pushProp_eq_inl {w rest : List UInt8} {b : UInt8} {s t : TreeState}
    (h : rules.pushProp b rest s = .inl t) (hs : s.bytes = w ++ rest) (hw : Written otbMarks w b) :
    rules.TreeStep s t := by
  obtain ⟨bytes, stack, root, n⟩ := s
  obtain rfl : bytes = w ++ rest := hs
  cases stack with
  | nil => cases h
  | cons node stack =>
    cases h
    exact .prop hw

/-- **Every pass that does not end the loop is one of the four steps.** -/
theorem treeStep_of_treeRound {s t : TreeState} (h : rules.treeRound s = .inl t) :
    rules.TreeStep s t := by
  rw [treeRound] at h
  cases hbytes : s.bytes with
  | nil =>
    rw [hbytes] at h
    cases h
  | cons value rest =>
    rw [hbytes] at h
    dsimp only at h
    by_cases hstart : value = otbMarks.start
    · rw [if_pos hstart] at h
      exact rules.openNode_eq_inl h (by rw [hbytes, hstart])
    rw [if_neg hstart] at h
    by_cases hstop : value = otbMarks.stop
    · rw [if_pos hstop] at h
      exact rules.closeNode_eq_inl h (by rw [hbytes, hstop])
    rw [if_neg hstop] at h
    by_cases hescape : value = otbMarks.escape
    · rw [if_pos hescape] at h
      cases rest with
      | nil => cases h
      | cons escaped rest =>
        exact rules.pushProp_eq_inl h (by rw [hbytes, hescape]; rfl) (.escaped escaped)
    rw [if_neg hescape] at h
    have hplain : ¬ otbMarks.IsMark value := by
      rintro (h | h | h)
      · exact hstart h
      · exact hstop h
      · exact hescape h
    exact rules.pushProp_eq_inl h hbytes (.plain hplain)

/-- Each of the four steps is a pass. -/
theorem treeRound_of_treeStep {s t : TreeState} (h : rules.TreeStep s t) :
    rules.treeRound s = .inl t := by
  cases h with
  | @opened w rest kind stack root n hw hcount hdepth =>
    have hread : rules.readFramedByte (w ++ rest) = .ok (kind, rest) :=
      (rules.readFramedByte_eq_ok).mpr ⟨w, hw, rfl⟩
    show rules.openNode (w ++ rest) ⟨_, stack, root, n⟩ = _
    rw [openNode, hread]
    dsimp only
    rw [if_neg (by omega), if_neg (by omega)]
  | closedRoot => rfl
  | closedChild => rfl
  | @prop w rest b node stack root n hw =>
    cases hw with
    | plain hb =>
      obtain ⟨hstart, hb⟩ := not_or.mp hb
      obtain ⟨hstop, hescape⟩ := not_or.mp hb
      rw [treeRound]
      show (if b = otbMarks.start then _ else _) = _
      rw [if_neg hstart, if_neg hstop, if_neg hescape]
      rfl
    | escaped => rfl

theorem treeStep_less {s t : TreeState} (h : rules.TreeStep s t) :
    t.bytes.length < s.bytes.length := by
  cases h with
  | opened hw _ _ =>
    simp only [List.length_cons, List.length_append]
    omega
  | closedRoot => exact Nat.lt_succ_self _
  | closedChild => exact Nat.lt_succ_self _
  | prop hw =>
    cases hw with
    | plain => exact Nat.lt_succ_self _
    | escaped => exact Nat.lt_succ_of_lt (Nat.lt_succ_self _)

/-- Every pass takes bytes off the input. -/
theorem treeRound_less (s t : TreeState) (h : rules.treeRound s = .inl t) :
    t.bytes.length < s.bytes.length :=
  rules.treeStep_less (rules.treeStep_of_treeRound h)

/-- The parser of a loader. -/
def parseTree (bytes : List UInt8) : Except ConfigError Node :=
  loop rules.treeRound (fun s => s.bytes.length) rules.treeRound_less ⟨bytes, [], none, 0⟩

/-! ### From framed input to the tree -/

theorem passes_step {s t : TreeState} (h : rules.TreeStep s t) : Passes rules.treeRound s t :=
  .single (rules.treeRound_of_treeStep h)

/-- The loop over the inside of a node, within the limits. -/
theorem passes_body {bs ps : List UInt8} {cs : List Node} (h : Body otbMarks bs ps cs)
    {kind : UInt8} {props : List UInt8} {children stack : List Node} {root : Option Node} {n : ℕ}
    {rest : List UInt8} (hcount : n + Node.sizes cs ≤ rules.maxNodes)
    (hdepth : stack.length + 1 + Node.depths cs ≤ rules.maxDepth) :
    Passes rules.treeRound ⟨bs ++ rest, ⟨kind, props, children⟩ :: stack, root, n⟩
      ⟨rest, ⟨kind, props ++ ps, children ++ cs⟩ :: stack, root, n + Node.sizes cs⟩ := by
  induction h generalizing kind props children stack n rest with
  | nil =>
    rw [List.append_nil, List.append_nil]
    exact .refl
  | @prop w bs ps b cs hw _ ih =>
    have hstep : rules.TreeStep ⟨w ++ (bs ++ rest), ⟨kind, props, children⟩ :: stack, root, n⟩
        ⟨bs ++ rest, ⟨kind, props ++ [b], children⟩ :: stack, root, n⟩ := .prop hw
    have hrest : Passes rules.treeRound
        ⟨bs ++ rest, ⟨kind, props ++ [b], children⟩ :: stack, root, n⟩
        ⟨rest, ⟨kind, props ++ [b] ++ ps, children ++ cs⟩ :: stack, root, n + Node.sizes cs⟩ :=
      ih hcount hdepth
    rw [List.append_assoc] at hrest
    rw [List.append_assoc]
    exact (rules.passes_step hstep).trans hrest
  | @child w inner bs ips ps k ics cs hw _ _ ihinner ihrest =>
    rw [Node.sizes, Node.size] at hcount
    rw [Node.depths, Node.depth] at hdepth
    have hleft := le_max_left (1 + Node.depths ics) (Node.depths cs)
    have hright := le_max_right (1 + Node.depths ics) (Node.depths cs)
    have hopen : rules.TreeStep
        ⟨otbMarks.start :: (w ++ (inner ++ otbMarks.stop :: (bs ++ rest))),
          ⟨kind, props, children⟩ :: stack, root, n⟩
        ⟨inner ++ otbMarks.stop :: (bs ++ rest),
          ⟨k, [], []⟩ :: ⟨kind, props, children⟩ :: stack, root, n + 1⟩ :=
      .opened hw (by omega) (by rw [List.length_cons]; omega)
    have hinner : Passes rules.treeRound
        ⟨inner ++ otbMarks.stop :: (bs ++ rest),
          ⟨k, [], []⟩ :: ⟨kind, props, children⟩ :: stack, root, n + 1⟩
        ⟨otbMarks.stop :: (bs ++ rest),
          ⟨k, ips, ics⟩ :: ⟨kind, props, children⟩ :: stack, root, n + 1 + Node.sizes ics⟩ :=
      ihinner (by omega) (by rw [List.length_cons]; omega)
    have hclose : rules.TreeStep
        ⟨otbMarks.stop :: (bs ++ rest),
          ⟨k, ips, ics⟩ :: ⟨kind, props, children⟩ :: stack, root, n + 1 + Node.sizes ics⟩
        ⟨bs ++ rest, ⟨kind, props, children ++ [⟨k, ips, ics⟩]⟩ :: stack, root,
          n + 1 + Node.sizes ics⟩ := .closedChild
    have hrest : Passes rules.treeRound
        ⟨bs ++ rest, ⟨kind, props, children ++ [⟨k, ips, ics⟩]⟩ :: stack, root,
          n + 1 + Node.sizes ics⟩
        ⟨rest, ⟨kind, props ++ ps, children ++ [⟨k, ips, ics⟩] ++ cs⟩ :: stack, root,
          n + 1 + Node.sizes ics + Node.sizes cs⟩ := ihrest (by omega) (by omega)
    rw [List.append_assoc] at hrest
    have htotal : n + Node.sizes (⟨k, ips, ics⟩ :: cs) =
        n + 1 + Node.sizes ics + Node.sizes cs := by
      rw [Node.sizes, Node.size]
      omega
    rw [htotal, List.cons_append, List.append_assoc, List.append_assoc, List.cons_append]
    exact (rules.passes_step hopen).trans (hinner.trans ((rules.passes_step hclose).trans hrest))

/-- The loop over a whole node, from the start of an input. -/
theorem passes_framed {bs : List UInt8} {node : Node} (h : Framed otbMarks bs node)
    (hcount : node.size ≤ rules.maxNodes) (hdepth : node.depth ≤ rules.maxDepth)
    (rest : List UInt8) :
    Passes rules.treeRound ⟨bs ++ rest, [], none, 0⟩ ⟨rest, [], some node, node.size⟩ := by
  obtain ⟨kind, props, children⟩ := node
  obtain ⟨w, inner, hw, hinner, rfl⟩ := h
  rw [Node.size] at hcount
  rw [Node.depth] at hdepth
  have hopen : rules.TreeStep
      ⟨otbMarks.start :: (w ++ (inner ++ otbMarks.stop :: rest)), [], none, 0⟩
      ⟨inner ++ otbMarks.stop :: rest, [⟨kind, [], []⟩], none, 0 + 1⟩ :=
    .opened hw (by omega) (by rw [List.length_nil]; omega)
  have hbody : Passes rules.treeRound
      ⟨inner ++ otbMarks.stop :: rest, [⟨kind, [], []⟩], none, 0 + 1⟩
      ⟨otbMarks.stop :: rest, [⟨kind, props, children⟩], none, 0 + 1 + Node.sizes children⟩ :=
    rules.passes_body hinner (by omega) (by rw [List.length_nil]; omega)
  have hclose : rules.TreeStep
      ⟨otbMarks.stop :: rest, [⟨kind, props, children⟩], none, 0 + 1 + Node.sizes children⟩
      ⟨rest, [], some ⟨kind, props, children⟩, 0 + 1 + Node.sizes children⟩ := .closedRoot
  have htotal : Node.size (⟨kind, props, children⟩ : Node) = 0 + 1 + Node.sizes children := by
    rw [Node.size, Nat.zero_add]
  rw [htotal, List.cons_append, List.append_assoc, List.append_assoc]
  exact (rules.passes_step hopen).trans (hbody.trans (rules.passes_step hclose))

/-- Input that stands for a tree within the limits is parsed to it. -/
theorem parseTree_of_framed {bs : List UInt8} {node : Node} (h : Framed otbMarks bs node)
    (hcount : node.size ≤ rules.maxNodes) (hdepth : node.depth ≤ rules.maxDepth) :
    rules.parseTree bs = .ok node := by
  have hpasses := rules.passes_framed h hcount hdepth []
  rw [List.append_nil] at hpasses
  rw [parseTree, loop_passes hpasses]
  exact loop_stop rfl

/-! ### From the tree back to the input -/

/-- A finished root stands behind what was read of it. -/
def RootFramed : Option Node → List UInt8 → Prop
  | none, whole => whole = []
  | some node, whole => Framed otbMarks whole node

/-- The open nodes leave their depth within the limit. -/
def KeptDepths : List Node → Prop
  | [] => True
  | node :: stack => stack.length + node.depth ≤ rules.maxDepth ∧ KeptDepths stack

/-- What the loop keeps: the input is a finished root, some nodes still open, and the rest. -/
structure Reading (input : List UInt8) (s : TreeState) : Prop where
  split : ∃ whole front, input = whole ++ (front ++ s.bytes) ∧ Opened otbMarks s.stack front ∧
    RootFramed s.root whole
  count : s.nodeCount = Node.sizes s.root.toList + Node.sizes s.stack
  count_le : s.nodeCount ≤ rules.maxNodes
  depths : rules.KeptDepths s.stack
  root_depth : ∀ node ∈ s.root, node.depth ≤ rules.maxDepth

theorem reading_start (input : List UInt8) : rules.Reading input ⟨input, [], none, 0⟩ where
  split := ⟨[], [], rfl, .nil, rfl⟩
  count := rfl
  count_le := Nat.zero_le _
  depths := trivial
  root_depth := fun _ h => nomatch h

/-- Each pass keeps it, one case a step. -/
theorem Reading.step {input : List UInt8} {s t : TreeState} (h : rules.Reading input s)
    (hstep : rules.TreeStep s t) : rules.Reading input t := by
  obtain ⟨⟨whole, front, hsplit, hopened, hroot⟩, hcount, hcountLe, hdepths, hrootDepth⟩ := h
  cases hstep with
  | @opened w rest kind stack root n hw hmax hdepth =>
    refine ⟨⟨whole, front ++ otbMarks.start :: (w ++ []), ?_, .push hopened hw .nil, hroot⟩, ?_,
      hmax, ⟨?_, hdepths⟩, hrootDepth⟩
    · rw [hsplit, List.append_nil, List.append_assoc, List.cons_append]
    · dsimp only at hcount ⊢
      rw [Node.sizes, Node.size, Node.sizes]
      omega
    · rw [Node.depth, Node.depths]
      exact hdepth
  | @closedRoot rest node n =>
    obtain ⟨before, bs, hbefore, hframed, hbytes⟩ := hopened.close
    cases hbefore
    refine ⟨⟨bs, [], ?_, .nil, hframed⟩, ?_, hcountLe, trivial, ?_⟩
    · rw [hsplit, show whole = [] from hroot, List.append_cons, hbytes]
      rfl
    · exact hcount.trans (Nat.add_comm _ _)
    · intro node' hmem
      cases hmem
      have hone := hdepths.1
      rwa [List.length_nil, Nat.zero_add] at hone
  | @closedChild rest node parent stack root n =>
    obtain ⟨before, bs, hbefore, hframed, hbytes⟩ := hopened.close
    refine ⟨⟨whole, before ++ bs, ?_, hbefore.concat_child hframed, hroot⟩, ?_, hcountLe, ?_,
      hrootDepth⟩
    · rw [hsplit, List.append_cons, hbytes]
    · obtain ⟨kind, props, children⟩ := parent
      dsimp only at hcount ⊢
      rw [Node.sizes, Node.sizes, Node.size] at hcount
      rw [Node.sizes, Node.size, Node.sizes_append, Node.sizes, Node.sizes]
      omega
    · obtain ⟨hnode, hparent, hbehind⟩ := hdepths
      refine ⟨?_, hbehind⟩
      obtain ⟨kind, props, children⟩ := parent
      rw [List.length_cons] at hnode
      rw [Node.depth] at hparent
      dsimp only
      rw [Node.depth, Node.depths_append, Node.depths, Node.depths, Nat.max_zero]
      have hmax := max_le (a := Node.depths children) (b := node.depth)
        (c := rules.maxDepth - stack.length - 1) (by omega) (by omega)
      have hpos : 1 ≤ rules.maxDepth - stack.length := by omega
      omega
  | @prop w rest b node stack root n hw =>
    refine ⟨⟨whole, front ++ w, ?_, hopened.concat_prop hw, hroot⟩, ?_, hcountLe, ?_, hrootDepth⟩
    · rw [hsplit, List.append_assoc]
    · obtain ⟨kind, props, children⟩ := node
      dsimp only at hcount ⊢
      rw [Node.sizes, Node.size] at hcount ⊢
      exact hcount
    · obtain ⟨kind, props, children⟩ := node
      refine ⟨?_, hdepths.2⟩
      have hnode := hdepths.1
      rw [Node.depth] at hnode ⊢
      exact hnode

theorem openNode_ne_ok {rest : List UInt8} {s : TreeState} {node : Node} :
    rules.openNode rest s ≠ .inr (.ok node) := by
  intro h
  rw [openNode] at h
  split at h
  · cases h
  · split at h
    · cases h
    · split at h
      · cases h
      · cases h

theorem closeNode_ne_ok {rest : List UInt8} {s : TreeState} {node : Node} :
    rules.closeNode rest s ≠ .inr (.ok node) := by
  intro h
  rw [closeNode] at h
  split at h
  · cases h
  · split at h
    · cases h
    · cases h
  · cases h

theorem pushProp_ne_ok {b : UInt8} {rest : List UInt8} {s : TreeState} {node : Node} :
    rules.pushProp b rest s ≠ .inr (.ok node) := by
  intro h
  rw [pushProp] at h
  split at h
  · cases h
  · cases h

/-- A tree is only returned at the end of the input, with no node open. -/
theorem treeRound_eq_ok {s : TreeState} {node : Node} (h : rules.treeRound s = .inr (.ok node)) :
    s.bytes = [] ∧ s.stack = [] ∧ s.root = some node := by
  rw [treeRound] at h
  cases hbytes : s.bytes with
  | nil =>
    rw [hbytes] at h
    have hfinish : rules.finish s = .ok node := Sum.inr.inj h
    rw [finish] at hfinish
    cases hstack : s.stack with
    | cons _ _ =>
      rw [hstack] at hfinish
      cases hfinish
    | nil =>
      rw [hstack] at hfinish
      cases hroot : s.root with
      | none =>
        rw [hroot] at hfinish
        cases hfinish
      | some root =>
        rw [hroot] at hfinish
        cases hfinish
        exact ⟨rfl, rfl, rfl⟩
  | cons value rest =>
    rw [hbytes] at h
    dsimp only at h
    split at h
    · exact absurd h rules.openNode_ne_ok
    split at h
    · exact absurd h rules.closeNode_ne_ok
    split at h
    · cases rest with
      | nil => cases h
      | cons escaped rest => exact absurd h rules.pushProp_ne_ok
    · exact absurd h rules.pushProp_ne_ok

/-- A tree that is returned is within the limits, and the input stands for it. -/
theorem framed_of_parseTree {bs : List UInt8} {node : Node} (h : rules.parseTree bs = .ok node) :
    Framed otbMarks bs node ∧ node.size ≤ rules.maxNodes ∧ node.depth ≤ rules.maxDepth := by
  obtain ⟨n, hrun⟩ : ∃ n, EndsIn rules.treeRound n ⟨bs, [], none, 0⟩ (rules.parseTree bs) :=
    endsIn_loop _
  have hresult := EndsIn.result (I := rules.Reading bs)
    (Q := fun r => ∀ node, r = .ok node →
      Framed otbMarks bs node ∧ node.size ≤ rules.maxNodes ∧ node.depth ≤ rules.maxDepth)
    (fun s t hs hround => hs.step rules (rules.treeStep_of_treeRound hround))
    (by
      intro s r hs hround node hr
      subst hr
      obtain ⟨hbytes, hstack, hroot⟩ := rules.treeRound_eq_ok hround
      obtain ⟨whole, front, hsplit, hopened, hframed⟩ := hs.split
      have hcount := hs.count
      have hle := hs.count_le
      rw [hstack] at hopened
      cases hopened
      rw [hroot] at hframed
      rw [hroot, hstack, Option.toList_some, Node.sizes, Node.sizes, Node.sizes] at hcount
      rw [hbytes, List.append_nil, List.append_nil] at hsplit
      refine ⟨hsplit ▸ hframed, by omega, hs.root_depth node hroot⟩)
    hrun (rules.reading_start bs)
  exact hresult node h

/-! ### Truncated input -/

/-- A root is finished, and there is something left to read or to close. -/
def Overrun (s : TreeState) : Prop := s.root.isSome ∧ (s.stack = [] → s.bytes ≠ [])

theorem Overrun.step {s t : TreeState} (h : Overrun s) (hstep : rules.TreeStep s t) :
    Overrun t := by
  cases hstep with
  | opened _ _ _ => exact ⟨h.1, fun hnil => absurd hnil (List.cons_ne_nil _ _)⟩
  | closedRoot => exact absurd h.1 Bool.false_ne_true
  | closedChild => exact ⟨h.1, fun hnil => absurd hnil (List.cons_ne_nil _ _)⟩
  | prop _ => exact ⟨h.1, fun hnil => absurd hnil (List.cons_ne_nil _ _)⟩

end TreeRules

/-- Nothing that stands for a tree goes on behind an input that does. -/
theorem eq_nil_of_framed {front rest : List UInt8} {node other : Node}
    (h : Framed otbMarks (front ++ rest) node) (hfront : Framed otbMarks front other) :
    rest = [] := by
  by_contra hrest
  -- A parser without effective limits reads the whole input, and stops behind its front.
  let rules : TreeRules := { otbmRules with
    maxNodes := max node.size other.size, maxDepth := max node.depth other.depth }
  have hwhole : rules.parseTree (front ++ rest) = .ok node :=
    rules.parseTree_of_framed h (le_max_left _ _) (le_max_left _ _)
  have hpasses := rules.passes_framed hfront (le_max_right _ _) (le_max_right _ _) rest
  rw [TreeRules.parseTree, loop_passes hpasses] at hwhole
  obtain ⟨n, hrun⟩ : ∃ n, EndsIn rules.treeRound n ⟨rest, [], some other, other.size⟩
      (.ok node) := hwhole ▸ endsIn_loop _
  have hresult := EndsIn.result (I := TreeRules.Overrun) (Q := fun r => ∀ node, r ≠ .ok node)
    (fun s t hs hround => hs.step rules (rules.treeStep_of_treeRound hround))
    (by
      intro s r hs hround node hr
      subst hr
      obtain ⟨hbytes, hstack, -⟩ := rules.treeRound_eq_ok hround
      exact hs.2 hstack hbytes)
    hrun ⟨rfl, fun _ => hrest⟩
  exact hresult node rfl

/-! ### The two loaders -/

/-- The parser of the map loader. -/
def Otbm.parseTree : List UInt8 → Except ConfigError Node := otbmRules.parseTree

/-- The parser of the item loader. -/
def Items.parseTree : List UInt8 → Except ConfigError Node := itemsRules.parseTree

/-- The framing the tests of both loaders write: the type as it is, the properties escaped. -/
def framedNode (kind : UInt8) (props : List UInt8) (children : List (List UInt8)) : List UInt8 :=
  [otbMarks.start, kind] ++ props.flatMap (escaped otbMarks) ++ children.flatten ++
    [otbMarks.stop]

mutual

/-- A tree written with `framedNode`. -/
def frame : Node → List UInt8
  | ⟨kind, props, children⟩ => framedNode kind props (frameAll children)

def frameAll : List Node → List (List UInt8)
  | [] => []
  | node :: rest => frame node :: frameAll rest

end

mutual

/-- No node has a mark for its type. -/
def PlainKinds : Node → Prop
  | ⟨kind, _, children⟩ => ¬ otbMarks.IsMark kind ∧ AllPlainKinds children

def AllPlainKinds : List Node → Prop
  | [] => True
  | node :: rest => PlainKinds node ∧ AllPlainKinds rest

end

mutual

theorem frame_eq_serialise : (node : Node) → PlainKinds node → frame node = serialise otbMarks node
  | ⟨kind, props, children⟩, h => by
    have hkind : escaped otbMarks kind = [kind] := if_neg h.1
    rw [frame, framedNode, frameAll_flatten children h.2, serialise, hkind]
    simp only [List.cons_append, List.nil_append, List.append_assoc]

theorem frameAll_flatten : (nodes : List Node) → AllPlainKinds nodes →
    (frameAll nodes).flatten = serialiseAll otbMarks nodes
  | [], _ => rfl
  | node :: rest, h => by
    rw [frameAll, List.flatten_cons, frame_eq_serialise node h.1, frameAll_flatten rest h.2,
      serialiseAll]

end

/-- A parser reads trees within its limits back from their framing, and fails on anything that is
not the framing of a tree, and on anything cut off. -/
structure ReadsTrees (rules : TreeRules) (parse : List UInt8 → Except ConfigError Node) :
    Prop where
  round_trip : ∀ node : Node, node.size ≤ rules.maxNodes → node.depth ≤ rules.maxDepth →
    parse (serialise otbMarks node) = .ok node ∧ (PlainKinds node → parse (frame node) = .ok node)
  malformed : ∀ bs, (∀ node, ¬ Framed otbMarks bs node) → ∃ text, parse bs =
    .error (.invalidContent text)
  truncated : ∀ bs node front rest, Framed otbMarks bs node → bs = front ++ rest → rest ≠ [] →
    ∃ text, parse front = .error (.invalidContent text)

theorem TreeRules.readsTrees (rules : TreeRules) : ReadsTrees rules rules.parseTree := by
  have hmalformed : ∀ bs, (∀ node, ¬ Framed otbMarks bs node) →
      ∃ text, rules.parseTree bs = .error (.invalidContent text) := by
    intro bs h
    cases hparse : rules.parseTree bs with
    | ok node => exact absurd (rules.framed_of_parseTree hparse).1 (h node)
    | error e =>
      obtain ⟨text⟩ := e
      exact ⟨text, rfl⟩
  refine ⟨?_, hmalformed, ?_⟩
  · intro node hcount hdepth
    have hparse := rules.parseTree_of_framed (framed_serialise node) hcount hdepth
    refine ⟨hparse, ?_⟩
    intro hkinds
    rw [frame_eq_serialise node hkinds]
    exact hparse
  · intro bs node front rest hframed hsplit hrest
    subst hsplit
    exact hmalformed front fun other hother => hrest (eq_nil_of_framed hframed hother)

/-- **Trees make the round trip through both parsers.**  Both loops end on every input. -/
theorem trees_round_trip :
    ReadsTrees otbmRules Otbm.parseTree ∧ ReadsTrees itemsRules Items.parseTree ∧
      ∀ (rules : TreeRules) (bs : List UInt8), ∃ n, n ≤ bs.length + 1 ∧
        EndsIn rules.treeRound n ⟨bs, [], none, 0⟩ (rules.parseTree bs) := by
  refine ⟨otbmRules.readsTrees, itemsRules.readsTrees, ?_⟩
  intro rules bs
  obtain ⟨n, hrun⟩ : ∃ n, EndsIn rules.treeRound n ⟨bs, [], none, 0⟩ (rules.parseTree bs) :=
    endsIn_loop _
  obtain ⟨k, r, hk, hother⟩ := exists_endsIn (I := fun _ : TreeState => True)
    (fun s t _ hround => ⟨trivial, rules.treeRound_less s t hround⟩)
    (s := (⟨bs, [], none, 0⟩ : TreeState)) trivial
  obtain ⟨rfl, rfl⟩ := hrun.unique hother
  exact ⟨n, hk, hrun⟩

end ForgottenEngine
