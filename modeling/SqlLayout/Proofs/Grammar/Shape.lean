import SqlLayout.Proofs.Grammar.Run

/-!
# Which forests the grammar recognises

`Reads` says how a run moves; this module says what it may recognise. `Shaped ts kind depth toks items
rest` says that a node of the given kind, with `depth` groups around its items, may hold `items` if they
are read off the significant tokens `toks` up to `rest`. It settles for every node which kinds may stand
in it, what it starts with, which of its tokens are malformed, and that groups are not nested too deeply.
Of a `CASE` it settles that no branch stands behind `END`, of a declaration that its parts come before its
semicolon, of a branch `WHEN` that it has a `THEN` or is complained about, and of a `CASE` statement with
branches that its `END` is on the level outside it or that something in it is complained about.

`Yields` ties the relation to the states of the grammar. It has one rule for each way in which rules of
the grammar are put together.
-/

namespace SqlLayout.Grammar

variable {ts : TokenStream} {s t u : State} {kind : NodeKind}

/-! ### What may stand where -/

/-- Nodes that hold a run of atoms. -/
def holdsAtoms : NodeKind → Bool
  | .expression | .listElement | .declarationPart _ => true
  | _ => false

/-- Nodes that an atom may be. -/
def isAtom : NodeKind → Bool
  | .parenthesized | .caseOf | .expression | .functionCall | .error _ => true
  | _ => false

/-- Nodes that count as groups when they are nested. -/
def isGroup : NodeKind → Bool
  | .parenthesized | .declarationList | .caseOf | .caseStatement | .block | .ifStatement
  | .loopStatement => true
  | _ => false

/-- Which nodes may stand in a node. -/
def mayHold : NodeKind → NodeKind → Bool
  | .expression, k | .listElement, k | .declarationPart _, k => isAtom k
  | .commaList, k => k == .listElement
  | .clause, k =>
    k == .parenthesized || k == .commaList || k == .expression || k == .declarationList || k.isError
  | .statement, k => k == .clause
  | .parenthesized, k => k == .statement || k == .commaList
  | .functionCall, k => k == .parenthesized || k.isError
  | .caseOf, k | .caseStatement, k => k == .expression || k == .whenBranch || k == .elseBranch
  | .whenBranch, k | .elseBranch, k => k == .expression || k == .statementList
  | .root, k | .statementList, k => k.isStatement || k.isError
  | .functionDefinition, k =>
    k == .declarationList || k == .functionBody || k == .clause || k.isError
  | .functionBody, k => k == .statementList || k.isError
  | .tableDefinition, k => k == .declarationList || k == .clause || k.isError
  | .doBlock, k => k == .clause || k == .functionBody
  | .declarationList, k => k == .declaration
  | .declaration, .declarationPart _ => true
  | .declareSection, k => k == .declaration || k.isError
  | .block, k => k == .declareSection || k == .statementList || k == .exceptionSection
  | .exceptionSection, k => k == .whenBranch
  | .ifStatement, k => k == .conditionalBranch
  | .conditionalBranch, k => k == .expression || k == .statementList
  | .loopStatement, k => k == .expression || k == .statement || k == .statementList
  | _, _ => false

/--
Which tokens a node may have as leaves. Outside of error nodes a malformed token is read as a leaf in two
places only, by rules that take a keyword without looking.
-/
def mayTake (kind : NodeKind) (role : LeafRole) (token : TokenKind) : Bool :=
  token != .error || kind.isError || (role == .keyword && (kind == .clause || kind == .tableDefinition))

/-- Which tokens may be the first leaf of a node that starts with a leaf. -/
def mayOpen : NodeKind → TokenKind → Bool
  | .parenthesized, k | .declarationList, k => k == .lParen
  | .caseOf, k | .caseStatement, k => k == .keyword .CASE
  | .whenBranch, k => k == .keyword .WHEN
  | .functionBody, k => k != .bodyClose
  | .declaration, _ | .ifStatement, _ => false
  | _, _ => true

/-- Which nodes may stand first in a node. -/
def mayLead : NodeKind → NodeKind → Bool
  | .block, k => k == .declareSection
  | .root, _ | .statementList, _ | .statement, _ | .clause, _ | .commaList, _ | .listElement, _
  | .expression, _ | .declaration, _ | .declarationPart _, _ | .ifStatement, _ => true
  | _, _ => false

/-- Whether an item may be the first one of a node whose first token is of the given kind. -/
def leads (kind : NodeKind) (token : TokenKind) : Item → Bool
  | .leaf _ => mayOpen kind token
  | .node k _ => mayLead kind k
  | .error _ => false

/-- Nodes that are no groups, and of which it does not matter which items they hold besides the first. -/
def isLoose : NodeKind → Bool
  | .whenBranch | .declaration => false
  | k => !isGroup k

/-- Whether a node is a `CASE`. -/
def isCase : NodeKind → Bool
  | .caseOf | .caseStatement => true
  | _ => false

/-- Nodes in which all leaves stand at the end, apart from one that may come first. -/
def endsInLeaves (kind : NodeKind) : Bool :=
  isCase kind || kind == .declaration

/-- Whether an item is a leaf. -/
def Item.isLeaf : Item → Bool
  | .leaf _ => true
  | _ => false

/-- Whether an item is a node. -/
def Item.isNode : Item → Bool
  | .node _ _ => true
  | _ => false

/-- Whether an item is a branch of a `CASE`. -/
def Item.isBranch : Item → Bool
  | .node k _ => k == .whenBranch || k == .elseBranch
  | _ => false

/-- Where leaves stand at the end, such as `END` in a `CASE`, no node stands behind a leaf. -/
def InOrder (kind : NodeKind) (items : List Item) : Prop :=
  endsInLeaves kind = true → items.Pairwise fun x y => x.isLeaf = true → y.isNode = false

/-- Whether items start with something that is read. -/
def isRead : List Item → Bool
  | .leaf _ :: _ | .node _ _ :: _ => true
  | _ => false

/-- Kind of the first of some tokens, and the end of input if there is none. -/
def headKind (ts : TokenStream) (toks : List Nat) : TokenKind :=
  ts.kind (toks.headD ts.lastIndex)

/-- Whether `LOOP` comes next, or a complaint that it does not. -/
def atLoop (ts : TokenStream) (toks : List Nat) : List Item → Prop
  | .leaf _ :: _ => headKind ts toks = .keyword .LOOP
  | .error _ :: _ => True
  | _ => False

/-- Whether a leaf of the wanted kind, or a complaint, is among items that are read off tokens. -/
def meets (ts : TokenStream) (wanted : TokenKind) : List Nat → List Item → Prop
  | _, [] => False
  | toks, .leaf _ :: xs => headKind ts toks = wanted ∨ meets ts wanted (toks.drop 1) xs
  | _, .error _ :: _ => True
  | toks, .node _ ys :: xs => meets ts wanted (toks.drop (Item.leavesOf ys)) xs

/-- Whether something is complained about in items, however deep. -/
def complains (items : List Item) : Prop :=
  ∃ cause, Event.error cause ∈ Item.eventsOf items

/--
The tokens `toks` up to `rest` start with `CASE`, and one of the last is an `END` on the level outside that
`CASE` or on a lower one. Behind it stands what ends a `CASE` statement.
-/
def EndsCase (ts : TokenStream) (toks rest : List Nat) : Prop :=
  ∃ first read last tail, toks = first :: (read ++ last :: (tail ++ rest))
    ∧ ts.kind first = .keyword .CASE ∧ ts.kind last = .keyword .END
    ∧ (ts.get last).blockLevel ≤ ts.levelOutside first
    ∧ (tail.map ts.kind).Sublist [.keyword .CASE, .semicolon]

/-- What a node must hold besides a first item, if its items are read off the tokens `toks` up to `rest`. -/
structure Settled (ts : TokenStream) (kind : NodeKind) (toks : List Nat) (items : List Item)
    (rest : List Nat) : Prop where
  answered : kind = .whenBranch → meets ts (.keyword .THEN) toks items
  closed : kind = .caseStatement → (∃ x ∈ items, x.isBranch = true) → complains items ∨ EndsCase ts toks rest

/-- A node may hold items if they are read off the tokens `toks` up to `rest`. -/
inductive Shaped (ts : TokenStream) : NodeKind → Nat → List Nat → List Item → List Nat → Prop where
  | nil (kind : NodeKind) (depth : Nat) (toks : List Nat) :
    Shaped ts kind depth toks [] toks
  | leaf {kind : NodeKind} {depth i : Nat} {role : LeafRole} {toks rest : List Nat} {xs : List Item} :
    mayTake kind role (ts.kind i) = true →
    Shaped ts kind depth toks xs rest →
    Shaped ts kind depth (i :: toks) (.leaf role :: xs) rest
  | complain {kind : NodeKind} {depth : Nat} (cause : Complaint) {toks rest : List Nat}
      {xs : List Item} :
    Shaped ts kind depth toks xs rest →
    Shaped ts kind depth toks (.error cause :: xs) rest
  | node {kind k : NodeKind} {depth : Nat} {toks mid rest : List Nat} {y : Item} {ys xs : List Item} :
    mayHold kind k = true →
    (isGroup k = true → depth < maxNesting) →
    leads k (headKind ts toks) y = true →
    InOrder k ys →
    Settled ts k toks (y :: ys) mid →
    Shaped ts k (depth + (isGroup k).toNat) toks (y :: ys) mid →
    Shaped ts kind depth mid xs rest →
    Shaped ts kind depth toks (.node k (y :: ys) :: xs) rest
  /-- The query of a loop is empty where its targets hold the `IN` that was looked for. -/
  | query {depth : Nat} {toks rest : List Nat} {xs : List Item} :
    atLoop ts toks xs →
    Shaped ts .loopStatement depth toks xs rest →
    Shaped ts .loopStatement depth toks (.node .statement [] :: xs) rest
  | reject {kind : NodeKind} {depth : Nat} (cause : Complaint) {roles : List LeafRole}
      {read toks rest : List Nat} {xs : List Item} :
    mayHold kind (.error 0) = true →
    roles.length = read.length →
    read ≠ [] →
    Shaped ts kind depth toks xs rest →
    Shaped ts kind depth (read ++ toks) (.node (.error 0) (.error cause :: roles.map .leaf) :: xs) rest

lemma isRead_of_leads {token : TokenKind} {x : Item} {xs : List Item} (h : leads kind token x = true) :
    isRead (x :: xs) = true := by
  cases x with
  | leaf | node => rfl
  | error => exact absurd h nofun

lemma isRead_append {xs : List Item} (h : isRead xs = true) (ys : List Item) : isRead (xs ++ ys) = true := by
  cases xs with
  | nil => exact absurd h nofun
  | cons x xs => cases x <;> exact h

lemma InOrder.of_not_endsInLeaves {items : List Item} (h : endsInLeaves kind = false) : InOrder kind items := by
  intro hends
  rw [h] at hends
  exact absurd hends nofun

lemma InOrder.of_isLoose {items : List Item} (h : isLoose kind = true) : InOrder kind items := by
  apply InOrder.of_not_endsInLeaves
  cases kind with
  | caseOf | caseStatement | declaration => exact absurd h nofun
  | _ => rfl

lemma not_isGroup_of_isLoose (h : isLoose kind = true) : isGroup kind = false := by
  unfold isLoose at h
  split at h
  · rfl
  · rfl
  · simpa using h

lemma Settled.of_isLoose {toks rest : List Nat} {items : List Item} (h : isLoose kind = true) :
    Settled ts kind toks items rest := by
  constructor <;> rintro rfl <;> exact absurd h nofun

/-- Items without leaves may come before items without nodes. -/
lemma InOrder.append {xs ys : List Item} (hxs : ∀ x ∈ xs, x.isLeaf = false) (hys : ∀ y ∈ ys, y.isNode = false) :
    InOrder kind (xs ++ ys) := by
  intro _
  apply List.pairwise_append.2
  refine ⟨List.pairwise_of_forall_sublist fun {x _} hsub hleaf => ?_,
    List.pairwise_of_forall_sublist fun hsub _ => hys _ (hsub.subset (by simp)), fun x _ y hy _ => hys y hy⟩
  have hx := hxs x (hsub.subset List.mem_cons_self)
  rw [hleaf] at hx
  exact absurd hx nofun

lemma mayHold_of_holdsAtoms {k : NodeKind} (hkind : holdsAtoms kind = true) (hk : isAtom k = true) :
    mayHold kind k = true := by
  cases kind <;> simp_all [holdsAtoms, mayHold]

/-- Runs of atoms may start with anything. -/
lemma mayOpen_of_holdsAtoms (hkind : holdsAtoms kind = true) (token : TokenKind) :
    mayOpen kind token = true := by
  cases kind <;> simp_all [holdsAtoms, mayOpen]

lemma mayLead_of_holdsAtoms (hkind : holdsAtoms kind = true) (k : NodeKind) :
    mayLead kind k = true := by
  cases kind <;> simp_all [holdsAtoms, mayLead]

lemma isLoose_of_holdsAtoms (hkind : holdsAtoms kind = true) : isLoose kind = true := by
  cases kind <;> simp_all [holdsAtoms, isLoose, isGroup]

section

variable {wanted : TokenKind} {toks : List Nat} {xs : List Item}

lemma meets_append_left (h : meets ts wanted toks xs) (ys : List Item) : meets ts wanted toks (xs ++ ys) := by
  induction xs generalizing toks with
  | nil => exact h.elim
  | cons x xs ih =>
    cases x with
    | leaf role => exact h.imp_right ih
    | error cause => trivial
    | node k items => exact ih h

lemma meets_append_right (xs : List Item) {ys : List Item}
    (h : meets ts wanted (toks.drop (Item.leavesOf xs)) ys) : meets ts wanted toks (xs ++ ys) := by
  induction xs generalizing toks with
  | nil => exact h
  | cons x xs ih =>
    rw [Item.leavesOf, ← List.drop_drop] at h
    cases x with
    | leaf role => exact .inr (ih h)
    | error cause => trivial
    | node k items => exact ih h

end

namespace Shaped

variable {depth : Nat} {toks mid rest : List Nat} {xs ys : List Item}

/-- Tokens are read from the front. -/
lemma exists_append (h : Shaped ts kind depth toks xs rest) : ∃ read, toks = read ++ rest := by
  induction h with
  | nil kind depth toks => exact ⟨[], rfl⟩
  | @leaf kind depth i role toks rest xs _ _ ih =>
    obtain ⟨read, rfl⟩ := ih
    exact ⟨i :: read, rfl⟩
  | complain cause _ ih => exact ih
  | node _ _ _ _ _ _ _ ih₁ ih₂ =>
    obtain ⟨read₁, rfl⟩ := ih₁
    obtain ⟨read₂, rfl⟩ := ih₂
    exact ⟨read₁ ++ read₂, by simp⟩
  | query _ _ ih => exact ih
  | @reject kind depth cause roles read toks rest xs _ _ _ _ ih =>
    obtain ⟨read', rfl⟩ := ih
    exact ⟨read ++ read', by simp⟩

/-- As many tokens are read as there are leaves. -/
lemma eq_drop (h : Shaped ts kind depth toks xs rest) : rest = toks.drop (Item.leavesOf xs) := by
  induction h with
  | nil => rfl
  | @leaf kind depth i role toks rest xs _ _ ih =>
    rw [ih, Item.leavesOf, Item.leaves, Nat.add_comm]
    rfl
  | complain cause _ ih => rw [ih, Item.leavesOf, Item.leaves, Nat.zero_add]
  | node _ _ _ _ _ _ _ ih₁ ih₂ => simp [ih₂, ih₁, Item.leavesOf, Item.leaves]
  | query _ _ ih => simp [ih, Item.leavesOf, Item.leaves]
  | @reject kind depth cause roles read toks rest xs _ hlength _ _ ih =>
    have hleaves : (Item.node (.error 0) (.error cause :: roles.map .leaf)).leaves = read.length := by
      rw [Item.leaves, Item.leavesOf, Item.leaves, Item.leavesOf_map_leaf, hlength, Nat.zero_add]
    rw [ih, Item.leavesOf, hleaves, ← List.drop_drop, List.drop_left]

lemma length_le (h : Shaped ts kind depth toks xs rest) : rest.length ≤ toks.length := by
  obtain ⟨read, rfl⟩ := h.exists_append
  simp

/-- Where items start with something that is read, tokens are. -/
lemma length_lt (h : Shaped ts kind depth toks xs rest) (hread : isRead xs = true)
    (hkind : kind ≠ .loopStatement) : rest.length < toks.length := by
  induction h with
  | nil => simp [isRead] at hread
  | leaf _ hxs _ =>
    have hle := hxs.length_le
    simp only [List.length_cons]
    omega
  | complain => simp [isRead] at hread
  | @node kind k depth toks mid rest y ys xs _ _ hleads _ _ hys hxs ih₁ _ =>
    have hle := hxs.length_le
    cases hk : decide (k = .loopStatement) with
    | false =>
      have := ih₁ (isRead_of_leads hleads) (by simpa using hk)
      omega
    | true =>
      -- A loop starts with a leaf, whatever its query is.
      obtain rfl : k = .loopStatement := by simpa using hk
      cases y with
      | leaf role =>
        cases hys with
        | leaf _ hys =>
          have := hys.length_le
          simp only [List.length_cons]
          omega
      | node k ys => simp [leads, mayLead] at hleads
      | error cause => simp [leads] at hleads
  | query => exact absurd rfl hkind
  | @reject kind depth cause roles read toks rest xs _ _ hne hxs _ =>
    have hle := hxs.length_le
    have := List.length_pos_iff.2 hne
    simp only [List.length_append]
    omega

/-- Items that are read one after the other. -/
lemma append (h₁ : Shaped ts kind depth toks xs mid) (h₂ : Shaped ts kind depth mid ys rest) :
    Shaped ts kind depth toks (xs ++ ys) rest := by
  induction h₁ with
  | nil => exact h₂
  | leaf htake _ ih => exact .leaf htake (ih h₂)
  | complain cause _ ih => exact .complain cause (ih h₂)
  | node hhold hgroup hleads horder hsettled hys _ _ ih =>
    exact .node hhold hgroup hleads horder hsettled hys (ih h₂)
  | @query depth toks rest xs hloop _ ih =>
    refine .query ?_ (ih h₂)
    cases xs with
    | nil => exact hloop.elim
    | cons x xs => cases x <;> exact hloop
  | reject cause hhold hlen hne _ ih => exact .reject cause hhold hlen hne (ih h₂)

/-- What may stand inside more groups may stand inside fewer. -/
lemma mono {depth' : Nat} (h : Shaped ts kind depth toks xs rest) (hle : depth' ≤ depth) :
    Shaped ts kind depth' toks xs rest := by
  induction h generalizing depth' with
  | nil => exact .nil _ _ _
  | leaf htake _ ih => exact .leaf htake (ih hle)
  | complain cause _ ih => exact .complain cause (ih hle)
  | node hhold hgroup hleads horder hsettled _ _ ih₁ ih₂ =>
    refine .node hhold (fun hk => Nat.lt_of_le_of_lt hle (hgroup hk)) hleads horder hsettled (ih₁ ?_) (ih₂ hle)
    exact Nat.add_le_add_right hle _
  | query hloop _ ih => exact .query hloop (ih hle)
  | reject cause hhold hlen hne _ ih => exact .reject cause hhold hlen hne (ih hle)

end Shaped

/-! ### From state to state -/

/-- Number of significant tokens that have not been read. -/
def left (ts : TokenStream) (s : State) : Nat :=
  (ts.significantFrom s.pos).length

@[simp] lemma left_opening (k : NodeKind) (s : State) : left ts (s.opening k) = left ts s := rfl

@[simp] lemma left_deeper (s : State) : left ts s.deeper = left ts s := rfl

@[simp] lemma left_complain (cause : Complaint) (s : State) :
    left ts (complain cause s) = left ts s := rfl

/-- From one state to another, a node of the given kind has come to hold items. -/
structure Derives (ts : TokenStream) (kind : NodeKind) (s : State) (items : List Item) (t : State) :
    Prop where
  shaped : Shaped ts kind s.depth (ts.significantFrom s.pos) items (ts.significantFrom t.pos)
  depth : t.depth = s.depth
  events : t.events = (Item.eventsOf items).reverse ++ s.events

/-- From one state to another, a node of the given kind has come to hold some items. -/
def Yields (ts : TokenStream) (kind : NodeKind) (s t : State) : Prop :=
  ∃ items, Derives ts kind s items t

/-- A step that reads at least one token, and reads it before it complains. -/
def Begins (ts : TokenStream) (kind : NodeKind) (s t : State) : Prop :=
  ∃ items, Derives ts kind s items t ∧ isRead items = true

/-- A step that reads at least one token, all of them in nodes. -/
def BeginsNodes (ts : TokenStream) (kind : NodeKind) (s t : State) : Prop :=
  ∃ items, Derives ts kind s items t ∧ isRead items = true ∧ ∀ x ∈ items, x.isLeaf = false

/-- A step whose first item may be the first one of its node. -/
def Leads (ts : TokenStream) (kind : NodeKind) (s t : State) : Prop :=
  ∃ x xs, Derives ts kind s (x :: xs) t ∧ leads kind (nth ts s 0) x = true

/-- From one state to another, a node has come to hold some items, none of them of the given sort. -/
def YieldsNo (sort : Item → Bool) (ts : TokenStream) (kind : NodeKind) (s t : State) : Prop :=
  ∃ items, Derives ts kind s items t ∧ ∀ x ∈ items, sort x = false

/-- From one state to another, a node has come to hold a leaf of the wanted kind or a complaint. -/
def Finds (wanted : TokenKind) (ts : TokenStream) (kind : NodeKind) (s t : State) : Prop :=
  ∃ items, Derives ts kind s items t ∧ meets ts wanted (ts.significantFrom s.pos) items

lemma Derives.append {xs ys : List Item} (h₁ : Derives ts kind s xs t) (h₂ : Derives ts kind t ys u) :
    Derives ts kind s (xs ++ ys) u := by
  refine ⟨h₁.shaped.append ?_, h₂.depth.trans h₁.depth, ?_⟩
  · rw [← h₁.depth]
    exact h₂.shaped
  · rw [h₂.events, h₁.events]
    simp

lemma Yields.refl (s : State) : Yields ts kind s s := ⟨[], .nil _ _ _, rfl, rfl⟩

lemma Yields.left_le (h : Yields ts kind s t) : left ts t ≤ left ts s := by
  obtain ⟨items, h⟩ := h
  exact h.shaped.length_le

/-- Steps one after the other; fewer tokens are left for the second. -/
lemma Yields.andThen (h₁ : Yields ts kind s t) (h₂ : left ts t ≤ left ts s → Yields ts kind t u) :
    Yields ts kind s u := by
  obtain ⟨ys, h₂⟩ := h₂ h₁.left_le
  obtain ⟨xs, h₁⟩ := h₁
  exact ⟨xs ++ ys, h₁.append h₂⟩

lemma Yields.ite {c : Prop} [Decidable c] (h₁ : c → Yields ts kind s t)
    (h₂ : ¬c → Yields ts kind s u) : Yields ts kind s (if c then t else u) := by
  split
  · next h => exact h₁ h
  · next h => exact h₂ h

/-- From one state to another something has been complained about. -/
def Complains (s t : State) : Prop :=
  ∃ new, t.events = new ++ s.events ∧ ∃ cause, Event.error cause ∈ new

lemma Complains.complain (cause : Complaint) (s : State) : Complains s (complain cause s) :=
  ⟨[.error cause], rfl, cause, List.mem_singleton.2 rfl⟩

lemma Complains.andThen (h₁ : Complains s t) (h₂ : Yields ts kind t u) : Complains s u := by
  obtain ⟨new, hnew, cause, hcause⟩ := h₁
  obtain ⟨items, h₂⟩ := h₂
  refine ⟨(Item.eventsOf items).reverse ++ new, ?_, cause, List.mem_append_right _ hcause⟩
  rw [h₂.events, hnew, List.append_assoc]

lemma Yields.andComplain (h₁ : Yields ts kind s t) (h₂ : Complains t u) : Complains s u := by
  obtain ⟨items, h₁⟩ := h₁
  obtain ⟨new, hnew, cause, hcause⟩ := h₂
  refine ⟨new ++ (Item.eventsOf items).reverse, ?_, cause, List.mem_append_left _ hcause⟩
  rw [hnew, h₁.events, List.append_assoc]

/-- What is complained about inside a node is among its events. -/
lemma Complains.node {k : NodeKind} {rule : State → State} (h : Complains (s.opening k) (rule (s.opening k))) :
    Complains s (Grammar.node k rule s) := by
  obtain ⟨new, hnew, cause, hcause⟩ := h
  refine ⟨.close :: new ++ [.open k], ?_, cause, by simp [hcause]⟩
  rw [node_eq]
  change .close :: (rule (s.opening k)).events = _
  rw [hnew]
  simp [State.opening]

/-- So it is among the events of all items that have come to stand there. -/
lemma Complains.complains {items : List Item} (h : Complains s t) (hitems : Derives ts kind s items t) :
    Grammar.complains items := by
  obtain ⟨new, hnew, cause, hcause⟩ := h
  rw [hitems.events] at hnew
  rw [← List.append_cancel_right hnew] at hcause
  exact ⟨cause, List.mem_reverse.1 hcause⟩

section

variable {sort : Item → Bool}

lemma YieldsNo.yields (h : YieldsNo sort ts kind s t) : Yields ts kind s t := by
  obtain ⟨items, h, -⟩ := h
  exact ⟨items, h⟩

lemma YieldsNo.mono {sort' : Item → Bool} (h : YieldsNo sort ts kind s t)
    (hsort : ∀ x, sort x = false → sort' x = false) : YieldsNo sort' ts kind s t := by
  obtain ⟨items, h, hitems⟩ := h
  exact ⟨items, h, fun x hx => hsort x (hitems x hx)⟩

lemma YieldsNo.refl (s : State) : YieldsNo sort ts kind s s := ⟨[], ⟨.nil _ _ _, rfl, rfl⟩, nofun⟩

lemma YieldsNo.andThen (h₁ : YieldsNo sort ts kind s t)
    (h₂ : left ts t ≤ left ts s → YieldsNo sort ts kind t u) : YieldsNo sort ts kind s u := by
  obtain ⟨ys, h₂, hys⟩ := h₂ h₁.yields.left_le
  obtain ⟨xs, h₁, hxs⟩ := h₁
  exact ⟨xs ++ ys, h₁.append h₂, List.forall_mem_append.2 ⟨hxs, hys⟩⟩

lemma YieldsNo.ite {c : Prop} [Decidable c] (h₁ : c → YieldsNo sort ts kind s t)
    (h₂ : ¬c → YieldsNo sort ts kind s u) : YieldsNo sort ts kind s (if c then t else u) := by
  split
  · next h => exact h₁ h
  · next h => exact h₂ h

end

section

variable {wanted : TokenKind}

/-- What is found first has been found. -/
lemma Finds.andThen (h₁ : Finds wanted ts kind s t) (h₂ : left ts t ≤ left ts s → Yields ts kind t u) :
    Finds wanted ts kind s u := by
  obtain ⟨xs, h₁, hxs⟩ := h₁
  obtain ⟨ys, h₂⟩ := h₂ h₁.shaped.length_le
  exact ⟨xs ++ ys, h₁.append h₂, meets_append_left hxs ys⟩

/-- What is found last has been found. -/
lemma Yields.andFind (h₁ : Yields ts kind s t) (h₂ : left ts t ≤ left ts s → Finds wanted ts kind t u) :
    Finds wanted ts kind s u := by
  obtain ⟨xs, h₁⟩ := h₁
  obtain ⟨ys, h₂, hys⟩ := h₂ h₁.shaped.length_le
  exact ⟨xs ++ ys, h₁.append h₂, meets_append_right xs (h₁.shaped.eq_drop ▸ hys)⟩

lemma Finds.ite {c : Prop} [Decidable c] (h₁ : c → Finds wanted ts kind s t)
    (h₂ : ¬c → Finds wanted ts kind s u) : Finds wanted ts kind s (if c then t else u) := by
  split
  · next h => exact h₁ h
  · next h => exact h₂ h

end

lemma Begins.yields (h : Begins ts kind s t) : Yields ts kind s t := by
  obtain ⟨items, h, -⟩ := h
  exact ⟨items, h⟩

lemma Begins.andThen (h₁ : Begins ts kind s t) (h₂ : left ts t ≤ left ts s → Yields ts kind t u) :
    Begins ts kind s u := by
  obtain ⟨ys, h₂⟩ := h₂ h₁.yields.left_le
  obtain ⟨xs, h₁, hread⟩ := h₁
  exact ⟨xs ++ ys, h₁.append h₂, isRead_append hread ys⟩

lemma BeginsNodes.begins (h : BeginsNodes ts kind s t) : Begins ts kind s t := by
  obtain ⟨items, h, hread, -⟩ := h
  exact ⟨items, h, hread⟩

lemma BeginsNodes.noLeaf (h : BeginsNodes ts kind s t) : YieldsNo Item.isLeaf ts kind s t := by
  obtain ⟨items, h, -, hleaf⟩ := h
  exact ⟨items, h, hleaf⟩

lemma BeginsNodes.andThen (h₁ : BeginsNodes ts kind s t)
    (h₂ : left ts t ≤ left ts s → YieldsNo Item.isLeaf ts kind t u) : BeginsNodes ts kind s u := by
  obtain ⟨ys, h₂, hys⟩ := h₂ h₁.begins.yields.left_le
  obtain ⟨xs, h₁, hread, hxs⟩ := h₁
  exact ⟨xs ++ ys, h₁.append h₂, isRead_append hread ys, List.forall_mem_append.2 ⟨hxs, hys⟩⟩

lemma BeginsNodes.ite {c : Prop} [Decidable c] (h₁ : c → BeginsNodes ts kind s t)
    (h₂ : ¬c → BeginsNodes ts kind s u) : BeginsNodes ts kind s (if c then t else u) := by
  split
  · next h => exact h₁ h
  · next h => exact h₂ h

lemma Begins.left_lt (h : Begins ts kind s t) (hkind : kind ≠ .loopStatement) :
    left ts t < left ts s := by
  obtain ⟨items, h, hread⟩ := h
  exact h.shaped.length_lt hread hkind

lemma Begins.ite {c : Prop} [Decidable c] (h₁ : c → Begins ts kind s t)
    (h₂ : ¬c → Begins ts kind s u) : Begins ts kind s (if c then t else u) := by
  split
  · next h => exact h₁ h
  · next h => exact h₂ h

/-- A step leads a node that may start with anything. -/
lemma Begins.leads (h : Begins ts kind s t) (hopen : ∀ token, mayOpen kind token = true)
    (hlead : ∀ k, mayLead kind k = true) : Leads ts kind s t := by
  obtain ⟨items, h, hread⟩ := h
  cases items with
  | nil => simp [isRead] at hread
  | cons x xs =>
    refine ⟨x, xs, h, ?_⟩
    cases x with
    | leaf role => exact hopen _
    | node k ys => exact hlead k
    | error cause => simp [isRead] at hread

lemma Leads.andThen (h₁ : Leads ts kind s t) (h₂ : left ts t ≤ left ts s → Yields ts kind t u) :
    Leads ts kind s u := by
  obtain ⟨x, xs, h₁, hleads⟩ := h₁
  obtain ⟨ys, h₂⟩ := h₂ (Yields.left_le ⟨_, h₁⟩)
  exact ⟨x, xs ++ ys, h₁.append h₂, hleads⟩

lemma Leads.yields (h : Leads ts kind s t) : Yields ts kind s t := by
  obtain ⟨x, xs, h, -⟩ := h
  exact ⟨_, h⟩

/-! ### Steps -/

lemma headKind_significantFrom (hc : ts.Closed) (s : State) :
    headKind ts (ts.significantFrom s.pos) = nth ts s 0 := by
  by_cases h : nth ts s 0 = .eof
  · have hle := (hc.kind_eq_eof_iff _).1 h
    rw [TokenStream.significantFrom_eq_nil_of_nextSignificant hle, h]
    exact (hc.kind_eq_eof_iff _).2 (Nat.le_refl _)
  · rw [significantFrom_take hc h .keyword]
    rfl

/-- Reading a token at the end of input reads nothing. -/
lemma take_of_eof (h : nth ts s 0 = .eof) (role : LeafRole) :
    take ts role s = { s with overrun := true } := by
  have : atEnd ts s = true := by simp [atEnd, at?, current, h]
  rw [take, if_pos this]

lemma left_take (hc : ts.Closed) (h : nth ts s 0 ≠ .eof) (role : LeafRole) :
    left ts (take ts role s) + 1 = left ts s := by
  rw [left, left, significantFrom_take hc h role, List.length_cons]

lemma derives_take (hc : ts.Closed) (role : LeafRole) (h : nth ts s 0 ≠ .eof)
    (htake : mayTake kind role (nth ts s 0) = true) :
    Derives ts kind s [.leaf role] (take ts role s) := by
  constructor
  · rw [significantFrom_take hc h role]
    exact .leaf htake (.nil _ _ _)
  · rw [take_eq h]
  · simp [take_eq h, Item.eventsOf, Item.events]

lemma begins_take (hc : ts.Closed) (role : LeafRole) (h : nth ts s 0 ≠ .eof)
    (htake : mayTake kind role (nth ts s 0) = true) : Begins ts kind s (take ts role s) :=
  ⟨_, derives_take hc role h htake, rfl⟩

/-- A node that starts with a token that may open it; fewer tokens are left for its other items. -/
lemma leads_takeThen (hc : ts.Closed) (role : LeafRole) (h : nth ts s 0 ≠ .eof)
    (htake : mayTake kind role (nth ts s 0) = true) (hopen : mayOpen kind (nth ts s 0) = true)
    (hrest : left ts (take ts role s) < left ts s → Yields ts kind (take ts role s) u) :
    Leads ts kind s u := by
  have hleft := left_take hc h role
  have hfirst : Leads ts kind s (take ts role s) := ⟨_, _, derives_take hc role h htake, hopen⟩
  exact hfirst.andThen fun _ => hrest (by omega)

lemma yields_take (hc : ts.Closed) {role : LeafRole}
    (htake : nth ts s 0 ≠ .eof → mayTake kind role (nth ts s 0) = true) :
    Yields ts kind s (take ts role s) := by
  by_cases h : nth ts s 0 = .eof
  · rw [take_of_eof h]
    exact ⟨[], .nil _ _ _, rfl, rfl⟩
  · exact (begins_take hc role h (htake h)).yields

/-- A token that is well formed may be read anywhere. -/
lemma mayTake_of_ne {role : LeafRole} {token : TokenKind} (h : token ≠ .error) :
    mayTake kind role token = true := by
  simp [mayTake, h]

lemma begins_bump (hc : ts.Closed) (h : nth ts s 0 ≠ .eof) (herror : nth ts s 0 ≠ .error) :
    Begins ts kind s (bump ts s) :=
  begins_take hc _ h (mayTake_of_ne herror)

/-- A token that has been looked at is read. -/
lemma begins_takeAt (hc : ts.Closed) {k : TokenKind} (role : LeafRole) (h : at? ts s k = true)
    (hk : k ≠ .eof ∧ k ≠ .error) : Begins ts kind s (take ts role s) := by
  rw [at?_iff] at h
  exact begins_take hc role (h ▸ hk.1) (mayTake_of_ne (h ▸ hk.2))

lemma begins_bumpAt (hc : ts.Closed) {k : TokenKind} (h : at? ts s k = true)
    (hk : k ≠ .eof ∧ k ≠ .error) : Begins ts kind s (bump ts s) :=
  begins_takeAt hc _ h hk

/-- The same for a token that has been looked at. -/
lemma leads_takeAt (hc : ts.Closed) {k : TokenKind} (role : LeafRole) (h : nth ts s 0 = k)
    (hk : k ≠ .eof ∧ k ≠ .error) (hopen : mayOpen kind k = true)
    (hrest : left ts (take ts role s) < left ts s → Yields ts kind (take ts role s) u) :
    Leads ts kind s u :=
  leads_takeThen hc role (h ▸ hk.1) (mayTake_of_ne (h ▸ hk.2)) (h ▸ hopen) hrest

lemma yields_complain (cause : Complaint) (s : State) : Yields ts kind s (complain cause s) := by
  refine ⟨[.error cause], .complain cause (.nil _ _ _), rfl, ?_⟩
  simp [complain, Item.eventsOf, Item.events]

lemma finds_takeAt (hc : ts.Closed) {k : TokenKind} (role : LeafRole) (h : at? ts s k = true)
    (hk : k ≠ .eof ∧ k ≠ .error) : Finds k ts kind s (take ts role s) := by
  rw [at?_iff] at h
  refine ⟨_, derives_take hc role (h ▸ hk.1) (mayTake_of_ne (h ▸ hk.2)), .inl ?_⟩
  rw [headKind_significantFrom hc, h]

lemma finds_complain {wanted : TokenKind} (cause : Complaint) (s : State) :
    Finds wanted ts kind s (complain cause s) := by
  refine ⟨[.error cause], ⟨.complain cause (.nil _ _ _), rfl, ?_⟩, trivial⟩
  simp [complain, Item.eventsOf, Item.events]

/-- Leaves and complaints are no nodes. -/
lemma noNode_takeAt (hc : ts.Closed) {k : TokenKind} (role : LeafRole) (h : at? ts s k = true)
    (hk : k ≠ .eof ∧ k ≠ .error) : YieldsNo Item.isNode ts kind s (take ts role s) := by
  rw [at?_iff] at h
  refine ⟨_, derives_take hc role (h ▸ hk.1) (mayTake_of_ne (h ▸ hk.2)), ?_⟩
  exact List.forall_mem_singleton.2 rfl

lemma noNode_complain (cause : Complaint) (s : State) :
    YieldsNo Item.isNode ts kind s (complain cause s) := by
  refine ⟨[.error cause], ⟨.complain cause (.nil _ _ _), rfl, ?_⟩, List.forall_mem_singleton.2 rfl⟩
  simp [complain, Item.eventsOf, Item.events]

lemma yields_eat (hc : ts.Closed) {k : TokenKind} (s : State) (hk : k ≠ .eof ∧ k ≠ .error) :
    Yields ts kind s (eat ts k s) :=
  .ite (fun h => (begins_bumpAt hc h hk).yields) fun _ => .refl s

lemma yields_require (hc : ts.Closed) {k : TokenKind} (role : LeafRole) (cause : Complaint) (s : State)
    (hk : k ≠ .eof ∧ k ≠ .error) : Yields ts kind s (require ts k role cause s) :=
  .ite (fun h => (begins_takeAt hc role h hk).yields) fun _ => yields_complain cause s

/-- A step that may read a token of one kind reads that one or nothing. -/
lemma exists_read_takeIf (hc : ts.Closed) {k : TokenKind} (role : LeafRole) (s : State) (hk : k ≠ .eof) :
    ∃ read, ts.significantFrom s.pos
        = read ++ ts.significantFrom (if at? ts s k then take ts role s else s).pos
      ∧ (read.map ts.kind).Sublist [k] := by
  split
  · next h =>
    rw [at?_iff] at h
    refine ⟨[nthIndex ts s 0], significantFrom_take hc (h ▸ hk) role, ?_⟩
    simp [show ts.kind (nthIndex ts s 0) = k from h]
  · exact ⟨[], rfl, List.nil_sublist _⟩

/-! ### Nodes and groups -/

lemma Derives.node (hc : ts.Closed) {k : NodeKind} {rule : State → State} {x : Item} {xs : List Item}
    (hhold : mayHold kind k = true) (hgroup : isGroup k = false)
    (h : Derives ts k (s.opening k) (x :: xs) (rule (s.opening k)))
    (hleads : leads k (nth ts s 0) x = true) (horder : InOrder k xs)
    (hsettled : Settled ts k (ts.significantFrom s.pos) (x :: xs)
      (ts.significantFrom (rule (s.opening k)).pos)) :
    Derives ts kind s [.node k (x :: xs)] (node k rule s) := by
  rw [node_eq]
  refine ⟨.node hhold (by simp [hgroup]) ?_ horder hsettled ?_ (.nil _ _ _), h.depth, ?_⟩
  · rw [headKind_significantFrom hc]
    exact hleads
  · rw [hgroup]
    exact h.shaped
  · change .close :: (rule (s.opening k)).events = _
    rw [h.events]
    simp [State.opening, Item.eventsOf, Item.events]

section

variable {k : NodeKind} {rule : State → State}

/-- A node around a rule that starts as nodes of its kind do. -/
lemma exists_derives_node (hc : ts.Closed) (h : Leads ts k (s.opening k) (rule (s.opening k)))
    (hhold : mayHold kind k = true) (hloose : isLoose k = true) :
    ∃ items, Derives ts kind s [.node k items] (node k rule s) := by
  obtain ⟨x, xs, h, hleads⟩ := h
  rw [nth_opening] at hleads
  exact ⟨_, h.node hc hhold (not_isGroup_of_isLoose hloose) hleads (.of_isLoose hloose)
    (.of_isLoose hloose)⟩

lemma beginsNodes_node (hc : ts.Closed) (h : Leads ts k (s.opening k) (rule (s.opening k)))
    (hhold : mayHold kind k = true) (hloose : isLoose k = true) : BeginsNodes ts kind s (node k rule s) := by
  obtain ⟨items, h⟩ := exists_derives_node hc h hhold hloose
  exact ⟨_, h, rfl, List.forall_mem_singleton.2 rfl⟩

lemma begins_node (hc : ts.Closed) (h : Leads ts k (s.opening k) (rule (s.opening k)))
    (hhold : mayHold kind k = true) (hloose : isLoose k = true) : Begins ts kind s (node k rule s) :=
  (beginsNodes_node hc h hhold hloose).begins

/-- The node is of no sort that its kind is not. -/
lemma yieldsNo_node (hc : ts.Closed) {sort : Item → Bool} (hsort : ∀ items, sort (.node k items) = false)
    (h : Leads ts k (s.opening k) (rule (s.opening k)))
    (hhold : mayHold kind k = true) (hloose : isLoose k = true) :
    YieldsNo sort ts kind s (node k rule s) := by
  obtain ⟨items, h⟩ := exists_derives_node hc h hhold hloose
  exact ⟨_, h, List.forall_mem_singleton.2 (hsort items)⟩

/-- The same node where it stands first in the node around it. -/
lemma leads_node (hc : ts.Closed) (h : Leads ts k (s.opening k) (rule (s.opening k)))
    (hhold : mayHold kind k = true) (hloose : isLoose k = true) (hlead : mayLead kind k = true) :
    Leads ts kind s (node k rule s) := by
  obtain ⟨items, h⟩ := exists_derives_node hc h hhold hloose
  exact ⟨_, [], h, hlead⟩

/-- A branch that starts with a leaf and finds its `THEN`. -/
lemma derives_whenNode (hc : ts.Closed) {mid : State} {role : LeafRole}
    (hfirst : Derives ts .whenBranch (s.opening .whenBranch) [.leaf role] mid)
    (hopen : mayOpen .whenBranch (nth ts s 0) = true)
    (h : Finds (.keyword .THEN) ts .whenBranch mid (rule (s.opening .whenBranch)))
    (hhold : mayHold kind .whenBranch = true) :
    ∃ items, Derives ts kind s [.node .whenBranch items] (node .whenBranch rule s) := by
  obtain ⟨xs, hxs, hmeets⟩ := h
  have hdrop := hfirst.shaped.eq_drop
  refine ⟨_, (hfirst.append hxs).node hc hhold rfl hopen (.of_not_endsInLeaves rfl) ⟨fun _ => ?_, nofun⟩⟩
  exact meets_append_right [.leaf role] (hdrop ▸ hmeets)

/-- A declaration, whose parts come before its leaves. -/
lemma begins_declarationNode (hc : ts.Closed) {mid : State}
    (hparts : BeginsNodes ts .declaration (s.opening .declaration) mid)
    (hending : YieldsNo Item.isNode ts .declaration mid (rule (s.opening .declaration)))
    (hhold : mayHold kind .declaration = true) : Begins ts kind s (node .declaration rule s) := by
  obtain ⟨xs, hxs, hread, hleaf⟩ := hparts
  obtain ⟨ys, hys, hnode⟩ := hending
  cases xs with
  | nil => exact absurd hread nofun
  | cons x xs =>
    obtain ⟨hfirst, hleaf⟩ := List.forall_mem_cons.1 hleaf
    have hleads : leads .declaration (nth ts s 0) x = true := by
      cases x with
      | leaf role => exact absurd hfirst nofun
      | node => rfl
      | error => exact absurd hread nofun
    exact ⟨_, (hxs.append hys).node hc hhold rfl hleads (.append hleaf hnode) ⟨nofun, nofun⟩, rfl⟩

end

/-- Tokens that are read one after the other can be rejected. -/
lemma begins_reject (hc : ts.Closed) {cause : Complaint} {roles : List LeafRole}
    (h : Takes ts (complain cause (s.opening (.error 0))) roles t) (hroles : roles ≠ [])
    (hdepth : t.depth = s.depth) (hhold : mayHold kind (.error 0) = true) :
    Begins ts kind s t.closing := by
  refine ⟨[.node (.error 0) (.error cause :: roles.map .leaf)], ⟨?_, hdepth, ?_⟩, rfl⟩
  · obtain ⟨read, hlen, hread⟩ := h.significantFrom hc
    have hne : read ≠ [] := by
      rintro rfl
      exact hroles (List.length_eq_zero_iff.1 hlen.symm)
    rw [pos_complain, pos_opening] at hread
    rw [hread]
    exact .reject cause hhold hlen.symm hne (.nil _ _ _)
  · simp [State.closing, h.events, complain, State.opening, Item.eventsOf, Item.events]

lemma Takes.depth {roles : List LeafRole} (h : Takes ts s roles t) : t.depth = s.depth := by
  induction h with
  | nil s => rfl
  | cons hne _ ih => rw [ih, take_eq hne]

lemma begins_rejectToken (hc : ts.Closed) (cause : Complaint) (h : nth ts s 0 ≠ .eof)
    (hhold : mayHold kind (.error 0) = true) : Begins ts kind s (rejectToken ts cause s) := by
  have htakes : Takes ts (complain cause (s.opening (.error 0))) [.literal] _ :=
    .single .literal (by simpa using h)
  exact begins_reject hc htakes (by simp) htakes.depth hhold

lemma begins_rejectMalformed (hc : ts.Closed) (h : nth ts s 0 ≠ .eof)
    (hhold : mayHold kind (.error 0) = true) : Begins ts kind s (rejectMalformed ts s) :=
  begins_rejectToken hc _ h hhold

lemma begins_rejectGroup (hc : ts.Closed) (h : nth ts s 0 ≠ .eof)
    (hhold : mayHold kind (.error 0) = true) : Begins ts kind s (rejectGroup ts s) := by
  obtain ⟨roles, hroles⟩ := @takes_takeGroup ts (ts.get (nthIndex ts s 0)) (levelOutside ts s)
    (take ts .punctuation (complain .nestingTooDeep (s.opening (.error 0))))
  have htakes : Takes ts (complain .nestingTooDeep (s.opening (.error 0))) (.punctuation :: roles) _ :=
    .cons (by simpa using h) hroles
  exact begins_reject hc htakes (by simp) htakes.depth hhold

section

variable {k : NodeKind} {rule : State → State}

/-- A node that is a group, or the whole group as an error. -/
lemma begins_orderedGroup (hc : ts.Closed) (hne : nth ts s 0 ≠ .eof)
    (h : ∃ x xs, Derives ts k (s.deeper.opening k) (x :: xs) (rule (s.deeper.opening k))
      ∧ leads k (nth ts (s.deeper.opening k) 0) x = true ∧ InOrder k xs
      ∧ Settled ts k (ts.significantFrom s.pos) (x :: xs)
        (ts.significantFrom (rule (s.deeper.opening k)).pos))
    (hhold : mayHold kind k = true) (herror : mayHold kind (.error 0) = true)
    (hgroup : isGroup k = true) : Begins ts kind s (nested ts (node k rule) s) := by
  refine .ite (fun hlt => ?_) fun _ => begins_rejectGroup hc hne herror
  obtain ⟨x, xs, h, hleads, horder, hsettled⟩ := h
  rw [nth_opening, nth_deeper] at hleads
  refine ⟨[.node k (x :: xs)], ⟨.node hhold (fun _ => hlt) ?_ horder hsettled ?_ (.nil _ _ _), ?_, ?_⟩, rfl⟩
  · rw [headKind_significantFrom hc]
    exact hleads
  · rw [hgroup]
    exact h.shaped
  · change (rule (s.deeper.opening k)).depth - 1 = s.depth
    rw [h.depth]
    exact Nat.add_sub_cancel s.depth 1
  · change .close :: (rule (s.deeper.opening k)).events = _
    rw [h.events]
    simp [State.opening, State.deeper, Item.eventsOf, Item.events]

/-- The same where the order of items does not matter. -/
lemma begins_group (hc : ts.Closed) (hne : nth ts s 0 ≠ .eof)
    (h : Leads ts k (s.deeper.opening k) (rule (s.deeper.opening k)))
    (hhold : mayHold kind k = true) (herror : mayHold kind (.error 0) = true)
    (hgroup : isGroup k = true) (hends : endsInLeaves k = false) :
    Begins ts kind s (nested ts (node k rule) s) := by
  obtain ⟨x, xs, h, hleads⟩ := h
  refine begins_orderedGroup hc hne ⟨x, xs, h, hleads, .of_not_endsInLeaves hends, ?_⟩ hhold herror hgroup
  constructor
  · rintro rfl
    exact absurd hgroup nofun
  · rintro rfl
    exact absurd hends nofun

/-- A `CASE`, whose branches come before its other leaves. -/
lemma begins_case (hc : ts.Closed) (hne : nth ts s 0 ≠ .eof) {mid mid' : State} {role : LeafRole}
    {branches : List Item} (hfirst : Derives ts k (s.deeper.opening k) [.leaf role] mid)
    (hopen : mayOpen k (nth ts s 0) = true) (hbranches : Derives ts k mid branches mid')
    (hleaf : ∀ x ∈ branches, x.isLeaf = false)
    (hending : YieldsNo Item.isNode ts k mid' (rule (s.deeper.opening k)))
    (hclosed : k = .caseStatement → (∃ x ∈ branches, x.isBranch = true) →
      Complains mid (rule (s.deeper.opening k)) ∨ EndsCase ts (ts.significantFrom s.pos)
        (ts.significantFrom (rule (s.deeper.opening k)).pos))
    (hhold : mayHold kind k = true) (herror : mayHold kind (.error 0) = true)
    (hgroup : isGroup k = true) : Begins ts kind s (nested ts (node k rule) s) := by
  obtain ⟨ys, hys, hnode⟩ := hending
  refine begins_orderedGroup hc hne ⟨.leaf role, branches ++ ys, (hfirst.append hbranches).append hys, ?_,
    .append hleaf hnode, ?_, fun hk => ?_⟩ hhold herror hgroup
  · rw [nth_opening, nth_deeper]
    exact hopen
  · rintro rfl
    exact absurd hgroup nofun
  · rintro ⟨x, hx, hbranch⟩
    have hmem : x ∈ branches := by
      rcases List.mem_cons.1 hx with rfl | hx
      · exact absurd hbranch nofun
      · refine (List.mem_append.1 hx).resolve_right fun hy => ?_
        cases x with
        | node => exact absurd (hnode _ hy) nofun
        | leaf | error => exact absurd hbranch nofun
    refine (hclosed hk ⟨x, hmem, hbranch⟩).imp_left fun hcomplains => ?_
    exact (Yields.andComplain ⟨_, hfirst⟩ hcomplains).complains ((hfirst.append hbranches).append hys)

end

/-- A group that makes no node of its own. -/
lemma begins_nested (hc : ts.Closed) {rule : State → State} (hne : nth ts s 0 ≠ .eof)
    (h : Begins ts kind s.deeper (rule s.deeper)) (herror : mayHold kind (.error 0) = true) :
    Begins ts kind s (nested ts rule s) := by
  refine .ite (fun _ => ?_) fun _ => begins_rejectGroup hc hne herror
  obtain ⟨items, h, hread⟩ := h
  refine ⟨items, ⟨h.shaped.mono (Nat.le_succ _), ?_, h.events⟩, hread⟩
  change (rule s.deeper).depth - 1 = s.depth
  rw [h.depth]
  exact Nat.add_sub_cancel s.depth 1

/-! ### Repetitions -/

lemma repeatWhile_of_false {condition : State → Bool} {rule : State → State}
    (h : condition s = false) : repeatWhile ts condition rule s = s := by
  rw [repeatWhile, h]
  rfl

/-- A repetition yields what its rule does wherever the condition holds. -/
lemma yields_repeatWhile {condition : State → Bool} {rule : State → State} {n : Nat}
    (h : ∀ s, left ts s ≤ n → condition s = true → Yields ts kind s (rule s)) (s : State)
    (hs : left ts s ≤ n) : Yields ts kind s (repeatWhile ts condition rule s) := by
  fun_induction repeatWhile ts condition rule s with
  | case1 s hcond t _ ih => exact (h s hs hcond).andThen fun hle => ih (Nat.le_trans hle hs)
  | case2 s hcond t _ => exact h s hs hcond
  | case3 s _ => exact .refl s

lemma yieldsNo_repeatWhile {sort : Item → Bool} {condition : State → Bool} {rule : State → State} {n : Nat}
    (h : ∀ s, left ts s ≤ n → condition s = true → YieldsNo sort ts kind s (rule s)) (s : State)
    (hs : left ts s ≤ n) : YieldsNo sort ts kind s (repeatWhile ts condition rule s) := by
  fun_induction repeatWhile ts condition rule s with
  | case1 s hcond t _ ih => exact (h s hs hcond).andThen fun hle => ih (Nat.le_trans hle hs)
  | case2 s hcond t _ => exact h s hs hcond
  | case3 s _ => exact .refl s

/-- A repetition whose condition holds at its start begins as its rule does. -/
lemma begins_repeatWhile {condition : State → Bool} {rule : State → State} {n : Nat}
    (h : ∀ s, left ts s ≤ n → condition s = true → Begins ts kind s (rule s)) (s : State)
    (hs : left ts s ≤ n) (hcond : condition s = true) :
    Begins ts kind s (repeatWhile ts condition rule s) := by
  rw [repeatWhile, if_pos hcond]
  dsimp only
  split
  · exact (h s hs hcond).andThen fun hle =>
      yields_repeatWhile (fun s hs hcond => (h s hs hcond).yields) _ (Nat.le_trans hle hs)
  · exact h s hs hcond

lemma beginsNodes_repeatWhile {condition : State → Bool} {rule : State → State} {n : Nat}
    (h : ∀ s, left ts s ≤ n → condition s = true → BeginsNodes ts kind s (rule s)) (s : State)
    (hs : left ts s ≤ n) (hcond : condition s = true) :
    BeginsNodes ts kind s (repeatWhile ts condition rule s) := by
  rw [repeatWhile, if_pos hcond]
  dsimp only
  split
  · exact (h s hs hcond).andThen fun hle =>
      yieldsNo_repeatWhile (fun s hs hcond => (h s hs hcond).noLeaf) _ (Nat.le_trans hle hs)
  · exact h s hs hcond

/-- A repetition that starts ends as its rule does, unless something is complained about on the way. -/
lemma complains_or_repeatWhile {condition : State → Bool} {rule : State → State} {n : Nat} {P : State → Prop}
    (h : ∀ s, left ts s ≤ n → condition s = true → Yields ts kind s (rule s))
    (hrule : ∀ s, left ts s ≤ n → condition s = true → Complains s (rule s) ∨ P (rule s)) (s : State)
    (hs : left ts s ≤ n) (hcond : condition s = true) :
    Complains s (repeatWhile ts condition rule s) ∨ P (repeatWhile ts condition rule s) := by
  fun_induction repeatWhile ts condition rule s with
  | case1 s _ t _ ih =>
    have hyields : Yields ts kind s t := h s hs hcond
    have ht := Nat.le_trans hyields.left_le hs
    cases hagain : condition t with
    | true => exact (ih ht hagain).imp_left hyields.andComplain
    | false =>
      rw [repeatWhile_of_false hagain]
      exact hrule s hs hcond
  | case2 s _ t _ => exact hrule s hs hcond
  | case3 s hnot => exact absurd hcond hnot

lemma length_significantFrom_le {i j : Nat} (h : i ≤ j) :
    (ts.significantFrom j).length ≤ (ts.significantFrom i).length := by
  have hsub : (List.range' j (ts.lastIndex - j)).Sublist (List.range' i (ts.lastIndex - i)) := by
    rcases Nat.le_total ts.lastIndex j with hj | hj
    · simp [Nat.sub_eq_zero_of_le hj]
    · have hsplit : List.range' i (ts.lastIndex - i)
          = List.range' i (j - i) ++ List.range' j (ts.lastIndex - j) := by
        rw [show ts.lastIndex - i = (j - i) + (ts.lastIndex - j) by omega, ← List.range'_append_1,
          show i + (j - i) = j by omega]
      rw [hsplit]
      exact List.sublist_append_right _ _
  exact (hsub.filter _).length_le

/-- A step that reads a token leaves fewer tokens, trivia counted. -/
lemma remaining_lt_of_left_lt (h : left ts t < left ts s) : remaining ts t < remaining ts s := by
  have hpos : s.pos < t.pos := by
    by_contra hle
    have hlength : left ts s ≤ left ts t := length_significantFrom_le (Nat.le_of_not_lt hle)
    omega
  have hs : s.pos < ts.lastIndex := by
    by_contra hle
    rw [left, left, TokenStream.significantFrom_eq_nil (Nat.le_of_not_lt hle)] at h
    simp at h
  have hsize : ts.lastIndex < ts.size := ts.lastIndex_lt_size
  rw [remaining, remaining]
  omega

/-- A repetition of steps that read tokens ends where its condition fails. -/
lemma condition_repeatWhile_of_begins {condition : State → Bool} {rule : State → State} {n : Nat}
    (hkind : kind ≠ .loopStatement)
    (h : ∀ s, left ts s ≤ n → condition s = true → Begins ts kind s (rule s)) (s : State)
    (hs : left ts s ≤ n) : condition (repeatWhile ts condition rule s) = false := by
  fun_induction repeatWhile ts condition rule s with
  | case1 s hcond t _ ih => exact ih (Nat.le_trans (h s hs hcond).yields.left_le hs)
  | case2 s hcond t hnot =>
    exact absurd (remaining_lt_of_left_lt ((h s hs hcond).left_lt hkind)) hnot
  | case3 s hcond => simpa using hcond

end SqlLayout.Grammar
