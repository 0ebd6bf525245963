import SqlLayout.Proofs.Grammar.Item
import SqlLayout.Proofs.Token.KindSet
import SqlLayout.Proofs.Token.Significant

/-!
# What a rule of the grammar can do

`Reads ts s items t` says that the grammar comes from the state `s` to the state `t` by recognising
`items`. Its cases are all that rules are made of: reading a leaf before the end of input, complaining,
putting a node around a rule, rejecting tokens, and counting a group. Two constructs read on without
looking, the head of a table definition and the targets of a loop over a query, and have cases of their
own.

What holds of every run is derived from this relation once: which events are recorded, how many
significant tokens are read, and when a rule asks for a token after the last one.
-/

namespace SqlLayout.Grammar

variable {ts : TokenStream} {s t u : State}

/-! ### Looking ahead -/

/-- The state inside a node that has just been opened. -/
def State.opening (kind : NodeKind) (s : State) : State :=
  { s with events := .open kind :: s.events }

/-- The state after the innermost node has been closed. -/
def State.closing (s : State) : State :=
  { s with events := .close :: s.events }

/-- The state inside one more group. -/
def State.deeper (s : State) : State :=
  { s with depth := s.depth + 1 }

/-- The state outside the innermost group. -/
def State.shallower (s : State) : State :=
  { s with depth := s.depth - 1 }

/-- The state after a rule asked for a token, if it did so at the end of input. -/
def State.overrunIf (cut : Bool) (s : State) : State :=
  { s with overrun := s.overrun || cut }

@[simp] lemma pos_opening (kind : NodeKind) (s : State) : (s.opening kind).pos = s.pos := rfl

@[simp] lemma pos_closing (s : State) : s.closing.pos = s.pos := rfl

@[simp] lemma pos_deeper (s : State) : s.deeper.pos = s.pos := rfl

@[simp] lemma pos_overrunIf (cut : Bool) (s : State) : (s.overrunIf cut).pos = s.pos := rfl

@[simp] lemma overrunIf_false (s : State) : s.overrunIf false = s := by
  simp [State.overrunIf]

@[simp] lemma pos_complain (cause : Complaint) (s : State) : (complain cause s).pos = s.pos := rfl

lemma node_eq (kind : NodeKind) (rule : State → State) (s : State) :
    node kind rule s = (rule (s.opening kind)).closing := rfl

/-- Looking ahead depends on the position only. -/
lemma nthIndex_congr (h : s.pos = t.pos) (n : Nat) : nthIndex ts s n = nthIndex ts t n := by
  induction n with
  | zero => simp [nthIndex, h]
  | succ n ih => simp [nthIndex, ih]

lemma nth_congr (h : s.pos = t.pos) (n : Nat) : nth ts s n = nth ts t n := by
  rw [nth, nth, nthIndex_congr h]

lemma nthText_congr (h : s.pos = t.pos) (n : Nat) : nthText ts s n = nthText ts t n := by
  rw [nthText, nthText, nthIndex_congr h]

@[simp] lemma nth_opening (kind : NodeKind) (s : State) (n : Nat) :
    nth ts (s.opening kind) n = nth ts s n := nth_congr (pos_opening kind s) n

@[simp] lemma nth_complain (cause : Complaint) (s : State) (n : Nat) :
    nth ts (complain cause s) n = nth ts s n := nth_congr (pos_complain cause s) n

@[simp] lemma nth_deeper (s : State) (n : Nat) : nth ts s.deeper n = nth ts s n :=
  nth_congr (pos_deeper s) n

/-- After a token has been read, the tokens ahead are those that came after it. -/
lemma nthIndex_take (h : nth ts s 0 ≠ .eof) (role : LeafRole) (n : Nat) :
    nthIndex ts (take ts role s) n = nthIndex ts s (n + 1) := by
  have hend : atEnd ts s = false := by simpa [atEnd, at?, current] using h
  have heof : ts.isEof (nthIndex ts s 0) = false := by simpa [TokenStream.isEof, nth] using h
  induction n with
  | zero => simp [take, hend, nthIndex] at heof ⊢; simp [heof]
  | succ n ih => rw [nthIndex, ih]; rfl

lemma nth_take (h : nth ts s 0 ≠ .eof) (role : LeafRole) (n : Nat) :
    nth ts (take ts role s) n = nth ts s (n + 1) := by
  rw [nth, nth, nthIndex_take h]

/-- Kinds of the significant tokens that have not been read. -/
def ahead (ts : TokenStream) (s : State) : List TokenKind :=
  (ts.significantFrom s.pos).map ts.kind

lemma ahead_congr (h : s.pos = t.pos) : ahead ts s = ahead ts t := by
  rw [ahead, ahead, h]

/-! ### The relation -/

/-- Tokens read one after the other, none of them at the end of input. -/
inductive Takes (ts : TokenStream) : State → List LeafRole → State → Prop where
  | nil (s : State) :
    Takes ts s [] s
  | cons {s t : State} {role : LeafRole} {roles : List LeafRole} :
    nth ts s 0 ≠ .eof →
    Takes ts (take ts role s) roles t →
    Takes ts s (role :: roles) t

/-- The grammar comes from one state to another by recognising items. -/
inductive Reads (ts : TokenStream) : State → List Item → State → Prop where
  | nil (s : State) :
    Reads ts s [] s
  | append {s t u : State} {xs ys : List Item} :
    Reads ts s xs t →
    Reads ts t ys u →
    Reads ts s (xs ++ ys) u
  | leaf {s : State} (role : LeafRole) :
    nth ts s 0 ≠ .eof →
    Reads ts s [.leaf role] (take ts role s)
  | complain (s : State) (cause : Complaint) :
    Reads ts s [.error cause] (complain cause s)
  | node {s t : State} {kind : NodeKind} {xs : List Item} :
    Item.isPlain kind = true →
    Reads ts (s.opening kind) xs t →
    Reads ts s [.node kind xs] t.closing
  | reject {s t : State} {roles : List LeafRole} (cause : Complaint) :
    Takes ts (Grammar.complain cause (s.opening (.error 0))) roles t →
    Reads ts s [.node (.error 0) (.error cause :: roles.map .leaf)] t.closing
  | deepen {s t : State} {xs : List Item} :
    Reads ts s.deeper xs t →
    Reads ts s xs t.shallower
  /-- The keywords of a table definition overrun the input if nothing follows its `IF (`. -/
  | table {s t u : State} {roles : List LeafRole} {xs : List Item} :
    Takes ts (s.opening .tableDefinition) roles t →
    Reads ts (t.overrunIf (Item.isTableStub (ahead ts s))) xs u →
    Reads ts s [.node .tableDefinition (roles.map .leaf ++ xs)] u.closing
  | loop {s t : State} {xs : List Item} :
    Item.lacksIn xs = false →
    Reads ts (s.opening .loopStatement) xs t →
    Reads ts s [.node .loopStatement xs] t.closing
  /-- The `IN` of a loop is asked for after the end of input. -/
  | cutLoop {s t u : State} {xs ys zs ws : List Item} :
    Reads ts (s.opening .loopStatement) (xs ++ [.node .expression ys]) t →
    Reads ts (t.overrunIf true) (.node .statement zs :: ws) u →
    Reads ts s [.node .loopStatement (xs ++ .node .expression ys :: .node .statement zs :: ws)]
      u.closing

/-- The grammar comes from one state to another. -/
def Advances (ts : TokenStream) (s t : State) : Prop :=
  ∃ items, Reads ts s items t

lemma Advances.refl (s : State) : Advances ts s s := ⟨[], .nil s⟩

lemma Advances.trans (h₁ : Advances ts s t) (h₂ : Advances ts t u) : Advances ts s u := by
  obtain ⟨xs, h₁⟩ := h₁
  obtain ⟨ys, h₂⟩ := h₂
  exact ⟨xs ++ ys, .append h₁ h₂⟩

lemma Advances.ite {c : Prop} [Decidable c] (h₁ : c → Advances ts s t) (h₂ : ¬c → Advances ts s u) :
    Advances ts s (if c then t else u) := by
  split
  · next h => exact h₁ h
  · next h => exact h₂ h

lemma Takes.reads {roles : List LeafRole} (h : Takes ts s roles t) :
    Reads ts s (roles.map .leaf) t := by
  induction h with
  | nil s => exact .nil s
  | cons hne _ ih => exact .append (.leaf _ hne) ih

lemma Takes.append {roles roles' : List LeafRole} (h₁ : Takes ts s roles t)
    (h₂ : Takes ts t roles' u) : Takes ts s (roles ++ roles') u := by
  induction h₁ with
  | nil s => exact h₂
  | cons hne _ ih => exact .cons hne (ih h₂)

lemma Takes.single (role : LeafRole) (h : nth ts s 0 ≠ .eof) :
    Takes ts s [role] (take ts role s) :=
  .cons h (.nil _)

/-! ### Events -/

lemma take_eq (h : nth ts s 0 ≠ .eof) (role : LeafRole) :
    take ts role s
      = { s with events := .token role :: s.events, pos := ts.nextSignificant s.pos + 1 } := by
  have hend : atEnd ts s = false := by simpa [atEnd, at?, current] using h
  simp [take, hend, nthIndex]

lemma Takes.events {roles : List LeafRole} (h : Takes ts s roles t) :
    t.events = (Item.eventsOf (roles.map .leaf)).reverse ++ s.events := by
  induction h with
  | nil s => rfl
  | cons hne _ ih => simp [ih, take_eq hne, Item.eventsOf, Item.events]

/-- A run records the events of the items that it recognises. -/
lemma Reads.events {xs : List Item} (h : Reads ts s xs t) :
    t.events = (Item.eventsOf xs).reverse ++ s.events := by
  induction h with
  | nil s => rfl
  | append _ _ ih₁ ih₂ => simp [ih₁, ih₂]
  | leaf role hne => simp [take_eq hne, Item.eventsOf, Item.events]
  | complain s cause => simp [Grammar.complain, Item.eventsOf, Item.events]
  | node _ _ ih => simp [State.closing, ih, State.opening, Item.eventsOf, Item.events]
  | reject cause htakes =>
    simp [State.closing, htakes.events, Grammar.complain, State.opening, Item.eventsOf, Item.events]
  | deepen _ ih => simpa [State.shallower, State.deeper] using ih
  | table htakes _ ih =>
    simp [State.closing, ih, State.overrunIf, htakes.events, State.opening, Item.eventsOf,
      Item.events]
  | loop _ _ ih => simp [State.closing, ih, State.opening, Item.eventsOf, Item.events]
  | cutLoop _ _ ih₁ ih₂ =>
    simp [State.closing, ih₂, State.overrunIf, ih₁, State.opening, Item.eventsOf, Item.events]

/-- What a run recognises is a proper forest. -/
lemma Reads.proper {xs : List Item} (h : Reads ts s xs t) : ∀ x ∈ xs, x.Proper := by
  have leaves (roles : List LeafRole) : ∀ x ∈ roles.map Item.leaf, x.Proper := by
    intro x hx
    obtain ⟨role, -, rfl⟩ := List.mem_map.1 hx
    exact .leaf role
  induction h with
  | nil s => simp
  | append _ _ ih₁ ih₂ =>
    intro x hx
    exact (List.mem_append.1 hx).elim (ih₁ x) (ih₂ x)
  | leaf role _ => simpa using Item.Proper.leaf role
  | complain s cause => simpa using Item.Proper.error cause
  | node hkind _ ih => simpa using Item.Proper.node (Item.isConstruct_of_isPlain hkind) ih
  | reject cause _ => simpa using Item.Proper.reject cause _
  | deepen _ ih => exact ih
  | @table s t u roles xs _ _ ih =>
    have hall : ∀ x ∈ roles.map Item.leaf ++ xs, x.Proper := by
      intro x hx
      exact (List.mem_append.1 hx).elim (leaves roles x) (ih x)
    simpa using Item.Proper.node rfl hall
  | loop _ _ ih => simpa using Item.Proper.node rfl ih
  | @cutLoop s t u xs ys zs ws _ _ ih₁ ih₂ =>
    -- The targets were read before the overrun and the query after it.
    have hall : ∀ x ∈ xs ++ .node .expression ys :: .node .statement zs :: ws, x.Proper := by
      intro x hx
      rw [show xs ++ .node .expression ys :: .node .statement zs :: ws
        = (xs ++ [.node .expression ys]) ++ .node .statement zs :: ws by simp] at hx
      exact (List.mem_append.1 hx).elim (ih₁ x) (ih₂ x)
    simpa using Item.Proper.node rfl hall

/-! ### Tokens -/

lemma nextSignificant_lt (hc : ts.Closed) (h : nth ts s 0 ≠ .eof) :
    ts.nextSignificant s.pos < ts.lastIndex := by
  by_contra hge
  exact h ((hc.kind_eq_eof_iff _).2 (Nat.le_of_not_lt hge))

lemma significantFrom_take (hc : ts.Closed) (h : nth ts s 0 ≠ .eof) (role : LeafRole) :
    ts.significantFrom s.pos
      = ts.nextSignificant s.pos :: ts.significantFrom (take ts role s).pos := by
  rw [take_eq h, hc.significantFrom_eq_cons (nextSignificant_lt hc h)]

lemma Takes.significantFrom (hc : ts.Closed) {roles : List LeafRole} (h : Takes ts s roles t) :
    ∃ read, read.length = roles.length
      ∧ ts.significantFrom s.pos = read ++ ts.significantFrom t.pos := by
  induction h with
  | nil s => exact ⟨[], rfl, rfl⟩
  | @cons s t role roles hne _ ih =>
    obtain ⟨read, hlen, hread⟩ := ih
    refine ⟨ts.nextSignificant s.pos :: read, by simp [hlen], ?_⟩
    rw [significantFrom_take hc hne role, hread, List.cons_append]

/-- A run reads as many significant tokens as it recognises leaves. -/
lemma Reads.significantFrom (hc : ts.Closed) {xs : List Item} (h : Reads ts s xs t) :
    ∃ read, read.length = Item.leavesOf xs
      ∧ ts.significantFrom s.pos = read ++ ts.significantFrom t.pos := by
  induction h with
  | nil s => exact ⟨[], rfl, rfl⟩
  | append _ _ ih₁ ih₂ =>
    obtain ⟨read₁, hlen₁, h₁⟩ := ih₁
    obtain ⟨read₂, hlen₂, h₂⟩ := ih₂
    exact ⟨read₁ ++ read₂, by simp [hlen₁, hlen₂], by rw [h₁, h₂, List.append_assoc]⟩
  | leaf role hne => exact ⟨[_], rfl, significantFrom_take hc hne role⟩
  | complain s cause => exact ⟨[], rfl, rfl⟩
  | node _ _ ih => simpa [Item.leavesOf, Item.leaves] using ih
  | reject cause htakes =>
    obtain ⟨read, hlen, hread⟩ := htakes.significantFrom hc
    exact ⟨read, by simp [Item.leavesOf, Item.leaves, hlen], hread⟩
  | deepen _ ih => exact ih
  | table htakes _ ih =>
    obtain ⟨read₁, hlen₁, h₁⟩ := htakes.significantFrom hc
    obtain ⟨read₂, hlen₂, h₂⟩ := ih
    simp only [pos_opening, pos_overrunIf, pos_closing] at h₁ h₂ ⊢
    refine ⟨read₁ ++ read₂, by simp [Item.leavesOf, Item.leaves, hlen₁, hlen₂], ?_⟩
    rw [h₁, h₂, List.append_assoc]
  | loop _ _ ih => simpa [Item.leavesOf, Item.leaves] using ih
  | cutLoop _ _ ih₁ ih₂ =>
    obtain ⟨read₁, hlen₁, h₁⟩ := ih₁
    obtain ⟨read₂, hlen₂, h₂⟩ := ih₂
    simp only [pos_opening, pos_overrunIf, pos_closing] at h₁ h₂ ⊢
    refine ⟨read₁ ++ read₂, ?_, ?_⟩
    · simp only [Item.leavesOf, Item.leaves, Item.leavesOf_append, List.length_append] at hlen₁ hlen₂ ⊢
      omega
    · rw [h₁, h₂, List.append_assoc]

lemma Reads.ahead (hc : ts.Closed) {xs : List Item} (h : Reads ts s xs t) :
    Grammar.ahead ts t = (Grammar.ahead ts s).drop (Item.leavesOf xs) := by
  obtain ⟨read, hlen, hread⟩ := h.significantFrom hc
  rw [Grammar.ahead, Grammar.ahead, hread, List.map_append, List.drop_append_of_le_length,
    List.drop_of_length_le, List.nil_append] <;> simp [hlen]

lemma Takes.pos_le {roles : List LeafRole} (h : Takes ts s roles t) : s.pos ≤ t.pos := by
  induction h with
  | nil s => exact Nat.le_refl _
  | @cons s t role roles hne _ ih =>
    have hle := ts.le_nextSignificant s.pos
    rw [take_eq hne] at ih
    simp only at ih
    omega

/-- A run never goes back. -/
lemma Reads.pos_le {xs : List Item} (h : Reads ts s xs t) : s.pos ≤ t.pos := by
  induction h with
  | nil s => exact Nat.le_refl _
  | append _ _ ih₁ ih₂ => exact Nat.le_trans ih₁ ih₂
  | leaf role hne => exact (Takes.single role hne).pos_le
  | complain s cause => exact Nat.le_refl _
  | node _ _ ih => exact ih
  | reject cause htakes => exact htakes.pos_le
  | deepen _ ih => exact ih
  | table htakes _ ih => exact Nat.le_trans htakes.pos_le ih
  | loop _ _ ih => exact ih
  | cutLoop _ _ ih₁ ih₂ => exact Nat.le_trans ih₁ ih₂

/-! ### Overruns -/

lemma Takes.overrun {roles : List LeafRole} (h : Takes ts s roles t) : t.overrun = s.overrun := by
  induction h with
  | nil s => rfl
  | cons hne _ ih => simp [ih, take_eq hne]

/-- A run overruns the input exactly if one of its items is cut short. -/
theorem Reads.overrun (hc : ts.Closed) {xs : List Item} (h : Reads ts s xs t) :
    t.overrun = (s.overrun || Item.areCutShort (Grammar.ahead ts s) xs) := by
  induction h with
  | nil s => simp [Item.areCutShort]
  | append h₁ _ ih₁ ih₂ => rw [ih₂, ih₁, h₁.ahead hc, Item.areCutShort_append, Bool.or_assoc]
  | leaf role hne => simp [take_eq hne, Item.areCutShort, Item.isCutShort]
  | complain s cause => simp [Grammar.complain, Item.areCutShort, Item.isCutShort]
  | @node s t kind xs hkind _ ih =>
    -- A plain construct is cut short only by what is inside it.
    have htable : kind ≠ .tableDefinition := by rintro rfl; simp [Item.isPlain] at hkind
    have hloop : kind ≠ .loopStatement := by rintro rfl; simp [Item.isPlain] at hkind
    rw [ahead_congr (pos_opening kind s)] at ih
    simpa [State.closing, State.opening, Item.areCutShort, Item.isCutShort, htable, hloop] using ih
  | reject cause htakes =>
    simp [State.closing, htakes.overrun, Grammar.complain, State.opening, Item.areCutShort,
      Item.isCutShort]
  | @deepen s t xs _ ih =>
    rw [ahead_congr (pos_deeper s)] at ih
    exact ih
  | @table s t u roles xs htakes _ ih =>
    -- The stub is judged at the start of the node, the items inside it after the keywords.
    have hahead := htakes.reads.ahead hc
    rw [Item.leavesOf_map_leaf, ahead_congr (pos_opening _ s)] at hahead
    rw [ahead_congr (pos_overrunIf _ t), hahead] at ih
    simp [State.closing, ih, State.overrunIf, htakes.overrun, State.opening, Item.areCutShort,
      Item.isCutShort, Bool.or_assoc]
  | @loop s t xs hin _ ih =>
    rw [ahead_congr (pos_opening _ s)] at ih
    simpa [State.closing, State.opening, Item.areCutShort, Item.isCutShort, hin] using ih
  | @cutLoop s t u xs ys zs ws _ _ _ ih₂ =>
    have hin := Item.lacksIn_append xs
      (show Item.lacksIn (.node .expression ys :: .node .statement zs :: ws) = true from rfl)
    simp [State.closing, ih₂, State.overrunIf, Item.areCutShort, Item.isCutShort, hin]

end SqlLayout.Grammar
