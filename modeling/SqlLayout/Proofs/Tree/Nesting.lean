import SqlLayout.Proofs.Tree.Formed

/-!
# How deep trees are

Groups are counted while they are nested, and their number is bounded. Between two groups on a path the
kinds of nodes come in a fixed order, but for two rules that recur without a group around them: `BETWEEN`
inside the operands of another, and a routine whose body defines a routine. `length_path_le` bounds the
length of a path by the number of these, and `path_exceeds_nesting` shows that they matter.
-/

namespace SqlLayout
namespace Tree

open Grammar (mayHold isGroup holdsAtoms maxNesting)

variable {t : Tree} {id depth : Nat} {path : List Nat}

/-- Nodes that lead from the root to one of its descendants, each a child of the one before. -/
def IsPath (t : Tree) (path : List Nat) : Prop :=
  path.head? = some t.root ∧ path.IsChain fun parent child => child ∈ t.children parent

/-- Number of expressions on a path that stand directly inside a run of operands. -/
def betweens (t : Tree) : List Nat → Nat
  | parent :: child :: path =>
    (holdsAtoms (t.kind parent) && t.kind child == .expression).toNat + betweens t (child :: path)
  | _ => 0

/-- Number of routine bodies on a path. -/
def bodies (t : Tree) (path : List Nat) : Nat :=
  path.countP fun id => t.kind id == .functionBody

/-- How many nodes may follow a node of a kind on a path before the next group. -/
def rank : NodeKind → Nat
  | .leaf _ | .comment => 0
  | .error _ => 1
  | .functionCall => 2
  | .expression | .listElement | .declarationPart _ => 3
  | .commaList | .declaration => 4
  | .clause | .declareSection | .declarationList => 5
  | .statement | .functionDefinition | .tableDefinition | .doBlock => 6
  | .parenthesized | .statementList | .root => 7
  | .functionBody | .whenBranch | .elseBranch | .conditionalBranch | .loopStatement => 8
  | .caseOf | .caseStatement | .exceptionSection | .ifStatement => 9
  | .block => 10

/-- From a node to one that it may hold the rank goes down, unless the step is paid for. -/
lemma rank_lt {kind child : NodeKind} (h : mayHold kind child = true) :
    rank child < rank kind + 7 * (isGroup child).toNat
      + (holdsAtoms kind && child == .expression).toNat + 3 * (child == .functionBody).toNat := by
  cases kind <;> cases child <;>
    first | exact absurd h Bool.false_ne_true | exact Nat.le_of_ble_eq_true rfl

/-- Error nodes are no groups. -/
lemma rank_error_lt {kind : NodeKind} {index : Nat} (h : mayHold kind (.error 0) = true) :
    rank (.error index) < rank kind := by
  cases kind <;> first | exact absurd h Bool.false_ne_true | exact Nat.le_of_ble_eq_true rfl

lemma rank_pos {kind : NodeKind} (h : kind.isPiece = false) : 0 < rank kind := by
  cases kind <;> first | exact Nat.le_of_ble_eq_true rfl | exact absurd h.symm Bool.false_ne_true

/-- A path below a node is bounded by the rank of the node and the groups that may still be nested. -/
lemma length_le_of_formed (hformed : Formed t (t.kind id) depth (t.children id))
    (hid : (t.kind id).isPiece = false) (hdepth : depth ≤ maxNesting)
    (hpath : (id :: path).IsChain fun parent child => child ∈ t.children parent) :
    path.length ≤ rank (t.kind id) + 7 * (maxNesting - depth) + t.betweens (id :: path)
      + 3 * t.bodies path := by
  induction path generalizing id depth with
  | nil => simp
  | cons child path ih =>
    obtain ⟨hchild, hpath⟩ := List.isChain_cons_cons.1 hpath
    have hbodies : t.bodies (child :: path)
        = t.bodies path + (t.kind child == .functionBody).toNat := by
      rw [bodies, List.countP_cons]
      cases t.kind child == .functionBody <;> rfl
    cases hformed.mem hchild with
    | piece htoken _ =>
      -- A leaf or comment has no children.
      have hnil : path = [] := by
        cases path with
        | nil => rfl
        | cons next path =>
          have hnext := (List.isChain_cons_cons.1 hpath).1
          rw [children, htoken.node_eq] at hnext
          simp at hnext
      have := rank_pos hid
      simp only [hnil, List.length_singleton]
      omega
    | node hconstruct hhold hgroup _ hchildren =>
      have hrank := rank_lt hhold
      have hlength : path.length ≤ rank (t.kind child)
          + 7 * (maxNesting - (depth + (isGroup (t.kind child)).toNat)) + t.betweens (child :: path)
          + 3 * t.bodies path := by
        refine ih hchildren (isPiece_of_isConstruct hconstruct) ?_ hpath
        cases hk : isGroup (t.kind child) with
        | false => simpa using hdepth
        | true => exact hgroup hk
      have hgroups : 7 * (maxNesting - (depth + (isGroup (t.kind child)).toNat))
          + 7 * (isGroup (t.kind child)).toNat ≤ 7 * (maxNesting - depth) := by
        cases hk : isGroup (t.kind child) with
        | false => simp
        | true =>
          have := hgroup hk
          simp only [Bool.toNat_true]
          omega
      rw [betweens, hbodies, List.length_cons]
      omega
    | @reject index hkind hhold _ hchildren =>
      have hrank : rank (.error index) < rank (t.kind id) := rank_error_lt hhold
      have hlength := ih (hkind ▸ hchildren) (by rw [hkind]; rfl) hdepth hpath
      rw [hkind] at hlength
      rw [betweens, hbodies, List.length_cons]
      omega

/--
A path of a tree is no longer than the number of groups allows, apart from nested `BETWEEN` and routine
bodies.
-/
theorem length_path_le {source : Text} (h : parse source = .ok t) (hpath : t.IsPath path) :
    path.length ≤ 8 * (maxNesting + 1) + t.betweens path + 3 * t.bodies path := by
  have harena := (isGrown_of_parse h).2.isArena
  have hroot : t.kind t.root = .root := by rw [harena.root_eq, harena.kind_root]
  obtain ⟨hhead, hchain⟩ := hpath
  cases path with
  | nil => simp at hhead
  | cons id path =>
    obtain rfl : id = t.root := by simpa using hhead
    have hlength := length_le_of_formed (hroot ▸ formed_of_parse h) (by rw [hroot]; rfl)
      (Nat.zero_le _) hchain
    have hbodies : t.bodies (t.root :: path) = t.bodies path := by
      rw [bodies, bodies, List.countP_cons, hroot]
      rfl
    rw [hroot] at hlength
    rw [hbodies, List.length_cons]
    simp only [rank] at hlength
    omega

/-- A path through `BETWEEN` and a group. -/
theorem length_path_le_of_between :
    ∃ t, parse "select a between (b) and c".toList = .ok t
      ∧ t.IsPath [0, 1, 2, 4, 5, 7, 9, 11, 12, 13] ∧ t.betweens [0, 1, 2, 4, 5, 7, 9, 11, 12, 13] = 1
      ∧ [0, 1, 2, 4, 5, 7, 9, 11, 12, 13].length ≤ 8 * (maxNesting + 1)
        + t.betweens [0, 1, 2, 4, 5, 7, 9, 11, 12, 13] + 3 * t.bodies [0, 1, 2, 4, 5, 7, 9, 11, 12, 13] := by
  obtain ⟨t, ht, hall⟩ := exists_of_any "select a between (b) and c".toList
    (fun t => decide (some 0 = some t.root ∧ List.IsChain (fun parent child => child ∈ t.children parent)
      [0, 1, 2, 4, 5, 7, 9, 11, 12, 13] ∧ t.betweens [0, 1, 2, 4, 5, 7, 9, 11, 12, 13] = 1))
    (by decide +kernel)
  obtain ⟨hroot, hchain, hbetweens⟩ := of_decide_eq_true hall
  exact ⟨t, ht, ⟨hroot, hchain⟩, hbetweens, length_path_le ht ⟨hroot, hchain⟩⟩

end Tree

/-! ### A tree that is deep without groups -/

namespace Grammar

variable {ts : TokenStream} {s t : State} {stop : Stop} {g : Rules} {items : List Item} {n : Nat}

/-- Expressions that hold a token and the next one. -/
def towerOf : List LeafRole → List Item
  | [] => []
  | role :: roles => [.node .expression (.leaf role :: towerOf roles)]

/-- All words of a stream are `BETWEEN`. -/
def OnlyBetween (ts : TokenStream) : Prop :=
  ∀ i < ts.lastIndex, (ts.kind i).isTrivia = false → ts.kind i = .keyword .BETWEEN

/-- A step reads all tokens that are left, and records items for them. -/
structure Exhausts (ts : TokenStream) (s : State) (items : List Item) (t : State) : Prop where
  left : left ts t = 0
  events : t.events = (Item.eventsOf items).reverse ++ s.events
  overrun : t.overrun = s.overrun

lemma nth_of_left_eq_zero (hc : ts.Closed) (h : left ts s = 0) : nth ts s 0 = .eof := by
  rw [← headKind_significantFrom hc, List.length_eq_zero_iff.1 h]
  exact (hc.kind_eq_eof_iff _).2 (Nat.le_refl _)

lemma nth_of_left_pos (hc : ts.Closed) (hts : OnlyBetween ts) (h : 0 < left ts s) :
    nth ts s 0 = .keyword .BETWEEN := by
  refine hts _ ?_ (hc.isTrivia_nextSignificant _)
  by_contra hle
  rw [left, TokenStream.significantFrom_eq_nil_of_nextSignificant (Nat.le_of_not_lt hle)] at h
  exact absurd h (Nat.lt_irrefl 0)

lemma hit_of_left_eq_zero (hc : ts.Closed) (h : left ts s = 0) : stop.hit ts s = true := by
  simp [Stop.hit, atAny, current, nth_of_left_eq_zero hc h, contains_alwaysStop_eof]

lemma not_atClauseStart (hc : ts.Closed) (hts : OnlyBetween ts) (h : 0 < left ts s) :
    atClauseStart ts s = false := by
  simp [atClauseStart, current, nth_of_left_pos hc hts h]

lemma not_alwaysStop_between : alwaysStop.contains (.keyword .BETWEEN) = false :=
  KindSet.not_contains_ofList (by simp)

lemma hit_of_left_pos (hc : ts.Closed) (hts : OnlyBetween ts) (h : 0 < left ts s)
    (hstop : stop.kinds.contains (.keyword .BETWEEN) = false) : stop.hit ts s = false := by
  simp [Stop.hit, atAny, current, not_atClauseStart hc hts h, nth_of_left_pos hc hts h, hstop,
    not_alwaysStop_between]

/-- A token that is read before all others. -/
lemma Exhausts.take {role : LeafRole} (hs : nth ts s 0 ≠ .eof)
    (h : Exhausts ts (take ts role s) items t) : Exhausts ts s (.leaf role :: items) t := by
  rw [take_eq hs] at h
  refine ⟨h.left, ?_, h.overrun⟩
  rw [h.events]
  simp [Item.eventsOf, Item.events]

lemma Exhausts.node {k : NodeKind} {rule : State → State}
    (h : Exhausts ts (s.opening k) items (rule (s.opening k))) :
    Exhausts ts s [.node k items] (node k rule s) := by
  rw [node_eq]
  refine ⟨h.left, ?_, h.overrun⟩
  change .close :: (rule (s.opening k)).events = _
  rw [h.events]
  simp [State.opening, Item.eventsOf, Item.events]

/-- A rule that reads all tokens is not repeated. -/
lemma Exhausts.repeatWhile {condition : State → Bool} {rule : State → State}
    (h : Exhausts ts s items (rule s)) (hs : 0 < Grammar.left ts s) (hcond : condition s = true)
    (hend : ∀ t, Grammar.left ts t = 0 → condition t = false) :
    Exhausts ts s items (repeatWhile ts condition rule s) := by
  rw [Grammar.repeatWhile, if_pos hcond]
  dsimp only
  rw [if_pos (remaining_lt_of_left_lt (h.left ▸ hs)), repeatWhile_of_false (hend _ h.left)]
  exact h

/-- Atoms up to the end take all tokens if one does, and nothing where nothing is left. -/
lemma exhausts_atomsUntil (hc : ts.Closed) (hts : OnlyBetween ts)
    (hstop : stop.kinds.contains (.keyword .BETWEEN) = false)
    (hatom : 0 < left ts s →
      ∃ roles, roles.length = left ts s ∧ Exhausts ts s (towerOf roles) (g.atom stop s)) :
    ∃ roles, roles.length = left ts s ∧ Exhausts ts s (towerOf roles) (atomsUntil ts g stop s) := by
  rcases Nat.eq_zero_or_pos (left ts s) with hzero | hpos
  · refine ⟨[], hzero.symm, ?_⟩
    rw [atomsUntil, repeatWhile_of_false (by simp [hit_of_left_eq_zero hc hzero])]
    exact ⟨hzero, rfl, rfl⟩
  · obtain ⟨roles, hroles, h⟩ := hatom hpos
    refine ⟨roles, hroles, h.repeatWhile hpos (by simp [hit_of_left_pos hc hts hpos hstop]) ?_⟩
    intro t ht
    simp [hit_of_left_eq_zero hc ht]

/-- An operand takes all tokens, each inside the one before. -/
lemma exhausts_atom (hc : ts.Closed) (hts : OnlyBetween ts)
    (hstop : stop.kinds.contains (.keyword .BETWEEN) = false) (hs : 0 < left ts s)
    (hn : left ts s ≤ n) :
    ∃ roles, roles.length = left ts s ∧ Exhausts ts s (towerOf roles) ((rules ts n).atom stop s) := by
  induction n generalizing s stop with
  | zero => omega
  | succ n ih =>
    have hfirst := nth_of_left_pos hc hts hs
    have hne : nth ts (s.opening .expression) 0 ≠ .eof := by simp [hfirst]
    have hbetween : (rules ts (n + 1)).atom stop s = between ts (rules ts n) stop s := by
      change atom ts (rules ts n) stop s = _
      simp [atom, current, hfirst]
    have hleft := left_take hc hne (inferredRole ts (s.opening .expression))
    rw [left_opening] at hleft
    have hstop' : (stop.also [.keyword .AND]).kinds.contains (.keyword .BETWEEN) = false := by
      rw [Stop.also, KindSet.contains_union, hstop, KindSet.not_contains_ofList (by simp)]
      rfl
    obtain ⟨roles, hroles, h⟩ := exhausts_atomsUntil hc hts hstop'
      (fun hpos => ih (s := bump ts (s.opening .expression)) hstop' hpos (by rw [bump]; omega))
    rw [bump] at hroles h
    refine ⟨inferredRole ts (s.opening .expression) :: roles, by rw [List.length_cons]; omega, ?_⟩
    rw [hbetween, between]
    refine Exhausts.node (Exhausts.take hne ?_)
    rw [bump, if_neg]
    · exact h
    · simp [at?, current, nth_of_left_eq_zero hc h.left]

/-- A clause takes all tokens as one expression. -/
lemma exhausts_clause (hc : ts.Closed) (hts : OnlyBetween ts)
    (hstop : stop.kinds.contains (.keyword .BETWEEN) = false) (hs : 0 < left ts s)
    (hn : left ts s ≤ n) :
    ∃ roles, roles.length = left ts s
      ∧ Exhausts ts s [.node .clause [.node .expression (towerOf roles)]]
        (clause ts (rules ts n) stop s) := by
  obtain ⟨roles, hroles, h⟩ := exhausts_atom (s := (s.opening .clause).opening .expression) hc hts hstop hs hn
  refine ⟨roles, hroles, Exhausts.node ?_⟩
  have hstart : atClauseStart ts (s.opening .clause) = false := not_atClauseStart hc hts hs
  rw [hstart]
  refine Exhausts.node ?_
  rw [atomsUntil, repeatWhile_of_false (by simp [hit_of_left_eq_zero hc h.left])]
  exact h

/-- All tokens make one statement of one clause. -/
lemma exhausts_statement (hc : ts.Closed) (hts : OnlyBetween ts) (hs : 0 < left ts s)
    (hn : left ts s ≤ n) :
    ∃ roles, roles.length = left ts s
      ∧ Exhausts ts s [.node .statement [.node .clause [.node .expression (towerOf roles)]]]
        ((rules ts (n + 1)).statement false s) := by
  obtain ⟨roles, hroles, h⟩ := exhausts_clause (s := s.opening .statement) hc hts
    (show Stop.atClause.kinds.contains (.keyword .BETWEEN) = false from KindSet.contains_empty _) hs hn
  have hstatement : (rules ts (n + 1)).statement false s = clauseStatement ts (rules ts n) s := by
    change statement ts (rules ts n) false s = _
    simp [statement, current, nth_of_left_pos hc hts hs, otherStatement]
  have hends (t : State) (ht : left ts t = 0) : (!atAny ts t alwaysStop) = false := by
    simp [atAny, current, nth_of_left_eq_zero hc ht, contains_alwaysStop_eof]
  have hclauses := h.repeatWhile hs
    (by simp [atAny, current, nth_of_left_pos hc hts hs, not_alwaysStop_between]) hends
  refine ⟨roles, hroles, ?_⟩
  rw [hstatement, clauseStatement]
  refine Exhausts.node ?_
  rw [clausesUntil, eat, if_neg]
  · exact hclauses
  · simp [at?, current, nth_of_left_eq_zero hc hclauses.left]

/-- All tokens make one statement, in which each of them is inside the one before. -/
lemma exhausts_run (hc : ts.Closed) (hts : OnlyBetween ts) (hs : 0 < (ts.significantFrom 0).length) :
    ∃ roles, roles.length = (ts.significantFrom 0).length ∧ Exhausts ts {}
      [.node .root [.node .statement [.node .clause [.node .expression (towerOf roles)]]]] (run ts) := by
  have hn : left ts (({} : State).opening .root) ≤ ts.size + 1 := by
    have hle : (ts.significantFrom 0).length ≤ ts.lastIndex := by
      simpa [TokenStream.significantFrom] using List.length_filter_le _ (List.range' 0 ts.lastIndex)
    have hlt : ts.lastIndex < ts.size := ts.lastIndex_lt_size
    rw [left_opening, left]
    change (ts.significantFrom 0).length ≤ _
    omega
  have hs : 0 < left ts (({} : State).opening .root) := hs
  obtain ⟨roles, hroles, h⟩ := exhausts_statement hc hts hs hn
  refine ⟨roles, hroles, Exhausts.node (Exhausts.repeatWhile ?_ hs ?_ ?_)⟩
  · rw [guardedStatement, if_neg]
    · exact h
    · simp [atEnd, at?, current, nth_of_left_eq_zero hc h.left]
  · rw [atEnd, at?, current, nth_of_left_pos hc hts hs]
    rfl
  · intro t ht
    simp [atEnd, at?, current, nth_of_left_eq_zero hc ht]

end Grammar

namespace TokenStream

/-- The keyword `BETWEEN`, written a number of times. -/
def betweenTimes (n : Nat) : Text :=
  (List.replicate n "between ".toList).flatten

lemma front_between (s : Lexeme.Surroundings) (rest : Text) :
    Lexeme.front s 'b' ("etween ".toList ++ rest) = (.keyword .BETWEEN, 6) := by
  simp +decide [Lexeme.front]

lemma front_blank_betweenTimes (s : Lexeme.Surroundings) (n : Nat) :
    Lexeme.front s ' ' (betweenTimes n) = (.whitespace, 0) := by
  cases n with
  | zero => rfl
  | succ n => simp +decide [Lexeme.front, Lexeme.spanLength, betweenTimes, List.replicate_succ]

/-- The keyword and the blank after it are scanned again and again. -/
lemma scan_betweenTimes (s : Lexeme.Surroundings) (n : Nat) : Lexeme.scan s (betweenTimes n)
    = (List.replicate n [⟨.keyword .BETWEEN, "between".toList⟩, ⟨.whitespace, [' ']⟩]).flatten := by
  induction n generalizing s with
  | zero => simp [betweenTimes, Lexeme.scan]
  | succ n ih =>
    have htext : betweenTimes (n + 1) = 'b' :: ("etween ".toList ++ betweenTimes n) := by
      simp [betweenTimes, List.replicate_succ]
    have hdrop : ("etween ".toList ++ betweenTimes n).drop 6 = ' ' :: betweenTimes n := rfl
    rw [htext, Lexeme.scan, front_between]
    dsimp only
    rw [hdrop, Lexeme.scan, front_blank_betweenTimes]
    dsimp only
    rw [List.drop_zero, ih, List.replicate_succ]
    rfl

/-- Words are counted where a text is scanned. -/
lemma length_significantFrom_ofText (source : Text) : ((ofText source).significantFrom 0).length
    = (Lexeme.scan {} source).countP fun x => !x.kind.isTrivia := by
  have hkinds : (List.range (ofText source).lastIndex).map (ofText source).kind
      = (Lexeme.scan {} source).map Lexeme.kind := by
    refine List.ext_getElem (by simp [lastIndex_ofText]) fun i hi hi' => ?_
    simp only [List.length_map, List.length_range] at hi
    have hget := getElem?_scan (Nat.le_of_lt hi)
    rw [List.getElem?_append_left (by simpa using hi'), List.getElem?_eq_getElem (by simpa using hi')] at hget
    simp [Option.some.inj hget]
  have hcount := congrArg (List.countP fun kind => !kind.isTrivia) hkinds
  rw [List.countP_map, List.countP_map] at hcount
  rw [significantFrom, ← List.countP_eq_length_filter, Nat.sub_zero, ← List.range_eq_range']
  exact hcount

lemma onlyBetween_ofText (n : Nat) : Grammar.OnlyBetween (ofText (betweenTimes n)) := by
  intro i hi htrivia
  have hmem := mem_scan_ofText hi
  rw [scan_betweenTimes] at hmem
  obtain ⟨pair, hpair, hmem⟩ := List.mem_flatten.1 hmem
  rw [List.eq_of_mem_replicate hpair] at hmem
  rcases List.mem_pair.1 hmem with hword | hblank
  · exact congrArg Lexeme.kind hword
  · rw [show (ofText (betweenTimes n)).kind i = .whitespace from congrArg Lexeme.kind hblank] at htrivia
    exact absurd htrivia nofun

lemma length_significantFrom_betweenTimes (n : Nat) :
    ((ofText (betweenTimes n)).significantFrom 0).length = n := by
  rw [length_significantFrom_ofText, scan_betweenTimes]
  induction n with
  | zero => rfl
  | succ n ih => rw [List.replicate_succ, List.flatten_cons, List.countP_append, ih]; exact Nat.add_comm 1 n

end TokenStream

namespace Tree

open Grammar (towerOf Item maxNesting)

variable {t : Tree} {ids : List Nat} {nodes : List Node} {id pos past count : Nat}

/-- A node of a forest is a child whose children mirror what it holds. -/
lemma Mirrors.exists_child {kind : NodeKind} {xs : List Item} (hkind : Item.isConstruct kind = true)
    (h : Mirrors t.tokens id pos [.node kind xs] ids nodes count past) (hholds : Holds t.nodes id nodes) :
    ∃ child ∈ ids, ∃ id' pos' nodes' count' past',
      Mirrors t.tokens id' pos' xs (t.children child) nodes' count' past' ∧ Holds t.nodes id' nodes' := by
  cases h with
  | @node _ _ _ _ _ _ _ _ inner _ before _ _ _ _ _ _ _ hinner _ =>
    rw [holds_append, holds_cons, holds_append] at hholds
    have hchildren : t.children (id + before.length) = inner := by
      rw [children, node_eq_of_holds hholds.2.1]
    exact ⟨_, List.mem_append_right _ List.mem_cons_self, _, _, _, _, _, hchildren ▸ hinner,
      hholds.2.2.1⟩
  | reject => simp [Item.isConstruct] at hkind

/-- A tower has a path through all its stories. -/
lemma Mirrors.exists_chain {roles : List LeafRole}
    (h : Mirrors t.tokens id pos (towerOf roles) ids nodes count past) (hholds : Holds t.nodes id nodes)
    {parent : Nat} (hparent : ∀ child ∈ ids, child ∈ t.children parent) :
    ∃ path, path.length = roles.length
      ∧ (parent :: path).IsChain fun parent child => child ∈ t.children parent := by
  induction roles generalizing id pos ids nodes count past parent with
  | nil => exact ⟨[], rfl, .singleton _⟩
  | cons role roles ih =>
    obtain ⟨child, hchild, _, _, _, _, _, hinner, hholds⟩ := h.exists_child rfl hholds
    generalize hids : t.children child = inner at hinner
    cases hinner with
    | leaf _ _ _ hrest =>
      rw [holds_append, holds_cons] at hholds
      obtain ⟨path, hlength, hpath⟩ := ih hrest hholds.2.2 fun c hc => by
        rw [hids]
        simp [hc]
      exact ⟨child :: path, by simp [hlength], .cons_cons (hparent _ hchild) hpath⟩

/-- Each `BETWEEN` after another is one node deeper, and no group is counted. -/
lemma exists_path_betweenTimes {n : Nat} (hn : 0 < n) :
    ∃ t path, parse (TokenStream.betweenTimes n) = .ok t ∧ t.IsPath path ∧ path.length = n + 4 := by
  have hc := TokenStream.closed_ofText (TokenStream.betweenTimes n)
  have hlength := TokenStream.length_significantFrom_betweenTimes n
  obtain ⟨roles, hroles, hrun⟩ := Grammar.exhausts_run hc (TokenStream.onlyBetween_ofText n)
    (by rw [hlength]; exact hn)
  obtain ⟨hover, -⟩ | ⟨-, t, ht, -⟩ := parse_cases (TokenStream.betweenTimes n)
  · rw [hrun.overrun] at hover
    exact absurd hover nofun
  obtain ⟨-, items, hforest, ids, nodes, past, remarks, before, stop, hmirrors, -, hroot, hnodes⟩ :=
    reflects_of_parse ht
  obtain rfl : [.node .statement [.node .clause [.node .expression (towerOf roles)]]] = items := by
    rw [Grammar.forest, hrun.events, List.append_nil, List.reverse_reverse, Item.outline_eventsOf] at hforest
    simpa using hforest
  have harena : t.nodes = (⟨.root, 0, t.tokens.size, ids ++ remarks⟩ :: (nodes ++ before)).toArray := by
    rw [← hnodes]
  obtain ⟨hnode, hholds⟩ := holds_of_arena harena
  rw [holds_append] at hholds
  -- From the root down to the first expression.
  obtain ⟨statement, hstatement, _, _, _, _, _, hmirrors, hholds⟩ := hmirrors.exists_child rfl hholds.1
  obtain ⟨clause, hclause, _, _, _, _, _, hmirrors, hholds⟩ := hmirrors.exists_child rfl hholds
  obtain ⟨expression, hexpression, _, _, _, _, _, hmirrors, hholds⟩ := hmirrors.exists_child rfl hholds
  obtain ⟨path, hpath, hchain⟩ := hmirrors.exists_chain hholds fun _ hc => hc
  refine ⟨t, t.root :: statement :: clause :: expression :: path, ht, ⟨rfl, ?_⟩, ?_⟩
  · refine .cons_cons ?_ (.cons_cons hclause (.cons_cons hexpression hchain))
    rw [hroot, children, hnode]
    exact List.mem_append_left _ hstatement
  · simp only [List.length_cons]
    omega

/-- Sixteen nodes for each group that may be nested are not enough for all paths. -/
theorem path_exceeds_nesting : ¬∀ (source : Text) (t : Tree) (path : List Nat), parse source = .ok t →
    t.IsPath path → path.length ≤ 16 * (maxNesting + 1) := by
  intro hall
  obtain ⟨t, path, ht, hpath, hlength⟩ := exists_path_betweenTimes (n := 1100) (by decide)
  have hle := hall _ t path ht hpath
  rw [hlength] at hle
  exact absurd hle (by decide)

end Tree
end SqlLayout
