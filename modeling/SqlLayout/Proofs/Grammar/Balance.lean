import SqlLayout.Proofs.Grammar.Reads

/-!
# Moving forward in balance

`Balanced ts s t` says that the grammar has come from a state to another without going back, with as many
groups around it as before, and that whole items have been recorded in between. `Gains ts s t` says besides
that a token has been read, unless the input had ended already.

Unlike `Reads`, neither asks whether a rule has looked before it reads. They hold of what rules do in any
state of any stream, also where a token is asked for at the end of input.

The kind of a node may be known only when it is complete. A draft of events keeps the place of its opening
until then, and `draftOf?_eq` says that drafting items fills every place.
-/

namespace SqlLayout.Grammar

variable {ts : TokenStream} {s t u : State}

/-! ### Drafts of events -/

/-- Events while nodes are open. A place without an event is kept for the opening of a node. -/
abbrev Draft := List (Option Event)

/-- Completes the node whose opening has a place kept for it; fails if that place has been filled. -/
def Draft.complete? (place : Nat) (kind : NodeKind) (draft : Draft) : Option Draft :=
  if draft[place]? = some none then some (draft.set place (some (.open kind)) ++ [some .close]) else none

/-- The place that was kept is still there, and the opening goes into it. -/
lemma Draft.complete?_append (draft inner : Draft) (kind : NodeKind) :
    Draft.complete? draft.length kind (draft ++ none :: inner)
      = some (draft ++ some (.open kind) :: inner ++ [some .close]) := by
  simp [Draft.complete?]

namespace Item

mutual

/-- Drafts an item. A node keeps a place for its opening and is completed after its items. -/
def draft? : Item → Draft → Option Draft
  | leaf role, draft => some (draft ++ [some (.token role)])
  | error cause, draft => some (draft ++ [some (.error cause)])
  | node kind items, draft =>
    (draftOf? items (draft ++ [none])).bind (Draft.complete? draft.length kind)

/-- Drafts items one after the other. -/
def draftOf? : List Item → Draft → Option Draft
  | [], draft => some draft
  | x :: xs, draft => (x.draft? draft).bind (draftOf? xs)

end

mutual

lemma draft?_eq (x : Item) (draft : Draft) : x.draft? draft = some (draft ++ x.events.map some) := by
  match x with
  | leaf role => rfl
  | error cause => rfl
  | node kind items =>
    have hitems := draftOf?_eq items (draft ++ [none])
    rw [List.append_assoc, List.singleton_append] at hitems
    rw [draft?, hitems, Option.bind_some, Draft.complete?_append]
    simp [events]

/-- Drafting items adds their events and leaves no place that it has kept. -/
lemma draftOf?_eq (items : List Item) (draft : Draft) :
    draftOf? items draft = some (draft ++ (eventsOf items).map some) := by
  match items with
  | [] => simp [draftOf?, eventsOf]
  | x :: xs =>
    rw [draftOf?, draft?_eq x, Option.bind_some, draftOf?_eq xs]
    simp [eventsOf]

end

end Item

/-! ### The relations -/

/-- The grammar has not gone back, is in as many groups as before, and has recorded whole items. -/
structure Balanced (ts : TokenStream) (s t : State) : Prop where
  index_le : nthIndex ts s 0 ≤ nthIndex ts t 0
  depth_eq : t.depth = s.depth
  recorded : ∃ items, t.events = (Item.eventsOf items).reverse ++ s.events

/-- The grammar has read a token too, unless the input had ended. -/
structure Gains (ts : TokenStream) (s t : State) : Prop extends Balanced ts s t where
  index_lt : atEnd ts s = false → nthIndex ts s 0 < nthIndex ts t 0

lemma Balanced.refl (s : State) : Balanced ts s s :=
  ⟨Nat.le_refl _, rfl, [], rfl⟩

lemma Balanced.trans (h₁ : Balanced ts s t) (h₂ : Balanced ts t u) : Balanced ts s u := by
  obtain ⟨xs, hxs⟩ := h₁.recorded
  obtain ⟨ys, hys⟩ := h₂.recorded
  refine ⟨Nat.le_trans h₁.index_le h₂.index_le, h₂.depth_eq.trans h₁.depth_eq, xs ++ ys, ?_⟩
  rw [hys, hxs, Item.eventsOf_append, List.reverse_append, List.append_assoc]

lemma Balanced.ite {c : Prop} [Decidable c] (h₁ : c → Balanced ts s t) (h₂ : ¬c → Balanced ts s u) :
    Balanced ts s (if c then t else u) := by
  split
  · next h => exact h₁ h
  · next h => exact h₂ h

/-- A step that may be left out. -/
lemma Balanced.optional {c : Prop} [Decidable c] (h : Balanced ts s t) :
    Balanced ts s (if c then t else s) :=
  .ite (fun _ => h) fun _ => .refl s

lemma Gains.andThen (h₁ : Gains ts s t) (h₂ : Balanced ts t u) : Gains ts s u :=
  ⟨h₁.toBalanced.trans h₂, fun hend => Nat.lt_of_lt_of_le (h₁.index_lt hend) h₂.index_le⟩

/-- Whether the input has ended depends on the current token only. -/
lemma atEnd_congr (h : nthIndex ts s 0 = nthIndex ts t 0) : atEnd ts s = atEnd ts t := by
  rw [atEnd, atEnd, at?, at?, current, current, nth, nth, h]

/-- A step that does not end the input may come before one that reads. -/
lemma Balanced.andGain (h₁ : Balanced ts s t) (h₂ : Gains ts t u) : Gains ts s u := by
  refine ⟨h₁.trans h₂.toBalanced, fun hend => ?_⟩
  rcases Nat.lt_or_eq_of_le h₁.index_le with hlt | heq
  · exact Nat.lt_of_lt_of_le hlt h₂.index_le
  · rw [heq]
    exact h₂.index_lt (atEnd_congr heq ▸ hend)

lemma Gains.ite {c : Prop} [Decidable c] (h₁ : c → Gains ts s t) (h₂ : ¬c → Gains ts s u) :
    Gains ts s (if c then t else u) := by
  split
  · next h => exact h₁ h
  · next h => exact h₂ h

/-! ### Steps -/

/-- Asking for a token at the end of input leaves everything but the overrun as it is. -/
lemma gains_take (role : LeafRole) (s : State) : Gains ts s (take ts role s) := by
  by_cases h : nth ts s 0 = .eof
  · have hend : atEnd ts s = true := by simp [atEnd, at?, current, h]
    rw [take, if_pos hend]
    exact ⟨⟨Nat.le_refl _, rfl, [], rfl⟩, fun hno => absurd hend (by simp [hno])⟩
  · have hlt : nthIndex ts s 0 < nthIndex ts (take ts role s) 0 := by
      rw [take_eq h]
      exact ts.le_nextSignificant (ts.nextSignificant s.pos + 1)
    refine ⟨⟨Nat.le_of_lt hlt, ?_, [.leaf role], ?_⟩, fun _ => hlt⟩
    · rw [take_eq h]
    · rw [take_eq h]
      rfl

lemma balanced_take (role : LeafRole) (s : State) : Balanced ts s (take ts role s) :=
  (gains_take role s).toBalanced

lemma gains_bump (s : State) : Gains ts s (bump ts s) :=
  gains_take _ s

lemma balanced_bump (s : State) : Balanced ts s (bump ts s) :=
  (gains_bump s).toBalanced

lemma balanced_complain (cause : Complaint) (s : State) : Balanced ts s (complain cause s) :=
  ⟨Nat.le_refl _, rfl, [.error cause], rfl⟩

lemma balanced_eat (kind : TokenKind) (s : State) : Balanced ts s (eat ts kind s) :=
  .optional (balanced_bump s)

lemma balanced_require (kind : TokenKind) (role : LeafRole) (cause : Complaint) (s : State) :
    Balanced ts s (require ts kind role cause s) :=
  .ite (fun _ => balanced_take role s) fun _ => balanced_complain cause s

/-- A rule with a node around it records one item. -/
lemma balanced_node {kind : NodeKind} {rule : State → State}
    (h : Balanced ts (s.opening kind) (rule (s.opening kind))) : Balanced ts s (node kind rule s) := by
  obtain ⟨xs, hxs⟩ := h.recorded
  refine ⟨h.index_le, h.depth_eq, [.node kind xs], ?_⟩
  rw [node_eq, State.closing, hxs]
  simp [State.opening, Item.eventsOf, Item.events]

lemma gains_node {kind : NodeKind} {rule : State → State}
    (h : Gains ts (s.opening kind) (rule (s.opening kind))) : Gains ts s (node kind rule s) :=
  ⟨balanced_node h.toBalanced, h.index_lt⟩

lemma gains_rejectToken (cause : Complaint) (s : State) : Gains ts s (rejectToken ts cause s) :=
  gains_node ((balanced_complain cause _).andGain (gains_take .literal _))

/-- What each round of a repetition keeps, the repetition keeps. -/
lemma balanced_repeatWhile {condition : State → Bool} {rule : State → State}
    (h : ∀ s, Balanced ts s (rule s)) (s : State) : Balanced ts s (repeatWhile ts condition rule s) := by
  fun_induction repeatWhile ts condition rule s with
  | case1 s _ t _ ih => exact (h s).trans ih
  | case2 s _ t _ => exact h s
  | case3 s _ => exact .refl s

lemma balanced_takeGroup (opener : Token) (outside : Nat) (s : State) :
    Balanced ts s (takeGroup ts opener outside s) := by
  fun_induction takeGroup ts opener outside s with
  | case1 s => exact .refl s
  | case2 s _ _ t _ => exact balanced_take .literal s
  | case3 s _ _ t _ _ ih => exact (balanced_take .literal s).trans ih
  | case4 s _ _ t _ _ => exact balanced_take .literal s

lemma gains_rejectGroup (s : State) : Gains ts s (rejectGroup ts s) := by
  unfold rejectGroup
  refine gains_node ?_
  have hopener := (balanced_complain .nestingTooDeep (s.opening (.error 0))).andGain
    (@gains_take ts .punctuation _)
  exact hopener.andThen (balanced_takeGroup _ _ _)

/-- A group that is counted is left again; one that is rejected has not been counted. -/
lemma balanced_nested {rule : State → State} (h : Balanced ts s.deeper (rule s.deeper)) :
    Balanced ts s (nested ts rule s) := by
  refine .ite (fun _ => ⟨h.index_le, ?_, h.recorded⟩) fun _ => (gains_rejectGroup s).toBalanced
  have hdepth : (rule s.deeper).depth = s.depth + 1 := h.depth_eq
  exact congrArg (· - 1) hdepth

lemma gains_nested {rule : State → State} (h : Gains ts s.deeper (rule s.deeper)) :
    Gains ts s (nested ts rule s) := by
  refine ⟨balanced_nested h.toBalanced, ?_⟩
  unfold nested
  split
  · exact h.index_lt
  · exact (gains_rejectGroup s).index_lt

end SqlLayout.Grammar
