import SqlLayout.Proofs.Layout.LineText
import SqlLayout.Proofs.Layout.ThenColumn

/-!
# Data types line up

The common offset of data types is found by adding up widths, before a declaration is written; and its parts
are written where the cursor stands. Both agree where the data type would stand left of the offset by itself:
then the parts before it fit on the line, and what is left to the offset is filled with spaces.
-/

namespace SqlLayout

/-! ### What trimmed lines begin with -/

lemma Text.trimEnd_append_trimEnd (s t : Text) : trimEnd (s ++ trimEnd t) = trimEnd (s ++ t) := by
  induction s with
  | nil => exact List.rdropWhile_idempotent isBlank t
  | cons c s ih =>
    have hcons (u : Text) : trimEnd (c :: u) = if trimEnd u = [] ∧ isBlank c = true then [] else c :: trimEnd u :=
      dropEndWhile_cons isBlank c u
    rw [List.cons_append, List.cons_append, hcons, hcons, ih]

namespace LineBuffer

variable {a b : LineBuffer} {row : Nat} {t : Text}

lemma Begins.trimEnd (h : b.Begins row t) : b.Begins row (Text.trimEnd t) := by
  obtain ⟨line, hline, ht⟩ := h
  exact ⟨line, hline, (List.rdropWhile_prefix Text.isBlank t).trans ht⟩

/-- What a line begins with stays but for blanks at its end. -/
lemma Retains.begins_trimEnd (h : a.Retains b) (hrow : a.Begins row (Text.trimEnd t)) :
    b.Begins row (Text.trimEnd t) := by
  rcases Text.trimEnd_eq_nil_or_solid t with hnil | hsolid
  · obtain ⟨line, hline, -⟩ := hrow
    have hlt := (List.getElem?_eq_some_iff.1 hline).1
    rw [length_lines, height] at hlt
    have hrow : row < b.lines.length := by
      have := h.finished_le
      rw [length_lines, height]
      omega
    rw [hnil]
    exact ⟨_, List.getElem?_eq_getElem hrow, List.nil_prefix⟩
  · exact h.begins hsolid hrow

lemma Straight.padTo {start column target : Nat} {last : Option Nat} (h : b.Straight start column last)
    (hle : column < target) : (b.padTo target).Straight start target last
      ∧ (b.padTo target).current = b.current ++ Text.spaces (target - column) := by
  rw [LineBuffer.padTo, h.column, if_pos hle]
  exact ⟨⟨h.finished, h.start, rfl, h.pendingBreak, h.fresh, h.last⟩, rfl⟩

/-- A fact about each of some things and a row of its own, one row below the other, none above the lowest. -/
def InRows {α : Type} (fact : α → LineBuffer → Nat → Prop) (xs : List α) (low : Nat) (b : LineBuffer) : Prop :=
  ∃ rows, (∀ row ∈ rows, low ≤ row) ∧ rows.Pairwise (· < ·) ∧ List.Forall₂ (fact · b) xs rows

namespace InRows

variable {α : Type} {fact : α → LineBuffer → Nat → Prop} {x : α} {xs : List α} {low low' : Nat}

lemma nil (low : Nat) (b : LineBuffer) : InRows fact [] low b :=
  ⟨[], nofun, .nil, .nil⟩

lemma cons (hrow : low ≤ row) (hx : fact x b row) (h : InRows fact xs (row + 1) b) :
    InRows fact (x :: xs) low b := by
  obtain ⟨rows, hlow, hrows, hxs⟩ := h
  refine ⟨row :: rows, ?_, List.pairwise_cons.2 ⟨hlow, hrows⟩, .cons hx hxs⟩
  exact List.forall_mem_cons.2 ⟨hrow, fun later hlater => by have := hlow later hlater; omega⟩

lemma mono (h : InRows fact xs low b) (hle : low' ≤ low) : InRows fact xs low' b := by
  obtain ⟨rows, hlow, hrows, hxs⟩ := h
  exact ⟨rows, fun row hrow => Nat.le_trans hle (hlow row hrow), hrows, hxs⟩

end InRows

end LineBuffer

namespace Sheet

open LineBuffer (InRows goesOn_startingAt goesOn_newlineAt)

/-! ### Data types and their offset -/

/-- The first data type of a declaration, with the children before and behind it. -/
structure HasType (sh : Sheet) (declaration : Nat) (before : List Nat) (part : Nat) (rest : List Nat) : Prop where
  children : sh.visibleChildren declaration = before ++ part :: rest
  kind : sh.tree.kind part = .declarationPart .dataType
  first : ∀ child ∈ before, sh.tree.kind child ≠ .declarationPart .dataType

/-- The largest offset that the data type of a declaration has by itself, within bounds. -/
def typeOffset? (sh : Sheet) (low high : Nat) (declarations : List Nat) : Option Nat :=
  ((declarations.filterMap (sh.naturalOffset? {} .dataType)).max?).map (clamp low high)

/-- The line of a declaration up to its data type, which is at an offset behind parts that take a width. -/
def upToType (sh : Sheet) (inner offset : Nat) (before : List Nat) (width : Nat) : Text :=
  Text.spaces inner ++ (sh.runText sh.lineText .declaration none before ++ Text.spaces (offset - width))

/--
In a row of a buffer the data type of a declaration that starts at `inner` stands at the common offset, behind the
other parts before it, if there are some, it would stand no further by itself, and it fits there. Columns are
counted by the widths of tokens, and for printable ASCII texts these are numbers of characters.
-/
def ShowsType (sh : Sheet) (inner : Nat) (offset? : Option Nat) (entry : Nat × Nat) (buf : LineBuffer) (row : Nat) :
    Prop :=
  ∀ offset before part rest natural w, offset? = some offset → sh.HasType entry.1 before part rest →
    before ≠ [] → sh.naturalOffset? {} .dataType entry.1 = some natural → natural ≤ offset →
    sh.measure part = some w →
    inner + offset + w + sh.gluedTrailing .declaration entry.2 part rest ≤ sh.lineWidth →
    ∃ width, sh.runWidth? sh.measure .declaration none before = some width ∧ width < offset
      ∧ buf.Begins row (Text.trimEnd (sh.upToType inner offset before width ++ sh.lineText part))
      ∧ ((∀ c ∈ sh.upToType inner offset before width, Text.isPrintableAscii c) →
        (sh.upToType inner offset before width).length = inner + offset)

/-- Declarations of a list, each with the width of the comma that follows it. -/
def listedDeclarations (sh : Sheet) (children : List Nat) : List (Nat × Nat) :=
  ((withRest children).filter fun x => sh.tree.kind x.1 == .declaration).map fun (child, rest) =>
    (child, if rest.head?.any fun next => sh.tree.isLeafOf next .comma then 1 else 0)

variable {sh : Sheet} {source : Text} {cache : Cache Policy} {depth id declaration part column inner offset k w : Nat}
  {before rest children : List Nat} {ctx : Context} {a b : LineBuffer} {start : Nat} {last : Option Nat}
  {t : Text}

lemma ShowsType.mono {offset? : Option Nat} {entry : Nat × Nat} {row : Nat}
    (h : sh.ShowsType inner offset? entry a row) (hab : a.Retains b) : sh.ShowsType inner offset? entry b row := by
  intro offset before part rest natural w hoffset htype hne hnatural hle hmeasure hfit
  obtain ⟨width, hwidth, hlt, hbegins, hlength⟩ :=
    h offset before part rest natural w hoffset htype hne hnatural hle hmeasure hfit
  exact ⟨width, hwidth, hlt, hab.begins_trimEnd hbegins, hlength⟩

lemma length_upToType (hbare : ∀ i, sh.isComment i = false) {width : Nat}
    (hwidth : sh.runWidth? sh.measure .declaration none before = some width) (hle : width ≤ offset)
    (hprintable : ∀ c ∈ sh.upToType inner offset before width, Text.isPrintableAscii c) :
    (sh.upToType inner offset before width).length = inner + offset := by
  rw [upToType, List.forall_mem_append, List.forall_mem_append] at hprintable
  have hrun : (sh.runText sh.lineText .declaration none before).length = width :=
    length_runText (fun _ _ => length_lineTextTo hbare) hwidth hprintable.2.1
  simp only [upToType, Text.spaces, List.length_append, List.length_replicate, hrun]
  omega

lemma listedDeclarations_cons_of_ne {child : Nat} (h : sh.tree.kind child ≠ .declaration) (rest : List Nat) :
    sh.listedDeclarations (child :: rest) = sh.listedDeclarations rest := by
  rw [listedDeclarations, withRest, List.filter_cons_of_neg (by simpa using h)]
  rfl

lemma listedDeclarations_cons {child : Nat} (h : sh.tree.kind child = .declaration) (rest : List Nat) :
    sh.listedDeclarations (child :: rest)
      = (child, if rest.head?.any fun next => sh.tree.isLeafOf next .comma then 1 else 0)
        :: sh.listedDeclarations rest := by
  rw [listedDeclarations, withRest, List.filter_cons_of_pos (by simpa using h)]
  rfl

/-- Where only data types line up, they do so at their common offset. -/
lemma alignmentOffsets_eq {low high : Nat} {ordered : low ≤ high}
    (h : sh.policy.arguments = { dataType := .vertical low high ordered }) (declarations : List Nat) (start : Nat) :
    sh.alignmentOffsets declarations start = { dataType := sh.typeOffset? low high declarations } := by
  simp only [alignmentOffsets, alignedRoles, List.foldl_cons, List.foldl_nil, commonOffset?, h,
    ArgumentPolicy.forRole, AlignmentOffsets.set, typeOffset?]

/-- Behind a part that ends somewhere, the parts before the data type end left of where it would stand. -/
lemma exists_runWidth_of_stop {stop natural : Nat} (previous : Option Nat)
    (hbefore : ∀ child ∈ before, ∃ role, role ≠ .dataType ∧ sh.tree.kind child = .declarationPart role)
    (hpart : sh.tree.kind part = .declarationPart .dataType)
    (h : sh.naturalOffsetFrom {} .dataType (some stop) (before ++ part :: rest) = some natural) :
    ∃ width, sh.runWidth? sh.measure .declaration previous before = some width ∧ stop + width < natural := by
  have hstart (role : PartRole) (stop : Nat) : startOf {} role (some stop) = stop + 1 := by cases role <;> rfl
  induction before generalizing stop previous with
  | nil =>
    simp only [List.nil_append, naturalOffsetFrom, hpart, hstart, if_true, Option.some.injEq] at h
    exact ⟨0, rfl, by omega⟩
  | cons child more ih =>
    obtain ⟨⟨role, hrole, hkind⟩, hmore⟩ := List.forall_mem_cons.1 hbefore
    simp only [List.cons_append, naturalOffsetFrom, hkind, hstart, if_neg hrole] at h
    cases hchild : sh.measure child with
    | none => simp [hchild] at h
    | some w =>
      rw [hchild] at h
      obtain ⟨width, hwidth, hlt⟩ := ih (some (sh.tree.lastToken child)) hmore h
      rw [runWidth?, hchild]
      refine ⟨_, Option.map_eq_some_iff.2 ⟨width, hwidth, rfl⟩, ?_⟩
      split <;> omega

/-- The parts before a data type end left of where it would stand by itself. -/
lemma exists_runWidth_of_naturalOffset {natural : Nat}
    (hbefore : ∀ child ∈ before, ∃ role, role ≠ .dataType ∧ sh.tree.kind child = .declarationPart role)
    (htype : sh.HasType declaration before part rest) (hne : before ≠ [])
    (h : sh.naturalOffset? {} .dataType declaration = some natural) :
    ∃ width, sh.runWidth? sh.measure .declaration none before = some width ∧ width < natural := by
  rw [naturalOffset?, htype.children] at h
  cases before with
  | nil => exact absurd rfl hne
  | cons child more =>
    obtain ⟨⟨role, hrole, hkind⟩, hmore⟩ := List.forall_mem_cons.1 hbefore
    simp only [List.cons_append, naturalOffsetFrom, hkind, startOf, if_neg hrole] at h
    cases hchild : sh.measure child with
    | none => simp [hchild] at h
    | some w =>
      rw [hchild] at h
      obtain ⟨width, hwidth, hlt⟩ :=
        exists_runWidth_of_stop (some (sh.tree.lastToken child)) hmore htype.kind h
      rw [runWidth?, hchild]
      refine ⟨_, Option.map_eq_some_iff.2 ⟨width, hwidth, rfl⟩, ?_⟩
      simp only [Option.any_none, Bool.false_eq_true, if_false]
      omega

/-! ### One declaration -/

lemma retains_moveToPart (continuation child trailing : Nat) (target : Option Nat) (b : LineBuffer) :
    b.Retains (sh.moveToPart continuation child trailing target b) := by
  have hfollow (space : Bool) (c : Prop) [Decidable c] : b.Retains (if c then b.newline else b.separate space) := by
    split
    · exact .newlineAt _ b
    · exact .separate space b
  unfold moveToPart
  dsimp only
  cases target with
  | none => exact hfollow _ _
  | some column =>
    dsimp only
    split
    · split
      · exact .newlineAt _ b
      · exact .padTo column b
    · exact hfollow _ _

/-- A part that is told no column and fits stands behind what has been written. -/
lemma moveToPart_of_fits {continuation child trailing : Nat} (hmeasure : sh.measure child = some w)
    (hfit : b.column + (if sh.spaceAfterLast .declaration child b then 1 else 0) + w + trailing ≤ sh.lineWidth) :
    sh.moveToPart continuation child trailing none b = b.separate (sh.spaceAfterLast .declaration child b) := by
  unfold moveToPart
  dsimp only
  rw [if_neg]
  intro hover
  simp only [hmeasure, Option.any_some, Bool.and_eq_true, decide_eq_true_eq] at hover
  obtain ⟨⟨hspace, -⟩, hover⟩ := hover
  rw [if_pos hspace] at hfit
  omega

/-- A part of a declaration, with those after it and its place among them, is moved to where it goes. -/
def appendPart (sh : Sheet) (render : Render) (offsets : Option AlignmentOffsets) (ctx : Context) (column : Nat)
    (buf : LineBuffer) : (Nat × List Nat) × Nat → Layout LineBuffer
  | ((child, rest), i) =>
    if sh.isComment child then return sh.appendComment child buf
    else
      let trailing := sh.gluedTrailing .declaration ctx.trailing child rest
      let buf :=
        if 0 < i && !buf.pendingBreak then
          sh.moveToPart (column + sh.indent) child trailing (sh.partTarget? offsets column child) buf
        else buf.separate false
      appendHere render child (Context.child (column + sh.indent) trailing) buf

lemma brokenDeclaration_eq (render : Render) (offsets : Option AlignmentOffsets) (id : Nat) (ctx : Context)
    (column : Nat) : sh.brokenDeclaration render offsets id ctx column
      = (withRest (sh.visibleChildren id)).zipIdx.foldlM (sh.appendPart render offsets ctx column)
        { LineBuffer.startingAt column with indentBase := column + sh.indent } := rfl

/-- Nothing stands close to a part before another one. -/
lemma gluedTrailing_of_part {outer child next : Nat} {role : PartRole}
    (hnext : sh.tree.kind next = .declarationPart role) :
    sh.gluedTrailing .declaration outer child (next :: rest) = 0 := by
  have hleaf : sh.isLeaf next = false := by rw [isLeaf, hnext]
  rw [gluedTrailing, hleaf, Bool.false_and, if_neg Bool.false_ne_true]

section

variable (hbare : ∀ i, sh.isComment i = false) (hoff : cache.enabled = false)

include hbare hoff

lemma retains_appendPart (offsets : Option AlignmentOffsets) (x : (Nat × List Nat) × Nat) (h : a.Retains b) :
    Ensures (· = cache) (sh.appendPart (sh.renderTo depth) offsets ctx column b x) a.Retains := by
  obtain ⟨⟨child, rest⟩, i⟩ := x
  apply ensures_of_bare hbare
  apply retains_appendHere (goesOn_renderTo hbare hoff depth)
  split
  · exact h.trans (retains_moveToPart _ _ _ _ b)
  · exact h.trans (.separate false b)

variable (hparse : Tree.parse source = .ok sh.tree) (hsize : depth ≤ sh.tree.size + 1)
  (hkind : sh.tree.kind declaration = .declaration) (hid : declaration < sh.tree.size)
  (hdepth : sh.tree.size ≤ depth + declaration)

include hparse hsize hkind hid hdepth

/-- A part with a width is laid out straight, as its text, where it fits. -/
lemma ensures_part (hpart : part ∈ sh.tree.children declaration) (hmeasure : sh.measure part = some w)
    {trailing : Nat} (indent : Nat) (hfit : column + w + trailing ≤ sh.lineWidth) :
    Ensures (· = cache) (sh.renderTo depth part (Context.child indent trailing) column) fun piece =>
      piece.Straight column (column + w) (some (sh.tree.lastToken part)) ∧ piece.Spells (sh.lineText part) := by
  obtain ⟨hlt, -⟩ := Tree.ordered_of_parse hparse declaration part hpart
  have hloop : sh.tree.kind declaration ≠ .loopStatement := by
    rw [hkind]
    nofun
  refine (ensures_self (goesOn_renderTo hbare hoff depth part _ column)).mono ?_
  rintro piece ⟨rfl, -⟩
  have hctx : IsPlain (Context.child indent trailing) := .inl rfl
  exact ⟨straight_renderTo_of_child hparse hid hloop hpart hmeasure (by omega) hoff (ne_comment hbare part) hsize
      hctx hfit,
    spells_renderTo_of_child hparse hid hloop hpart hmeasure (by omega) hbare hoff hsize hctx hfit⟩

/-- A part before the data type stands right behind the one before it. -/
lemma ensures_appendPart {child : Nat} {role : PartRole} {space : Bool} (hrole : role ≠ .dataType)
    (hchild : sh.tree.kind child = .declarationPart role) (hmem : child ∈ sh.tree.children declaration)
    (htrailing : sh.gluedTrailing .declaration ctx.trailing child rest = 0)
    (hmeasure : sh.measure child = some w) (hb : b.Straight start column last) (hfirst : k = 0 → last = none)
    (hspace : (last.any fun p => sh.spaceBefore .declaration p child) = space)
    (hfit : column + (if space then 1 else 0) + w ≤ sh.lineWidth) :
    Ensures (· = cache)
      (sh.appendPart (sh.renderTo depth) (some { dataType := some offset }) ctx inner b ((child, rest), k))
      fun b' => b'.Straight start (column + (if space then 1 else 0) + w) (some (sh.tree.lastToken child))
        ∧ b'.current = b.current ++ ((if space then [' '] else []) ++ sh.lineText child) := by
  have hsome : space = true → last.isSome := fun h => Option.isSome_of_any (hspace.trans h)
  have hplaced := hb.separate space hsome
  have htarget : sh.partTarget? (some { dataType := some offset }) inner child = none := by
    rw [partTarget?, hchild]
    cases role <;> first | rfl | exact absurd rfl hrole
  have hmoved : (if 0 < k && !b.pendingBreak then
      sh.moveToPart (inner + sh.indent) child (sh.gluedTrailing .declaration ctx.trailing child rest)
        (sh.partTarget? (some { dataType := some offset }) inner child) b else b.separate false)
      = b.separate space := by
    rw [htarget, htrailing, hb.pendingBreak]
    cases k with
    | zero =>
      rw [hfirst rfl] at hspace
      rw [← hspace]
      rfl
    | succ k =>
      have hafter : sh.spaceAfterLast .declaration child b = space := by rw [spaceAfterLast, hb.last, hspace]
      rw [if_pos (by simp), moveToPart_of_fits hmeasure, hafter]
      rw [hafter, hb.column]
      exact hfit
  rw [appendPart]
  dsimp only
  rw [if_neg (by simp [hbare child]), hmoved, appendHere, hplaced.column, htrailing]
  apply (ensures_part hbare hoff hparse hsize hkind hid hdepth hmem hmeasure _ hfit).bind
  rintro piece ⟨hstraight, hspells⟩
  refine .pure ⟨hplaced.append hstraight, ?_⟩
  rw [LineBuffer.current_append_of_straight hstraight hspells, hb.current_separate space hsome, List.append_assoc]

/-- The data type is moved to its offset if the cursor stands left of it. -/
lemma ensures_appendType (hpart : sh.tree.kind part = .declarationPart .dataType)
    (hmem : part ∈ sh.tree.children declaration) (hmeasure : sh.measure part = some w)
    (hb : b.Straight start column last) (hk : 0 < k) (hlt : column < inner + offset)
    (hfit : inner + offset + w + sh.gluedTrailing .declaration ctx.trailing part rest ≤ sh.lineWidth) :
    Ensures (· = cache)
      (sh.appendPart (sh.renderTo depth) (some { dataType := some offset }) ctx inner b ((part, rest), k))
      fun b' => b'.finished = []
        ∧ b'.current = b.current ++ (Text.spaces (inner + offset - column) ++ sh.lineText part) := by
  obtain ⟨hplaced, hcurrent⟩ := hb.padTo hlt
  have htarget : sh.partTarget? (some { dataType := some offset }) inner part = some (inner + offset) := by
    rw [partTarget?, hpart]
    rfl
  have hmoved : sh.moveToPart (inner + sh.indent) part (sh.gluedTrailing .declaration ctx.trailing part rest)
      (some (inner + offset)) b = b.padTo (inner + offset) := by
    unfold moveToPart
    dsimp only
    rw [hb.column, if_pos hlt, if_neg]
    simp only [hmeasure, Option.any_some, decide_eq_true_eq]
    omega
  rw [appendPart]
  dsimp only
  rw [if_neg (by simp [hbare part]), htarget, hb.pendingBreak, if_pos (by simpa using hk), hmoved, appendHere,
    hplaced.column]
  apply (ensures_part hbare hoff hparse hsize hkind hid hdepth hmem hmeasure _ hfit).bind
  rintro piece ⟨hstraight, hspells⟩
  refine .pure ⟨(hplaced.append hstraight).finished, ?_⟩
  rw [LineBuffer.current_append_of_straight hstraight hspells, hcurrent, List.append_assoc]

/-- The parts up to the data type stay on the line, whose rest may be written on or broken. -/
lemma begins_parts {width : Nat} (hpart : sh.tree.kind part = .declarationPart .dataType)
    (hbefore : ∀ child ∈ before, ∃ role, role ≠ .dataType ∧ sh.tree.kind child = .declarationPart role)
    (hmem : ∀ child ∈ before ++ part :: rest, child ∈ sh.tree.children declaration)
    (hmeasure : sh.measure part = some w)
    (hfit : inner + offset + w + sh.gluedTrailing .declaration ctx.trailing part rest ≤ sh.lineWidth)
    (hrun : sh.runWidth? sh.measure .declaration last before = some width) (hlt : column + width < inner + offset)
    (hb : b.Straight start column last) (hfirst : k = 0 → last = none) (hsome : before = [] → 0 < k) :
    Ensures (· = cache)
      (((withRest (before ++ part :: rest)).zipIdx k).foldlM
        (sh.appendPart (sh.renderTo depth) (some { dataType := some offset }) ctx inner) b)
      (·.Begins 0 (Text.trimEnd (b.current ++ (sh.runText sh.lineText .declaration last before
        ++ Text.spaces (inner + offset - (column + width)) ++ sh.lineText part)))) := by
  induction before generalizing b column last width k with
  | nil =>
    obtain rfl : 0 = width := Option.some.inj hrun
    rw [List.nil_append, withRest, List.zipIdx_cons, List.foldlM_cons]
    apply (ensures_appendType hbare hoff hparse hsize hkind hid hdepth hpart (hmem part (by simp)) hmeasure hb
      (hsome rfl) hlt hfit).bind
    rintro typed ⟨hfinished, hcurrent⟩
    refine (Ensures.steps (fun x _ b hb => retains_appendPart hbare hoff _ x hb) (.refl typed)).mono ?_
    intro final hretains
    refine hretains.begins_trimEnd (LineBuffer.Begins.trimEnd (LineBuffer.begins_iff.2 (.inr ?_)))
    exact ⟨by rw [hfinished]; rfl, by rw [hcurrent]; exact List.prefix_refl _⟩
  | cons child more ih =>
    obtain ⟨⟨role, hrole, hchild⟩, hmore⟩ := List.forall_mem_cons.1 hbefore
    rw [runWidth?] at hrun
    cases hwidth : sh.measure child with
    | none => simp [hwidth] at hrun
    | some v =>
      rw [hwidth] at hrun
      obtain ⟨total, htotal, rfl⟩ := Option.map_eq_some_iff.1 hrun
      have htrailing : sh.gluedTrailing .declaration ctx.trailing child (more ++ part :: rest) = 0 := by
        cases more with
        | nil => exact gluedTrailing_of_part hpart
        | cons next others =>
          obtain ⟨⟨role, -, hnext⟩, -⟩ := List.forall_mem_cons.1 hmore
          exact gluedTrailing_of_part hnext
      rw [List.cons_append, withRest, List.zipIdx_cons, List.foldlM_cons]
      apply (ensures_appendPart hbare hoff hparse hsize hkind hid hdepth hrole hchild (hmem child (by simp))
        htrailing hwidth hb hfirst rfl (by omega)).bind
      rintro b' ⟨hstraight, hcurrent⟩
      refine (ih (k := k + 1) hmore (fun c hc => hmem c (List.mem_cons_of_mem _ hc)) htotal (by omega) hstraight
        Nat.noConfusion (fun _ => Nat.succ_pos k)).mono fun final hfinal => ?_
      rw [hcurrent] at hfinal
      rw [runText]
      simp only [List.append_assoc, Nat.add_assoc] at hfinal ⊢
      exact hfinal

/-- The first line of a declaration whose data type would stand no further by itself, and fits. -/
lemma begins_brokenDeclaration {natural : Nat} (htype : sh.HasType declaration before part rest)
    (hne : before ≠ []) (hnatural : sh.naturalOffset? {} .dataType declaration = some natural)
    (hle : natural ≤ offset) (hmeasure : sh.measure part = some w)
    (hfit : inner + offset + w + sh.gluedTrailing .declaration ctx.trailing part rest ≤ sh.lineWidth) :
    Ensures (· = cache)
      (sh.brokenDeclaration (sh.renderTo depth) (some { dataType := some offset }) declaration ctx inner) fun buf =>
      ∃ width, sh.runWidth? sh.measure .declaration none before = some width ∧ width < offset
        ∧ buf.Begins 0 (Text.trimEnd (sh.runText sh.lineText .declaration none before
          ++ Text.spaces (offset - width) ++ sh.lineText part)) := by
  have hchildren := (visibleChildren_of_bare hbare declaration).symm.trans htype.children
  have hbefore : ∀ child ∈ before, ∃ role, role ≠ .dataType ∧ sh.tree.kind child = .declarationPart role := by
    intro child hchild
    have hpart := Tree.part_of_before_part hparse hkind hchildren (by rw [htype.kind]; rfl) child hchild
    obtain ⟨role, hrole⟩ := hpart.resolve_left (ne_comment hbare child)
    exact ⟨role, fun h => htype.first child hchild (h ▸ hrole), hrole⟩
  obtain ⟨width, hwidth, hlt⟩ := exists_runWidth_of_naturalOffset hbefore htype hne hnatural
  have hstart : LineBuffer.Straight { LineBuffer.startingAt inner with indentBase := inner + sh.indent } inner
      inner none := ⟨rfl, rfl, rfl, rfl, rfl, rfl⟩
  have hparts := begins_parts hbare hoff hparse hsize hkind hid hdepth (k := 0) htype.kind hbefore
    (fun child hchild => hchildren ▸ hchild) hmeasure hfit hwidth (by omega) hstart (fun _ => rfl)
    fun h => absurd h hne
  rw [brokenDeclaration_eq, htype.children]
  refine hparts.mono fun buf hbuf => ⟨width, hwidth, by omega, ?_⟩
  rw [Nat.add_sub_add_left] at hbuf
  exact hbuf

/-- A declaration on a line of its own shows its data type at the common offset. -/
lemma ensures_declarationRow {offset? : Option Nat} (hctx : ctx.overlay = .declarations { dataType := offset? })
    (b : LineBuffer) :
    Ensures (· = cache) (appendHere (sh.renderTo (depth + 1)) declaration ctx (b.newlineAt inner)) fun b' =>
      b.Retains b' ∧ b.finished.length + 1 ≤ b'.finished.length
        ∧ sh.ShowsType inner offset? (declaration, ctx.trailing) b' (b.finished.length + 1) := by
  refine (ensures_self (goesOn_renderTo hbare hoff (depth + 1) declaration ctx inner)).bind ?_
  rintro piece ⟨rfl, -⟩
  have hretains := LineBuffer.Retains.append (b.newlineAt inner)
    (sh.renderTo (depth + 1) declaration ctx inner cache).1
  refine .pure ⟨(LineBuffer.Retains.newlineAt inner b).trans hretains, hretains.finished_le, ?_⟩
  rintro offset before part rest natural w rfl htype hne hnatural hle hmeasure hfit
  have hpiece : (sh.renderTo (depth + 1) declaration ctx inner cache).1 = .lines (sh.brokenDeclaration
      (sh.renderTo depth) (some { dataType := some offset }) declaration ctx inner cache).1 := by
    rw [renderTo_succ hbare hoff]
    show ((sh.layoutNode _ declaration ctx inner : Layout Piece) cache).1 = _
    unfold layoutNode
    rw [hkind]
    dsimp only
    unfold Sheet.declaration
    rw [Context.offsets?, hctx]
    rfl
  obtain ⟨width, hwidth, hlt, hbegins⟩ := (begins_brokenDeclaration hbare hoff hparse hsize hkind hid hdepth
    htype hne hnatural hle hmeasure hfit cache rfl).1
  refine ⟨width, hwidth, hlt, ?_, length_upToType hbare hwidth hlt.le⟩
  have happend := (hbegins.append (b.newlineAt inner)).trimEnd
  rw [hpiece, upToType, List.append_assoc]
  rwa [show (b.newlineAt inner).current = Text.spaces inner from rfl, Text.trimEnd_append_trimEnd] at happend

end

/-! ### Lists of declarations -/

section

variable (hbare : ∀ i, sh.isComment i = false) (hoff : cache.enabled = false)
  (hparse : Tree.parse source = .ok sh.tree) (hsize : depth ≤ sh.tree.size + 1)
  (hnodes : ∀ child ∈ children, child < sh.tree.size ∧ sh.tree.size ≤ depth + child)

include hbare hoff hparse hsize hnodes

/-- In brackets, declarations show their data types in rows below the one that has been written. -/
lemma inRows_appendDeclarations {offset? : Option Nat} {declCtx : Context} (hcommas : sh.policy.lists.comma = .after)
    (hctx : declCtx.overlay = .declarations { dataType := offset? }) :
    Ensures (· = cache)
      (sh.appendDeclarations (sh.renderTo (depth + 1)) declCtx ctx inner none children b) fun b' =>
      b.Retains b' ∧ InRows (sh.ShowsType inner offset?) (sh.listedDeclarations children)
        (b.finished.length + 1) b' := by
  have hr := goesOn_renderTo hbare hoff (depth + 1)
  have hfirst : (sh.policy.lists.comma == .before) = false := by rw [hcommas]; rfl
  induction children generalizing b with
  | nil => exact .pure ⟨.refl b, .nil _ b⟩
  | cons child rest ih =>
    obtain ⟨⟨hlt, hdepth⟩, hnodes⟩ := List.forall_mem_cons.1 hnodes
    -- What is no declaration leaves the lines above as they are.
    have hskip {layout : Layout LineBuffer} (hkind : sh.tree.kind child ≠ .declaration)
        (h : Ensures (· = cache) layout b.Retains) : Ensures (· = cache)
          (layout >>= sh.appendDeclarations (sh.renderTo (depth + 1)) declCtx ctx inner none rest) fun b' =>
          b.Retains b' ∧ InRows (sh.ShowsType inner offset?) (sh.listedDeclarations (child :: rest))
            (b.finished.length + 1) b' := by
      rw [listedDeclarations_cons_of_ne hkind]
      apply h.bind
      intro mid hmid
      apply (ih hnodes).mono
      rintro b' ⟨hb', hrows⟩
      exact ⟨hmid.trans hb', hrows.mono (Nat.succ_le_succ hmid.finished_le)⟩
    have hleaf {token : TokenKind} (h : sh.tree.isLeafOf child token = true) :
        sh.tree.kind child ≠ .declaration := by
      obtain ⟨role, hrole⟩ := exists_role_of_isLeafOf h
      rw [hrole]
      nofun
    unfold appendDeclarations
    rw [hbare child, hfirst]
    refine .ite (fun hclose => ?_) fun _ => .ite (fun hcomma => ?_) fun _ => ?_
    · exact hskip (hleaf hclose) (retains_appendHere hr (.newlineAt _ b))
    · exact hskip (hleaf hcomma) (retains_appendChild hr hbare _ (.refl b))
    · rw [startDeclaration, pure_bind]
      dsimp only
      rw [Bool.not_false, Bool.and_true]
      by_cases hkind : sh.tree.kind child = .declaration
      · rw [listedDeclarations_cons hkind]
        refine (ensures_declarationRow hbare hoff hparse hsize hkind hlt hdepth (by exact hctx) b).bind ?_
        rintro mid ⟨hmid, hheight, hshows⟩
        apply (ih hnodes).mono
        rintro b' ⟨hb', hrows⟩
        exact ⟨hmid.trans hb', .cons (Nat.le_refl _) (hshows.mono hb') (hrows.mono (Nat.succ_le_succ hheight))⟩
      · exact hskip hkind (retains_appendHere hr (.newlineAt _ b))

/-- The variables of a block show their data types in rows below the one that has been written. -/
lemma inRows_variables {offset? : Option Nat} {declCtx variableCtx : Context} (htrailing : declCtx.trailing = 0)
    (hctx : declCtx.overlay = .declarations { dataType := offset? }) :
    Ensures (· = cache)
      (children.foldlM
        (fun b child =>
          if sh.tree.kind child = .declaration then
            appendHere (sh.renderTo (depth + 1)) child declCtx (b.newlineAt inner)
          else sh.appendChild (sh.renderTo (depth + 1)) .declareSection child variableCtx b) b) fun b' =>
      b.Retains b' ∧ InRows (sh.ShowsType inner offset?) ((sh.declarationsOf children).map fun d => (d, 0))
        (b.finished.length + 1) b' := by
  have hr := goesOn_renderTo hbare hoff (depth + 1)
  induction children generalizing b with
  | nil => exact .pure ⟨.refl b, .nil _ b⟩
  | cons child rest ih =>
    obtain ⟨⟨hlt, hdepth⟩, hnodes⟩ := List.forall_mem_cons.1 hnodes
    rw [List.foldlM_cons]
    by_cases hkind : sh.tree.kind child = .declaration
    · rw [if_pos hkind, declarationsOf, List.filter_cons_of_pos (by simpa using hkind), List.map_cons]
      refine (ensures_declarationRow hbare hoff hparse hsize hkind hlt hdepth hctx b).bind ?_
      rintro mid ⟨hmid, hheight, hshows⟩
      rw [htrailing] at hshows
      apply (ih hnodes).mono
      rintro b' ⟨hb', hrows⟩
      exact ⟨hmid.trans hb', .cons (Nat.le_refl _) (hshows.mono hb') (hrows.mono (Nat.succ_le_succ hheight))⟩
    · rw [if_neg hkind, declarationsOf, List.filter_cons_of_neg (by simpa using hkind)]
      refine (retains_appendChild hr hbare _ (.refl b)).bind fun mid hmid => ?_
      apply (ih hnodes).mono
      rintro b' ⟨hb', hrows⟩
      exact ⟨hmid.trans hb', hrows.mono (Nat.succ_le_succ hmid.finished_le)⟩

end

/-- The bracket before declarations is none of them. -/
lemma listedDeclarations_drop (children : List Nat) :
    sh.listedDeclarations
        (children.drop ((children.take 1).filter fun c => sh.tree.isLeafOf c .lParen).length)
      = sh.listedDeclarations children := by
  cases children with
  | nil => rfl
  | cons child rest =>
    rw [List.take_succ_cons, List.take_zero, List.filter_singleton]
    cases hopen : sh.tree.isLeafOf child .lParen with
    | true =>
      obtain ⟨role, hrole⟩ := exists_role_of_isLeafOf hopen
      rw [listedDeclarations_cons_of_ne (by rw [hrole]; nofun)]
      rfl
    | false => rfl

end Sheet

/--
Where the declarations of a list, or the variables of a block, of a source without errors and comments stand one a
line and without a cache, and only data types line up, all data types stand at the common offset that have other
parts before them, would stand no further by themselves, and fit there.
-/
theorem data_types_line_up {policy : Policy} {source : Text} {tree : Tree} {cache : Cache Policy}
    {low high : Nat} {ordered : low ≤ high} (hparse : Tree.parse source = .ok tree)
    (herrors : tree.errors.isEmpty = true)
    (hbare : ∀ token ∈ (TokenStream.ofText source).tokens, token.kind.isComment = false)
    (hcommas : policy.lists.comma = .after)
    (haligned : policy.arguments = { dataType := .vertical low high ordered }) (hoff : cache.enabled = false) {depth id : Nat} (hdepth : tree.size ≤ depth + id + 1)
    (hsize : depth ≤ tree.size) (ctx : Context) (column : Nat) :
    let sh := Sheet.mk tree policy
    let offset? := sh.typeOffset? low high (sh.declarationsOf (tree.children id))
    LineBuffer.InRows (sh.ShowsType (ctx.indent + sh.indent) offset?) (sh.listedDeclarations (tree.children id)) 0
        (sh.brokenDeclarationList (sh.renderTo (depth + 1)) id ctx column cache).1
      ∧ LineBuffer.InRows (sh.ShowsType (column + sh.indent) offset?)
        ((sh.declarationsOf (tree.children id)).map fun declaration => (declaration, 0)) 0
        (Sheet.bufferOf (sh.declareSection (sh.renderTo (depth + 1)) id column cache).1) := by
  intro sh offset?
  obtain ⟨htokens, hfaithful⟩ := Tree.faithful_of_parse hparse herrors
  have hbare : ∀ i, sh.isComment i = false := Sheet.isComment_eq_false hfaithful (htokens ▸ hbare)
  have hchildren : sh.visibleChildren id = tree.children id := Sheet.visibleChildren_of_bare hbare id
  have hnodes : ∀ child ∈ tree.children id, child < sh.tree.size ∧ sh.tree.size ≤ depth + child := by
    intro child hchild
    obtain ⟨hlt, hsize⟩ := Tree.ordered_of_parse hparse id child hchild
    have hdepth : sh.tree.size ≤ depth + id + 1 := hdepth
    exact ⟨hsize, by omega⟩
  have hsize : depth ≤ sh.tree.size + 1 := Nat.le_succ_of_le hsize
  have hctx (start : Nat) : (sh.declarationContext (tree.children id) start).overlay
      = .declarations { dataType := offset? } :=
    congrArg Overlay.declarations (Sheet.alignmentOffsets_eq haligned _ start)
  constructor
  · have hlist : Sheet.Ensures (· = cache) (sh.brokenDeclarationList (sh.renderTo (depth + 1)) id ctx column)
        (LineBuffer.InRows (sh.ShowsType (ctx.indent + sh.indent) offset?)
          (sh.listedDeclarations (tree.children id)) 0) := by
      unfold Sheet.brokenDeclarationList
      rw [hchildren]
      refine (Sheet.goesOn_appendChildren hbare (Sheet.goesOn_renderTo hbare hoff (depth + 1)) _
        (LineBuffer.goesOn_startingAt column _)).bind fun b _ => ?_
      refine (Sheet.inRows_appendDeclarations hbare hoff hparse hsize
        (fun child hchild => hnodes child (List.mem_of_mem_drop hchild)) hcommas (hctx _)).mono fun b' hb' => ?_
      rw [Sheet.listedDeclarations_drop] at hb'
      exact hb'.2.mono (Nat.zero_le _)
    exact (hlist cache rfl).1
  · have hsection : Sheet.Ensures (· = cache) (sh.declareSection (sh.renderTo (depth + 1)) id column) fun piece =>
        LineBuffer.InRows (sh.ShowsType (column + sh.indent) offset?)
          ((sh.declarationsOf (tree.children id)).map fun declaration => (declaration, 0)) 0
          (Sheet.bufferOf piece) := by
      unfold Sheet.declareSection
      rw [hchildren]
      refine (Sheet.inRows_variables hbare hoff hparse hsize hnodes rfl (hctx _)).bind fun b' hb' => .pure ?_
      exact hb'.2.mono (Nat.zero_le _)
    exact (hsection cache rfl).1

/-- A table of two columns, the first of which is padded: the types are at offset 5. -/
theorem data_types_line_up_of_table :
    ∃ tree, Tree.parse "create table t (id int, name text default 'x')".toList = .ok tree
      ∧ tree.kind 5 = .declarationList
      ∧ let sh := Sheet.mk tree { arguments := { dataType := .vertical 0 30 (by decide) } }
        sh.typeOffset? 0 30 (sh.declarationsOf (tree.children 5)) = some 5
          ∧ sh.HasType 7 [8] 10 [] ∧ sh.naturalOffset? {} .dataType 7 = some 3
          ∧ (sh.listedDeclarations (tree.children 5)) = [(7, 1), (13, 0)]
          ∧ LineBuffer.InRows (sh.ShowsType sh.indent (some 5)) [(7, 1), (13, 0)] 0
            (sh.brokenDeclarationList (sh.renderTo (tree.size + 1)) 5 {} 15 .disabled).1 := by
  let policy : Policy := { arguments := { dataType := .vertical 0 30 (by decide) } }
  obtain ⟨tree, hparse, hfits⟩ := Tree.exists_of_any "create table t (id int, name text default 'x')".toList
    (fun tree => let sh := Sheet.mk tree policy
      tree.errors.isEmpty && decide (tree.kind 5 = .declarationList)
        && sh.typeOffset? 0 30 (sh.declarationsOf (tree.children 5)) == some 5
        && sh.visibleChildren 7 == [8, 10] && decide (tree.kind 10 = .declarationPart .dataType)
        && decide (tree.kind 8 = .declarationPart .name) && sh.naturalOffset? {} .dataType 7 == some 3
        && sh.listedDeclarations (tree.children 5) == [(7, 1), (13, 0)]) (by decide +kernel)
  simp only [Bool.and_eq_true, decide_eq_true_iff, beq_iff_eq] at hfits
  obtain ⟨⟨⟨⟨⟨⟨⟨herrors, hkind⟩, hoffset⟩, hchildren⟩, htype⟩, hname⟩, hnatural⟩, hlisted⟩ := hfits
  have haligned : policy.arguments = { dataType := .vertical 0 30 (by decide) } := rfl
  have hoff : (Cache.disabled : Cache Policy).enabled = false := rfl
  have hdepth : tree.size ≤ tree.size + 5 + 1 := by omega
  have hrows := (data_types_line_up hparse herrors (by decide +kernel) rfl haligned hoff hdepth (Nat.le_refl _)
    {} 15).1
  rw [hoffset, hlisted, show (({} : Context).indent + (Sheet.mk tree policy).indent)
    = (Sheet.mk tree policy).indent from Nat.zero_add _] at hrows
  refine ⟨tree, hparse, hkind, hoffset, ⟨hchildren, htype, fun child hchild => ?_⟩, hnatural, hlisted, hrows⟩
  rw [List.mem_singleton.1 hchild]
  exact fun h => absurd (hname.symm.trans h) nofun

end SqlLayout
