import SqlLayout.Proofs.Layout.GoesOn
import SqlLayout.Proofs.Layout.Ink
import SqlLayout.Proofs.Layout.LetterCase
import SqlLayout.Proofs.Layout.Tidy
import SqlLayout.Proofs.Token.Languages

/-!
# The keywords `THEN` line up

The column of the keywords is found by laying out the branches of a `CASE` up to `THEN`, and used when they
are laid out as a whole. Without a cache both layouts of a branch start alike, as they start at one column
and what a branch is told does not reach its condition; and without comments every `THEN` can be moved to
the column that was found.
-/

namespace SqlLayout

/-! ### The word `THEN` -/

namespace Text

variable {word : Text}

lemma toLower_mem_of_then (h : asciiLower word = "then".toList) {c : Char} (hc : c ∈ word) :
    c.toLower ∈ "then".toList := by
  rw [← h]
  exact List.mem_map_of_mem hc

lemma solid_of_then (h : asciiLower word = "then".toList) : Solid word := by
  apply solid_of_forall
  · rintro rfl
    exact absurd h nofun
  · intro c hc
    have hletters : ∀ d ∈ "then".toList, isBlank d = false := forall_of_all (by decide)
    have hlower := hletters _ (toLower_mem_of_then h hc)
    exact (Folding.lower.isBlank_fold c).symm.trans hlower

lemma not_contains_of_then (h : asciiLower word = "then".toList) : word.contains '\n' = false := by
  rw [List.contains_eq_mem, decide_eq_false_iff_not]
  intro hfeed
  exact absurd (toLower_mem_of_then h hfeed) (by decide)

lemma ascii_of_then (h : asciiLower word = "then".toList) : ∀ c ∈ word, c.toNat < 128 := by
  intro c hc
  have hletters : ∀ d ∈ "then".toList, d.toNat < 128 := forall_of_all (by decide)
  have hlower := hletters _ (toLower_mem_of_then h hc)
  by_contra hge
  rw [toLower_of_le (Nat.le_of_not_lt hge)] at hlower
  exact hge hlower

/-- Trimming stops at the end of a solid text. -/
lemma Solid.prefix_trimEnd {t : Text} (h : Solid t) (rest : Text) : t <+: Text.trimEnd (t ++ rest) := by
  induction rest using List.reverseRecOn with
  | nil =>
    have hsame : Text.trimEnd (t ++ []) = t := by rw [List.append_nil, h.trimEnd]
    exact hsame.symm ▸ List.prefix_refl t
  | append_singleton rest c ih =>
    show t <+: List.rdropWhile isBlank (t ++ (rest ++ [c]))
    rw [← List.append_assoc, List.rdropWhile_concat]
    split
    · exact ih
    · rw [List.append_assoc]
      exact List.prefix_append _ _

end Text

/-! ### What lines begin with -/

namespace LineBuffer

/-- Whether a line of a buffer, counted from the first one, begins with a text. -/
def Begins (row : Nat) (t : Text) (b : LineBuffer) : Prop :=
  ∃ line, b.lines[row]? = some line ∧ t <+: line

/-- A buffer has the lines of another one with all that they begin with, up to blanks at their ends. -/
structure Retains (a b : LineBuffer) : Prop where
  finished_le : a.finished.length ≤ b.finished.length
  begins {row : Nat} {t : Text} : Text.Solid t → a.Begins row t → b.Begins row t

variable {a b c other : LineBuffer} {row : Nat} {t : Text}

lemma begins_iff : b.Begins row t ↔ (∃ line, b.finished.reverse[row]? = some line ∧ t <+: line)
    ∨ row = b.finished.length ∧ t <+: b.current := by
  have hlength : b.finished.reverse.length = b.finished.length := List.length_reverse
  constructor
  · rintro ⟨line, hline, ht⟩
    rw [lines] at hline
    rcases Nat.lt_or_ge row b.finished.length with hlt | hge
    · rw [List.getElem?_append_left (hlength ▸ hlt)] at hline
      exact .inl ⟨line, hline, ht⟩
    · rw [List.getElem?_append_right (hlength ▸ hge), hlength] at hline
      obtain ⟨hrow, rfl⟩ := List.getElem?_eq_some_iff.1 hline
      rw [List.length_singleton] at hrow
      rw [List.getElem_singleton] at ht
      exact .inr ⟨by omega, ht⟩
  · rintro (⟨line, hline, ht⟩ | ⟨rfl, ht⟩)
    · have hlt := (List.getElem?_eq_some_iff.1 hline).1
      exact ⟨line, by rw [lines, List.getElem?_append_left hlt, hline], ht⟩
    · exact ⟨b.current, by rw [lines, ← hlength, List.getElem?_concat_length], ht⟩

namespace Retains

lemma refl (b : LineBuffer) : b.Retains b := ⟨Nat.le_refl _, fun _ h => h⟩

lemma trans (h : a.Retains b) (h' : b.Retains c) : a.Retains c :=
  ⟨Nat.le_trans h.finished_le h'.finished_le, fun ht hrow => h'.begins ht (h.begins ht hrow)⟩

/-- The current line is written on. -/
lemma of_prefix (hfinished : b.finished = a.finished) (hcurrent : a.current <+: b.current) : a.Retains b where
  finished_le := Nat.le_of_eq (congrArg List.length hfinished.symm)
  begins _ hrow := by
    rw [begins_iff] at hrow ⊢
    rw [hfinished]
    exact hrow.imp_right (And.imp_right fun ht => ht.trans hcurrent)

/-- The current line is finished, perhaps after it has been written on or trimmed. -/
lemma of_cons (lines : List Text) (line : Text) (hfinished : b.finished = lines ++ line :: a.finished)
    (hline : ∀ t, Text.Solid t → t <+: a.current → t <+: line) : a.Retains b where
  finished_le := by
    rw [hfinished, List.length_append, List.length_cons]
    omega
  begins {row t} ht hrow := by
    rw [begins_iff] at hrow ⊢
    rw [hfinished, List.reverse_append, List.reverse_cons, List.append_assoc]
    rcases hrow with ⟨line', hrow, hstarts⟩ | ⟨rfl, hstarts⟩
    · have hlt := (List.getElem?_eq_some_iff.1 hrow).1
      exact .inl ⟨line', by rw [List.getElem?_append_left hlt, hrow], hstarts⟩
    · refine .inl ⟨line, ?_, hline t ht hstarts⟩
      rw [List.getElem?_append_right (by rw [List.length_reverse]), List.length_reverse, Nat.sub_self]
      rfl

lemma newlineAt (column : Nat) (b : LineBuffer) : b.Retains (b.newlineAt column) := by
  apply of_cons [] (Text.trimEnd b.current) rfl
  intro t ht hstarts
  obtain ⟨rest, hrest⟩ := hstarts
  rw [← hrest]
  exact ht.prefix_trimEnd rest

lemma write (text : Text) (width : Nat) (b : LineBuffer) : b.Retains (b.write text width) :=
  of_prefix rfl (List.prefix_append _ _)

lemma separate (space : Bool) (b : LineBuffer) : b.Retains (b.separate space) := by
  rw [LineBuffer.separate, LineBuffer.pushSpace]
  split_ifs
  · exact newlineAt _ b
  · exact refl b
  · exact of_prefix rfl (List.prefix_append _ _)
  · exact refl b

lemma padTo (column : Nat) (b : LineBuffer) : b.Retains (b.padTo column) := by
  rw [LineBuffer.padTo]
  split
  · exact of_prefix rfl (List.prefix_append _ _)
  · exact refl b

lemma append (b : LineBuffer) (piece : Piece) : b.Retains (b.append piece) := by
  cases piece with
  | fragment start text last => exact of_prefix rfl (List.prefix_append _ _)
  | lines other =>
    rw [LineBuffer.append, appendBuffer]
    cases other.finished.reverse with
    | nil => exact of_prefix rfl (List.prefix_append _ _)
    | cons first middle =>
      apply of_cons middle.reverse (b.current ++ first) rfl
      exact fun t _ hstarts => hstarts.trans (List.prefix_append _ _)

end Retains

/-- What the first line of a buffer begins with stands behind the cursor of the buffer it is appended to. -/
lemma Begins.append (h : other.Begins 0 t) (b : LineBuffer) :
    (b.append (.lines other)).Begins b.finished.length (b.current ++ t) := by
  rw [LineBuffer.append, appendBuffer]
  rw [begins_iff] at h ⊢
  cases hlines : other.finished.reverse with
  | nil =>
    rw [hlines] at h
    rcases h with ⟨line, hline, -⟩ | ⟨-, rest, hrest⟩
    · simp at hline
    · exact .inr ⟨rfl, rest, by rw [List.append_assoc, hrest]⟩
  | cons first middle =>
    rw [hlines] at h
    rcases h with ⟨line, hline, rest, hrest⟩ | ⟨hzero, -⟩
    · obtain rfl : first = line := by simpa using hline
      refine .inl ⟨b.current ++ first, ?_, rest, by rw [List.append_assoc, hrest]⟩
      simp
    · rw [List.eq_nil_of_length_eq_zero hzero.symm] at hlines
      simp at hlines

end LineBuffer

namespace Sheet

open LineBuffer (goesOn_startingAt)

/-! ### Branches and their heads -/

/-- `WHEN` and its condition, from a column on. -/
def whenHead (sh : Sheet) (render : Render) (branch column : Nat) : Layout LineBuffer :=
  let condition := (sh.visibleChildren branch).takeWhile fun child =>
    !sh.tree.isLeafOf child (.keyword .THEN)
  sh.appendCondition render condition column
    { LineBuffer.startingAt column with indentBase := column + sh.indent }

/-- `CASE` and its operand, from a column on. -/
def caseOpening (sh : Sheet) (render : Render) (id column : Nat) : Layout LineBuffer :=
  let operand := (sh.visibleChildren id).takeWhile fun c => !(isBranch (sh.tree.kind c) || sh.isEnd c)
  sh.appendChildren render .caseOf operand (Context.child column 0)
    { LineBuffer.startingAt column with indentBase := column + sh.indent }

/-- The branches `WHEN` among some nodes. -/
def whenBranches (sh : Sheet) (ids : List Nat) : List Nat :=
  ids.filter fun id => sh.tree.kind id == .whenBranch

/-- The children of a `CASE` from the first one on that is a branch or `END`. -/
def partsOfCase (sh : Sheet) (ids : List Nat) : List Nat :=
  ids.dropWhile fun c => !(isBranch (sh.tree.kind c) || sh.isEnd c)

/-- Whether a branch has a `THEN`. -/
def HasThen (sh : Sheet) (branch : Nat) : Prop :=
  ∃ keyword ∈ sh.tree.children branch, sh.tree.isLeafOf keyword (.keyword .THEN) = true

/-- Columns at which those heads of branches end that stand on one line. -/
def headColumns (heads : List LineBuffer) : List Nat :=
  (heads.filter (·.height == 1)).map LineBuffer.column

/-- A text up to the column of the branches: blanks only, or `CASE` and its operand. -/
def Leads (opening : LineBuffer) (whenColumn : Nat) (left : Text) : Prop :=
  left = Text.spaces whenColumn ∨ left = opening.current ++ [' '] ∧ whenColumn = opening.column + 1

/--
In a line of a buffer the head of a branch stands behind a text with the property `lead`, and `THEN`, in some
letter case, stands behind it as many spaces further as there are columns up to the target.
-/
def ShowsThen (lead : Text → Prop) (head : LineBuffer) (target : Nat) (buf : LineBuffer) (row : Nat) : Prop :=
  head.column < target ∧ ∃ left word, lead left ∧ Text.asciiLower word = "then".toList
    ∧ buf.Begins row (left ++ head.current ++ Text.spaces (target - head.column) ++ word)

/-- Where the head of a branch stands on one line, there is a target, and the row shows `THEN` at it. -/
def Aligns (lead : Text → Prop) (head : LineBuffer) (target? : Option Nat) (buf : LineBuffer) (row : Nat) :
    Prop :=
  head.height = 1 → ∃ target, target? = some target ∧ ShowsThen lead head target buf row

/-- Each of some branches has a row of its own, one below the other, in which its `THEN` is at the target. -/
def AlignsAll (lead : Text → Prop) (heads : Nat → LineBuffer) (target? : Option Nat) (branches : List Nat)
    (low : Nat) (buf : LineBuffer) : Prop :=
  ∃ rows, (∀ row ∈ rows, low ≤ row) ∧ rows.Pairwise (· < ·)
    ∧ List.Forall₂ (fun branch row => Aligns lead (heads branch) target? buf row) branches rows

variable {sh : Sheet} {I : Cache Policy → Prop} {render : Render} {cache : Cache Policy} {source : Text}
  {depth id branch column target row low : Nat} {target? : Option Nat} {ids : List Nat} {ctx : Context}
  {a b head : LineBuffer} {lead : Text → Prop} {heads : Nat → LineBuffer}

lemma ShowsThen.mono (h : ShowsThen lead head target a row) (hab : a.Retains b) :
    ShowsThen lead head target b row := by
  obtain ⟨hlt, left, word, hleft, hword, hbegins⟩ := h
  exact ⟨hlt, left, word, hleft, hword, hab.begins ((Text.solid_of_then hword).append _) hbegins⟩

lemma Aligns.mono (h : Aligns lead head target? a row) (hab : a.Retains b) :
    Aligns lead head target? b row := by
  intro hone
  obtain ⟨target, htarget, hshows⟩ := h hone
  exact ⟨target, htarget, hshows.mono hab⟩

namespace AlignsAll

lemma nil (low : Nat) (b : LineBuffer) : AlignsAll lead heads target? [] low b :=
  ⟨[], nofun, .nil, .nil⟩

lemma cons (hrow : low ≤ row) (hbranch : Aligns lead (heads branch) target? b row)
    (h : AlignsAll lead heads target? ids (row + 1) b) :
    AlignsAll lead heads target? (branch :: ids) low b := by
  obtain ⟨rows, hlow, hrows, haligns⟩ := h
  refine ⟨row :: rows, ?_, List.pairwise_cons.2 ⟨hlow, hrows⟩, .cons hbranch haligns⟩
  exact List.forall_mem_cons.2 ⟨hrow, fun later hlater => by have := hlow later hlater; omega⟩

lemma mono {low' : Nat} (h : AlignsAll lead heads target? ids low b) (hle : low' ≤ low) :
    AlignsAll lead heads target? ids low' b := by
  obtain ⟨rows, hlow, hrows, haligns⟩ := h
  exact ⟨rows, fun row hrow => Nat.le_trans hle (hlow row hrow), hrows, haligns⟩

end AlignsAll

lemma whenBranches_cons_of_ne (h : sh.tree.kind id ≠ .whenBranch) :
    sh.whenBranches (id :: ids) = sh.whenBranches ids :=
  List.filter_cons_of_neg (by simpa using h)

lemma whenBranches_cons (h : sh.tree.kind id = .whenBranch) :
    sh.whenBranches (id :: ids) = id :: sh.whenBranches ids :=
  List.filter_cons_of_pos (by simpa using h)

lemma not_isBranch_of_isEnd (h : sh.isEnd id = true) : isBranch (sh.tree.kind id) = false := by
  obtain ⟨role, hrole⟩ := exists_role_of_isLeafOf h
  rw [hrole]
  rfl

lemma ne_whenBranch_of_isEnd (h : sh.isEnd id = true) : sh.tree.kind id ≠ .whenBranch := by
  intro hkind
  have hbranch := not_isBranch_of_isEnd h
  rw [hkind] at hbranch
  exact absurd hbranch nofun

lemma drop_takeWhile (p : Nat → Bool) (xs : List Nat) :
    xs.drop (xs.takeWhile p).length = xs.dropWhile p := by
  induction xs with
  | nil => rfl
  | cons x xs ih =>
    rw [List.takeWhile_cons, List.dropWhile_cons]
    split
    · exact ih
    · rfl

/-- A layout that leaves the cache as it is has one result. -/
lemma ensures_self {α : Type} {layout : Layout α} {post : α → Prop} (h : Ensures (· = cache) layout post) :
    Ensures (· = cache) layout fun a => a = (layout cache).1 ∧ post a := by
  rintro _ rfl
  exact ⟨⟨rfl, (h _ rfl).1⟩, (h _ rfl).2⟩

/-- Without comments no child of a node is left out. -/
lemma visibleChildren_of_bare (hbare : ∀ i, sh.isComment i = false) (id : Nat) :
    sh.visibleChildren id = sh.tree.children id := by
  apply List.filter_eq_self.2
  intro child _
  rw [hbare child, Bool.and_false]
  rfl

/-! ### What is appended leaves lines as they are -/

section

variable (hr : ∀ id ctx column, Ensures I (render id ctx column) Piece.GoesOn)

include hr

lemma retains_appendHere (h : a.Retains b) : Ensures I (appendHere render id ctx b) a.Retains :=
  (hr id ctx b.column).bind fun piece _ => .pure (h.trans (.append b piece))

lemma retains_appendChild (hbare : ∀ i, sh.isComment i = false) (parent : NodeKind) (h : a.Retains b) :
    Ensures I (sh.appendChild render parent id ctx b) a.Retains := by
  rw [appendChild, hbare id]
  exact retains_appendHere hr (h.trans (.separate _ b))

lemma retains_appendResult (hbare : ∀ i, sh.isComment i = false) (parent : NodeKind) (h : a.Retains b) :
    Ensures I (sh.appendResult render parent ids ctx column b) a.Retains := by
  apply Ensures.steps (fun child _ b hb => ?_) h
  refine .ite (fun _ => ?_) fun _ => retains_appendChild hr hbare parent hb
  exact retains_appendHere hr (hb.trans (.newlineAt _ b))

end

lemma retains_moveToEnd (isStatement : Bool) (whenColumn : Nat) (b : LineBuffer) :
    b.Retains (sh.moveToEnd isStatement column whenColumn b) := by
  unfold moveToEnd
  split
  · exact .newlineAt _ b
  · split
    · exact .newlineAt _ b
    · exact .newlineAt _ b
    · exact .separate _ b

/-! ### One branch -/

/-- The leaf of a `THEN` is the word on one line. -/
lemma exists_leaf_eq (htokens : sh.tree.tokens = .ofText source) {keyword : Nat}
    (hthen : sh.tree.isLeafOf keyword (.keyword .THEN) = true) :
    ∃ role word, sh.tree.kind keyword = .leaf role ∧ Text.asciiLower word = "then".toList
      ∧ ∀ column, ∃ last, sh.leaf keyword role column = .fragment column word last := by
  obtain ⟨role, hrole⟩ := exists_role_of_isLeafOf hthen
  rw [Tree.isLeafOf, hrole, Tree.tokenKind, htokens] at hthen
  have hupper := TokenStream.asciiUpper_text (beq_iff_eq.1 hthen) (by simp)
  have hlower : Text.asciiLower (sh.tree.leafText keyword) = "then".toList := by
    rw [Tree.leafText, htokens, ← Text.asciiLower_asciiUpper, hupper]
    decide
  have hword : Text.asciiLower (sh.leafText keyword role) = "then".toList := by
    unfold leafText
    dsimp only
    split
    · rw [Text.asciiLower_letterCase (Text.ascii_of_then hlower), hlower]
    · exact hlower
  refine ⟨role, _, hrole, hword, fun column => ⟨some (sh.tree.firstToken keyword), ?_⟩⟩
  unfold leaf
  dsimp only
  rw [Text.not_contains_of_then hword]
  rfl

section

variable (hbare : ∀ i, sh.isComment i = false) (hoff : cache.enabled = false)

include hbare hoff

lemma renderTo_succ (depth id : Nat) (ctx : Context) (column : Nat) :
    sh.renderTo (depth + 1) id ctx column cache
      = ((sh.layoutNode (sh.renderTo depth) id ctx column cache).1, cache) := by
  obtain ⟨-, hkept⟩ := goesOn_layoutNode hbare (goesOn_renderTo hbare hoff depth) id ctx column cache rfl
  obtain ⟨cache', heq, hcache⟩ := sh.cached_of_off hoff (sh.layoutNode (sh.renderTo depth)) id ctx column
  rw [renderTo, renderToIn, heq, hcache hkept]

lemma ensures_whenHead (depth branch column : Nat) :
    Ensures (· = cache) (sh.whenHead (sh.renderTo depth) branch column) fun head =>
      head = (sh.whenHead (sh.renderTo depth) branch column cache).1 ∧ head.GoesOn :=
  ensures_self (goesOn_appendCondition hbare (goesOn_renderTo hbare hoff depth) (goesOn_startingAt _ _))

/-- A branch that may not stand on one line is broken. -/
lemma renderTo_whenBranch (hkind : sh.tree.kind branch = .whenBranch)
    (hinline : sh.whenMayInline ctx.caseBranch? = false) :
    (sh.renderTo (depth + 2) branch ctx column cache).1
      = .lines (sh.brokenWhen (sh.renderTo (depth + 1)) branch ctx column cache).1 := by
  rw [renderTo_succ hbare hoff]
  show ((sh.layoutNode _ branch ctx column : Layout Piece) cache).1 = _
  unfold layoutNode
  rw [hkind]
  dsimp only
  unfold whenBranch
  rw [hinline]
  rfl

/-- A branch that is measured is its head. -/
lemma ensures_of_measuring (hkind : sh.tree.kind branch = .whenBranch)
    (hctx : ctx.caseBranch? = some (.measuring, none)) :
    Ensures (· = cache) (sh.renderTo (depth + 2) branch ctx column)
      (· = .lines (sh.whenHead (sh.renderTo (depth + 1)) branch column cache).1) := by
  have hlines : Ensures (· = cache) (sh.brokenWhen (sh.renderTo (depth + 1)) branch ctx column) fun buf =>
      buf = (sh.whenHead (sh.renderTo (depth + 1)) branch column cache).1 := by
    apply (ensures_whenHead hbare hoff (depth + 1) branch column).bind
    rintro head ⟨rfl, -⟩
    dsimp only
    rw [hctx]
    split
    · exact .pure rfl
    · exact .pure rfl
  rintro _ rfl
  refine ⟨?_, (goesOn_renderTo hbare hoff (depth + 2) branch ctx column _ rfl).2⟩
  rw [renderTo_whenBranch hbare hoff hkind (by rw [hctx]; rfl), (hlines _ rfl).1]

omit hoff in
/-- The parts of a branch with a `THEN` that are not laid out before it start with a `THEN`. -/
lemma exists_drop_eq (hthen : sh.HasThen branch) :
    ∃ keyword result, (sh.visibleChildren branch).drop ((sh.visibleChildren branch).takeWhile fun child =>
        !sh.tree.isLeafOf child (.keyword .THEN)).length = keyword :: result
      ∧ sh.tree.isLeafOf keyword (.keyword .THEN) = true := by
  obtain ⟨keyword, hmem, hthen⟩ := hthen
  rw [visibleChildren_of_bare hbare]
  cases hdrop : (sh.tree.children branch).drop ((sh.tree.children branch).takeWhile fun child =>
      !sh.tree.isLeafOf child (.keyword .THEN)).length with
  | nil =>
    rw [drop_takeWhile, List.dropWhile_eq_nil_iff] at hdrop
    exact absurd (hdrop keyword hmem) (by simp [hthen])
  | cons keyword' result => exact ⟨keyword', result, rfl, by simpa using not_of_drop_takeWhile hdrop⟩

lemma ensures_renderTo_leaf {role : LeafRole} (hkind : sh.tree.kind id = .leaf role) :
    Ensures (· = cache) (sh.renderTo (depth + 1) id ctx column) (· = sh.leaf id role column) := by
  rintro _ rfl
  rw [renderTo_succ hbare hoff]
  refine ⟨?_, rfl⟩
  unfold layoutNode
  rw [hkind]
  rfl

/-- In a branch that is broken, `THEN` stands at the target if the parts before it end left of that. -/
lemma begins_brokenWhen (htokens : sh.tree.tokens = .ofText source)
    (haligned : sh.policy.cases.thenPosition = .aligned) (hctx : ctx.caseBranch? = some (.normal, some target))
    (hthen : sh.HasThen branch) (hhead : (sh.whenHead (sh.renderTo (depth + 1)) branch column cache).1 = head)
    (hone : head.height = 1) (hlt : head.column < target) :
    Ensures (· = cache) (sh.brokenWhen (sh.renderTo (depth + 1)) branch ctx column) fun buf =>
      ∃ word, Text.asciiLower word = "then".toList
        ∧ buf.Begins 0 (head.current ++ Text.spaces (target - head.column) ++ word) := by
  apply (ensures_whenHead hbare hoff (depth + 1) branch column).bind
  rintro buf ⟨rfl, hgoes⟩
  rw [hhead] at hgoes ⊢
  obtain ⟨keyword, result, hdrop, hkeyword⟩ := exists_drop_eq hbare hthen
  obtain ⟨role, word, hkind, hword, hleaf⟩ := exists_leaf_eq htokens hkeyword
  have hmove : sh.moveToThen ctx.caseBranch? column head = head.padTo target := by
    unfold moveToThen
    rw [hctx, haligned]
    dsimp only
    rw [hgoes, if_pos (by simpa using hlt)]
  dsimp only
  rw [hdrop, hctx]
  dsimp only
  rw [if_neg (by simp), ← hctx, hmove]
  refine Ensures.bind (?_ : Ensures (· = cache) _ fun buf =>
    buf.Begins 0 (head.current ++ Text.spaces (target - head.column) ++ word)) fun buf hbuf => ?_
  · apply (ensures_renderTo_leaf hbare hoff hkind).bind
    rintro piece rfl
    obtain ⟨last, hpiece⟩ := hleaf (head.padTo target).column
    apply Ensures.pure
    rw [hpiece]
    apply LineBuffer.begins_iff.2
    refine .inr ⟨?_, ?_⟩
    · rw [LineBuffer.padTo, if_pos hlt]
      exact (Nat.succ.inj hone).symm
    · rw [LineBuffer.padTo, if_pos hlt]
      exact List.prefix_refl _
  · apply (retains_appendResult (goesOn_renderTo hbare hoff (depth + 1)) hbare _ (.refl buf)).mono
    intro result hresult
    exact ⟨word, hword, hresult.begins ((Text.solid_of_then hword).append _) hbuf⟩

/-- A branch that is laid out at the cursor, its head behind what stands before the cursor. -/
lemma aligns_appendHere (htokens : sh.tree.tokens = .ofText source)
    (haligned : sh.policy.cases.thenPosition = .aligned) (hkind : sh.tree.kind branch = .whenBranch)
    (hthen : sh.HasThen branch) (hctx : ctx.caseBranch? = some (.normal, target?))
    (hhead : (sh.whenHead (sh.renderTo (depth + 1)) branch a.column cache).1 = head)
    (htarget : head.height = 1 → ∃ target, target? = some target ∧ head.column < target)
    (hlead : lead a.current) :
    Ensures (· = cache) (appendHere (sh.renderTo (depth + 2)) branch ctx a) fun b =>
      a.Retains b ∧ Aligns lead head target? b a.finished.length := by
  rintro _ rfl
  obtain ⟨hretains, hkept⟩ := retains_appendHere (goesOn_renderTo hbare hoff (depth + 2)) (.refl a) _ rfl
  refine ⟨⟨hretains, fun hone => ?_⟩, hkept⟩
  obtain ⟨target, rfl, hlt⟩ := htarget hone
  obtain ⟨word, hword, hbegins⟩ :=
    (begins_brokenWhen hbare hoff htokens haligned hctx hthen hhead hone hlt _ rfl).1
  refine ⟨target, rfl, hlt, a.current, word, hlead, hword, ?_⟩
  show (a.append (sh.renderTo (depth + 2) branch ctx a.column _).1).Begins _ _
  rw [renderTo_whenBranch hbare hoff hkind (by rw [hctx, whenMayInline, haligned]; rfl)]
  simpa [List.append_assoc] using hbegins.append a

end

/-! ### All branches -/

/-- The first branch is written one space behind `CASE` and its operand if it stays on their line. -/
lemma padTo_whenColumn {opening : LineBuffer} {whenColumn : Nat}
    (hafter : sh.policy.cases.whenPosition = .afterCase) (hgoes : opening.GoesOn)
    (hcolumn : sh.whenColumn column opening = whenColumn) :
    (opening.padTo whenColumn).column = whenColumn
      ∧ Leads opening whenColumn (opening.padTo whenColumn).current := by
  have hnext : opening.column + 1 = whenColumn := by
    rw [← hcolumn, Sheet.whenColumn, hafter]
    dsimp only
    rw [hgoes]
    rfl
  subst hnext
  rw [LineBuffer.padTo, if_pos (Nat.lt_succ_self _), Nat.add_sub_cancel_left]
  exact ⟨rfl, .inr ⟨rfl, rfl⟩⟩

section

variable {frame : CaseFrame} (hbare : ∀ i, sh.isComment i = false) (hoff : cache.enabled = false)
  (htokens : sh.tree.tokens = .ofText source) (haligned : sh.policy.cases.thenPosition = .aligned)

include hbare hoff

lemma retains_appendBranch (isFirst isLast : Bool) :
    Ensures (· = cache) (sh.appendBranch (sh.renderTo (depth + 2)) frame branch isFirst isLast a)
      a.Retains := by
  apply retains_appendHere (goesOn_renderTo hbare hoff (depth + 2))
  split
  · exact .padTo _ a
  · exact .newlineAt _ a

include htokens haligned

/-- A branch on a line of its own, or on the current line, which is then filled up to the column of branches. -/
lemma aligns_appendBranch (hkind : sh.tree.kind branch = .whenBranch) (hthen : sh.HasThen branch)
    (hhead : (sh.whenHead (sh.renderTo (depth + 1)) branch frame.whenColumn cache).1 = head)
    (htarget : head.height = 1 → ∃ target, frame.thenColumn = some target ∧ head.column < target)
    (isFirst isLast : Bool) (hspaces : lead (Text.spaces frame.whenColumn))
    (hstays : isFirst = true → sh.policy.cases.whenPosition = .afterCase →
      (a.padTo frame.whenColumn).column = frame.whenColumn ∧ lead (a.padTo frame.whenColumn).current) :
    Ensures (· = cache) (sh.appendBranch (sh.renderTo (depth + 2)) frame branch isFirst isLast a) fun b =>
      a.Retains b ∧ ∃ row, a.finished.length ≤ row ∧ (isFirst = false → a.finished.length < row)
        ∧ row ≤ b.finished.length ∧ Aligns lead head frame.thenColumn b row := by
  -- The branch starts at its column, wherever it is placed.
  have hplaced {placed : LineBuffer} (hcolumn : placed.column = frame.whenColumn) (hlead : lead placed.current)
      (hretains : a.Retains placed) (hfirst : isFirst = false → a.finished.length < placed.finished.length)
      {ctx : Context} (hctx : ctx.caseBranch? = some (.normal, frame.thenColumn)) :
      Ensures (· = cache) (appendHere (sh.renderTo (depth + 2)) branch ctx placed) fun b =>
        a.Retains b ∧ ∃ row, a.finished.length ≤ row ∧ (isFirst = false → a.finished.length < row)
          ∧ row ≤ b.finished.length ∧ Aligns lead head frame.thenColumn b row := by
    rw [← hcolumn] at hhead
    apply (aligns_appendHere hbare hoff htokens haligned hkind hthen hctx hhead htarget hlead).mono
    rintro b ⟨hb, haligns⟩
    exact ⟨hretains.trans hb, _, hretains.finished_le, hfirst, hb.finished_le, haligns⟩
  have hcolumn : sh.branchColumn frame .whenBranch = frame.whenColumn := rfl
  unfold appendBranch
  dsimp only
  rw [hkind, hcolumn]
  split
  · next hstay =>
    simp only [Bool.and_eq_true, beq_iff_eq] at hstay
    obtain ⟨hcolumn, hlead⟩ := hstays hstay.1.1.1 hstay.1.2
    refine hplaced hcolumn hlead (.padTo _ a) (fun hfirst => ?_) rfl
    rw [hstay.1.1.1] at hfirst
    exact absurd hfirst nofun
  · exact hplaced rfl hspaces (.newlineAt _ a) (fun _ => Nat.lt_succ_self _) rfl

/-- Parts of a `CASE` behind a branch. -/
lemma aligns_appendParts (hthen : ∀ branch ∈ sh.whenBranches ids, sh.HasThen branch)
    (hheads : ∀ branch, (sh.whenHead (sh.renderTo (depth + 1)) branch frame.whenColumn cache).1 = heads branch)
    (htarget : ∀ branch ∈ sh.whenBranches ids, (heads branch).height = 1 →
      ∃ target, frame.thenColumn = some target ∧ (heads branch).column < target)
    (hspaces : lead (Text.spaces frame.whenColumn)) (ended : Bool) :
    Ensures (· = cache) (sh.appendParts (sh.renderTo (depth + 2)) frame false ended ids a) fun b =>
      a.Retains b ∧ AlignsAll lead heads frame.thenColumn (sh.whenBranches ids) (a.finished.length + 1) b := by
  have hr := goesOn_renderTo hbare hoff (depth + 2)
  induction ids generalizing ended a with
  | nil => exact .pure ⟨.refl a, .nil _ a⟩
  | cons child rest ih =>
    -- A part that is no branch `WHEN` is written behind the lines so far.
    have hskip (hne : sh.tree.kind child ≠ .whenBranch) {layout : Layout LineBuffer} (ended : Bool)
        (hlayout : Ensures (· = cache) layout a.Retains) :
        Ensures (· = cache) (layout >>= sh.appendParts (sh.renderTo (depth + 2)) frame false ended rest)
          fun b => a.Retains b ∧ AlignsAll lead heads frame.thenColumn (sh.whenBranches (child :: rest))
            (a.finished.length + 1) b := by
      rw [whenBranches_cons_of_ne hne] at hthen htarget ⊢
      apply hlayout.bind
      intro b hab
      apply (ih hthen htarget ended).mono
      rintro c ⟨hbc, hrest⟩
      exact ⟨hab.trans hbc, hrest.mono (Nat.succ_le_succ hab.finished_le)⟩
    unfold appendParts
    refine .ite (fun hend => ?_) fun _ => .ite (fun hbranch => ?_) fun hbranch => ?_
    · rw [Bool.and_eq_true] at hend
      exact hskip (ne_whenBranch_of_isEnd hend.2) true (retains_appendHere hr (retains_moveToEnd _ _ a))
    · by_cases hkind : sh.tree.kind child = .whenBranch
      · rw [whenBranches_cons hkind] at hthen htarget ⊢
        obtain ⟨hchild, hthen⟩ := List.forall_mem_cons.1 hthen
        obtain ⟨hfits, htarget⟩ := List.forall_mem_cons.1 htarget
        apply (aligns_appendBranch hbare hoff htokens haligned hkind hchild (hheads child) hfits false _ hspaces
          Bool.noConfusion).bind
        rintro b ⟨hab, row, -, hrow, hle, haligns⟩
        apply (ih hthen htarget ended).mono
        rintro c ⟨hbc, hrest⟩
        exact ⟨hab.trans hbc, .cons (hrow rfl) (haligns.mono hbc) (hrest.mono (Nat.succ_le_succ hle))⟩
      · exact hskip hkind ended (retains_appendBranch hbare hoff false _)
    · refine hskip (fun hkind => hbranch ?_) ended (retains_appendChild hr hbare _ (.refl a))
      rw [hkind]
      rfl

/-- All parts of a `CASE`: the first one is a branch, or an `END` behind which no branch stands. -/
lemma aligns_allParts {opening : LineBuffer} (hgoes : opening.GoesOn)
    (hcolumn : sh.whenColumn column opening = frame.whenColumn)
    (hthen : ∀ branch ∈ sh.whenBranches ids, sh.HasThen branch)
    (hheads : ∀ branch, (sh.whenHead (sh.renderTo (depth + 1)) branch frame.whenColumn cache).1 = heads branch)
    (htarget : ∀ branch ∈ sh.whenBranches ids, (heads branch).height = 1 →
      ∃ target, frame.thenColumn = some target ∧ (heads branch).column < target)
    (hfirst : ∀ first rest, ids = first :: rest →
      isBranch (sh.tree.kind first) = true ∨ sh.isEnd first = true ∧ sh.whenBranches rest = []) :
    Ensures (· = cache) (sh.appendParts (sh.renderTo (depth + 2)) frame true false ids opening)
      (AlignsAll (Leads opening frame.whenColumn) heads frame.thenColumn (sh.whenBranches ids) 0) := by
  have hgo : Ensures (· = cache) (sh.appendParts (sh.renderTo (depth + 2)) frame true false ids opening)
      LineBuffer.GoesOn :=
    goesOn_appendParts hbare (goesOn_renderTo hbare hoff (depth + 2)) frame true false hgoes
  cases ids with
  | nil => exact hgo.mono fun b _ => .nil _ b
  | cons first rest =>
    rcases hfirst first rest rfl with hbranch | ⟨hend, hnone⟩
    · have hend : ¬(!false && sh.isEnd first) = true := by
        intro hend
        rw [not_isBranch_of_isEnd hend] at hbranch
        exact absurd hbranch nofun
      have hspaces : Leads opening frame.whenColumn (Text.spaces frame.whenColumn) := .inl rfl
      unfold appendParts
      rw [if_neg hend, if_pos hbranch]
      by_cases hkind : sh.tree.kind first = .whenBranch
      · rw [whenBranches_cons hkind] at hthen htarget ⊢
        obtain ⟨hchild, hthen⟩ := List.forall_mem_cons.1 hthen
        obtain ⟨hfits, htarget⟩ := List.forall_mem_cons.1 htarget
        apply (aligns_appendBranch hbare hoff htokens haligned hkind hchild (hheads first) hfits true _ hspaces
          fun _ hafter => padTo_whenColumn hafter hgoes hcolumn).bind
        rintro b ⟨-, row, -, -, hle, haligns⟩
        apply (aligns_appendParts hbare hoff htokens haligned hthen hheads htarget hspaces false).mono
        rintro c ⟨hbc, hrest⟩
        exact .cons (Nat.zero_le row) (haligns.mono hbc) (hrest.mono (Nat.succ_le_succ hle))
      · rw [whenBranches_cons_of_ne hkind] at hthen htarget ⊢
        apply (retains_appendBranch hbare hoff true _).bind
        intro b _
        apply (aligns_appendParts hbare hoff htokens haligned hthen hheads htarget hspaces false).mono
        rintro c ⟨-, hrest⟩
        exact hrest.mono (Nat.zero_le _)
    · rw [whenBranches_cons_of_ne (ne_whenBranch_of_isEnd hend), hnone]
      exact hgo.mono fun b _ => .nil _ b

end

/-! ### The target -/

/-- A loop whose steps compute a function computes the fold of it. -/
lemma ensures_foldl {σ γ : Type} {step : σ → γ → Layout σ} {f : σ → γ → σ} {xs : List γ}
    (hstep : ∀ x ∈ xs, ∀ s, Ensures I (step s x) (· = f s x)) (s : σ) :
    Ensures I (xs.foldlM step s) (· = xs.foldl f s) := by
  induction xs generalizing s with
  | nil => exact .pure rfl
  | cons x xs ih =>
    rw [List.foldlM_cons]
    apply (hstep x List.mem_cons_self s).bind
    rintro _ rfl
    exact ih (fun y hy => hstep y (List.mem_cons_of_mem x hy)) _

/-- The widest head that stands on one line is found by looking at one after the other. -/
lemma foldl_widest (known : Option Nat) (buffers : List LineBuffer) :
    buffers.foldl (fun known head => if head.height == 1 then widest known head.column else known) known
      = (known.toList ++ headColumns buffers).max? := by
  induction buffers generalizing known with
  | nil => cases known with
    | none => rfl
    | some column => rfl
  | cons head buffers ih =>
    rw [List.foldl_cons, ih]
    by_cases hone : head.height == 1
    · have hcolumns : headColumns (head :: buffers) = head.column :: headColumns buffers := by
        rw [headColumns, List.filter_cons, if_pos hone]
        rfl
      rw [if_pos hone, hcolumns]
      cases known with
      | none => rfl
      | some column =>
        show ([max head.column column] ++ headColumns buffers).max?
          = ([column] ++ head.column :: headColumns buffers).max?
        rw [Nat.max_comm]
        rfl
    · have hcolumns : headColumns (head :: buffers) = headColumns buffers := by
        rw [headColumns, List.filter_cons, if_neg hone]
        rfl
      rw [if_neg hone, hcolumns]

/-- A head on one line ends before the target. -/
lemma exists_target (hbranch : branch ∈ ids) (hone : (heads branch).height = 1) :
    ∃ target, (headColumns (ids.map heads)).max?.map (· + 1) = some target
      ∧ (heads branch).column < target := by
  have hcolumn : (heads branch).column ∈ headColumns (ids.map heads) :=
    List.mem_map_of_mem (List.mem_filter.2 ⟨List.mem_map_of_mem hbranch, beq_iff_eq.2 hone⟩)
  cases hmax : (headColumns (ids.map heads)).max? with
  | none =>
    rw [List.max?_eq_none_iff.1 hmax] at hcolumn
    exact absurd hcolumn nofun
  | some last => exact ⟨last + 1, rfl, Nat.lt_succ_of_le ((List.max?_eq_some_iff.1 hmax).2 _ hcolumn)⟩

/-- No branch stands before the parts of a `CASE`. -/
lemma whenBranches_partsOfCase (ids : List Nat) :
    sh.whenBranches (sh.partsOfCase ids) = sh.whenBranches ids := by
  have hnone : (ids.takeWhile fun c => !(isBranch (sh.tree.kind c) || sh.isEnd c)).filter
      (fun id => sh.tree.kind id == .whenBranch) = [] := by
    apply List.filter_eq_nil_iff.2
    intro child hchild hkind
    have hbranch := List.mem_takeWhile_imp hchild
    rw [beq_iff_eq.1 hkind] at hbranch
    exact absurd hbranch nofun
  calc sh.whenBranches (sh.partsOfCase ids)
    _ = (ids.takeWhile _ ++ sh.partsOfCase ids).filter fun id => sh.tree.kind id == .whenBranch := by
        rw [List.filter_append, hnone]
        rfl
    _ = sh.whenBranches ids := by rw [partsOfCase, List.takeWhile_append_dropWhile, whenBranches]

section

variable (hbare : ∀ i, sh.isComment i = false) (hoff : cache.enabled = false)

include hbare hoff

/-- The target is the column past the widest head, as heads are laid out in the branches themselves. -/
lemma ensures_thenColumn_eq
    (hheads : ∀ branch, (sh.whenHead (sh.renderTo (depth + 1)) branch column cache).1 = heads branch) :
    Ensures (· = cache) (sh.thenColumn? (sh.renderTo (depth + 2)) ids column) fun target? =>
      target? = ((headColumns ((sh.whenBranches ids).map heads)).max?).map (· + 1) := by
  unfold thenColumn?
  refine Ensures.bind (?_ : Ensures (· = cache) _
    (· = (headColumns ((sh.whenBranches ids).map heads)).max?)) fun last? hlast => ?_
  · rw [← List.nil_append (headColumns _), ← Option.toList_none, ← foldl_widest none, List.foldl_map]
    apply ensures_foldl
    intro branch hbranch known
    have hkind : sh.tree.kind branch = .whenBranch := by
      simpa using (List.mem_filter.1 hbranch).2
    apply (ensures_of_measuring hbare hoff hkind rfl).bind
    rintro _ rfl
    rw [hheads]
    exact .pure rfl
  · rw [hlast]
    exact .pure rfl

/-- The rows of the branches of a `CASE`. -/
lemma aligns_brokenCase (htokens : sh.tree.tokens = .ofText source)
    (haligned : sh.policy.cases.thenPosition = .aligned) {opening : LineBuffer} {whenColumn : Nat}
    (hopening : (sh.caseOpening (sh.renderTo (depth + 2)) id column cache).1 = opening)
    (hcolumn : sh.whenColumn column opening = whenColumn)
    (hheads : ∀ branch, (sh.whenHead (sh.renderTo (depth + 1)) branch whenColumn cache).1 = heads branch)
    (hthen : ∀ branch ∈ sh.whenBranches (sh.visibleChildren id), sh.HasThen branch)
    (hfirst : ∀ first rest, sh.partsOfCase (sh.visibleChildren id) = first :: rest →
      isBranch (sh.tree.kind first) = true ∨ sh.isEnd first = true ∧ sh.whenBranches rest = []) :
    Ensures (· = cache) (sh.brokenCase (sh.renderTo (depth + 2)) id ctx column)
      (AlignsAll (Leads opening whenColumn) heads
        ((headColumns ((sh.whenBranches (sh.visibleChildren id)).map heads)).max?.map (· + 1))
        (sh.whenBranches (sh.visibleChildren id)) 0) := by
  have hr := goesOn_renderTo hbare hoff (depth + 2)
  unfold brokenCase
  apply (ensures_self (goesOn_appendChildren hbare hr _ (goesOn_startingAt _ _))).bind
  rintro buf ⟨hbuf, hgoes⟩
  obtain rfl : buf = opening := hbuf.trans hopening
  dsimp only
  rw [if_pos haligned, drop_takeWhile, hcolumn]
  rw [← whenBranches_partsOfCase] at hthen ⊢
  apply (ensures_thenColumn_eq hbare hoff hheads).bind
  rintro _ rfl
  exact aligns_allParts hbare hoff htokens haligned hgoes hcolumn hthen hheads (fun _ => exists_target) hfirst

end

/-! ### Trees without errors -/

/-- The first part of a `CASE` is a branch, or `END`, behind which no branch `WHEN` stands. -/
lemma isBranch_or_isEnd (hframed : sh.tree.Framed id) (hcase : Grammar.isCase (sh.tree.kind id) = true)
    {first : Nat} {rest : List Nat} (hdrop : sh.partsOfCase (sh.tree.children id) = first :: rest) :
    isBranch (sh.tree.kind first) = true ∨ sh.isEnd first = true ∧ sh.whenBranches rest = [] := by
  rw [partsOfCase] at hdrop
  have hstops : (isBranch (sh.tree.kind first) || sh.isEnd first) = true := by
    rw [← drop_takeWhile] at hdrop
    simpa only [Bool.not_eq_false'] using not_of_drop_takeWhile hdrop
  rcases (Bool.or_eq_true _ _).mp hstops with hbranch | hend
  · exact .inl hbranch
  · refine .inr ⟨hend, List.filter_eq_nil_iff.2 fun later hlater hkind => ?_⟩
    obtain ⟨role, hrole⟩ := exists_role_of_isLeafOf hend
    -- The node starts with `CASE`, so `END` is one of its further children.
    have hsuffix : (first :: rest).Sublist (sh.tree.children id).tail := by
      have hfirst := hframed.first
      cases hchildren : sh.tree.children id with
      | nil => simp [hchildren] at hdrop
      | cons opener more =>
        rw [hchildren] at hdrop hfirst
        have hfirst : sh.tree.mayComeFirst (sh.tree.kind id) opener = true := hfirst
        rw [← hdrop, List.dropWhile_cons_of_pos]
        · exact List.dropWhile_sublist _
        · have hopener : sh.tree.isLeafOf opener (.keyword .CASE) = true := by
            cases hkind : sh.tree.kind id <;> simp [hkind, Grammar.isCase] at hcase
            all_goals
              rw [hkind] at hfirst
              exact isLeafOf_of_mayComeFirst (fun k hk => by simpa [Grammar.mayOpen] using hk) (fun _ => rfl)
                hfirst
          obtain ⟨role', hrole'⟩ := exists_role_of_isLeafOf hopener
          rw [Tree.isLeafOf, hrole'] at hopener
          rw [hrole', isEnd, Tree.isLeafOf, hrole', beq_iff_eq.1 hopener]
          rfl
    have hfollow := (hframed.order (by rw [Grammar.endsInLeaves, hcase]; rfl)).sublist hsuffix
    have hpiece := (List.pairwise_cons.1 hfollow).1 later hlater role hrole
    rw [beq_iff_eq.1 hkind] at hpiece
    contradiction

end Sheet

/--
Where a `CASE` of a source without errors and comments is laid out on branches and without a cache, and the
policy lines up the keywords `THEN`, each branch `WHEN` whose head stands on one line has its `THEN` at the
column past the widest of these heads.
-/
theorem then_past_widest_head {policy : Policy} {source : Text} {tree : Tree} {cache : Cache Policy} {id : Nat}
    (hparse : Tree.parse source = .ok tree) (herrors : tree.errors.isEmpty = true)
    (hbare : ∀ token ∈ (TokenStream.ofText source).tokens, token.kind.isComment = false)
    (haligned : policy.cases.thenPosition = .aligned) (hoff : cache.enabled = false)
    (hcase : tree.kind id = .caseOf ∨ tree.kind id = .caseStatement) (depth : Nat) (ctx : Context)
    (column : Nat) :
    let sh := Sheet.mk tree policy
    let opening := (sh.caseOpening (sh.renderTo (depth + 2)) id column cache).1
    let whenColumn := sh.whenColumn column opening
    let head branch := (sh.whenHead (sh.renderTo (depth + 1)) branch whenColumn cache).1
    let branches := sh.whenBranches (tree.children id)
    Sheet.AlignsAll (Sheet.Leads opening whenColumn) head
      ((Sheet.headColumns (branches.map head)).max?.map (· + 1)) branches 0
      (sh.brokenCase (sh.renderTo (depth + 2)) id ctx column cache).1 := by
  intro sh opening whenColumn head branches
  obtain ⟨htokens, hfaithful⟩ := Tree.faithful_of_parse hparse herrors
  have hbare : ∀ i, sh.isComment i = false := Sheet.isComment_eq_false hfaithful (htokens ▸ hbare)
  have hchildren := Sheet.visibleChildren_of_bare hbare id
  have hframed {node : Nat} (hconstruct : Grammar.Item.isConstruct (tree.kind node) = true)
      (hroot : tree.kind node ≠ .root) (hstatement : tree.kind node ≠ .statement) : tree.Framed node :=
    Tree.framed_of_parse hparse hconstruct hroot hstatement
  have hthen : ∀ branch ∈ sh.whenBranches (sh.visibleChildren id), sh.HasThen branch := by
    intro branch hbranch
    have hkind : tree.kind branch = .whenBranch := beq_iff_eq.1 (List.mem_filter.1 hbranch).2
    have hbranch := hframed (by rw [hkind]; rfl) (by simp [hkind]) (by simp [hkind])
    exact hbranch.answered hkind (by simpa using herrors)
  have hfirst := @Sheet.isBranch_or_isEnd sh id
    (by rcases hcase with h | h <;> exact hframed (by rw [h]; rfl) (by simp [h]) (by simp [h]))
    (by rcases hcase with h | h <;> exact congrArg Grammar.isCase h)
  rw [← hchildren] at hfirst
  have haligns : Sheet.Ensures (· = cache) (sh.brokenCase (sh.renderTo (depth + 2)) id ctx column) _ :=
    Sheet.aligns_brokenCase hbare hoff htokens haligned rfl rfl (fun _ => rfl) hthen @hfirst
  rw [hchildren] at haligns
  exact (haligns cache rfl).1

/-- A query with two branches, the first of which is padded. -/
theorem then_past_widest_head_of_query :
    ∃ tree, Tree.parse "select case when a then 1 when ab then 2 end".toList = .ok tree
      ∧ let sh := Sheet.mk tree { cases.thenPosition := .aligned }
        let opening := (sh.caseOpening (sh.renderTo 22) 6 7 .disabled).1
        let whenColumn := sh.whenColumn 7 opening
        let head branch := (sh.whenHead (sh.renderTo 21) branch whenColumn .disabled).1
        let branches := sh.whenBranches (tree.children 6)
        Sheet.AlignsAll (Sheet.Leads opening whenColumn) head
          ((Sheet.headColumns (branches.map head)).max?.map (· + 1)) branches 0
          (sh.brokenCase (sh.renderTo 22) 6 {} 7 .disabled).1 := by
  obtain ⟨tree, hparse, hfits⟩ := Tree.exists_of_any "select case when a then 1 when ab then 2 end".toList
    (fun tree => tree.errors.isEmpty && decide (tree.kind 6 = .caseOf)) (by decide +kernel)
  rw [Bool.and_eq_true, decide_eq_true_iff] at hfits
  exact ⟨tree, hparse,
    then_past_widest_head hparse hfits.1 (by decide +kernel) rfl rfl (.inl hfits.2) 20 {} 7⟩

end SqlLayout
