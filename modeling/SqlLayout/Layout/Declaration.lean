import SqlLayout.Layout.Inline

/-!
# Layout of declarations

Declarations that do not fit on one line stand one a line. Their parts can line up: at a fixed column,
or at a common offset, which is that of the widest declaration within the bounds of the policy. Offsets
are found part by part, so that each takes the parts before it into account.
-/

namespace SqlLayout.Sheet

variable {m : Type → Type} [Monad m] [Faulting m] (sh : Sheet) (render : RenderIn m)

/-! ### Offsets -/

/-- Parts that can line up, in the order in which they stand. -/
def alignedRoles : List PartRole := [.name, .dataType, .defaultIndicator, .defaultValue]

/-- Where a part of a declaration starts, given where the part before it ends. -/
def startOf (offsets : AlignmentOffsets) (part : PartRole) : (stop : Option Nat) → Nat
  | none => 0
  | some stop =>
    match offsets.get part with
    | some offset => if stop < offset then offset else stop + 1
    | none => stop + 1

/-- Offset of a part in a declaration if the parts before it, which end at `stop`, keep theirs. -/
def naturalOffsetFrom (offsets : AlignmentOffsets) (role : PartRole) :
    (stop : Option Nat) → List Nat → Option Nat
  | _, [] => none
  | stop, child :: rest =>
    match sh.tree.kind child with
    | .declarationPart part =>
      let start := startOf offsets part stop
      if part = role then some start
      else
        match sh.measure child with
        | none => none
        | some width => naturalOffsetFrom offsets role (some (start + width)) rest
    | _ => naturalOffsetFrom offsets role stop rest

/-- Offset of a part in a declaration, if it has one and what stands before it has a width. -/
def naturalOffset? (offsets : AlignmentOffsets) (role : PartRole) (declaration : Nat) : Option Nat :=
  sh.naturalOffsetFrom offsets role none (sh.visibleChildren declaration)

/-- Nearest number between two bounds. -/
def clamp (low high n : Nat) : Nat :=
  max low (min n high)

/-- The common offset of a part of declarations that start at a column. -/
def commonOffset? (declarations : List Nat) (start : Nat) (offsets : AlignmentOffsets)
    (role : PartRole) : Option Nat :=
  match sh.policy.arguments.forRole role with
  | .subsequent => none
  | .fixed column => some (column - start)
  | .vertical low high _ =>
    ((declarations.filterMap (sh.naturalOffset? offsets role)).max?).map (clamp low high)

/-- The common offsets of the parts of declarations that start at a column. -/
def alignmentOffsets (declarations : List Nat) (start : Nat) : AlignmentOffsets :=
  alignedRoles.foldl
    (fun offsets role => offsets.set role (sh.commonOffset? declarations start offsets role)) {}

/--
Whether a sum is no word on the way to the offset of a part in a declaration, if the parts before it,
which end at `stop`, keep theirs.
-/
def naturalOverflows (offsets : AlignmentOffsets) (role : PartRole) :
    (stop : Option Nat) → List Nat → Bool
  | _, [] => false
  | stop, child :: rest =>
    match sh.tree.kind child with
    | .declarationPart part =>
      let start := startOf offsets part stop
      if Number.wordBound ≤ start then true
      else if part = role then false
      else
        match sh.measure child with
        | none => false
        | some width =>
          decide (Number.wordBound ≤ start + width)
            || naturalOverflows offsets role (some (start + width)) rest
    | _ => naturalOverflows offsets role stop rest

/-- Whether a sum is no word on the way to the common offsets of further parts of declarations. -/
def alignmentOverflows (declarations : List Nat) (start : Nat) :
    AlignmentOffsets → List PartRole → Bool
  | _, [] => false
  | offsets, role :: rest =>
    ((sh.policy.arguments.forRole role).isVertical && declarations.any fun declaration =>
        sh.naturalOverflows offsets role none (sh.visibleChildren declaration))
      || alignmentOverflows declarations start
        (offsets.set role (sh.commonOffset? declarations start offsets role)) rest

/-- The fault of finding the common offsets of declarations that start at a column. -/
def alignmentFault? (declarations : List Nat) (start : Nat) : Option LayoutFault :=
  if sh.alignmentOverflows declarations start {} alignedRoles then some .overflow else none

/-- The declarations among children. -/
def declarationsOf (children : List Nat) : List Nat :=
  children.filter fun c => sh.tree.kind c == .declaration

/-- The context of declarations that start at a column, and line up. -/
def declarationContext (children : List Nat) (column : Nat) : Context :=
  { Context.indentedAt column with
    overlay := .declarations (sh.alignmentOffsets (sh.declarationsOf children) column) }

/-! ### One declaration -/

/-- Moves to where a part of a declaration goes: to its target, after a space, or to a new line. -/
def moveToPart (continuation child trailing : Nat) (target : Option Nat) (buf : LineBuffer) :
    LineBuffer :=
  let overflowsAt := fun column =>
    (sh.measure child).any fun width => decide (sh.lineWidth < column + width + trailing)
  let follow :=
    let space := sh.spaceAfterLast .declaration child buf
    if space && continuation < buf.column && overflowsAt (buf.column + 1) then buf.newline
    else buf.separate space
  match target with
  | some column =>
    if buf.column < column then
      if overflowsAt column then buf.newline else buf.padTo column
    else follow
  | none => follow

/-- Column at which a part of a declaration that starts at `column` lines up, if it does. -/
def partTarget? (offsets : Option AlignmentOffsets) (column child : Nat) : Option Nat :=
  match sh.tree.kind child with
  | .declarationPart role => (offsets.bind (·.get role)).map (column + ·)
  | _ => none

/-- The fault of moving a part to its target; `moves` says that it may be moved at all. -/
def targetFault? (moves : Bool) (child trailing : Nat) (target : Option Nat) (buf : LineBuffer) :
    Option LayoutFault :=
  target.bind fun column =>
    if Number.wordBound ≤ column then some .overflow
    else if moves && buf.column < column then
      match sh.measure child with
      | some width =>
        if Number.wordBound ≤ column + width + trailing then some .overflow
        else if sh.lineWidth < column + width + trailing then none
        else buf.padFault? column
      | none => buf.padFault? column
    else none

/-- The parts of a declaration one after the other, those that line up at their offsets. -/
def brokenDeclaration (offsets : Option AlignmentOffsets) (id : Nat) (ctx : Context) (column : Nat) :
    m LineBuffer :=
  let continuation := column + sh.indent
  (withRest (sh.visibleChildren id)).zipIdx.foldlM
    (fun buf ((child, rest), i) => do
      if sh.isComment child then return sh.appendComment child buf
      else
        let trailing := sh.gluedTrailing .declaration ctx.trailing child rest
        let target := sh.partTarget? offsets column child
        let moves := 0 < i && !buf.pendingBreak
        Faulting.stopFor (sh.targetFault? moves child trailing target buf)
        let buf :=
          if moves then sh.moveToPart continuation child trailing target buf
          else buf.separate false
        appendHere render child (Context.child continuation trailing) buf)
    { LineBuffer.startingAt column with indentBase := continuation }

/-- A declaration; one that lines up with others is not tried on one line. -/
def declaration (id : Nat) (ctx : Context) (column : Nat) : m Piece := do
  let offsets := ctx.offsets?.filter (!·.isEmpty)
  let broken := sh.brokenDeclaration render offsets id ctx column
  if offsets.isSome then return .lines (← broken)
  else sh.onOneLineOr render broken id ctx column

/-! ### Lists of declarations -/

/-- Starts the line of a declaration, after the comma before it if commas stand first. -/
def startDeclaration (comma : Option Nat) (inner : Nat) (ctx : Context) (buf : LineBuffer) :
    m LineBuffer := do
  match comma with
  | some comma => return (← appendHere render comma ctx (buf.newlineAt (inner - 2))).padTo inner
  | none => return buf.newlineAt inner

/--
Lays out what stands between brackets around declarations. `held` is a comma that has not been written
because commas stand first.
-/
def appendDeclarations (declCtx ctx : Context) (inner : Nat) :
    (held : Option Nat) → List Nat → LineBuffer → m LineBuffer
  | _, [], buf => return buf
  | held, child :: rest, buf => do
    let commaFirst := sh.policy.lists.comma == .before
    if sh.tree.isLeafOf child .rParen then
      let buf ← appendHere render child ctx (buf.newlineAt ctx.indent)
      appendDeclarations declCtx ctx inner held rest buf
    else if sh.tree.isLeafOf child .comma then
      if commaFirst then appendDeclarations declCtx ctx inner (some child) rest buf
      else
        let buf ← sh.appendChild render .declarationList child ctx buf
        appendDeclarations declCtx ctx inner held rest buf
    else if sh.isComment child then
      appendDeclarations declCtx ctx inner held rest (sh.appendComment child buf)
    else
      let buf ← startDeclaration render held inner ctx buf
      let commaFollows := rest.head?.any fun next => sh.tree.isLeafOf next .comma
      let trailing := if commaFollows && !commaFirst then 1 else 0
      let buf ← appendHere render child { declCtx with trailing := trailing } buf
      appendDeclarations declCtx ctx inner none rest buf

/-- One declaration a line between brackets. -/
def brokenDeclarationList (id : Nat) (ctx : Context) (column : Nat) : m LineBuffer := do
  let inner := ctx.indent + sh.indent
  let children := sh.visibleChildren id
  Faulting.stopFor (sh.alignmentFault? (sh.declarationsOf children) inner)
  let opening := (children.take 1).filter fun c => sh.tree.isLeafOf c .lParen
  let buf ← sh.appendChildren render .declarationList opening ctx
    { LineBuffer.startingAt column with indentBase := inner }
  sh.appendDeclarations render (sh.declarationContext children inner) ctx inner none
    (children.drop opening.length) buf

/-- A list of declarations in brackets. -/
def declarationList (id : Nat) (ctx : Context) (column : Nat) : m Piece :=
  sh.onOneLineOr render (sh.brokenDeclarationList render id ctx column) id ctx column

/-- The variables of a block, one a line. -/
def declareSection (id column : Nat) : m Piece := do
  let inner := column + sh.indent
  let children := sh.visibleChildren id
  Faulting.stopFor (sh.alignmentFault? (sh.declarationsOf children) inner)
  let declCtx := sh.declarationContext children inner
  let buf ← children.foldlM
    (fun buf child =>
      if sh.tree.kind child = .declaration then
        appendHere render child declCtx (buf.newlineAt inner)
      else sh.appendChild render .declareSection child (Context.indentedAt column) buf)
    { LineBuffer.startingAt column with indentBase := inner }
  return .lines buf

end SqlLayout.Sheet
