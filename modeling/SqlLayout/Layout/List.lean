import SqlLayout.Layout.Inline

/-!
# Layout of lists

The elements of a list that does not fit on one line are packed into groups, one group a line. A group
grows as long as the line width, the length of a group and the number of its elements allow it, those of
the largest weight deciding. An element on several lines and a comment that ends a line close the group.
-/

namespace SqlLayout

/-- An element of a list with the comma and the comments that follow it. -/
structure ListItem where
  element : Option Nat := none
  comma : Option Nat := none
  comments : List Nat := []
  deriving DecidableEq, Inhabited

namespace ListItem

/-- Whether the item holds nothing. -/
def isEmpty (item : ListItem) : Bool :=
  item == {}

end ListItem

/-- How far the items of a list have been laid out. -/
structure ListProgress where
  buf : LineBuffer
  /-- Number of elements of the current group. -/
  count : Nat := 0
  /-- Columns of the current group. -/
  length : Nat := 0
  /-- Whether the next element starts a group in any case. -/
  closed : Bool := false
  /-- Whether no item has been laid out yet. -/
  isFirst : Bool := true
  /-- The comma of the item before. -/
  previousComma : Option Nat := none

namespace Sheet

variable {m : Type → Type} [Monad m] (sh : Sheet) (render : RenderIn m)

/-- Splits children into items, given the item that is being filled. -/
def itemsFrom (item : ListItem) : List Nat → List ListItem
  | [] => if item.isEmpty then [] else [item]
  | child :: rest =>
    if sh.isComment child then
      itemsFrom { item with comments := item.comments ++ [child] } rest
    else if sh.tree.isLeafOf child .comma then
      { item with comma := some child } :: itemsFrom {} rest
    else if item.element.isNone && item.comments.isEmpty then
      itemsFrom { item with element := some child } rest
    else item :: itemsFrom { element := some child } rest

/-- The items of a list. -/
def listItems (id : Nat) : List ListItem :=
  sh.itemsFrom {} (sh.visibleChildren id)

/-- Column at which the further groups of a list start. -/
def groupColumn (ctx : Context) (column : Nat) : Nat :=
  if ctx.inParens then column
  else
    match sh.policy.lists.indent with
    | .align => column
    | .indent => ctx.indent + sh.indent
    | .doubleIndent => ctx.indent + 2 * sh.indent
    | .subsequent => ctx.indent

/-- Whether commas stand at the start of lines. -/
def commaFirst : Bool :=
  sh.policy.lists.comma == .before

/-- Width of the element of an item on one line, and zero without one. -/
def itemWidth (item : ListItem) : Nat :=
  (item.element.bind sh.measure).getD 0

/-- Whether some element cannot stand on one line, so that every element starts a line. -/
def hasBrokenElement (items : List ListItem) : Bool :=
  items.any fun item => item.element.any fun e => (sh.measure e).isNone

/-- Columns that follow the element of an item on its line. -/
def itemTrailing (ctx : Context) (item : ListItem) (isLast : Bool) : Nat :=
  if isLast then ctx.trailing else if !sh.commaFirst && item.comma.isSome then 1 else 0

/-- Whether an element of the given width may join the current group. -/
def joinsGroup (p : ListProgress) (width trailing : Nat) : Bool :=
  let separator := if sh.commaFirst && p.previousComma.isSome then 2 else 1
  let lists := sh.policy.lists
  Threshold.allow
    ([Threshold.of (p.buf.column + separator + width + trailing) sh.policy.lineWidth]
      ++ Threshold.ofLimit (p.count + 1) lists.maxPerGroup
      ++ Threshold.ofLimit (p.length + 2 + width) lists.maxGroup
      ++ Threshold.ofLimit (p.length + 2 + width) lists.maxLine)

/-- Appends a comma close to what stands before it, if there is one. -/
def appendComma (comma : Option Nat) (ctx : Context) (buf : LineBuffer) : m LineBuffer :=
  match comma with
  | some comma => sh.appendChild render .commaList comma ctx buf
  | none => return buf

/-- Starts a group on a new line, after the comma before it if commas stand first. -/
def startGroup (column : Nat) (p : ListProgress) (ctx : Context) : m LineBuffer := do
  match p.previousComma, sh.commaFirst with
  | some comma, true =>
    let buf ← appendHere render comma ctx (p.buf.newlineAt (column - 2))
    return buf.pushSpace.padTo column
  | _, _ => return p.buf.newlineAt column

/-- Moves to where an item goes: on in the current group, or to a new one. -/
def placeItem (onePerLine : Bool) (column : Nat) (ctx : Context) (item : ListItem)
    (trailing : Nat) (p : ListProgress) : m ListProgress := do
  let width := sh.itemWidth item
  let held := if sh.commaFirst then p.previousComma else none
  if p.isFirst then return { p with count := 1, length := width }
  else if item.element.isNone then
    return { p with buf := ← sh.appendComma render held ctx p.buf }
  else if !p.closed && !onePerLine && !p.buf.pendingBreak && sh.joinsGroup p width trailing then
    let buf ← sh.appendComma render held ctx p.buf
    return { p with buf := buf.pushSpace, count := p.count + 1, length := p.length + 2 + width }
  else
    return { p with buf := ← sh.startGroup render column p ctx, count := 1, length := width }

/-- Lays out the element of an item, told what follows it; also says whether it has one line. -/
def appendElement (element : Option Nat) (trailing : Nat) (buf : LineBuffer) :
    m (LineBuffer × Bool) := do
  match element with
  | none => return (buf, true)
  | some element =>
    let piece ← render element (Context.child buf.column trailing) buf.column
    return (buf.append piece, piece.isSingleLine)

/-- Lays out one item. -/
def appendItem (onePerLine : Bool) (column : Nat) (ctx : Context) (item : ListItem)
    (isLast : Bool) (p : ListProgress) : m ListProgress := do
  let trailing := sh.itemTrailing ctx item isLast
  let p ← sh.placeItem render onePerLine column ctx item trailing p
  let (buf, isSingleLine) ← appendElement render item.element trailing p.buf
  let buf ← sh.appendComma render (if sh.commaFirst then none else item.comma) ctx buf
  let buf := item.comments.foldl (fun buf comment => sh.appendComment comment buf) buf
  return { p with
    buf := buf
    closed := !isSingleLine || buf.pendingBreak
    isFirst := false
    previousComma := item.comma }

/-- The elements of a list packed into groups. -/
def brokenList (id : Nat) (ctx : Context) (column : Nat) : m LineBuffer := do
  let items := sh.listItems id
  let onePerLine := sh.hasBrokenElement items
  let start := sh.groupColumn ctx column
  let p ← (withRest items).foldlM
    (fun p (item, rest) => sh.appendItem render onePerLine start ctx item rest.isEmpty p)
    { buf := { LineBuffer.startingAt column with indentBase := start } }
  sh.appendComma render (if sh.commaFirst then p.previousComma else none) ctx p.buf

/-- A list with commas. -/
def commaList (id : Nat) (ctx : Context) (column : Nat) : m Piece :=
  sh.onOneLineOr render (sh.brokenList render id ctx column) id ctx column

end Sheet
end SqlLayout
