import Mathlib.Data.List.MinMax
import SqlLayout.Layout.Declaration
import SqlLayout.Proofs.Layout.RoomExpressions

/-!
# Declarations keep within their room

Parts of declarations are moved to their offsets, which are no larger than the room of a node with parts
allows. No sum on the way to an offset gets out of bounds either.
-/

namespace SqlLayout.Sheet

variable {sh : Sheet} {I : Cache Policy → Prop} {render : RenderIn BoundedLayout} {id : Nat} {children : List Nat}
  {ctx : Context} {b : LineBuffer} {start low high column r n : Nat}

/-! ### Offsets -/

section Offsets

variable {offsets : AlignmentOffsets} {role : PartRole} {declarations : List Nat} {bound : Nat}

lemma partsWidth_le (hid : id < sh.tree.size) : sh.partsWidth id ≤ sh.widestParts :=
  List.le_max_of_le' 0 (List.mem_map_of_mem (List.mem_range.2 hid)) (Nat.le_refl _)

lemma least_forRole_le (role : PartRole) : (sh.policy.arguments.forRole role).least ≤ sh.leastOffset := by
  by_cases hrole : role ∈ alignedRoles
  · exact List.le_max_of_le' 0 (List.mem_map_of_mem hrole) (Nat.le_refl _)
  · cases role <;> simp [alignedRoles, ArgumentPolicy.forRole, ColumnAlignment.least] at hrole ⊢

lemma startOf_le (h : offsets.AtMost bound) (part : PartRole) (stop : Option Nat) :
    startOf offsets part stop ≤ max bound (stop.getD 0) + 1 := by
  unfold startOf
  split
  · exact Nat.zero_le _
  · next stop =>
    rw [Option.getD_some]
    split
    · next offset hoffset =>
      have hle := h part offset hoffset
      split <;> omega
    · omega

/-- A part starts no further right than the offsets and what stands before it allow. -/
lemma naturalOffsetFrom_le (h : offsets.AtMost bound) {stop : Option Nat} {offset : Nat}
    (hoffset : sh.naturalOffsetFrom offsets role stop children = some offset) :
    offset ≤ max bound (stop.getD 0) + (children.map fun child => sh.measured child + 1).sum := by
  induction children generalizing stop with
  | nil => contradiction
  | cons child rest ih =>
    rw [List.map_cons, List.sum_cons]
    unfold naturalOffsetFrom at hoffset
    split at hoffset
    · next part _ =>
      have hstart := startOf_le h part stop
      dsimp only at hoffset
      split at hoffset
      · obtain rfl := Option.some.inj hoffset
        omega
      · split at hoffset
        · contradiction
        · next width hwidth =>
          have hmeasured : sh.measured child = width := by rw [measured, hwidth, Option.getD_some]
          have hrest := ih hoffset
          rw [Option.getD_some] at hrest
          omega
    · have hrest := ih hoffset
      omega

/-- No sum on the way to an offset is too large. -/
lemma naturalOverflows_eq_false (h : offsets.AtMost bound) {stop : Option Nat}
    (hbound : max bound (stop.getD 0) + (children.map fun child => sh.measured child + 1).sum < Number.wordBound) :
    sh.naturalOverflows offsets role stop children = false := by
  induction children generalizing stop with
  | nil => rfl
  | cons child rest ih =>
    rw [List.map_cons, List.sum_cons] at hbound
    unfold naturalOverflows
    split
    · next part _ =>
      have hstart := startOf_le h part stop
      dsimp only
      rw [if_neg (by omega)]
      split
      · rfl
      · split
        · rfl
        · next width hwidth =>
          have hmeasured : sh.measured child = width := by rw [measured, hwidth, Option.getD_some]
          rw [Bool.or_eq_false_iff, decide_eq_false_iff_not]
          refine ⟨by omega, ih ?_⟩
          rw [Option.getD_some]
          omega
    · exact ih (by omega)

variable (hdeclarations : ∀ declaration ∈ declarations, declaration < sh.tree.size)
  (hleast : sh.leastOffset ≤ bound)

include hdeclarations hleast

/-- Each role moves the offsets by at most the parts of a declaration. -/
lemma commonOffset?_le (h : offsets.AtMost bound) {offset : Nat}
    (hoffset : sh.commonOffset? declarations start offsets role = some offset) :
    offset ≤ bound + sh.widestParts := by
  have hrole := sh.least_forRole_le role
  unfold commonOffset? at hoffset
  cases halign : sh.policy.arguments.forRole role with
  | subsequent =>
    rw [halign] at hoffset
    contradiction
  | fixed column =>
    rw [halign] at hoffset hrole
    obtain rfl := Option.some.inj hoffset
    have hcolumn : column ≤ sh.leastOffset := hrole
    omega
  | vertical lower upper _ =>
    rw [halign] at hoffset hrole
    obtain ⟨widest, hwidest, rfl⟩ := Option.map_eq_some_iff.1 hoffset
    obtain ⟨declaration, hmem, hnatural⟩ := List.mem_filterMap.1 (List.max?_mem hwidest)
    have hlower : lower ≤ sh.leastOffset := hrole
    have hparts := partsWidth_le (hdeclarations declaration hmem)
    have hle := naturalOffsetFrom_le h hnatural
    rw [Option.getD_none, Nat.max_zero, ← partsWidth] at hle
    unfold clamp
    omega

lemma atMost_set (h : offsets.AtMost bound) :
    (offsets.set role (sh.commonOffset? declarations start offsets role)).AtMost (bound + sh.widestParts) := by
  have hcommon (offset : Nat) (hoffset : sh.commonOffset? declarations start offsets role = some offset) :
      offset ≤ bound + sh.widestParts := commonOffset?_le hdeclarations hleast h hoffset
  intro other offset hoffset
  by_cases hother : other = role
  · subst hother
    refine hcommon offset ?_
    cases other <;> exact hoffset
  · have hkept : offsets.get other = some offset := by
      cases role <;> cases other <;> first | exact hoffset | exact absurd rfl hother
    exact (h other offset hkept).trans (Nat.le_add_right _ _)

/-- Finding offsets meets no sum that is too large. -/
lemma alignmentOverflows_eq_false (h : offsets.AtMost bound) {roles : List PartRole}
    (hbound : bound + roles.length * sh.widestParts < Number.wordBound) :
    sh.alignmentOverflows declarations start offsets roles = false := by
  induction roles generalizing offsets bound with
  | nil => rfl
  | cons role roles ih =>
    rw [List.length_cons, Nat.succ_mul] at hbound
    unfold alignmentOverflows
    rw [Bool.or_eq_false_iff]
    refine ⟨?_, ih (hleast.trans (Nat.le_add_right _ _)) (atMost_set hdeclarations hleast h) (by omega)⟩
    rw [Bool.and_eq_false_iff]
    refine .inr (List.any_eq_false.2 fun declaration hmem => ?_)
    have hparts := partsWidth_le (hdeclarations declaration hmem)
    rw [partsWidth] at hparts
    rw [naturalOverflows_eq_false h (by rw [Option.getD_none, Nat.max_zero]; omega)]
    exact Bool.false_ne_true

lemma atMost_foldl (h : offsets.AtMost bound) (roles : List PartRole) :
    (roles.foldl (fun offsets role => offsets.set role (sh.commonOffset? declarations start offsets role))
      offsets).AtMost (bound + roles.length * sh.widestParts) := by
  induction roles generalizing offsets bound with
  | nil => simpa using h
  | cons role roles ih =>
    rw [List.length_cons, Nat.succ_mul, Nat.add_comm _ sh.widestParts, ← Nat.add_assoc]
    exact ih (hleast.trans (Nat.le_add_right _ _)) (atMost_set hdeclarations hleast h)

end Offsets

lemma atMost_empty : AlignmentOffsets.AtMost 0 {} := by
  intro role offset hoffset
  cases role <;> contradiction

lemma declarationsOf_lt (ht : sh.tree.Ordered) :
    ∀ d ∈ declarationsOf sh (sh.visibleChildren id), d < sh.tree.size :=
  fun _ hd => (ht id _ (List.mem_of_mem_filter (List.mem_of_mem_filter hd))).2

lemma AtMost.mono {offsets : AlignmentOffsets} {bound bound' : Nat} (h : offsets.AtMost bound)
    (hle : bound ≤ bound') : offsets.AtMost bound' :=
  fun role offset hoffset => (h role offset hoffset).trans hle

/-- The common offsets of the declarations among children. -/
lemma atMost_alignmentOffsets (ht : sh.tree.Ordered) (column : Nat) :
    (sh.alignmentOffsets (sh.declarationsOf (sh.visibleChildren id)) column).AtMost sh.farthestOffset :=
  atMost_foldl (declarationsOf_lt ht) (Nat.le_refl _) (AtMost.mono atMost_empty (Nat.zero_le _)) alignedRoles

lemma alignmentFault?_eq_none (ht : sh.tree.Ordered) (hreach : sh.reach < Number.wordBound) (column : Nat) :
    sh.alignmentFault? (sh.declarationsOf (sh.visibleChildren id)) column = none := by
  rw [reach, farthestOffset] at hreach
  rw [alignmentFault?, alignmentOverflows_eq_false (declarationsOf_lt ht) (Nat.le_refl _)
    (AtMost.mono atMost_empty (Nat.zero_le _)) (show sh.leastOffset + 4 * sh.widestParts < _ by omega)]
  rfl

lemma suits_declarationContext (ht : sh.tree.Ordered) {trailing child : Nat} (htrailing : trailing ≤ 1)
    (column : Nat) :
    sh.Suits child { sh.declarationContext (sh.visibleChildren id) column with trailing := trailing } := by
  refine ⟨fun _ phase target => ?_, fun _ offsets heq => ?_⟩
  · simp [Context.caseBranch?, declarationContext]
  · obtain rfl := Option.some.inj heq
    exact ⟨atMost_alignmentOffsets ht column, htrailing⟩

/-! ### Declarations -/

lemma inRoom_moveToPart {child trailing continuation : Nat} {target : Option Nat}
    (htarget : ∀ c, target = some c → c ≤ r) (hb : b.InRoom start r n) :
    (sh.moveToPart continuation child trailing target b).InRoom start (r + 1) n := by
  have hfollow (space : Bool) (c : Prop) [Decidable c] :
      (if c then b.newline else b.separate space).InRoom start (r + 1) n := by
    split
    · exact hb.newline.further 1
    · exact hb.separate space
  unfold moveToPart
  dsimp only
  split
  · next c =>
    split
    · split
      · exact hb.newline.further 1
      · exact (hb.padTo (htarget c rfl)).further 1
    · exact hfollow _ _
  · exact hfollow _ _

lemma gluedTrailing_le (parent : NodeKind) (outer before : Nat) (rest : List Nat) :
    sh.gluedTrailing parent outer before rest ≤ (rest.map fun child => sh.measured child + 1).sum + outer := by
  induction rest generalizing before with
  | nil => simp [gluedTrailing]
  | cons child rest ih =>
    rw [gluedTrailing, List.map_cons, List.sum_cons]
    have hrest := ih child
    split <;> omega

/-- A child of a declaration with those after it is no wider than all parts. -/
lemma measured_add_gluedTrailing_le {x : Nat × List Nat} (hx : x ∈ withRest children) (parent : NodeKind)
    (outer : Nat) :
    sh.measured x.1 + sh.gluedTrailing parent outer x.1 x.2
      ≤ (children.map fun child => sh.measured child + 1).sum + outer := by
  induction children with
  | nil => exact absurd hx List.not_mem_nil
  | cons child rest ih =>
    rw [List.map_cons, List.sum_cons]
    rcases List.mem_cons.1 hx with rfl | hx
    · have hrest := sh.gluedTrailing_le parent outer child rest
      dsimp only
      omega
    · have hrest := ih hx
      omega

/-- Moving a part to a target in bounds is no fault. -/
lemma targetFault?_eq_none {child trailing : Nat} {target : Option Nat} {moves : Bool}
    (htarget : ∀ c, target = some c → c + sh.measured child + trailing ≤ r) (hr : 2 * r < Text.sizeBound)
    (hspare : n ≤ r) (hb : b.InRoom start r n) : sh.targetFault? moves child trailing target b = none := by
  have hbounds : Text.sizeBound ≤ Number.wordBound := by decide
  have hbytes := hb.bytes
  have hcolumn := hb.column
  unfold targetFault?
  cases target with
  | none => rfl
  | some c =>
    have hc := htarget c rfl
    have hpad : b.padFault? c = none := if_neg (by omega)
    rw [Option.bind_some, if_neg (by omega)]
    split
    · split
      · next width hwidth =>
        have hmeasured : sh.measured child = width := by rw [measured, hwidth, Option.getD_some]
        rw [if_neg (by omega), hpad, ite_self]
      · exact hpad
    · rfl

/-- A loop over nodes; as bytes and columns get as many more, there are never more spare bytes than columns. -/
lemma succeeds_loop {γ : Type} {step : LineBuffer → γ → BoundedLayout LineBuffer} {xs : List γ}
    (child : γ → Nat) (hchildren : xs.map child = children)
    (hstep : ∀ x ∈ xs, ∀ b r n, low ≤ r → n ≤ r → r + sh.room (child x) ≤ high →
      b.InRoom start r n → Succeeds I (step b x) (·.InRoom start (r + sh.room (child x)) (n + sh.room (child x))))
    (hlow : low ≤ r) (hspare : n ≤ r) (hhigh : r + sh.rooms children ≤ high) (hb : b.InRoom start r n) :
    Succeeds I (xs.foldlM step b) (·.InRoom start (r + sh.rooms children) (n + sh.rooms children)) := by
  subst hchildren
  induction xs generalizing b r n with
  | nil => exact .pure hb
  | cons x xs ih =>
    rw [List.map_cons, rooms_cons] at hhigh ⊢
    rw [List.foldlM_cons, ← Nat.add_assoc, ← Nat.add_assoc]
    exact (hstep x (by simp) b r n hlow hspare (by omega) hb).bind fun b hb =>
      ih (fun y hy => hstep y (by simp [hy])) (by omega) (by omega) hb (by omega)

lemma succeeds_brokenDeclaration {right : Nat} {offsets : Option AlignmentOffsets} (ht : sh.tree.Ordered)
    (hid : id < sh.tree.size) (hr : ∀ child ∈ sh.visibleChildren id, sh.KeepsRoom I render child)
    (h : sh.HasRoom (sh.pieceRoom id) id ctx column right)
    (hoffsets : ∀ o, offsets = some o → o.AtMost sh.farthestOffset ∧ ctx.trailing ≤ 1) :
    Succeeds I (sh.brokenDeclaration render offsets id ctx column) (·.InRoom column right (sh.pieceRoom id)) := by
  obtain ⟨low, hframe, hcolumn, -, hright⟩ := h.frame ht
  have hbound := hframe.bound
  have hparts := partsWidth_le hid
  rw [partsWidth] at hparts
  rw [reach] at hcolumn
  have hinner : column + sh.indent ≤ low := by omega
  have hown : sh.rooms (sh.visibleChildren id) ≤ sh.pieceRoom id := Nat.le_add_left _ _
  have hstart : LineBuffer.InRoom column low 0
      { LineBuffer.startingAt column with indentBase := column + sh.indent } := .startingAt (by omega) hinner 0
  refine (sh.succeeds_loop (fun x => x.1.1) (map_withRest_zipIdx _) (fun x hx b r n hlow hspare hhigh hb => ?_)
    (Nat.le_refl low) (Nat.zero_le _)
    (show low + sh.rooms (sh.visibleChildren id) ≤ right by omega) hstart).mono fun b hb =>
      hb.mono (by omega) (by omega)
  obtain ⟨⟨child, rest⟩, i⟩ := x
  have hx := List.fst_mem_of_mem_zipIdx hx
  have hkeeps := hr child (mem_of_mem_withRest hx).1
  refine .ite (fun hcomment => ?_) fun _ => ?_
  · exact .pure (inRoom_appendComment_room ht (by simpa [isComment] using hcomment) (hb.further 3))
  · have hmeasured : sh.measured child + sh.gluedTrailing .declaration ctx.trailing child rest
        ≤ ((sh.visibleChildren id).map fun child => sh.measured child + 1).sum + ctx.trailing :=
      measured_add_gluedTrailing_le hx _ _
    have htarget (c : Nat) (hc : sh.partTarget? offsets column child = some c) :
        c ≤ column + sh.farthestOffset ∧ ctx.trailing ≤ 1 := by
      unfold partTarget? at hc
      split at hc
      · obtain ⟨offset, hoffset, rfl⟩ := Option.map_eq_some_iff.1 hc
        obtain ⟨o, ho, hget⟩ := Option.bind_eq_some_iff.1 hoffset
        obtain ⟨hmost, htrailing⟩ := hoffsets o ho
        exact ⟨Nat.add_le_add_left (hmost _ _ hget) column, htrailing⟩
      · contradiction
    have hright (c : Nat) (hc : sh.partTarget? offsets column child = some c) :
        c + sh.measured child + sh.gluedTrailing .declaration ctx.trailing child rest ≤ r := by
      have hc := htarget c hc
      omega
    refine .stopFor (targetFault?_eq_none hright (by omega) hspare hb) ?_
    refine hkeeps.appendHere hframe (suits_of_none rfl) hlow (show column + sh.indent ≤ r + 4 by omega) hhigh ?_
    refine LineBuffer.InRoom.further (?_ : LineBuffer.InRoom column (r + 1) n _) 3
    split
    · exact inRoom_moveToPart (fun c hc => Nat.le_of_add_right_le (Nat.le_of_add_right_le (hright c hc))) hb
    · exact hb.separate false

lemma succeeds_declaration {right : Nat} (ht : sh.tree.Ordered)
    (hr : ∀ child ∈ sh.visibleChildren id, sh.KeepsRoom I render child)
    (h : sh.HasRoom (sh.pieceRoom id) id ctx column right) (hkind : sh.tree.kind id = .declaration) :
    Succeeds I (sh.declaration render id ctx column) (·.New column right (sh.pieceRoom id)) := by
  have hid : id < sh.tree.size := Tree.lt_size_of_kind (by simp [hkind])
  have hbroken (offsets : Option AlignmentOffsets) (hoffsets : ∀ o, offsets = some o → ctx.offsets? = some o) :=
    succeeds_brokenDeclaration ht hid hr h fun o ho => h.offsets hkind o (hoffsets o ho)
  have hkept : ∀ o, (ctx.offsets?.filter (!·.isEmpty)) = some o → ctx.offsets? = some o :=
    fun o ho => (Option.filter_eq_some_iff.1 ho).1
  refine .ite (fun _ => ?_) fun _ => succeeds_onOneLineOr ht hr h (hbroken _ hkept)
  exact (hbroken _ hkept).bind fun b hb => .pure (hb.new h.bound)

lemma widens_startDeclaration {comma : Option Nat} {inner : Nat} (hframe : sh.Frame low high)
    (hr : ∀ c, comma = some c → sh.KeepsRoom I render c ∧ sh.tree.isLeafOf c .comma = true)
    (hindent : ctx.indent ≤ low) (hinner : inner ≤ low) :
    Widens I start low high (sh.rooms comma.toList) (startDeclaration render comma inner ctx) := by
  intro b r n hlow hhigh hb
  cases comma with
  | none => exact .pure (hb.newlineAt (by omega))
  | some comma =>
    obtain ⟨hkeeps, hleaf⟩ := hr comma rfl
    rw [rooms_toList_some] at hhigh ⊢
    exact (hkeeps.appendOnLine hframe (suits_of_isLeafOf hleaf) hlow (by omega) (by omega) hhigh hb).bind
      fun b hb => .pure (hb.padTo (by omega))

/-- A comma that is held back has its room until the next declaration. -/
lemma widens_appendDeclarations {declCtx : Context} {inner : Nat} {held : Option Nat} (hframe : sh.Frame low high)
    (hr : ∀ child ∈ children, sh.KeepsRoom I render child)
    (hheld : ∀ c, held = some c → sh.KeepsRoom I render c ∧ sh.tree.isLeafOf c .comma = true)
    (hsuits : ∀ child trailing, trailing ≤ 1 → sh.Suits child { declCtx with trailing := trailing })
    (hindent : ctx.indent ≤ low) (hinner : inner ≤ low) (hdecl : declCtx.indent ≤ low) :
    Widens I start low high (sh.rooms held.toList + sh.rooms children)
      (sh.appendDeclarations render declCtx ctx inner held children) := by
  induction children generalizing held with
  | nil => exact fun b r n _ _ hb => .pure (hb.mono (Nat.le_add_right _ _) (Nat.le_add_right _ _))
  | cons child rest ih =>
    intro b r n hlow hhigh hb
    have hchild := hr child (by simp)
    have ih (held : Option Nat)
        (hheld : ∀ c, held = some c → sh.KeepsRoom I render c ∧ sh.tree.isLeafOf c .comma = true) :
        Widens I start low high (sh.rooms held.toList + sh.rooms rest)
          (sh.appendDeclarations render declCtx ctx inner held rest) := ih (fun c hc => hr c (by simp [hc])) hheld
    rw [rooms_cons] at hhigh ⊢
    have hswap : sh.rooms held.toList + (sh.room child + sh.rooms rest)
        = sh.room child + (sh.rooms held.toList + sh.rooms rest) := Nat.add_left_comm _ _ _
    unfold appendDeclarations
    dsimp only
    refine .ite (fun hparen => ?_) fun _ => .ite (fun hcomma => .ite (fun _ => ?_) fun _ => ?_) fun _ =>
      .ite (fun hcomment => ?_) fun _ => ?_
    · rw [hswap] at hhigh ⊢
      exact Succeeds.bind (hchild.appendOnLine hframe (suits_of_isLeafOf hparen) hlow (by omega) (by omega)
        (by omega) hb) fun b hb => (ih _ hheld).after hlow hhigh hb
    · -- A comma that was held back already is dropped.
      refine (ih _ (fun c hc => Option.some.inj hc ▸ ⟨hchild, hcomma⟩) b r n hlow ?_ hb).mono fun b hb =>
        hb.mono ?_ ?_
      all_goals rw [rooms_toList_some]
      all_goals omega
    · rw [hswap] at hhigh ⊢
      exact Succeeds.bind (hchild.appendChild hframe (suits_of_isLeafOf hcomma) _ hlow (by omega) (by omega)
        (hb.further 3)) fun b hb => (ih _ hheld).after hlow hhigh hb
    · rw [hswap] at hhigh ⊢
      exact (ih _ hheld).after hlow hhigh
        (inRoom_appendComment_room hframe.ordered (by simpa [isComment] using hcomment) (hb.further 3))
    · refine (widens_startDeclaration hframe hheld hindent hinner b r n hlow (by omega) hb).bind fun b hb => ?_
      have hstart : low ≤ r + sh.rooms held.toList := by omega
      refine Succeeds.bind (hchild.appendHere hframe (hsuits child _ (by split <;> omega)) hstart ?_ (by omega)
        (hb.further 4)) fun b hb => ?_
      · exact hdecl.trans (by omega)
      · have hnever : ∀ c, (none : Option Nat) = some c →
            sh.KeepsRoom I render c ∧ sh.tree.isLeafOf c .comma = true := fun c hc => absurd hc (by simp)
        refine (ih _ hnever b _ _ (by omega) ?_ hb).mono fun b hb => hb.mono ?_ ?_
        all_goals rw [rooms_toList_none]
        all_goals omega

section Declarations

variable {right : Nat} (ht : sh.tree.Ordered)
  (hr : ∀ child ∈ sh.visibleChildren id, sh.KeepsRoom I render child)
  (h : sh.HasRoom (sh.pieceRoom id) id ctx column right)

include ht hr h

lemma succeeds_declarationList :
    Succeeds I (sh.declarationList render id ctx column) (·.New column right (sh.pieceRoom id)) := by
  obtain ⟨low, hframe, hcolumn, hindent, hright⟩ := h.frame ht
  have hbounds : Text.sizeBound ≤ Number.wordBound := by decide
  have hbound := hframe.bound
  have hown : sh.rooms (sh.visibleChildren id) ≤ sh.pieceRoom id := Nat.le_add_left _ _
  have hinner : ctx.indent + sh.indent ≤ low := by
    rw [reach] at hindent
    omega
  have hsplit := congrArg sh.rooms (List.prefix_iff_eq_append.1
    (opening_isPrefix (sh.tree.isLeafOf · .lParen) (sh.visibleChildren id)))
  rw [rooms_append] at hsplit
  refine succeeds_onOneLineOr ht hr h (.stopFor (alignmentFault?_eq_none ht (by omega) _) ?_)
  refine Succeeds.bind (widens_appendChildren hframe (fun c hc => ?_) (fun c hc => ?_) (by omega) _ _ low 0
    (Nat.le_refl _) (by omega) (.startingAt (by omega) hinner 0)) fun b hb => ?_
  · exact hr c (List.mem_of_mem_take (List.mem_of_mem_filter hc))
  · exact suits_of_isLeafOf (List.mem_filter.1 hc).2
  have hnever : ∀ c, (none : Option Nat) = some c →
      sh.KeepsRoom I render c ∧ sh.tree.isLeafOf c .comma = true := fun c hc => absurd hc (by simp)
  refine (widens_appendDeclarations hframe (fun c hc => hr c (List.mem_of_mem_drop hc)) hnever
    (fun _ _ htrailing => suits_declarationContext ht htrailing _) (by omega) hinner hinner b _ _ (by omega) ?_
    hb).mono fun b hb => hb.mono ?_ ?_
  all_goals rw [rooms_toList_none]
  all_goals omega

lemma succeeds_declareSection :
    Succeeds I (sh.declareSection render id column) (·.New column right (sh.pieceRoom id)) := by
  obtain ⟨low, hframe, hcolumn, -, hright⟩ := h.frame ht
  have hbounds : Text.sizeBound ≤ Number.wordBound := by decide
  have hbound := hframe.bound
  have hinner : column + sh.indent ≤ low := by
    rw [reach] at hcolumn
    omega
  unfold declareSection
  dsimp only
  refine .stopFor (alignmentFault?_eq_none ht (by omega) _) ?_
  refine Succeeds.bind ((Widens.foldlM (fun child => child) (List.map_id' _) fun child hchild b r n hlow hhigh hb =>
    ?_).run hcolumn hinner hright) fun b hb => .pure (hb.new h.bound)
  refine .ite (fun _ => ?_) fun _ => ?_
  · exact (hr child hchild).appendOnLine hframe (suits_declarationContext ht (Nat.zero_le 1) _) hlow
      (show column + sh.indent ≤ r + 4 by omega) (by omega) hhigh hb
  · exact (hr child hchild).appendChild hframe (suits_of_none rfl) _ hlow (show column ≤ r + 4 by omega) hhigh
      (hb.further 3)

end Declarations

end SqlLayout.Sheet
