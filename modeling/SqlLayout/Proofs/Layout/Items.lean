import Mathlib.Tactic.Common
import SqlLayout.Layout.List

/-!
# The items of a list

What holds of the children of a list holds of the nodes of its items, and an item's comma and comments
are a comma and comments.
-/

namespace SqlLayout

/-- The nodes of an item in the order in which they are laid out. -/
def ListItem.ids (item : ListItem) : List Nat :=
  item.element.toList ++ item.comma.toList ++ item.comments

namespace Sheet

variable {sh : Sheet} {P : Nat → Prop} {item : ListItem} {children : List Nat}

/-- An item of nodes with `P`: its comma is one, and so are its comments. -/
structure IsItem (sh : Sheet) (P : Nat → Prop) (item : ListItem) : Prop where
  element {e : Nat} : item.element = some e → P e
  comma {c : Nat} : item.comma = some c → P c ∧ sh.tree.isLeafOf c .comma = true
  comments : ∀ c ∈ item.comments, P c ∧ sh.tree.kind c = .comment

lemma isItem_empty : IsItem sh P {} :=
  ⟨nofun, nofun, nofun⟩

lemma IsItem.withElement (h : IsItem sh P item) {child : Nat} (hchild : P child) :
    IsItem sh P { item with element := some child } :=
  ⟨fun heq => Option.some.inj heq ▸ hchild, h.comma, h.comments⟩

lemma IsItem.withComment (h : IsItem sh P item) {child : Nat} (hchild : P child)
    (hcomment : sh.isComment child = true) :
    IsItem sh P { item with comments := item.comments ++ [child] } := by
  refine ⟨h.element, h.comma, fun c hc => ?_⟩
  rcases List.mem_append.1 hc with hc | hc
  · exact h.comments c hc
  · obtain rfl := List.mem_singleton.1 hc
    exact ⟨hchild, by simpa [isComment] using hcomment⟩

lemma isItem_itemsFrom (hr : ∀ child ∈ children, P child) (hitem : IsItem sh P item) :
    ∀ i ∈ sh.itemsFrom item children, IsItem sh P i := by
  induction children generalizing item with
  | nil =>
    unfold itemsFrom
    split
    · simp
    · simpa using hitem
  | cons child rest ih =>
    have hchild := hr child (by simp)
    have ih {item} := @ih item (fun c hc => hr c (by simp [hc]))
    unfold itemsFrom
    -- A child is a comment, a comma, the first element of the open item, or that of the next one.
    split_ifs with hcomment hcomma hfree
    · exact ih (hitem.withComment hchild hcomment)
    · refine List.forall_mem_cons.2 ⟨⟨hitem.element, fun h => ?_, hitem.comments⟩, ih isItem_empty⟩
      obtain rfl := Option.some.inj h
      exact ⟨hchild, hcomma⟩
    · exact ih (hitem.withElement hchild)
    · exact List.forall_mem_cons.2 ⟨hitem, ih (isItem_empty.withElement hchild)⟩

end Sheet
end SqlLayout
