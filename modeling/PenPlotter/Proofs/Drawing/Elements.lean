import PenPlotter.Proofs.Drawing.Svg

/-! # The line elements of a document

`lineElements` counts in the plain text of a document how often a line element begins, wherever that
is.  An element begins with a bracket, and the only brackets of this kind in a document are those at
the start of its lines (`IsTag`).  So each line of a document is looked at once
(`IsTag.lineStarts_append`), and a document has a line element for each line that a display list
would hold (`lineElements_drawAll`). -/

namespace PenPlotter
namespace Drawing

open SvgCanvas

/-- How often a line element begins in a text. -/
def lineStarts (cs : List Char) : ℕ := cs.tails.countP ("<line ".toList.isPrefixOf ·)

def lineElements (document : String) : ℕ := lineStarts document.toList

section counting

variable {xs : List Char} {line : String}

theorem lineStarts_cons (c : Char) (cs : List Char) :
    lineStarts (c :: cs) = ("<line ".toList.isPrefixOf (c :: cs)).toNat + lineStarts cs := by
  unfold lineStarts
  rw [List.tails_cons, List.countP_cons, Nat.add_comm]
  cases "<line ".toList.isPrefixOf (c :: cs) <;> rfl

theorem lineStarts_append (h : '<' ∉ xs) (cs : List Char) :
    lineStarts (xs ++ cs) = lineStarts cs := by
  induction xs with
  | nil => rfl
  | cons c xs ih =>
      rw [List.mem_cons, not_or] at h
      obtain ⟨hc, hxs⟩ := h
      have hbegins : "<line ".toList.isPrefixOf (c :: (xs ++ cs)) = false := by
        simp [List.isPrefixOf, hc]
      rw [List.cons_append, lineStarts_cons, hbegins, ih hxs, Bool.toNat_false, Nat.zero_add]

/-- At most one element begins on a line with a tag: at its start. -/
theorem IsTag.lineStarts_append (h : IsTag line) (cs : List Char) :
    lineStarts (line.toList ++ '\n' :: cs) =
      ("<line ".toList.isPrefixOf (line.toList ++ '\n' :: cs)).toNat + lineStarts cs := by
  obtain ⟨rest, hline, hbracket, _⟩ := h
  have hrest : '<' ∉ rest ++ ['\n'] := by simpa using hbracket
  have hpassed : lineStarts (rest ++ '\n' :: cs) = lineStarts cs := by
    rw [List.append_cons, Drawing.lineStarts_append hrest]
  rw [hline, List.cons_append, lineStarts_cons, hpassed]

end counting

section documents

variable (width height : Float)

theorem lineStarts_header (cs : List Char) :
    lineStarts ((header width height).toList ++ cs) = lineStarts cs := by
  have htag : IsTag (Tag.svg width height).opening := (Tag.isPlain_svg width height).isTag_opening
  rw [header_eq, String.toList_append, List.append_assoc]
  refine (htag.lineStarts_append cs).trans ?_
  simp [Tag.opening, Tag.inner, Tag.svg, List.isPrefixOf]

theorem lineStarts_element (op : Op Float) (cs : List Char) :
    lineStarts ((element width height op).toList ++ cs) = op.isLine.toNat + lineStarts cs := by
  have htag : IsTag (op.tag width height).alone := (Tag.isPlain_tag width height op).isTag_alone
  rw [element_eq, String.toList_append, List.append_assoc]
  refine (htag.lineStarts_append cs).trans ?_
  congr 2
  cases op <;> simp [Tag.alone, Tag.inner, Op.tag, Op.isLine, List.isPrefixOf, String.join_cons]

theorem lineStarts_elements (ops : List (Op Float)) (cs : List Char) :
    lineStarts ((String.join (ops.map (element width height))).toList ++ cs) =
      ops.countP Op.isLine + lineStarts cs := by
  induction ops with
  | nil => simp
  | cons op ops ih =>
      rw [List.map_cons, String.join_cons, String.toList_append, List.append_assoc,
        lineStarts_element, ih, List.countP_cons]
      cases op.isLine <;> simp [Nat.add_assoc, Nat.add_comm 1]

/-- **A document has a line element for each line** that a display list holds. -/
theorem lineElements_drawAll (ops : List (Op Float)) :
    lineElements (drawAll (SvgCanvas.new width height) ops).document =
      (drawAll (.empty : DisplayList Float) ops).lines.length := by
  have hshows : Shows (drawAll (SvgCanvas.new width height) ops) (drawAll .empty ops) :=
    Shows.drawAll (c := .new width height) (d := .empty) rfl ops
  unfold lineElements document DisplayList.lines
  rw [hshows, String.toList_append, String.toList_append, List.append_assoc, lineStarts_header,
    lineStarts_elements, List.countP_eq_length_filter]
  rfl

end documents

end Drawing
end PenPlotter
