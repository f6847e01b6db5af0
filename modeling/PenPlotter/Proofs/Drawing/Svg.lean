import PenPlotter.Drawing.Svg
import PenPlotter.Proofs.Decimal.Text
import PenPlotter.Proofs.Preview.Picture

/-! # The document of a picture

A tag is a name with attributes, and `Op.tag` is the tag that renders an operation.  All that is
written in tags is plain (`Tag.isPlain_tag`), so a line with a tag holds nothing but the tag.

A display list and a canvas are in step (`Shows`) as long as the body of the canvas renders what
the list holds.  Every operation keeps them in step (`Shows.apply`), a clearing by starting both
again.  So the document of a canvas is a line for each operation that a display list would hold
(`SvgCanvas.document_drawAll`). -/

namespace PenPlotter
namespace Drawing

open SvgCanvas Decimal

/-! ### Tags -/

/-- A name with attributes. -/
structure Tag where
  name : String
  attributes : List (String × String)
deriving Repr, DecidableEq, Inhabited

namespace Tag

/-- What stands between the brackets. -/
def inner (t : Tag) : String :=
  t.name ++ String.join (t.attributes.map fun (name, value) => " " ++ attr name value)

/-- The tag that begins an element. -/
def opening (t : Tag) : String := "<" ++ t.inner ++ ">"

/-- The tag of an element without content. -/
def alone (t : Tag) : String := "<" ++ t.inner ++ "/>"

end Tag

/-- The attributes of a stroke: the dash is among them if there is one. -/
def Stroke.attributes (s : Stroke Float) : List (String × String) :=
  [("stroke", s.color.text), ("stroke-width", fixedText 2 s.width),
    ("stroke-opacity", fixedText 2 s.opacity)] ++
  (s.dash.map fun (dash, gap) =>
    ("stroke-dasharray", fixedText 1 dash ++ " " ++ fixedText 1 gap)).toList

namespace Op

def stroke? {α : Type} : Op α → Option (Stroke α)
  | .clear _ => none
  | .line _ _ stroke => some stroke
  | .rect _ _ _ stroke => some stroke

/-- The tag that renders an operation on a canvas of the given size. -/
def tag (width height : Float) : Op Float → Tag
  | .clear background => ⟨"rect", [("x", "0"), ("y", "0"), ("width", numberText width),
      ("height", numberText height), ("fill", background.text)]⟩
  | .line start stop stroke => ⟨"line", [("x1", fixedText 2 start.x), ("y1", fixedText 2 start.y),
      ("x2", fixedText 2 stop.x), ("y2", fixedText 2 stop.y)] ++ stroke.attributes ++
      [("stroke-linecap", "round")]⟩
  | .rect origin w h stroke => ⟨"rect", [("x", fixedText 2 origin.x), ("y", fixedText 2 origin.y),
      ("width", fixedText 2 w), ("height", fixedText 2 h), ("fill", "none")] ++ stroke.attributes⟩

theorem dasharray_mem_tag_iff (width height : Float) (op : Op Float) :
    "stroke-dasharray" ∈ (op.tag width height).attributes.map (·.1) ↔
      ∃ stroke ∈ op.stroke?, stroke.isDashed = true := by
  have hstroke (s : Stroke Float) :
      "stroke-dasharray" ∈ s.attributes.map (·.1) ↔ s.isDashed = true := by
    cases h : s.dash <;> simp [Stroke.attributes, Stroke.isDashed, h]
  cases op with
  | clear background => simp [tag, stroke?]
  | line start stop s => simpa [tag, stroke?] using hstroke s
  | rect origin w h s => simpa [tag, stroke?] using hstroke s

end Op

/-- The tag that begins a document. -/
def Tag.svg (width height : Float) : Tag :=
  ⟨"svg", [("xmlns", "http://www.w3.org/2000/svg"), ("width", numberText width),
    ("height", numberText height),
    ("viewBox", "0 0 " ++ numberText width ++ " " ++ numberText height)]⟩

theorem header_eq (width height : Float) :
    header width height = (Tag.svg width height).opening ++ "\n" := by
  simp only [header, Tag.svg, Tag.opening, Tag.inner, List.map_cons, List.map_nil,
    String.join_cons, String.join_nil, String.append_assoc, String.append_empty,
    String.reduceAppend]
  simp only [← String.append_assoc, String.reduceAppend]

theorem join_attributes (s : Stroke Float) :
    String.join (s.attributes.map fun (name, value) => " " ++ attr name value) =
      " " ++ strokeAttrs s := by
  cases h : s.dash <;>
    simp [Stroke.attributes, strokeAttrs, h, String.join_cons, String.append_assoc]

/-- Each operation is one tag on its line. -/
theorem element_eq (width height : Float) (op : Op Float) :
    element width height op = (op.tag width height).alone ++ "\n" := by
  unfold element
  split <;>
  · simp only [Op.tag, Tag.alone, Tag.inner, List.map_append, List.map_cons, List.map_nil,
      String.join_append, String.join_cons, String.join_nil, join_attributes, String.append_assoc,
      String.append_empty, String.reduceAppend]
    simp only [← String.append_assoc, String.reduceAppend]

/-! ### What is written in tags -/

/-- The characters of names and values: letters, digits, and a few others that mean nothing. -/
def isPlain (c : Char) : Bool := c.isAlphanum || ['-', '.', '#', ' ', '/', ':'].contains c

def IsPlain (s : String) : Prop := ∀ c ∈ s.toList, isPlain c = true

instance (s : String) : Decidable (IsPlain s) :=
  decidable_of_iff (s.toList.all isPlain = true) List.all_eq_true

section plain

variable {s t : String}

theorem IsPlain.append (hs : IsPlain s) (ht : IsPlain t) : IsPlain (s ++ t) := by
  unfold IsPlain
  rw [String.toList_append, List.forall_mem_append]
  exact ⟨hs, ht⟩

theorem isPlain_ofList {cs : List Char} (h : ∀ c ∈ cs, isPlain c = true) :
    IsPlain (String.ofList cs) := by
  unfold IsPlain
  rwa [String.toList_ofList]

theorem isPlain_space : IsPlain " " := by decide

theorem isPlain_point : IsPlain "." := by decide

theorem isPlain_of_isDigit {c : Char} (h : c.isDigit) : isPlain c = true := by
  simp [isPlain, Char.isAlphanum, h]

theorem isPlain_nonFiniteText (x : Float) : IsPlain (nonFiniteText x) := by
  unfold nonFiniteText
  split_ifs <;> decide

theorem isPlain_numberText (x : Float) : IsPlain (numberText x) := by
  by_cases hx : x.isFinite = true
  · obtain ⟨whole, fraction, hwritten, htext⟩ := exists_numberText hx
    have hsign : ∀ c ∈ signChars (Shortest.ofFloat .up x).negative, isPlain c = true := by
      cases (Shortest.ofFloat .up x).negative with
      | false => exact nofun
      | true => exact List.forall_mem_singleton.mpr rfl
    have hfraction : ∀ c ∈ if fraction = [] then [] else '.' :: fraction, isPlain c = true := by
      split
      · simp
      · exact List.forall_mem_cons.mpr ⟨rfl, fun c hc => isPlain_of_isDigit (hwritten.digits c hc)⟩
    unfold IsPlain
    rw [htext, List.forall_mem_append, List.forall_mem_append]
    exact ⟨hsign, fun c hc => isPlain_of_isDigit (hwritten.isWhole.digits c hc), hfraction⟩
  · rw [numberText, if_neg hx]
    exact isPlain_nonFiniteText x

theorem isPlain_fixedText (places : ℕ) (x : Float) : IsPlain (fixedText places x) := by
  have hpointed {sign : String} (hsign : IsPlain sign) {ds : List Char}
      (hds : ∀ c ∈ ds, isPlain c = true) (n : ℕ) :
      IsPlain (if places = 0 then sign ++ String.ofList ds
        else sign ++ String.ofList (ds.take n) ++ "." ++ String.ofList (ds.drop n)) := by
    split
    · exact hsign.append (isPlain_ofList hds)
    · exact ((hsign.append (isPlain_ofList fun c hc => hds c (List.mem_of_mem_take hc))).append
        isPlain_point).append (isPlain_ofList fun c hc => hds c (List.mem_of_mem_drop hc))
  unfold fixedText
  split
  case isFalse => exact isPlain_nonFiniteText x
  case isTrue =>
    refine hpointed ?_ ?_ _
    · split <;> decide
    · rw [List.forall_mem_append]
      exact ⟨fun c hc => List.eq_of_mem_replicate hc ▸ rfl,
        fun c hc => isPlain_of_isDigit (isDigit_toDigits _ c hc)⟩

theorem isPlain_text (c : Color) : IsPlain c.text := by
  have hdigit : ∀ n < 16, isPlain (Nat.digitChar n) = true := by decide
  have hpair (b : UInt8) : IsPlain (hexPair b) := by
    have hb : b.toNat < 256 := b.toNat_lt
    unfold IsPlain hexPair
    rw [String.toList_ofList, List.forall_mem_cons, List.forall_mem_singleton]
    exact ⟨hdigit _ (by omega), hdigit _ (by omega)⟩
  exact (((by decide : IsPlain "#").append (hpair _)).append (hpair _)).append (hpair _)

end plain

/-- All that is written in a tag is plain. -/
structure Tag.IsPlain (t : Tag) : Prop where
  name : Drawing.IsPlain t.name
  attributes : ∀ a ∈ t.attributes, Drawing.IsPlain a.1 ∧ Drawing.IsPlain a.2

theorem Stroke.isPlain_attributes (s : Stroke Float) :
    ∀ a ∈ s.attributes, IsPlain a.1 ∧ IsPlain a.2 := by
  unfold attributes
  rw [List.forall_mem_append]
  constructor
  · simp only [List.forall_mem_cons]
    exact ⟨⟨by decide, isPlain_text _⟩, ⟨by decide, isPlain_fixedText _ _⟩,
      ⟨by decide, isPlain_fixedText _ _⟩, nofun⟩
  · intro a ha
    obtain ⟨⟨dash, gap⟩, -, rfl⟩ := Option.map_eq_some_iff.mp (Option.mem_toList.mp ha)
    exact ⟨(by decide : IsPlain "stroke-dasharray"),
      ((isPlain_fixedText _ _).append isPlain_space).append (isPlain_fixedText _ _)⟩

theorem Tag.isPlain_tag (width height : Float) (op : Op Float) : (op.tag width height).IsPlain := by
  cases op with
  | clear background =>
      refine ⟨(by decide : Drawing.IsPlain "rect"), ?_⟩
      simp only [Op.tag, List.forall_mem_cons]
      exact ⟨⟨by decide, by decide⟩, ⟨by decide, by decide⟩, ⟨by decide, isPlain_numberText _⟩,
        ⟨by decide, isPlain_numberText _⟩, ⟨by decide, isPlain_text _⟩, nofun⟩
  | line start stop s =>
      refine ⟨(by decide : Drawing.IsPlain "line"), ?_⟩
      simp only [Op.tag, List.forall_mem_append, List.forall_mem_cons]
      exact ⟨⟨⟨⟨by decide, isPlain_fixedText _ _⟩, ⟨by decide, isPlain_fixedText _ _⟩,
        ⟨by decide, isPlain_fixedText _ _⟩, ⟨by decide, isPlain_fixedText _ _⟩, nofun⟩,
        s.isPlain_attributes⟩, ⟨by decide, by decide⟩, nofun⟩
  | rect origin w h s =>
      refine ⟨(by decide : Drawing.IsPlain "rect"), ?_⟩
      simp only [Op.tag, List.forall_mem_append, List.forall_mem_cons]
      exact ⟨⟨⟨by decide, isPlain_fixedText _ _⟩, ⟨by decide, isPlain_fixedText _ _⟩,
        ⟨by decide, isPlain_fixedText _ _⟩, ⟨by decide, isPlain_fixedText _ _⟩,
        ⟨by decide, by decide⟩, nofun⟩, s.isPlain_attributes⟩

theorem Tag.isPlain_svg (width height : Float) : (Tag.svg width height).IsPlain := by
  refine ⟨(by decide : Drawing.IsPlain "svg"), ?_⟩
  simp only [svg, List.forall_mem_cons]
  exact ⟨⟨by decide, by decide⟩, ⟨by decide, isPlain_numberText _⟩,
    ⟨by decide, isPlain_numberText _⟩, ⟨by decide, (((by decide : Drawing.IsPlain "0 0 ").append
      (isPlain_numberText _)).append isPlain_space).append (isPlain_numberText _)⟩, nofun⟩

/-- A line that is a tag: it begins with a bracket, and none follows before it ends. -/
def IsTag (line : String) : Prop := ∃ rest, line.toList = '<' :: rest ∧ '<' ∉ rest ∧ '\n' ∉ rest

namespace Tag

variable {t : Tag} {c : Char}

theorem IsPlain.mem_inner (ht : t.IsPlain) (hc : c ∈ t.inner.toList) :
    isPlain c = true ∨ c = '=' ∨ c = '"' := by
  rw [inner, String.toList_append, String.toList_join, List.mem_append, List.mem_flatMap] at hc
  obtain hname | ⟨text, htext, hc⟩ := hc
  · exact .inl (ht.name c hname)
  · obtain ⟨⟨name, value⟩, hmem, rfl⟩ := List.mem_map.mp htext
    obtain ⟨hname, hvalue⟩ := ht.attributes _ hmem
    simp only [attr, String.toList_append, List.mem_append] at hc
    obtain hspace | ((hc | hmark) | hc) | hquote := hc
    · exact .inl (isPlain_space c hspace)
    · exact .inl (hname c hc)
    · exact .inr (by simpa using hmark)
    · exact .inl (hvalue c hc)
    · exact .inr (.inr (by simpa using hquote))

theorem IsPlain.notMem_inner (ht : t.IsPlain) : '<' ∉ t.inner.toList ∧ '\n' ∉ t.inner.toList := by
  constructor <;>
  · intro hc
    rcases ht.mem_inner hc with h | h | h <;> exact absurd h (by decide)

theorem IsPlain.isTag_opening (ht : t.IsPlain) : IsTag t.opening := by
  refine ⟨t.inner.toList ++ ['>'], by simp [opening], ?_, ?_⟩
  · simpa using ht.notMem_inner.1
  · simpa using ht.notMem_inner.2

theorem IsPlain.isTag_alone (ht : t.IsPlain) : IsTag t.alone := by
  refine ⟨t.inner.toList ++ ['/', '>'], by simp [alone], ?_, ?_⟩
  · simpa using ht.notMem_inner.1
  · simpa using ht.notMem_inner.2

end Tag

theorem isTag_closing : IsTag "</svg>" := ⟨"/svg>".toList, by decide, by decide, by decide⟩

/-! ### Two surfaces -/

/-- The canvas shows what the list holds. -/
def Shows (c : SvgCanvas) (d : DisplayList Float) : Prop :=
  c.body = String.join (d.ops.map (element c.width c.height))

section surfaces

variable {c : SvgCanvas} {d : DisplayList Float}

theorem Shows.apply (h : Shows c d) (op : Op Float) :
    Shows (Surface.apply c op) (Surface.apply d op) := by
  have hadd (op : Op Float) : c.body ++ element c.width c.height op =
      String.join ((d.ops ++ [op]).map (element c.width c.height)) := by
    rw [h, List.map_append, String.join_append, List.map_singleton, String.join_cons,
      String.join_nil, String.append_empty]
  cases op with
  | clear background => exact (String.join_cons.trans String.append_empty).symm
  | line start stop stroke => exact hadd (.line start stop stroke)
  | rect origin w h stroke => exact hadd (.rect origin w h stroke)

theorem Shows.drawAll (h : Shows c d) (ops : List (Op Float)) :
    Shows (Drawing.drawAll c ops) (Drawing.drawAll d ops) := by
  induction ops generalizing c d with
  | nil => exact h
  | cons op ops ih => exact ih (h.apply op)

theorem size_drawAll (c : SvgCanvas) (ops : List (Op Float)) :
    (drawAll c ops).width = c.width ∧ (drawAll c ops).height = c.height := by
  induction ops generalizing c with
  | nil => exact ⟨rfl, rfl⟩
  | cons op ops ih =>
      have hsize : (Surface.apply c op).width = c.width ∧
          (Surface.apply c op).height = c.height := by
        cases op <;> exact ⟨rfl, rfl⟩
      exact ⟨(ih _).1.trans hsize.1, (ih _).2.trans hsize.2⟩

theorem drawAll_clear (c : SvgCanvas) (before : List (Op Float)) (background : Color)
    (after : List (Op Float)) : drawAll c (before ++ .clear background :: after) =
      drawAll (SvgCanvas.new c.width c.height) (.clear background :: after) := by
  have hcleared : Surface.apply (drawAll c before) (.clear background : Op Float) =
      Surface.apply (SvgCanvas.new c.width c.height) (.clear background : Op Float) := by
    obtain ⟨hwidth, hheight⟩ := size_drawAll c before
    show SvgCanvas.mk _ _ (element (drawAll c before).width (drawAll c before).height _) = _
    rw [hwidth, hheight]
    rfl
  show List.foldl _ _ _ = List.foldl _ _ _
  rw [List.foldl_append, List.foldl_cons, List.foldl_cons, ← hcleared]
  rfl

theorem drawAll_clear_list (d : DisplayList Float) (before : List (Op Float)) (background : Color)
    (after : List (Op Float)) : drawAll d (before ++ .clear background :: after) =
      drawAll (DisplayList.mk [.clear background]) after := by
  show List.foldl _ _ _ = List.foldl _ _ _
  rw [List.foldl_append, List.foldl_cons]
  rfl

end surfaces

/-- **A canvas shows what a display list holds.**  Whatever is drawn on both, the document is a line
for its size, a line for each operation that the list holds, in order, and a last line; each line is
one tag, with the attributes that render the operation, and a dash is among them exactly if the
stroke has one.  The list holds all operations if none is a clearing, and what is drawn before a
clearing leaves nothing on either surface. -/
theorem SvgCanvas.document_drawAll (width height : Float) (ops : List (Op Float)) :
    let list : DisplayList Float := drawAll .empty ops
    let canvas := drawAll (SvgCanvas.new width height) ops
    let lines := (Tag.svg width height).opening ::
      list.ops.map (fun op => (op.tag width height).alone) ++ ["</svg>"]
    canvas.document = String.join (lines.map (· ++ "\n")) ∧ (∀ line ∈ lines, IsTag line) ∧
    (∀ op ∈ list.ops, "stroke-dasharray" ∈ (op.tag width height).attributes.map (·.1) ↔
      ∃ stroke ∈ op.stroke?, stroke.isDashed = true) ∧
    ((∀ op ∈ ops, ∀ background, op ≠ .clear background) → list.ops = ops) ∧
    ∀ before background after, ops = before ++ .clear background :: after →
      list = drawAll .empty (.clear background :: after) ∧
      canvas = drawAll (SvgCanvas.new width height) (.clear background :: after) ∧
      ((∀ op ∈ after, ∀ background, op ≠ .clear background) →
        list.ops = .clear background :: after) := by
  intro list canvas lines
  refine ⟨?_, ?_, fun op _ => op.dasharray_mem_tag_iff width height, ?_, ?_⟩
  · have hshows : Shows canvas list := Shows.drawAll (c := .new width height) (d := .empty) rfl ops
    obtain ⟨hwidth, hheight⟩ : canvas.width = width ∧ canvas.height = height :=
      size_drawAll (.new width height) ops
    have helements : element width height = fun op => (op.tag width height).alone ++ "\n" :=
      funext (element_eq width height)
    rw [document, hshows, hwidth, hheight, header_eq, helements]
    simp only [lines, List.map_append, List.map_cons, List.map_map, List.map_nil,
      String.join_append, String.join_cons, String.join_nil, Function.comp_def,
      String.append_empty, String.reduceAppend]
  · rw [List.forall_mem_append, List.forall_mem_cons, List.forall_mem_singleton,
      List.forall_mem_map]
    exact ⟨⟨(Tag.isPlain_svg width height).isTag_opening,
      fun op _ => (Tag.isPlain_tag width height op).isTag_alone⟩, isTag_closing⟩
  · intro h
    exact congrArg DisplayList.ops (drawAll_of_not_clear h .empty)
  · rintro before background after rfl
    refine ⟨drawAll_clear_list _ _ _ _, drawAll_clear _ _ _ _, fun hafter => ?_⟩
    show (drawAll DisplayList.empty _).ops = _
    rw [drawAll_clear_list, drawAll_of_not_clear hafter]
    rfl

example :
    let ink : Color := ⟨0x1f, 0x29, 0x37⟩
    (drawAll (SvgCanvas.new 100 50) [.rect ⟨0, 0⟩ 7 7 ⟨ink, 2, 1, none⟩, .clear ⟨255, 255, 255⟩,
      .line ⟨1, 2⟩ ⟨3, 4⟩ ⟨ink, 1, 0.4, some (4, 4)⟩]).body =
      "<rect x=\"0\" y=\"0\" width=\"100\" height=\"50\" fill=\"#ffffff\"/>\n" ++
      "<line x1=\"1.00\" y1=\"2.00\" x2=\"3.00\" y2=\"4.00\" stroke=\"#1f2937\" " ++
      "stroke-width=\"1.00\" stroke-opacity=\"0.40\" stroke-dasharray=\"4.0 4.0\" " ++
      "stroke-linecap=\"round\"/>\n" := by
  decide +kernel

end Drawing
end PenPlotter
