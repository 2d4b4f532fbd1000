import ReactiveForm.Proofs.Document.Markup
import ReactiveForm.Proofs.Fixture.Building
import ReactiveForm.Proofs.Text.Trimming

/-!
# `ReactiveForm.Proofs.Fixture.Legibility` — what a document is written as tells the document

A document that is built from a description with names for its tags and attributes is written so that it
can be read back, although nothing of its layout is marked as layout. The lines of a node begin with its
start tag; whether children follow, or the end tag at once, is told by the character after the next
angle bracket, and no text can bring an angle bracket of its own.

## Contents
- `NodeSpec.nodes` and `Fixture.hasMarkupNames`, the descriptions that are meant.
- `NodeSpec.legible_element`, that their elements have start tags that can be read back.
- `Document.Renders`, a description that is written in full at a node, and what it is written as.
- `Document.node_unique` and `Document.siblings_unique`, the step from children to their parent and from
  nodes to siblings, and `Document.html_unique`.
- `Fixture.html_faithful`.
-/

namespace ReactiveForm

/-! ## Names -/

namespace NodeSpec

mutual

/-- A description and those below it, in document order. -/
def nodes : NodeSpec → List NodeSpec
  | mk tag attributes text children => mk tag attributes text children :: nodesAll children

/-- The descriptions of a list and those below them, in document order. -/
def nodesAll : List NodeSpec → List NodeSpec
  | [] => []
  | spec :: rest => spec.nodes ++ nodesAll rest

end

/-- Whether the tag and the attributes of one description have names that markup can hold. -/
def hasMarkupNames (spec : NodeSpec) : Bool :=
  Text.isMarkupName spec.tag && spec.attributes.keys.all Text.isMarkupName

theorem nodes_eq (spec : NodeSpec) : spec.nodes = spec :: nodesAll spec.children := by
  cases spec
  rw [nodes]
  rfl

theorem self_mem_nodes (spec : NodeSpec) : spec ∈ spec.nodes := by
  rw [nodes_eq]
  exact List.mem_cons_self

end NodeSpec

/-- Whether all tags and attributes of a description have names that markup can hold. -/
def Fixture.hasMarkupNames (f : Fixture) : Bool := f.root.nodes.all NodeSpec.hasMarkupNames

/-! ## Elements -/

namespace Text

/-- The lower case form of a character that names can hold is another. -/
theorem isMarkupChar_toLower {c : Char} (h : isMarkupChar c = true) : isMarkupChar c.toLower = true := by
  have hletters : ∀ k : Fin 26, isMarkupChar (Char.ofNat (97 + k)) = true := by decide
  unfold Char.toLower
  split
  · next hupper =>
    obtain ⟨hA, hZ⟩ := hupper
    have hA : 65 ≤ c.val.toNat := UInt32.le_iff_toNat_le.mp hA
    have hZ : c.val.toNat ≤ 90 := UInt32.le_iff_toNat_le.mp hZ
    have hlower : (c.val + ('a'.val - 'A'.val)).toNat = 97 + (c.val.toNat - 65) := by
      rw [UInt32.toNat_add]
      show (c.val.toNat + 32) % 2 ^ 32 = _
      omega
    rw [← Char.ofNat_toNat ⟨c.val + ('a'.val - 'A'.val), _⟩]
    show isMarkupChar (Char.ofNat (c.val + ('a'.val - 'A'.val)).toNat) = true
    rw [hlower]
    exact hletters ⟨c.val.toNat - 65, by omega⟩
  · exact h

end Text

namespace Element

variable {e : Element}

theorem legible_ofTag {tag : String} (h : Text.isMarkupName (tag.map Char.toLower) = true) :
    (ofTag tag).Legible :=
  ⟨h, fun _ hname => absurd hname List.not_mem_nil, rfl, fun _ hc => absurd hc List.not_mem_nil⟩

theorem Legible.withAttribute (h : e.Legible) {name : String} (hname : Text.isMarkupName name = true)
    (value : String) : (e.withAttribute name value).Legible := by
  unfold Element.withAttribute
  split
  · refine ⟨h.tag, h.names, h.no_class, fun c hc hspace => ?_⟩
    obtain ⟨w, hw, rfl⟩ := List.mem_map.mp hc
    rw [String.toList_ofList] at hspace
    exact absurd ((Text.words_spec hw).2 _ hspace) (by decide)
  · next hclass =>
    refine ⟨h.tag, fun other hother => ?_, ?_, h.classes⟩
    · obtain ⟨entry, hentry, rfl⟩ := List.mem_map.mp hother
      rcases StringMap.mem_insertEntry hentry with rfl | hentry
      · exact hname
      · exact h.names _ (List.mem_map.mpr ⟨entry, hentry, rfl⟩)
    · show (e.attributes.insert name value).get? "class" = none
      rw [StringMap.get?_insert, if_neg (Ne.symm hclass)]
      exact h.no_class

theorem Legible.withText (h : e.Legible) (text : String) : (e.withText text).Legible :=
  ⟨h.tag, h.names, h.no_class, h.classes⟩

end Element

/-- **What is described with names for its tag and attributes can be read back.** -/
theorem NodeSpec.legible_element {spec : NodeSpec} (h : spec.hasMarkupNames = true) :
    spec.element.Legible := by
  obtain ⟨htag, hnames⟩ := Bool.and_eq_true_iff.mp h
  obtain ⟨hne, hchars⟩ := Text.isMarkupName_iff.mp htag
  have hblank : ∀ c ∈ spec.tag.toList, Text.isBlank c = false := by
    intro c hc
    have := hchars c hc
    simp only [Text.isMarkupChar, Bool.and_eq_true, Bool.not_eq_true'] at this
    simp [this]
  have hlower : Text.isMarkupName ((Text.trim spec.tag).map Char.toLower) = true := by
    rw [Text.isMarkupName_iff, String.toList_map, Text.toList_trim, Text.trimChars_eq_self hblank]
    refine ⟨fun hnil => hne (List.map_eq_nil_iff.mp hnil), fun c hc => ?_⟩
    obtain ⟨d, hd, rfl⟩ := List.mem_map.mp hc
    exact Text.isMarkupChar_toLower (hchars d hd)
  have hfull : ∀ (entries : List (String × String)) (e : Element), e.Legible →
      (∀ entry ∈ entries, Text.isMarkupName entry.1 = true) →
      (entries.foldl (fun e entry => e.withAttribute entry.1 entry.2) e).Legible := by
    intro entries
    induction entries with
    | nil => exact fun e he _ => he
    | cons entry entries ih =>
      intro e he hentries
      exact ih _ (he.withAttribute (hentries _ List.mem_cons_self) _)
        fun a ha => hentries a (List.mem_cons_of_mem _ ha)
  have hattributes := hfull spec.attributes.entries _ (Element.legible_ofTag hlower) fun entry hentry =>
    List.all_eq_true.mp hnames _ (List.mem_map.mpr ⟨entry, hentry, rfl⟩)
  unfold element
  split
  · exact hattributes.withText _
  · exact hattributes

/-! ## Lines -/

namespace Document

/-- The line of a text that stands before children. -/
def textLine (depth : Nat) : Option String → String
  | some text => indent depth ++ escapeHtml text ++ "\n"
  | none => ""

/-- A text that stands before children is known from its line, and so is that there is one. -/
theorem textLine_injective {depth : Nat} {text text' : Option String}
    (h : (textLine depth text).toList = (textLine depth text').toList) : text = text' := by
  cases text with
  | none =>
    cases text' with
    | none => rfl
    | some text' => simp [textLine] at h
  | some text =>
    cases text' with
    | none => simp [textLine] at h
    | some text' =>
      simp only [textLine, String.toList_append] at h
      have hescaped := List.append_cancel_left (List.append_cancel_right h)
      rw [escapeHtml_injective (String.toList_inj.mp hescaped)]

/-- No angle bracket stands in the layout. -/
theorem ne_angle_of_mem_indent {depth : Nat} {x : Char} (h : x ∈ (indent depth).toList) :
    (x != '<') = true := by
  rw [indent, String.toList_ofList] at h
  rw [List.eq_of_mem_replicate h]
  decide

theorem ne_angle_of_mem_textLine {depth : Nat} {text : Option String} {x : Char}
    (h : x ∈ (textLine depth text).toList) : (x != '<') = true := by
  cases text with
  | none => cases h
  | some text =>
    simp only [textLine, String.toList_append, List.mem_append] at h
    rcases h with (h | h) | h
    · exact ne_angle_of_mem_indent h
    · exact bne_iff_ne.mpr (mem_escapeHtml h).2.1
    · rw [List.mem_singleton.mp h]
      decide

/-- A description that is written in full at a node: the node has been built from it, its names are such
that markup can hold them, and no branch below is deeper than the levels that are left. -/
structure Renders (d : Document) (levels : Nat) (n : NodeId) (spec : NodeSpec) : Prop where
  describes : d.Describes n spec
  names : ∀ s ∈ spec.nodes, s.hasMarkupNames = true
  levels : d.tree.size ≤ levels + n.index

variable {d d' : Document} {levels levels' depth : Nat} {n n' : NodeId} {spec spec' : NodeSpec}

namespace Renders

theorem legible (h : d.Renders levels n spec) : spec.element.Legible :=
  NodeSpec.legible_element (h.names _ spec.self_mem_nodes)

/-- There is a level left for a node that exists. -/
theorem exists_level (h : d.Renders levels n spec) : ∃ level, levels = level + 1 := by
  have hn := lt_size_of_element? h.describes.element
  have hlevels := h.levels
  exact ⟨levels - 1, by omega⟩

theorem all {nodes : List NodeId} {specs : List NodeSpec} (h : List.Forall₂ d.Describes nodes specs)
    (hnames : ∀ s ∈ NodeSpec.nodesAll specs, s.hasMarkupNames = true)
    (hlevels : ∀ m ∈ nodes, d.tree.size ≤ levels + m.index) :
    List.Forall₂ (d.Renders levels) nodes specs := by
  induction h with
  | nil => exact .nil
  | cons hhere _ ih =>
    rw [NodeSpec.nodesAll] at hnames
    refine .cons ⟨hhere, fun s hs => hnames s (List.mem_append_left _ hs), hlevels _ List.mem_cons_self⟩ ?_
    exact ih (fun s hs => hnames s (List.mem_append_right _ hs))
      fun m hm => hlevels m (List.mem_cons_of_mem _ hm)

/-- The children are written in full with one level less. -/
theorem children (h : d.Renders (levels + 1) n spec) :
    List.Forall₂ (d.Renders levels) (d.tree.children n) spec.children := by
  refine all h.describes.children (fun s hs => h.names s ?_) fun m hm => ?_
  · rw [NodeSpec.nodes_eq]
    exact List.mem_cons_of_mem _ hs
  · have hlt := Tree.lt_of_mem_children hm
    have hlevels := h.levels
    omega

/-- What a node is written as: its start tag, then its text and its end tag, or else the lines between
them. -/
theorem toList_htmlFrom (h : d.Renders (levels + 1) n spec) :
    (d.htmlFrom (levels + 1) depth n).toList =
      (indent depth).toList ++ (spec.element.startTag.toList ++
        if spec.children = [] then
          (escapeHtml (spec.element.text.getD "")).toList ++
            '<' :: '/' :: (spec.element.tag.toList ++ ['>', '\n'])
        else
          '\n' :: ((textLine (depth + 1) spec.element.text).toList ++
            ((d.tree.children n).flatMap (fun m => (d.htmlFrom levels (depth + 1) m).toList) ++
              ((indent depth).toList ++ '<' :: '/' :: (spec.element.tag.toList ++ ['>', '\n']))))) := by
  -- the document looks at the children of the node, the statement at those of the description
  have hempty : (d.tree.children n).isEmpty = true ↔ spec.children = [] := by
    rw [List.isEmpty_iff, ← List.length_eq_zero_iff, h.describes.children.length_eq,
      List.length_eq_zero_iff]
  have hescape : escapeHtml "" = "" := rfl
  rw [htmlFrom, h.describes.element]
  by_cases hleaf : spec.children = []
  · cases ht : spec.element.text <;>
      simp [hempty.mpr hleaf, hleaf, ht, hescape, Element.endTag, List.append_assoc]
  · have hnonempty : (d.tree.children n).isEmpty = false := eq_false_of_ne_true fun he => hleaf (hempty.mp he)
    cases ht : spec.element.text <;>
      simp [hnonempty, hleaf, ht, textLine, Element.endTag, List.append_assoc, List.flatMap_def,
        Function.comp_def]

/-- The lines of a node begin with an angle bracket and a name. -/
theorem exists_toList_htmlFrom (h : d.Renders levels n spec) (depth : Nat) :
    ∃ c rest, Text.isMarkupChar c = true ∧
      (d.htmlFrom levels depth n).toList = (indent depth).toList ++ '<' :: c :: rest := by
  obtain ⟨level, rfl⟩ := h.exists_level
  obtain ⟨hne, hchars⟩ := Text.isMarkupName_iff.mp h.legible.tag
  obtain ⟨c, cs, htag⟩ := List.exists_cons_of_ne_nil hne
  have hhtml : (d.htmlFrom (level + 1) depth n).toList = _ := h.toList_htmlFrom
  rw [Element.toList_startTag, htag] at hhtml
  exact ⟨c, _, hchars c (htag ▸ List.mem_cons_self), hhtml⟩

end Renders

/-! ## Reading back -/

/-- What two descriptions have in common whose lines are the same: all that a start tag shows, and the
text, unless the one has no text and the other an empty one, and neither has children. -/
def Agrees (s s' : NodeSpec) : Prop :=
  Element.SameTag s.element s'.element ∧
    (s.element.text = s'.element.text ∨
      s.children = [] ∧ s.element.text.getD "" = s'.element.text.getD "")

/-- What stands before an angle bracket is known from the whole, and so is what stands after it. -/
theorem angle_unique {xs ys u v : List Char} (hxs : ∀ x ∈ xs, (x != '<') = true)
    (hys : ∀ y ∈ ys, (y != '<') = true) (h : xs ++ '<' :: u = ys ++ '<' :: v) : xs = ys ∧ u = v := by
  obtain ⟨hrun, -, hrest⟩ := Text.run_unique (p := fun x => x != '<') hxs hys (by decide) (by decide) h
  exact ⟨hrun, hrest⟩

theorem ne_angle_of_mem_escapeHtml {text : String} {x : Char} (h : x ∈ (escapeHtml text).toList) :
    (x != '<') = true :=
  bne_iff_ne.mpr (mem_escapeHtml h).2.1

theorem ne_angle_of_mem_lead {depth : Nat} {text : Option String} {x : Char}
    (h : x ∈ '\n' :: ((textLine depth text).toList ++ (indent depth).toList)) : (x != '<') = true := by
  rcases List.mem_cons.mp h with rfl | h
  · decide
  · exact (List.mem_append.mp h).elim ne_angle_of_mem_textLine ne_angle_of_mem_indent

/-- Children that are written begin with an angle bracket and a name. -/
theorem exists_flatMap_htmlFrom {nodes : List NodeId} {specs : List NodeSpec}
    (h : List.Forall₂ (d.Renders levels) nodes specs) (hne : specs ≠ []) (depth : Nat) (w : List Char) :
    ∃ c rest, Text.isMarkupChar c = true ∧
      nodes.flatMap (fun m => (d.htmlFrom levels depth m).toList) ++ w =
        (indent depth).toList ++ '<' :: c :: rest := by
  cases h with
  | nil => exact absurd rfl hne
  | cons hhere _ =>
    obtain ⟨c, rest, hc, hhtml⟩ := hhere.exists_toList_htmlFrom depth
    rw [List.flatMap_cons, hhtml]
    rw [List.append_assoc, List.append_assoc]
    exact ⟨c, _, hc, rfl⟩

/-- An end tag is no node: after the angle bracket comes what no name begins with. -/
theorem end_ne_htmlFrom {m : NodeId} {s : NodeSpec} (h : d.Renders levels m s) (depth depth' : Nat)
    {u v : List Char} : (indent depth').toList ++ '<' :: '/' :: u ≠ (d.htmlFrom levels depth m).toList ++ v := by
  intro heq
  obtain ⟨c, rest, hc, hhtml⟩ := h.exists_toList_htmlFrom depth
  rw [hhtml, List.append_assoc, List.cons_append, List.cons_append] at heq
  obtain ⟨-, htail⟩ := angle_unique (fun x hx => ne_angle_of_mem_indent hx)
    (fun x hx => ne_angle_of_mem_indent hx) heq
  rw [← (List.cons.inj htail).1] at hc
  exact absurd hc (by decide)

/-- A node without children is none with children: the next angle bracket belongs to its end tag. -/
theorem leaf_ne_parent {text : String} {text' : Option String} {nodes : List NodeId}
    {specs : List NodeSpec} (h : List.Forall₂ (d.Renders levels) nodes specs) (hne : specs ≠ [])
    (depth : Nat) {u v : List Char} :
    (escapeHtml text).toList ++ '<' :: '/' :: u ≠
      '\n' :: ((textLine depth text').toList ++
        (nodes.flatMap (fun m => (d.htmlFrom levels depth m).toList) ++ v)) := by
  intro heq
  obtain ⟨c, rest, hc, hhtml⟩ := exists_flatMap_htmlFrom h hne depth v
  rw [hhtml, ← List.append_assoc, ← List.cons_append] at heq
  -- behind the first angle bracket stands a slash here, and the beginning of a name there
  obtain ⟨-, htail⟩ := angle_unique (fun x hx => ne_angle_of_mem_escapeHtml hx)
    (fun x hx => ne_angle_of_mem_lead hx) heq
  rw [← (List.cons.inj htail).1] at hc
  exact absurd hc (by decide)

/-- The text of a node without children is known, and where it ends. -/
theorem leaf_unique {text text' : String} {u v : List Char}
    (h : (escapeHtml text).toList ++ '<' :: u = (escapeHtml text').toList ++ '<' :: v) :
    text = text' ∧ u = v := by
  obtain ⟨htext, hrest⟩ := angle_unique (fun x hx => ne_angle_of_mem_escapeHtml hx)
    (fun x hx => ne_angle_of_mem_escapeHtml hx) h
  exact ⟨escapeHtml_injective (String.toList_inj.mp htext), hrest⟩

/-- The text of a node with children is known, and so is what the children are written as. -/
theorem parent_unique {text text' : Option String} {nodes nodes' : List NodeId}
    {specs specs' : List NodeSpec} (h : List.Forall₂ (d.Renders levels) nodes specs) (hne : specs ≠ [])
    (h' : List.Forall₂ (d'.Renders levels') nodes' specs') (hne' : specs' ≠ []) {u v : List Char}
    (heq : '\n' :: ((textLine depth text).toList ++
        (nodes.flatMap (fun m => (d.htmlFrom levels depth m).toList) ++ u)) =
      '\n' :: ((textLine depth text').toList ++
        (nodes'.flatMap (fun m => (d'.htmlFrom levels' depth m).toList) ++ v))) :
    text = text' ∧ nodes.flatMap (fun m => (d.htmlFrom levels depth m).toList) ++ u =
      nodes'.flatMap (fun m => (d'.htmlFrom levels' depth m).toList) ++ v := by
  obtain ⟨c, rest, -, hhtml⟩ := exists_flatMap_htmlFrom h hne depth u
  obtain ⟨c', rest', -, hhtml'⟩ := exists_flatMap_htmlFrom h' hne' depth v
  -- up to the first angle bracket both hold the line of the text and the same indentation
  have hlead := heq
  rw [hhtml, hhtml', ← List.append_assoc, ← List.append_assoc, ← List.cons_append,
    ← List.cons_append] at hlead
  obtain ⟨hlead, -⟩ := angle_unique (fun x hx => ne_angle_of_mem_lead hx)
    (fun x hx => ne_angle_of_mem_lead hx) hlead
  have hline := List.append_cancel_right (List.cons.inj hlead).2
  refine ⟨textLine_injective hline, ?_⟩
  rw [hline] at heq
  exact List.append_cancel_left (List.cons.inj heq).2

/-- **One node is read in one way only** if its children are. -/
theorem node_unique {s s' : NodeSpec} {u v : List Char} (h : d.Renders (levels + 1) n s)
    (h' : d'.Renders (levels' + 1) n' s')
    (hall : ∀ u v : List Char,
      (d.tree.children n).flatMap (fun m => (d.htmlFrom levels (depth + 1) m).toList) ++
          ((indent depth).toList ++ '<' :: '/' :: u) =
        (d'.tree.children n').flatMap (fun m => (d'.htmlFrom levels' (depth + 1) m).toList) ++
          ((indent depth).toList ++ '<' :: '/' :: v) →
        List.Forall₂ (NodeSpec.Match Agrees) s.children s'.children ∧ u = v)
    (heq : (d.htmlFrom (levels + 1) depth n).toList ++ u = (d'.htmlFrom (levels' + 1) depth n').toList ++ v) :
    NodeSpec.Match Agrees s s' ∧ u = v := by
  rw [h.toList_htmlFrom, h'.toList_htmlFrom] at heq
  simp only [List.append_assoc] at heq
  obtain ⟨htag, hshown, hchecked, hrest⟩ :=
    Element.startTag_unique h.legible h'.legible (List.append_cancel_left heq)
  have hsame := Element.sameTag_of_shown h.legible h'.legible htag hshown hchecked
  by_cases hleaf : s.children = [] <;> by_cases hleaf' : s'.children = [] <;>
    simp only [hleaf, hleaf', if_true, if_false, List.append_assoc, List.cons_append, htag] at hrest
  · obtain ⟨htext, hend⟩ := leaf_unique hrest
    refine ⟨.node ⟨hsame, .inr ⟨hleaf, htext⟩⟩ (by rw [hleaf, hleaf']; exact .nil), ?_⟩
    simpa using hend
  · exact absurd hrest (leaf_ne_parent h'.children hleaf' _)
  · exact absurd hrest.symm (leaf_ne_parent h.children hleaf _)
  · obtain ⟨htext, hchildren⟩ := parent_unique h.children hleaf h'.children hleaf' hrest
    obtain ⟨hmatch, hend⟩ := hall _ _ hchildren
    refine ⟨.node ⟨hsame, .inl htext⟩ hmatch, ?_⟩
    simpa using hend

/-- The lines of a node that is described are read in one way only. -/
def ReadOnce (d d' : Document) (s : NodeSpec) : Prop :=
  ∀ {s' : NodeSpec} {n n' : NodeId} {levels levels' depth : Nat} {u v : List Char},
    d.Renders levels n s → d'.Renders levels' n' s' →
      (d.htmlFrom levels depth n).toList ++ u = (d'.htmlFrom levels' depth n').toList ++ v →
        NodeSpec.Match Agrees s s' ∧ u = v

/-- **The lines of siblings are read in one way only** if those of each of them are: what follows the
last of them is an end tag. -/
theorem siblings_unique {nodes nodes' : List NodeId} {specs specs' : List NodeSpec} {depth' : Nat}
    {u v : List Char} (hone : ∀ s ∈ specs, ReadOnce d d' s)
    (h : List.Forall₂ (d.Renders levels) nodes specs) (h' : List.Forall₂ (d'.Renders levels') nodes' specs')
    (heq : nodes.flatMap (fun m => (d.htmlFrom levels depth m).toList) ++
        ((indent depth').toList ++ '<' :: '/' :: u) =
      nodes'.flatMap (fun m => (d'.htmlFrom levels' depth m).toList) ++
        ((indent depth').toList ++ '<' :: '/' :: v)) :
    List.Forall₂ (NodeSpec.Match Agrees) specs specs' ∧ u = v := by
  -- on the nodes of the one document: at its end tag those of the other have to end, too
  induction h generalizing nodes' specs' with
  | nil =>
    cases h' with
    | nil =>
      rw [List.flatMap_nil, List.flatMap_nil, List.nil_append, List.nil_append] at heq
      have htail := List.append_cancel_left heq
      exact ⟨.nil, (List.cons.inj (List.cons.inj htail).2).2⟩
    | cons hhere' _ =>
      rw [List.flatMap_cons, List.append_assoc] at heq
      exact absurd heq (end_ne_htmlFrom hhere' depth depth')
  | cons hhere _ ih =>
    cases h' with
    | nil =>
      rw [List.flatMap_cons, List.append_assoc] at heq
      exact absurd heq.symm (end_ne_htmlFrom hhere depth depth')
    | cons hhere' hrest' =>
      rw [List.flatMap_cons, List.flatMap_cons, List.append_assoc, List.append_assoc] at heq
      obtain ⟨hmatch, htail⟩ := hone _ List.mem_cons_self hhere hhere' heq
      obtain ⟨hmatches, huv⟩ := ih (fun s hs => hone s (List.mem_cons_of_mem _ hs)) hrest' htail
      exact ⟨.cons hmatch hmatches, huv⟩

/-- **The lines of a node are read in one way only.** -/
theorem html_unique (d d' : Document) (s : NodeSpec) : ReadOnce d d' s := by
  induction s using NodeSpec.induct with
  | node s ih =>
    intro s' n n' levels levels' depth u v h h' heq
    obtain ⟨level, rfl⟩ := h.exists_level
    obtain ⟨level', rfl⟩ := h'.exists_level
    exact node_unique h h' (fun _ _ => siblings_unique ih h.children h'.children) heq

end Document

/-- **What a document is written as tells the document.** Two documents that are built from descriptions
with names for their tags and attributes, and that are written alike, have one tree; the elements at each
node have the same tag, the same classes, the same attributes but for `value` and `checked`, the same
text, where only a node without children does not tell an empty text from none, and, where they are
controls, the same value and state. Nothing is asked of the values, the classes and the texts. -/
theorem Fixture.html_faithful {f g : Fixture} {d d' : Document} (hf : f.hasMarkupNames = true)
    (hg : g.hasMarkupNames = true) (hd : f.document = .ok d) (hd' : g.document = .ok d')
    (h : d.html = d'.html) :
    d.tree = d'.tree ∧ ∀ n : NodeId, n.index < d.tree.size →
      ∃ e e', d.element? n = some e ∧ d'.element? n = some e' ∧ Element.SameTag e e' ∧
        (e.text = e'.text ∨ d.tree.children n = [] ∧ e.text.getD "" = e'.text.getD "") := by
  have hdescribes := describes_document hd
  have hdescribes' := describes_document hd'
  have hrenders : d.Renders d.tree.size Tree.root f.root :=
    ⟨hdescribes, List.all_eq_true.mp hf, Nat.le_refl _⟩
  have hrenders' : d'.Renders d'.tree.size Tree.root g.root :=
    ⟨hdescribes', List.all_eq_true.mp hg, Nat.le_refl _⟩
  have hhtml : d.html.toList ++ [] = d'.html.toList ++ [] := by rw [h]
  obtain ⟨hmatch, -⟩ := Document.html_unique d d' f.root hrenders hrenders' hhtml
  have htree := tree_eq_of_match hmatch hd hd'
  refine ⟨htree, fun n hn => ?_⟩
  have hwithin := Tree.within_of_mem_subtreeTo (Tree.mem_descendants hn)
  obtain ⟨s, s', hs, hs', hhere⟩ := hdescribes.match_within htree hdescribes' hmatch hwithin
  refine ⟨_, _, hs.element, hs'.element, hhere.here.1, hhere.here.2.imp id fun ⟨hleaf, htext⟩ => ?_⟩
  have hnone := hs.children.length_eq
  rw [hleaf, List.length_nil, List.length_eq_zero_iff] at hnone
  exact ⟨hnone, htext⟩

namespace Fixture

/-- A form whose tag and classes are written loosely, with an input that begins with markup, and with a
paragraph that has an empty text and a value. -/
def loose : Fixture := ⟨.mk "FORM" (.ofList [("class", " a  b ")]) none
  [.mk "input" (.ofList [("value", "\"><p>")]) none [], .mk "p" (.ofList [("value", "1")]) (some "") []]⟩

/-- The same form without what is not shown. -/
def tight : Fixture := ⟨.mk "form" (.ofList [("class", "a b")]) none
  [.mk "input" (.ofList [("value", "\"><p>")]) none [], .mk "p" .empty none []]⟩

/-- What both forms are written as. -/
def shared : String :=
  "<form class=\"a b\">\n  <input value=\"&quot;&gt;&lt;p&gt;\"></input>\n  <p></p>\n</form>\n"

/-- The two forms are written alike, and differ in nothing that is shown. -/
theorem html_faithful_loose :
    loose.hasMarkupNames = true ∧ tight.hasMarkupNames = true ∧
      ∃ d d', loose.document = .ok d ∧ tight.document = .ok d' ∧ d.html = d'.html ∧ d.tree = d'.tree ∧
        ∀ n : NodeId, n.index < d.tree.size →
          ∃ e e', d.element? n = some e ∧ d'.element? n = some e' ∧ Element.SameTag e e' ∧
            (e.text = e'.text ∨ d.tree.children n = [] ∧ e.text.getD "" = e'.text.getD "") := by
  have hloose : loose.hasMarkupNames = true := by decide +kernel
  have htight : tight.hasMarkupNames = true := by decide +kernel
  obtain ⟨d, hd, hhtml⟩ := exists_ok_of_any (P := fun d : Document => d.html = shared) (x := loose.document)
    (by decide +kernel)
  obtain ⟨d', hd', hhtml'⟩ := exists_ok_of_any (P := fun d : Document => d.html = shared) (x := tight.document)
    (by decide +kernel)
  have halike := hhtml.trans hhtml'.symm
  exact ⟨hloose, htight, d, d', hd, hd', halike, html_faithful hloose htight hd hd' halike⟩

end Fixture

end ReactiveForm
