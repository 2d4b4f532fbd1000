import ReactiveForm.Proofs.Document.Rewriting
import ReactiveForm.Proofs.Document.Traversal

/-!
# `ReactiveForm.Proofs.Document.Showing` — what is written of an element without a state

A control is written with its value and its state in place of the attributes `value` and `checked`. These
attributes are left out of every element, though, and an element that is no control has nothing in their
place: all its other attributes are in its start tag, and these two are lost.

## Contents
- `Document.Reaches`, the place in the HTML where a node is written, and `Document.exists_reaches`.
- `Document.html_congr`, what the HTML is made of.
- `Element.shownAttribute`, how an attribute is shown, and `Element.startTag_assign`, that a start tag without a
  state does not tell the two attributes.
- `Document.html_shows_attributes`, with `Document.value_left_out`.
-/

namespace ReactiveForm

/-! ## Where a node is written -/

namespace Document

variable {d d' : Document} {node : NodeId}

/-- **The HTML of a document reaches a node** after `before`: the recursion that writes the document has entered
the nodes that precede it and written that much, and goes on with the node and `after`. -/
def Reaches (d : Document) (node : NodeId) (before after : String) : Prop :=
  ∃ depth rest visited left, d.descendants = visited ++ node :: left ∧ d.html = before ++ after ∧
    d.Writes (.enter depth node :: rest) (node :: left) after

/-- A recursion comes to every node that it enters. -/
theorem Writes.exists_enter {pending : List Pending} {order : List NodeId} {text : String}
    (h : d.Writes pending order text) (hn : node ∈ order) :
    ∃ depth rest visited left before after, order = visited ++ node :: left ∧ text = before ++ after ∧
      d.Writes (.enter depth node :: rest) (node :: left) after := by
  induction h with
  | done => cases hn
  | @enter depth first e rest order text element next ih =>
    rcases List.mem_cons.mp hn with rfl | hn
    · exact ⟨depth, rest, [], order, "", _, rfl, by simp, .enter element next⟩
    · obtain ⟨depth', rest', visited, left, before, after, rfl, rfl, hcomes⟩ := ih hn
      exact ⟨depth', rest', first :: visited, left, d.entering depth first e ++ before, after, rfl,
        (String.append_assoc ..).symm, hcomes⟩
  | @leave depth last e rest order text element next ih =>
    obtain ⟨depth', rest', visited, left, before, after, rfl, rfl, hcomes⟩ := ih hn
    exact ⟨depth', rest', visited, left, d.leaving depth last e ++ before, after, rfl,
      (String.append_assoc ..).symm, hcomes⟩

/-- **The HTML reaches every node,** and goes on with its start tag. -/
theorem exists_reaches {e : Element} (he : d.element? node = some e) :
    ∃ depth before after, d.Reaches node before (indent depth ++ (e.startTag ++ after)) := by
  have hn : node ∈ d.descendants := d.tree.mem_descendants (lt_size_of_element? he)
  obtain ⟨depth, rest, visited, left, before, after, horder, htext, hcomes⟩ :=
    (writes_iff.mpr ⟨rfl, rfl⟩ : d.Writes [.enter 0 Tree.root] d.descendants d.html).exists_enter hn
  cases hcomes with
  | @enter _ _ e' _ _ text element next =>
    obtain rfl := Option.some.inj (he.symm.trans element)
    have henter := Writes.enter element next
    obtain ⟨tail, htail⟩ : ∃ tail, d.entering depth node e ++ text = indent depth ++ (e.startTag ++ tail) := by
      unfold entering
      rw [String.append_assoc, String.append_assoc]
      exact ⟨_, rfl⟩
    rw [htail] at htext henter
    exact ⟨depth, before, tail, depth, rest, visited, left, horder, htext, henter⟩

/-! ## What the HTML is made of -/

/-- **The HTML is made of the start tags, the texts and the end tags.** -/
theorem html_congr (h : d.view (fun e => (e.startTag, e.text, e.endTag)) =
    d'.view fun e => (e.startTag, e.text, e.endTag)) : d.html = d'.html := by
  have htree := tree_eq_of_view h
  have hfrom : ∀ levels depth n, d.htmlFrom levels depth n = d'.htmlFrom levels depth n := by
    intro levels
    induction levels with
    | zero => exact fun _ _ => rfl
    | succ levels ih =>
      intro depth n
      have hn := map_element?_of_view h n
      cases he : d.element? n with
      | none =>
        rw [he, Option.map_none, eq_comm, Option.map_eq_none_iff] at hn
        rw [htmlFrom, htmlFrom, he, hn]
      | some e =>
        rw [he, Option.map_some, eq_comm, Option.map_eq_some_iff] at hn
        obtain ⟨e', he', heq⟩ := hn
        obtain ⟨htag, hrest⟩ := Prod.mk.inj heq
        obtain ⟨htext, hend⟩ := Prod.mk.inj hrest
        have hlines : d.htmlFrom levels (depth + 1) = d'.htmlFrom levels (depth + 1) :=
          funext fun child => ih (depth + 1) child
        rw [htmlFrom_succ he, htmlFrom_succ he', hlines]
        unfold entering leaving
        rw [htree, htag, htext, hend]
  unfold html
  rw [htree]
  exact hfrom _ _ _

end Document

/-! ## Start tags without a state -/

namespace Element

variable {e : Element} {name value : String}

/-- How a character of a value is shown: four characters are called by their names. -/
def shownChar (c : Char) : String :=
  if c = '&' then "&amp;"
  else if c = '"' then "&quot;"
  else if c = '<' then "&lt;"
  else if c = '>' then "&gt;"
  else String.singleton c

/-- **How an attribute is shown:** its name after a blank, and its value between quotes, character by
character. -/
def shownAttribute (name value : String) : String :=
  " " ++ name ++ "=\"" ++ String.join (value.toList.map shownChar) ++ "\""

theorem ofList_escapeHtmlChar (c : Char) : String.ofList (escapeHtmlChar c) = shownChar c := by
  unfold escapeHtmlChar shownChar
  split <;> simp_all

theorem escapeHtml_eq (value : String) : escapeHtml value = String.join (value.toList.map shownChar) := by
  unfold escapeHtml
  induction value.toList with
  | nil => rfl
  | cons c cs ih =>
    rw [List.flatMap_cons, String.ofList_append, ih, ofList_escapeHtmlChar, List.map_cons, String.join_cons]

theorem attributeHtml_eq (name value : String) : attributeHtml name value = shownAttribute name value := by
  rw [attributeHtml, escapeHtml_eq, shownAttribute]

theorem startTag_of_plain (h : e.control? = none) :
    e.startTag = "<" ++ e.tag ++
      (if e.classes.isEmpty then "" else attributeHtml "class" (" ".intercalate e.classes)) ++
      String.join (e.plainAttributes.map fun (name, value) => attributeHtml name value) ++ ">" := by
  unfold startTag stateHtml
  rw [h]
  simp [String.append_assoc]

/-- **A start tag shows every attribute but two.** -/
theorem exists_startTag_eq (h : e.control? = none) (hattribute : e.attribute? name = some value)
    (hvalue : name ≠ "value") (hchecked : name ≠ "checked") :
    ∃ l r, e.startTag = "<" ++ e.tag ++ l ++ shownAttribute name value ++ r ++ ">" := by
  have hmem : (name, value) ∈ e.plainAttributes := by
    obtain ⟨before, after, hentries, -⟩ := List.lookup_eq_some_iff.mp hattribute
    refine List.mem_filter.mpr ⟨?_, by simp [hvalue, hchecked]⟩
    rw [hentries]
    exact List.mem_append_right _ List.mem_cons_self
  obtain ⟨before, after, hsplit⟩ := List.append_of_mem hmem
  rw [startTag_of_plain h, hsplit, ← attributeHtml_eq]
  refine ⟨(if e.classes.isEmpty then "" else attributeHtml "class" (" ".intercalate e.classes)) ++
      String.join (before.map fun (name, value) => attributeHtml name value),
    String.join (after.map fun (name, value) => attributeHtml name value), ?_⟩
  simp [String.append_assoc]

/-- **A start tag without a state does not tell the other two.** -/
theorem startTag_assign (h : e.control? = none) (hname : name = "value" ∨ name = "checked") (value : String) :
    (e.assign name value).startTag = e.startTag := by
  have hclass : name ≠ "class" := by
    rintro rfl
    exact absurd hname (by decide)
  have htype : (e.assign name value).attribute? "type" = e.attribute? "type" := by
    have hne : "type" ≠ name := by
      rintro rfl
      exact absurd hname (by decide)
    unfold assign attribute?
    rw [if_neg hclass]
    exact (StringMap.get?_insert _ _ _ _).trans (if_neg hne)
  have htag : (e.assign name value).tag = e.tag := by
    unfold assign
    rw [if_neg hclass]
  have hclasses : (e.assign name value).classes = e.classes := by
    unfold assign
    rw [if_neg hclass]
  have hplain : (e.assign name value).plainAttributes = e.plainAttributes := by
    have hskip : (name != "value" && name != "checked") = false := by
      rcases hname with rfl | rfl <;> decide
    unfold assign plainAttributes
    rw [if_neg hclass]
    exact StringMap.filter_insertEntry (p := fun n => n != "value" && n != "checked") hskip value _
  have hcontrol : (e.assign name value).control? = none := by
    unfold control? at h ⊢
    rw [htag, htype, h]
  rw [startTag_of_plain hcontrol, startTag_of_plain h, htag, hclasses, hplain]

end Element

namespace Document

variable {d d' : Document} {node : NodeId}

/-- **What is written of an element that is no control.** The HTML of the document reaches it, and goes on
with its start tag. In the start tag is every attribute with its value, escaped, except for `value` and
`checked`. These are in no start tag of such an element: whatever they are set to, the HTML is what it
was. -/
theorem html_shows_attributes {e : Element} (he : d.element? node = some e) (hplain : d.control? node = none) :
    (∃ depth before after, d.Reaches node before (indent depth ++ (e.startTag ++ after))) ∧
    (∀ name value, e.attribute? name = some value → name ≠ "value" → name ≠ "checked" →
      ∃ l r, e.startTag = "<" ++ e.tag ++ l ++ Element.shownAttribute name value ++ r ++ ">") ∧
    ∀ name value, name = "value" ∨ name = "checked" →
      ∃ d', d.setAttribute node name value = .ok d' ∧ d'.attribute? node name = some value ∧
        d'.html = d.html := by
  have hcontrol : e.control? = none := by
    unfold control? at hplain
    rwa [he] at hplain
  refine ⟨exists_reaches he, fun name value hattribute hvalue hchecked =>
    e.exists_startTag_eq hcontrol hattribute hvalue hchecked, fun name value hname => ?_⟩
  obtain ⟨d', hset, hd'⟩ := setAttribute_rewritten (lt_size_of_element? he) name value
  have hclass : name ≠ "class" := by
    rintro rfl
    exact absurd hname (by decide)
  refine ⟨d', hset, ?_, html_congr (view_eq_iff.mpr ⟨hd'.tree, fun n => ?_⟩)⟩
  · unfold attribute?
    rw [hd'.element?, he]
    unfold assigning Element.assign Element.attribute?
    simp [hclass]
  · rw [hd'.map]
    have hnone : n ∉ d.unmarked node name value := by
      intro hmem
      obtain ⟨-, -, -, group, hradio, -⟩ := mem_unmarked.mp hmem
      rw [(role?_eq_some_iff.mp hradio).1] at hplain
      cases hplain
    by_cases hn : node = n
    · subst hn
      simp only [he, Option.map_some, assigning, if_pos]
      rw [Element.startTag_assign hcontrol hname]
      unfold Element.assign Element.endTag
      rw [if_neg hclass]
    · unfold assigning
      simp only [if_neg hn, if_neg hnone]

/-- An item of a list, with a title and a number. -/
def item : Document :=
  ofRoot (((Element.ofTag "li").withAttribute "title" "a < b").withAttribute "value" "3")

/-- The title of an item is shown, and a new number is not. -/
theorem html_shows_attributes_item :
    ∃ e, item.element? Tree.root = some e ∧ item.control? Tree.root = none ∧
      e.attribute? "title" = some "a < b" ∧
      (∃ l r, e.startTag = "<" ++ e.tag ++ l ++ " title=\"a &lt; b\"" ++ r ++ ">") ∧
      ∃ d', item.setAttribute Tree.root "value" "4" = .ok d' ∧
        d'.attribute? Tree.root "value" = some "4" ∧ d'.html = item.html := by
  obtain ⟨e, he⟩ := Option.isSome_iff_exists.mp (isSome_element?_iff.mpr item.tree.root_lt_size)
  have hplain : item.control? Tree.root = none := by decide +kernel
  have htitle : item.attribute? Tree.root "title" = some "a < b" := by decide +kernel
  obtain ⟨-, hshown, hlost⟩ := html_shows_attributes he hplain
  unfold attribute? at htitle
  rw [he] at htitle
  have htext : Element.shownAttribute "title" "a < b" = " title=\"a &lt; b\"" := by decide +kernel
  have htag := hshown _ _ htitle (by decide) (by decide)
  rw [htext] at htag
  exact ⟨e, he, hplain, htitle, htag, hlost _ _ (.inl rfl)⟩

/-- **The number of an item is left out:** the item has it as an attribute, and it is nowhere in the HTML. -/
theorem value_left_out :
    item.control? Tree.root = none ∧ item.attribute? Tree.root "value" = some "3" ∧
      ∀ l r, item.html ≠ l ++ " value=\"3\"" ++ r := by
  refine ⟨by decide +kernel, by decide +kernel, fun l r h => ?_⟩
  have hinfix : " value=\"3\"".toList <:+: item.html.toList := by
    rw [h, String.toList_append, String.toList_append]
    exact ⟨l.toList, r.toList, rfl⟩
  exact absurd hinfix (by decide +kernel)

end Document

end ReactiveForm
