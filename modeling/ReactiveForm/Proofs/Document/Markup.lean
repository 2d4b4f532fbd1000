import ReactiveForm.Document.Html
import ReactiveForm.Proofs.Directive.Reading
import ReactiveForm.Proofs.Document.View
import ReactiveForm.Text.Split

/-!
# `ReactiveForm.Proofs.Document.Markup` — what a start tag tells of an element

In a start tag a name ends at the first character that no name has, and a value ends at the first
quotation mark, since a value that is escaped has none. So a start tag is read in one way only, whatever
the values are, and it tells all of an element but its text and those attributes whose place the state
of a control takes.

## Contents
- `Text.run_unique`, where a run of characters ends, and `Text.splitAll_intercalate`.
- `flatMap_escapeHtmlChar_injective` and `escapeHtmlChar_spec`, that escaping loses nothing and leaves
  no delimiter.
- `Element.shown` and `Element.showsChecked`, what a start tag is made of, and `startTag_unique`.
- `Element.SameTag`, what two elements have in common whose start tags show the same, and
  `sameTag_of_shown`.
-/

namespace ReactiveForm

/-! ## Runs of characters -/

namespace Text

/-- **A run ends at the first character that does not belong to it**, so that two texts that begin with
runs and are equal begin with the same run. -/
theorem run_unique {p : Char → Bool} {xs ys u v : List Char} {c d : Char}
    (hxs : ∀ x ∈ xs, p x = true) (hys : ∀ y ∈ ys, p y = true) (hc : p c = false) (hd : p d = false)
    (h : xs ++ c :: u = ys ++ d :: v) : xs = ys ∧ c = d ∧ u = v := by
  induction xs generalizing ys with
  | nil =>
    cases ys with
    | nil => exact ⟨rfl, List.cons.inj h⟩
    | cons y ys =>
      have hcy : c = y := (List.cons.inj h).1
      rw [hcy, hys y List.mem_cons_self] at hc
      cases hc
  | cons x xs ih =>
    cases ys with
    | nil =>
      have hxd : x = d := (List.cons.inj h).1
      rw [← hxd, hxs x List.mem_cons_self] at hd
      cases hd
    | cons y ys =>
      obtain ⟨rfl, htail⟩ := List.cons.inj h
      obtain ⟨rfl, hrest⟩ := ih (fun z hz => hxs z (List.mem_cons_of_mem _ hz))
        (fun z hz => hys z (List.mem_cons_of_mem _ hz)) htail
      exact ⟨rfl, hrest⟩

theorem splitAll_of_not_mem {sep : Char} {cs : List Char} (h : sep ∉ cs) : splitAll sep cs = [cs] := by
  induction cs with
  | nil => rfl
  | cons c cs ih =>
    obtain ⟨hc, hcs⟩ := List.ne_and_not_mem_of_not_mem_cons h
    rw [splitAll, if_neg (Ne.symm hc), ih hcs]

theorem splitAll_append {sep : Char} {cs : List Char} (h : sep ∉ cs) (rest : List Char) :
    splitAll sep (cs ++ sep :: rest) = cs :: splitAll sep rest := by
  induction cs with
  | nil => rw [List.nil_append, splitAll, if_pos rfl]
  | cons c cs ih =>
    obtain ⟨hc, hcs⟩ := List.ne_and_not_mem_of_not_mem_cons h
    rw [List.cons_append, splitAll, if_neg (Ne.symm hc), ih hcs]

/-- **Pieces that are put together with separators are found again**, if none holds a separator. -/
theorem splitAll_intercalate {sep : Char} {pieces : List (List Char)} (hne : pieces ≠ [])
    (h : ∀ piece ∈ pieces, sep ∉ piece) : splitAll sep ([sep].intercalate pieces) = pieces := by
  induction pieces with
  | nil => exact absurd rfl hne
  | cons piece rest ih =>
    have hpiece := h piece List.mem_cons_self
    cases rest with
    | nil => rw [List.intercalate_singleton, splitAll_of_not_mem hpiece]
    | cons next rest =>
      rw [List.intercalate_cons_cons, List.append_assoc, List.singleton_append, splitAll_append hpiece,
        ih (List.cons_ne_nil _ _) fun p hp => h p (List.mem_cons_of_mem _ hp)]

/-- Words that are written with spaces between them are known from what is written. -/
theorem intercalate_words_injective {ws ws' : List String} (hne : ws ≠ []) (hne' : ws' ≠ [])
    (h : ∀ w ∈ ws, ' ' ∉ w.toList) (h' : ∀ w ∈ ws', ' ' ∉ w.toList)
    (heq : " ".intercalate ws = " ".intercalate ws') : ws = ws' := by
  have hsplit : ∀ vs : List String, vs ≠ [] → (∀ w ∈ vs, ' ' ∉ w.toList) →
      splitAll ' ' (" ".intercalate vs).toList = vs.map String.toList := by
    intro vs hvs hspace
    rw [String.toList_intercalate]
    refine splitAll_intercalate (fun he => hvs (List.map_eq_nil_iff.mp he)) fun piece hp => ?_
    obtain ⟨w, hw, rfl⟩ := List.mem_map.mp hp
    exact hspace w hw
  have hmap : ws.map String.toList = ws'.map String.toList := by
    rw [← hsplit ws hne h, heq, hsplit ws' hne' h']
  exact (List.map_inj_right fun _ _ => String.toList_inj.mp).mp hmap

/-! ## Names -/

/-- A character that may stand in the name of a tag or of an attribute. -/
def isMarkupChar (c : Char) : Bool :=
  !isBlank c && c != '<' && c != '>' && c != '"' && c != '\'' && c != '=' && c != '&' && c != '/'

/-- A name of a tag or of an attribute: not empty, without white space and without the characters that
markup is made of. -/
def isMarkupName (s : String) : Bool := !s.isEmpty && s.toList.all isMarkupChar

theorem isMarkupName_iff {s : String} :
    isMarkupName s = true ↔ s.toList ≠ [] ∧ ∀ c ∈ s.toList, isMarkupChar c = true := by
  unfold isMarkupName
  simp [← String.toList_eq_nil_iff]

end Text

/-! ## Escaping -/

/-- The code of a character tells the character and where its code ends. -/
theorem escapeHtmlChar_unique {c d : Char} {u v : List Char}
    (h : escapeHtmlChar c ++ u = escapeHtmlChar d ++ v) : c = d ∧ u = v := by
  unfold escapeHtmlChar at h
  split at h <;> split at h <;> simp at h <;> grind

/-- **Escaping loses nothing.** -/
theorem flatMap_escapeHtmlChar_injective {xs ys : List Char}
    (h : xs.flatMap escapeHtmlChar = ys.flatMap escapeHtmlChar) : xs = ys := by
  have hne : ∀ c, escapeHtmlChar c ≠ [] := by
    intro c
    unfold escapeHtmlChar
    split <;> simp
  induction xs generalizing ys with
  | nil =>
    cases ys with
    | nil => rfl
    | cons y ys =>
      rw [List.flatMap_nil, List.flatMap_cons] at h
      exact absurd (List.append_eq_nil_iff.mp h.symm).1 (hne y)
  | cons x xs ih =>
    cases ys with
    | nil =>
      rw [List.flatMap_nil, List.flatMap_cons] at h
      exact absurd (List.append_eq_nil_iff.mp h).1 (hne x)
    | cons y ys =>
      rw [List.flatMap_cons, List.flatMap_cons] at h
      obtain ⟨rfl, hrest⟩ := escapeHtmlChar_unique h
      rw [ih hrest]

/-- **What is escaped holds no delimiter.** -/
theorem escapeHtmlChar_spec {cs : List Char} {x : Char} (h : x ∈ cs.flatMap escapeHtmlChar) :
    x ≠ '"' ∧ x ≠ '<' ∧ x ≠ '>' := by
  obtain ⟨c, -, hx⟩ := List.mem_flatMap.mp h
  unfold escapeHtmlChar at hx
  split at hx
  all_goals simp at hx
  · rcases hx with rfl | rfl | rfl | rfl | rfl <;> decide
  · rcases hx with rfl | rfl | rfl | rfl | rfl | rfl <;> decide
  · rcases hx with rfl | rfl | rfl | rfl <;> decide
  · rcases hx with rfl | rfl | rfl | rfl <;> decide
  · simp_all

theorem escapeHtml_injective {s t : String} (h : escapeHtml s = escapeHtml t) : s = t := by
  have hchars := congrArg String.toList h
  simp only [escapeHtml, String.toList_ofList] at hchars
  exact String.toList_inj.mp (flatMap_escapeHtmlChar_injective hchars)

theorem mem_escapeHtml {s : String} {x : Char} (h : x ∈ (escapeHtml s).toList) :
    x ≠ '"' ∧ x ≠ '<' ∧ x ≠ '>' :=
  escapeHtmlChar_spec (by simpa [escapeHtml] using h)

/-! ## Start tags -/

namespace Element

/-- The attributes that a start tag is made of: the classes, the attributes that are written as they
are, and the value of a control. -/
def shown (e : Element) : List (String × String) :=
  (if e.classes.isEmpty then [] else [("class", " ".intercalate e.classes)]) ++ e.plainAttributes ++
    match e.control? with
    | none => []
    | some kind => if kind = .select ∧ e.value = "" then [] else [("value", e.value)]

/-- Whether a start tag calls its control checked. -/
def showsChecked (e : Element) : Bool := e.control?.isSome && e.checked

/-- The attributes of a start tag, one after the other. -/
def attributeChars (attributes : List (String × String)) : List Char :=
  attributes.flatMap fun (name, value) => (attributeHtml name value).toList

/-- The mark of a control that is checked. -/
def checkedChars (checked : Bool) : List Char := if checked then " checked".toList else []

theorem attributeChars_cons (name value : String) (rest : List (String × String)) :
    attributeChars ((name, value) :: rest) =
      ' ' :: (name.toList ++ '=' :: '"' :: ((escapeHtml value).toList ++ '"' :: attributeChars rest)) := by
  simp [attributeChars, attributeHtml]

/-- A start tag is the tag, the attributes and perhaps a mark. -/
theorem toList_startTag (e : Element) :
    e.startTag.toList =
      '<' :: (e.tag.toList ++ (attributeChars e.shown ++ (checkedChars e.showsChecked ++ ['>']))) := by
  have hplain : (String.join (e.plainAttributes.map fun (name, value) => attributeHtml name value)).toList =
      attributeChars e.plainAttributes := by
    simp [attributeChars, List.flatMap_def, Function.comp_def]
  unfold startTag stateHtml shown showsChecked
  cases hc : e.classes.isEmpty <;> cases hk : e.control? with
  | none => simp [hplain, checkedChars, attributeChars, List.append_assoc]
  | some kind =>
    by_cases hv : kind = .select ∧ e.value = "" <;> cases hch : e.checked <;>
      simp [hplain, hv, checkedChars, attributeChars, List.append_assoc]

/-- An attribute is no mark: its name ends at a sign of equality, the mark at the end of the tag. -/
theorem attribute_ne_mark {name : String} (hname : Text.isMarkupName name = true) {checked : Bool}
    {rest u : List Char} : ' ' :: (name.toList ++ '=' :: rest) ≠ checkedChars checked ++ '>' :: u := by
  intro h
  cases checked with
  | false => exact absurd (List.cons.inj h).1 (by decide)
  | true =>
    have htail : name.toList ++ '=' :: rest = "checked".toList ++ '>' :: u := (List.cons.inj h).2
    have hchecked : Text.isMarkupName "checked" = true := by decide
    have hrun := Text.run_unique (Text.isMarkupName_iff.mp hname).2 (Text.isMarkupName_iff.mp hchecked).2
      (by decide) (by decide) htail
    exact absurd hrun.2.1 (by decide)

/-- **The attributes of a start tag are read in one way only.** -/
theorem attributeChars_unique {as bs : List (String × String)} {checked checked' : Bool} {u v : List Char}
    (has : ∀ a ∈ as, Text.isMarkupName a.1 = true) (hbs : ∀ b ∈ bs, Text.isMarkupName b.1 = true)
    (h : attributeChars as ++ (checkedChars checked ++ '>' :: u) =
      attributeChars bs ++ (checkedChars checked' ++ '>' :: v)) :
    as = bs ∧ checked = checked' ∧ u = v := by
  induction as generalizing bs with
  | nil =>
    cases bs with
    | nil =>
      cases checked <;> cases checked' <;> simp [checkedChars, attributeChars] at h ⊢
      · exact h
      · exact h
    | cons b bs =>
      rw [attributeChars_cons, List.cons_append, List.append_assoc] at h
      exact absurd h.symm (attribute_ne_mark (hbs b List.mem_cons_self))
  | cons a as ih =>
    obtain ⟨name, value⟩ := a
    have hname : Text.isMarkupName name = true := has _ List.mem_cons_self
    cases bs with
    | nil =>
      rw [attributeChars_cons, List.cons_append, List.append_assoc] at h
      exact absurd h (attribute_ne_mark hname)
    | cons b bs =>
      obtain ⟨name', value'⟩ := b
      have hname' : Text.isMarkupName name' = true := hbs _ List.mem_cons_self
      simp only [attributeChars_cons, List.cons_append, List.append_assoc, List.cons.injEq,
        true_and] at h
      obtain ⟨hnames, -, h⟩ := Text.run_unique (Text.isMarkupName_iff.mp hname).2
        (Text.isMarkupName_iff.mp hname').2 (by decide) (by decide) h
      obtain ⟨hvalues, -, h⟩ := Text.run_unique (p := fun c => c != '"')
        (fun x hx => bne_iff_ne.mpr (mem_escapeHtml hx).1)
        (fun x hx => bne_iff_ne.mpr (mem_escapeHtml hx).1) (by decide) (by decide) (List.cons.inj h).2
      obtain ⟨rfl, hmark⟩ := ih (fun a ha => has a (List.mem_cons_of_mem _ ha))
        (fun b hb => hbs b (List.mem_cons_of_mem _ hb)) h
      rw [String.toList_inj.mp hnames, escapeHtml_injective (String.toList_inj.mp hvalues)]
      exact ⟨rfl, hmark⟩

/-- An element whose start tag can be read back: its tag and the names of its attributes are names, its
classes are kept apart from the attributes, and a class has no space in it. -/
structure Legible (e : Element) : Prop where
  tag : Text.isMarkupName e.tag = true
  names : ∀ name ∈ e.attributes.keys, Text.isMarkupName name = true
  no_class : e.attribute? "class" = none
  classes : ∀ c ∈ e.classes, ' ' ∉ c.toList

variable {e e' : Element}

theorem mem_keys_of_mem_plainAttributes {a : String × String} (h : a ∈ e.plainAttributes) :
    a.1 ∈ e.attributes.keys :=
  List.mem_map.mpr ⟨a, (List.mem_filter.mp h).1, rfl⟩

theorem Legible.shown (h : e.Legible) : ∀ a ∈ e.shown, Text.isMarkupName a.1 = true := by
  intro a ha
  unfold Element.shown at ha
  rcases List.mem_append.mp ha with ha | ha
  · rcases List.mem_append.mp ha with ha | ha
    · split at ha
      · cases ha
      · rw [List.mem_singleton.mp ha]
        exact (by decide : Text.isMarkupName "class" = true)
    · exact h.names _ (mem_keys_of_mem_plainAttributes ha)
  · split at ha
    · cases ha
    · split at ha
      · cases ha
      · rw [List.mem_singleton.mp ha]
        exact (by decide : Text.isMarkupName "value" = true)

/-- **A start tag is read in one way only.** -/
theorem startTag_unique (he : e.Legible) (he' : e'.Legible) {u v : List Char}
    (h : e.startTag.toList ++ u = e'.startTag.toList ++ v) :
    e.tag = e'.tag ∧ e.shown = e'.shown ∧ e.showsChecked = e'.showsChecked ∧ u = v := by
  -- after a tag comes the space before an attribute, that before the mark, or the end
  have hend : ∀ (as : List (String × String)) (checked : Bool) (w : List Char),
      ∃ c rest, Text.isMarkupChar c = false ∧
        attributeChars as ++ (checkedChars checked ++ '>' :: w) = c :: rest := by
    intro as checked w
    cases as with
    | nil =>
      cases checked with
      | false => exact ⟨'>', w, by decide, rfl⟩
      | true => exact ⟨' ', _, by decide, rfl⟩
    | cons a as => exact ⟨' ', _, by decide, by rw [attributeChars_cons, List.cons_append]⟩
  simp only [toList_startTag, List.cons_append, List.append_assoc, List.cons.injEq, true_and,
    List.nil_append] at h
  obtain ⟨c, rest, hc, heq⟩ := hend e.shown e.showsChecked u
  obtain ⟨c', rest', hc', heq'⟩ := hend e'.shown e'.showsChecked v
  rw [heq, heq'] at h
  obtain ⟨htags, rfl, rfl⟩ := Text.run_unique (Text.isMarkupName_iff.mp he.tag).2
    (Text.isMarkupName_iff.mp he'.tag).2 hc hc' h
  obtain ⟨hshown, hchecked, huv⟩ := attributeChars_unique he.shown he'.shown (heq.trans heq'.symm)
  exact ⟨String.toList_inj.mp htags, hshown, hchecked, huv⟩

/-! ## What is shown -/

theorem lookup_filter_key {α : Type} (p : String → Bool) (l : List (String × α)) (name : String) :
    (l.filter fun (n, _) => p n).lookup name = if p name then l.lookup name else none := by
  induction l with
  | nil => simp
  | cons a l ih =>
    obtain ⟨n, value⟩ := a
    by_cases hn : name = n
    · subst hn
      by_cases hp : p name = true
      · simp [hp]
      · simp [hp, ih]
    · have hbeq : (name == n) = false := beq_eq_false_iff_ne.mpr hn
      by_cases hp : p n = true
      · simp [hp, List.lookup_cons, hbeq, ih]
      · simp [hp, List.lookup_cons, hbeq, ih]

/-- What the shown attributes give for a name. -/
theorem lookup_shown (he : e.attribute? "class" = none) (name : String) :
    e.shown.lookup name =
      if name = "class" then if e.classes.isEmpty then none else some (" ".intercalate e.classes)
      else if name = "value" then
        e.control?.bind fun kind => if kind = .select ∧ e.value = "" then none else some e.value
      else if name = "checked" then none
      else e.attribute? name := by
  have hplain : e.plainAttributes.lookup name =
      if name != "value" && name != "checked" then e.attribute? name else none :=
    lookup_filter_key (fun name => name != "value" && name != "checked") _ _
  have hsingle : ∀ (n value : String), [(n, value)].lookup name = if name = n then some value else none := by
    intro n value
    by_cases hn : name = n
    · simp [hn]
    · simp [List.lookup_cons, beq_eq_false_iff_ne.mpr hn, hn]
  unfold shown
  rw [List.lookup_append, List.lookup_append, hplain]
  by_cases hclass : name = "class"
  · subst hclass
    cases e.classes.isEmpty <;> cases e.control? with
    | none => simp [he]
    | some kind => by_cases hk : kind = .select ∧ e.value = "" <;> simp [he, hk, hsingle]
  · by_cases hvalue : name = "value"
    · subst hvalue
      cases e.classes.isEmpty <;> cases e.control? with
      | none => simp [hsingle]
      | some kind => by_cases hk : kind = .select ∧ e.value = "" <;> simp [hk, hsingle]
    · cases e.classes.isEmpty <;> cases e.control? with
      | none => by_cases hchecked : name = "checked" <;> simp [hclass, hvalue, hchecked, hsingle]
      | some kind =>
        by_cases hk : kind = .select ∧ e.value = "" <;> by_cases hchecked : name = "checked" <;>
          simp [hclass, hvalue, hchecked, hk, hsingle]

/-- What two elements have in common whose start tags show the same: all but their texts, the attributes
`value` and `checked`, and the state of what is no control. -/
structure SameTag (e e' : Element) : Prop where
  tag : e.tag = e'.tag
  classes : e.classes = e'.classes
  attributes : ∀ name, name ≠ "value" → name ≠ "checked" → e.attribute? name = e'.attribute? name
  state : e.control?.isSome = true → e.value = e'.value ∧ e.checked = e'.checked

/-- **A start tag tells all of an element but its text**, and what a control shows in place of the
attributes `value` and `checked`. -/
theorem sameTag_of_shown (he : e.Legible) (he' : e'.Legible) (htag : e.tag = e'.tag)
    (hshown : e.shown = e'.shown) (hchecked : e.showsChecked = e'.showsChecked) : SameTag e e' := by
  have hlookup : ∀ name, e.shown.lookup name = e'.shown.lookup name := fun name => by rw [hshown]
  simp only [lookup_shown he.no_class, lookup_shown he'.no_class] at hlookup
  have hattributes : ∀ name, name ≠ "value" → name ≠ "checked" →
      e.attribute? name = e'.attribute? name := by
    intro name hvalue hmark
    by_cases hclass : name = "class"
    · rw [hclass, he.no_class, he'.no_class]
    · simpa [hclass, hvalue, hmark] using hlookup name
  have hcontrol : e.control? = e'.control? := by
    unfold control?
    rw [htag, hattributes "type" (by decide) (by decide)]
  refine ⟨htag, ?_, hattributes, fun hsome => ?_⟩
  · have hclass := hlookup "class"
    simp only [if_pos] at hclass
    split at hclass <;> split at hclass
    · next hnil hnil' => rw [List.isEmpty_iff.mp hnil, List.isEmpty_iff.mp hnil']
    · cases hclass
    · cases hclass
    · next hnil hnil' =>
      exact Text.intercalate_words_injective (fun h => hnil (List.isEmpty_iff.mpr h))
        (fun h => hnil' (List.isEmpty_iff.mpr h)) he.classes he'.classes (Option.some.inj hclass)
  · obtain ⟨kind, hkind⟩ := Option.isSome_iff_exists.mp hsome
    have hvalue := hlookup "value"
    rw [if_neg (by decide), if_pos rfl, if_neg (by decide), if_pos rfl, ← hcontrol, hkind,
      Option.bind_some, Option.bind_some] at hvalue
    unfold showsChecked at hchecked
    rw [← hcontrol, hkind] at hchecked
    refine ⟨?_, by simpa using hchecked⟩
    -- an empty selection shows no value, and is the only control that does not
    split at hvalue <;> split at hvalue
    · next hempty hempty' => rw [hempty.2, hempty'.2]
    · cases hvalue
    · cases hvalue
    · exact Option.some.inj hvalue

end Element

end ReactiveForm
