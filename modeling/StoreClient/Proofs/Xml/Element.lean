import Mathlib.Data.List.DropRight
import StoreClient.Proofs.Xml.Text

/-!
Documents that are written as a root with an element for each field. Each text is read back as it
was written but for the ends of its lines and the white space around it, and a text of white space
alone is no content at all (`textNodes`). Where a text has a character that no document may hold,
there is no document (`parse?_record`).
-/

namespace StoreClient.Xml

/-! ### Content -/

/-- What an element holds after a text has been read in it. -/
def textNodes (text : List Char) : List Node :=
  match trim text with
  | [] => []
  | text => [.text (String.ofList text)]

@[simp] theorem textNodes_nil : textNodes [] = [] := rfl

theorem Open.addText_eq (element : Open) (text : List Char) :
    element.addText text = { element with content := textNodes text ++ element.content } := by
  rw [addText, textNodes]
  cases trim text <;> rfl

theorem trim_dropWhile (text : List Char) : trim (text.dropWhile isSpace) = trim text := by
  rw [trim, trim, List.dropWhile_idempotent]

theorem textNodes_dropWhile (text : List Char) :
    textNodes (text.dropWhile isSpace) = textNodes text := by
  rw [textNodes, textNodes, trim_dropWhile]

theorem reverse_textNodes (text : List Char) : (textNodes text).reverse = textNodes text := by
  rw [textNodes]
  split <;> rfl

theorem Open.node_eq {element : Open} {name : String} (h : element.name = ⟨none, name.toList⟩) :
    element.node = .element name element.content.reverse := by
  rw [node, h]
  exact congrArg (Node.element · _) String.ofList_toList

theorem wrap_append (name : String) (content rest : List Char) :
    wrap name content ++ rest = ('<' :: name.toList ++ ['>']) ++
      (content ++ (('<' :: '/' :: name.toList) ++ '>' :: rest)) := by
  simp [wrap]

/-! ### Fields -/

/-- An element around each of some texts. -/
def wrapAll (fields : List (String × List Char)) : List Char :=
  fields.flatMap fun field => wrap field.1 (escape field.2)

/-- What such elements are read as. -/
def fieldNodes (fields : List (String × List Char)) : List Node :=
  fields.map fun field => .element field.1 (textNodes field.2)

theorem renderElement_nil (root : String) :
    renderElement root [] = ('<' :: root.toList ++ [' ', '/']) ++ ['>'] := by
  simp [renderElement]

theorem renderElement_of_fields {root : String} {fields : List (String × List Char)}
    (h : fields.isEmpty = false) :
    renderElement root (fields.map fun field => wrap field.1 (escape field.2)) =
      wrap root (wrapAll fields) := by
  rw [renderElement, List.isEmpty_map, h, if_neg Bool.false_ne_true, wrapAll, List.flatMap_def]

namespace Draft

variable {parent : Open} {outer : List Open} {name : String} {text : List Char}

section
variable {element : Open} {elements : List Open} {document : Draft} {rest : List Char}
  {content : List Node} {result : Option Node}

/-- After a text the end tag of its element is read up to its last character. -/
theorem After.take_endTag (h : After (element :: elements) text document)
    (hname : IsTagName name.toList) :
    document.take ('<' :: '/' :: name.toList) =
      some (plain .root .ground (.endName name.toList.reverse)
        ({ element with content := textNodes text ++ element.content } :: elements) []) := by
  have hfeed : document.feed '<' = some (.next (plain .root (.opened []) .content
      (element :: elements) (text.dropWhile isSpace).reverse)) :=
    h.feed_eq (c := '<') (List.cons_ne_nil _ _) (by decide) (by decide) rfl
  rw [take_cons h.isUtf8 hfeed, take_endName hname.2, List.reverse_reverse, Open.addText_eq,
    textNodes_dropWhile]

/-- The end tag of an element closes it. -/
theorem feed_end (hname : IsTagName name.toList) (helement : element.name = ⟨none, name.toList⟩)
    (hcontent : element.content.reverse = content) :
    (plain .root .ground (.endName name.toList.reverse) (element :: outer) []).feed '>' =
      some ((plain .root .ground (.endName name.toList.reverse) (element :: outer) []).close
        (.element name content) outer) := by
  rw [feed_endTag hname helement, Open.node_eq helement, hcontent]

/-- The end tag of the root ends the document. -/
theorem After.leads_root (h : After [element] text document) (hname : IsTagName name.toList)
    (helement : element.name = ⟨none, name.toList⟩)
    (hcontent : (textNodes text ++ element.content).reverse = content) :
    document.Leads (('<' :: '/' :: name.toList) ++ '>' :: rest)
      (some (.element name content)) := by
  refine Leads.of_take ?_ (h.take_endTag hname)
  exact Draft.leads_root rfl (feed_end hname helement hcontent)

/-- The end tag of an element within another adds it to that. -/
theorem Leads.endTag (hrest : (plain .root .ground .content
      (parent.addNode (.element name content) :: outer) []).Leads rest result)
    (h : After (element :: parent :: outer) text document) (hname : IsTagName name.toList)
    (helement : element.name = ⟨none, name.toList⟩)
    (hcontent : (textNodes text ++ element.content).reverse = content) :
    document.Leads (('<' :: '/' :: name.toList) ++ '>' :: rest) result := by
  refine Leads.of_take ?_ (h.take_endTag hname)
  exact hrest.next rfl (feed_end hname helement hcontent)

/-- An element with a text joins the element around it. -/
theorem Leads.field (hrest : (plain .root .ground .content
      (parent.addNode (.element name (textNodes text)) :: outer) []).Leads rest result)
    (hname : IsTagName name.toList) (htext : IsText text) :
    (plain .root .ground .content (parent :: outer) []).Leads
      (wrap name (escape text) ++ rest) result := by
  have hstart := take_startTag .root (fun _ => List.cons_ne_nil parent outer) hname
  obtain ⟨document, htake, hafter⟩ := (after_nil
    (opening name.toList (parent :: outer) :: parent :: outer)).exists_take_escape
      (List.cons_ne_nil _ _) htext
  rw [wrap_append]
  refine Leads.of_take (Leads.of_take (hrest.endTag hafter hname rfl ?_) htake) hstart
  rw [opening, List.append_nil, List.nil_append, reverse_textNodes]

theorem leads_field_none (hname : IsTagName name.toList)
    (htext : ¬ IsText text) (rest : List Char) :
    (plain .root .ground .content (parent :: outer) []).Leads
      (wrap name (escape text) ++ rest) none := by
  have hstart := take_startTag .root (fun _ => List.cons_ne_nil parent outer) hname
  rw [wrap_append]
  exact ((after_nil _).leads_none (List.cons_ne_nil _ _) htext _).of_take hstart

end

section
variable {texts : List (String × List Char)}
  (hnames : ∀ field ∈ texts, IsTagName field.1.toList)
include hnames

/-- Elements with texts join the element around them one after another. -/
theorem Leads.fields {rest : List Char} {result : Option Node}
    (hfields : ∀ field ∈ texts, IsText field.2)
    (hrest : (plain .root .ground .content
      ({ parent with content := (fieldNodes texts).reverse ++ parent.content } :: outer)
        []).Leads rest result) :
    (plain .root .ground .content (parent :: outer) []).Leads (wrapAll texts ++ rest) result := by
  induction texts generalizing parent with
  | nil => exact hrest
  | cons field texts ih =>
    obtain ⟨hname, hnames⟩ := List.forall_mem_cons.mp hnames
    obtain ⟨htext, hfields⟩ := List.forall_mem_cons.mp hfields
    rw [wrapAll, List.flatMap_cons, List.append_assoc]
    refine Leads.field (ih hnames hfields ?_) hname htext
    simpa [fieldNodes, Open.addNode] using hrest

theorem leads_fields_none (hfields : ¬ ∀ field ∈ texts, IsText field.2)
    (rest : List Char) : (plain .root .ground .content (parent :: outer) []).Leads
      (wrapAll texts ++ rest) none := by
  induction texts generalizing parent with
  | nil => exact (hfields fun _ h => nomatch h).elim
  | cons field texts ih =>
    obtain ⟨hname, hnames⟩ := List.forall_mem_cons.mp hnames
    rw [wrapAll, List.flatMap_cons, List.append_assoc]
    by_cases htext : IsText field.2
    · have hrest := fun hall => hfields (List.forall_mem_cons.mpr ⟨htext, hall⟩)
      exact (ih hnames hrest).field hname htext
    · exact leads_field_none hname htext _

end

/-! ### The root -/

/-- What a root comes to that is written around some fields. -/
theorem leads_record {root : String} (hroot : IsTagName root.toList)
    {fields : List (String × List Char)} (hnames : ∀ field ∈ fields, IsTagName field.1.toList) :
    (plain .prolog .ground .content [] []).Leads (renderElement root
        (fields.map fun field => wrap field.1 (escape field.2)))
      (if ∀ field ∈ fields, IsText field.2 then
        some (.element root (fieldNodes fields))
      else none) := by
  cases hempty : fields.isEmpty with
  | true =>
    obtain rfl := List.isEmpty_iff.mp hempty
    obtain ⟨document, htake, hutf8, hfeed⟩ := feed_emptyTag hroot
    rw [String.ofList_toList] at hfeed
    rw [List.map_nil, renderElement_nil, if_pos (fun _ h => nomatch h)]
    refine Leads.of_take (Draft.leads_root ?_ hfeed) htake
    rw [hutf8]
    rfl
  | false =>
    rw [renderElement_of_fields hempty, ← List.append_nil (wrap root _), wrap_append]
    refine Leads.of_take ?_ (take_startTag .prolog (fun h => nomatch h) hroot)
    split
    · next hfields =>
      refine Leads.fields hnames hfields ?_
      apply (after_nil _).leads_root hroot
      · rfl
      · simp [opening]
    · next hfields => exact leads_fields_none hnames hfields _

end Draft

/-! ### Documents -/

theorem IsTagName.not_mem_return {name : List Char} (h : IsTagName name) : '\r' ∉ name := by
  intro hmem
  exact ne_of_isAlpha (h.2 _ hmem) (d := '\r') rfl rfl

/-- The line ends of an element are those of its content. -/
theorem lines_wrap_append {name : String} (hname : IsTagName name.toList)
    {content content' : List Char} (hcontent : ∀ rest, (∀ d ∈ rest.head?, d ≠ '\n') →
      lines (content ++ rest) = content' ++ lines rest) (rest : List Char) :
    lines (wrap name content ++ rest) = wrap name content' ++ lines rest := by
  have hreturn := hname.not_mem_return
  have hstart : '\r' ∉ '<' :: name.toList ++ ['>'] := by simp [hreturn]
  have hend : '\r' ∉ '<' :: '/' :: name.toList := by simp [hreturn]
  rw [wrap_append, wrap_append, lines_append hstart, hcontent, lines_append hend,
    lines_cons (by decide)]
  intro d hd
  obtain rfl : '<' = d := Option.some.inj hd
  decide

section
variable {fields : List (String × List Char)}

/-- The fields with the line ends of their texts. -/
def linesAll (fields : List (String × List Char)) : List (String × List Char) :=
  fields.map fun field => (field.1, lines field.2)

theorem lines_wrapAll_append (hnames : ∀ field ∈ fields, IsTagName field.1.toList)
    (rest : List Char) :
    lines (wrapAll fields ++ rest) = wrapAll (linesAll fields) ++ lines rest := by
  induction fields with
  | nil => rfl
  | cons field fields ih =>
    obtain ⟨hname, hnames⟩ := List.forall_mem_cons.mp hnames
    rw [wrapAll, List.flatMap_cons, List.append_assoc, lines_wrap_append hname
      fun _ => lines_escape_append, ← wrapAll, ih hnames, ← List.append_assoc]
    rfl

theorem isText_lines {cs : List Char} : IsText (lines cs) ↔ IsText cs := by
  unfold IsText
  fun_induction lines cs with
  | case1 => rfl
  | case2 cs ih =>
    rw [List.forall_mem_cons, List.forall_mem_cons, List.forall_mem_cons, ih]
    simp [show Version.v10.isChar '\r' from rfl]
  | case3 c cs _ ih =>
    rw [List.forall_mem_cons, List.forall_mem_cons, ih]
    split
    · next hc => rw [hc]; rfl
    · rfl

theorem lines_renderElement {root : String} (hroot : IsTagName root.toList)
    (hnames : ∀ field ∈ fields, IsTagName field.1.toList) :
    lines (renderElement root (fields.map fun field => wrap field.1 (escape field.2))) =
      renderElement root ((linesAll fields).map fun field => wrap field.1 (escape field.2)) := by
  cases hempty : fields.isEmpty with
  | true =>
    obtain rfl := List.isEmpty_iff.mp hempty
    have hreturn : '\r' ∉ '<' :: root.toList ++ [' ', '/'] := by simp [hroot.not_mem_return]
    have hend : lines ['>'] = ['>'] := rfl
    have hlines := lines_append hreturn ['>']
    rw [hend, ← renderElement_nil] at hlines
    exact hlines
  | false =>
    have hempty' : (linesAll fields).isEmpty = false := by rw [linesAll, List.isEmpty_map, hempty]
    have hlines := lines_wrap_append hroot (fun rest _ => lines_wrapAll_append hnames rest) []
    rw [renderElement_of_fields hempty, renderElement_of_fields hempty']
    simpa [lines] using hlines

/-- The document of a root with some fields. -/
theorem parse?_record {root : String} (hroot : IsTagName root.toList)
    (hnames : ∀ field ∈ fields, IsTagName field.1.toList) :
    parse? (Utf8.encode (document (renderElement root
        (fields.map fun field => wrap field.1 (escape field.2))))) =
      if ∀ field ∈ fields, IsText field.2 then
        some (.element root (fieldNodes (linesAll fields)))
      else none := by
  have hnames' : ∀ field ∈ linesAll fields, IsTagName field.1.toList :=
    List.forall_mem_map.mpr hnames
  have hchars : (∀ field ∈ linesAll fields, IsText field.2) ↔
      ∀ field ∈ fields, IsText field.2 := by
    rw [linesAll, List.forall_mem_map]
    simp only [isText_lines]
  have hleads := Draft.leads_record hroot hnames'
  simp only [hchars] at hleads
  apply parse?_header
  rw [lines_renderElement hroot hnames]
  exact hleads

end

end StoreClient.Xml
