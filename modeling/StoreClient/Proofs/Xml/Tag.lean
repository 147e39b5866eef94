import Mathlib.Data.List.TakeWhile
import StoreClient.Proofs.Xml.Reading

/-!
Tags whose names are made of letters. Such a tag has no attributes and declares nothing, so all that
comes of it is an element that is opened (`Draft.take_startTag`), closed (`Draft.feed_endTag`) or
both (`Draft.feed_emptyTag`).
-/

namespace StoreClient.Xml

/-- A name that is made of letters alone. -/
def IsTagName (name : List Char) : Prop := name ≠ [] ∧ ∀ c ∈ name, c.isAlpha

instance (name : List Char) : Decidable (IsTagName name) :=
  haveI := List.decidableBAll (fun c : Char => c.isAlpha = true) name
  inferInstanceAs (Decidable (_ ∧ _))

/-! ### Letters -/

section
variable {c d : Char} (hc : c.isAlpha)
include hc

theorem ne_of_isAlpha (hd : d.isAlpha = false) : c ≠ d := by
  rintro rfl
  rw [hc] at hd
  cases hd

theorem isNameStart_of_isAlpha : isNameStart c := by simp [isNameStart, hc]

theorem isNameChar_of_isAlpha : isNameChar c := by simp [isNameChar, isNameStart_of_isAlpha hc]

theorem single?_of_isAlpha : Token.single? c = none := by
  rw [Token.single?] <;> exact ne_of_isAlpha hc rfl

theorem ground_of_isAlpha (mode : Mode) :
    ({ mode } : Scanner).ground c = ({}, [.char c]) := by
  rw [Scanner.ground, if_neg (ne_of_isAlpha hc rfl)]
  simp only [Scanner.enter, Bool.false_eq_true, if_false, if_neg (ne_of_isAlpha hc (d := '/') rfl),
    if_neg (ne_of_isAlpha hc (d := ']') rfl), if_neg (ne_of_isAlpha hc (d := '=') rfl),
    single?_of_isAlpha hc, Option.getD_none]

/-- After `<` a letter begins the name of a tag. -/
theorem opened?_of_isAlpha :
    ({ mode := .opened [] } : Scanner).opened? [] c = some ({}, [.tagStart, .char c]) := by
  have hmark : Scanner.openingMarks.find? (·.1 = [c]) = none := by
    simp [Scanner.openingMarks, (ne_of_isAlpha hc (d := '/') rfl).symm,
      (ne_of_isAlpha hc (d := '?') rfl).symm]
  have hprefix : (Scanner.openingMarks.any fun mark => [c].isPrefixOf mark.1) = false := by
    simp [Scanner.openingMarks, List.isPrefixOf, ne_of_isAlpha hc (d := '/') rfl,
      ne_of_isAlpha hc (d := '?') rfl, ne_of_isAlpha hc (d := '!') rfl]
  simp [Scanner.opened?, hmark, hprefix, isNameChar_of_isAlpha hc, ground_of_isAlpha hc,
    Scanner.after]

theorem Name.step_of_isAlpha (ends : Token → Bool) (read : List Char) :
    Name.step ends read (.char c) = some (.more (c :: read)) := by
  have hcolon : c ≠ ':' := ne_of_isAlpha hc rfl
  simp [Name.step, hcolon, isNameStart_of_isAlpha hc, isNameChar_of_isAlpha hc]

end

theorem IsTagName.parse? {name : List Char} (h : IsTagName name) :
    Name.parse? name = some ⟨none, name⟩ := by
  have hcolon : name.dropWhile (· ≠ ':') = [] := by
    rw [List.dropWhile_eq_nil_iff]
    intro c hc
    simpa using ne_of_isAlpha (h.2 c hc) (d := ':') rfl
  rw [Name.parse?, hcolon]
  simp [h.1]

section
variable {name : List Char} (h : IsTagName name) (ends : Token → Bool)
include h

/-- White space ends a name. -/
theorem IsTagName.step_space :
    Name.step ends name.reverse (.char ' ') = some (.done ⟨none, name⟩) := by
  have hspace : isNameChar ' ' = false := by decide
  simp [Name.step, h.parse?, h.1, hspace, isSpace]

/-- A tag ends a name where it may. -/
theorem IsTagName.step_tagEnd (hends : ends .tagEnd) :
    Name.step ends name.reverse .tagEnd = some (.done ⟨none, name⟩) := by
  simp [Name.step, h.parse?, hends]

end

/-- A tag without attributes declares nothing. -/
theorem Tag.scope?_of_plain (name : List Char) (outer : Scope) :
    ({ name := ⟨none, name⟩ } : Tag).scope? outer = some outer := by
  simp [Tag.scope?, Scope.knows]

namespace Draft

/-- A document without declarations of its own. -/
def plain (stage : Stage) (mode : Mode) (place : Place) (elements : List Open)
    (text : List Char) : Draft where
  scanner := { mode }
  encoding := .utf8
  stage
  place
  elements
  text

/-- The element that a tag opens within others. -/
def opening (name : List Char) (elements : List Open) : Open where
  name := ⟨none, name⟩
  scope := (elements.head?.map Open.scope).getD Scope.outermost

variable {stage : Stage} {name : List Char} {elements outer : List Open} {element : Open}

/-- Letters join a name that is being read. -/
theorem take_letters {place : List Char → Place}
    (hstep : ∀ (document : Draft) read c, Char.isAlpha c → document.place = place read →
      document.step (.char c) = some (.next (document.move (place (c :: read)))))
    {cs : List Char} (hcs : ∀ c ∈ cs, c.isAlpha) (read : List Char) :
    (plain .root .ground (place read) elements []).take cs =
      some (plain .root .ground (place (cs.reverse ++ read)) elements []) := by
  induction cs generalizing read with
  | nil => rfl
  | cons c cs ih =>
    obtain ⟨hc, hcs⟩ := List.forall_mem_cons.mp hcs
    have hfeed : (plain .root .ground (place read) elements []).feed c =
        some (.next (plain .root .ground (place (c :: read)) elements [])) := by
      have hscan : (plain .root .ground (place read) elements []).scanner.feed c =
          some ({}, [.char c]) := congrArg some (ground_of_isAlpha hc .ground)
      rw [feed, hscan]
      change steps _ [.char c] = _
      rw [steps, hstep _ read c hc rfl]
      rfl
    rw [take_cons rfl hfeed, ih hcs, List.reverse_cons, List.append_assoc,
      List.singleton_append]

theorem step_tagName (document : Draft) (read : List Char) (c : Char) (hc : c.isAlpha)
    (hplace : document.place = .tagName read) :
    document.step (.char c) = some (.next (document.move (.tagName (c :: read)))) := by
  rw [step, hplace]
  change document.stepTagName read (.char c) = _
  rw [stepTagName, Name.step_of_isAlpha hc]
  rfl

theorem step_endName (document : Draft) (read : List Char) (c : Char) (hc : c.isAlpha)
    (hplace : document.place = .endName read) :
    document.step (.char c) = some (.next (document.move (.endName (c :: read)))) := by
  rw [step, hplace]
  change document.stepEndName read (.char c) = _
  rw [stepEndName, Name.step_of_isAlpha hc]
  rfl

/-! ### Opening an element -/

/-- A name that is read to its end may be that of an element. -/
theorem stepTagName_of_done {document : Draft} {read : List Char} {t : Token}
    (h : Name.step (fun t => t = .tagEnd || t = .emptyTagEnd) read t = some (.done ⟨none, name⟩)) :
    document.stepTagName read t =
      if t = .tagEnd || t = .emptyTagEnd then
        document.openElement { name := ⟨none, name⟩ } (t = .emptyTagEnd)
      else some (.next (document.move (.tag { name := ⟨none, name⟩ }))) := by
  rw [stepTagName, h]
  rfl

section
variable (stage) (hstage : stage = .root → elements ≠ []) (hname : IsTagName name)
include hstage hname

/-- The name of a tag is read. In the root, and before it, there may be tags. -/
theorem take_tagName :
    (plain stage .ground .content elements []).take ('<' :: name) =
      some (plain .root .ground (.tagName name.reverse) elements []) := by
  obtain ⟨c, cs, rfl⟩ := List.exists_cons_of_ne_nil hname.1
  obtain ⟨hc, hcs⟩ := List.forall_mem_cons.mp hname.2
  have hopen : (plain stage .ground .content elements []).feed '<' =
      some (.next (plain stage (.opened []) .content elements [])) := rfl
  have hfeed : (plain stage (.opened []) .content elements []).feed c =
      some (.next (plain .root .ground (.tagName [c]) elements [])) := by
    have hflush : (plain stage .ground .content elements []).flush =
        plain stage .ground .content elements [] := by
      cases elements <;> rfl
    have hscan : (plain stage (.opened []) .content elements []).scanner.feed c =
        some ({}, [.tagStart, .char c]) := opened?_of_isAlpha hc
    have hplace : (!elements.isEmpty || decide (stage ≠ .root)) = true := by
      by_cases h : stage = .root
      · simp [hstage h]
      · simp [h]
    rw [feed, hscan]
    change steps (plain stage .ground .content elements []) [.tagStart, .char c] = _
    have htag : (plain stage .ground .content elements []).step .tagStart =
        some (.next (plain .root .ground (.tagName []) elements [])) := by
      refine (if_pos hplace).trans ?_
      rw [hflush]
      rfl
    rw [steps, htag]
    change steps _ [.char c] = _
    rw [steps, step_tagName _ [] c hc rfl]
    rfl
  rw [take_cons rfl hopen, take_cons rfl hfeed, take_letters step_tagName hcs, List.reverse_cons]

/-- A start tag opens an element. -/
theorem take_startTag :
    (plain stage .ground .content elements []).take ('<' :: name ++ ['>']) =
      some (plain .root .ground .content (opening name elements :: elements) []) := by
  have hfeed : (plain .root .ground (.tagName name.reverse) elements []).feed '>' =
      some (.next (plain .root .ground .content (opening name elements :: elements) [])) := by
    change steps (plain .root .ground (.tagName name.reverse) elements []) [.tagEnd] = _
    have hstep : (plain .root .ground (.tagName name.reverse) elements []).step .tagEnd =
        some (.next (plain .root .ground .content (opening name elements :: elements) [])) := by
      refine (stepTagName_of_done (hname.step_tagEnd _ rfl)).trans ?_
      simp [openElement, Tag.scope?_of_plain, opening]
      rfl
    rw [steps, hstep]
    rfl
  rw [take_append, take_tagName stage hstage hname, Option.bind_some, take_cons rfl hfeed, take]

end

/-- The root may be a tag that ends its element. -/
theorem feed_emptyTag (hname : IsTagName name) :
    ∃ document, (plain .prolog .ground .content [] []).take ('<' :: name ++ [' ', '/']) =
        some document ∧ document.encoding = .utf8 ∧
      document.feed '>' = some (.root (.element (String.ofList name) [])) := by
  have hfeed : (plain .root .ground (.tagName name.reverse) [] []).feed ' ' =
      some (.next (plain .root .ground (.tag { name := ⟨none, name⟩ }) [] [])) := by
    change steps (plain .root .ground (.tagName name.reverse) [] []) [.char ' '] = _
    have hstep : (plain .root .ground (.tagName name.reverse) [] []).step (.char ' ') =
        some (.next (plain .root .ground (.tag { name := ⟨none, name⟩ }) [] [])) :=
      stepTagName_of_done (hname.step_space _)
    rw [steps, hstep]
    rfl
  refine ⟨plain .root .slash (.tag { name := ⟨none, name⟩ }) [] [], ?_, rfl, ?_⟩
  · rw [take_append, take_tagName .prolog (by decide) hname, Option.bind_some,
      take_cons rfl hfeed]
    rfl
  · change steps (plain .root .ground (.tag { name := ⟨none, name⟩ }) [] []) [.emptyTagEnd] = _
    have hstep : (plain .root .ground (.tag { name := ⟨none, name⟩ }) [] []).step .emptyTagEnd =
        some (.root (.element (String.ofList name) [])) := by
      change openElement _ { name := ⟨none, name⟩ } true = _
      rw [openElement, Tag.scope?_of_plain]
      rfl
    rw [steps, hstep]

/-! ### Closing an element -/

/-- The text before an end tag joins the element, and the name of the tag is read. -/
theorem take_endName (hname : ∀ c ∈ name, c.isAlpha) (text : List Char) :
    (plain .root (.opened []) .content (element :: outer) text).take ('/' :: name) =
      some (plain .root .ground (.endName name.reverse)
        (element.addText text.reverse :: outer) []) := by
  have hfeed : (plain .root (.opened []) .content (element :: outer) text).feed '/' =
      some (.next (plain .root .ground (.endName []) (element.addText text.reverse :: outer) [])) :=
    rfl
  rw [take_cons rfl hfeed, take_letters step_endName hname, List.append_nil]

section
variable (hname : IsTagName name) (helement : element.name = ⟨none, name⟩)
include hname helement

theorem feed_endTag : (plain .root .ground (.endName name.reverse) (element :: outer) []).feed '>' =
    some ((plain .root .ground (.endName name.reverse) (element :: outer) []).close
      element.node outer) := by
  change steps (plain .root .ground (.endName name.reverse) (element :: outer) []) [.tagEnd] = _
  have hstep : (plain .root .ground (.endName name.reverse) (element :: outer) []).step .tagEnd =
      some ((plain .root .ground (.endName name.reverse) (element :: outer) []).close
        element.node outer) := by
    change stepEndName _ name.reverse .tagEnd = _
    rw [stepEndName, hname.step_tagEnd _ rfl]
    exact if_pos helement
  rw [steps, hstep]
  cases outer <;> rfl

end

end Draft

end StoreClient.Xml
