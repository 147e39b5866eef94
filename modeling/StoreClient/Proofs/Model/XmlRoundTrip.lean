import Mathlib.Data.List.ReduceOption
import StoreClient.Proofs.Media.Format
import StoreClient.Proofs.NameMap
import StoreClient.Proofs.Xml.Value

/-!
What is sent as XML is not always read back. A field is written as an element around a text, and
what is read back of it is the text as it settles: its line ends are line feeds, and the white space
around it is gone (`Field.Settles`). Numbers are not changed by that. So a record is read back with
all its texts settled, or not at all if one of them has a character that no document may hold
(`Schema.decode_renderXml`), and a body is decoded to what it was made from exactly if every text of
it is kept (`decodeBody_encode_xml`).
-/

namespace StoreClient

open Xml (textNodes lines wrap escape settle)

/-! ### Codecs -/

/-- A codec writes a value as a text, and reads from it the value as it settles. -/
structure Codec.Settles {β : Type} (codec : Codec β) (text : β → List Char) (settled : β → β) :
    Prop where
  render : ∀ name b, codec.renderXml name b = wrap name (escape (text b))
  read : ∀ b, codec.readXml (textNodes (lines (text b))) = some (settled b)

namespace Codec

theorem settles_text : text.Settles String.toList settle where
  render _ _ := rfl
  read s := Xml.Reader.text_textNodes s.toList

theorem settles_int64 : int64.Settles (fun i => (toString i.toInt).toList) id where
  render name i := by
    rw [Xml.escape_of_isNumeral (Xml.isNumeral_of_mem_toString _)]
    rfl
  read i := by
    have hbounds := And.intro i.minValue_le_toInt i.toInt_le
    have hread := congrArg (Option.map Int64.ofInt) (Xml.Reader.int_textNodes hbounds)
    rwa [Option.map_some, Int64.ofInt_toInt] at hread

theorem settles_int32 : int32.Settles (fun i => (toString i.toInt).toList) id where
  render name i := by
    rw [Xml.escape_of_isNumeral (Xml.isNumeral_of_mem_toString _)]
    rfl
  read i := by
    have hbounds := And.intro i.minValue_le_toInt i.toInt_le
    have hread := congrArg (Option.map Int32.ofInt) (Xml.Reader.int_textNodes hbounds)
    rwa [Option.map_some, Int32.ofInt_toInt] at hread

end Codec

/-! ### Fields -/

namespace Field

variable {α β : Type} {name : String} {codec : Codec β}

/-- What a field of `v` makes of a record when it is read back: the text that it is written as, if
it is, and the change that is read from it. -/
inductive Settles (f : Field α) (v : α) : Option (List Char) × (α → α) → Prop where
  | written {text : List Char} {change : α → α}
      (hrender : f.renderXml? v = some (wrap f.name (escape text)))
      (hread : f.readXml (textNodes (lines text)) = some change) : Settles f v (some text, change)
  | absent {change : α → α} (hrender : f.renderXml? v = none) (hid : ∀ a, change a = a) :
      Settles f v (none, change)

theorem settles_optional {text : β → List Char} {settled : β → β}
    (hcodec : codec.Settles text settled) {get : α → Option β} {set : Option β → α → α}
    (hset : ∀ a, set (get a) a = a) (v : α) :
    (optional name codec get set).Settles v
      ((get v).map text, fun a => set (((get v).map settled).or (get a)) a) := by
  cases hget : get v with
  | none => exact .absent (congrArg (Option.map (codec.renderXml name)) hget) hset
  | some b =>
    refine .written ?_ ?_
    · refine (congrArg (Option.map (codec.renderXml name)) hget).trans ?_
      exact congrArg some (hcodec.render name b)
    · exact congrArg (Option.map fun b => set (some b)) (hcodec.read b)

end Field

/-! ### Records -/

namespace Schema

variable {α : Type} {v : α} {fields : List (Field α)}
  {outcomes : List (Option (List Char) × (α → α))}

/-- The texts that a record is written as, with the names of their fields. -/
def texts (fields : List (Field α)) (outcomes : List (Option (List Char) × (α → α))) :
    List (String × List Char) :=
  (fields.zip outcomes).filterMap fun pair => pair.2.1.map (pair.1.name, ·)

theorem texts_cons_some (f : Field α) (text : List Char) (change : α → α) :
    texts (f :: fields) ((some text, change) :: outcomes) =
      (f.name, text) :: texts fields outcomes := rfl

theorem texts_cons_none (f : Field α) (change : α → α) :
    texts (f :: fields) ((none, change) :: outcomes) = texts fields outcomes := rfl

theorem filterMap_renderXml?
    (h : List.Forall₂ (fun f outcome => f.Settles v outcome) fields outcomes) :
    fields.filterMap (fun f => f.renderXml? v) =
      (texts fields outcomes).map fun field => wrap field.1 (escape field.2) := by
  induction h with
  | nil => rfl
  | cons hf _ ih =>
    rw [List.filterMap_cons, ih]
    cases hf with
    | written hrender =>
      rw [hrender, texts_cons_some]
      rfl
    | absent hrender => rw [hrender, texts_cons_none]

theorem forall_mem_texts (P : List Char → Prop)
    (h : List.Forall₂ (fun f outcome => f.Settles v outcome) fields outcomes) :
    (∀ field ∈ texts fields outcomes, P field.2) ↔
      ∀ outcome ∈ outcomes, ∀ text ∈ outcome.1, P text := by
  induction h with
  | nil => simp [texts]
  | cons hf _ ih =>
    rw [List.forall_mem_cons, ← ih]
    cases hf with
    | written => simp [texts_cons_some]
    | absent => simp [texts_cons_none]

theorem names_texts_subset :
    ∀ name ∈ (texts fields outcomes).map (·.1), name ∈ fields.map (·.name) := by
  intro name hname
  obtain ⟨field, hfield, rfl⟩ := List.mem_map.mp hname
  obtain ⟨⟨f, outcome⟩, hpair, hfield⟩ := List.mem_filterMap.mp hfield
  obtain ⟨text, -, rfl⟩ := Option.map_eq_some_iff.mp hfield
  exact List.mem_map_of_mem (List.of_mem_zip hpair).1

/-- Reading the elements of the fields makes all their changes. -/
theorem readChildren_texts {children : List (Xml.Child α)}
    (hchildren : ∀ f ∈ fields, children.find? (·.name = f.name) = some ⟨f.name, f.readXml⟩)
    (hdistinct : (fields.map (·.name)).Nodup) {seen : List String}
    (hseen : ∀ f ∈ fields, f.name ∉ seen)
    (h : List.Forall₂ (fun f outcome => f.Settles v outcome) fields outcomes) (a : α) :
    Xml.readChildren children seen a (Xml.fieldNodes (Xml.linesAll (texts fields outcomes))) =
      some (outcomes.foldl (fun a outcome => outcome.2 a) a) := by
  induction h generalizing seen a with
  | nil => rfl
  | @cons f outcome fields outcomes hf _ ih =>
    obtain ⟨hchild, hchildren⟩ := List.forall_mem_cons.mp hchildren
    obtain ⟨hname, hdistinct⟩ := List.nodup_cons.mp hdistinct
    obtain ⟨hunseen, hseen⟩ := List.forall_mem_cons.mp hseen
    rw [List.foldl_cons]
    cases hf with
    | @written text change hrender hread =>
      have hseen' : ∀ g ∈ fields, g.name ∉ f.name :: seen := by
        intro g hg hmem
        obtain hmem | hmem := List.mem_cons.mp hmem
        · exact hname (List.mem_map.mpr ⟨g, hg, hmem⟩)
        · exact hseen g hg hmem
      refine Eq.trans ?_ (ih hchildren hdistinct hseen' (change a))
      change Xml.readChildren children seen a (.element f.name (textNodes (lines text)) :: _) = _
      rw [Xml.readChildren, hchild]
      simp only [if_neg hunseen, hread]
      rfl
    | @absent change _ hid =>
      refine (ih hchildren hdistinct hseen a).trans ?_
      exact congrArg (fun a => some (outcomes.foldl (fun a outcome => outcome.2 a) a)) (hid a).symm

/-- A record is read back with its texts settled unless no document may hold them. -/
theorem decode_renderXml {schema : Schema α} (hroot : Xml.IsTagName schema.name.toList)
    (hnames : ∀ name ∈ schema.fields.map (·.name), Xml.IsTagName name.toList)
    (hdistinct : (schema.fields.map (·.name)).Nodup)
    (h : List.Forall₂ (fun f outcome => f.Settles v outcome) schema.fields outcomes) :
    Xml.decode schema.codec.readXml (Utf8.encode (schema.renderXml v)) =
      if ∀ outcome ∈ outcomes, ∀ text ∈ outcome.1, Xml.IsText text then
        .ok (outcomes.foldl (fun a outcome => outcome.2 a) schema.blank)
      else .error .malformed := by
  have htags : ∀ field ∈ texts schema.fields outcomes, Xml.IsTagName field.1.toList :=
    fun field hfield => hnames _ (names_texts_subset _ (List.mem_map_of_mem hfield))
  have hparse := Xml.parse?_record hroot htags
  rw [← filterMap_renderXml? h] at hparse
  have hchildren : ∀ f ∈ schema.fields,
      (schema.fields.map fun f => (⟨f.name, f.readXml⟩ : Xml.Child α)).find? (·.name = f.name) =
        some ⟨f.name, f.readXml⟩ := by
    intro f hf
    rw [List.find?_map]
    exact congrArg (Option.map _) (find?_of_nodup hdistinct hf)
  have hread := readChildren_texts hchildren hdistinct (fun _ _ => List.not_mem_nil) h schema.blank
  have hchars : (∀ field ∈ texts schema.fields outcomes, Xml.IsText field.2) ↔
      ∀ outcome ∈ outcomes, ∀ text ∈ outcome.1, Xml.IsText text :=
    forall_mem_texts Xml.IsText h
  simp only [hchars] at hparse
  have hdocument : Xml.parse? (Utf8.encode (schema.renderXml v)) = _ := hparse
  have hrecord : schema.codec.readXml
      (Xml.fieldNodes (Xml.linesAll (texts schema.fields outcomes))) = _ := hread
  rw [Xml.decode, hdocument]
  by_cases hall : ∀ outcome ∈ outcomes, ∀ text ∈ outcome.1, Xml.IsText text
  · rw [if_pos hall, if_pos hall]
    simp only [hrecord]
  · rw [if_neg hall, if_neg hall]

end Schema

/-! ### Users -/

namespace User

/-- The texts of a user. -/
def texts (user : User) : List String :=
  [user.username, user.firstName, user.lastName, user.email, user.password, user.phone].reduceOption

/-- A user whose texts are as they are read back. -/
def settled (user : User) : User :=
  { user with
    username := user.username.map settle
    firstName := user.firstName.map settle
    lastName := user.lastName.map settle
    email := user.email.map settle
    password := user.password.map settle
    phone := user.phone.map settle }

theorem mem_texts {user : User} {text : String} : text ∈ user.texts ↔
    user.username = some text ∨ user.firstName = some text ∨ user.lastName = some text ∨
      user.email = some text ∨ user.password = some text ∨ user.phone = some text := by
  simp [texts, List.reduceOption_mem_iff, eq_comm]

theorem settled_eq_self_iff {user : User} :
    user.settled = user ↔ ∀ text ∈ user.texts, settle text = text := by
  have hmap {o : Option String} :
      o.map settle = o ↔ ∀ text, o = some text → settle text = text := by
    cases o <;> simp
  simp only [mem_texts, or_imp, forall_and, ← hmap]
  rw [settled]
  cases user
  simp

theorem decode_renderXml (user : User) :
    Xml.decode schema.codec.readXml (Utf8.encode (schema.renderXml user)) =
      if ∀ text ∈ user.texts, Xml.IsText text.toList then .ok user.settled else .error .malformed := by
  have htext {name : String} {get : User → Option String} {set : Option String → User → User}
      (hset : ∀ u, set (get u) u = u) :
      (Field.optional name .text get set).Settles user
        ((get user).map String.toList, fun u => set (((get user).map settle).or (get u)) u) :=
    Field.settles_optional Codec.settles_text hset user
  have h : List.Forall₂ (fun f outcome => Field.Settles f user outcome) schema.fields _ :=
    .cons (Field.settles_optional Codec.settles_int64 (fun _ => rfl) user) <|
      .cons (htext fun _ => rfl) <| .cons (htext fun _ => rfl) <| .cons (htext fun _ => rfl) <|
      .cons (htext fun _ => rfl) <| .cons (htext fun _ => rfl) <| .cons (htext fun _ => rfl) <|
      .cons (Field.settles_optional Codec.settles_int32 (fun _ => rfl) user) .nil
  have hnumeral (i : Int) : Xml.IsText i.repr.toList ↔ True :=
    iff_true_intro (Xml.isText_of_isNumeral (Xml.isNumeral_of_mem_toString i))
  refine (Schema.decode_renderXml (by decide) (by decide) (by decide) h).trans ?_
  refine if_congr ?_ ?_ rfl
  · simp [mem_texts, hnumeral, or_imp, forall_and]
  · simp [schema, settled]

end User

/-! ### Bodies -/

theorem lossyText_ofString (s : String) : lossyText (Utf8.ofString s) = s := by
  rw [lossyText, Utf8.ofString, Utf8.decodeLossy_encode, String.ofList_toList]

theorem decodeXml_renderXml (user : User) :
    decodeXml (Utf8.ofString (String.ofList (User.schema.renderXml user))) =
      if ∀ text ∈ user.texts, Xml.IsText text.toList then .ok user.settled
      else .error (.xml .malformed (String.ofList (User.schema.renderXml user))) := by
  have hdecode : Decodable.decodeXml (Utf8.ofString (String.ofList (User.schema.renderXml user))) =
      if ∀ text ∈ user.texts, Xml.IsText text.toList then .ok user.settled else .error .malformed := by
    rw [Utf8.ofString, String.toList_ofList]
    exact User.decode_renderXml user
  rw [decodeXml, hdecode, lossyText_ofString]
  split <;> rfl

section
variable {contentType : String} (hxml : Media.isOf .xml contentType)
  (hjson : Media.isOf .json contentType = false) {returnType : ReturnType}
  (hreturn : returnType ≠ .nothing) (user : User)
include hxml hjson hreturn

theorem decodeBody_renderXml : decodeBody returnType (some contentType)
    (Utf8.ofString (String.ofList (User.schema.renderXml user))) =
      if ∀ text ∈ user.texts, Xml.IsText text.toList then .ok user.settled
      else .error (.xml .malformed (String.ofList (User.schema.renderXml user))) := by
  have hbody : Utf8.ofString (String.ofList (User.schema.renderXml user)) ≠ [] := by
    rw [Utf8.ofString, String.toList_ofList, ← List.isEmpty_eq_false_iff]
    rfl
  rw [Media.reads_xml hjson hxml User returnType _ hreturn hbody, Media.Format.read,
    decodeXml_renderXml]

/-- The body of a user that is sent as XML. It is decoded to the user with all texts settled unless
a text has a character that no document may hold, and so to the user itself exactly if each text is
kept. -/
theorem decodeBody_encode_xml :
    ∃ body, (Payload.entity user).encode contentType = .ok (some body) ∧
      decodeBody returnType (some contentType) (Utf8.ofString body) =
        (if ∀ text ∈ user.texts, Xml.IsText text.toList then .ok user.settled
          else .error (.xml .malformed body)) ∧
      (decodeBody returnType (some contentType) (Utf8.ofString body) = .ok user ↔
        ∀ text ∈ user.texts, Xml.Kept text) := by
  have hdecode := decodeBody_renderXml hxml hjson hreturn user
  have hkept : (∀ text ∈ user.texts, Xml.Kept text) ↔
      (∀ text ∈ user.texts, Xml.IsText text.toList) ∧ user.settled = user := by
    rw [User.settled_eq_self_iff, ← forall₂_and]
    simp only [Xml.kept_iff]
  refine ⟨String.ofList (User.schema.renderXml user), ?_, hdecode, ?_⟩
  · rw [Payload.encode, if_pos hxml]
    rfl
  · rw [hdecode, hkept]
    split
    · next htexts => rw [Except.ok.injEq, and_iff_right htexts]
    · next htexts => simp [htexts]

end

/-- A user whose texts have markup in them or nothing. -/
def User.marked : User where
  id := some Int64.minValue
  username := some "<a> & ]]/\n\"é"
  phone := some ""

/-- Markup, an inner line feed, an empty text and the least of all numbers are kept. -/
theorem decodeBody_encode_xml_marked :
    ∃ body, (Payload.entity User.marked).encode "text/xml; charset=utf-8" = .ok (some body) ∧
      decodeBody (.model "User") (some "text/xml; charset=utf-8") (Utf8.ofString body) =
        .ok User.marked := by
  obtain ⟨body, hbody, -, hkept⟩ := @decodeBody_encode_xml "text/xml; charset=utf-8"
    (by decide) (by decide) (.model "User") (by decide) User.marked
  refine ⟨body, hbody, hkept.mpr fun text htext => Xml.kept_iff.mpr ?_⟩
  revert text
  decide

/-- A space in front of a text is lost. -/
theorem decodeBody_encode_xml_space :
    Media.isOf .xml "application/xml" ∧ Media.isOf .json "application/xml" = false ∧
    ∃ body, (Payload.entity (User.named " user1")).encode "application/xml" = .ok (some body) ∧
      decodeBody (.model "User") (some "application/xml") (Utf8.ofString body) =
        .ok (User.named "user1") ∧
      User.named "user1" ≠ User.named " user1" := by
  have hxml : Media.isOf .xml "application/xml" := by decide
  have hjson : Media.isOf .json "application/xml" = false := by decide
  have hdecode := @decodeBody_renderXml "application/xml" hxml hjson (.model "User") (by decide)
    (User.named " user1")
  rw [if_pos (by decide)] at hdecode
  exact ⟨hxml, hjson, _, by rfl, hdecode, by decide⟩

end StoreClient
