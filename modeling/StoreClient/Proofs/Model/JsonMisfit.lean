import StoreClient.Proofs.Json.Refuse
import StoreClient.Proofs.Model.JsonMeaning

/-!
Where JSON bodies of users are refused. A user with a misfit, which is a field whose value is no
value that the field takes, is refused at this field, and a list at this field of the first such
user (`decodeBody_misfit`): the path of the failure leads there, whatever precedes it in the body.
-/

namespace StoreClient

open Json (Blank Misfit Refuses)

namespace Json

theorem renderPath_member (name : String) : renderPath [.member name] = name :=
  String.append_empty

theorem renderPath_item_member (i : Nat) (name : String) :
    renderPath [.item i, .member name] = s!"[{i}].{name}" := by
  have hmark : "]." = "]" ++ "." := rfl
  change "[" ++ toString i ++ "]" ++ ("." ++ name ++ "") = "[" ++ toString i ++ "]." ++ name
  simp only [hmark, String.append_empty, String.append_assoc]

end Json

namespace Field

variable {α β : Type} {name : String} {codec : Codec β}

theorem isFlat_optional (h : codec.readJson.IsFlat) (get : α → Option β) (set : Option β → α → α) :
    (optional name codec get set).readJson.IsFlat := h.optional.map set

end Field

theorem Schema.refuses {α : Type} {schema : Schema α} {known : List (Json.MemberMeaning α)}
    (h : List.Forall₂ (fun f m => Json.Member.Recognizes ⟨f.name, f.readJson⟩ m)
      schema.fields known)
    (hflat : ∀ f ∈ schema.fields, f.readJson.IsFlat) {name : String} {text : Bytes}
    (hmisfit : Misfit known name text) : Refuses schema.codec.readJson text [.member name] :=
  hmisfit.refuses (List.forall₂_map_left_iff.mpr h) (List.forall_mem_map.mpr hflat) schema.name
    schema.blank

namespace User

theorem isFlat_fields : ∀ f ∈ schema.fields, f.readJson.IsFlat := by
  have hint : ∀ low high type, (Json.Reader.int low high type).IsFlat := Json.Reader.isFlat_int
  have htext : Codec.text.readJson.IsFlat := Json.Reader.isFlat_text
  simp only [schema, List.forall_mem_cons]
  refine ⟨?_, ?_, ?_, ?_, ?_, ?_, ?_, ?_, List.forall_mem_nil _⟩
  · exact Field.isFlat_optional ((hint _ _ _).map Int64.ofInt) _ _
  · exact Field.isFlat_optional htext _ _
  · exact Field.isFlat_optional htext _ _
  · exact Field.isFlat_optional htext _ _
  · exact Field.isFlat_optional htext _ _
  · exact Field.isFlat_optional htext _ _
  · exact Field.isFlat_optional htext _ _
  · exact Field.isFlat_optional ((hint _ _ _).map Int32.ofInt) _ _

/-- No field of a user takes a flag. -/
theorem not_means_flag {text : Bytes} {b : Bool} (htext : Json.BoolMeans text b) :
    ∀ m ∈ known, ∀ change, ¬ m.Means text change := by
  have hoptional : ∀ {β name} {Means : Bytes → β → Prop} {set}, (∀ v, ¬ Means text v) →
      ∀ change, ¬ (Json.MemberMeaning.optional name Means set : Json.MemberMeaning User).Means
        text change := by
    rintro β name Means set hnone change ⟨o, hmeans, -⟩
    cases hmeans with
    | none => cases htext
    | some h => exact hnone _ h
  have hint : ∀ i, ¬ Json.WritesInt text i := by
    intro i hwrites
    obtain ⟨c, bs, rfl, hc⟩ := hwrites.isNumber.exists_cons
    cases htext <;> cases hc
  have hstring : ∀ s, ¬ Json.TextMeans text s := by
    rintro s ⟨raw, rfl, -⟩
    cases htext
  simp only [known, List.forall_mem_cons]
  refine ⟨?_, ?_, ?_, ?_, ?_, ?_, ?_, ?_, List.forall_mem_nil _⟩
  · exact hoptional fun i => hint i.toInt
  · exact hoptional hstring
  · exact hoptional hstring
  · exact hoptional hstring
  · exact hoptional hstring
  · exact hoptional hstring
  · exact hoptional hstring
  · exact hoptional fun i => hint i.toInt

end User

/-! ### Bodies -/

/-- Decoding fails for the JSON of the body, at a path inside the document; the failure shows the
whole body. -/
def FailsAt (α : Type) [Decodable α] (returnType : ReturnType) (contentType : String) (body : Bytes)
    (path : String) : Prop :=
  ∃ fault : Json.Error, decodeBody (α := α) returnType (some contentType) body =
    .error (.json fault (lossyText body)) ∧ Json.renderPath fault.path = path

section
variable {contentType : String} (hjson : Media.isOf .json contentType) {returnType : ReturnType}
  (hreturn : returnType ≠ .nothing)
include hjson hreturn

theorem failsAt_of_refuses {α : Type} [Decodable α] {text l rest : Bytes} {path : List Json.Step}
    (h : Refuses (Decodable.readJson (α := α)) text path) (hl : Blank l)
    (hrest : Json.Delimited text rest) :
    FailsAt α returnType contentType (l ++ (text ++ rest)) (Json.renderPath path) := by
  have hbody : l ++ (text ++ rest) ≠ [] := by
    obtain ⟨b, bs, rfl, -⟩ := h.opens
    simp
  obtain ⟨f, hf, hpath⟩ := h.fails hl hrest
  refine ⟨f.locate (l ++ (text ++ rest)), ?_, congrArg Json.renderPath hpath⟩
  rw [Media.reads_json hjson α returnType _ hreturn hbody, Media.Format.read, decodeJson,
    Json.decodeFront, hf]
  rfl

/-- The path of the failure leads to the misfit: by its name in the body of a user, by the index of
the user and its name in the body of a list. -/
theorem decodeBody_misfit {name : String} {text l : Bytes}
    (htext : Misfit User.known name text) (hl : Blank l) (rest : Bytes) :
    FailsAt User returnType contentType (l ++ (text ++ rest)) name ∧
    ∀ {body : Bytes} {before after : List Bytes} {users : List User},
      Json.Listed Json.Frame.array.Piece true body (before ++ text :: after) →
      List.Forall₂ User.Means before users →
      FailsAt (List User) returnType contentType
        (l ++ (Ascii.openBracket :: (body ++ [Ascii.closeBracket]) ++ rest))
        s!"[{before.length}].{name}" := by
  have hrefuses := Schema.refuses User.recognizes_known User.isFlat_fields htext
  constructor
  · have hrest : Json.Delimited text rest := by
      obtain ⟨⟩ := htext
      exact Json.delimited_concat (by decide) (_ :: _) rest
    rw [← Json.renderPath_member name]
    exact failsAt_of_refuses hjson hreturn hrefuses hl hrest
  · intro body before after users hbody hbefore
    have hrest := Json.delimited_concat (by decide : Ascii.isDigit Ascii.closeBracket = false)
      (Ascii.openBracket :: body) rest
    rw [← Json.renderPath_item_member]
    exact failsAt_of_refuses hjson hreturn (Refuses.list User.recognizes hbody hbefore hrefuses) hl
      hrest

end

/-- A flag in place of an address, behind a member that is not known, in the second user. -/
theorem decodeBody_misfit_email :
    Misfit User.known "email" (Utf8.ofString "\x7b\"x\":[true],\"email\":false\x7d") ∧
    FailsAt User (.model "User") "application/json"
      (Utf8.ofString "\x7b\"x\":[true],\"email\":false\x7d") "email" ∧
    FailsAt (List User) (.array (.model "User")) "application/json"
      (Utf8.ofString "[\x7b\"id\":1\x7d,\x7b\"x\":[true],\"email\":false\x7d]") "[1].email" := by
  have hspells : ∀ s, (Utf8.ofString s).all (fun b => Json.IsPlain b) →
      Json.Spells (Utf8.ofString s) (Utf8.ofString s) := fun s => Json.spells_of_plain
  have hlist : Json.Document (Utf8.ofString "[true]") :=
    @Json.Document.frame .array _ _ (.cons (.first Json.blank_nil) .item (.nil Json.blank_nil))
      (List.forall_mem_singleton.mpr .true)
  have hemail : User.known.find? (·.name = "email") =
      some (.optional "email" Json.TextMeans fun v u => { u with email := v }) := rfl
  have hbody : Json.Listed Json.Entry true _
      ([(Utf8.ofString "x", Utf8.ofString "[true]")] ++
        (Utf8.ofString "email", Utf8.ofString "false") :: []) :=
    .cons (.first Json.blank_nil) (.mk Json.blank_nil Json.blank_nil)
      (.cons (.next Json.blank_nil Json.blank_nil) (.mk Json.blank_nil Json.blank_nil)
        (.nil Json.blank_nil))
  have hbefore : List.Forall₂ (Json.EntryMeans User.known)
      [(Utf8.ofString "x", Utf8.ofString "[true]")] [("x", id)] :=
    .cons ⟨hspells "x" (by decide), .other (by decide) hlist⟩ .nil
  have hmisfit : Misfit User.known "email" (Utf8.ofString "\x7b\"x\":[true],\"email\":false\x7d") :=
    .mk hbody hbefore (hspells "email" (by decide)) (by decide) hemail .false
      (User.not_means_flag .false _ (List.mem_of_find?_eq_some hemail))
  have hid : Codec.Int64Means (Utf8.ofString "1") 1 :=
    Json.WritesInt.natural ⟨⟨by decide, List.all_eq_true.mp (by decide)⟩, by decide⟩
  have hentries : List.Forall₂ (Json.EntryMeans User.known)
      [(Utf8.ofString "id", Utf8.ofString "1")] [("id", fun u => { u with id := some 1 })] :=
    .cons ⟨hspells "id" (by decide), .known rfl ⟨some 1, .some hid, rfl⟩⟩ .nil
  have hone : User.Means (Utf8.ofString "\x7b\"id\":1\x7d") { id := some 1 } :=
    Json.RecordMeans.object
      (.cons (.first Json.blank_nil) (.mk Json.blank_nil Json.blank_nil) (.nil Json.blank_nil))
      hentries (by decide)
  have hitems : Json.Listed Json.Frame.array.Piece true _
      ([Utf8.ofString "\x7b\"id\":1\x7d"] ++
        Utf8.ofString "\x7b\"x\":[true],\"email\":false\x7d" :: []) :=
    .cons (.first Json.blank_nil) .item
      (.cons (.next Json.blank_nil Json.blank_nil) .item (.nil Json.blank_nil))
  refine ⟨hmisfit, ?_, ?_⟩
  · exact (decodeBody_misfit (by decide) (by decide) hmisfit Json.blank_nil []).1
  · exact (decodeBody_misfit (by decide) (by decide) hmisfit Json.blank_nil []).2 hitems
      (.cons hone .nil)

end StoreClient
