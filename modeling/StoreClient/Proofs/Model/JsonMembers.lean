import StoreClient.Proofs.Model.JsonMeaning
import StoreClient.Proofs.Model.JsonRoundTrip

/-!
The order of members, and members that nobody asked for. An object describes a record if its members
are those that the record is written as, in any order, fields that the record does not show as
`null`, and others under names that are no fields (`Schema.Describes`). Every member then makes a
record show of its own field what the described record shows, and leaves all other fields as they
are, so that the whole object makes a record that shows the same; and a record is known by what it
shows (`Schema.Keeps.means`). Users are decoded from every object that describes them
(`decodeBody_described`).
-/

namespace StoreClient

open Json (Blank)

namespace Json

/-- How the values of fields may be written: an integer as a number, and a text with any of its
characters escaped. -/
inductive Denotes : Bytes → Value → Prop where
  | int {text : Bytes} {i : Int} (h : WritesInt text i) : Denotes text (.number (.int i))
  | text {text : Bytes} {s : String} (h : TextMeans text s) : Denotes text (.text s)

/-- The objects of some members, which are names with the texts of their values. -/
inductive HasMembers : Bytes → List (String × Bytes) → Prop where
  | mk {body : Bytes} {entries : List (Bytes × Bytes)} {members : List (String × Bytes)}
      (hbody : Listed Entry true body entries)
      (hentries : List.Forall₂ (fun e m => Spells e.1 (Utf8.ofString m.1) ∧ e.2 = m.2)
        entries members) :
      HasMembers (Ascii.openBrace :: (body ++ [Ascii.closeBrace])) members

theorem Denotes.writesInt {text : Bytes} {i : Int} (h : Denotes text (.number (.int i))) :
    WritesInt text i := by
  cases h with
  | int h => exact h

theorem Denotes.textMeans {text : Bytes} {s : String} (h : Denotes text (.text s)) :
    TextMeans text s := by
  cases h with
  | text h => exact h

theorem ListMeans.imp {α : Type} {Means Means' : Bytes → α → Prop}
    (h : ∀ text a, Means text a → Means' text a) {text : Bytes} {as : List α}
    (has : ListMeans Means text as) : ListMeans Means' text as := by
  obtain ⟨body, items, rfl, hlisted, hitems⟩ := has
  exact ⟨body, items, rfl, hlisted, hitems.imp h⟩

end Json

theorem exists_mem_of_forall₂ {α β : Type} {R : α → β → Prop} {as : List α} {bs : List β}
    (h : List.Forall₂ R as bs) {a : α} (ha : a ∈ as) : ∃ b ∈ bs, R a b := by
  induction h with
  | nil => cases ha
  | @cons a' b as bs hab _ ih =>
    rcases List.mem_cons.mp ha with rfl | ha
    · exact ⟨b, List.mem_cons_self, hab⟩
    · obtain ⟨b', hb', hab'⟩ := ih ha
      exact ⟨b', List.mem_cons_of_mem b hb', hab'⟩

/-- What is read back is known by what is written. -/
theorem Codec.Restores.injective {β : Type} {codec : Codec β} (h : codec.Restores) {a b : β}
    (heq : codec.toJson a = codec.toJson b) : a = b := by
  have ha := (h a).reads [] Json.ended_nil
  rw [heq, (h b).reads [] Json.ended_nil] at ha
  exact (Prod.mk.inj (Except.ok.inj ha)).1.symm

/-! ### Fields -/

namespace Field

variable {α β : Type}

/-- What is read of a field is what it then shows of the record: its value, or nothing where `null`
is read. -/
structure Keeps (f : Field α) (m : Json.MemberMeaning α) : Prop where
  name_eq : f.name = m.name
  written {a : α} {value : Json.Value} {text : Bytes} (hvalue : f.toJson? a = some value)
    (htext : Json.Denotes text value) :
    ∃ change, m.Means text change ∧ ∀ b, f.toJson? (change b) = f.toJson? a
  absent {a : α} (hvalue : f.toJson? a = none) :
    ∃ change, m.Means (Ascii.lowerN :: Json.nullTail) change ∧
      ∀ b, f.toJson? (change b) = f.toJson? a

theorem keeps_optional {name : String} {codec : Codec β} {Means : Bytes → β → Prop}
    (hcodec : ∀ {text b}, Json.Denotes text (codec.toJson b) → Means text b)
    {get : α → Option β} {set : Option β → α → α} (hget : ∀ o a, get (set o a) = o) :
    (optional name codec get set).Keeps (.optional name Means set) where
  name_eq := rfl
  written {a value text} hvalue htext := by
    obtain ⟨b, hb, rfl⟩ := Option.map_eq_some_iff.mp hvalue
    refine ⟨set (some b), ⟨some b, .some (hcodec htext), rfl⟩, fun c => ?_⟩
    exact congrArg (Option.map codec.toJson) ((hget (some b) c).trans hb.symm)
  absent {a} hvalue := by
    have ha : get a = none := Option.map_eq_none_iff.mp hvalue
    refine ⟨set none, ⟨none, .none, rfl⟩, fun c => ?_⟩
    exact congrArg (Option.map codec.toJson) ((hget none c).trans ha.symm)

end Field

/-! ### Records -/

namespace Schema

variable {α : Type}

/-- The members of an object describe a record: they are those that the record is written as, any of
the fields that it does not show, as `null`, and others under names of no fields, in any order. -/
inductive Describes (schema : Schema α) (members : List (String × Bytes)) (a : α) : Prop where
  | mk {written : List (String × Json.Value)} {own absent others : List (String × Bytes)}
      (hwritten : schema.codec.toJson a = .object written)
      (hown : List.Forall₂ (fun m w => m.1 = w.1 ∧ Json.Denotes m.2 w.2) own written)
      (habsent : absent.Sublist ((schema.fields.filter fun f => (f.toJson? a).isNone).map
        fun f => (f.name, Ascii.lowerN :: Json.nullTail)))
      (hothers : ∀ m ∈ others, m.1 ∉ schema.fields.map (·.name) ∧ Json.Document m.2)
      (hperm : members.Perm (own ++ (absent ++ others)))

/-- The objects whose members describe a record. -/
def Described (schema : Schema α) (text : Bytes) (a : α) : Prop :=
  ∃ members, Json.HasMembers text members ∧ schema.Describes members a

/-- What a member tells of the record that it helps to describe. -/
inductive Tells (schema : Schema α) (a : α) : String → Bytes → Prop where
  | written {f : Field α} {value : Json.Value} {text : Bytes} (hf : f ∈ schema.fields)
      (hvalue : f.toJson? a = some value) (htext : Json.Denotes text value) :
      Tells schema a f.name text
  | absent {f : Field α} (hf : f ∈ schema.fields) (hvalue : f.toJson? a = none) :
      Tells schema a f.name (Ascii.lowerN :: Json.nullTail)
  | other {name : String} {text : Bytes} (hname : name ∉ schema.fields.map (·.name))
      (htext : Json.Document text) : Tells schema a name text

/-- The change copies the field of a name from the record, if there is one, and no other. -/
def Copies (schema : Schema α) (a : α) (name : String) (change : α → α) : Prop :=
  ∀ f ∈ schema.fields, ∀ b, f.toJson? (change b) = f.toJson? (if f.name = name then a else b)

/-- The members that are known keep what they read in the fields of their names, apart from all
others. A blank record shows nothing, and a record is known by what it shows. -/
structure Keeps (schema : Schema α) (known : List (Json.MemberMeaning α)) : Prop where
  distinct : (schema.fields.map (·.name)).Nodup
  fields : List.Forall₂ Field.Keeps schema.fields known
  apart : ∀ m ∈ known, ∀ f ∈ schema.fields, f.name ≠ m.name → ∀ {text change},
    m.Means text change → ∀ b, f.toJson? (change b) = f.toJson? b
  blank : ∀ f ∈ schema.fields, f.toJson? schema.blank = none
  injective {a b : α} (h : schema.codec.toJson a = schema.codec.toJson b) : a = b

/-- Whatever is read of a field, the others show what they did. -/
theorem apart_optional {β : Type} {schema : Schema α} {name : String} {Means : Bytes → β → Prop}
    {set : Option β → α → α}
    (hset : ∀ f ∈ schema.fields, f.name ≠ name → ∀ o b, f.toJson? (set o b) = f.toJson? b) :
    ∀ f ∈ schema.fields, f.name ≠ name → ∀ {text change},
      (Json.MemberMeaning.optional name Means set).Means text change →
        ∀ b, f.toJson? (change b) = f.toJson? b := by
  rintro f hf hname _ _ ⟨o, -, rfl⟩ b
  exact hset f hf hname o b

section
variable {schema : Schema α} {members : List (String × Bytes)} {a : α}

theorem Describes.tells (h : schema.Describes members a) : ∀ m ∈ members,
    schema.Tells a m.1 m.2 := by
  obtain ⟨hwritten, hown, habsent, hothers, hperm⟩ := h
  cases hwritten
  intro m hm
  rcases List.mem_append.mp (hperm.mem_iff.mp hm) with hm | hm
  · obtain ⟨w, hw, hname, htext⟩ := exists_mem_of_forall₂ hown hm
    obtain ⟨f, hf, hw⟩ := List.mem_filterMap.mp hw
    obtain ⟨value, hvalue, rfl⟩ := Option.map_eq_some_iff.mp hw
    rw [hname]
    exact .written hf hvalue htext
  rcases List.mem_append.mp hm with hm | hm
  · obtain ⟨f, hf, rfl⟩ := List.mem_map.mp (habsent.subset hm)
    obtain ⟨hf, hvalue⟩ := List.mem_filter.mp hf
    exact .absent hf (Option.isNone_iff_eq_none.mp hvalue)
  · exact .other (hothers m hm).1 (hothers m hm).2

/-- The names of the members: those of the fields that are written, of some that are not, and of no
fields. -/
theorem Describes.names (h : schema.Describes members a) : ∃ absent others : List String,
    (members.map (·.1)).Perm
      ((schema.fields.filter fun f => (f.toJson? a).isSome).map (·.name) ++ (absent ++ others)) ∧
    absent.Sublist ((schema.fields.filter fun f => (f.toJson? a).isNone).map (·.name)) ∧
    ∀ name ∈ others, name ∉ schema.fields.map (·.name) := by
  obtain @⟨written, own, absent, others, hwritten, hown, habsent, hothers, hperm⟩ := h
  have hnames : own.map (·.1) = written.map (·.1) := by
    have hnames := List.forall₂_map_left_iff.mpr
      (List.forall₂_map_right_iff.mpr (hown.imp fun _ _ hm => hm.1))
    rwa [List.forall₂_eq_eq_eq] at hnames
  cases hwritten
  refine ⟨absent.map (·.1), others.map (·.1), ?_, ?_, ?_⟩
  · have hperm := hperm.map (·.1)
    rwa [List.map_append, List.map_append, hnames, names_written] at hperm
  · have habsent := habsent.map (·.1)
    rwa [List.map_map] at habsent
  · exact List.forall_mem_map.mpr fun m hm => (hothers m hm).1

theorem Describes.mem_names (h : schema.Describes members a) {f : Field α}
    (hf : f ∈ schema.fields) (hvalue : (f.toJson? a).isSome) : f.name ∈ members.map (·.1) := by
  obtain ⟨absent, others, hperm, -⟩ := h.names
  exact hperm.mem_iff.mpr (List.mem_append_left _
    (List.mem_map_of_mem (List.mem_filter.mpr ⟨hf, hvalue⟩)))

/-- No field occurs twice. -/
theorem Describes.nodup (h : schema.Describes members a)
    (hdistinct : (schema.fields.map (·.name)).Nodup) :
    ((members.map (·.1)).filter (· ∈ schema.fields.map (·.name))).Nodup := by
  obtain ⟨absent, others, hperm, habsent, hothers⟩ := h.names
  have hnone : others.filter (· ∈ schema.fields.map (·.name)) = [] :=
    List.filter_eq_nil_iff.mpr fun name hname hmem => hothers name hname (of_decide_eq_true hmem)
  rw [(hperm.filter _).nodup_iff, List.filter_append, List.filter_append, hnone, List.append_nil,
    ← List.filter_append]
  -- the fields that are written and those that are not are all fields
  have hfields := List.filter_append_perm (fun f => (f.toJson? a).isSome) schema.fields
  have hnames := hfields.map (·.name)
  simp only [List.map_append, Option.not_isSome] at hnames
  exact ((hnames.nodup_iff.mpr hdistinct).sublist ((List.Sublist.refl _).append habsent)).filter _

end

section
variable {schema : Schema α} {known : List (Json.MemberMeaning α)} (h : schema.Keeps known)
  {a : α}
include h

theorem Keeps.map_name : known.map (·.name) = schema.fields.map (·.name) := by
  have hnames := List.forall₂_map_left_iff.mpr
    (List.forall₂_map_right_iff.mpr (h.fields.imp fun _ _ hf => hf.name_eq))
  rw [List.forall₂_eq_eq_eq] at hnames
  exact hnames.symm

theorem Keeps.knownNames (names : List String) :
    Json.knownNames known names = names.filter (· ∈ schema.fields.map (·.name)) := by
  refine List.filter_congr fun name _ => ?_
  rw [← h.map_name, Bool.eq_iff_iff]
  simp

theorem Keeps.find? {f : Field α} (hf : f ∈ schema.fields) :
    ∃ m ∈ known, f.Keeps m ∧ known.find? (·.name = f.name) = some m := by
  obtain ⟨m, hm, hkeeps⟩ := exists_mem_of_forall₂ h.fields hf
  have hdistinct := h.distinct
  rw [← h.map_name] at hdistinct
  have hfind := find?_of_nodup hdistinct hm
  rw [← hkeeps.name_eq] at hfind
  exact ⟨m, hm, hkeeps, hfind⟩

/-- A change that keeps a field apart from all others copies it if it shows the same. -/
theorem Keeps.copies {f : Field α} (hf : f ∈ schema.fields) {m : Json.MemberMeaning α}
    (hm : m ∈ known) (hkeeps : f.Keeps m) {text : Bytes} {change : α → α}
    (hmeans : m.Means text change) (hchange : ∀ b, f.toJson? (change b) = f.toJson? a) :
    schema.Copies a f.name change := by
  intro g hg b
  by_cases hname : g.name = f.name
  · rw [if_pos hname, List.inj_on_of_nodup_map h.distinct hg hf hname, hchange b]
  · rw [if_neg hname]
    rw [hkeeps.name_eq] at hname
    exact h.apart m hm g hg hname hmeans b

/-- What a member tells of a record is copied from it. -/
theorem Keeps.exists_change {name : String} {text : Bytes} (htells : schema.Tells a name text) :
    ∃ change, Json.ValueMeans known name text change ∧ schema.Copies a name change := by
  cases htells with
  | written hf hvalue htext =>
    obtain ⟨m, hm, hkeeps, hfind⟩ := h.find? hf
    obtain ⟨change, hmeans, hchange⟩ := hkeeps.written hvalue htext
    exact ⟨change, .known hfind hmeans, h.copies hf hm hkeeps hmeans hchange⟩
  | absent hf hvalue =>
    obtain ⟨m, hm, hkeeps, hfind⟩ := h.find? hf
    obtain ⟨change, hmeans, hchange⟩ := hkeeps.absent hvalue
    exact ⟨change, .known hfind hmeans, h.copies hf hm hkeeps hmeans hchange⟩
  | other hname htext =>
    have hfind : known.find? (·.name = name) = none := by
      rw [← h.map_name] at hname
      refine List.find?_eq_none.mpr fun m hm heq => hname ?_
      exact List.mem_map.mpr ⟨m, hm, of_decide_eq_true heq⟩
    refine ⟨id, .other hfind htext, fun f hf b => ?_⟩
    rw [if_neg fun heq => hname (List.mem_map.mpr ⟨f, hf, heq⟩)]
    rfl

theorem Keeps.exists_changes {entries : List (Bytes × Bytes)} {members : List (String × Bytes)}
    (hentries : List.Forall₂ (fun e m => Json.Spells e.1 (Utf8.ofString m.1) ∧ e.2 = m.2)
      entries members) (htells : ∀ m ∈ members, schema.Tells a m.1 m.2) :
    ∃ changes, List.Forall₂ (Json.EntryMeans known) entries changes ∧
      changes.map (·.1) = members.map (·.1) ∧ ∀ c ∈ changes, schema.Copies a c.1 c.2 := by
  induction hentries with
  | nil => exact ⟨[], .nil, rfl, List.forall_mem_nil _⟩
  | @cons e m entries members he _ ih =>
    obtain ⟨hm, htells⟩ := List.forall_mem_cons.mp htells
    obtain ⟨change, hmeans, hcopies⟩ := h.exists_change hm
    obtain ⟨changes, hchanges, hnames, hall⟩ := ih htells
    refine ⟨(m.1, change) :: changes, .cons ⟨he.1, ?_⟩ hchanges, ?_,
      List.forall_mem_cons.mpr ⟨hcopies, hall⟩⟩
    · rw [he.2]
      exact hmeans
    · rw [List.map_cons, List.map_cons, hnames]

omit h in
/-- Changes one after another copy every field that they name, and leave the others. -/
theorem toJson?_foldl {changes : List (String × (α → α))}
    (hcopies : ∀ c ∈ changes, schema.Copies a c.1 c.2) {f : Field α} (hf : f ∈ schema.fields)
    (b : α) (hb : f.toJson? b = f.toJson? a ∨ f.name ∈ changes.map (·.1)) :
    f.toJson? (changes.foldl (fun b c => c.2 b) b) = f.toJson? a := by
  -- a field that has been copied remains so, since a change copies it again or leaves it
  induction changes generalizing b with
  | nil => exact hb.resolve_right List.not_mem_nil
  | cons c changes ih =>
    obtain ⟨hc, hcopies⟩ := List.forall_mem_cons.mp hcopies
    refine ih hcopies (c.2 b) ?_
    rw [hc f hf b]
    by_cases hname : f.name = c.1
    · rw [if_pos hname]
      exact .inl rfl
    · rw [if_neg hname]
      exact hb.imp_right (List.mem_of_ne_of_mem hname)

/-- Records that show the same are the same. -/
theorem Keeps.ext {b : α} (hshow : ∀ f ∈ schema.fields, f.toJson? b = f.toJson? a) : b = a := by
  refine h.injective (congrArg Json.Value.object (List.filterMap_congr fun f hf => ?_))
  rw [hshow f hf]

/-- An object that describes a record stands for it. -/
theorem Keeps.means {text : Bytes} (htext : schema.Described text a) :
    Json.RecordMeans schema.blank known text a := by
  obtain ⟨members, ⟨hbody, hentries⟩, hdescribes⟩ := htext
  obtain ⟨changes, hchanges, hnames, hcopies⟩ := h.exists_changes hentries hdescribes.tells
  have hdistinct : (Json.knownNames known (changes.map (·.1))).Nodup := by
    rw [h.knownNames, hnames]
    exact hdescribes.nodup h.distinct
  have hfold : changes.foldl (fun b c => c.2 b) schema.blank = a := by
    refine h.ext fun f hf => toJson?_foldl hcopies hf schema.blank ?_
    cases hvalue : f.toJson? a with
    | none => exact .inl (h.blank f hf)
    | some value =>
      rw [hnames]
      exact .inr (hdescribes.mem_names hf (by rw [hvalue]; rfl))
  have hmeans : Json.RecordMeans schema.blank known _ _ := .object hbody hchanges hdistinct
  rwa [hfold] at hmeans

end

end Schema

namespace User

theorem keeps : schema.Keeps known where
  distinct := by decide
  fields := by
    have htext : ∀ {name} {get : User → Option String} {set : Option String → User → User},
        (∀ o u, get (set o u) = o) →
          (Field.optional name .text get set).Keeps (.optional name Json.TextMeans set) :=
      Field.keeps_optional Json.Denotes.textMeans
    exact .cons (Field.keeps_optional Json.Denotes.writesInt fun _ _ => rfl) <|
      .cons (htext fun _ _ => rfl) <| .cons (htext fun _ _ => rfl) <|
      .cons (htext fun _ _ => rfl) <| .cons (htext fun _ _ => rfl) <|
      .cons (htext fun _ _ => rfl) <| .cons (htext fun _ _ => rfl) <|
      .cons (Field.keeps_optional Json.Denotes.writesInt fun _ _ => rfl) .nil
  apart := by
    simp only [known, List.forall_mem_cons]
    refine ⟨?_, ?_, ?_, ?_, ?_, ?_, ?_, ?_, List.forall_mem_nil _⟩
    all_goals exact Schema.apart_optional (by
      simp [schema, Field.optional, Json.MemberMeaning.optional])
  blank := by simp [schema, Field.optional]
  injective := restores.injective

end User

/-! ### Bodies -/

section
variable {contentType : String} (hjson : Media.isOf .json contentType) {returnType : ReturnType}
  (hreturn : returnType ≠ .nothing)
include hjson hreturn

theorem decodeBody_of_means {α : Type} [Decodable α] {Means : Bytes → α → Prop}
    (h : Json.Recognizes Decodable.readJson Means) {l text rest : Bytes} {a : α} (hl : Blank l)
    (htext : Means text a) (hrest : Json.Delimited text rest) :
    decodeBody returnType (some contentType) (l ++ (text ++ rest)) = .ok a := by
  have hbody : l ++ (text ++ rest) ≠ [] := by
    obtain ⟨b, bs, rfl, -⟩ := (h.document htext).exists_cons
    simp
  exact ((decodesFronts hjson hreturn h).decodeBody_eq_ok_iff hbody).mpr
    ⟨rest, l, text, rfl, hl, htext, hrest⟩

/-- A user is decoded from every object that describes the user, whatever the order of its members
and whatever others are among them, and a list of users item by item. -/
theorem decodeBody_described {l text : Bytes} (hl : Blank l) (rest : Bytes) :
    (∀ {user : User}, User.schema.Described text user →
      decodeBody returnType (some contentType) (l ++ (text ++ rest)) = .ok user) ∧
    ∀ {users : List User}, Json.ListMeans User.schema.Described text users →
      decodeBody returnType (some contentType) (l ++ (text ++ rest)) = .ok users := by
  constructor
  · intro user htext
    have hrest : Json.Delimited text rest := by
      obtain ⟨members, ⟨hbody, hentries⟩, -⟩ := htext
      exact Json.delimited_concat (by decide) (_ :: _) rest
    exact decodeBody_of_means hjson hreturn User.recognizes hl (User.keeps.means htext) hrest
  · intro users htext
    have hrest : Json.Delimited text rest := by
      obtain ⟨body, items, rfl, -⟩ := htext
      exact Json.delimited_concat (by decide) (_ :: _) rest
    exact decodeBody_of_means hjson hreturn User.recognizes.list hl
      (htext.imp fun _ _ => User.keeps.means) hrest

end

/-- Fields out of order, one of them `null`, and another member twice, with a field in its value. -/
theorem decodeBody_described_mixed :
    User.schema.Described
      (Utf8.ofString
        "\x7b\"x\":[\x7b\"id\":[]\x7d],\"phone\":\"1\",\"email\":null,\"id\":1,\"x\":[]\x7d")
      { id := some 1, phone := some "1" } ∧
    decodeBody (.model "User") (some "application/json")
      (Utf8.ofString
        "\x7b\"x\":[\x7b\"id\":[]\x7d],\"phone\":\"1\",\"email\":null,\"id\":1,\"x\":[]\x7d") =
        .ok ({ id := some 1, phone := some "1" } : User) ∧
    decodeBody (.array (.model "User")) (some "application/json")
      (Utf8.ofString
        "[\x7b\"x\":[\x7b\"id\":[]\x7d],\"phone\":\"1\",\"email\":null,\"id\":1,\"x\":[]\x7d]") =
        .ok [({ id := some 1, phone := some "1" } : User)] := by
  have hspells : ∀ s, (Utf8.ofString s).all (fun b => Json.IsPlain b) →
      Json.Spells (Utf8.ofString s) (Utf8.ofString s) := fun s => Json.spells_of_plain
  have hempty : Json.Document (Utf8.ofString "[]") :=
    @Json.Document.frame .array _ _ (.nil Json.blank_nil) (List.forall_mem_nil _)
  have hobject : Json.Document (Utf8.ofString "\x7b\"id\":[]\x7d") :=
    @Json.Document.frame .object _ _
      (.cons (.first Json.blank_nil)
        (.member (hspells "id" (by decide)).quotable (.mk Json.blank_nil Json.blank_nil))
        (.nil Json.blank_nil))
      (List.forall_mem_singleton.mpr hempty)
  have hnested : Json.Document (Utf8.ofString "[\x7b\"id\":[]\x7d]") :=
    @Json.Document.frame .array _ _ (.cons (.first Json.blank_nil) .item (.nil Json.blank_nil))
      (List.forall_mem_singleton.mpr hobject)
  have hone : Json.WritesInt (Utf8.ofString "1") 1 :=
    .natural ⟨⟨by decide, List.all_eq_true.mp (by decide)⟩, by decide⟩
  have hbody : Json.Listed Json.Entry true _
      [(Utf8.ofString "x", Utf8.ofString "[\x7b\"id\":[]\x7d]"),
        (Utf8.ofString "phone", Utf8.ofString "\"1\""),
        (Utf8.ofString "email", Utf8.ofString "null"), (Utf8.ofString "id", Utf8.ofString "1"),
        (Utf8.ofString "x", Utf8.ofString "[]")] :=
    .cons (.first Json.blank_nil) (.mk Json.blank_nil Json.blank_nil) <|
      .cons (.next Json.blank_nil Json.blank_nil) (.mk Json.blank_nil Json.blank_nil) <|
      .cons (.next Json.blank_nil Json.blank_nil) (.mk Json.blank_nil Json.blank_nil) <|
      .cons (.next Json.blank_nil Json.blank_nil) (.mk Json.blank_nil Json.blank_nil) <|
      .cons (.next Json.blank_nil Json.blank_nil) (.mk Json.blank_nil Json.blank_nil)
        (.nil Json.blank_nil)
  have hmembers : Json.HasMembers
      (Utf8.ofString
        "\x7b\"x\":[\x7b\"id\":[]\x7d],\"phone\":\"1\",\"email\":null,\"id\":1,\"x\":[]\x7d")
      [("x", Utf8.ofString "[\x7b\"id\":[]\x7d]"), ("phone", Utf8.ofString "\"1\""),
        ("email", Utf8.ofString "null"), ("id", Utf8.ofString "1"), ("x", Utf8.ofString "[]")] :=
    .mk hbody <| .cons ⟨hspells "x" (by decide), rfl⟩ <|
      .cons ⟨hspells "phone" (by decide), rfl⟩ <| .cons ⟨hspells "email" (by decide), rfl⟩ <|
      .cons ⟨hspells "id" (by decide), rfl⟩ <| .cons ⟨hspells "x" (by decide), rfl⟩ .nil
  have hwritten : User.schema.codec.toJson { id := some 1, phone := some "1" } =
      .object [("id", .number (.int 1)), ("phone", .text "1")] := rfl
  have hown : List.Forall₂ (fun m w => m.1 = w.1 ∧ Json.Denotes m.2 w.2)
      [("id", Utf8.ofString "1"), ("phone", Utf8.ofString "\"1\"")]
      [("id", .number (.int 1)), ("phone", .text "1")] :=
    .cons ⟨rfl, .int hone⟩ (.cons ⟨rfl, .text ⟨_, rfl, hspells "1" (by decide)⟩⟩ .nil)
  have habsent : [("email", Utf8.ofString "null")].Sublist
      ((User.schema.fields.filter fun f =>
        (f.toJson? { id := some 1, phone := some "1" }).isNone).map
          fun f => (f.name, Ascii.lowerN :: Json.nullTail)) := by decide
  have hothers : ∀ m ∈ [("x", Utf8.ofString "[\x7b\"id\":[]\x7d]"), ("x", Utf8.ofString "[]")],
      m.1 ∉ User.schema.fields.map (·.name) ∧ Json.Document m.2 :=
    List.forall_mem_cons.mpr
      ⟨⟨by decide, hnested⟩, List.forall_mem_singleton.mpr ⟨by decide, hempty⟩⟩
  have hdescribed : User.schema.Described
      (Utf8.ofString
        "\x7b\"x\":[\x7b\"id\":[]\x7d],\"phone\":\"1\",\"email\":null,\"id\":1,\"x\":[]\x7d")
      { id := some 1, phone := some "1" } :=
    ⟨_, hmembers, .mk hwritten hown habsent hothers (by decide)⟩
  refine ⟨hdescribed, ?_, ?_⟩
  · exact (decodeBody_described (by decide) (by decide) Json.blank_nil []).1 hdescribed
  · exact (decodeBody_described (by decide) (by decide) Json.blank_nil []).2
      ⟨_, _, rfl, .cons (.first Json.blank_nil) .item (.nil Json.blank_nil), .cons hdescribed .nil⟩

end StoreClient
