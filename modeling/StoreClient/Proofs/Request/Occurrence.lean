import StoreClient.Proofs.Request.Replacing

/-!
Where the placeholders of a path stand. A search from left to right takes the first placeholder that
it meets and goes on behind it (`Found`). What it finds is determined by the text (`Found.unique`),
and it misses none: a placeholder does not begin within another, so each one that occurs anywhere in
the text is found where it stands (`Found.mem_of_eq_append`). Scanning gives the names that such a
search finds, in its order (`exists_found`).
-/

namespace StoreClient.PathTemplate

/-- A name is made of word characters. -/
def IsName (name : String) : Prop := name.toList ≠ [] ∧ ∀ c ∈ name.toList, CharSet.isWord c

/-- What a search from left to right finds in a text that begins at a place: the place and the name
of each placeholder. No placeholder begins before the first that is found. -/
inductive Found : Nat → List Char → List (Nat × String) → Prop where
  | none {start : Nat} {text : List Char}
      (h : ∀ front name rest, text = front ++ (placeholder name ++ rest) → ¬ IsName name) :
      Found start text []
  | next {start : Nat} {front rest : List Char} {name : String} {found : List (Nat × String)}
      (hname : IsName name)
      (hfirst : ∀ front' name' rest',
        front ++ (placeholder name ++ rest) = front' ++ (placeholder name' ++ rest') →
          IsName name' → front.length ≤ front'.length)
      (hrest : Found (start + front.length + (placeholder name).length) rest found) :
      Found start (front ++ (placeholder name ++ rest)) ((start + front.length, name) :: found)

theorem IsName.braceless {name : String} (h : IsName name) : Braceless name.toList :=
  (show (Piece.slot name).Valid from h).braceless

/-! ### Overlaps -/

section
variable {front front' rest rest' : List Char} {name name' : String}

theorem placeholder_append_inj (hname : IsName name) (hname' : IsName name')
    (h : placeholder name ++ rest = placeholder name' ++ rest') : name = name' ∧ rest = rest' := by
  obtain ⟨hnames, hrest⟩ := braced_append_inj hname.braceless hname'.braceless h
  exact ⟨String.toList_injective hnames, hrest⟩

/-- Of two placeholders in a text the second begins behind the first. -/
theorem exists_of_append_placeholder (hname : IsName name) (hfront : front ≠ [])
    (h : placeholder name ++ rest = front ++ (placeholder name' ++ rest')) :
    ∃ between, front = placeholder name ++ between ∧
      rest = between ++ (placeholder name' ++ rest') := by
  have hpre : braced name.toList <+: front ++ '\x7b' :: (name'.toList ++ '\x7d' :: rest') := by
    refine ⟨rest, ?_⟩
    rw [← braced_append]
    exact h
  obtain ⟨between, rfl⟩ := braced_prefix_of_append_open hname.braceless hfront hpre
  refine ⟨between, rfl, ?_⟩
  rw [List.append_assoc] at h
  exact List.append_cancel_left h

end

/-! ### Searching -/

namespace Found

variable {start : Nat} {text : List Char} {found found' : List (Nat × String)}

theorem unique (h : Found start text found) (h' : Found start text found') : found = found' := by
  induction h generalizing found' with
  | none hnone =>
    cases h' with
    | none => rfl
    | next hname => exact (hnone _ _ _ rfl hname).elim
  | @next start front rest name found hname hfirst _ ih =>
    generalize htext : front ++ (placeholder name ++ rest) = text at h'
    cases h' with
    | none hnone => exact (hnone _ _ _ htext.symm hname).elim
    | next hname' hfirst' hrest' =>
      have hlength := Nat.le_antisymm (hfirst _ _ _ htext hname') (hfirst' _ _ _ htext.symm hname)
      obtain ⟨rfl, htail⟩ := List.append_inj htext hlength
      obtain ⟨rfl, rfl⟩ := placeholder_append_inj hname hname' htail
      rw [ih hrest']

theorem eq_iff (h : Found start text found) : Found start text found' ↔ found' = found :=
  ⟨fun h' => h'.unique h, fun heq => heq ▸ h⟩

/-- Every placeholder that occurs in the text is found. -/
theorem mem_of_eq_append (h : Found start text found) {front rest : List Char} {name : String}
    (hname : IsName name) (htext : text = front ++ (placeholder name ++ rest)) :
    (start + front.length, name) ∈ found := by
  induction h generalizing front with
  | none hnone => exact (hnone _ _ _ htext hname).elim
  | @next start first tail name' found hname' hfirst _ ih =>
    have hlength := hfirst _ _ _ htext hname
    obtain ⟨between, rfl⟩ : first <+: front :=
      List.prefix_of_prefix_length_le ⟨_, htext⟩ ⟨_, rfl⟩ hlength
    rw [List.append_assoc] at htext
    have htail := List.append_cancel_left htext
    by_cases hbetween : between = []
    · rw [hbetween, List.nil_append] at htail
      obtain ⟨rfl, -⟩ := placeholder_append_inj hname' hname htail
      rw [hbetween, List.append_nil]
      exact List.mem_cons_self
    · obtain ⟨between', hsplit, hbehind⟩ := exists_of_append_placeholder hname' hbetween htail
      have hmem := ih hbehind
      rw [hsplit, List.length_append, List.length_append, ← Nat.add_assoc, ← Nat.add_assoc]
      exact List.mem_cons_of_mem _ hmem

end Found

/-! ### Scanning -/

theorem scan_open (seen : Option (List Char)) (text : List Char) :
    scan seen ('\x7b' :: text) = scan (some []) text := by
  cases seen <;> rfl

/-- A placeholder ends whatever the scan was about to read, and the scan goes on behind it. -/
theorem scan_append_placeholder {name : String} (hname : IsName name) (seen : Option (List Char))
    (front rest : List Char) :
    scan seen (front ++ (placeholder name ++ rest)) =
      scan seen front ++ name.toList :: scan none rest := by
  have hopen (seen : Option (List Char)) :
      scan seen (placeholder name ++ rest) = name.toList :: scan none rest := by
    rw [placeholder, List.append_assoc, List.cons_append, scan_open]
    exact scan_name rest (.inr hname.1) hname.2
  fun_induction scan seen front with
  | case1 => exact hopen _
  | case2 seen front ih => simpa [scan] using ih
  | case3 c front hc ih => simpa [scan, hc] using ih
  | case4 front cs hempty hc ih => simpa [scan, hempty] using ih
  | case5 front cs hempty hc ih => simpa [scan, hempty] using ih
  | case6 c front hc cs hclose hword ih => simpa [scan, hc, hclose, hword] using ih
  | case7 c front hc cs hclose hword ih => simpa [scan, hc, hclose, hword] using ih

/-- The characters since the last opening brace, which the scan keeps. -/
def opened : Option (List Char) → List Char
  | none => []
  | some cs => '\x7b' :: cs.reverse

theorem scan_opened {seen : Option (List Char)}
    (hseen : ∀ ds, seen = some ds → ∀ c ∈ ds, CharSet.isWord c) (text : List Char) :
    scan none (opened seen ++ text) = scan seen text := by
  cases seen with
  | none => rfl
  | some ds =>
    have hword := hseen ds rfl
    rw [opened, List.cons_append, scan_open]
    suffices h : ∀ cs, (∀ c ∈ cs, CharSet.isWord c) → ∀ ds,
        scan (some ds) (cs ++ text) = scan (some (cs.reverse ++ ds)) text by
      simpa using h ds.reverse (fun c hc => hword c (List.mem_reverse.mp hc)) []
    intro cs hcs
    induction cs with
    | nil => exact fun _ => rfl
    | cons c cs ih =>
      intro ds
      obtain ⟨hc, hcs⟩ := List.forall_mem_cons.mp hcs
      rw [List.cons_append, scan, if_neg (ne_openBrace_of_isWord hc)]
      simp only [if_neg (ne_closeBrace_of_isWord hc), if_pos hc]
      rw [ih hcs, List.reverse_cons, List.append_assoc, List.singleton_append]

/-- The first name that a scan gives out is that of a placeholder with none before it. -/
theorem exists_of_scan_eq_cons {seen : Option (List Char)} {text cs : List Char}
    {css : List (List Char)} (hseen : ∀ ds, seen = some ds → ∀ c ∈ ds, CharSet.isWord c)
    (h : scan seen text = cs :: css) : ∃ front name rest,
      opened seen ++ text = front ++ (placeholder name ++ rest) ∧ name.toList = cs ∧
      scan none front = [] ∧ scan none rest = css := by
  fun_induction scan seen text with
  | case1 => cases h
  | case2 seen rest ih =>
    obtain ⟨front, name, rest', htext, hcs, hfront, hrest⟩ := ih (by simp) h
    refine ⟨opened seen ++ front, name, rest', ?_, hcs, ?_, hrest⟩
    · rw [List.append_assoc, ← htext]
      rfl
    · rw [scan_opened hseen]
      -- what the scan has kept is dropped at the brace, with which the front begins
      cases front with
      | nil => rfl
      | cons c front =>
        obtain ⟨rfl, -⟩ := List.cons.inj htext
        rw [scan_open] at hfront ⊢
        exact hfront
  | case3 c rest hc ih =>
    obtain ⟨front, name, rest', htext, hcs, hfront, hrest⟩ := ih (by simp) h
    refine ⟨c :: front, name, rest', congrArg (c :: ·) htext, hcs, ?_, hrest⟩
    rw [scan, if_neg hc]
    exact hfront
  | case4 rest ds hds hopen ih =>
    obtain ⟨front, name, rest', htext, hcs, hfront, hrest⟩ := ih (by simp) h
    obtain rfl : ds = [] := List.isEmpty_iff.mp hds
    exact ⟨'\x7b' :: '\x7d' :: front, name, rest', congrArg (['\x7b', '\x7d'] ++ ·) htext, hcs,
      hfront, hrest⟩
  | case5 rest ds hds hopen ih =>
    obtain ⟨rfl, hcss⟩ := List.cons.inj h
    refine ⟨[], String.ofList ds.reverse, rest, ?_, String.toList_ofList, rfl, hcss⟩
    simp [opened, placeholder, String.toList_ofList]
  | case6 c rest hopen ds hclose hword ih =>
    have hseen' : ∀ ds', some (c :: ds) = some ds' → ∀ c ∈ ds', CharSet.isWord c := by
      intro ds' hds'
      cases hds'
      exact List.forall_mem_cons.mpr ⟨hword, hseen ds rfl⟩
    simpa [opened] using ih hseen' h
  | case7 c rest hopen ds hclose hword ih =>
    obtain ⟨front, name, rest', htext, hcs, hfront, hrest⟩ := ih (by simp) h
    refine ⟨opened (some ds) ++ c :: front, name, rest', ?_, hcs, ?_, hrest⟩
    · rw [List.append_assoc, List.cons_append, ← htext]
      rfl
    · rw [scan_opened hseen, scan, if_neg hopen]
      simp only [if_neg hclose, hword, Bool.false_eq_true, if_false]
      exact hfront

/-- Scanning finds the placeholders of a text from left to right. -/
theorem exists_found (start : Nat) (text : List Char) :
    ∃ found, Found start text found ∧ found.map (·.2.toList) = scan none text := by
  generalize hnames : scan none text = names
  induction names generalizing start text with
  | nil =>
    refine ⟨[], .none fun front name rest htext hname => ?_, rfl⟩
    rw [htext, scan_append_placeholder hname] at hnames
    exact List.append_ne_nil_of_right_ne_nil _ (List.cons_ne_nil _ _) hnames
  | cons cs css ih =>
    obtain ⟨front, name, rest, htext, hcs, hfront, hrest⟩ := exists_of_scan_eq_cons (by simp) hnames
    have hname : IsName name := by
      rw [IsName, hcs]
      have hmem : cs ∈ scan none text := hnames ▸ List.mem_cons_self
      exact isName_of_mem_scan (by simp) hmem
    obtain ⟨found, hfound, hmap⟩ := ih (start + front.length + (placeholder name).length) rest hrest
    have htext : text = front ++ (placeholder name ++ rest) := htext
    refine ⟨(start + front.length, name) :: found, ?_, ?_⟩
    · rw [htext]
      refine .next hname (fun front' name' rest' h hname' => ?_) hfound
      -- a placeholder that begins earlier ends before the first that the scan gives out
      refine Nat.le_of_not_lt fun hlt => ?_
      obtain ⟨between, rfl⟩ : front' <+: front :=
        List.prefix_of_prefix_length_le ⟨_, h.symm⟩ ⟨_, rfl⟩ (Nat.le_of_lt hlt)
      rw [List.append_assoc] at h
      have hbetween : between ≠ [] := by
        rintro rfl
        simp at hlt
      obtain ⟨between', rfl, -⟩ :=
        exists_of_append_placeholder hname' hbetween (List.append_cancel_left h).symm
      rw [scan_append_placeholder hname'] at hfront
      exact List.append_ne_nil_of_right_ne_nil _ (List.cons_ne_nil _ _) hfront
    · rw [List.map_cons, hmap, hcs]

/-- The names that a path asks for are those of its placeholders. -/
theorem Found.mem_placeholders_iff {template : String} {found : List (Nat × String)}
    (h : Found 0 template.toList found) {name : String} :
    name ∈ placeholders template ↔ name ∈ found.map (·.2) := by
  obtain ⟨found', hfound', hscan⟩ := exists_found 0 template.toList
  have hnames : (scan .none template.toList).map String.ofList = found.map (·.2) := by
    rw [h.unique hfound', ← hscan, List.map_map]
    simp [Function.comp_def]
  rw [placeholders, List.mem_eraseDups, hnames]

end StoreClient.PathTemplate
