import Multidialect.Proofs.Files.Change

/-! # Paths that lead somewhere

A path leads to what its text says only if all that it passes is there. `Leads` says that everything
on the way and the end are directories, `Reaches` that everything before the end is. Making a
directory succeeds exactly in making its path lead (`leads_of_createDirs`, `createDirs_of_leads`);
where no file is in the way it does succeed (`createDirs_ok`). A path that reaches finds what stands
at its end (`entry_of_reaches`), and putting a file there changes nothing else
(`putBytes_of_reaches`).

A tree only `Grows` if no directory goes away and no file becomes anything else; making directories
and putting files do nothing worse, so what was found before is found afterwards.
-/

namespace Multidialect

open Path (IsName Component)

namespace FileTree

variable {t t' t'' : FileTree}

/-! ## Walks -/

/-- A walk looks at every directory before the end. -/
theorem walk_concat_iff {cs : List Component} {c : Component} {l l' : Location} :
    t.walk l (cs ++ [c]) = .ok l' ↔
      (∀ front, front <+: cs → t.get? (front.foldl step l) = some .directory) ∧
        l' = step (cs.foldl step l) c := by
  induction cs generalizing l with
  | nil =>
    simp only [List.nil_append, walk, List.prefix_nil, forall_eq, List.foldl_nil]
    cases hl : t.get? l with
    | none => simp
    | some e => cases e <;> simp [eq_comm]
  | cons x cs ih =>
    have hfronts : (∀ front, front <+: x :: cs → t.get? (front.foldl step l) = some .directory) ↔
        t.get? l = some .directory ∧
          ∀ front, front <+: cs → t.get? (front.foldl step (step l x)) = some .directory := by
      simp only [List.prefix_cons_iff]
      constructor
      · exact fun h => ⟨h [] (.inl rfl), fun front hf => h (x :: front) (.inr ⟨front, rfl, hf⟩)⟩
      · rintro ⟨hl, h⟩ front (rfl | ⟨front, rfl, hf⟩)
        · exact hl
        · exact h front hf
    simp only [List.cons_append, walk, List.foldl_cons, hfronts, and_assoc]
    split <;> simp_all

theorem isDirAt_iff {l : Location} : t.isDirAt l = true ↔ t.get? l = some .directory := by
  unfold isDirAt
  split <;> simp_all

/-- Components lead to a directory if everything on the way is one. -/
theorem leadsToDir_iff {cs : List Component} :
    t.leadsToDir cs = true ↔
      ∀ front, front <+: cs → t.get? (front.foldl step t.current) = some .directory := by
  rcases List.eq_nil_or_concat cs with rfl | ⟨xs, c, rfl⟩
  · simp [leadsToDir, walk, isDirAt_iff]
  · rw [List.concat_eq_append]
    simp only [List.prefix_concat_iff]
    constructor
    · intro h
      unfold leadsToDir at h
      split at h
      · rename_i l hw
        obtain ⟨hfronts, rfl⟩ := walk_concat_iff.1 hw
        rintro front (rfl | hf)
        · simpa using isDirAt_iff.1 h
        · exact hfronts front hf
      · cases h
    · intro h
      have hw : t.walk t.current (xs ++ [c]) = .ok (step (xs.foldl step t.current) c) :=
        walk_concat_iff.2 ⟨fun front hf => h front (.inr hf), rfl⟩
      rw [leadsToDir, hw]
      exact isDirAt_iff.2 (by simpa using h _ (.inl rfl))

/-- Without files in the way a walk can only miss something. -/
theorem walk_eq_error {cs : List Component} {l : Location} {e : FileFault}
    (hfree : ∀ front, front <+: cs → ∀ content, t.get? (front.foldl step l) ≠ some (.file content))
    (h : t.walk l cs = .error e) : e = .notFound := by
  induction cs generalizing l with
  | nil => cases h
  | cons c cs ih =>
    simp only [walk] at h
    split at h
    · refine ih (fun front hf => ?_) h
      exact hfree (c :: front) ((List.prefix_cons_inj c).2 hf)
    · rename_i content hf
      exact absurd hf (hfree [] List.nil_prefix content)
    · exact (Except.error.inj h).symm

/-! ## Leading and reaching -/

/-- Everything that a path passes, the end included, is a directory. -/
def Leads (t : FileTree) (p : Path) : Prop :=
  ∀ l, p.Passes t.current l → t.get? l = some .directory

/-- Everything that a path passes before the end is a directory, and its text may be that of a
file's path. -/
structure Reaches (t : FileTree) (p : Path) : Prop where
  ne_nil : p.steps ≠ []
  bare : p.namesDir = false
  front : ∀ front, front <+: p.steps.dropLast →
    t.get? (front.foldl step t.current) = some .directory

/-- Whatever stands where a path leads by its text is found by the path. -/
def Finds (t : FileTree) (p : Path) : Prop :=
  (t.get? (p.resolve t.current)).isSome → t.exists? p = true

instance (t : FileTree) (p : Path) : Decidable (t.Finds p) :=
  inferInstanceAs (Decidable (_ → _))

/-- A `.` in front is no step, and passes nothing but the base. -/
theorem forall_front_here {P : Location → Prop} {cs : List Component} {base : Location} :
    (∀ front, front <+: .here :: cs → P (front.foldl step base)) ↔
      ∀ front, front <+: cs → P (front.foldl step base) := by
  simp only [List.prefix_cons_iff]
  constructor
  · exact fun h front hf => h (.here :: front) (.inr ⟨front, rfl, hf⟩)
  · rintro h front (rfl | ⟨front, rfl, hf⟩)
    · exact h [] List.nil_prefix
    · exact h front hf

theorem leads_iff {p : Path} : t.Leads p ↔ t.leadsToDir p.components = true := by
  have hsteps : t.Leads p ↔
      ∀ front, front <+: p.steps → t.get? (front.foldl step t.current) = some .directory :=
    ⟨fun h front hf => h _ ⟨front, hf, rfl⟩, fun h l ⟨front, hf, hl⟩ => hl ▸ h front hf⟩
  rw [hsteps, leadsToDir_iff]
  rcases Path.components_eq p with he | he <;> rw [he]
  exact (forall_front_here (P := fun l => t.get? l = some .directory)).symm

theorem leads_of_prefix {p q : Path} (h : t.Leads p) (hpre : q.steps <+: p.steps) : t.Leads q :=
  fun l ⟨front, hf, hl⟩ => h l ⟨front, hf.trans hpre, hl⟩

theorem Leads.end {p : Path} (h : t.Leads p) : t.get? (p.resolve t.current) = some .directory :=
  h _ ⟨p.steps, List.prefix_rfl, rfl⟩

theorem Leads.base {p : Path} (h : t.Leads p) : t.get? t.current = some .directory :=
  h _ ⟨[], List.nil_prefix, rfl⟩

theorem namesDir_of_suffix {p : Path} {s : String} (hs : IsName s)
    (h : s.toList <:+ p.text.toList) : p.namesDir = false := by
  obtain ⟨front, hp⟩ := h
  obtain ⟨cs, c, hc⟩ : ∃ cs c, s.toList = cs ++ [c] := by
    rcases List.eq_nil_or_concat s.toList with hn | ⟨cs, c, hc⟩
    · exact absurd hn hs.ne_nil
    · exact ⟨cs, c, hc.trans (List.concat_eq_append ..)⟩
  have hslash : c ≠ '/' := by
    rintro rfl
    exact hs.no_slash (by simp [hc])
  have hend : p.endsInSlash = false := by
    simpa [Path.endsInSlash, ← hp, hc] using hslash
  -- a text that ends in `/.` would make the name `.`
  have hdot : ¬ ['/', '.'] <:+ p.text.toList := by
    rw [← hp, hc]
    rintro ⟨rest, he⟩
    obtain ⟨hbefore, hc'⟩ : rest ++ ['/'] = front ++ cs ∧ ['.'] = [c] :=
      List.append_inj' (by simpa using he) rfl
    obtain rfl := List.singleton_inj.1 hc'
    rcases List.eq_nil_or_concat cs with rfl | ⟨ds, c, rfl⟩
    · exact hs.ne_here hc
    · rw [List.concat_eq_append, ← List.append_assoc] at hbefore
      obtain ⟨-, hslash⟩ := List.append_inj' hbefore rfl
      obtain rfl := List.singleton_inj.1 hslash
      exact hs.no_slash (by simp [hc])
  rw [Path.namesDir, hend, Bool.false_or]
  exact Bool.eq_false_iff.2 fun h => hdot (List.isSuffixOf_iff_suffix.1 h)

theorem suffix_join (p q : Path) : q.text.toList <:+ (p.join q).text.toList := by
  cases hq : q.isAbsolute with
  | true => rw [Path.join_of_isAbsolute p hq]
  | false =>
    rcases Path.join_of_isRelative p hq with ⟨he, -⟩ | ⟨he, -⟩ <;> rw [he]
    · exact List.suffix_append _ _
    · exact ⟨p.text.toList ++ ['/'], by simp⟩

/-- A name in a directory that a path leads to is reached. -/
theorem reaches_of_leads {p q : Path} {s : String} (h : t.Leads q) (hs : IsName s)
    (hp : p.steps = q.steps ++ [.name s]) (htext : s.toList <:+ p.text.toList) : t.Reaches p := by
  refine ⟨by simp [hp], namesDir_of_suffix hs htext, fun front hf => ?_⟩
  rw [hp, List.dropLast_concat] at hf
  exact h _ ⟨front, hf, rfl⟩

theorem reaches_child {p : Path} {s : String} (h : t.Leads p) (hs : IsName s) :
    t.Reaches (p.child s) :=
  reaches_of_leads h hs (Path.steps_child p hs) (suffix_join p ⟨s⟩)

theorem locate_of_reaches {p : Path} (h : t.Reaches p) :
    t.locate p = .ok (p.resolve t.current) := by
  have hne : p.text ≠ "" := by
    intro he
    have hp : p = ⟨""⟩ := by
      cases p
      cases he
      rfl
    exact h.ne_nil (hp ▸ by decide)
  obtain ⟨cs, c, hs⟩ : ∃ cs c, p.steps = cs ++ [c] := by
    rcases List.eq_nil_or_concat p.steps with hn | ⟨cs, c, hc⟩
    · exact absurd hn h.ne_nil
    · exact ⟨cs, c, hc.trans (List.concat_eq_append ..)⟩
  have hfront := h.front
  rw [hs, List.dropLast_concat] at hfront
  have hend : p.resolve t.current = step (cs.foldl step t.current) c := by
    rw [Path.resolve, hs, List.foldl_append]
    rfl
  rw [locate, if_neg hne, hend]
  rcases Path.components_eq p with he | he <;> rw [he, hs]
  · exact walk_concat_iff.2 ⟨hfront, rfl⟩
  · rw [← List.cons_append]
    exact walk_concat_iff.2
      ⟨(forall_front_here (P := fun l => t.get? l = some .directory)).2 hfront, rfl⟩

/-- **A path that reaches** finds what stands at its end. -/
theorem entry_of_reaches {p : Path} (h : t.Reaches p) :
    t.entry p = (t.get? (p.resolve t.current)).elim (.error .notFound)
      fun e => .ok (p.resolve t.current, e) := by
  rw [entry, locate_of_reaches h, ok_bind]
  split <;> rename_i he <;> simp [he, h.bare]

theorem exists?_of_reaches {p : Path} (h : t.Reaches p) :
    t.exists? p = (t.get? (p.resolve t.current)).isSome := by
  rw [exists?, entry_of_reaches h]
  cases t.get? (p.resolve t.current) <;> rfl

/-- A text that is reached is read. -/
theorem read_of_reaches {p : Path} (h : t.Reaches p) {s : String}
    (hf : t.get? (p.resolve t.current) = some (.file s.toUTF8)) : t.read p = .ok s := by
  have hbytes : t.readBytes p = .ok s.toUTF8 := by
    rw [readBytes, entry_of_reaches h, hf]
    rfl
  have htext : String.fromUTF8? s.toUTF8 = some s := dif_pos s.isValidUTF8
  rw [read, hbytes, ok_bind, htext]

theorem finds_of_reaches {p : Path} (h : t.Reaches p) : t.Finds p := fun hs => by
  rwa [exists?_of_reaches h]

/-- A path that leads to a file does not end in `..`. -/
theorem not_up_of_reaches (ht : t.WellFormed) {p : Path} (h : t.Reaches p) {content : ByteArray}
    (hf : t.get? (p.resolve t.current) = some (.file content)) : p.steps.getLast? ≠ some .up := by
  intro hup
  obtain ⟨cs, hs⟩ := List.getLast?_eq_some_iff.1 hup
  have hdir := h.front cs (by rw [hs, List.dropLast_concat])
  have hend : p.resolve t.current = (cs.foldl step t.current).dropLast := by
    rw [Path.resolve, hs, List.foldl_append]
    rfl
  rw [hend, ht.parent_of_get? hdir] at hf
  cases hf

/-! ## Making directories -/

theorem createDirAt_concat_eq_ok {cs : List Component} {c : Component}
    (h : t.createDirAt (cs ++ [c]) = .ok t') :
    t.get? ((cs ++ [c]).foldl step t.current) = none ∧
      t' = t.set ((cs ++ [c]).foldl step t.current) .directory := by
  obtain ⟨l, hw, h⟩ := bind_eq_ok.1 h
  obtain rfl := walk_eq hw
  split at h
  · cases h
  · rename_i hn
    exact ⟨hn, (Except.ok.inj h).symm⟩

theorem leadsToDir_of_createDirAt {cs : List Component} {c : Component}
    (h : t.createDirAt (cs ++ [c]) = .ok t') : t'.leadsToDir (cs ++ [c]) = true := by
  obtain ⟨hn, rfl⟩ := createDirAt_concat_eq_ok h
  obtain ⟨l, hw, -⟩ := bind_eq_ok.1 h
  refine leadsToDir_iff.2 fun front hf => ?_
  rw [get?_set]
  split
  · rfl
  · rename_i hne
    rcases List.prefix_concat_iff.1 hf with rfl | hf
    · exact absurd rfl hne
    · exact (walk_concat_iff.1 hw).1 front hf

/-- Whichever way directories are made, their path is looked up at the end. -/
theorem leadsToDir_of_createDirsAt {c : Component} {rest : List Component}
    (h : t.createDirsAt (c :: rest) = (t', .ok ())) : t'.leadsToDir (c :: rest).reverse = true := by
  have hlook : ∀ {t₁ : FileTree} {e : FileFault},
      (t₁, if t₁.leadsToDir (c :: rest).reverse then .ok () else .error e) =
        ((t', .ok ()) : FileTree × Except FileFault Unit) →
      t'.leadsToDir (c :: rest).reverse = true := by
    intro t₁ e he
    obtain ⟨rfl, he⟩ := Prod.mk.inj he
    split at he
    · assumption
    · cases he
  unfold createDirsAt at h
  simp only at h
  split at h
  · rename_i hc
    obtain ⟨rfl, -⟩ := Prod.mk.inj h
    rw [List.reverse_cons] at hc ⊢
    exact leadsToDir_of_createDirAt hc
  · split at h
    · cases (Prod.mk.inj h).2
    · split at h
      · rename_i hc
        obtain ⟨rfl, -⟩ := Prod.mk.inj h
        rw [List.reverse_cons] at hc ⊢
        exact leadsToDir_of_createDirAt hc
      · exact hlook h
  · exact hlook h

/-- **A directory that was made** is where its path leads. -/
theorem leads_of_createDirs {p : Path} (hp : p.steps ≠ []) (h : t.createDirs p = (t', .ok ())) :
    t'.Leads p := by
  rw [leads_iff]
  unfold createDirs at h
  cases hc : p.components.reverse with
  | nil =>
    refine absurd ?_ hp
    rw [Path.steps, List.reverse_eq_nil_iff.1 hc]
    rfl
  | cons c rest =>
    rw [hc] at h
    have := leadsToDir_of_createDirsAt h
    rwa [← hc, List.reverse_reverse] at this

theorem base_of_createDirAt {cs : List Component} {c : Component}
    (h : t.createDirAt (cs ++ [c]) = .ok t') : t.get? t.current = some .directory := by
  obtain ⟨l, hw, -⟩ := bind_eq_ok.1 h
  exact (walk_concat_iff.1 hw).1 [] List.nil_prefix

theorem base_of_createDirsAt {c : Component} {rest : List Component}
    (h : (t.createDirsAt (c :: rest)).2 = .ok ()) : t.get? t.current = some .directory := by
  have hlook : ∀ {t₁ : FileTree} {cs : List Component} {e : FileFault},
      (if t₁.leadsToDir cs then .ok () else .error e) = (.ok () : Except FileFault Unit) →
        t₁.get? t₁.current = some .directory := by
    intro t₁ cs e he
    split at he
    · exact leadsToDir_iff.1 ‹_› [] List.nil_prefix
    · cases he
  have hmade : ∀ {t₁ t₂ : FileTree} {cs : List Component} {c : Component},
      t₁.createDirAt (c :: cs).reverse = .ok t₂ → t₁.get? t₁.current = some .directory := by
    intro t₁ t₂ cs c hc
    rw [List.reverse_cons] at hc
    exact base_of_createDirAt hc
  induction rest generalizing c with
  | nil =>
    unfold createDirsAt at h
    simp only [createDirsAt] at h
    split at h
    · exact hmade ‹_›
    · split at h
      · exact hmade ‹_›
      · exact hlook h
    · exact hlook h
  | cons c' rest ih =>
    unfold createDirsAt at h
    simp only at h
    split at h
    · exact hmade ‹_›
    · split at h
      · cases h
      · rename_i hr
        exact ih (congrArg Prod.snd hr)
    · exact hlook h

/-- A directory is only made from a current directory that is there. -/
theorem base_of_createDirs {p : Path} (hp : p.steps ≠ []) (h : (t.createDirs p).2 = .ok ()) :
    t.get? t.current = some .directory := by
  unfold createDirs at h
  cases hc : p.components.reverse with
  | nil =>
    refine absurd ?_ hp
    rw [Path.steps, List.reverse_eq_nil_iff.1 hc]
    rfl
  | cons c rest =>
    rw [hc] at h
    exact base_of_createDirsAt h

/-- Where a path leads already nothing is made. -/
theorem createDirs_of_leads {p : Path} (h : t.Leads p) : t.createDirs p = (t, .ok ()) := by
  rw [leads_iff] at h
  unfold createDirs
  rcases List.eq_nil_or_concat p.components with hc | ⟨cs, c, hc⟩
  · rw [hc]
    rfl
  · rw [List.concat_eq_append] at hc
    rw [hc] at h ⊢
    have hfronts := leadsToDir_iff.1 h
    have hw : t.walk t.current (cs ++ [c]) = .ok ((cs ++ [c]).foldl step t.current) :=
      walk_concat_iff.2 ⟨fun front hf => hfronts front (hf.trans (List.prefix_append _ _)),
        by simp⟩
    have hmade : t.createDirAt (cs ++ [c]) = .error .alreadyExists := by
      rw [createDirAt, hw, ok_bind, hfronts _ List.prefix_rfl]
    rw [List.reverse_append, List.reverse_singleton, List.singleton_append, createDirsAt]
    simp [hmade, h]

/-- Without a file in its place or in the way a directory is made, is there, or misses another
one. -/
theorem createDirAt_cases {cs : List Component} {c : Component}
    (hfree : ∀ front, front <+: cs ++ [c] → ∀ content,
      t.get? (front.foldl step t.current) ≠ some (.file content)) :
    (∃ t', t.createDirAt (cs ++ [c]) = .ok t') ∨ t.createDirAt (cs ++ [c]) = .error .notFound ∨
      t.leadsToDir (cs ++ [c]) = true := by
  cases hw : t.walk t.current (cs ++ [c]) with
  | error e =>
    obtain rfl := walk_eq_error hfree hw
    refine .inr (.inl ?_)
    rw [createDirAt, hw]
    rfl
  | ok l =>
    have hl := walk_eq hw
    rw [createDirAt, leadsToDir, hw, ok_bind]
    cases hg : t.get? l with
    | none => exact .inl ⟨_, rfl⟩
    | some e =>
      cases e with
      | file content => exact absurd (hl ▸ hg) (hfree _ List.prefix_rfl content)
      | directory => exact .inr (.inr (isDirAt_iff.2 hg))

/-! ## Trees that grow -/

/-- Directories stay, and files stay files. -/
structure Grows (t t' : FileTree) : Prop where
  current : t'.current = t.current
  directory : ∀ l, t.get? l = some .directory → t'.get? l = some .directory
  file : ∀ l content, t.get? l = some (.file content) →
    ∃ content', t'.get? l = some (.file content')

theorem Grows.refl (t : FileTree) : Grows t t := ⟨rfl, fun _ h => h, fun _ content h => ⟨content, h⟩⟩

theorem Grows.trans (h : Grows t t') (h' : Grows t' t'') : Grows t t'' := by
  refine ⟨h'.current.trans h.current, fun l hl => h'.directory l (h.directory l hl), ?_⟩
  intro l content hl
  obtain ⟨content', hl'⟩ := h.file l content hl
  exact h'.file l content' hl'

theorem Grows.isSome (h : Grows t t') {l : Location} (hl : (t.get? l).isSome) :
    (t'.get? l).isSome := by
  obtain ⟨e, he⟩ := Option.isSome_iff_exists.1 hl
  cases e with
  | directory => simp [h.directory l he]
  | file content =>
    obtain ⟨content', he'⟩ := h.file l content he
    simp [he']

theorem grows_set {l : Location} {e : FileEntry} (hl : t.get? l ≠ some .directory)
    (he : (∃ content, e = .file content) ∨ t.get? l = none) : Grows t (t.set l e) := by
  refine ⟨rfl, fun k hk => ?_, fun k content hk => ?_⟩
  · rw [get?_set, if_neg fun h : k = l => hl (h ▸ hk)]
    exact hk
  · rw [get?_set]
    split
    · rename_i h
      subst h
      obtain ⟨content', rfl⟩ := he.resolve_right (by simp [hk])
      exact ⟨content', rfl⟩
    · exact ⟨content, hk⟩

theorem grows_createDirAt {cs : List Component} (h : t.createDirAt cs = .ok t') : Grows t t' := by
  obtain ⟨l, -, h⟩ := bind_eq_ok.1 h
  split at h
  · cases h
  · rename_i hn
    obtain rfl := Except.ok.inj h
    exact grows_set (by simp [hn]) (.inr hn)

theorem grows_createDirsAt (t : FileTree) (cs : List Component) : Grows t (t.createDirsAt cs).1 := by
  induction cs with
  | nil => exact .refl t
  | cons c rest ih =>
    unfold createDirsAt
    simp only
    split
    · rename_i h
      exact grows_createDirAt h
    · split
      · rename_i h
        rw [h] at ih
        exact ih
      · rename_i h
        rw [h] at ih
        split
        · rename_i h'
          exact ih.trans (grows_createDirAt h')
        · exact ih
    · exact .refl t

theorem grows_createDirs (t : FileTree) (p : Path) : Grows t (t.createDirs p).1 :=
  grows_createDirsAt t _

theorem grows_writeBytes (t : FileTree) (p : Path) (content : ByteArray) :
    Grows t (t.writeBytes p content).1 := by
  unfold writeBytes
  cases hw : t.write p content with
  | error e => exact .refl t
  | ok t' =>
    obtain ⟨-, hnd, rfl⟩ := write_eq_ok hw
    exact grows_set hnd (.inl ⟨content, rfl⟩)

theorem grows_putBytes (t : FileTree) (p : Path) (content : ByteArray) :
    Grows t (t.putBytes p content).1 := by
  unfold putBytes
  cases hp : p.parent? with
  | none => exact grows_writeBytes t p content
  | some parent =>
    have hdirs := grows_createDirs t parent
    simp only
    cases hr : (t.createDirs parent).2 with
    | error e => exact hdirs
    | ok u => exact hdirs.trans (grows_writeBytes _ p content)

theorem Leads.grows {p : Path} (h : t.Leads p) (hg : Grows t t') : t'.Leads p :=
  fun l hl => hg.directory l (h l (hg.current ▸ hl))

theorem Reaches.grows {p : Path} (h : t.Reaches p) (hg : Grows t t') : t'.Reaches p :=
  ⟨h.ne_nil, h.bare, fun front hf => hg.directory _ (hg.current ▸ h.front front hf)⟩

/-- In a directory that is there one more is made or there, without a file in its place. -/
theorem createDirAt_of_leadsToDir {cs : List Component} {c : Component}
    (hlead : t.leadsToDir cs = true)
    (hfile : ∀ content, t.get? ((cs ++ [c]).foldl step t.current) ≠ some (.file content)) :
    (∃ t', t.createDirAt (cs ++ [c]) = .ok t') ∨ t.leadsToDir (cs ++ [c]) = true := by
  have hfronts := leadsToDir_iff.1 hlead
  have hfree : ∀ front, front <+: cs ++ [c] → ∀ content,
      t.get? (front.foldl step t.current) ≠ some (.file content) := by
    intro front hf content
    rcases List.prefix_concat_iff.1 hf with rfl | hf
    · exact hfile content
    · simp [hfronts front hf]
  rcases createDirAt_cases hfree with h | h | h
  · exact .inl h
  · have hw : t.walk t.current (cs ++ [c]) = .ok (step (cs.foldl step t.current) c) :=
      walk_concat_iff.2 ⟨hfronts, rfl⟩
    rcases bind_eq_error.1 h with he | ⟨l, -, he⟩
    · simp [hw] at he
    · split at he <;> simp at he
  · exact .inr h

/-- Without a file in the way directories are made. -/
theorem createDirsAt_ok (ht : t.WellFormed) (hbase : t.get? t.current = some .directory)
    {cs : List Component} (hcs : ∀ s, .name s ∈ cs → IsName s)
    (hfree : ∀ front, front <+: cs.reverse → ∀ content,
      t.get? (front.foldl step t.current) ≠ some (.file content)) :
    (t.createDirsAt cs).2 = .ok () := by
  induction cs with
  | nil => rfl
  | cons c rest ih =>
    rw [List.reverse_cons] at hfree
    have hrest := ih (fun s hs => hcs s (.tail _ hs)) fun front hf =>
      hfree front (hf.trans (List.prefix_append _ _))
    have hnames : ∀ s, .name s ∈ rest → IsName s := fun s hs => hcs s (.tail _ hs)
    have hchange := change_createDirsAt ht hnames
    -- after the directories before it are made, it is not missing any more
    have hlast : (∃ t', (t.createDirsAt rest).1.createDirAt (rest.reverse ++ [c]) = .ok t') ∨
        (t.createDirsAt rest).1.leadsToDir (rest.reverse ++ [c]) = true := by
      refine createDirAt_of_leadsToDir ?_ fun content hfile => ?_
      · cases rest with
        | nil => simp [createDirsAt, leadsToDir, walk, isDirAt_iff, hbase]
        | cons c' rest' => exact leadsToDir_of_createDirsAt (Prod.ext rfl hrest)
      · rw [hchange.current] at hfile
        rcases hchange.get? _ fun hf => hf with he | ⟨-, -, hd⟩
        · exact hfree _ List.prefix_rfl content (he ▸ hfile)
        · rw [hd] at hfile
          cases hfile
    unfold createDirsAt
    simp only [List.reverse_cons]
    split
    · rfl
    · generalize t.createDirsAt rest = made at hrest hlast ⊢
      obtain ⟨t₁, r⟩ := made
      obtain rfl : r = .ok () := hrest
      simp only at hlast ⊢
      rcases hlast with ⟨t', h⟩ | h
      · rw [h]
      · cases t₁.createDirAt (rest.reverse ++ [c]) with
        | ok t' => rfl
        | error e => simp [h]
    · rename_i e he hc
      rcases createDirAt_cases hfree with ⟨t', h⟩ | h | h
      · simp [hc] at h
      · exact absurd (Except.error.inj (hc.symm.trans h)) he
      · simp [h]

/-- **Directories can be made** where no file is in the way. -/
theorem createDirs_ok (ht : t.WellFormed) (hbase : t.get? t.current = some .directory) {p : Path}
    (hfree : ∀ l, p.Passes t.current l → ∀ content, t.get? l ≠ some (.file content)) :
    (t.createDirs p).2 = .ok () := by
  refine createDirsAt_ok ht hbase (fun s hs => isName_of_mem_components (List.mem_reverse.1 hs)) ?_
  rw [List.reverse_reverse]
  have hsteps : ∀ front, front <+: p.steps → ∀ content,
      t.get? (front.foldl step t.current) ≠ some (.file content) :=
    fun front hf => hfree _ ⟨front, hf, rfl⟩
  rcases Path.components_eq p with he | he <;> rw [he]
  · exact hsteps
  · exact (forall_front_here (P := fun l => ∀ content, t.get? l ≠ some (.file content))).2 hsteps

/-! ## Putting files -/

/-- **Putting a file that is reached** changes this file and nothing else. -/
theorem putBytes_of_reaches {p : Path} (h : t.Reaches p)
    (hd : t.get? (p.resolve t.current) ≠ some .directory) (content : ByteArray) :
    t.putBytes p content = (t.set (p.resolve t.current) (.file content), .ok ()) := by
  have hslash : p.endsInSlash = false := (Bool.or_eq_false_iff.1 h.bare).1
  have hwrite : t.writeBytes p content = (t.set (p.resolve t.current) (.file content), .ok ()) := by
    have : t.write p content = .ok (t.set (p.resolve t.current) (.file content)) := by
      rw [write, locate_of_reaches h, ok_bind]
      split
      · rename_i hdir
        exact absurd hdir hd
      · simp [h.bare]
      · simp [hslash, h.bare]
    rw [writeBytes, this]
    rfl
  unfold putBytes
  cases hp : p.parent? with
  | none => exact hwrite
  | some parent =>
    have hleads : t.Leads parent := fun l ⟨front, hf, hl⟩ =>
      hl ▸ h.front front (Path.steps_parent? hp ▸ hf)
    simp only [createDirs_of_leads hleads]
    exact hwrite

theorem namesDir_of_write {p : Path} {content : ByteArray} (h : t.write p content = .ok t') :
    p.namesDir = false := by
  obtain ⟨l, -, h⟩ := bind_eq_ok.1 h
  split at h
  · cases h
  · split at h
    · cases h
    · simp_all
  · split at h
    · cases h
    · split at h
      · cases h
      · simp_all

theorem reaches_of_writeBytes {p : Path} (hp : p.steps ≠ []) {content : ByteArray}
    (h : t.writeBytes p content = (t', .ok ())) : t'.Reaches p := by
  unfold writeBytes at h
  cases hw : FileFault.during .write p (t.write p content) with
  | error e => simp [hw] at h
  | ok t₂ =>
    obtain rfl : t₂ = t' := by simpa [hw] using h
    have hw := mapError_eq_ok.1 hw
    obtain ⟨hloc, hnd, rfl⟩ := write_eq_ok hw
    refine ⟨hp, namesDir_of_write hw, fun front hf => ?_⟩
    obtain ⟨cs, c, hs⟩ : ∃ cs c, p.steps = cs ++ [c] := by
      rcases List.eq_nil_or_concat p.steps with hn | ⟨cs, c, hc⟩
      · exact absurd hn hp
      · exact ⟨cs, c, hc.trans (List.concat_eq_append ..)⟩
    rw [hs, List.dropLast_concat] at hf
    have hfront : t.get? (front.foldl step t.current) = some .directory := by
      have hwalk := (locate_eq_ok hloc).2
      rcases Path.components_eq p with he | he <;> rw [he, hs] at hwalk
      · exact (walk_concat_iff.1 hwalk).1 front hf
      · rw [← List.cons_append] at hwalk
        exact (forall_front_here (P := fun l => t.get? l = some .directory)).1
          (walk_concat_iff.1 hwalk).1 front hf
    show (t.set _ _).get? (front.foldl step t.current) = _
    rw [get?_set, if_neg fun he => hnd (by rw [← he]; exact hfront)]
    exact hfront

/-- **A file that was put** is reached by its path. -/
theorem reaches_of_putBytes {p : Path} (hp : p.steps ≠ []) {content : ByteArray}
    (h : t.putBytes p content = (t', .ok ())) : t'.Reaches p := by
  unfold putBytes at h
  cases hpar : p.parent? with
  | none =>
    simp only [hpar] at h
    exact reaches_of_writeBytes hp h
  | some parent =>
    simp only [hpar] at h
    cases hr : FileFault.during .create parent (t.createDirs parent).2 with
    | error e => simp [hr] at h
    | ok u =>
      rw [hr] at h
      exact reaches_of_writeBytes hp h

end FileTree

end Multidialect
