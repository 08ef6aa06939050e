import Multidialect.Lint
import Multidialect.Proofs.Files.Enumeration
import Multidialect.Proofs.Manifest.Overrides
import Multidialect.Proofs.Template.Regions
import Multidialect.Proofs.Text.Characters
import Multidialect.Proofs.Text.Occurrences

/-! # Overrides for one template

The override for the region of one template is put under the template's name, a dot and the region's
key. Such a key is split at its first dot when a manifest is checked and when a lint looks for unused
overrides, but a template's name goes up to the last dot of its file's name and may hold others. So an
override for one template can be written exactly if there is no dot in the template's name
(`Manifest.scoped_override_iff`); where the region's text is looked up, it is found in any case.
-/

namespace Multidialect

open Text

/-! ## Cutting at the first dot -/

namespace Text

theorem splitOnce?_of_notMem {sep : Char} {a : Text} (h : sep ∉ a) (b : Text) :
    splitOnce? [sep] (a ++ sep :: b) = some (a, b) := by
  have hcut := @splitOnce?_word sep [] a h b
  simpa using hcut

theorem splitOnce?_eq_none {sep : Char} {t : Text} (h : sep ∉ t) : splitOnce? [sep] t = none :=
  splitOnce?_eq_none_iff.2 fun hoccurs => h (hoccurs.subset (List.mem_singleton_self sep))

end Text

/-- A text that can be the key of a region. -/
structure Text.IsKey (key : Text) : Prop where
  ne_nil : key ≠ []
  tag : ∀ c ∈ key, isTagChar c = true

theorem Text.IsKey.noDot {key : Text} (h : IsKey key) : '.' ∉ key := fun hm =>
  absurd (h.tag _ hm) (by decide)

namespace KeyFault

/-- **A key for one template** is let through exactly if there is no dot in the template's name. -/
theorem find?_scoped_eq_none_iff {template key : Text} (ht : template ≠ []) (hk : IsKey key) :
    find? (template ++ '.' :: key) = none ↔ '.' ∉ template := by
  constructor
  · intro h hdot
    obtain ⟨a, b, rfl, ha⟩ := List.eq_append_cons_of_mem hdot
    have hsplit := splitOnce?_of_notMem ha (b ++ '.' :: key)
    rw [List.append_assoc, List.cons_append] at h
    -- What stands behind the first dot holds another one.
    have hregion : (!(b ++ '.' :: key).all isTagChar) = true := by
      rw [List.all_append, List.all_cons]
      simp [show isTagChar '.' = false by decide]
    simp only [find?, split, hsplit, hregion] at h
    split at h
    · cases h
    · split at h <;> cases h
  · intro h
    have htag : (!key.all isTagChar) = false := by simpa using hk.tag
    simp [find?, split, splitOnce?_of_notMem h, hk.ne_nil, ht, htag]

end KeyFault

/-! ## The keys of regions -/

theorem Marker.isKey_of_key? {rest : Text} {key : String} (h : key? rest = some key) :
    IsKey key.toList := by
  unfold key? at h
  dsimp only at h
  split at h
  · rename_i hc
    obtain rfl := Option.some.inj h
    simp only [Bool.and_eq_true, decide_eq_true_eq, List.all_eq_true] at hc
    exact ⟨by simpa using hc.1.2, by simpa using hc.2⟩
  · cases h

theorem Marker.isKey_of_parse? {line : Text} {key : String}
    (h : parse? line = some (.start key) ∨ parse? line = some (.stop key)) : IsKey key.toList := by
  obtain ⟨comment, hsome⟩ : ∃ comment, ofComment? comment = some (.start key) ∨
      ofComment? comment = some (.stop key) := by
    rcases h with h | h <;> obtain ⟨comment, -, h⟩ := Option.bind_eq_some_iff.1 h
    · exact ⟨comment, .inl h⟩
    · exact ⟨comment, .inr h⟩
  unfold ofComment? at hsome
  split at hsome
  · rename_i rest hrest
    cases hk : key? rest with
    | none => simp [hk] at hsome
    | some k =>
      obtain rfl : k = key := by simpa [hk] using hsome
      exact isKey_of_key? hk
  · split at hsome
    · rename_i rest hrest
      cases hk : key? rest with
      | none => simp [hk] at hsome
      | some k =>
        obtain rfl : k = key := by simpa [hk] using hsome
        exact isKey_of_key? hk
    · simp at hsome

namespace Region

/-- The first line of a region is the start marker with its key. -/
theorem start_of_mem_parse {t : Text} {segments : List Segment} (h : parse t = .ok segments)
    {r : Region} (hr : .region r ∈ segments) : Marker.parse? r.opening = some (.start r.key) := by
  obtain ⟨blocks, hall, -⟩ := spelled_of_parse h
  have hstart : List.Forall₂ (fun s ls => (∀ r, s = .region r →
      Marker.parse? r.opening = some (.start r.key)) ∧ s.Spells ls) segments blocks :=
    hall.imp fun s ls hs => ⟨fun r he => by subst he; cases hs; assumption, hs⟩
  exact ((List.forall₂_and_left _ _).1 hstart).1 _ hr r rfl

theorem isKey_of_mem_keys {t : Text} {ks : List String} (h : keys t = .ok ks) {k : String}
    (hk : k ∈ ks) : IsKey k.toList := by
  obtain ⟨segments, hparse, rfl⟩ := map_eq_ok.1 h
  obtain ⟨r, hr, rfl⟩ := List.mem_map.1 hk
  obtain ⟨s, hs, hregion⟩ := List.mem_filterMap.1 hr
  cases s with
  | literal t => cases hregion
  | region r' =>
    obtain rfl := Option.some.inj hregion
    exact Marker.isKey_of_parse? (.inl (start_of_mem_parse hparse hs))

end Region

/-! ## What the lint finds -/

namespace Lint

/-- What the lint has to say of an override of a dialect that fills no region. -/
def unusedWarning (d : Dialect) (key : String) : Diagnostic :=
  ⟨.warning, "unused-snippet", s!"snippet override '{key}' matches no region",
    some ("dialects." ++ d.name ++ ".snippets")⟩

theorem unusedWarning_inj {d e : Dialect} {key k : String} :
    unusedWarning d key = unusedWarning e k ↔ d = e ∧ key = k := by
  constructor
  · intro h
    simp only [unusedWarning, Diagnostic.mk.injEq, Option.some.injEq, true_and] at h
    obtain ⟨hmessage, hlocation⟩ := h
    have hmessage := congrArg String.toList hmessage
    have hlocation := congrArg String.toList hlocation
    simp only [String.toList_append, List.append_cancel_right_eq, List.append_cancel_left_eq,
      String.toList_inj] at hmessage hlocation
    exact ⟨Dialect.name_inj.1 hlocation, hmessage⟩
  · rintro ⟨rfl, rfl⟩
    rfl

/-- **The lint warns** of the overrides of each dialect that are not used. -/
theorem unusedWarning_mem_iff {c : LintContext} {d : Dialect} {key : String} :
    unusedWarning d key ∈ unusedSnippet.check c ↔
      key ∈ (c.manifest.profile d).snippets.keys ∧
        isUsed (regions c.templates) (c.manifest.profile d) key = false := by
  have hcheck : unusedSnippet.check c = c.manifest.profiles.flatMap fun p =>
      (p.snippets.keys.filter (!isUsed (regions c.templates) p ·)).map (unusedWarning p.dialect) := rfl
  rw [hcheck, List.mem_flatMap]
  constructor
  · rintro ⟨p, hp, hwarning⟩
    obtain ⟨e, -, rfl⟩ := List.mem_map.1 hp
    obtain ⟨k, hk, hsame⟩ := List.mem_map.1 hwarning
    rw [Manifest.dialect_profile, unusedWarning_inj] at hsame
    obtain ⟨rfl, rfl⟩ := hsame
    simpa using hk
  · rintro ⟨hkey, hused⟩
    refine ⟨_, c.manifest.mem_profiles d, List.mem_map.2 ⟨key, ?_, ?_⟩⟩
    · simpa using ⟨hkey, hused⟩
    · rw [Manifest.dialect_profile]

theorem mem_regions {ts : List Template} {name : String} {keys : List String} :
    (name, keys) ∈ regions ts ↔
      ∃ x ∈ ts, x.name = name ∧ Region.keys x.source.toList = .ok keys := by
  rw [regions, List.mem_filterMap]
  constructor
  · rintro ⟨x, hx, h⟩
    obtain ⟨ks, hks, hpair⟩ := Option.map_eq_some_iff.1 h
    obtain ⟨rfl, rfl⟩ := Prod.mk.inj hpair
    exact ⟨x, hx, rfl, toOption_eq_some.1 hks⟩
  · rintro ⟨x, hx, rfl, hkeys⟩
    exact ⟨x, hx, by rw [toOption_eq_some.2 hkeys]; rfl⟩

/-- An override for a region of one template is used, for the lint, if there is no dot in the name of
the template; else the lint looks for a template of another name and a key with a dot. -/
theorem isUsed_scoped_iff {ts : List Template} {x : Template} (hx : x ∈ ts) {keys : List String}
    (hkeys : Region.keys x.source.toList = .ok keys) {k : String} (hk : k ∈ keys) (p : Profile) :
    isUsed (regions ts) p (x.name ++ "." ++ k) = true ↔ '.' ∉ x.name.toList := by
  have htext : (x.name ++ "." ++ k).toList = x.name.toList ++ '.' :: k.toList := by simp
  constructor
  · intro h hdot
    obtain ⟨a, b, hname, ha⟩ := List.eq_append_cons_of_mem hdot
    have hsplit := splitOnce?_of_notMem ha (b ++ '.' :: k.toList)
    rw [isUsed, htext, hname, List.append_assoc, List.cons_append, hsplit] at h
    obtain ⟨⟨name, ks⟩, hmem, hfound⟩ := List.any_eq_true.1 h
    obtain ⟨y, -, -, hy⟩ := mem_regions.1 hmem
    have hkey : String.ofList (b ++ '.' :: k.toList) ∈ ks := by
      simpa using (Bool.and_eq_true_iff.1 hfound).2
    exact (Region.isKey_of_mem_keys hy hkey).noDot (by simp)
  · intro h
    rw [isUsed, htext, splitOnce?_of_notMem h]
    refine List.any_eq_true.2 ⟨(x.name, keys), mem_regions.2 ⟨x, hx, rfl, hkeys⟩, ?_⟩
    simp [hk]

end Lint

/-! ## Overrides for one template -/

theorem fileStem_ne_empty {name : String} (h : (fileExtension? name).isSome) :
    (fileStem name).toList ≠ [] := by
  unfold fileExtension? at h
  unfold fileStem
  cases hs : splitLast? '.' name.toList with
  | none => simp [hs] at h
  | some parts =>
    obtain ⟨stem, extension⟩ := parts
    cases stem with
    | nil => simp [hs] at h
    | cons c stem => simp

/-- The files that are found in a directory have names with an extension. -/
theorem FileTree.exists_of_mem_listFiles {t : FileTree} (ht : t.WellFormed) {dir : Path}
    {extensions : List String} {files : List Path} (h : t.listFiles dir extensions = .ok files)
    {file : Path} (hfile : file ∈ files) :
    ∃ name, file.fileName? = some name ∧ (fileExtension? name).isSome := by
  obtain ⟨names, rfl, -, hnames⟩ := exists_names_of_listFiles ht h
  obtain ⟨name, hname, rfl⟩ := List.mem_map.1 hfile
  obtain ⟨⟨content, hget⟩, hext⟩ := (hnames name).1 hname
  obtain ⟨front, back, hentries, -⟩ := List.lookup_eq_some_iff.1 hget
  have hname : Path.IsName name := ht.names (dir.resolve t.current ++ [name], .file content)
    (by simp [hentries]) name (by simp)
  refine ⟨name, Path.fileName?_child dir hname, ?_⟩
  cases he : fileExtension? name with
  | none => simp [he] at hext
  | some extension => rfl

namespace Profile

/-- **An override for one template goes first**, whatever there is for all templates. -/
theorem snippet?_of_scoped {p : Profile} {template key code : String}
    (h : p.snippets.get? (template ++ "." ++ key) = some code) : p.snippet? template key = some code := by
  rw [snippet?, h]
  rfl

end Profile

namespace Manifest

/-- The manifest with one more override for a dialect. -/
def withOverride (m : Manifest) (d : Dialect) (key code : String) : Manifest :=
  m.withSnippets d ((m.overrides d).snippets.put key code)

variable {m : Manifest} {d : Dialect} {key : String}

theorem valid_withOverride_iff (hm : m.Valid) (hd : d ≠ m.reference) (code : String) :
    (m.withOverride d key code).Valid ↔ KeyFault.find? key.toList = none := by
  rw [withOverride, valid_withSnippets_iff hm hd]
  constructor
  · exact fun h => h key (Dictionary.key_mem_keys_put _ _ _)
  · intro h k hk
    rcases Dictionary.mem_keys_put hk with hk | rfl
    · exact (hm.overrides d).snippets k hk
    · exact h

theorem get?_withOverride (m : Manifest) (d : Dialect) (key code k : String) :
    ((m.withOverride d key code).profile d).snippets.get? k =
      if k = key then some code else (m.profile d).snippets.get? k := by
  rw [withOverride, profile_withSnippets, profile_snippets]
  exact Dictionary.get?_extend_put [] _ key code k

theorem mem_keys_withOverride (m : Manifest) (d : Dialect) (key code : String) :
    key ∈ ((m.withOverride d key code).profile d).snippets.keys := by
  rw [withOverride, profile_withSnippets]
  exact Dictionary.mem_keys_extend.2 (.inr (Dictionary.key_mem_keys_put _ _ _))

/-- **When overrides for one template can be written.** Let `template` be the name of a template whose
file can be found in a directory, and `k` the key of a region. A manifest that is let through, with one
more override of a variant for that region of that template, is let through exactly if there is no dot
in the name. Where the region's text is looked up, the override is found in any case, before one for all
templates; and the lint takes it for used exactly if there is no dot in the name, if some template of
this name has the region. -/
theorem scoped_override_iff {t : FileTree} (ht : t.WellFormed) {dir : Path}
    {extensions : List String} {files : List Path} (hfiles : t.listFiles dir extensions = .ok files)
    {file : Path} (hfile : file ∈ files) {source : ManifestSource} (hm : m.check source = .ok ())
    (hd : d ≠ m.reference) {line : Text} {k : String}
    (hk : Marker.parse? line = some (.start k) ∨ Marker.parse? line = some (.stop k)) (code : String) :
    let template := fileStem (file.fileName?.getD "")
    let m' := m.withOverride d (template ++ "." ++ k) code
    (m'.check source = .ok () ↔ '.' ∉ template.toList) ∧
    (m'.profile d).snippet? template k = some code ∧
    ∀ (ts : List Template) (x : Template) (keys : List String) (registry : ReplacerRegistry),
      x ∈ ts → x.name = template → Region.keys x.source.toList = .ok keys → k ∈ keys →
      (Lint.unusedWarning d (template ++ "." ++ k) ∉ Lint.unusedSnippet.check ⟨m', ts, registry⟩ ↔
        '.' ∉ template.toList) := by
  intro template m'
  have hne : template.toList ≠ [] := by
    obtain ⟨name, hname, hext⟩ := FileTree.exists_of_mem_listFiles ht hfiles hfile
    have htemplate : template = fileStem name := by simp only [template, hname, Option.getD_some]
    rw [htemplate]
    exact fileStem_ne_empty hext
  have htext : (template ++ "." ++ k).toList = template.toList ++ '.' :: k.toList := by simp
  refine ⟨?_, Profile.snippet?_of_scoped (by rw [m.get?_withOverride, if_pos rfl]), ?_⟩
  · rw [check_eq_ok, valid_withOverride_iff (check_eq_ok.1 hm) hd, htext]
    exact KeyFault.find?_scoped_eq_none_iff hne (Marker.isKey_of_parse? hk)
  · intro ts x keys registry hx hname hkeys hmem
    have hused := Lint.isUsed_scoped_iff hx hkeys hmem (m'.profile d)
    rw [hname] at hused
    rw [Lint.unusedWarning_mem_iff, ← hused, and_iff_right (m.mem_keys_withOverride d _ code),
      Bool.not_eq_false]

/-- An override of SQLite for the region of the template `count`. -/
theorem scoped_override_count :
    let t := (FileTree.empty.put ⟨"src/dialect/count.ts"⟩ "").1
    let m := standard.withOverride .sqlite ("count" ++ "." ++ "then") "x"
    t.WellFormed ∧ t.listFiles ⟨"src/dialect"⟩ ["ts"] = .ok [⟨"src/dialect/count.ts"⟩] ∧
      standard.check (.ofText "" "dialectic.toml") = .ok () ∧ Dialect.sqlite ≠ standard.reference ∧
      Marker.parse? "// @start then\n".toList = some (.start "then") ∧
      m.check (.ofText "" "dialectic.toml") = .ok () ∧
      (m.profile .sqlite).snippet? "count" "then" = some "x" ∧
      Lint.unusedWarning .sqlite ("count" ++ "." ++ "then") ∉ Lint.unusedSnippet.check
        ⟨m, [.ofSource "count.ts" "// @start then\n// @end then\n"], .ofManifest m⟩ := by
  intro t m
  have ht : t.WellFormed := by decide +kernel
  have hfiles : t.listFiles ⟨"src/dialect"⟩ ["ts"] = .ok [⟨"src/dialect/count.ts"⟩] :=
    ok_of_toOption (by decide +kernel)
  have hm : standard.check (.ofText "" "dialectic.toml") = .ok () := ok_of_toOption (by decide +kernel)
  have hk : Marker.parse? "// @start then\n".toList = some (.start "then") := by decide +kernel
  have hstem : fileStem ((⟨"src/dialect/count.ts"⟩ : Path).fileName?.getD "") = "count" := by
    decide +kernel
  obtain ⟨hcheck, hfound, hlint⟩ :=
    scoped_override_iff ht hfiles (.head _) hm (d := .sqlite) (by decide) (.inl hk) "x"
  rw [hstem] at hcheck hfound hlint
  have hkeys : Region.keys "// @start then\n// @end then\n".toList = .ok ["then"] :=
    ok_of_toOption (by decide +kernel)
  exact ⟨ht, hfiles, hm, by decide, hk, hcheck.2 (by decide), hfound,
    (hlint _ (.ofSource "count.ts" "// @start then\n// @end then\n") _ _ (.head _) (by decide) hkeys
      (.head _)).2 (by decide)⟩

/-- **An override for one template may be refused**: the name of the template holds a dot. -/
theorem scoped_override_refused :
    let t := (FileTree.empty.put ⟨"src/dialect/count.min.ts"⟩ "").1
    let m := standard.withOverride .sqlite ("count.min" ++ "." ++ "then") "x"
    t.listFiles ⟨"src/dialect"⟩ ["ts"] = .ok [⟨"src/dialect/count.min.ts"⟩] ∧
      fileStem "count.min.ts" = "count.min" ∧
      Marker.parse? "// @start then\n".toList = some (.start "then") ∧
      standard.check (.ofText "" "dialectic.toml") = .ok () ∧
      (∃ e, m.check (.ofText "" "dialectic.toml") = .error e) ∧
      (m.profile .sqlite).snippet? "count.min" "then" = some "x" ∧
      Lint.unusedWarning .sqlite ("count.min" ++ "." ++ "then") ∈ Lint.unusedSnippet.check
        ⟨m, [.ofSource "count.min.ts" "// @start then\n// @end then\n"], .ofManifest m⟩ := by
  refine ⟨ok_of_toOption (by decide +kernel), by decide +kernel, by decide +kernel,
    ok_of_toOption (by decide +kernel), exists_error_of_toOption (by decide +kernel),
    by decide +kernel, by decide +kernel⟩

end Manifest

end Multidialect
