import Multidialect.Proofs.Generation.Adapted
import Multidialect.Proofs.Lint.ScopedOverrides

/-! # Overrides that fill no region

The lint looks for the regions of overrides in the templates as they are written, and passes over a
template whose markers are not in order. Regions are filled behind replacers, directives, type
parameters and words, and these may bring up a region or put markers in order. So an override that the
lint warns of makes no difference exactly if it fills none of the regions that a rendering comes to,
and it fills none if no pass brings up a region (`Generator.unused_override_idle_iff`).
-/

namespace Multidialect

open Text

namespace Profile

variable {p q : Profile} {key template k k' code : String}

/-- The override under a key is the one for the region `k` of a template. -/
def Uses (p : Profile) (key template k : String) : Prop :=
  template ++ "." ++ k = key ∨ k = key ∧ p.snippets.get? (template ++ "." ++ k) = none

/-- Profiles with the same overrides under all other keys. -/
def AgreeBut (key : String) (p q : Profile) : Prop :=
  ∀ k, k ≠ key → q.snippets.get? k = p.snippets.get? k

theorem scoped_ne (template k : String) : template ++ "." ++ k ≠ k := fun h => by
  have hlength := congrArg (·.toList.length) h
  simp only [String.toList_append, List.length_append] at hlength
  have hdot : ".".toList.length = 1 := rfl
  omega

theorem AgreeBut.snippet?_of_not_uses (h : AgreeBut key p q) (hu : ¬ p.Uses key template k) :
    q.snippet? template k = p.snippet? template k := by
  obtain ⟨hscoped, hbare⟩ := not_or.1 hu
  rw [snippet?, snippet?, h _ hscoped]
  by_cases hk : k = key
  · obtain ⟨other, hother⟩ := Option.ne_none_iff_exists'.1 fun hnone => hbare ⟨hk, hnone⟩
    rw [hother, Option.some_or, Option.some_or]
  · rw [h k hk]

theorem AgreeBut.snippet?_of_uses (h : AgreeBut key p q) (hcode : q.snippets.get? key = some code)
    (hu : p.Uses key template k) : q.snippet? template k = some code := by
  rcases hu with rfl | ⟨rfl, hnone⟩
  · exact snippet?_of_scoped hcode
  · rw [snippet?, h _ (scoped_ne template k), hnone, Option.none_or, hcode]

/-- An override is for one region of a template only. -/
theorem Uses.unique (h : p.Uses key template k) (h' : p.Uses key template k')
    (hk : IsKey k.toList) (hk' : IsKey k'.toList) : k = k' := by
  have hdot : ∀ x y : String, IsKey y.toList → template ++ "." ++ x ≠ y := fun x y hy hsame =>
    hy.noDot (by simp [← hsame])
  rcases h with h | ⟨h, -⟩ <;> rcases h' with h' | ⟨h', -⟩
  · have hsame := congrArg String.toList (h.trans h'.symm)
    exact String.toList_inj.1 (by simpa using hsame)
  · exact absurd (h.trans h'.symm) (hdot k k' hk')
  · exact absurd (h'.trans h.symm) (hdot k' k hk)
  · exact h.trans h'.symm

end Profile

namespace Manifest

/-- The manifest without an override of a dialect. -/
def withoutOverride (m : Manifest) (d : Dialect) (key : String) : Manifest :=
  m.withSnippets d ((m.overrides d).snippets.erase key)

theorem agreeBut_withoutOverride (m : Manifest) (d : Dialect) (key : String) :
    Profile.AgreeBut key (m.profile d) ((m.withoutOverride d key).profile d) := by
  intro k hk
  rw [withoutOverride, profile_withSnippets, profile_snippets]
  exact (Dictionary.get?_extend_erase _ key k).trans (if_neg hk)

theorem agreeBut_withOverride (m : Manifest) (d : Dialect) (key code : String) :
    Profile.AgreeBut key (m.profile d) ((m.withOverride d key code).profile d) := fun k hk => by
  rw [get?_withOverride, if_neg hk]

/-- A dialect with overrides is a variant. -/
theorem Valid.ne_reference {m : Manifest} (hm : m.Valid) {d : Dialect} {key : String}
    (hkey : key ∈ (m.profile d).snippets.keys) : d ≠ m.reference := by
  intro hd
  have hnone : (m.overrides d).snippets = [] := by
    have hfields := (hm.overrides d).reference hd
    simp only [Overrides.variantOnlyFields, List.filterMap_eq_nil_iff] at hfields
    simpa using hfields ("snippets", !(m.overrides d).snippets.isEmpty) (by simp)
  rw [profile_snippets, hnone] at hkey
  cases hkey

/-- The keys of overrides are keys that are let through. -/
theorem Valid.find?_key {m : Manifest} (hm : m.Valid) {d : Dialect} {key : String}
    (hkey : key ∈ (m.profile d).snippets.keys) : KeyFault.find? key.toList = none := by
  rw [profile_snippets, Dictionary.mem_keys_extend] at hkey
  exact (hm.overrides d).snippets key (hkey.resolve_left (by simp [Dictionary.keys]))

end Manifest

namespace Lint

/-- An override that is not used, for the lint, is for none of the regions that a template has as it is
written. -/
theorem notMem_of_unused {m : Manifest} (hm : m.Valid) {d : Dialect} {key : String}
    {ts : List Template} {registry : ReplacerRegistry}
    (hwarned : unusedWarning d key ∈ unusedSnippet.check ⟨m, ts, registry⟩) {t : Template}
    (ht : t ∈ ts) (ha : m.allows t.name d = true) {k : String}
    (hu : (m.profile d).Uses key t.name k) {ks : List String}
    (hkeys : Region.keys t.source.toList = .ok ks) : k ∉ ks := by
  intro hk
  obtain ⟨hmem, hunused⟩ := unusedWarning_mem_iff.1 hwarned
  have hkey : IsKey k.toList := Region.isKey_of_mem_keys hkeys hk
  rw [← Bool.not_eq_true] at hunused
  refine hunused ?_
  rcases hu with rfl | ⟨rfl, -⟩
  · rw [isUsed_scoped_iff ht hkeys hk]
    have hfault := hm.find?_key hmem
    by_cases hname : t.name.toList = []
    · simp [hname]
    · have htext : (t.name ++ "." ++ k).toList = t.name.toList ++ '.' :: k.toList := by simp
      rw [htext] at hfault
      exact (KeyFault.find?_scoped_eq_none_iff hname hkey).1 hfault
  · rw [isUsed, splitOnce?_eq_none hkey.noDot]
    refine List.any_eq_true.2 ⟨(t.name, ks), mem_regions.2 ⟨t, ht, rfl, hkeys⟩, ?_⟩
    rw [Manifest.allows] at ha
    simp [ha, hk]

end Lint

namespace Generator

variable {m : Manifest} {d : Dialect} {key : String} {ts : List Template} {root : Path}

/-- The override of a dialect under a key fills a region that the rendering of a template comes to. -/
def Fills (g : Generator) (d : Dialect) (ts : List Template) (key : String) : Prop :=
  ∃ t ∈ ts, ∃ r, Reaches g d t r ∧ (g.manifest.profile d).Uses key t.name r.key

theorem render_eq_of_pairs {g g' : Generator}
    (h : ∀ t ∈ ts, g.pairResult d t = g'.pairResult d t) : g.render ts [d] = g'.render ts [d] := by
  have hpairs : (g.render ts [d]).pairs = (g'.render ts [d]).pairs := by
    rw [pairs_render, pairs_render]
    refine List.flatMap_congr fun e he => List.map_congr_left fun t ht => ?_
    rw [List.mem_singleton.1 he, h t ht]
  exact congrArg Rendered.mk hpairs

theorem pairResult_of_render {g g' : Generator} (h : g.render ts [d] = g'.render ts [d])
    {t : Template} (ht : t ∈ ts) : g.pairResult d t = g'.pairResult d t := by
  have hpairs := congrArg Rendered.pairs h
  rw [pairs_render, pairs_render, List.flatMap_singleton, List.flatMap_singleton] at hpairs
  have hsame := List.map_inj_left.1 hpairs t ht
  exact (RenderedPair.mk.inj hsame).2.2

/-- **An override that fills nothing** may be exchanged or taken away. -/
theorem render_of_not_fills (hd : d ≠ m.reference) (h : ¬ Fills ⟨m, root⟩ d ts key)
    {snippets : Dictionary String}
    (hagree : Profile.AgreeBut key (m.profile d) ((m.withSnippets d snippets).profile d)) :
    render ⟨m.withSnippets d snippets, root⟩ ts [d] = render ⟨m, root⟩ ts [d] := by
  refine render_eq_of_pairs fun t ht => pairResult_withSnippets hd fun r hr => ?_
  have hidle : ¬ (m.profile d).Uses key t.name r.key := fun hu => h ⟨t, ht, r, hr, hu⟩
  exact congrArg (Option.map String.toList) (hagree.snippet?_of_not_uses hidle)

theorem residue_message_inj {template dialect marker marker' : String} {n : Nat}
    (h : Fault.message template (.residue dialect marker n) =
      Fault.message template (.residue dialect marker' n)) : marker = marker' := by
  have htext := congrArg String.toList h
  simp only [Fault.message, String.toList_append, List.append_cancel_right_eq,
    List.append_cancel_left_eq, String.toList_inj] at htext
  exact htext

/-- **An override that fills a region** makes a difference: there are two that give two failures. -/
theorem render_ne_of_fills (hd : d ≠ m.reference) (h : Fills ⟨m, root⟩ d ts key) :
    render ⟨m.withOverride d key (String.ofList (Region.stray true)), root⟩ ts [d] ≠
      render ⟨m.withOverride d key (String.ofList (Region.stray false)), root⟩ ts [d] := by
  obtain ⟨t, ht, r, ⟨ha, draft, before, after, hadapted, hparse, hbefore⟩, hu⟩ := h
  have hkey : ∀ r', .region r' ∈ before ++ .region r :: after → IsKey r'.key.toList := fun r' hr' =>
    Marker.isKey_of_parse? (.inl (Region.start_of_mem_parse hparse hr'))
  have hidle : ∀ r', .region r' ∈ before → ¬ (m.profile d).Uses key t.name r'.key := fun r' hr' hu' =>
    Region.key_ne_of_before hparse hr' (hu'.unique hu (hkey r' (by simp [hr'])) (hkey r (by simp)))
  have hfront (first : Bool) (r' : Region) (hr' : .region r' ∈ before) :
      override? ⟨m.withOverride d key (String.ofList (Region.stray first)), root⟩ d t r'.key =
        override? ⟨m, root⟩ d t r'.key :=
    congrArg (Option.map String.toList)
      ((m.agreeBut_withOverride d key _).snippet?_of_not_uses (hidle r' hr'))
  have hregion (first : Bool) :
      override? ⟨m.withOverride d key (String.ofList (Region.stray first)), root⟩ d t r.key =
        some (Region.stray first) := by
    have hcode := m.get?_withOverride d key (String.ofList (Region.stray first)) key
    rw [if_pos rfl] at hcode
    have hfound := (m.agreeBut_withOverride d key _).snippet?_of_uses hcode hu
    exact (congrArg (Option.map String.toList) hfound).trans (by simp)
  have hfails (first : Bool) :=
    pairResult_stray hd ha hadapted hparse hbefore (hfront first) (hregion first)
  intro hsame
  have hresults := (hfails true).symm.trans ((pairResult_of_render hsame ht).trans (hfails false))
  have hmarkers := residue_message_inj (PairResult.failed.inj hresults)
  exact absurd hmarkers (by decide)

/-- **When overrides that the lint warns of make no difference.** Let the lint warn of an override of a
dialect in a manifest that is let through. If it fills no region that a rendering comes to, what comes
of the dialect is the same without it. Exactly then it makes no difference what the override is. And it
fills no region if all regions that there are when regions are filled are regions of the template as
it is written, with all its markers in order. -/
theorem unused_override_idle_iff {source : ManifestSource} (hm : m.check source = .ok ())
    {registry : ReplacerRegistry}
    (hwarned : Lint.unusedWarning d key ∈ Lint.unusedSnippet.check ⟨m, ts, registry⟩) (root : Path) :
    (¬ Fills ⟨m, root⟩ d ts key →
      render ⟨m.withoutOverride d key, root⟩ ts [d] = render ⟨m, root⟩ ts [d]) ∧
    ((∀ code, render ⟨m.withOverride d key code, root⟩ ts [d] =
        render ⟨m.withoutOverride d key, root⟩ ts [d]) ↔
      ¬ Fills ⟨m, root⟩ d ts key) ∧
    ((∀ t ∈ ts, m.allows t.name d = true → ∀ draft ks, adapted ⟨m, root⟩ d t = (draft, .ok ()) →
        Region.keys draft.text = .ok ks →
        ∃ written, Region.keys t.source.toList = .ok written ∧ ∀ k ∈ ks, k ∈ written) →
      ¬ Fills ⟨m, root⟩ d ts key) := by
  have hvalid := Manifest.check_eq_ok.1 hm
  have hd := hvalid.ne_reference (Lint.unusedWarning_mem_iff.1 hwarned).1
  have hwithout (h : ¬ Fills ⟨m, root⟩ d ts key) :
      render ⟨m.withoutOverride d key, root⟩ ts [d] = render ⟨m, root⟩ ts [d] :=
    render_of_not_fills hd h (m.agreeBut_withoutOverride d key)
  have hwith (h : ¬ Fills ⟨m, root⟩ d ts key) (code : String) :
      render ⟨m.withOverride d key code, root⟩ ts [d] = render ⟨m, root⟩ ts [d] :=
    render_of_not_fills hd h (m.agreeBut_withOverride d key code)
  refine ⟨hwithout, ⟨fun hall hfills => ?_, fun h code => (hwith h code).trans (hwithout h).symm⟩,
    fun hwritten => ?_⟩
  · exact render_ne_of_fills hd hfills ((hall _).trans (hall _).symm)
  · rintro ⟨t, ht, r, ⟨ha, draft, before, after, hadapted, hparse, -⟩, hu⟩
    have hkeys : Region.keys draft.text =
        .ok (((before ++ .region r :: after).filterMap Segment.region?).map (·.key)) := by
      rw [Region.keys, hparse]
      rfl
    obtain ⟨written, hsource, hsub⟩ := hwritten t ht ha draft _ hadapted hkeys
    exact Lint.notMem_of_unused hvalid hwarned ht ha hu hsource
      (hsub _ (by simp [Segment.region?]))

/-- An override for a region that no template has. -/
theorem unused_override_idle_missing :
    let m := Manifest.standard.withOverride .sqlite "missing" "const b = 2"
    let ts : List Template := [.ofSource "cursor.ts" "// @start then\nconst a = 1\n// @end then\n"]
    m.check (.ofText "" "dialectic.toml") = .ok () ∧
      Lint.unusedWarning .sqlite "missing" ∈ Lint.unusedSnippet.check ⟨m, ts, .ofManifest m⟩ ∧
      render ⟨m.withoutOverride .sqlite "missing", ⟨"."⟩⟩ ts [.sqlite] =
        render ⟨m, ⟨"."⟩⟩ ts [.sqlite] := by
  intro m ts
  have hm : m.check (.ofText "" "dialectic.toml") = .ok () := ok_of_toOption (by decide +kernel)
  have hwarned : Lint.unusedWarning .sqlite "missing" ∈
      Lint.unusedSnippet.check ⟨m, ts, .ofManifest m⟩ := by decide +kernel
  obtain ⟨hidle, -, hnone⟩ := unused_override_idle_iff hm hwarned ⟨"."⟩
  refine ⟨hm, hwarned, hidle (hnone fun t ht _ draft ks hadapted hks => ?_)⟩
  obtain rfl := List.mem_singleton.1 ht
  have htext : (adapted ⟨m, ⟨"."⟩⟩ .sqlite
      (.ofSource "cursor.ts" "// @start then\nconst a = 1\n// @end then\n")).1.text =
      "// @start then\nconst a = 1\n// @end then\n".toList := by decide +kernel
  rw [hadapted] at htext
  exact ⟨ks, htext ▸ hks, fun k hk => hk⟩

/-- **An override that the lint warns of may make a difference**: the template has a marker too many,
which is removed for the dialect, so that its regions are in order when they are filled. -/
theorem unused_override_fills :
    let m := Manifest.standard.withOverride .sqlite "then" "y"
    let ts : List Template := [.ofSource "cursor.ts"
      "// sqlite-remove-next-line\n// @start then\n// @start then\nx\n// @end then\n"]
    Manifest.read "[dialects.sqlite.snippets]\nthen = \"y\"\n" "dialectic.toml" = .ok m ∧
      Lint.unusedWarning .sqlite "then" ∈ Lint.unusedSnippet.check ⟨m, ts, .ofManifest m⟩ ∧
      (render ⟨m, ⟨"."⟩⟩ ts [.sqlite]).modules.map (·.content) = ["y\n"] ∧
      (render ⟨m.withoutOverride .sqlite "then", ⟨"."⟩⟩ ts [.sqlite]).modules.map (·.content) =
        ["x\n"] := by
  exact ⟨ok_of_toOption (by decide +kernel), by decide +kernel, by decide +kernel, by decide +kernel⟩

end Generator

end Multidialect
