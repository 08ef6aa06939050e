import Multidialect.Proofs.Generation.Clearing
import Multidialect.Proofs.Path.Normal
import Mathlib.Algebra.Order.BigOperators.Group.List
import Mathlib.Algebra.Order.Group.Nat
import Mathlib.Data.Set.Finite.Basic
import Mathlib.Data.Set.Finite.Range

/-! # Which layouts are refused

A manifest is refused if the normal form of an output directory is at the front of that of an input.
Normal forms forget how far a path goes up, two directories at a time, so they are faithful for paths
that go at most one directory up, and for no others (`Manifest.normal_forms_faithful_iff`): a layout
may be refused although its inputs lie elsewhere (`Manifest.refused_layout_is_apart`).
-/

namespace Multidialect

open Path
open Generator (Covers)

/-! ## Roots with fresh names -/

namespace Path

theorem route_child (p : Path) {s : String} (h : IsName s) :
    (p.child s).route = ⟨p.route.ups, p.route.names ++ [s]⟩ := by
  rw [route, steps_child p h, List.foldl_append]
  rfl

/-- The name that is `n + 1` times the same letter. -/
def letters (n : Nat) : String := String.ofList (List.replicate (n + 1) 'x')

theorem isName_letters (n : Nat) : IsName (letters n) where
  ne_nil := by simp [letters]
  ne_here := by simp [letters, List.replicate_succ]
  ne_up := by simp [letters, List.replicate_succ]
  no_slash := by simp [letters, List.mem_replicate]

/-- There is always another name. -/
theorem exists_fresh (ns : List String) : ∃ s, IsName s ∧ s ∉ ns := by
  have hinj : Function.Injective letters := fun a b h => by
    have hlength := congrArg (fun s => s.toList.length) h
    simpa [letters] using hlength
  obtain ⟨_, ⟨n, rfl⟩, hn⟩ :=
    (Set.infinite_range_of_injective hinj).exists_notMem_finset ns.toFinset
  exact ⟨letters n, isName_letters n, by simpa using hn⟩

/-- Behind copies of a name that occurs nowhere else, names are at the front of others only if the
copies are equally many. -/
theorem eq_of_replicate_prefix {s : String} {a b : Nat} {ns ms : List String} (hne : ns ≠ [])
    (hns : s ∉ ns) (hms : s ∉ ms) (h : List.replicate a s ++ ns <+: List.replicate b s ++ ms) :
    a = b := by
  induction a generalizing b with
  | zero =>
    cases b with
    | zero => rfl
    | succ b =>
      obtain ⟨n, ns, rfl⟩ := List.exists_cons_of_ne_nil hne
      exact absurd (.head _) ((List.cons_prefix_cons.1 h).1 ▸ hns)
  | succ a ih =>
    cases b with
    | zero =>
      rw [List.replicate_succ, List.cons_append] at h
      exact absurd (h.subset (.head _)) hms
    | succ b =>
      rw [List.replicate_succ, List.replicate_succ] at h
      rw [ih (List.cons_prefix_cons.1 h).2]

end Path

namespace Manifest

/-! ## Refused layouts -/

/-- A manifest whose directories are given by relative paths. -/
structure Relative (m : Manifest) : Prop where
  output : m.generator.output.isAbsolute = false
  inputs : ∀ dir ∈ m.inputDirs, dir.isAbsolute = false

/-- A root that is at least as deep as the paths of a manifest go up. -/
structure DeepRoot (m : Manifest) (root : Path) : Prop where
  absolute : root.isAbsolute = true
  output : m.generator.output.route.ups ≤ (root.resolve []).length
  inputs : ∀ dir ∈ m.inputDirs, dir.route.ups ≤ (root.resolve []).length

variable {m : Manifest}

/-- The normal form of a dialect's output is at the front of that of a directory. -/
def Overlaps (m : Manifest) (d : Dialect) (dir : Path) : Prop :=
  dir.normalize.startsWith (m.normalOutput d) = true

theorem exists_overlaps_of_refused {source : ManifestSource} {e : ManifestError}
    (h : m.checkLayout source = .error e) : ∃ d, ∃ dir ∈ m.inputDirs, m.Overlaps d dir := by
  by_contra hnone
  have hok : m.checkLayout source = .ok () :=
    checkLayout_eq_ok.2 fun d dir hdir =>
      Bool.eq_false_iff.2 fun hover => hnone ⟨d, dir, hdir, hover⟩
  rw [hok] at h
  cases h

theorem covers_iff {root : Path} {d : Dialect} {dir : Path} :
    Covers ⟨m, root⟩ d dir ↔
      (m.generator.output.child d.name).resolve (root.resolve []) <+: dir.resolve (root.resolve []) := by
  rw [Covers, Generator.resolve_dialectDir, Path.resolve_join, Path.resolve_join]

section Relative

variable (hm : m.Relative) (d : Dialect) {dir : Path} (hdir : dir ∈ m.inputDirs)
include hm

theorem Relative.child : (m.generator.output.child d.name).isAbsolute = false :=
  (isAbsolute_join _ (isAbsolute_of_isName (isName_dialect d))).trans hm.output

include hdir

/-- Paths that go up equally far start from the same directory. -/
theorem Relative.sameStart (hups : dir.route.ups = m.generator.output.route.ups) :
    SameStart (m.generator.output.child d.name) dir :=
  ⟨(hm.child d).trans (hm.inputs dir hdir).symm, by rw [route_child _ (isName_dialect d), hups]⟩

theorem Relative.covers_iff_overlaps (hups : dir.route.ups = m.generator.output.route.ups)
    (root : Path) : Covers ⟨m, root⟩ d dir ↔ m.Overlaps d dir := by
  have hsame := hm.sameStart d hdir hups
  rw [covers_iff, resolve_prefix_iff hsame, Overlaps, normalOutput, startsWith_normalize hsame]

/-- Normal forms overlap if the names do and both paths go up an even number of directories, or both
an odd one. -/
theorem Relative.overlaps_iff : m.Overlaps d dir ↔
    m.generator.output.route.ups % 2 = dir.route.ups % 2 ∧
      m.generator.output.route.names ++ [d.name] <+: dir.route.names := by
  have hroute := route_child m.generator.output (isName_dialect d)
  rw [Overlaps, normalOutput,
    startsWith_normalize_iff (hm.child d) (hm.inputs dir hdir) (by simp [hroute]), hroute]

end Relative

/-- From a root whose names occur in no path of the manifest, an output holds an input only if their
paths go up equally far. -/
theorem Relative.exists_root (hm : m.Relative) :
    ∃ root : Path, m.DeepRoot root ∧ ∀ d, ∀ dir ∈ m.inputDirs, Covers ⟨m, root⟩ d dir →
      dir.route.ups = m.generator.output.route.ups := by
  let paths := Dialect.all.map (m.generator.output.child ·.name) ++ m.inputDirs
  obtain ⟨s, hs, hfresh⟩ := exists_fresh (paths.flatMap (·.route.names))
  let deep := (m.generator.output :: m.inputDirs).map (·.route.ups) |>.sum
  have hlocation : ∀ n ∈ List.replicate deep s, IsName n := fun n hn => by
    rw [List.eq_of_mem_replicate hn]
    exact hs
  have hresolve : (ofLocation (List.replicate deep s)).resolve [] = List.replicate deep s :=
    resolve_ofLocation hlocation []
  have hdeep : ∀ p ∈ m.generator.output :: m.inputDirs, p.route.ups ≤ deep := fun p hp =>
    List.le_sum_of_mem (List.mem_map_of_mem hp)
  refine ⟨ofLocation (List.replicate deep s), ⟨isAbsolute_ofLocation hlocation, ?_, ?_⟩, ?_⟩
  · rw [hresolve, List.length_replicate]
    exact hdeep _ (.head _)
  · intro dir hdir
    rw [hresolve, List.length_replicate]
    exact hdeep dir (.tail _ hdir)
  · intro d dir hdir hcovers
    have hout := hdeep _ (.head _)
    have hin := hdeep dir (.tail _ hdir)
    have hnotMem : ∀ p ∈ paths, s ∉ p.route.names := fun p hp hn =>
      hfresh (List.mem_flatMap.2 ⟨p, hp, hn⟩)
    have hchild : s ∉ (m.generator.output.child d.name).route.names :=
      hnotMem _ (List.mem_append_left _ (List.mem_map_of_mem (Dialect.mem_all d)))
    rw [covers_iff, hresolve, resolve_eq, resolve_eq, anchor, anchor, hm.child d, hm.inputs dir hdir,
      if_neg Bool.false_ne_true, if_neg Bool.false_ne_true, List.take_replicate,
      List.take_replicate] at hcovers
    have hne : (m.generator.output.child d.name).route.names ≠ [] := by
      simp [route_child _ (isName_dialect d)]
    have hups := eq_of_replicate_prefix hne hchild (hnotMem dir (List.mem_append_right _ hdir)) hcovers
    rw [List.length_replicate, route_child _ (isName_dialect d)] at hups
    dsimp only at hups
    omega

/-- **Where normal forms are faithful.** From a base that is deep enough, a relative path and its
normal form lead to the same location exactly if the path goes at most one directory up; nothing is
left to fold in a normal form; relative paths with the same normal form lead to the same location
exactly if they go up equally far. So of a refused layout with relative paths an output really holds
an input, wherever the root is, exactly if the normal forms of two paths overlap that go up equally
far; where no path goes up more than one directory, that is so for every refused layout. -/
theorem normal_forms_faithful_iff {p : Path} (hp : p.isAbsolute = false) {m : Manifest}
    (hm : m.Relative) {source : ManifestSource} {e : ManifestError}
    (h : m.checkLayout source = .error e) :
    (∀ (base : Path) (current : Location), p.route.ups ≤ (base.resolve current).length →
      ((base.join p.normalize).resolve current = (base.join p).resolve current ↔
        p.route.ups ≤ 1)) ∧
    p.normalize.normalize = p.normalize ∧
    (∀ q : Path, q.isAbsolute = false → p.normalize = q.normalize →
      ∀ (base : Path) (current : Location), p.route.ups ≤ (base.resolve current).length →
        q.route.ups ≤ (base.resolve current).length →
        ((base.join p).resolve current = (base.join q).resolve current ↔
          p.route.ups = q.route.ups)) ∧
    ((∀ root : Path, m.DeepRoot root → ∃ d, ∃ dir ∈ m.inputDirs, Covers ⟨m, root⟩ d dir) ↔
      ∃ d, ∃ dir ∈ m.inputDirs, m.Overlaps d dir ∧
        dir.route.ups = m.generator.output.route.ups) ∧
    (m.generator.output.route.ups ≤ 1 → (∀ dir ∈ m.inputDirs, dir.route.ups ≤ 1) →
      ∃ d, ∃ dir ∈ m.inputDirs, ∀ root : Path, Covers ⟨m, root⟩ d dir) := by
  refine ⟨fun base current hdeep => ?_, normalize_normalize p,
    fun q hq hnormal base current hdeep hdeep' => ?_, ⟨fun hall => ?_, ?_⟩, fun hout hin => ?_⟩
  · rw [resolve_join, resolve_join, resolve_normalize_iff hp hdeep]
  · rw [resolve_join, resolve_join, resolve_eq_iff_of_normalize_eq hp hq hnormal hdeep hdeep']
  · obtain ⟨root, hroot, hups⟩ := hm.exists_root
    obtain ⟨d, dir, hdir, hcovers⟩ := hall root hroot
    have heq := hups d dir hdir hcovers
    exact ⟨d, dir, hdir, (hm.covers_iff_overlaps d hdir heq root).1 hcovers, heq⟩
  · rintro ⟨d, dir, hdir, hover, hups⟩ root -
    exact ⟨d, dir, hdir, (hm.covers_iff_overlaps d hdir hups root).2 hover⟩
  · obtain ⟨d, dir, hdir, hover⟩ := exists_overlaps_of_refused h
    have hparity := ((hm.overlaps_iff d hdir).1 hover).1
    have hle := hin dir hdir
    exact ⟨d, dir, hdir, fun root => (hm.covers_iff_overlaps d hdir (by omega) root).2 hover⟩

/-- Templates in an output directory that lies a directory up. -/
theorem normal_forms_faithful_sibling :
    let m : Manifest := { Manifest.standard with generator := { GeneratorSettings.standard with
      templates := ⟨"../out/./pg/templates"⟩, output := ⟨"lib/../../out"⟩ } }
    m.generator.templates.isAbsolute = false ∧ m.Relative ∧
      m.generator.templates.normalize = ⟨"../out/pg/templates"⟩ ∧
      (∃ e, m.checkLayout (.ofText "" "dialectic.toml") = .error e) ∧
      ((⟨"/work"⟩ : Path).join ⟨"../out/pg/templates"⟩).resolve [] =
        ((⟨"/work"⟩ : Path).join m.generator.templates).resolve [] ∧
      ∃ d, ∃ dir ∈ m.inputDirs, Covers ⟨m, ⟨"/work"⟩⟩ d dir := by
  intro m
  have hp : m.generator.templates.isAbsolute = false := by decide
  have hm : m.Relative := ⟨by decide, by decide⟩
  have hnormal : m.generator.templates.normalize = ⟨"../out/pg/templates"⟩ := by decide +kernel
  obtain ⟨e, he⟩ : ∃ e, m.checkLayout (.ofText "" "dialectic.toml") = .error e :=
    exists_error_of_toOption (by decide +kernel)
  obtain ⟨hresolve, -, -, -, hcovers⟩ := normal_forms_faithful_iff hp hm he
  obtain ⟨d, dir, hdir, hall⟩ := hcovers (by decide) (by decide)
  refine ⟨hp, hm, hnormal, ⟨e, he⟩, ?_, d, dir, hdir, hall _⟩
  rw [← hnormal]
  exact (hresolve ⟨"/work"⟩ [] (by decide)).2 (by decide)

/-- A manifest whose templates lie two directories up. -/
def twoUp : String := "[generator]\ntemplates = \"../../src/pg/templates\"\n"

/-- **A layout may be refused although its inputs lie elsewhere**: two steps up cancel each other in
the normal form. -/
theorem refused_layout_is_apart :
    let m : Manifest := { Manifest.standard with generator := { GeneratorSettings.standard with
      templates := ⟨"../../src/pg/templates"⟩ } }
    (Toml.parse? twoUp.toList).bind ofDocument? = some m ∧ m.Relative ∧
      (∃ e, Manifest.read twoUp "dialectic.toml" = .error e) ∧
      m.DeepRoot ⟨"/work/a/b"⟩ ∧
      ((⟨"/work/a/b"⟩ : Path).join m.generator.templates.normalize).resolve [] =
        ["work", "a", "b", "src", "pg", "templates"] ∧
      ((⟨"/work/a/b"⟩ : Path).join m.generator.templates).resolve [] =
        ["work", "src", "pg", "templates"] ∧
      ∀ d, ∀ dir ∈ m.inputDirs, ¬ Covers ⟨m, ⟨"/work/a/b"⟩⟩ d dir := by
  refine ⟨by decide +kernel, ⟨by decide, by decide⟩, exists_error_of_toOption (by decide +kernel),
    ⟨by decide, by decide +kernel, by decide +kernel⟩, by decide +kernel, by decide +kernel, ?_⟩
  intro d
  cases d <;> decide +kernel

end Manifest

end Multidialect
