import Multidialect.Proofs.Barrel
import Multidialect.Proofs.Files.Enumeration
import Multidialect.Proofs.Generation.Planned

/-! # Planned barrels

A run plans one barrel for each dialect that has extra modules (`Generator.plan_merges_barrels`). It
goes on from the barrel that is there if that is to be kept, and from nothing otherwise
(`Generator.StartsFrom`): first come the lines that are there and are not blank, and then the missing
lines for the extra modules, in the order of their file names and each once.
-/

namespace Multidialect

open Text

namespace Generator

variable {g : Generator} {t : FileTree} {d : Dialect} {keep : Bool} {s : String}
  {f : PlannedFile} {files : List PlannedFile}

/-- The text that a dialect's barrel goes on from: that of the barrel that is there, if it is to be
kept, or nothing. -/
inductive StartsFrom (g : Generator) (keep : Bool) (t : FileTree) (d : Dialect) : String → Prop
  | kept {s : String} (keeps : keep = true) (read : t.read (g.barrelPath d) = .ok s) :
    StartsFrom g keep t d s
  | none (keeps : keep = true) (missing : t.exists? (g.barrelPath d) = false) : StartsFrom g keep t d ""
  | afresh (drops : keep = false) : StartsFrom g keep t d ""

/-- A barrel and the text that it goes on from. -/
theorem startsFrom_of_startBarrel {b : Barrel} (h : startBarrel keep (g.barrelPath d) t = .ok b) :
    ∃ s, g.StartsFrom keep t d s ∧ b = .ofText s.toList := by
  unfold startBarrel at h
  split at h
  · rename_i hthere
    obtain ⟨s, hread, rfl⟩ := map_eq_ok.1 h
    exact ⟨s, .kept (Bool.and_eq_true_iff.1 hthere).1 (mapError_eq_ok.1 hread), rfl⟩
  · rename_i hnone
    obtain rfl := Except.ok.inj h
    cases keep with
    | false => exact ⟨"", .afresh rfl, rfl⟩
    | true => exact ⟨"", .none rfl (by simpa using hnone), rfl⟩

/-- The extra modules of a dialect, in the order of their file names. -/
structure HasExtras (g : Generator) (t : FileTree) (d : Dialect) (xs : List Template) : Prop where
  loaded : ∃ dir, (g.manifest.profile d).extras = some dir ∧
    t.loadTemplates (g.root.join dir) g.manifest.generator.extensions = .ok xs
  ordered : (xs.map (·.fileName)).Pairwise (· < ·)

/-- The lines of a text that are not blank. -/
def keptLines (s : String) : List Text := (lines s.toList).filter (!isBlankText ·)

/-- The lines that export the modules of `xs` and are not among `kept`, each once, where it comes first;
a file that is called like the barrel is no module. -/
def addedLines (g : Generator) (kept : List Text) (xs : List Template) : List Text :=
  (((xs.filter (·.fileName != g.manifest.generator.barrel)).map
    (Barrel.exportLine ·.name.toList)).filter (!kept.contains ·)).eraseDups

/-- The barrel `f` of a dialect: lines that are there, and behind them the missing ones. -/
structure Merges (g : Generator) (keep : Bool) (t : FileTree) (d : Dialect) (f : PlannedFile)
    (s : String) (xs : List Template) (kept added : List Text) : Prop where
  starts : g.StartsFrom keep t d s
  extras : g.HasExtras t d xs
  kept_eq : kept = keptLines s
  added_eq : added = g.addedLines kept xs
  nodup : added.Nodup
  apart : ∀ line ∈ added, line ∉ kept
  file : f = g.barrelFile d (String.ofList ((kept ++ added).flatMap (· ++ ['\n'])))

theorem missing_exported (g : Generator) (b : Barrel) (xs : List Template) :
    b.missing (g.exported xs) = g.addedLines b.lines xs := by
  rw [Barrel.missing, exported, List.map_map]
  rfl

/-- The text of a barrel that goes on from a text. -/
theorem barrelText_ofText (g : Generator) (s : String) (xs : List Template) :
    g.barrelText (.ofText s.toList) xs = String.ofList
      ((keptLines s ++ g.addedLines (keptLines s) xs).flatMap (· ++ ['\n'])) := by
  have hkept : ∀ line ∈ (Barrel.ofText s.toList).lines, isBlankText line = false := fun line hm => by
    simpa using (List.mem_filter.1 hm).2
  rw [barrelText, Barrel.render_eq (Barrel.not_blank_appendAll hkept), Barrel.lines_appendAll,
    missing_exported]
  rfl

/-- **The barrel of a dialect.** -/
theorem merges_of_planExtras (ht : t.WellFormed) {dir : Path}
    (hdir : (g.manifest.profile d).extras = some dir) (h : g.planExtras d keep t = .ok files) :
    ∃ f s xs kept added, files.filter (·.category = .barrel) = [f] ∧
      g.Merges keep t d f s xs kept added := by
  obtain ⟨b, xs, hb, hxs, rfl⟩ := (planExtras_eq_ok_iff hdir).1 h
  obtain ⟨s, hstarts, rfl⟩ := startsFrom_of_startBarrel hb
  refine ⟨_, s, xs, _, _, ?_, hstarts, ⟨⟨dir, hdir, hxs⟩, FileTree.pairwise_lt_fileNames ht hxs⟩, rfl,
    rfl, ?_, ?_, congrArg (g.barrelFile d) (barrelText_ofText g s xs)⟩
  · have hnone : ((xs.filter (·.fileName != g.manifest.generator.barrel)).map (g.extraFile d)).filter
        (·.category = .barrel) = [] := by
      refine List.filter_eq_nil_iff.2 fun f hf => ?_
      obtain ⟨x, -, rfl⟩ := List.mem_map.1 hf
      simp [extraFile, PlannedFile.ofCategory]
    rw [List.filter_append, hnone]
    rfl
  · exact missing_exported g (.ofText s.toList) xs ▸ Barrel.nodup_missing _ _
  · intro line hm
    have hmissing : line ∈ (Barrel.ofText s.toList).missing (g.exported xs) :=
      (missing_exported g _ xs).symm ▸ hm
    exact (Barrel.mem_missing.1 hmissing).2

theorem filter_barrel_planDialect {modules : List GeneratedModule} {extras : List PlannedFile}
    (h : g.planDialect modules keep t d = .ok files) (he : g.planExtras d keep t = .ok extras) :
    files.filter (·.category = .barrel) = extras.filter (·.category = .barrel) := by
  obtain ⟨extras', he', rfl⟩ := planDialect_eq_ok h
  obtain rfl := Except.ok.inj (he.symm.trans he')
  have hstub : (g.planStub d).filter (·.category = .barrel) = [] := by
    refine List.filter_eq_nil_iff.2 fun f hf => ?_
    cases hstub : g.manifest.generator.tsconfig with
    | false => simp [planStub, hstub] at hf
    | true =>
      obtain rfl : f = _ := by simpa [planStub, hstub] using hf
      simp [PlannedFile.stub]
  have hmodules : ((modules.filter (·.dialect == d)).map fun x =>
      PlannedFile.ofCategory .generated x.path x.content).filter (·.category = .barrel) = [] := by
    refine List.filter_eq_nil_iff.2 fun f hf => ?_
    obtain ⟨x, -, rfl⟩ := List.mem_map.1 hf
    simp [PlannedFile.ofCategory]
  rw [List.filter_append, List.filter_append, hstub, hmodules]
  rfl

/-- **Planned barrels.** For each dialect that has extra modules one barrel is planned. Its lines are
those of the barrel that it goes on from that are not blank, in order and as they are, and behind them
the lines of the extra modules that are not there yet, in the order of the file names; each of these
stands there once and is no other line. Without the old barrel these are all its lines. -/
theorem plan_merges_barrels (ht : t.WellFormed) {modules : List GeneratedModule} {ds : List Dialect}
    {r : FileRegistry} (h : g.plan modules ds keep t = .ok r) :
    List.Forall₂ (fun d f => ∃ s xs kept added, g.Merges keep t d f s xs kept added ∧
        (keep = false → kept = []))
      (ds.filter fun d => (g.manifest.profile d).extras.isSome)
      (r.files.filter (·.category = .barrel)) := by
  obtain ⟨filess, hfiles, hr⟩ := plan_eq_ok h
  have hall := mapM_eq_ok hfiles
  rw [hr]
  clear hfiles hr h
  induction hall with
  | nil => exact .nil
  | @cons d files ds filess hd _ ih =>
    obtain ⟨extras, he, -⟩ := planDialect_eq_ok hd
    rw [List.flatten_cons, List.filter_append, filter_barrel_planDialect hd he]
    cases hdir : (g.manifest.profile d).extras with
    | none =>
      rcases planExtras_eq_ok he with ⟨-, rfl⟩ | ⟨dir, -, -, hdir', -⟩
      · rw [List.filter_cons_of_neg (by simp [hdir])]
        exact ih
      · rw [hdir] at hdir'
        cases hdir'
    | some dir =>
      obtain ⟨f, s, xs, kept, added, hf, hmerges⟩ := merges_of_planExtras ht hdir he
      rw [List.filter_cons_of_pos (by simp [hdir]), hf]
      refine .cons ⟨s, xs, kept, added, hmerges, fun hdrop => ?_⟩ ih
      cases hmerges.starts with
      | kept keeps => rw [hdrop] at keeps; cases keeps
      | none keeps => rw [hdrop] at keeps; cases keeps
      | afresh => exact hmerges.kept_eq

/-- Two modules of one name share a line, a line that is there is not added again, and blank lines go. -/
theorem plan_merges_barrels_shared :
    let extras : Overrides := { Overrides.nothing with extras := some ⟨"extras"⟩ }
    let settings : GeneratorSettings := { GeneratorSettings.standard with extensions := ["ts", "tsx"] }
    let g : Generator := ⟨⟨settings, .standard, [(.pg, extras)], []⟩, ⟨"."⟩⟩
    let t : FileTree := (((((FileTree.empty.put ⟨"extras/view.tsx"⟩ "export {}\n").1.put
      ⟨"extras/view.ts"⟩ "export {}\n").1.put ⟨"extras/index.ts"⟩ "export {}\n").1.put
      ⟨"extras/area.ts"⟩ "export {}\n").1.put ⟨"src/pg/functions/index.ts"⟩
        "// by hand\r\n\n  \nexport * from './area'").1
    t.WellFormed ∧ ∃ r f, g.plan [] [.pg] true t = .ok r ∧
      r.files.filter (·.category = .barrel) = [f] ∧
      f.content = "// by hand\nexport * from './area'\nexport * from './view'\n" ∧
      ∃ s xs kept added, g.Merges true t .pg f s xs kept added := by
  intro extras settings g t
  have ht : t.WellFormed := by decide +kernel
  obtain ⟨r, hr⟩ := exists_ok_of_toOption (x := g.plan [] [.pg] true t) (by decide +kernel)
  have hds : ([.pg].filter fun d => (g.manifest.profile d).extras.isSome) = [.pg] := by decide +kernel
  have hmerges := plan_merges_barrels ht hr
  rw [hds] at hmerges
  obtain ⟨f, hf⟩ : ∃ f, r.files.filter (·.category = .barrel) = [f] :=
    List.length_eq_one_iff.1 hmerges.length_eq.symm
  have htext : (g.plan [] [.pg] true t).toOption.map (fun r =>
      (r.files.filter (·.category = .barrel)).map (·.content)) =
      some ["// by hand\nexport * from './area'\nexport * from './view'\n"] := by decide +kernel
  rw [hf, List.forall₂_cons] at hmerges
  obtain ⟨⟨s, xs, kept, added, hmerges, -⟩, -⟩ := hmerges
  refine ⟨ht, r, f, hr, hf, ?_, s, xs, kept, added, hmerges⟩
  rw [hr] at htext
  simpa [hf, Except.toOption] using htext

end Generator

end Multidialect
