import Multidialect.Proofs.Generation.Failure
import Multidialect.Proofs.Generation.Prepared

/-! # Dry runs

A dry run reports what the run itself does, but for one thing: it looks for the directories that would
be cleared before any directory is made. A path that leads through a directory that is missing then
finds nothing, and finds what is there when the way has been made for the dialect before it. So the
two agree on the directories that are cleared exactly if the paths of all selected dialects but the
first find what is there or appears (`dryRun_agrees_iff`); `dryRun_misses_directory` is a case in
which they do not.
-/

namespace Multidialect

/-- Every file is written or left alone. -/
theorem FileRegistry.total_writeFiles {base : Path} {files : List PlannedFile} {t t' : FileTree}
    {stats : WriteStats} (h : writeFiles base files t = (t', .ok stats)) :
    stats.total = files.length := by
  induction files generalizing t stats with
  | nil =>
    obtain rfl := Except.ok.inj (Prod.mk.inj h).2
    rfl
  | cons f rest ih =>
    simp only [writeFiles] at h
    split at h
    · obtain ⟨ht', hr⟩ := Prod.mk.inj h
      obtain ⟨stats', hs, rfl⟩ := map_eq_ok.1 hr
      have := ih (Prod.ext ht' hs)
      simp only [WriteStats.total, List.length_cons] at this ⊢
      omega
    · split at h
      · cases (Prod.mk.inj h).2
      · obtain ⟨ht', hr⟩ := Prod.mk.inj h
        obtain ⟨stats', hs, rfl⟩ := map_eq_ok.1 hr
        have := ih (Prod.ext ht' hs)
        simp only [WriteStats.total, List.length_cons] at this ⊢
        omega

namespace Generator

variable {g : Generator} {o : GenerateOptions} {ds : List Dialect} {t t' : FileTree}
  {cleared : List Path}

theorem cleared_of_keep (h : g.prepareDirs true ds t = (t', .ok cleared)) : cleared = [] := by
  induction ds generalizing t cleared with
  | nil => exact (Except.ok.inj (Prod.mk.inj h).2).symm
  | cons d rest ih =>
    obtain ⟨t₁, gone, t₂, more, hc, -, hrest, rfl⟩ := prepareDirs_cons_eq_ok h
    obtain ⟨-, rfl⟩ := Prod.mk.inj (Except.ok.inj hc)
    rw [if_neg Bool.false_ne_true]
    exact ih hrest

theorem dialectDir_inj {d d' : Dialect} : g.dialectDir d = g.dialectDir d' ↔ d = d' := by
  refine ⟨fun h => ?_, congrArg _⟩
  have hbelow : (g.dialectDir d).resolve [] <+: (g.dialectDir d').resolve [] := h ▸ List.prefix_rfl
  exact dialect_eq_of_below hbelow

/-- What a path finds is there. -/
theorem appears_of_exists? {d : Dialect} (h : t.exists? (g.dialectDir d) = true) : g.Appears t d := by
  obtain ⟨⟨l, e⟩, hentry⟩ := exists_ok_of_toOption h
  obtain ⟨rfl, hget⟩ := FileTree.entry_eq_ok hentry
  exact .inl (by simp [hget])

/-- Which of some directories are found tells which appear only if all that appear are found. -/
theorem map_filter_exists?_iff :
    (ds.filter fun d => t.exists? (g.dialectDir d)).map g.dialectDir =
        (ds.filter fun d => g.Appears t d).map g.dialectDir ↔
      ∀ d ∈ ds, g.Appears t d → t.exists? (g.dialectDir d) = true := by
  constructor
  · intro h d hd ha
    have hmem : g.dialectDir d ∈ (ds.filter fun d => g.Appears t d).map g.dialectDir :=
      List.mem_map_of_mem (List.mem_filter.2 ⟨hd, by simpa using ha⟩)
    rw [← h] at hmem
    obtain ⟨d', hd', he⟩ := List.mem_map.1 hmem
    obtain rfl := dialectDir_inj.1 he
    exact (List.mem_filter.1 hd').2
  · intro h
    congr 1
    refine List.filter_congr fun d hd => Bool.eq_iff_iff.2 ?_
    rw [decide_eq_true_iff]
    exact ⟨appears_of_exists?, h d hd⟩

/-- **When a dry run knows what is cleared.** -/
theorem wouldClear_eq_cleared_iff (ht : t.WellFormed)
    (h : g.prepareDirs o.keepExisting (Dialect.selected o.dialects) t = (t', .ok cleared)) :
    g.wouldClear o t = cleared ↔ o.keepExisting = true ∨
      ∀ d ∈ (Dialect.selected o.dialects).tail, g.Appears t d → t.exists? (g.dialectDir d) = true := by
  have hds := Dialect.nodup_selected o.dialects
  unfold wouldClear
  generalize Dialect.selected o.dialects = ds at h hds ⊢
  cases hk : o.keepExisting with
  | true =>
    rw [hk] at h
    simp [cleared_of_keep h]
  | false =>
    rw [hk] at h
    rw [if_neg Bool.false_ne_true, List.filter_map]
    cases ds with
    | nil =>
      obtain rfl := Except.ok.inj (Prod.mk.inj h).2
      simp
    | cons d rest =>
      rw [cleared_prepareDirs ht hds h, List.filter_cons]
      have hrest := @map_filter_exists?_iff g rest t
      simp only [Function.comp_apply, List.tail_cons, Bool.false_eq_true, false_or] at hrest ⊢
      rw [← hrest]
      split
      · rw [List.map_cons, List.singleton_append, List.cons_inj_right]
        rfl
      · rw [List.nil_append]
        rfl

/-- **A dry run agrees with the run itself**, if this succeeds: it succeeds, too, leaves the tree as it
is, and reports the same files, gated pairs and diagnostics, and empty counts. It reports the same
directories as cleared exactly if directories are kept, or all that appear, but for the first one,
are found by their paths. The run counts every file as written or left alone. -/
theorem dryRun_agrees_iff (ht : t.WellFormed) (hreal : o.dryRun = false) {outcome : GenerateOutcome}
    (hrun : g.generate o t = (t', .ok outcome)) :
    g.generate { o with dryRun := true } t =
        (t, .ok { outcome with dryRun := true, cleared := g.wouldClear o t, stats := .none }) ∧
      (g.wouldClear o t = outcome.cleared ↔ o.keepExisting = true ∨
        ∀ d ∈ (Dialect.selected o.dialects).tail,
          g.Appears t d → t.exists? (g.dialectDir d) = true) ∧
      outcome.stats.written + outcome.stats.skipped.length = outcome.files.length := by
  obtain ⟨ts, r, t₁, cleared, stats, hplans, hp, hw, rfl⟩ := (generate_eq_ok_iff hreal).1 hrun
  have hdry : g.Plans { o with dryRun := true } t ts r :=
    ⟨hplans.loaded, hplans.rendered, hplans.planned⟩
  refine ⟨?_, wouldClear_eq_cleared_iff ht hp, FileRegistry.total_writeFiles hw⟩
  rw [generate_of_plans hdry]
  rfl

/-- With the settings that are built in, a dry run tells that a directory will be cleared. -/
theorem dryRun_agrees_standard :
    ∃ t t' : FileTree, ∃ outcome : GenerateOutcome, t.WellFormed ∧
      generate ⟨.standard, ⟨"."⟩⟩ ⟨[.pg, .mysql], false, false⟩ t = (t', .ok outcome) ∧
      outcome.cleared = [⟨"./src/mysql"⟩] ∧
      generate ⟨.standard, ⟨"."⟩⟩ ⟨[.pg, .mysql], false, true⟩ t =
        (t, .ok { outcome with dryRun := true, stats := .none }) := by
  let t : FileTree := ((FileTree.empty.put ⟨"src/dialect/table.ts"⟩ "export {}\n").1.put
    ⟨"src/mysql/old.ts"⟩ "old\n").1
  have ht : t.WellFormed := by decide +kernel
  obtain ⟨outcome, hout, hcleared⟩ := exists_ok_of_map_toOption
    (x := (generate ⟨.standard, ⟨"."⟩⟩ ⟨[.pg, .mysql], false, false⟩ t).2) (f := (·.cleared))
    (b := [⟨"./src/mysql"⟩]) (by decide +kernel)
  have hrun : generate ⟨.standard, ⟨"."⟩⟩ ⟨[.pg, .mysql], false, false⟩ t = (_, .ok outcome) :=
    Prod.ext rfl hout
  obtain ⟨hdry, hagree, -⟩ := dryRun_agrees_iff ht rfl hrun
  refine ⟨t, _, outcome, ht, hrun, hcleared, ?_⟩
  rw [hagree.2 (.inr (by decide +kernel))] at hdry
  exact hdry

/-- **A dry run may miss a directory** that the run clears: the way to it is not there yet. -/
theorem dryRun_misses_directory :
    ∃ m : Manifest, Manifest.read detour "dialectic.toml" = .ok m ∧
      ∃ t t' : FileTree, ∃ real dry : GenerateOutcome, t.WellFormed ∧
        generate ⟨m, ⟨"."⟩⟩ ⟨[.pg, .mysql], false, false⟩ t = (t', .ok real) ∧
        generate ⟨m, ⟨"."⟩⟩ ⟨[.pg, .mysql], false, true⟩ t = (t, .ok dry) ∧
        real.cleared = [⟨"./build/../src/mysql"⟩] ∧ dry.cleared = [] := by
  let m : Manifest := { Manifest.standard with
    generator := { GeneratorSettings.standard with output := ⟨"build/../src"⟩ } }
  let t : FileTree := ((FileTree.empty.put ⟨"src/dialect/table.ts"⟩ "export {}\n").1.put
    ⟨"src/mysql/old.ts"⟩ "old\n").1
  obtain ⟨real, hreal, hcleared⟩ := exists_ok_of_map_toOption
    (x := (generate ⟨m, ⟨"."⟩⟩ ⟨[.pg, .mysql], false, false⟩ t).2) (f := (·.cleared))
    (b := [⟨"./build/../src/mysql"⟩]) (by decide +kernel)
  obtain ⟨dry, hdry, hnone⟩ := exists_ok_of_map_toOption
    (x := (generate ⟨m, ⟨"."⟩⟩ ⟨[.pg, .mysql], false, true⟩ t).2) (f := (·.cleared)) (b := [])
    (by decide +kernel)
  exact ⟨m, ok_of_toOption (by decide +kernel), t, _, real, dry, by decide +kernel,
    Prod.ext rfl hreal, Prod.ext (generate_of_dryRun rfl) hdry, hcleared, hnone⟩

end Generator

end Multidialect
