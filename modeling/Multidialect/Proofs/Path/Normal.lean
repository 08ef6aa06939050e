import Multidialect.Proofs.Path.Route

/-! # Where a normal form leads to

The normal form of a path goes down along the same names, but of the steps up in front it keeps one
or none (`route_normalize`). Nothing is left to fold in it (`normalize_normalize`). So from a base
that is deep enough a relative path and its normal form lead to the same location exactly if the
path goes at most one directory up (`resolve_normalize_iff`), and paths with the same normal form
lead to the same location exactly if they go up equally far (`resolve_eq_iff_of_normalize_eq`).
-/

namespace Multidialect

namespace Path

variable {p q : Path} {base : Location}

/-! ## The normal form of a normal form -/

theorem eq_up_of_mem_lead {ups : Nat} {c : Component} (h : c ∈ lead ups) : c = .up := by
  unfold lead at h
  split at h
  · exact List.mem_singleton.1 h
  · cases h

/-- Behind the root a normal form has steps up and names. -/
theorem ne_of_mem_lead_append {ups : Nat} {ns : List String} {c : Component}
    (h : c ∈ lead ups ++ ns.map .name) : c ≠ .here ∧ c ≠ .root := by
  rcases List.mem_append.1 h with h | h
  · rw [eq_up_of_mem_lead h]
    exact ⟨nofun, nofun⟩
  · obtain ⟨n, -, rfl⟩ := List.mem_map.1 h
    exact ⟨nofun, nofun⟩

theorem steps_normalize (p : Path) : p.normalize.steps = p.normalComponents := by
  rw [steps, components_normalize]
  refine List.filter_eq_self.2 fun c hc => decide_eq_true fun he => ?_
  rw [normalComponents_eq] at hc
  rcases List.mem_append.1 hc with hc | hc
  · rw [he] at hc
    split at hc <;> simp at hc
  · exact (ne_of_mem_lead_append hc).1 he

theorem isAbsolute_normalize (p : Path) : p.normalize.isAbsolute = p.isAbsolute := by
  rw [Bool.eq_iff_iff, isAbsolute_iff_head, steps_normalize, normalComponents_eq]
  cases p.isAbsolute with
  | true => simp
  | false =>
    have hroot : (lead p.route.ups ++ p.route.names.map Component.name).head? ≠ some .root := fun h =>
      (ne_of_mem_lead_append (List.mem_of_head? h)).2 rfl
    simpa using hroot

theorem foldl_step_lead (ups : Nat) : (lead ups).foldl Route.step ⟨0, []⟩ = ⟨ups % 2, []⟩ := by
  unfold lead
  split
  · rename_i ho
    rw [ho]
    rfl
  · rename_i he
    have hzero : ups % 2 = 0 := by omega
    rw [hzero]
    rfl

theorem foldl_step_map_name (ups : Nat) (ns ms : List String) :
    (ms.map Component.name).foldl Route.step ⟨ups, ns⟩ = ⟨ups, ns ++ ms⟩ := by
  induction ms generalizing ns with
  | nil => simp
  | cons m ms ih => simp [Route.step, ih]

/-- **The route of a normal form**: of the steps up, whether their number is odd, and all names. -/
theorem route_normalize (p : Path) : p.normalize.route = ⟨p.route.ups % 2, p.route.names⟩ := by
  have hstart : (if p.isAbsolute then [Component.root] else []).foldl Route.step ⟨0, []⟩ =
      ⟨0, []⟩ := by
    split <;> rfl
  rw [route, steps_normalize, normalComponents_eq, List.foldl_append, hstart, List.foldl_append,
    foldl_step_lead, foldl_step_map_name, List.nil_append]

theorem lead_mod (ups : Nat) : lead (ups % 2) = lead ups := by
  unfold lead
  rw [Nat.mod_mod]

/-- **Nothing is left to fold** in a normal form. -/
theorem normalize_normalize (p : Path) : p.normalize.normalize = p.normalize := by
  rw [normalize, normalComponents_eq, route_normalize, isAbsolute_normalize, lead_mod,
    ← normalComponents_eq]
  rfl

/-- Relative paths have the same normal form if they have the same names and the numbers of their
steps up are both even or both odd. -/
theorem normalize_eq_iff (hp : p.isAbsolute = false) (hq : q.isAbsolute = false) :
    p.normalize = q.normalize ↔
      p.route.ups % 2 = q.route.ups % 2 ∧ p.route.names = q.route.names := by
  constructor
  · intro h
    have hroute := congrArg route h
    rw [route_normalize, route_normalize] at hroute
    exact Route.mk.inj hroute
  · rintro ⟨hups, hnames⟩
    rw [normalize, normalize, normalComponents_eq, normalComponents_eq, hp, hq, hnames,
      ← lead_mod p.route.ups, hups, lead_mod]

/-- **The test on normal forms**, for relative paths of which the first has names: it goes by the
names, and by whether the numbers of their steps up are both even or both odd. -/
theorem startsWith_normalize_iff (hp : p.isAbsolute = false) (hq : q.isAbsolute = false)
    (hne : p.route.names ≠ []) : q.normalize.startsWith p.normalize = true ↔
      p.route.ups % 2 = q.route.ups % 2 ∧ p.route.names <+: q.route.names := by
  obtain ⟨n, ns, hns⟩ := List.exists_cons_of_ne_nil hne
  rw [startsWith, List.isPrefixOf_iff_prefix, components_normalize, components_normalize,
    normalComponents_eq, normalComponents_eq, hp, hq, if_neg Bool.false_ne_true, List.nil_append,
    List.nil_append]
  rcases Nat.mod_two_eq_zero_or_one p.route.ups with hpu | hpu <;>
    rcases Nat.mod_two_eq_zero_or_one q.route.ups with hqu | hqu
  · simp [lead, hpu, hqu, map_name_prefix]
  · simp [lead, hpu, hqu, hns]
  · cases hms : q.route.names <;> simp [lead, hpu, hqu]
  · simp [lead, hpu, hqu, map_name_prefix]

/-! ## From a base that is deep enough -/

/-- From below the steps up of both, relative paths along the same names lead to the same location
exactly if they go up equally far. -/
theorem resolve_eq_iff_of_names_eq (hp : p.isAbsolute = false) (hq : q.isAbsolute = false)
    (hnames : p.route.names = q.route.names) (hdeep : p.route.ups ≤ base.length)
    (hdeep' : q.route.ups ≤ base.length) :
    p.resolve base = q.resolve base ↔ p.route.ups = q.route.ups := by
  rw [resolve_eq, resolve_eq, hnames, List.append_left_inj, anchor, anchor, hp, hq,
    if_neg Bool.false_ne_true, if_neg Bool.false_ne_true]
  constructor
  · intro h
    have hlength := congrArg List.length h
    rw [List.length_take, List.length_take] at hlength
    omega
  · intro h
    rw [h]

/-- **Folding keeps where a relative path leads to** exactly if it goes at most one directory up. -/
theorem resolve_normalize_iff (hp : p.isAbsolute = false) (hdeep : p.route.ups ≤ base.length) :
    p.normalize.resolve base = p.resolve base ↔ p.route.ups ≤ 1 := by
  have hroute := route_normalize p
  have hups : p.normalize.route.ups = p.route.ups % 2 := by rw [hroute]
  have hnames : p.normalize.route.names = p.route.names := by rw [hroute]
  have hle : p.route.ups % 2 ≤ p.route.ups := Nat.mod_le _ _
  rw [resolve_eq_iff_of_names_eq ((isAbsolute_normalize p).trans hp) hp hnames
    (by omega) hdeep, hups]
  omega

/-- **Paths with the same normal form** lead to the same location exactly if they go up equally
far. -/
theorem resolve_eq_iff_of_normalize_eq (hp : p.isAbsolute = false) (hq : q.isAbsolute = false)
    (h : p.normalize = q.normalize) (hdeep : p.route.ups ≤ base.length)
    (hdeep' : q.route.ups ≤ base.length) :
    p.resolve base = q.resolve base ↔ p.route.ups = q.route.ups :=
  resolve_eq_iff_of_names_eq hp hq ((normalize_eq_iff hp hq).1 h).2 hdeep hdeep'

end Path

end Multidialect
