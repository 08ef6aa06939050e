import Multidialect.Files.Tree
import Multidialect.Proofs.Path.Steps
import Mathlib.Data.List.Basic
import Mathlib.Data.List.Infix

/-! # Where a path leads to

By its text alone a path leads some directories up and then down along names: its `Route`. The route
decides the location that is reached from a base (`resolve_eq`) and the normal form, which only
tells whether the number of directories up is odd (`normalComponents_eq`). So the test on normal
forms compares two paths rightly if they start from the same directory (`startsWith_normalize`); for
other pairs, `MayHold` says when some absolute root puts one below the other (`mayHold_iff`).
-/

namespace Multidialect

/-- Some directories up, then down along names. -/
structure Route where
  ups : Nat
  names : List String
  deriving DecidableEq, Repr

/-- One more step; the root has nothing above it. -/
def Route.step (r : Route) : Path.Component → Route
  | .root => ⟨0, []⟩
  | .here => r
  | .up => if r.names = [] then ⟨r.ups + 1, []⟩ else ⟨r.ups, r.names.dropLast⟩
  | .name s => ⟨r.ups, r.names ++ [s]⟩

namespace Path

/-- The route of a path. On an absolute path, `ups` counts the steps up that the root swallows. -/
def route (p : Path) : Route := p.steps.foldl Route.step ⟨0, []⟩

/-- The location that a path leads to from `base`, by its text alone. -/
def resolve (p : Path) (base : Location) : Location := p.steps.foldl FileTree.step base

/-- The location that a path goes down from. -/
def anchor (p : Path) (base : Location) : Location :=
  if p.isAbsolute then [] else base.take (base.length - p.route.ups)

/-! ## The location -/

theorem foldl_step_eq {cs : List Component} (hcs : ∀ c ∈ cs, c ≠ .root) (base : Location)
    (r : Route) :
    cs.foldl FileTree.step (base.take (base.length - r.ups) ++ r.names) =
      base.take (base.length - (cs.foldl Route.step r).ups) ++ (cs.foldl Route.step r).names := by
  induction cs generalizing r with
  | nil => rfl
  | cons c cs ih =>
    have hstep : FileTree.step (base.take (base.length - r.ups) ++ r.names) c =
        base.take (base.length - (r.step c).ups) ++ (r.step c).names := by
      cases c with
      | root => exact absurd rfl (hcs _ (.head _))
      | here => rfl
      | name s => simp [FileTree.step, Route.step]
      | up =>
        by_cases hn : r.names = []
        · simp only [FileTree.step, Route.step, hn, if_true, List.append_nil,
            List.dropLast_eq_take, List.take_take, List.length_take]
          congr 1
          omega
        · simp [FileTree.step, Route.step, hn, List.dropLast_append_of_ne_nil]
    rw [List.foldl_cons, List.foldl_cons, hstep, ih fun c' hm => hcs c' (.tail _ hm)]

/-- The steps of an absolute path start at the root, and no other step goes there. -/
theorem steps_root (p : Path) :
    ∃ cs, p.steps = (if p.isAbsolute then [.root] else []) ++ cs ∧ ∀ c ∈ cs, c ≠ .root :=
  ⟨_, steps_eq p, fun _ hc => (mem_stepsIn hc).2.1⟩

/-- **The location of a path** is given by its route. -/
theorem resolve_eq (p : Path) (base : Location) :
    p.resolve base = p.anchor base ++ p.route.names := by
  obtain ⟨cs, hs, hcs⟩ := steps_root p
  unfold resolve anchor route
  rw [hs]
  cases p.isAbsolute with
  | true => simpa [FileTree.step, Route.step] using foldl_step_eq hcs [] ⟨0, []⟩
  | false => simpa using foldl_step_eq hcs base ⟨0, []⟩

theorem resolve_of_isAbsolute {p : Path} (h : p.isAbsolute = true) (a b : Location) :
    p.resolve a = p.resolve b := by
  simp [resolve_eq, anchor, h]

/-- **A joined path** leads where the second path leads from where the first one leads to. -/
theorem resolve_join (p q : Path) (base : Location) :
    (p.join q).resolve base = q.resolve (p.resolve base) := by
  cases h : q.isAbsolute with
  | true => rw [join_of_isAbsolute p h]; exact resolve_of_isAbsolute h _ _
  | false => rw [resolve, steps_join p h, List.foldl_append]; rfl

theorem resolve_child (p : Path) {s : String} (h : IsName s) (base : Location) :
    (p.child s).resolve base = p.resolve base ++ [s] := by
  rw [resolve, steps_child p h, List.foldl_append]
  rfl

theorem name_mem_steps {p : Path} {s : String} (h : s ∈ p.route.names) : .name s ∈ p.steps := by
  suffices ∀ (cs : List Component) (r : Route), s ∈ (cs.foldl Route.step r).names →
      s ∈ r.names ∨ .name s ∈ cs by
    simpa [route] using this p.steps ⟨0, []⟩ h
  intro cs
  induction cs with
  | nil => intro r hr; exact .inl hr
  | cons c cs ih =>
    intro r hr
    rcases ih _ hr with hs | hs
    · cases c with
      | root => simp [Route.step] at hs
      | here => exact .inl hs
      | up =>
        simp only [Route.step] at hs
        split at hs
        · simp at hs
        · exact .inl (List.dropLast_subset _ hs)
      | name n =>
        rcases List.mem_append.1 hs with hs | hs
        · exact .inl hs
        · exact .inr (by simp [List.mem_singleton.1 hs])
    · exact .inr (.tail _ hs)

theorem isName_of_mem_route {p : Path} {s : String} (h : s ∈ p.route.names) : IsName s :=
  isName_of_mem_steps (name_mem_steps h)

/-! ## The normal form -/

/-- What the normal form keeps of the steps up in front: one, if their number is odd. -/
def lead (ups : Nat) : List Component := if ups % 2 = 1 then [.up] else []

theorem reverse_lead (ups : Nat) : (lead ups).reverse = lead ups := by
  unfold lead
  split <;> rfl

/-- The components of the normal form of a route, last one first, behind those in `base`. -/
def normalStack (base : List Component) (r : Route) : List Component :=
  (r.names.map .name).reverse ++ (lead r.ups ++ base)

/-- Two steps up that find nothing to take back cancel each other, so only parity is left. -/
theorem pushNormal_normalStack {base : List Component} (hb : canPop base = false) (r : Route)
    {c : Component} (hc : c ≠ .root) :
    pushNormal (normalStack base r) c = normalStack base (r.step c) := by
  cases c with
  | root => exact absurd rfl hc
  | here => rfl
  | name s => simp [pushNormal, normalStack, Route.step]
  | up =>
    rcases List.eq_nil_or_concat r.names with hn | ⟨ns, n, hn⟩
    · by_cases ho : r.ups % 2 = 1
      · have he : ¬ (r.ups + 1) % 2 = 1 := by omega
        simp [pushNormal, normalStack, lead, Route.step, hn, ho, he, canPop]
      · have he : (r.ups + 1) % 2 = 1 := by omega
        simp [pushNormal, normalStack, lead, Route.step, hn, ho, he, hb]
    · rw [List.concat_eq_append] at hn
      simp [pushNormal, normalStack, Route.step, hn, canPop]

theorem foldl_pushNormal {base cs : List Component} (hb : canPop base = false)
    (hcs : ∀ c ∈ cs, c ≠ .root) (r : Route) :
    cs.foldl pushNormal (normalStack base r) = normalStack base (cs.foldl Route.step r) := by
  induction cs generalizing r with
  | nil => rfl
  | cons c cs ih =>
    rw [List.foldl_cons, List.foldl_cons, pushNormal_normalStack hb r (hcs c (.head _)),
      ih fun c' hm => hcs c' (.tail _ hm)]

/-- **The normal form of a path**: of the steps up in front, only whether their number is odd. -/
theorem normalComponents_eq (p : Path) :
    p.normalComponents = (if p.isAbsolute then [.root] else []) ++
      (lead p.route.ups ++ p.route.names.map .name) := by
  have hsteps : p.components.foldl pushNormal [] = p.steps.foldl pushNormal [] := by
    rcases components_eq p with h | h <;> rw [h]
    rfl
  obtain ⟨cs, hs, hcs⟩ := steps_root p
  rw [normalComponents, hsteps, route, hs]
  cases p.isAbsolute with
  | true =>
    have hfold : cs.foldl pushNormal (normalStack [.root] ⟨0, []⟩) = _ :=
      foldl_pushNormal rfl hcs ⟨0, []⟩
    simp only [if_true, List.singleton_append, List.foldl_cons]
    rw [show pushNormal [] .root = normalStack [.root] ⟨0, []⟩ from rfl, hfold]
    simp [normalStack, reverse_lead, Route.step]
  | false =>
    have hfold : cs.foldl pushNormal (normalStack [] ⟨0, []⟩) = _ :=
      foldl_pushNormal rfl hcs ⟨0, []⟩
    simp only [Bool.false_eq_true, if_false, List.nil_append]
    rw [show ([] : List Component) = normalStack [] ⟨0, []⟩ from rfl, hfold]
    simp [normalStack, reverse_lead]

theorem components_normalize (p : Path) : p.normalize.components = p.normalComponents := by
  rw [normalize, normalComponents_eq]
  refine components_ofComponents _ fun c hc => ?_
  rcases List.mem_append.1 hc with hc | hc
  · unfold lead at hc
    split at hc
    · rw [List.mem_singleton.1 hc]; trivial
    · cases hc
  · obtain ⟨s, hs, rfl⟩ := List.mem_map.1 hc
    exact isName_of_mem_route hs

/-- Two paths that start from the same directory, whatever the base is. -/
def SameStart (p q : Path) : Prop := p.isAbsolute = q.isAbsolute ∧ p.route.ups = q.route.ups

instance (p q : Path) : Decidable (SameStart p q) :=
  inferInstanceAs (Decidable (_ ∧ _))

/-- Paths that start from the same directory are compared by their names. -/
theorem resolve_prefix_iff {p q : Path} (h : SameStart p q) (base : Location) :
    p.resolve base <+: q.resolve base ↔ p.route.names <+: q.route.names := by
  have ha : p.anchor base = q.anchor base := by rw [anchor, anchor, h.1, h.2]
  rw [resolve_eq, resolve_eq, ha, List.prefix_append_right_inj]

theorem map_name_prefix {ns ms : List String} :
    ns.map Component.name <+: ms.map Component.name ↔ ns <+: ms := by
  refine ⟨fun h => ?_, fun h => h.map _⟩
  obtain ⟨l, hl, he⟩ := List.prefix_map_iff.1 h
  rwa [List.map_injective_iff.2 (fun _ _ h => Component.name.inj h) he]

/-- **The test on normal forms** compares the names of paths that start from the same directory. -/
theorem startsWith_normalize {p q : Path} (h : SameStart p q) :
    q.normalize.startsWith p.normalize = true ↔ p.route.names <+: q.route.names := by
  rw [startsWith, List.isPrefixOf_iff_prefix, components_normalize, components_normalize,
    normalComponents_eq, normalComponents_eq, h.1, h.2, List.prefix_append_right_inj,
    List.prefix_append_right_inj, map_name_prefix]

/-! ## Paths below some root -/

/-- The path of a location. -/
def ofLocation (l : Location) : Path := ofComponents (.root :: l.map .name)

theorem components_ofLocation {l : Location} (h : ∀ n ∈ l, IsName n) :
    (ofLocation l).components = .root :: l.map .name := by
  refine components_ofComponents true fun c hc => ?_
  obtain ⟨n, hn, rfl⟩ := List.mem_map.1 hc
  exact h n hn

theorem steps_ofLocation {l : Location} (h : ∀ n ∈ l, IsName n) :
    (ofLocation l).steps = .root :: l.map .name := by
  rw [steps, components_ofLocation h]
  simp

theorem foldl_step_names (base : Location) (ns : List String) :
    (ns.map Component.name).foldl FileTree.step base = base ++ ns := by
  induction ns generalizing base with
  | nil => simp
  | cons n ns ih => simp [FileTree.step, ih]

theorem isAbsolute_ofLocation {l : Location} (h : ∀ n ∈ l, IsName n) :
    (ofLocation l).isAbsolute = true := by
  rw [isAbsolute_iff_head, steps_ofLocation h]
  rfl

theorem resolve_ofLocation {l : Location} (h : ∀ n ∈ l, IsName n) (base : Location) :
    (ofLocation l).resolve base = l := by
  rw [resolve, steps_ofLocation h]
  exact foldl_step_names [] l

/-- Whether some absolute root puts `q` at or below `p`. If both are relative, the root may bring
names that the one has and the other leaves out, as many as they differ in steps up. -/
def MayHold (p q : Path) : Prop :=
  if q.isAbsolute then
    if p.isAbsolute then p.route.names <+: q.route.names else p.route.names <:+: q.route.names
  else
    p.isAbsolute ∨
      (∃ j ≤ p.route.ups - q.route.ups, p.route.names.drop j <+: q.route.names) ∨
      ∃ j ≤ q.route.ups - p.route.ups, p.route.names <+: q.route.names.drop j

instance (p q : Path) : Decidable (MayHold p q) := by
  unfold MayHold
  infer_instance

/-- A root below which relative paths with at least `k` steps up start from `s`. -/
def padded (s : Location) (k : Nat) : Location := s ++ List.replicate k "x"

theorem isName_of_mem_padded {s : Location} (hs : ∀ n ∈ s, IsName n) {k : Nat} {n : String}
    (h : n ∈ padded s k) : IsName n := by
  rcases List.mem_append.1 h with h | h
  · exact hs n h
  · rw [List.eq_of_mem_replicate h]
    decide

theorem length_padded (s : Location) (k : Nat) : (padded s k).length = s.length + k := by
  simp [padded]

/-- A gap of at most `a - b` names: `a` steps up leave it out, `b` steps up stay behind it. -/
theorem take_padded {s : Location} {a b : Nat} (h : s.length ≤ a - b) :
    (padded s (min a b)).take ((padded s (min a b)).length - a) = [] ∧
      (padded s (min a b)).take ((padded s (min a b)).length - b) = s := by
  rw [length_padded]
  rcases Nat.le_total b a with hle | hle
  · have ha : s.length + min a b - a = 0 := by omega
    have hb : s.length + min a b - b = s.length := by omega
    exact ⟨by rw [ha]; rfl, by rw [hb]; exact List.take_left⟩
  · have hs : s = [] := List.eq_nil_of_length_eq_zero (by omega)
    have ha : s.length + min a b - a = 0 := by omega
    have hb : s.length + min a b - b = 0 := by omega
    exact ⟨by rw [ha]; rfl, by rw [hb, hs]; rfl⟩

theorem prefix_of_append_prefix {s ns ms : List String} (h : s ++ ns <+: ms) :
    ns <+: ms.drop s.length := by
  have := h.drop s.length
  rwa [List.drop_left] at this

/-- Two relative paths start from locations of which one holds the other. -/
theorem anchor_le {p q : Path} (hp : p.isAbsolute = false) (hq : q.isAbsolute = false)
    (h : q.route.ups ≤ p.route.ups) (base : Location) :
    ∃ s, q.anchor base = p.anchor base ++ s ∧ s.length ≤ p.route.ups - q.route.ups := by
  refine ⟨(q.anchor base).drop (base.length - p.route.ups), ?_, ?_⟩
  · have ht : p.anchor base = (q.anchor base).take (base.length - p.route.ups) := by
      simp only [anchor, hp, hq, Bool.false_eq_true, if_false, List.take_take]
      congr 1
      omega
    rw [ht, List.take_append_drop]
  · simp only [anchor, hq, Bool.false_eq_true, if_false, List.length_drop, List.length_take]
    omega

theorem mayHold_of_prefix {p q : Path} {base : Location}
    (h : p.resolve base <+: q.resolve base) : MayHold p q := by
  rw [resolve_eq, resolve_eq] at h
  unfold MayHold
  cases hq : q.isAbsolute with
  | true =>
    have haq : q.anchor base = [] := by simp [anchor, hq]
    rw [haq, List.nil_append] at h
    cases hp : p.isAbsolute with
    | true =>
      have hap : p.anchor base = [] := by simp [anchor, hp]
      rw [hap] at h
      simpa using h
    | false =>
      simpa using ((List.suffix_append _ _).isInfix.trans h.isInfix)
  | false =>
    cases hp : p.isAbsolute with
    | true => simp
    | false =>
      simp only [Bool.false_eq_true, if_false, false_or]
      rcases Nat.le_total q.route.ups p.route.ups with hle | hle
      · left
        obtain ⟨s, hs, hl⟩ := anchor_le hp hq hle base
        rw [hs, List.append_assoc, List.prefix_append_right_inj] at h
        exact ⟨s.length, hl, by simpa using h.drop s.length⟩
      · right
        obtain ⟨s, hs, hl⟩ := anchor_le hq hp hle base
        rw [hs, List.append_assoc, List.prefix_append_right_inj] at h
        exact ⟨s.length, hl, prefix_of_append_prefix h⟩

/-- The base that puts two relative paths side by side, where `s` closes the gap between them. -/
theorem prefix_of_gap {p q : Path} (hp : p.isAbsolute = false) (hq : q.isAbsolute = false)
    {s : Location} (hs : ∀ n ∈ s, IsName n)
    (h : s.length ≤ p.route.ups - q.route.ups ∧ p.route.names <+: s ++ q.route.names ∨
      s.length ≤ q.route.ups - p.route.ups ∧ s ++ p.route.names <+: q.route.names) :
    ∃ base : Location, (∀ n ∈ base, IsName n) ∧ p.resolve base <+: q.resolve base := by
  refine ⟨padded s (min p.route.ups q.route.ups), fun n hn => isName_of_mem_padded hs hn, ?_⟩
  rw [resolve_eq, resolve_eq]
  simp only [anchor, hp, hq, Bool.false_eq_true, if_false]
  rcases h with ⟨hl, hpre⟩ | ⟨hl, hpre⟩
  · obtain ⟨ht, ht'⟩ := take_padded hl
    rwa [ht, ht']
  · rw [Nat.min_comm]
    obtain ⟨ht, ht'⟩ := take_padded hl
    rwa [ht, ht']

theorem exists_base_of_mayHold {p q : Path} (h : MayHold p q) :
    ∃ base : Location, (∀ n ∈ base, IsName n) ∧ p.resolve base <+: q.resolve base := by
  unfold MayHold at h
  cases hq : q.isAbsolute with
  | true =>
    have haq : ∀ base, q.anchor base = [] := fun base => by simp [anchor, hq]
    cases hp : p.isAbsolute with
    | true =>
      refine ⟨[], by simp, ?_⟩
      rw [resolve_eq, resolve_eq, haq]
      simpa [anchor, hp, hq] using h
    | false =>
      -- the root ends where the names of `p` start in those of `q`
      obtain ⟨a, b, hab⟩ : p.route.names <:+: q.route.names := by simpa [hp, hq] using h
      have ha : ∀ n ∈ a, IsName n := fun n hn => isName_of_mem_route (p := q) (by simp [← hab, hn])
      refine ⟨padded a p.route.ups, fun n hn => isName_of_mem_padded ha hn, ?_⟩
      have hpa : p.anchor (padded a p.route.ups) = a := by
        simp [anchor, hp, padded]
      rw [resolve_eq, resolve_eq, hpa, haq, List.nil_append]
      exact ⟨b, hab⟩
  | false =>
    cases hp : p.isAbsolute with
    | true =>
      refine ⟨padded p.route.names q.route.ups,
        fun n hn => isName_of_mem_padded (fun n hn => isName_of_mem_route hn) hn, ?_⟩
      have hpa : p.anchor (padded p.route.names q.route.ups) = [] := by simp [anchor, hp]
      have hqa : q.anchor (padded p.route.names q.route.ups) = p.route.names := by
        simp [anchor, hq, padded]
      rw [resolve_eq, resolve_eq, hpa, hqa]
      exact List.prefix_append _ _
    | false =>
      simp only [hp, hq, Bool.false_eq_true, if_false, false_or] at h
      rcases h with ⟨j, hj, hpre⟩ | ⟨j, hj, hpre⟩
      · refine prefix_of_gap hp hq (s := p.route.names.take j)
          (fun n hn => isName_of_mem_route (List.mem_of_mem_take hn)) (.inl ⟨?_, ?_⟩)
        · exact (List.length_take_le _ _).trans hj
        · simpa [List.take_append_drop] using
            (List.prefix_append_right_inj (p.route.names.take j)).2 hpre
      · refine prefix_of_gap hp hq (s := q.route.names.take j)
          (fun n hn => isName_of_mem_route (List.mem_of_mem_take hn)) (.inr ⟨?_, ?_⟩)
        · exact (List.length_take_le _ _).trans hj
        · simpa [List.take_append_drop] using
            (List.prefix_append_right_inj (q.route.names.take j)).2 hpre

/-- **The pairs that an absolute root can bring together**: the directory `p` holds `q` there. -/
theorem mayHold_iff {p q : Path} :
    MayHold p q ↔ ∃ root : Path, root.isAbsolute = true ∧
      (root.join p).resolve [] <+: (root.join q).resolve [] := by
  constructor
  · intro h
    obtain ⟨base, hb, hpre⟩ := exists_base_of_mayHold h
    refine ⟨ofLocation base, isAbsolute_ofLocation hb, ?_⟩
    rwa [resolve_join, resolve_join, resolve_ofLocation hb]
  · rintro ⟨root, -, hpre⟩
    rw [resolve_join, resolve_join] at hpre
    exact mayHold_of_prefix hpre

end Path

end Multidialect
