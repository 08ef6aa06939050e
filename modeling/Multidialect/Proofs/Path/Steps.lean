import Multidialect.Dialect
import Multidialect.Path

/-! # The steps of a path

The components of a path without `.` are the steps that it takes. Joined texts take the steps of
both (`steps_join`), a name adds itself (`steps_child`), the path of a directory takes all steps but
the last (`steps_parent?`), and a path that is put together from components is read back as those
(`components_ofComponents`).
-/

namespace Multidialect

open Text

/-! ## Cutting a text -/

namespace Text

theorem splitOn_ne_nil (sep : Char) (t : Text) : splitOn sep t ≠ [] := by
  induction t with
  | nil => simp [splitOn]
  | cons c cs ih =>
    simp only [splitOn]
    split
    · simp
    · simpa [List.modifyHead_eq_nil_iff] using ih

theorem splitOn_append (sep : Char) (a b : Text) :
    splitOn sep (a ++ sep :: b) = splitOn sep a ++ splitOn sep b := by
  induction a with
  | nil => simp [splitOn]
  | cons c cs ih =>
    simp only [List.cons_append, splitOn, ih]
    split
    · rfl
    · cases hs : splitOn sep cs with
      | nil => exact absurd hs (splitOn_ne_nil sep cs)
      | cons part rest => rfl

theorem splitOn_of_notMem {sep : Char} {t : Text} (h : sep ∉ t) : splitOn sep t = [t] := by
  induction t with
  | nil => rfl
  | cons c cs ih =>
    simp only [List.mem_cons, not_or] at h
    simp [splitOn, Ne.symm h.1, ih h.2]

theorem notMem_of_mem_splitOn {sep : Char} {t part : Text} (h : part ∈ splitOn sep t) :
    sep ∉ part := by
  induction t generalizing part with
  | nil => simp_all [splitOn]
  | cons c cs ih =>
    simp only [splitOn] at h
    split at h
    · rcases List.mem_cons.1 h with rfl | h
      · simp
      · exact ih h
    · rename_i hc
      cases hs : splitOn sep cs with
      | nil => exact absurd hs (splitOn_ne_nil sep cs)
      | cons first rest =>
        rw [hs] at h ih
        rcases List.mem_cons.1 h with rfl | h
        · simp [Ne.symm hc, ih (.head _)]
        · exact ih (.tail _ h)

/-- Parts that hold no separator are what their joined text is cut into. -/
theorem splitOn_join {sep : Char} {parts : List Text} (hne : parts ≠ [])
    (h : ∀ part ∈ parts, sep ∉ part) : splitOn sep (Text.join [sep] parts) = parts := by
  induction parts with
  | nil => exact absurd rfl hne
  | cons part rest ih =>
    have hp := splitOn_of_notMem (h part (.head _))
    cases rest with
    | nil => simpa [Text.join] using hp
    | cons next rest =>
      have hj : Text.join [sep] (part :: next :: rest) =
          part ++ sep :: Text.join [sep] (next :: rest) := by
        simp [Text.join, List.intercalate, List.intersperse]
      rw [hj, splitOn_append, hp, ih (by simp) fun p hm => h p (.tail _ hm)]
      rfl

end Text

namespace Path

/-! ## Names -/

/-- A text that is one component of a path and neither `.` nor `..`. -/
structure IsName (s : String) : Prop where
  ne_nil : s.toList ≠ []
  ne_here : s.toList ≠ ['.']
  ne_up : s.toList ≠ ['.', '.']
  no_slash : '/' ∉ s.toList

instance (s : String) : Decidable (IsName s) :=
  decidable_of_iff
    (s.toList ≠ [] ∧ s.toList ≠ ['.'] ∧ s.toList ≠ ['.', '.'] ∧ '/' ∉ s.toList)
    ⟨fun h => ⟨h.1, h.2.1, h.2.2.1, h.2.2.2⟩, fun h => ⟨h.1, h.2, h.3, h.4⟩⟩

theorem isName_dialect (d : Dialect) : IsName d.name := by cases d <;> decide

/-! ## Components and steps -/

/-- The components of a path without `.`. -/
def steps (p : Path) : List Component := p.components.filter (· ≠ .here)

/-- The steps that a text takes behind a slash. -/
def stepsIn (t : Text) : List Component := (splitOn '/' t).filterMap (component? false)

theorem component?_eq_some {part : Text} {c : Component} (h : component? false part = some c) :
    c ≠ .here ∧ c ≠ .root ∧ ∀ s, c = .name s → s.toList = part := by
  unfold component? at h
  split at h
  · cases h
  · split at h
    · simp at h
    · split at h <;> cases h <;> simp

theorem component?_name {s : String} (h : IsName s) (first : Bool) :
    component? first s.toList = some (.name s) := by
  simp [component?, h.ne_nil, h.ne_here, h.ne_up]

theorem mem_stepsIn {t : Text} {c : Component} (h : c ∈ stepsIn t) :
    c ≠ .here ∧ c ≠ .root ∧ ∀ s, c = .name s → IsName s := by
  obtain ⟨part, hp, hc⟩ := List.mem_filterMap.1 h
  obtain ⟨hh, hr, hs⟩ := component?_eq_some hc
  refine ⟨hh, hr, fun s he => ?_⟩
  have ht := hs s he
  subst he
  constructor <;> intro hn <;> rw [ht] at hn
  · simp [component?, hn] at hc
  · simp [component?, hn] at hc
  · simp [component?, hn] at hc
  · exact notMem_of_mem_splitOn hp hn

theorem filter_stepsIn (t : Text) : (stepsIn t).filter (· ≠ .here) = stepsIn t :=
  List.filter_eq_self.2 fun _ hc => by simpa using (mem_stepsIn hc).1

@[simp] theorem stepsIn_nil : stepsIn [] = [] := rfl

theorem stepsIn_append (a b : Text) : stepsIn (a ++ '/' :: b) = stepsIn a ++ stepsIn b := by
  simp [stepsIn, splitOn_append]

@[simp] theorem stepsIn_cons_slash (t : Text) : stepsIn ('/' :: t) = stepsIn t := by
  simpa using stepsIn_append [] t

theorem stepsIn_append_slash (a b : Text) (h : a.getLast? = some '/') :
    stepsIn (a ++ b) = stepsIn a ++ stepsIn b := by
  obtain ⟨a, rfl⟩ := List.getLast?_eq_some_iff.1 h
  rw [List.append_assoc, List.singleton_append, stepsIn_append, stepsIn_append]
  simp

theorem stepsIn_name {s : String} (h : IsName s) : stepsIn s.toList = [.name s] := by
  simp [stepsIn, splitOn_of_notMem h.no_slash, component?_name h]

/-- A relative path may have a `.` in front of its steps. -/
theorem ofParts_splitOn (t : Text) :
    ofParts (splitOn '/' t) = stepsIn t ∨ ofParts (splitOn '/' t) = .here :: stepsIn t := by
  unfold stepsIn
  cases hs : splitOn '/' t with
  | nil => exact absurd hs (splitOn_ne_nil _ _)
  | cons part rest =>
    by_cases hd : part = ['.']
    · right
      simp [ofParts, component?, hd]
    · left
      simp only [ofParts, List.filterMap_cons]
      rw [show component? true part = component? false part by simp [component?, hd]]
      cases component? false part <;> rfl

theorem components_of_isAbsolute {p : Path} (h : p.isAbsolute = true) :
    p.components = .root :: stepsIn p.text.toList := by
  obtain ⟨rest, ht⟩ : ∃ rest, p.text.toList = '/' :: rest := by
    cases hp : p.text.toList with
    | nil => simp [isAbsolute, hp] at h
    | cons c rest => exact ⟨rest, by simp_all [isAbsolute]⟩
  simp only [components, ht, stepsIn_cons_slash]
  rfl

theorem components_of_isRelative {p : Path} (h : p.isAbsolute = false) :
    p.components = ofParts (splitOn '/' p.text.toList) := by
  unfold components
  split
  · rename_i rest ht
    simp [isAbsolute, ht] at h
  · rfl

/-- **The steps of a path**: to the root, if it is absolute, then those of its text. -/
theorem steps_eq (p : Path) :
    p.steps = (if p.isAbsolute then [.root] else []) ++ stepsIn p.text.toList := by
  unfold steps
  cases h : p.isAbsolute with
  | true => rw [components_of_isAbsolute h, List.filter_cons, filter_stepsIn]; simp
  | false =>
    rw [components_of_isRelative h]
    rcases ofParts_splitOn p.text.toList with he | he <;> rw [he]
    · rw [filter_stepsIn]; simp
    · rw [List.filter_cons, filter_stepsIn]; simp

/-- The components are the steps, but for a `.` in front. -/
theorem components_eq (p : Path) : p.components = p.steps ∨ p.components = .here :: p.steps := by
  rw [steps_eq]
  cases h : p.isAbsolute with
  | true => left; rw [components_of_isAbsolute h]; rfl
  | false => rw [components_of_isRelative h]; exact ofParts_splitOn _

theorem isName_of_mem_steps {p : Path} {s : String} (h : .name s ∈ p.steps) : IsName s := by
  rw [steps_eq, List.mem_append] at h
  rcases h with h | h
  · split at h <;> simp at h
  · exact (mem_stepsIn h).2.2 s rfl

/-! ## Joined paths -/

theorem isAbsolute_of_isName {s : String} (h : IsName s) : (Path.mk s).isAbsolute = false := by
  cases ht : s.toList with
  | nil => exact absurd ht h.ne_nil
  | cons c cs =>
    have hc := h.no_slash
    rw [ht, List.mem_cons, not_or] at hc
    simpa [isAbsolute, ht] using Ne.symm hc.1

theorem join_of_isAbsolute (p : Path) {q : Path} (h : q.isAbsolute = true) : p.join q = q := by
  simp [join, h]

/-- A relative path is joined with a slash between the texts, unless there is one or none is
needed. -/
theorem join_of_isRelative (p : Path) {q : Path} (h : q.isAbsolute = false) :
    (p.join q).text.toList = p.text.toList ++ q.text.toList ∧
        (p.text.toList = [] ∨ p.text.toList.getLast? = some '/') ∨
      (p.join q).text.toList = p.text.toList ++ '/' :: q.text.toList ∧ p.text.toList ≠ [] := by
  simp only [join, h, Bool.false_eq_true, if_false]
  split
  · rename_i he
    exact .inl ⟨by simp, he⟩
  · rename_i he
    exact .inr ⟨by simp, fun hn => he (.inl hn)⟩

theorem isAbsolute_join (p : Path) {q : Path} (h : q.isAbsolute = false) :
    (p.join q).isAbsolute = p.isAbsolute := by
  unfold isAbsolute at h ⊢
  cases hp : p.text.toList with
  | nil =>
    rcases join_of_isRelative p h with ⟨he, -⟩ | ⟨-, hne⟩
    · rw [he, hp]; simpa using h
    · exact absurd hp hne
  | cons c cs =>
    rcases join_of_isRelative p h with ⟨he, -⟩ | ⟨he, -⟩ <;> rw [he, hp] <;> rfl

theorem isAbsolute_join_left {p : Path} (hp : p.isAbsolute = true) (q : Path) :
    (p.join q).isAbsolute = true := by
  cases hq : q.isAbsolute with
  | true => rwa [join_of_isAbsolute p hq]
  | false => rwa [isAbsolute_join p hq]

theorem stepsIn_join (p : Path) {q : Path} (h : q.isAbsolute = false) :
    stepsIn (p.join q).text.toList = stepsIn p.text.toList ++ stepsIn q.text.toList := by
  rcases join_of_isRelative p h with ⟨he, hp | hp⟩ | ⟨he, -⟩ <;> rw [he]
  · simp [hp]
  · exact stepsIn_append_slash _ _ hp
  · exact stepsIn_append _ _

/-- **A relative path goes on** where the path before it ends. -/
theorem steps_join (p : Path) {q : Path} (h : q.isAbsolute = false) :
    (p.join q).steps = p.steps ++ q.steps := by
  rw [steps_eq, steps_eq p, steps_eq q, isAbsolute_join p h, stepsIn_join p h, h]
  simp

/-- Joined paths take the same steps however they are put together. -/
theorem steps_join_join (p q r : Path) : (p.join (q.join r)).steps = ((p.join q).join r).steps := by
  cases hr : r.isAbsolute with
  | true => rw [join_of_isAbsolute q hr, join_of_isAbsolute _ hr, join_of_isAbsolute _ hr]
  | false =>
    cases hq : q.isAbsolute with
    | true => rw [join_of_isAbsolute p hq, join_of_isAbsolute p ((isAbsolute_join q hr).trans hq)]
    | false =>
      rw [steps_join p ((isAbsolute_join q hr).trans hq), steps_join q hr, steps_join _ hr,
        steps_join p hq, List.append_assoc]

theorem steps_name {s : String} (h : IsName s) : (Path.mk s).steps = [.name s] := by
  rw [steps_eq, isAbsolute_of_isName h, stepsIn_name h]
  rfl

theorem steps_child (p : Path) {s : String} (h : IsName s) :
    (p.child s).steps = p.steps ++ [.name s] := by
  rw [child, steps_join p (isAbsolute_of_isName h), steps_name h]

theorem isAbsolute_iff_head (p : Path) : p.isAbsolute = true ↔ p.steps.head? = some .root := by
  rw [steps_eq]
  cases p.isAbsolute with
  | true => simp
  | false =>
    cases hs : stepsIn p.text.toList with
    | nil => simp
    | cons c cs =>
      have hc := (mem_stepsIn (t := p.text.toList) (c := c) (by simp [hs])).2.1
      simpa using hc

/-! ## Paths put together from components -/

/-- A component that stands for itself behind other components. -/
def Component.IsProper : Component → Prop
  | .up => True
  | .name s => IsName s
  | _ => False

theorem Component.IsProper.text {c : Component} (h : c.IsProper) :
    (Path.mk c.text).isAbsolute = false ∧ (Path.mk c.text).components = [c] ∧
      c.text.toList ≠ [] := by
  cases c with
  | up => exact ⟨by decide, by decide, by decide⟩
  | name s =>
    have ha := isAbsolute_of_isName h
    refine ⟨ha, ?_, h.ne_nil⟩
    show (Path.mk s).components = _
    rw [components_of_isRelative ha]
    show ofParts (splitOn '/' s.toList) = _
    rw [splitOn_of_notMem h.no_slash]
    simp [ofParts, component?_name h]
  | root => exact h.elim
  | here => exact h.elim

theorem ofParts_append {xs : List Text} (hne : xs ≠ []) (ys : List Text) :
    ofParts (xs ++ ys) = ofParts xs ++ ys.filterMap (component? false) := by
  cases xs with
  | nil => exact absurd rfl hne
  | cons x xs => simp [ofParts, List.filterMap_append]

theorem components_join (p : Path) {q : Path} (h : q.isAbsolute = false)
    (hp : p.text.toList ≠ []) : (p.join q).components = p.components ++ q.steps := by
  have hj := isAbsolute_join p h
  have hq : q.steps = stepsIn q.text.toList := by rw [steps_eq, h]; rfl
  cases ha : p.isAbsolute with
  | true =>
    rw [components_of_isAbsolute ha, components_of_isAbsolute (hj.trans ha), stepsIn_join p h, hq]
    rfl
  | false =>
    rw [components_of_isRelative ha, components_of_isRelative (hj.trans ha), hq]
    rcases join_of_isRelative p h with ⟨he, hl | hl⟩ | ⟨he, -⟩
    · exact absurd hl hp
    · -- the text ends in a slash: the empty part behind it is no component
      obtain ⟨a, hpa⟩ := List.getLast?_eq_some_iff.1 hl
      rw [he, hpa, List.append_assoc, List.singleton_append, splitOn_append, splitOn_append,
        ofParts_append (splitOn_ne_nil _ _), ofParts_append (splitOn_ne_nil _ _)]
      simp [stepsIn, splitOn, component?]
    · rw [he, splitOn_append, ofParts_append (splitOn_ne_nil _ _)]
      rfl

theorem foldl_join_components {cs : List Component} (h : ∀ c ∈ cs, c.IsProper) {p : Path}
    (hp : p.text.toList ≠ []) :
    (cs.foldl (fun p c => p.join ⟨c.text⟩) p).components = p.components ++ cs := by
  induction cs generalizing p with
  | nil => simp
  | cons c cs ih =>
    obtain ⟨ha, hc, -⟩ := (h c (.head _)).text
    have hj := components_join p ha hp
    have hs : (Path.mk c.text).steps = [c] := by
      rw [steps, hc]
      cases c <;> first | rfl | exact (h _ (.head _)).elim
    have hn : (p.join ⟨c.text⟩).text.toList ≠ [] := by
      rcases join_of_isRelative p ha with ⟨he, -⟩ | ⟨he, -⟩ <;> simp [he, hp]
    rw [List.foldl_cons, ih (fun c' hm => h c' (.tail _ hm)) hn, hj, hs]
    simp

/-- **A path put together from components** has these components. -/
theorem components_ofComponents (absolute : Bool) {cs : List Component}
    (h : ∀ c ∈ cs, c.IsProper) :
    (ofComponents ((if absolute then [.root] else []) ++ cs)).components =
      (if absolute then [.root] else []) ++ cs := by
  cases absolute with
  | true =>
    exact foldl_join_components h (p := (Path.mk "").join ⟨"/"⟩) (by decide)
  | false =>
    cases cs with
    | nil => rfl
    | cons c cs =>
      obtain ⟨ha, hc, hne⟩ := (h c (.head _)).text
      have hj : (Path.mk "").join ⟨c.text⟩ = ⟨c.text⟩ := by
        simp [join, ha]
      have hf := foldl_join_components (p := ⟨c.text⟩) (fun c' hm => h c' (.tail _ hm)) hne
      simp only [Bool.false_eq_true, if_false, List.nil_append]
      rw [ofComponents, List.foldl_cons, hj, hf, hc]
      rfl

/-! ## The directory of a path -/

theorem component?_false_of_none {first : Bool} {part : Text} (h : component? first part = none) :
    component? false part = none := by
  cases first with
  | false => exact h
  | true =>
    unfold component? at h ⊢
    split at h
    · simp_all
    · split at h
      · simp at h
      · simp_all

theorem dropEmpty_suffix (relative : Bool) (parts : List Text) :
    dropEmpty relative parts <:+ parts := by
  induction parts with
  | nil => exact List.suffix_rfl
  | cons part rest ih =>
    unfold dropEmpty
    split
    · exact List.suffix_rfl
    · exact ih.trans (List.suffix_cons _ _)

theorem filterMap_dropEmpty (relative : Bool) (parts : List Text) :
    (dropEmpty relative parts).reverse.filterMap (component? false) =
      parts.reverse.filterMap (component? false) := by
  induction parts with
  | nil => rfl
  | cons part rest ih =>
    unfold dropEmpty
    split
    · rfl
    · rename_i hn
      have hc := component?_false_of_none (Option.not_isSome_iff_eq_none.1 hn)
      rw [ih, List.reverse_cons, List.filterMap_append]
      simp [hc]

/-- What is left ends in a component; only a `.` that is all there is takes no step. -/
theorem dropEmpty_eq_cons {relative : Bool} {parts rest : List Text} {part : Text}
    (h : dropEmpty relative parts = part :: rest) :
    (component? false part).isSome ∨ relative = true ∧ rest = [] := by
  induction parts with
  | nil => simp [dropEmpty] at h
  | cons first more ih =>
    unfold dropEmpty at h
    split at h
    · rename_i hs
      obtain ⟨rfl, rfl⟩ := List.cons.inj h
      cases hr : relative && more.isEmpty with
      | false => left; rwa [hr] at hs
      | true =>
        right
        simpa using hr
    · exact ih h

theorem stepsIn_ofList_join {parts : List Text} (h : ∀ part ∈ parts, '/' ∉ part) :
    stepsIn (Text.join ['/'] parts) = parts.filterMap (component? false) := by
  cases parts with
  | nil => rfl
  | cons part rest => rw [stepsIn, splitOn_join (by simp) h]

theorem splitOn_eq_nil_cons {sep : Char} {t : Text} {rest : List Text}
    (h : splitOn sep t = [] :: rest) : t = [] ∨ ∃ u, t = sep :: u := by
  cases t with
  | nil => exact .inl rfl
  | cons c cs =>
    simp only [splitOn] at h
    split at h
    · rename_i hc
      exact .inr ⟨cs, by rw [hc]⟩
    · cases hs : splitOn sep cs <;> rw [hs] at h <;> simp at h

/-- The front parts of a relative path's text do not start with a slash. -/
theorem join_prefix_isRelative {t : Text} {parts : List Text} (ht : t.head? ≠ some '/')
    (hp : parts <+: splitOn '/' t) : (Text.join ['/'] parts).head? ≠ some '/' := by
  cases parts with
  | nil => simp [Text.join]
  | cons part rest =>
    have hns : '/' ∉ part := notMem_of_mem_splitOn (hp.subset (.head _))
    cases part with
    | cons c cs =>
      have hc : (Text.join ['/'] ((c :: cs) :: rest)).head? = some c := by
        cases rest <;> simp [Text.join, List.intercalate, List.intersperse]
      rw [hc]
      intro he
      obtain rfl := Option.some.inj he
      exact hns (.head _)
    | nil =>
      obtain ⟨more, hm⟩ := hp
      rw [List.cons_append] at hm
      rcases splitOn_eq_nil_cons hm.symm with rfl | ⟨u, rfl⟩
      · -- an empty text has no other part
        simp only [splitOn, List.cons.injEq, true_and, List.append_eq_nil_iff] at hm
        simp [hm.1, Text.join]
      · simp at ht

/-- **The directory of a path** is reached by all of its steps but the last. -/
theorem steps_parent? {p q : Path} (h : p.parent? = some q) : q.steps = p.steps.dropLast := by
  unfold parent? at h
  generalize hr : (!p.isAbsolute) = relative at h
  generalize hb : (if relative then p.text.toList else p.text.toList.drop 1) = body at h
  simp only at h
  split at h
  · cases h
  · rename_i part rest he
    rw [hb] at he
    have hrest : part :: rest <:+ (splitOn '/' body).reverse := by
      rw [← he]; exact dropEmpty_suffix _ _
    have hsub : dropEmpty relative rest <:+ (splitOn '/' body).reverse :=
      (dropEmpty_suffix _ _).trans ((List.suffix_cons _ _).trans hrest)
    have hpre : (dropEmpty relative rest).reverse <+: splitOn '/' body := by
      simpa using List.reverse_prefix.2 hsub
    have hfront : stepsIn (Text.join ['/'] (dropEmpty relative rest).reverse) =
        rest.reverse.filterMap (component? false) := by
      rw [stepsIn_ofList_join fun x hx => notMem_of_mem_splitOn (hpre.subset hx),
        filterMap_dropEmpty]
    have hall : stepsIn body =
        rest.reverse.filterMap (component? false) ++ (component? false part).toList := by
      have := filterMap_dropEmpty relative (splitOn '/' body).reverse
      rw [he, List.reverse_reverse, List.reverse_cons, List.filterMap_append] at this
      rw [stepsIn, ← this]
      cases hc : component? false part <;> simp [List.filterMap, hc]
    have hlast := dropEmpty_eq_cons he
    cases ha : p.isAbsolute with
    | true =>
      obtain rfl : relative = false := by simp [← hr, ha]
      obtain ⟨c, hc⟩ : ∃ c, component? false part = some c := by
        simpa [Option.isSome_iff_exists] using hlast
      obtain ⟨t, ht⟩ : ∃ t, p.text.toList = '/' :: t := by
        cases hp : p.text.toList with
        | nil => simp [isAbsolute, hp] at ha
        | cons c t => exact ⟨t, by simp_all [isAbsolute]⟩
      obtain rfl : t = body := by simpa [ht] using hb
      obtain rfl := Option.some.inj h
      rw [steps_eq p, ha, ht, stepsIn_cons_slash, hall, hc, steps_eq]
      simp only [isAbsolute, Bool.false_eq_true, if_false, String.toList_ofList, List.head?_cons,
        beq_self_eq_true, if_true, stepsIn_cons_slash, hfront]
      rw [← List.append_assoc]
      exact (List.dropLast_concat ..).symm
    | false =>
      obtain rfl : relative = true := by simp [← hr, ha]
      obtain rfl : p.text.toList = body := by simpa using hb
      obtain rfl := Option.some.inj h
      have hrel := join_prefix_isRelative (by simpa [isAbsolute] using ha) hpre
      rw [steps_eq p, ha, hall, steps_eq]
      simp only [isAbsolute, if_true, String.toList_ofList, beq_iff_eq, hrel, hfront]
      rcases hlast with hs | ⟨-, rfl⟩
      · obtain ⟨c, hc⟩ := Option.isSome_iff_exists.1 hs
        simp [hc]
      · cases component? false part <;> simp

end Path

end Multidialect
