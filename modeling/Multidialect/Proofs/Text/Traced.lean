import Multidialect.Proofs.Text.LineEndings
import Multidialect.Proofs.Text.Sites
import Mathlib.Data.List.Flatten
import Mathlib.Data.List.Pairwise
import Mathlib.Data.List.Perm.Basic

/-! # Traced texts

A traced text tells for each character on which line of the source it was written, or that it was
put in by a rule. A rule that keeps characters, takes some out and puts others in can be followed on
traced texts (`Tracks`): it does the same to the characters, and what it keeps comes from the source
in the same order. So behind a part of a traced text the number of lines is that of the source up to
there, with the line ends that were put in and without those that are gone
(`Traced.number_eq_iff`).
-/

namespace Multidialect.Text

/-- A text with the number of the line on which each character was written, if it was. -/
abbrev Traced := List (Char × Option Nat)

namespace Traced

variable {x y x' y' : Traced}

/-- The characters. -/
def chars (x : Traced) : Text := x.map (·.1)

/-- The characters that were written. -/
def kept (x : Traced) : Traced := x.filter (·.2.isSome)

/-- Text that is put in. -/
def put (t : Text) : Traced := t.map (·, none)

/-- Text on line `n` of the source. -/
def written (n : Nat) (t : Text) : Traced := t.map (·, some n)

/-- The lines of a source, numbered from 1. -/
def numbered (ls : List Text) : Traced :=
  (List.range ls.length).flatMap fun i => (ls[i]?).elim [] (written (i + 1))

@[simp] theorem chars_nil : chars [] = [] := rfl

@[simp] theorem chars_append (x y : Traced) : chars (x ++ y) = chars x ++ chars y :=
  List.map_append

@[simp] theorem chars_take (n : Nat) (x : Traced) : chars (x.take n) = (chars x).take n :=
  List.map_take

@[simp] theorem chars_drop (n : Nat) (x : Traced) : chars (x.drop n) = (chars x).drop n :=
  List.map_drop

@[simp] theorem length_chars (x : Traced) : (chars x).length = x.length := List.length_map ..

@[simp] theorem chars_put (t : Text) : chars (put t) = t := by
  simp [chars, put, Function.comp_def]

@[simp] theorem chars_written (n : Nat) (t : Text) : chars (written n t) = t := by
  simp [chars, written, Function.comp_def]

@[simp] theorem kept_append (x y : Traced) : kept (x ++ y) = kept x ++ kept y :=
  List.filter_append ..

@[simp] theorem kept_put (t : Text) : kept (put t) = [] :=
  List.filter_eq_nil_iff.2 fun c hc => by
    obtain ⟨_, -, rfl⟩ := List.mem_map.1 hc
    simp

/-! ## Keeping the order -/

/-- What `y` has of the source it has from `x`, in the same order. -/
def From (x y : Traced) : Prop := (kept y).Sublist (kept x)

namespace From

theorem refl (x : Traced) : From x x := List.Sublist.refl _

theorem trans {z : Traced} (h : From x y) (h' : From y z) : From x z := List.Sublist.trans h' h

theorem append (h : From x y) (h' : From x' y') : From (x ++ x') (y ++ y') := by
  rw [From, kept_append, kept_append]
  exact List.Sublist.append h h'

theorem put (x : Traced) (t : Text) : From x (put t) := by
  rw [From, kept_put]
  exact List.nil_sublist _

theorem of_sublist (h : y.Sublist x) : From x y := h.filter _

end From

/-! ## Changing a part -/

/-- A change of a part of a text: the number of characters that are kept at its front, what is put in
behind them, and the number of characters that are kept at its end. -/
structure Splice where
  front : Nat
  new : Text
  back : Nat

/-- The changed text. -/
def Splice.text (e : Splice) (t : Text) : Text :=
  t.take e.front ++ e.new ++ (t.drop e.front).drop (t.length - e.front - e.back)

/-- The changed text, traced. -/
def Splice.traced (e : Splice) (x : Traced) : Traced :=
  x.take e.front ++ put e.new ++ (x.drop e.front).drop (x.length - e.front - e.back)

theorem Splice.chars_traced (e : Splice) (x : Traced) : chars (e.traced x) = e.text (chars x) := by
  simp [Splice.traced, Splice.text]

theorem Splice.from_traced (e : Splice) (x : Traced) : From x (e.traced x) := by
  have hfront : From (x.take e.front) (x.take e.front ++ put e.new) := by
    have happend := (From.refl (x.take e.front)).append (From.put [] e.new)
    rwa [List.append_nil] at happend
  have hback : From (x.drop e.front) ((x.drop e.front).drop (x.length - e.front - e.back)) :=
    .of_sublist (List.drop_sublist _ _)
  have hall := hfront.append hback
  rwa [List.take_append_drop] at hall

/-- Nothing is taken out, and `new` is put in behind. -/
def Splice.behind (covered new : Text) : Splice := ⟨covered.length, new, 0⟩

theorem Splice.text_behind (covered new : Text) :
    (Splice.behind covered new).text covered = covered ++ new := by
  simp [Splice.text, Splice.behind]

/-- What stands between `lead` and `tail` is exchanged. -/
theorem Splice.text_between (lead old new tail : Text) :
    (Splice.mk lead.length new tail.length).text (lead ++ old ++ tail) = lead ++ new ++ tail := by
  have hlen : (lead ++ old ++ tail).length - lead.length - tail.length = old.length := by
    simp only [List.length_append]
    omega
  rw [Splice.text, hlen, List.append_assoc lead old, List.take_left, List.drop_left, List.drop_left]

end Traced

open Traced

variable {α : Type}

/-! ## Following rules -/

/-- The piece of a traced text, changed if it is a site. -/
def Piece.traced (e : α → Text → Splice) (x : Traced) : Piece α → Traced
  | .plain _ => x
  | .site a covered => (e a covered).traced x

/-- A traced text cut into pieces of these lengths, the sites changed. -/
def tracePieces (e : α → Text → Splice) : List (Piece α) → Traced → Traced
  | [], _ => []
  | p :: ps, x =>
    p.traced e (x.take p.source.length) ++ tracePieces e ps (x.drop p.source.length)

/-- A traced text with the sites of a matcher changed. -/
def traceSites (m : Matcher α) (e : α → Text → Splice) (x : Traced) : Traced :=
  tracePieces e (pieces m (chars x)) x

/-- What `F` does to traced texts is what `f` does to texts; it puts characters in and takes some out,
but moves none. -/
structure Tracks (f : Text → Text) (F : Traced → Traced) : Prop where
  follows : ∀ x, chars (F x) = f (chars x)
  keeps : ∀ x, From x (F x)

namespace Tracks

variable {f g : Text → Text} {F G : Traced → Traced}

theorem id : Tracks id id := ⟨fun _ => rfl, From.refl⟩

theorem comp (hg : Tracks g G) (hf : Tracks f F) : Tracks (g ∘ f) (G ∘ F) where
  follows x := (hg.follows (F x)).trans (congrArg g (hf.follows x))
  keeps x := (hf.keeps x).trans (hg.keeps (F x))

/-- One rule after another. -/
theorem foldl {β : Type} {f : β → Text → Text} {F : β → Traced → Traced} (bs : List β)
    (h : ∀ b ∈ bs, Tracks (f b) (F b)) :
    Tracks (fun t => bs.foldl (fun t b => f b t) t) fun x => bs.foldl (fun x b => F b x) x := by
  induction bs with
  | nil => exact id
  | cons b bs ih => exact (ih fun b hb => h b (.tail _ hb)).comp (h b (.head _))

theorem chars_tracePieces {f : α → Text → Text} {e : α → Text → Splice} {ps : List (Piece α)}
    {x : Traced} (hx : ps.flatMap Piece.source = x.chars)
    (h : ∀ a covered, Piece.site a covered ∈ ps → (e a covered).text covered = f a covered) :
    chars (tracePieces e ps x) = ps.flatMap (Piece.edit f) := by
  induction ps generalizing x with
  | nil => rfl
  | cons p ps ih =>
    rw [List.flatMap_cons] at hx
    have hfront : chars (x.take p.source.length) = p.source := by
      rw [chars_take, ← hx, List.take_left]
    have hrest : ps.flatMap Piece.source = chars (x.drop p.source.length) := by
      rw [chars_drop, ← hx, List.drop_left]
    rw [tracePieces, chars_append, ih hrest fun a covered hm => h a covered (.tail _ hm),
      List.flatMap_cons]
    congr 1
    cases p with
    | plain c => exact hfront
    | site a covered =>
      rw [Piece.traced, Splice.chars_traced, hfront]
      exact h a covered (.head _)

theorem from_tracePieces (e : α → Text → Splice) (ps : List (Piece α)) (x : Traced) :
    From x (tracePieces e ps x) := by
  induction ps generalizing x with
  | nil => exact .of_sublist (List.nil_sublist x)
  | cons p ps ih =>
    have hpiece : From (x.take p.source.length) (p.traced e (x.take p.source.length)) := by
      cases p with
      | plain c => exact .refl _
      | site a covered => exact Splice.from_traced _ _
    have hall := hpiece.append (ih (x.drop p.source.length))
    rwa [List.take_append_drop] at hall

/-- **Replacing sites** can be followed if each site is changed in a part of it. -/
theorem sites {m : Matcher α} {P : α → Text → Prop} (hm : Finds m P) {f : α → Text → Text}
    {e : α → Text → Splice}
    (h : ∀ a covered, P a covered → (e a covered).text covered = f a covered) :
    Tracks (replaceSites m f) (traceSites m e) where
  follows x := chars_tracePieces (flatMap_source_pieces m x.chars) fun a covered hmem =>
    h a covered (mem_pieces hm hmem)
  keeps x := from_tracePieces e _ x

/-- The sites are changed in a part of them, whatever they cover. -/
theorem sites_always (m : Matcher α) {f : α → Text → Text} {e : α → Text → Splice}
    (h : ∀ a covered, (e a covered).text covered = f a covered) :
    Tracks (replaceSites m f) (traceSites m e) :=
  sites (P := fun _ _ => True) (fun _ _ _ _ _ => trivial) fun a covered _ => h a covered

/-- A rule that only puts something in behind its sites. -/
theorem behind (m : Matcher α) (new : α → Text) :
    Tracks (replaceSites m fun a covered => covered ++ new a)
      (traceSites m fun a covered => .behind covered (new a)) :=
  sites_always m fun a covered => Splice.text_behind covered (new a)

end Tracks

/-! ## Lines -/

namespace Traced

/-- A traced text cut into parts that are as long as some texts. -/
def cut : List Text → Traced → List Traced
  | [], _ => []
  | line :: ls, x => x.take line.length :: cut ls (x.drop line.length)

/-- The physical lines of a traced text. -/
def lines (x : Traced) : List Traced := cut (physicalLines x.chars) x

theorem cut_spec {ls : List Text} {x : Traced} (h : ls.flatten = x.chars) :
    (cut ls x).map chars = ls ∧ (cut ls x).flatten = x := by
  induction ls generalizing x with
  | nil =>
    have hx : x = [] := List.map_eq_nil_iff.1 h.symm
    rw [hx]
    exact ⟨rfl, rfl⟩
  | cons line ls ih =>
    rw [List.flatten_cons] at h
    obtain ⟨hmap, hflat⟩ := ih (x := x.drop line.length) (by rw [chars_drop, ← h, List.drop_left])
    refine ⟨?_, by rw [cut, List.flatten_cons, hflat, List.take_append_drop]⟩
    rw [cut, List.map_cons, hmap, chars_take, ← h, List.take_left]

theorem map_chars_lines (x : Traced) : x.lines.map chars = physicalLines x.chars :=
  (cut_spec (flatten_physicalLines x.chars)).1

theorem flatten_lines (x : Traced) : x.lines.flatten = x :=
  (cut_spec (flatten_physicalLines x.chars)).2

/-! ## Line numbers -/

/-- What is written behind `a`: nothing from a line above, and if `a` ends a line, nothing from that
line either. -/
def Follows (a b : Char × Option Nat) : Prop :=
  ∀ i, a.2 = some i → ∀ j, b.2 = some j → i ≤ j ∧ (a.1 = '\n' → i < j)

theorem pairwise_ne_feed {t line : Text} (h : line ∈ physicalLines t) :
    line.Pairwise fun a _ => a ≠ '\n' := by
  obtain ⟨body, hbody, hline⟩ := mem_physicalLines h
  have hne : ∀ a ∈ body, a ≠ '\n' := by
    rintro a ha rfl
    exact hbody ha
  have hpairs : body.Pairwise fun a _ => a ≠ '\n' :=
    List.pairwise_of_forall_mem_list fun a ha _ _ => hne a ha
  rcases hline with rfl | rfl
  · exact hpairs
  · exact List.pairwise_append.2 ⟨hpairs, List.pairwise_singleton .., fun a ha _ _ => hne a ha⟩

theorem mem_written {n : Nat} {t : Text} {c : Char × Option Nat} (h : c ∈ written n t) :
    c.2 = some n := by
  obtain ⟨_, -, rfl⟩ := List.mem_map.1 h
  rfl

theorem mem_line {ls : List Text} {i : Nat} {c : Char × Option Nat}
    (h : c ∈ (ls[i]?).elim [] (written (i + 1))) : c.2 = some (i + 1) := by
  cases hline : ls[i]? with
  | none =>
    rw [hline] at h
    cases h
  | some line =>
    rw [hline] at h
    exact mem_written h

/-- The lines of a text stand in order. -/
theorem pairwise_numbered (t : Text) : (numbered (physicalLines t)).Pairwise Follows := by
  refine List.pairwise_flatMap.2 ⟨fun i _ => ?_, ?_⟩
  · cases hline : (physicalLines t)[i]? with
    | none => exact .nil
    | some line =>
      refine List.pairwise_map.2 ((pairwise_ne_feed (List.mem_of_getElem? hline)).imp ?_)
      rintro a b hne _ ⟨⟩ _ ⟨⟩
      exact ⟨Nat.le_refl _, fun hfeed => absurd hfeed hne⟩
  · refine List.pairwise_lt_range.imp fun {i j} hij a ha b hb => ?_
    intro m hm n hn
    rw [mem_line ha] at hm
    rw [mem_line hb] at hn
    obtain rfl := Option.some.inj hm
    obtain rfl := Option.some.inj hn
    omega

theorem pos_of_mem_numbered {ls : List Text} {c : Char × Option Nat} (h : c ∈ numbered ls) {k : Nat}
    (hk : c.2 = some k) : 1 ≤ k := by
  obtain ⟨i, -, hc⟩ := List.mem_flatMap.1 h
  rw [mem_line hc] at hk
  obtain rfl := Option.some.inj hk
  omega

/-- The line that a line feed ended, if the feed was written. -/
def ended? (c : Char × Option Nat) : Option Nat := if c.1 = '\n' then c.2 else none

/-- The number of line feeds that were put in. -/
def endsPut (x : Traced) : Nat := x.countP (· == ('\n', none))

/-- The number of lines above line `k` of the source whose line feed is gone. -/
def endsGone (k : Nat) (x : Traced) : Nat :=
  (List.range' 1 (k - 1)).countP fun j => !x.contains ('\n', some j)

/-- The line on which a line begins to say something, if that was written. -/
def origin? (line : Traced) : Option Nat := (line.dropWhile (isBlank ·.1)).head?.bind (·.2)

theorem mem_filterMap_ended {x : Traced} {j : Nat} :
    j ∈ x.filterMap ended? ↔ ('\n', some j) ∈ x := by
  rw [List.mem_filterMap]
  constructor
  · rintro ⟨⟨c, o⟩, hc, hj⟩
    simp only [ended?] at hj
    split at hj
    · rename_i hfeed
      rwa [← hfeed, ← hj]
    · cases hj
  · exact fun h => ⟨_, h, rfl⟩

/-- A line feed was written or put in. -/
theorem count_feed (x : Traced) :
    (chars x).count '\n' = (x.filterMap ended?).length + endsPut x := by
  induction x with
  | nil => rfl
  | cons c x ih =>
    obtain ⟨c, o⟩ := c
    have hcount : (chars ((c, o) :: x)).count '\n' =
        (chars x).count '\n' + if c == '\n' then 1 else 0 := List.count_cons ..
    rw [hcount, ih, endsPut, endsPut, List.countP_cons]
    by_cases hc : c = '\n'
    · cases o with
      | none =>
        rw [List.filterMap_cons_none (by rw [ended?, if_pos hc]), hc]
        simp
        omega
      | some j =>
        rw [List.filterMap_cons_some (by rw [ended?, if_pos hc]), hc]
        simp
        omega
    · rw [List.filterMap_cons_none (by rw [ended?, if_neg hc])]
      simp [hc]

/-- Each line but the last one has one line feed. -/
theorem count_feed_flatten {t : Text} {front back : List Text}
    (h : physicalLines t = front ++ back) (hback : back ≠ []) :
    front.flatten.count '\n' = front.length := by
  have hone : ∀ line ∈ front, line.count '\n' = 1 := by
    intro line hm
    obtain ⟨xs, ys, rfl⟩ := List.append_of_mem hm
    rw [List.append_assoc, List.cons_append] at h
    obtain ⟨body, rfl⟩ := exists_feed_of_followed h (by simp [hback])
    have hmem : body ++ ['\n'] ∈ physicalLines t := by simp [h]
    obtain ⟨body', hbody', hline⟩ := mem_physicalLines hmem
    rcases hline with hline | hline
    · exact absurd (hline ▸ List.mem_append_right body (.head _)) hbody'
    · rw [hline, List.count_append, List.count_eq_zero.2 hbody']
      rfl
  rw [List.count_flatten, List.map_congr_left hone]
  simp

/-- The lines in front of another one are as many as the line feeds there. -/
theorem length_front {x line : Traced} {front back : List Traced}
    (h : x.lines = front ++ line :: back) :
    front.length = (front.flatten.filterMap ended?).length + endsPut front.flatten := by
  have hlines : physicalLines (chars x) = front.map chars ++ (line :: back).map chars := by
    rw [← map_chars_lines, h, List.map_append]
  have hcount := count_feed_flatten hlines (by simp)
  have hchars : (front.map chars).flatten = chars front.flatten := List.map_flatten.symm
  rw [hchars, count_feed, List.length_map] at hcount
  exact hcount.symm

/-- Of some numbers below `k`, those that are missing and those that are not are all. -/
theorem length_add_missing {k : Nat} {js : List Nat} (hnodup : js.Nodup)
    (hjs : ∀ j ∈ js, 1 ≤ j ∧ j < k) :
    js.length + (List.range' 1 (k - 1)).countP (fun j => !decide (j ∈ js)) = k - 1 := by
  have hperm : js.Perm ((List.range' 1 (k - 1)).filter (· ∈ js)) := by
    refine (List.perm_ext_iff_of_nodup hnodup ((List.nodup_range' 1).filter _)).2 fun j => ?_
    rw [List.mem_filter, List.mem_range'_1, decide_eq_true_eq]
    constructor
    · intro hj
      have hbounds := hjs j hj
      exact ⟨by omega, hj⟩
    · exact fun h => h.2
  have hsum := List.length_eq_countP_add_countP (l := List.range' 1 (k - 1)) (decide <| · ∈ js)
  have hnot : (fun j => decide ¬ decide (j ∈ js) = true) = fun j => !decide (j ∈ js) := by
    funext j
    cases decide (j ∈ js) <;> rfl
  rw [List.length_range', hnot] at hsum
  rw [hperm.length_eq, ← List.countP_eq_length_filter]
  exact hsum.symm

theorem filterMap_ended_kept (x : Traced) : (kept x).filterMap ended? = x.filterMap ended? := by
  rw [kept, List.filterMap_filter]
  refine List.filterMap_congr fun c _ => ?_
  obtain ⟨c, o⟩ := c
  cases o <;> simp [ended?]

/-- The lines that end in front of a character are those above its line, each once. -/
theorem ended_of_follows {x rest : Traced} {c : Char × Option Nat} {k : Nat}
    (h : (kept (x ++ rest)).Pairwise Follows) (hc : c ∈ rest) (hk : c.2 = some k) :
    (x.filterMap ended?).Nodup ∧ ∀ j ∈ x.filterMap ended?, j < k := by
  rw [kept_append, List.pairwise_append] at h
  obtain ⟨hx, -, hcross⟩ := h
  have hfeed : ∀ {a : Char × Option Nat} {j : Nat}, ended? a = some j →
      a.1 = '\n' ∧ a.2 = some j := by
    intro a j ha
    rw [ended?] at ha
    split at ha
    · exact ⟨‹_›, ha⟩
    · cases ha
  rw [← filterMap_ended_kept]
  constructor
  · refine (List.pairwise_filterMap.2 (hx.imp fun {a b} hab i hi j hj => ?_)).imp Nat.ne_of_lt
    exact (hab i (hfeed hi).2 j (hfeed hj).2).2 (hfeed hi).1
  · intro j hj
    obtain ⟨a, ha, hend⟩ := List.mem_filterMap.1 hj
    have hkept : c ∈ kept rest := List.mem_filter.2 ⟨hc, by rw [hk]; rfl⟩
    exact (hcross a ha c hkept j (hfeed hend).2 k hk).2 (hfeed hend).1

/-- **The number of a line that was written** is that of the source exactly if in front of it as many
line feeds were put in as are gone. -/
theorem number_eq_iff {t : Text} {x line : Traced} {front back : List Traced} {k : Nat}
    (h : (kept x).Sublist (numbered (physicalLines t))) (hsplit : x.lines = front ++ line :: back)
    (hk : origin? line = some k) :
    front.length + 1 = k ↔ endsPut front.flatten = endsGone k front.flatten := by
  -- The character that tells where the line was written, and what stands in front of it.
  obtain ⟨c, hc, hck⟩ := Option.bind_eq_some_iff.1 hk
  obtain ⟨more, hmore⟩ := List.head?_eq_some_iff.1 hc
  have hx : x = front.flatten ++ (line.takeWhile (isBlank ·.1) ++ c :: (more ++ back.flatten)) := by
    calc x = x.lines.flatten := (flatten_lines x).symm
      _ = front.flatten ++ (line ++ back.flatten) := by rw [hsplit]; simp
      _ = front.flatten ++ ((line.takeWhile (isBlank ·.1) ++ c :: more) ++ back.flatten) := by
        rw [← hmore, List.takeWhile_append_dropWhile]
      _ = _ := by simp
  have hlength := length_front hsplit
  have hmem : ∀ d ∈ x, ∀ j, d.2 = some j → 1 ≤ j := fun d hd j hj =>
    pos_of_mem_numbered (h.subset (List.mem_filter.2 ⟨hd, by rw [hj]; rfl⟩)) hj
  have hpos : 1 ≤ k := hmem c (by simp [hx]) k hck
  obtain ⟨hnodup, hbelow⟩ := ended_of_follows (c := c) (k := k)
    (hx ▸ (pairwise_numbered t).sublist h) (by simp) hck
  have hmissing := length_add_missing hnodup fun j hj =>
    ⟨hmem _ (by rw [hx]; exact List.mem_append_left _ (mem_filterMap_ended.1 hj)) j rfl, hbelow j hj⟩
  have hgone : endsGone k front.flatten = (List.range' 1 (k - 1)).countP
      (fun j => !decide (j ∈ front.flatten.filterMap ended?)) := by
    rw [endsGone]
    congr 1
    funext j
    simp only [mem_filterMap_ended, List.contains_eq_mem]
  omega

end Traced

end Multidialect.Text
