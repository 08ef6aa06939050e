import Multidialect.Proofs.Outcome
import Multidialect.Template.Region
import Mathlib.Data.List.Chain

/-! # Which texts have regions

The markers of a text, in order, tell whether it can be read as segments: they have to open and close
regions one after another, each with a key of its own (`Region.Regular`). A text is refused at the first
marker that no further markers could follow up to such a sequence (`Region.Continues`), with the fault
that this marker makes (`Region.Breaks`), or at its end, if a region is still open. What is read has a
region for each start marker, and no literal text that is empty or could be joined with another one
(`Region.parse_accepts_regular`).
-/

namespace Multidialect

open Text

/-- A line with a marker, and its number. -/
structure MarkerLine where
  number : Nat
  line : Text
  marker : Marker
  deriving DecidableEq, Repr

namespace Region

/-! ## The markers of a text -/

/-- The markers of lines that are counted from `n`. -/
def markersFrom (n : Nat) : List Text → List MarkerLine
  | [] => []
  | line :: rest =>
    match Marker.parse? line with
    | none => markersFrom (n + 1) rest
    | some m => ⟨n, line, m⟩ :: markersFrom (n + 1) rest

/-- The markers of a text, in order. -/
def markers (t : Text) : List MarkerLine := markersFrom 1 (physicalLines t)

/-- The key and the line of a marker that opens a region. -/
def start? (x : MarkerLine) : Option (String × Nat) :=
  match x.marker with
  | .start key => some (key, x.number)
  | _ => none

/-- The markers that regions with these keys have, one after another. -/
def paired (keys : List String) : List Marker := keys.flatMap fun key => [.start key, .stop key]

/-- The markers open and close regions, one after another, each with a key of its own. -/
def Regular (xs : List MarkerLine) : Prop :=
  ∃ keys : List String, keys.Nodup ∧ xs.map (·.marker) = paired keys

/-- Some markers behind these would make all of them regular. -/
def Continues (xs : List MarkerLine) : Prop := ∃ more, Regular (xs ++ more)

/-- The region that is open behind some markers: that of the last one, if it is a start. -/
def opened? (xs : List MarkerLine) : Option (String × Nat) := xs.getLast?.bind start?

/-- What is wrong with a marker behind others that are in order. -/
inductive Breaks (front : List MarkerLine) (x : MarkerLine) : Fault → Prop
  | malformed (h : x.marker = .malformed) :
      Breaks front x (.malformedMarker x.number (String.ofList (trim x.line)))
  | nested {outer key : String} {n : Nat} (h : x.marker = .start key)
      (inside : opened? front = some (outer, n)) :
      Breaks front x (.nestedRegion outer key x.number)
  | duplicate {key : String} {first : Nat} (h : x.marker = .start key) (outside : opened? front = none)
      (defined : (key, first) ∈ front.filterMap start?) :
      Breaks front x (.duplicateRegion key x.number first)
  | unmatchedEnd {key : String} (h : x.marker = .stop key) (outside : opened? front = none) :
      Breaks front x (.unmatchedEnd key x.number)
  | mismatchedEnd {outer key : String} {n : Nat} (h : x.marker = .stop key)
      (inside : opened? front = some (outer, n)) (other : outer ≠ key) :
      Breaks front x (.mismatchedEnd outer key x.number)

theorem markersFrom_cons_none {line : Text} (h : Marker.parse? line = none) (n : Nat)
    (ls : List Text) : markersFrom n (line :: ls) = markersFrom (n + 1) ls := by
  rw [markersFrom, h]

theorem markersFrom_cons_some {line : Text} {m : Marker} (h : Marker.parse? line = some m) (n : Nat)
    (ls : List Text) : markersFrom n (line :: ls) = ⟨n, line, m⟩ :: markersFrom (n + 1) ls := by
  rw [markersFrom, h]

/-! ## Regular markers -/

theorem paired_concat (keys : List String) (key : String) :
    paired (keys ++ [key]) = paired keys ++ [.start key, .stop key] := by
  simp [paired]

/-- Behind the markers of some regions there are those of further ones. -/
theorem exists_of_paired_eq_append {keys all : List String} {rest : List Marker}
    (h : paired all = paired keys ++ rest) : ∃ more, all = keys ++ more ∧ rest = paired more := by
  induction keys generalizing all with
  | nil => exact ⟨all, rfl, h.symm⟩
  | cons key keys ih =>
    cases all with
    | nil => cases h
    | cons key' all =>
      simp only [paired, List.flatMap_cons, List.cons_append, List.nil_append, List.cons.injEq,
        Marker.start.injEq] at h
      obtain ⟨rfl, -, hrest⟩ := h
      obtain ⟨more, rfl, hmore⟩ := ih hrest
      exact ⟨more, rfl, hmore⟩

theorem paired_eq_cons {keys : List String} {m : Marker} {rest : List Marker}
    (h : m :: rest = paired keys) :
    ∃ key more, keys = key :: more ∧ m = .start key ∧ rest = .stop key :: paired more := by
  cases keys with
  | nil => cases h
  | cons key more =>
    obtain ⟨rfl, rfl⟩ := List.cons.inj h
    exact ⟨key, more, rfl, rfl, rfl⟩

theorem start?_eq_some {x : MarkerLine} {key : String} {n : Nat} :
    start? x = some (key, n) ↔ x.marker = .start key ∧ x.number = n := by
  unfold start?
  split <;> simp_all

/-- The keys of the regions that some markers open. -/
def keysOf (xs : List MarkerLine) : List String := (xs.filterMap start?).map (·.1)

theorem keysOf_eq {xs : List MarkerLine} {keys : List String}
    (h : xs.map (·.marker) = paired keys) : keysOf xs = keys := by
  have hmarker : keysOf xs = (xs.map (·.marker)).filterMap fun m =>
      match m with | .start key => some key | _ => none := by
    rw [keysOf, List.filterMap_map, List.map_filterMap]
    refine List.filterMap_congr fun x _ => ?_
    simp only [start?, Function.comp_apply]
    split <;> rfl
  rw [hmarker, h, paired, List.filterMap_flatMap]
  simp

theorem regular_iff {xs : List MarkerLine} :
    Regular xs ↔ (keysOf xs).Nodup ∧ xs.map (·.marker) = paired (keysOf xs) := by
  constructor
  · rintro ⟨keys, hnodup, h⟩
    rw [keysOf_eq h]
    exact ⟨hnodup, h⟩
  · exact fun h => ⟨_, h⟩

namespace Regular

variable {xs more : List MarkerLine} {x y : MarkerLine} {key : String} {n : Nat}

theorem nil : Regular [] := ⟨[], by simp [paired]⟩

theorem opened? (h : Regular xs) : opened? xs = none := by
  obtain ⟨keys, -, h⟩ := h
  rcases List.eq_nil_or_concat xs with rfl | ⟨front, x, rfl⟩
  · rfl
  · rcases List.eq_nil_or_concat keys with rfl | ⟨keys, key, rfl⟩
    · simp [paired] at h
    · have hlast := congrArg List.getLast? h
      rw [List.concat_eq_append, List.concat_eq_append, paired_concat] at hlast
      have hstop : x.marker = .stop key := by simpa using hlast
      simp [Region.opened?, start?, hstop]

/-- One more region. -/
theorem region (h : Regular xs) (hstart : start? x = some (key, n)) (hnew : key ∉ keysOf xs)
    (hstop : y.marker = .stop key) : Regular (xs ++ [x] ++ [y]) := by
  obtain ⟨hnodup, hmarkers⟩ := regular_iff.1 h
  refine ⟨keysOf xs ++ [key], List.nodup_append.2 ⟨hnodup, by simp, ?_⟩, ?_⟩
  · rintro key' hkey' _ hm rfl
    exact hnew (List.mem_singleton.1 hm ▸ hkey')
  · rw [paired_concat, ← hmarkers]
    simp [hstop, (start?_eq_some.1 hstart).1]

theorem continues (h : Regular xs) : Continues xs := ⟨[], by rwa [List.append_nil]⟩

theorem continues_start (h : Regular xs) (hstart : start? x = some (key, n))
    (hnew : key ∉ keysOf xs) : Continues (xs ++ [x]) :=
  ⟨[⟨0, [], .stop key⟩], h.region hstart hnew rfl⟩

/-- What follows regular markers is a start with a new key, and then its end. -/
theorem of_continues (h : Regular xs) (hc : Continues (xs ++ x :: more)) :
    ∃ key, x.marker = .start key ∧ key ∉ keysOf xs ∧ ∀ y ∈ more.head?, y.marker = .stop key := by
  obtain ⟨tail, all, hnodup, hall⟩ := hc
  have hsplit : paired all = paired (keysOf xs) ++ (x :: (more ++ tail)).map (·.marker) := by
    rw [← hall, ← (regular_iff.1 h).2]
    simp
  obtain ⟨keys, rfl, hrest⟩ := exists_of_paired_eq_append hsplit
  obtain ⟨key, keys, rfl, hstart, hmore⟩ := paired_eq_cons hrest
  refine ⟨key, hstart, fun hm => (List.nodup_append.1 hnodup).2.2 _ hm _ (.head _) rfl, ?_⟩
  intro y hy
  obtain ⟨rest, rfl⟩ := List.head?_eq_some_iff.1 (Option.mem_def.1 hy)
  exact (List.cons.inj hmore).1

theorem stop_of_continues (h : Regular xs) (hstart : start? x = some (key, n))
    (hc : Continues (xs ++ [x] ++ [y])) : y.marker = .stop key := by
  rw [List.append_assoc] at hc
  obtain ⟨key', hstart', -, hstop⟩ := h.of_continues hc
  rw [(start?_eq_some.1 hstart).1] at hstart'
  obtain rfl := Marker.start.inj hstart'
  exact hstop y rfl

end Regular

/-! ## Reading -/

/-- The markers that have been read, for the keys used so far and the region that is open. -/
inductive Read : List MarkerLine → List (String × Nat) → Option Opened → Prop
  | outside {front : List MarkerLine} (regular : Regular front) :
      Read front (front.filterMap start?).reverse none
  | inside {front : List MarkerLine} {x : MarkerLine} {o : Opened} (regular : Regular front)
      (start : start? x = some (o.key, o.line)) (new : o.key ∉ keysOf front) :
      Read (front ++ [x]) ((front ++ [x]).filterMap start?).reverse (some o)

theorem Read.continues {front : List MarkerLine} {seen : List (String × Nat)} {o : Option Opened}
    (h : Read front seen o) : Continues front := by
  cases h with
  | outside regular => exact regular.continues
  | inside regular start new => exact regular.continues_start start new

theorem Read.opened? {front : List MarkerLine} {seen : List (String × Nat)} {o : Option Opened}
    (h : Read front seen o) : opened? front = o.map fun o => (o.key, o.line) := by
  cases h with
  | outside regular => exact regular.opened?
  | inside regular start new => simp [Region.opened?, start]

theorem mem_of_lookup {seen : List (String × Nat)} {key : String} {n : Nat}
    (h : seen.lookup key = some n) : (key, n) ∈ seen := by
  obtain ⟨_, _, rfl, -⟩ := List.lookup_eq_some_iff.1 h
  simp

theorem notMem_of_lookup {seen : List (String × Nat)} {key : String}
    (h : seen.lookup key = none) : key ∉ seen.map (·.1) := by
  intro hm
  obtain ⟨entry, hentry, rfl⟩ := List.mem_map.1 hm
  simpa using List.lookup_eq_none_iff.1 h entry hentry

theorem Read.start {front : List MarkerLine} {seen : List (String × Nat)} {x : MarkerLine}
    {o : Opened} (h : Read front seen none) (hstart : start? x = some (o.key, o.line))
    (hnew : seen.lookup o.key = none) : Read (front ++ [x]) ((o.key, o.line) :: seen) (some o) := by
  cases h with
  | outside regular =>
    have hkey := notMem_of_lookup hnew
    rw [List.map_reverse, List.mem_reverse] at hkey
    have hseen : (o.key, o.line) :: (front.filterMap start?).reverse =
        ((front ++ [x]).filterMap start?).reverse := by
      simp [hstart]
    rw [hseen]
    exact .inside regular hstart hkey

theorem Read.stop {front : List MarkerLine} {seen : List (String × Nat)} {y : MarkerLine}
    {o : Opened} (h : Read front seen (some o)) (hstop : y.marker = .stop o.key) :
    Read (front ++ [y]) seen none := by
  cases h with
  | @inside front x _ regular start new =>
    have hseen : (front ++ [x]).filterMap start? = (front ++ [x] ++ [y]).filterMap start? := by
      have hnone : [y].filterMap start? = [] := by simp [start?, hstop]
      rw [List.filterMap_append (l := front ++ [x]), hnone, List.append_nil]
    rw [hseen]
    exact .outside (regular.region start new hstop)

/-- Why a text with some markers is refused. -/
inductive Refused (xs : List MarkerLine) : Fault → Prop
  | breaks {front back : List MarkerLine} {x : MarkerLine} {f : Fault} (split : xs = front ++ x :: back)
      (before : Continues front) (after : ¬ Continues (front ++ [x])) (kind : Breaks front x f) :
      Refused xs f
  | unclosed {key : String} {n : Nat} (continues : Continues xs) (inside : opened? xs = some (key, n)) :
      Refused xs (.unmatchedStart key n)

/-- The keys of the regions of some segments, with their lines. -/
def regionsOf (segments : List Segment) : List (String × Nat) :=
  (segments.filterMap Segment.region?).map fun r => (r.key, r.line)

/-- What reading comes to, for the markers of all lines and the regions that are still to come. -/
def Verdict (xs : List MarkerLine) (regions : List (String × Nat)) :
    Except Fault (List Segment) → Prop
  | .ok segments => Regular xs ∧ regionsOf segments = regions
  | .error f => Refused xs f

/-- The region that is open is still to come. -/
def pending (o : Option Opened) : List (String × Nat) := (o.map fun o => (o.key, o.line)).toList

theorem regionsOf_consLiteral (t : Text) (segments : List Segment) :
    regionsOf (Segment.consLiteral t segments) = regionsOf segments := by
  unfold Segment.consLiteral
  split <;> rfl

/-- Segments that are put in front have the regions that come first. -/
theorem Verdict.bind {xs : List MarkerLine} {first regions : List (String × Nat)}
    {r : Except Fault (List Segment)} {f : List Segment → List Segment}
    (hf : ∀ segments, regionsOf (f segments) = first ++ regionsOf segments)
    (h : Verdict xs regions r) :
    Verdict xs (first ++ regions) (do let segments ← r; return f segments) := by
  cases r with
  | error e => exact h
  | ok segments => exact ⟨h.1, by rw [hf, h.2]⟩

theorem verdict_parseFrom {n : Nat} {seen : List (String × Nat)} {literal : Text}
    {o : Option Opened} {ls : List Text} {front : List MarkerLine} (h : Read front seen o) :
    Verdict (front ++ markersFrom n ls) (pending o ++ (markersFrom n ls).filterMap start?)
      (parseFrom n seen literal o ls) := by
  fun_induction parseFrom n seen literal o ls generalizing front with
  | case1 n seen literal o =>
    refine Refused.unclosed ?_ ?_
    · simpa [markersFrom] using h.continues
    · simpa [markersFrom] using h.opened?
  | case2 n seen literal =>
    cases h with
    | outside regular =>
      refine ⟨by simpa [markersFrom] using regular, ?_⟩
      rw [regionsOf_consLiteral]
      rfl
  | case3 n seen literal line rest hmarker ih =>
    rw [markersFrom_cons_none hmarker]
    exact ih h
  | case4 n seen literal line rest o hmarker ih =>
    rw [markersFrom_cons_none hmarker]
    cases h with
    | inside regular start new => exact ih (.inside regular start new)
  | case5 n seen literal o line rest hmarker =>
    rw [markersFrom_cons_some hmarker]
    refine Refused.breaks rfl h.continues ?_ (.malformed rfl)
    intro hc
    cases h with
    | outside regular =>
      obtain ⟨key, hkey, -⟩ := regular.of_continues hc
      cases hkey
    | inside regular start new => cases regular.stop_of_continues start hc
  | case6 n seen literal line rest key o hmarker =>
    rw [markersFrom_cons_some hmarker]
    refine Refused.breaks rfl h.continues ?_ (.nested rfl h.opened?)
    intro hc
    cases h with
    | inside regular start new => cases regular.stop_of_continues start hc
  | case7 n seen literal line rest key hmarker first hseen =>
    rw [markersFrom_cons_some hmarker]
    have hdefined := mem_of_lookup hseen
    cases h with
    | outside regular =>
      rw [List.mem_reverse] at hdefined
      refine Refused.breaks rfl regular.continues ?_ (.duplicate rfl regular.opened? hdefined)
      intro hc
      obtain ⟨key', hkey, hnew, -⟩ := regular.of_continues hc
      obtain rfl := Marker.start.inj hkey
      exact hnew (List.mem_map_of_mem hdefined)
  | case8 n seen literal line rest key hmarker hnew ih =>
    rw [markersFrom_cons_some hmarker]
    have hrest := ih (h.start (x := ⟨n, line, .start key⟩) (o := ⟨key, n, line, []⟩) rfl hnew)
    rw [List.append_assoc] at hrest
    show Verdict _ ([] ++ _) _
    exact hrest.bind (regionsOf_consLiteral literal)
  | case9 n seen literal line rest key hmarker =>
    rw [markersFrom_cons_some hmarker]
    refine Refused.breaks rfl h.continues ?_ (.unmatchedEnd rfl h.opened?)
    intro hc
    cases h with
    | outside regular =>
      obtain ⟨key', hkey, -⟩ := regular.of_continues hc
      cases hkey
  | case10 n seen literal line rest o hmarker ih =>
    rw [markersFrom_cons_some hmarker]
    have hrest := ih (h.stop (y := ⟨n, line, .stop o.key⟩) rfl)
    rw [List.append_assoc] at hrest
    show Verdict _ ([(o.key, o.line)] ++ _) _
    exact hrest.bind fun _ => rfl
  | case11 n seen literal line rest key o hmarker hne =>
    rw [markersFrom_cons_some hmarker]
    refine Refused.breaks rfl h.continues ?_ (.mismatchedEnd rfl h.opened? hne)
    intro hc
    cases h with
    | inside regular start new =>
      have hstop := regular.stop_of_continues start hc
      exact hne (Marker.stop.inj hstop).symm

/-! ## Literal text -/

/-- No literal text is empty or next to another one. -/
structure Parted (segments : List Segment) : Prop where
  ne_nil : ∀ t, .literal t ∈ segments → t ≠ []
  apart : segments.IsChain fun a b => a.region?.isSome ∨ b.region?.isSome

theorem Parted.nil : Parted [] := ⟨by simp, .nil⟩

theorem Parted.region {segments : List Segment} (h : Parted segments) (r : Region) :
    Parted (.region r :: segments) where
  ne_nil t ht := h.ne_nil t (by simpa using ht)
  apart := h.apart.cons fun _ _ => .inl rfl

theorem Parted.consLiteral {segments : List Segment} (h : Parted segments)
    (hhead : ∀ s ∈ segments.head?, s.region?.isSome) (t : Text) :
    Parted (Segment.consLiteral t segments) := by
  unfold Segment.consLiteral
  split
  · exact h
  · rename_i hne
    refine ⟨fun u hu => ?_, h.apart.cons fun s hs => .inr (hhead s hs)⟩
    rcases List.mem_cons.1 hu with hu | hu
    · rwa [Segment.literal.inj hu]
    · exact h.ne_nil u hu

/-- While a region is open, it is the next segment. -/
theorem parted_of_parseFrom {n : Nat} {seen : List (String × Nat)} {literal : Text}
    {o : Option Opened} {ls : List Text} {segments : List Segment}
    (h : parseFrom n seen literal o ls = .ok segments) :
    Parted segments ∧ (o.isSome → ∀ s ∈ segments.head?, s.region?.isSome) := by
  fun_induction parseFrom n seen literal o ls generalizing segments with
  | case1 => cases h
  | case2 =>
    obtain rfl := Except.ok.inj h
    exact ⟨Parted.nil.consLiteral (by simp) _, by simp⟩
  | case3 _ _ _ _ _ _ ih => exact ⟨(ih h).1, by simp⟩
  | case4 _ _ _ _ _ _ _ ih => exact ⟨(ih h).1, fun _ => (ih h).2 rfl⟩
  | case5 => cases h
  | case6 => cases h
  | case7 => cases h
  | case8 _ _ literal _ _ _ _ _ ih =>
    obtain ⟨tail, htail, h⟩ := bind_eq_ok.1 h
    obtain rfl := pure_eq_ok.1 h
    obtain ⟨hparted, hhead⟩ := ih htail
    exact ⟨hparted.consLiteral (hhead rfl) literal, by simp⟩
  | case9 => cases h
  | case10 _ _ _ _ _ _ _ ih =>
    obtain ⟨tail, htail, h⟩ := bind_eq_ok.1 h
    obtain rfl := pure_eq_ok.1 h
    exact ⟨(ih htail).1.region _, fun _ => by simp [Segment.region?]⟩
  | case11 => cases h

/-! ## Which texts are read -/

theorem verdict_parse (t : Text) :
    Verdict (markers t) ((markers t).filterMap start?) (parse t) :=
  verdict_parseFrom (.outside .nil)

/-- Markers that are refused are not regular. -/
theorem Refused.not_regular {xs : List MarkerLine} {f : Fault} (h : Refused xs f) :
    ¬ Regular xs := by
  intro hregular
  cases h with
  | @breaks front back x f split before after kind =>
    refine after ⟨back, ?_⟩
    rwa [List.append_assoc, List.singleton_append, ← split]
  | unclosed continues inside =>
    rw [hregular.opened?] at inside
    cases inside

/-- **A text is read exactly if its markers are regular**: they open and close regions one after
another, each with a key of its own, and none is malformed. Then there is a region for each start
marker, in order, with its key and its line, and no literal text is empty or next to another one.
Otherwise the error is what is wrong with the first marker that cannot be continued to regular ones,
with its line, or, if they all can, the line of the region that is still open at the end. -/
theorem parse_accepts_regular (t : Text) :
    ((∃ segments, parse t = .ok segments) ↔ Regular (markers t)) ∧
    (∀ segments, parse t = .ok segments →
      regionsOf segments = (markers t).filterMap start? ∧
      (∀ u, .literal u ∈ segments → u ≠ []) ∧
      segments.IsChain fun a b => a.region?.isSome ∨ b.region?.isSome) ∧
    ∀ f, parse t = .error f →
      (∃ front x back, markers t = front ++ x :: back ∧ Continues front ∧
        ¬ Continues (front ++ [x]) ∧ Breaks front x f) ∨
      ∃ key n, Continues (markers t) ∧ opened? (markers t) = some (key, n) ∧
        f = .unmatchedStart key n := by
  have hverdict := verdict_parse t
  cases hresult : parse t with
  | ok segments =>
    rw [hresult] at hverdict
    obtain ⟨hregular, hregions⟩ := hverdict
    obtain ⟨hparted, -⟩ := parted_of_parseFrom hresult
    refine ⟨iff_of_true ⟨segments, rfl⟩ hregular, ?_, by simp⟩
    rintro _ ⟨⟩
    exact ⟨hregions, hparted.ne_nil, hparted.apart⟩
  | error f =>
    rw [hresult] at hverdict
    refine ⟨iff_of_false (by simp) hverdict.not_regular, by simp, ?_⟩
    rintro _ ⟨⟩
    cases hverdict with
    | breaks split before after kind => exact .inl ⟨_, _, _, split, before, after, kind⟩
    | unclosed continues inside => exact .inr ⟨_, _, continues, inside, rfl⟩

end Region

end Multidialect
