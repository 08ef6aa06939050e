import Multidialect.Proofs.Template.Markers
import Multidialect.Proofs.Template.Traced
import Multidialect.Proofs.Template.Vocabulary
import Mathlib.Data.List.Forall2
import Mathlib.Data.List.Infix

/-! # Regions keep their keys

Marker lines are left out when a text is put in the words of a dialect, so they stay as they are. No
other line becomes one: rewording puts no part of a marker in (`isMarker_of_reworded`), and it keeps
lines apart. So the markers are the same before and after, line by line, and with them what is read:
the same regions in the same lines, or the same fault (`Vocabulary.adaptOutsideMarkers_keeps_regions`).
-/

namespace Multidialect

open Text

/-! ## How markers start -/

namespace Text

/-- The words of markers, without the sign in front. -/
def markerWords : List Text := ["start".toList, "end".toList]

/-- What stands in front of a marker's word. -/
def markerFront (ws ws' : Text) : Text := ws ++ (['/', '/'] ++ (ws' ++ ['@']))

theorem isSome_ofComment? {comment : Text} : (Marker.ofComment? comment).isSome = true ↔
    ∃ word ∈ markerWords, ∃ rest, comment = '@' :: (word ++ rest) := by
  unfold Marker.ofComment?
  constructor
  · intro h
    split at h
    · rename_i rest hrest
      exact ⟨_, .head _, rest, stripStart?_eq_some.1 hrest⟩
    · split at h
      · rename_i rest hrest
        exact ⟨_, .tail _ (.head _), rest, stripStart?_eq_some.1 hrest⟩
      · cases h
  · rintro ⟨word, hword, rest, hcomment⟩
    split
    · rfl
    · rename_i hstart
      rcases List.mem_cons.1 hword with rfl | hword
      · have hfound : stripStart? "@start".toList comment = some rest :=
          stripStart?_eq_some.2 hcomment
        rw [hstart] at hfound
        cases hfound
      · obtain rfl := List.mem_singleton.1 hword
        have hfound : stripStart? "@end".toList comment = some rest :=
          stripStart?_eq_some.2 hcomment
        rw [hfound]
        rfl

/-- Trimming the end leaves what stands in front of it. -/
theorem exists_trimEnd_append {c : Char} (hc : isBlank c = false) (u rest : Text) :
    ∃ rest', trimEnd (u ++ c :: rest) = u ++ c :: rest' := by
  have hstop : (c :: u.reverse).dropWhile isBlank = c :: u.reverse := by simp [hc]
  rw [trimEnd, List.reverse_append, List.reverse_cons, List.append_assoc, List.singleton_append,
    List.dropWhile_append]
  split
  · exact ⟨[], by rw [hstop]; simp⟩
  · exact ⟨(rest.reverse.dropWhile isBlank).reverse, by simp⟩

/-- A marker's line starts as markers do. -/
theorem exists_of_isMarker {line : Text} (h : isMarker line = true) :
    ∃ ws ws' word rest, (∀ c ∈ ws, isBlank c = true) ∧ (∀ c ∈ ws', isBlank c = true) ∧
      word ∈ markerWords ∧ line = markerFront ws ws' ++ word ++ rest := by
  obtain ⟨m, hm⟩ := Option.isSome_iff_exists.1 h
  obtain ⟨comment, hcomment, hm⟩ := Option.bind_eq_some_iff.1 hm
  obtain ⟨said, hsaid, rfl⟩ := Option.map_eq_some_iff.1 hcomment
  obtain ⟨word, hword, rest, hrest⟩ := isSome_ofComment?.1 (by rw [hm]; rfl)
  obtain ⟨blanks, hblanks, -⟩ := exists_append_trimEnd (trimStart line)
  refine ⟨line.takeWhile isBlank, said.takeWhile isBlank, word, rest ++ blanks, all_takeWhile,
    all_takeWhile, hword, ?_⟩
  have hsplit : said = said.takeWhile isBlank ++ '@' :: (word ++ rest) := by
    rw [← hrest, takeWhile_append_trimStart]
  calc line = line.takeWhile isBlank ++ (trim line ++ blanks) := by
        rw [trim, ← hblanks, takeWhile_append_trimStart]
    _ = line.takeWhile isBlank ++ (['/', '/'] ++ said ++ blanks) := by
        rw [stripStart?_eq_some.1 hsaid]
    _ = line.takeWhile isBlank ++
          (['/', '/'] ++ (said.takeWhile isBlank ++ '@' :: (word ++ rest)) ++ blanks) := by
        rw [← hsplit]
    _ = _ := by simp [markerFront]

/-- A line that starts as markers do is a marker, well formed or not. -/
theorem isMarker_of_front {ws ws' word : Text} (hws : ∀ c ∈ ws, isBlank c = true)
    (hws' : ∀ c ∈ ws', isBlank c = true) (hword : word ∈ markerWords) (rest : Text) :
    isMarker (markerFront ws ws' ++ word ++ rest) = true := by
  have hslash : isBlank '/' = false := by decide
  have hsign : isBlank '@' = false := by decide
  obtain ⟨front, c, hc, rfl⟩ : ∃ front c, isBlank c = false ∧ word = front ++ [c] := by
    rcases List.mem_cons.1 hword with rfl | hword
    · exact ⟨"star".toList, 't', by decide, rfl⟩
    · obtain rfl := List.mem_singleton.1 hword
      exact ⟨"en".toList, 'd', by decide, rfl⟩
  have hstart : trimStart (markerFront ws ws' ++ (front ++ [c]) ++ rest) =
      (['/', '/'] ++ (ws' ++ '@' :: front)) ++ c :: rest := by
    have hrun := (takeWhile_of_run (v := (['/', '/'] ++ (ws' ++ '@' :: front)) ++ c :: rest) hws
      (by simp [hslash])).2
    rw [← hrun]
    simp [trimStart, markerFront]
  obtain ⟨rest', hrest'⟩ := exists_trimEnd_append hc (['/', '/'] ++ (ws' ++ '@' :: front)) rest
  have hcomment : comment? (markerFront ws ws' ++ (front ++ [c]) ++ rest) =
      some ('@' :: ((front ++ [c]) ++ rest')) := by
    refine Option.map_eq_some_iff.2 ⟨ws' ++ '@' :: ((front ++ [c]) ++ rest'), ?_, ?_⟩
    · rw [trim, hstart, hrest']
      exact stripStart?_eq_some.2 (by simp)
    · exact (takeWhile_of_run hws' (by simp [hsign])).2
  rw [isMarker, Marker.parse?, hcomment]
  exact isSome_ofComment?.2 ⟨_, hword, rest', rfl⟩

/-- What stands in front of a marker's word is no part of a word, and no bracket. -/
theorem not_isWordChar_of_mem_markerFront {ws ws' : Text} (hws : ∀ c ∈ ws, isBlank c = true)
    (hws' : ∀ c ∈ ws', isBlank c = true) {c : Char} (hc : c ∈ markerFront ws ws') :
    isWordChar c = false ∧ c ≠ '<' := by
  have hblank : ∀ c, isBlank c = true → isWordChar c = false ∧ c ≠ '<' := fun c hc =>
    ⟨Unicode.not_isWordChar_of_isBlank hc, ne_of_isBlank hc (by decide)⟩
  simp only [markerFront, List.mem_append, List.mem_cons, List.not_mem_nil, or_false] at hc
  rcases hc with hc | (rfl | rfl) | hc | rfl
  · exact hblank c (hws c hc)
  · decide
  · decide
  · exact hblank c (hws' c hc)
  · decide

/-- Rewording makes no line a marker, if no term that is put in starts within a marker's word. -/
theorem isMarker_of_reworded {rules : List (Text × Text)} {puts : Text → Prop}
    (hterms : ∀ rule ∈ rules, IsTerm rule.1 ∧ IsTerm rule.2) (hbracketed : ∀ b, puts b → Bracketed b)
    (havoids : ∀ rule ∈ rules, ∀ word ∈ markerWords, ∀ y, y <:+ word → y ≠ [] →
      ¬ (rule.2 <+: y ∨ y <+: rule.2)) {before line line' : Text}
    (h : Reworded rules puts before line line') (hm : isMarker line' = true) :
    isMarker line = true := by
  obtain ⟨ws, ws', word, rest, hws, hws', hword, rfl⟩ := exists_of_isMarker hm
  have hfront := fun c => not_isWordChar_of_mem_markerFront (c := c) hws hws'
  have hwords : ∀ word ∈ markerWords, '<' ∉ word := by decide
  have hopen : '<' ∉ markerFront ws ws' ++ word :=
    List.not_mem_append (fun hc => (hfront _ hc).2 rfl) (hwords word hword)
  obtain ⟨line, rfl, -⟩ := h.kept hbracketed (fun rule hr => (hterms rule hr).1) hopen
    fun x y hxy hy rule hr hpre => by
      rcases List.append_eq_append_iff.1 hxy with ⟨more, -, hmore⟩ | ⟨more, hmore, rfl⟩
      · exact absurd hpre (havoids rule hr word hword y ⟨more, hmore.symm⟩ hy)
      · cases more with
        | nil => exact absurd hpre (havoids rule hr word hword word (List.suffix_refl _) hy)
        | cons c more =>
          -- The term would start with a character that is no part of a word.
          have hhead : rule.2.head? = some c := by
            rcases hpre with hpre | hpre
            · exact head?_eq_of_isPrefix hpre (hterms rule hr).2.ne_nil
            · exact (head?_eq_of_isPrefix hpre hy).symm
          have hstarts := (hterms rule hr).2.starts
          rw [startsWord, hhead, Option.any_some, (hfront c (by simp [hmore])).1] at hstarts
          cases hstarts
  exact isMarker_of_front hws hws' hword line

/-- A marker stays as it is, and another line becomes none. -/
def SameMarker (line line' : Text) : Prop :=
  (isMarker line = true → line' = line) ∧ (isMarker line = false → isMarker line' = false)

theorem SameMarker.of_plain {line line' : Text} (h : isMarker line = false)
    (h' : isMarker line' = false) : SameMarker line line' :=
  ⟨fun hm => absurd hm (by simp [h]), fun _ => h'⟩

theorem SameMarker.of_marker {line : Text} (h : isMarker line = true) : SameMarker line line :=
  ⟨fun _ => rfl, fun hm => absurd hm (by simp [h])⟩

end Text

/-! ## Reading -/

namespace Region

variable {ls ls' : List Text}

theorem parse?_of_sameMarker {line line' : Text} (h : SameMarker line line') :
    Marker.parse? line' = none ∧ Marker.parse? line = none ∨
      line' = line ∧ ∃ m, Marker.parse? line = some m := by
  cases hm : Marker.parse? line with
  | none =>
    have hplain := h.2 (by simp [isMarker, hm])
    exact .inl ⟨by simpa [isMarker] using hplain, rfl⟩
  | some m => exact .inr ⟨h.1 (by simp [isMarker, hm]), m, rfl⟩

theorem markersFrom_congr (h : List.Forall₂ SameMarker ls ls') (n : Nat) :
    markersFrom n ls' = markersFrom n ls := by
  induction h generalizing n with
  | nil => rfl
  | cons hline _ ih =>
    rcases parse?_of_sameMarker hline with ⟨hnone', hnone⟩ | ⟨rfl, m, hm⟩
    · rw [markersFrom_cons_none hnone', markersFrom_cons_none hnone, ih]
    · rw [markersFrom_cons_some hm, markersFrom_cons_some hm, ih]

theorem map_regionsOf_bind {r r' : Except Fault (List Segment)} {f f' : List Segment → List Segment}
    (first : List (String × Nat)) (hf : ∀ segments, regionsOf (f segments) = first ++ regionsOf segments)
    (hf' : ∀ segments, regionsOf (f' segments) = first ++ regionsOf segments)
    (h : r'.map regionsOf = r.map regionsOf) :
    (do let segments ← r'; return f' segments : Except Fault (List Segment)).map regionsOf =
      (do let segments ← r; return f segments : Except Fault (List Segment)).map regionsOf := by
  cases r with
  | error e =>
    cases r' with
    | error e' => exact h
    | ok segments' => cases h
  | ok segments =>
    cases r' with
    | error e' => cases h
    | ok segments' =>
      have hregions : regionsOf segments' = regionsOf segments := Except.ok.inj h
      exact congrArg Except.ok (by rw [hf', hf, hregions])

theorem pending_inj {o o' : Option Opened} (h : pending o' = pending o) :
    (o = none ∧ o' = none) ∨
      ∃ p p', o = some p ∧ o' = some p' ∧ p'.key = p.key ∧ p'.line = p.line := by
  cases o <;> cases o' <;> simp_all [pending]

/-- What is read hangs on the markers alone, but for the text of regions and between them. -/
theorem map_regionsOf_parseFrom (h : List.Forall₂ SameMarker ls ls') {n : Nat}
    {seen : List (String × Nat)} {literal literal' : Text} {o o' : Option Opened}
    (ho : pending o' = pending o) :
    (parseFrom n seen literal' o' ls').map regionsOf =
      (parseFrom n seen literal o ls).map regionsOf := by
  induction h generalizing n seen literal literal' o o' with
  | nil =>
    rcases pending_inj ho with ⟨rfl, rfl⟩ | ⟨o, o', rfl, rfl, hkey, hn⟩
    · simp only [parseFrom, Except.map, regionsOf_consLiteral]
    · simp only [parseFrom, hkey, hn]
  | @cons line line' ls ls' hline _ ih =>
    rcases parse?_of_sameMarker hline with ⟨hnone', hnone⟩ | ⟨rfl, m, hm⟩
    · rcases pending_inj ho with ⟨rfl, rfl⟩ | ⟨o, o', rfl, rfl, -⟩
      · simp only [parseFrom, hnone, hnone']
        exact ih rfl
      · simp only [parseFrom, hnone, hnone']
        exact ih ho
    · rcases pending_inj ho with ⟨rfl, rfl⟩ | ⟨o, o', rfl, rfl, hkey, hn⟩
      · cases m with
        | malformed => simp only [parseFrom, hm]
        | stop key => simp only [parseFrom, hm]
        | start key =>
          simp only [parseFrom, hm]
          split
          · rfl
          · exact map_regionsOf_bind [] (regionsOf_consLiteral literal)
              (regionsOf_consLiteral literal') (ih rfl)
      · cases m with
        | malformed => simp only [parseFrom, hm]
        | start key => simp only [parseFrom, hm, hkey]
        | stop key =>
          simp only [parseFrom, hm, hkey, hn]
          split
          · exact map_regionsOf_bind [(o.key, o.line)] (fun _ => rfl) (fun _ => rfl) (ih rfl)
          · rfl

theorem keys_eq (t : Text) : keys t = ((parse t).map regionsOf).map (·.map (·.1)) := by
  unfold keys
  cases parse t with
  | error => rfl
  | ok segments => simp [Except.map, regionsOf]

/-- Only the keys of the regions are looked up. -/
theorem fill_congr {segments : List Segment} {lookup lookup' : String → Option Text}
    (h : ∀ key ∈ (regionsOf segments).map (·.1), lookup key = lookup' key) :
    fill lookup segments = fill lookup' segments := by
  refine List.flatMap_congr fun segment hm => ?_
  cases segment with
  | literal => rfl
  | region r =>
    have hkey : lookup r.key = lookup' r.key := by
      refine h _ (List.mem_map.2 ⟨(r.key, r.line), List.mem_map.2 ⟨r, ?_, rfl⟩, rfl⟩)
      exact List.mem_filterMap.2 ⟨_, hm, rfl⟩
    simp only [filled, hkey]

end Region

/-! ## Outside markers -/

namespace Vocabulary

/-- A line behind lines, none of which is a marker. -/
theorem plain_append {chunk line : Text} (hchunk : Closed chunk)
    (hlines : ∀ l ∈ physicalLines chunk, isMarker l = false) (hline : physicalLines line = [line])
    (hm : isMarker line = false) :
    physicalLines (chunk ++ line) = physicalLines chunk ++ [line] ∧
      ∀ l ∈ physicalLines (chunk ++ line), isMarker l = false := by
  have hsplit : physicalLines (chunk ++ line) = physicalLines chunk ++ [line] := by
    rw [physicalLines_append_of_closed hchunk, hline]
  rw [hsplit]
  exact ⟨rfl, List.forall_mem_append.2 ⟨hlines, List.forall_mem_singleton.2 hm⟩⟩

/-- What leaves plain lines plain leaves all markers where they are. -/
theorem forall₂_adaptLines {f : Text → Text}
    (hplain : ∀ u, (∀ line ∈ physicalLines u, isMarker line = false) →
      List.Forall₂ SameMarker (physicalLines u) (physicalLines (f u)))
    (hclosed : ∀ u, Closed u → Closed (f u)) {chunk : Text} (hchunk : Closed chunk)
    (hlines : ∀ line ∈ physicalLines chunk, isMarker line = false) (t : Text) :
    List.Forall₂ SameMarker (physicalLines chunk ++ physicalLines t)
      (physicalLines (adaptLines f chunk (physicalLines t))) := by
  have hnil : f [] = [] := by
    have hnone := List.forall₂_nil_left_iff.1 (hplain [] (by simp [physicalLines]))
    rw [← flatten_physicalLines (f []), hnone]
    rfl
  induction t using lines_induction generalizing chunk with
  | nil =>
    rw [physicalLines, List.append_nil]
    exact hplain chunk hlines
  | last a ha hne =>
    have hline := physicalLines_of_notMem ha hne
    rw [hline, adaptLines]
    split
    · rename_i hm
      rw [adaptLines, hnil, List.append_nil, physicalLines_append_of_closed (hclosed _ hchunk),
        hline]
      exact List.rel_append (hplain chunk hlines) (.cons (.of_marker hm) .nil)
    · rename_i hm
      obtain ⟨hsplit, hall⟩ := plain_append hchunk hlines hline (Bool.eq_false_iff.2 hm)
      rw [adaptLines, ← hsplit]
      exact hplain _ hall
  | line a t ha ih =>
    have hline : physicalLines (a ++ ['\n']) = [a ++ ['\n']] := physicalLines_append ha
    rw [physicalLines_append ha, adaptLines]
    split
    · rename_i hm
      have hrest := ih closed_nil (by simp [physicalLines])
      have hfeed : Closed (a ++ ['\n']) := closed_append_feed.2 closed_nil
      rw [List.append_assoc, physicalLines_append_of_closed (hclosed _ hchunk),
        physicalLines_append_of_closed hfeed, hline]
      exact List.rel_append (hplain chunk hlines) (.cons (.of_marker hm) hrest)
    · rename_i hm
      obtain ⟨hsplit, hall⟩ := plain_append hchunk hlines hline (Bool.eq_false_iff.2 hm)
      have hfeed : Closed (chunk ++ (a ++ ['\n'])) := by
        rw [← List.append_assoc]
        exact closed_append_feed.2 closed_nil
      have hrest := ih hfeed hall
      rwa [hsplit, List.append_assoc, List.singleton_append] at hrest

section Builtin

variable (r v : Dialect)

theorem isTerm_of_exchange : ∀ rule ∈ exchanges r.profile v.profile, IsTerm rule.1 ∧ IsTerm rule.2 :=
  fun _ h => ⟨isTerm_word (mem_words_of_exchange h).1, isTerm_word (mem_words_of_exchange h).2⟩

/-- No prefix starts within a marker's word. -/
theorem exchange_avoids_markers : ∀ rule ∈ exchanges r.profile v.profile, ∀ word ∈ markerWords,
    ∀ y, y <:+ word → y ≠ [] → ¬ (rule.2 <+: y ∨ y <+: rule.2) := by
  have havoids : ∀ new ∈ words v.profile, ∀ word ∈ markerWords, ∀ y ∈ word.tails, y ≠ [] →
      ¬ (new <+: y ∨ y <+: new) := by cases v <;> decide
  intro rule hrule word hword y hy
  exact havoids _ (mem_words_of_exchange hrule).2 word hword y ((List.mem_tails _ _).2 hy)

theorem notMem_feed_of_isArguments {b : Text} (h : IsArguments v.profile b) : '\n' ∉ b := by
  have hnone : ∀ params, v.profile.sessionParams = some params → '\n' ∉ Session.arguments params := by
    cases v <;> rintro _ ⟨⟩ <;> decide
  obtain ⟨params, hparams, hb⟩ := h
  exact fun hm => hnone params hparams (hb.mem hm)

theorem lines_adapt (sessions : List String) (t : Text) :
    List.Forall₂ (fun l l' => isMarker l' = true → isMarker l = true) (physicalLines t)
        (physicalLines (adapt sessions r.profile v.profile t)) ∧
      (Closed t → Closed (adapt sessions r.profile v.profile t)) := by
  have hterms := isTerm_of_exchange r v
  have hbracketed : ∀ b, IsArguments v.profile b → Bracketed b := fun _ => IsArguments.bracketed
  obtain ⟨hlines, hclosed⟩ := (reworded_adapt r v sessions t).lines hterms
    (fun _ => notMem_feed_of_isArguments v) hbracketed rfl
  refine ⟨hlines.imp fun l l' ⟨before, h⟩ => ?_, hclosed⟩
  exact isMarker_of_reworded hterms hbracketed (exchange_avoids_markers r v) h

end Builtin

/-- **Regions keep their keys** when a text is put in the words of a dialect. The text keeps its
number of lines; its markers, well formed or not, are in the same lines as before and spelled alike,
and there are no others. So reading it gives the same regions, with their keys and lines, or the same
fault; and overrides are looked up by no other keys than those of the template. -/
theorem adaptOutsideMarkers_keeps_regions (r v : Dialect) (sessions : List String) (t : Text) :
    let out := adaptOutsideMarkers sessions r.profile v.profile t
    (physicalLines out).length = (physicalLines t).length ∧
    Region.markers out = Region.markers t ∧
    (Region.parse out).map Region.regionsOf = (Region.parse t).map Region.regionsOf ∧
    Region.keys out = Region.keys t ∧
    ∀ segments keys, Region.parse out = .ok segments → Region.keys t = .ok keys →
      ∀ lookup lookup' : String → Option Text, (∀ key ∈ keys, lookup key = lookup' key) →
        Region.fill lookup segments = Region.fill lookup' segments := by
  intro out
  have hplain : ∀ u, (∀ line ∈ physicalLines u, isMarker line = false) →
      List.Forall₂ SameMarker (physicalLines u)
        (physicalLines (adapt sessions r.profile v.profile u)) := by
    intro u hu
    refine ((List.forall₂_and_left _ _).2 ⟨hu, (lines_adapt r v sessions u).1⟩).imp ?_
    rintro l l' ⟨hl, hmarker⟩
    refine .of_plain hl (Bool.eq_false_iff.2 fun hl' => ?_)
    rw [hmarker hl'] at hl
    cases hl
  have hsame : List.Forall₂ SameMarker (physicalLines t) (physicalLines out) :=
    forall₂_adaptLines hplain (fun u => (lines_adapt r v sessions u).2) closed_nil
      (by simp [physicalLines]) t
  have hparse : (Region.parse out).map Region.regionsOf = (Region.parse t).map Region.regionsOf :=
    Region.map_regionsOf_parseFrom hsame rfl
  have hkeys : Region.keys out = Region.keys t := by
    rw [Region.keys_eq, Region.keys_eq, hparse]
  refine ⟨hsame.length_eq.symm, Region.markersFrom_congr hsame 1, hparse, hkeys, ?_⟩
  intro segments keys hsegments hkeysOf lookup lookup' hlookup
  refine Region.fill_congr fun key hkey => hlookup key ?_
  rw [← hkeys, Region.keys_eq, hsegments] at hkeysOf
  obtain rfl : (Region.regionsOf segments).map (·.1) = keys := Except.ok.inj hkeysOf
  exact hkey

/-- A key that is spelled as a name of the reference. -/
theorem adaptOutsideMarkers_keeps_regions_select :
    let t : Text := "s: PgSession\n// @start PgSelect\n'pg-core'\n// @end PgSelect".toList
    let out := adaptOutsideMarkers ["PgSession"] Dialect.pg.profile Dialect.mysql.profile t
    let segments : List Segment := [.literal "s: MySqlSession<any, any>\n".toList,
      .region ⟨"PgSelect", 2, "// @start PgSelect\n".toList, "'mysql-core'\n".toList,
        "// @end PgSelect".toList⟩]
    let lookup : String → Option Text := fun _ => some "x".toList
    let lookup' : String → Option Text := fun key =>
      if key = "PgSelect" then some "x".toList else none
    Region.parse out = .ok segments ∧ Region.keys t = .ok ["PgSelect"] ∧
      (∀ key ∈ ["PgSelect"], lookup key = lookup' key) ∧
      Region.fill lookup segments = Region.fill lookup' segments := by
  intro t out segments lookup lookup'
  have hsegments : Region.parse out = .ok segments := ok_of_toOption (by decide +kernel)
  have hkeys : Region.keys t = .ok ["PgSelect"] := ok_of_toOption (by decide +kernel)
  have hlookup : ∀ key ∈ ["PgSelect"], lookup key = lookup' key := by decide
  have hsame := adaptOutsideMarkers_keeps_regions .pg .mysql ["PgSession"] t
  exact ⟨hsegments, hkeys, hlookup,
    hsame.2.2.2.2 segments ["PgSelect"] hsegments hkeys lookup lookup' hlookup⟩

end Vocabulary

end Multidialect
