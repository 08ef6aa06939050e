import Mathlib.Data.List.Infix
import Multidialect.Proofs.Outcome
import Multidialect.Proofs.Replacer.Closures
import Multidialect.Proofs.Text.Lookahead

/-! # Calls and the closures that decode them

The replacer of counts changes the closures that decode a count, and then every call for an array of
rows. If no closure stands in the way of a call, both can be read off the text as it was written: it is
cut into calls, closures and other characters, and each call and each closure is changed where it stands
(`CountDecoding.replace_eq`). So a call is changed whether or not a closure decodes its rows, and all
calls are in step with the closures exactly if each of them is followed by a closure that decodes it
(`CountDecoding.replace_in_step_iff`).
-/

namespace Multidialect.CountDecoding

open Text

/-! ## Calls and closures -/

/-- A call with the type of its rows, or a closure. -/
inductive Query where
  | call (row : Text)
  | closure (c : Closure)
  deriving DecidableEq, Repr

/-- A call or a closure. -/
def querySite : Matcher Query := fun before after =>
  ((executeSite before after).map fun (row, n) => (.call row, n)).or
    ((closureSite before after).map fun (c, n) => (.closure c, n))

namespace Query

/-- What takes the place of a call or a closure. -/
def edit (call : Text → Text → Text) (closure : Closure → Text → Text) : Query → Text → Text
  | .call row => call row
  | .closure c => closure c

/-- The type of the rows of a call. -/
def call? : Query → Option Text
  | .call row => some row
  | .closure _ => none

/-- The closure that is not a call. -/
def closure? : Query → Option Closure
  | .call _ => none
  | .closure c => some c

end Query

variable {before after : Text} {row : Text} {c : Closure} {n : Nat}

theorem querySite_eq_none :
    querySite before after = none ↔ executeSite before after = none ∧ closureSite before after = none := by
  simp [querySite]

theorem querySite_eq_call :
    querySite before after = some (.call row, n) ↔ executeSite before after = some (row, n) := by
  unfold querySite
  cases executeSite before after with
  | none => cases closureSite before after <;> simp
  | some found => simp [Prod.ext_iff]

theorem querySite_eq_closure :
    querySite before after = some (.closure c, n) ↔
      executeSite before after = none ∧ closureSite before after = some (c, n) := by
  unfold querySite
  cases executeSite before after with
  | none => cases closureSite before after <;> simp [Prod.ext_iff]
  | some found => simp

theorem forward_executeSite : Forward executeSite where
  ahead _ _ := rfl
  covers before after row n h := by
    obtain ⟨fields, rest, -, -, rfl, rfl⟩ := executeSite_eq_some.1 h
    rw [List.take_left]
    exact List.cons_ne_nil _ _
  within before after row n h := by
    obtain ⟨fields, rest, -, -, rfl, rfl⟩ := executeSite_eq_some.1 h
    simp

theorem forward_closureSite : Forward closureSite where
  ahead _ _ := rfl
  covers before after c n h := by
    obtain ⟨covered, rest, rfl, rfl, hreads, -⟩ := closureSite_eq_some h
    simpa using hreads.ne_nil
  within before after c n h := by
    obtain ⟨covered, rest, rfl, rfl, -⟩ := closureSite_eq_some h
    simp

theorem forward_querySite : Forward querySite where
  ahead _ _ := rfl
  covers before after q n h := by
    cases q with
    | call row => exact forward_executeSite.covers _ _ _ _ (querySite_eq_call.1 h)
    | closure c => exact forward_closureSite.covers _ _ _ _ (querySite_eq_closure.1 h).2
  within before after q n h := by
    cases q with
    | call row => exact forward_executeSite.within _ _ _ _ (querySite_eq_call.1 h)
    | closure c => exact forward_closureSite.within _ _ _ _ (querySite_eq_closure.1 h).2

/-- No closure stands in a call, or directly behind the type of rows. -/
def Apart (t : Text) : Prop :=
  ∀ u ∈ t.tails, ∀ rest ∈ typed? u, ∀ v ∈ u.tails, rest.length ≤ v.length → closureSite [] v = none

instance (t : Text) : Decidable (Apart t) := inferInstanceAs (Decidable (∀ u ∈ t.tails,
  ∀ rest ∈ typed? u, ∀ v ∈ u.tails, rest.length ≤ v.length → closureSite [] v = none))

namespace Apart

variable {t : Text}

theorem suffix {u : Text} (h : Apart t) (hu : u <:+ t) : Apart u := fun v hv =>
  h v ((List.mem_tails _ _).2 (((List.mem_tails _ _).1 hv).trans hu))

theorem append_right {u : Text} (h : Apart (u ++ t)) : Apart t := h.suffix (List.suffix_append u t)

/-- No closure starts in the front of a call, or directly behind it. -/
theorem closureSite_eq_none {fields rest : Text} (h : Apart (callFront ++ (fields ++ (callBack ++ rest))))
    (hfields : '\x7d' ∉ fields) {x y : Text} (hsplit : callFront ++ (fields ++ callBack) = x ++ y) :
    closureSite [] (y ++ rest) = none := by
  refine h _ ((List.mem_tails _ _).2 (List.suffix_refl _)) rest (typed?_eq_some.2 ⟨fields, hfields, rfl⟩) _
    ((List.mem_tails _ _).2 ⟨x, ?_⟩) (by simp)
  rw [← List.append_assoc, ← hsplit]
  simp only [List.append_assoc]

/-- No closure starts in a call. -/
theorem closureSite_call {fields rest : Text} (h : Apart (callText fields ++ rest))
    (hfields : '\x7d' ∉ fields) {x y : Text} (hsplit : callText fields = x ++ y) (hy : y ≠ []) :
    closureSite [] (y ++ rest) = none := by
  obtain ⟨y, c, rfl⟩ := (List.eq_nil_or_concat y).resolve_left hy
  rw [callText_append] at h
  have hconcat : (callFront ++ (fields ++ callBack)) ++ ['('] = (x ++ y) ++ [c] := by
    rw [List.concat_eq_append] at hsplit
    simpa [callText] using hsplit
  obtain ⟨hfront, rfl⟩ : callFront ++ (fields ++ callBack) = x ++ y ∧ c = '(' := by
    have hinj := List.append_inj' hconcat rfl
    exact ⟨hinj.1, (List.cons.inj hinj.2).1.symm⟩
  rw [List.concat_eq_append, List.append_assoc]
  exact h.closureSite_eq_none hfields hfront

end Apart

/-! ## The text in which the closures are decoded -/

variable {d : Dialect} {t w : Text}

/-- The text in which the closures are decoded and the calls are as they were. -/
def decodeClosures (d : Dialect) (t : Text) : Text :=
  replaceSites querySite (Query.edit (fun _ covered => covered) (decoded d)) t

theorem decodeClosures_plain {ch : Char} (h : querySite [] (ch :: t) = none) :
    decodeClosures d (ch :: t) = ch :: decodeClosures d t :=
  forward_querySite.replaceSites_plain _ h

theorem decodeClosures_call {covered rest : Text}
    (h : querySite [] (covered ++ rest) = some (.call row, covered.length)) :
    decodeClosures d (covered ++ rest) = covered ++ decodeClosures d rest :=
  forward_querySite.replaceSites_site _ h

theorem decodeClosures_closure {covered rest : Text}
    (h : querySite [] (covered ++ rest) = some (.closure c, covered.length)) :
    decodeClosures d (covered ++ rest) = decoded d c covered ++ decodeClosures d rest :=
  forward_querySite.replaceSites_site _ h

/-- What is found as a call is one. -/
theorem eq_callText {covered rest : Text}
    (h : querySite [] (covered ++ rest) = some (.call row, covered.length)) :
    ∃ fields, '\x7d' ∉ fields ∧ covered = callText fields := by
  obtain ⟨fields, more, hfields, -, hcovered, hlength⟩ := executeSite_eq_some.1 (querySite_eq_call.1 h)
  exact ⟨fields, hfields, List.append_inj_left hcovered hlength⟩

/-- What is found as a closure reads a field, and so does what takes its place. -/
theorem reads_of_closure {covered rest : Text}
    (h : querySite [] (covered ++ rest) = some (.closure c, covered.length)) :
    Reads covered ∧ Reads (decoded d c covered) := by
  obtain ⟨covered', rest', hcovered, hlength, hreads, hfield⟩ :=
    closureSite_eq_some (querySite_eq_closure.1 h).2
  obtain rfl := List.append_inj_left hcovered hlength
  exact ⟨hreads, hreads.decoded hfield d⟩

/-- What can be at the front of no closure and of no call is there already. -/
theorem exists_of_blocks {s : Text} (hs : ∀ y ∈ s.tails, y ≠ [] → blocks y = true)
    (h : decodeClosures d t = s ++ w) : ∃ t', t = s ++ t' ∧ decodeClosures d t' = w := by
  induction s generalizing t with
  | nil => exact ⟨t, rfl, h⟩
  | cons k s ih =>
    have hfront : blocks (k :: s) = true := hs _ (by simp) (by simp)
    have htail : ∀ y ∈ s.tails, y ≠ [] → blocks y = true := fun y hy => hs y (by simp [hy])
    induction t using forward_querySite.pieces_induction with
    | nil => cases h
    | plain ch t hnone =>
      rw [decodeClosures_plain hnone] at h
      obtain ⟨rfl, hrest⟩ := List.cons.inj h
      obtain ⟨t', rfl, ht'⟩ := ih htail hrest
      exact ⟨t', rfl, ht'⟩
    | site q covered rest hsome =>
      cases q with
      | call row =>
        obtain ⟨fields, -, rfl⟩ := eq_callText hsome
        rw [decodeClosures_call hsome] at h
        obtain ⟨rfl, -⟩ := List.cons.inj h
        cases hfront
      | closure c =>
        rw [decodeClosures_closure hsome] at h
        exact absurd h ((reads_of_closure hsome).2.opens.ne_append hfront _ _)

theorem blocks_callFront : ∀ y ∈ "execute<\x7b".toList.tails, y ≠ [] → blocks y = true := by decide

theorem blocks_callBack : ∀ y ∈ "[]>".toList.tails, y ≠ [] → blocks y = true := by decide

/-- The fields of a call, up to what follows the type of rows, are there already. -/
theorem exists_of_fields {fields : Text} (ha : Apart t) (hfields : '\x7d' ∉ fields)
    (h : decodeClosures d t = fields ++ (callBack ++ w)) :
    ∃ fields' t', '\x7d' ∉ fields' ∧ t = fields' ++ (callBack ++ t') ∧ decodeClosures d t' = w := by
  induction t using forward_querySite.pieces_induction generalizing fields with
  | nil => cases fields <;> cases h
  | plain ch t hnone ih =>
    rw [decodeClosures_plain hnone] at h
    cases fields with
    | nil =>
      rw [callBack_eq] at h
      obtain ⟨rfl, hrest⟩ := List.cons.inj h
      obtain ⟨t', rfl, ht'⟩ := exists_of_blocks blocks_callBack hrest
      exact ⟨[], t', by simp, rfl, ht'⟩
    | cons f fields =>
      obtain ⟨rfl, hrest⟩ := List.cons.inj h
      obtain ⟨hch, hfields⟩ := not_or.1 fun hm => hfields (List.mem_cons.2 hm)
      obtain ⟨fields', t', hfields', rfl, ht'⟩ := ih (ha.append_right (u := [ch])) hfields hrest
      exact ⟨ch :: fields', t', by simp [hch, hfields'], rfl, ht'⟩
  | site q covered rest hsome ih =>
    cases q with
    | call row =>
      -- The brace that ends the fields is that of a call within.
      obtain ⟨inner, hinner, rfl⟩ := eq_callText hsome
      rw [decodeClosures_call hsome, callText_append, ← List.append_assoc] at h
      have hno : '\x7d' ∉ callFront ++ inner := by
        rw [List.mem_append, not_or]
        exact ⟨by decide, hinner⟩
      obtain ⟨-, rfl⟩ := fields_unique hno hfields h
      have hclosure : closureSite [] ('(' :: rest) = none := by
        rw [callText_append] at ha
        exact ha.closureSite_eq_none hinner (x := callFront ++ (inner ++ callBack)) (y := []) (by simp)
      have hnone : querySite [] ('(' :: rest) = none := querySite_eq_none.2 ⟨rfl, hclosure⟩
      exact ⟨callFront ++ inner, '(' :: rest, hno, by rw [callText_append, List.append_assoc],
        decodeClosures_plain hnone⟩
    | closure c =>
      obtain ⟨hreads, hreads'⟩ := reads_of_closure (d := d) hsome
      rw [decodeClosures_closure hsome] at h
      obtain ⟨more, rfl, hrest⟩ := exists_of_noBrace hreads'.noBrace h
      obtain ⟨-, hmore⟩ := not_or.1 fun hm => hfields (List.mem_append.2 hm)
      obtain ⟨fields', t', hfields', rfl, ht'⟩ := ih ha.append_right hmore hrest
      exact ⟨covered ++ fields', t', by simp [hreads.noBrace, hfields'], by simp, ht'⟩

/-- **Decoding closures brings up no call.** -/
theorem executeSite_decodeClosures {ch : Char} (ha : Apart (ch :: t))
    (hnone : querySite [] (ch :: t) = none) : executeSite [] (ch :: decodeClosures d t) = none := by
  refine Option.eq_none_iff_forall_ne_some.2 fun ⟨row, n⟩ hcall => ?_
  obtain ⟨fields, more, hfields, -, hsplit, -⟩ := executeSite_eq_some.1 hcall
  rw [callText_append, callFront_eq] at hsplit
  obtain ⟨rfl, hfront⟩ := List.cons.inj hsplit
  obtain ⟨t₁, rfl, ht₁⟩ := exists_of_blocks blocks_callFront hfront
  have ha₁ : Apart t₁ := Apart.append_right (u := callFront) ha
  obtain ⟨fields', t₂, hfields', rfl, ht₂⟩ := exists_of_fields ha₁ hfields ht₁
  have hclosure : closureSite [] t₂ = none :=
    Apart.closureSite_eq_none (x := callFront ++ (fields' ++ callBack)) (y := []) ha hfields' (by simp)
  -- The bracket stands behind the type of rows already, so that there is a call.
  induction t₂ using forward_querySite.pieces_induction with
  | nil => cases ht₂
  | plain c t₂ hplain =>
    rw [decodeClosures_plain hplain] at ht₂
    obtain ⟨rfl, -⟩ := List.cons.inj ht₂
    have hthere : executeSite [] (callFront ++ (fields' ++ (callBack ++ '(' :: t₂))) = some _ :=
      executeSite_eq_some.2 ⟨fields', t₂, hfields', rfl, (callText_append fields' t₂).symm, rfl⟩
    exact Option.some_ne_none _ (hthere.symm.trans (querySite_eq_none.1 hnone).1)
  | site q covered rest hsome =>
    cases q with
    | call row =>
      obtain ⟨inner, -, rfl⟩ := eq_callText hsome
      rw [decodeClosures_call hsome] at ht₂
      cases (List.cons.inj ht₂).1
    | closure c => rw [(querySite_eq_closure.1 hsome).2] at hclosure; cases hclosure

/-! ## What the replacer does -/

/-- Whether a closure that decodes comes before the next call. -/
def isDecoded : List (Piece Query) → Bool
  | [] => false
  | .plain _ :: ps => isDecoded ps
  | .site (.call _) _ :: _ => false
  | .site (.closure c) _ :: ps => c.isDecoding || isDecoded ps

/-- Whether the rows of each call are decoded by a closure in front of the next call. -/
def allDecoded : List (Piece Query) → Bool
  | [] => true
  | .plain _ :: ps => allDecoded ps
  | .site (.call _) _ :: ps => isDecoded ps && allDecoded ps
  | .site (.closure _) _ :: ps => allDecoded ps

/-- The text with all closures changed, and those calls whose rows are decoded. -/
def inStep (d : Dialect) : List (Piece Query) → Text
  | [] => []
  | .plain ch :: ps => ch :: inStep d ps
  | .site (.call row) covered :: ps =>
    (if isDecoded ps then executed d row covered else covered) ++ inStep d ps
  | .site (.closure c) covered :: ps => decoded d c covered ++ inStep d ps

/-- The text with all closures and all calls changed. -/
def changed (d : Dialect) (ps : List (Piece Query)) : Text :=
  ps.flatMap (Piece.edit (Query.edit (executed d) (decoded d)))

/-- No call starts in a closure. -/
theorem executeSite_closure {covered rest : Text}
    (h : querySite [] (covered ++ rest) = some (.closure c, covered.length)) {x y : Text}
    (hsplit : covered = x ++ y) (hy : y ≠ []) : executeSite [] (y ++ rest) = none :=
  (reads_of_closure (d := .pg) h).1.executeSite_eq_none hsplit hy [] rest

/-- The calls among calls and closures are those that are looked for. -/
theorem sites_executeSite (t : Text) :
    sites executeSite t = (sites querySite t).filterMap Query.call? := by
  induction t using forward_querySite.pieces_induction with
  | nil => rw [forward_executeSite.sites_nil, forward_querySite.sites_nil]; rfl
  | plain ch t hnone ih =>
    rw [forward_executeSite.sites_plain (querySite_eq_none.1 hnone).1,
      forward_querySite.sites_plain hnone, ih]
  | site q covered rest hsome ih =>
    rw [forward_querySite.sites_site hsome]
    cases q with
    | call row => rw [forward_executeSite.sites_site (querySite_eq_call.1 hsome), ih]; rfl
    | closure c =>
      rw [forward_executeSite.sites_run fun _ _ => executeSite_closure hsome, ih]
      rfl

/-- The closures among calls and closures are those that are looked for. -/
theorem sites_closureSite (ha : Apart t) :
    sites closureSite t = (sites querySite t).filterMap Query.closure? := by
  induction t using forward_querySite.pieces_induction with
  | nil => rw [forward_closureSite.sites_nil, forward_querySite.sites_nil]; rfl
  | plain ch t hnone ih =>
    rw [forward_closureSite.sites_plain (querySite_eq_none.1 hnone).2,
      forward_querySite.sites_plain hnone, ih (Apart.append_right (u := [ch]) ha)]
  | site q covered rest hsome ih =>
    rw [forward_querySite.sites_site hsome]
    cases q with
    | call row =>
      obtain ⟨fields, hfields, rfl⟩ := eq_callText hsome
      rw [forward_closureSite.sites_run fun _ _ => ha.closureSite_call hfields, ih ha.append_right]
      rfl
    | closure c =>
      rw [forward_closureSite.sites_site (querySite_eq_closure.1 hsome).2, ih ha.append_right]
      rfl

theorem replaceSites_closureSite (ha : Apart t) :
    replaceSites closureSite (decoded d) t = decodeClosures d t := by
  induction t using forward_querySite.pieces_induction with
  | nil => rw [forward_closureSite.replaceSites_nil, decodeClosures, forward_querySite.replaceSites_nil]
  | plain ch t hnone ih =>
    rw [forward_closureSite.replaceSites_plain _ (querySite_eq_none.1 hnone).2,
      decodeClosures_plain hnone, ih (Apart.append_right (u := [ch]) ha)]
  | site q covered rest hsome ih =>
    cases q with
    | call row =>
      obtain ⟨fields, hfields, rfl⟩ := eq_callText hsome
      rw [forward_closureSite.replaceSites_run _ fun _ _ => ha.closureSite_call hfields,
        decodeClosures_call hsome, ih ha.append_right]
    | closure c =>
      rw [forward_closureSite.replaceSites_site _ (querySite_eq_closure.1 hsome).2,
        decodeClosures_closure hsome, ih ha.append_right]

theorem replaceSites_executeSite (ha : Apart t) :
    replaceSites executeSite (executed d) (decodeClosures d t) = changed d (pieces querySite t) := by
  induction t using forward_querySite.pieces_induction with
  | nil =>
    rw [decodeClosures, forward_querySite.replaceSites_nil, forward_executeSite.replaceSites_nil,
      forward_querySite.pieces_nil]
    rfl
  | plain ch t hnone ih =>
    rw [decodeClosures_plain hnone,
      forward_executeSite.replaceSites_plain _ (executeSite_decodeClosures ha hnone),
      ih (Apart.append_right (u := [ch]) ha), forward_querySite.pieces_plain hnone]
    rfl
  | site q covered rest hsome ih =>
    rw [forward_querySite.pieces_site hsome]
    cases q with
    | call row =>
      -- Whether there is a call does not depend on what follows it.
      have hcall : executeSite [] (covered ++ decodeClosures d rest) = some (row, covered.length) := by
        obtain ⟨fields, more, hfields, hrow, hcovered, hlength⟩ :=
          executeSite_eq_some.1 (querySite_eq_call.1 hsome)
        obtain rfl := List.append_inj_left hcovered hlength
        exact executeSite_eq_some.2 ⟨fields, _, hfields, hrow, rfl, rfl⟩
      rw [decodeClosures_call hsome, forward_executeSite.replaceSites_site _ hcall, ih ha.append_right]
      rfl
    | closure c =>
      rw [decodeClosures_closure hsome, forward_executeSite.replaceSites_run _ fun _ _ hsplit hy =>
        (reads_of_closure hsome).2.executeSite_eq_none hsplit hy [] _, ih ha.append_right]
      rfl

/-- **Each call and each closure is changed where it stands**, if they are apart. -/
theorem replace_eq {out : Text} (h : replace d t = .ok out) (ha : Apart t) :
    out = changed d (pieces querySite t) := by
  unfold replace at h
  split at h
  · rw [← Except.ok.inj h, replaceSites_closureSite ha, replaceSites_executeSite ha]
  · cases h

/-! ## Calls in step with closures -/

/-- A call as MySQL writes it is longer, and one as SQLite writes it is shorter. -/
def weight (d : Dialect) (t : Text) : Int := if d = .mysql then t.length else -t.length

theorem weight_append (d : Dialect) (u v : Text) : weight d (u ++ v) = weight d u + weight d v := by
  unfold weight
  split
  · simp
  · rw [List.length_append]
    omega

/-- The pieces that are calls are written as calls are. -/
def Calls (ps : List (Piece Query)) : Prop :=
  ∀ row covered, .site (.call row) covered ∈ ps →
    ∃ fields, row = '\x7b' :: fields ++ ['\x7d'] ∧ covered = callText fields

theorem calls_pieces (t : Text) : Calls (pieces querySite t) := by
  have hfinds : Finds querySite fun q covered => ∀ row, q = .call row →
      ∃ fields, row = '\x7b' :: fields ++ ['\x7d'] ∧ covered = callText fields := by
    rintro before after q n h row rfl
    obtain ⟨fields, rest, -, hrow, rfl, rfl⟩ := executeSite_eq_some.1 (querySite_eq_call.1 h)
    exact ⟨fields, hrow, List.take_left⟩
  exact fun row covered hm => mem_pieces hfinds hm row rfl

theorem length_callText (fields : Text) : (callText fields).length = fields.length + 15 := by
  have hfront : callFront.length = 10 := by decide
  have hback : callBack.length = 4 := by decide
  rw [callText, List.length_append, List.length_append, List.length_append, hfront, hback,
    List.length_singleton, Nat.add_comm 10]

theorem length_executed_mysql (row covered : Text) :
    (executed .mysql row covered).length = row.length + 24 := by
  have hcall : executed .mysql row covered =
      ".execute<[".toList ++ row ++ "[], unknown]>(".toList := rfl
  have hfront : ".execute<[".toList.length = 10 := by decide
  have hback : "[], unknown]>(".toList.length = 14 := by decide
  rw [hcall, List.length_append, List.length_append, hfront, hback, Nat.add_comm 10]

theorem length_executed_sqlite (row covered : Text) :
    (executed .sqlite row covered).length = row.length + 7 := by
  have hcall : executed .sqlite row covered = ".get<".toList ++ row ++ ">(".toList := rfl
  have hfront : ".get<".toList.length = 5 := by decide
  have hback : ">(".toList.length = 2 := by decide
  rw [hcall, List.length_append, List.length_append, hfront, hback, Nat.add_comm 5]

/-- The call as a variant writes it weighs more. -/
theorem weight_executed (hd : d ≠ .pg) (fields : Text) :
    weight d (callText fields) < weight d (executed d ('\x7b' :: fields ++ ['\x7d']) (callText fields)) := by
  have hrow : ('\x7b' :: fields ++ ['\x7d']).length = fields.length + 2 := by simp
  have hcall := length_callText fields
  cases d with
  | pg => exact absurd rfl hd
  | mysql =>
    have hmysql := length_executed_mysql ('\x7b' :: fields ++ ['\x7d']) (callText fields)
    simp only [weight, if_true]
    omega
  | sqlite =>
    have hsqlite := length_executed_sqlite ('\x7b' :: fields ++ ['\x7d']) (callText fields)
    simp only [weight, reduceCtorEq, if_false]
    omega

theorem weight_inStep_le (hd : d ≠ .pg) {ps : List (Piece Query)} (hps : Calls ps) :
    weight d (inStep d ps) ≤ weight d (changed d ps) := by
  induction ps with
  | nil => exact Int.le_refl _
  | cons p ps ih =>
    have hmore := ih fun row covered hm => hps row covered (.tail _ hm)
    rw [changed, List.flatMap_cons, weight_append, ← changed]
    cases p with
    | plain ch =>
      have hcons : inStep d (.plain ch :: ps) = [ch] ++ inStep d ps := rfl
      rw [hcons, weight_append]
      exact Int.add_le_add_left hmore _
    | site q covered =>
      cases q with
      | closure c =>
        rw [inStep, weight_append]
        exact Int.add_le_add_left hmore _
      | call row =>
        obtain ⟨fields, rfl, rfl⟩ := hps row covered (.head _)
        rw [inStep, weight_append]
        refine Int.add_le_add ?_ hmore
        split
        · exact Int.le_refl _
        · exact Int.le_of_lt (weight_executed hd fields)

/-- All calls are changed in step with closures exactly if the rows of each are decoded. -/
theorem changed_eq_inStep_iff (hd : d ≠ .pg) {ps : List (Piece Query)} (hps : Calls ps) :
    changed d ps = inStep d ps ↔ allDecoded ps = true := by
  induction ps with
  | nil => exact iff_of_true rfl rfl
  | cons p ps ih =>
    have hmore : Calls ps := fun row covered hm => hps row covered (.tail _ hm)
    rw [changed, List.flatMap_cons, ← changed]
    cases p with
    | plain ch => exact (List.append_right_inj [ch]).trans (ih hmore)
    | site q covered =>
      cases q with
      | closure c => exact (List.append_right_inj (decoded d c covered)).trans (ih hmore)
      | call row =>
        rw [inStep, allDecoded, Bool.and_eq_true, ← ih hmore]
        cases hdecoded : isDecoded ps with
        | true =>
          rw [if_pos rfl, and_iff_right rfl]
          exact List.append_right_inj (executed d row covered)
        | false =>
          -- The call is changed, and what follows weighs no less than it should.
          refine iff_of_false (fun hsame => ?_) (by simp)
          obtain ⟨fields, rfl, rfl⟩ := hps row covered (.head _)
          have hweights := congrArg (weight d) hsame
          rw [if_neg Bool.false_ne_true, weight_append, weight_append] at hweights
          have hlt := weight_executed hd fields
          have hle := weight_inStep_le hd hmore
          simp only [Piece.edit, Query.edit] at hweights
          omega

/-- **When calls are in step with closures.** Let a text be changed for a variant, with no closure in a
call or directly behind the type of its rows. It is cut into calls, closures and other characters; the
calls and the closures are those that are looked for. Each of them is changed where it stands. So
exactly the calls whose rows are decoded are changed if and only if the rows of all calls are decoded by
a closure in front of the next call. -/
theorem replace_in_step_iff (hd : d ≠ .pg) {out : Text} (h : replace d t = .ok out) (ha : Apart t) :
    sites executeSite t = (sites querySite t).filterMap Query.call? ∧
    sites closureSite t = (sites querySite t).filterMap Query.closure? ∧
    out = changed d (pieces querySite t) ∧
    (out = inStep d (pieces querySite t) ↔ allDecoded (pieces querySite t) = true) := by
  have hout := replace_eq h ha
  refine ⟨sites_executeSite t, sites_closureSite ha, hout, ?_⟩
  rw [hout, changed_eq_inStep_iff hd (calls_pieces t)]

/-- A call whose rows are decoded. -/
theorem replace_in_step_count :
    let t := "s.execute<\x7b count: number \x7d[]>(q)\n .then(results => Number(results[0].count))\n".toList
    let out := "s.get<\x7b count: number \x7d>(q)\n .then(row => Number(row.count))\n".toList
    Dialect.sqlite ≠ .pg ∧ replace .sqlite t = .ok out ∧ Apart t ∧
      sites executeSite t = ["\x7b count: number \x7d".toList] ∧
      out = inStep .sqlite (pieces querySite t) := by
  intro t out
  have hreplace : replace .sqlite t = .ok out := ok_of_toOption (by decide +kernel)
  have hapart : Apart t := by decide +kernel
  obtain ⟨hcalls, -, -, hstep⟩ := replace_in_step_iff (by decide) hreplace hapart
  exact ⟨by decide, hreplace, hapart, hcalls.trans (by decide +kernel), hstep.2 (by decide +kernel)⟩

/-- **A call may be changed whose rows nothing decodes**: it reads an array of rows, and is made to read
one row. -/
theorem replace_changes_undecoded :
    let t := ("a.execute<\x7b id: number \x7d[]>(q)\n" ++
      "b.execute<\x7b count: number \x7d[]>(q).then(results => Number(results[0].count))\n").toList
    Apart t ∧
      replace .sqlite t = .ok ("a.get<\x7b id: number \x7d>(q)\n" ++
        "b.get<\x7b count: number \x7d>(q).then(row => Number(row.count))\n").toList ∧
      inStep .sqlite (pieces querySite t) = ("a.execute<\x7b id: number \x7d[]>(q)\n" ++
        "b.get<\x7b count: number \x7d>(q).then(row => Number(row.count))\n").toList := by
  exact ⟨by decide +kernel, ok_of_toOption (by decide +kernel), by decide +kernel⟩

end Multidialect.CountDecoding
