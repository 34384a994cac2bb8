import Mathlib.Data.List.TakeDrop
import Mathlib.Data.List.TakeWhile
import Recommend.Http.Url
import Recommend.Proofs.Text.Bytes

/-!
A path behind the name of a server is kept by the normal form of the URL.

Reading a URL drops, replaces and resolves parts of it, but none of what it looks for
stands in the segments of a path such as `/context/7`: they are not cut, not resolved
and only escaped (`target_of_parse?`).
-/

namespace Recommend.Http.Url

/-- A character that neither ends a part of a URL nor is dropped from it. -/
def IsPlain (c : Char) : Prop := 32 < c.toNat ∧ c ≠ '/' ∧ c ≠ '\\' ∧ c ≠ '?' ∧ c ≠ '#'

instance (c : Char) : Decidable (IsPlain c) := inferInstanceAs (Decidable (_ ∧ _))

theorem isPlain_of_all {cs : List Char} (h : cs.all (fun c => decide (IsPlain c)) = true) :
    ∀ c ∈ cs, IsPlain c :=
  fun c hc => of_decide_eq_true (List.all_eq_true.1 h c hc)

/-- A segment of a path that only stands for itself. -/
structure IsSegment (s : List Char) : Prop where
  plain : ∀ c ∈ s, IsPlain c
  percent_notMem : '%' ∉ s
  ne_point : s ≠ ['.']
  ne_points : s ≠ ['.', '.']

theorem large_of_isAlphanum {c : Char} (h : c.isAlphanum = true) : 32 < c.toNat := by
  unfold Char.isAlphanum Char.isAlpha Char.isUpper Char.isLower Char.isDigit at h
  simp only [Bool.or_eq_true, Bool.and_eq_true, decide_eq_true_eq] at h
  rcases h with (⟨hlow, -⟩ | ⟨hlow, -⟩) | ⟨hlow, -⟩
  all_goals exact Nat.lt_of_lt_of_le (by decide) hlow

theorem isSegment_of_forall {s : List Char} (h : ∀ c ∈ s, IsPlain c ∧ c ≠ '%' ∧ c ≠ '.') :
    IsSegment s where
  plain c hc := (h c hc).1
  percent_notMem hc := (h '%' hc).2.1 rfl
  ne_point heq := (h '.' (heq ▸ List.mem_cons_self)).2.2 rfl
  ne_points heq := (h '.' (heq ▸ List.mem_cons_self)).2.2 rfl

theorem IsSegment.slash_notMem {s : List Char} (h : IsSegment s) : '/' ∉ s :=
  fun hc => (h.plain '/' hc).2.1 rfl

/-! ### Cutting -/

/-- Nothing is cleaned away where there is neither white space nor a control character. -/
theorem clean_eq_self {cs : List Char} (h : ∀ c ∈ cs, 32 < c.toNat) : clean cs = cs := by
  have hedge : ∀ {l : List Char}, (∀ c ∈ l, 32 < c.toNat) →
      l.dropWhile (fun c => decide (c.toNat ≤ 32)) = l := by
    intro l hl
    cases l with
    | nil => rfl
    | cons c l =>
      have hc : 32 < c.toNat := hl c List.mem_cons_self
      rw [List.dropWhile_cons_of_neg]
      simpa using hc
  have hreverse : ∀ c ∈ cs.reverse, 32 < c.toNat := fun c hc => h c (List.mem_reverse.1 hc)
  -- nothing goes at either end, and no tab or line end within
  rw [clean, hedge h, hedge hreverse, List.reverse_reverse, List.filter_eq_self]
  intro c hc
  have hlarge : 32 < c.toNat := h c hc
  have hne : ∀ d : Char, d.toNat ≤ 32 → c ≠ d := by
    rintro d hd rfl
    omega
  simp [hne '\t' (by decide), hne '\n' (by decide), hne '\r' (by decide)]

theorem forall_ne_of_notMem {mark : Char} {cs : List Char} (h : mark ∉ cs) :
    ∀ c ∈ cs, decide (c ≠ mark) = true := by
  intro c hc
  rw [decide_eq_true_iff]
  rintro rfl
  exact h hc

theorem cut_append {mark : Char} {before : List Char} (h : mark ∉ before)
    (after : List Char) : cut mark (before ++ mark :: after) = (before, some after) := by
  have hbefore := forall_ne_of_notMem h
  rw [cut, List.span_eq_takeWhile_dropWhile, List.takeWhile_append_of_pos hbefore,
    List.dropWhile_append_of_pos hbefore]
  simp

theorem cut_of_notMem {mark : Char} {cs : List Char} (h : mark ∉ cs) :
    cut mark cs = (cs, none) := by
  have hcs := forall_ne_of_notMem h
  rw [cut, List.span_eq_takeWhile_dropWhile, List.takeWhile_eq_self_iff.2 hcs,
    List.dropWhile_eq_nil_iff.2 hcs]

/-! ### Segments -/

theorem toLower_eq_percent {c : Char} (h : c.toLower = '%') : c = '%' := by
  unfold Char.toLower at h
  split at h
  next hupper =>
    have hlow : 65 ≤ c.val.toNat := hupper.1
    have hhigh : c.val.toNat ≤ 90 := hupper.2
    have hval : (c.val + 32).toNat = 37 := congrArg Char.toNat h
    rw [UInt32.toNat_add] at hval
    have hsmall : (c.val.toNat + 32) % 2 ^ 32 = 37 := hval
    omega
  next => exact h

/-- Without escapes no point is hidden. -/
theorem points_eq_self {s : List Char} (h : '%' ∉ s) : points s = s := by
  have hlower : '%' ∉ s.map Char.toLower := by
    intro hmem
    obtain ⟨c, hc, hpercent⟩ := List.mem_map.1 hmem
    exact h (toLower_eq_percent hpercent ▸ hc)
  rw [points]
  -- the four other patterns are ways to escape points
  split
  case h_5 => rfl
  all_goals next heq =>
    rw [heq] at hlower
    exact absurd (by decide) hlower

/-- Segments that stand for themselves are kept. -/
theorem resolve_segments {segments : List (List Char)} (h : ∀ s ∈ segments, IsSegment s)
    (done : List (List Char)) : resolve done segments = done ++ segments := by
  induction segments generalizing done with
  | nil => simp [resolve]
  | cons s segments ih =>
    have hs : IsSegment s := h s List.mem_cons_self
    have hpoints := points_eq_self hs.percent_notMem
    -- the last segment is treated on its own: points there leave an empty one behind
    cases segments with
    | nil =>
      rw [resolve, hpoints]
      split
      next => exact absurd rfl hs.ne_point
      next => exact absurd rfl hs.ne_points
      next => rfl
    | cons s' segments =>
      rw [resolve, hpoints]
      · split
        next => exact absurd rfl hs.ne_point
        next => exact absurd rfl hs.ne_points
        next =>
          rw [ih fun t ht => h t (List.mem_cons_of_mem s ht), List.append_assoc]
          rfl
      · simp

theorem normalPath_segments {segments : List (List Char)} (h : ∀ s ∈ segments, IsSegment s)
    (hne : segments ≠ []) :
    normalPath (segments.flatMap ('/' :: ·)) =
      segments.flatMap fun s => '/' :: Percent.encode isPathReserved s := by
  -- no segment has a slash of either kind
  have hfree : ∀ s ∈ segments, ∀ c ∈ s, (c == '/' || c == '\\') = false := by
    intro s hs c hc
    obtain ⟨-, hslash, hback, -, -⟩ := (h s hs).plain c hc
    simp [hslash, hback]
  have hcut : Text.splitBy (fun c => c == '/' || c == '\\') (segments.flatMap ('/' :: ·)) =
      [] :: segments := Text.splitBy_flatMap rfl hfree
  rw [normalPath, hcut, List.tail_cons, List.isEmpty_eq_false_iff.2 hne,
    resolve_segments h []]
  rfl

/-! ### The whole -/

/-- How a URL starts. -/
def schemeText (secure : Bool) : List Char :=
  if secure then "https".toList else "http".toList

theorem scheme?_append (secure : Bool) (rest : List Char) :
    scheme? (schemeText secure ++ ':' :: rest) = some (secure, rest) := by
  cases secure with
  | true =>
    rw [scheme?, cut_append (by decide)]
    rfl
  | false =>
    rw [scheme?, cut_append (by decide)]
    rfl

/-- The slashes before a server go. -/
theorem dropWhile_slashes {server path : List Char} (hserver : ∀ c ∈ server, IsPlain c)
    (hne : server ≠ []) :
    ('/' :: '/' :: (server ++ path)).dropWhile (fun c => c == '/' || c == '\\') =
      server ++ path := by
  obtain ⟨c, cs, rfl⟩ := List.exists_cons_of_ne_nil hne
  obtain ⟨-, hc, hback, -, -⟩ := hserver c List.mem_cons_self
  simp [hc, hback]

/-- The first slash behind a server starts the path. -/
theorem dropWhile_server {server path : List Char} (hserver : ∀ c ∈ server, IsPlain c)
    (hslash : path.head? = some '/') :
    (server ++ path).dropWhile (fun c => !(c == '/' || c == '\\')) = path := by
  obtain ⟨rest, rfl⟩ := List.head?_eq_some_iff.1 hslash
  rw [List.dropWhile_append_of_pos, List.dropWhile_cons_of_neg (by simp)]
  intro c hc
  obtain ⟨-, hc, hback, -, -⟩ := hserver c hc
  simp [hc, hback]

/-- Behind the plain name of a server all that follows is the path. -/
theorem path_of_parse? {secure : Bool} {server : List Char}
    (hserver : ∀ c ∈ server, IsPlain c) (hne : server ≠ []) {path : List Char}
    (hpath : ∀ c ∈ path, c = '/' ∨ IsPlain c) (hslash : path.head? = some '/') {s : String}
    (hs : s.toList = schemeText secure ++ ':' :: '/' :: '/' :: (server ++ path)) {u : Url}
    (hparse : parse? s = some u) : u.path = normalPath path ∧ u.query = none := by
  have hrest : ∀ c ∈ '/' :: '/' :: (server ++ path), c = '/' ∨ IsPlain c := by
    intro c hc
    simp only [List.mem_cons, List.mem_append] at hc
    rcases hc with rfl | rfl | hc | hc
    · exact .inl rfl
    · exact .inl rfl
    · exact .inr (hserver c hc)
    · exact hpath c hc
  -- nothing is trimmed, and neither a query nor a fragment is cut off
  have hlarge : ∀ c ∈ s.toList, 32 < c.toNat := by
    have hscheme :
        ∀ secure, (schemeText secure ++ [':']).all (fun c => 32 < c.toNat) = true := by
      decide
    rw [hs, List.append_cons]
    intro c hc
    rcases List.mem_append.1 hc with hc | hc
    · exact of_decide_eq_true (List.all_eq_true.1 (hscheme secure) c hc)
    · rcases hrest c hc with rfl | hplain
      · decide
      · exact hplain.1
  have hmark : ∀ mark : Char, (mark = '?' ∨ mark = '#') →
      mark ∉ '/' :: '/' :: (server ++ path) := by
    intro mark hmark hmem
    rcases hrest mark hmem with rfl | ⟨-, -, -, hquery, hfragment⟩
    · simp at hmark
    · exact hmark.elim hquery hfragment
  rw [parse?, clean_eq_self hlarge, hs, scheme?_append] at hparse
  simp only [Option.bind_eq_bind, Option.bind_some, cut_of_notMem (hmark '#' (.inr rfl)),
    cut_of_notMem (hmark '?' (.inl rfl)), dropWhile_slashes hserver hne,
    dropWhile_server hserver hslash] at hparse
  -- whatever the host is read as, the path is not changed
  obtain ⟨⟨host, number⟩, -, hu⟩ := Option.bind_eq_some_iff.1 hparse
  cases hu
  exact ⟨rfl, rfl⟩

/-- Behind the plain name of a server, a request names the path with its segments
escaped. -/
theorem target_of_parse? {secure : Bool} {server : List Char}
    (hserver : ∀ c ∈ server, IsPlain c) (hne : server ≠ []) {segments : List (List Char)}
    (h : ∀ s ∈ segments, IsSegment s) (hsegments : segments ≠ []) {s : String}
    (hs : s.toList = schemeText secure ++ ':' :: '/' :: '/' ::
      (server ++ segments.flatMap ('/' :: ·))) {u : Url} (hparse : parse? s = some u) :
    u.target = segments.flatMap fun s => '/' :: Percent.encode isPathReserved s := by
  have hpath : ∀ c ∈ segments.flatMap ('/' :: ·), c = '/' ∨ IsPlain c := by
    intro c hc
    obtain ⟨segment, hsegment, hc⟩ := List.mem_flatMap.1 hc
    rcases List.mem_cons.1 hc with hc | hc
    · exact .inl hc
    · exact .inr ((h segment hsegment).plain c hc)
  have hslash : (segments.flatMap ('/' :: ·)).head? = some '/' := by
    obtain ⟨first, others, rfl⟩ := List.exists_cons_of_ne_nil hsegments
    rfl
  obtain ⟨hu, hquery⟩ := path_of_parse? hserver hne hpath hslash hs hparse
  rw [target, hu, hquery, normalPath_segments h hsegments, List.append_nil]

end Recommend.Http.Url
