import PathRouting.Proofs.Path.SubPath
import PathRouting.Proofs.Pattern.Match
import PathRouting.Proofs.Search.Cut

/-!
# The start of a path as a path

What a pattern matches at the start of a path it matches as a path of its own, and records the
same.  Only the empty path is refused by a pattern of `**` and separators, though such a pattern
may take nothing from a path.

## Main results

* `matchStart?_eq_some`, `exists_matchStart?_iff` — matching the start of a path is a question to
  the plain search.
* `match?_matched` — the matched start of a path, matched as a whole.
* `isMatch_coherent` — what matches records something, and can be matched in part.
-/

namespace PathRouting

variable {o : PatternOptions} {text : List Char} {p : Pattern} {path : Path} {r : StartMatch}

/-! ### Questions to the search -/

/-- Matching the start of a path is a question to the plain search, but for the empty path. -/
theorem matchStart?_eq_some (h : Pattern.parse o text = .ok p) (hne : p.elements ≠ []) :
    p.matchStart? path = some r ↔ path.elements ≠ [] ∧ ∃ bs stop,
      search (p.query path true true) p.elements 0 false = some ⟨bs, some stop⟩ ∧
      path.subPath 0 stop = .ok r.matched ∧ path.subPathFrom stop = .ok r.remaining ∧
      r.info = .ofBindings bs := by
  rw [Pattern.matchStart?, if_neg (by simpa using hne), run_of_parse h,
    Option.ite_none_left_eq_some]
  simp only [Path.isEmpty, List.isEmpty_iff, Option.bind_eq_bind, Option.bind_eq_some_iff,
    toOption_eq_some, Option.pure_def, Option.some.injEq]
  refine and_congr_right fun _ => ?_
  constructor
  · -- the search always tells where the rest starts
    rintro ⟨⟨bs, restIndex⟩, ho, matched, hmatched, remaining, hremaining, rfl⟩
    obtain ⟨stop, rfl, -⟩ :=
      restAt_of_search rfl (adjoining_of_parse h) (Nat.zero_le _) ho
    exact ⟨bs, stop, ho, hmatched, hremaining, rfl⟩
  · rintro ⟨bs, stop, ho, hmatched, hremaining, hinfo⟩
    exact ⟨⟨bs, some stop⟩, ho, r.matched, hmatched, r.remaining, hremaining, by rw [← hinfo]⟩

/-- The start of a path matches when the search for it succeeds. -/
theorem exists_matchStart?_iff (h : Pattern.parse o text = .ok p) (hne : p.elements ≠ [])
    (hpath : path.elements ≠ []) : (∃ r, p.matchStart? path = some r) ↔
      (search (p.query path true true) p.elements 0 false).isSome = true := by
  constructor
  · rintro ⟨r, hr⟩
    obtain ⟨-, bs, stop, ho, -⟩ := (matchStart?_eq_some h hne).mp hr
    rw [ho, Option.isSome_some]
  · intro hsome
    obtain ⟨⟨bs, restIndex⟩, ho⟩ := Option.isSome_iff_exists.mp hsome
    obtain ⟨stop, rfl, hrest⟩ := restAt_of_search rfl (adjoining_of_parse h) (Nat.zero_le _) ho
    have hle : stop ≤ path.length := by simpa using hrest.le
    obtain ⟨matched, hmatched⟩ := Path.exists_subPath (Nat.zero_le stop) hle
    obtain ⟨remaining, hremaining⟩ := Path.exists_subPath hle (Nat.le_refl path.length)
    exact ⟨⟨matched, remaining, .ofBindings bs⟩, (matchStart?_eq_some h hne).mpr
      ⟨hpath, bs, stop, ho, hmatched, hremaining, rfl⟩⟩

/-- What is asked about a path up to an index is what is asked about the part up to there. -/
theorem query_upTo {stop : Nat} {part : Path} (h : part.elements = path.elements.take stop)
    (extract : Bool) :
    (p.query path extract true).upTo stop = p.query part extract false := by
  simp [Query.upTo, Pattern.query, h]

/-! ### The matched start as a path -/

/-- A pattern of `**` and separators does not match the empty path. -/
theorem canMatchEmpty_of_kinds {n : Nat} (hne : p.elements ≠ [])
    (h : p.kinds = (List.replicate n [.segments, .separator]).flatten) :
    p.canMatchEmpty = false := by
  cases n with
  | zero => simp [Pattern.kinds, hne] at h
  | succ n => simp [Pattern.canMatchEmpty, h, List.replicate_succ, ElementKind.isCatchAll]

/-- **The matched start of a path matches as a whole and records the same**, unless the pattern has
elements and has taken nothing, which only `**` and separators do: then the pattern does not match
what it has taken. -/
theorem match?_matched (h : Pattern.parse o text = .ok p) (hr : p.matchStart? path = some r) :
    p.match? r.matched
        = (if r.matched.isEmpty && !p.elements.isEmpty then none else some r.info) ∧
      (r.matched.isEmpty = true →
        ∃ n, p.kinds = (List.replicate n [.segments, .separator]).flatten) := by
  by_cases hne : p.elements = []
  -- without elements the search is not asked
  · simp only [Pattern.matchStart?, hne, List.isEmpty_nil, if_true, Option.some.injEq] at hr
    subst hr
    refine ⟨?_, fun _ => ⟨0, by simp [Pattern.kinds, hne]⟩⟩
    simp [Pattern.match?, Pattern.matchWith, hne, Path.isEmpty]
  obtain ⟨hpath, bs, stop, ho, hmatched, -, hinfo⟩ := (matchStart?_eq_some h hne).mp hr
  obtain ⟨-, hle, helements, -⟩ := Path.subPath_ok hmatched
  rw [List.drop_zero] at helements
  have hlength : 0 < path.length := List.length_pos_iff.mpr hpath
  have hempty : r.matched.isEmpty = true ↔ stop = 0 := by
    rw [Path.isEmpty, helements, List.isEmpty_iff, List.take_eq_nil_iff]
    exact or_iff_left hpath
  have hkinds : r.matched.isEmpty = true →
      ∃ n, p.kinds = (List.replicate n [.segments, .separator]).flatten := fun hzero =>
    kinds_of_search_zero rfl (by simpa using hlength) (adjoining_of_parse h) ho
      (by rw [hempty.mp hzero])
  refine ⟨?_, hkinds⟩
  rw [Pattern.match?, matchWith_eq h hne]
  rcases Nat.eq_zero_or_pos stop with hzero | hpos
  -- nothing was taken: the empty path does not reach the search
  · obtain ⟨n, hn⟩ := hkinds (hempty.mpr hzero)
    simp [hempty.mpr hzero, canMatchEmpty_of_kinds hne hn, hne]
  · have hfalse : r.matched.isEmpty = false := by
      rw [← Bool.not_eq_true, hempty]
      omega
    have hwhole := search_upTo rfl hpos (adjoining_of_parse h) (Nat.zero_le _) (.zero _) ho
    rw [query_upTo helements] at hwhole
    simp [hfalse, hwhole, hinfo]

/-- The start of `/x/y` that `/{a}` matches. -/
theorem match?_matched_capture : ∃ p path r,
    Pattern.parse .default ['/', '{', 'a', '}'] = .ok p ∧
    Path.parse ['/', 'x', '/', 'y'] .http = .ok path ∧ p.matchStart? path = some r ∧
    r.matched.text = ['/', 'x'] ∧ p.match? r.matched = some r.info := by
  let p : Pattern :=
    ⟨['/', '{', 'a', '}'], .default, [⟨0, .separator⟩, ⟨1, .capture ['a'] none⟩]⟩
  let path : Path := .whole ['/', 'x', '/', 'y'] [.separator 0 '/', .segment ⟨1, ['x'], ['x'], []⟩,
    .separator 2 '/', .segment ⟨3, ['y'], ['y'], []⟩] .http
  let r : StartMatch := ⟨path.cut 0 2, path.cut 2 4, ⟨[(['a'], ['x'])], []⟩⟩
  have hp : Pattern.parse .default ['/', '{', 'a', '}'] = .ok p := rfl
  have hr : p.matchStart? path = some r := rfl
  exact ⟨p, path, r, hp, rfl, hr, rfl, (match?_matched hp hr).1⟩

/-- `**/` takes nothing of `/a`, but does not match the empty path. -/
theorem match?_matched_segmentsSeparator : ∃ p path r,
    Pattern.parse .default ['*', '*', '/'] = .ok p ∧
    Path.parse ['/', 'a'] .http = .ok path ∧ p.matchStart? path = some r ∧
    r.matched.text = [] ∧ p.match? r.matched = none := by
  let p : Pattern := ⟨['*', '*', '/'], .default, [⟨0, .segments⟩, ⟨2, .separator⟩]⟩
  let path : Path := .whole ['/', 'a'] [.separator 0 '/', .segment ⟨1, ['a'], ['a'], []⟩] .http
  let r : StartMatch := ⟨.empty .http 1, path, .empty⟩
  have hp : Pattern.parse .default ['*', '*', '/'] = .ok p := rfl
  have hr : p.matchStart? path = some r :=
    (matchStart?_eq_some hp (List.cons_ne_nil _ _)).mpr
      ⟨List.cons_ne_nil _ _, [], 0, rfl, rfl, rfl, rfl⟩
  exact ⟨p, path, r, hp, rfl, hr, rfl, rfl⟩

/-! ### The three questions together -/

/-- A path that is matched as a whole can be matched in part. -/
theorem exists_matchStart?_of_isMatch (h : Pattern.parse o text = .ok p)
    (hpath : path.elements ≠ []) (hmatch : p.isMatch path = true) :
    ∃ r, p.matchStart? path = some r := by
  by_cases hne : p.elements = []
  · exact ⟨_, by rw [Pattern.matchStart?, hne, List.isEmpty_nil, if_pos rfl]⟩
  have hpos : 0 < path.length := List.length_pos_iff.mpr hpath
  rw [isMatch_eq_search h hne hpath true] at hmatch
  obtain ⟨out, hout⟩ := Option.isSome_iff_exists.mp hmatch
  -- the whole path is its own start, cut off after its last element
  have hcut : (p.query path true true).upTo path.length = p.query path true false :=
    query_upTo (by rw [Path.length, List.take_length]) true
  have hend : (p.query path true true).EndsAt p.elements path.length :=
    ⟨by simp, .inl (by simp), fun _ _ _ => .inl (by simp)⟩
  rw [← hcut] at hout
  obtain ⟨out', hout'⟩ :=
    search_of_upTo rfl hpos (adjoining_of_parse h) hend (Nat.zero_le _) (.zero _) hout
  rw [exists_matchStart?_iff h hne hpath, hout', Option.isSome_some]

/-- **The three questions agree.**  A path matches when there is something that it records, if
only nothing, and a path that matches and has elements has a start that matches. -/
theorem isMatch_coherent (h : Pattern.parse o text = .ok p) (path : Path) :
    (p.isMatch path = true ↔ ∃ info, p.match? path = some info) ∧
      (path.elements ≠ [] → p.isMatch path = true → ∃ r, p.matchStart? path = some r) := by
  refine ⟨?_, fun hpath hmatch => exists_matchStart?_of_isMatch h hpath hmatch⟩
  rw [isMatch_eq h, Option.isSome_iff_exists]

/-- `/a/**` and the path `/a`. -/
theorem isMatch_coherent_rest : ∃ p path,
    Pattern.parse .default ['/', 'a', '/', '*', '*'] = .ok p ∧
    Path.parse ['/', 'a'] .http = .ok path ∧ p.isMatch path = true ∧
    (∃ info, p.match? path = some info) ∧ ∃ r, p.matchStart? path = some r := by
  let p : Pattern := ⟨['/', 'a', '/', '*', '*'], .default,
    [⟨0, .separator⟩, ⟨1, .literal ['a'] true⟩, ⟨2, .rest '/'⟩]⟩
  let path : Path := .whole ['/', 'a'] [.separator 0 '/', .segment ⟨1, ['a'], ['a'], []⟩] .http
  have hp : Pattern.parse .default ['/', 'a', '/', '*', '*'] = .ok p := rfl
  have hmatch : p.isMatch path = true := rfl
  obtain ⟨hiff, hstart⟩ := isMatch_coherent hp path
  exact ⟨p, path, hp, rfl, hmatch, hiff.mp hmatch, hstart (List.cons_ne_nil _ _) hmatch⟩

end PathRouting
