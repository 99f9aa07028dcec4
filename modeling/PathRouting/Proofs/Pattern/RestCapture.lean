import PathRouting.Proofs.Config
import PathRouting.Proofs.Path.Merge
import PathRouting.Proofs.Pattern.Append
import PathRouting.Proofs.Pattern.Join

/-!
# The start of a path and a capture of the rest

Matching the start of a path leaves a rest, which is empty or starts with the separator.  This is
what the separator and a capture of the rest match, so a pattern with these two put after it matches
the paths whose start the pattern itself matches, and records the rest besides.

## Main definitions

* `Query.whole` — the same question about the whole path.
* `Outcome.withRest` — a way to match with the rest recorded.

## Main results

* `search_captureRest` — a capture of the rest goes on where the search for the start ends.
* `parse_captureRest` — a pattern with a capture of the rest put after it.
* `match?_captureRest` — matching with it.
-/

namespace PathRouting

/-! ### The search -/

section Search

variable {q : Query}

/-- The same question about the whole path instead of the start of it. -/
def Query.whole (q : Query) : Query := { q with ofStart := false }

/-- The way to match the whole path, the rest recorded under a name. -/
def Outcome.withRest (q : Query) (name : List Char) (o : Outcome) : Outcome :=
  ⟨o.bindings ++ q.recorded [q.restBinding name (o.restIndex.getD q.length)], none⟩

theorem withRest_prepend (name : List Char) (bs : List Binding) (o : Outcome) :
    (o.prepend bs).withRest q name = (o.withRest q name).prepend bs := by
  simp [Outcome.withRest, Outcome.prepend]

theorem take?_whole (s : Segment) (k : ElementKind) : q.whole.take? s k = q.take? s k := by
  cases k <;> rfl

/-- A capture of the rest matches where the start of the path may end. -/
theorem search_captureRest_nil (hq : q.ofStart = true) {e : PatternElement} {name : List Char}
    {separator : Option Char} (he : e.kind = .captureRest name separator) (index : Nat)
    (afterSegment : Bool) : search q.whole [e] index afterSegment
      = (q.finish index afterSegment).map (·.withRest q name) := by
  have hcatchAll : e.kind.isCatchAll = true := by rw [he]; rfl
  rw [search_catchAll hcatchAll, he, Query.finish, if_pos hq]
  show (if index < q.length && !q.isSeparator index then _ else _) = _
  split <;> rfl

/-- **A capture of the rest goes on where the search for the start of the path ends.**  No element
before it takes all that is left, and the last one is no `*`, which would match an empty segment at
the end only. -/
theorem search_captureRest (hq : q.ofStart = true) {e : PatternElement} {name : List Char}
    {separator : Option Char} (he : e.kind = .captureRest name separator)
    {es : List PatternElement} (hes : ∀ e ∈ es, e.kind.isCatchAll = false)
    (hlast : ∀ e ∈ es.getLast?, e.kind ≠ .wildcard) {index : Nat} (hindex : index ≤ q.length)
    (afterSegment : Bool) : search q.whole (es ++ [e]) index afterSegment
      = (search q es index afterSegment).map (·.withRest q name) := by
  induction es using search_induction generalizing index afterSegment with
  | nil => rw [List.nil_append, search_nil, search_captureRest_nil hq he]
  | separator e' after hkind ih =>
    obtain ⟨-, hafter⟩ := List.forall_mem_cons.mp hes
    rw [List.cons_append, search_separator hkind, search_separator hkind]
    show (if q.isSeparator index then _ else _) = _
    split
    · next hsep => exact ih hafter (forall_getLast?_of_cons hlast) (Query.lt_of_isSeparator hsep) false
    · rfl
  | wildcard e' after hkind ih =>
    obtain ⟨-, hafter⟩ := List.forall_mem_cons.mp hes
    have hne : after ≠ [] := by
      rintro rfl
      exact hlast e' rfl hkind
    have hempty : after.isEmpty = false ∧ (after ++ [e]).isEmpty = false := by simp [hne]
    have hsegment : q.whole.segment? index = q.segment? index := rfl
    rw [List.cons_append, search_wildcard hkind, search_wildcard hkind, hsegment, hempty.1,
      hempty.2]
    rcases hs : q.segment? index with _ | s
    · simp
    · dsimp only
      split
      · rfl
      · exact ih hafter (forall_getLast?_of_cons hlast) (Query.lt_of_segment? hs) true
  | lastSegments e' hkind =>
    -- the first place to restart at is the end of the path, where nothing is left to record
    obtain ⟨rest, hrestarts⟩ := exists_restarts_cons (q := q.whole) hindex e
    have hend : attempt q.whole e [] (.atIndex q.whole.length)
        = (q.finish q.length false).map (·.withRest q name) := search_captureRest_nil hq he _ _
    have hfinish : q.finish q.length false = some ⟨[], some q.length⟩ :=
      (Query.finish_ofStart hq).mpr ⟨fun hlt => absurd hlt (Nat.lt_irrefl _), rfl⟩
    rw [search_lastSegments hkind, List.singleton_append, search_segments hkind, hrestarts,
      List.findSome?_cons, hend, hfinish]
    rfl
  | segments e' next later hkind ihnext ihlater =>
    obtain ⟨-, hnext⟩ := List.forall_mem_cons.mp hes
    obtain ⟨-, hlater⟩ := List.forall_mem_cons.mp hnext
    have hrestarts : restarts q.whole index next = restarts q index next := rfl
    rw [List.cons_append, List.cons_append, search_segments hkind, search_segments hkind,
      hrestarts, List.map_findSome?]
    refine findSome?_congr fun r hr => ?_
    rcases mem_restarts.mp hr with ⟨i, -, hle, rfl⟩ | ⟨-, hsep, rfl⟩ | ⟨-, -, rfl⟩
    · exact ihnext hnext (forall_getLast?_of_cons hlast) hle false
    · exact ihnext hnext (forall_getLast?_of_cons hlast) (Nat.le_of_lt (Query.lt_of_isSeparator hsep)) false
    · exact ihlater hlater (forall_getLast?_of_cons (forall_getLast?_of_cons hlast)) (Nat.zero_le _) false
  | catchAll e' after hkind =>
    have hnot := hes e' List.mem_cons_self
    simp [hkind] at hnot
  | takes e' after hkind ih =>
    obtain ⟨-, hafter⟩ := List.forall_mem_cons.mp hes
    have hsegment : q.whole.segment? index = q.segment? index := rfl
    simp only [List.cons_append, search_takes hkind, hsegment, take?_whole]
    rcases hs : q.segment? index with _ | s
    · rfl
    · simp only [Option.bind_some]
      rcases q.take? s e'.kind with _ | bs
      · rfl
      · simp only [Option.bind_some, ih hafter (forall_getLast?_of_cons hlast) (Query.lt_of_segment? hs) true,
          Option.map_map]
        congr 1
        funext o
        exact (withRest_prepend name bs o).symm

end Search

/-! ### The text -/

/-- The text of a capture of the rest. -/
def restCapture (name : List Char) : List Char := '{' :: '*' :: name ++ ['}']

section Text

variable {o : PatternOptions} {text name : List Char} {p : Pattern}

/-- After the brace that opens a capture only braces and colons have a meaning. -/
theorem step_capture {c : Char} (h : c ≠ '{' ∧ c ≠ '}' ∧ c ≠ ':') :
    Braces.step ⟨1, false, false⟩ c = .ok ⟨1, false, false⟩ := by
  simp [Braces.step, h]

/-- A capture is not cut. -/
theorem contentsFrom_capture (separator : Char) {s : List Char}
    (hs : ∀ c ∈ s, c ≠ '{' ∧ c ≠ '}' ∧ c ≠ ':') :
    contentsFrom separator ⟨1, false, false⟩ (s ++ ['}']) = some [some (s ++ ['}'])] := by
  induction s with
  | nil => rfl
  | cons c s ih =>
    obtain ⟨hc, hs⟩ := List.forall_mem_cons.mp hs
    rw [List.cons_append, contentsFrom, step_capture hc]
    simp only [toOption_ok, Option.bind_some, ih hs]
    rfl

theorem IsName.ne_brace (h : IsName name) : ∀ c ∈ name, c ≠ '{' ∧ c ≠ '}' ∧ c ≠ ':' := by
  intro c hc
  have hchar := h.chars c hc
  refine ⟨?_, ?_, ?_⟩ <;> rintro rfl <;> exact absurd hchar (by decide)

theorem IsName.ne_brace_star (h : IsName name) :
    ∀ c ∈ '*' :: name, c ≠ '{' ∧ c ≠ '}' ∧ c ≠ ':' :=
  List.forall_mem_cons.mpr ⟨by decide, h.ne_brace⟩

/-- A capture of the rest is one token. -/
theorem contentsFrom_restCapture (hname : IsName name) (separator : Char) :
    contentsFrom separator .outside (restCapture name) = some [some (restCapture name)] := by
  rw [restCapture, List.cons_append, contentsFrom, Braces.step_outside_open]
  simp only [toOption_ok, Option.bind_some, contentsFrom_capture separator hname.ne_brace_star]
  simp [Braces.cutsAt, consContent]

theorem readRestName_restCapture (hname : IsName name) (position : Nat) :
    readRestName position 0 (restCapture name) = .ok name := by
  have hclose : '}' ∉ name := hname.notMem (by decide)
  have hlast : (restCapture name).getLast? = some '}' := List.getLast?_concat ..
  have hcount : (restCapture name).count '}' = 1 := by
    simp [restCapture, List.count_eq_zero.mpr hclose]
  have hinner : ((restCapture name).drop 2).dropLast = name := by simp [restCapture]
  rw [readRestName, if_neg (by simp [hlast, hcount]), hinner, bind_eq_ok]
  exact ⟨(), checkName_ok.mpr hname, rfl⟩

namespace Outline

variable {l : Outline}

/-- A capture of the rest takes in the separator before it. -/
theorem placeAll_restCapture (hopen : l.isClosed = false) (hname : IsName name)
    (hfresh : name ∉ l.names) : l.placeAll o [none, some (restCapture name)]
      = some ⟨.captureRest name (some o.separator) :: l.kinds, name :: l.names⟩ := by
  have hseparator : l.place o false none = some (l.push .separator) := by
    rw [place, hopen]
    rfl
  have hcapture : (l.push .separator).place o true (some (restCapture name))
      = some ⟨.captureRest name (some o.separator) :: l.kinds, name :: l.names⟩ := by
    have hnames : addName (l.push .separator).names 0 name = .ok (name :: l.names) :=
      addName_ok.mpr ⟨hfresh, rfl⟩
    rw [place]
    show (readRestName 0 0 (restCapture name)).toOption.bind _ = _
    rw [readRestName_restCapture hname, toOption_ok, Option.bind_some, hnames]
    rfl
  show (l.place o false none).bind _ = _
  rw [hseparator]
  show ((l.push .separator).place o true _).bind _ = _
  rw [hcapture]
  rfl

end Outline

/-- **A pattern with a capture of the rest put after it** is a pattern, if it does not take the rest
itself and does not have the name. -/
theorem parse_captureRest (ho : o.validate = .ok o) (h : Pattern.parse o text = .ok p)
    (hlast : ∀ k ∈ p.kinds.getLast?, k.isCatchAll = false) (hname : IsName name)
    (hfresh : name ∉ p.names) :
    ∃ c, Pattern.parse o (text ++ o.separator :: restCapture name) = .ok c ∧
      c.kinds = p.kinds ++ [.captureRest name (some o.separator)] := by
  obtain ⟨hopen, hclose, -⟩ := separator_ne ho
  obtain ⟨cs, hcs, hplace⟩ := Option.bind_eq_some_iff.mp (read_of_parse h)
  have hcontents : contentsFrom o.separator .outside (text ++ o.separator :: restCapture name)
      = some (cs ++ [none, some (restCapture name)]) := by
    rw [contentsFrom_append hopen hclose settled_outside hcs, contentsFrom_separator hopen hclose,
      contentsFrom_restCapture hname]
    rfl
  have hhead : ∀ k ∈ p.kinds.reverse.head?, k.isCatchAll = false := by
    rw [List.head?_reverse]
    exact hlast
  have hrest : ∀ s, p.kinds.reverse.head? ≠ some (.rest s) := by
    intro s heq
    simpa [ElementKind.isCatchAll] using hhead _ heq
  have hread : Outline.read o (text ++ o.separator :: restCapture name)
      = some ⟨.captureRest name (some o.separator) :: p.kinds.reverse,
          name :: p.names.reverse⟩ := by
    rw [Outline.read, hcontents, Option.bind_some, Outline.placeAll_append_of_head hplace hrest]
    exact Outline.placeAll_restCapture (Outline.isClosed_of_head hhead) hname
      (by simpa using hfresh)
  obtain ⟨c, hc, hkinds, -⟩ := parse_of_read hread
  exact ⟨c, hc, by simpa using hkinds⟩

end Text

/-! ### Patterns -/

section Patterns

variable {o : PatternOptions} {text text' name : List Char} {p c : Pattern}

/-- The search for a pattern with a capture of the rest is the search for the start of a path. -/
theorem search_of_kinds (h : Pattern.parse o text = .ok p) (hc : Pattern.parse o text' = .ok c)
    (hkinds : c.kinds = p.kinds ++ [.captureRest name (some o.separator)])
    (hlast : ∀ k ∈ p.kinds.getLast?, k ≠ .wildcard ∧ k.isCatchAll = false) (path : Path) :
    search (c.query path true false) c.elements 0 false
      = (search (p.query path true true) p.elements 0 false).map
          (·.withRest (p.query path true true) name) := by
  have hquery : c.query path true false = (p.query path true true).whole := by
    simp [Pattern.query, Query.whole, (text_of_parse h).2, (text_of_parse hc).2]
  obtain ⟨last, hlastKind⟩ : ∃ e : PatternElement, e.kind = .captureRest name (some o.separator) :=
    ⟨⟨0, _⟩, rfl⟩
  have helements : c.elements.map (·.kind) = (p.elements ++ [last]).map (·.kind) := by
    rw [List.map_append, List.map_singleton, hlastKind]
    exact hkinds
  have hend : ∀ e ∈ p.elements.getLast?, e.kind ≠ .wildcard ∧ e.kind.isCatchAll = false := by
    intro e he
    refine hlast e.kind ?_
    rw [Pattern.kinds, List.getLast?_map, Option.mem_def.mp he]
    rfl
  have hall : ∀ e ∈ p.elements, e.kind.isCatchAll = false := by
    intro e he
    have hne := List.ne_nil_of_mem he
    rw [← List.dropLast_concat_getLast hne, List.mem_append, List.mem_singleton] at he
    rcases he with he | rfl
    · exact isCatchAll_dropLast_of_parse h e he
    · exact (hend _ (List.getLast?_eq_some_getLast hne)).2
  rw [hquery, search_congr helements]
  exact search_captureRest rfl hlastKind hall (fun e he => (hend e he).1) (Nat.zero_le _) false

/-- **Matching the start of a path is matching with a capture of the rest.**  A pattern that is not
empty and ends with neither `*` nor an element that takes the rest has one put after it, together
with the separator.  The longer pattern matches a path when the pattern itself matches the start of
it.  It records what the pattern does, and besides the values of all elements of the rest, put
together, and their matrix variables, where there are some. -/
theorem match?_captureRest (ho : o.validate = .ok o) (h : Pattern.parse o text = .ok p)
    (hne : text ≠ []) (hlast : ∀ k ∈ p.kinds.getLast?, k ≠ .wildcard ∧ k.isCatchAll = false)
    (hname : IsName name) (hfresh : name ∉ p.names) :
    ∃ c, Pattern.parse o (text ++ o.separator :: '{' :: '*' :: name ++ ['}']) = .ok c ∧
      ∀ path : Path, path.elements ≠ [] →
        ((∃ r, p.matchStart? path = some r) ↔ c.isMatch path = true) ∧
        ∀ r, p.matchStart? path = some r →
          ∃ m, Matrix.Gathers (r.remaining.elements.flatMap PathElement.matrix) m ∧
            c.match? path = some
              ⟨r.info.values ++ [(name, r.remaining.elements.flatMap PathElement.value)],
                r.info.matrices ++ if r.remaining.elements.flatMap PathElement.matrix = [] then []
                  else [(name, m)]⟩ := by
  obtain ⟨c, hc, hkinds⟩ := parse_captureRest ho h (fun k hk => (hlast k hk).2) hname hfresh
  refine ⟨c, by simpa [restCapture] using hc, fun path hpath => ?_⟩
  have hpne := elements_ne_nil_of_parse h hne
  have hcne : c.elements ≠ [] := elements_ne_nil_of_parse hc (by simp)
  have hsearch := search_of_kinds h hc hkinds hlast path
  have hmatch : c.match? path = (search (c.query path true false) c.elements 0 false).map
      fun out => .ofBindings out.bindings := by
    rw [Pattern.match?, matchWith_eq hc hcne]
    simp [Path.isEmpty, hpath]
  constructor
  · rw [exists_matchStart?_iff h hpne hpath, isMatch_eq hc, hmatch, hsearch, Option.isSome_map,
      Option.isSome_map]
  · intro r hr
    obtain ⟨-, bs, stop, hstart, -, hremaining, hinfo⟩ := (matchStart?_eq_some h hpne).mp hr
    obtain ⟨-, -, helements, -⟩ := Path.subPath_ok hremaining
    have hleft : r.remaining.elements = path.elements.drop stop := by
      simpa [Path.length, List.take_of_length_le] using helements
    have hbinding : (p.query path true true).restBinding name stop
        = ⟨name, r.remaining.elements.flatMap PathElement.value,
            Matrix.merge [] (r.remaining.elements.flatMap PathElement.matrix)⟩ := by
      rw [hleft, List.flatMap_def (f := PathElement.matrix), ← Matrix.foldl_merge]
      rfl
    have hbindings : Outcome.withRest (p.query path true true) name ⟨bs, some stop⟩
        = ⟨bs ++ [⟨name, r.remaining.elements.flatMap PathElement.value,
            Matrix.merge [] (r.remaining.elements.flatMap PathElement.matrix)⟩], none⟩ := by
      rw [← hbinding]
      rfl
    rw [hstart, Option.map_some, hbindings] at hsearch
    refine ⟨_, Matrix.gathers_merge _, ?_⟩
    rw [hmatch, hsearch, Option.map_some, union_ofBindings (nodup_of_search hc hsearch),
      ofBindings_singleton, hinfo]
    simp only [(Matrix.gathers_merge _).eq_nil_iff]
    rfl

/-- A rest with the same variable in two segments, after a `**`. -/
theorem match?_captureRest_segments : ∃ c path m,
    Pattern.parse .default "/{a}/**/b/{*r}".toList = .ok c ∧
    Path.parse "/x/y/b/z;k=1/w;k=2".toList .http = .ok path ∧
    c.match? path = some ⟨[(['a'], ['x']), (['r'], "/z/w".toList)], [(['r'], m)]⟩ ∧
    m.values? ['k'] = some [['1'], ['2']] := by
  let p : Pattern := ⟨"/{a}/**/b".toList, .default, [⟨0, .separator⟩, ⟨1, .capture ['a'] none⟩,
    ⟨4, .separator⟩, ⟨5, .segments⟩, ⟨7, .separator⟩, ⟨8, .literal ['b'] true⟩]⟩
  let path : Path := .whole "/x/y/b/z;k=1/w;k=2".toList [.separator 0 '/',
    .segment ⟨1, ['x'], ['x'], []⟩, .separator 2 '/', .segment ⟨3, ['y'], ['y'], []⟩,
    .separator 4 '/', .segment ⟨5, ['b'], ['b'], []⟩, .separator 6 '/',
    .segment ⟨7, "z;k=1".toList, ['z'], [(['k'], [['1']])]⟩, .separator 12 '/',
    .segment ⟨13, "w;k=2".toList, ['w'], [(['k'], [['2']])]⟩] .http
  let r : StartMatch := ⟨path.cut 0 6, path.cut 6 10, ⟨[(['a'], ['x'])], []⟩⟩
  have hp : Pattern.parse .default "/{a}/**/b".toList = .ok p := rfl
  have hread : PathElement.readAll .http "/x/y/b/z;k=1/w;k=2".toList = .ok path.elements := by
    decide +kernel
  have hsearch : search (p.query path true true) p.elements 0 false
      = some ⟨[⟨['a'], ['x'], []⟩], some 6⟩ := by decide +kernel
  have hr : p.matchStart? path = some r :=
    (matchStart?_eq_some hp (List.cons_ne_nil _ _)).mpr
      ⟨List.cons_ne_nil _ _, _, _, hsearch, rfl, rfl, rfl⟩
  have hlast : ∀ k ∈ p.kinds.getLast?, k ≠ .wildcard ∧ k.isCatchAll = false := by
    intro k hk
    obtain rfl : .literal ['b'] true = k := Option.some.inj hk
    exact ⟨by simp, rfl⟩
  have hname : IsName ['r'] := ⟨by decide, by simp⟩
  obtain ⟨c, hc, hpaths⟩ := match?_captureRest rfl hp (List.cons_ne_nil _ _) hlast hname (by decide)
  obtain ⟨-, hmatch⟩ := hpaths path (List.cons_ne_nil _ _)
  obtain ⟨m, hm, hinfo⟩ := hmatch r hr
  have hentries : r.remaining.elements.flatMap PathElement.matrix
      = [(['k'], [['1']]), (['k'], [['2']])] := by decide
  have hvalue : r.remaining.elements.flatMap PathElement.value = "/z/w".toList := by decide
  rw [hentries] at hm hinfo
  rw [if_neg (List.cons_ne_nil _ _), hvalue] at hinfo
  refine ⟨c, path, m, hc, map_eq_ok.mpr ⟨_, hread, rfl⟩, hinfo, ?_⟩
  rw [hm.values]
  decide

end Patterns

end PathRouting
